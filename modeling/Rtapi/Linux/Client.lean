import Rtapi.Linux.Independence
import Rtapi.Linux.Slots

/-!
# Live workers of a client that starts only configured tasks

`rtapi_task_start` does not check that its slot is configured: started twice, a slot has two live
workers and stores only the second (`rtapiTaskStart_on_running_slot`). A client that calls it only
on configured slots never gets there. Along its runs every live worker, an unjoined thread that
has not ended, is the worker of a valid slot that stores its identifier and has `deleted` clear
(`LiveBound`). So two different live workers are bound to different slots, which is the
precondition of the interleaving theorem `runOps_interleave`.

* `Op.startsConfigured`: the client's rule; `ClientReachable`: the states such a client reaches
  from load time.
* `LiveBound.step`: every step the rule allows keeps `LiveBound`, in a state where the unjoined
  threads have distinct identifiers (`ThreadsInv`).
* `ClientReachable.live_workers`: in every state the client reaches, every live worker is bound to
  its slot, and any two live workers are apart.
-/

namespace Rtapi.Linux

/-- The client's rule: `rtapi_task_start` only on a configured slot. -/
def Op.startsConfigured (s : Sys) : Op → Bool
  | .taskStart id _ _ => match checkTask s id with
    | none => true
    | some i => s.lifecycle i == .configured
  | _ => true

/-- A step of a client that follows the rule. -/
def Op.clientStep (os : Os) (s : Sys) (o : Op) : Option (List Event × Sys) :=
  if o.startsConfigured s then Op.step os s o else none

/-- The states a client that starts only configured slots reaches from load time. -/
def ClientReachable (os : Os) (s : Sys) : Prop :=
  ∃ ops l, runSteps (Op.clientStep os) Sys.init ops = some (l, s)

/-- The state the client's operations `ops` reach from load time (`Sys.init` if one is
refused). -/
def clientStateAfter (os : Os) (ops : List Op) : Sys :=
  ((runSteps (Op.clientStep os) Sys.init ops).map Prod.snd).getD Sys.init

/-- The fields of a slot that bind a live worker to it: the magic, the handle and `deleted`. -/
def TaskData.bindKey (t : TaskData) : Int × Nat × Int := (t.magic, t.thread, t.deleted)

/-- Every live worker is the worker of a valid slot that stores its identifier, has `deleted`
clear and has had a worker since its reservation. -/
def LiveBound (s : Sys) : Prop :=
  ∀ th ∈ s.threads, th.pc ≠ .exited →
    (s.task th.slot).bindKey = (taskMagic, th.tid, 0) ∧ (s.spawn th.slot).count ≠ 0

section Live

variable {os : Os} {s s' : Sys} {th : Thread}

theorem liveBound_init : LiveBound Sys.init := fun _ h => absurd h (List.not_mem_nil _)

theorem LiveBound.valid (h : LiveBound s) (hth : th ∈ s.threads) (hpc : th.pc ≠ .exited) :
    s.Valid th.slot :=
  congrArg Prod.fst (h th hth hpc).1

theorem LiveBound.thread_eq (h : LiveBound s) (hth : th ∈ s.threads) (hpc : th.pc ≠ .exited) :
    (s.task th.slot).thread = th.tid :=
  congrArg (Prod.fst ∘ Prod.snd) (h th hth hpc).1

theorem LiveBound.deleted_eq (h : LiveBound s) (hth : th ∈ s.threads) (hpc : th.pc ≠ .exited) :
    (s.task th.slot).deleted = 0 :=
  congrArg (Prod.snd ∘ Prod.snd) (h th hth hpc).1

/-- A state whose live workers were live workers of `s`, on slots whose binding fields and count
of workers are unchanged. -/
theorem LiveBound.of_live (h : LiveBound s)
    (hlive : ∀ th ∈ s'.threads, th.pc ≠ .exited → ∃ th₀ ∈ s.threads, th₀.pc ≠ .exited ∧
      th₀.tid = th.tid ∧ th₀.slot = th.slot ∧
      (s'.task th.slot).bindKey = (s.task th.slot).bindKey ∧
      (s'.spawn th.slot).count = (s.spawn th.slot).count) :
    LiveBound s' := by
  intro th hth hpc
  obtain ⟨th₀, h₀, hp₀, ht, hsl, hk, hc⟩ := hlive th hth hpc
  rw [hk, hc, ← hsl, ← ht]
  exact h th₀ h₀ hp₀

/-- The same threads, with the binding fields and the count of every live worker's slot
unchanged. -/
theorem LiveBound.of_frame (h : LiveBound s) (hth : s'.threads = s.threads)
    (hk : ∀ th ∈ s.threads, th.pc ≠ .exited →
      (s'.task th.slot).bindKey = (s.task th.slot).bindKey ∧
        (s'.spawn th.slot).count = (s.spawn th.slot).count) :
    LiveBound s' :=
  h.of_live fun th hth' hpc => by
    rw [hth] at hth'; exact ⟨th, hth', hpc, rfl, rfl, hk th hth' hpc⟩

/-! ## Every step the client takes keeps it -/

theorem LiveBound.rtapiTaskNew (h : LiveBound s) {taskcode arg : Nat} {prio owner : Int}
    {stacksize : UInt64} {usesFp cpuId : Int} {stack : Option Nat} :
    LiveBound (rtapiTaskNew os s taskcode arg prio owner stacksize usesFp cpuId stack).sys := by
  rcases rtapiTaskNew_cases os s taskcode arg prio owner stacksize usesFp cpuId stack with
    ⟨-, hr⟩ | ⟨-, hlt, hr⟩ | ⟨-, hlt, -, -, t, -, hr⟩ <;> rw [hr]
  · exact h
  all_goals
    refine h.of_frame rfl fun th hth hpc => ?_
    have hne : th.slot ≠ newSlot s := fun he => not_valid_newSlot hlt (he ▸ h.valid hth hpc)
  · rw [reserve_task_ne hne, reserve_spawn_ne hne]; exact ⟨rfl, rfl⟩
  · rw [Sys.setTask_task_ne hne, reserve_task_ne hne, Sys.setTask_spawn, reserve_spawn_ne hne]
    exact ⟨rfl, rfl⟩

theorem LiveBound.rtapiTaskDelete (h : LiveBound s) {id : Int} :
    LiveBound (rtapiTaskDelete s id).sys := by
  cases hc : checkTask s id with
  | none => rw [rtapiTaskDelete_of_none hc]; exact h
  | some i =>
    by_cases hd : (s.task i).deleted = 0
    · rw [rtapiTaskDelete_of_deleted_eq_zero hc hd]
      refine h.of_live fun th hth hpc => ?_
      obtain ⟨hth, hne⟩ : th ∈ s.threads ∧ th.tid ≠ (s.task i).thread := by
        simpa [joinThread] using hth
      -- the worker of slot `i` is the thread the delete joins
      have hsl : th.slot ≠ i := fun he => hne (by rw [← he, h.thread_eq hth hpc])
      exact ⟨th, hth, hpc, rfl, rfl, by simp only [Sys.setTask_task_ne hsl], rfl⟩
    · rw [rtapiTaskDelete_of_deleted_ne_zero hc hd]
      refine h.of_frame rfl fun th hth hpc => ?_
      have hsl : th.slot ≠ i := fun he => hd (he ▸ h.deleted_eq hth hpc)
      exact ⟨by rw [Sys.setTask_task_ne hsl], rfl⟩

/-- A start on a configured slot, which no live worker is bound to. -/
theorem LiveBound.rtapiTaskStart (h : LiveBound s) {id : Int} {periodNsec : UInt64}
    {e : StartEnv} {r : Result} (hcfg : (Op.taskStart id periodNsec e).startsConfigured s = true)
    (hr : rtapiTaskStart s id periodNsec e = some r) : LiveBound r.sys := by
  cases hc : checkTask s id with
  | none => rw [rtapiTaskStart_of_none hc] at hr; cases hr; exact h
  | some i =>
    have hcfg : s.lifecycle i = .configured := by
      simpa only [Op.startsConfigured, hc, beq_iff_eq] using hcfg
    have hv : s.Valid i := by
      by_contra hv; rw [(Sys.lifecycle_eq_free).2 hv] at hcfg; cases hcfg
    have hfree : ∀ th ∈ s.threads, th.pc ≠ .exited → th.slot ≠ i := fun th hth hpc he => by
      have := (h th hth hpc).2
      rw [he] at this
      rcases Sys.lifecycle_of_spawned hv this with h' | h' <;> rw [h'] at hcfg <;> cases hcfg
    by_cases hp : cULong s.period = 0
    · rw [rtapiTaskStart_eq_none hc hp] at hr; cases hr
    cases hcr : e.created with
    | none =>
      rw [rtapiTaskStart_create_failed hc hp hcr] at hr; cases hr
      refine h.of_frame rfl fun th hth hpc => ?_
      have hsl := hfree th hth hpc
      rw [Sys.setSpawn_task, Sys.setTask_task_ne hsl, Sys.setSpawn_spawn_ne hsl]
      exact ⟨rfl, rfl⟩
    | some tid =>
      obtain ⟨d, ds, evs, he, -⟩ := rtapiTaskStart_created periodNsec hc hp hcr
      rw [he] at hr; cases hr
      intro th hth hpc
      rcases List.mem_cons.1 hth with rfl | hth
      · have hd : d = 0 := by by_contra hd; exact hpc (if_neg hd)
        refine ⟨?_, by simp only [Sys.setSpawn_spawn_self]; omega⟩
        simp only [TaskData.bindKey, Sys.setSpawn_task, Sys.setTask_task_self, initTask_magic,
          initTask_thread, startTask_magic, hd]
        exact congrArg (·, tid, (0 : Int)) hv
      · have hsl := hfree th hth hpc
        have := h th hth hpc
        simpa only [Sys.setSpawn_task, Sys.setTask_task_ne hsl, Sys.setSpawn_spawn_ne hsl]
          using this

/-- `rtapi_task_stop`, `rtapi_task_pause`, `rtapi_task_resume` and `rtapi_task_set_period`
write no binding field. -/
theorem LiveBound.withTask (h : LiveBound s) {id ret : Int} {upd : TaskData → TaskData}
    (hu : ∀ t, (upd t).bindKey = t.bindKey) : LiveBound (withTask s id ret upd).sys := by
  have hs : (Rtapi.Linux.withTask s id ret upd).sys.spawn = s.spawn := by
    rw [withTask_sys]; split <;> rfl
  have ht : (Rtapi.Linux.withTask s id ret upd).sys.threads = s.threads := by
    rw [withTask_sys]; split <;> rfl
  exact h.of_frame ht fun th _ _ => ⟨withTask_proj TaskData.bindKey hu _, by rw [hs]⟩

theorem LiveBound.realtimeThreadBegin (hT : ThreadsInv s) (h : LiveBound s)
    (hth : th ∈ s.threads) (hpc : th.pc ≠ .exited) {now : Timespec} :
    LiveBound (realtimeThreadBegin s th now) := by
  refine h.of_live fun th' hth' hpc' => ?_
  obtain ⟨a, ha, rfl⟩ := List.mem_map.1 hth'
  have hk : ∀ j, ((Rtapi.Linux.realtimeThreadBegin s th now).task j).bindKey =
      (s.task j).bindKey :=
    Sys.setTask_proj TaskData.bindKey (by rfl)
  by_cases hat : a.tid = th.tid
  · -- the thread that moves is `th`, the one thread with its identifier
    obtain rfl : a = th := Workers.Inv.eq_of_tid hT ha hth hat
    simp only [hat, if_true]
    exact ⟨a, ha, hpc, rfl, rfl, hk _, rfl⟩
  · simp only [hat, if_false] at hpc' ⊢
    exact ⟨a, ha, hpc', rfl, rfl, hk _, rfl⟩

theorem LiveBound.realtimeThreadEnd (h : LiveBound s) (hth : th ∈ s.threads)
    (hpc : th.pc ≠ .exited) : LiveBound (realtimeThreadEnd s th).sys := by
  refine h.of_live fun th' hth' hpc' => ?_
  obtain ⟨a, ha, rfl⟩ := List.mem_map.1 hth'
  by_cases hat : a.tid = th.tid
  · simp [hat] at hpc'
  · simp only [hat, if_false] at hpc' ⊢
    -- `th`'s slot stores `th`'s identifier, so `a` is bound to another slot
    have hsl : a.slot ≠ th.slot := fun he =>
      hat (by rw [← h.thread_eq ha hpc', he, h.thread_eq hth hpc])
    exact ⟨a, ha, hpc', rfl, rfl, by simp only [Rtapi.Linux.realtimeThreadEnd, Sys.setPc_task,
      Sys.setTask_task_ne hsl], rfl⟩

theorem LiveBound.rtapiWait (h : LiveBound s) (hth : th ∈ s.threads) (hpc : th.pc ≠ .exited)
    {e : WaitEnv} : LiveBound (rtapiWait s th e).sys := by
  rw [rtapiWait_sys_of_deleted_eq_zero (h.deleted_eq hth hpc)]
  exact h.of_frame rfl fun _ _ _ => ⟨Sys.setTask_proj TaskData.bindKey (by rfl) _, rfl⟩

/-- **Every step the client's rule allows keeps `LiveBound`.** -/
theorem LiveBound.step (hT : ThreadsInv s) (h : LiveBound s) {o : Op} {r : Result}
    (hc : o.startsConfigured s = true) (hr : o.run os s = some r) : LiveBound r.sys := by
  cases o with
  | init =>
    cases hr; obtain ⟨m, hm⟩ := rtapiInit_frame s
    rw [hm]; exact h.of_frame rfl fun _ _ _ => ⟨rfl, rfl⟩
  | exit id =>
    cases hr; obtain ⟨m, hm⟩ := rtapiExit_frame s id
    rw [hm]; exact h.of_frame rfl fun _ _ _ => ⟨rfl, rfl⟩
  | clockSetPeriod nsecs =>
    cases hr; obtain ⟨p, hm⟩ := rtapiClockSetPeriod_frame os s nsecs
    rw [hm]; exact h.of_frame rfl fun _ _ _ => ⟨rfl, rfl⟩
  | taskNew => cases hr; exact h.rtapiTaskNew
  | taskDelete id => cases hr; exact h.rtapiTaskDelete
  | taskStart id periodNsec e => exact h.rtapiTaskStart hc hr
  | taskStop id => cases hr; exact h.withTask fun _ => by rfl
  | taskPause id => cases hr; exact h.withTask fun _ => by rfl
  | taskResume id => cases hr; exact h.withTask fun _ => by rfl
  | taskSetPeriod id periodNsec =>
    cases hr; exact h.withTask fun _ => by unfold TaskData.bindKey; rfl
  | begin tid now =>
    obtain ⟨th, hth, rfl⟩ := Option.map_eq_some'.1 hr
    obtain ⟨hm, -, hp⟩ := Sys.threadAt_spec hth
    exact h.realtimeThreadBegin hT hm (by rw [hp]; decide)
  | finish tid =>
    obtain ⟨th, hth, rfl⟩ := Option.map_eq_some'.1 hr
    obtain ⟨hm, -, hp⟩ := Sys.threadAt_spec hth
    exact h.realtimeThreadEnd hm (by rw [hp]; decide)
  | wait tid e =>
    obtain ⟨th, hth, rfl⟩ := Option.map_eq_some'.1 hr
    obtain ⟨hm, -, hp⟩ := Sys.threadAt_spec hth
    exact h.rtapiWait hm (by rw [hp]; decide)

end Live

/-! ## Every state the client reaches -/

section Client

variable {os : Os} {s : Sys}

theorem ClientReachable.inv (h : ClientReachable os s) : ThreadsInv s ∧ LiveBound s := by
  obtain ⟨ops, l, hr⟩ := h
  refine runSteps_inv (fun s => ThreadsInv s ∧ LiveBound s) (fun {s o p} hs hp => ?_)
    ⟨threadsInv_init, liveBound_init⟩ hr
  simp only [Op.clientStep, Op.step] at hp
  split_ifs at hp with hc ha
  obtain ⟨r, hr, rfl⟩ := Option.map_eq_some'.1 hp
  exact ⟨hs.1.step ha hr, hs.2.step hs.1 hc hr⟩

theorem clientReachable_clientStateAfter {ops : List Op}
    (h : (runSteps (Op.clientStep os) Sys.init ops).isSome = true) :
    ClientReachable os (clientStateAfter os ops) := by
  obtain ⟨p, hp⟩ := Option.isSome_iff_exists.1 h
  exact ⟨ops, p.1, by simp [clientStateAfter, hp]⟩

/-- **In every state a client that starts only configured slots reaches, every live worker is
bound to its slot, and any two live workers are apart**: the slot is valid, stores the worker's
identifier and has `deleted` clear, and two live workers with different identifiers are bound to
different slots. -/
theorem ClientReachable.live_workers (h : ClientReachable os s) :
    (∀ th ∈ s.threads, th.pc ≠ .exited →
      s.Valid th.slot ∧ (s.task th.slot).thread = th.tid ∧ (s.task th.slot).deleted = 0) ∧
    ∀ th₁ ∈ s.threads, ∀ th₂ ∈ s.threads, th₁.pc ≠ .exited → th₂.pc ≠ .exited →
      th₁.tid ≠ th₂.tid → s.Apart th₁.tid th₂.tid := by
  obtain ⟨hT, hL⟩ := h.inv
  refine ⟨fun th hth hpc => ⟨hL.valid hth hpc, hL.thread_eq hth hpc, hL.deleted_eq hth hpc⟩, ?_⟩
  intro th₁ h₁ th₂ h₂ hp₁ hp₂ hne b₁ hb₁ b₂ hb₂ e₁ e₂ hs
  obtain ⟨a₁, ha₁, rfl⟩ := List.mem_map.1 hb₁
  obtain ⟨a₂, ha₂, rfl⟩ := List.mem_map.1 hb₂
  obtain rfl : a₁ = th₁ := Workers.Inv.eq_of_tid hT ha₁ h₁ e₁
  obtain rfl : a₂ = th₂ := Workers.Inv.eq_of_tid hT ha₂ h₂ e₂
  -- both slots store their worker's identifier
  exact hne (by
    rw [← hL.thread_eq h₁ hp₁, ← hL.thread_eq h₂ hp₂]
    exact congrArg (fun j => (s.task j).thread) hs)

/-- The two workers of `twoWorkersOps`, run by the client, are bound to their slots and apart. -/
theorem ClientReachable.live_workers_two :
    (∀ th ∈ (clientStateAfter linuxOs twoWorkersOps).threads, th.pc ≠ .exited →
      (clientStateAfter linuxOs twoWorkersOps).Valid th.slot ∧
      ((clientStateAfter linuxOs twoWorkersOps).task th.slot).thread = th.tid ∧
      ((clientStateAfter linuxOs twoWorkersOps).task th.slot).deleted = 0) ∧
    ∀ th₁ ∈ (clientStateAfter linuxOs twoWorkersOps).threads,
      ∀ th₂ ∈ (clientStateAfter linuxOs twoWorkersOps).threads, th₁.pc ≠ .exited →
        th₂.pc ≠ .exited → th₁.tid ≠ th₂.tid →
          (clientStateAfter linuxOs twoWorkersOps).Apart th₁.tid th₂.tid :=
  ClientReachable.live_workers (clientReachable_clientStateAfter (by decide))

end Client

end Rtapi.Linux
