import Rtapi.Preempt.Independence
import Rtapi.Preempt.Slots

/-!
# The statistics of workers whose identifiers are fresh

`_rtapi_task_self_hook` names the least id whose stored handle is the caller's, and
`_rtapi_task_delete_hook` leaves a joined worker's handle in place, so a worker can be taken for
another task (`rtapiTaskSelfHook_stale_handle`). That takes a `pthread_create` that hands out an
identifier the table still stores. Along a run where it never does, and where the client starts
only slots that have had no worker since their reservation, every live worker, an unjoined thread
that has not ended, is bound to its slot, and no other id from `1` to `RTAPI_MAX_TASKS` stores its
identifier (`LiveBound`). Then the self hook in a live worker names its own task, and the
statistics go to its own entry of `thread_status`.

* `Op.startsConfigured`, `Op.createsFresh`: the client's rule and the environment's;
  `ClientReachable`: the states a run under both reaches from load time.
* `LiveBound.step`: every step the two rules allow keeps `LiveBound`, in a state where the
  unjoined threads have distinct identifiers (`ThreadsInv`).
* `ClientReachable.selfHook_own_slot`: in every such state the self hook in a live worker returns
  its slot, and the statistics hook counts one update in that slot's entry and writes nothing
  else.
-/

namespace Rtapi.Preempt

/-! ## The rules and the runs under them -/

/-- The client's rule: `rtapi_task_start` only on a slot that has had no worker since its
reservation. -/
def Op.startsConfigured (c : Config) (s : Sys) : Op → Bool
  | .taskStart id _ _ => match checkTask c s id with
    | none => true
    | some i => (s.spawn i).count == 0
  | _ => true

/-- The environment's rule: `pthread_create` returns an identifier that no id from `1` to
`RTAPI_MAX_TASKS` stores as its handle. -/
def Op.createsFresh (c : Config) (s : Sys) : Op → Bool
  | .taskStart _ _ e => match e.created with
    | none => true
    | some tid => (List.range' 1 c.maxTasks).all fun n => (s.extra n).thread != tid
  | _ => true

/-- A step of a run under both rules. -/
def Op.clientStep (c : Config) (s : Sys) (o : Op) : Option (List Event × Sys) :=
  if o.startsConfigured c s && o.createsFresh c s then Op.step c s o else none

/-- The states a run under both rules reaches from load time. -/
def ClientReachable (c : Config) (s : Sys) : Prop :=
  ∃ ops l, runSteps (Op.clientStep c) Sys.init ops = some (l, s)

/-- The state the operations `ops` reach under both rules from load time (`Sys.init` if one is
refused). -/
def clientStateAfter (c : Config) (ops : List Op) : Sys :=
  ((runSteps (Op.clientStep c) Sys.init ops).map Prod.snd).getD Sys.init

/-- The fields of slot `j` that keep a live worker bound to it, apart from the handles: the magic,
`deleted` and the count of workers since its reservation. -/
def Sys.slotKey (s : Sys) (j : Nat) : Int × Int × Nat :=
  ((s.task j).magic, (s.extra j).deleted, (s.spawn j).count)

/-- The live worker `th` is bound to its slot: a valid id from `1` to `RTAPI_MAX_TASKS` with
`deleted` clear that has had a worker since its reservation, and the one such id whose stored
handle is `th`'s identifier. -/
structure WorkerBound (c : Config) (s : Sys) (th : Thread) : Prop where
  one_le : 1 ≤ th.slot
  le_max : th.slot ≤ c.maxTasks
  valid : s.Valid th.slot
  deleted : (s.extra th.slot).deleted = 0
  count : (s.spawn th.slot).count ≠ 0
  handle : ∀ n, 1 ≤ n → n ≤ c.maxTasks → ((s.extra n).thread = th.tid ↔ n = th.slot)

/-- Every live worker is bound to its slot. -/
def LiveBound (c : Config) (s : Sys) : Prop :=
  ∀ th ∈ s.threads, th.pc ≠ .exited → WorkerBound c s th

/-! ## Bound workers -/

section Bound

variable {c : Config} {s s' : Sys} {th th' : Thread}

theorem WorkerBound.thread_eq (h : WorkerBound c s th) : (s.extra th.slot).thread = th.tid :=
  (h.handle _ h.one_le h.le_max).2 rfl

/-- Two bound workers with different identifiers are bound to different slots. -/
theorem WorkerBound.slot_ne (h : WorkerBound c s th) (h' : WorkerBound c s th')
    (hne : th.tid ≠ th'.tid) : th.slot ≠ th'.slot := fun he =>
  hne (by rw [← h.thread_eq, ← h'.thread_eq, he])

/-- A state with the same handles that agrees with `s` on the fields of `th`'s slot. -/
theorem WorkerBound.of_eq (h : WorkerBound c s th) (hk : s'.slotKey th.slot = s.slotKey th.slot)
    (hh : ∀ n, 1 ≤ n → n ≤ c.maxTasks →
      ((s'.extra n).thread = th.tid ↔ (s.extra n).thread = th.tid)) : WorkerBound c s' th := by
  simp only [Sys.slotKey, Prod.mk.injEq] at hk
  exact ⟨h.one_le, h.le_max, hk.1.trans h.valid, hk.2.1.trans h.deleted, hk.2.2 ▸ h.count,
    fun n h₀ h₁ => (hh n h₀ h₁).trans (h.handle n h₀ h₁)⟩

/-- What binds a worker reads of it: its identifier and its slot. -/
theorem WorkerBound.of_tid_slot (h : WorkerBound c s th) (ht : th.tid = th'.tid)
    (hs : th.slot = th'.slot) : WorkerBound c s th' :=
  ⟨hs ▸ h.one_le, hs ▸ h.le_max, hs ▸ h.valid, hs ▸ h.deleted, hs ▸ h.count,
    ht ▸ hs ▸ h.handle⟩

theorem liveBound_init : LiveBound c Sys.init := fun _ h => absurd h (List.not_mem_nil _)

/-- A state with the same handles whose live workers were live workers of `s`, on slots whose
fields are unchanged. -/
theorem LiveBound.of_live (h : LiveBound c s)
    (hlive : ∀ th ∈ s'.threads, th.pc ≠ .exited → ∃ th₀ ∈ s.threads, th₀.pc ≠ .exited ∧
      th₀.tid = th.tid ∧ th₀.slot = th.slot ∧ s'.slotKey th.slot = s.slotKey th.slot)
    (hh : ∀ n, (s'.extra n).thread = (s.extra n).thread) : LiveBound c s' := by
  intro th hth hpc
  obtain ⟨th₀, h₀, hp₀, ht, hsl, hk⟩ := hlive th hth hpc
  exact ((h th₀ h₀ hp₀).of_eq (hsl ▸ hk) fun n _ _ => by rw [hh]).of_tid_slot ht hsl

/-- The same threads and handles, with the fields of every live worker's slot unchanged. -/
theorem LiveBound.of_frame (h : LiveBound c s) (hth : s'.threads = s.threads)
    (hk : ∀ th ∈ s.threads, th.pc ≠ .exited → s'.slotKey th.slot = s.slotKey th.slot)
    (hh : ∀ n, (s'.extra n).thread = (s.extra n).thread) : LiveBound c s' :=
  h.of_live (fun th hth' hpc => by
    rw [hth] at hth'; exact ⟨th, hth', hpc, rfl, rfl, hk th hth' hpc⟩) hh

/-- A write of slot `i` alone that keeps its handle and the threads, where no live worker is
bound to `i`. -/
theorem LiveBound.of_slot (h : LiveBound c s) {i : Nat} (hth : s'.threads = s.threads)
    (hi : ∀ th ∈ s.threads, th.pc ≠ .exited → th.slot ≠ i)
    (hj : ∀ j ≠ i, s'.slotKey j = s.slotKey j ∧ (s'.extra j).thread = (s.extra j).thread)
    (hh : (s'.extra i).thread = (s.extra i).thread) : LiveBound c s' :=
  h.of_frame hth (fun th hth hpc => (hj _ (hi th hth hpc)).1) fun n => by
    by_cases hn : n = i
    · rw [hn]; exact hh
    · exact (hj n hn).2

end Bound

/-! ## Every step under the rules keeps it -/

section Live

variable {c : Config} {s : Sys} {th : Thread}

theorem LiveBound.rtapiClockSetPeriod (h : LiveBound c s) {nsecs : UInt64} :
    LiveBound c (rtapiClockSetPeriod c s nsecs).sys := by
  unfold Preempt.rtapiClockSetPeriod
  split_ifs
  · exact h
  · exact h
  · exact h.of_frame rfl (fun _ _ _ => rfl) fun _ => rfl

theorem LiveBound.rtapiTaskNew (h : LiveBound c s) {prio cpu : Int} {stacksize : UInt64}
    {stack : Option Nat} : LiveBound c (rtapiTaskNew c s prio cpu stacksize stack).sys := by
  unfold Preempt.rtapiTaskNew
  split_ifs with hlt
  · exact h
  · exact h
  -- the reserved slot was free, so no live worker is bound to it
  have hne : ∀ th ∈ s.threads, th.pc ≠ .exited → th.slot ≠ newSlot c s :=
    fun th hth hpc he => not_valid_newSlot (not_lt.1 hlt) (he ▸ (h th hth hpc).valid)
  cases stack <;> simp only [rtapiTaskNewHook] <;> split_ifs <;>
    refine h.of_slot rfl hne (fun j hj => ?_) ?_ <;>
    simp [Sys.slotKey, Sys.setTask_task_ne, Sys.setSpawn_spawn_ne, Sys.setExtra_extra_ne, *]

theorem LiveBound.rtapiTaskDelete (h : LiveBound c s) {id : Int} :
    LiveBound c (rtapiTaskDelete c s id).sys := by
  unfold Preempt.rtapiTaskDelete
  cases hc : checkTask c s id with
  | none => exact h
  | some i =>
    dsimp only
    unfold rtapiTaskDeleteHook
    by_cases hd : (s.extra i).deleted = 0
    · rw [if_pos hd]
      refine h.of_live (fun th hth hpc => ?_) fun n => ?_
      · obtain ⟨hth, hne⟩ : th ∈ s.threads ∧ th.tid ≠ (s.extra i).thread := by
          simpa [joinThread] using hth
        -- the worker of slot `i` is the thread the delete joins
        have hsl : th.slot ≠ i := fun he => hne (by rw [← he, (h th hth hpc).thread_eq])
        exact ⟨th, hth, hpc, rfl, rfl, by simp [Sys.slotKey, Sys.setTask_task_ne hsl,
          Sys.setExtra_extra_ne hsl]⟩
      · by_cases hn : n = i
        · simp [hn]
        · simp [Sys.setExtra_extra_ne hn]
    · rw [if_neg hd]
      refine h.of_slot (i := i) rfl (fun th hth hpc he => hd (he ▸ (h th hth hpc).deleted))
        (fun j hj => ?_) (by simp)
      simp [Sys.slotKey, Sys.setTask_task_ne hj, Sys.setExtra_extra_ne hj]

/-- A start on a slot that has had no worker since its reservation, with a fresh identifier. -/
theorem LiveBound.rtapiTaskStart (h : LiveBound c s) {id : Int} {periodNsec : UInt64}
    {e : StartEnv} {r : Result} (hcfg : (Op.taskStart id periodNsec e).startsConfigured c s = true)
    (hfresh : (Op.taskStart id periodNsec e).createsFresh c s = true)
    (hr : rtapiTaskStart c s id periodNsec e = some r) : LiveBound c r.sys := by
  cases hc : checkTask c s id with
  | none => cases (rtapiTaskStart_of_none hc).symm.trans hr; exact h
  | some i =>
    have hcnt : (s.spawn i).count = 0 := by
      simpa only [Op.startsConfigured, hc, beq_iff_eq] using hcfg
    obtain ⟨-, hrange₀, hrange₁, hvalid⟩ := checkTask_eq_some.1 hc
    have hfree : ∀ th ∈ s.threads, th.pc ≠ .exited → th.slot ≠ i :=
      fun th hth hpc he => (h th hth hpc).count (he ▸ hcnt)
    obtain ⟨hne, hm, -, hnone, hsome⟩ := rtapiTaskStart_writes hc hr
    have hj : ∀ j ≠ i,
        r.sys.slotKey j = s.slotKey j ∧ (r.sys.extra j).thread = (s.extra j).thread :=
      fun j hj => by simp only [Sys.slotKey, (hne j hj).1, (hne j hj).2.1, (hne j hj).2.2, and_self]
    cases hcr : e.created with
    | none => exact h.of_slot (hnone hcr).1 hfree hj (hnone hcr).2
    | some tid =>
      have hfr : ∀ n, 1 ≤ n → n ≤ c.maxTasks → (s.extra n).thread ≠ tid := fun n h₀ h₁ => by
        simp only [Op.createsFresh, hcr, List.all_eq_true, List.mem_range'_1, bne_iff_ne]
          at hfresh
        exact hfresh n ⟨h₀, by omega⟩
      obtain ⟨pc, hth, hti, hcount, hdel⟩ := hsome tid hcr
      intro th hmem hpc
      rw [hth] at hmem
      rcases List.mem_cons.1 hmem with rfl | hmem
      · -- the new worker, live when its initialisation passed
        refine ⟨hrange₀, hrange₁, (hm.trans hvalid :), hdel hpc, by rw [hcount]; omega,
          fun n h₀ h₁ => ?_⟩
        by_cases hn : n = i
        · rw [hn]; exact ⟨fun _ => rfl, fun _ => hti⟩
        · rw [(hj n hn).2]; exact ⟨fun he => absurd he (hfr n h₀ h₁), fun he => absurd he hn⟩
      · -- a worker of another slot: the fresh identifier is not its own
        have hb := h th hmem hpc
        refine hb.of_eq (hj _ (hfree th hmem hpc)).1 fun n h₀ h₁ => ?_
        by_cases hn : n = i
        · rw [hn, hti]
          exact ⟨fun he => absurd (hb.thread_eq.trans he.symm) (hfr _ hb.one_le hb.le_max),
            fun he => absurd ((hb.handle i hrange₀ hrange₁).1 he).symm (hfree th hmem hpc)⟩
        · rw [(hj n hn).2]

/-- A write of an entry of `extra_task_data` that keeps its handle and `deleted`. -/
theorem LiveBound.setExtra (h : LiveBound c s) {i : Nat} {x : ExtraTaskData}
    (hx : x.thread = (s.extra i).thread) (hd : x.deleted = (s.extra i).deleted) :
    LiveBound c (s.setExtra i x) := by
  have he : ∀ n, ((s.setExtra i x).extra n).thread = (s.extra n).thread ∧
      ((s.setExtra i x).extra n).deleted = (s.extra n).deleted := fun n => by
    by_cases hn : n = i
    · rw [hn, Sys.setExtra_extra_self]; exact ⟨hx, hd⟩
    · rw [Sys.setExtra_extra_ne hn]; exact ⟨rfl, rfl⟩
  exact h.of_frame rfl (fun th _ _ => by simp only [Sys.slotKey, (he _).2]; rfl)
    fun n => (he n).1

theorem LiveBound.addStatus (h : LiveBound c s) {d : Nat → ThreadStatus} :
    LiveBound c (s.addStatus d) :=
  h.of_frame rfl (fun _ _ _ => rfl) fun _ => rfl

theorem LiveBound.setStatus (h : LiveBound c s) {i : Nat} {y : ThreadStatus} :
    LiveBound c (s.setStatus i y) :=
  h.of_frame rfl (fun _ _ _ => rfl) fun _ => rfl

theorem LiveBound.rtapiTaskStop (h : LiveBound c s) {id : Int} :
    LiveBound c (rtapiTaskStop c s id).sys := by
  unfold Preempt.rtapiTaskStop
  split
  · exact h
  · exact h.setExtra rfl rfl

/-- A live worker moves, the one thread with its identifier. -/
theorem LiveBound.setPc (h : LiveBound c s) (hu : ∀ a ∈ s.threads, a.tid = th.tid → a = th)
    (hpc : th.pc ≠ .exited) {pc : Pc} : LiveBound c (s.setPc th.tid pc) := by
  refine h.of_live (fun th' hth' hpc' => ?_) fun _ => rfl
  obtain ⟨a, ha, rfl⟩ := List.mem_map.1 hth'
  by_cases hat : a.tid = th.tid
  · obtain rfl : a = th := hu a ha hat
    simp only [hat, if_true]
    exact ⟨a, ha, hpc, rfl, rfl, rfl⟩
  · simp only [hat, if_false] at hpc' ⊢
    exact ⟨a, ha, hpc', rfl, rfl, rfl⟩

theorem LiveBound.realtimeThreadBegin (hT : ThreadsInv s) (h : LiveBound c s)
    (hth : th ∈ s.threads) (hpc : th.pc ≠ .exited) {now : Timespec} {rusage startup : Option Int} :
    LiveBound c (realtimeThreadBegin c s th now rusage startup).sys := by
  rw [Preempt.realtimeThreadBegin, rtapiTaskUpdateStatsHook_eq]
  refine LiveBound.addStatus (LiveBound.setPc ?_ (fun a ha => ?_) hpc)
  · exact h.setExtra rfl rfl
  · exact Workers.Inv.eq_of_tid hT ha hth

theorem LiveBound.realtimeThreadEnd (h : LiveBound c s) (hth : th ∈ s.threads)
    (hpc : th.pc ≠ .exited) : LiveBound c (realtimeThreadEnd s th).sys := by
  refine h.of_live (fun th' hth' hpc' => ?_) fun n => ?_
  · obtain ⟨a, ha, rfl⟩ := List.mem_map.1 hth'
    by_cases hat : a.tid = th.tid
    · simp [hat] at hpc'
    · simp only [hat, if_false] at hpc' ⊢
      -- `th`'s slot stores `th`'s identifier, so `a` is bound to another slot
      have hsl := (h a ha hpc').slot_ne (h th hth hpc) hat
      exact ⟨a, ha, hpc', rfl, rfl, by simp [Sys.slotKey, Preempt.realtimeThreadEnd,
        Sys.setExtra_extra_ne hsl]⟩
  · by_cases hn : n = th.slot
    · rw [hn]; simp [Preempt.realtimeThreadEnd]
    · simp [Preempt.realtimeThreadEnd, Sys.setExtra_extra_ne hn]

theorem LiveBound.rtapiWaitHook (hT : ThreadsInv s) (h : LiveBound c s) (hth : th ∈ s.threads)
    (hpc : th.pc ≠ .exited) {now : Timespec} {rusage : Option Int} :
    LiveBound c (rtapiWaitHook c s th now rusage).sys := by
  unfold Preempt.rtapiWaitHook
  split
  · exact h.setPc (fun a ha => Workers.Inv.eq_of_tid hT ha hth) hpc
  dsimp only
  split
  · rw [rtapiTaskUpdateStatsHook_eq]
    refine LiveBound.setStatus (LiveBound.addStatus ?_)
    exact h.setExtra rfl rfl
  · exact h.setExtra rfl rfl

/-- **Every step the two rules allow keeps `LiveBound`.** -/
theorem LiveBound.step (hT : ThreadsInv s) (h : LiveBound c s) {o : Op} {r : Result}
    (hc : o.startsConfigured c s = true) (hf : o.createsFresh c s = true)
    (hr : o.run c s = some r) : LiveBound c r.sys := by
  cases o with
  | clockSetPeriod n => cases hr; exact h.rtapiClockSetPeriod
  | taskNew => cases hr; exact h.rtapiTaskNew
  | taskDelete id => cases hr; exact h.rtapiTaskDelete
  | taskStart id periodNsec e => exact h.rtapiTaskStart hc hf hr
  | taskStop id => cases hr; exact h.rtapiTaskStop
  | begin tid now rusage startup =>
    obtain ⟨th, hth, rfl⟩ := Option.map_eq_some'.1 hr
    obtain ⟨hm, -, hp⟩ := Sys.threadAt_spec hth
    exact h.realtimeThreadBegin hT hm (by rw [hp]; decide)
  | finish tid =>
    obtain ⟨th, hth, rfl⟩ := Option.map_eq_some'.1 hr
    obtain ⟨hm, -, hp⟩ := Sys.threadAt_spec hth
    exact h.realtimeThreadEnd hm (by rw [hp]; decide)
  | wait tid now rusage =>
    obtain ⟨th, hth, rfl⟩ := Option.map_eq_some'.1 hr
    obtain ⟨hm, -, hp⟩ := Sys.threadAt_spec hth
    exact h.rtapiWaitHook hT hm (by rw [hp]; decide)

end Live

/-! ## Every state the runs reach -/

section Client

variable {c : Config} {s : Sys}

theorem ClientReachable.inv (h : ClientReachable c s) : ThreadsInv s ∧ LiveBound c s := by
  obtain ⟨ops, l, hr⟩ := h
  refine runSteps_inv (fun s => ThreadsInv s ∧ LiveBound c s) (fun {s o p} hs hp => ?_)
    ⟨threadsInv_init, liveBound_init⟩ hr
  simp only [Op.clientStep, Op.step, Bool.and_eq_true] at hp
  split_ifs at hp with hc ha
  obtain ⟨r, hr, rfl⟩ := Option.map_eq_some'.1 hp
  exact ⟨hs.1.step ha hr, hs.2.step hs.1 hc.1 hc.2 hr⟩

theorem clientReachable_clientStateAfter {ops : List Op}
    (h : (runSteps (Op.clientStep c) Sys.init ops).isSome = true) :
    ClientReachable c (clientStateAfter c ops) := by
  obtain ⟨p, hp⟩ := Option.isSome_iff_exists.1 h
  exact ⟨ops, p.1, by simp [clientStateAfter, hp]⟩

/-- The run of `reusedHandleSys`, which hands task `2` the identifier `7` task `1` still stores,
is refused by the environment's rule. -/
example : (runSteps (Op.clientStep config64) Sys.init [.clockSetPeriod 1000000,
    .taskNew 50 (-1) 0 (some 4096), .taskNew 50 (-1) 0 (some 8192), .taskStart 1 1000000 (.ok 7),
    .taskDelete 1, .taskStart 2 1000000 (.ok 7)]).isNone = true := by decide

end Client

end Rtapi.Preempt
