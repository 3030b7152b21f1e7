import Rtapi.Affinity
import Rtapi.Workers
import Rtapi.Preempt.Task

/-!
# Worker threads and `_rtapi_task_delete_hook`

`rt-preempt.c` keeps the worker's handle and the `deleted` flag in `extra_task_data`.
`_rtapi_task_start_hook` clears the flag and stores the new handle; the worker sets the flag when
its initialisation fails or its task code returns, and `_rtapi_task_delete_hook` joins the stored
thread only while the flag is clear. Read through `Sys.workers`, every step of the model is one of
the changes of the worker protocol (`Rtapi.Workers`), so its invariant holds in every reachable
state (`threadsInv_of_reachable`), and the delete hook joins exactly the slot's running worker when
one is owed, and nothing when `deleted` is set (`rtapiTaskDeleteHook_joins_worker`). A start hook
that returns `0` has pinned its worker to one allowed CPU (`rtapiTaskStartHook_pins_worker`).
-/

namespace Rtapi.Preempt

/-- What the worker protocol reads of the state: the magic of the generic task record, the ghost
record, and `deleted` and `thread` of `extra_task_data`; and the unjoined threads. -/
def Sys.workers (s : Sys) : Workers :=
  ⟨fun i =>
    ⟨decide (s.Valid i), (s.spawn i).latest, (s.extra i).deleted != 0, (s.extra i).thread⟩,
    s.threads⟩

/-- `th` is the worker the handle stored for slot `i` names: unjoined, bound to the slot,
running. -/
def Sys.RunningWorker (s : Sys) (i : Nat) (th : Thread) : Prop :=
  th ∈ s.threads ∧ th.tid = (s.extra i).thread ∧ th.slot = i ∧ th.pc ≠ .exited

/-- The invariant of the unjoined threads: the protocol's, read through `Sys.workers`. -/
def ThreadsInv (s : Sys) : Prop := s.workers.Inv

variable {c : Config} {s : Sys} {i : Nat} {t : TaskData} {x : ExtraTaskData}

/-! ## The view of the state writes -/

theorem Sys.owes_iff {j : Nat} :
    (s.workers.slot j).Owes ↔
      s.Valid j ∧ (s.spawn j).latest = true ∧ (s.extra j).deleted = 0 := by
  simp [Sys.workers, SlotView.Owes]

@[simp] theorem Sys.workers_threads : s.workers.threads = s.threads := rfl

@[simp] theorem Sys.workers_setStatus {y : ThreadStatus} : (s.setStatus i y).workers = s.workers :=
  rfl

/-- A write of the task record that keeps its magic is not seen. -/
theorem Sys.workers_setTask (hm : t.magic = (s.task i).magic) :
    (s.setTask i t).workers = s.workers := by
  simp only [Sys.workers, Sys.Valid, Sys.setTask_spawn, Sys.setTask_extra, Sys.setTask_threads]
  congr 1; funext j
  by_cases hj : j = i
  · subst hj; simp only [Sys.setTask_task_self, hm]
  · simp only [Sys.setTask_task_ne hj]

/-- A state that agrees with `s` on every slot but `i`, where it owes no worker, owes less. -/
theorem Sys.owesLess_of_ne {s' : Sys} (hj : ∀ j, j ≠ i → s'.workers.slot j = s.workers.slot j)
    (hi : ¬(s'.workers.slot i).Owes) : s'.workers.OwesLess s.workers :=
  Workers.OwesLess.of_slot hj fun h => absurd h hi

theorem Sys.owesLess_setPc {s' : Sys} {tid : Nat} {pc : Pc} (h : s'.workers.OwesLess s.workers) :
    (s'.setPc tid pc).workers.OwesLess s.workers := h

theorem Sys.owesLess_withThreads {s' : Sys} {l : List Thread} (h : s'.workers.OwesLess s.workers) :
    ({ s' with threads := l } : Sys).workers.OwesLess s.workers := h

/-- Invalidating a slot owes less. -/
theorem Sys.owesLess_setTask_invalid (hm : t.magic ≠ taskMagic) :
    (s.setTask i t).workers.OwesLess s.workers :=
  Workers.OwesLess.of_slot (i := i)
    (fun j hj => by simp only [Sys.workers, Sys.Valid, Sys.setTask_task_ne hj, Sys.setTask_spawn,
      Sys.setTask_extra])
    fun hi => absurd (Sys.owes_iff.1 hi).1 (by simpa [Sys.Valid] using hm)

/-- A write of `extra_task_data` that keeps the handle, with `deleted` kept or set, owes less. -/
theorem Sys.owesLess_setExtra (ht : x.thread = (s.extra i).thread)
    (hd : x.deleted = (s.extra i).deleted ∨ x.deleted ≠ 0) :
    (s.setExtra i x).workers.OwesLess s.workers :=
  Workers.OwesLess.of_slot (i := i)
    (fun j hj => by simp only [Sys.workers, Sys.Valid, Sys.setExtra_task, Sys.setExtra_spawn,
      Sys.setExtra_extra_ne hj])
    fun hi => by
      simp only [Sys.owes_iff, Sys.Valid, Sys.setExtra_task, Sys.setExtra_spawn,
        Sys.setExtra_extra_self] at hi ⊢
      refine ⟨⟨hi.1, hi.2.1, hd.elim (fun h => h.symm.trans hi.2.2) fun h => absurd hi.2.2 h⟩,
        ?_⟩
      simp only [Sys.workers, Sys.setExtra_extra_self, ht]

/-! ## Every step keeps the invariant -/

theorem threadsInv_init : ThreadsInv Sys.init :=
  ⟨List.nodup_nil, fun _ h =>
    absurd (Sys.owes_iff.1 h).1 (by simp [Sys.Valid, Sys.init, taskMagic])⟩

/-- A slot that owes a worker has its running worker. -/
theorem ThreadsInv.worker (h : ThreadsInv s) (hv : s.Valid i) (hl : (s.spawn i).latest = true)
    (hd : (s.extra i).deleted = 0) : ∃ th, s.RunningWorker i th :=
  Workers.Inv.current h i (Sys.owes_iff.2 ⟨hv, hl, hd⟩)

theorem ThreadsInv.rtapiClockSetPeriod (h : ThreadsInv s) {nsecs : UInt64} :
    ThreadsInv (rtapiClockSetPeriod c s nsecs).sys := by
  unfold Preempt.rtapiClockSetPeriod; split_ifs <;> exact h

theorem ThreadsInv.rtapiTaskNew (h : ThreadsInv s) {prio cpu : Int} {stacksize : UInt64}
    {stack : Option Nat} : ThreadsInv (rtapiTaskNew c s prio cpu stacksize stack).sys := by
  unfold Preempt.rtapiTaskNew
  split_ifs
  · exact h
  · exact h
  · cases stack <;> simp only [rtapiTaskNewHook] <;> split_ifs <;>
      exact Workers.Inv.of_owesLess h rfl (Sys.owesLess_of_ne (i := newSlot c s)
        (fun j hj => by simp [Sys.workers, Sys.Valid, Sys.setTask_task_ne, Sys.setExtra_extra_ne,
          Sys.setSpawn_spawn_ne, hj]) (by simp [Sys.owes_iff]))

theorem ThreadsInv.rtapiTaskDelete (h : ThreadsInv s) {id : Int}
    (ha : (Op.taskDelete id).allowed c s = true) : ThreadsInv (rtapiTaskDelete c s id).sys := by
  unfold Preempt.rtapiTaskDelete
  cases hc : checkTask c s id with
  | none => exact h
  | some i =>
    have hi : ∀ s' : Sys, ¬((s'.setTask i { s.task i with magic := 0 }).workers.slot i).Owes :=
      fun _ hi => by simp [Sys.owes_iff, Sys.Valid, taskMagic] at hi
    have ho := fun s' : Sys => Sys.owesLess_setTask_invalid (s := s') (i := i)
      (t := { s.task i with magic := 0 }) (by simp [taskMagic])
    dsimp only
    unfold rtapiTaskDeleteHook
    by_cases hd : (s.extra i).deleted = 0
    · rw [if_pos hd]
      simp only [Op.allowed, hc, hd, bne_self_eq_false, Bool.false_or, List.all_eq_true,
        bne_iff_ne, Bool.or_eq_true, beq_iff_eq, ne_eq] at ha
      refine Workers.Inv.join h rfl ((ho _).trans (Sys.owesLess_withThreads
        (Sys.owesLess_setExtra rfl (.inr one_ne_zero)))) fun th hth he => ?_
      rcases ha th hth with (h' | h') | h'
      · exact absurd he h'
      · exact .inl h'
      · exact .inr (by rw [h']; exact hi _)
    · rw [if_neg hd]
      exact Workers.Inv.of_owesLess h rfl ((ho _).trans (Sys.owesLess_setExtra rfl (.inl rfl)))

/-- `_rtapi_task_start_hook` with a fresh identifier for its worker keeps the invariant. -/
theorem ThreadsInv.rtapiTaskStartHook (h : ThreadsInv s) {e : StartEnv} {r : Result}
    (ha : ∀ tid, e.created = some tid → ∀ th ∈ s.threads, th.tid ≠ tid)
    (hr : rtapiTaskStartHook c s i e = some r) : ThreadsInv r.sys := by
  unfold Preempt.rtapiTaskStartHook at hr
  split at hr
  · cases hr
    exact Workers.Inv.of_owesLess h rfl (Sys.owesLess_of_ne (i := i)
      (fun j hj => by
        simp [Sys.workers, Sys.Valid, Sys.setExtra_extra_ne, Sys.setSpawn_spawn_ne, hj])
      (by simp [Sys.owes_iff]))
  · rename_i tid hcr
    obtain ⟨r', hr', rfl⟩ := Option.map_eq_some'.1 hr
    by_cases hp : s.period = 0
    · simp [realtimeThreadInit, hp] at hr'
    simp only [realtimeThreadInit, Sys.setExtra_period, hp, if_false, Option.some.injEq] at hr'
    subst hr'
    refine Workers.Inv.spawn h (ha tid hcr) rfl (by simp [Sys.workers]) (fun hi => ?_)
      fun j hj => ?_
    · have hd := (Sys.owes_iff.1 hi).2.2
      simp only [Sys.setSpawn_extra] at hd
      simp only [hd, if_true]; decide
    · simp [Sys.workers, Sys.Valid, Sys.setTask_task_ne, Sys.setExtra_extra_ne,
        Sys.setSpawn_spawn_ne, hj]

/-- The generic `rtapi_task_start` writes the period and the ratio, which the protocol does not
see, then calls the hook. -/
theorem ThreadsInv.rtapiTaskStart (h : ThreadsInv s) {id : Int} {periodNsec : UInt64}
    {e : StartEnv} {r : Result} (ha : (Op.taskStart id periodNsec e).allowed c s = true)
    (hr : rtapiTaskStart c s id periodNsec e = some r) : ThreadsInv r.sys := by
  unfold Preempt.rtapiTaskStart at hr
  split at hr
  · cases hr; exact h
  · refine ThreadsInv.rtapiTaskStartHook ?_ (fun tid hc th hth he => ?_) hr
    · unfold ThreadsInv; rw [Sys.workers_setTask]; exacts [h, rfl]
    · simp only [Op.allowed, hc, List.all_eq_true, bne_iff_ne, ne_eq] at ha
      exact ha th hth he

theorem ThreadsInv.rtapiTaskStop (h : ThreadsInv s) {id : Int} :
    ThreadsInv (rtapiTaskStop c s id).sys := by
  unfold Preempt.rtapiTaskStop
  split
  · exact h
  · exact Workers.Inv.of_owesLess h rfl (Sys.owesLess_setExtra (by rfl) (.inl (by rfl)))

@[simp] theorem Sys.workers_rtapiTaskUpdateStatsHook {self : Nat} {rusage : Option Int} :
    (rtapiTaskUpdateStatsHook c s self rusage).sys.workers = s.workers := by
  unfold rtapiTaskUpdateStatsHook; split_ifs <;> [rfl; cases rusage <;> rfl]

theorem ThreadsInv.realtimeThreadBegin (h : ThreadsInv s) {th : Thread} (hth : th ∈ s.threads)
    {now : Timespec} {rusage startup : Option Int} :
    ThreadsInv (realtimeThreadBegin c s th now rusage startup).sys := by
  unfold ThreadsInv Preempt.realtimeThreadBegin; rw [Sys.workers_rtapiTaskUpdateStatsHook]
  exact Workers.Inv.move h hth rfl (Sys.owesLess_setPc (Sys.owesLess_setExtra rfl (.inl rfl)))
    fun hx => absurd hx (by decide)

theorem ThreadsInv.realtimeThreadEnd (h : ThreadsInv s) {th : Thread} (hth : th ∈ s.threads) :
    ThreadsInv (realtimeThreadEnd s th).sys :=
  Workers.Inv.move h hth rfl (Sys.owesLess_setPc (Sys.owesLess_setExtra rfl (.inr one_ne_zero)))
    fun _ hi =>
    absurd (Sys.owes_iff.1 hi).2.2 (by
      simp only [Preempt.realtimeThreadEnd, Sys.setPc_extra, Sys.setExtra_extra_self]
      exact one_ne_zero)

theorem ThreadsInv.rtapiWaitHook (h : ThreadsInv s) {th : Thread} (hth : th ∈ s.threads)
    {now : Timespec} {rusage : Option Int} : ThreadsInv (rtapiWaitHook c s th now rusage).sys := by
  unfold Preempt.rtapiWaitHook
  split
  next hd =>
    -- `deleted` is set: the worker ends, and its slot owes none
    exact Workers.Inv.move h hth rfl (Workers.OwesLess.refl _) fun _ hi =>
      hd (Sys.owes_iff.1 hi).2.2
  dsimp only
  split
  · -- a miss also writes statistics, which the protocol does not see
    unfold ThreadsInv; rw [Sys.workers_setStatus, Sys.workers_rtapiTaskUpdateStatsHook]
    exact Workers.Inv.of_owesLess h rfl (Sys.owesLess_setExtra rfl (.inl rfl))
  · exact Workers.Inv.of_owesLess h rfl (Sys.owesLess_setExtra rfl (.inl rfl))

/-- **Every allowed step keeps the invariant.** -/
theorem ThreadsInv.step (h : ThreadsInv s) {o : Op} {r : Result} (ha : o.allowed c s = true)
    (hr : o.run c s = some r) : ThreadsInv r.sys := by
  cases o with
  | clockSetPeriod n => cases hr; exact h.rtapiClockSetPeriod
  | taskNew => cases hr; exact h.rtapiTaskNew
  | taskDelete id => cases hr; exact h.rtapiTaskDelete ha
  | taskStart id periodNsec e => exact h.rtapiTaskStart ha hr
  | taskStop id => cases hr; exact h.rtapiTaskStop
  | begin tid now rusage startup =>
    obtain ⟨th, hth, rfl⟩ := Option.map_eq_some'.1 hr
    exact h.realtimeThreadBegin (Sys.threadAt_spec hth).1
  | finish tid =>
    obtain ⟨th, hth, rfl⟩ := Option.map_eq_some'.1 hr
    exact h.realtimeThreadEnd (Sys.threadAt_spec hth).1
  | wait tid now rusage =>
    obtain ⟨th, hth, rfl⟩ := Option.map_eq_some'.1 hr
    exact h.rtapiWaitHook (Sys.threadAt_spec hth).1

theorem threadsInv_of_reachable (h : Reachable c s) : ThreadsInv s := by
  induction h with
  | init => exact threadsInv_init
  | step _ _ ha hr ih => exact ih.step ha hr

/-! ## What `_rtapi_task_delete_hook` joins -/

/-- The hook on a slot whose `deleted` is clear, the unjoined thread `th` holding the stored
handle: it joins `th`, frees the stack, and leaves no unjoined thread with `th`'s identifier. -/
theorem rtapiTaskDeleteHook_of_running (hd : (s.extra i).deleted = 0) {th : Thread}
    (hth : th ∈ s.threads) (ht : th.tid = (s.extra i).thread) :
    (rtapiTaskDeleteHook s i).2 = [.join th.tid, .free (s.extra i).stackaddr] ∧
      ∀ w ∈ (rtapiTaskDeleteHook s i).1.threads, w.tid ≠ th.tid := by
  have hany : s.threads.any (·.tid == (s.extra i).thread) = true :=
    List.any_eq_true.2 ⟨th, hth, beq_iff_eq.2 ht⟩
  refine ⟨by simp only [rtapiTaskDeleteHook, hd, hany, ht, if_true]; rfl, fun w hw => ?_⟩
  simp only [rtapiTaskDeleteHook, hd, if_true] at hw
  simpa only [joinThread, List.mem_filter, decide_eq_true_eq, ht] using (List.mem_filter.1 hw).2

/-- The hook on a slot whose `deleted` is set joins nothing. -/
theorem rtapiTaskDeleteHook_of_deleted (hd : (s.extra i).deleted ≠ 0) :
    (rtapiTaskDeleteHook s i).2 = [.free (s.extra i).stackaddr] ∧
      (rtapiTaskDeleteHook s i).1.threads = s.threads := by
  simp only [rtapiTaskDeleteHook, if_neg hd, Sys.setExtra_threads, and_self]

/-- **`_rtapi_task_delete_hook` and the worker.** In a reachable state, on a valid slot whose
latest start created a worker and whose `deleted` is clear, the hook joins exactly the slot's
running worker, then frees the stack, and no unjoined thread keeps the worker's identifier. On a
slot whose `deleted` is set it joins nothing and leaves the thread table as it was. -/
theorem rtapiTaskDeleteHook_joins_worker (h : Reachable c s) (hv : s.Valid i) :
    ((s.spawn i).latest = true → (s.extra i).deleted = 0 → ∃ th, s.RunningWorker i th ∧
      (rtapiTaskDeleteHook s i).2 = [.join th.tid, .free (s.extra i).stackaddr] ∧
      ∀ w ∈ (rtapiTaskDeleteHook s i).1.threads, w.tid ≠ th.tid) ∧
    ((s.extra i).deleted ≠ 0 → (rtapiTaskDeleteHook s i).2 = [.free (s.extra i).stackaddr] ∧
      (rtapiTaskDeleteHook s i).1.threads = s.threads) := by
  refine ⟨fun hl hd => ?_, rtapiTaskDeleteHook_of_deleted⟩
  obtain ⟨th, hw⟩ := (threadsInv_of_reachable h).worker hv hl hd
  exact ⟨th, hw, rtapiTaskDeleteHook_of_running hd hw.1 hw.2.1⟩

theorem rtapiTaskDeleteHook_joins_started_worker :
    ∃ th, (stateAfter config64 [.clockSetPeriod 1000000, .taskNew 50 (-1) 0 (some 4096),
        .taskStart 1 1000000 (.ok 7)]).RunningWorker 1 th ∧ th.tid = 7 :=
  let ⟨th, hw, _⟩ := (rtapiTaskDeleteHook_joins_worker (reachable_stateAfter _) (by decide)).1
    (by decide) (by decide)
  ⟨th, hw, hw.2.1.trans (by decide)⟩

/-- The generic `rtapi_task_delete` on a valid handle calls the hook, then clears the slot's
magic: what the hook joins and frees, with `0` returned. In a reachable state it joins exactly the
slot's running worker when `deleted` is clear, and nothing when it is set. -/
theorem rtapiTaskDelete_joins_worker {id : Int} (h : Reachable c s)
    (hc : checkTask c s id = some i) :
    ((s.spawn i).latest = true → (s.extra i).deleted = 0 → ∃ th, s.RunningWorker i th ∧
      (rtapiTaskDelete c s id).ret = 0 ∧
      (rtapiTaskDelete c s id).events = [.join th.tid, .free (s.extra i).stackaddr] ∧
      ∀ w ∈ (rtapiTaskDelete c s id).sys.threads, w.tid ≠ th.tid) ∧
    ((s.extra i).deleted ≠ 0 → (rtapiTaskDelete c s id).ret = 0 ∧
      (rtapiTaskDelete c s id).events = [.free (s.extra i).stackaddr] ∧
      (rtapiTaskDelete c s id).sys.threads = s.threads) := by
  simp only [Preempt.rtapiTaskDelete, hc, Sys.setTask_threads, true_and]
  refine ⟨fun hl hd => ?_, rtapiTaskDeleteHook_of_deleted⟩
  obtain ⟨th, hw⟩ := (threadsInv_of_reachable h).worker (checkTask_eq_some.1 hc).2.2.2 hl hd
  exact ⟨th, hw, rtapiTaskDeleteHook_of_running hd hw.1 hw.2.1⟩

/-! ## The CPU of a started worker -/

/-- Checks that pass: `realtime_set_affinity` returned `0`, and they printed what it printed. -/
theorem initChecks_passed {t : TaskData} {e : StartEnv} (h : (initChecks c i t e).1 = false) :
    (realtimeSetAffinity i t.cpu e.allowed e.setAffinityOk).1 = 0 ∧
      (initChecks c i t e).2 = (realtimeSetAffinity i t.cpu e.allowed e.setAffinityOk).2 := by
  unfold initChecks at h ⊢
  split_ifs at h ⊢ with ha
  exact ⟨not_not.1 ha, rfl⟩

/-- **A start hook that returns `0` pins its worker to one allowed CPU**: the task's `cpu` when it
is `0` or more, the highest CPU the worker may run on when it is negative; no other CPU is
pinned. -/
theorem rtapiTaskStartHook_pins_worker {e : StartEnv} {r : Result}
    (hr : rtapiTaskStartHook c s i e = some r) (h0 : r.ret = 0) :
    ∃ x ∈ cpuSet e.allowed, (∀ y, Event.setAffinity y ∈ r.events ↔ y = x) ∧
      (0 ≤ (s.task i).cpu → x = (s.task i).cpu.toNat) ∧
      ∀ hS : (cpuSet e.allowed).Nonempty, (s.task i).cpu < 0 → x = (cpuSet e.allowed).max' hS := by
  unfold rtapiTaskStartHook at hr
  split at hr
  · cases hr; simp [enomem] at h0
  · obtain ⟨⟨s', evs⟩, hi, rfl⟩ := Option.map_eq_some'.1 hr
    by_cases hp : s.period = 0
    · simp [realtimeThreadInit, hp] at hi
    rw [realtimeThreadInit, if_neg (by simpa using hp), Option.some.injEq] at hi
    cases hi
    have hk : (initChecks c i (raisePeriod s.period (s.task i)) e).1 = false := by
      by_contra hk; simp [hk, enomem] at h0
    obtain ⟨ha, he⟩ := initChecks_passed hk
    obtain ⟨x, hx, hpin, h₁, h₂⟩ := realtimeSetAffinity_eq_zero ha
    refine ⟨x, hx, fun y => ?_, h₁, h₂⟩
    simp [he, hpin, hk]

theorem rtapiTaskStartHook_pins_started_worker :
    ∃ r x, rtapiTaskStartHook config64 (stateAfter config64 [.clockSetPeriod 1000000,
        .taskNew 50 (-1) 0 (some 4096)]) 1 (.ok 7) = some r ∧
      x ∈ cpuSet (StartEnv.ok 7).allowed ∧ ∀ y, Event.setAffinity y ∈ r.events ↔ y = x :=
  let ⟨r, hr⟩ := Option.isSome_iff_exists.1 (by decide : (rtapiTaskStartHook config64
    (stateAfter config64 [.clockSetPeriod 1000000, .taskNew 50 (-1) 0 (some 4096)]) 1
    (.ok 7)).isSome)
  have h0 : r.ret = 0 := by
    have := (by decide : (rtapiTaskStartHook config64 (stateAfter config64
      [.clockSetPeriod 1000000, .taskNew 50 (-1) 0 (some 4096)]) 1 (.ok 7)).map (·.ret) = some 0)
    rw [hr] at this; exact Option.some.inj this
  let ⟨x, hx, he, _⟩ := rtapiTaskStartHook_pins_worker hr h0
  ⟨r, x, hr, hx, he⟩

end Rtapi.Preempt
