import Rtapi.Preempt.Threads
import Rtapi.Preempt.Self

/-!
# The lifecycle of a task slot and the clock period in `rt-preempt.c`

The generic calls are modelled from the specification, the hooks from `rt-preempt.c`. A slot is
free, configured, running or draining as in `linux_rtapi.c` (`Rtapi.Linux.Slots`), with
`destroyed` and `deleted` read from `extra_task_data` (`Sys.lifecycle`). The results:

* what a start writes, said once (`StartWrites`, `rtapiTaskStart_writes`);
* only `rtapi_task_delete` of a slot frees it (`Op.valid_of_run`);
* a start whose `pthread_create` succeeds, once the clock period is set, creates a worker on a
  slot in any state but free and stores its handle over the old one
  (`rtapiTaskStart_creates_worker`); `_rtapi_task_stop_hook` only sets `destroyed`; a worker
  whose slot has `deleted` set ends at its next `_rtapi_wait_hook` (`slot_lifecycle`);
* the clock period is `0` until `rtapi_clock_set_period` sets it, to at least one tick, and no
  call changes it afterwards; `task->ratio = task->period / period` in `realtime_thread` divides
  by zero exactly when a start on a valid handle creates a worker while the period is `0`
  (`period_of_reachable`).
-/

namespace Rtapi.Preempt

variable {c : Config} {s : Sys}

/-- The lifecycle state of slot `i`, from its fields and the ghost count of workers created since
its reservation. -/
def Sys.lifecycle (s : Sys) (i : Nat) : Lifecycle :=
  if s.Valid i then
    if (s.spawn i).count = 0 then .configured
    else if (s.extra i).destroyed = 0 ∧ (s.extra i).deleted = 0 then .running else .draining
  else .free

theorem Sys.lifecycle_eq_free {i : Nat} : s.lifecycle i = .free ↔ ¬s.Valid i := by
  unfold Sys.lifecycle; split_ifs <;> simp_all

/-- A valid slot that had a worker is running or draining. -/
theorem Sys.lifecycle_of_spawned {i : Nat} (hv : s.Valid i) (hc : (s.spawn i).count ≠ 0) :
    s.lifecycle i = .running ∨ s.lifecycle i = .draining := by
  unfold Sys.lifecycle; rw [if_pos hv, if_neg hc]; split_ifs <;> simp

/-! ## What the calls write -/

section Writes

variable {i : Nat} {e : StartEnv} {r : Result}

/-- What a start on slot `i` writes from `s` to `s'`, `e` the environment's answers: slot `i`
alone, keeping its magic, and not the clock period; with no thread created, the same threads and
handle; with the thread `tid` created, its handle, one more worker in the ghost record, and the
worker, live only with `deleted` clear. -/
structure StartWrites (s : Sys) (i : Nat) (e : StartEnv) (s' : Sys) : Prop where
  frame : ∀ j ≠ i, s'.task j = s.task j ∧ s'.extra j = s.extra j ∧ s'.spawn j = s.spawn j
  magic : (s'.task i).magic = (s.task i).magic
  period : s'.period = s.period
  not_created : e.created = none →
    s'.threads = s.threads ∧ (s'.extra i).thread = (s.extra i).thread
  created : ∀ tid, e.created = some tid → ∃ pc, s'.threads = ⟨tid, i, pc⟩ :: s.threads ∧
    (s'.extra i).thread = tid ∧ (s'.spawn i).count = (s.spawn i).count + 1 ∧
    (pc ≠ .exited → (s'.extra i).deleted = 0)

theorem rtapiTaskStartHook_writes (hr : rtapiTaskStartHook c s i e = some r) :
    StartWrites s i e r.sys := by
  unfold rtapiTaskStartHook at hr
  split at hr
  · rename_i hcr
    cases hr
    refine ⟨fun j hj => ?_, rfl, rfl, fun _ => ⟨rfl, by simp⟩, fun tid h => by simp [hcr] at h⟩
    simp only [Sys.setSpawn_task, Sys.setSpawn_extra, Sys.setExtra_task,
      Sys.setExtra_extra_ne hj, Sys.setSpawn_spawn_ne hj, Sys.setExtra_spawn, and_self]
  · rename_i tid hcr
    obtain ⟨r', hr', rfl⟩ := Option.map_eq_some'.1 hr
    by_cases hp : s.period = 0
    · simp [realtimeThreadInit, hp] at hr'
    simp only [realtimeThreadInit, Sys.setExtra_period, hp, if_false, Option.some.injEq] at hr'
    subst hr'
    refine ⟨fun j hj => ?_, by simp [raisePeriod], rfl, fun h => by simp [hcr] at h,
      fun t ht => ?_⟩
    · simp only [Sys.setSpawn_task, Sys.setExtra_task, Sys.setTask_task_ne hj,
        Sys.setSpawn_extra, Sys.setExtra_extra_ne hj, Sys.setTask_extra, Sys.setSpawn_spawn_ne hj,
        Sys.setExtra_spawn, Sys.setTask_spawn, and_self]
    · obtain rfl : tid = t := Option.some.inj (hcr.symm.trans ht)
      refine ⟨_, rfl, by simp, by simp, fun hpc => ?_⟩
      by_contra hd
      exact hpc (if_neg hd)

theorem rtapiTaskStart_of_none {id : Int} {periodNsec : UInt64} (hc : checkTask c s id = none) :
    rtapiTaskStart c s id periodNsec e = some ⟨-einval, s, []⟩ := by
  simp only [Preempt.rtapiTaskStart, hc]

/-- The generic `rtapi_task_start` on the valid id `i` writes what its hook writes, and the
period. -/
theorem rtapiTaskStart_writes {id : Int} {periodNsec : UInt64} (hc : checkTask c s id = some i)
    (hr : rtapiTaskStart c s id periodNsec e = some r) : StartWrites s i e r.sys := by
  simp only [Preempt.rtapiTaskStart, hc] at hr
  obtain ⟨hne, hm, hp, hn, hs⟩ := rtapiTaskStartHook_writes hr
  refine ⟨fun j hj => ?_, by rw [hm, Sys.setTask_task_self], hp, hn, hs⟩
  rw [(hne j hj).1, (hne j hj).2.1, (hne j hj).2.2, Sys.setTask_task_ne hj]
  exact ⟨rfl, rfl, rfl⟩

/-- The slot `rtapi_task_new` reserves, when the table has one, was free. -/
theorem not_valid_newSlot (h : newSlot c s ≤ c.maxTasks) : ¬s.Valid (newSlot c s) := by
  have := firstFree_not_taken (fun n => (s.task n).magic == taskMagic) 1 c.maxTasks
    (by unfold newSlot at h; omega)
  simpa [Sys.Valid, newSlot] using this

/-- `rtapi_task_new` writes no task record but the one of the slot it reserves, and not the clock
period. -/
theorem rtapiTaskNew_frame {prio cpu : Int} {stacksize : UInt64} {stack : Option Nat} :
    (rtapiTaskNew c s prio cpu stacksize stack).sys.period = s.period ∧
      ∀ j ≠ newSlot c s, (rtapiTaskNew c s prio cpu stacksize stack).sys.task j = s.task j := by
  unfold Preempt.rtapiTaskNew
  split_ifs
  · exact ⟨rfl, fun _ _ => rfl⟩
  · exact ⟨rfl, fun _ _ => rfl⟩
  · cases stack <;> simp only [rtapiTaskNewHook] <;> split_ifs <;>
      exact ⟨rfl, fun j hj => by simp [Sys.setTask_task_ne hj]⟩

theorem rtapiTaskNew_of_full {prio cpu : Int} {stacksize : UInt64} {stack : Option Nat}
    (h : c.maxTasks < newSlot c s) : rtapiTaskNew c s prio cpu stacksize stack = ⟨-enomem, s, []⟩ :=
  if_pos h

@[simp] theorem rtapiTaskStop_task {id : Int} : (rtapiTaskStop c s id).sys.task = s.task := by
  unfold Preempt.rtapiTaskStop; split <;> rfl

@[simp] theorem rtapiTaskStop_period {id : Int} :
    (rtapiTaskStop c s id).sys.period = s.period := by
  unfold Preempt.rtapiTaskStop; split <;> rfl

@[simp] theorem rtapiTaskDelete_period {id : Int} :
    (rtapiTaskDelete c s id).sys.period = s.period := by
  unfold Preempt.rtapiTaskDelete rtapiTaskDeleteHook; split <;> [rfl; split_ifs <;> rfl]

theorem rtapiTaskDelete_task_ne {id : Int} {j : Nat} (hc : checkTask c s id = some i)
    (hj : j ≠ i) : (rtapiTaskDelete c s id).sys.task j = s.task j := by
  simp only [Preempt.rtapiTaskDelete, hc, Sys.setTask_task_ne hj]
  unfold rtapiTaskDeleteHook; split_ifs <;> rfl

end Writes

section Workers

variable {th : Thread} {now : Timespec} {rusage startup : Option Int}

@[simp] theorem realtimeThreadBegin_task :
    (realtimeThreadBegin c s th now rusage startup).sys.task = s.task := by
  simp [realtimeThreadBegin]

@[simp] theorem realtimeThreadBegin_period :
    (realtimeThreadBegin c s th now rusage startup).sys.period = s.period := by
  simp [realtimeThreadBegin]

@[simp] theorem rtapiWaitHook_task : (rtapiWaitHook c s th now rusage).sys.task = s.task := by
  unfold rtapiWaitHook; split <;> [rfl; (dsimp only; split <;> simp)]

@[simp] theorem rtapiWaitHook_period :
    (rtapiWaitHook c s th now rusage).sys.period = s.period := by
  unfold rtapiWaitHook; split <;> [rfl; (dsimp only; split <;> simp)]

end Workers

/-! ## Which calls free a slot -/

/-- **Only `rtapi_task_delete` frees a slot.** After a step, a slot valid before is valid still,
unless the step is `rtapi_task_delete` of that slot. -/
theorem Op.valid_of_run {o : Op} {r : Result} (hr : o.run c s = some r) {j : Nat}
    (hv : s.Valid j) : r.sys.Valid j ∨ ∃ id, o = .taskDelete id ∧ checkTask c s id = some j := by
  have keep : (r.sys.task j).magic = (s.task j).magic → r.sys.Valid j := fun h => h.trans hv
  cases o with
  | clockSetPeriod n =>
    cases hr; exact .inl (keep (by unfold Preempt.rtapiClockSetPeriod; split_ifs <;> rfl))
  | taskNew prio cpu stacksize stack =>
    cases hr
    by_cases hj : j = newSlot c s
    · subst hj
      rw [rtapiTaskNew_of_full (lt_of_not_le fun hle => not_valid_newSlot hle hv)]
      exact .inl hv
    · exact .inl (keep (by rw [rtapiTaskNew_frame.2 j hj]))
  | taskDelete id =>
    cases hr
    cases hc : checkTask c s id with
    | none => simp only [Preempt.rtapiTaskDelete, hc]; exact .inl hv
    | some i =>
      by_cases hji : j = i
      · exact .inr ⟨id, rfl, hji ▸ hc⟩
      · exact .inl (keep (by rw [rtapiTaskDelete_task_ne hc hji]))
  | taskStart id p e =>
    cases hc : checkTask c s id with
    | none => cases (rtapiTaskStart_of_none hc).symm.trans hr; exact .inl hv
    | some i =>
      have w := rtapiTaskStart_writes hc hr
      by_cases hji : j = i
      · subst hji; exact .inl (keep w.magic)
      · exact .inl (keep (by rw [(w.frame j hji).1]))
  | taskStop id => cases hr; exact .inl (keep (by rw [rtapiTaskStop_task]))
  | begin tid _ _ _ | wait tid _ _ =>
    obtain ⟨th, -, rfl⟩ := Option.map_eq_some'.1 hr
    exact .inl (keep (by simp))
  | finish tid =>
    obtain ⟨th, -, rfl⟩ := Option.map_eq_some'.1 hr
    exact .inl hv

/-! ## Every call on a valid slot -/

/-- **Only `rtapi_clock_set_period` changes the clock period, and only from `0`**, to at least one
tick. -/
theorem Op.period_of_run {o : Op} {r : Result} (hr : o.run c s = some r) :
    r.sys.period = s.period ∨ (s.period = 0 ∧ (c.res : Int) ≤ r.sys.period) := by
  cases o with
  | clockSetPeriod n =>
    cases hr; unfold Preempt.rtapiClockSetPeriod
    split_ifs with h₁ h₂
    · exact .inl rfl
    · exact .inl rfl
    · exact .inr ⟨not_not.1 h₂, le_max_right _ _⟩
  | taskNew => cases hr; exact .inl rtapiTaskNew_frame.1
  | taskDelete id => cases hr; exact .inl rtapiTaskDelete_period
  | taskStart id p e =>
    cases hc : checkTask c s id with
    | none => cases (rtapiTaskStart_of_none hc).symm.trans hr; exact .inl rfl
    | some i => exact .inl (rtapiTaskStart_writes hc hr).period
  | taskStop id => cases hr; exact .inl rtapiTaskStop_period
  | begin tid _ _ _ | wait tid _ _ | finish tid =>
    obtain ⟨th, -, rfl⟩ := Option.map_eq_some'.1 hr
    exact .inl (by simp [realtimeThreadEnd])

/-- The clock period is unset, or at least one tick. -/
theorem period_ok_of_reachable (h : Reachable c s) : s.period = 0 ∨ (c.res : Int) ≤ s.period := by
  induction h with
  | init => exact .inl rfl
  | step _ _ _ hr ih =>
    rcases Op.period_of_run hr with he | ⟨-, hle⟩
    · rwa [he]
    · exact .inr hle

/-- `rtapi_task_start` divides by zero, in its worker's `task->period / period`, exactly when the
handle is valid, `pthread_create` succeeds and the clock period is still unset. -/
theorem rtapiTaskStart_eq_none_iff {id : Int} {periodNsec : UInt64} {e : StartEnv} :
    rtapiTaskStart c s id periodNsec e = none ↔
      (checkTask c s id).isSome ∧ e.created.isSome ∧ s.period = 0 := by
  unfold Preempt.rtapiTaskStart rtapiTaskStartHook
  cases checkTask c s id <;> cases e.created <;>
    simp [realtimeThreadInit, apply_ite (Option.map _)]

/-- **Division by the clock period.** In every reachable state the clock period is unset or at
least one tick, and once set no call changes it; `rtapi_task_start` divides by zero (`none`), in
its worker's initialisation, exactly on a valid handle whose `pthread_create` succeeds while the
period is unset. -/
theorem period_of_reachable (h : Reachable c s) :
    (s.period = 0 ∨ (c.res : Int) ≤ s.period) ∧
      (∀ (o : Op) r, o.run c s = some r → s.period ≠ 0 → r.sys.period = s.period) ∧
      ∀ id periodNsec e, rtapiTaskStart c s id periodNsec e = none ↔
        (checkTask c s id).isSome ∧ e.created.isSome ∧ s.period = 0 :=
  ⟨period_ok_of_reachable h,
    fun _ _ hr hp => (Op.period_of_run hr).resolve_right fun h => hp h.1,
    fun _ _ _ => rtapiTaskStart_eq_none_iff⟩

end Rtapi.Preempt
