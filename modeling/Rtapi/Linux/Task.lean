import Rtapi.Linux.Module

/-!
# Task admission in `linux_rtapi.c`

The calls that create, configure and remove a task slot without starting a thread:
`rtapi_clock_set_period`, the priority helpers, `rtapi_task_new`, `rtapi_task_delete`, and the
family `rtapi_task_stop`, `rtapi_task_pause`, `rtapi_task_resume`, `rtapi_task_set_period`, which
share one validation (`checkTask`) and differ in what they do to the slot (`withTask`).

`rtapi_task_new` reserves the first slot whose magic is not `TASK_MAGIC` before it checks the
priority, and its invalid-priority exit does not release it: `rtapiTaskNew_invalid_prio` says
what that exit leaves, `rtapiTaskNew_cases` what a success does. The priority helpers
`rtapi_prio_next_higher` and `rtapi_prio_next_lower` return a priority of the range for any
argument, so a task created with one never takes that exit, and inside the range each undoes the
other (`rtapiPrioNext_roundTrip`).
-/

namespace Rtapi.Linux

/-! ## The clock period and the priority helpers -/

/-- The period `rtapi_clock_set_period(nsecs)` stores: `(nsecs / res) * res`, computed in
`unsigned long` and assigned to the `int` `period`, replaced by `res` when below `1`. -/
def roundedPeriod (os : Os) (nsecs : UInt64) : Int :=
  if cInt (nsecs.toNat / os.res * os.res) < 1 then os.res else cInt (nsecs.toNat / os.res * os.res)

/-- `rtapi_clock_set_period(nsecs)`. -/
def rtapiClockSetPeriod (os : Os) (s : Sys) (nsecs : UInt64) : Result :=
  if nsecs.toNat = 0 then ⟨s.period, s, []⟩
  else if s.period ≠ 0 then ⟨-einval, s, [.msg .err .setPeriodTwice]⟩
  else ⟨roundedPeriod os nsecs, { s with period := roundedPeriod os nsecs }, []⟩

/-- The stored clock period is a tick between `1` and `INT_MAX`. -/
theorem roundedPeriod_range (os : Os) (nsecs : UInt64) :
    1 ≤ roundedPeriod os nsecs ∧ roundedPeriod os nsecs ≤ intMax := by
  have := os.res_pos
  have := os.res_lt
  have := cInt_le (nsecs.toNat / os.res * os.res)
  unfold roundedPeriod; split_ifs <;> unfold intMax at * <;> omega

/-- `rtapi_clock_set_period` writes only the clock period. -/
theorem rtapiClockSetPeriod_frame (os : Os) (s : Sys) (nsecs : UInt64) :
    ∃ p, (rtapiClockSetPeriod os s nsecs).sys = { s with period := p } := by
  unfold rtapiClockSetPeriod; split_ifs <;> exact ⟨_, rfl⟩

/-- A refused `rtapi_clock_set_period` leaves the state as it was. -/
theorem rtapiClockSetPeriod_sys_of_neg {os : Os} {s : Sys} {nsecs : UInt64}
    (h : (rtapiClockSetPeriod os s nsecs).ret < 0) : (rtapiClockSetPeriod os s nsecs).sys = s := by
  unfold rtapiClockSetPeriod at h ⊢
  split_ifs at h ⊢
  · rfl
  · rfl
  · have := (roundedPeriod_range os nsecs).1
    dsimp only at h; omega

/-- `rtapi_prio_highest()`. -/
def rtapiPrioHighest (os : Os) : Int := os.prioHighest

/-- `rtapi_prio_lowest()`. -/
def rtapiPrioLowest (os : Os) : Int := os.prioLowest

/-- `rtapi_prio_next_higher(prio)`. -/
def rtapiPrioNextHigher (os : Os) (prio : Int) : Int :=
  if prio ≥ rtapiPrioHighest os then rtapiPrioHighest os
  else if prio < rtapiPrioLowest os then rtapiPrioLowest os else prio + 1

/-- `rtapi_prio_next_lower(prio)`. -/
def rtapiPrioNextLower (os : Os) (prio : Int) : Int :=
  if prio ≤ rtapiPrioLowest os then rtapiPrioLowest os
  else if prio > rtapiPrioHighest os then rtapiPrioHighest os else prio - 1

/-! ## Validation -/

/-- The check every task call opens with: `task_id < 0 || task_id >= MAX_TASKS` and
`task->magic != TASK_MAGIC` both reject; otherwise the slot's index. -/
def checkTask (s : Sys) (id : Int) : Option Nat :=
  if id < 0 ∨ id ≥ maxTasks then none
  else if (s.task id.toNat).magic ≠ taskMagic then none else some id.toNat

theorem checkTask_eq_some {s : Sys} {id : Int} {i : Nat} :
    checkTask s id = some i ↔ id = i ∧ i < maxTasks ∧ s.Valid i := by
  unfold checkTask Sys.Valid
  split_ifs with h₁ h₂
  · simp only [reduceCtorEq, false_iff, not_and]; omega
  · simp only [reduceCtorEq, false_iff, not_and]
    rintro rfl - h; exact h₂ h
  · simp only [Option.some.injEq]
    constructor
    · rintro rfl; exact ⟨by omega, by omega, not_not.1 h₂⟩
    · rintro ⟨rfl, -, -⟩; simp

theorem checkTask_eq_none {s : Sys} {id : Int} :
    checkTask s id = none ↔ ∀ i : Nat, id = i → i < maxTasks → ¬s.Valid i := by
  rw [← not_iff_not, ← Ne, Option.ne_none_iff_exists']
  simp only [checkTask_eq_some, not_forall, not_not, exists_prop]

/-- The calls that validate the handle, then change at most the slot itself and return `ret`. -/
def withTask (s : Sys) (id : Int) (ret : Int) (upd : TaskData → TaskData) : Result :=
  match checkTask s id with
  | none => ⟨-einval, s, []⟩
  | some i => ⟨ret, s.setTask i (upd (s.task i)), []⟩

/-- `rtapi_task_stop(task_id)`: sets `destroyed`. -/
def rtapiTaskStop (s : Sys) (id : Int) : Result :=
  withTask s id 0 fun t => { t with destroyed := 1 }

/-- `rtapi_task_pause(task_id)`: unsupported. -/
def rtapiTaskPause (s : Sys) (id : Int) : Result := withTask s id (-enosys) fun t => t

/-- `rtapi_task_resume(task_id)`: unsupported. -/
def rtapiTaskResume (s : Sys) (id : Int) : Result := withTask s id (-enosys) fun t => t

/-- `rtapi_task_set_period(task_id, period_nsec)`: stores the period in the `int` field. -/
def rtapiTaskSetPeriod (s : Sys) (id : Int) (periodNsec : UInt64) : Result :=
  withTask s id 0 fun t => { t with period := cInt periodNsec.toNat }

section WithTask

variable {s : Sys} {id ret : Int} {upd : TaskData → TaskData}

theorem withTask_of_none (h : checkTask s id = none) :
    withTask s id ret upd = ⟨-einval, s, []⟩ := by
  simp [withTask, h]

theorem withTask_of_some {i : Nat} (h : checkTask s id = some i) :
    withTask s id ret upd = ⟨ret, s.setTask i (upd (s.task i)), []⟩ := by
  simp [withTask, h]

theorem withTask_sys : (withTask s id ret upd).sys = match checkTask s id with
      | none => s
      | some i => s.setTask i (upd (s.task i)) := by
  cases h : checkTask s id <;> simp [withTask_of_none, withTask_of_some, h]

@[simp] theorem withTask_period : (withTask s id ret upd).sys.period = s.period := by
  rw [withTask_sys]; split <;> rfl

theorem withTask_proj {α : Type} (f : TaskData → α) (hb : ∀ t, f (upd t) = f t) (j : Nat) :
    f ((withTask s id ret upd).sys.task j) = f (s.task j) := by
  rw [withTask_sys]; split
  · rfl
  · exact Sys.setTask_proj f (hb _) j

/-- A call of the family writes no slot but the one its handle names. -/
theorem withTask_task_ne {j : Nat} (hj : (j : Int) ≠ id) :
    (withTask s id ret upd).sys.task j = s.task j := by
  cases hc : checkTask s id with
  | none => rw [withTask_of_none hc]
  | some i =>
    rw [withTask_of_some hc]
    exact Sys.setTask_task_ne fun h => hj (h ▸ (checkTask_eq_some.1 hc).1.symm)

/-- A call of the family that returns an error leaves the state as it was, when on a valid handle
it returns no error or writes nothing. -/
theorem withTask_sys_of_neg (h : (withTask s id ret upd).ret < 0)
    (hu : ret < 0 → ∀ t, upd t = t) : (withTask s id ret upd).sys = s := by
  cases hc : checkTask s id with
  | none => rw [withTask_of_none hc]
  | some i =>
    rw [withTask_of_some hc] at h ⊢
    rw [hu h, Sys.setTask_task_eq_self]

/-- A call of the family returns `-EINVAL` exactly on a bad handle, when its own value differs. -/
theorem withTask_ret_eq_einval (hb : ret ≠ -einval) :
    (withTask s id ret upd).ret = -einval ↔ checkTask s id = none := by
  cases h : checkTask s id with
  | none => simp [withTask_of_none h]
  | some i => simp [withTask_of_some h, hb]

end WithTask

/-! ## `rtapi_task_new` -/

/-- The scan `while ((n < MAX_TASKS) && (task_array[n].magic == TASK_MAGIC)) n++`. -/
def newSlot (s : Sys) : Nat := firstFree (fun n => (s.task n).magic == taskMagic) 0 maxTasks

/-- The slot after the reservation `task->magic = TASK_MAGIC`; the ghost history restarts. -/
def reserve (s : Sys) (n : Nat) : Sys :=
  (s.setTask n { s.task n with magic := taskMagic }).setSpawn n ⟨0, false⟩

/-- `rtapi_task_new(taskcode, arg, prio, owner, stacksize, uses_fp, name, cpu_id)`, where `stack`
is what `malloc` returns (`none` for `NULL`). The name is copied only for messages and is left
out. -/
def rtapiTaskNew (os : Os) (s : Sys) (taskcode arg : Nat) (prio owner : Int) (stacksize : UInt64)
    (usesFp cpuId : Int) (stack : Option Nat) : Result :=
  match stack with
  | none => ⟨-enomem, s, [.msg .err .stackAllocFailed]⟩
  | some addr =>
    if newSlot s = maxTasks then ⟨-enomem, s, [.free addr]⟩
    else if prio < rtapiPrioLowest os ∨ prio > rtapiPrioHighest os then
      ⟨-einval, reserve s (newSlot s),
        [.msg .err (.invalidPriority (newSlot s) prio (rtapiPrioHighest os) (rtapiPrioLowest os)),
          .free addr]⟩
    else
      ⟨newSlot s, (reserve s (newSlot s)).setTask (newSlot s)
        { s.task (newSlot s) with
          magic := taskMagic, owner, arg, stacksize := max stacksize.toNat 16384,
          stackaddr := addr, destroyed := 0, taskcode, prio, usesFp, cpu := cpuId }, []⟩

section New

variable {os : Os} {s : Sys} {taskcode arg : Nat} {prio owner : Int} {stacksize : UInt64}
  {usesFp cpuId : Int} {stack : Option Nat}

theorem newSlot_le (s : Sys) : newSlot s ≤ maxTasks := firstFree_le _ 0 _

theorem valid_of_lt_newSlot {j : Nat} (h : j < newSlot s) : s.Valid j := by
  simpa [Sys.Valid] using firstFree_taken_of_lt _ 0 maxTasks j (Nat.zero_le _) h

theorem not_valid_newSlot (h : newSlot s < maxTasks) : ¬s.Valid (newSlot s) := by
  have := firstFree_not_taken (fun n => (s.task n).magic == taskMagic) 0 maxTasks (by simpa using h)
  simpa [Sys.Valid, newSlot, beq_eq_false_iff_ne] using this

theorem newSlot_eq_maxTasks_iff : newSlot s = maxTasks ↔ ∀ j < maxTasks, s.Valid j := by
  refine ⟨fun he j hj => valid_of_lt_newSlot (he ▸ hj), fun hall => ?_⟩
  by_contra hne
  have hlt := lt_of_le_of_ne (newSlot_le s) hne
  exact not_valid_newSlot hlt (hall _ hlt)

@[simp] theorem reserve_task_self (n : Nat) :
    (reserve s n).task n = { s.task n with magic := taskMagic } := by simp [reserve]
theorem reserve_task_ne {n j : Nat} (h : j ≠ n) : (reserve s n).task j = s.task j := by
  simp [reserve, Sys.setTask_task_ne h]
@[simp] theorem reserve_spawn_self (n : Nat) : (reserve s n).spawn n = ⟨0, false⟩ := by
  simp [reserve]
theorem reserve_spawn_ne {n j : Nat} (h : j ≠ n) : (reserve s n).spawn j = s.spawn j := by
  simp [reserve, Sys.setSpawn_spawn_ne h]
@[simp] theorem reserve_period (n : Nat) : (reserve s n).period = s.period := rfl
@[simp] theorem reserve_modules (n : Nat) : (reserve s n).modules = s.modules := rfl
@[simp] theorem reserve_threads (n : Nat) : (reserve s n).threads = s.threads := rfl

/-- The first free slot depends only on which slots are valid. -/
theorem newSlot_congr {s' : Sys} (h : ∀ j, s'.Valid j ↔ s.Valid j) : newSlot s' = newSlot s := by
  unfold newSlot
  congr 1
  funext j
  simpa [Sys.Valid] using h j

/-- **Everything `rtapi_task_new` can do.** Fail with `-ENOMEM` and change nothing; or reserve
the first free slot and fail with `-EINVAL` (an invalid priority); or reserve it, fill it in and
return its index. -/
theorem rtapiTaskNew_cases (os : Os) (s : Sys) (taskcode arg : Nat) (prio owner : Int)
    (stacksize : UInt64) (usesFp cpuId : Int) (stack : Option Nat) :
    let r := rtapiTaskNew os s taskcode arg prio owner stacksize usesFp cpuId stack
    (r.ret = -enomem ∧ r.sys = s) ∨
    (r.ret = -einval ∧ newSlot s < maxTasks ∧ r.sys = reserve s (newSlot s)) ∨
    (r.ret = newSlot s ∧ newSlot s < maxTasks ∧ os.prioLowest ≤ prio ∧
      prio ≤ os.prioHighest ∧
      ∃ t, t.magic = taskMagic ∧ r.sys = (reserve s (newSlot s)).setTask (newSlot s) t) := by
  have := newSlot_le s
  unfold rtapiTaskNew rtapiPrioLowest rtapiPrioHighest
  split
  · exact .inl ⟨rfl, rfl⟩
  · split_ifs with h₁ h₂
    · exact .inl ⟨rfl, rfl⟩
    · exact .inr (.inl ⟨rfl, by omega, rfl⟩)
    · exact .inr (.inr ⟨rfl, by omega, by omega, by omega, _, rfl, rfl⟩)

/-- The slots valid after `rtapi_task_new`: those valid before, and the first free one unless
the call failed with `-ENOMEM`. -/
theorem rtapiTaskNew_valid_iff {j : Nat} :
    (rtapiTaskNew os s taskcode arg prio owner stacksize usesFp cpuId stack).sys.Valid j ↔
      s.Valid j ∨ (j = newSlot s ∧
        (rtapiTaskNew os s taskcode arg prio owner stacksize usesFp cpuId stack).ret ≠
          -enomem) := by
  rcases rtapiTaskNew_cases os s taskcode arg prio owner stacksize usesFp cpuId stack with
    ⟨hr, hs⟩ | ⟨hr, hlt, hs⟩ | ⟨hr, hlt, -, -, t, ht, hs⟩ <;>
    rw [hs, hr] <;> by_cases hj : j = newSlot s
  · simp
  · simp
  · subst hj; simp [Sys.Valid, einval, enomem]
  · simp [Sys.Valid, reserve_task_ne hj, hj]
  · subst hj; simp [Sys.Valid, ht, enomem]
  · simp [Sys.Valid, Sys.setTask_task_ne hj, reserve_task_ne hj, hj]

@[simp] theorem rtapiTaskNew_period :
    (rtapiTaskNew os s taskcode arg prio owner stacksize usesFp cpuId stack).sys.period =
      s.period := by
  rcases rtapiTaskNew_cases os s taskcode arg prio owner stacksize usesFp cpuId stack with
    ⟨-, hs⟩ | ⟨-, -, hs⟩ | ⟨-, -, -, -, t, -, hs⟩ <;> rw [hs] <;> rfl

/-- A successful `rtapi_task_new` returns the least index whose slot is not valid. -/
theorem rtapiTaskNew_ret_nonneg
    (h : 0 ≤ (rtapiTaskNew os s taskcode arg prio owner stacksize usesFp cpuId stack).ret) :
    (rtapiTaskNew os s taskcode arg prio owner stacksize usesFp cpuId stack).ret = newSlot s ∧
      newSlot s < maxTasks ∧ ¬s.Valid (newSlot s) ∧ ∀ j < newSlot s, s.Valid j := by
  rcases rtapiTaskNew_cases os s taskcode arg prio owner stacksize usesFp cpuId stack with
    ⟨hr, -⟩ | ⟨hr, -⟩ | ⟨hr, hlt, -⟩
  · rw [hr] at h; simp [enomem] at h
  · rw [hr] at h; simp [einval] at h
  · exact ⟨hr, hlt, not_valid_newSlot hlt, fun j hj => valid_of_lt_newSlot hj⟩

theorem rtapiTaskNew_ret_nonneg_init :
    (rtapiTaskNew linuxOs Sys.init 0 0 50 0 0 0 (-1) (some 4096)).ret = newSlot Sys.init ∧
      newSlot Sys.init < maxTasks ∧ ¬Sys.init.Valid (newSlot Sys.init) ∧
      ∀ j < newSlot Sys.init, Sys.init.Valid j :=
  rtapiTaskNew_ret_nonneg (by decide)

/-- `rtapi_task_new` returns `-ENOMEM` only when `malloc` fails or every slot is valid. -/
theorem rtapiTaskNew_enomem
    (h : (rtapiTaskNew os s taskcode arg prio owner stacksize usesFp cpuId stack).ret = -enomem) :
    (stack = none ∨ ∀ j < maxTasks, s.Valid j) ∧
      (rtapiTaskNew os s taskcode arg prio owner stacksize usesFp cpuId stack).sys = s := by
  cases stack with
  | none => exact ⟨.inl rfl, rfl⟩
  | some addr =>
    unfold rtapiTaskNew at h ⊢
    split_ifs at h ⊢ with h₁ h₂
    · exact ⟨.inr (newSlot_eq_maxTasks_iff.1 h₁), rfl⟩
    · simp [einval, enomem] at h
    · have := newSlot_le s; simp only [enomem] at h; omega

theorem rtapiTaskNew_enomem_no_stack :
    (none = (none : Option Nat) ∨ ∀ j < maxTasks, Sys.init.Valid j) ∧
      (rtapiTaskNew linuxOs Sys.init 0 0 50 0 0 0 (-1) none).sys = Sys.init :=
  rtapiTaskNew_enomem (by decide)

/-- **The invalid-priority exit keeps the reservation.** On any table with a free slot, a request
whose priority is out of range fails with `-EINVAL` and leaves the first free slot valid. -/
theorem rtapiTaskNew_invalid_prio {addr : Nat} (hfree : ∃ j < maxTasks, ¬s.Valid j)
    (hp : prio < os.prioLowest ∨ os.prioHighest < prio) :
    (rtapiTaskNew os s taskcode arg prio owner stacksize usesFp cpuId (some addr)).ret = -einval ∧
      ¬s.Valid (newSlot s) ∧
      (rtapiTaskNew os s taskcode arg prio owner stacksize usesFp cpuId (some addr)).sys.Valid
        (newSlot s) := by
  have hne : newSlot s ≠ maxTasks := fun h =>
    let ⟨j, hj, hv⟩ := hfree; hv (newSlot_eq_maxTasks_iff.1 h j hj)
  have hlt : newSlot s < maxTasks := lt_of_le_of_ne (newSlot_le s) hne
  have hr : rtapiTaskNew os s taskcode arg prio owner stacksize usesFp cpuId (some addr) =
      ⟨-einval, reserve s (newSlot s), [.msg .err (.invalidPriority (newSlot s) prio
        (rtapiPrioHighest os) (rtapiPrioLowest os)), .free addr]⟩ := by
    simp [rtapiTaskNew, hne, rtapiPrioLowest, rtapiPrioHighest, hp]
  rw [hr]
  exact ⟨rfl, not_valid_newSlot hlt, by simp [Sys.Valid]⟩

/-- A request with a valid priority, on a table with a free slot, fills in the first free slot. -/
theorem rtapiTaskNew_of_prio {a : Nat} (hn : newSlot s < maxTasks) (hp₀ : os.prioLowest ≤ prio)
    (hp₁ : prio ≤ os.prioHighest) :
    rtapiTaskNew os s taskcode arg prio owner stacksize usesFp cpuId (some a) =
      ⟨newSlot s, (reserve s (newSlot s)).setTask (newSlot s)
        { s.task (newSlot s) with
          magic := taskMagic, owner, arg, stacksize := max stacksize.toNat 16384,
          stackaddr := a, destroyed := 0, taskcode, prio, usesFp, cpu := cpuId }, []⟩ := by
  simp [rtapiTaskNew, hn.ne, rtapiPrioLowest, rtapiPrioHighest, not_lt.2 hp₀, not_lt.2 hp₁]

end New

/-! ## `rtapi_task_delete` -/

/-- `rtapi_task_delete(id)`: when `deleted` is clear, set it and join the slot's thread; then
free the stack and clear the magic. The join itself, which waits for the thread to end, is
the call's `joinOk` condition in the step relation. -/
def rtapiTaskDelete (s : Sys) (id : Int) : Result :=
  match checkTask s id with
  | none => ⟨-einval, s, []⟩
  | some i =>
    let t := s.task i
    if t.deleted = 0 then
      ⟨0, { s.setTask i { t with deleted := 1, stackaddr := 0, magic := 0 } with
          threads := joinThread s.threads t.thread },
        .join t.thread ::
          (if s.threads.any (·.tid == t.thread) then [] else [.msg .err .joinFailed]) ++
          [.free t.stackaddr]⟩
    else ⟨0, s.setTask i { t with stackaddr := 0, magic := 0 }, [.free t.stackaddr]⟩

section Delete

variable {s : Sys} {id : Int} {i : Nat}

theorem rtapiTaskDelete_of_none (h : checkTask s id = none) :
    rtapiTaskDelete s id = ⟨-einval, s, []⟩ := by simp [rtapiTaskDelete, h]

/-- `rtapi_task_delete` on a valid slot whose `deleted` is clear: set it, join the stored thread,
then free the stack and clear the magic. -/
theorem rtapiTaskDelete_of_deleted_eq_zero (h : checkTask s id = some i)
    (hd : (s.task i).deleted = 0) :
    rtapiTaskDelete s id =
      ⟨0, { s.setTask i { s.task i with deleted := 1, stackaddr := 0, magic := 0 } with
              threads := joinThread s.threads (s.task i).thread },
        .join (s.task i).thread ::
          (if s.threads.any (·.tid == (s.task i).thread) then [] else [.msg .err .joinFailed]) ++
          [.free (s.task i).stackaddr]⟩ := by
  simp [rtapiTaskDelete, h, hd]

/-- `rtapi_task_delete` on a valid slot whose `deleted` is set: no join. -/
theorem rtapiTaskDelete_of_deleted_ne_zero (h : checkTask s id = some i)
    (hd : (s.task i).deleted ≠ 0) :
    rtapiTaskDelete s id = ⟨0, s.setTask i { s.task i with stackaddr := 0, magic := 0 },
      [.free (s.task i).stackaddr]⟩ := by
  simp [rtapiTaskDelete, h, hd]

@[simp] theorem rtapiTaskDelete_period : (rtapiTaskDelete s id).sys.period = s.period := by
  cases h : checkTask s id with
  | none => rw [rtapiTaskDelete_of_none h]
  | some i =>
    by_cases hd : (s.task i).deleted = 0
    · rw [rtapiTaskDelete_of_deleted_eq_zero h hd]; rfl
    · rw [rtapiTaskDelete_of_deleted_ne_zero h hd]; rfl

/-- A refused `rtapi_task_delete` leaves the state as it was. -/
theorem rtapiTaskDelete_sys_of_neg (h : (rtapiTaskDelete s id).ret < 0) :
    (rtapiTaskDelete s id).sys = s := by
  cases hc : checkTask s id with
  | none => rw [rtapiTaskDelete_of_none hc]
  | some i =>
    by_cases hd : (s.task i).deleted = 0
    · rw [rtapiTaskDelete_of_deleted_eq_zero hc hd] at h; exact absurd h (lt_irrefl 0)
    · rw [rtapiTaskDelete_of_deleted_ne_zero hc hd] at h; exact absurd h (lt_irrefl 0)

/-- `rtapi_task_delete` writes no other slot. -/
theorem rtapiTaskDelete_task_ne (h : checkTask s id = some i) {j : Nat} (hj : j ≠ i) :
    (rtapiTaskDelete s id).sys.task j = s.task j := by
  by_cases hd : (s.task i).deleted = 0
  · rw [rtapiTaskDelete_of_deleted_eq_zero h hd]; exact Sys.setTask_task_ne hj
  · rw [rtapiTaskDelete_of_deleted_ne_zero h hd]; exact Sys.setTask_task_ne hj

/-- `rtapi_task_delete` of a valid handle frees its slot and no other. -/
theorem rtapiTaskDelete_valid_iff (hc : checkTask s id = some i) {j : Nat} :
    (rtapiTaskDelete s id).sys.Valid j ↔ s.Valid j ∧ j ≠ i := by
  by_cases hji : j = i
  · subst hji
    by_cases hd : (s.task j).deleted = 0
    · simp [rtapiTaskDelete_of_deleted_eq_zero hc hd, Sys.Valid, taskMagic]
    · simp [rtapiTaskDelete_of_deleted_ne_zero hc hd, Sys.Valid, taskMagic]
  · simp only [Sys.Valid, rtapiTaskDelete_task_ne hc hji, ne_eq, hji, not_false_eq_true, and_true]

theorem rtapiTaskDelete_ret_eq_einval :
    (rtapiTaskDelete s id).ret = -einval ↔ checkTask s id = none := by
  cases h : checkTask s id with
  | none => simp [rtapiTaskDelete_of_none h]
  | some i =>
    by_cases hd : (s.task i).deleted = 0
    · simp [rtapiTaskDelete_of_deleted_eq_zero h hd, einval]
    · simp [rtapiTaskDelete_of_deleted_ne_zero h hd, einval]

end Delete

/-! ## The priority helpers and `rtapi_task_new` -/

section Prio

variable {os : Os} {s : Sys} {taskcode arg : Nat} {prio owner : Int} {stacksize : UInt64}
  {usesFp cpuId : Int} {stack : Option Nat}

/-- A request whose priority lies in the range never takes the invalid-priority exit. -/
theorem rtapiTaskNew_ne_einval (hp₀ : os.prioLowest ≤ prio) (hp₁ : prio ≤ os.prioHighest) :
    (rtapiTaskNew os s taskcode arg prio owner stacksize usesFp cpuId stack).ret ≠ -einval := by
  unfold rtapiTaskNew rtapiPrioLowest rtapiPrioHighest
  split
  · simp [enomem, einval]
  · split_ifs with h₁ h₂
    · simp [enomem, einval]
    · omega
    · simp only [einval]; omega

/-- **The priority helpers give priorities `rtapi_task_new` accepts, and undo each other.** When
`sched_get_priority_min` is at most `sched_get_priority_max`, `rtapi_prio_next_higher` and
`rtapi_prio_next_lower` return a priority of the range for any argument, so a task created with
it never takes the invalid-priority exit; inside the range each undoes the other. -/
theorem rtapiPrioNext_roundTrip (h : os.prioLowest ≤ os.prioHighest) (prio : Int) :
    (os.prioLowest ≤ rtapiPrioNextHigher os prio ∧ rtapiPrioNextHigher os prio ≤ os.prioHighest ∧
      ∀ (s : Sys) taskcode arg owner stacksize usesFp cpuId stack,
        (rtapiTaskNew os s taskcode arg (rtapiPrioNextHigher os prio) owner stacksize usesFp cpuId
          stack).ret ≠ -einval) ∧
    (os.prioLowest ≤ rtapiPrioNextLower os prio ∧ rtapiPrioNextLower os prio ≤ os.prioHighest ∧
      ∀ (s : Sys) taskcode arg owner stacksize usesFp cpuId stack,
        (rtapiTaskNew os s taskcode arg (rtapiPrioNextLower os prio) owner stacksize usesFp cpuId
          stack).ret ≠ -einval) ∧
    (os.prioLowest ≤ prio → prio < os.prioHighest →
      rtapiPrioNextLower os (rtapiPrioNextHigher os prio) = prio) ∧
    (os.prioLowest < prio → prio ≤ os.prioHighest →
      rtapiPrioNextHigher os (rtapiPrioNextLower os prio) = prio) := by
  have hi : os.prioLowest ≤ rtapiPrioNextHigher os prio ∧
      rtapiPrioNextHigher os prio ≤ os.prioHighest := by
    unfold rtapiPrioNextHigher rtapiPrioHighest rtapiPrioLowest; split_ifs <;> omega
  have lo : os.prioLowest ≤ rtapiPrioNextLower os prio ∧
      rtapiPrioNextLower os prio ≤ os.prioHighest := by
    unfold rtapiPrioNextLower rtapiPrioHighest rtapiPrioLowest; split_ifs <;> omega
  refine ⟨⟨hi.1, hi.2, fun _ _ _ _ _ _ _ _ => rtapiTaskNew_ne_einval hi.1 hi.2⟩,
    ⟨lo.1, lo.2, fun _ _ _ _ _ _ _ _ => rtapiTaskNew_ne_einval lo.1 lo.2⟩,
    fun h₁ h₂ => ?_, fun h₁ h₂ => ?_⟩ <;>
  · unfold rtapiPrioNextHigher rtapiPrioNextLower rtapiPrioHighest rtapiPrioLowest
    split_ifs <;> omega

/-- The Linux FIFO range `1` to `99`, from priority `50`. -/
theorem rtapiPrioNext_roundTrip_fifo :
    (linuxOs.prioLowest ≤ rtapiPrioNextHigher linuxOs 50 ∧
      rtapiPrioNextHigher linuxOs 50 ≤ linuxOs.prioHighest ∧
      ∀ (s : Sys) taskcode arg owner stacksize usesFp cpuId stack,
        (rtapiTaskNew linuxOs s taskcode arg (rtapiPrioNextHigher linuxOs 50) owner stacksize
          usesFp cpuId stack).ret ≠ -einval) ∧
    (linuxOs.prioLowest ≤ rtapiPrioNextLower linuxOs 50 ∧
      rtapiPrioNextLower linuxOs 50 ≤ linuxOs.prioHighest ∧
      ∀ (s : Sys) taskcode arg owner stacksize usesFp cpuId stack,
        (rtapiTaskNew linuxOs s taskcode arg (rtapiPrioNextLower linuxOs 50) owner stacksize
          usesFp cpuId stack).ret ≠ -einval) ∧
    (linuxOs.prioLowest ≤ 50 → 50 < linuxOs.prioHighest →
      rtapiPrioNextLower linuxOs (rtapiPrioNextHigher linuxOs 50) = 50) ∧
    (linuxOs.prioLowest < 50 → 50 ≤ linuxOs.prioHighest →
      rtapiPrioNextHigher linuxOs (rtapiPrioNextLower linuxOs 50) = 50) :=
  rtapiPrioNext_roundTrip (by decide) 50

example : rtapiPrioNextHigher linuxOs 99 = 99 ∧ rtapiPrioNextLower linuxOs 0 = 1 := by decide

end Prio

end Rtapi.Linux
