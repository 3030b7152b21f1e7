import Rtapi.Linux.Task

/-!
# Starting a task in `linux_rtapi.c`

`rtapi_task_start` clamps the period, clears `deleted`, creates the worker on the task's own
stack and waits at a two-party barrier until the worker has run the first part of
`realtime_thread`: binding the task, the page-fault baseline, the period clamp and ratio,
`realtime_set_affinity` and `realtime_set_priority`. Since the caller is blocked at the barrier
through all of it, the call and the worker's initialisation are one step here
(`rtapiTaskStart`), which returns `none` when a division by the clock period divides by zero.

`realtime_set_affinity` pins the worker to the requested CPU if the allowed set has it, or to the
highest-numbered allowed CPU (`lastCpu`, the downward `for` loop over `CPU_SETSIZE` CPUs).
-/

namespace Rtapi.Linux

/-! ## Priority -/

/-- `ENABLE_SCHED_DEADLINE`. -/
def enableSchedDeadline : Bool := false

/-- What the system answers while a worker initialises. -/
structure StartEnv where
  /-- `pthread_create`: the new thread's id, `none` when it fails. -/
  created : Option Nat
  /-- `ru_minflt` and `ru_majflt` after `getrusage(RUSAGE_SELF)` in
  `rtapi_reset_pagefault_count`, whose return the code ignores: on failure they are what the
  stack held, which these arbitrary counts cover. -/
  minflt : Nat
  majflt : Nat
  /-- `pthread_getaffinity_np`: the CPUs the thread may run on. -/
  allowed : Nat → Bool
  /-- `pthread_setaffinity_np` succeeds. -/
  setAffinityOk : Bool
  /-- `sigaction(SIGXCPU, ...)` succeeds. -/
  sigactionOk : Bool
  /-- `sched_setscheduler_ex(0, SCHED_DEADLINE, ...)` succeeds. -/
  deadlineOk : Bool
  /-- `sched_setscheduler(0, SCHED_FIFO, ...)` succeeds. -/
  fifoOk : Bool

/-- The answers of a start where every call succeeds and the new thread is `tid`. -/
def StartEnv.ok (tid : Nat) : StartEnv :=
  ⟨some tid, 0, 0, fun _ => true, true, true, true, true⟩

/-- The FIFO request closing `realtime_set_priority`. -/
def setFifo (t : TaskData) (e : StartEnv) : Int × TaskData × List Event :=
  if e.fifoOk then (0, t, []) else (1, t, [.msg .err .fifoFailed])

/-- `realtime_set_priority(task)`: the `SCHED_DEADLINE` attempt, compiled out by
`ENABLE_SCHED_DEADLINE`, then `SCHED_FIFO` at the task's priority. -/
def realtimeSetPriority (t : TaskData) (e : StartEnv) : Int × TaskData × List Event :=
  let t := { t with deadlineScheduling := 0 }
  if enableSchedDeadline then
    if !e.sigactionOk then (-1, t, [.msg .err .sigxcpuFailed])
    else if e.deadlineOk then (0, { t with deadlineScheduling := 1 }, [.msg .info .deadlineRunning])
    else
      let r := setFifo t e
      (r.1, r.2.1, .msg .info .deadlineFailed :: r.2.2)
  else setFifo t e

/-! ## The worker's initialisation and `rtapi_task_start` -/

/-- `rtapi_reset_pagefault_count(task)`. -/
def rtapiResetPagefaultCount (t : TaskData) (minflt majflt : Nat) : TaskData :=
  if t.minfaultBase ≠ minflt ∨ t.majfaultBase ≠ majflt then
    { t with minfaultBase := minflt, majfaultBase := majflt }
  else t

/-- The task record after the first statements of `realtime_thread`: the fault baseline,
`if (task->period < period) task->period = period;` and `task->ratio = task->period / period;`. -/
def initTask (period : Int) (t : TaskData) (e : StartEnv) : TaskData :=
  let t := rtapiResetPagefaultCount t e.minflt e.majflt
  let t := { t with period := if t.period < period then period else t.period }
  { t with ratio := t.period.tdiv period }

/-- `realtime_thread(task)` up to its barrier, in the worker of slot `i`, `period` being the
clock period: `none` when `task->period / period` divides by zero. On failure it sets
`deleted`. -/
def realtimeThreadInit (period : Int) (i : Nat) (t : TaskData) (e : StartEnv) :
    Option (TaskData × List Event) :=
  if period = 0 then none
  else
    let t := initTask period t e
    let a := realtimeSetAffinity i t.cpu e.allowed e.setAffinityOk
    if a.1 ≠ 0 then some ({ t with deleted := 1 }, a.2)
    else
      let p := realtimeSetPriority t e
      if p.1 ≠ 0 then some ({ p.2.1 with deleted := 1 }, a.2 ++ p.2.2)
      else some (p.2.1, a.2 ++ p.2.2)

/-- The period `rtapi_task_start` stores: `if (period_nsec < period) period_nsec = period;`. -/
def clampPeriod (periodNsec : UInt64) (period : Int) : Nat :=
  if periodNsec.toNat < cULong period then cULong period else periodNsec.toNat

/-- The task record `rtapi_task_start` writes before it creates the worker. -/
def startTask (s : Sys) (i : Nat) (periodNsec : UInt64) : TaskData :=
  { s.task i with
    period := cInt (clampPeriod periodNsec s.period),
    ratio := cInt (clampPeriod periodNsec s.period / cULong s.period), deleted := 0 }

/-- `rtapi_task_start(task_id, period_nsec)` together with its worker's initialisation; `none`
when `period_nsec / period` divides by zero. -/
def rtapiTaskStart (s : Sys) (id : Int) (periodNsec : UInt64) (e : StartEnv) : Option Result :=
  match checkTask s id with
  | none => some ⟨-einval, s, []⟩
  | some i =>
    if cULong s.period = 0 then none
    else
      match e.created with
      | none =>
        some ⟨-enomem, (s.setTask i (startTask s i periodNsec)).setSpawn i
          { s.spawn i with latest := false }, [.msg .err .createFailed]⟩
      | some tid =>
        (realtimeThreadInit s.period i { startTask s i periodNsec with thread := tid } e).map
          fun (r : TaskData × List Event) =>
          ⟨if r.1.deleted = 0 then 0 else -enomem,
            { (s.setTask i r.1).setSpawn i ⟨(s.spawn i).count + 1, true⟩ with
              threads := ⟨tid, i, if r.1.deleted = 0 then .ready else .exited⟩ :: s.threads },
            r.2 ++ if r.1.deleted = 0 then [] else [.msg .err .initFailed]⟩

/-! ## What the initialisation and the start do -/

section Spec

variable {t : TaskData} {e : StartEnv} {period : Int} {i : Nat}

theorem rtapiResetPagefaultCount_eq (t : TaskData) (minflt majflt : Nat) :
    rtapiResetPagefaultCount t minflt majflt =
      { t with minfaultBase := minflt, majfaultBase := majflt } := by
  unfold rtapiResetPagefaultCount
  split_ifs with h
  · rfl
  · obtain ⟨h₁, h₂⟩ := not_or.1 h
    rw [← not_ne_iff.1 h₁, ← not_ne_iff.1 h₂]

theorem realtimeSetPriority_eq (t : TaskData) (e : StartEnv) :
    realtimeSetPriority t e = setFifo { t with deadlineScheduling := 0 } e := rfl

@[simp] theorem initTask_magic : (initTask period t e).magic = t.magic := by
    simp [initTask, rtapiResetPagefaultCount_eq]
@[simp] theorem initTask_thread : (initTask period t e).thread = t.thread := by
    simp [initTask, rtapiResetPagefaultCount_eq]
@[simp] theorem initTask_deleted : (initTask period t e).deleted = t.deleted := by
    simp [initTask, rtapiResetPagefaultCount_eq]
@[simp] theorem initTask_destroyed : (initTask period t e).destroyed = t.destroyed := by
    simp [initTask, rtapiResetPagefaultCount_eq]
@[simp] theorem initTask_cpu : (initTask period t e).cpu = t.cpu := by
    simp [initTask, rtapiResetPagefaultCount_eq]
@[simp] theorem initTask_stackaddr : (initTask period t e).stackaddr = t.stackaddr := by
    simp [initTask, rtapiResetPagefaultCount_eq]
@[simp] theorem initTask_nextTime : (initTask period t e).nextTime = t.nextTime := by
    simp [initTask, rtapiResetPagefaultCount_eq]
@[simp] theorem initTask_failures : (initTask period t e).failures = t.failures := by
    simp [initTask, rtapiResetPagefaultCount_eq]
@[simp] theorem initTask_period :
    (initTask period t e).period = if t.period < period then period else t.period := by
    simp [initTask, rtapiResetPagefaultCount_eq]
@[simp] theorem initTask_ratio :
    (initTask period t e).ratio = (if t.period < period then period else t.period).tdiv period := by
    simp [initTask, rtapiResetPagefaultCount_eq]

theorem initTask_ratio_eq :
    (initTask period t e).ratio = (initTask period t e).period.tdiv period := by
  rw [initTask_ratio, initTask_period]

/-- **What the worker's initialisation does to its task**: `initTask`, then on failure `deleted`
is set. -/
theorem realtimeThreadInit_spec (hp : period ≠ 0) :
    ∃ d ds evs, realtimeThreadInit period i t e =
      some ({ initTask period t e with deadlineScheduling := ds, deleted := d }, evs) ∧
      (d = t.deleted ∨ d = 1) := by
  rw [realtimeThreadInit, if_neg hp]
  simp only [realtimeSetPriority_eq, setFifo]
  split_ifs <;>
    first | exact ⟨1, _, _, rfl, .inr rfl⟩ | exact ⟨_, _, _, rfl, .inl initTask_deleted⟩

@[simp] theorem initTask_deadlineScheduling :
    (initTask period t e).deadlineScheduling = t.deadlineScheduling := by
  simp [initTask, rtapiResetPagefaultCount_eq]

/-- With `ENABLE_SCHED_DEADLINE` clear, the worker's initialisation clears `deadline_scheduling`
or leaves it as it was. -/
theorem realtimeThreadInit_deadlineScheduling {t' : TaskData} {evs : List Event}
    (h : realtimeThreadInit period i t e = some (t', evs)) :
    t'.deadlineScheduling = 0 ∨ t'.deadlineScheduling = t.deadlineScheduling := by
  unfold realtimeThreadInit at h
  simp only [realtimeSetPriority_eq, setFifo] at h
  split_ifs at h <;> cases h <;> simp

/-- An initialisation that leaves `deleted` clear: `realtime_set_affinity` returned `0`, and
nothing else was printed. -/
theorem realtimeThreadInit_passed {t' : TaskData} {evs : List Event}
    (h : realtimeThreadInit period i t e = some (t', evs)) (hd : t'.deleted = 0) :
    (realtimeSetAffinity i t.cpu e.allowed e.setAffinityOk).1 = 0 ∧
      evs = (realtimeSetAffinity i t.cpu e.allowed e.setAffinityOk).2 := by
  rw [realtimeThreadInit] at h
  cases hf : e.fifoOk <;>
    simp only [realtimeSetPriority_eq, setFifo, hf, initTask_cpu, Bool.false_eq_true, if_true,
      if_false, ne_eq, one_ne_zero, not_true_eq_false, not_false_eq_true, List.append_nil] at h
  all_goals split_ifs at h with hp ha <;> cases h
  -- the affinity and the FIFO request both succeed only in the third branch; the others set
  -- `deleted`
  exacts [absurd hd one_ne_zero, absurd hd one_ne_zero, ⟨ha, rfl⟩, absurd hd one_ne_zero]

variable {s : Sys} {id : Int} {periodNsec : UInt64}

@[simp] theorem startTask_magic : (startTask s i periodNsec).magic = (s.task i).magic := rfl
@[simp] theorem startTask_thread : (startTask s i periodNsec).thread = (s.task i).thread := rfl
@[simp] theorem startTask_deleted : (startTask s i periodNsec).deleted = 0 := rfl
@[simp] theorem startTask_failures :
    (startTask s i periodNsec).failures = (s.task i).failures := rfl
@[simp] theorem startTask_period :
    (startTask s i periodNsec).period = cInt (clampPeriod periodNsec s.period) := by
  simp only [startTask]

theorem rtapiTaskStart_of_none (h : checkTask s id = none) :
    rtapiTaskStart s id periodNsec e = some ⟨-einval, s, []⟩ := by
  unfold rtapiTaskStart; rw [h]

/-- Before the clock period is set, a start on a valid slot divides by zero. -/
theorem rtapiTaskStart_eq_none (h : checkTask s id = some i) (hp : cULong s.period = 0) :
    rtapiTaskStart s id periodNsec e = none := by
  rw [rtapiTaskStart, h]; exact if_pos hp

theorem rtapiTaskStart_create_failed (h : checkTask s id = some i) (hp : cULong s.period ≠ 0)
    (hc : e.created = none) :
    rtapiTaskStart s id periodNsec e = some ⟨-enomem,
      (s.setTask i (startTask s i periodNsec)).setSpawn i { s.spawn i with latest := false },
      [.msg .err .createFailed]⟩ := by
  rw [rtapiTaskStart, h]; dsimp only; rw [if_neg hp, hc]

/-- **A start that creates its worker**: the slot gets `initTask` of the start's record with the
new thread's handle, `deleted` set exactly when the initialisation failed; the new thread is
ready, or ended on failure. -/
theorem rtapiTaskStart_created (periodNsec : UInt64) {tid : Nat} (h : checkTask s id = some i)
    (hp : cULong s.period ≠ 0) (hc : e.created = some tid) :
    ∃ d ds evs, rtapiTaskStart s id periodNsec e = some ⟨if d = 0 then 0 else -enomem,
      { (s.setTask i { initTask s.period { startTask s i periodNsec with thread := tid } e with
            deadlineScheduling := ds, deleted := d }).setSpawn i
          ⟨(s.spawn i).count + 1, true⟩ with
        threads := ⟨tid, i, if d = 0 then .ready else .exited⟩ :: s.threads }, evs⟩ ∧
      (d = 0 ∨ d = 1) := by
  have hp' : s.period ≠ 0 := fun h0 => hp (by simp [h0, cULong])
  obtain ⟨d, ds, evs, he, hd⟩ := realtimeThreadInit_spec (i := i)
    (t := { startTask s i periodNsec with thread := tid }) (e := e) hp'
  refine ⟨d, ds, evs ++ if d = 0 then [] else [.msg .err .initFailed], ?_, hd⟩
  rw [rtapiTaskStart, h]; dsimp only; rw [if_neg hp, hc]; dsimp only; rw [he]; rfl

/-- The slot after a start that created its worker. -/
theorem rtapiTaskStart_task_self {tid : Nat} {r : Result} (h : checkTask s id = some i)
    (hp : cULong s.period ≠ 0) (hc : e.created = some tid)
    (hr : rtapiTaskStart s id periodNsec e = some r) :
    ∃ d ds, r.sys.task i =
      { initTask s.period { startTask s i periodNsec with thread := tid } e with
        deadlineScheduling := ds, deleted := d } := by
  obtain ⟨d, ds, evs, he, -⟩ := rtapiTaskStart_created periodNsec h hp hc
  rw [he] at hr; cases hr
  exact ⟨d, ds, Sys.setTask_task_self⟩

/-- What `rtapi_task_start` can write: the slot its handle names, with the start's record or the
worker's, that slot's ghost record, and the thread table. -/
theorem rtapiTaskStart_shape {r : Result} (hr : rtapiTaskStart s id periodNsec e = some r) :
    r.sys = s ∨ ∃ i t g ths, checkTask s id = some i ∧ (t = startTask s i periodNsec ∨ ∃ tid d ds,
      t = { initTask s.period { startTask s i periodNsec with thread := tid } e with
        deadlineScheduling := ds, deleted := d }) ∧
      r.sys = { (s.setTask i t).setSpawn i g with threads := ths } := by
  cases hc : checkTask s id with
  | none => rw [rtapiTaskStart_of_none hc] at hr; cases hr; exact .inl rfl
  | some i =>
    by_cases hp : cULong s.period = 0
    · rw [rtapiTaskStart_eq_none hc hp] at hr; cases hr
    cases hcr : e.created with
    | none =>
      rw [rtapiTaskStart_create_failed hc hp hcr] at hr; cases hr
      exact .inr ⟨i, _, _, _, rfl, .inl rfl, rfl⟩
    | some tid =>
      obtain ⟨d, ds, evs, he, -⟩ := rtapiTaskStart_created periodNsec hc hp hcr
      rw [he] at hr; cases hr
      exact .inr ⟨i, _, _, _, rfl, .inr ⟨tid, d, ds, rfl⟩, rfl⟩

/-- `rtapi_task_start` keeps every field `f` of every slot that neither its record nor the
worker's initialisation writes. -/
theorem rtapiTaskStart_proj {α : Type} (f : TaskData → α) {r : Result}
    (hr : rtapiTaskStart s id periodNsec e = some r)
    (h₁ : ∀ i, f (startTask s i periodNsec) = f (s.task i))
    (h₂ : ∀ i tid d ds,
      f { initTask s.period { startTask s i periodNsec with thread := tid } e with
        deadlineScheduling := ds, deleted := d } = f (s.task i)) (j : Nat) :
    f (r.sys.task j) = f (s.task j) := by
  rcases rtapiTaskStart_shape hr with h | ⟨i, t, g, ths, -, ht | ⟨tid, d, ds, ht⟩, h⟩ <;>
    rw [h]
  · exact Sys.setTask_proj f (ht ▸ h₁ i) j
  · exact Sys.setTask_proj f (ht ▸ h₂ i tid d ds) j

/-- `rtapi_task_start` changes no slot's magic. -/
theorem rtapiTaskStart_magic {r : Result} (hr : rtapiTaskStart s id periodNsec e = some r)
    (j : Nat) : (r.sys.task j).magic = (s.task j).magic :=
  rtapiTaskStart_proj TaskData.magic hr (fun _ => rfl) (fun _ _ _ _ => by simp) j

theorem rtapiTaskStart_period {r : Result} (hr : rtapiTaskStart s id periodNsec e = some r) :
    r.sys.period = s.period := by
  rcases rtapiTaskStart_shape hr with h | ⟨i, t, g, ths, -, -, h⟩ <;> rw [h]; rfl

/-- `rtapi_task_start` writes no slot but the one its handle names. -/
theorem rtapiTaskStart_task_ne {r : Result} (hr : rtapiTaskStart s id periodNsec e = some r)
    {j : Nat} (hj : (j : Int) ≠ id) : r.sys.task j = s.task j := by
  rcases rtapiTaskStart_shape hr with h | ⟨i, t, g, ths, hc, -, h⟩ <;> rw [h]
  exact Sys.setTask_task_ne fun hji => hj (hji ▸ (checkTask_eq_some.1 hc).1.symm)

/-- A start that returns an error was refused and left the state as it was, or failed to create
or initialise its worker: then it returns `-ENOMEM` and has written only the slot it starts, the
slot's ghost record and the thread table. -/
theorem rtapiTaskStart_of_neg {r : Result} (hr : rtapiTaskStart s id periodNsec e = some r)
    (h : r.ret < 0) :
    r.sys = s ∨ ∃ i, checkTask s id = some i ∧ r.ret = -enomem ∧ r.sys.period = s.period ∧
      r.sys.modules = s.modules ∧ ∀ j ≠ i, r.sys.task j = s.task j := by
  cases hc : checkTask s id with
  | none => rw [rtapiTaskStart_of_none hc] at hr; cases hr; exact .inl rfl
  | some i =>
    by_cases hp : cULong s.period = 0
    · rw [rtapiTaskStart_eq_none hc hp] at hr; cases hr
    refine .inr ⟨i, rfl, ?_⟩
    cases hcr : e.created with
    | none =>
      rw [rtapiTaskStart_create_failed hc hp hcr] at hr; cases hr
      exact ⟨rfl, rfl, rfl, fun j hj => Sys.setTask_task_ne hj⟩
    | some tid =>
      obtain ⟨d, ds, evs, he, -⟩ := rtapiTaskStart_created periodNsec hc hp hcr
      rw [he] at hr; cases hr
      split_ifs at h ⊢
      · exact absurd h (lt_irrefl 0)
      · exact ⟨rfl, rfl, rfl, fun j hj => Sys.setTask_task_ne hj⟩

end Spec

end Rtapi.Linux
