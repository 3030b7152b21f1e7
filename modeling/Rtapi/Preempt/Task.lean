import Rtapi.Preempt.Module

/-!
# Tasks in `rt-preempt.c`

The hooks of `rt-preempt.c` and its worker `realtime_thread`, and, modelled from the
specification, the generic calls that validate a handle and call them (`rtapiTaskNew`,
`rtapiTaskStart`, `rtapiTaskStop`, `rtapiTaskDelete`, `rtapiClockSetPeriod`).

`_rtapi_task_self_hook` answers a thread's question "which task am I" by the first id from `1`
whose stored handle `extra_task_data[n].thread` is the thread's own (`rtapiTaskSelfHook`);
`_rtapi_task_update_stats_hook` writes the statistics of that id. `_rtapi_task_delete_hook` joins
the worker but leaves its handle in `extra_task_data`.

As in `Rtapi.Linux.Step`, a start is one step with its worker's initialisation, the join of a
delete is one step enabled once the joined thread can end, and `pthread_create` returns an
identifier no unjoined thread holds; `Reachable` is every state a run reaches from load time.
-/

namespace Rtapi.Preempt

variable (c : Config)

/-! ## The hooks -/

/-- `_rtapi_task_new_hook(task, task_id)`, `stack` being what `malloc(task->stacksize)` returns. -/
def rtapiTaskNewHook (s : Sys) (i : Nat) (stack : Option Nat) : Result :=
  match stack with
  | none => ⟨-enomem, s, [.msg .err .stackAllocFailed]⟩
  | some addr => ⟨i, s.setExtra i { s.extra i with stackaddr := addr, destroyed := 0 }, []⟩

/-- `_rtapi_task_delete_hook(task, task_id)`: when `deleted` is clear, set it and join the stored
thread; then free the stack. The handle stays. -/
def rtapiTaskDeleteHook (s : Sys) (i : Nat) : Sys × List Event :=
  if (s.extra i).deleted = 0 then
    ({ s.setExtra i { s.extra i with deleted := 1, stackaddr := 0 } with
        threads := joinThread s.threads (s.extra i).thread },
      .join (s.extra i).thread ::
        (if s.threads.any (·.tid == (s.extra i).thread) then [] else [.msg .err .joinFailed]) ++
        [.free (s.extra i).stackaddr])
  else (s.setExtra i { s.extra i with stackaddr := 0 }, [.free (s.extra i).stackaddr])

/-- `_rtapi_task_stop_hook(task, task_id)`. -/
def rtapiTaskStopHook (s : Sys) (i : Nat) : Sys := s.setExtra i { s.extra i with destroyed := 1 }

/-- The scan of `_rtapi_task_self_hook` in the thread `self`:
`n = 1; while (n <= RTAPI_MAX_TASKS) { if (extra_task_data[n].thread == self) return n; n++; }`. -/
def selfSlot (s : Sys) (self : Nat) : Nat :=
  firstFree (fun n => (s.extra n).thread != self) 1 c.maxTasks

/-- `_rtapi_task_self_hook()` in the thread `self`. -/
def rtapiTaskSelfHook (s : Sys) (self : Nat) : Int :=
  if selfSlot c s self ≤ c.maxTasks then selfSlot c s self else -einval

/-- What a call of `getrusage(RUSAGE_THREAD, &ru)` prints: nothing when it succeeds (`none`), the
`errno` it fails with otherwise. -/
def getrusageMsg : Option Int → List Event
  | none => []
  | some errno => [.msg .err (.getrusageFailed errno)]

/-- `_rtapi_task_update_stats_hook()` in the thread `self`: the entry of `thread_status` it writes
is the one `_rtapi_task_self_hook` names. `rusage` is what `getrusage` answers: `none` when it
succeeds, `some errno` when it fails, and the hook then prints `errno` and returns it. The figures
it copies are left out. -/
def rtapiTaskUpdateStatsHook (s : Sys) (self : Nat) (rusage : Option Int) : Result :=
  if rtapiTaskSelfHook c s self < 0 ∨ rtapiTaskSelfHook c s self > c.maxTasks then
    ⟨-enoent, s, [.msg .err (.taskIdOutOfRange (rtapiTaskSelfHook c s self))]⟩
  else match rusage with
    | some errno => ⟨errno, s, getrusageMsg (some errno)⟩
    | none =>
      ⟨rtapiTaskSelfHook c s self, s.setStatus (rtapiTaskSelfHook c s self).toNat
        { s.status (rtapiTaskSelfHook c s self).toNat with
          numUpdates := (s.status (rtapiTaskSelfHook c s self).toNat).numUpdates + 1 }, []⟩

/-! ## The worker -/

/-- What the system answers while a worker starts. -/
structure StartEnv where
  /-- `pthread_create`: the new thread's handle, `none` when it fails. -/
  created : Option Nat
  /-- `prctl(PR_SET_NAME, ...)` in `rtapi_set_task` succeeds. -/
  prctlOk : Bool
  /-- `syscall(SYS_gettid)`. -/
  gettid : Int
  /-- `pthread_getaffinity_np`: the CPUs the thread may run on. -/
  allowed : Nat → Bool
  /-- `pthread_setaffinity_np` succeeds. -/
  setAffinityOk : Bool
  /-- `sched_setscheduler(0, SCHED_FIFO, ...)` succeeds. -/
  fifoOk : Bool

/-- The answers of a start where every call succeeds and the new thread is `tid`. -/
def StartEnv.ok (tid : Nat) : StartEnv := ⟨some tid, true, tid, fun _ => true, true, true⟩

/-- `realtime_set_priority(task)` (compiled only without `RTAPI_POSIX`). -/
def realtimeSetPriority (e : StartEnv) : Int × List Event :=
  if e.fifoOk then (0, []) else (1, [.msg .err .fifoFailed])

/-- The task record after `if (task->period < period) task->period = period;` and
`task->ratio = task->period / period;`. -/
def raisePeriod (period : Int) (t : TaskData) : TaskData :=
  { t with period := if t.period < period then period else t.period,
           ratio := (if t.period < period then period else t.period).tdiv period }

/-- Whether the worker of slot `i` fails its initialisation, with what it prints: the affinity,
then the priority unless the build is `RTAPI_POSIX`. -/
def initChecks (i : Nat) (t : TaskData) (e : StartEnv) : Bool × List Event :=
  if (realtimeSetAffinity i t.cpu e.allowed e.setAffinityOk).1 ≠ 0 then
    (true, (realtimeSetAffinity i t.cpu e.allowed e.setAffinityOk).2)
  else if !c.posix && (realtimeSetPriority e).1 ≠ 0 then
    (true, (realtimeSetAffinity i t.cpu e.allowed e.setAffinityOk).2 ++ (realtimeSetPriority e).2)
  else (false, (realtimeSetAffinity i t.cpu e.allowed e.setAffinityOk).2)

/-- `realtime_thread(task)` of slot `i` up to its barrier: `none` when `task->period / period`
divides by zero. On failure it sets `deleted`. -/
def realtimeThreadInit (s : Sys) (i : Nat) (e : StartEnv) : Option (Sys × List Event) :=
  if s.period = 0 then none
  else some
    (((s.setTask i (raisePeriod s.period (s.task i))).setExtra i
      { s.extra i with tid := e.gettid,
                       deleted := if (initChecks c i (raisePeriod s.period (s.task i)) e).1 then 1
                         else (s.extra i).deleted }),
     (if e.prctlOk then [] else [.msg .err .prctlFailed]) ++
      .msg .info (.taskInfo (raisePeriod s.period (s.task i)).period
        (raisePeriod s.period (s.task i)).ratio i e.gettid) ::
      (initChecks c i (raisePeriod s.period (s.task i)) e).2)

/-- `_rtapi_task_start_hook(task, task_id)` with its worker's initialisation: clear `deleted`,
create the worker (its handle into `extra_task_data[task_id].thread`), wait at the barrier. The
ghost record counts the worker. -/
def rtapiTaskStartHook (s : Sys) (i : Nat) (e : StartEnv) : Option Result :=
  match e.created with
  | none => some ⟨-enomem, (s.setExtra i { s.extra i with deleted := 0 }).setSpawn i
      { s.spawn i with latest := false }, [.msg .err .createFailed]⟩
  | some tid =>
    (realtimeThreadInit c (s.setExtra i { s.extra i with deleted := 0, thread := tid }) i e).map
      fun r => ⟨if (r.1.extra i).deleted = 0 then 0 else -enomem,
        { r.1.setSpawn i ⟨(s.spawn i).count + 1, true⟩ with threads :=
            ⟨tid, i, if (r.1.extra i).deleted = 0 then .ready else .exited⟩ :: s.threads },
        r.2 ++ if (r.1.extra i).deleted = 0 then [] else [.msg .err .initFailed]⟩

/-- `realtime_thread` past the barrier in the worker `th`: seed the release time one period past
the clock, update the statistics of the task `_rtapi_task_self_hook` names (`getrusage` answering
`rusage`), then take the startup counts with a second `getrusage`, which answers `startup`. The
startup figures are left out; a failure of that call is printed. -/
def realtimeThreadBegin (s : Sys) (th : Thread) (now : Timespec) (rusage startup : Option Int) :
    Result :=
  let r := rtapiTaskUpdateStatsHook c
    ((s.setExtra th.slot { s.extra th.slot with
      nextTime := rtapiAdvanceTime now (cULong (s.task th.slot).period) 0 }).setPc th.tid .body)
    th.tid rusage
  { r with events := r.events ++ getrusageMsg startup }

/-- The task code of `th` returned: report it, set `deleted`, end. The store of `deleted` and
the end of the thread are one step: no state lies between them, so the model does not show
`rtapi_task_delete` finding `deleted` set, skipping the join and freeing the stack while the
worker still runs its last statements on it. -/
def realtimeThreadEnd (s : Sys) (th : Thread) : Result :=
  ⟨0, (s.setExtra th.slot { s.extra th.slot with deleted := 1 }).setPc th.tid .exited,
    [.msg .err (.endOfThread th.slot)]⟩

/-- `_rtapi_wait_hook()` in the worker `th`, `now` the clock after the sleep. The task is the one
`rtapi_set_task` bound to the thread; a miss updates the statistics of the task
`_rtapi_task_self_hook` names (`getrusage` answering `rusage`), then counts a wait error for the
bound task and calls the exception handler. -/
def rtapiWaitHook (s : Sys) (th : Thread) (now : Timespec) (rusage : Option Int) : Result :=
  if (s.extra th.slot).deleted ≠ 0 then ⟨0, s.setPc th.tid .exited, []⟩
  else
    let x := { s.extra th.slot with
      nextTime := rtapiAdvanceTime (s.extra th.slot).nextTime (cULong (s.task th.slot).period) 0 }
    if now.after x.nextTime then
      let r := rtapiTaskUpdateStatsHook c (s.setExtra th.slot x) th.tid rusage
      ⟨0, r.sys.setStatus th.slot
          { r.sys.status th.slot with waitErrors := (r.sys.status th.slot).waitErrors + 1 },
        .sleep (s.extra th.slot).nextTime false :: r.events ++
          if !c.posix && c.handler then [.deadlineMissed th.slot] else []⟩
    else ⟨0, s.setExtra th.slot x, [.sleep (s.extra th.slot).nextTime false]⟩

/-! ## The generic calls, modelled from the specification -/

/-- Modelled from the spec: the handle check of the generic calls, an id from `1` to
`RTAPI_MAX_TASKS` whose slot holds a task. -/
def checkTask (s : Sys) (id : Int) : Option Nat :=
  if id < 1 ∨ id > c.maxTasks then none
  else if (s.task id.toNat).magic ≠ taskMagic then none else some id.toNat

/-- Modelled from the spec: the first free task slot from `1`. -/
def newSlot (s : Sys) : Nat := firstFree (fun n => (s.task n).magic == taskMagic) 1 c.maxTasks

/-- Modelled from the spec: `rtapi_task_new` reserves the first free slot, checks the priority,
records the task, then calls `_rtapi_task_new_hook`; a failed hook releases the slot. The ghost
record of the slot starts over. -/
def rtapiTaskNew (s : Sys) (prio cpu : Int) (stacksize : UInt64) (stack : Option Nat) : Result :=
  if newSlot c s > c.maxTasks then ⟨-enomem, s, []⟩
  else if prio < c.prioLowest ∨ prio > c.prioHighest then ⟨-einval, s, []⟩
  else
    let r := rtapiTaskNewHook ((s.setTask (newSlot c s)
        ⟨taskMagic, 0, 0, prio, cpu, max stacksize.toNat 16384⟩).setSpawn
        (newSlot c s) ⟨0, false⟩)
      (newSlot c s) stack
    if r.ret < 0 then ⟨r.ret, r.sys.setTask (newSlot c s) (s.task (newSlot c s)), r.events⟩
    else r

/-- Modelled from the spec: `rtapi_task_start(task_id, period_nsec)` validates the handle, clamps
the period up to the clock tick and stores it; `_rtapi_task_start_hook` then clears `deleted` and
creates the worker, which computes the ratio (`realtimeThreadInit`, `none` when it divides by
zero). -/
def rtapiTaskStart (s : Sys) (id : Int) (periodNsec : UInt64) (e : StartEnv) : Option Result :=
  match checkTask c s id with
  | none => some ⟨-einval, s, []⟩
  | some i =>
    rtapiTaskStartHook c
      (s.setTask i { s.task i with period := max (periodNsec.toNat : Int) s.period }) i e

/-- Modelled from the spec: `rtapi_task_stop(task_id)` validates the handle and calls
`_rtapi_task_stop_hook`. -/
def rtapiTaskStop (s : Sys) (id : Int) : Result :=
  match checkTask c s id with
  | none => ⟨-einval, s, []⟩
  | some i => ⟨0, rtapiTaskStopHook s i, []⟩

/-- Modelled from the spec: `rtapi_task_delete(task_id)` validates the handle, calls
`_rtapi_task_delete_hook`, then clears the slot. -/
def rtapiTaskDelete (s : Sys) (id : Int) : Result :=
  match checkTask c s id with
  | none => ⟨-einval, s, []⟩
  | some i =>
    ⟨0, (rtapiTaskDeleteHook s i).1.setTask i { (s.task i) with magic := 0 },
      (rtapiTaskDeleteHook s i).2⟩

/-- Modelled from the spec: `rtapi_clock_set_period(nsecs)` sets the clock period once, rounded
down to the resolution and at least one tick. -/
def rtapiClockSetPeriod (s : Sys) (nsecs : UInt64) : Result :=
  if nsecs.toNat = 0 then ⟨s.period, s, []⟩
  else if s.period ≠ 0 then ⟨-einval, s, []⟩
  else ⟨max (nsecs.toNat / c.res * c.res) c.res,
    { s with period := max (nsecs.toNat / c.res * c.res) c.res }, []⟩

/-! ## Steps and runs -/

/-- The operations, with the environment's answers. -/
inductive Op
  | clockSetPeriod (nsecs : UInt64)
  | taskNew (prio cpu : Int) (stacksize : UInt64) (stack : Option Nat)
  | taskDelete (id : Int)
  | taskStart (id : Int) (periodNsec : UInt64) (e : StartEnv)
  | taskStop (id : Int)
  | begin (tid : Nat) (now : Timespec) (rusage startup : Option Int)
  | finish (tid : Nat)
  | wait (tid : Nat) (now : Timespec) (rusage : Option Int)

/-- The unjoined thread `tid` at program point `pc`. -/
def Sys.threadAt (s : Sys) (tid : Nat) (pc : Pc) : Option Thread :=
  s.threads.find? fun th => th.tid = tid ∧ th.pc = pc

theorem Sys.threadAt_spec {s : Sys} {tid : Nat} {pc : Pc} {th : Thread}
    (h : s.threadAt tid pc = some th) : th ∈ s.threads ∧ th.tid = tid ∧ th.pc = pc := by
  have := List.find?_some h
  simp only [decide_eq_true_eq] at this
  exact ⟨List.mem_of_find?_eq_some h, this⟩

/-- What an operation does; `none` when it cannot happen. -/
def Op.run (s : Sys) : Op → Option Result
  | .clockSetPeriod nsecs => some (rtapiClockSetPeriod c s nsecs)
  | .taskNew prio cpu stacksize stack => some (rtapiTaskNew c s prio cpu stacksize stack)
  | .taskDelete id => some (rtapiTaskDelete c s id)
  | .taskStart id periodNsec e => rtapiTaskStart c s id periodNsec e
  | .taskStop id => some (rtapiTaskStop c s id)
  | .begin tid now rusage startup =>
    (s.threadAt tid .ready).map fun th => realtimeThreadBegin c s th now rusage startup
  | .finish tid => (s.threadAt tid .body).map fun th => realtimeThreadEnd s th
  | .wait tid now rusage => (s.threadAt tid .body).map fun th => rtapiWaitHook c s th now rusage

/-- The environment's constraints: `pthread_create` returns an identifier no unjoined thread
holds, and the join of a delete returns.
The first is the guarantee of POSIX, which reuses only the identifiers of joined threads.
glibc with stacks given by `pthread_attr_setstack` does not keep it: the thread's descriptor, and
so its identifier, is at the top of its stack. A second start on the stack of a live worker, or a
start on a stack freed while its never-joined worker's descriptor is still there, can get the
identifier of that unjoined worker. Runs where it does are outside the model. -/
def Op.allowed (s : Sys) : Op → Bool
  | .taskStart _ _ e => match e.created with
    | none => true
    | some tid => s.threads.all (·.tid != tid)
  | .taskDelete id => match checkTask c s id with
    | none => true
    | some i => (s.extra i).deleted != 0 || s.threads.all fun th =>
        th.tid != (s.extra i).thread || th.pc == .exited || th.slot == i
  | _ => true

/-- Run the operations in order from `s`: the events and the final state, `none` when one cannot
run. -/
def runOps : Sys → List Op → Option (List Event × Sys)
  | s, [] => some ([], s)
  | s, o :: ops =>
    if o.allowed c s then
      (o.run c s).bind fun r => (runOps r.sys ops).map fun p => (r.events ++ p.1, p.2)
    else none

/-- The states runs from load time reach. -/
inductive Reachable : Sys → Prop
  | init : Reachable Sys.init
  | step {s : Sys} (o : Op) {r : Result} : Reachable s → o.allowed c s = true →
      o.run c s = some r → Reachable r.sys

/-- The state a list of operations reaches from load time (`Sys.init` if one cannot run). -/
def stateAfter (ops : List Op) : Sys := ((runOps c Sys.init ops).map Prod.snd).getD Sys.init

variable {c}

theorem checkTask_eq_some {s : Sys} {id : Int} {i : Nat} :
    checkTask c s id = some i ↔ id = i ∧ 1 ≤ i ∧ i ≤ c.maxTasks ∧ s.Valid i := by
  unfold checkTask Sys.Valid
  split_ifs with h₁ h₂
  · simp only [reduceCtorEq, false_iff, not_and]; omega
  · simp only [reduceCtorEq, false_iff, not_and]
    rintro rfl - - h; exact h₂ h
  · simp only [Option.some.injEq]
    constructor
    · rintro rfl; exact ⟨by omega, by omega, by omega, not_not.1 h₂⟩
    · rintro ⟨rfl, -⟩; simp

theorem reachable_runOps {s : Sys} (h : Reachable c s) {ops : List Op} {l : List Event} {s' : Sys}
    (hr : runOps c s ops = some (l, s')) : Reachable c s' := by
  induction ops generalizing s l with
  | nil => cases hr; exact h
  | cons o ops ih =>
    simp only [runOps] at hr
    split at hr
    · obtain ⟨r, hr₁, hr₂⟩ := Option.bind_eq_some.1 hr
      obtain ⟨⟨l', s''⟩, hp, he⟩ := Option.map_eq_some'.1 hr₂
      obtain ⟨rfl, rfl⟩ := Prod.mk.inj he
      exact ih (h.step o ‹_› hr₁) hp
    · cases hr

theorem reachable_stateAfter (ops : List Op) : Reachable c (stateAfter c ops) := by
  unfold stateAfter
  cases h : runOps c Sys.init ops with
  | none => exact .init
  | some p => exact reachable_runOps .init h

/-- A 1 ms clock tick, then task `1` created and started, `pthread_create` handing its worker the
identifier `7`. -/
def startedOps : List Op :=
  [.clockSetPeriod 1000000, .taskNew 50 (-1) 0 (some 4096), .taskStart 1 1000000 (.ok 7)]

end Rtapi.Preempt
