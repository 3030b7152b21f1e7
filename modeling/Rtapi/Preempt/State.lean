import Rtapi.Os

/-!
# The state of `rt-preempt.c`

`rt-preempt.c` supplies the hooks of the RT_PREEMPT thread system to a generic RTAPI layer that
keeps the module table and the task table (`task_data`: magic, period, ratio, priority, CPU,
stack size). That layer and `rtapi_common.h`, which fixes `RTAPI_MAX_TASKS` and
`RTAPI_MAX_MODULES`, are not among the sources: the two bounds are parameters (`Config`), and
the wrappers that validate a handle and call the hooks are modelled from the specification in
`Rtapi.Preempt.Task`.

The file's own state is `extra_task_data`, indexed by task id (`ExtraTaskData`: the `deleted` and
`destroyed` flags, the release time, the `pthread_t` handle, the stack and the kernel thread id)
and the per-task statistics `global_data->thread_status` it writes (`ThreadStatus`). As for
`linux_rtapi.c`, the model adds the threads `pthread_create` made and nobody has joined, and the
ghost record `Spawn` of each slot: the workers created since its reservation, and whether the
latest start created one.
-/

namespace Rtapi.Preempt

/-- What the build and the operating system fix. -/
structure Config where
  /-- `RTAPI_MAX_TASKS`: task ids run from `1` to it. -/
  maxTasks : Nat
  /-- `RTAPI_MAX_MODULES`: module slots run from `1` to it. -/
  maxModules : Nat
  /-- `RTAPI_POSIX` is defined (the simulator build): no priority change, no exception handler. -/
  posix : Bool
  /-- `rt_exception_handler` is set. -/
  handler : Bool
  /-- The resolution of `CLOCK_MONOTONIC`. -/
  res : Nat
  res_pos : 0 < res
  /-- `sched_get_priority_min(SCHED_FIFO)` and `sched_get_priority_max(SCHED_FIFO)`. -/
  prioLowest : Int
  prioHighest : Int

/-- `MODULE_OFFSET`. -/
def moduleOffset : Int := 32768

/-- `TASK_MAGIC` of the generic layer. -/
def taskMagic : Int := 21979

/-- The state of a module slot: `NO_MODULE`, `REALTIME`, or another state the generic layer
sets. -/
inductive ModState
  | noModule
  | realtime
  | userspace
  deriving DecidableEq, Repr

/-- The fields of the generic layer's task record that this file reads or writes. -/
structure TaskData where
  magic : Int
  period : Int
  ratio : Int
  prio : Int
  cpu : Int
  stacksize : Nat
  deriving DecidableEq, Repr

/-- `extra_task_data_t`, without the statistics fields this file never uses. -/
structure ExtraTaskData where
  deleted : Int
  destroyed : Int
  nextTime : Timespec
  /-- The `pthread_t` handle `pthread_create` stored. -/
  thread : Nat
  stackaddr : Nat
  /-- The kernel thread id `gettid` returned. -/
  tid : Int
  deriving DecidableEq, Repr

/-- The counters of `rtapi_threadstatus_t` that this file increments; the resource figures it
copies from `getrusage` are left out. -/
structure ThreadStatus where
  numUpdates : Nat
  waitErrors : Nat
  deriving DecidableEq, Repr

/-- The state: the clock period of the generic layer, the module table and its count of loaded
modules, the task table, `extra_task_data`, the thread statistics, the unjoined threads and the
ghost records. -/
structure Sys where
  period : Int
  modules : Nat → ModState
  ulModuleCount : Nat
  task : Nat → TaskData
  extra : Nat → ExtraTaskData
  status : Nat → ThreadStatus
  threads : List Thread
  spawn : Nat → Spawn

/-- The state at load time: everything zero, no module, no thread. -/
def Sys.init : Sys :=
  ⟨0, fun _ => .noModule, 0, fun _ => ⟨0, 0, 0, 0, 0, 0⟩,
    fun _ => ⟨0, 0, ⟨0, 0⟩, 0, 0, 0⟩, fun _ => ⟨0, 0⟩, [], fun _ => ⟨0, false⟩⟩

/-- The outcome of a call. -/
structure Result where
  ret : Int
  sys : Sys
  events : List Event

namespace Sys

variable (s : Sys)

/-- The task slot `i` holds a task. -/
def Valid (i : Nat) : Prop := (s.task i).magic = taskMagic

instance (i : Nat) : Decidable (s.Valid i) := inferInstanceAs (Decidable (_ = _))

/-- Write slot `i` of the task table. -/
def setTask (i : Nat) (t : TaskData) : Sys := { s with task := Function.update s.task i t }

/-- Write entry `i` of `extra_task_data`. -/
def setExtra (i : Nat) (x : ExtraTaskData) : Sys := { s with extra := Function.update s.extra i x }

/-- Write entry `i` of `thread_status`. -/
def setStatus (i : Nat) (x : ThreadStatus) : Sys :=
  { s with status := Function.update s.status i x }

/-- Write the ghost record of slot `i`. -/
def setSpawn (i : Nat) (g : Spawn) : Sys := { s with spawn := Function.update s.spawn i g }

/-- Move the thread `tid` to the program point `pc`. -/
def setPc (tid : Nat) (pc : Pc) : Sys := { s with threads := moveThread s.threads tid pc }

variable {s} {i j : Nat} {t : TaskData} {x : ExtraTaskData} {y : ThreadStatus} {g : Spawn}

@[simp] theorem setTask_task_self : (s.setTask i t).task i = t := Function.update_same _ _ _
theorem setTask_task_ne (h : j ≠ i) : (s.setTask i t).task j = s.task j :=
  Function.update_noteq h _ _
@[simp] theorem setTask_extra : (s.setTask i t).extra = s.extra := rfl
@[simp] theorem setTask_threads : (s.setTask i t).threads = s.threads := rfl
@[simp] theorem setTask_spawn : (s.setTask i t).spawn = s.spawn := rfl
@[simp] theorem setTask_period : (s.setTask i t).period = s.period := rfl
@[simp] theorem setTask_status : (s.setTask i t).status = s.status := rfl

@[simp] theorem setExtra_extra_self : (s.setExtra i x).extra i = x := Function.update_same _ _ _
theorem setExtra_extra_ne (h : j ≠ i) : (s.setExtra i x).extra j = s.extra j :=
  Function.update_noteq h _ _
@[simp] theorem setExtra_task : (s.setExtra i x).task = s.task := rfl
@[simp] theorem setExtra_threads : (s.setExtra i x).threads = s.threads := rfl
@[simp] theorem setExtra_spawn : (s.setExtra i x).spawn = s.spawn := rfl
@[simp] theorem setExtra_period : (s.setExtra i x).period = s.period := rfl
@[simp] theorem setExtra_status : (s.setExtra i x).status = s.status := rfl
theorem setExtra_extra_eq_self : s.setExtra i (s.extra i) = s := by
  unfold setExtra; rw [Function.update_eq_self]

@[simp] theorem setStatus_status_self : (s.setStatus i y).status i = y := Function.update_same _ _ _
theorem setStatus_status_ne (h : j ≠ i) : (s.setStatus i y).status j = s.status j :=
  Function.update_noteq h _ _
@[simp] theorem setStatus_extra : (s.setStatus i y).extra = s.extra := rfl
@[simp] theorem setStatus_task : (s.setStatus i y).task = s.task := rfl
@[simp] theorem setStatus_threads : (s.setStatus i y).threads = s.threads := rfl
@[simp] theorem setStatus_spawn : (s.setStatus i y).spawn = s.spawn := rfl
@[simp] theorem setStatus_period : (s.setStatus i y).period = s.period := rfl

@[simp] theorem setSpawn_spawn_self : (s.setSpawn i g).spawn i = g := Function.update_same _ _ _
theorem setSpawn_spawn_ne (h : j ≠ i) : (s.setSpawn i g).spawn j = s.spawn j :=
  Function.update_noteq h _ _
@[simp] theorem setSpawn_task : (s.setSpawn i g).task = s.task := rfl
@[simp] theorem setSpawn_extra : (s.setSpawn i g).extra = s.extra := rfl
@[simp] theorem setSpawn_threads : (s.setSpawn i g).threads = s.threads := rfl
@[simp] theorem setSpawn_status : (s.setSpawn i g).status = s.status := rfl
@[simp] theorem setSpawn_period : (s.setSpawn i g).period = s.period := rfl

@[simp] theorem setPc_extra {tid : Nat} {pc : Pc} : (s.setPc tid pc).extra = s.extra := rfl
@[simp] theorem setPc_task {tid : Nat} {pc : Pc} : (s.setPc tid pc).task = s.task := rfl
@[simp] theorem setPc_spawn {tid : Nat} {pc : Pc} : (s.setPc tid pc).spawn = s.spawn := rfl
@[simp] theorem setPc_status {tid : Nat} {pc : Pc} : (s.setPc tid pc).status = s.status := rfl
@[simp] theorem setPc_period {tid : Nat} {pc : Pc} : (s.setPc tid pc).period = s.period := rfl
@[simp] theorem setPc_threads {tid : Nat} {pc : Pc} :
    (s.setPc tid pc).threads = moveThread s.threads tid pc := rfl

end Sys

end Rtapi.Preempt
