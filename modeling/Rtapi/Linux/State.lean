import Rtapi.Os

/-!
# The state of the realtime API of `linux_rtapi.c`

The API keeps a clock period, a table of `MAX_MODULES` module slots and a table of `MAX_TASKS`
task slots (`task_data`). Besides these variables of the program the model keeps what the
operating system knows: the threads `pthread_create` made and nobody has joined (`Thread`),
each bound by `rtapi_set_task` to the slot it runs. A call returns a value, the next state and
the list of what it did outside the tables, in order (`Event`): messages, `pthread_join`,
`free`, `pthread_setaffinity_np`.

One more component is ghost state, held by no variable of the program: `Spawn` records, for
each slot, how many workers `rtapi_task_start` created since the slot's last reservation and
whether the latest start created one. The lifecycle of the specification is a function of it.
-/

namespace Rtapi.Linux

/-! ## Constants -/

/-- `MAX_TASKS`. -/
def maxTasks : Nat := 64
/-- `MAX_MODULES`. -/
def maxModules : Nat := 64
/-- `MODULE_OFFSET`. -/
def moduleOffset : Int := 32768
/-- `MODULE_MAGIC`. -/
def moduleMagic : Int := 30812
/-- `TASK_MAGIC`. -/
def taskMagic : Int := 21979

/-! ## Task slots and threads -/

/-- A slot of `task_array`. Pointers (`taskcode`, `arg`, `stackaddr`) and `pthread_t` are numbers,
`0` standing for `NULL`. -/
structure TaskData where
  magic : Int
  owner : Int
  taskcode : Nat
  arg : Nat
  stacksize : Nat
  stackaddr : Nat
  destroyed : Int
  deleted : Int
  prio : Int
  usesFp : Int
  cpu : Int
  period : Int
  ratio : Int
  thread : Nat
  nextTime : Timespec
  deadlineScheduling : Int
  failures : Int
  minfaultBase : Nat
  majfaultBase : Nat
  deriving DecidableEq, Repr

/-- A zero-filled slot: the table's contents before any call. -/
def TaskData.zero : TaskData :=
  ⟨0, 0, 0, 0, 0, 0, 0, 0, 0, 0, 0, 0, 0, 0, ⟨0, 0⟩, 0, 0, 0, 0⟩

/-! ## The whole state -/

/-- The API's state. `modules n` is `module_array[n].magic`, the only field this file uses. -/
structure Sys where
  period : Int
  modules : Nat → Int
  task : Nat → TaskData
  threads : List Thread
  spawn : Nat → Spawn

/-- The state at load time: everything zero, no thread. -/
def Sys.init : Sys := ⟨0, fun _ => 0, fun _ => TaskData.zero, [], fun _ => ⟨0, false⟩⟩

/-- The outcome of a call: its return value, the state after it, and what it did outside. -/
structure Result where
  ret : Int
  sys : Sys
  events : List Event

/-- The answers of the operating system that do not change while the API runs. -/
structure Os where
  /-- `sched_get_priority_max(SCHED_FIFO)`. -/
  prioHighest : Int
  /-- `sched_get_priority_min(SCHED_FIFO)`. -/
  prioLowest : Int
  /-- `clock_getres(CLOCK_MONOTONIC).tv_nsec`. -/
  res : Nat
  res_pos : 0 < res
  res_lt : res < 1000000000

/-- An operating system with the FIFO priorities of Linux, `1` to `99`, and a 1 ns clock. -/
def linuxOs : Os := ⟨99, 1, 1, by decide, by decide⟩

namespace Sys

variable (s : Sys)

/-- The slot `i` holds a task: its magic is `TASK_MAGIC`. -/
def Valid (i : Nat) : Prop := (s.task i).magic = taskMagic

instance (i : Nat) : Decidable (s.Valid i) := inferInstanceAs (Decidable (_ = _))

/-- Write slot `i`. -/
def setTask (i : Nat) (t : TaskData) : Sys := { s with task := Function.update s.task i t }

/-- Write the ghost record of slot `i`. -/
def setSpawn (i : Nat) (g : Spawn) : Sys := { s with spawn := Function.update s.spawn i g }

/-- Move the thread `tid` to the program point `pc`. -/
def setPc (tid : Nat) (pc : Pc) : Sys := { s with threads := moveThread s.threads tid pc }

variable {s} {i j : Nat} {t : TaskData} {g : Spawn}

@[simp] theorem setTask_task_self : (s.setTask i t).task i = t := Function.update_same _ _ _
theorem setTask_task_ne (h : j ≠ i) : (s.setTask i t).task j = s.task j :=
  Function.update_noteq h _ _
@[simp] theorem setTask_period : (s.setTask i t).period = s.period := rfl
@[simp] theorem setTask_modules : (s.setTask i t).modules = s.modules := rfl
@[simp] theorem setTask_threads : (s.setTask i t).threads = s.threads := rfl
@[simp] theorem setTask_spawn : (s.setTask i t).spawn = s.spawn := rfl

@[simp] theorem setSpawn_spawn_self : (s.setSpawn i g).spawn i = g := Function.update_same _ _ _
theorem setSpawn_spawn_ne (h : j ≠ i) : (s.setSpawn i g).spawn j = s.spawn j :=
  Function.update_noteq h _ _
@[simp] theorem setSpawn_period : (s.setSpawn i g).period = s.period := rfl
@[simp] theorem setSpawn_modules : (s.setSpawn i g).modules = s.modules := rfl
@[simp] theorem setSpawn_task : (s.setSpawn i g).task = s.task := rfl
@[simp] theorem setSpawn_threads : (s.setSpawn i g).threads = s.threads := rfl

@[simp] theorem setPc_period {tid : Nat} {pc : Pc} : (s.setPc tid pc).period = s.period := rfl
@[simp] theorem setPc_modules {tid : Nat} {pc : Pc} : (s.setPc tid pc).modules = s.modules := rfl
@[simp] theorem setPc_task {tid : Nat} {pc : Pc} : (s.setPc tid pc).task = s.task := rfl
@[simp] theorem setPc_spawn {tid : Nat} {pc : Pc} : (s.setPc tid pc).spawn = s.spawn := rfl
@[simp] theorem setPc_threads {tid : Nat} {pc : Pc} :
    (s.setPc tid pc).threads = moveThread s.threads tid pc := rfl

theorem setTask_setTask {a : TaskData} : (s.setTask i a).setTask i t = s.setTask i t := by
  simp [setTask]

theorem setSpawn_setTask : (s.setSpawn j g).setTask i t = (s.setTask i t).setSpawn j g := rfl

theorem setTask_task_eq_self : s.setTask i (s.task i) = s := by
  unfold setTask; rw [Function.update_eq_self]

theorem setTask_task_apply : (s.setTask i t).task j = if j = i then t else s.task j := by
  by_cases h : j = i <;> simp [h, setTask_task_ne]

/-- Writing a slot with a record that agrees with the old one on `f` keeps `f` of every slot. -/
theorem setTask_proj {α : Type} (f : TaskData → α) (h : f t = f (s.task i)) (j : Nat) :
    f ((s.setTask i t).task j) = f (s.task j) := by
  rw [setTask_task_apply]; split_ifs with hj
  · rw [h, hj]
  · rfl

end Sys

end Rtapi.Linux
