import Rtapi.Time

/-!
# Threads, messages and CPU affinity

What `linux_rtapi.c` and `rt-preempt.c` share around the operating system: the workers
`pthread_create` makes (`Thread`, with the program point `Pc` of `realtime_thread`), the
messages the calls print and the other effects they have outside the tables (`Event`), and
`realtime_set_affinity`, which both files define with the same text.
-/

namespace Rtapi

/-! ## Threads -/

/-- Where a worker is in `realtime_thread`. -/
inductive Pc
  /-- Past the init barrier, before the first release time is seeded. -/
  | ready
  /-- In the task code, which calls `rtapi_wait` once a period. -/
  | body
  /-- Terminated (returned, or `pthread_exit` in `rtapi_wait`) and not yet joined. -/
  | exited
  deriving DecidableEq, Repr

/-- A thread `pthread_create` made and nobody has joined, running the task of slot `slot`. -/
structure Thread where
  tid : Nat
  slot : Nat
  pc : Pc
  deriving DecidableEq, Repr

/-- `pthread_join(tid)` on the threads nobody has joined: the one with that id leaves. -/
def joinThread (ths : List Thread) (tid : Nat) : List Thread := ths.filter (·.tid ≠ tid)

/-- The thread `tid` moves to the program point `pc`. -/
def moveThread (ths : List Thread) (tid : Nat) (pc : Pc) : List Thread :=
  ths.map fun th => if th.tid = tid then { th with pc } else th

section MoveThread

variable {ths : List Thread} {tid : Nat} {pc : Pc} {w : Thread}

theorem map_tid_moveThread : (moveThread ths tid pc).map (·.tid) = ths.map (·.tid) := by
  simp only [moveThread, List.map_map]
  congr 1; funext th; simp only [Function.comp]; split <;> rfl

theorem mem_moveThread_of_ne (hw : w ∈ ths) (h : w.tid ≠ tid) : w ∈ moveThread ths tid pc :=
  List.mem_map.2 ⟨w, hw, if_neg h⟩

theorem mem_moveThread_self (hw : w ∈ ths) (h : w.tid = tid) :
    { w with pc } ∈ moveThread ths tid pc :=
  List.mem_map.2 ⟨w, hw, if_pos h⟩

/-- A move keeps every thread's identifier and slot. -/
theorem map_tid_slot_moveThread :
    (moveThread ths tid pc).map (fun th => (th.tid, th.slot)) =
      ths.map fun th => (th.tid, th.slot) := by
  simp only [moveThread, List.map_map]
  congr 1; funext th; simp only [Function.comp]; split <;> rfl

/-- Moves of two different threads commute. -/
theorem moveThread_comm {tid' : Nat} {pc' : Pc} (h : tid ≠ tid') :
    moveThread (moveThread ths tid pc) tid' pc' = moveThread (moveThread ths tid' pc') tid pc := by
  simp only [moveThread, List.map_map]
  congr 1; funext th
  simp only [Function.comp]
  by_cases h₁ : th.tid = tid <;> by_cases h₂ : th.tid = tid' <;> simp_all

/-- A move changes no lookup of another thread. -/
theorem find?_moveThread_of_ne {tid' : Nat} {q : Pc} (h : tid ≠ tid') :
    (moveThread ths tid pc).find? (fun th => th.tid = tid' ∧ th.pc = q) =
      ths.find? fun th => th.tid = tid' ∧ th.pc = q := by
  simp only [moveThread, List.find?_map]
  have hp : ((fun th : Thread => decide (th.tid = tid' ∧ th.pc = q)) ∘
      fun th => if th.tid = tid then { th with pc } else th) =
      fun th => decide (th.tid = tid' ∧ th.pc = q) := by
    funext th
    by_cases ht : th.tid = tid
    · simp only [Function.comp, ht, if_true, h, false_and, decide_False]
    · simp only [Function.comp, ht, if_false]
  rw [hp]
  cases hf : ths.find? (fun th => decide (th.tid = tid' ∧ th.pc = q)) with
  | none => rfl
  | some th =>
    have ht := List.find?_some hf
    simp only [decide_eq_true_eq] at ht
    simp only [Option.map_some', ht.1, Ne.symm h, if_false]

end MoveThread

/-- Ghost record of a slot since its last reservation: how many workers were created, and
whether the latest `rtapi_task_start` created one. -/
structure Spawn where
  count : Nat
  latest : Bool
  deriving DecidableEq, Repr

/-- The lifecycle states of a task slot in the specification's table: free, configured by
`rtapi_task_new`, running once started, draining once stopped or once its worker set `deleted`. -/
inductive Lifecycle
  | free
  | configured
  | running
  | draining
  deriving DecidableEq, Repr

/-! ## Messages and events -/

/-- The messages the calls print, named after their text (debug messages are left out). -/
inductive Msg
  /-- "Failed to allocate realtime thread stack" -/
  | stackAllocFailed
  /-- "New task %d '%s': invalid priority %d (highest=%d lowest=%d)" -/
  | invalidPriority (n prio highest lowest : Int)
  /-- "pthread_join() on realtime thread failed" -/
  | joinFailed
  /-- "attempt to set period twice" -/
  | setPeriodTwice
  /-- "RTAPI: ERROR: realtime_set_affinity(%s): CPU %d not available" -/
  | cpuNotAvailable (cpu : Int)
  /-- "Unable to get ID of the last CPU" -/
  | lastCpuUnknown
  /-- "%d %s: Failed to set CPU affinity to CPU %d (%s)" -/
  | setAffinityFailed (task cpu : Int)
  /-- "Unable to register SIGXCPU handler." -/
  | sigxcpuFailed
  /-- "Unable to set DEADLINE scheduling policy (%s). Trying FIFO." -/
  | deadlineFailed
  /-- "Running DEADLINE scheduling policy." -/
  | deadlineRunning
  /-- "Unable to set FIFO scheduling policy: %s" -/
  | fifoFailed
  /-- "ERROR: reached end of realtime thread for task %d" -/
  | endOfThread (task : Int)
  /-- "Failed to create realtime thread" -/
  | createFailed
  /-- "Realtime thread initialization failed" -/
  | initFailed
  /-- "ERROR: Missed scheduling deadline for task %d [%d times]" -/
  | missedDeadline (task times : Int)
  /-- "rtapi task %d %s: Got invalid fault counts." -/
  | invalidFaultCounts (task : Int)
  /-- "RTAPI: ERROR: reached module limit %d" -/
  | moduleLimit (n : Int)
  /-- "_rtapi_task_update_stats_hook: BUG - task_id out of range: %d" -/
  | taskIdOutOfRange (id : Int)
  /-- "RTAPI: task '%s' at %p period = %d ratio=%d id=%d TID=%d" -/
  | taskInfo (period ratio id tid : Int)
  /-- "rtapi_set_task: prctl(PR_SETNAME,%s) failed: %s" -/
  | prctlFailed
  /-- "getrusage(): %d - %s", with `errno` and its text -/
  | getrusageFailed (errno : Int)
  deriving DecidableEq, Repr

/-- What a call does outside the tables. -/
inductive Event
  /-- `rtapi_print_msg(level, ...)`. -/
  | msg (level : MsgLevel) (m : Msg)
  /-- `pthread_join(tid, ...)`. -/
  | join (tid : Nat)
  /-- `free(addr)`. -/
  | free (addr : Nat)
  /-- `pthread_setaffinity_np` to the one-CPU set `{cpu}`. -/
  | setAffinity (cpu : Nat)
  /-- The absolute sleep of `rtapi_wait` until `next`: `clock_nanosleep`, or
  `sched_wait_interval` under deadline scheduling. -/
  | sleep (next : Timespec) (deadline : Bool)
  /-- `rt_exception_handler(RTP_DEADLINE_MISSED, ...)` for the task `task`. -/
  | deadlineMissed (task : Int)
  deriving DecidableEq, Repr

/-! ## CPU affinity -/

/-- `CPU_SETSIZE`. -/
def cpuSetsize : Nat := 1024

/-- `CPU_ISSET(cpu, &set)` for a `cpu ≥ 0`: bits past `CPU_SETSIZE` read as clear. -/
def cpuIsset (cpu : Int) (set : Nat → Bool) : Bool := cpu < cpuSetsize && set cpu.toNat

/-- The loop `for (cpu_nr = k - 1; cpu_nr >= 0; cpu_nr--) if (CPU_ISSET(cpu_nr, &set)) break;`:
the highest CPU below `k` in the set. -/
def lastCpu (set : Nat → Bool) : Nat → Option Nat
  | 0 => none
  | k + 1 => if set k then some k else lastCpu set k

/-- `realtime_set_affinity(task)`, the same in both files, for the task of slot `id` requesting
`cpu` (`task->cpu`, the one field of the task it reads besides the name), given the set
`pthread_getaffinity_np` reports and whether `pthread_setaffinity_np` succeeds. -/
def realtimeSetAffinity (id : Nat) (cpu : Int) (set : Nat → Bool) (setOk : Bool) :
    Int × List Event :=
  let pick : Except Msg Nat :=
    if cpu > -1 then
      if cpuIsset cpu set then .ok cpu.toNat else .error (.cpuNotAvailable cpu)
    else match lastCpu set cpuSetsize with
      | some c => .ok c
      | none => .error .lastCpuUnknown
  match pick with
  | .error m => (-einval, [.msg .err m])
  | .ok c =>
    if setOk then (0, [.setAffinity c])
    else (-einval, [.setAffinity c, .msg .err (.setAffinityFailed id c)])

end Rtapi
