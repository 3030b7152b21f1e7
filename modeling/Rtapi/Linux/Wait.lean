import Rtapi.Linux.Start

/-!
# The worker in `linux_rtapi.c`

After the init barrier the worker seeds its release time one period past the clock
(`realtimeThreadBegin`) and calls the task code, which calls `rtapi_wait` once a period. If the
task code returns, `realtime_thread` prints an error and sets `deleted` (`realtimeThreadEnd`).

`rtapi_wait` ends the thread when `deleted` is set. Otherwise it sleeps until `next_time`,
advances `next_time` by the task's period, reads the clock and counts a missed deadline when the
clock is past the advanced `next_time`; the miss is reported at `RTAPI_MSG_ERR` the first time,
at `RTAPI_MSG_WARN` up to the ninth, and then no more (`missLevel`).
-/

namespace Rtapi.Linux

/-- What the system answers during one `rtapi_wait`. -/
structure WaitEnv where
  /-- `clock_gettime(CLOCK_MONOTONIC)` after the sleep. -/
  now : Timespec
  /-- `ru_minflt` and `ru_majflt` after `getrusage(RUSAGE_SELF)` in `rtapi_get_pagefault_count`.
  The code ignores the call's return: when it fails the fields hold what the stack held, which
  these arbitrary counts cover. -/
  minflt : Nat
  majflt : Nat

/-- `rtapi_get_pagefault_count(task)` for the task of slot `i`. -/
def rtapiGetPagefaultCount (i : Nat) (t : TaskData) (minflt majflt : Nat) : Nat × List Event :=
  if minflt < t.minfaultBase ∨ majflt < t.majfaultBase then
    (0, [.msg .err (.invalidFaultCounts i)])
  else ((minflt - t.minfaultBase + (majflt - t.majfaultBase)) % 2 ^ 64, [])

/-- The level of the missed-deadline message once `failures` misses are counted. -/
def missLevel (failures : Int) : MsgLevel :=
  if failures = 1 then .err else if failures < 10 then .warn else .none

/-- `rtapi_wait()` in the worker `th`. When `deleted` is set the thread ends (`pthread_exit`) and
the call does not return. -/
def rtapiWait (s : Sys) (th : Thread) (e : WaitEnv) : Result :=
  let t := s.task th.slot
  if t.deleted ≠ 0 then ⟨0, s.setPc th.tid .exited, []⟩
  else
    let sleep := Event.sleep t.nextTime (t.deadlineScheduling ≠ 0)
    let t := { t with nextTime := rtapiAdvanceTime t.nextTime (cULong t.period) 0 }
    if e.now.after t.nextTime then
      let t := { t with failures := cInt (t.failures + 1) }
      if missLevel t.failures = .none then ⟨0, s.setTask th.slot t, [sleep]⟩
      else
        ⟨0, s.setTask th.slot t,
          sleep :: (rtapiGetPagefaultCount th.slot t e.minflt e.majflt).2 ++
            [.msg (missLevel t.failures) (.missedDeadline th.slot t.failures)]⟩
    else ⟨0, s.setTask th.slot t, [sleep]⟩

/-- `realtime_thread` past the barrier: `clock_gettime` into `next_time`, advanced by the task's
period; then the task code is called. -/
def realtimeThreadBegin (s : Sys) (th : Thread) (now : Timespec) : Sys :=
  (s.setTask th.slot { s.task th.slot with
    nextTime := rtapiAdvanceTime now (cULong (s.task th.slot).period) 0 }).setPc th.tid .body

/-- The task code of `th` returned: `realtime_thread` reports it, sets `deleted` and returns. The
store of `deleted` and the end of the thread are one step: no state lies between them, so the
model does not show `rtapi_task_delete` finding `deleted` set, skipping the join and freeing the
stack while the worker still runs its last statements on it. -/
def realtimeThreadEnd (s : Sys) (th : Thread) : Result :=
  ⟨0, (s.setTask th.slot { s.task th.slot with deleted := 1 }).setPc th.tid .exited,
    [.msg .err (.endOfThread th.slot)]⟩

/-! ## What a wait does -/

/-- The release time a wait of a task with record `t` advances to. -/
def nextRelease (t : TaskData) : Timespec := rtapiAdvanceTime t.nextTime (cULong t.period) 0

/-- The task record after a wait that returns, the clock reading `now` after the sleep. -/
def waitTask (t : TaskData) (now : Timespec) : TaskData :=
  { t with nextTime := nextRelease t,
           failures := if now.after (nextRelease t) then cInt (t.failures + 1) else t.failures }

section Spec

variable {s : Sys} {th : Thread} {e : WaitEnv} {t : TaskData} {now : Timespec}

@[simp] theorem waitTask_magic : (waitTask t now).magic = t.magic := rfl
@[simp] theorem waitTask_thread : (waitTask t now).thread = t.thread := rfl
@[simp] theorem waitTask_deleted : (waitTask t now).deleted = t.deleted := rfl
@[simp] theorem waitTask_period : (waitTask t now).period = t.period := rfl
@[simp] theorem waitTask_nextTime : (waitTask t now).nextTime = nextRelease t := rfl

theorem rtapiWait_of_deleted (h : (s.task th.slot).deleted ≠ 0) :
    rtapiWait s th e = ⟨0, s.setPc th.tid .exited, []⟩ := by
  simp [rtapiWait, h]

/-- **A wait that returns** advances the release time by the period, and counts a miss exactly
when the clock after the sleep is past the advanced release time. -/
theorem rtapiWait_sys_of_deleted_eq_zero (h : (s.task th.slot).deleted = 0) :
    (rtapiWait s th e).sys = s.setTask th.slot (waitTask (s.task th.slot) e.now) := by
  unfold rtapiWait waitTask nextRelease
  simp only [h, ne_eq, not_true_eq_false, if_false]
  split_ifs <;> rfl

/-- `rtapi_wait` keeps every field `f` that `waitTask` keeps. -/
theorem rtapiWait_proj {α : Type} (f : TaskData → α) (hf : ∀ t now, f (waitTask t now) = f t)
    (j : Nat) : f ((rtapiWait s th e).sys.task j) = f (s.task j) := by
  by_cases hd : (s.task th.slot).deleted = 0
  · rw [rtapiWait_sys_of_deleted_eq_zero hd]; exact Sys.setTask_proj f (hf _ _) j
  · rw [rtapiWait_of_deleted hd]; rfl

@[simp] theorem rtapiWait_ret : (rtapiWait s th e).ret = 0 := by
  unfold rtapiWait; dsimp only; split_ifs <;> rfl

theorem rtapiWait_period : (rtapiWait s th e).sys.period = s.period := by
  by_cases hd : (s.task th.slot).deleted = 0
  · rw [rtapiWait_sys_of_deleted_eq_zero hd]; rfl
  · rw [rtapiWait_of_deleted hd]; rfl

end Spec

end Rtapi.Linux
