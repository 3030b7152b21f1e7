import Rtapi.Linux.Step

/-!
# `rtapi_task_stop` changes nothing a run can observe in `linux_rtapi.c`

`rtapi_task_stop` validates its handle and sets `destroyed`, and `rtapi_task_new` clears it, but
no function of the file reads it: `rtapi_wait` ends a worker on `deleted` alone, and no other
call looks at the flag. So two states that differ only in `destroyed` cannot be told apart. Every
operation, with the same answers of the environment, is allowed in both or in neither, returns
the same value, does the same things outside the tables and leaves two states that again differ
only in `destroyed` (`Op.run_eraseDestroyed`); by induction the same holds of every sequence of
operations (`runOps_congr_eraseDestroyed`). A stop is therefore invisible: whatever runs after it
does exactly what it would have done without it (`rtapiTaskStop_unobservable`).
-/

namespace Rtapi.Linux

/-- The slot with `destroyed` cleared. -/
def TaskData.eraseDestroyed (t : TaskData) : TaskData := { t with destroyed := 0 }

/-- The state with every slot's `destroyed` cleared. -/
def Sys.eraseDestroyed (s : Sys) : Sys := { s with task := fun i => (s.task i).eraseDestroyed }

/-- A call's outcome with the `destroyed` flags of its state cleared. -/
def Result.eraseDestroyed (r : Result) : Result := { r with sys := r.sys.eraseDestroyed }

/-! ## The erasure and the state writers -/

namespace TaskData

variable {t : TaskData}

@[simp] theorem eraseDestroyed_deleted : t.eraseDestroyed.deleted = t.deleted := rfl
@[simp] theorem eraseDestroyed_period : t.eraseDestroyed.period = t.period := rfl
@[simp] theorem eraseDestroyed_cpu : t.eraseDestroyed.cpu = t.cpu := rfl
@[simp] theorem eraseDestroyed_thread : t.eraseDestroyed.thread = t.thread := rfl
@[simp] theorem eraseDestroyed_nextTime : t.eraseDestroyed.nextTime = t.nextTime := rfl
@[simp] theorem eraseDestroyed_failures : t.eraseDestroyed.failures = t.failures := rfl
@[simp] theorem eraseDestroyed_idem : t.eraseDestroyed.eraseDestroyed = t.eraseDestroyed := rfl

end TaskData

namespace Sys

variable {s : Sys} {i : Nat} {t : TaskData}

@[simp] theorem eraseDestroyed_task : s.eraseDestroyed.task i = (s.task i).eraseDestroyed := rfl
@[simp] theorem eraseDestroyed_period : s.eraseDestroyed.period = s.period := rfl
@[simp] theorem eraseDestroyed_modules : s.eraseDestroyed.modules = s.modules := rfl
@[simp] theorem eraseDestroyed_threads : s.eraseDestroyed.threads = s.threads := rfl
@[simp] theorem eraseDestroyed_spawn : s.eraseDestroyed.spawn = s.spawn := rfl
@[simp] theorem eraseDestroyed_idem : s.eraseDestroyed.eraseDestroyed = s.eraseDestroyed := rfl

@[simp] theorem eraseDestroyed_setSpawn {g : Spawn} :
    (s.setSpawn i g).eraseDestroyed = s.eraseDestroyed.setSpawn i g := rfl
@[simp] theorem eraseDestroyed_setPc {tid : Nat} {pc : Pc} :
    (s.setPc tid pc).eraseDestroyed = s.eraseDestroyed.setPc tid pc := rfl
@[simp] theorem eraseDestroyed_withThreads {l : List Thread} :
    { s with threads := l }.eraseDestroyed = { s.eraseDestroyed with threads := l } := rfl

@[simp] theorem eraseDestroyed_setTask :
    (s.setTask i t).eraseDestroyed = s.eraseDestroyed.setTask i t.eraseDestroyed := by
  simp only [eraseDestroyed, setTask]
  congr 1; funext j
  by_cases h : j = i
  · subst h; simp
  · simp [Function.update_noteq h]

end Sys

/-! ## What the calls read -/

section Reads

variable {s : Sys}

@[simp] theorem initSlot_eraseDestroyed : initSlot s.eraseDestroyed = initSlot s := rfl
@[simp] theorem checkTask_eraseDestroyed {id : Int} :
    checkTask s.eraseDestroyed id = checkTask s id := rfl
@[simp] theorem newSlot_eraseDestroyed : newSlot s.eraseDestroyed = newSlot s := rfl
@[simp] theorem threadAt_eraseDestroyed {tid : Nat} {pc : Pc} :
    s.eraseDestroyed.threadAt tid pc = s.threadAt tid pc := rfl
@[simp] theorem joinOk_eraseDestroyed {id : Int} : joinOk s.eraseDestroyed id = joinOk s id := rfl

end Reads

/-! ## Every call -/

section Calls

variable {os : Os} {s : Sys}

theorem rtapiInit_eraseDestroyed :
    (rtapiInit s.eraseDestroyed).eraseDestroyed = (rtapiInit s).eraseDestroyed := by
  unfold rtapiInit; simp only [initSlot_eraseDestroyed]; split_ifs <;> rfl

theorem rtapiExit_eraseDestroyed {id : Int} :
    (rtapiExit s.eraseDestroyed id).eraseDestroyed = (rtapiExit s id).eraseDestroyed := by
  unfold rtapiExit; split_ifs <;> rfl

theorem rtapiClockSetPeriod_eraseDestroyed {nsecs : UInt64} :
    (rtapiClockSetPeriod os s.eraseDestroyed nsecs).eraseDestroyed =
      (rtapiClockSetPeriod os s nsecs).eraseDestroyed := by
  unfold rtapiClockSetPeriod; simp only [Sys.eraseDestroyed_period]; split_ifs <;> rfl

theorem rtapiTaskNew_eraseDestroyed {taskcode arg : Nat} {prio owner : Int} {stacksize : UInt64}
    {usesFp cpuId : Int} {stack : Option Nat} :
    (rtapiTaskNew os s.eraseDestroyed taskcode arg prio owner stacksize usesFp cpuId
      stack).eraseDestroyed =
      (rtapiTaskNew os s taskcode arg prio owner stacksize usesFp cpuId stack).eraseDestroyed := by
  unfold rtapiTaskNew reserve; simp only [newSlot_eraseDestroyed]
  split; · rfl
  split_ifs <;>
    simp only [Result.eraseDestroyed, Sys.eraseDestroyed_setSpawn, Sys.eraseDestroyed_setTask] <;>
    rfl

theorem withTask_eraseDestroyed {id ret : Int} {upd : TaskData → TaskData}
    (hu : ∀ t, (upd t.eraseDestroyed).eraseDestroyed = (upd t).eraseDestroyed) :
    (withTask s.eraseDestroyed id ret upd).eraseDestroyed =
      (withTask s id ret upd).eraseDestroyed := by
  unfold withTask; simp only [checkTask_eraseDestroyed]; split
  · rfl
  · simp only [Result.eraseDestroyed, Sys.eraseDestroyed_setTask, Sys.eraseDestroyed_task, hu]
    rfl

theorem rtapiTaskDelete_eraseDestroyed {id : Int} :
    (rtapiTaskDelete s.eraseDestroyed id).eraseDestroyed =
      (rtapiTaskDelete s id).eraseDestroyed := by
  unfold rtapiTaskDelete; simp only [checkTask_eraseDestroyed]; split
  · rfl
  · simp only [Sys.eraseDestroyed_task, Sys.eraseDestroyed_threads,
      TaskData.eraseDestroyed_deleted, TaskData.eraseDestroyed_thread]
    split_ifs <;>
      simp only [Result.eraseDestroyed, Sys.eraseDestroyed_withThreads, Sys.eraseDestroyed_setTask,
        Sys.eraseDestroyed_idem] <;> rfl

theorem rtapiTaskStop_eraseDestroyed {id : Int} :
    (rtapiTaskStop s.eraseDestroyed id).eraseDestroyed = (rtapiTaskStop s id).eraseDestroyed :=
  withTask_eraseDestroyed fun _ => rfl

theorem rtapiTaskPause_eraseDestroyed {id : Int} :
    (rtapiTaskPause s.eraseDestroyed id).eraseDestroyed = (rtapiTaskPause s id).eraseDestroyed :=
  withTask_eraseDestroyed fun _ => rfl

theorem rtapiTaskResume_eraseDestroyed {id : Int} :
    (rtapiTaskResume s.eraseDestroyed id).eraseDestroyed = (rtapiTaskResume s id).eraseDestroyed :=
  withTask_eraseDestroyed fun _ => rfl

theorem rtapiTaskSetPeriod_eraseDestroyed {id : Int} {periodNsec : UInt64} :
    (rtapiTaskSetPeriod s.eraseDestroyed id periodNsec).eraseDestroyed =
      (rtapiTaskSetPeriod s id periodNsec).eraseDestroyed :=
  withTask_eraseDestroyed fun _ => rfl

theorem initTask_eraseDestroyed {period : Int} {t : TaskData} {e : StartEnv} :
    initTask period t.eraseDestroyed e = (initTask period t e).eraseDestroyed := by
  simp only [initTask, rtapiResetPagefaultCount_eq]; rfl

theorem realtimeThreadInit_eraseDestroyed {period : Int} {i : Nat} {t : TaskData} {e : StartEnv} :
    realtimeThreadInit period i t.eraseDestroyed e =
      (realtimeThreadInit period i t e).map fun r => (r.1.eraseDestroyed, r.2) := by
  simp only [realtimeThreadInit, initTask_eraseDestroyed, TaskData.eraseDestroyed_cpu,
    realtimeSetPriority_eq, setFifo]
  split_ifs <;> rfl

theorem startTask_eraseDestroyed {i : Nat} {periodNsec : UInt64} :
    startTask s.eraseDestroyed i periodNsec = (startTask s i periodNsec).eraseDestroyed := by
  simp only [startTask, TaskData.eraseDestroyed, Sys.eraseDestroyed_task,
    Sys.eraseDestroyed_period]

theorem startTask_thread_eraseDestroyed {i tid : Nat} {periodNsec : UInt64} :
    { startTask s.eraseDestroyed i periodNsec with thread := tid } =
      TaskData.eraseDestroyed { startTask s i periodNsec with thread := tid } := by
  simp only [startTask, TaskData.eraseDestroyed, Sys.eraseDestroyed_task,
    Sys.eraseDestroyed_period]

theorem rtapiTaskStart_eraseDestroyed {id : Int} {periodNsec : UInt64} {e : StartEnv} :
    (rtapiTaskStart s.eraseDestroyed id periodNsec e).map Result.eraseDestroyed =
      (rtapiTaskStart s id periodNsec e).map Result.eraseDestroyed := by
  unfold rtapiTaskStart; simp only [checkTask_eraseDestroyed, Sys.eraseDestroyed_period]
  split; · rfl
  split_ifs; · rfl
  split
  · simp only [Option.map_some', Result.eraseDestroyed, Sys.eraseDestroyed_setSpawn,
      Sys.eraseDestroyed_setTask, Sys.eraseDestroyed_idem, startTask_eraseDestroyed,
      TaskData.eraseDestroyed_idem, Sys.eraseDestroyed_spawn]
  · rename_i i _ _ _ tid _
    rw [startTask_thread_eraseDestroyed, realtimeThreadInit_eraseDestroyed]
    cases realtimeThreadInit s.period i { startTask s i periodNsec with thread := tid } e with
    | none => rfl
    | some r =>
      simp only [Option.map_some', Result.eraseDestroyed, Sys.eraseDestroyed_withThreads,
        Sys.eraseDestroyed_setSpawn, Sys.eraseDestroyed_setTask, Sys.eraseDestroyed_idem]; rfl

theorem realtimeThreadBegin_eraseDestroyed {th : Thread} {now : Timespec} :
    (realtimeThreadBegin s.eraseDestroyed th now).eraseDestroyed =
      (realtimeThreadBegin s th now).eraseDestroyed := by
  simp only [realtimeThreadBegin, Sys.eraseDestroyed_setPc, Sys.eraseDestroyed_setTask,
    Sys.eraseDestroyed_idem]; rfl

theorem realtimeThreadEnd_eraseDestroyed {th : Thread} :
    (realtimeThreadEnd s.eraseDestroyed th).eraseDestroyed =
      (realtimeThreadEnd s th).eraseDestroyed := by
  simp only [realtimeThreadEnd, Result.eraseDestroyed, Sys.eraseDestroyed_setPc,
    Sys.eraseDestroyed_setTask, Sys.eraseDestroyed_idem]; rfl

theorem rtapiWait_eraseDestroyed {th : Thread} {e : WaitEnv} :
    (rtapiWait s.eraseDestroyed th e).eraseDestroyed = (rtapiWait s th e).eraseDestroyed := by
  unfold rtapiWait
  simp only [Sys.eraseDestroyed_task, TaskData.eraseDestroyed_deleted,
    TaskData.eraseDestroyed_nextTime, TaskData.eraseDestroyed_period,
    TaskData.eraseDestroyed_failures]
  split_ifs <;>
    simp only [Result.eraseDestroyed, Sys.eraseDestroyed_setPc, Sys.eraseDestroyed_setTask,
      Sys.eraseDestroyed_idem] <;> rfl

end Calls

/-! ## Every operation and every run -/

section Runs

variable {os : Os} {s t : Sys}

theorem Op.allowed_eraseDestroyed (o : Op) : o.allowed s.eraseDestroyed = o.allowed s := by
  cases o <;> rfl

/-- **Every operation ignores `destroyed`**: from a state and from its erasure it returns the same
value, does the same things and leaves states that agree once `destroyed` is erased. -/
theorem Op.run_eraseDestroyed (o : Op) :
    (o.run os s.eraseDestroyed).map Result.eraseDestroyed =
      (o.run os s).map Result.eraseDestroyed := by
  cases o with
  | init => exact congrArg some rtapiInit_eraseDestroyed
  | exit id => exact congrArg some rtapiExit_eraseDestroyed
  | clockSetPeriod nsecs => exact congrArg some rtapiClockSetPeriod_eraseDestroyed
  | taskNew => exact congrArg some rtapiTaskNew_eraseDestroyed
  | taskDelete id => exact congrArg some rtapiTaskDelete_eraseDestroyed
  | taskStart id periodNsec e => exact rtapiTaskStart_eraseDestroyed
  | taskStop id => exact congrArg some rtapiTaskStop_eraseDestroyed
  | taskPause id => exact congrArg some rtapiTaskPause_eraseDestroyed
  | taskResume id => exact congrArg some rtapiTaskResume_eraseDestroyed
  | taskSetPeriod id periodNsec => exact congrArg some rtapiTaskSetPeriod_eraseDestroyed
  | begin tid now =>
    simp only [Op.run, threadAt_eraseDestroyed, Option.map_map]
    exact Option.map_congr fun th _ =>
      congrArg (fun x => (⟨0, x, []⟩ : Result)) realtimeThreadBegin_eraseDestroyed
  | finish tid =>
    simp only [Op.run, threadAt_eraseDestroyed, Option.map_map]
    exact Option.map_congr fun th _ => realtimeThreadEnd_eraseDestroyed
  | wait tid e =>
    simp only [Op.run, threadAt_eraseDestroyed, Option.map_map]
    exact Option.map_congr fun th _ => rtapiWait_eraseDestroyed

/-- Two states that agree once `destroyed` is erased: an operation is allowed in both or in
neither, and does the same in both. -/
theorem Op.run_congr_eraseDestroyed (os : Os) (h : s.eraseDestroyed = t.eraseDestroyed) (o : Op) :
    o.allowed s = o.allowed t ∧
      (o.run os s).map Result.eraseDestroyed = (o.run os t).map Result.eraseDestroyed := by
  refine ⟨?_, ?_⟩
  · rw [← o.allowed_eraseDestroyed, h, o.allowed_eraseDestroyed]
  · rw [← o.run_eraseDestroyed, h, o.run_eraseDestroyed]

theorem Op.ret_congr_eraseDestroyed (h : s.eraseDestroyed = t.eraseDestroyed) (o : Op) :
    (o.run os s).map Result.ret = (o.run os t).map Result.ret := by
  have := congrArg (Option.map Result.ret) (Op.run_congr_eraseDestroyed os h o).2
  rwa [Option.map_map, Option.map_map] at this

/-- **Runs cannot tell `destroyed` apart.** The same operations from two states that agree once
`destroyed` is erased run in both or in neither, with the same events, to states that agree
again. -/
theorem runOps_congr_eraseDestroyed (os : Os) (h : s.eraseDestroyed = t.eraseDestroyed)
    (ops : List Op) :
    (runOps os s ops).map (fun p => (p.1, p.2.eraseDestroyed)) =
      (runOps os t ops).map (fun p => (p.1, p.2.eraseDestroyed)) := by
  induction ops generalizing s t with
  | nil => simp only [runOps, Option.map_some', h]
  | cons o ops ih =>
    obtain ⟨ha, hr⟩ := Op.run_congr_eraseDestroyed os h o
    simp only [runOps, ha]
    split
    · cases hs : o.run os s with
      | none =>
        rw [hs, Option.map_none', eq_comm, Option.map_eq_none'] at hr
        rw [hr]
      | some r =>
        rw [hs, Option.map_some', eq_comm, Option.map_eq_some'] at hr
        obtain ⟨r', ht, he⟩ := hr
        have hev := congrArg Result.events he.symm
        change r.events = r'.events at hev
        have hc : ∀ ev : List Event,
            ((fun p : List Event × Sys => (p.1, p.2.eraseDestroyed)) ∘ fun p => (ev ++ p.1, p.2)) =
              (fun p : List Event × Sys => (ev ++ p.1, p.2)) ∘
                fun p : List Event × Sys => (p.1, p.2.eraseDestroyed) := fun _ => rfl
        rw [ht, Option.some_bind, Option.some_bind, Option.map_map, Option.map_map, hc, hc,
          ← Option.map_map, ← Option.map_map, ih (congrArg Result.sys he).symm, hev]
    · rfl

end Runs

/-! ## A stop -/

/-- `rtapi_task_stop` writes nothing but `destroyed`. -/
theorem rtapiTaskStop_sys_eraseDestroyed (s : Sys) (id : Int) :
    (rtapiTaskStop s id).sys.eraseDestroyed = s.eraseDestroyed := by
  unfold rtapiTaskStop; rw [withTask_sys]; split
  · rfl
  · rw [Sys.eraseDestroyed_setTask]; exact Sys.setTask_task_eq_self

/-- **`rtapi_task_stop` is unobservable.** Whatever operations follow a stop, with whatever answers
of the environment, they run exactly when they would have run without it, with the same events,
to a state that differs from the one they would have reached only in `destroyed`; and any call
made then returns what it would have returned. -/
theorem rtapiTaskStop_unobservable (os : Os) (s : Sys) (id : Int) (ops : List Op) (o : Op) :
    (runOps os (rtapiTaskStop s id).sys ops).map (fun p => (p.1, p.2.eraseDestroyed)) =
      (runOps os s ops).map (fun p => (p.1, p.2.eraseDestroyed)) ∧
    ((runOps os (rtapiTaskStop s id).sys ops).bind fun p => (o.run os p.2).map Result.ret) =
      (runOps os s ops).bind fun p => (o.run os p.2).map Result.ret := by
  have hrun := runOps_congr_eraseDestroyed os (rtapiTaskStop_sys_eraseDestroyed s id) ops
  refine ⟨hrun, ?_⟩
  cases hs : runOps os s ops with
  | none => rw [hs, Option.map_none', Option.map_eq_none'] at hrun; rw [hrun]
  | some p =>
    rw [hs, Option.map_some', Option.map_eq_some'] at hrun
    obtain ⟨q, hq, he⟩ := hrun
    rw [hq, Option.some_bind, Option.some_bind]
    exact o.ret_congr_eraseDestroyed (congrArg Prod.snd he)

end Rtapi.Linux
