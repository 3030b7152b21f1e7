import Rtapi.Preempt.Task

/-!
# `_rtapi_task_stop_hook` changes nothing a run can observe in `rt-preempt.c`

As in `linux_rtapi.c` (`Rtapi.Linux.Stop`), `_rtapi_task_stop_hook` sets `destroyed` in
`extra_task_data` and `_rtapi_task_new_hook` clears it, but nothing reads it:
`_rtapi_wait_hook` ends a worker on `deleted` alone. Every operation, with the same answers of
the environment, is allowed or not, returns, does and writes the same from a state as from the
state with every `destroyed` cleared (`Op.run_eraseDestroyed`); by induction the same holds of
every sequence of operations from two states that differ only in `destroyed`
(`runOps_congr_eraseDestroyed`). A stop is therefore invisible to whatever runs after it
(`rtapiTaskStopHook_unobservable`).
-/

namespace Rtapi.Preempt

/-- The entry of `extra_task_data` with `destroyed` cleared. -/
def ExtraTaskData.eraseDestroyed (x : ExtraTaskData) : ExtraTaskData := { x with destroyed := 0 }

/-- The state with every `destroyed` of `extra_task_data` cleared. -/
def Sys.eraseDestroyed (s : Sys) : Sys :=
  { s with extra := fun i => (s.extra i).eraseDestroyed }

/-- A call's outcome with the `destroyed` flags of its state cleared. -/
def Result.eraseDestroyed (r : Result) : Result := { r with sys := r.sys.eraseDestroyed }

/-! ## The erasure and the state writers -/

namespace ExtraTaskData

variable {x : ExtraTaskData}

@[simp] theorem eraseDestroyed_deleted : x.eraseDestroyed.deleted = x.deleted := rfl
@[simp] theorem eraseDestroyed_thread : x.eraseDestroyed.thread = x.thread := rfl
@[simp] theorem eraseDestroyed_nextTime : x.eraseDestroyed.nextTime = x.nextTime := rfl
@[simp] theorem eraseDestroyed_stackaddr : x.eraseDestroyed.stackaddr = x.stackaddr := rfl
@[simp] theorem eraseDestroyed_destroyed : x.eraseDestroyed.destroyed = 0 := rfl

end ExtraTaskData

theorem ExtraTaskData.eraseDestroyed_of_destroyed {x : ExtraTaskData} (h : x.destroyed = 0) :
    x.eraseDestroyed = x := by
  cases x; cases h; rfl

namespace Sys

variable {s : Sys} {i : Nat} {t : TaskData} {x : ExtraTaskData}

@[simp] theorem eraseDestroyed_extra : s.eraseDestroyed.extra i = (s.extra i).eraseDestroyed :=
  rfl
@[simp] theorem eraseDestroyed_task : s.eraseDestroyed.task = s.task := rfl
@[simp] theorem eraseDestroyed_period : s.eraseDestroyed.period = s.period := rfl
@[simp] theorem eraseDestroyed_status : s.eraseDestroyed.status = s.status := rfl
@[simp] theorem eraseDestroyed_threads : s.eraseDestroyed.threads = s.threads := rfl
@[simp] theorem eraseDestroyed_spawn : s.eraseDestroyed.spawn = s.spawn := rfl
@[simp] theorem eraseDestroyed_idem : s.eraseDestroyed.eraseDestroyed = s.eraseDestroyed := rfl

@[simp] theorem eraseDestroyed_setTask :
    (s.setTask i t).eraseDestroyed = s.eraseDestroyed.setTask i t := rfl
@[simp] theorem eraseDestroyed_setStatus {y : ThreadStatus} :
    (s.setStatus i y).eraseDestroyed = s.eraseDestroyed.setStatus i y := rfl
@[simp] theorem eraseDestroyed_setSpawn {g : Spawn} :
    (s.setSpawn i g).eraseDestroyed = s.eraseDestroyed.setSpawn i g := rfl
@[simp] theorem eraseDestroyed_setPc {tid : Nat} {pc : Pc} :
    (s.setPc tid pc).eraseDestroyed = s.eraseDestroyed.setPc tid pc := rfl
@[simp] theorem eraseDestroyed_withThreads {l : List Thread} :
    { s with threads := l }.eraseDestroyed = { s.eraseDestroyed with threads := l } := rfl

@[simp] theorem eraseDestroyed_setExtra :
    (s.setExtra i x).eraseDestroyed = s.eraseDestroyed.setExtra i x.eraseDestroyed := by
  simp only [eraseDestroyed, setExtra]
  congr 1; funext j
  by_cases h : j = i
  · subst h; simp
  · simp [Function.update_noteq h]

/-- Writing an entry whose `destroyed` is clear into the erased state. -/
theorem setExtra_eraseDestroyed (h : x.destroyed = 0) :
    s.eraseDestroyed.setExtra i x = (s.setExtra i x).eraseDestroyed := by
  rw [eraseDestroyed_setExtra, ExtraTaskData.eraseDestroyed_of_destroyed h]

end Sys

/-! ## What the calls read -/

section Reads

variable {c : Config} {s : Sys}

@[simp] theorem checkTask_eraseDestroyed {id : Int} :
    checkTask c s.eraseDestroyed id = checkTask c s id := rfl
@[simp] theorem newSlot_eraseDestroyed : newSlot c s.eraseDestroyed = newSlot c s := rfl
@[simp] theorem rtapiTaskSelfHook_eraseDestroyed {self : Nat} :
    rtapiTaskSelfHook c s.eraseDestroyed self = rtapiTaskSelfHook c s self := rfl
@[simp] theorem threadAt_eraseDestroyed {tid : Nat} {pc : Pc} :
    s.eraseDestroyed.threadAt tid pc = s.threadAt tid pc := rfl

end Reads

/-! ## Every call -/

section Calls

variable {c : Config} {s : Sys}

theorem rtapiClockSetPeriod_eraseDestroyed {nsecs : UInt64} :
    (rtapiClockSetPeriod c s.eraseDestroyed nsecs).eraseDestroyed =
      (rtapiClockSetPeriod c s nsecs).eraseDestroyed := by
  unfold rtapiClockSetPeriod; simp only [Sys.eraseDestroyed_period]; split_ifs <;> rfl

theorem rtapiTaskNew_eraseDestroyed {prio cpu : Int} {stacksize : UInt64} {stack : Option Nat} :
    (rtapiTaskNew c s.eraseDestroyed prio cpu stacksize stack).eraseDestroyed =
      (rtapiTaskNew c s prio cpu stacksize stack).eraseDestroyed := by
  cases stack <;>
    simp only [rtapiTaskNew, rtapiTaskNewHook, newSlot_eraseDestroyed, Sys.eraseDestroyed_task] <;>
    split_ifs <;>
    simp only [Result.eraseDestroyed, Sys.eraseDestroyed_setTask, Sys.eraseDestroyed_setExtra,
      Sys.eraseDestroyed_setSpawn, Sys.eraseDestroyed_idem] <;> rfl

theorem rtapiTaskDelete_eraseDestroyed {id : Int} :
    (rtapiTaskDelete c s.eraseDestroyed id).eraseDestroyed =
      (rtapiTaskDelete c s id).eraseDestroyed := by
  unfold rtapiTaskDelete rtapiTaskDeleteHook; simp only [checkTask_eraseDestroyed]; split
  · rfl
  · simp only [Sys.eraseDestroyed_extra, Sys.eraseDestroyed_threads, Sys.eraseDestroyed_task,
      ExtraTaskData.eraseDestroyed_deleted, ExtraTaskData.eraseDestroyed_thread,
      ExtraTaskData.eraseDestroyed_stackaddr]
    split_ifs <;>
      simp only [Result.eraseDestroyed, Sys.eraseDestroyed_withThreads, Sys.eraseDestroyed_setTask,
        Sys.eraseDestroyed_setExtra, Sys.eraseDestroyed_idem] <;> rfl

theorem rtapiTaskStop_eraseDestroyed {id : Int} :
    (rtapiTaskStop c s.eraseDestroyed id).eraseDestroyed =
      (rtapiTaskStop c s id).eraseDestroyed := by
  unfold rtapiTaskStop rtapiTaskStopHook; simp only [checkTask_eraseDestroyed]; split
  · rfl
  · simp only [Result.eraseDestroyed, Sys.eraseDestroyed_setExtra, Sys.eraseDestroyed_idem]; rfl

theorem realtimeThreadInit_eraseDestroyed {i : Nat} {e : StartEnv} :
    realtimeThreadInit c s.eraseDestroyed i e =
      (realtimeThreadInit c s i e).map fun r => (r.1.eraseDestroyed, r.2) := by
  unfold realtimeThreadInit
  simp only [Sys.eraseDestroyed_period, Sys.eraseDestroyed_task, Sys.eraseDestroyed_extra,
    ExtraTaskData.eraseDestroyed_deleted]
  split_ifs <;>
    simp only [Option.map_none', Option.map_some', Sys.eraseDestroyed_setExtra,
      Sys.eraseDestroyed_setTask, Sys.eraseDestroyed_idem] <;> rfl

theorem rtapiTaskStartHook_eraseDestroyed {i : Nat} {e : StartEnv} :
    (rtapiTaskStartHook c s.eraseDestroyed i e).map Result.eraseDestroyed =
      (rtapiTaskStartHook c s i e).map Result.eraseDestroyed := by
  unfold rtapiTaskStartHook; split
  · simp only [Option.map_some', Result.eraseDestroyed, Sys.eraseDestroyed_setSpawn,
      Sys.eraseDestroyed_setExtra, Sys.eraseDestroyed_idem, Sys.eraseDestroyed_spawn]; rfl
  · rename_i tid _
    have hx : s.eraseDestroyed.setExtra i
        { s.eraseDestroyed.extra i with deleted := 0, thread := tid } =
        (s.setExtra i { s.extra i with deleted := 0, thread := tid }).eraseDestroyed := by
      rw [Sys.eraseDestroyed_setExtra]; rfl
    rw [hx, realtimeThreadInit_eraseDestroyed]
    cases realtimeThreadInit c (s.setExtra i { s.extra i with deleted := 0, thread := tid }) i e
      with
    | none => rfl
    | some r =>
      simp only [Option.map_some', Result.eraseDestroyed, Sys.eraseDestroyed_withThreads,
        Sys.eraseDestroyed_setSpawn, Sys.eraseDestroyed_idem, Sys.eraseDestroyed_spawn,
        Sys.eraseDestroyed_threads, Sys.eraseDestroyed_extra,
        ExtraTaskData.eraseDestroyed_deleted]

theorem rtapiTaskStart_eraseDestroyed {id : Int} {periodNsec : UInt64} {e : StartEnv} :
    (rtapiTaskStart c s.eraseDestroyed id periodNsec e).map Result.eraseDestroyed =
      (rtapiTaskStart c s id periodNsec e).map Result.eraseDestroyed := by
  unfold rtapiTaskStart; simp only [checkTask_eraseDestroyed, Sys.eraseDestroyed_period]
  split; · rfl
  simp only [Sys.eraseDestroyed_task, ← Sys.eraseDestroyed_setTask]
  exact rtapiTaskStartHook_eraseDestroyed

/-- The statistics hook writes only `thread_status`, so it commutes with the erasure. -/
theorem rtapiTaskUpdateStatsHook_eraseDestroyed {self : Nat} {rusage : Option Int} :
    rtapiTaskUpdateStatsHook c s.eraseDestroyed self rusage =
      (rtapiTaskUpdateStatsHook c s self rusage).eraseDestroyed := by
  unfold rtapiTaskUpdateStatsHook
  simp only [rtapiTaskSelfHook_eraseDestroyed, Sys.eraseDestroyed_status]
  split_ifs <;> [rfl; cases rusage <;> rfl]

/-- The statistics hook on two states that agree once `destroyed` is erased. -/
theorem rtapiTaskUpdateStatsHook_congr {t : Sys} (h : s.eraseDestroyed = t.eraseDestroyed)
    {self : Nat} {rusage : Option Int} :
    (rtapiTaskUpdateStatsHook c s self rusage).eraseDestroyed =
      (rtapiTaskUpdateStatsHook c t self rusage).eraseDestroyed := by
  rw [← rtapiTaskUpdateStatsHook_eraseDestroyed, h, rtapiTaskUpdateStatsHook_eraseDestroyed]

/-- Events printed after two outcomes that agree once `destroyed` is erased. -/
theorem Result.eraseDestroyed_append {r r' : Result} (h : r.eraseDestroyed = r'.eraseDestroyed)
    (l : List Event) :
    ({ r with events := r.events ++ l } : Result).eraseDestroyed =
      ({ r' with events := r'.events ++ l } : Result).eraseDestroyed := by
  obtain ⟨a, x, ev⟩ := r
  obtain ⟨a', x', ev'⟩ := r'
  simp only [Result.eraseDestroyed, Result.mk.injEq] at h ⊢
  exact ⟨h.1, h.2.1, by rw [h.2.2]⟩

theorem realtimeThreadBegin_eraseDestroyed {th : Thread} {now : Timespec}
    {rusage startup : Option Int} :
    (realtimeThreadBegin c s.eraseDestroyed th now rusage startup).eraseDestroyed =
      (realtimeThreadBegin c s th now rusage startup).eraseDestroyed := by
  unfold realtimeThreadBegin
  refine Result.eraseDestroyed_append (rtapiTaskUpdateStatsHook_congr ?_) _
  simp only [Sys.eraseDestroyed_setPc, Sys.eraseDestroyed_setExtra, Sys.eraseDestroyed_idem,
    Sys.eraseDestroyed_task]; rfl

theorem realtimeThreadEnd_eraseDestroyed {th : Thread} :
    (realtimeThreadEnd s.eraseDestroyed th).eraseDestroyed =
      (realtimeThreadEnd s th).eraseDestroyed := by
  simp only [realtimeThreadEnd, Result.eraseDestroyed, Sys.eraseDestroyed_setPc,
    Sys.eraseDestroyed_setExtra, Sys.eraseDestroyed_idem]; rfl

/-- A wait error counted on top of two outcomes of the statistics hook that agree once
`destroyed` is erased. -/
theorem waitErrors_congr {r r' : Result} (h : r.eraseDestroyed = r'.eraseDestroyed) (i : Nat)
    (ev : Event) (l : List Event) :
    Result.eraseDestroyed ⟨0, r.sys.setStatus i
        { r.sys.status i with waitErrors := (r.sys.status i).waitErrors + 1 },
        ev :: r.events ++ l⟩ =
      Result.eraseDestroyed ⟨0, r'.sys.setStatus i
        { r'.sys.status i with waitErrors := (r'.sys.status i).waitErrors + 1 },
        ev :: r'.events ++ l⟩ := by
  have hsys : r.sys.eraseDestroyed = r'.sys.eraseDestroyed := (congrArg Result.sys h :)
  have hev : r.events = r'.events := (congrArg Result.events h :)
  have hst : r.sys.status = r'.sys.status := (congrArg Sys.status hsys :)
  simp only [Result.eraseDestroyed, Sys.eraseDestroyed_setStatus, hsys, hst, hev]

theorem rtapiWaitHook_eraseDestroyed {th : Thread} {now : Timespec} {rusage : Option Int} :
    (rtapiWaitHook c s.eraseDestroyed th now rusage).eraseDestroyed =
      (rtapiWaitHook c s th now rusage).eraseDestroyed := by
  unfold rtapiWaitHook
  simp only [Sys.eraseDestroyed_extra, Sys.eraseDestroyed_task,
    ExtraTaskData.eraseDestroyed_deleted, ExtraTaskData.eraseDestroyed_nextTime]
  -- the statistics hook sees the same state once `destroyed` is erased
  have hx : ∀ x x' : ExtraTaskData, x.eraseDestroyed = x'.eraseDestroyed →
      (s.eraseDestroyed.setExtra th.slot x).eraseDestroyed =
        (s.setExtra th.slot x').eraseDestroyed := fun x x' h => by
    simp only [Sys.eraseDestroyed_setExtra, Sys.eraseDestroyed_idem, h]
  split_ifs
  · rfl
  · exact waitErrors_congr (rtapiTaskUpdateStatsHook_congr (hx _ _ (by rfl))) _ _ _
  · exact waitErrors_congr (rtapiTaskUpdateStatsHook_congr (hx _ _ (by rfl))) _ _ _
  · simp only [Result.eraseDestroyed, Sys.eraseDestroyed_setExtra, Sys.eraseDestroyed_idem]; rfl

end Calls

/-! ## Every operation and every run -/

section Runs

variable {c : Config} {s t : Sys}

theorem Op.allowed_eraseDestroyed (o : Op) : o.allowed c s.eraseDestroyed = o.allowed c s := by
  cases o <;> rfl

/-- **Every operation ignores `destroyed`**: from a state and from its erasure it returns the same
value, does the same things and leaves states that agree once `destroyed` is erased. -/
theorem Op.run_eraseDestroyed (o : Op) :
    (o.run c s.eraseDestroyed).map Result.eraseDestroyed =
      (o.run c s).map Result.eraseDestroyed := by
  cases o with
  | clockSetPeriod nsecs => exact congrArg some rtapiClockSetPeriod_eraseDestroyed
  | taskNew => exact congrArg some rtapiTaskNew_eraseDestroyed
  | taskDelete id => exact congrArg some rtapiTaskDelete_eraseDestroyed
  | taskStart id periodNsec e => exact rtapiTaskStart_eraseDestroyed
  | taskStop id => exact congrArg some rtapiTaskStop_eraseDestroyed
  | begin tid now rusage startup =>
    simp only [Op.run, threadAt_eraseDestroyed, Option.map_map]
    exact Option.map_congr fun th _ => realtimeThreadBegin_eraseDestroyed
  | finish tid =>
    simp only [Op.run, threadAt_eraseDestroyed, Option.map_map]
    exact Option.map_congr fun th _ => realtimeThreadEnd_eraseDestroyed
  | wait tid now rusage =>
    simp only [Op.run, threadAt_eraseDestroyed, Option.map_map]
    exact Option.map_congr fun th _ => rtapiWaitHook_eraseDestroyed

/-- Two states that agree once `destroyed` is erased: an operation is allowed in both or in
neither, and does the same in both. -/
theorem Op.run_congr_eraseDestroyed (h : s.eraseDestroyed = t.eraseDestroyed) (o : Op) :
    o.allowed c s = o.allowed c t ∧
      (o.run c s).map Result.eraseDestroyed = (o.run c t).map Result.eraseDestroyed := by
  refine ⟨?_, ?_⟩
  · rw [← o.allowed_eraseDestroyed, h, o.allowed_eraseDestroyed]
  · rw [← o.run_eraseDestroyed, h, o.run_eraseDestroyed]

theorem Op.ret_congr_eraseDestroyed (h : s.eraseDestroyed = t.eraseDestroyed) (o : Op) :
    (o.run c s).map Result.ret = (o.run c t).map Result.ret := by
  have := congrArg (Option.map Result.ret) (o.run_congr_eraseDestroyed (c := c) h).2
  rwa [Option.map_map, Option.map_map] at this

/-- **Runs cannot tell `destroyed` apart.** The same operations from two states that agree once
`destroyed` is erased run in both or in neither, with the same events, to states that agree
again. -/
theorem runOps_congr_eraseDestroyed (h : s.eraseDestroyed = t.eraseDestroyed) (ops : List Op) :
    (runOps c s ops).map (fun p => (p.1, p.2.eraseDestroyed)) =
      (runOps c t ops).map (fun p => (p.1, p.2.eraseDestroyed)) := by
  induction ops generalizing s t with
  | nil => simp only [runOps, Option.map_some', h]
  | cons o ops ih =>
    obtain ⟨ha, hr⟩ := o.run_congr_eraseDestroyed (c := c) h
    simp only [runOps, ha]
    split
    · cases hs : o.run c s with
      | none =>
        rw [hs, Option.map_none', eq_comm, Option.map_eq_none'] at hr
        rw [hr]
      | some r =>
        rw [hs, Option.map_some', eq_comm, Option.map_eq_some'] at hr
        obtain ⟨r', ht, he⟩ := hr
        have hev : r.events = r'.events := (congrArg Result.events he.symm :)
        have hc : ∀ ev : List Event,
            ((fun p : List Event × Sys => (p.1, p.2.eraseDestroyed)) ∘ fun p => (ev ++ p.1, p.2)) =
              (fun p : List Event × Sys => (ev ++ p.1, p.2)) ∘
                fun p : List Event × Sys => (p.1, p.2.eraseDestroyed) := fun _ => rfl
        rw [ht, Option.some_bind, Option.some_bind, Option.map_map, Option.map_map, hc, hc,
          ← Option.map_map, ← Option.map_map, ih (congrArg Result.sys he).symm, hev]
    · rfl

end Runs

/-! ## A stop -/

/-- `rtapi_task_stop` with `_rtapi_task_stop_hook` writes nothing but `destroyed`. -/
theorem rtapiTaskStop_sys_eraseDestroyed (c : Config) (s : Sys) (id : Int) :
    (rtapiTaskStop c s id).sys.eraseDestroyed = s.eraseDestroyed := by
  unfold rtapiTaskStop rtapiTaskStopHook; split
  · rfl
  · rw [Sys.eraseDestroyed_setExtra]; exact Sys.setExtra_extra_eq_self

/-- **`_rtapi_task_stop_hook` is unobservable.** Whatever operations follow a stop, with whatever
answers of the environment, they run exactly when they would have run without it, with the same
events, to a state that differs from the one they would have reached only in `destroyed`; and any
call made then returns what it would have returned. -/
theorem rtapiTaskStopHook_unobservable (c : Config) (s : Sys) (id : Int) (ops : List Op)
    (o : Op) :
    (runOps c (rtapiTaskStop c s id).sys ops).map (fun p => (p.1, p.2.eraseDestroyed)) =
      (runOps c s ops).map (fun p => (p.1, p.2.eraseDestroyed)) ∧
    ((runOps c (rtapiTaskStop c s id).sys ops).bind fun p => (o.run c p.2).map Result.ret) =
      (runOps c s ops).bind fun p => (o.run c p.2).map Result.ret := by
  have hrun := runOps_congr_eraseDestroyed (c := c) (rtapiTaskStop_sys_eraseDestroyed c s id) ops
  refine ⟨hrun, ?_⟩
  cases hs : runOps c s ops with
  | none => rw [hs, Option.map_none', Option.map_eq_none'] at hrun; rw [hrun]
  | some p =>
    rw [hs, Option.map_some', Option.map_eq_some'] at hrun
    obtain ⟨q, hq, he⟩ := hrun
    rw [hq, Option.some_bind, Option.some_bind]
    exact o.ret_congr_eraseDestroyed (congrArg Prod.snd he)

end Rtapi.Preempt
