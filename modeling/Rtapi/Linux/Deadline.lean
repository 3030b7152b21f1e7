import Rtapi.Linux.Period

/-!
# Release times and missed deadlines in `linux_rtapi.c`

Each `rtapi_wait` that returns advances the task's release time by the period
(`nextRelease_spec`), and over any number of waits the release time's value grows by exactly the
period per wait while `tv_nsec` stays between `0` and `10^9` (`waitRun_nextTime`). The carry loop
of `rtapi_advance_time` tests `ns > 10^9`, so `tv_nsec = 10^9` can be stored and passed to the
sleep (`rtapiWait_sleeps_to_full_second`).

A wait counts a miss when the clock after the sleep is past the release time advanced by one
period (`waitTask_failures`), so an overrun shorter than a period is not counted
(`rtapiWait_misses_short_overrun`). Over a whole run of waits the counter grows by exactly the
number of late wake-ups the specification counts (`missCount`, `waitRun_failures`), as long as no
release time falls on a whole second and the `int` counter does not wrap. The first miss a slot
counts is reported at `RTAPI_MSG_ERR`, the next eight at `RTAPI_MSG_WARN`
(`missLevel_eq_err_iff`, `missLevel_eq_warn_iff`); neither `rtapi_task_new` nor
`rtapi_task_start` resets the count (`failures_of_new_start`), so a task in a reused slot
continues its predecessor's (`rtapiWait_reused_slot_warns`).

`ENABLE_SCHED_DEADLINE` is `0`, so no reachable state has a slot with `deadline_scheduling` set,
and every sleep of `rtapi_wait` is `clock_nanosleep` (`rtapiWait_clock_nanosleep`).
-/

namespace Rtapi.Linux

variable {t : TaskData} {now : Timespec}

/-! ## Release times -/

/-- **A wait advances the release time by the period**: its value grows by exactly the period,
and `tv_nsec` stays between `0` and `10^9`. -/
theorem nextRelease_spec (h₀ : 0 ≤ t.nextTime.nsec) (h₁ : t.nextTime.nsec ≤ 1000000000)
    (hp₀ : 0 ≤ t.period) (hp₁ : t.period ≤ intMax) :
    (nextRelease t).value = t.nextTime.value + t.period ∧
      0 ≤ (nextRelease t).nsec ∧ (nextRelease t).nsec ≤ 1000000000 :=
  rtapiAdvanceTime_period h₀ h₁ hp₀ hp₁

/-- The slot after waits of its worker that all return, `nows` the clock readings after the
sleeps. -/
def waitRun (t : TaskData) : List Timespec → TaskData
  | [] => t
  | now :: nows => waitRun (waitTask t now) nows

@[simp] theorem waitRun_nil : waitRun t [] = t := rfl
@[simp] theorem waitRun_cons {nows : List Timespec} :
    waitRun t (now :: nows) = waitRun (waitTask t now) nows := rfl

/-- **Waits keep advancing the release time by the period.** After any number of waits the value
of the release time has grown by the period once per wait, and `tv_nsec` lies between `0` and
`10^9`. -/
theorem waitRun_nextTime (nows : List Timespec) (h₀ : 0 ≤ t.nextTime.nsec)
    (h₁ : t.nextTime.nsec ≤ 1000000000) (hp₀ : 0 ≤ t.period) (hp₁ : t.period ≤ intMax) :
    (waitRun t nows).nextTime.value = t.nextTime.value + nows.length * t.period ∧
      0 ≤ (waitRun t nows).nextTime.nsec ∧ (waitRun t nows).nextTime.nsec ≤ 1000000000 := by
  induction nows generalizing t with
  | nil => simp [h₀, h₁]
  | cons now nows ih =>
    obtain ⟨hv, hn₀, hn₁⟩ := nextRelease_spec h₀ h₁ hp₀ hp₁
    obtain ⟨ih₁, ih₂⟩ := ih (t := waitTask t now) hn₀ hn₁ hp₀ hp₁
    refine ⟨?_, ih₂⟩
    rw [waitRun_cons, ih₁, waitTask_nextTime, hv, waitTask_period, List.length_cons]
    push_cast; ring

theorem waitRun_nextTime_ms :
    (waitRun { TaskData.zero with period := 1000000 } [⟨0, 0⟩, ⟨5, 0⟩]).nextTime.value =
        2000000 ∧
      0 ≤ (waitRun { TaskData.zero with period := 1000000 } [⟨0, 0⟩, ⟨5, 0⟩]).nextTime.nsec ∧
      (waitRun { TaskData.zero with period := 1000000 } [⟨0, 0⟩, ⟨5, 0⟩]).nextTime.nsec ≤
        1000000000 :=
  waitRun_nextTime _ (by decide) (by decide) (by decide) (by decide)

/-- A task with a one-second period seeded at a whole second: the worker stores
`next_time = {0, 10^9}`, the first wait sleeps to it, and the next release time is `{1, 10^9}`. -/
theorem rtapiWait_sleeps_to_full_second :
    (runOps linuxOs Sys.init [.clockSetPeriod 1000000, .taskNew 0 0 50 0 0 0 (-1) (some 4096),
      .taskStart 0 1000000000 (.ok 1), .begin 1 ⟨0, 0⟩, .wait 1 ⟨⟨0, 0⟩, 0, 0⟩]).map
      (fun p => (p.1.getLast?, (p.2.task 0).nextTime)) =
      some (some (.sleep ⟨0, 1000000000⟩ false), ⟨1, 1000000000⟩) := by
  decide

/-! ## Missed deadlines -/

/-- **What a wait counts as a miss.** With the clock reading and the advanced release time
normalised, a wait counts a miss exactly when the clock is past the old release time plus one
period. -/
theorem waitTask_failures (h₀ : 0 ≤ t.nextTime.nsec) (h₁ : t.nextTime.nsec ≤ 1000000000)
    (hp₀ : 0 ≤ t.period) (hp₁ : t.period ≤ intMax) (hnow : now.Normal)
    (hr : (nextRelease t).Normal) :
    (waitTask t now).failures =
      if t.nextTime.value + t.period < now.value then cInt (t.failures + 1) else t.failures := by
  have key : now.after (nextRelease t) = true ↔ t.nextTime.value + t.period < now.value := by
    rw [Timespec.after_iff_value_lt hnow hr, (nextRelease_spec h₀ h₁ hp₀ hp₁).1]
  unfold waitTask; dsimp only
  by_cases h : now.after (nextRelease t) = true
  · rw [if_pos h, if_pos (key.1 h)]
  · rw [if_neg h, if_neg (mt key.2 h)]

theorem waitTask_failures_overrun :
    (waitTask { TaskData.zero with period := 1000000 } ⟨0, 2500000⟩).failures =
      if TaskData.zero.nextTime.value + 1000000 < (⟨0, 2500000⟩ : Timespec).value
      then cInt (TaskData.zero.failures + 1) else TaskData.zero.failures :=
  waitTask_failures (by decide) (by decide) (by decide) (by decide) (by decide) (by decide)

/-- A running task with release time `D = {0, 10^6}` and a 1 ms period whose cycle overruns `D` by
half a period: the wait, entered and waking at `{0, 1.5·10^6}`, counts no miss. -/
theorem rtapiWait_misses_short_overrun :
    ((stateAfter linuxOs (startedOps ++ [.begin 1 ⟨0, 0⟩])).task 0).nextTime =
        ⟨0, 1000000⟩ ∧
      ((Op.wait 1 ⟨⟨0, 1500000⟩, 0, 0⟩).run linuxOs
        (stateAfter linuxOs (startedOps ++ [.begin 1 ⟨0, 0⟩]))).map
        (fun r => ((r.sys.task 0).failures, r.events)) =
        some (0, [.sleep ⟨0, 1000000⟩ false]) := by
  decide

/-! ## Misses over a run of waits -/

/-- **The miss counter counts the late wake-ups of a run.** Over any run of waits that return,
with the clock readings normalised, no release time on a whole second and no overflow of the
`int` counter, `failures` grows by exactly the number of waits whose clock reading is past the
release time one period after the one they slept to. -/
theorem waitRun_failures (nows : List Timespec) (h₀ : 0 ≤ t.nextTime.nsec)
    (h₁ : t.nextTime.nsec ≤ 1000000000) (hp₀ : 0 ≤ t.period) (hp₁ : t.period ≤ intMax)
    (hnow : ∀ now ∈ nows, now.Normal)
    (hsec : ∀ k < nows.length, (t.nextTime.value + (k + 1) * t.period) % 1000000000 ≠ 0)
    (hf₀ : 0 ≤ t.failures) (hf₁ : t.failures + nows.length ≤ intMax) :
    (waitRun t nows).failures = t.failures + missCount t.nextTime.value t.period nows := by
  induction nows generalizing t with
  | nil => simp [missCount]
  | cons now nows ih =>
    obtain ⟨hv, hn₀, hn₁⟩ := nextRelease_spec h₀ h₁ hp₀ hp₁
    have hr : (nextRelease t).Normal :=
      Timespec.normal_of_value hn₀ hn₁ (by rw [hv]; simpa using hsec 0 (by simp))
    -- one wait adds one exactly when it misses, with no wrap of the counter
    have hstep : (waitTask t now).failures =
        t.failures + if t.nextTime.value + t.period < now.value then 1 else 0 := by
      rw [waitTask_failures h₀ h₁ hp₀ hp₁ (hnow now (List.mem_cons_self _ _)) hr]
      split_ifs
      · exact cInt_of_range (by omega) (by simp only [List.length_cons] at hf₁; omega)
      · simp
    have hrun := ih (t := waitTask t now) hn₀ hn₁ hp₀ hp₁
      (fun n hn => hnow n (List.mem_cons_of_mem _ hn))
      (fun k hk => by
        rw [waitTask_nextTime, hv, waitTask_period]
        have := hsec (k + 1) (by simp only [List.length_cons]; omega)
        push_cast at this ⊢; ring_nf at this ⊢; exact this)
      (by rw [hstep]; split_ifs <;> omega)
      (by rw [hstep]; simp only [List.length_cons] at hf₁; split_ifs <;> omega)
    rw [waitRun_cons, hrun, hstep, waitTask_nextTime, hv, waitTask_period, missCount]
    split_ifs <;> push_cast <;> ring

/-- A 1 ms task seeded at `0` whose first wait wakes in time and whose second wakes at 2.5 ms. -/
theorem waitRun_failures_one_late :
    (waitRun { TaskData.zero with period := 1000000 } [⟨0, 500000⟩, ⟨0, 2500000⟩]).failures =
      TaskData.zero.failures +
        missCount TaskData.zero.nextTime.value 1000000 [⟨0, 500000⟩, ⟨0, 2500000⟩] :=
  waitRun_failures _ (by decide) (by decide) (by decide) (by decide) (by decide) (by decide)
    (by decide) (by decide)

example : missCount 0 1000000 [⟨0, 500000⟩, ⟨0, 2500000⟩] = 1 := by decide

theorem missLevel_eq_err_iff {f : Int} : missLevel f = .err ↔ f = 1 := by
  unfold missLevel; split_ifs <;> simp_all

/-- Counting from the first, the misses reported at `RTAPI_MSG_WARN` are the second to the
ninth; the level is `RTAPI_MSG_NONE` from the tenth on. -/
theorem missLevel_eq_warn_iff {f : Int} (h : 1 ≤ f) :
    missLevel f = .warn ↔ 2 ≤ f ∧ f ≤ 9 := by
  unfold missLevel; split_ifs <;> simp <;> omega

/-- Deleting a slot, creating a task in it and starting it keep its miss count. -/
theorem failures_of_new_start {s : Sys} {id : Int} {i : Nat} (hc : checkTask s id = some i)
    {os : Os} {taskcode arg : Nat} {prio owner : Int} {stacksize : UInt64} {usesFp cpuId : Int}
    {addr : Nat} {periodNsec : UInt64} {e : StartEnv} {r : Result} :
    ((rtapiTaskDelete s id).sys.task i).failures = (s.task i).failures ∧
    ((rtapiTaskNew os s taskcode arg prio owner stacksize usesFp cpuId (some addr)).sys.task
      (newSlot s)).failures = (s.task (newSlot s)).failures ∧
    (rtapiTaskStart s id periodNsec e = some r →
      (r.sys.task i).failures = (s.task i).failures) := by
  refine ⟨?_, ?_, fun hr => rtapiTaskStart_proj TaskData.failures hr (fun _ => rfl)
    (fun _ _ _ _ => by simp) i⟩
  · by_cases hd : (s.task i).deleted = 0
    · rw [rtapiTaskDelete_of_deleted_eq_zero hc hd]; dsimp only; rw [Sys.setTask_task_self]
    · rw [rtapiTaskDelete_of_deleted_ne_zero hc hd]; dsimp only; rw [Sys.setTask_task_self]
  · unfold rtapiTaskNew; split_ifs <;> simp [reserve]

/-- A task misses one deadline and is deleted; the next task gets the same slot, and its first
miss is counted as the second and reported at `RTAPI_MSG_WARN`. -/
theorem rtapiWait_reused_slot_warns :
    (runOps linuxOs Sys.init (startedOps ++ [.begin 1 ⟨0, 0⟩, .wait 1 ⟨⟨1, 0⟩, 0, 0⟩,
      .taskDelete 0, .taskNew 0 0 50 0 0 0 (-1) (some 8192), .taskStart 0 1000000 (.ok 2),
      .begin 2 ⟨5, 0⟩, .wait 2 ⟨⟨6, 0⟩, 0, 0⟩])).map
      (fun p => ((p.2.task 0).failures, p.1.getLast?)) =
      some (2, some (.msg .warn (.missedDeadline 0 2))) := by
  decide

/-! ## The sleep primitive -/

section Sleep

variable {os : Os} {s : Sys}

/-- Every slot's `deadline_scheduling` is `0`. -/
def NoDeadline (s : Sys) : Prop := ∀ j, (s.task j).deadlineScheduling = 0

theorem NoDeadline.step (h : NoDeadline s) {o : Op} {r : Result} (hr : o.run os s = some r) :
    NoDeadline r.sys := by
  intro j
  have keep : (r.sys.task j).deadlineScheduling = (s.task j).deadlineScheduling →
      (r.sys.task j).deadlineScheduling = 0 := fun he => he.trans (h j)
  cases o with
  | init => cases hr; obtain ⟨m, hm⟩ := rtapiInit_frame s; exact keep (by rw [hm])
  | exit id => cases hr; obtain ⟨m, hm⟩ := rtapiExit_frame s id; exact keep (by rw [hm])
  | clockSetPeriod n =>
    cases hr; obtain ⟨p, hp⟩ := rtapiClockSetPeriod_frame os s n; exact keep (by rw [hp])
  | taskNew =>
    cases hr
    unfold rtapiTaskNew
    split
    · exact h j
    · by_cases hj : j = newSlot s
      · subst hj; split_ifs <;> simpa using h _
      · split_ifs <;> simpa [reserve_task_ne hj, Sys.setTask_task_ne hj] using h j
  | taskDelete id =>
    cases hr
    cases hc : checkTask s id with
    | none => rw [rtapiTaskDelete_of_none hc]; exact h j
    | some i =>
      by_cases hj : j = i
      · subst hj
        by_cases hd : (s.task j).deleted = 0
        · rw [rtapiTaskDelete_of_deleted_eq_zero hc hd]; simpa using h j
        · rw [rtapiTaskDelete_of_deleted_ne_zero hc hd]; simpa using h j
      · exact keep (by rw [rtapiTaskDelete_task_ne hc hj])
  | taskStart id p e =>
    change rtapiTaskStart s id p e = some r at hr
    cases hc : checkTask s id with
    | none => rw [rtapiTaskStart_of_none hc] at hr; cases hr; exact h j
    | some i =>
      by_cases hp : cULong s.period = 0
      · rw [rtapiTaskStart_eq_none hc hp] at hr; cases hr
      cases hcr : e.created with
      | none =>
        rw [rtapiTaskStart_create_failed hc hp hcr] at hr; cases hr
        exact keep (Sys.setTask_proj TaskData.deadlineScheduling (by rfl) j)
      | some tid =>
        rw [rtapiTaskStart, hc] at hr; dsimp only at hr; rw [if_neg hp, hcr] at hr
        obtain ⟨⟨t', evs⟩, hi, rfl⟩ := Option.map_eq_some'.1 hr
        dsimp only
        rw [Sys.setSpawn_task, Sys.setTask_task_apply]
        split_ifs with hj
        · rcases realtimeThreadInit_deadlineScheduling hi with h0 | h0
          · exact h0
          · rw [h0, ← hj]; exact h j
        · exact h j
  | taskStop id | taskPause id | taskResume id | taskSetPeriod id _ =>
    cases hr
    exact keep (withTask_proj TaskData.deadlineScheduling (fun _ => by dsimp only) j)
  | begin tid _ | finish tid =>
    obtain ⟨th, -, rfl⟩ := Option.map_eq_some'.1 hr
    exact keep (Sys.setTask_proj TaskData.deadlineScheduling (by rfl) j)
  | wait tid e =>
    obtain ⟨th, -, rfl⟩ := Option.map_eq_some'.1 hr
    exact keep (rtapiWait_proj TaskData.deadlineScheduling (fun _ _ => rfl) j)

/-- **`SCHED_DEADLINE` is never used.** With `ENABLE_SCHED_DEADLINE` clear, every slot's
`deadline_scheduling` is `0` in every reachable state, so every sleep of `rtapi_wait` is
`clock_nanosleep` and never `sched_wait_interval`. -/
theorem rtapiWait_clock_nanosleep (h : Reachable os s) :
    (∀ j, (s.task j).deadlineScheduling = 0) ∧
      ∀ th e ts b, Event.sleep ts b ∈ (rtapiWait s th e).events → b = false := by
  have hs : NoDeadline s :=
    Reachable.induction NoDeadline (fun _ => rfl) (fun _ _ _ hi _ hr => hi.step hr) h
  refine ⟨hs, fun th e ts b hm => ?_⟩
  have h0 := hs th.slot
  unfold rtapiWait rtapiGetPagefaultCount at hm
  dsimp only at hm
  split_ifs at hm <;> simp_all

theorem rtapiWait_clock_nanosleep_started :
    (∀ j, ((stateAfter linuxOs startedOps).task j).deadlineScheduling = 0) ∧
      ∀ th e ts b, Event.sleep ts b ∈ (rtapiWait (stateAfter linuxOs startedOps) th e).events →
        b = false :=
  rtapiWait_clock_nanosleep (reachable_stateAfter linuxOs startedOps)

end Sleep

end Rtapi.Linux
