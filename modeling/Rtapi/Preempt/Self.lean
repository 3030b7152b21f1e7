import Rtapi.Preempt.Task

/-!
# Thread statistics in `rt-preempt.c`

`_rtapi_task_self_hook` returns the least id from `1` to `RTAPI_MAX_TASKS` whose stored handle is
the calling thread's, and `-EINVAL` when there is none (`rtapiTaskSelfHook_spec`).
`_rtapi_task_delete_hook` leaves the handle of a deleted task in place, and POSIX lets
`pthread_create` hand a joined thread's identifier to a new thread. A worker whose identifier is
still stored in a lower slot is then taken for that slot's task, and its statistics go there
(`rtapiTaskSelfHook_stale_handle`).

`_rtapi_wait_hook` counts a wait error for the task bound to the worker exactly when the clock is
past the old release time plus one period, and calls the exception handler then
(`rtapiWaitHook_waitErrors`). Over a whole run of waits `wait_errors` grows by exactly the number
of late wake-ups the specification counts (`missCount`, `waitHookRun_waitErrors`): the count
`rtapi_wait` keeps in `failures` in `linux_rtapi.c`, with no `int` counter to wrap.
-/

namespace Rtapi.Preempt

variable {c : Config} {s : Sys} {self : Nat}

/-- Some id from `1` to `RTAPI_MAX_TASKS` holds the caller's handle exactly when the scan stops
within the table. -/
theorem selfSlot_le_iff :
    selfSlot c s self ≤ c.maxTasks ↔
      ∃ n, 1 ≤ n ∧ n ≤ c.maxTasks ∧ (s.extra n).thread = self := by
  have := firstFree_lt_iff (fun n => (s.extra n).thread != self) 1 c.maxTasks
  simp only [bne_eq_false_iff_eq] at this
  unfold selfSlot; constructor
  · intro h; obtain ⟨n, h₀, h₁, hn⟩ := this.1 (by omega); exact ⟨n, h₀, by omega, hn⟩
  · rintro ⟨n, h₀, h₁, hn⟩; have := this.2 ⟨n, h₀, by omega, hn⟩; omega

/-- **`_rtapi_task_self_hook` returns the least id holding the caller's handle.** -/
theorem rtapiTaskSelfHook_eq_iff {n : Nat} :
    rtapiTaskSelfHook c s self = n ↔
      1 ≤ n ∧ n ≤ c.maxTasks ∧ (s.extra n).thread = self ∧
        ∀ m, 1 ≤ m → m < n → (s.extra m).thread ≠ self := by
  unfold rtapiTaskSelfHook
  split_ifs with h
  · rw [Nat.cast_inj]
    by_cases hn : n ≤ c.maxTasks
    · unfold selfSlot
      rw [firstFree_eq_iff _ 1 c.maxTasks (by omega)]
      simp only [bne_eq_false_iff_eq, bne_iff_ne, hn, true_and]
    · exact ⟨fun he => absurd (he ▸ h) hn, fun hr => absurd hr.2.1 hn⟩
  · refine ⟨fun he => by simp [einval] at he, fun ⟨h₀, h₁, hn, _⟩ => ?_⟩
    exact absurd (selfSlot_le_iff.2 ⟨n, h₀, h₁, hn⟩) h

theorem rtapiTaskSelfHook_eq_einval_iff_lt :
    rtapiTaskSelfHook c s self = -einval ↔ c.maxTasks < selfSlot c s self := by
  unfold rtapiTaskSelfHook
  split_ifs with h
  · simp only [einval]; omega
  · simp only [true_iff]; omega

/-- `_rtapi_task_self_hook` fails exactly when no id holds the caller's handle. -/
theorem rtapiTaskSelfHook_eq_einval_iff :
    rtapiTaskSelfHook c s self = -einval ↔
      ∀ n, 1 ≤ n → n ≤ c.maxTasks → (s.extra n).thread ≠ self := by
  rw [rtapiTaskSelfHook_eq_einval_iff_lt, ← not_le, selfSlot_le_iff]
  simp only [not_exists, not_and]

/-- **What `_rtapi_task_self_hook` returns.** It returns the id `n` exactly when `n` is the least
id from `1` to `RTAPI_MAX_TASKS` holding the caller's handle, and `-EINVAL` exactly when none
does. -/
theorem rtapiTaskSelfHook_spec :
    (∀ n : Nat, rtapiTaskSelfHook c s self = n ↔
      1 ≤ n ∧ n ≤ c.maxTasks ∧ (s.extra n).thread = self ∧
        ∀ m, 1 ≤ m → m < n → (s.extra m).thread ≠ self) ∧
    (rtapiTaskSelfHook c s self = -einval ↔
      ∀ n, 1 ≤ n → n ≤ c.maxTasks → (s.extra n).thread ≠ self) := by
  refine ⟨fun _ => rtapiTaskSelfHook_eq_iff, ?_⟩
  rw [rtapiTaskSelfHook_eq_einval_iff_lt, ← not_le, selfSlot_le_iff]
  simp only [not_exists, not_and]

/-- Tasks `1` and `2` are created; task `1` is started with worker `7` and deleted, which joins
`7`; task `2` is started and `pthread_create` hands it the identifier `7` again. -/
def reusedHandleSys : Sys :=
  stateAfter config64 [.clockSetPeriod 1000000, .taskNew 50 (-1) 0 (some 4096),
    .taskNew 50 (-1) 0 (some 8192), .taskStart 1 1000000 (.ok 7), .taskDelete 1,
    .taskStart 2 1000000 (.ok 7)]

/-- Worker `7` of the live task `2` is taken for the deleted task `1`: its first statistics update
goes to `thread_status[1]`. -/
theorem rtapiTaskSelfHook_stale_handle :
    reusedHandleSys.Valid 2 ∧ ¬reusedHandleSys.Valid 1 ∧
      (reusedHandleSys.extra 2).thread = 7 ∧ ⟨7, 2, .ready⟩ ∈ reusedHandleSys.threads ∧
      rtapiTaskSelfHook config64 reusedHandleSys 7 = 1 ∧
      ((Op.begin 7 ⟨0, 0⟩ none none).run config64 reusedHandleSys).map
        (fun r => ((r.sys.status 1).numUpdates, (r.sys.status 2).numUpdates)) = some (1, 0) := by
  decide

/-! ## Wait errors -/

section Stats

variable {rusage : Option Int}

/-- A statistics update counts no wait error. -/
@[simp] theorem rtapiTaskUpdateStatsHook_waitErrors {j : Nat} :
    ((rtapiTaskUpdateStatsHook c s self rusage).sys.status j).waitErrors =
      (s.status j).waitErrors := by
  unfold rtapiTaskUpdateStatsHook
  split_ifs
  · rfl
  · cases rusage
    · by_cases hj : j = (rtapiTaskSelfHook c s self).toNat
      · subst hj; rw [Sys.setStatus_status_self]
      · rw [Sys.setStatus_status_ne hj]
    · rfl

@[simp] theorem rtapiTaskUpdateStatsHook_extra :
    (rtapiTaskUpdateStatsHook c s self rusage).sys.extra = s.extra := by
  unfold rtapiTaskUpdateStatsHook; split_ifs <;> [rfl; cases rusage <;> rfl]

@[simp] theorem rtapiTaskUpdateStatsHook_task :
    (rtapiTaskUpdateStatsHook c s self rusage).sys.task = s.task := by
  unfold rtapiTaskUpdateStatsHook; split_ifs <;> [rfl; cases rusage <;> rfl]

@[simp] theorem rtapiTaskUpdateStatsHook_period :
    (rtapiTaskUpdateStatsHook c s self rusage).sys.period = s.period := by
  unfold rtapiTaskUpdateStatsHook; split_ifs <;> [rfl; cases rusage <;> rfl]

theorem deadlineMissed_not_mem_rtapiTaskUpdateStatsHook {k : Int} :
    Event.deadlineMissed k ∉ (rtapiTaskUpdateStatsHook c s self rusage).events := by
  unfold rtapiTaskUpdateStatsHook; split_ifs <;> [simp; cases rusage <;> simp [getrusageMsg]]

end Stats

/-- **What `_rtapi_wait_hook` counts as a wait error.** In a worker whose task is not deleted,
with the clock reading and the advanced release time normalised, a wait counts a wait error for
the worker's task, and calls the exception handler unless the build is `RTAPI_POSIX` or no handler
is set, exactly when the clock is past the old release time plus one period. -/
theorem rtapiWaitHook_waitErrors {th : Thread} {now : Timespec} {rusage : Option Int}
    (hd : (s.extra th.slot).deleted = 0) (h₀ : 0 ≤ (s.extra th.slot).nextTime.nsec)
    (h₁ : (s.extra th.slot).nextTime.nsec ≤ 1000000000) (hp₀ : 0 ≤ (s.task th.slot).period)
    (hp₁ : (s.task th.slot).period ≤ intMax) (hnow : now.Normal)
    (hr : (rtapiAdvanceTime (s.extra th.slot).nextTime (cULong (s.task th.slot).period) 0).Normal) :
    ((rtapiWaitHook c s th now rusage).sys.status th.slot).waitErrors =
        (s.status th.slot).waitErrors +
          (if (s.extra th.slot).nextTime.value + (s.task th.slot).period < now.value then 1
          else 0) ∧
      (Event.deadlineMissed th.slot ∈ (rtapiWaitHook c s th now rusage).events ↔
        (s.extra th.slot).nextTime.value + (s.task th.slot).period < now.value ∧
          (!c.posix && c.handler) = true) := by
  have key : now.after (rtapiAdvanceTime (s.extra th.slot).nextTime
      (cULong (s.task th.slot).period) 0) = true ↔
      (s.extra th.slot).nextTime.value + (s.task th.slot).period < now.value := by
    rw [Timespec.after_iff_value_lt hnow hr, (rtapiAdvanceTime_period h₀ h₁ hp₀ hp₁).1]
  unfold rtapiWaitHook
  rw [if_neg (not_not.2 hd)]
  dsimp only
  by_cases h : now.after (rtapiAdvanceTime (s.extra th.slot).nextTime
    (cULong (s.task th.slot).period) 0) = true
  · rw [if_pos h, if_pos (key.1 h)]
    simp [deadlineMissed_not_mem_rtapiTaskUpdateStatsHook, key.1 h]
  · rw [if_neg h, if_neg (mt key.2 h)]
    simp [mt key.2 h]

/-- Task `1` with a 1 ms period, its worker `7` in the task code since time `0`: the release time
is `{0, 1000000}`. -/
def waitingSys : Sys :=
  stateAfter config64 [.clockSetPeriod 1000000, .taskNew 50 (-1) 0 (some 4096),
    .taskStart 1 1000000 (.ok 7), .begin 7 ⟨0, 0⟩ none none]

theorem rtapiWaitHook_waitErrors_in_time :
    ((rtapiWaitHook config64 waitingSys ⟨7, 1, .body⟩ ⟨0, 1500000⟩ none).sys.status
        1).waitErrors =
        (waitingSys.status 1).waitErrors +
          (if (waitingSys.extra 1).nextTime.value + (waitingSys.task 1).period <
            (⟨0, 1500000⟩ : Timespec).value then 1 else 0) ∧
      (Event.deadlineMissed (1 : Nat) ∈
          (rtapiWaitHook config64 waitingSys ⟨7, 1, .body⟩ ⟨0, 1500000⟩ none).events ↔
        (waitingSys.extra 1).nextTime.value + (waitingSys.task 1).period <
            (⟨0, 1500000⟩ : Timespec).value ∧
          (!config64.posix && config64.handler) = true) :=
  rtapiWaitHook_waitErrors (by decide) (by decide) (by decide) (by decide) (by decide)
    (by decide) (by decide)

/-! ## Wait errors over a run of waits -/

section Run

variable {th : Thread} {now : Timespec} {rusage : Option Int}

/-- The release time a wait of the worker `th` advances to. -/
def nextRelease (s : Sys) (th : Thread) : Timespec :=
  rtapiAdvanceTime (s.extra th.slot).nextTime (cULong (s.task th.slot).period) 0

/-- **What a wait that returns does** to the worker's own entries: the release time advances, the
task record is kept, and a wait error is counted exactly when the clock is past the new release
time. -/
theorem rtapiWaitHook_of_deleted_eq_zero (hd : (s.extra th.slot).deleted = 0) :
    (rtapiWaitHook c s th now rusage).sys.extra th.slot =
        { s.extra th.slot with nextTime := nextRelease s th } ∧
      (rtapiWaitHook c s th now rusage).sys.task = s.task ∧
      ((rtapiWaitHook c s th now rusage).sys.status th.slot).waitErrors =
        (s.status th.slot).waitErrors + if now.after (nextRelease s th) then 1 else 0 := by
  unfold rtapiWaitHook nextRelease
  rw [if_neg (not_not.2 hd)]
  dsimp only
  split_ifs <;> simp

/-- The state after waits of the worker `th` that all return, each with the clock reading after
its sleep and what `getrusage` answers in it. -/
def waitHookRun (c : Config) (s : Sys) (th : Thread) : List (Timespec × Option Int) → Sys
  | [] => s
  | w :: ws => waitHookRun c (rtapiWaitHook c s th w.1 w.2).sys th ws

/-- **The wait-error counter counts the late wake-ups of a run.** Over any run of waits of a
worker whose task is not deleted, with the clock readings normalised and no release time on a
whole second, `wait_errors` of the worker's task grows by exactly the number of waits whose clock
reading is past the release time one period after the one they slept to, and the release time
grows by one period per wait. -/
theorem waitHookRun_waitErrors (ws : List (Timespec × Option Int))
    (hd : (s.extra th.slot).deleted = 0)
    (h₀ : 0 ≤ (s.extra th.slot).nextTime.nsec) (h₁ : (s.extra th.slot).nextTime.nsec ≤ 1000000000)
    (hp₀ : 0 ≤ (s.task th.slot).period) (hp₁ : (s.task th.slot).period ≤ intMax)
    (hnow : ∀ w ∈ ws, w.1.Normal)
    (hsec : ∀ k < ws.length,
      ((s.extra th.slot).nextTime.value + (k + 1) * (s.task th.slot).period) % 1000000000 ≠ 0) :
    ((waitHookRun c s th ws).status th.slot).waitErrors =
        (s.status th.slot).waitErrors +
          missCount (s.extra th.slot).nextTime.value (s.task th.slot).period (ws.map Prod.fst) ∧
      ((waitHookRun c s th ws).extra th.slot).nextTime.value =
        (s.extra th.slot).nextTime.value + ws.length * (s.task th.slot).period := by
  induction ws generalizing s with
  | nil => simp [waitHookRun, missCount]
  | cons w ws ih =>
    obtain ⟨now, rusage⟩ := w
    obtain ⟨hx, ht, hw⟩ := @rtapiWaitHook_of_deleted_eq_zero c s th now rusage hd
    obtain ⟨hv, hn₀, hn₁⟩ := rtapiAdvanceTime_period h₀ h₁ hp₀ hp₁
    have hr : (nextRelease s th).Normal :=
      Timespec.normal_of_value hn₀ hn₁ (by rw [nextRelease, hv]; simpa using hsec 0 (by simp))
    have hafter : now.after (nextRelease s th) = true ↔
        (s.extra th.slot).nextTime.value + (s.task th.slot).period < now.value := by
      rw [Timespec.after_iff_value_lt (hnow _ (List.mem_cons_self _ _)) hr, nextRelease, hv]
    have hrun := ih (s := (rtapiWaitHook c s th now rusage).sys) (by rw [hx]; exact hd)
      (by rw [hx]; exact hn₀) (by rw [hx]; exact hn₁) (by rw [ht]; exact hp₀)
      (by rw [ht]; exact hp₁)
      (fun n hn => hnow n (List.mem_cons_of_mem _ hn))
      (fun k hk => by
        rw [hx, ht]
        have := hsec (k + 1) (by simp only [List.length_cons]; omega)
        simp only [nextRelease] at hv ⊢
        rw [hv]
        push_cast at this ⊢; ring_nf at this ⊢; exact this)
    have hv' : (nextRelease s th).value = _ := hv
    rw [hx, ht, hv'] at hrun
    refine ⟨?_, ?_⟩
    · rw [waitHookRun, hrun.1, hw, List.map_cons, missCount, ← add_assoc]
      congr 2
      exact if_congr hafter rfl rfl
    · rw [waitHookRun, hrun.2, List.length_cons]
      push_cast; ring

/-- Two waits of worker `7` of task `1` (period 1 ms, released at 1 ms), woken at 1.5 ms and at
3.5 ms, with `getrusage` succeeding: the second wake-up is past the release time 3 ms. -/
def lateWaits : List (Timespec × Option Int) := [(⟨0, 1500000⟩, none), (⟨0, 3500000⟩, none)]

theorem waitHookRun_waitErrors_one_late :
    ((waitHookRun config64 waitingSys ⟨7, 1, .body⟩ lateWaits).status 1).waitErrors =
      (waitingSys.status 1).waitErrors +
        missCount (waitingSys.extra 1).nextTime.value (waitingSys.task 1).period
          (lateWaits.map Prod.fst) ∧
    ((waitHookRun config64 waitingSys ⟨7, 1, .body⟩ lateWaits).extra 1).nextTime.value =
      (waitingSys.extra 1).nextTime.value + lateWaits.length * (waitingSys.task 1).period :=
  waitHookRun_waitErrors _ (by decide) (by decide) (by decide) (by decide) (by decide)
    (by decide) (by decide)

example : missCount 1000000 1000000 [⟨0, 1500000⟩, ⟨0, 3500000⟩] = 1 := by decide

end Run

end Rtapi.Preempt
