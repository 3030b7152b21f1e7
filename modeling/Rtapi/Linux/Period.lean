import Rtapi.Linux.Slots

/-!
# The clock period and the task periods

`rtapi_clock_set_period` sets the clock period once; it is `0` before, and after it lies between
`1` and `INT_MAX` and no call changes it again (`period_of_reachable`). `rtapi_task_start`
divides by it: on a valid handle the start divides by zero exactly while it is still `0`
(`rtapiTaskStart_eq_none_iff`); `rtapi_clock_set_period` itself divides only by the clock
resolution.

A sequence of `rtapi_clock_set_period` calls answers as the set-once protocol of the
specification (`setPeriodOnce`), but for the rounding: the code converts `r·⌊nsecs / r⌋` to
`int`, so a rounded request of `2^31` ns or more wraps (`clockSetPeriod_sets_once`,
`rtapiClockSetPeriod_truncates`).

Once the clock tick `t` is set, a start of a task with `period_nsec = p₀` that creates its worker
leaves the period `max (cInt (max p₀ t)) t` and the ratio `period / t`
(`rtapiTaskStart_task_period`): `max p₀ t` and `max p₀ t / t` when `p₀ ≤ INT_MAX`, while a
larger request wraps in the `int` field and falls back to the tick. From then on only
`rtapi_task_set_period(p)` writes the period, storing `cInt p` without clamping, and every wait
advances the release time by the period stored (`task_period_run`): `0` after
`rtapi_task_set_period(id, 0)`, one tick after a start with `3·10^9` ns
(`rtapiWait_period_unclamped`).
-/

namespace Rtapi.Linux

variable {os : Os} {s : Sys}

/-! ## Which calls change the clock period -/

/-- `rtapi_clock_set_period` changes the clock period only from `0`, and only to a value between
`1` and `INT_MAX`. -/
theorem rtapiClockSetPeriod_period (n : UInt64) :
    (rtapiClockSetPeriod os s n).sys.period = s.period ∨
      (s.period = 0 ∧ 1 ≤ (rtapiClockSetPeriod os s n).sys.period ∧
        (rtapiClockSetPeriod os s n).sys.period ≤ intMax) := by
  unfold rtapiClockSetPeriod
  split_ifs with h₀ h₁
  · exact .inl rfl
  · exact .inl rfl
  · dsimp only; exact .inr ⟨not_not.1 h₁, roundedPeriod_range os n⟩

/-- **Only `rtapi_clock_set_period` changes the clock period, and only from `0`.** -/
theorem Op.period_of_run {o : Op} {r : Result} (hr : o.run os s = some r) :
    r.sys.period = s.period ∨
      (s.period = 0 ∧ 1 ≤ r.sys.period ∧ r.sys.period ≤ intMax) := by
  cases o with
  | init => cases hr; obtain ⟨m, hm⟩ := rtapiInit_frame s; rw [hm]; exact .inl rfl
  | exit id => cases hr; obtain ⟨m, hm⟩ := rtapiExit_frame s id; rw [hm]; exact .inl rfl
  | clockSetPeriod n => cases hr; exact rtapiClockSetPeriod_period n
  | taskNew => cases hr; exact .inl rtapiTaskNew_period
  | taskDelete id => cases hr; exact .inl rtapiTaskDelete_period
  | taskStart id p e => exact .inl (rtapiTaskStart_period hr)
  | taskStop id | taskPause id | taskResume id | taskSetPeriod id _ =>
    cases hr; exact .inl withTask_period
  | begin tid _ | finish tid => obtain ⟨th, -, rfl⟩ := Option.map_eq_some'.1 hr; exact .inl rfl
  | wait tid e => obtain ⟨th, -, rfl⟩ := Option.map_eq_some'.1 hr; exact .inl rtapiWait_period

/-- The clock period is unset, or a tick between `1` and `INT_MAX`. -/
def PeriodOk (s : Sys) : Prop := s.period = 0 ∨ (1 ≤ s.period ∧ s.period ≤ intMax)

instance : DecidablePred PeriodOk := fun _ => inferInstanceAs (Decidable (_ ∨ _))

theorem periodOk_of_reachable (h : Reachable os s) : PeriodOk s :=
  Reachable.induction PeriodOk (.inl rfl) (fun _ _ _ hs _ hr =>
    (Op.period_of_run hr).elim (fun he => by unfold PeriodOk; rw [he]; exact hs)
      fun h => .inr h.2) h

/-- A clock period in range is zero as an `unsigned long` exactly when it is zero. -/
theorem PeriodOk.cULong_eq_zero (h : PeriodOk s) : cULong s.period = 0 ↔ s.period = 0 := by
  rcases h with h | ⟨h₁, h₂⟩
  · simp [h, cULong]
  · have := cULong_of_nonneg (x := s.period) (by omega) (by simp only [intMax] at h₂; omega)
    omega

/-! ## A sequence of `rtapi_clock_set_period` calls -/

/-- `rtapi_clock_set_period` called with `ns` in turn from `s`: the answers, and the state
after. -/
def clockSetPeriodRun (os : Os) (s : Sys) : List UInt64 → List Int × Sys
  | [] => ([], s)
  | n :: ns =>
    let r := rtapiClockSetPeriod os s n
    let p := clockSetPeriodRun os r.sys ns
    (r.ret :: p.1, p.2)

/-- The stored clock period as the specification sees it: `none` while `period` is `0`. -/
def Sys.clockPeriod (s : Sys) : Option Int := if s.period = 0 then none else some s.period

theorem Sys.clockPeriod_getD (s : Sys) : s.clockPeriod.getD 0 = s.period := by
  unfold Sys.clockPeriod; split_ifs with h <;> simp [h]

/-- One request to the clock period as the specification gives it, from the stored period `p`:
a request `0` answers `p`, or `0` before the first set; the first other request stores and
answers `f n`; every later one answers `-EINVAL` and stores nothing. -/
def setPeriodOnceStep (f : UInt64 → Int) (p : Option Int) (n : UInt64) : Int × Option Int :=
  if n.toNat = 0 then (p.getD 0, p)
  else match p with
    | some _ => (-einval, p)
    | none => (f n, some (f n))

/-- The specification's answers to the requests `ns` in turn, and the stored period after. -/
def setPeriodOnce (f : UInt64 → Int) : Option Int → List UInt64 → List Int × Option Int
  | p, [] => ([], p)
  | p, n :: ns =>
    let r := setPeriodOnceStep f p n
    let q := setPeriodOnce f r.2 ns
    (r.1 :: q.1, q.2)

/-- The period the specification gives a first request `nsecs`: rounded down to a multiple of the
clock resolution `r` and at least one tick, `r·max(1, ⌊nsecs / r⌋)`. -/
def specPeriod (os : Os) (n : UInt64) : Int := os.res * max 1 ((n.toNat : Int) / os.res)

/-- One call is one request of the set-once protocol, with the rounding `roundedPeriod`. -/
theorem rtapiClockSetPeriod_spec (os : Os) (s : Sys) (n : UInt64) :
    ((rtapiClockSetPeriod os s n).ret, (rtapiClockSetPeriod os s n).sys.clockPeriod) =
      setPeriodOnceStep (roundedPeriod os) s.clockPeriod n := by
  unfold rtapiClockSetPeriod setPeriodOnceStep
  by_cases h₀ : n.toNat = 0
  · simp only [if_pos h₀, s.clockPeriod_getD]
  · have hr : roundedPeriod os n ≠ 0 := by have := (roundedPeriod_range os n).1; omega
    by_cases hp : s.period = 0
    · simp [Sys.clockPeriod, h₀, hp, hr]
    · simp [Sys.clockPeriod, h₀, hp]

theorem clockSetPeriodRun_spec (os : Os) (s : Sys) (ns : List UInt64) :
    ((clockSetPeriodRun os s ns).1, (clockSetPeriodRun os s ns).2.clockPeriod) =
      setPeriodOnce (roundedPeriod os) s.clockPeriod ns := by
  induction ns generalizing s with
  | nil => rfl
  | cons n ns ih =>
    simp only [clockSetPeriodRun, setPeriodOnce, ← rtapiClockSetPeriod_spec, ← ih]

/-- The rounding of the code is the specification's while the rounded request fits an `int`. -/
theorem roundedPeriod_eq_specPeriod (os : Os) (n : UInt64)
    (h : (n.toNat : Int) / os.res * os.res ≤ intMax) : roundedPeriod os n = specPeriod os n := by
  have hr : (0 : Int) < os.res := by exact_mod_cast os.res_pos
  have hq : 0 ≤ (n.toNat : Int) / os.res := Int.ediv_nonneg (by omega) hr.le
  have := Int.mul_nonneg hq hr.le
  unfold roundedPeriod specPeriod
  rw [cInt_of_range (by omega) h]
  rcases hq.eq_or_lt with h₀ | h₀
  · rw [← h₀]; simp
  · have := Int.mul_pos h₀ hr
    rw [if_neg (by omega), max_eq_right (show (1 : Int) ≤ _ from h₀), Int.mul_comm]

/-- **`rtapi_clock_set_period` sets the clock period once.** From any state, a sequence of calls
answers as the specification's set-once protocol and leaves its stored period, with the rounding
`roundedPeriod`: the `int` conversion of `r·⌊nsecs / r⌋`, or `r` when that is below `1`. It is
the specification's `r·max(1, ⌊nsecs / r⌋)` whenever `r·⌊nsecs / r⌋ ≤ INT_MAX`. -/
theorem clockSetPeriod_sets_once (os : Os) (s : Sys) (ns : List UInt64) :
    ((clockSetPeriodRun os s ns).1, (clockSetPeriodRun os s ns).2.clockPeriod) =
        setPeriodOnce (roundedPeriod os) s.clockPeriod ns ∧
      ∀ n : UInt64, (n.toNat : Int) / os.res * os.res ≤ intMax →
        roundedPeriod os n = specPeriod os n :=
  ⟨clockSetPeriodRun_spec os s ns, roundedPeriod_eq_specPeriod os⟩

/-- On a 1 ns clock, a first request of `3·10^9` ns wraps to a negative `int` and stores and
returns one tick, and `2^32 + 10^6` ns stores and returns `10^6`, where the specification stores
and returns the request. -/
theorem rtapiClockSetPeriod_truncates :
    (clockSetPeriodRun linuxOs Sys.init [3000000000]).1 = [1] ∧
      (clockSetPeriodRun linuxOs Sys.init [3000000000]).2.period = 1 ∧
      setPeriodOnce (specPeriod linuxOs) none [3000000000] = ([3000000000], some 3000000000) ∧
      (clockSetPeriodRun linuxOs Sys.init [4295967296]).1 = [1000000] ∧
      (clockSetPeriodRun linuxOs Sys.init [4295967296]).2.period = 1000000 ∧
      setPeriodOnce (specPeriod linuxOs) none [4295967296] = ([4295967296], some 4295967296) := by
  decide

/-! ## Division by the clock period -/

/-- On a state whose clock period is in range, `rtapi_task_start` divides by zero exactly when the
handle is valid and the clock period is still unset. -/
theorem rtapiTaskStart_eq_none_iff (hs : PeriodOk s) {id : Int} {periodNsec : UInt64}
    {e : StartEnv} :
    rtapiTaskStart s id periodNsec e = none ↔ (checkTask s id).isSome ∧ s.period = 0 := by
  cases hc : checkTask s id with
  | none => simp [rtapiTaskStart_of_none hc]
  | some i =>
    simp only [Option.isSome_some, true_and]
    rw [← hs.cULong_eq_zero]
    refine ⟨fun h => by_contra fun hp => ?_, rtapiTaskStart_eq_none hc⟩
    cases hcr : e.created with
    | none => rw [rtapiTaskStart_create_failed hc hp hcr] at h; cases h
    | some tid =>
      obtain ⟨d, ds, evs, he, -⟩ := rtapiTaskStart_created periodNsec hc hp hcr
      rw [he] at h; cases h

/-- **Division by the clock period.** In every reachable state the clock period is unset or a tick
between `1` and `INT_MAX`, no call changes it once set, and `rtapi_task_start` divides by zero
(`none`) exactly on a valid handle while the period is unset. -/
theorem period_of_reachable (h : Reachable os s) :
    PeriodOk s ∧
      (∀ (o : Op) r, o.run os s = some r → s.period ≠ 0 → r.sys.period = s.period) ∧
      ∀ id periodNsec e, rtapiTaskStart s id periodNsec e = none ↔
        (checkTask s id).isSome ∧ s.period = 0 :=
  ⟨periodOk_of_reachable h,
    fun _ _ hr hp => (Op.period_of_run hr).resolve_right fun h => hp h.1,
    fun _ _ _ => rtapiTaskStart_eq_none_iff (periodOk_of_reachable h)⟩

/-- A task created before the clock period is set: its start divides by zero. -/
theorem rtapiTaskStart_before_clock :
    ∃ s, Reachable linuxOs s ∧ s.Valid 0 ∧ rtapiTaskStart s 0 1000000 (.ok 1) = none :=
  ⟨_, reachable_stateAfter linuxOs [.taskNew 0 0 50 0 0 0 (-1) (some 4096)], by decide,
    Option.isNone_iff_eq_none.1 (by decide)⟩

/-! ## The period of a task -/

/-- With the clock period `t` in range, `rtapi_task_start` raises the request to `t`. -/
theorem clampPeriod_eq {t : Int} (h₀ : 0 ≤ t) (h₁ : t ≤ intMax) (p : UInt64) :
    clampPeriod p t = max p.toNat t.toNat := by
  have := cULong_of_nonneg h₀ (by unfold intMax at h₁; omega)
  unfold clampPeriod; split_ifs <;> omega

/-- A start that creates its worker: the worker raises the stored `cInt (max p₀ t)` to the tick
`t`, and divides it by `t` for the ratio. -/
theorem rtapiTaskStart_task_period {id : Int} {i tid : Nat} {p₀ : UInt64} {e : StartEnv}
    {r : Result} (hc : checkTask s id = some i) (ht : 1 ≤ s.period ∧ s.period ≤ intMax)
    (hcr : e.created = some tid) (hr : rtapiTaskStart s id p₀ e = some r) :
    (r.sys.task i).period = max (cInt (max p₀.toNat s.period.toNat : ℕ)) s.period ∧
      (r.sys.task i).ratio = (r.sys.task i).period / s.period := by
  have hp : cULong s.period ≠ 0 := fun h => by
    have := (PeriodOk.cULong_eq_zero (.inr ht)).1 h; omega
  obtain ⟨d, ds, h⟩ := rtapiTaskStart_task_self hc hp hcr hr
  have hP : (r.sys.task i).period = max (cInt (max p₀.toNat s.period.toNat : ℕ)) s.period := by
    rw [h]; dsimp only
    rw [initTask_period]; dsimp only
    rw [startTask_period, clampPeriod_eq (by omega) ht.2]
    split_ifs <;> omega
  have hR : (r.sys.task i).ratio = (r.sys.task i).period.tdiv s.period := by
    rw [h]; exact initTask_ratio_eq
  refine ⟨hP, hR.trans (Int.tdiv_eq_ediv ?_ (by omega))⟩
  rw [hP]; omega

/-- Whether `o` starts or deletes the task `id`: the calls that write its period from a request
of their own, or free its slot. -/
def Op.restarts (id : Int) : Op → Bool
  | .taskStart id' _ _ | .taskDelete id' => id' == id
  | _ => false

/-- The period the record of the task `id` holds after `o`, from `p`, for an `o` that neither
starts nor deletes it: `rtapi_task_set_period(id, q)` stores `(int)q`, and no other call writes
it. -/
def Op.taskPeriod (id : Int) (p : Int) : Op → Int
  | .taskSetPeriod id' q => if id' = id then cInt q.toNat else p
  | _ => p

/-- One step that neither starts nor deletes the valid task `id` of slot `i` writes its period
as `Op.taskPeriod` says, and keeps its ratio. -/
theorem Op.task_period_of_run {o : Op} {r : Result} {id : Int} {i : Nat}
    (hr : o.run os s = some r) (hc : checkTask s id = some i) (hn : o.restarts id = false) :
    (r.sys.task i).period = o.taskPeriod id (s.task i).period ∧
      (r.sys.task i).ratio = (s.task i).ratio := by
  obtain ⟨rfl, -, hv⟩ := checkTask_eq_some.1 hc
  have keep : (r.sys.task i).period = (s.task i).period → (r.sys.task i).ratio = (s.task i).ratio →
      o.taskPeriod i (s.task i).period = (s.task i).period →
      (r.sys.task i).period = o.taskPeriod i (s.task i).period ∧
        (r.sys.task i).ratio = (s.task i).ratio := fun h₁ h₂ ho => ⟨h₁.trans ho.symm, h₂⟩
  have same : r.sys.task i = s.task i → o.taskPeriod i (s.task i).period = (s.task i).period →
      (r.sys.task i).period = o.taskPeriod i (s.task i).period ∧
        (r.sys.task i).ratio = (s.task i).ratio := fun h => keep (by rw [h]) (by rw [h])
  cases o with
  | init => cases hr; obtain ⟨m, hm⟩ := rtapiInit_frame s; exact same (by rw [hm]) rfl
  | exit id' => cases hr; obtain ⟨m, hm⟩ := rtapiExit_frame s id'; exact same (by rw [hm]) rfl
  | clockSetPeriod n =>
    cases hr; obtain ⟨p, hp⟩ := rtapiClockSetPeriod_frame os s n; exact same (by rw [hp]) rfl
  | taskNew =>
    cases hr
    refine same ?_ rfl
    rcases rtapiTaskNew_cases .. with ⟨-, hs⟩ | ⟨-, hlt, hs⟩ | ⟨-, hlt, -, -, t, -, hs⟩ <;>
      rw [hs]
    · exact reserve_task_ne fun h => not_valid_newSlot hlt (h ▸ hv)
    · have hne : i ≠ newSlot s := fun h => not_valid_newSlot hlt (h ▸ hv)
      rw [Sys.setTask_task_ne hne, reserve_task_ne hne]
  | taskDelete id' =>
    cases hr
    refine same ?_ rfl
    cases hc' : checkTask s id' with
    | none => rw [rtapiTaskDelete_of_none hc']
    | some i' =>
      have hne : id' ≠ i := by simpa [Op.restarts] using hn
      exact rtapiTaskDelete_task_ne hc' fun h => hne (by rw [(checkTask_eq_some.1 hc').1, h])
  | taskStart id' p e =>
    exact same (rtapiTaskStart_task_ne hr (Ne.symm (by simpa [Op.restarts] using hn))) rfl
  | taskStop id' | taskPause id' | taskResume id' =>
    cases hr
    exact keep (withTask_proj TaskData.period (fun _ => by rfl) i)
      (withTask_proj TaskData.ratio (fun _ => by rfl) i) rfl
  | taskSetPeriod id' q =>
    cases hr
    by_cases h : id' = i
    · subst h
      simp [Op.taskPeriod, rtapiTaskSetPeriod, withTask_of_some hc]
    · exact same (withTask_task_ne (Ne.symm h)) (if_neg h)
  | begin tid now | finish tid =>
    obtain ⟨th, -, rfl⟩ := Option.map_eq_some'.1 hr
    exact keep (Sys.setTask_proj TaskData.period (by rfl) i)
      (Sys.setTask_proj TaskData.ratio (by rfl) i) rfl
  | wait tid e =>
    obtain ⟨th, -, rfl⟩ := Option.map_eq_some'.1 hr
    exact keep (rtapiWait_proj TaskData.period (fun _ _ => rfl) i)
      (rtapiWait_proj TaskData.ratio (fun _ _ => rfl) i) rfl

/-- **The period of a task over a run.** Along any run that neither starts nor deletes the valid
task `id` of slot `i`, its period ends as the run's `rtapi_task_set_period(id, q)` calls leave it,
`(int)q` of the last one, and its ratio is kept. -/
theorem runOps_task_period {ops : List Op} {p : List Event × Sys} {id : Int} {i : Nat}
    (h : runOps os s ops = some p) (hc : checkTask s id = some i)
    (hn : ∀ o ∈ ops, o.restarts id = false) :
    (p.2.task i).period = ops.foldl (fun q o => o.taskPeriod id q) (s.task i).period ∧
      (p.2.task i).ratio = (s.task i).ratio := by
  induction ops generalizing s p with
  | nil => cases h; exact ⟨rfl, rfl⟩
  | cons o ops ih =>
    obtain ⟨-, r, hr, p', hp, rfl⟩ := runOps_cons_eq_some.1 h
    have ho := hn o (List.mem_cons_self _ _)
    obtain ⟨h₁, h₂⟩ := Op.task_period_of_run hr hc ho
    have hc' := Op.checkTask_of_run hr hc fun he => by simp [he, Op.restarts] at ho
    obtain ⟨ih₁, ih₂⟩ := ih hp hc' fun o' ho' => hn o' (List.mem_cons_of_mem _ ho')
    exact ⟨by rw [ih₁, h₁]; rfl, ih₂.trans h₂⟩

/-- **The period of a task, from its start on.** With the clock tick `t` set, let a start of `id`
with `period_nsec = p₀` create its worker, and let a run follow that neither starts nor deletes
`id`. The task's period is then `(int)q` for the last `rtapi_task_set_period(id, q)` of the run,
or `max (cInt (max p₀ t)) t` when there is none, and its ratio stays the start's `period / t`.
Every wait of the worker that returns advances its release time by that period, as an
`unsigned long`. -/
theorem task_period_run {id : Int} {i tid : Nat} {p₀ : UInt64} {e : StartEnv} {r : Result}
    {ops : List Op} {p : List Event × Sys} (hc : checkTask s id = some i)
    (ht : 1 ≤ s.period ∧ s.period ≤ intMax) (hcr : e.created = some tid)
    (hr : rtapiTaskStart s id p₀ e = some r) (hrun : runOps os r.sys ops = some p)
    (hn : ∀ o ∈ ops, o.restarts id = false) :
    (p.2.task i).period = ops.foldl (fun q o => o.taskPeriod id q)
        (max (cInt (max p₀.toNat s.period.toNat : ℕ)) s.period) ∧
      (p.2.task i).ratio = max (cInt (max p₀.toNat s.period.toNat : ℕ)) s.period / s.period ∧
      ∀ (th : Thread) (e' : WaitEnv), th.slot = i → (p.2.task i).deleted = 0 →
        ((rtapiWait p.2 th e').sys.task i).nextTime =
          rtapiAdvanceTime (p.2.task i).nextTime (cULong (p.2.task i).period) 0 := by
  obtain ⟨hP, hR⟩ := rtapiTaskStart_task_period hc ht hcr hr
  have hr' : (Op.taskStart id p₀ e).run os s = some r := hr
  have hc' := Op.checkTask_of_run hr' hc (by simp)
  obtain ⟨h₁, h₂⟩ := runOps_task_period hrun hc' hn
  refine ⟨by rw [h₁, hP], by rw [h₂, hR, hP], fun th e' hs hd => ?_⟩
  subst hs
  rw [rtapiWait_sys_of_deleted_eq_zero hd, Sys.setTask_task_self]
  rfl

/-- On a 1 ms tick, the started task's worker enters its task code at `{0, 0}`, so its release
time is `{0, 1000000}`. `rtapi_task_set_period(0, 0)` then stores the period `0`, and the next
`rtapi_wait` leaves the release time where it was. A start with `period_nsec = 3000000000` stores
the period `1000000` and the ratio `1`, and its worker's first wait advances the release time by
1 ms. -/
theorem rtapiWait_period_unclamped :
    ((stateAfter linuxOs (startedOps ++ [.begin 1 ⟨0, 0⟩, .taskSetPeriod 0 0])).task 0).period = 0 ∧
      ((stateAfter linuxOs (startedOps ++ [.begin 1 ⟨0, 0⟩, .taskSetPeriod 0 0])).task 0).nextTime =
        ⟨0, 1000000⟩ ∧
      ((Op.wait 1 ⟨⟨0, 0⟩, 0, 0⟩).run linuxOs
          (stateAfter linuxOs (startedOps ++ [.begin 1 ⟨0, 0⟩, .taskSetPeriod 0 0]))).map
        (fun r => (r.sys.task 0).nextTime) = some ⟨0, 1000000⟩ ∧
      ((stateAfter linuxOs [.clockSetPeriod 1000000, .taskNew 0 0 50 0 0 0 (-1) (some 4096),
          .taskStart 0 3000000000 (.ok 1)]).task 0).period = 1000000 ∧
      ((stateAfter linuxOs [.clockSetPeriod 1000000, .taskNew 0 0 50 0 0 0 (-1) (some 4096),
          .taskStart 0 3000000000 (.ok 1)]).task 0).ratio = 1 ∧
      ((stateAfter linuxOs [.clockSetPeriod 1000000, .taskNew 0 0 50 0 0 0 (-1) (some 4096),
          .taskStart 0 3000000000 (.ok 1), .begin 1 ⟨0, 0⟩]).task 0).nextTime = ⟨0, 1000000⟩ ∧
      ((Op.wait 1 ⟨⟨0, 0⟩, 0, 0⟩).run linuxOs (stateAfter linuxOs [.clockSetPeriod 1000000,
          .taskNew 0 0 50 0 0 0 (-1) (some 4096), .taskStart 0 3000000000 (.ok 1),
          .begin 1 ⟨0, 0⟩])).map (fun r => (r.sys.task 0).nextTime) = some ⟨0, 2000000⟩ := by
  decide

end Rtapi.Linux
