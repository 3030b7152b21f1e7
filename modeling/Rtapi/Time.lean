import Rtapi.Basic

/-!
# Timespecs and `rtapi_advance_time`

`rtapi_advance_time` (and its copy `_rtapi_advance_time` in `rt-preempt.c`) adds `ns`
nanoseconds to a `struct timespec` by a carry loop that moves whole seconds from `tv_nsec` to
`tv_sec` while `ns > 1000000000`. The loop keeps the value of the timespec
(`rtapiAdvanceTime_value`), but its test is strict: a sum that is a positive multiple of a
second leaves `tv_nsec = 1000000000` (`rtapiAdvanceTime_normal_iff`), a timespec
`clock_nanosleep` rejects.

`Timespec.after` is the lexicographic comparison `rtapi_wait` makes between the clock and the
next release time; it agrees with the order of values on normalised timespecs and not on the
others (`after_value_order`). `missCount` counts the late wake-ups of a run of waits as the
specification defines them; both files' wait loops are compared with it.
-/

namespace Rtapi

/-- `struct timespec`. Both fields are 64-bit in the sources; the clock values the code handles
stay far from overflow, so they are kept as integers. -/
structure Timespec where
  sec : Int
  nsec : Int
  deriving DecidableEq, Repr

namespace Timespec

/-- The time a timespec denotes, in nanoseconds. -/
def value (t : Timespec) : Int := t.sec * 1000000000 + t.nsec

/-- A normalised timespec: `0 ≤ tv_nsec < 10^9`. -/
def Normal (t : Timespec) : Prop := 0 ≤ t.nsec ∧ t.nsec < 1000000000

instance : DecidablePred Normal := fun t =>
  inferInstanceAs (Decidable (0 ≤ t.nsec ∧ t.nsec < 1000000000))

/-- The deadline test of `rtapi_wait`: `ts.tv_sec > nt.tv_sec || (ts.tv_sec == nt.tv_sec &&
ts.tv_nsec > nt.tv_nsec)`. -/
def after (ts nt : Timespec) : Bool := ts.sec > nt.sec || (ts.sec == nt.sec && ts.nsec > nt.nsec)

theorem after_iff_value_lt {ts nt : Timespec} (hts : ts.Normal) (hnt : nt.Normal) :
    ts.after nt = true ↔ nt.value < ts.value := by
  unfold after value Normal at *
  simp only [Bool.or_eq_true, decide_eq_true_eq, Bool.and_eq_true, beq_iff_eq]
  omega

/-- **The deadline test and the order of time.** On normalised timespecs the test of `rtapi_wait`
is the order of the instants they denote; on a timespec whose `tv_nsec` is a whole second it
answers for the wrong time: the instant `{sec, 10^9}` denotes, written `{sec + 1, 0}`, is already
"after" it. -/
theorem after_value_order :
    (∀ ts nt : Timespec, ts.Normal → nt.Normal → (ts.after nt = true ↔ nt.value < ts.value)) ∧
    ∀ sec : Int, after ⟨sec + 1, 0⟩ ⟨sec, 1000000000⟩ = true ∧
      (⟨sec + 1, 0⟩ : Timespec).value = (⟨sec, 1000000000⟩ : Timespec).value :=
  ⟨fun _ _ => after_iff_value_lt, fun sec => by simp [after, value]; ring⟩

theorem after_value_order_ms :
    Normal ⟨0, 2000000⟩ ∧ Normal ⟨0, 1000000⟩ ∧ after ⟨0, 2000000⟩ ⟨0, 1000000⟩ = true :=
  ⟨by decide, by decide, (after_value_order.1 _ _ (by decide) (by decide)).2 (by decide)⟩

end Timespec

/-! ## The carry loop -/

/-- The loop of `rtapi_advance_time`, `while (ns > 1000000000) { s++; ns -= 1000000000; }`, given
room for `k` rounds: the final `(ns, s)`. -/
def carry : Nat → Nat → Nat → Nat × Nat
  | 0, ns, s => (ns, s)
  | k + 1, ns, s => if ns > 1000000000 then carry k (ns - 1000000000) (s + 1) else (ns, s)

/-- `rtapi_advance_time(tv, ns, s)`: `ns += tv->tv_nsec` in `unsigned long`, the carry loop (which
makes fewer rounds than the sum), then `tv->tv_nsec = ns; tv->tv_sec += s`. -/
def rtapiAdvanceTime (tv : Timespec) (ns s : Nat) : Timespec :=
  let n := (ns + cULong tv.nsec) % 2 ^ 64
  ⟨tv.sec + (carry n n s).2, (carry n n s).1⟩

theorem carry_value (k ns s : Nat) :
    (carry k ns s).2 * 1000000000 + (carry k ns s).1 = s * 1000000000 + ns := by
  induction k generalizing ns s with
  | zero => rfl
  | succ k ih =>
    rw [carry]
    split
    · rw [ih]; omega
    · rfl

theorem carry_fst_le (k ns s : Nat) (h : ns ≤ (k + 1) * 1000000000) :
    (carry k ns s).1 ≤ 1000000000 := by
  induction k generalizing ns s with
  | zero => simpa [carry] using h
  | succ k ih =>
    rw [carry]
    split
    · exact ih _ _ (by omega)
    · simp only; omega

/-- The loop ends below a second unless it started at a positive multiple of a second. -/
theorem carry_fst_lt_iff (k ns s : Nat) (h : ns ≤ (k + 1) * 1000000000) :
    (carry k ns s).1 < 1000000000 ↔ ns < 1000000000 ∨ ns % 1000000000 ≠ 0 := by
  induction k generalizing ns s with
  | zero => simp only [carry]; omega
  | succ k ih =>
    rw [carry]
    split
    · rw [ih _ _ (by omega)]; omega
    · simp only; omega

/-- The sum `ns + tv_nsec` the loop starts from, when it does not wrap. -/
theorem rtapiAdvanceTime_start {tv : Timespec} {ns : Nat} (h₀ : 0 ≤ tv.nsec)
    (h₁ : ns + tv.nsec < 2 ^ 64) : ((ns + cULong tv.nsec) % 2 ^ 64 : Nat) = ns + tv.nsec := by
  have := cULong_of_nonneg h₀ (by omega)
  omega

/-- **`rtapi_advance_time` adds `s` seconds and `ns` nanoseconds to the value.** -/
theorem rtapiAdvanceTime_value {tv : Timespec} {ns : Nat} (s : Nat) (h₀ : 0 ≤ tv.nsec)
    (h₁ : ns + tv.nsec < 2 ^ 64) :
    (rtapiAdvanceTime tv ns s).value = tv.value + s * 1000000000 + ns := by
  have hv := carry_value ((ns + cULong tv.nsec) % 2 ^ 64) ((ns + cULong tv.nsec) % 2 ^ 64) s
  have hs := rtapiAdvanceTime_start h₀ h₁
  simp only [rtapiAdvanceTime, Timespec.value]
  omega

theorem rtapiAdvanceTime_nsec_le (tv : Timespec) (ns s : Nat) :
    0 ≤ (rtapiAdvanceTime tv ns s).nsec ∧ (rtapiAdvanceTime tv ns s).nsec ≤ 1000000000 := by
  have := carry_fst_le ((ns + cULong tv.nsec) % 2 ^ 64) ((ns + cULong tv.nsec) % 2 ^ 64) s
    (by omega)
  simp only [rtapiAdvanceTime]
  omega

/-- **Advancing by a period**: a period between `0` and `INT_MAX`, passed as `unsigned long`, grows
the value by exactly itself and keeps `tv_nsec` between `0` and `10^9`. -/
theorem rtapiAdvanceTime_period {tv : Timespec} {p : Int} (h₀ : 0 ≤ tv.nsec)
    (h₁ : tv.nsec ≤ 1000000000) (hp₀ : 0 ≤ p) (hp₁ : p ≤ intMax) :
    (rtapiAdvanceTime tv (cULong p) 0).value = tv.value + p ∧
      0 ≤ (rtapiAdvanceTime tv (cULong p) 0).nsec ∧
      (rtapiAdvanceTime tv (cULong p) 0).nsec ≤ 1000000000 := by
  have hc : (cULong p : Int) = p := cULong_of_nonneg hp₀ (by unfold intMax at hp₁; omega)
  have hv : (rtapiAdvanceTime tv (cULong p) 0).value = _ :=
    rtapiAdvanceTime_value 0 h₀ (by unfold intMax at hp₁; omega)
  refine ⟨by omega, rtapiAdvanceTime_nsec_le tv (cULong p) 0⟩

/-- **The result is normalised exactly when the sum is not a positive whole number of seconds.** -/
theorem rtapiAdvanceTime_normal_iff {tv : Timespec} {ns : Nat} (s : Nat) (h₀ : 0 ≤ tv.nsec)
    (h₁ : ns + tv.nsec < 2 ^ 64) :
    (rtapiAdvanceTime tv ns s).Normal ↔
      ns + tv.nsec < 1000000000 ∨ (ns + tv.nsec) % 1000000000 ≠ 0 := by
  have hl := carry_fst_lt_iff ((ns + cULong tv.nsec) % 2 ^ 64) ((ns + cULong tv.nsec) % 2 ^ 64) s
    (by omega)
  have hs := rtapiAdvanceTime_start h₀ h₁
  simp only [rtapiAdvanceTime, Timespec.Normal]
  omega

theorem rtapiAdvanceTime_normal_iff_second :
    ((rtapiAdvanceTime ⟨0, 0⟩ 1000000000 0).Normal ↔
      1000000000 + (0 : Int) < 1000000000 ∨ (1000000000 + (0 : Int)) % 1000000000 ≠ 0) :=
  rtapiAdvanceTime_normal_iff 0 (by decide) (by decide)

example : rtapiAdvanceTime ⟨0, 0⟩ 1000000000 0 = ⟨0, 1000000000⟩ := by decide

/-! ## Misses over a run of waits -/

/-- The misses of a run of waits by the specification, the first release time having value `D`
and the period being `p`: the `k`-th wait (from `0`) misses when the clock read after its sleep is
past the release time `D + (k + 1) · p`. -/
def missCount (D p : Int) : List Timespec → Nat
  | [] => 0
  | now :: nows => (if D + p < now.value then 1 else 0) + missCount (D + p) p nows

/-- A timespec with `0 ≤ tv_nsec ≤ 10^9` whose value is not a whole number of seconds is
normalised. -/
theorem Timespec.normal_of_value {ts : Timespec} (h₀ : 0 ≤ ts.nsec) (h₁ : ts.nsec ≤ 1000000000)
    (h : ts.value % 1000000000 ≠ 0) : ts.Normal := by
  unfold Timespec.value at h; unfold Timespec.Normal; omega

end Rtapi
