import Mathlib.Logic.Function.Basic
import Mathlib.Tactic.Ring

/-!
# C-level vocabulary of the RTAPI sources

What `linux_rtapi.c` and `rt-preempt.c` share below the task table:

* `cInt` and `cULong`, the values an `int` and an `unsigned long` hold after an assignment
  (gcc's two's-complement reduction); `cInt_of_range` says an in-range value is kept;
* the `errno` values the API returns (Linux numbering) and the message levels of
  `rtapi_print_msg`;
* `firstFree`, the slot scan `while (n < bound && taken(n)) n++` that `rtapi_init`,
  `rtapi_task_new`, `_rtapi_init` and `_rtapi_task_self_hook` all run, with its spec lemmas
  `firstFree_taken_of_lt` (every slot skipped is taken) and `firstFree_not_taken` (the slot it
  stops at, below the bound, is free).
-/

namespace Rtapi

/-! ## Machine integers -/

/-- The value an `int` holds after the assignment of `x`: `x` reduced to 32 bits, two's
complement. -/
def cInt (x : Int) : Int := if x % 2 ^ 32 < 2 ^ 31 then x % 2 ^ 32 else x % 2 ^ 32 - 2 ^ 32

/-- The value of `x` converted to `unsigned long` (64 bits). -/
def cULong (x : Int) : Nat := (x % 2 ^ 64).toNat

/-- `INT_MAX`. -/
def intMax : Int := 2 ^ 31 - 1

theorem cInt_of_range {x : Int} (h₀ : -2 ^ 31 ≤ x) (h₁ : x ≤ intMax) : cInt x = x := by
  unfold cInt intMax at *; split <;> omega

theorem cInt_le (x : Int) : cInt x ≤ intMax := by
  unfold cInt intMax; split <;> omega

theorem cULong_of_nonneg {x : Int} (h₀ : 0 ≤ x) (h₁ : x < 2 ^ 64) : (cULong x : Int) = x := by
  unfold cULong; omega

/-! ## Error numbers and message levels -/

/-- `EINVAL`. -/
def einval : Int := 22
/-- `ENOMEM`. -/
def enomem : Int := 12
/-- `EMFILE`. -/
def emfile : Int := 24
/-- `ENOSYS`. -/
def enosys : Int := 38
/-- `ENOENT`. -/
def enoent : Int := 2

/-- The levels of `rtapi_print_msg`. -/
inductive MsgLevel
  | none | err | warn | info | dbg
  deriving DecidableEq, Repr

/-! ## The slot scan -/

/-- The scan `while (n < bound && taken(n)) n++` with `k = bound - n` rounds left: the first
index of `[n, n + k)` that is not taken, or `n + k` when all are. -/
def firstFree (taken : Nat → Bool) (n : Nat) : Nat → Nat
  | 0 => n
  | k + 1 => if taken n then firstFree taken (n + 1) k else n

variable (taken : Nat → Bool)

theorem le_firstFree (n k : Nat) : n ≤ firstFree taken n k := by
  induction k generalizing n with
  | zero => exact le_rfl
  | succ k ih => unfold firstFree; split <;> [exact (ih _).trans' (by omega); exact le_rfl]

theorem firstFree_le (n k : Nat) : firstFree taken n k ≤ n + k := by
  induction k generalizing n with
  | zero => exact le_rfl
  | succ k ih => unfold firstFree; split <;> [exact (ih _).trans (by omega); omega]

theorem firstFree_taken_of_lt (n k j : Nat) (h₀ : n ≤ j) (h₁ : j < firstFree taken n k) :
    taken j = true := by
  induction k generalizing n with
  | zero => simp only [firstFree] at h₁; omega
  | succ k ih =>
    unfold firstFree at h₁
    split at h₁
    · rcases Nat.eq_or_lt_of_le h₀ with rfl | h₀
      · assumption
      · exact ih _ h₀ h₁
    · omega

theorem firstFree_not_taken (n k : Nat) (h : firstFree taken n k < n + k) :
    taken (firstFree taken n k) = false := by
  induction k generalizing n with
  | zero => simp only [firstFree] at h; omega
  | succ k ih =>
    unfold firstFree at h ⊢
    split
    · exact ih _ (by split at h <;> omega)
    · simpa using ‹¬taken n = true›

/-- The scan stops below the bound exactly when some index of the range is free. -/
theorem firstFree_lt_iff (n k : Nat) :
    firstFree taken n k < n + k ↔ ∃ j, n ≤ j ∧ j < n + k ∧ taken j = false := by
  refine ⟨fun h => ⟨_, le_firstFree taken n k, h, firstFree_not_taken taken n k h⟩, ?_⟩
  rintro ⟨j, h₀, h₁, hj⟩
  by_contra hc
  have := firstFree_taken_of_lt taken n k j h₀ (by omega)
  simp_all

/-- Below the bound, the scan stops at `m` exactly when `m` is free and every index before it is
taken. -/
theorem firstFree_eq_iff {m : Nat} (n k : Nat) (hm : m < n + k) :
    firstFree taken n k = m ↔
      n ≤ m ∧ taken m = false ∧ ∀ j, n ≤ j → j < m → taken j = true := by
  refine ⟨fun h => h ▸ ⟨le_firstFree taken n k, firstFree_not_taken taken n k (h ▸ hm),
      fun j h₀ h₁ => firstFree_taken_of_lt taken n k j h₀ h₁⟩,
    fun ⟨h₀, hf, ht⟩ => ?_⟩
  rcases lt_trichotomy (firstFree taken n k) m with h | h | h
  · have := ht _ (le_firstFree taken n k) h
    rw [firstFree_not_taken taken n k (by omega)] at this; cases this
  · exact h
  · have := firstFree_taken_of_lt taken n k m h₀ h; rw [hf] at this; cases this

end Rtapi
