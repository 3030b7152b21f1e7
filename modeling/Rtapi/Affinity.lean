import Mathlib.Data.Finset.Max
import Mathlib.Data.Finset.Range
import Rtapi.Os

/-!
# Which CPU `realtime_set_affinity` pins a worker to

Both files give a worker one CPU before it enters its task code. `pthread_getaffinity_np`
reports a `cpu_set_t`; the CPUs it allows are its set bits below `CPU_SETSIZE` (`cpuSet`). A
requested CPU must be among them. With none requested, the downward `for` loop picks the highest
one (`lastCpu_cpuSetsize`). With `pthread_setaffinity_np` succeeding, the call is
`realtimeSetAffinity_eq`: it pins the worker to that one CPU, or returns `-EINVAL` and pins
nothing (`realtimeSetAffinity_pins`). A call that returns `0` has done exactly that pin
(`realtimeSetAffinity_eq_zero`).
-/

namespace Rtapi

/-- The CPUs a `cpu_set_t` allows: its set bits below `CPU_SETSIZE`. -/
def cpuSet (set : Nat → Bool) : Finset Nat := (Finset.range cpuSetsize).filter (set · = true)

variable {set : Nat → Bool} {cpu : Int}

@[simp] theorem mem_cpuSet {n : Nat} : n ∈ cpuSet set ↔ n < cpuSetsize ∧ set n = true := by
  simp [cpuSet]

theorem cpuIsset_iff (h : 0 ≤ cpu) : cpuIsset cpu set = true ↔ cpu.toNat ∈ cpuSet set := by
  simp only [cpuIsset, Bool.and_eq_true, decide_eq_true_eq, mem_cpuSet]
  exact and_congr_left fun _ => by omega

/-! ## The downward search -/

theorem lastCpu_eq_none_iff {k : Nat} : lastCpu set k = none ↔ ∀ n < k, set n = false := by
  induction k with
  | zero => simp [lastCpu]
  | succ k ih =>
    rw [Nat.forall_lt_succ_right, ← ih, lastCpu]
    split_ifs with hk <;> simp [hk]

/-- The search stops at a set bit below its start, above which every bit is clear. -/
theorem lastCpu_eq_some {k m : Nat} (h : lastCpu set k = some m) :
    m < k ∧ set m = true ∧ ∀ n, m < n → n < k → set n = false := by
  induction k with
  | zero => cases h
  | succ k ih =>
    simp only [lastCpu] at h
    split_ifs at h with hk
    · cases h; exact ⟨by omega, hk, fun n h₁ h₂ => absurd h₂ (by omega)⟩
    · obtain ⟨h₁, h₂, h₃⟩ := ih h
      refine ⟨by omega, h₂, fun n hn hn' => ?_⟩
      rcases Nat.lt_succ_iff_lt_or_eq.1 hn' with hn' | rfl
      · exact h₃ n hn hn'
      · simpa using hk

/-- **The search from `CPU_SETSIZE - 1` finds the highest allowed CPU**, and none when no CPU is
allowed. -/
theorem lastCpu_cpuSetsize :
    lastCpu set cpuSetsize =
      if h : (cpuSet set).Nonempty then some ((cpuSet set).max' h) else none := by
  split_ifs with h
  · cases hl : lastCpu set cpuSetsize with
    | none =>
      obtain ⟨n, hn⟩ := h
      have := lastCpu_eq_none_iff.1 hl n (mem_cpuSet.1 hn).1
      simp [(mem_cpuSet.1 hn).2] at this
    | some m =>
      obtain ⟨h₁, h₂, h₃⟩ := lastCpu_eq_some hl
      refine congrArg some (le_antisymm (Finset.le_max' _ m (mem_cpuSet.2 ⟨h₁, h₂⟩))
        (Finset.max'_le _ _ _ fun n hn => ?_))
      by_contra hmn
      have := h₃ n (by omega) (mem_cpuSet.1 hn).1
      simp [(mem_cpuSet.1 hn).2] at this
  · exact lastCpu_eq_none_iff.2 fun n hn => by
      by_contra hs; exact h ⟨n, mem_cpuSet.2 ⟨hn, by simpa using hs⟩⟩

/-! ## The call -/

/-- `realtime_set_affinity` when `pthread_setaffinity_np` succeeds. -/
theorem realtimeSetAffinity_eq (id : Nat) (cpu : Int) (set : Nat → Bool) :
    realtimeSetAffinity id cpu set true =
      if 0 ≤ cpu then
        if cpu.toNat ∈ cpuSet set then (0, [.setAffinity cpu.toNat])
        else (-einval, [.msg .err (.cpuNotAvailable cpu)])
      else if h : (cpuSet set).Nonempty then (0, [.setAffinity ((cpuSet set).max' h)])
      else (-einval, [.msg .err .lastCpuUnknown]) := by
  unfold realtimeSetAffinity
  by_cases h₀ : 0 ≤ cpu
  · simp only [if_pos (by omega : cpu > -1), if_pos h₀]
    by_cases hc : cpu.toNat ∈ cpuSet set
    · simp only [(cpuIsset_iff h₀).2 hc, hc, if_true]
    · simp only [hc, if_false, (cpuIsset_iff h₀).not.2 hc, Bool.false_eq_true]
  · simp only [if_neg (by omega : ¬cpu > -1), if_neg h₀, lastCpu_cpuSetsize]
    split_ifs <;> rfl

/-- **`realtime_set_affinity` pins the worker to one allowed CPU, or to none.** With
`pthread_setaffinity_np` succeeding: a requested `cpu ≥ 0` that the set allows is the CPU
pinned; with none requested (`cpu < 0`) and some CPU allowed, the highest allowed one; in every
other case the call returns `-EINVAL` and pins nothing. A pin is the call's only effect, and its
CPU is allowed. -/
theorem realtimeSetAffinity_pins (id : Nat) (cpu : Int) (set : Nat → Bool) :
    (0 ≤ cpu → cpu.toNat ∈ cpuSet set →
      realtimeSetAffinity id cpu set true = (0, [.setAffinity cpu.toNat])) ∧
    (∀ h : (cpuSet set).Nonempty, cpu < 0 →
      realtimeSetAffinity id cpu set true = (0, [.setAffinity ((cpuSet set).max' h)])) ∧
    (¬(0 ≤ cpu ∧ cpu.toNat ∈ cpuSet set) → ¬(cpu < 0 ∧ (cpuSet set).Nonempty) →
      (realtimeSetAffinity id cpu set true).1 = -einval ∧
        ∀ c, Event.setAffinity c ∉ (realtimeSetAffinity id cpu set true).2) ∧
    ∀ c, Event.setAffinity c ∈ (realtimeSetAffinity id cpu set true).2 →
      c ∈ cpuSet set ∧ (realtimeSetAffinity id cpu set true).2 = [.setAffinity c] := by
  rw [realtimeSetAffinity_eq]
  split_ifs with h₀ hc hS
  · refine ⟨fun _ _ => rfl, fun _ h => absurd h (not_lt.2 h₀), fun h => absurd ⟨h₀, hc⟩ h, ?_⟩
    simp only [List.mem_singleton, Event.setAffinity.injEq]
    rintro c rfl; exact ⟨hc, rfl⟩
  · refine ⟨fun _ h => absurd h hc, fun _ h => absurd h (not_lt.2 h₀), fun _ _ => ⟨rfl, ?_⟩, ?_⟩ <;>
      simp
  · refine ⟨fun h => absurd h h₀, fun _ _ => rfl, fun _ h => absurd ⟨lt_of_not_le h₀, hS⟩ h, ?_⟩
    simp only [List.mem_singleton, Event.setAffinity.injEq]
    intro c hc
    exact ⟨hc ▸ Finset.max'_mem _ hS, by rw [hc]⟩
  · refine ⟨fun h => absurd h h₀, fun h => absurd h hS, fun _ _ => ⟨rfl, ?_⟩, ?_⟩ <;> simp


/-- When `pthread_setaffinity_np` fails, the call answers `-EINVAL` whatever it chose. -/
theorem realtimeSetAffinity_false (id : Nat) :
    (realtimeSetAffinity id cpu set false).1 = -einval := by
  simp only [realtimeSetAffinity, Bool.false_eq_true, if_false]
  split <;> rfl

/-- A call that returns `0` pinned the worker, and did nothing else, to one allowed CPU: the
requested one, or the highest allowed one when none was requested. -/
theorem realtimeSetAffinity_eq_zero {id : Nat} {setOk : Bool}
    (h : (realtimeSetAffinity id cpu set setOk).1 = 0) :
    ∃ c ∈ cpuSet set, (realtimeSetAffinity id cpu set setOk).2 = [.setAffinity c] ∧
      (0 ≤ cpu → c = cpu.toNat) ∧
      ∀ hS : (cpuSet set).Nonempty, cpu < 0 → c = (cpuSet set).max' hS := by
  cases setOk
  · rw [realtimeSetAffinity_false] at h; simp [einval] at h
  · rw [realtimeSetAffinity_eq] at h ⊢
    split_ifs at h ⊢ with h₀ hc hS
    · exact ⟨_, hc, rfl, fun _ => rfl, fun _ h => absurd h (not_lt.2 h₀)⟩
    · simp [einval] at h
    · exact ⟨_, Finset.max'_mem _ hS, rfl, fun h => absurd h h₀, fun _ _ => rfl⟩
    · simp [einval] at h

end Rtapi
