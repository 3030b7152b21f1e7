import Rtapi.Os

/-!
# Interleavings of steps that commute

Both files run as a sequence of steps, each of which the environment may refuse. This module
says once what follows when the steps of two groups commute: any interleaving of steps of the
two groups ends as running all the steps of the first group, then all those of the second.

* `runSteps step s as`: the steps `as` in order from `s`, with the concatenation of what they
  did; `none` when one of them is refused.
* `SameOutcome`: two runs agree when both are refused, or both reach the same state with the
  same events, perhaps in another order.
* `Independent step P Q Inv`: the steps of the groups `P` and `Q` keep the invariant `Inv`, and
  from a state where it holds a step of `P` and one of `Q` can be taken in either order with the
  same effects.
* `Independent.interleave`: under it, any interleaving agrees with the run of the `P` steps
  followed by the `Q` steps, each group in its own order.
* `runSteps_inv`: a property every step keeps holds at the end of every run.
-/

namespace Rtapi

variable {σ α : Type}

/-- Two outcomes of runs agree: both are refused, or both reach the same state with the same
events, perhaps in another order. -/
def SameOutcome : Option (List Event × σ) → Option (List Event × σ) → Prop :=
  Option.Rel fun p q => p.1.Perm q.1 ∧ p.2 = q.2

namespace SameOutcome

variable {x y z : Option (List Event × σ)}

theorem refl (x : Option (List Event × σ)) : SameOutcome x x := by
  cases x
  · exact .none
  · exact .some ⟨List.Perm.refl _, rfl⟩

theorem trans (h₁ : SameOutcome x y) (h₂ : SameOutcome y z) : SameOutcome x z := by
  cases h₁ with
  | none => exact h₂
  | some h => cases h₂ with
    | some h' => exact .some ⟨h.1.trans h'.1, h.2.trans h'.2⟩

/-- Events done before both runs keep them agreeing. -/
theorem prepend (h : SameOutcome x y) (l : List Event) :
    SameOutcome (x.map fun p => (l ++ p.1, p.2)) (y.map fun p => (l ++ p.1, p.2)) := by
  cases h with
  | none => exact .none
  | some h => exact .some ⟨h.1.append_left l, h.2⟩

end SameOutcome

/-- The steps `as` in order from `s`: what they did and the state they reach; `none` when one of
them is refused. -/
def runSteps (step : σ → α → Option (List Event × σ)) : σ → List α → Option (List Event × σ)
  | s, [] => some ([], s)
  | s, a :: as => (step s a).bind fun p => (runSteps step p.2 as).map fun q => (p.1 ++ q.1, q.2)

/-- `a` then `b` from `s`: what each did, and the state they reach. -/
def pairSteps (step : σ → α → Option (List Event × σ)) (s : σ) (a b : α) :
    Option (List Event × List Event × σ) :=
  (step s a).bind fun p => (step p.2 b).map fun q => (p.1, q.1, q.2)

/-- The steps of the groups `P` and `Q` keep `Inv`, no step is in both groups, and from a state
where `Inv` holds a step of `P` and one of `Q` can be taken in either order, each doing the same
and reaching the same state. -/
structure Independent (step : σ → α → Option (List Event × σ)) (P Q : α → Bool)
    (Inv : σ → Prop) : Prop where
  keep : ∀ {s a p}, Inv s → P a = true ∨ Q a = true → step s a = some p → Inv p.2
  disjoint : ∀ {a}, P a = true → Q a = false
  commute : ∀ {s a b}, Inv s → P a = true → Q b = true →
    pairSteps step s b a = (pairSteps step s a b).map fun p => (p.2.1, p.1, p.2.2)

section Interleave

variable {step : σ → α → Option (List Event × σ)} {s : σ}

/-- Two runs that start with the same step agree if their rests agree after it. -/
theorem runSteps_cons_congr {a : α} {as bs : List α}
    (h : ∀ p, step s a = some p → SameOutcome (runSteps step p.2 as) (runSteps step p.2 bs)) :
    SameOutcome (runSteps step s (a :: as)) (runSteps step s (a :: bs)) := by
  simp only [runSteps]
  cases hp : step s a with
  | none => exact .none
  | some p => exact (h p hp).prepend p.1

theorem runSteps_pair (a b : α) (as : List α) :
    runSteps step s (a :: b :: as) = (pairSteps step s a b).bind fun p =>
      (runSteps step p.2.2 as).map fun q => (p.1 ++ p.2.1 ++ q.1, q.2) := by
  simp only [runSteps, pairSteps]
  cases step s a <;> simp [Option.bind_map, Option.map_map, Function.comp_def, List.append_assoc]

/-- Two adjacent steps whose pair commutes can be swapped. -/
theorem runSteps_swap {a b : α}
    (h : pairSteps step s a b = (pairSteps step s b a).map fun p => (p.2.1, p.1, p.2.2))
    (as : List α) :
    SameOutcome (runSteps step s (a :: b :: as)) (runSteps step s (b :: a :: as)) := by
  rw [runSteps_pair, runSteps_pair, h]
  cases pairSteps step s b a with
  | none => exact .none
  | some p =>
    simp only [Option.map_some', Option.some_bind]
    cases runSteps step p.2.2 as with
    | none => exact .none
    | some q => exact .some ⟨List.perm_append_comm.append_right q.1, rfl⟩

/-- A property every step keeps holds at the end of every run. -/
theorem runSteps_inv (Inv : σ → Prop) (hstep : ∀ {s a p}, Inv s → step s a = some p → Inv p.2)
    {as : List α} {q : List Event × σ} (hs : Inv s) (h : runSteps step s as = some q) :
    Inv q.2 := by
  induction as generalizing s q with
  | nil => cases h; exact hs
  | cons a as ih =>
    simp only [runSteps, Option.bind_eq_some, Option.map_eq_some'] at h
    obtain ⟨p, hp, q', hq', rfl⟩ := h
    exact ih (q := q') (hstep hs hp) hq'

variable {P Q : α → Bool} {Inv : σ → Prop}

/-- A step of the second group moves ahead of steps of the first. -/
theorem Independent.move (h : Independent step P Q Inv) {b : α} (hb : Q b = true)
    {as bs : List α} (has : ∀ a ∈ as, P a = true) (hs : Inv s) :
    SameOutcome (runSteps step s (b :: (as ++ bs))) (runSteps step s (as ++ b :: bs)) := by
  induction as generalizing s with
  | nil => exact SameOutcome.refl _
  | cons a as ih =>
    have ha := has a (List.mem_cons_self a as)
    exact (runSteps_swap (h.commute hs ha hb) _).trans <| runSteps_cons_congr fun p hp =>
      ih (fun a' h' => has a' (List.mem_cons_of_mem a h')) (h.keep hs (.inl ha) hp)

/-- **Any interleaving of steps of two independent groups agrees with the run of all the steps
of the first group, then all those of the second**, each group in its own order. -/
theorem Independent.interleave (h : Independent step P Q Inv) {ops : List α} (hs : Inv s)
    (hops : ∀ a ∈ ops, P a = true ∨ Q a = true) :
    SameOutcome (runSteps step s ops) (runSteps step s (ops.filter P ++ ops.filter Q)) := by
  induction ops generalizing s with
  | nil => exact SameOutcome.refl _
  | cons a ops ih =>
    have hrest : ∀ a' ∈ ops, P a' = true ∨ Q a' = true :=
      fun a' h' => hops a' (List.mem_cons_of_mem a h')
    have hcont : ∀ p, step s a = some p → SameOutcome (runSteps step p.2 ops)
        (runSteps step p.2 (ops.filter P ++ ops.filter Q)) :=
      fun p hp => ih (h.keep hs (hops a (List.mem_cons_self a ops)) hp) hrest
    rcases hops a (List.mem_cons_self a ops) with hP | hQ
    · rw [List.filter_cons_of_pos hP, List.filter_cons_of_neg (by simp [h.disjoint hP]),
        List.cons_append]
      exact runSteps_cons_congr hcont
    · have hnP : P a = false := by
        cases hPa : P a
        · rfl
        · simp [h.disjoint hPa] at hQ
      rw [List.filter_cons_of_neg (by simp [hnP]), List.filter_cons_of_pos hQ]
      exact (runSteps_cons_congr hcont).trans
        (h.move hQ (fun a' h' => (List.mem_filter.1 h').2) hs)

end Interleave

end Rtapi
