import Mathlib.Data.List.Count
import Mathlib.Data.List.Forall2

/-!
# Three-valued answers

An answer that may still be open, `none`. More evidence turns open answers into definite ones and
leaves these alone (`Known`); a conjunction respects that, and the interval of a count, whose bounds
are the definite matches and those with the open ones, only shrinks (`interval_shrinks`), around the
count of what is true (`count_within`).
-/

namespace ControlAssurance.Lib

/-- An answer that was definite still stands. -/
def Known (before after : Option Bool) : Prop := ∀ answer, before = some answer → after = some answer

theorem Known.refl (outcome : Option Bool) : Known outcome outcome := fun _ h => h

/-- The conjunction: definitely true, or definitely false, or open. -/
def conjoined (outcomes : List (Option Bool)) : Option Bool :=
  if outcomes.all (· == some true) then some true
  else if outcomes.any (· == some false) then some false
  else none

variable {outcomes : List (Option Bool)}

theorem conjoined_true :
    conjoined outcomes = some true ↔ ∀ outcome ∈ outcomes, outcome = some true := by
  unfold conjoined
  by_cases hall : outcomes.all (· == some true) = true
  · rw [if_pos hall]
    simpa using hall
  · rw [if_neg hall]
    constructor
    · intro h
      split at h <;> cases h
    · intro h
      exact absurd (by simpa using h) hall

theorem conjoined_false :
    conjoined outcomes = some false ↔ ∃ outcome ∈ outcomes, outcome = some false := by
  unfold conjoined
  by_cases hall : outcomes.all (· == some true) = true
  · rw [if_pos hall]
    constructor
    · intro h
      cases h
    · rintro ⟨outcome, hmem, rfl⟩
      have htrue := List.all_eq_true.mp hall _ hmem
      cases htrue
  · rw [if_neg hall]
    by_cases hany : outcomes.any (· == some false) = true
    · rw [if_pos hany]
      simpa using hany
    · rw [if_neg hany]
      constructor
      · intro h
        cases h
      · intro h
        exact absurd (by simpa using h) hany

/-- What is known of the parts is known of the conjunction. -/
theorem conjoined_known {outcomes' : List (Option Bool)}
    (h : List.Forall₂ Known outcomes outcomes') : Known (conjoined outcomes) (conjoined outcomes') := by
  intro answer hanswer
  cases answer with
  | true =>
    rw [conjoined_true] at hanswer ⊢
    intro outcome' hmem
    obtain ⟨i, hi, rfl⟩ := List.getElem_of_mem hmem
    have hlength := h.length_eq
    exact h.get (by omega) hi _ (hanswer _ (List.getElem_mem (by omega)))
  | false =>
    rw [conjoined_false] at hanswer ⊢
    obtain ⟨outcome, hmem, rfl⟩ := hanswer
    obtain ⟨i, hi, hget⟩ := List.getElem_of_mem hmem
    have hlength := h.length_eq
    exact ⟨outcomes'[i], List.getElem_mem (by omega), h.get hi (by omega) _ hget⟩

/-! ## Counts -/

/-- The definite matches. -/
def lowerBound (outcomes : List (Option Bool)) : Nat := outcomes.count (some true)

/-- The matches that are possible. -/
def upperBound (outcomes : List (Option Bool)) : Nat :=
  outcomes.count (some true) + outcomes.count none

theorem lower_le_upper (outcomes : List (Option Bool)) : lowerBound outcomes ≤ upperBound outcomes :=
  Nat.le_add_right _ _

theorem upper_le_length (outcomes : List (Option Bool)) : upperBound outcomes ≤ outcomes.length := by
  unfold upperBound
  induction outcomes with
  | nil => exact Nat.le_refl _
  | cons outcome outcomes ih =>
    rw [List.length_cons, List.count_cons, List.count_cons]
    rcases outcome with _ | _ | _ <;> simp <;> omega

/-- One more outcome, better known or not, moves the bounds towards each other. -/
theorem interval_shrinks {outcomes' : List (Option Bool)}
    (h : List.Forall₂ Known outcomes outcomes') :
    lowerBound outcomes ≤ lowerBound outcomes' ∧ upperBound outcomes' ≤ upperBound outcomes := by
  induction h with
  | nil => exact ⟨Nat.le_refl _, Nat.le_refl _⟩
  | @cons outcome outcome' outcomes outcomes' hknown _ ih =>
    unfold lowerBound upperBound at ih ⊢
    simp only [List.count_cons]
    rcases outcome with _ | answer
    · -- an open outcome may become anything
      rcases outcome' with _ | _ | _ <;> simp <;> omega
    · obtain rfl := hknown answer rfl
      cases answer <;> simp <;> omega

/-- What is true lies between the bounds. -/
theorem count_within {truth : List Bool}
    (h : List.Forall₂ (fun outcome answer => Known outcome (some answer)) outcomes truth) :
    lowerBound outcomes ≤ truth.count true ∧ truth.count true ≤ upperBound outcomes := by
  have hknown : List.Forall₂ Known outcomes (truth.map some) := by
    rw [List.forall₂_map_right_iff]
    exact h
  have hsome : (truth.map some).count (some true) = truth.count true :=
    List.count_map_of_injective truth some (fun _ _ h => Option.some.inj h) true
  have hnone : (truth.map some).count none = 0 := by
    refine List.count_eq_zero.mpr fun hmem => ?_
    obtain ⟨_, _, hnone⟩ := List.mem_map.mp hmem
    cases hnone
  have hbounds := interval_shrinks hknown
  unfold lowerBound upperBound at hbounds ⊢
  omega

end ControlAssurance.Lib
