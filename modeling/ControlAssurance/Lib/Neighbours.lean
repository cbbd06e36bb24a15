import ControlAssurance.Lib.Checked

/-!
# Lists, from one element to the next

What a loop that carries a state checks of two neighbouring elements, and what follows for any two
elements of a list from what holds of neighbours.
-/

namespace ControlAssurance.Lib

variable {ε α σ : Type} {l : List α}

/-- The rounds of a loop that succeeded: the first one starts from the initial state, each other
one from the state that the round before it left. -/
theorem foldlM_neighbours {f : σ → α → Except ε σ} {s s' : σ} (h : l.foldlM f s = .ok s') :
    (∀ x, l[0]? = some x → ∃ t, f s x = .ok t)
      ∧ ∀ i x y, l[i]? = some x → l[i + 1]? = some y →
        ∃ t₀ t t', f t₀ x = .ok t ∧ f t y = .ok t' := by
  induction l generalizing s with
  | nil =>
    refine ⟨fun x hx => ?_, fun i x y hx => ?_⟩
    · cases hx
    · cases hx
  | cons a l ih =>
    rw [List.foldlM_cons, bind_eq_ok] at h
    obtain ⟨t, hround, hrest⟩ := h
    obtain ⟨hfirst, hnext⟩ := ih hrest
    refine ⟨fun x hx => ?_, fun i x y hx hy => ?_⟩
    · obtain rfl : a = x := by simpa using hx
      exact ⟨t, hround⟩
    · cases i with
      | zero =>
        obtain rfl : a = x := by simpa using hx
        obtain ⟨t', ht'⟩ := hfirst y hy
        exact ⟨s, t, t', hround, ht'⟩
      | succ i => exact hnext i x y hx hy

/-- A predicate that passes to the next element passes to every later one. -/
theorem neighbours_from {P : Nat → α → Prop}
    (hstep : ∀ i x y, l[i]? = some x → l[i + 1]? = some y → P i x → P (i + 1) y) {i j : Nat}
    {x y : α} (hij : i ≤ j) (hx : l[i]? = some x) (hy : l[j]? = some y) (h : P i x) : P j y := by
  induction hij generalizing y with
  | refl =>
    obtain rfl : x = y := by
      rw [hx] at hy
      exact Option.some.inj hy
    exact h
  | @step j hij ih =>
    have hj : j < l.length := by
      have := (List.getElem?_eq_some_iff.mp hy).1
      omega
    have hmiddle : l[j]? = some l[j] := List.getElem?_eq_getElem hj
    exact hstep j l[j] y hmiddle hy (ih hmiddle)

/-- A predicate of the first element that passes to the next one holds of all. -/
theorem neighbours_all {P : Nat → α → Prop} (hfirst : ∀ x, l[0]? = some x → P 0 x)
    (hstep : ∀ i x y, l[i]? = some x → l[i + 1]? = some y → P i x → P (i + 1) y) {i : Nat} {x : α}
    (hx : l[i]? = some x) : P i x := by
  have hpositive : 0 < l.length := by
    have := (List.getElem?_eq_some_iff.mp hx).1
    omega
  have hzero : l[0]? = some l[0] := List.getElem?_eq_getElem hpositive
  exact neighbours_from hstep (Nat.zero_le i) hzero hx (hfirst _ hzero)

end ControlAssurance.Lib
