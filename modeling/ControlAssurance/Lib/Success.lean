import ControlAssurance.Lib.Checked

/-!
# Computations that succeed alike

Two programs written apart may refuse with different words and still be the same function where
they return. `Alike x y` says that `x` and `y` return the same values; the rules follow the shape
of the programs.
-/

namespace ControlAssurance.Lib

variable {ε α β : Type}

/-- `x` returns a value exactly when `y` returns it. -/
def Alike (x y : Except ε α) : Prop := ∀ a, x = .ok a ↔ y = .ok a

theorem alike_refl (x : Except ε α) : Alike x x := fun _ => Iff.rfl

theorem alike_bind {x y : Except ε α} {f g : α → Except ε β} (h : Alike x y)
    (hfg : ∀ a, Alike (f a) (g a)) : Alike (x >>= f) (y >>= g) := by
  intro b
  rw [bind_eq_ok, bind_eq_ok]
  exact exists_congr fun a => and_congr (h a) (hfg a b)

theorem alike_require {c d : Prop} [Decidable c] [Decidable d] (h : c ↔ d) (e e' : ε) :
    Alike (require c e) (require d e') := by
  intro u
  rw [require_eq_ok, require_eq_ok, h]

theorem alike_expect (o : Option α) (e e' : ε) : Alike (expect o e) (expect o e') := by
  intro a
  rw [expect_eq_ok, expect_eq_ok]

theorem alike_error (e e' : ε) : Alike (.error e : Except ε α) (.error e') := by
  intro a
  constructor
  · intro h
    cases h
  · intro h
    cases h

theorem alike_foldlM {f g : β → α → Except ε β} (h : ∀ b a, Alike (f b a) (g b a))
    (l : List α) (b : β) : Alike (l.foldlM f b) (l.foldlM g b) := by
  induction l generalizing b with
  | nil => exact alike_refl _
  | cons a l ih =>
    rw [List.foldlM_cons, List.foldlM_cons]
    exact alike_bind (h b a) ih

theorem alike_mapM {f g : α → Except ε β} {l : List α} (h : ∀ a ∈ l, Alike (f a) (g a)) :
    Alike (l.mapM f) (l.mapM g) := by
  induction l with
  | nil => exact alike_refl _
  | cons a l ih =>
    rw [List.mapM_cons, List.mapM_cons]
    refine alike_bind (h a (List.mem_cons_self ..)) fun b => ?_
    exact alike_bind (ih fun x hx => h x (List.mem_cons_of_mem _ hx)) fun bs => alike_refl _

end ControlAssurance.Lib
