import ControlAssurance.Lib.Checked

/-!
# What a checked computation raises

`Raises x E`: every exception of `x` is an `E`. The rules follow the shape of the
computation and are equations wherever they can be, so that a function of
guards, reads and calls is reduced by `simp` to what its parts raise.
-/

namespace ControlAssurance.Lib

variable {ε α β : Type} {E : ε → Prop}

/-- Every exception of the computation is one of `E`. -/
def Raises (x : Except ε α) (E : ε → Prop) : Prop := ∀ e, x = .error e → E e

@[simp] theorem raises_ok {a : α} : Raises (.ok a) E := fun _ h => nomatch h

@[simp] theorem raises_pure {a : α} : Raises (pure a : Except ε α) E := raises_ok

@[simp] theorem raises_error {e : ε} : Raises (.error e : Except ε α) E ↔ E e :=
  ⟨fun h => h e rfl, fun h _ he => Except.error.inj he ▸ h⟩

@[simp] theorem raises_require {c : Prop} [Decidable c] {e : ε} :
    Raises (require c e) E ↔ c ∨ E e := by
  by_cases hc : c
  · rw [require_pos hc]
    exact iff_of_true raises_ok (.inl hc)
  · rw [require_neg hc, raises_error]
    exact ⟨.inr, fun h => h.resolve_left hc⟩

@[simp] theorem raises_expect {o : Option α} {e : ε} :
    Raises (expect o e) E ↔ o.isSome = true ∨ E e := by
  cases o with
  | none => exact raises_error.trans ⟨.inr, fun h => h.resolve_left Bool.false_ne_true⟩
  | some a => exact iff_of_true raises_ok (.inl rfl)

@[simp] theorem raises_bind {x : Except ε α} {f : α → Except ε β} :
    Raises (x >>= f) E ↔ Raises x E ∧ ∀ a, x = .ok a → Raises (f a) E := by
  cases x with
  | ok a =>
    rw [ok_bind]
    exact ⟨fun h => ⟨raises_ok, fun b hb => Except.ok.inj hb ▸ h⟩, fun h => h.2 a rfl⟩
  | error e =>
    rw [error_bind, raises_error, raises_error]
    exact ⟨fun h => ⟨h, fun _ ha => nomatch ha⟩, fun h => h.1⟩

@[simp] theorem raises_map {x : Except ε α} {f : α → β} : Raises (x.map f) E ↔ Raises x E := by
  cases x with
  | ok a => exact iff_of_true raises_ok raises_ok
  | error e => exact raises_error.trans raises_error.symm

@[simp] theorem raises_fmap {x : Except ε α} {f : α → β} : Raises (f <$> x) E ↔ Raises x E :=
  raises_map

theorem raises_ite {c : Prop} [Decidable c] {x y : Except ε α} (hx : c → Raises x E)
    (hy : ¬c → Raises y E) : Raises (if c then x else y) E := by
  by_cases hc : c
  · rw [if_pos hc]
    exact hx hc
  · rw [if_neg hc]
    exact hy hc

/-- A loop raises what its rounds raise. -/
theorem raises_mapM {f : α → Except ε β} :
    ∀ {l : List α}, (∀ a ∈ l, Raises (f a) E) → Raises (l.mapM f) E
  | [], _ => raises_pure
  | a :: l, h => by
    rw [List.mapM_cons, raises_bind]
    refine ⟨h a (List.mem_cons_self ..), fun b _ => raises_bind.mpr ⟨?_, fun bs _ => raises_pure⟩⟩
    exact raises_mapM fun c hc => h c (List.mem_cons_of_mem _ hc)

theorem raises_foldlM {f : β → α → Except ε β} :
    ∀ {l : List α} {b : β}, (∀ b, ∀ a ∈ l, Raises (f b a) E) → Raises (l.foldlM f b) E
  | [], _, _ => raises_pure
  | a :: l, b, h => by
    rw [List.foldlM_cons, raises_bind]
    exact ⟨h b a (List.mem_cons_self ..), fun c _ =>
      raises_foldlM fun d x hx => h d x (List.mem_cons_of_mem _ hx)⟩

end ControlAssurance.Lib
