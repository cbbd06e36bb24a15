import Mathlib.Algebra.GroupWithZero.Nat
import Mathlib.Data.List.Basic
import Mathlib.Data.List.Forall2

/-!
# Checked computations: `Except` with named refusals

A transaction of the modelled services is a sequence of reads and checks that
either commits a new state or raises. Both shapes are `Except`: `require`
is a guard that raises a given error, `expect` turns an absent row into one.
The lemmas below invert a successful computation, so that a proof about a
committed transaction starts from its guards as plain hypotheses.
-/

namespace ControlAssurance.Lib

variable {ε α β : Type}

/-- A bounded quantifier is decided along its list, also where the elements can be enumerated. -/
instance (priority := 2000) decidableMembers (p : α → Prop) [DecidablePred p] (l : List α) :
    Decidable (∀ a ∈ l, p a) :=
  List.decidableBAll p l

instance (priority := 2000) lawfulNats : LawfulBEq (List Nat) := inferInstance

instance (priority := 2000) lawfulCharacters : LawfulBEq (List Char) := inferInstance

/-- Raise `e` unless the guard holds. -/
def require (c : Prop) [Decidable c] (e : ε) : Except ε Unit :=
  if c then .ok () else .error e

/-- The row that was read, or the error for its absence. -/
def expect (o : Option α) (e : ε) : Except ε α :=
  match o with
  | some a => .ok a
  | none => .error e

variable {e : ε} {c : Prop} {a : α} {b : β} {f : α → Except ε β} {x : Except ε α} {l : List α}
  {R : α → β → Prop}

@[simp] theorem require_eq_ok [Decidable c] {u : Unit} :
    require c e = .ok u ↔ c := by
  unfold require
  split <;> simp_all

theorem require_pos [Decidable c] (h : c) : require c e = .ok () :=
  if_pos h

theorem require_neg [Decidable c] (h : ¬c) : require c e = .error e :=
  if_neg h

@[simp] theorem require_eq_error [Decidable c] {e' : ε} :
    require c e = .error e' ↔ ¬c ∧ e = e' := by
  unfold require
  split <;> simp_all

@[simp] theorem expect_eq_ok {o : Option α} :
    expect o e = .ok a ↔ o = some a := by
  cases o <;> simp [expect]

/-- A successful sequence is a successful first part and a successful rest. -/
@[simp] theorem bind_eq_ok : (x >>= f) = .ok b ↔ ∃ a, x = .ok a ∧ f a = .ok b := by
  cases x <;> simp [bind, Except.bind]

@[simp] theorem ok_bind : (Except.ok a >>= f) = f a := rfl

@[simp] theorem error_bind : (Except.error e >>= f) = .error e := rfl

@[simp] theorem pure_eq_ok {b : α} : (pure a : Except ε α) = .ok b ↔ a = b := by
  simp [pure, Except.pure]

theorem exists_of_forall₂_left {l' : List β}
    (h : List.Forall₂ R l l') (ha : a ∈ l) : ∃ b ∈ l', R a b := by
  induction h with
  | nil => cases ha
  | cons hR _ ih =>
    rcases List.mem_cons.mp ha with rfl | ha
    · exact ⟨_, List.mem_cons_self .., hR⟩
    · obtain ⟨b, hb, hab⟩ := ih ha
      exact ⟨b, List.mem_cons_of_mem _ hb, hab⟩

theorem exists_of_forall₂_right {l' : List β}
    (h : List.Forall₂ R l l') (hb : b ∈ l') : ∃ a ∈ l, R a b :=
  exists_of_forall₂_left h.flip hb

/-- A loop over a list succeeds when each of its rounds does. -/
theorem mapM_ok (h : ∀ a ∈ l, ∃ b, f a = .ok b ∧ R a b) :
    ∃ bs, l.mapM f = .ok bs ∧ List.Forall₂ R l bs := by
  induction l with
  | nil => exact ⟨[], rfl, .nil⟩
  | cons a l ih =>
    obtain ⟨b, hb, hR⟩ := h a (List.mem_cons_self ..)
    obtain ⟨bs, hbs, hall⟩ := ih fun x hx => h x (List.mem_cons_of_mem _ hx)
    refine ⟨b :: bs, ?_, .cons hR hall⟩
    rw [List.mapM_cons, hb, ok_bind, hbs, ok_bind]
    rfl

/-- Each answer of a loop is that of one of its rounds. -/
theorem mapM_mem :
    ∀ {l : List α} {bs : List β}, l.mapM f = .ok bs → ∀ b ∈ bs, ∃ a ∈ l, f a = .ok b
  | [], bs, h, b, hb => by
    cases h
    cases hb
  | a :: l, bs, h, b, hb => by
    simp only [List.mapM_cons, bind_eq_ok, pure_eq_ok] at h
    obtain ⟨b₀, hb₀, rest, hrest, rfl⟩ := h
    rcases List.mem_cons.mp hb with rfl | hb
    · exact ⟨a, List.mem_cons_self .., hb₀⟩
    · obtain ⟨a', ha', hab⟩ := mapM_mem hrest b hb
      exact ⟨a', List.mem_cons_of_mem _ ha', hab⟩

/-- Each round of a loop has its answer among the answers. -/
theorem mapM_answer :
    ∀ {l : List α} {bs : List β}, l.mapM f = .ok bs → ∀ a ∈ l, ∃ b ∈ bs, f a = .ok b
  | [], _, _, a, ha => by cases ha
  | a :: l, bs, h, x, hx => by
    simp only [List.mapM_cons, bind_eq_ok, pure_eq_ok] at h
    obtain ⟨b₀, hb₀, rest, hrest, rfl⟩ := h
    rcases List.mem_cons.mp hx with rfl | hx
    · exact ⟨b₀, List.mem_cons_self .., hb₀⟩
    · obtain ⟨b, hb, hxb⟩ := mapM_answer hrest x hx
      exact ⟨b, List.mem_cons_of_mem _ hb, hxb⟩

/-- A loop has an answer for each round. -/
theorem mapM_length :
    ∀ {l : List α} {bs : List β}, l.mapM f = .ok bs → l.length = bs.length
  | [], bs, h => by
    cases h
    rfl
  | a :: l, bs, h => by
    simp only [List.mapM_cons, bind_eq_ok, pure_eq_ok] at h
    obtain ⟨b, _, rest, hrest, rfl⟩ := h
    rw [List.length_cons, List.length_cons, mapM_length hrest]

/-- A loop of checks passes when each of them does. -/
theorem forM_eq_ok {f : α → Except ε Unit} :
    l.forM f = .ok () ↔ ∀ a ∈ l, f a = .ok () := by
  induction l with
  | nil =>
    refine ⟨fun _ a ha => ?_, fun _ => rfl⟩
    cases ha
  | cons b l ih =>
    show (f b >>= fun _ => l.forM f) = .ok () ↔ _
    rw [bind_eq_ok, List.forall_mem_cons, ← ih]
    constructor
    · rintro ⟨⟨⟩, hb, hrest⟩
      exact ⟨hb, hrest⟩
    · rintro ⟨hb, hrest⟩
      exact ⟨(), hb, hrest⟩

theorem map_eq_ok {f : α → β} :
    x.map f = .ok b ↔ ∃ a, x = .ok a ∧ f a = b := by
  cases x <;> simp [Except.map]

/-- Reporting an exception as another one does not change success. -/
@[simp] theorem mapError_eq_ok {ε' : Type} {f : ε → ε'} :
    x.mapError f = .ok a ↔ x = .ok a := by
  cases x <;> simp [Except.mapError]

@[simp] theorem throw_ne_ok {b : α} :
    ¬((throw e : Except ε α) = .ok b) := by
  simp [throw, throwThe, MonadExceptOf.throw]

end ControlAssurance.Lib
