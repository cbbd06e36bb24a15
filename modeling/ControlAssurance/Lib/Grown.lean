import ControlAssurance.Lib.Checked
import ControlAssurance.Lib.Table

/-!
# Lists that grow at the end

An append-only table is described by what may be appended to what: `Grown ok`
are the lists each of whose elements was allowed (`ok`) after the ones before
it. Chains of receipts, numbered histories and hash chains are of this kind.
`grown_foldlM` is the rule for a loop that checks such a list from its start.
-/

namespace ControlAssurance.Lib

variable {α σ ε : Type}

/-- Each element was allowed after those before it. -/
inductive Grown (ok : List α → α → Prop) : List α → Prop
  | nil : Grown ok []
  | snoc {l : List α} {a : α} (init : Grown ok l) (last : ok l a) : Grown ok (l ++ [a])

variable {ok : List α → α → Prop}

variable {a b : α} {l : List α}

theorem Grown.split (h : Grown ok l) {pre post : List α}
    (hl : l = pre ++ a :: post) : Grown ok pre ∧ ok pre a := by
  induction h generalizing post with
  | nil =>
    have := congrArg List.length hl
    simp at this
  | @snoc l b hinit hlast ih =>
    -- the element is the last one, or it was there before
    rcases List.eq_nil_or_concat post with rfl | ⟨post', c, rfl⟩
    · obtain ⟨rfl, hb⟩ := List.append_inj' hl rfl
      cases hb
      exact ⟨hinit, hlast⟩
    · have hl' : l ++ [b] = (pre ++ a :: post') ++ [c] := by simpa using hl
      exact ih (List.append_inj' hl' rfl).1

theorem Grown.mem (h : Grown ok l) (ha : a ∈ l) :
    ∃ pre post, l = pre ++ a :: post ∧ Grown ok pre ∧ ok pre a := by
  obtain ⟨pre, post, hl⟩ := List.append_of_mem ha
  exact ⟨pre, post, hl, h.split hl⟩

theorem Grown.imp {ok' : List α → α → Prop} (himp : ∀ l a, ok l a → ok' l a)
    (h : Grown ok l) : Grown ok' l := by
  induction h with
  | nil => exact .nil
  | snoc _ hlast ih => exact .snoc ih (himp _ _ hlast)

/-- What holds of all elements may be used at each of them. -/
theorem Grown.and {q : α → Prop} (h : Grown ok l) (hq : ∀ a ∈ l, q a) :
    Grown (fun l a => ok l a ∧ q a) l := by
  induction h with
  | nil => exact .nil
  | snoc _ hlast ih =>
    refine .snoc (ih fun a ha => hq a (List.mem_append_left _ ha)) ⟨hlast, ?_⟩
    exact hq _ (List.mem_append_right _ (List.mem_singleton_self _))

/-- Rows that change without touching what is allowed. -/
theorem Grown.map {f : α → α} (hf : ∀ l a, ok l a → ok (l.map f) (f a))
    (h : Grown ok l) : Grown ok (l.map f) := by
  induction h with
  | nil => exact .nil
  | snoc _ hlast ih =>
    rw [List.map_append, List.map_singleton]
    exact .snoc ih (hf _ _ hlast)

/-- A loop over a grown list succeeds, and its state is what `inv` says, when
each of its rounds does. -/
theorem grown_foldlM {f : σ → α → Except ε σ} {s₀ : σ} {inv : List α → σ → Prop} (hinit : inv [] s₀)
    (hround : ∀ l a s, Grown ok l → ok l a → inv l s →
      ∃ s', f s a = .ok s' ∧ inv (l ++ [a]) s') (h : Grown ok l) :
    ∃ s, l.foldlM f s₀ = .ok s ∧ inv l s := by
  induction h with
  | nil => exact ⟨s₀, rfl, hinit⟩
  | @snoc l a hgrown hlast ih =>
    obtain ⟨s, hs, hinv⟩ := ih
    obtain ⟨s', hs', hinv'⟩ := hround l a s hgrown hlast hinv
    refine ⟨s', ?_, hinv'⟩
    rw [List.foldlM_append, hs, ok_bind, List.foldlM_cons, hs', ok_bind]
    rfl

/-! ## Numbered chains -/

section

variable {δ : Type} (number : α → Nat) (previous : α → Option δ) (digest : α → δ)

/-- The number and digest of the last element. -/
def chainHead (l : List α) : Option (Nat × δ) :=
  l.getLast?.map fun a => (number a, digest a)

/-- The number after a head. -/
def nextNumber : Option (Nat × δ) → Nat
  | none => 1
  | some head => head.1 + 1

/-- The next element of a chain has the next number and names the head. -/
def NextLink (l : List α) (a : α) : Prop :=
  number a = l.length + 1 ∧ previous a = (chainHead number digest l).map Prod.snd

variable {number previous digest}

@[simp] theorem chainHead_concat (l : List α) (a : α) :
    chainHead number digest (l ++ [a]) = some (number a, digest a) := by
  simp [chainHead]

/-- The elements of a chain are numbered from one. -/
theorem chain_numbers {l : List α} (h : Grown (NextLink number previous digest) l) :
    l.map number = List.range' 1 l.length := by
  induction h with
  | nil => rfl
  | snoc _ hlast ih =>
    rw [List.map_append, ih, List.map_singleton, hlast.1, List.length_append,
      List.length_singleton, List.range'_concat]
    simp [Nat.add_comm]

/-- What the head of a chain is: its length and the last digest. -/
theorem chain_head {l : List α} (h : Grown (NextLink number previous digest) l) :
    (chainHead number digest l = none ∧ l = [])
      ∨ ∃ l' a, l = l' ++ [a] ∧ chainHead number digest l = some (l.length, digest a) := by
  cases h with
  | nil => exact Or.inl ⟨rfl, rfl⟩
  | @snoc l' a _ hlast =>
    right
    refine ⟨l', a, rfl, ?_⟩
    rw [chainHead_concat, hlast.1, List.length_append, List.length_singleton]

/-- The number the head of a chain gives to the next element. -/
theorem chain_next {l : List α} (h : Grown (NextLink number previous digest) l) :
    nextNumber (chainHead number digest l) = l.length + 1 := by
  rcases chain_head h with ⟨hnone, rfl⟩ | ⟨_, _, _, hsome⟩
  · rfl
  · rw [hsome, nextNumber]

end

/-! ## The order of the elements -/

/-- An occurrence of `a` comes before one of `b`. -/
def Before (l : List α) (a b : α) : Prop := [a, b].Sublist l

instance [DecidableEq α] (l : List α) (a b : α) : Decidable (Before l a b) :=
  inferInstanceAs (Decidable ([a, b].Sublist l))

theorem before_snoc {c : α} :
    Before (l ++ [c]) a b ↔ Before l a b ∨ (a ∈ l ∧ b = c) := by
  unfold Before
  constructor
  · intro h
    obtain ⟨l₁, l₂, heq, h₁, h₂⟩ := List.sublist_append_iff.mp h
    rcases List.sublist_singleton.mp h₂ with rfl | rfl
    · rw [List.append_nil] at heq
      rw [heq]
      exact Or.inl h₁
    · have hsplit : [a] ++ [b] = l₁ ++ [c] := heq
      obtain ⟨rfl, hb⟩ := List.append_inj' hsplit rfl
      exact Or.inr ⟨List.singleton_sublist.mp h₁, List.singleton_inj.mp hb⟩
  · rintro (h | ⟨ha, rfl⟩)
    · exact List.sublist_append_of_sublist_left h
    · exact (List.singleton_sublist.mpr ha).append (List.Sublist.refl [b])

theorem Before.left (h : Before l a b) : a ∈ l :=
  h.subset (List.mem_cons_self ..)

theorem Before.right (h : Before l a b) : b ∈ l :=
  h.subset (List.mem_cons_of_mem _ (List.mem_cons_self ..))

theorem Before.of_prefix {l' : List α} (h : Before l a b) (hl : l <+: l') :
    Before l' a b :=
  List.Sublist.trans h hl.sublist

theorem before_of_mem {pre post : List α} (h : a ∈ pre) :
    Before (pre ++ b :: post) a b :=
  (List.singleton_sublist.mpr h).append (List.singleton_sublist.mpr (List.mem_cons_self ..))

/-- Of two different elements, one comes first. -/
theorem before_or_before (ha : a ∈ l) (hb : b ∈ l) :
    a = b ∨ Before l a b ∨ Before l b a := by
  obtain ⟨pre, post, rfl⟩ := List.append_of_mem ha
  rcases List.mem_append.mp hb with hb | hb
  · exact Or.inr (Or.inr (before_of_mem hb))
  · rcases List.mem_cons.mp hb with rfl | hb
    · exact Or.inl rfl
    · right
      left
      have hab : [a, b].Sublist (a :: post) := (List.singleton_sublist.mpr hb).cons_cons a
      exact List.sublist_append_of_sublist_right hab

/-- An element with another before it was allowed when that was there. -/
theorem Grown.before (h : Grown ok l) (hab : Before l a b) :
    ∃ pre post, l = pre ++ b :: post ∧ a ∈ pre ∧ Grown ok pre ∧ ok pre b := by
  induction h with
  | nil =>
    have hmem := hab.left
    cases hmem
  | @snoc l c hinit hlast ih =>
    rcases before_snoc.mp hab with hab | ⟨ha, rfl⟩
    · obtain ⟨pre, post, rfl, hmem, hpre, hok⟩ := ih hab
      exact ⟨pre, post ++ [c], by simp, hmem, hpre, hok⟩
    · exact ⟨l, [], rfl, ha, hinit, hlast⟩

end ControlAssurance.Lib
