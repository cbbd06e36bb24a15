import Mathlib.Data.Finset.Card
import Mathlib.Order.Basic

/-!
# Places that were counted

Holders come and go, and at most `limit` of them may be active at a time. Who is let in is
decided by counting: a newcomer gets a place when fewer than `limit` others are active at its
own time `since`. Newcomers' times need not be in the order in which they are let in, and a
holder may later be exchanged for one that stays active longer.

`Seated` is what survives all of this: of any group of holders, one was let in when fewer than
`limit` of the rest of the group were active. The exchange is where it could break: a holder
that one of the others did not count must not become active again.
-/

namespace ControlAssurance.Lib

section

variable {α T : Type} [DecidableEq α]
variable (active : α → T → Prop) [∀ x t, Decidable (active x t)] (since : α → T)

/-- Of every group of holders, one was let in when fewer than `limit` of the others in it were
active. -/
def Seated (limit : Nat) (A : Finset α) : Prop :=
  ∀ B ⊆ A, B.Nonempty → ∃ x ∈ B, (B.filter fun y => y ≠ x ∧ active y (since x)).card < limit

variable {active since} {limit : Nat} {A A' : Finset α} {x y y' : α}

theorem seated_empty : Seated active since limit ∅ := by
  intro B hB hne
  rw [Finset.subset_empty] at hB
  exact absurd hB hne.ne_empty

theorem Seated.subset (h : Seated active since limit A) (hsub : A' ⊆ A) :
    Seated active since limit A' :=
  fun B hB hne => h B (hB.trans hsub) hne

/-- A newcomer that found a place. -/
theorem Seated.insert (h : Seated active since limit A)
    (hx : (A.filter fun y => active y (since x)).card < limit) :
    Seated active since limit (insert x A) := by
  intro B hB hne
  by_cases hmem : x ∈ B
  · refine ⟨x, hmem, lt_of_le_of_lt (Finset.card_le_card ?_) hx⟩
    intro z hz
    obtain ⟨hzB, hzx, hactive⟩ := Finset.mem_filter.mp hz
    exact Finset.mem_filter.mpr ⟨Finset.mem_of_mem_insert_of_ne (hB hzB) hzx, hactive⟩
  · apply h B ?_ hne
    intro z hz
    have hzx : z ≠ x := fun heq => hmem (heq ▸ hz)
    exact Finset.mem_of_mem_insert_of_ne (hB hz) hzx

/-- One element exchanged for another: no more of them have a property that the new one has only
if the old one had it. -/
theorem card_filter_exchange {p : α → Prop} [DecidablePred p] (hy : y ∈ A) (hp : p y' → p y) :
    ((Insert.insert y' (A.erase y)).filter p).card ≤ (A.filter p).card := by
  by_cases hpy : p y
  · have hmem : y ∈ A.filter p := Finset.mem_filter.mpr ⟨hy, hpy⟩
    have hsub : (Insert.insert y' (A.erase y)).filter p
        ⊆ Insert.insert y' ((A.filter p).erase y) := by
      intro z hz
      obtain ⟨hz, hpz⟩ := Finset.mem_filter.mp hz
      rcases Finset.mem_insert.mp hz with rfl | hz
      · exact Finset.mem_insert_self ..
      · obtain ⟨hzy, hz⟩ := Finset.mem_erase.mp hz
        exact Finset.mem_insert_of_mem
          (Finset.mem_erase.mpr ⟨hzy, Finset.mem_filter.mpr ⟨hz, hpz⟩⟩)
    calc ((Insert.insert y' (A.erase y)).filter p).card
        ≤ (Insert.insert y' ((A.filter p).erase y)).card := Finset.card_le_card hsub
      _ ≤ ((A.filter p).erase y).card + 1 := Finset.card_insert_le _ _
      _ = (A.filter p).card := Finset.card_erase_add_one hmem
  · refine Finset.card_le_card fun z hz => ?_
    obtain ⟨hz, hpz⟩ := Finset.mem_filter.mp hz
    rcases Finset.mem_insert.mp hz with rfl | hz
    · exact absurd (hp hpz) hpy
    · exact Finset.mem_filter.mpr ⟨Finset.mem_of_mem_erase hz, hpz⟩

/-- A holder exchanged for one of the same time, when every other holder counted it. -/
theorem Seated.exchange (h : Seated active since limit A) (hy : y ∈ A)
    (hsince : since y' = since y) (hcounted : ∀ x ∈ A, active y (since x)) :
    Seated active since limit (Insert.insert y' (A.erase y)) := by
  intro B hB hne
  have hrest : B.erase y' ⊆ A.erase y := by
    intro z hz
    obtain ⟨hzy, hz⟩ := Finset.mem_erase.mp hz
    exact Finset.mem_of_mem_insert_of_ne (hB hz) hzy
  by_cases hmem : y' ∈ B
  · -- the group with the old holder back in its place
    have hgroup : Insert.insert y (B.erase y') ⊆ A :=
      Finset.insert_subset hy (hrest.trans (Finset.erase_subset _ _))
    obtain ⟨x, hx, hcard⟩ := h _ hgroup ⟨y, Finset.mem_insert_self ..⟩
    by_cases hxy : x = y
    · subst hxy
      refine ⟨y', hmem, lt_of_le_of_lt (Finset.card_le_card ?_) hcard⟩
      intro z hz
      obtain ⟨hzB, hzy', hactive⟩ := Finset.mem_filter.mp hz
      have hz' : z ∈ B.erase y' := Finset.mem_erase.mpr ⟨hzy', hzB⟩
      exact Finset.mem_filter.mpr ⟨Finset.mem_insert_of_mem hz',
        (Finset.mem_erase.mp (hrest hz')).1, hsince ▸ hactive⟩
    · have hxB : x ∈ B.erase y' := Finset.mem_of_mem_insert_of_ne hx hxy
      refine ⟨x, (Finset.mem_erase.mp hxB).2, lt_of_le_of_lt ?_ hcard⟩
      have hactive : y ≠ x ∧ active y (since x) := ⟨Ne.symm hxy, hcounted x (hgroup hx)⟩
      have hexchange : ((Insert.insert y' ((Insert.insert y (B.erase y')).erase y)).filter
          fun z => z ≠ x ∧ active z (since x)).card ≤ _ :=
        card_filter_exchange (Finset.mem_insert_self y (B.erase y')) fun _ => hactive
      have hnot : y ∉ B.erase y' := fun hyB => (Finset.mem_erase.mp (hrest hyB)).1 rfl
      rwa [Finset.erase_insert hnot, Finset.insert_erase hmem] at hexchange
  · apply h B ?_ hne
    rw [Finset.erase_eq_of_notMem hmem] at hrest
    exact hrest.trans (Finset.erase_subset _ _)

/-- **The bound.** Once every holder's time has come, at most `limit` are active. -/
theorem Seated.card_active [Preorder T] (h : Seated active since limit A) {t : T}
    (hearlier : ∀ y s t, s ≤ t → active y t → active y s) (ht : ∀ x ∈ A, since x ≤ t) :
    (A.filter fun y => active y t).card ≤ limit := by
  rcases Finset.eq_empty_or_nonempty (A.filter fun y => active y t) with hempty | hne
  · rw [hempty, Finset.card_empty]
    exact Nat.zero_le _
  · obtain ⟨x, hx, hcard⟩ := h _ (Finset.filter_subset _ _) hne
    have hxt := ht x (Finset.mem_filter.mp hx).1
    have hsub : (A.filter fun y => active y t).erase x
        ⊆ (A.filter fun y => active y t).filter fun y => y ≠ x ∧ active y (since x) := by
      intro z hz
      obtain ⟨hzx, hz⟩ := Finset.mem_erase.mp hz
      exact Finset.mem_filter.mpr
        ⟨hz, hzx, hearlier z _ _ hxt (Finset.mem_filter.mp hz).2⟩
    have hle := Finset.card_le_card hsub
    have hone := Finset.card_erase_add_one hx
    omega

end

end ControlAssurance.Lib
