import Mathlib.Data.List.Basic
import Mathlib.Data.List.Induction

/-!
# Hash chains

Each entry of a chain is numbered, names the digest of the entry before it and has a digest of
its own; the first one names a fixed genesis value. `Linked` checks the entries one after the
other from a given position, as a verifier does.

Two chains with one head are one chain, as long as entries of equal digest are equal and the
genesis value is not the digest of an entry (`Linked.unique`): the heads are digests of equal
last entries, which name equal heads before them.
-/

namespace ControlAssurance.Lib

variable {α δ : Type} {number : α → Nat} {previous digest : α → δ}

/-- The entries continue a chain of `k` entries with head `p`. -/
def Linked (number : α → Nat) (previous digest : α → δ) : Nat → δ → List α → Prop
  | _, _, [] => True
  | k, p, e :: l => number e = k + 1 ∧ previous e = p ∧ Linked number previous digest (k + 1) (digest e) l

/-- The head after the entries, for a chain with head `p` before them. -/
def lastDigest (digest : α → δ) (p : δ) (l : List α) : δ :=
  match l.getLast? with
  | none => p
  | some e => digest e

@[simp] theorem lastDigest_concat (p : δ) (l : List α) (e : α) :
    lastDigest digest p (l ++ [e]) = digest e := by
  unfold lastDigest
  rw [List.getLast?_concat]

theorem lastDigest_cons (p : δ) (e : α) (l : List α) :
    lastDigest digest p (e :: l) = lastDigest digest (digest e) l := by
  unfold lastDigest
  rw [List.getLast?_cons]
  cases l.getLast? <;> rfl

variable {l : List α} {p : δ} {k : Nat}

theorem linked_append {m : List α} :
    Linked number previous digest k p (l ++ m) ↔ Linked number previous digest k p l
      ∧ Linked number previous digest (k + l.length) (lastDigest digest p l) m := by
  induction l generalizing k p with
  | nil => simp [Linked, lastDigest]
  | cons e l ih =>
    have hlength : k + (e :: l).length = k + 1 + l.length := by
      rw [List.length_cons]
      omega
    rw [List.cons_append, Linked, Linked, ih, lastDigest_cons, hlength]
    exact ⟨fun ⟨hn, hp, hl, hm⟩ => ⟨⟨hn, hp, hl⟩, hm⟩, fun ⟨⟨hn, hp, hl⟩, hm⟩ => ⟨hn, hp, hl, hm⟩⟩

/-- The entries are numbered on from `k`. -/
theorem Linked.numbers (h : Linked number previous digest k p l) :
    l.map number = List.range' (k + 1) l.length := by
  induction l generalizing k p with
  | nil => rfl
  | cons e l ih =>
    rw [List.map_cons, List.length_cons, List.range'_succ, h.1, ih h.2.2]

/-- A chain read off by position: the numbers, the first entry and each next one. -/
theorem linked_of_neighbours (hnumber : ∀ i e, l[i]? = some e → number e = k + i + 1)
    (hfirst : ∀ e, l[0]? = some e → previous e = p)
    (hnext : ∀ i e e', l[i]? = some e → l[i + 1]? = some e' → previous e' = digest e) :
    Linked number previous digest k p l := by
  induction l generalizing k p with
  | nil => trivial
  | cons e l ih =>
    refine ⟨hnumber 0 e rfl, hfirst e rfl, ih (fun i e' he' => ?_) (hnext 0 e · rfl) ?_⟩
    · rw [hnumber (i + 1) e' he']
      omega
    · exact fun i a b ha hb => hnext (i + 1) a b ha hb

/-- A chain seen through another representation of its entries. -/
theorem linked_map {β : Type} {f : β → α} {l : List β} :
    Linked number previous digest k p (l.map f)
      ↔ Linked (fun b => number (f b)) (fun b => previous (f b)) (fun b => digest (f b)) k p l := by
  induction l generalizing k p with
  | nil => exact Iff.rfl
  | cons b l ih => rw [List.map_cons, Linked, Linked, ih]

theorem lastDigest_map {β : Type} {f : β → α} {l : List β} :
    lastDigest digest p (l.map f) = lastDigest (fun b => digest (f b)) p l := by
  unfold lastDigest
  rw [List.getLast?_map]
  cases l.getLast? <;> rfl

/-- Two chains with one head. -/
theorem Linked.unique {m : List α} (hl : Linked number previous digest k p l)
    (hm : Linked number previous digest k p m) (hhead : lastDigest digest p l = lastDigest digest p m)
    (hinjective : ∀ a ∈ l, ∀ b ∈ m, digest a = digest b → a = b)
    (hfresh : ∀ a ∈ l ++ m, digest a ≠ p) : l = m := by
  induction l using List.reverseRecOn generalizing m with
  | nil =>
    rcases List.eq_nil_or_concat m with rfl | ⟨m, b, rfl⟩
    · rfl
    · rw [List.concat_eq_append] at hhead hfresh
      rw [lastDigest_concat] at hhead
      exact absurd hhead.symm (hfresh b (by simp))
  | append_singleton l a ih =>
    rcases List.eq_nil_or_concat m with rfl | ⟨m, b, rfl⟩
    · rw [lastDigest_concat] at hhead
      exact absurd hhead (hfresh a (by simp))
    · rw [List.concat_eq_append] at hm hhead hinjective hfresh ⊢
      rw [lastDigest_concat, lastDigest_concat] at hhead
      have hab : a = b := hinjective a (by simp) b (by simp) hhead
      obtain ⟨hl, hla⟩ := linked_append.mp hl
      obtain ⟨hm, hmb⟩ := linked_append.mp hm
      have hprevious : lastDigest digest p l = lastDigest digest p m := by
        rw [← hla.2.1, ← hmb.2.1, hab]
      have hlm : l = m := by
        refine ih hl hm hprevious ?_ ?_
        · intro x hx y hy
          exact hinjective x (by simp [hx]) y (by simp [hy])
        · intro x hx
          rcases List.mem_append.mp hx with hx | hx
          · exact hfresh x (by simp [hx])
          · exact hfresh x (by simp [hx])
      rw [hlm, hab]

end ControlAssurance.Lib
