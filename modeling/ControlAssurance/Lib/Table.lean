import Mathlib.Data.List.Basic
import Mathlib.Data.List.Nodup
import Mathlib.Order.Basic

/-!
# Tables as row lists

A relational table is the list of its rows in insertion order. `updateWhere`
is `UPDATE … SET … WHERE …`, `firstBy` is `ORDER BY … LIMIT 1`. Keys are kept
as `(t.map key).Nodup`, the form a primary key or a `UNIQUE` constraint has
in these proofs; `List.inj_on_of_nodup_map` turns it into "two rows with one
key are one row".
-/

namespace ControlAssurance.Lib

variable {α κ : Type}

/-- `UPDATE t SET row = f row WHERE p row`. -/
def updateWhere (p : α → Bool) (f : α → α) (t : List α) : List α :=
  t.map fun r => if p r then f r else r

variable {r : α} {t : List α} {f : α → α} {p : α → Bool} {key : α → κ}

theorem mem_updateWhere :
    r ∈ updateWhere p f t ↔ (∃ r₀ ∈ t, p r₀ = true ∧ r = f r₀) ∨ (r ∈ t ∧ p r = false) := by
  unfold updateWhere
  rw [List.mem_map]
  constructor
  · rintro ⟨r₀, hr₀, rfl⟩
    cases hp : p r₀ with
    | true => exact Or.inl ⟨r₀, hr₀, hp, by simp⟩
    | false => exact Or.inr ⟨by simpa using hr₀, by simpa using hp⟩
  · rintro (⟨r₀, hr₀, hp, rfl⟩ | ⟨hr, hp⟩)
    · exact ⟨r₀, hr₀, by simp [hp]⟩
    · exact ⟨r, hr, by simp [hp]⟩

/-- A column that no assignment touches keeps its values, row by row. -/
theorem map_updateWhere {g : α → κ}
    (hg : ∀ r, g (f r) = g r) : (updateWhere p f t).map g = t.map g := by
  unfold updateWhere
  rw [List.map_map]
  apply List.map_congr_left
  intro r _
  show g (if p r then f r else r) = g r
  split
  · exact hg r
  · rfl

/-- An update that leaves the key column alone keeps the key. -/
theorem updateWhere_keys (hkey : ∀ r, key (f r) = key r) (hnd : (t.map key).Nodup) :
    ((updateWhere p f t).map key).Nodup := by
  rw [map_updateWhere hkey]
  exact hnd

/-- An update of the one row with a given key: the new row, and the others as
they were. -/
theorem mem_updateWhere_key {r₀ : α} (hnd : (t.map key).Nodup) (hr₀ : r₀ ∈ t) (hp : p r₀ = true)
    (hkey : ∀ x, p x = true → key x = key r₀) :
    r ∈ updateWhere p f t ↔ r = f r₀ ∨ (r ∈ t ∧ key r ≠ key r₀) := by
  rw [mem_updateWhere]
  constructor
  · rintro (⟨x, hx, hpx, rfl⟩ | ⟨hr, hpr⟩)
    · rw [List.inj_on_of_nodup_map hnd hx hr₀ (hkey x hpx)]
      exact Or.inl rfl
    · refine Or.inr ⟨hr, fun he => ?_⟩
      rw [List.inj_on_of_nodup_map hnd hr hr₀ he, hp] at hpr
      cases hpr
  · rintro (rfl | ⟨hr, hne⟩)
    · exact Or.inl ⟨r₀, hr₀, hp, rfl⟩
    · refine Or.inr ⟨hr, ?_⟩
      cases hpr : p r with
      | false => rfl
      | true => exact absurd (hkey r hpr) hne

/-- Row `old` was replaced by `new` under the same key, and no other row changed. -/
structure Replaced (key : α → κ) (t t' : List α) (old new : α) : Prop where
  mem : old ∈ t
  key_eq : key new = key old
  rows : ∀ r, r ∈ t' ↔ r = new ∨ (r ∈ t ∧ key r ≠ key old)

theorem Replaced.mem_new {t' : List α} {old new : α} (h : Replaced key t t' old new) : new ∈ t' :=
  (h.rows new).mpr (Or.inl rfl)

theorem replaced_updateWhere {old : α}
    (hnd : (t.map key).Nodup) (hold : old ∈ t) (hp : p old = true)
    (hkey : ∀ x, p x = true → key x = key old) (hf : key (f old) = key old) :
    Replaced key t (updateWhere p f t) old (f old) :=
  ⟨hold, hf, fun _ => mem_updateWhere_key hnd hold hp hkey⟩

/-- A lookup that an appended row does not answer is as before. -/
theorem find?_append_of_neg (hr : p r = false) : (t ++ [r]).find? p = t.find? p := by
  rw [List.find?_append, List.find?_singleton, hr]
  simp

/-- A lookup that found nothing finds the appended row. -/
theorem find?_append_of_pos (ht : t.find? p = none)
    (hr : p r = true) : (t ++ [r]).find? p = some r := by
  rw [List.find?_append, ht, List.find?_singleton, hr]
  rfl

/-- A lookup by a predicate only one row of the table satisfies. -/
theorem find?_eq_of_unique (hr : r ∈ t) (hp : p r = true)
    (huniq : ∀ x ∈ t, p x = true → x = r) : t.find? p = some r := by
  cases hfind : t.find? p with
  | none => exact absurd hp (List.find?_eq_none.mp hfind r hr)
  | some x =>
    rw [huniq x (List.mem_of_find?_eq_some hfind) (List.find?_some hfind)]

/-- A lookup by a key. -/
theorem find?_key [DecidableEq κ] (hnd : (t.map key).Nodup)
    (hr : r ∈ t) : t.find? (fun x => decide (key x = key r)) = some r := by
  refine find?_eq_of_unique hr (decide_eq_true rfl) ?_
  intro x hx hp
  exact List.inj_on_of_nodup_map hnd hx hr (of_decide_eq_true hp)

/-- At most one row has a given key. -/
theorem filter_key_le_one {v : κ} (hnd : (t.map key).Nodup) (hp : ∀ x ∈ t, p x = true → key x = v) :
    (t.filter p).length ≤ 1 := by
  have hkeys : ((t.filter p).map key).Nodup := hnd.sublist (List.filter_sublist.map key)
  match hl : t.filter p with
  | [] => exact Nat.zero_le 1
  | [_] => exact Nat.le_refl 1
  | a :: b :: rest =>
    rw [hl] at hkeys
    have hv : ∀ x, x ∈ t.filter p → key x = v := by
      intro x hx
      rw [List.mem_filter] at hx
      exact hp x hx.1 hx.2
    have ha := hv a (by rw [hl]; exact List.mem_cons_self ..)
    have hb := hv b (by rw [hl]; exact List.mem_cons_of_mem _ (List.mem_cons_self ..))
    rw [List.map_cons, List.map_cons, ha, hb, List.nodup_cons] at hkeys
    exact absurd (List.mem_cons_self ..) hkeys.1

/-- A condition that only the rows of one key can meet, and one does. -/
theorem countP_key (hnd : (t.map key).Nodup)
    (hr : r ∈ t) (hp : p r = true) (huniq : ∀ x ∈ t, p x = true → key x = key r) :
    t.countP p = 1 := by
  have hle := filter_key_le_one hnd huniq
  have hpos : 0 < (t.filter p).length :=
    List.length_pos_of_mem (List.mem_filter.mpr ⟨hr, hp⟩)
  rw [List.countP_eq_length_filter]
  omega

/-- Every old row is still there, changed or not. -/
theorem exists_mem_updateWhere (h : r ∈ t) : (if p r then f r else r) ∈ updateWhere p f t :=
  List.mem_map_of_mem h

/-- Appending a row whose key is new keeps the key. -/
theorem append_keys (hnd : (t.map key).Nodup) (hnew : ∀ x ∈ t, key x ≠ key r) :
    ((t ++ [r]).map key).Nodup := by
  rw [List.map_append, List.map_singleton, List.nodup_append]
  refine ⟨hnd, List.nodup_singleton _, ?_⟩
  intro k hk k' hk' he
  obtain ⟨x, hx, rfl⟩ := List.mem_map.mp hk
  rw [List.mem_singleton] at hk'
  exact hnew x hx (he.trans hk')

/-- An update of other rows than a query selects. -/
theorem filter_updateWhere_other {keep : α → Bool}
    (hp : ∀ r ∈ t, p r = true → keep r = false) (hf : ∀ r, keep (f r) = keep r) :
    (updateWhere p f t).filter keep = t.filter keep := by
  induction t with
  | nil => rfl
  | cons r t ih =>
    have hrest := ih fun x hx => hp x (List.mem_cons_of_mem _ hx)
    unfold updateWhere at hrest ⊢
    rw [List.map_cons, List.filter_cons, List.filter_cons, hrest]
    by_cases hpr : p r = true
    · rw [if_pos hpr, hf, hp r (List.mem_cons_self ..) hpr]
      rfl
    · rw [if_neg hpr]

/-- What a query of some columns sees of an update of the row with a given key. -/
theorem view_updateWhere {β : Type} {keep : α → Bool} {g : α → β}
    {named : β → Bool} {new : β → β} (hf : ∀ r, keep (f r) = keep r)
    (hp : ∀ r ∈ t, keep r = true → (p r = true ↔ named (g r) = true))
    (hg : ∀ r ∈ t, p r = true → g (f r) = new (g r)) : ((updateWhere p f t).filter keep).map g
      = ((t.filter keep).map g).map fun y => if named y then new y else y := by
  have hkeep : ∀ r, keep (if p r then f r else r) = keep r := by
    intro r
    split
    · exact hf r
    · rfl
  unfold updateWhere
  rw [List.filter_map, List.map_map, List.map_map]
  have hsame : (t.filter (keep ∘ fun r => if p r then f r else r)) = t.filter keep :=
    List.filter_congr fun r _ => hkeep r
  rw [hsame]
  apply List.map_congr_left
  intro r hr
  obtain ⟨hr, hk⟩ := List.mem_filter.mp hr
  show g (if p r then f r else r) = if named (g r) then new (g r) else g r
  by_cases hpr : p r = true
  · rw [if_pos hpr, if_pos ((hp r hr hk).mp hpr), hg r hr hpr]
  · rw [if_neg hpr, if_neg fun h => hpr ((hp r hr hk).mpr h)]

/-- `SELECT … ORDER BY … LIMIT 1`: the first row in the given order, the
earliest inserted one among equals. -/
def firstBy (le : α → α → Bool) : List α → Option α
  | [] => none
  | r :: t =>
    match firstBy le t with
    | none => some r
    | some m => if le r m then some r else some m

theorem firstBy_eq_none {le : α → α → Bool} :
    firstBy le t = none ↔ t = [] := by
  cases t with
  | nil => simp [firstBy]
  | cons r t =>
    simp only [firstBy, reduceCtorEq, iff_false]
    cases firstBy le t with
    | none => simp
    | some m =>
      dsimp only
      split <;> simp

theorem firstBy_mem {le : α → α → Bool} :
    ∀ {t : List α} {m : α}, firstBy le t = some m → m ∈ t
  | [], m, h => by simp [firstBy] at h
  | r :: t, m, h => by
    simp only [firstBy] at h
    cases hm : firstBy le t with
    | none =>
      rw [hm] at h
      simp only [Option.some.injEq] at h
      exact h ▸ List.mem_cons_self ..
    | some m' =>
      rw [hm] at h
      dsimp only at h
      split at h
      · simp only [Option.some.injEq] at h
        exact h ▸ List.mem_cons_self ..
      · simp only [Option.some.injEq] at h
        exact List.mem_cons_of_mem _ (h ▸ firstBy_mem hm)

/-- The chosen row is at most every row, for a total transitive order. -/
theorem firstBy_le {le : α → α → Bool} (htotal : ∀ a b, le a b = true ∨ le b a = true)
    (htrans : ∀ a b c, le a b = true → le b c = true → le a c = true) :
    ∀ {t : List α} {m : α}, firstBy le t = some m → ∀ r ∈ t, le m r = true
  | [], m, h, r, hr => by cases hr
  | x :: t, m, h, r, hr => by
    have hrefl : ∀ a, le a a = true := fun a => (htotal a a).elim id id
    simp only [firstBy] at h
    cases hm : firstBy le t with
    | none =>
      rw [hm] at h
      simp only [Option.some.injEq] at h
      have ht : t = [] := firstBy_eq_none.mp hm
      subst h ht
      rw [List.mem_singleton] at hr
      exact hr ▸ hrefl _
    | some m' =>
      rw [hm] at h
      dsimp only at h
      have hrest := firstBy_le htotal htrans hm
      split at h
      next hle =>
        simp only [Option.some.injEq] at h
        subst h
        rcases List.mem_cons.mp hr with rfl | hr'
        · exact hrefl _
        · exact htrans _ _ _ hle (hrest r hr')
      next hle =>
        simp only [Option.some.injEq] at h
        subst h
        rcases List.mem_cons.mp hr with rfl | hr'
        · exact (htotal r m').resolve_left hle
        · exact hrest r hr'

/-- In a table that is in order already, the first row of the opposite order is
the last one inserted. -/
theorem firstBy_eq_getLast? {le : α → α → Bool} :
    ∀ {t : List α}, t.Pairwise (fun a b => le a b = false) → firstBy le t = t.getLast?
  | [], _ => rfl
  | r :: t, h => by
    obtain ⟨hr, ht⟩ := List.pairwise_cons.mp h
    rw [firstBy, firstBy_eq_getLast? ht]
    cases hm : t.getLast? with
    | none =>
      rw [List.getLast?_eq_none_iff] at hm
      rw [hm]
      rfl
    | some m =>
      have hmem : m ∈ t := List.mem_of_getLast? hm
      rw [List.getLast?_cons, hm]
      dsimp only
      rw [if_neg (by rw [hr m hmem]; exact Bool.false_ne_true)]
      rfl

/-- An element of a list with one more at its end: an old one, or the new one. -/
theorem split_concat {l pre post : List α} {x y : α}
    (h : l ++ [x] = pre ++ y :: post) :
    (∃ post', post = post' ++ [x] ∧ l = pre ++ y :: post') ∨ (post = [] ∧ y = x ∧ pre = l) := by
  rcases List.eq_nil_or_concat post with rfl | ⟨post', z, rfl⟩
  · obtain ⟨hl, hx⟩ := List.append_inj' h rfl
    exact Or.inr ⟨rfl, (List.cons.inj hx).1.symm, hl.symm⟩
  · rw [List.concat_eq_append] at h ⊢
    have h' : l ++ [x] = (pre ++ y :: post') ++ [z] := by simpa using h
    obtain ⟨hl, hx⟩ := List.append_inj' h' rfl
    obtain ⟨rfl, -⟩ := List.cons.inj hx
    exact Or.inl ⟨post', rfl, hl⟩

end ControlAssurance.Lib
