import Mathlib.Data.List.Nodup
import Mathlib.Data.List.Induction
import Mathlib.Tactic.Tauto

/-!
# Dictionaries in insertion order

A `dict` keeps each key where it was first inserted and the value that was last written to it.
`Dict.ofPairs` is a dict comprehension.
-/

namespace ControlAssurance.Lib

variable {κ β : Type} [DecidableEq κ]

abbrev Dict (κ β : Type) : Type := List (κ × β)

namespace Dict

def keys (d : Dict κ β) : List κ := d.map Prod.fst

def values (d : Dict κ β) : List β := d.map Prod.snd

def get? (d : Dict κ β) (k : κ) : Option β := (d.find? fun p => decide (p.1 = k)).map Prod.snd

/-- `d[k] = v`. -/
def insert (d : Dict κ β) (k : κ) (v : β) : Dict κ β :=
  if k ∈ d.keys then d.map fun p => if p.1 = k then (k, v) else p else d ++ [(k, v)]

/-- `{k: v for k, v in pairs}`. -/
def ofPairs (pairs : List (κ × β)) : Dict κ β :=
  pairs.foldl (fun d p => d.insert p.1 p.2) []

variable {v : β} {k : κ} {d : Dict κ β} {pairs : List (κ × β)}

theorem get?_eq_some (h : d.get? k = some v) : (k, v) ∈ d := by
  obtain ⟨p, hp, rfl⟩ := Option.map_eq_some_iff.mp h
  have hk : p.1 = k := by simpa using List.find?_some hp
  rw [← hk]
  exact List.mem_of_find?_eq_some hp

theorem get?_of_mem (hd : d.keys.Nodup) (h : (k, v) ∈ d) :
    d.get? k = some v := by
  have hsome : (d.find? fun p => decide (p.1 = k)).isSome := by
    rw [List.find?_isSome]
    exact ⟨(k, v), h, decide_eq_true rfl⟩
  obtain ⟨p, hp⟩ := Option.isSome_iff_exists.mp hsome
  have hk : p.1 = k := by simpa using List.find?_some hp
  have hpv : p = (k, v) := List.inj_on_of_nodup_map hd (List.mem_of_find?_eq_some hp) h hk
  unfold get?
  rw [hp, hpv]
  rfl

theorem get?_isSome : (d.get? k).isSome ↔ k ∈ d.keys := by
  unfold get? keys
  rw [Option.isSome_map, List.find?_isSome, List.mem_map]
  simp only [decide_eq_true_eq]

/-- With its keys distinct, a comprehension is the list of its pairs. -/
theorem ofPairs_of_nodup (h : (pairs.map Prod.fst).Nodup) :
    ofPairs pairs = pairs := by
  have hrun : ∀ (l d : List (κ × β)), ((d ++ l).map Prod.fst).Nodup →
      l.foldl (fun d p => Dict.insert d p.1 p.2) d = d ++ l := by
    intro l
    induction l with
    | nil => exact fun d _ => (List.append_nil d).symm
    | cons p l ih =>
      intro d hd
      have hnew : p.1 ∉ Dict.keys d := by
        rw [List.map_append, List.map_cons] at hd
        exact fun hmem => (List.nodup_append.mp hd).2.2 _ hmem _ (List.mem_cons_self ..) rfl
      have hinsert : Dict.insert d p.1 p.2 = d ++ [p] := if_neg hnew
      rw [List.foldl_cons, hinsert, ih (d ++ [p]) (by simpa using hd), List.append_assoc]
      rfl
  exact hrun pairs [] (by simpa using h)

theorem keys_insert_of_mem (h : k ∈ d.keys) (v : β) : (d.insert k v).keys = d.keys := by
  unfold insert
  rw [if_pos h]
  unfold keys
  rw [List.map_map]
  refine List.map_congr_left fun p _ => ?_
  show (if p.1 = k then (k, v) else p).1 = p.1
  by_cases hp : p.1 = k
  · rw [if_pos hp, hp]
  · rw [if_neg hp]

theorem get?_cons (p : κ × β) (d : Dict κ β) (k : κ) :
    Dict.get? (p :: d) k = if p.1 = k then some p.2 else d.get? k := by
  unfold get?
  by_cases hp : p.1 = k
  · rw [List.find?_cons_of_pos (by simpa using hp), if_pos hp]
    rfl
  · rw [List.find?_cons_of_neg (by simpa using hp), if_neg hp]

theorem get?_insert_of_mem (h : k ∈ d.keys) (v : β) (k' : κ) :
    (d.insert k v).get? k' = if k' = k then some v else d.get? k' := by
  have hmap : ∀ d : Dict κ β, k ∈ d.keys ∨ k' ≠ k →
      Dict.get? (d.map fun p => if p.1 = k then (k, v) else p) k'
        = if k' = k then some v else d.get? k' := by
    intro d
    induction d with
    | nil =>
      intro hcase
      rcases hcase with hcase | hcase
      · cases hcase
      · rw [if_neg hcase]
        rfl
    | cons p d ih =>
      intro hcase
      rw [List.map_cons, get?_cons, get?_cons]
      by_cases hp : p.1 = k
      · rw [if_pos hp, hp]
        by_cases hk : k' = k
        · rw [if_pos hk, if_pos hk.symm]
        · rw [if_neg fun heq => hk heq.symm, if_neg hk, if_neg fun heq => hk heq.symm,
            ih (Or.inr hk), if_neg hk]
      · rw [if_neg hp]
        by_cases hpk : p.1 = k'
        · have hk : ¬k' = k := fun heq => hp (hpk.trans heq)
          rw [if_pos hpk, if_neg hk, if_pos hpk]
        · rw [if_neg hpk, if_neg hpk]
          refine ih (hcase.imp_left fun hmem => ?_)
          exact (List.mem_cons.mp hmem).resolve_left fun heq => hp heq.symm
  unfold insert
  rw [if_pos h]
  exact hmap d (Or.inl h)

theorem get?_insert (d : Dict κ β) (k : κ) (v : β) (k' : κ) :
    (d.insert k v).get? k' = if k' = k then some v else d.get? k' := by
  by_cases hmem : k ∈ d.keys
  · exact get?_insert_of_mem hmem v k'
  · unfold insert
    rw [if_neg hmem]
    induction d with
    | nil =>
      rw [List.nil_append, get?_cons]
      exact if_congr eq_comm rfl rfl
    | cons p d ih =>
      have hnot : k ∉ Dict.keys d := fun h => hmem (List.mem_cons_of_mem _ h)
      have hp : p.1 ≠ k := fun heq => hmem (heq ▸ List.mem_cons_self ..)
      rw [List.cons_append, get?_cons, get?_cons, ih hnot]
      by_cases hk : k' = k
      · rw [if_pos hk, if_pos hk, if_neg fun heq => hp (heq.trans hk)]
      · rw [if_neg hk, if_neg hk]

theorem mem_keys_insert {k' : κ} :
    k' ∈ (d.insert k v).keys ↔ k' = k ∨ k' ∈ d.keys := by
  rw [← get?_isSome, get?_insert, ← get?_isSome]
  by_cases hk : k' = k
  · rw [if_pos hk]
    exact ⟨fun _ => .inl hk, fun _ => rfl⟩
  · rw [if_neg hk]
    exact ⟨.inr, fun h => h.resolve_left hk⟩

theorem nodup_keys_insert (h : d.keys.Nodup) (k : κ) (v : β) : (d.insert k v).keys.Nodup := by
  by_cases hmem : k ∈ d.keys
  · rw [keys_insert_of_mem hmem]
    exact h
  · unfold insert
    rw [if_neg hmem]
    unfold keys
    rw [List.map_append]
    refine List.nodup_append.mpr ⟨h, List.nodup_singleton _, ?_⟩
    intro a ha b hb heq
    have hb : b = k := List.mem_singleton.mp hb
    exact hmem (hb ▸ heq ▸ ha)

/-- A property that every pair written has, every pair has. -/
theorem ofPairs_mem (h : (ofPairs pairs).get? k = some v) : (k, v) ∈ pairs := by
  have hrun : ∀ (l : List (κ × β)) (d : Dict κ β), (l.foldl (fun d p => Dict.insert d p.1 p.2) d).get? k
      = some v → (k, v) ∈ l ∨ d.get? k = some v := by
    intro l
    induction l with
    | nil => exact fun d h => .inr h
    | cons p l ih =>
      intro d h
      rcases ih _ h with hmem | hd
      · exact .inl (List.mem_cons_of_mem _ hmem)
      · rw [get?_insert] at hd
        by_cases hk : k = p.1
        · rw [if_pos hk] at hd
          rw [hk, ← Option.some.inj hd]
          exact .inl (List.mem_cons_self ..)
        · rw [if_neg hk] at hd
          exact .inr hd
  rcases hrun pairs [] h with hmem | hnil
  · exact hmem
  · cases hnil

theorem mem_keys_ofPairs :
    k ∈ (ofPairs pairs).keys ↔ k ∈ pairs.map Prod.fst := by
  have hrun : ∀ (l : List (κ × β)) (d : Dict κ β),
      k ∈ (l.foldl (fun d p => Dict.insert d p.1 p.2) d).keys ↔ k ∈ l.map Prod.fst ∨ k ∈ d.keys := by
    intro l
    induction l with
    | nil => exact fun d => ⟨.inr, fun h => h.resolve_left List.not_mem_nil⟩
    | cons p l ih =>
      intro d
      rw [List.foldl_cons, ih, mem_keys_insert, List.map_cons, List.mem_cons]
      tauto
  rw [ofPairs, hrun]
  exact ⟨fun h => h.resolve_right List.not_mem_nil, .inl⟩

/-- With its keys distinct, what is written after others is what is found. -/
theorem get?_ofPairs_append {first : List (κ × β)} (h : (keys pairs).Nodup) (k : κ) :
    (ofPairs (first ++ pairs)).get? k
      = if k ∈ keys pairs then get? pairs k else (ofPairs first).get? k := by
  have hrun : ∀ (l : List (κ × β)), (keys l).Nodup → ∀ d : Dict κ β,
      (l.foldl (fun d p => Dict.insert d p.1 p.2) d).get? k
        = if k ∈ keys l then get? l k else d.get? k := by
    intro l
    induction l with
    | nil => exact fun _ d => (if_neg List.not_mem_nil).symm
    | cons p l ih =>
      intro hl d
      have hp : p.1 ∉ keys l := (List.nodup_cons.mp hl).1
      have hmem : k ∈ keys (p :: l) ↔ k = p.1 ∨ k ∈ keys l := List.mem_cons
      rw [List.foldl_cons, ih (List.nodup_cons.mp hl).2, get?_insert, get?_cons]
      by_cases hk : k = p.1
      · rw [if_pos (hmem.mpr (.inl hk)), if_pos hk, if_pos hk.symm, if_neg (hk ▸ hp)]
      · rw [if_neg hk, if_neg (Ne.symm hk)]
        exact if_congr (by rw [hmem, or_iff_right hk]) rfl rfl
  rw [ofPairs, List.foldl_append]
  exact hrun pairs h _

theorem nodup_keys_ofPairs (pairs : List (κ × β)) : (ofPairs pairs).keys.Nodup := by
  have hrun : ∀ (l : List (κ × β)) (d : Dict κ β), d.keys.Nodup →
      (l.foldl (fun d p => Dict.insert d p.1 p.2) d).keys.Nodup := by
    intro l
    induction l with
    | nil => exact fun _ hd => hd
    | cons p l ih => exact fun d hd => ih _ (nodup_keys_insert hd p.1 p.2)
  exact hrun pairs [] List.nodup_nil

/-- Two dictionaries with the same keys in the same order and the same values are equal. -/
theorem ext_get? {d' : Dict κ β} (hkeys : d.keys = d'.keys) (hnodup : d.keys.Nodup)
    (h : ∀ k ∈ d.keys, d.get? k = d'.get? k) : d = d' := by
  induction d generalizing d' with
  | nil =>
    cases d' with
    | nil => rfl
    | cons p d' => cases hkeys
  | cons p d ih =>
    cases d' with
    | nil => cases hkeys
    | cons q d' =>
      have hhead : p.1 = q.1 := (List.cons.inj hkeys).1
      have htail : Dict.keys d = Dict.keys d' := (List.cons.inj hkeys).2
      have hnot : p.1 ∉ Dict.keys d := (List.nodup_cons.mp hnodup).1
      have hfirst := h p.1 (List.mem_cons_self ..)
      rw [get?_cons, get?_cons, if_pos rfl, if_pos hhead.symm] at hfirst
      have hpq : p = q := Prod.ext hhead (Option.some.inj hfirst)
      have hrest : d = d' := by
        refine ih htail (List.nodup_cons.mp hnodup).2 fun k hk => ?_
        have hne : p.1 ≠ k := fun heq => hnot (heq ▸ hk)
        have hget := h k (List.mem_cons_of_mem _ hk)
        rwa [get?_cons, get?_cons, if_neg hne, if_neg (hhead ▸ hne)] at hget
      rw [hpq, hrest]

end Dict

end ControlAssurance.Lib
