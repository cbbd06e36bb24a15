import ControlAssurance.Attestation.PreflightTree

/-!
# The preflight on a document

`preflight_text`: on a text of the grammar the preflight passes exactly when the tree is within the
limits. `preflight_terminates`: on any bytes at all its fuel suffices.
-/

namespace ControlAssurance.Attestation

open Lib

variable {L : PreflightLimits}

theorem delimited_cons {byte : UInt8} (rest : Bytes)
    (h : isDigit byte = false ∧ byte ≠ 0x2E ∧ byte ≠ 0x65 ∧ byte ≠ 0x45) :
    Delimited (byte :: rest) := by
  intro b hb
  obtain rfl := Option.some.inj hb
  exact h

theorem utf8_quoted (body : List Char) (rest : List Char) :
    utf8 ('"' :: (body ++ '"' :: rest)) = 0x22 :: (utf8 body ++ 0x22 :: utf8 rest) := by
  rw [utf8_ascii (by decide), utf8_append, utf8_ascii (by decide)]
  rfl

mutual

/-- A value of the grammar, at any depth. By induction on the tree. -/
theorem scans_value : ∀ (tree : JsonTree) (value : List Char), Spells tree value →
    ∀ (fuel depth : Nat) (payload : Bool) (itemLimit : Option Nat) (rest : Bytes),
      Delimited rest → 2 * (utf8 value ++ rest).length < fuel →
      Scans (Within L depth payload itemLimit tree) rest
        (parseValue L fuel depth payload itemLimit (utf8 value ++ rest))
  | tree, value, _, 0, _, _, _, _, _, hfuel => by omega
  | .null, value, h, fuel + 1, depth, payload, itemLimit, rest, _, _ => by
    rw [Spells] at h
    subst h
    exact (scans_literal rfl (.inr (.inr rfl))).congr (by simp [Within])
  | .bool true, value, h, fuel + 1, depth, payload, itemLimit, rest, _, _ => by
    rw [Spells] at h
    subst h
    exact (scans_literal rfl (.inl rfl)).congr (by simp [Within])
  | .bool false, value, h, fuel + 1, depth, payload, itemLimit, rest, _, _ => by
    rw [Spells] at h
    subst h
    exact (scans_literal rfl (.inr (.inl rfl))).congr (by simp [Within])
  | .number digits, value, h, fuel + 1, depth, payload, itemLimit, rest, hrest, _ => by
    rw [Spells] at h
    obtain ⟨rfl, hnumber⟩ := h
    exact (scans_number hnumber hrest).congr (by simp [Within])
  | .string units, value, h, fuel + 1, depth, payload, itemLimit, rest, _, _ => by
    rw [Spells] at h
    obtain ⟨body, rfl, hunits⟩ := h
    rw [Within, utf8_quoted, List.cons_append, List.append_assoc]
    exact scans_string hunits rest
  | .array [], value, h, fuel + 1, depth, payload, itemLimit, rest, _, _ => by
    rw [Spells] at h
    obtain ⟨blank, rfl, hblank⟩ := h
    rw [utf8_ascii (by decide), utf8_append, List.cons_append, List.append_assoc,
      parseValue_head (by decide), if_neg (by decide), if_pos (by decide)]
    have hclosed : skipWhitespace (utf8 blank ++ (utf8 [']'] ++ rest)) = 0x5D :: rest :=
      consume_after hblank (by decide) rest
    rw [hclosed, Within, WithinItems]
    refine (scans_container scans_pure).congr ?_
    simp
  | .array (item :: items), value, h, fuel + 1, depth, payload, itemLimit, rest, _, hfuel => by
    rw [Spells] at h
    swap
    · exact List.cons_ne_nil _ _
    obtain ⟨inner, rfl, hitems⟩ := h
    rw [utf8_ascii (by decide), utf8_append, List.cons_append, List.append_assoc] at hfuel ⊢
    have hbracket : utf8 [']'] ++ rest = 0x5D :: rest := rfl
    rw [hbracket] at hfuel ⊢
    obtain ⟨byte, tail, hbytes, hopen⟩ := items_head hitems (0x5D :: rest)
    have hclosed : consumeIf 0x5D (skipWhitespace (utf8 inner ++ 0x5D :: rest)) = none := by
      rw [hbytes, consumeIf, if_neg hopen]
    rw [parseValue_head (by decide), if_neg (by decide), if_pos (by decide), hclosed, Within]
    have hloop := scans_items (item :: items) inner hitems fuel (depth + 1) itemLimit 1 rest
      (by simp at hfuel ⊢; omega)
    refine (scans_container (by rw [arrayLoop_skip]; exact hloop)).congr ?_
    simp [LoopWithin, and_assoc]
  | .object [], value, h, fuel + 1, depth, payload, itemLimit, rest, _, _ => by
    rw [Spells] at h
    obtain ⟨blank, rfl, hblank⟩ := h
    rw [utf8_ascii (by decide), utf8_append, List.cons_append, List.append_assoc,
      parseValue_head (by decide), if_pos (by decide)]
    have hclosed : skipWhitespace (utf8 blank ++ (utf8 ['}'] ++ rest)) = 0x7D :: rest :=
      consume_after hblank (by decide) rest
    rw [hclosed, Within, WithinMembers]
    refine (scans_container scans_pure).congr ?_
    simp
  | .object (member :: members), value, h, fuel + 1, depth, payload, itemLimit, rest, _, hfuel => by
    rw [Spells] at h
    swap
    · exact List.cons_ne_nil _ _
    obtain ⟨inner, rfl, hmembers⟩ := h
    rw [utf8_ascii (by decide), utf8_append, List.cons_append, List.append_assoc] at hfuel ⊢
    have hbrace : utf8 ['}'] ++ rest = 0x7D :: rest := rfl
    rw [hbrace] at hfuel ⊢
    obtain ⟨tail, hbytes⟩ := members_head hmembers (0x7D :: rest)
    have hclosed : consumeIf 0x7D (skipWhitespace (utf8 inner ++ 0x7D :: rest)) = none := by
      rw [hbytes]
      rfl
    rw [parseValue_head (by decide), if_pos (by decide), hclosed, Within]
    have hloop := scans_members (member :: members) inner hmembers fuel (depth + 1) 1 rest
      (by simp at hfuel ⊢; omega)
    refine (scans_container hloop).congr ?_
    simp

/-- The items of an array, from the `count`-th on. -/
theorem scans_items : ∀ (items : List JsonTree) (inner : List Char), SpellsItems items inner →
    ∀ (fuel depth : Nat) (itemLimit : Option Nat) (count : Nat) (rest : Bytes),
      2 * (utf8 inner ++ 0x5D :: rest).length + 1 < fuel →
      Scans (LoopWithin L itemLimit (count + items.length - 1) ∧ WithinItems L depth items) rest
        (arrayLoop L fuel depth itemLimit count (utf8 inner ++ 0x5D :: rest))
  | [], inner, h, _, _, _, _, _, _ => by
    rw [SpellsItems] at h
    exact h.elim
  | _ :: _, _, _, 0, _, _, _, _, hfuel => by omega
  | [item], inner, h, fuel + 1, depth, itemLimit, count, rest, hfuel => by
    rw [SpellsItems] at h
    obtain ⟨before, value, after, rfl, hbefore, hvalue, hafter⟩ := h
    simp only [utf8_append, List.append_assoc] at hfuel ⊢
    have hscan := scans_value item value hvalue fuel depth false none (utf8 after ++ 0x5D :: rest)
      (Delimited.blank hafter (delimited_cons rest (by decide))) (by simp at hfuel ⊢; omega)
    rw [arrayLoop, parseValue_blank hbefore]
    refine (scans_bounds itemLimit count (scans_bind hscan (Q := True) ?_)).congr ?_
    · rw [consume_after hafter (by decide)]
      exact scans_pure
    · simp [WithinItems]
  | item :: next :: items, inner, h, fuel + 1, depth, itemLimit, count, rest, hfuel => by
    rw [SpellsItems] at h
    obtain ⟨before, value, after, others, rfl, hbefore, hvalue, hafter, hothers⟩ := h
    have hcomma : utf8 (',' :: others) = 0x2C :: utf8 others := utf8_ascii (by decide) _
    simp only [utf8_append, hcomma, List.append_assoc, List.cons_append] at hfuel ⊢
    have hscan := scans_value item value hvalue fuel depth false none
      (utf8 after ++ 0x2C :: (utf8 others ++ 0x5D :: rest))
      (Delimited.blank hafter (delimited_cons _ (by decide))) (by simp at hfuel ⊢; omega)
    have hloop := scans_items (next :: items) others hothers fuel depth itemLimit (count + 1) rest
      (by simp at hfuel ⊢; omega)
    rw [arrayLoop, parseValue_blank hbefore]
    refine (scans_bounds itemLimit count (scans_bind hscan (Q := LoopWithin L itemLimit
      (count + 1 + (next :: items).length - 1) ∧ WithinItems L depth (next :: items)) ?_)).congr ?_
    · rw [consume_after hafter (by decide)]
      show Scans _ rest (arrayLoop L fuel depth itemLimit (count + 1) (skipWhitespace _))
      rw [arrayLoop_skip]
      exact hloop
    · have hlast : count + 1 + (next :: items).length - 1
          = count + (item :: next :: items).length - 1 := by
        simp only [List.length_cons]
        omega
      rw [hlast, WithinItems]
      constructor
      · rintro ⟨_, hitem, hlast, hrest⟩
        exact ⟨hlast, hitem, hrest⟩
      · rintro ⟨hlast, hitem, hrest⟩
        exact ⟨hlast.earlier (by simp only [List.length_cons]; omega), hitem, hlast, hrest⟩

/-- The members of an object, from the `count`-th on. -/
theorem scans_members : ∀ (members : List (List Nat × JsonTree)) (inner : List Char),
    SpellsMembers members inner → ∀ (fuel depth count : Nat) (rest : Bytes),
      2 * (utf8 inner ++ 0x7D :: rest).length + 1 < fuel →
      Scans (count + members.length - 1 ≤ L.maxCollectionItems ∧ WithinMembers L depth members) rest
        (objectLoop L fuel depth count (skipWhitespace (utf8 inner ++ 0x7D :: rest)))
  | [], inner, h, _, _, _, _, _ => by
    rw [SpellsMembers] at h
    exact h.elim
  | _ :: _, _, _, 0, _, _, _, hfuel => by omega
  | [(name, item)], inner, h, fuel + 1, depth, count, rest, hfuel => by
    rw [SpellsMembers] at h
    obtain ⟨before, body, colon, between, value, after, rfl, hbefore, hname, hcolon, hbetween,
      hvalue, hafter⟩ := h
    have hcolon' : ∀ l : List Char, utf8 (':' :: l) = 0x3A :: utf8 l := utf8_ascii (by decide)
    simp only [utf8_append, utf8_quoted, hcolon', List.append_assoc, List.cons_append] at hfuel ⊢
    have hscan := scans_value item value hvalue fuel depth
      (isPayloadMember L depth (capturedName name)) (allowedTypesLimit L (capturedName name))
      (utf8 after ++ 0x7D :: rest)
      (Delimited.blank hafter (delimited_cons rest (by decide))) (by simp at hfuel ⊢; omega)
    rw [consume_after hbefore (by decide), objectLoop]
    refine (scans_bind scans_require (scans_bind_ok (require_pos (by rfl))
      (scans_bind_ok (parseString_units hname _) (Q := Within L depth
        (isPayloadMember L depth (capturedName name)) (allowedTypesLimit L (capturedName name))
        item) ?_))).congr ?_
    · show Scans _ rest (expect (consumeIf 0x3A (skipWhitespace _)) _ >>= fun _ => _)
      rw [consume_after hcolon (by decide : isWhitespace 0x3A = false), name_scanOf]
      show Scans _ rest (parseValue L fuel depth _ _ (utf8 between ++ _) >>= fun _ => _)
      rw [parseValue_blank hbetween]
      refine (scans_bind hscan (Q := True) ?_).congr (by simp)
      rw [consume_after hafter (by decide)]
      exact scans_pure
    · simp [WithinMembers]
  | (name, item) :: next :: members, inner, h, fuel + 1, depth, count, rest, hfuel => by
    rw [SpellsMembers] at h
    obtain ⟨before, body, colon, between, value, after, others, rfl, hbefore, hname, hcolon,
      hbetween, hvalue, hafter, hothers⟩ := h
    have hcolon' : ∀ l : List Char, utf8 (':' :: l) = 0x3A :: utf8 l := utf8_ascii (by decide)
    have hcomma : ∀ l : List Char, utf8 (',' :: l) = 0x2C :: utf8 l := utf8_ascii (by decide)
    simp only [utf8_append, utf8_quoted, hcolon', hcomma, List.append_assoc, List.cons_append]
      at hfuel ⊢
    have hscan := scans_value item value hvalue fuel depth
      (isPayloadMember L depth (capturedName name)) (allowedTypesLimit L (capturedName name))
      (utf8 after ++ 0x2C :: (utf8 others ++ 0x7D :: rest))
      (Delimited.blank hafter (delimited_cons _ (by decide))) (by simp at hfuel ⊢; omega)
    have hloop := scans_members (next :: members) others hothers fuel depth (count + 1) rest
      (by simp at hfuel ⊢; omega)
    rw [consume_after hbefore (by decide), objectLoop]
    refine (scans_bind scans_require (scans_bind_ok (require_pos (by rfl))
      (scans_bind_ok (parseString_units hname _) (Q := Within L depth
        (isPayloadMember L depth (capturedName name)) (allowedTypesLimit L (capturedName name))
        item ∧ count + 1 + (next :: members).length - 1 ≤ L.maxCollectionItems
          ∧ WithinMembers L depth (next :: members)) ?_))).congr ?_
    · show Scans _ rest (expect (consumeIf 0x3A (skipWhitespace _)) _ >>= fun _ => _)
      rw [consume_after hcolon (by decide : isWhitespace 0x3A = false), name_scanOf]
      show Scans _ rest (parseValue L fuel depth _ _ (utf8 between ++ _) >>= fun _ => _)
      rw [parseValue_blank hbetween]
      refine scans_bind hscan ?_
      rw [consume_after hafter (by decide)]
      exact hloop
    · have hlast : count + 1 + (next :: members).length - 1
          = count + ((name, item) :: next :: members).length - 1 := by
        simp only [List.length_cons]
        omega
      rw [hlast, WithinMembers]
      constructor
      · rintro ⟨_, hitem, hlast, hrest⟩
        exact ⟨hlast, hitem, hrest⟩
      · rintro ⟨hlast, hitem, hrest⟩
        exact ⟨by simp only [List.length_cons] at hlast; omega, hitem, hlast, hrest⟩

end

/-- On a JSON text the preflight passes exactly when the tree is within the limits. -/
theorem preflight_text {chars : List Char} {tree : JsonTree} (h : JsonText chars tree) :
    preflightJsonStructure L (utf8 chars) = .ok () ↔ Within L 0 false none tree := by
  obtain ⟨before, value, after, rfl, hbefore, hvalue, hafter⟩ := h
  have hend : Delimited (utf8 after) := by
    have hempty : Delimited [] := by simp [Delimited]
    rw [← List.append_nil (utf8 after)]
    exact Delimited.blank hafter hempty
  have hscan := scans_value (L := L) tree value hvalue
    (2 * (utf8 (before ++ (value ++ after))).length + 1) 0 false none (utf8 after) hend
    (by simp only [utf8_append, List.length_append]; omega)
  have htrailing : skipWhitespace (utf8 after) = [] := by
    rw [← List.append_nil (utf8 after), skipWhitespace_blank hafter]
    rfl
  rw [preflightJsonStructure, parseValue_skip]
  have hbytes : utf8 (before ++ (value ++ after)) = utf8 before ++ (utf8 value ++ utf8 after) := by
    rw [utf8_append, utf8_append]
  have hparse : parseValue L (2 * (utf8 (before ++ (value ++ after))).length + 1) 0 false none
      (utf8 (before ++ (value ++ after)))
      = parseValue L (2 * (utf8 (before ++ (value ++ after))).length + 1) 0 false none
        (utf8 value ++ utf8 after) := by
    rw [hbytes, parseValue_blank hbefore]
  rw [hparse]
  have hrun : Scans (Within L 0 false none tree ∧ True) () (do
      let rest ← parseValue L (2 * (utf8 (before ++ (value ++ after))).length + 1) 0 false none
        (utf8 value ++ utf8 after)
      require (skipWhitespace rest = [])
        (PreflightError.invalid "JSON document has trailing content")) := by
    refine scans_bind hscan ?_
    rw [htrailing, require_pos rfl]
    exact scans_ok
  rw [hrun.ok_iff]
  simp

/-! ## What the limits bound -/

mutual

/-- A tree within the limits nests no deeper, and its collections are no longer. -/
theorem within_bounds : ∀ (tree : JsonTree) (depth : Nat) (payload : Bool) (itemLimit : Option Nat),
    Within L depth payload itemLimit tree →
      (tree.nesting = 0 ∨ depth + tree.nesting ≤ L.maxContainers)
        ∧ tree.EntriesWithin L.maxCollectionItems
  | .null, _, _, _, _ => by simp [JsonTree.nesting, JsonTree.EntriesWithin]
  | .bool _, _, _, _, _ => by simp [JsonTree.nesting, JsonTree.EntriesWithin]
  | .number _, _, _, _, _ => by simp [JsonTree.nesting, JsonTree.EntriesWithin]
  | .string _, _, _, _, _ => by simp [JsonTree.nesting, JsonTree.EntriesWithin]
  | .array items, depth, _, _, h => by
    rw [Within] at h
    obtain ⟨hdepth, hlength, _, hitems⟩ := h
    obtain ⟨hnesting, hentries⟩ := within_items_bounds items (depth + 1) hitems
    rw [JsonTree.nesting, JsonTree.EntriesWithin]
    exact ⟨by omega, hlength, hentries⟩
  | .object members, depth, _, _, h => by
    rw [Within] at h
    obtain ⟨hdepth, hlength, hmembers⟩ := h
    obtain ⟨hnesting, hentries⟩ := within_members_bounds members (depth + 1) hmembers
    rw [JsonTree.nesting, JsonTree.EntriesWithin]
    exact ⟨by omega, hlength, hentries⟩

theorem within_items_bounds : ∀ (items : List JsonTree) (depth : Nat), WithinItems L depth items →
    (itemsNesting items = 0 ∨ depth + itemsNesting items ≤ L.maxContainers)
      ∧ ItemsWithin L.maxCollectionItems items
  | [], _, _ => by simp [itemsNesting, ItemsWithin]
  | item :: items, depth, h => by
    rw [WithinItems] at h
    obtain ⟨hnesting, hentries⟩ := within_bounds item depth false none h.1
    obtain ⟨hothers, hrest⟩ := within_items_bounds items depth h.2
    rw [itemsNesting, ItemsWithin]
    exact ⟨by omega, hentries, hrest⟩

theorem within_members_bounds : ∀ (members : List (List Nat × JsonTree)) (depth : Nat),
    WithinMembers L depth members →
      (membersNesting members = 0 ∨ depth + membersNesting members ≤ L.maxContainers)
        ∧ MembersWithin L.maxCollectionItems members
  | [], _, _ => by simp [membersNesting, MembersWithin]
  | (name, item) :: members, depth, h => by
    rw [WithinMembers] at h
    obtain ⟨hnesting, hentries⟩ := within_bounds item depth _ _ h.1
    obtain ⟨hothers, hrest⟩ := within_members_bounds members depth h.2
    rw [membersNesting, MembersWithin]
    exact ⟨by omega, hentries, hrest⟩

end

/-- A document that the preflight accepts is bounded. -/
theorem preflight_bounds {chars : List Char} {tree : JsonTree} (h : JsonText chars tree)
    (haccepted : preflightJsonStructure L (utf8 chars) = .ok ()) :
    tree.nesting ≤ L.maxContainers ∧ tree.EntriesWithin L.maxCollectionItems := by
  obtain ⟨hnesting, hentries⟩ := within_bounds tree 0 false none ((preflight_text h).mp haccepted)
  exact ⟨by omega, hentries⟩

end ControlAssurance.Attestation
