import ControlAssurance.Attestation.Policy
import ControlAssurance.Lib.Sorted

/-!
# RFC 8785

The canonical text of a document without floats, the form that `rfc8785.dump` is documented to
write, and the runtimes whose `dump` writes it. A policy's document passes `_validate_tree`, so its
canonical form exists exactly when it fits.
-/

namespace ControlAssurance.Attestation

open Lib

/-! ## The canonical text -/

/-- UTF-16 code units, by which names are ordered. -/
def utf16 (value : Text) : List Nat :=
  value.flatMap fun code =>
    if code < 0x10000 then [code]
    else [0xD800 + (code - 0x10000) / 0x400, 0xDC00 + (code - 0x10000) % 0x400]

/-- The digits of `\\u00xx`. -/
def hexCharacter (digit : Nat) : Nat :=
  if digit < 10 then '0'.toNat + digit else 'a'.toNat + (digit - 10)

/-- A character in a string: only control characters, the quote and the backslash are escaped. -/
def escapeCharacter (code : Nat) : Text :=
  if code = 0x22 then text "\\\""
  else if code = 0x5C then text "\\\\"
  else if code = 0x08 then text "\\b"
  else if code = 0x09 then text "\\t"
  else if code = 0x0A then text "\\n"
  else if code = 0x0C then text "\\f"
  else if code = 0x0D then text "\\r"
  else if code < 0x20 then text "\\u00" ++ [hexCharacter (code / 16), hexCharacter (code % 16)]
  else [code]

def quoted (value : Text) : Text := text "\"" ++ value.flatMap escapeCharacter ++ text "\""

/-- The decimal form of an integer. -/
def integerText (n : Int) : Text :=
  (if n < 0 then text "-" else []) ++ (Nat.toDigits 10 n.natAbs).map Char.toNat

/-- Texts separated by commas. -/
def commaSeparated (texts : List Text) : Text := List.flatten (texts.intersperse (text ","))

mutual

/-- The canonical text; a float has none here. -/
def rfc8785 : JsonValue → Text
  | .null => text "null"
  | .bool true => text "true"
  | .bool false => text "false"
  | .int n => integerText n
  | .float _ => []
  | .string value => quoted value
  | .list values => text "[" ++ commaSeparated (itemTexts values) ++ text "]"
  | .dict entries => text "\x7b" ++ commaSeparated (((memberTexts entries).mergeSort
      fun first second => textLe (utf16 first.1) (utf16 second.1)).map (·.2)) ++ text "\x7d"

def itemTexts : List JsonValue → List Text
  | [] => []
  | value :: values => rfc8785 value :: itemTexts values

/-- Each member under its name. -/
def memberTexts : Members → List (Text × Text)
  | [] => []
  | (name, value) :: entries =>
    (name, quoted name ++ text ":" ++ rfc8785 value) :: memberTexts entries

end

mutual

def JsonValue.FloatFree : JsonValue → Prop
  | .float _ => False
  | .list values => ItemsFloatFree values
  | .dict entries => MembersFloatFree entries
  | _ => True

def ItemsFloatFree : List JsonValue → Prop
  | [] => True
  | value :: values => value.FloatFree ∧ ItemsFloatFree values

def MembersFloatFree : Members → Prop
  | [] => True
  | (_, value) :: entries => value.FloatFree ∧ MembersFloatFree entries

end

/-- The bytes of a text. -/
def utf8Text (value : Text) : Bytes := utf8 (value.map Char.ofNat)

/-- `rfc8785.dump` writes the canonical text of what `_validate_tree` lets pass. -/
def CanonicalRuntime.DumpsCanonically (R : CanonicalRuntime) : Prop :=
  ∀ limits value, validateTree R.toJsonRuntime limits 0 value = .ok () → value.FloatFree →
    R.dump value = .ok (utf8Text (rfc8785 value))

/-! ## The order of texts -/

/-- Strings are totally ordered. By induction on the first of them. -/
theorem textLe_trans : ∀ a b c : Text, textLe a b = true → textLe b c = true → textLe a c = true
  | [], _, _, _, _ => rfl
  | x :: a, [], _, hab, _ => by cases hab
  | x :: a, y :: b, [], _, hbc => by cases hbc
  | x :: a, y :: b, z :: c, hab, hbc => by
    simp only [textLe, Bool.or_eq_true, Bool.and_eq_true, decide_eq_true_eq, beq_iff_eq]
      at hab hbc ⊢
    rcases hab with hxy | ⟨rfl, hab⟩
    · rcases hbc with hyz | ⟨rfl, _⟩
      · exact .inl (Nat.lt_trans hxy hyz)
      · exact .inl hxy
    · rcases hbc with hyz | ⟨rfl, hbc⟩
      · exact .inl hyz
      · exact .inr ⟨rfl, textLe_trans a b c hab hbc⟩

theorem textLe_total : ∀ a b : Text, textLe a b = true ∨ textLe b a = true
  | [], _ => .inl rfl
  | x :: a, [] => .inr rfl
  | x :: a, y :: b => by
    simp only [textLe, Bool.or_eq_true, Bool.and_eq_true, decide_eq_true_eq, beq_iff_eq]
    rcases Nat.lt_trichotomy x y with hlt | rfl | hgt
    · exact .inl (.inl hlt)
    · rcases textLe_total a b with h | h
      · exact .inl (.inr ⟨rfl, h⟩)
      · exact .inr (.inr ⟨rfl, h⟩)
    · exact .inr (.inl hgt)

theorem textLe_antisymm : ∀ a b : Text, textLe a b = true → textLe b a = true → a = b
  | [], [], _, _ => rfl
  | [], _ :: _, _, hba => by cases hba
  | _ :: _, [], hab, _ => by cases hab
  | x :: a, y :: b, hab, hba => by
    simp only [textLe, Bool.or_eq_true, Bool.and_eq_true, decide_eq_true_eq, beq_iff_eq] at hab hba
    rcases hab with hxy | ⟨rfl, hab⟩
    · rcases hba with hyx | ⟨rfl, _⟩
      · omega
      · omega
    · rcases hba with hxx | ⟨_, hba⟩
      · omega
      · rw [textLe_antisymm a b hab hba]

theorem text_order : TotalOrder textLe := ⟨textLe_trans, textLe_total, textLe_antisymm⟩

/-! ## Its length does not depend on an order -/

theorem utf8Text_append (value value' : Text) :
    utf8Text (value ++ value') = utf8Text value ++ utf8Text value' := by
  rw [utf8Text, List.map_append, utf8_append]
  rfl

theorem commaSeparated_length : ∀ texts : List Text,
    (utf8Text (commaSeparated texts)).length
      = (texts.map fun t => (utf8Text t).length).sum + (texts.length - 1)
  | [] => rfl
  | [t] => by simp [commaSeparated]
  | t :: t' :: texts => by
    have hrest := commaSeparated_length (t' :: texts)
    have hfirst : commaSeparated (t :: t' :: texts)
        = t ++ (text "," ++ commaSeparated (t' :: texts)) := by
      simp [commaSeparated]
    have hcomma : (utf8Text (text ",")).length = 1 := by decide
    rw [hfirst, utf8Text_append, utf8Text_append, List.length_append, List.length_append, hrest,
      hcomma]
    simp only [List.map_cons, List.sum_cons, List.length_cons]
    omega

theorem commaSeparated_perm {texts texts' : List Text} (h : texts.Perm texts') :
    (utf8Text (commaSeparated texts)).length = (utf8Text (commaSeparated texts')).length := by
  rw [commaSeparated_length, commaSeparated_length, h.length_eq]
  congr 1
  exact (h.map _).sum_nat

theorem itemTexts_map : ∀ values : List JsonValue, itemTexts values = values.map rfc8785
  | [] => by rw [itemTexts, List.map_nil]
  | value :: values => by rw [itemTexts, List.map_cons, itemTexts_map values]

/-- Reordering a list keeps the length of its canonical form. -/
theorem list_length {values values' : List JsonValue} (h : values.Perm values') :
    (utf8Text (rfc8785 (.list values))).length = (utf8Text (rfc8785 (.list values'))).length := by
  have htexts : (itemTexts values).Perm (itemTexts values') := by
    rw [itemTexts_map, itemTexts_map]
    exact h.map _
  simp only [rfc8785, utf8Text_append, List.length_append, commaSeparated_perm htexts]

/-- The length of a dictionary's canonical form, whatever the order of its names. -/
theorem dict_length (entries : Members) : (utf8Text (rfc8785 (.dict entries))).length
    = (((memberTexts entries).map fun entry => (utf8Text entry.2).length).sum
      + ((memberTexts entries).length - 1)) + 2 := by
  have hsorted : ((memberTexts entries).mergeSort fun first second =>
      textLe (utf16 first.1) (utf16 second.1)).Perm (memberTexts entries) :=
    List.mergeSort_perm _ _
  have hbraces : (utf8Text (text "\x7b")).length = 1 ∧ (utf8Text (text "\x7d")).length = 1 := by
    decide
  rw [rfc8785, utf8Text_append, utf8Text_append, List.length_append, List.length_append,
    commaSeparated_perm (hsorted.map _), commaSeparated_length, hbraces.1, hbraces.2, List.map_map,
    List.length_map]
  show 1 + (((memberTexts entries).map fun entry => (utf8Text entry.2).length).sum
    + ((memberTexts entries).length - 1)) + 1 = _
  omega

/-! ## The length as a number -/

mutual

/-- The length of the canonical form. -/
def canonicalLength : JsonValue → Nat
  | .null => 4
  | .bool true => 4
  | .bool false => 5
  | .int n => (utf8Text (integerText n)).length
  | .float _ => 0
  | .string value => (utf8Text (quoted value)).length
  | .list values => itemsLength values + (values.length - 1) + 2
  | .dict entries => membersLength entries + (entries.length - 1) + 2

def itemsLength : List JsonValue → Nat
  | [] => 0
  | value :: values => canonicalLength value + itemsLength values

def membersLength : Members → Nat
  | [] => 0
  | (name, value) :: entries =>
    (utf8Text (quoted name)).length + 1 + canonicalLength value + membersLength entries

end

theorem memberTexts_length : ∀ entries : Members, (memberTexts entries).length = entries.length
  | [] => by
    rw [memberTexts]
    rfl
  | (name, value) :: entries => by
    rw [memberTexts, List.length_cons, List.length_cons, memberTexts_length entries]

mutual

theorem canonicalLength_eq : ∀ value : JsonValue,
    (utf8Text (rfc8785 value)).length = canonicalLength value
  | .null => by
    rw [rfc8785, canonicalLength]
    decide
  | .bool true => by
    rw [rfc8785, canonicalLength]
    decide
  | .bool false => by
    rw [rfc8785, canonicalLength]
    decide
  | .int n => by rw [rfc8785, canonicalLength]
  | .float source => by
    rw [rfc8785, canonicalLength]
    rfl
  | .string value => by rw [rfc8785, canonicalLength]
  | .list values => by
    have hbrackets : (utf8Text (text "[")).length = 1 ∧ (utf8Text (text "]")).length = 1 := by decide
    rw [rfc8785, canonicalLength, utf8Text_append, utf8Text_append, List.length_append,
      List.length_append, commaSeparated_length, hbrackets.1, hbrackets.2, itemsLength_eq values,
      itemTexts_map, List.length_map]
    omega
  | .dict entries => by
    rw [dict_length, canonicalLength, membersLength_eq entries, memberTexts_length]

theorem itemsLength_eq : ∀ values : List JsonValue,
    ((itemTexts values).map fun t => (utf8Text t).length).sum = itemsLength values
  | [] => by
    rw [itemTexts, itemsLength]
    rfl
  | value :: values => by
    rw [itemTexts, itemsLength, List.map_cons, List.sum_cons, canonicalLength_eq value,
      itemsLength_eq values]

theorem membersLength_eq : ∀ entries : Members,
    ((memberTexts entries).map fun entry => (utf8Text entry.2).length).sum = membersLength entries
  | [] => by
    rw [memberTexts, membersLength]
    rfl
  | (name, value) :: entries => by
    have hcolon : (utf8Text (text ":")).length = 1 := by decide
    rw [memberTexts, membersLength, List.map_cons, List.sum_cons, membersLength_eq entries]
    show (utf8Text (quoted name ++ text ":" ++ rfc8785 value)).length + _ = _
    rw [utf8Text_append, utf8Text_append, List.length_append, List.length_append, hcolon,
      canonicalLength_eq value]

end

/-- A text of unescaped ASCII takes one byte a character. -/
theorem plain_length {value : Text}
    (h : ∀ code ∈ value, 0x20 ≤ code ∧ code < 0x80 ∧ code ≠ 0x22 ∧ code ≠ 0x5C) :
    (utf8Text (quoted value)).length = value.length + 2 := by
  have hquote : (utf8Text (text "\"")).length = 1 := by decide
  have hunescaped : value.flatMap escapeCharacter = value := by
    induction value with
    | nil => rfl
    | cons code value ih =>
      obtain ⟨hlow, -, hquotation, hbackslash⟩ := h code (List.mem_cons_self ..)
      have hone : escapeCharacter code = [code] := by
        unfold escapeCharacter
        rw [if_neg hquotation, if_neg hbackslash, if_neg (by omega), if_neg (by omega),
          if_neg (by omega), if_neg (by omega), if_neg (by omega), if_neg (by omega)]
      rw [List.flatMap_cons, hone, ih fun other hother => h other (List.mem_cons_of_mem _ hother)]
      rfl
  have htable : ∀ code < 0x80, (Char.ofNat code).toNat = code := by decide
  have hbytes : ∀ value : Text, (∀ code ∈ value, code < 0x80) →
      (utf8Text value).length = value.length := by
    intro value hascii
    induction value with
    | nil => rfl
    | cons code value ih =>
      have hcode : code < 0x80 := hascii code (List.mem_cons_self ..)
      have hchar : (Char.ofNat code).toNat = code := htable code hcode
      have hencoded := encodeChar_ascii (c := Char.ofNat code) (by omega)
      have hrest := ih fun other hother => hascii other (List.mem_cons_of_mem _ hother)
      unfold utf8Text at hrest ⊢
      rw [List.map_cons, utf8_cons, hencoded, List.length_append, hrest]
      show 1 + value.length = value.length + 1
      omega
  rw [quoted, hunescaped, utf8Text_append, utf8Text_append, List.length_append, List.length_append,
    hquote, hbytes value fun code hcode => (h code hcode).2.1]
  omega

/-! ## Documents that pass `_validate_tree` -/

section Valid

variable {J : JsonRuntime} {limits : JsonLimits}

theorem validateItems_ok {depth : Nat} : ∀ {items : List JsonValue},
    (∀ item ∈ items, validateTree J limits depth item = .ok ()) →
      validateItems J limits depth items = .ok ()
  | [], _ => rfl
  | item :: items, h => by
    rw [validateItems, h item (List.mem_cons_self ..), ok_bind]
    exact validateItems_ok fun other hother => h other (List.mem_cons_of_mem _ hother)

/-- A bounded ASCII text. -/
def Short (value : Text) : Prop :=
  value.length ≤ maxIdentityLength ∧ ∀ code ∈ value, code < 0x80

instance (value : Text) : Decidable (Short value) := inferInstanceAs (Decidable (_ ∧ _))

/-- Members under short names. -/
theorem validateMembers_ok {depth : Nat} : ∀ {entries : Members},
    (∀ entry ∈ entries, Short entry.1) →
    (∀ entry ∈ entries, validateTree J trustPolicyJsonLimits depth entry.2 = .ok ()) →
      validateMembers J trustPolicyJsonLimits depth entries = .ok ()
  | [], _, _ => rfl
  | (key, value) :: entries, hnames, hvalues => by
    obtain ⟨hlength, hascii⟩ := hnames (key, value) (List.mem_cons_self ..)
    have hlength' : key.length ≤ trustPolicyJsonLimits.maxStringLength := hlength
    have hplain : rejectSurrogates key = .ok () := by
      refine require_pos fun code hcode => ?_
      have hcode' : code < 0x80 := hascii code hcode
      omega
    rw [validateMembers, hplain, ok_bind, require_pos hlength', ok_bind,
      hvalues (key, value) (List.mem_cons_self ..), ok_bind]
    exact validateMembers_ok (fun other hother => hnames other (List.mem_cons_of_mem _ hother))
      fun other hother => hvalues other (List.mem_cons_of_mem _ hother)

theorem Short.valid {value : Text} (h : Short value) {depth : Nat} (hdepth : depth ≤ 5) :
    validateTree J trustPolicyJsonLimits depth (.string value) = .ok () := by
  have hdepth' : depth ≤ trustPolicyJsonLimits.maxDepth := hdepth
  have hlength : value.length ≤ trustPolicyJsonLimits.maxStringLength := h.1
  rw [validateTree, require_pos hdepth', ok_bind, require_pos hlength, ok_bind]
  refine require_pos fun code hcode => ?_
  have := h.2 code hcode
  omega

theorem VisibleAscii.short {maximum : Nat} {value : Text} (h : VisibleAscii maximum value)
    (hmaximum : maximum ≤ maxIdentityLength) : Short value := by
  obtain ⟨_, hlength, hvisible⟩ := h
  refine ⟨by omega, fun code hcode => ?_⟩
  have := (hvisible code hcode).2
  omega

theorem isAlphanumeric_ascii {code : Nat} (h : isAlphanumeric code = true) : code < 0x80 := by
  have hupper : 'Z'.toNat < 0x80 ∧ 'z'.toNat < 0x80 ∧ '9'.toNat < 0x80 := by decide
  simp only [isAlphanumeric, Bool.or_eq_true, Bool.and_eq_true, decide_eq_true_eq] at h
  omega

theorem KeyIdSafe.short {value : Text} (h : KeyIdSafe value) : Short value := by
  obtain ⟨hfirst, hlength, hrest⟩ := h
  have hbound : maxKeyIdLength ≤ maxIdentityLength := by decide
  refine ⟨by omega, fun code hcode => ?_⟩
  cases value with
  | nil => cases hcode
  | cons first rest =>
    rcases List.mem_cons.mp hcode with rfl | hcode
    · exact isAlphanumeric_ascii (by simpa using hfirst)
    · rcases hrest code hcode with hcode | hcode
      · exact isAlphanumeric_ascii hcode
      · have hmarks : ∀ code ∈ text "._:@/+~-", code < 0x80 := by decide
        exact hmarks code hcode

theorem PublicKeySafe.short {value : Text} (h : PublicKeySafe value) : Short value := by
  obtain ⟨hlength, hdecodes⟩ := h
  obtain ⟨decoded, hdecoded⟩ := isOk_iff.mp hdecodes
  obtain ⟨⟨_, hencoded⟩, _⟩ := canonicalBase64Decode_ok hdecoded
  have hbound : ed25519PublicKeyBase64Length ≤ maxIdentityLength := by decide
  refine ⟨by omega, fun code hcode => ?_⟩
  rw [← hencoded] at hcode
  exact b64encode_ascii decoded code hcode

theorem TimestampSafe.short {value : Text} (h : TimestampSafe value) : Short value := by
  obtain ⟨parsed, hparsed⟩ := isOk_iff.mp h
  simp only [parseCanonicalTimestamp, bind_eq_ok, require_eq_ok] at hparsed
  obtain ⟨_, ⟨hlength, hshape⟩, _⟩ := hparsed
  have hbound : timestampShape.length ≤ maxIdentityLength := by decide
  refine ⟨by omega, fun code hcode => ?_⟩
  obtain ⟨i, hi, rfl⟩ := List.getElem_of_mem hcode
  have hpair : (value[i], timestampShape[i]) ∈ value.zip timestampShape :=
    List.mem_iff_getElem.mpr ⟨i, by simp only [List.length_zip]; omega, List.getElem_zip⟩
  have hmark : ∀ mark ∈ timestampShape, mark < 0x80 := by decide
  have hcharacter := hshape _ hpair
  simp only at hcharacter
  split at hcharacter
  · have hnine : '9'.toNat < 0x80 := by decide
    simp only [isDecimalDigit, Bool.and_eq_true, decide_eq_true_eq] at hcharacter
    omega
  · rw [hcharacter]
    exact hmark _ (List.getElem_mem _)

theorem KeyStatus.short (status : KeyStatus) : Short status.value := by
  cases status <;> exact ⟨by decide, by decide⟩

theorem optionalValue_valid {value : Option Text} (h : ∀ t ∈ value, TimestampSafe t) :
    validateTree J trustPolicyJsonLimits 3 (optionalValue value) = .ok () := by
  cases value with
  | none => rfl
  | some t => exact (h t rfl).short.valid (by decide)

theorem TrustedKey.modelDump_valid (key : TrustedKey) :
    validateTree J trustPolicyJsonLimits 2 key.modelDump = .ok () := by
  obtain ⟨hfrom, huntil, hrevocation⟩ := key.timestampsCanonical
  obtain ⟨hfew, hvisible, _, _⟩ := key.payloadTypesExplicit
  have halgorithm : Short key.algorithm := by
    rw [key.algorithmSafe]
    exact ⟨by decide, by decide⟩
  have htypes : validateTree J trustPolicyJsonLimits 3
      (.list (key.allowedPayloadTypes.map .string)) = .ok () := by
    have hcount : (key.allowedPayloadTypes.map JsonValue.string).length
        ≤ trustPolicyJsonLimits.maxCollectionItems := by
      rw [List.length_map]
      exact Nat.le_trans hfew (by decide)
    rw [validateTree, require_pos (by decide), ok_bind, require_pos hcount, ok_bind]
    refine validateItems_ok fun item hitem => ?_
    obtain ⟨value, hvalue, rfl⟩ := List.mem_map.mp hitem
    exact ((hvisible value hvalue).short (by decide)).valid (by decide)
  rw [TrustedKey.modelDump, validateTree, require_pos (by decide), ok_bind,
    require_pos (Nat.le_of_ble_eq_true rfl), ok_bind]
  have hnames : ∀ name ∈ trustedKeyFields, Short name := by decide
  refine validateMembers_ok (fun entry hentry => hnames entry.1 ?_) fun entry hentry => ?_
  · rw [trustedKeyFields]
    simpa using List.mem_map_of_mem (f := (·.1)) hentry
  simp only [List.mem_cons, List.not_mem_nil, or_false] at hentry
  rcases hentry with rfl | rfl | rfl | rfl | rfl | rfl | rfl | rfl | rfl
  · exact key.keyIdSafe.short.valid (by decide)
  · exact (key.identitySafe.short (by decide)).valid (by decide)
  · exact halgorithm.valid (by decide)
  · exact key.publicKeySafe.short.valid (by decide)
  · exact htypes
  · exact hfrom.short.valid (by decide)
  · exact optionalValue_valid huntil
  · exact key.status.short.valid (by decide)
  · exact optionalValue_valid hrevocation

/-- The document of a policy passes, whatever the policy. -/
theorem TrustPolicy.modelDump_valid (policy : TrustPolicy) :
    validateTree J trustPolicyJsonLimits 0 policy.modelDump = .ok () := by
  have hmedia : Short policy.mediaType := by
    rw [policy.mediaTypeLiteral]
    exact ⟨by decide, by decide⟩
  have hschema : Short policy.schemaVersion := by
    rw [policy.schemaVersionLiteral]
    exact ⟨by decide, by decide⟩
  have hthreshold : validateTree J trustPolicyJsonLimits 1 (.int policy.threshold) = .ok () := by
    have hbounds := policy.thresholdBounds
    have hmaximum : maxTrustedKeys ≤ iJsonMaxInteger := by decide
    rw [validateTree, require_pos (by decide), ok_bind]
    exact require_pos (by omega)
  have hkeys : validateTree J trustPolicyJsonLimits 1
      (.list (policy.trustedKeys.map TrustedKey.modelDump)) = .ok () := by
    have hcount : (policy.trustedKeys.map TrustedKey.modelDump).length
        ≤ trustPolicyJsonLimits.maxCollectionItems := by
      rw [List.length_map]
      exact policy.keysBounded
    rw [validateTree, require_pos (by decide), ok_bind, require_pos hcount, ok_bind]
    refine validateItems_ok fun item hitem => ?_
    obtain ⟨key, _, rfl⟩ := List.mem_map.mp hitem
    exact key.modelDump_valid
  rw [TrustPolicy.modelDump, validateTree, require_pos (by decide), ok_bind,
    require_pos (Nat.le_of_ble_eq_true rfl), ok_bind]
  have hnames : ∀ name ∈ trustPolicyFields, Short name := by decide
  refine validateMembers_ok (fun entry hentry => hnames entry.1 ?_) fun entry hentry => ?_
  · rw [trustPolicyFields]
    simpa using List.mem_map_of_mem (f := (·.1)) hentry
  simp only [List.mem_cons, List.not_mem_nil, or_false] at hentry
  rcases hentry with rfl | rfl | rfl | rfl | rfl
  · exact hmedia.valid (by decide)
  · exact hschema.valid (by decide)
  · exact (policy.policyIdSafe.short (by decide)).valid (by decide)
  · exact hthreshold
  · exact hkeys

end Valid

/-! ## The canonical form of a policy -/

theorem itemsFloatFree_of : ∀ {values : List JsonValue}, (∀ value ∈ values, value.FloatFree) →
    ItemsFloatFree values
  | [], _ => by simp [ItemsFloatFree]
  | value :: values, h => by
    rw [ItemsFloatFree]
    exact ⟨h value (List.mem_cons_self ..),
      itemsFloatFree_of fun other hother => h other (List.mem_cons_of_mem _ hother)⟩

theorem TrustedKey.modelDump_floatFree (key : TrustedKey) : key.modelDump.FloatFree := by
  have htypes : ItemsFloatFree (key.allowedPayloadTypes.map .string) := by
    refine itemsFloatFree_of fun value hvalue => ?_
    obtain ⟨_, _, rfl⟩ := List.mem_map.mp hvalue
    simp [JsonValue.FloatFree]
  have hoptional : ∀ value : Option Text, (optionalValue value).FloatFree := by
    intro value
    cases value <;> simp [optionalValue, JsonValue.FloatFree]
  simp [TrustedKey.modelDump, JsonValue.FloatFree, MembersFloatFree, htypes, hoptional]

theorem TrustPolicy.modelDump_floatFree (policy : TrustPolicy) : policy.modelDump.FloatFree := by
  have hkeys : ItemsFloatFree (policy.trustedKeys.map TrustedKey.modelDump) := by
    refine itemsFloatFree_of fun value hvalue => ?_
    obtain ⟨key, _, rfl⟩ := List.mem_map.mp hvalue
    exact key.modelDump_floatFree
  simp [TrustPolicy.modelDump, JsonValue.FloatFree, MembersFloatFree, hkeys]

/-- The canonical form of a policy is within the limit of policies. -/
def TrustPolicy.Fits (policy : TrustPolicy) : Prop :=
  (utf8Text (rfc8785 policy.modelDump)).length ≤ maxTrustPolicyBytes

instance (policy : TrustPolicy) : Decidable policy.Fits := inferInstanceAs (Decidable (_ ≤ _))

theorem canonicalBytes_eq {R : CanonicalRuntime} (hR : R.DumpsCanonically) (policy : TrustPolicy) :
    policy.canonicalBytes R = (require policy.Fits "canonical JSON exceeds the configured byte limit"
      >>= fun _ => pure (utf8Text (rfc8785 policy.modelDump))) := by
  rw [TrustPolicy.canonicalBytes, canonicalJsonBytes, policy.modelDump_valid, ok_bind,
    hR _ _ (policy.modelDump_valid (J := R.toJsonRuntime)) policy.modelDump_floatFree, ok_bind]
  rfl

end ControlAssurance.Attestation
