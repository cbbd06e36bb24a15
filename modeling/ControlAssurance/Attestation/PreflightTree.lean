import ControlAssurance.Attestation.PreflightScan

/-!
# The preflight along a tree

The scanner on the literals, numbers, containers and members of a text, by induction on the tree.
`Within` is the condition on the tree under which it passes.
-/

namespace ControlAssurance.Attestation

open Lib

variable {L : PreflightLimits}

/-! ## Numbers -/

/-- What may follow a number: nothing that would continue it. -/
def Delimited (rest : Bytes) : Prop :=
  ∀ byte ∈ rest.head?, isDigit byte = false ∧ byte ≠ 0x2E ∧ byte ≠ 0x65 ∧ byte ≠ 0x45

/-- The next byte is no digit. -/
def EndsDigits (rest : Bytes) : Prop := ∀ byte ∈ rest.head?, isDigit byte = false

theorem digit_byte {c : Char} (h : '0' ≤ c ∧ c ≤ '9') :
    c.toNat < 0x80 ∧ isDigit (UInt8.ofNat c.toNat) = true := by
  have hlow : '0'.toNat ≤ c.toNat := h.1
  have hhigh : c.toNat ≤ '9'.toNat := h.2
  have hlow' : 0x30 ≤ c.toNat := hlow
  have hhigh' : c.toNat ≤ 0x39 := hhigh
  have htable : ∀ n : Fin 0x80, 0x30 ≤ n.val → n.val ≤ 0x39 → isDigit (UInt8.ofNat n.val) = true := by
    decide
  exact ⟨by omega, htable ⟨c.toNat, by omega⟩ hlow' hhigh'⟩

variable {digits : List Char} {byte : UInt8} {itemLimit : Option Nat} {payload : Bool}
  {depth fuel : Nat}

theorem dropDigits (h : ∀ c ∈ digits, '0' ≤ c ∧ c ≤ '9') {rest : Bytes}
    (hrest : EndsDigits rest) : (utf8 digits ++ rest).dropWhile isDigit = rest := by
  induction digits with
  | nil =>
    cases rest with
    | nil => rfl
    | cons byte rest =>
      rw [utf8_nil, List.nil_append, List.dropWhile_cons, hrest byte rfl]
      rfl
  | cons c digits ih =>
    obtain ⟨hascii, hdigit⟩ := digit_byte (h c (List.mem_cons_self ..))
    rw [utf8_ascii hascii, List.cons_append, List.dropWhile_cons, hdigit]
    exact ih fun d hd => h d (List.mem_cons_of_mem _ hd)

theorem consumeDigits_digits (h : Digits digits) {rest : Bytes}
    (hrest : EndsDigits rest) (missing : String) :
    consumeDigits (utf8 digits ++ rest) missing = .ok rest := by
  obtain ⟨hne, hall⟩ := h
  cases digits with
  | nil => exact absurd rfl hne
  | cons c digits =>
    obtain ⟨hascii, hdigit⟩ := digit_byte (hall c (List.mem_cons_self ..))
    rw [utf8_ascii hascii, List.cons_append, consumeDigits, if_pos hdigit,
      dropDigits (fun d hd => hall d (List.mem_cons_of_mem _ hd)) hrest]

theorem parseInteger_integer {integer : List Char} (h : IsInteger integer) {rest : Bytes}
    (hrest : EndsDigits rest) : parseInteger (utf8 integer ++ rest) = .ok rest := by
  rcases h with rfl | ⟨c, digits, rfl, ⟨hlow, hhigh⟩, hdigits⟩
  · rw [utf8_ascii (by decide), List.cons_append, parseInteger, if_pos (by decide)]
    rfl
  · have hlow' : 0x31 ≤ c.toNat := hlow
    have hhigh' : c.toNat ≤ 0x39 := hhigh
    have htable : ∀ n : Fin 0x80, 0x31 ≤ n.val → n.val ≤ 0x39 → UInt8.ofNat n.val ≠ 0x30
        ∧ 0x31 ≤ UInt8.ofNat n.val ∧ UInt8.ofNat n.val ≤ 0x39 := by
      decide
    obtain ⟨hzero, hbounds⟩ := htable ⟨c.toNat, by omega⟩ hlow' hhigh'
    rw [utf8_ascii (by omega), List.cons_append, parseInteger, if_neg hzero, if_pos hbounds,
      dropDigits hdigits hrest]

/-- An exponent starts with a letter, so it ends digits and a fraction. -/
theorem exponent_ends {exponent : List Char} (h : IsExponent exponent) {rest : Bytes}
    (hrest : Delimited rest) :
    ∀ byte ∈ (utf8 exponent ++ rest).head?, isDigit byte = false ∧ byte ≠ 0x2E := by
  rcases h with rfl | ⟨e, sign, digits, rfl, he, _⟩
  · exact fun byte hbyte => ⟨(hrest byte hbyte).1, (hrest byte hbyte).2.1⟩
  · intro byte hbyte
    rcases he with rfl | rfl
    · rw [utf8_ascii (by decide)] at hbyte
      obtain rfl := Option.some.inj hbyte
      exact ⟨by decide, by decide⟩
    · rw [utf8_ascii (by decide)] at hbyte
      obtain rfl := Option.some.inj hbyte
      exact ⟨by decide, by decide⟩

theorem fraction_ends {fraction : List Char} (h : IsFraction fraction) {rest : Bytes}
    (hrest : EndsDigits rest) : EndsDigits (utf8 fraction ++ rest) := by
  rcases h with rfl | ⟨digits, rfl, _⟩
  · exact hrest
  · intro byte hbyte
    rw [utf8_ascii (by decide)] at hbyte
    obtain rfl := Option.some.inj hbyte
    decide

theorem parseFraction_fraction {fraction : List Char} (h : IsFraction fraction) {rest : Bytes}
    (hrest : ∀ byte ∈ rest.head?, isDigit byte = false ∧ byte ≠ 0x2E) :
    parseFraction (utf8 fraction ++ rest) = .ok rest := by
  rcases h with rfl | ⟨digits, rfl, hdigits⟩
  · have hnone : consumeIf 0x2E rest = none := by
      cases rest with
      | nil => rfl
      | cons byte rest => exact if_neg (hrest byte rfl).2
    rw [utf8_nil, List.nil_append, parseFraction, hnone]
  · rw [utf8_ascii (by decide), List.cons_append, parseFraction, consumeIf, if_pos (by decide)]
    exact consumeDigits_digits hdigits (fun byte hbyte => (hrest byte hbyte).1) _

theorem parseExponent_exponent {exponent : List Char} (h : IsExponent exponent) {rest : Bytes}
    (hrest : Delimited rest) : parseExponent (utf8 exponent ++ rest) = .ok rest := by
  have hends : EndsDigits rest := fun byte hbyte => (hrest byte hbyte).1
  rcases h with rfl | ⟨e, sign, digits, rfl, he, hsign, hdigits⟩
  · rw [utf8_nil, List.nil_append]
    cases rest with
    | nil => rfl
    | cons byte rest =>
      obtain ⟨_, _, hlower, hupper⟩ := hrest byte rfl
      rw [parseExponent, if_neg (not_or.mpr ⟨hlower, hupper⟩)]
  · have hascii : e.toNat < 0x80 := by
      rcases he with rfl | rfl <;> decide
    have hletter : UInt8.ofNat e.toNat = 0x65 ∨ UInt8.ofNat e.toNat = 0x45 := by
      rcases he with rfl | rfl
      · exact .inl rfl
      · exact .inr rfl
    -- the digits do not start with a sign
    have hplain : ∀ sign : UInt8, sign = 0x2B ∨ sign = 0x2D →
        (utf8 digits ++ rest).head? ≠ some sign := by
      obtain ⟨hne, hall⟩ := hdigits
      cases digits with
      | nil => exact absurd rfl hne
      | cons c digits =>
        obtain ⟨hascii', hdigit⟩ := digit_byte (hall c (List.mem_cons_self ..))
        rw [utf8_ascii hascii', List.cons_append]
        rintro sign hsign heq
        obtain rfl := Option.some.inj heq
        rcases hsign with hsign | hsign <;> rw [hsign] at hdigit <;> cases hdigit
    have hstrip : (if (utf8 (sign ++ digits) ++ rest).head? = some 0x2B
          ∨ (utf8 (sign ++ digits) ++ rest).head? = some 0x2D then
          (utf8 (sign ++ digits) ++ rest).tail else utf8 (sign ++ digits) ++ rest)
        = utf8 digits ++ rest := by
      rcases hsign with rfl | rfl | rfl
      · rw [List.nil_append, if_neg (not_or.mpr ⟨hplain _ (.inl rfl), hplain _ (.inr rfl)⟩)]
      · rw [List.singleton_append, utf8_ascii (by decide), if_pos (.inl (by rfl))]
        rfl
      · rw [List.singleton_append, utf8_ascii (by decide), if_pos (.inr (by rfl))]
        rfl
    rw [utf8_ascii hascii, List.cons_append, parseExponent, if_pos hletter, hstrip]
    exact consumeDigits_digits hdigits hends _

/-- An integer starts with a digit. -/
theorem integer_head {integer : List Char} (h : IsInteger integer) (rest : Bytes) :
    ∃ byte tail, utf8 integer ++ rest = byte :: tail ∧ isDigit byte = true := by
  rcases h with rfl | ⟨c, digits, rfl, ⟨hlow, hhigh⟩, _⟩
  · exact ⟨0x30, rest, rfl, by decide⟩
  · obtain ⟨hascii, hdigit⟩ := digit_byte ⟨Char.le_trans (by decide : '0' ≤ '1') hlow, hhigh⟩
    rw [utf8_ascii hascii]
    exact ⟨_, _, rfl, hdigit⟩

/-- A number of the grammar, and the byte it starts with. -/
theorem parseNumber_number {number : List Char} (h : IsNumber number) {rest : Bytes}
    (hrest : Delimited rest) : parseNumber (utf8 number ++ rest) = .ok rest
      ∧ ∃ byte tail, utf8 number ++ rest = byte :: tail ∧ (byte = 0x2D ∨ isDigit byte = true) := by
  obtain ⟨sign, integer, fraction, exponent, rfl, hsign, hinteger, hfraction, hexponent⟩ := h
  have hexpEnds := exponent_ends hexponent hrest
  have hfracEnds := fraction_ends hfraction fun byte hbyte => (hexpEnds byte hbyte).1
  obtain ⟨byte, tail, hbytes, hdigit⟩ :=
    integer_head hinteger (utf8 fraction ++ (utf8 exponent ++ rest))
  have hunsigned : (do
      let bytes ← parseInteger (utf8 integer ++ (utf8 fraction ++ (utf8 exponent ++ rest)))
      let bytes ← parseFraction bytes
      parseExponent bytes) = .ok rest := by
    rw [parseInteger_integer hinteger hfracEnds, ok_bind, parseFraction_fraction hfraction hexpEnds,
      ok_bind, parseExponent_exponent hexponent hrest]
  simp only [utf8_append, List.append_assoc]
  rcases hsign with rfl | rfl
  · have hminus : byte ≠ 0x2D := by
      rintro rfl
      cases hdigit
    refine ⟨?_, byte, tail, by rw [utf8_nil, List.nil_append, hbytes], .inr hdigit⟩
    have hsigned : parseSign (utf8 integer ++ (utf8 fraction ++ (utf8 exponent ++ rest)))
        = .ok (utf8 integer ++ (utf8 fraction ++ (utf8 exponent ++ rest))) := by
      rw [parseSign, hbytes, consumeIf, if_neg hminus]
    rw [utf8_nil, List.nil_append, parseNumber, hsigned, ok_bind, hunsigned]
  · refine ⟨?_, 0x2D, _, rfl, .inl rfl⟩
    have hsigned : parseSign (0x2D :: (utf8 integer ++ (utf8 fraction ++ (utf8 exponent ++ rest))))
        = .ok (utf8 integer ++ (utf8 fraction ++ (utf8 exponent ++ rest))) := by
      rw [parseSign, consumeIf, if_pos rfl]
      show (require _ _ >>= fun _ => _) = _
      rw [require_pos (by rw [hbytes]; simp), ok_bind]
      rfl
    show parseNumber (0x2D :: (utf8 integer ++ (utf8 fraction ++ (utf8 exponent ++ rest)))) = _
    rw [parseNumber, hsigned, ok_bind, hunsigned]

/-! ## The limits of a tree -/

/-- The name that the scanner captures. -/
def capturedName (units : Text) : Option Text :=
  if units.length ≤ memberCaptureLimit then some units else none

/-- A payload of the envelope is within its limits. -/
def PayloadWithin (units : Text) : Prop :=
  units.length ≤ maxEncodedPayloadLength
    ∧ (units.length % 4 = 0 → units.length / 4 * 3 - padding units ≤ maxDecodedPayloadBytes)

mutual

/-- A value within the limits, in `depth` containers; `payload` and `itemLimit` are the extra
limits of its member. -/
def Within (L : PreflightLimits) : Nat → Bool → Option Nat → JsonTree → Prop
  | depth, _, itemLimit, .array items => depth + 1 ≤ L.maxContainers
    ∧ items.length ≤ L.maxCollectionItems ∧ (∀ limit ∈ itemLimit, items.length ≤ limit)
    ∧ WithinItems L (depth + 1) items
  | depth, _, _, .object members => depth + 1 ≤ L.maxContainers
    ∧ members.length ≤ L.maxCollectionItems ∧ WithinMembers L (depth + 1) members
  | _, payload, _, .string units => payload = true → PayloadWithin units
  | _, _, _, _ => True

def WithinItems (L : PreflightLimits) : Nat → List JsonTree → Prop
  | _, [] => True
  | depth, item :: items => Within L depth false none item ∧ WithinItems L depth items

def WithinMembers (L : PreflightLimits) : Nat → List (List Nat × JsonTree) → Prop
  | _, [] => True
  | depth, (name, item) :: members =>
    Within L depth (isPayloadMember L depth (capturedName name))
        (allowedTypesLimit L (capturedName name)) item
      ∧ WithinMembers L depth members

end

/-! ## Payloads and literals -/

theorem getLast?_drop {l : Text} {n : Nat} (h : n < l.length) :
    (l.drop n).getLast? = l.getLast? := by
  rw [List.getLast?_drop, if_neg (not_le.mpr h)]

/-- The padding is in the last two characters. -/
theorem padding_lastTwo (units : Text) : padding (lastTwo units) = padding units := by
  have hlast : ∀ l : Text, (lastTwo l).getLast? = l.getLast? := by
    intro l
    rw [lastTwo]
    by_cases hempty : l = []
    · rw [hempty]
      rfl
    · exact getLast?_drop (by have := List.length_pos_of_ne_nil hempty; omega)
  have hbefore : (lastTwo units).dropLast.getLast? = units.dropLast.getLast? := by
    have hdrop : (lastTwo units).dropLast = units.dropLast.drop (units.length - 2) := by
      rw [lastTwo, List.dropLast_eq_take, List.dropLast_eq_take, List.length_drop, List.drop_take]
      congr 1
      omega
    rw [hdrop]
    by_cases hlong : units.length < 2
    · rw [Nat.sub_eq_zero_of_le (by omega), List.drop_zero]
    · exact getLast?_drop (by rw [List.length_dropLast]; omega)
  rw [padding, padding, hlast, hbefore]

theorem checkDecodedPayloadLimit_units (units : Text) :
    Scans (PayloadWithin units) () (checkDecodedPayloadLimit (scanOf 0 true units)) := by
  have hdecoded : Scans (units.length % 4 = 0 →
      units.length / 4 * 3 - padding units ≤ maxDecodedPayloadBytes) ()
      (if units.length % 4 ≠ 0 then pure () else do
        require (units.length / 4 * 3 - padding (lastTwo units) ≤ maxDecodedPayloadBytes)
          (.resource "decoded payload exceeds the profile limit")) := by
    by_cases hmultiple : units.length % 4 = 0
    · rw [if_neg (not_not.mpr hmultiple), padding_lastTwo]
      exact scans_require.congr ⟨fun h _ => h, fun h => h hmultiple⟩
    · rw [if_pos hmultiple]
      exact scans_ok.congr ⟨fun _ h => absurd h hmultiple, fun _ => trivial⟩
  exact scans_bind scans_require hdecoded

theorem name_scanOf (units : Text) :
    (scanOf memberCaptureLimit false units).name = capturedName units := by
  simp only [StringScan.name, scanOf, capturedName]
  split <;> rfl

/-! ## Values -/

theorem parseValue_skip (fuel depth : Nat) (payload : Bool) (itemLimit : Option Nat)
    (bytes : Bytes) :
    parseValue L fuel depth payload itemLimit (skipWhitespace bytes)
      = parseValue L fuel depth payload itemLimit bytes := by
  cases fuel with
  | zero => rw [parseValue, parseValue]
  | succ fuel => rw [parseValue, parseValue, skipWhitespace_idem]

theorem parseValue_blank {blank : List Char} (h : Blank blank) (fuel depth : Nat) (payload : Bool)
    (itemLimit : Option Nat) (bytes : Bytes) :
    parseValue L fuel depth payload itemLimit (utf8 blank ++ bytes)
      = parseValue L fuel depth payload itemLimit bytes := by
  rw [← parseValue_skip, skipWhitespace_blank h, parseValue_skip]

theorem arrayLoop_skip (fuel depth : Nat) (itemLimit : Option Nat) (count : Nat) (bytes : Bytes) :
    arrayLoop L fuel depth itemLimit count (skipWhitespace bytes)
      = arrayLoop L fuel depth itemLimit count bytes := by
  cases fuel with
  | zero => rw [arrayLoop, arrayLoop]
  | succ fuel =>
    rw [arrayLoop, arrayLoop]
    simp only [parseValue_skip]

theorem Delimited.blank {blank : List Char} (h : Blank blank) {rest : Bytes}
    (hrest : Delimited rest) : Delimited (utf8 blank ++ rest) := by
  cases blank with
  | nil => exact hrest
  | cons c blank =>
    intro byte hbyte
    rcases h c (List.mem_cons_self ..) with rfl | rfl | rfl | rfl
    all_goals
      rw [utf8_ascii (by decide)] at hbyte
      obtain rfl := Option.some.inj hbyte
      decide

/-- A value does not start with a blank or a closing bracket. -/
theorem value_head {tree : JsonTree} {value : List Char} (h : Spells tree value) :
    ∃ byte tail, utf8 value = byte :: tail ∧ isWhitespace byte = false ∧ byte ≠ 0x5D
      ∧ byte ≠ 0x7D := by
  cases tree with
  | null =>
    rw [Spells] at h
    subst h
    exact ⟨0x6E, _, rfl, by decide, by decide, by decide⟩
  | bool value =>
    cases value with
    | true =>
      rw [Spells] at h
      subst h
      exact ⟨0x74, _, rfl, by decide, by decide, by decide⟩
    | false =>
      rw [Spells] at h
      subst h
      exact ⟨0x66, _, rfl, by decide, by decide, by decide⟩
  | number digits =>
    rw [Spells] at h
    obtain ⟨rfl, hnumber⟩ := h
    have hend : Delimited [] := by simp [Delimited]
    obtain ⟨_, byte, tail, hbytes, hhead⟩ := parseNumber_number hnumber hend
    rw [List.append_nil] at hbytes
    have htable : ∀ n : Fin 256, (UInt8.ofNat n.val = 0x2D ∨ isDigit (UInt8.ofNat n.val) = true) →
        isWhitespace (UInt8.ofNat n.val) = false ∧ UInt8.ofNat n.val ≠ 0x5D
          ∧ UInt8.ofNat n.val ≠ 0x7D := by
      decide +kernel
    have hplain := htable ⟨byte.toNat, byte.toNat_lt⟩
    simp only [UInt8.ofNat_toNat] at hplain
    exact ⟨byte, tail, hbytes, hplain hhead⟩
  | string units =>
    rw [Spells] at h
    obtain ⟨body, rfl, _⟩ := h
    exact ⟨0x22, _, rfl, by decide, by decide, by decide⟩
  | array items =>
    have hbracket : ∃ inner, value = '[' :: inner := by
      cases items with
      | nil =>
        rw [Spells] at h
        obtain ⟨blank, rfl, _⟩ := h
        exact ⟨_, rfl⟩
      | cons item items =>
        rw [Spells] at h
        · obtain ⟨inner, rfl, _⟩ := h
          exact ⟨_, rfl⟩
        · exact List.cons_ne_nil _ _
    obtain ⟨inner, rfl⟩ := hbracket
    exact ⟨0x5B, _, rfl, by decide, by decide, by decide⟩
  | object members =>
    have hbrace : ∃ inner, value = '{' :: inner := by
      cases members with
      | nil =>
        rw [Spells] at h
        obtain ⟨blank, rfl, _⟩ := h
        exact ⟨_, rfl⟩
      | cons member members =>
        rw [Spells] at h
        · obtain ⟨inner, rfl, _⟩ := h
          exact ⟨_, rfl⟩
        · exact List.cons_ne_nil _ _
    obtain ⟨inner, rfl⟩ := hbrace
    exact ⟨0x7B, _, rfl, by decide, by decide, by decide⟩

/-- The first byte of a value is what `_parse_value` sees. -/
theorem parseValue_head (h : isWhitespace byte = false) (rest : Bytes) :
    parseValue L (fuel + 1) depth payload itemLimit (byte :: rest)
      = if byte = 0x7B then do
          enterContainer L (depth + 1)
          match consumeIf 0x7D (skipWhitespace rest) with
          | some rest => pure rest
          | none => objectLoop L fuel (depth + 1) 1 (skipWhitespace rest)
        else if byte = 0x5B then do
          enterContainer L (depth + 1)
          match consumeIf 0x5D (skipWhitespace rest) with
          | some rest => pure rest
          | none => arrayLoop L fuel (depth + 1) itemLimit 1 (skipWhitespace rest)
        else if byte = 0x22 then do
          let (string, rest) ← parseString 0 payload (byte :: rest)
          if payload then do
            checkDecodedPayloadLimit string
            pure rest
          else pure rest
        else if byte = 0x74 ∨ byte = 0x66 ∨ byte = 0x6E then parseLiteral (byte :: rest)
        else if byte = 0x2D ∨ isDigit byte then parseNumber (byte :: rest)
        else .error (.invalid "JSON value has invalid syntax") := by
  rewrite [parseValue, skipWhitespace_cons h]
  rfl

theorem scans_pure {a : Bytes} : Scans True a (pure a : Except PreflightError Bytes) := scans_ok

theorem scans_literal {literal rest : Bytes} (hliteral : parseLiteral (byte :: literal) = .ok rest)
    (hbyte : byte = 0x74 ∨ byte = 0x66 ∨ byte = 0x6E) :
    Scans True rest (parseValue L (fuel + 1) depth payload itemLimit (byte :: literal)) := by
  rcases hbyte with rfl | rfl | rfl
  all_goals
    rw [parseValue_head (by decide), if_neg (by decide), if_neg (by decide), if_neg (by decide),
      if_pos (by decide), hliteral]
    exact scans_ok

/-- A string is held to the payload limits. -/
theorem scans_string {body : List Char} {units : List Nat} (h : StringUnits body units)
    (rest : Bytes) :
    Scans (payload = true → PayloadWithin units) rest
      (parseValue L (fuel + 1) depth payload itemLimit (0x22 :: (utf8 body ++ 0x22 :: rest))) := by
  rw [parseValue_head (by decide), if_neg (by decide), if_neg (by decide), if_pos (by decide),
    parseString_units h rest, ok_bind]
  cases payload with
  | false =>
    show Scans _ rest (if false = true then _ else pure rest)
    exact scans_pure.congr ⟨fun _ hfalse => absurd hfalse (by decide), fun _ => trivial⟩
  | true =>
    show Scans _ rest (checkDecodedPayloadLimit (scanOf 0 true units) >>= fun _ => pure rest)
    exact (scans_bind (checkDecodedPayloadLimit_units units) scans_pure).congr
      ⟨fun hwithin _ => hwithin.1, fun hwithin => ⟨hwithin rfl, trivial⟩⟩

theorem scans_number (h : IsNumber digits) {rest : Bytes} (hrest : Delimited rest) :
    Scans True rest (parseValue L (fuel + 1) depth payload itemLimit (utf8 digits ++ rest)) := by
  obtain ⟨hnumber, byte, tail, hbytes, hhead⟩ := parseNumber_number h hrest
  have htable : ∀ n : Fin 256, (UInt8.ofNat n.val = 0x2D ∨ isDigit (UInt8.ofNat n.val) = true) →
      isWhitespace (UInt8.ofNat n.val) = false ∧ UInt8.ofNat n.val ≠ 0x7B
        ∧ UInt8.ofNat n.val ≠ 0x5B ∧ UInt8.ofNat n.val ≠ 0x22
        ∧ ¬(UInt8.ofNat n.val = 0x74 ∨ UInt8.ofNat n.val = 0x66 ∨ UInt8.ofNat n.val = 0x6E) := by
    decide +kernel
  have hplain := htable ⟨byte.toNat, byte.toNat_lt⟩
  simp only [UInt8.ofNat_toNat] at hplain
  obtain ⟨hblank, hbrace, hbracket, hquote, hliteral⟩ := hplain hhead
  rw [hbytes] at hnumber ⊢
  rw [parseValue_head hblank, if_neg hbrace, if_neg hbracket, if_neg hquote, if_neg hliteral,
    if_pos hhead, hnumber]
  exact scans_ok

/-! ## Containers -/

/-- The end of an item: the closing bracket, or the next item. -/
theorem consume_after {blank : List Char} (h : Blank blank)
    (hbyte : isWhitespace byte = false) (rest : Bytes) :
    skipWhitespace (utf8 blank ++ byte :: rest) = byte :: rest := by
  rw [skipWhitespace_blank h, skipWhitespace_cons hbyte]

/-- The bounds of a loop from its `count`-th entry on. -/
def LoopWithin (L : PreflightLimits) (itemLimit : Option Nat) (last : Nat) : Prop :=
  last ≤ L.maxCollectionItems ∧ ∀ limit ∈ itemLimit, last ≤ limit

theorem scans_bounds (itemLimit : Option Nat) (count : Nat) {Q : Prop} {rest : Bytes}
    {x : Except PreflightError Bytes} (hx : Scans Q rest x) :
    Scans (LoopWithin L itemLimit count ∧ Q) rest (do
      checkCollectionLimit L count
      require (∀ limit ∈ itemLimit, count ≤ limit)
        (.resource "allowed payload type count exceeds the profile limit")
      x) := by
  refine Scans.congr (P := count ≤ L.maxCollectionItems
    ∧ (∀ limit ∈ itemLimit, count ≤ limit) ∧ Q) ?_
    ⟨fun ⟨hmax, hlimit, hq⟩ => ⟨⟨hmax, hlimit⟩, hq⟩, fun ⟨⟨hmax, hlimit⟩, hq⟩ => ⟨hmax, hlimit, hq⟩⟩
  refine scans_bind scans_require ?_
  exact scans_bind scans_require hx

/-- A bound on the last entry bounds the ones before. -/
theorem LoopWithin.earlier {count last : Nat} (hle : count ≤ last)
    (h : LoopWithin L itemLimit last) : LoopWithin L itemLimit count :=
  ⟨le_trans hle h.1, fun limit hlimit => le_trans hle (h.2 limit hlimit)⟩

/-- Entering a container that has entries. -/
theorem scans_container {Q : Prop} {rest : Bytes} {x : Except PreflightError Bytes}
    (hx : Scans Q rest x) :
    Scans (depth ≤ L.maxContainers ∧ Q) rest (enterContainer L depth >>= fun _ => x) :=
  scans_bind scans_require hx

/-- The items of an array start with the first item, which does not close it. -/
theorem items_head {items : List JsonTree} {inner : List Char} (h : SpellsItems items inner)
    (rest : Bytes) : ∃ byte tail, skipWhitespace (utf8 inner ++ rest) = byte :: tail
      ∧ byte ≠ 0x5D := by
  have hfirst : ∃ before item value others, inner = before ++ (value ++ others) ∧ Blank before
      ∧ Spells item value := by
    match items, h with
    | [], h =>
      rw [SpellsItems] at h
      exact h.elim
    | [item], h =>
      rw [SpellsItems] at h
      obtain ⟨before, value, after, rfl, hbefore, hvalue, _⟩ := h
      exact ⟨before, item, value, after, rfl, hbefore, hvalue⟩
    | item :: next :: items, h =>
      rw [SpellsItems] at h
      obtain ⟨before, value, after, others, rfl, hbefore, hvalue, _⟩ := h
      exact ⟨before, item, value, after ++ ',' :: others, rfl, hbefore, hvalue⟩
  obtain ⟨before, item, value, others, rfl, hbefore, hvalue⟩ := hfirst
  obtain ⟨byte, tail, hbytes, hblank, hbracket, _⟩ := value_head hvalue
  refine ⟨byte, tail ++ (utf8 others ++ rest), ?_, hbracket⟩
  rw [utf8_append, utf8_append, List.append_assoc, List.append_assoc, skipWhitespace_blank hbefore,
    hbytes, List.cons_append, skipWhitespace_cons hblank]

/-- The members of an object start with a quote. -/
theorem members_head {members : List (List Nat × JsonTree)} {inner : List Char}
    (h : SpellsMembers members inner) (rest : Bytes) :
    ∃ tail, skipWhitespace (utf8 inner ++ rest) = 0x22 :: tail := by
  have hfirst : ∃ before others, inner = before ++ '"' :: others ∧ Blank before := by
    match members, h with
    | [], h =>
      rw [SpellsMembers] at h
      exact h.elim
    | [(name, item)], h =>
      rw [SpellsMembers] at h
      obtain ⟨before, body, colon, between, value, after, rfl, hbefore, _⟩ := h
      exact ⟨before, _, rfl, hbefore⟩
    | (name, item) :: next :: members, h =>
      rw [SpellsMembers] at h
      obtain ⟨before, body, colon, between, value, after, others, rfl, hbefore, _⟩ := h
      exact ⟨before, _, rfl, hbefore⟩
  obtain ⟨before, others, rfl, hbefore⟩ := hfirst
  have hquote : utf8 ('"' :: others) = 0x22 :: utf8 others := utf8_ascii (by decide) _
  refine ⟨utf8 others ++ rest, ?_⟩
  rw [utf8_append, hquote, List.append_assoc, List.cons_append, consume_after hbefore (by decide)]

end ControlAssurance.Attestation
