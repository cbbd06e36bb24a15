import ControlAssurance.Attestation.Preflight
import ControlAssurance.Lib.JsonGrammar
import Mathlib.Data.List.DropRight

/-!
# The preflight on a JSON text

On a text of the grammar the scanner follows the tree: it passes exactly when the tree is within
its limits, and otherwise raises a resource limit. `Scans` states both cases at once, so that the
proof about a value is put together from its parts.
-/

namespace ControlAssurance.Attestation

open Lib

/-! ## Results on a text -/

/-- A scan passes with a result when a condition holds, and meets a resource limit otherwise. -/
def Scans {α : Type} (condition : Prop) (result : α) (x : Except PreflightError α) : Prop :=
  (condition ∧ x = .ok result) ∨ (¬condition ∧ ∃ message, x = .error (.resource message))

variable {α β : Type} {P Q : Prop}

variable {a : α} {x : Except PreflightError α}

theorem scans_ok : Scans True a (.ok a) := .inl ⟨trivial, rfl⟩

theorem scans_require [Decidable P] {message : String} :
    Scans P () (require P (.resource message)) := by
  by_cases h : P
  · exact .inl ⟨h, require_pos h⟩
  · exact .inr ⟨h, message, require_neg h⟩

theorem scans_bind {b : β} {f : α → Except PreflightError β}
    (hx : Scans P a x) (hf : Scans Q b (f a)) : Scans (P ∧ Q) b (x >>= f) := by
  rcases hx with ⟨hp, rfl⟩ | ⟨hp, message, rfl⟩
  · rcases hf with ⟨hq, hfa⟩ | ⟨hq, message, hfa⟩
    · exact .inl ⟨⟨hp, hq⟩, by rw [ok_bind, hfa]⟩
    · exact .inr ⟨fun h => hq h.2, message, by rw [ok_bind, hfa]⟩
  · exact .inr ⟨fun h => hp h.1, message, rfl⟩

/-- A first part that always passes. -/
theorem scans_bind_ok {b : β}
    {f : α → Except PreflightError β} (hx : x = .ok a) (hf : Scans Q b (f a)) :
    Scans Q b (x >>= f) := by
  rw [hx, ok_bind]
  exact hf

theorem Scans.congr (h : Scans P a x) (hiff : P ↔ Q) :
    Scans Q a x := by
  rcases h with ⟨hp, hx⟩ | ⟨hp, hx⟩
  · exact .inl ⟨hiff.mp hp, hx⟩
  · exact .inr ⟨fun hq => hp (hiff.mpr hq), hx⟩

theorem Scans.ok_iff {b : α} (h : Scans P a x) :
    x = .ok b ↔ P ∧ a = b := by
  rcases h with ⟨hp, rfl⟩ | ⟨hp, message, rfl⟩
  · simp [hp]
  · simp [hp]

/-! ## Blanks -/

variable {c : Char} {byte : UInt8} {captureLimit digit fuel : Nat} {retain : Bool}

theorem utf8_ascii (h : c.toNat < 0x80) (rest : List Char) :
    utf8 (c :: rest) = UInt8.ofNat c.toNat :: utf8 rest := by
  rw [utf8_cons, encodeChar_ascii h]
  rfl

theorem skipWhitespace_cons (h : isWhitespace byte = false) (rest : Bytes) :
    skipWhitespace (byte :: rest) = byte :: rest := by
  rw [skipWhitespace, List.dropWhile_cons, h]
  rfl

theorem skipWhitespace_blank {blank : List Char} (h : Blank blank) (rest : Bytes) :
    skipWhitespace (utf8 blank ++ rest) = skipWhitespace rest := by
  induction blank with
  | nil => rfl
  | cons c blank ih =>
    have htail : Blank blank := fun d hd => h d (List.mem_cons_of_mem _ hd)
    have hhead : ∃ byte, String.utf8EncodeChar c = [byte] ∧ isWhitespace byte = true := by
      rcases h c (List.mem_cons_self ..) with rfl | rfl | rfl | rfl <;> exact ⟨_, rfl, by decide⟩
    obtain ⟨byte, hencoded, hblank⟩ := hhead
    rw [utf8_cons, hencoded, List.append_assoc, List.singleton_append, skipWhitespace,
      List.dropWhile_cons, hblank]
    exact ih htail

theorem skipWhitespace_idem (bytes : Bytes) :
    skipWhitespace (skipWhitespace bytes) = skipWhitespace bytes :=
  List.dropWhile_idempotent isWhitespace bytes

/-! ## Strings -/

/-- What the scanner holds after some characters. -/
def scanOf (captureLimit : Nat) (retain : Bool) (characters : Text) : StringScan where
  decodedLength := characters.length
  captured := if characters.length ≤ captureLimit then some characters else none
  finalCharacters := if retain then lastTwo characters else []

theorem lastTwo_append (characters more : Text) :
    lastTwo (lastTwo characters ++ lastTwo more) = lastTwo (characters ++ more) := by
  have hlength : ∀ l : Text, (lastTwo l).length = min l.length 2 := by
    intro l
    rw [lastTwo, List.length_drop]
    omega
  rw [lastTwo, List.length_append, hlength, hlength, lastTwo, lastTwo, lastTwo, List.length_append,
    List.drop_append, List.drop_append, List.drop_drop, List.drop_drop, List.length_drop]
  by_cases hmore : 2 ≤ more.length
  · rw [List.drop_eq_nil_of_le (by omega : characters.length ≤ _),
      List.drop_eq_nil_of_le (by omega : characters.length ≤ _), List.nil_append, List.nil_append]
    congr 1
    omega
  · congr 2 <;> omega

theorem scanOf_read (captureLimit : Nat) (retain : Bool) (characters more : Text) :
    (scanOf captureLimit retain characters).read captureLimit retain more
      = scanOf captureLimit retain (characters ++ more) := by
  have hcaptured : ((if characters.length ≤ captureLimit then some characters else none).bind
      fun held => if characters.length + more.length ≤ captureLimit then some (held ++ more)
        else none)
      = if characters.length + more.length ≤ captureLimit then some (characters ++ more)
        else none := by
    by_cases hlong : characters.length + more.length ≤ captureLimit
    · have hshort : characters.length ≤ captureLimit := by omega
      simp only [hshort, hlong, if_true, Option.bind_some]
    · simp only [hlong, if_false]
      split <;> rfl
  have hfinal : (if retain then lastTwo ((if retain then lastTwo characters else [])
      ++ lastTwo more) else []) = if retain then lastTwo (characters ++ more) else [] := by
    cases retain with
    | true => exact lastTwo_append characters more
    | false => rfl
  simp only [scanOf, StringScan.read, hfinal, List.length_append, StringScan.mk.injEq, true_and,
    and_true]
  exact hcaptured

theorem scanOf_segment (captureLimit : Nat) (retain : Bool) (characters : Text) (segment : Bytes) :
    (scanOf captureLimit retain characters).segment captureLimit retain segment
      = scanOf captureLimit retain (characters ++ segment.map (·.toNat)) := by
  rw [StringScan.segment]
  by_cases hsegment : segment = []
  · rw [if_pos hsegment, hsegment, List.map_nil, List.append_nil]
  · rw [if_neg hsegment, scanOf_read]

/-- An ordinary byte belongs to the segment it starts. -/
theorem stringLoop_ordinary (h : isSpecial byte = false) (characters : Text) (rest : Bytes) :
    stringLoop captureLimit retain (fuel + 1) (scanOf captureLimit retain characters) (byte :: rest)
      = stringLoop captureLimit retain (fuel + 1)
        (scanOf captureLimit retain (characters ++ [byte.toNat])) rest := by
  rw [stringLoop, stringLoop]
  simp only [List.takeWhile_cons, List.dropWhile_cons, h, Bool.not_false, if_true,
    List.map_cons, scanOf_segment, List.append_assoc, List.singleton_append]

/-- A special byte ends the segment at once. -/
theorem stringLoop_special
    (h : isSpecial byte = true) (hquote : byte ≠ 0x22) (scan : StringScan) (rest : Bytes) :
    stringLoop captureLimit retain (fuel + 1) scan (byte :: rest) = (do
      let (character, rest) ← nextStringCharacter (byte :: rest)
      stringLoop captureLimit retain fuel (scan.read captureLimit retain [character]) rest) := by
  rw [stringLoop]
  simp only [List.takeWhile_cons, List.dropWhile_cons, h, Bool.not_true, Bool.false_eq_true,
    if_false, hquote, StringScan.segment, if_true]

theorem stringLoop_quote (scan : StringScan) (rest : Bytes) :
    stringLoop captureLimit retain (fuel + 1) scan (0x22 :: rest) = .ok (scan, rest) := by
  have h : isSpecial 0x22 = true := by decide
  rw [stringLoop]
  simp only [List.takeWhile_cons, List.dropWhile_cons, h, Bool.not_true, Bool.false_eq_true,
    if_false, StringScan.segment, if_true]

/-- A digit of the grammar is the digit that Python reads. -/
theorem hexByte_of_hexDigit (h : hexDigit c = some digit) :
    c.toNat < 0x80 ∧ hexByte (UInt8.ofNat c.toNat) = some digit := by
  have hsmall : c.toNat < 0x80 := by
    by_contra hlarge
    have hnone : hexDigit c = none := by
      have hle : ∀ d : Char, d.toNat < 0x80 → ¬c ≤ d := by
        intro d hd hcd
        have hcd' : c.toNat ≤ d.toNat := hcd
        omega
      rw [hexDigit, if_neg fun h => hle '9' (by decide) h.2,
        if_neg fun h => hle 'f' (by decide) h.2, if_neg fun h => hle 'F' (by decide) h.2]
    rw [hnone] at h
    cases h
  have htable : ∀ n : Fin 0x80, hexByte (UInt8.ofNat n.val) = hexDigit (Char.ofNat n.val) := by
    decide
  have hchar := htable ⟨c.toNat, hsmall⟩
  rw [Char.ofNat_toNat] at hchar
  exact ⟨hsmall, hchar.trans h⟩

/-- A digit is no white space, sign, prefix mark or underscore, and is ASCII. -/
theorem hexByte_plain (h : hexByte byte = some digit) :
    isPythonSpace byte = false ∧ byte ≠ 0x2D ∧ byte ≠ 0x2B ∧ byte ≠ 0x78 ∧ byte ≠ 0x58
      ∧ byte ≠ 0x5F ∧ byte < 0x80 := by
  have htable : ∀ n : Fin 256, (hexByte (UInt8.ofNat n.val)).isSome = true →
      isPythonSpace (UInt8.ofNat n.val) = false ∧ UInt8.ofNat n.val ≠ 0x2D
        ∧ UInt8.ofNat n.val ≠ 0x2B ∧ UInt8.ofNat n.val ≠ 0x78 ∧ UInt8.ofNat n.val ≠ 0x58
        ∧ UInt8.ofNat n.val ≠ 0x5F ∧ UInt8.ofNat n.val < 0x80 := by
    decide +kernel
  have hbyte := htable ⟨byte.toNat, byte.toNat_lt⟩
  simp only [UInt8.ofNat_toNat, h, Option.isSome_some, forall_const] at hbyte
  exact hbyte

theorem hexDigits_cons {value : Nat} (h : hexByte byte = some digit)
    (rest : Bytes) : hexDigits value (byte :: rest) = hexDigits (value * 16 + digit) rest := by
  rw [hexDigits.eq_def]
  show (if byte = 0x5F then _ else _) = _
  rw [if_neg (hexByte_plain h).2.2.2.2.2.1, h]

/-- Four digits of the grammar are what `int(…, 16)` makes of them. -/
theorem pythonHex_digits {a b c d : UInt8} {w x y z : Nat} (ha : hexByte a = some w)
    (hb : hexByte b = some x) (hc : hexByte c = some y) (hd : hexByte d = some z) :
    pythonHex [a, b, c, d] = some (((((w * 16 + x) * 16 + y) * 16 + z : Nat)) : Int) := by
  have hascii : [a, b, c, d].all (· < 0x80) = true := by
    simp only [List.all_cons, List.all_nil, Bool.and_true, Bool.and_eq_true, decide_eq_true_eq]
    exact ⟨(hexByte_plain ha).2.2.2.2.2.2, (hexByte_plain hb).2.2.2.2.2.2,
      (hexByte_plain hc).2.2.2.2.2.2, (hexByte_plain hd).2.2.2.2.2.2⟩
  have hdigits : hexPrefixed [a, b, c, d] = some (((w * 16 + x) * 16 + y) * 16 + z) := by
    rw [hexPrefixed, if_neg fun h => h.2.elim (hexByte_plain hb).2.2.2.1 (hexByte_plain hb).2.2.2.2.1,
      hexFirst, ha, Option.bind_some, hexDigits_cons hb, hexDigits_cons hc, hexDigits_cons hd,
      hexDigits]
  obtain ⟨hspace, hminus, hplus, _⟩ := hexByte_plain ha
  rw [pythonHex, if_pos hascii, List.dropWhile_cons, hspace]
  show (if a = 0x2D then _ else if a = 0x2B then _ else _) = _
  rw [if_neg hminus, if_neg hplus, hdigits]
  rfl

/-- An escape of one character. -/
theorem simpleEscapes_of {code : Nat} (h : simpleEscape c = some code) :
    c.toNat < 0x80 ∧ simpleEscapes (UInt8.ofNat c.toNat) = some code := by
  unfold simpleEscape at h
  split at h <;> cases h <;> exact ⟨by decide, by decide⟩

/-- The scanner reads the units of a string, up to its closing quote. -/
theorem stringLoop_units {body : List Char} {units : List Nat}
    (h : StringUnits body units) (rest : Bytes) :
    ∀ (fuel : Nat) (characters : Text), (utf8 body ++ 0x22 :: rest).length < fuel →
      stringLoop captureLimit retain fuel (scanOf captureLimit retain characters)
          (utf8 body ++ 0x22 :: rest)
        = .ok (scanOf captureLimit retain (characters ++ units), rest) := by
  induction h with
  | nil =>
    intro fuel characters hfuel
    cases fuel with
    | zero => omega
    | succ fuel =>
      rw [List.append_nil]
      exact stringLoop_quote _ _
  | @plain c text units hcontrol hquote hbackslash _ ih =>
    intro fuel characters hfuel
    cases fuel with
    | zero => omega
    | succ fuel =>
      rw [utf8_cons, List.append_assoc, List.length_append] at hfuel
      rw [utf8_cons, List.append_assoc]
      by_cases hascii : c.toNat < 0x80
      · have hordinary : isSpecial (UInt8.ofNat c.toNat) = false := by
          have htable : ∀ n : Fin 0x80, 0x20 ≤ n.val → n.val ≠ 0x22 → n.val ≠ 0x5C →
              isSpecial (UInt8.ofNat n.val) = false := by decide
          refine htable ⟨c.toNat, hascii⟩ hcontrol (fun heq => hquote ?_) fun heq => hbackslash ?_
          · exact Char.toNat_inj.mp (heq : c.toNat = '"'.toNat)
          · exact Char.toNat_inj.mp (heq : c.toNat = '\\'.toNat)
        have hbyte : (UInt8.ofNat c.toNat).toNat = c.toNat := by
          rw [UInt8.toNat_ofNat', Nat.mod_eq_of_lt (by omega)]
        rw [encodeChar_ascii hascii] at hfuel ⊢
        rw [List.singleton_append, stringLoop_ordinary hordinary, hbyte]
        rw [ih (fuel + 1) (characters ++ [c.toNat]) (by simp at hfuel ⊢; omega), List.append_assoc,
          List.singleton_append]
      · -- a wider character is read as one, whatever follows it
        obtain ⟨byte, tail, hencoded, hwide, hwidth⟩ := encodeChar_wide (not_lt.mp hascii)
        have hspecial : isSpecial byte = true := by
          simp only [isSpecial, Bool.or_eq_true, decide_eq_true_eq]
          exact .inr hwide
        have hnot : ¬byte < 0x80 := UInt8.not_lt.mpr hwide
        have hquote' : byte ≠ 0x22 := by
          rintro rfl
          exact absurd hwide (by decide)
        have hslash' : byte ≠ 0x5C := by
          rintro rfl
          exact absurd hwide (by decide)
        have hlow : ¬byte < 0x20 := fun hlt => hnot (UInt8.lt_trans hlt (by decide))
        have htake : ((byte :: tail) ++ (utf8 text ++ 0x22 :: rest)).take (tail.length + 1)
            = byte :: tail := by
          rw [← List.length_cons (a := byte)]
          exact List.take_left
        have hdrop : ((byte :: tail) ++ (utf8 text ++ 0x22 :: rest)).drop (tail.length + 1)
            = utf8 text ++ 0x22 :: rest := by
          rw [← List.length_cons (a := byte)]
          exact List.drop_left
        have hdecoded : decodeUtf8 (byte :: tail) = some [c] := by
          rw [← hencoded, decodeUtf8_eq_some, utf8_cons, utf8_nil, List.append_nil]
        have hnext : nextStringCharacter ((byte :: tail) ++ (utf8 text ++ 0x22 :: rest))
            = .ok (c.toNat, utf8 text ++ 0x22 :: rest) := by
          rw [List.cons_append] at htake hdrop ⊢
          rw [nextStringCharacter, if_neg hlow, if_neg hslash', if_neg hnot, hwidth]
          show (require _ _ >>= fun _ => _) = _
          rw [htake, hdrop, require_pos (by rfl), ok_bind, decodeCharacter, hdecoded, ok_bind]
          rfl
        rw [hencoded] at hfuel ⊢
        rw [List.cons_append, stringLoop_special hspecial hquote', ← List.cons_append, hnext, ok_bind]
        show stringLoop _ _ _ _ _ = _
        rw [scanOf_read, ih fuel (characters ++ [c.toNat]) (by simp at hfuel ⊢; omega),
          List.append_assoc, List.singleton_append]
  | @escape c code text units hcode _ ih =>
    intro fuel characters hfuel
    obtain ⟨hascii, hescape⟩ := simpleEscapes_of hcode
    cases fuel with
    | zero => omega
    | succ fuel =>
      rw [utf8_ascii (by decide), utf8_ascii hascii] at hfuel ⊢
      rw [List.cons_append, List.cons_append] at hfuel ⊢
      have hnext : nextStringCharacter (UInt8.ofNat '\\'.toNat :: UInt8.ofNat c.toNat
          :: (utf8 text ++ 0x22 :: rest)) = .ok (code, utf8 text ++ 0x22 :: rest) := by
        rw [nextStringCharacter, if_neg (by decide), if_pos (by decide), parseEscape, hescape]
      rw [stringLoop_special (by decide) (by decide), hnext, ok_bind]
      show stringLoop _ _ _ _ _ = _
      rw [scanOf_read, ih fuel (characters ++ [code]) (by simp at hfuel ⊢; omega),
        List.append_assoc, List.singleton_append]
  | @unicode a b c d w x y z text units ha hb hc hd _ ih =>
    intro fuel characters hfuel
    obtain ⟨ha', ha⟩ := hexByte_of_hexDigit ha
    obtain ⟨hb', hb⟩ := hexByte_of_hexDigit hb
    obtain ⟨hc', hc⟩ := hexByte_of_hexDigit hc
    obtain ⟨hd', hd⟩ := hexByte_of_hexDigit hd
    cases fuel with
    | zero => omega
    | succ fuel =>
      rw [utf8_ascii (by decide), utf8_ascii (by decide), utf8_ascii ha', utf8_ascii hb',
        utf8_ascii hc', utf8_ascii hd'] at hfuel ⊢
      simp only [List.cons_append] at hfuel ⊢
      have hnext : nextStringCharacter (UInt8.ofNat '\\'.toNat :: UInt8.ofNat 'u'.toNat
          :: UInt8.ofNat a.toNat :: UInt8.ofNat b.toNat :: UInt8.ofNat c.toNat
          :: UInt8.ofNat d.toNat :: (utf8 text ++ 0x22 :: rest))
          = .ok (((w * 16 + x) * 16 + y) * 16 + z, utf8 text ++ 0x22 :: rest) := by
        rw [nextStringCharacter, if_neg (by decide), if_pos (by decide), parseEscape]
        show (require _ _ >>= fun _ => _) = _
        rw [require_pos (by decide), ok_bind, require_pos (by rfl), ok_bind]
        show (expect (pythonHex [_, _, _, _]) _ >>= fun _ => _) = _
        rw [pythonHex_digits ha hb hc hd, expect, ok_bind, require_pos (Int.natCast_nonneg _), ok_bind]
        rfl
      rw [stringLoop_special (by decide) (by decide), hnext, ok_bind]
      show stringLoop _ _ _ _ _ = _
      rw [scanOf_read, ih fuel (characters ++ [_]) (by simp at hfuel ⊢; omega),
        List.append_assoc, List.singleton_append]

/-- A string of the grammar, with its quotes. -/
theorem parseString_units {body : List Char}
    {units : List Nat} (h : StringUnits body units) (rest : Bytes) :
    parseString captureLimit retain (0x22 :: (utf8 body ++ 0x22 :: rest))
      = .ok (scanOf captureLimit retain units, rest) := by
  have hinitial : ({} : StringScan) = scanOf captureLimit retain [] := by
    cases retain <;> simp [scanOf, lastTwo]
  rw [parseString, consumeIf, if_pos rfl]
  show stringLoop _ _ _ _ _ = _
  rw [hinitial, stringLoop_units h rest _ [] (Nat.lt_succ_self _), List.nil_append]

end ControlAssurance.Attestation
