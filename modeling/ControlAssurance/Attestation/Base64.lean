import ControlAssurance.Attestation.Preflight

/-!
# Canonical base64

RFC 4648 with the standard alphabet. `_canonical_base64_decode` decodes and encodes again, so that
only what `b64encode` writes passes; `canonical_length` reads the number of bytes off such a text.
-/

namespace ControlAssurance.Attestation

open Lib

/-- The alphabet. -/
def base64Character (sextet : Nat) : Nat :=
  if sextet < 26 then 'A'.toNat + sextet
  else if sextet < 52 then 'a'.toNat + (sextet - 26)
  else if sextet < 62 then '0'.toNat + (sextet - 52)
  else if sextet = 62 then '+'.toNat
  else '/'.toNat

/-- The alphabet, read back. -/
def base64Sextet (code : Nat) : Option Nat :=
  if 'A'.toNat ≤ code ∧ code ≤ 'Z'.toNat then some (code - 'A'.toNat)
  else if 'a'.toNat ≤ code ∧ code ≤ 'z'.toNat then some (code - 'a'.toNat + 26)
  else if '0'.toNat ≤ code ∧ code ≤ '9'.toNat then some (code - '0'.toNat + 52)
  else if code = '+'.toNat then some 62
  else if code = '/'.toNat then some 63
  else none

/-- `base64.b64encode`. -/
def b64encode : Bytes → Text
  | a :: b :: c :: rest =>
    base64Character (a.toNat / 4) :: base64Character (a.toNat % 4 * 16 + b.toNat / 16)
      :: base64Character (b.toNat % 16 * 4 + c.toNat / 64) :: base64Character (c.toNat % 64)
      :: b64encode rest
  | [a, b] => [base64Character (a.toNat / 4), base64Character (a.toNat % 4 * 16 + b.toNat / 16),
      base64Character (b.toNat % 16 * 4), '='.toNat]
  | [a] => [base64Character (a.toNat / 4), base64Character (a.toNat % 4 * 16), '='.toNat,
      '='.toNat]
  | [] => []

/-- `base64.b64decode(…, validate=True)`. -/
def b64decode : Text → Option Bytes
  | [] => some []
  | w :: x :: y :: z :: rest => do
    let first ← base64Sextet w
    let second ← base64Sextet x
    let head := UInt8.ofNat (first * 4 + second / 16)
    if rest = [] ∧ y = '='.toNat ∧ z = '='.toNat then pure [head]
    else do
      let third ← base64Sextet y
      let middle := UInt8.ofNat (second % 16 * 16 + third / 4)
      if rest = [] ∧ z = '='.toNat then pure [head, middle]
      else do
        let fourth ← base64Sextet z
        let decoded ← b64decode rest
        pure (head :: middle :: UInt8.ofNat (third % 4 * 64 + fourth) :: decoded)
  | _ => none

/-- `_canonical_base64_decode`. -/
def canonicalBase64Decode (value : Text) (maxEncodedLength : Nat) (expected : Option Nat) :
    Except String Bytes := do
  require (value.length ≤ maxEncodedLength) "base64 value exceeds the configured length limit"
  let decoded ← expect (b64decode value) "value is not canonical RFC 4648 base64"
  require (b64encode decoded = value) "value is not canonical RFC 4648 base64"
  require (∀ length ∈ expected, decoded.length = length) "decoded value has an unexpected length"
  pure decoded

/-- A text is the canonical base64 of some bytes, within a length. -/
structure IsBase64 (value : Text) (maxEncodedLength : Nat) (decoded : Bytes) : Prop where
  length : value.length ≤ maxEncodedLength
  encoded : b64encode decoded = value

theorem canonicalBase64Decode_ok {value : Text} {maxEncodedLength : Nat} {expected : Option Nat}
    {decoded : Bytes} (h : canonicalBase64Decode value maxEncodedLength expected = .ok decoded) :
    IsBase64 value maxEncodedLength decoded ∧ ∀ length ∈ expected, decoded.length = length := by
  simp only [canonicalBase64Decode, bind_eq_ok, require_eq_ok, expect_eq_ok, pure_eq_ok] at h
  obtain ⟨_, hlength, _, _, _, hencoded, _, hexpected, rfl⟩ := h
  exact ⟨⟨hlength, hencoded⟩, hexpected⟩

/-! ## Lengths -/

theorem base64Character_bounds {sextet : Nat} (h : sextet < 64) :
    base64Character sextet < 0x80 ∧ base64Character sextet ≠ '='.toNat := by
  have htable : ∀ n : Fin 64, base64Character n.val < 0x80
      ∧ base64Character n.val ≠ '='.toNat := by decide
  exact htable ⟨sextet, h⟩

theorem byte_sextets (a : UInt8) :
    a.toNat / 4 < 64 ∧ a.toNat % 4 * 16 < 64 ∧ a.toNat % 16 * 4 < 64 := by
  have := a.toNat_lt
  omega

theorem b64encode_nil {decoded : Bytes} (h : b64encode decoded = []) : decoded = [] := by
  match decoded, h with
  | [], _ => rfl
  | [a], h => cases h
  | [a, b], h => cases h
  | a :: b :: c :: rest, h => cases h

theorem padding_cons {code : Nat} {rest : Text} (h : 2 ≤ rest.length) :
    padding (code :: rest) = padding rest := by
  match rest, h with
  | x :: y :: tail, _ =>
    simp only [padding, List.getLast?_cons_cons, List.dropLast_cons_cons]

/-- Canonical base64 is in groups of four, and its padding tells the number of bytes. -/
theorem canonical_length : ∀ decoded : Bytes, (b64encode decoded).length % 4 = 0
    ∧ (b64encode decoded).length / 4 * 3 - padding (b64encode decoded) = decoded.length
    ∧ padding (b64encode decoded) ≤ (b64encode decoded).length / 4 * 3
  | [] => by decide
  | [a] => by
    have hpadding : padding (b64encode [a]) = 2 := by
      rw [b64encode, padding_cons (by simp)]
      simp [padding]
    rw [hpadding]
    simp [b64encode]
  | [a, b] => by
    have hlast : base64Character (b.toNat % 16 * 4) ≠ '='.toNat :=
      (base64Character_bounds (byte_sextets b).2.2).2
    have hpadding : padding (b64encode [a, b]) = 1 := by
      rw [b64encode, padding_cons (by simp), padding]
      simp only [List.getLast?_cons_cons, List.getLast?_singleton, List.dropLast_cons_cons,
        List.dropLast_singleton]
      rw [if_pos trivial, if_neg fun heq => hlast (Option.some.inj heq)]
    rw [hpadding]
    simp [b64encode]
  | a :: b :: c :: rest => by
    obtain ⟨hgroups, hlength, hpadding⟩ := canonical_length rest
    have hgrouped : padding (b64encode (a :: b :: c :: rest)) = padding (b64encode rest) := by
      by_cases hrest : rest = []
      · subst hrest
        have hlast : base64Character (c.toNat % 64) ≠ '='.toNat :=
          (base64Character_bounds (Nat.mod_lt _ (by decide))).2
        rw [b64encode, b64encode, padding]
        simp only [List.getLast?_cons_cons, List.getLast?_singleton]
        rw [if_neg fun heq => hlast (Option.some.inj heq)]
        rfl
      · have hlong : 2 ≤ (b64encode rest).length := by
          have hne : b64encode rest ≠ [] := fun heq => hrest (b64encode_nil heq)
          have := List.length_pos_of_ne_nil hne
          omega
        rw [b64encode, padding_cons (by simp only [List.length_cons]; omega),
          padding_cons (by simp only [List.length_cons]; omega),
          padding_cons (by simp only [List.length_cons]; omega), padding_cons hlong]
    rw [hgrouped]
    simp only [b64encode, List.length_cons]
    omega

/-- Canonical base64 is ASCII. -/
theorem b64encode_ascii : ∀ (decoded : Bytes), ∀ code ∈ b64encode decoded, code < 0x80
  | [], code, h => by cases h
  | [a], code, h => by
    have hlow := byte_sextets a
    simp only [b64encode, List.mem_cons, List.not_mem_nil, or_false] at h
    rcases h with rfl | rfl | rfl | rfl
    · exact (base64Character_bounds hlow.1).1
    · exact (base64Character_bounds hlow.2.1).1
    · decide
    · decide
  | [a, b], code, h => by
    have hlow := byte_sextets a
    have hhigh := byte_sextets b
    have hb := b.toNat_lt
    simp only [b64encode, List.mem_cons, List.not_mem_nil, or_false] at h
    rcases h with rfl | rfl | rfl | rfl
    · exact (base64Character_bounds hlow.1).1
    · exact (base64Character_bounds (by omega)).1
    · exact (base64Character_bounds hhigh.2.2).1
    · decide
  | a :: b :: c :: rest, code, h => by
    have ha := a.toNat_lt
    have hb := b.toNat_lt
    have hc := c.toNat_lt
    simp only [b64encode, List.mem_cons] at h
    rcases h with rfl | rfl | rfl | rfl | h
    · exact (base64Character_bounds (by omega)).1
    · exact (base64Character_bounds (by omega)).1
    · exact (base64Character_bounds (by omega)).1
    · exact (base64Character_bounds (by omega)).1
    · exact b64encode_ascii rest code h

end ControlAssurance.Attestation
