import Mathlib.Data.List.Basic

/-!
# UTF-8

Encoding and strict decoding of a text, over the characters of core, and what the first byte of an
encoded character tells: an ASCII character is its own byte, and any other one starts with a byte
from which its width can be read.
-/

namespace ControlAssurance.Lib

def utf8 (text : List Char) : List UInt8 := text.flatMap String.utf8EncodeChar

/-- Strict decoding: `none` unless the bytes are the encoding of a text. -/
def decodeUtf8 (bytes : List UInt8) : Option (List Char) :=
  bytes.toByteArray.utf8Decode?.map Array.toList

@[simp] theorem utf8_nil : utf8 [] = [] := rfl

@[simp] theorem utf8_cons (c : Char) (text : List Char) :
    utf8 (c :: text) = String.utf8EncodeChar c ++ utf8 text := rfl

@[simp] theorem utf8_append (text text' : List Char) :
    utf8 (text ++ text') = utf8 text ++ utf8 text' := List.flatMap_append

theorem decodeUtf8_utf8 (text : List Char) : decodeUtf8 (utf8 text) = some text := by
  show (text.utf8Encode.utf8Decode?).map Array.toList = some text
  rw [List.utf8Decode?_utf8Encode]
  rfl

theorem decodeUtf8_eq_some {bytes : List UInt8} {text : List Char} :
    decodeUtf8 bytes = some text ↔ bytes = utf8 text := by
  constructor
  · intro h
    obtain ⟨chars, hchars, rfl⟩ := Option.map_eq_some_iff.mp h
    have hsome : bytes.toByteArray.utf8Decode?.isSome = true := by rw [hchars]; rfl
    have hencoded := ByteArray.utf8Encode_get_utf8Decode? (b := bytes.toByteArray) (h := hsome)
    have hget : bytes.toByteArray.utf8Decode?.get hsome = chars := by
      simp only [hchars, Option.get_some]
    rw [hget] at hencoded
    have hbytes : (utf8 chars.toList).toByteArray = bytes.toByteArray := hencoded
    exact (List.toByteArray_inj.mp hbytes).symm
  · rintro rfl
    exact decodeUtf8_utf8 text

/-- The number of bytes that the first byte of a longer character announces. -/
def announcedWidth (byte : UInt8) : Option Nat :=
  if byte &&& 0xE0 = 0xC0 then some 2
  else if byte &&& 0xF0 = 0xE0 then some 3
  else if byte &&& 0xF8 = 0xF0 then some 4
  else none

theorem encodeChar_ascii {c : Char} (h : c.toNat < 0x80) :
    String.utf8EncodeChar c = [UInt8.ofNat c.toNat] := by
  rw [String.utf8EncodeChar]
  exact if_pos (Nat.le_of_lt_succ h)

/-- A character beyond ASCII: its first byte is above ASCII and announces its width. -/
theorem encodeChar_wide {c : Char} (h : 0x80 ≤ c.toNat) :
    ∃ byte tail, String.utf8EncodeChar c = byte :: tail ∧ 0x80 ≤ byte
      ∧ announcedWidth byte = some (tail.length + 1) := by
  have htwo : ∀ x : Fin 32, 0x80 ≤ UInt8.ofNat (x.val + 0xC0)
      ∧ announcedWidth (UInt8.ofNat (x.val + 0xC0)) = some 2 := by decide
  have hthree : ∀ x : Fin 16, 0x80 ≤ UInt8.ofNat (x.val + 0xE0)
      ∧ announcedWidth (UInt8.ofNat (x.val + 0xE0)) = some 3 := by decide
  have hfour : ∀ x : Fin 8, 0x80 ≤ UInt8.ofNat (x.val + 0xF0)
      ∧ announcedWidth (UInt8.ofNat (x.val + 0xF0)) = some 4 := by decide
  have hlarge : ¬c.val.toNat ≤ 0x7f := by
    show ¬c.toNat ≤ 0x7f
    omega
  rw [String.utf8EncodeChar, if_neg hlarge]
  split
  · exact ⟨_, _, rfl, htwo ⟨_, Nat.mod_lt _ (by decide)⟩⟩
  · split
    · exact ⟨_, _, rfl, hthree ⟨_, Nat.mod_lt _ (by decide)⟩⟩
    · exact ⟨_, _, rfl, hfour ⟨_, Nat.mod_lt _ (by decide)⟩⟩

end ControlAssurance.Lib
