import Mathlib.Data.List.Basic
import Mathlib.Tactic.Ring

/-!
# Fixed-width numbers on a byte wire

`struct.pack` of an unsigned number, most significant byte first, and what reads it back.
-/

namespace ControlAssurance.Lib

/-- The low `width` bytes of a number, most significant first. -/
def bigEndian : Nat → Nat → List UInt8
  | 0, _ => []
  | width + 1, n => UInt8.ofNat (n / 256 ^ width) :: bigEndian width n

/-- The number that bytes spell. -/
def bigEndianValue : List UInt8 → Nat
  | [] => 0
  | b :: bs => b.toNat * 256 ^ bs.length + bigEndianValue bs

@[simp] theorem bigEndian_length (width n : Nat) : (bigEndian width n).length = width := by
  induction width with
  | zero => rfl
  | succ width ih => rw [bigEndian, List.length_cons, ih]

/-- Reading back gives the number as far as the width holds it. -/
theorem bigEndianValue_bigEndian (width n : Nat) :
    bigEndianValue (bigEndian width n) = n % 256 ^ width := by
  induction width with
  | zero => rw [bigEndian, bigEndianValue, Nat.pow_zero, Nat.mod_one]
  | succ width ih =>
    have hbyte : (UInt8.ofNat (n / 256 ^ width)).toNat = n / 256 ^ width % 256 := by simp
    rw [bigEndian, bigEndianValue, ih, bigEndian_length, hbyte, pow_succ, Nat.mod_mul]
    ring

/-- Bytes cut off the front, when there are that many. -/
def cut (n : Nat) (bytes : List UInt8) : Option (List UInt8 × List UInt8) :=
  if n ≤ bytes.length then some (bytes.take n, bytes.drop n) else none

theorem cut_append {n : Nat} {front : List UInt8} (h : front.length = n) (rest : List UInt8) :
    cut n (front ++ rest) = some (front, rest) := by
  unfold cut
  rw [if_pos (by rw [List.length_append]; omega), List.take_left' h, List.drop_left' h]

/-- Reading a number off the front of the wire. -/
def readNumber (width : Nat) (bytes : List UInt8) : Option (Nat × List UInt8) :=
  (cut width bytes).map fun p => (bigEndianValue p.1, p.2)

theorem readNumber_bigEndian {width n : Nat} (h : n < 256 ^ width) (rest : List UInt8) :
    readNumber width (bigEndian width n ++ rest) = some (n, rest) := by
  unfold readNumber
  rw [cut_append (bigEndian_length width n), Option.map_some, bigEndianValue_bigEndian,
    Nat.mod_eq_of_lt h]

theorem bigEndianValue_lt : ∀ bytes : List UInt8, bigEndianValue bytes < 256 ^ bytes.length
  | [] => by decide
  | b :: bytes => by
    have hb : b.toNat + 1 ≤ 256 := b.toNat_lt
    have hrest := bigEndianValue_lt bytes
    have hmul := Nat.mul_le_mul_right (256 ^ bytes.length) hb
    rw [bigEndianValue, List.length_cons, Nat.pow_succ']
    rw [Nat.succ_mul] at hmul
    omega

/-- Bytes of one length spell different numbers. -/
theorem bigEndianValue_inj : ∀ {a b : List UInt8}, a.length = b.length →
    bigEndianValue a = bigEndianValue b → a = b
  | [], [], _, _ => rfl
  | x :: a, y :: b, hlength, h => by
    have hlength : a.length = b.length := Nat.succ.inj hlength
    have hpos : 0 < 256 ^ b.length := Nat.pow_pos (by decide)
    have ha := bigEndianValue_lt a
    rw [bigEndianValue, bigEndianValue, hlength] at h
    rw [hlength] at ha
    have hdiv := congrArg (· / 256 ^ b.length) h
    simp only [Nat.mul_comm _ (256 ^ b.length), Nat.mul_add_div hpos, Nat.div_eq_of_lt ha,
      Nat.div_eq_of_lt (bigEndianValue_lt b), Nat.add_zero] at hdiv
    rw [UInt8.toNat_inj.mp hdiv] at h ⊢
    rw [bigEndianValue_inj hlength (Nat.add_left_cancel h)]

theorem cut_eq_some {n : Nat} {bytes front rest : List UInt8}
    (h : cut n bytes = some (front, rest)) : front.length = n ∧ bytes = front ++ rest := by
  unfold cut at h
  split at h
  next hle =>
    cases h
    exact ⟨List.length_take_of_le hle, (List.take_append_drop n bytes).symm⟩
  next => cases h

theorem readNumber_eq_some {width n : Nat} {bytes rest : List UInt8}
    (h : readNumber width bytes = some (n, rest)) :
    n < 256 ^ width ∧ bytes = bigEndian width n ++ rest := by
  obtain ⟨⟨front, _⟩, hcut, heq⟩ := Option.map_eq_some_iff.mp h
  cases heq
  obtain ⟨rfl, rfl⟩ := cut_eq_some hcut
  have hlt := bigEndianValue_lt front
  have hvalue := bigEndianValue_bigEndian front.length (bigEndianValue front)
  rw [Nat.mod_eq_of_lt hlt] at hvalue
  rw [bigEndianValue_inj (bigEndian_length ..) hvalue]
  exact ⟨hlt, rfl⟩
/-- Two texts are the same up to their first separator, and behind it. -/
theorem split_separator {α : Type} {separator : α} : ∀ {a b x y : List α}, separator ∉ a →
    separator ∉ b → a ++ separator :: x = b ++ separator :: y → a = b ∧ x = y
  | [], [], _, _, _, _, h => ⟨rfl, (List.cons.inj h).2⟩
  | [], c :: b, _, _, _, hb, h => absurd (List.mem_cons.mpr (.inl (List.cons.inj h).1)) hb
  | c :: a, [], _, _, ha, _, h => absurd (List.mem_cons.mpr (.inl (List.cons.inj h).1.symm)) ha
  | c :: a, d :: b, _, _, ha, hb, h => by
    obtain ⟨rfl, hrest⟩ := List.cons.inj h
    obtain ⟨rfl, hxy⟩ := split_separator (fun hmem => ha (List.mem_cons_of_mem _ hmem))
      (fun hmem => hb (List.mem_cons_of_mem _ hmem)) hrest
    exact ⟨rfl, hxy⟩

end ControlAssurance.Lib
