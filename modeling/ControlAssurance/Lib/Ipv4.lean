import Mathlib.Data.Nat.Digits.Defs
import ControlAssurance.Lib.Checked

/-!
# IPv4 addresses and networks

Addresses as numbers, networks as an address with a prefix length, and their dotted texts, given by
code points. Only decimal prefixes are read; what has another text than its own is for a caller to
refuse.
-/

namespace ControlAssurance.Lib

/-- A decimal number of ASCII digits. -/
def decimalNumber (digits : List Nat) : Option Nat :=
  if digits ≠ [] ∧ ∀ digit ∈ digits, 0x30 ≤ digit ∧ digit ≤ 0x39 then
    some (digits.foldl (fun n digit => n * 10 + (digit - 0x30)) 0)
  else none

def decimalDigits (n : Nat) : List Nat := (Nat.toDigits 10 n).map Char.toNat

/-- A number up to 255 of at most three digits, without a leading zero. -/
def octet (digits : List Nat) : Option Nat :=
  if digits.length ≤ 3 ∧ (digits.length = 1 ∨ digits.head? ≠ some 0x30) then
    (decimalNumber digits).filter fun n => decide (n ≤ 255)
  else none

/-- The address of four octets between dots. -/
def parseAddress (source : List Nat) : Option Nat :=
  match (source.splitOn 0x2E).mapM octet with
  | some [a, b, c, d] => some (((a * 256 + b) * 256 + c) * 256 + d)
  | _ => none

def addressText (address : Nat) : List Nat :=
  decimalDigits (address / 2 ^ 24) ++ 0x2E :: decimalDigits (address / 2 ^ 16 % 256)
    ++ 0x2E :: decimalDigits (address / 2 ^ 8 % 256) ++ 0x2E :: decimalDigits (address % 256)

structure Ipv4Network where
  address : Nat
  prefixLength : Nat
deriving DecidableEq

namespace Ipv4Network

/-- An address without host bits, and the prefix length behind a slash. -/
def parse (source : List Nat) : Option Ipv4Network :=
  match source.splitOn 0x2F with
  | [address] => (parseAddress address).map fun n => ⟨n, 32⟩
  | [address, length] => do
    let n ← parseAddress address
    let p ← decimalNumber length
    if p ≤ 32 ∧ n % 2 ^ (32 - p) = 0 then some ⟨n, p⟩ else none
  | _ => none

def text (network : Ipv4Network) : List Nat :=
  addressText network.address ++ 0x2F :: decimalDigits network.prefixLength

/-- The last address. -/
def broadcast (network : Ipv4Network) : Nat := network.address + (2 ^ (32 - network.prefixLength) - 1)

def contains (network : Ipv4Network) (address : Nat) : Bool :=
  decide (address / 2 ^ (32 - network.prefixLength)
    = network.address / 2 ^ (32 - network.prefixLength))

def overlaps (left right : Ipv4Network) : Bool :=
  left.contains right.address || left.contains right.broadcast
    || right.contains left.address || right.contains left.broadcast

/-- The first and the last address are in a range. -/
def within (low high : Nat) (network : Ipv4Network) : Bool :=
  decide (low ≤ network.address ∧ network.broadcast ≤ high)

/-- The order of the addresses, then of the prefix lengths. -/
def le (left right : Ipv4Network) : Bool :=
  decide (left.address < right.address
    ∨ left.address = right.address ∧ left.prefixLength ≤ right.prefixLength)

end Ipv4Network

end ControlAssurance.Lib
