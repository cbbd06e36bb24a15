import Mathlib.Data.List.Basic

/-!
# Values shared by every service

`Digest` is a canonical SHA-256 digest: the text `sha256:` followed by 64
lower-case hexadecimal digits is exactly a 256-bit value, and the text order
of two digests is their numeric order. `Time` is a UTC instant in whole
seconds since the Unix epoch, the only times the services accept
(`_utc_second`, `utc_second`).
-/

namespace ControlAssurance

abbrev Digest := BitVec 256

instance (priority := 2000) lawfulDigests : LawfulBEq Digest := inferInstance

abbrev Time := Int

/-- SQL `a < b` on nullable times: a comparison with `NULL` does not hold. -/
def sqlLt : Option Time → Option Time → Bool
  | some a, some b => decide (a < b)
  | _, _ => false

/-- SQL `a <= b` on nullable times. -/
def sqlLe : Option Time → Option Time → Bool
  | some a, some b => decide (a ≤ b)
  | _, _ => false

@[simp] theorem sqlLt_some {a b : Time} : sqlLt (some a) (some b) = true ↔ a < b := by
  simp [sqlLt]

@[simp] theorem sqlLe_some {a b : Time} : sqlLe (some a) (some b) = true ↔ a ≤ b := by
  simp [sqlLe]

theorem sqlLt_iff {a b : Option Time} :
    sqlLt a b = true ↔ ∃ x y, a = some x ∧ b = some y ∧ x < y := by
  cases a <;> cases b <;> simp [sqlLt]

end ControlAssurance
