import ControlAssurance.Attestation.Preflight

/-!
# The preflight terminates

Each step of the scanner leaves no more bytes than it found, and a loop goes on only after a comma.
So the fuel of `preflightJsonStructure` is enough for any bytes, and no result is the model's own.
-/

namespace ControlAssurance.Attestation

open Lib

variable {α β : Type} {L : PreflightLimits}

/-- A scan that ends with a result or an error of the code, and leaves at most `bound` bytes. -/
def Finishes (size : α → Nat) (bound : Nat) (x : Except PreflightError α) : Prop :=
  x ≠ .error .exhausted ∧ ∀ a, x = .ok a → size a ≤ bound

variable {bound : Nat} {size : α → Nat} {message : String}
  {loop : Bytes → Except PreflightError Bytes}

theorem finishes_ok {a : α} (h : size a ≤ bound) :
    Finishes size bound (.ok a) := by
  refine ⟨fun heq => ?_, fun b hb => ?_⟩
  · cases heq
  · cases hb
    exact h

theorem finishes_invalid :
    Finishes size bound (.error (.invalid message)) := by
  refine ⟨fun heq => ?_, fun b hb => ?_⟩
  · cases heq
  · cases hb

theorem finishes_require {c : Prop} [Decidable c] {e : PreflightError} (he : e ≠ .exhausted)
    : Finishes (fun _ => 0) bound (require c e) := by
  refine ⟨fun heq => ?_, fun _ _ => Nat.zero_le _⟩
  rw [require_eq_error] at heq
  exact he heq.2

theorem finishes_bind (size : α → Nat) (bound : Nat) {size' : β → Nat} {bound' : Nat}
    {x : Except PreflightError α} {f : α → Except PreflightError β} (hx : Finishes size bound x)
    (hf : ∀ a, x = .ok a → size a ≤ bound → Finishes size' bound' (f a)) :
    Finishes size' bound' (x >>= f) := by
  cases hresult : x with
  | ok a =>
    rw [ok_bind]
    exact hf a hresult (hx.2 a hresult)
  | error e =>
    refine ⟨fun heq => hx.1 ?_, fun b hb => ?_⟩
    · cases heq
      exact hresult
    · cases hb

theorem finishes_expect {o : Option α}
    (h : ∀ a ∈ o, size a ≤ bound) : Finishes size bound (expect o (.invalid message)) := by
  cases o with
  | none => exact finishes_invalid
  | some a => exact finishes_ok (h a rfl)

theorem Finishes.mono {bound' : Nat} {x : Except PreflightError α}
    (h : Finishes size bound x) (hle : bound ≤ bound') : Finishes size bound' x :=
  ⟨h.1, fun a ha => Nat.le_trans (h.2 a ha) hle⟩

/-! ## What is left -/

theorem skipWhitespace_length (bytes : Bytes) : (skipWhitespace bytes).length ≤ bytes.length :=
  (List.dropWhile_suffix isWhitespace).length_le

theorem consumeIf_length {expected : UInt8} {bytes rest : Bytes}
    (h : consumeIf expected bytes = some rest) : rest.length + 1 = bytes.length := by
  cases bytes with
  | nil => cases h
  | cons byte bytes =>
    rw [consumeIf] at h
    split at h
    · obtain rfl := Option.some.inj h
      rfl
    · cases h

/-- Expecting a byte after blanks takes it. -/
theorem finishes_consume (expected : UInt8) (bytes : Bytes) (message : String)
    (hbound : bytes.length ≤ bound + 1) :
    Finishes List.length bound (expect (consumeIf expected (skipWhitespace bytes)) (.invalid message)) := by
  refine finishes_expect fun rest hrest => ?_
  have hconsumed := consumeIf_length hrest
  have hskipped := skipWhitespace_length bytes
  omega

/-! ## Strings -/

theorem finishes_escape (bytes : Bytes) :
    Finishes (fun r : Nat × Bytes => r.2.length) bytes.length (parseEscape bytes) := by
  cases bytes with
  | nil => exact finishes_invalid
  | cons escape rest =>
    rw [parseEscape]
    split
    · exact finishes_ok (Nat.le_succ _)
    · refine finishes_bind (fun _ => 0) 0 (finishes_require (by simp)) fun _ _ _ => ?_
      refine finishes_bind (fun _ => 0) 0 (finishes_require (by simp)) fun _ _ _ => ?_
      refine finishes_bind (fun _ => 0) 0 (finishes_expect fun _ _ => Nat.le_refl _)
        fun _ _ _ => ?_
      refine finishes_bind (fun _ => 0) 0 (finishes_require (by simp)) fun _ _ _ => ?_
      refine finishes_ok ?_
      rw [List.length_drop, List.length_cons]
      omega

theorem announcedWidth_pos {byte : UInt8} {width : Nat} (h : announcedWidth byte = some width) :
    0 < width := by
  unfold announcedWidth at h
  split at h
  · cases h
    decide
  · split at h
    · cases h
      decide
    · split at h
      · cases h
        decide
      · cases h

theorem finishes_character (byte : UInt8) (rest : Bytes) :
    Finishes (fun r : Nat × Bytes => r.2.length) rest.length (nextStringCharacter (byte :: rest)) := by
  rw [nextStringCharacter]
  split
  · exact finishes_invalid
  · split
    · exact finishes_escape rest
    · split
      · exact finishes_ok (Nat.le_refl _)
      · refine finishes_bind (fun _ => 0) 0
          (finishes_expect fun _ _ => Nat.le_refl _) fun width hwidth _ => ?_
        refine finishes_bind (fun _ => 0) 0 (finishes_require (by simp)) fun _ _ _ => ?_
        refine finishes_bind (fun _ => 0) 0 ?_ fun _ _ _ => ?_
        · rw [decodeCharacter]
          split
          · exact finishes_ok (Nat.le_refl _)
          · exact finishes_invalid
        · have hpositive := announcedWidth_pos (expect_eq_ok.mp hwidth)
          refine finishes_ok ?_
          rw [List.length_drop, List.length_cons]
          omega

/-- The loop of a string takes its closing quote at least. -/
theorem finishes_stringLoop (captureLimit : Nat) (retain : Bool) :
    ∀ (fuel : Nat) (scan : StringScan) (bytes : Bytes), bytes.length < fuel →
      Finishes (fun r : StringScan × Bytes => r.2.length) bytes.length
        (stringLoop captureLimit retain fuel scan bytes)
  | 0, _, _, hfuel => by omega
  | fuel + 1, scan, bytes, hfuel => by
    have hdropped := (List.dropWhile_suffix (l := bytes) fun byte => !isSpecial byte).length_le
    rw [stringLoop]
    split
    · exact finishes_invalid
    · rename_i byte rest hrest
      rw [hrest, List.length_cons] at hdropped
      split
      · exact finishes_ok (by show rest.length ≤ _; omega)
      · refine finishes_bind (fun r : Nat × Bytes => r.2.length) rest.length (finishes_character byte rest) fun r _ hr => ?_
        exact (finishes_stringLoop captureLimit retain fuel _ r.2 (by omega)).mono (by omega)

theorem finishes_string (captureLimit : Nat) (retain : Bool) (bytes : Bytes) :
    Finishes (fun r : StringScan × Bytes => r.2.length) bytes.length
      (parseString captureLimit retain bytes) := by
  refine finishes_bind List.length bytes.length
    (finishes_expect fun rest hrest => ?_) fun rest _ hrest => ?_
  · have hconsumed := consumeIf_length hrest
    omega
  · exact (finishes_stringLoop captureLimit retain _ _ rest (Nat.lt_succ_self _)).mono hrest

/-! ## Literals and numbers -/

theorem finishes_literal (bytes : Bytes) :
    Finishes List.length bytes.length (parseLiteral bytes) := by
  have hcut : ∀ literal : Bytes, Finishes List.length bytes.length
      (if bytes.take literal.length = literal then .ok (bytes.drop literal.length)
        else .error (.invalid "JSON literal is invalid")) := by
    intro literal
    split
    · exact finishes_ok ((List.drop_suffix _ bytes).length_le)
    · exact finishes_invalid
  exact hcut _

theorem dropDigits_length (bytes : Bytes) : (bytes.dropWhile isDigit).length ≤ bytes.length :=
  (List.dropWhile_suffix isDigit).length_le

theorem finishes_digits (bytes : Bytes) (missing : String) :
    Finishes List.length bytes.length (consumeDigits bytes missing) := by
  cases bytes with
  | nil => exact finishes_invalid
  | cons byte rest =>
    rw [consumeDigits]
    split
    · exact finishes_ok (Nat.le_trans (dropDigits_length rest) (Nat.le_succ _))
    · exact finishes_invalid

theorem finishes_integer (bytes : Bytes) :
    Finishes List.length bytes.length (parseInteger bytes) := by
  cases bytes with
  | nil => exact finishes_invalid
  | cons byte rest =>
    rw [parseInteger]
    split
    · exact finishes_ok (Nat.le_succ _)
    · split
      · exact finishes_ok (Nat.le_trans (dropDigits_length rest) (Nat.le_succ _))
      · exact finishes_invalid

theorem finishes_fraction (bytes : Bytes) :
    Finishes List.length bytes.length (parseFraction bytes) := by
  rw [parseFraction]
  split
  · rename_i rest hrest
    have hconsumed := consumeIf_length hrest
    exact (finishes_digits rest _).mono (by omega)
  · exact finishes_ok (Nat.le_refl _)

theorem finishes_exponent (bytes : Bytes) :
    Finishes List.length bytes.length (parseExponent bytes) := by
  cases bytes with
  | nil => exact finishes_ok (Nat.le_refl _)
  | cons byte rest =>
    rw [parseExponent]
    split
    · refine (finishes_digits _ _).mono ?_
      split
      · rw [List.length_tail, List.length_cons]
        omega
      · exact Nat.le_succ _
    · exact finishes_ok (Nat.le_refl _)

theorem finishes_number (bytes : Bytes) : Finishes List.length bytes.length (parseNumber bytes) := by
  refine finishes_bind List.length bytes.length ?_ fun a _ ha => ?_
  · rw [parseSign]
    split
    · rename_i rest hrest
      have hconsumed := consumeIf_length hrest
      refine finishes_bind (fun _ => 0) 0 (finishes_require (by simp)) fun _ _ _ => ?_
      exact finishes_ok (by omega)
    · exact finishes_ok (Nat.le_refl _)
  · refine finishes_bind List.length bytes.length ((finishes_integer a).mono ha) fun b _ hb => ?_
    refine finishes_bind List.length bytes.length ((finishes_fraction b).mono hb) fun c _ hc => ?_
    exact (finishes_exponent c).mono hc

/-! ## Values -/

/-- What the fuel of a value, an object loop and an array loop suffices for. -/
def FuelSuffices (L : PreflightLimits) (fuel : Nat) : Prop :=
  (∀ (depth : Nat) (payload : Bool) (itemLimit : Option Nat) (bytes : Bytes),
      2 * bytes.length < fuel →
      Finishes List.length bytes.length (parseValue L fuel depth payload itemLimit bytes))
    ∧ (∀ (depth count : Nat) (bytes : Bytes), 2 * bytes.length + 1 < fuel →
      Finishes List.length bytes.length (objectLoop L fuel depth count bytes))
    ∧ ∀ (depth : Nat) (itemLimit : Option Nat) (count : Nat) (bytes : Bytes),
      2 * bytes.length + 1 < fuel →
      Finishes List.length bytes.length (arrayLoop L fuel depth itemLimit count bytes)

/-- After an entry: the end of the container, or a comma and the loop again. -/
theorem finishes_after {close : UInt8} {bytes : Bytes} (hbound : bytes.length ≤ bound)
    (hloop : ∀ rest : Bytes, rest.length < bound → Finishes List.length rest.length (loop rest)) :
    Finishes List.length bound (match consumeIf close (skipWhitespace bytes) with
      | some rest => pure rest
      | none => do
        let rest ← expect (consumeIf 0x2C (skipWhitespace bytes)) (.invalid message)
        loop (skipWhitespace rest)) := by
  have hskipped := skipWhitespace_length bytes
  split
  · rename_i rest hrest
    have hconsumed := consumeIf_length hrest
    exact finishes_ok (by omega)
  · cases hcomma : consumeIf 0x2C (skipWhitespace bytes) with
    | none => exact finishes_invalid
    | some rest =>
      have hconsumed := consumeIf_length hcomma
      have hshorter := skipWhitespace_length rest
      exact (hloop (skipWhitespace rest) (by omega)).mono (by omega)

/-- Entering a container. -/
theorem finishes_container {close : UInt8} {depth : Nat} {rest : Bytes}
    (hloop : Finishes List.length (skipWhitespace rest).length (loop (skipWhitespace rest))) :
    Finishes List.length rest.length (do
      enterContainer L depth
      match consumeIf close (skipWhitespace rest) with
      | some rest => pure rest
      | none => loop (skipWhitespace rest)) := by
  have hskipped := skipWhitespace_length rest
  refine finishes_bind (fun _ => 0) 0 (finishes_require (by simp)) fun _ _ _ => ?_
  split
  · rename_i left hleft
    have hconsumed := consumeIf_length hleft
    exact finishes_ok (by omega)
  · exact hloop.mono hskipped

theorem finishes_payload (string : StringScan) :
    Finishes (fun _ => 0) 0 (checkDecodedPayloadLimit string) := by
  refine finishes_bind (fun _ => 0) 0 (finishes_require (by simp)) fun _ _ _ => ?_
  split
  · exact finishes_ok (Nat.le_refl _)
  · exact finishes_require (by simp)

/-- One unit of fuel more, from what is left of it after the first byte. -/
theorem fuelSuffices_succ {fuel : Nat} (ih : FuelSuffices L fuel) : FuelSuffices L (fuel + 1) := by
  obtain ⟨hvalue, hobject, harray⟩ := ih
  refine ⟨fun depth payload itemLimit bytes hfuel => ?_, fun depth count bytes hfuel => ?_,
    fun depth itemLimit count bytes hfuel => ?_⟩
  · have hskipped := skipWhitespace_length bytes
    rw [parseValue]
    split
    · exact finishes_invalid
    · rename_i byte rest hbytes
      rw [hbytes, List.length_cons] at hskipped
      have hrest := skipWhitespace_length rest
      split
      · exact (finishes_container (hobject (depth + 1) 1 _ (by omega))).mono (by omega)
      · split
        · exact (finishes_container (harray (depth + 1) itemLimit 1 _ (by omega))).mono (by omega)
        · split
          · refine finishes_bind (fun r : StringScan × Bytes => r.2.length) bytes.length
              ((finishes_string 0 payload (byte :: rest)).mono hskipped) fun r _ hr => ?_
            show Finishes List.length bytes.length (if payload = true then _ else pure r.2)
            split
            · refine finishes_bind (fun _ => 0) 0 (finishes_payload r.1) fun _ _ _ => ?_
              exact finishes_ok hr
            · exact finishes_ok hr
          · split
            · exact (finishes_literal (byte :: rest)).mono hskipped
            · split
              · exact (finishes_number (byte :: rest)).mono hskipped
              · exact finishes_invalid
  · rw [objectLoop]
    refine finishes_bind (fun _ => 0) 0 (finishes_require (by simp)) fun _ _ _ => ?_
    refine finishes_bind (fun _ => 0) 0 (finishes_require (by simp)) fun _ _ _ => ?_
    refine finishes_bind (fun r : StringScan × Bytes => r.2.length) bytes.length
      (finishes_string _ _ bytes) fun r _ hr => ?_
    refine finishes_bind List.length bytes.length
      (finishes_consume 0x3A r.2 _ (by show r.2.length ≤ _; omega)) fun rest _ hrest => ?_
    refine finishes_bind List.length bytes.length
      ((hvalue depth _ _ rest (by omega)).mono hrest) fun left _ hleft => ?_
    exact finishes_after hleft fun others hothers => hobject depth (count + 1) others (by omega)
  · rw [arrayLoop]
    refine finishes_bind (fun _ => 0) 0 (finishes_require (by simp)) fun _ _ _ => ?_
    refine finishes_bind (fun _ => 0) 0 (finishes_require (by simp)) fun _ _ _ => ?_
    refine finishes_bind List.length bytes.length (hvalue depth false none bytes (by omega))
      fun left _ hleft => ?_
    exact finishes_after hleft fun others hothers =>
      harray depth itemLimit (count + 1) others (by omega)

theorem fuelSuffices (L : PreflightLimits) : ∀ fuel, FuelSuffices L fuel
  | 0 => ⟨fun _ _ _ _ h => by omega, fun _ _ _ h => by omega, fun _ _ _ _ h => by omega⟩
  | fuel + 1 => fuelSuffices_succ (fuelSuffices L fuel)

/-- The preflight ends on any bytes with an answer of the code. -/
theorem preflight_terminates (L : PreflightLimits) (payload : Bytes) :
    preflightJsonStructure L payload ≠ .error .exhausted := by
  have hskipped := skipWhitespace_length payload
  have hfinishes : Finishes (fun _ => 0) 0 (preflightJsonStructure L payload) := by
    refine finishes_bind List.length payload.length (((fuelSuffices L _).1 0 false none _
      (by omega)).mono hskipped) fun _ _ _ => ?_
    exact finishes_require (by simp)
  exact hfinishes.1

end ControlAssurance.Attestation
