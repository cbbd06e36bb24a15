import ControlAssurance.Lib.Checked

/-!
# JSON limits and canonical JSON lines

The limits of the evidence formats, and `strict_jsonl_loads` on top of `strict_json_loads` and
`canonical_json_bytes`, which each part of the lab brings for its own JSON values.
-/

namespace ControlAssurance

open Lib

/-- `JSONLimits`, with its defaults. -/
structure JsonLimits where
  maxBytes : Nat := 16 * 1024 * 1024
  maxLineBytes : Nat := 2 * 1024 * 1024
  maxDepth : Nat := 64
  maxCollectionItems : Nat := 100000
  maxStringLength : Nat := 2 * 1024 * 1024
deriving DecidableEq

/-- `DEFAULT_JSON_LIMITS`. -/
def defaultJsonLimits : JsonLimits := {}

/-- What the line format asks of values of type `V`: how they are read and written, which are
records, and the text ids of these in their order. -/
structure LineCodec (V ρ ι : Type) where
  strictJsonLoads : JsonLimits → List UInt8 → Except String V
  canonicalJsonBytes : JsonLimits → V → Except String (List UInt8)
  record? : V → Option ρ
  identity? : ρ → Option ι
  le : ι → ι → Bool

/-- The bytes that `bytes.isspace` asks for. -/
def isSpaceByte (byte : UInt8) : Bool := [0x20, 0x09, 0x0A, 0x0D, 0x0B, 0x0C].contains byte

variable {V ρ ι : Type} [DecidableEq ι] (C : LineCodec V ρ ι) (limits : JsonLimits)

/-- The check of the ids on a line, after the one before. -/
def checkSorted (requireSortedIds : Bool) (lineNumber : Nat) (previous : Option ι) (record : ρ) :
    Except String (Option ι) :=
  if requireSortedIds then
    match C.identity? record with
    | some identity => do
      require (previous ≠ some identity) s!"duplicate JSONL id at line {lineNumber}"
      require (∀ id ∈ previous, C.le id identity = true) "JSONL records are not sorted by id"
      pure (some identity)
    | none => throw s!"JSONL line {lineNumber} requires a string id"
  else pure previous

/-- The record of one line. -/
def lineRecord (lineNumber : Nat) (line : List UInt8) : Except String ρ := do
  require (line ≠ []) s!"blank JSONL line at {lineNumber}"
  require (¬line.all isSpaceByte = true) s!"whitespace-only JSONL line at {lineNumber}"
  require (line.length ≤ limits.maxLineBytes) s!"JSONL line {lineNumber} exceeds the byte limit"
  let value ← C.strictJsonLoads limits line
  let record ← expect (C.record? value) s!"JSONL line {lineNumber} is not an object"
  let canonical ← C.canonicalJsonBytes limits value
  require (canonical = line) s!"JSONL line {lineNumber} is not canonical JSON"
  pure record

/-- The lines of `strict_jsonl_loads`, after `records` lines. -/
def jsonlLines (requireSortedIds : Bool) :
    Nat → Option ι → List (List UInt8) → Except String (List ρ)
  | _, _, [] => pure []
  | records, previous, line :: lines => do
    let record ← lineRecord C limits (records + 1) line
    require (records < limits.maxCollectionItems) "JSONL record count exceeds the configured limit"
    let identity ← checkSorted C requireSortedIds (records + 1) previous record
    let rest ← jsonlLines requireSortedIds (records + 1) identity lines
    pure (record :: rest)

/-- `strict_jsonl_loads`. -/
def strictJsonlLoads (requireSortedIds : Bool) (payload : List UInt8) : Except String (List ρ) := do
  require (payload.length ≤ limits.maxBytes) "JSONL payload exceeds the configured byte limit"
  require (0x0D ∉ payload) "canonical JSONL permits LF line endings only"
  require (payload = [] ∨ payload.getLast? = some 0x0A) "canonical JSONL requires one final LF"
  jsonlLines C limits requireSortedIds 0 none (payload.splitOn 0x0A).dropLast

variable {C limits}

/-- **Every record is the record of a value that was read and written back**, whatever lines stand
before it. -/
theorem jsonlLines_mem {requireSortedIds : Bool} {lines : List (List UInt8)} :
    ∀ {count : Nat} {previous : Option ι} {records : List ρ},
      jsonlLines C limits requireSortedIds count previous lines = .ok records →
      ∀ record ∈ records, ∃ line value, C.canonicalJsonBytes limits value = .ok line
        ∧ C.record? value = some record := by
  induction lines with
  | nil =>
    rintro count previous records h record hmem
    cases h
    cases hmem
  | cons line lines ih =>
    intro count previous records h record hmem
    simp only [jsonlLines, bind_eq_ok, require_eq_ok, pure_eq_ok, exists_and_left,
      exists_const] at h
    obtain ⟨first, hfirst, -, identity, -, rest, hrest, rfl⟩ := h
    rcases List.mem_cons.mp hmem with rfl | hmem
    · simp only [lineRecord, bind_eq_ok, require_eq_ok, expect_eq_ok, pure_eq_ok, exists_and_left,
        exists_const] at hfirst
      obtain ⟨-, -, -, value, -, r, hr, canonical, hcanonical, -, rfl⟩ := hfirst
      exact ⟨canonical, value, hcanonical, hr⟩
    · exact ih hrest record hmem

theorem strictJsonlLoads_mem {requireSortedIds : Bool} {payload : List UInt8} {records : List ρ}
    (h : strictJsonlLoads C limits requireSortedIds payload = .ok records) :
    ∀ record ∈ records, ∃ line value, C.canonicalJsonBytes limits value = .ok line
      ∧ C.record? value = some record := by
  simp only [strictJsonlLoads, bind_eq_ok, require_eq_ok, exists_and_left, exists_const] at h
  exact jsonlLines_mem h.2.2.2

end ControlAssurance
