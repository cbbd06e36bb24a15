import ControlAssurance.Cab.Snapshot
import ControlAssurance.JsonLines

/-!
# Strict JSON and canonical JSON lines

The JSON values of the evidence formats, and the line format on top of the two functions for one
value: `strict_json_loads`, which parses within limits and without duplicate keys, and
`canonical_json_bytes`, the RFC 8785 form. Both are parameters here.
-/

namespace ControlAssurance.Cab

open Lib

/-- A JSON value. Finite binary64 numbers that are not integers in the source stay opaque. -/
inductive Json (ν : Type) where
  | null
  | bool (value : Bool)
  | int (value : Int)
  | float (value : ν)
  | str (value : String)
  | array (items : List (Json ν))
  | object (members : List (String × Json ν))

/-- `object.get(key)`, of the members of an object in the order they were read. -/
def member {ν : Type} (members : List (String × Json ν)) (key : String) : Option (Json ν) :=
  (members.find? fun m => decide (m.1 = key)).map Prod.snd

/-- The functions for one JSON value, under the limits given. -/
structure JsonCodec (ν : Type) where
  strictJsonLoads : JsonLimits → Bytes → Except String (Json ν)
  canonicalJsonBytes : JsonLimits → Json ν → Except String Bytes

section

variable {ν : Type} (J : JsonCodec ν)

/-- The text id of a record. -/
def Json.identity? : Json ν → Option String
  | .object members =>
    match member members "id" with
    | some (.str identity) => some identity
    | _ => none
  | _ => none

/-- A record with its sort key, `_record_id`. -/
def keyedRecord (record : Json ν) : Except String (String × Json ν) :=
  match record with
  | .object _ => do
    let identity ← expect record.identity? "JSONL record has no valid canonical sort key"
    pure (identity, record)
  | _ => throw "JSONL records must be objects"

/-- One line after the other, within the limits. -/
def appendLine (limits : JsonLimits) (encoded : Bytes) (record : Json ν) :
    Except String Bytes := do
  let line ← J.canonicalJsonBytes limits record
  require (line.length ≤ limits.maxLineBytes) "JSONL line exceeds the configured byte limit"
  require (encoded.length + line.length + 1 ≤ limits.maxBytes)
    "canonical JSONL exceeds the configured byte limit"
  pure (encoded ++ line ++ [0x0a])

/-- `canonical_jsonl_bytes`, with the default sort key. -/
def canonicalJsonlBytes (limits : JsonLimits) (records : List (Json ν)) :
    Except String Bytes := do
  require (records.length ≤ limits.maxCollectionItems)
    "JSONL record count exceeds the configured limit"
  let keyed ← records.mapM keyedRecord
  let ordered := keyed.mergeSort fun a b => decide (a.1 ≤ b.1)
  require ((ordered.map Prod.fst).Nodup) "JSONL records have duplicate canonical sort keys"
  (ordered.map Prod.snd).foldlM (appendLine J limits) []

/-- The records of the line format are the objects. -/
def JsonCodec.lines : LineCodec (Json ν) (Json ν) String where
  strictJsonLoads := J.strictJsonLoads
  canonicalJsonBytes := J.canonicalJsonBytes
  record? := fun value => match value with
    | .object _ => some value
    | _ => none
  identity? := Json.identity?
  le := fun a b => decide (a ≤ b)

end

end ControlAssurance.Cab
