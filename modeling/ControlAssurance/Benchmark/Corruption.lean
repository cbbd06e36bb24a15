import ControlAssurance.Benchmark.Cab

/-!
# Frozen corruptions: the producer

A recipe names a member of the source CAB, a record in it and a JSON pointer, and what to do
there. `replay_frozen_corruption` carries it out: it reads the records, changes the one, writes
the member back, rebuilds the manifest (or deliberately keeps it) and encodes the snapshot again.

A dictionary or list that the source changes in place is here replaced along the path that leads
to it.
-/

namespace ControlAssurance.Benchmark

open Lib Cab

variable {ν : Type}

/-! ## Specifications -/

/-- A JSON pointer: `/` and the escaped tokens. -/
structure JsonPointer where
  text : String
  absolute : text.toList.head? = some '/'
deriving DecidableEq

/-- `FrozenMutationRecipe`: an operation with exactly the arguments it takes. -/
inductive FrozenMutationRecipe (ν : Type) where
  | replace (replacement : Json ν)
  | remove
  | removeArrayItem (arrayIndex : Nat)
  | copyFromRecord (donorRecordKey : String) (donorFieldPath : JsonPointer)
  | swapWithRecord (donorRecordKey : String) (donorFieldPath : JsonPointer)

inductive ManifestPolicy where
  | keep
  | rebuild
deriving DecidableEq

structure FrozenCorruptionSpec (ν : Type) where
  corruptionId : String
  targetArtifactPath : String
  targetRecordKey : String
  targetFieldPath : JsonPointer
  recipe : FrozenMutationRecipe ν
  manifestPolicy : ManifestPolicy

/-! ## Pointers -/

/-- `text.replace(ab, c)` for a pattern of two characters. -/
def replacePair (a b c : Char) : List Char → List Char
  | x :: y :: rest =>
    if x = a ∧ y = b then c :: replacePair a b c rest else x :: replacePair a b c (y :: rest)
  | rest => rest

/-- `text.replace(a, replacement)` for a pattern of one character. -/
def replaceChar (a : Char) (replacement : List Char) (text : List Char) : List Char :=
  text.flatMap fun c => if c = a then replacement else [c]

/-- `token.replace("~1", "/").replace("~0", "~")`. -/
def unescapeToken (token : List Char) : List Char :=
  replacePair '~' '0' '~' (replacePair '~' '1' '/' token)

/-- `token.replace("~", "~0").replace("/", "~1")`. -/
def escapeToken (token : List Char) : List Char :=
  replaceChar '/' ['~', '1'] (replaceChar '~' ['~', '0'] token)

/-- `_pointer_tokens`. -/
def pointerTokens (pointer : String) : List String :=
  ((pointer.toList.drop 1).splitOn '/').map fun token => String.ofList (unescapeToken token)

/-- The texts of the four ways a pointer can fail on its way. -/
structure WalkTexts where
  absent : String
  notNumeric : String
  outside : String
  scalar : String

/-- `int(token)` as an index into a list of this length. -/
def arrayIndex (R : CabRuntime ν) (notNumeric outside : String) (length : Nat) (token : String) :
    Except String Nat := do
  let index ← expect (R.parseInt token) notNumeric
  require (¬(index < 0 ∨ (length : Int) ≤ index)) outside
  pure index.toNat

/-- The value one token further down. -/
def child (R : CabRuntime ν) (texts : WalkTexts) (current : Json ν) (token : String) :
    Except String (Json ν) :=
  match current with
  | .object members => expect (member members token) texts.absent
  | .array items => do
    let index ← arrayIndex R texts.notNumeric texts.outside items.length token
    expect items[index]? texts.outside
  | _ => .error texts.scalar

/-- The value at the end of a path. -/
def walk (R : CabRuntime ν) (texts : WalkTexts) (tokens : List String) (document : Json ν) :
    Except String (Json ν) :=
  tokens.foldlM (child R texts) document

/-- `members[token] = value` for a key that is there. -/
def setMember (members : List (String × Json ν)) (token : String) (value : Json ν) :
    List (String × Json ν) :=
  members.map fun m => if m.1 = token then (token, value) else m

/-- The document after the value one token down has become another. -/
def putChild (R : CabRuntime ν) (texts : WalkTexts) (current : Json ν) (token : String)
    (value : Json ν) : Except String (Json ν) :=
  match current with
  | .object members => pure (.object (setMember members token value))
  | .array items => do
    let index ← arrayIndex R texts.notNumeric texts.outside items.length token
    pure (.array (items.set index value))
  | _ => .error texts.scalar

/-- The document after the value at the end of a path has been changed in place. -/
def walkUpdate (R : CabRuntime ν) (texts : WalkTexts)
    (change : Json ν → Except String (Json ν)) :
    List String → Json ν → Except String (Json ν)
  | [], document => change document
  | token :: tokens, document => do
    let value ← child R texts document token
    let changed ← walkUpdate R texts change tokens value
    putChild R texts document token changed

/-- The texts of a change of one member of a container. -/
structure ChangeTexts where
  notContainer : String
  absent : String
  notNumeric : String
  outside : String

/-- `parent[token] = value`. -/
def assignMember (R : CabRuntime ν) (texts : ChangeTexts) (token : String) (value : Json ν) :
    Json ν → Except String (Json ν)
  | .object members => do
    require (token ∈ members.map Prod.fst) texts.absent
    pure (.object (setMember members token value))
  | .array items => do
    let index ← arrayIndex R texts.notNumeric texts.outside items.length token
    pure (.array (items.set index value))
  | _ => .error texts.notContainer

/-- `del parent[token]`. -/
def deleteMember (R : CabRuntime ν) (texts : ChangeTexts) (token : String) :
    Json ν → Except String (Json ν)
  | .object members => do
    require (token ∈ members.map Prod.fst) texts.absent
    pure (.object (members.filter fun m => decide (m.1 ≠ token)))
  | .array items => do
    let index ← arrayIndex R texts.notNumeric texts.outside items.length token
    pure (.array (items.eraseIdx index))
  | _ => .error texts.notContainer

/-- `del value[array_index]`, of a value that has to be a list. -/
def deleteItem (notArray outside : String) (index : Nat) : Json ν → Except String (Json ν)
  | .array items => do
    require (¬items.length ≤ index) outside
    pure (.array (items.eraseIdx index))
  | _ => .error notArray

/-- `path.endswith(".jsonl")`. -/
def isJsonlPath (path : String) : Bool := ".jsonl".toList.isSuffixOf path.toList

namespace Producer

def walkTexts : WalkTexts where
  absent := "corruption JSON pointer does not exist"
  notNumeric := "corruption JSON pointer has a non-numeric index"
  outside := "corruption JSON pointer index is outside the array"
  scalar := "corruption JSON pointer traverses a scalar"

def changeTexts (absent : String) : ChangeTexts where
  notContainer := "corruption target parent is not a container"
  absent := absent
  notNumeric := "corruption array target is not numeric"
  outside := "corruption array target is outside the array"

variable (R : CabRuntime ν)

/-- `_pointer_get`. -/
def pointerGet (document : Json ν) (pointer : String) : Except String (Json ν) :=
  walk R walkTexts (pointerTokens pointer) document

/-- The path to the parent: its pointer is written out and read again. -/
def parentTokens (tokens : List String) : List String :=
  if tokens.length = 1 then []
  else pointerTokens (String.ofList
    ('/' :: List.intercalate ['/'] (tokens.dropLast.map fun token => escapeToken token.toList)))

/-- `_pointer_parent`, and then a change of the parent at the last token. -/
def changeParent (document : Json ν) (pointer : String)
    (change : String → Json ν → Except String (Json ν)) : Except String (Json ν) := do
  let tokens := pointerTokens pointer
  let token ← expect tokens.getLast? "corruption cannot replace a document root"
  walkUpdate R walkTexts (change token) (parentTokens tokens) document

/-- `_pointer_set`. -/
def pointerSet (document : Json ν) (pointer : String) (value : Json ν) :
    Except String (Json ν) :=
  changeParent R document pointer fun token =>
    assignMember R (changeTexts "corruption replacement target does not exist") token value

/-- `_pointer_remove`. -/
def pointerRemove (document : Json ν) (pointer : String) : Except String (Json ν) :=
  changeParent R document pointer fun token =>
    deleteMember R (changeTexts "corruption removal target does not exist") token

/-- `_load_records`: the records, and whether they are lines. -/
def loadRecords (path : String) (payload : Bytes) : Except String (List (Json ν) × Bool) := do
  if isJsonlPath path then
    let records ← strictJsonlLoads R.json.lines defaultJsonLimits true payload
    pure (records, true)
  else
    let document ← R.json.strictJsonLoads defaultJsonLimits payload
    let canonical ← R.json.canonicalJsonBytes defaultJsonLimits document
    require (canonical = payload) "JSON corruption target must be one canonical object"
    match document with
    | .object _ => pure ([document], false)
    | _ => throw "JSON corruption target must be one canonical object"

end Producer

def rootRecordKey : String := "$"

/-- The positions of the records with an id. -/
def recordMatches (records : List (Json ν)) (key : String) : List Nat :=
  (List.range records.length).filter fun i => decide ((records[i]?.bind Json.identity?) = some key)

/-- The position of the one record that a key selects. -/
def selectRecord (rootText keyText : String) (records : List (Json ν)) (key : String)
    (allowRoot : Bool) : Except String Nat :=
  if key = rootRecordKey then do
    require (allowRoot = true ∧ records.length = 1) rootText
    pure 0
  else
    match recordMatches records key with
    | [i] => .ok i
    | _ => .error keyText

/-- The record at a position changed in place. -/
def updateRecord (records : List (Json ν)) (i : Nat)
    (change : Json ν → Except String (Json ν)) : Except String (List (Json ν)) := do
  let record ← expect records[i]? "IndexError"
  let changed ← change record
  pure (records.set i changed)

namespace Producer

variable (R : CabRuntime ν)

/-- `_record`. -/
def record (records : List (Json ν)) (key : String) (allowRoot : Bool) : Except String Nat :=
  selectRecord "root corruption key requires one canonical JSON object"
    "corruption record key does not select exactly one record" records key allowRoot

def readRecord (records : List (Json ν)) (i : Nat) (pointer : String) :
    Except String (Json ν) := do
  let record ← expect records[i]? "IndexError"
  pointerGet R record pointer

/-- The four ways to change the records. -/
def applyRecipe (spec : FrozenCorruptionSpec ν) (allowRoot : Bool) (target : Nat)
    (beforeValue : Json ν) (records : List (Json ν)) : Except String (List (Json ν)) := do
  let path := spec.targetFieldPath.text
  match spec.recipe with
  | .replace replacement =>
    updateRecord records target fun record => pointerSet R record path replacement
  | .remove => updateRecord records target fun record => pointerRemove R record path
  | .removeArrayItem index =>
    updateRecord records target fun record => walkUpdate R walkTexts
      (deleteItem "remove-array-item target is not an array"
        "remove-array-item index is outside the array" index) (pointerTokens path) record
  | .copyFromRecord donorKey donorPath =>
    let donor ← record records donorKey allowRoot
    let donorValue ← readRecord R records donor donorPath.text
    updateRecord records target fun record => pointerSet R record path donorValue
  | .swapWithRecord donorKey donorPath =>
    let donor ← record records donorKey allowRoot
    let donorValue ← readRecord R records donor donorPath.text
    let records ← updateRecord records target fun record => pointerSet R record path donorValue
    updateRecord records donor fun record => pointerSet R record donorPath.text beforeValue

def absentWitness : Bytes :=
  "assurance-lab:json-pointer-absent/v1".toList.map fun c => UInt8.ofNat c.toNat

/-- The bytes of the target after the change; a removed target is witnessed as absent. -/
def afterBytes (spec : FrozenCorruptionSpec ν) (records : List (Json ν)) (target : Nat) :
    Except String Bytes :=
  match readRecord R records target spec.targetFieldPath.text with
  | .ok value => R.json.canonicalJsonBytes defaultJsonLimits value
  | .error e =>
    match spec.recipe with
    | .remove => .ok absentWitness
    | _ => .error e

/-- `_mutate_records`: the changed records, and the bytes of the target before and after. -/
def mutateRecords (records : List (Json ν)) (spec : FrozenCorruptionSpec ν) (allowRoot : Bool) :
    Except String (List (Json ν) × Bytes × Bytes) := do
  let target ← record records spec.targetRecordKey allowRoot
  let beforeValue ← readRecord R records target spec.targetFieldPath.text
  let records ← applyRecipe R spec allowRoot target beforeValue records
  let after ← afterBytes R spec records target
  let before ← R.json.canonicalJsonBytes defaultJsonLimits beforeValue
  pure (records, before, after)

/-- The records as bytes again. -/
def recordsBytes (records : List (Json ν)) (isJsonl : Bool) : Except String Bytes :=
  if isJsonl then canonicalJsonlBytes R.json defaultJsonLimits records
  else do
    let record ← expect records[0]? "IndexError"
    R.json.canonicalJsonBytes defaultJsonLimits record

end Producer

/-- The bytes in which two texts differ, and the length by which one is longer. -/
def differing (left right : Bytes) : Nat :=
  (left.length - right.length) + (right.length - left.length)
    + (List.zip left right).countP fun p => decide (p.1 ≠ p.2)

structure CorruptionReplay where
  sourceBundleDigest : Digest
  corruptedBundleBytes : Bytes
  corruptedBundleDigest : Digest
  beforeBytes : Bytes
  afterBytes : Bytes
  sourceManifestDigest : Digest
  corruptedManifestDigest : Digest
  manifestRebuilt : Bool
deriving DecidableEq

/-- A kept manifest no longer fits the bundle, a rebuilt one does. -/
def confirmManifestPolicy (R : CabRuntime ν) (policy : ManifestPolicy)
    (corrupted sourceManifest corruptedManifest : Bytes) : Except String Unit :=
  match policy with
  | .keep => do
    require (corruptedManifest = sourceManifest) "KEEP mutation changed the source manifest"
    match R.verifyCabSnapshot corrupted with
    | .error _ => pure ()
    | .ok _ => throw "KEEP mutation unexpectedly preserved CAB integrity"
  | .rebuild => do
    require (corruptedManifest ≠ sourceManifest) "REBUILD mutation did not change the manifest"
    let _ ← verifyBenchmarkCab R corrupted (R.sha256 corrupted)
    pure ()

/-- `replay_frozen_corruption`. -/
def replayFrozenCorruption (R : CabRuntime ν) (source : VerifiedBenchmarkCab)
    (spec : FrozenCorruptionSpec ν) : Except String CorruptionReplay := do
  let decoded ← decodeSnapshotEntries source.snapshotBytes
  let entries := Dict.ofPairs decoded
  let sourceManifest ← expect (entries.get? "bundle.json") "KeyError"
  let payload ← expect (entries.get? spec.targetArtifactPath)
    "source CAB does not contain the frozen corruption target"
  let (records, isJsonl) ← Producer.loadRecords R spec.targetArtifactPath payload
  let (records, before, after) ← Producer.mutateRecords R records spec (!isJsonl)
  let mutatedPayload ← Producer.recordsBytes R records isJsonl
  require (¬(mutatedPayload = payload ∨ before = after))
    "frozen corruption recipe produced a no-op"
  require (spec.corruptionId = "C01" → differing payload mutatedPayload = 1)
    "C01 must alter exactly one raw target byte"
  let entries := entries.insert spec.targetArtifactPath mutatedPayload
  let kept ← orderedEntries entries
  let ordered ←
    if spec.manifestPolicy = .rebuild ∧ spec.targetArtifactPath ≠ "bundle.json" then
      rebuildManifest R kept [spec.targetArtifactPath]
    else pure kept
  let corrupted ← encodeSnapshotEntries ordered
  let corruptedEntries ← decodeSnapshotEntries corrupted
  let corruptedManifest ← expect ((Dict.ofPairs corruptedEntries).get? "bundle.json") "KeyError"
  confirmManifestPolicy R spec.manifestPolicy corrupted sourceManifest corruptedManifest
  pure ⟨source.snapshotDigest, corrupted, R.sha256 corrupted, before, after,
    R.sha256 sourceManifest, R.sha256 corruptedManifest, decide (spec.manifestPolicy = .rebuild)⟩

end ControlAssurance.Benchmark
