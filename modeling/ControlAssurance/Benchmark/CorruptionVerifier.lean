import Mathlib.Data.Finset.Insert
import Mathlib.Data.Finset.Dedup
import ControlAssurance.Benchmark.Corruption

/-!
# Frozen corruptions: the verifier

The verifier interprets a recipe a second time, on the entries of the verified source, and then
compares the whole corrupted snapshot with what that gives: the member set, the target, every
other member, and the manifest.
-/

namespace ControlAssurance.Benchmark

open Lib Cab

variable {ν : Type}

namespace Verifier

def walkTexts : WalkTexts where
  absent := "mutation pointer is absent from its object"
  notNumeric := "mutation array pointer is not numeric"
  outside := "mutation array pointer is outside its target"
  scalar := "mutation pointer traverses a scalar"

def parentTexts : WalkTexts where
  absent := "mutation parent pointer is absent"
  notNumeric := "mutation parent array pointer is not numeric"
  outside := "mutation parent array pointer is outside its target"
  scalar := "mutation parent pointer traverses a scalar"

def replacementTexts : ChangeTexts where
  notContainer := "mutation parent is not a container"
  absent := "replacement target is absent"
  notNumeric := "replacement array pointer is not numeric"
  outside := "replacement array pointer is outside its target"

def removalTexts : ChangeTexts where
  notContainer := "mutation parent is not a container"
  absent := "removal target is absent"
  notNumeric := "removal array pointer is not numeric"
  outside := "removal array pointer is outside its target"

/-- `_pointer_tokens`. -/
def tokens (pointer : String) : Except String (List String) := do
  require (pointer.toList.head? = some '/') "mutation field is not a JSON pointer"
  pure (pointerTokens pointer)

variable (R : CabRuntime ν)

/-- `_get_pointer`. -/
def getPointer (document : Json ν) (pointer : String) : Except String (Json ν) := do
  let path ← tokens pointer
  walk R walkTexts path document

/-- `_pointer_parent`, and then a change of the parent at the last token. -/
def changeParent (document : Json ν) (pointer : String)
    (change : String → Json ν → Except String (Json ν)) : Except String (Json ν) := do
  let path ← tokens pointer
  let token ← expect path.getLast? "root replacement is not supported"
  walkUpdate R parentTexts (change token) path.dropLast document

/-- `_set_pointer`. -/
def setPointer (document : Json ν) (pointer : String) (value : Json ν) :
    Except String (Json ν) :=
  changeParent R document pointer fun token => assignMember R replacementTexts token value

/-- `_remove_pointer`. -/
def removePointer (document : Json ν) (pointer : String) : Except String (Json ν) :=
  changeParent R document pointer fun token => deleteMember R removalTexts token

/-- `_select_record`. -/
def select (records : List (Json ν)) (key : String) (allowRoot : Bool) : Except String Nat :=
  selectRecord "root record key does not select one JSON object"
    "record key does not select exactly one object" records key allowRoot

def readRecord (records : List (Json ν)) (i : Nat) (pointer : String) :
    Except String (Json ν) := do
  let record ← expect records[i]? "IndexError"
  getPointer R record pointer

/-- The records of the source member. -/
def loadRecords (isJsonl : Bool) (payload : Bytes) : Except String (List (Json ν)) :=
  if isJsonl then strictJsonlLoads R.json.lines defaultJsonLimits true payload
  else do
    let loaded ← R.json.strictJsonLoads defaultJsonLimits payload
    match loaded with
    | .object _ => pure [loaded]
    | _ => throw "JSON mutation target is not one object"

/-- The recipe once more: for a donor both values are read before either is written. -/
def applyRecipe (spec : FrozenCorruptionSpec ν) (allowRoot : Bool) (target : Nat)
    (records : List (Json ν)) : Except String (List (Json ν)) := do
  let path := spec.targetFieldPath.text
  match spec.recipe with
  | .replace replacement =>
    updateRecord records target fun record => setPointer R record path replacement
  | .remove => updateRecord records target fun record => removePointer R record path
  | .removeArrayItem index =>
    updateRecord records target fun record => do
      let path ← tokens path
      walkUpdate R walkTexts (deleteItem "frozen array mutation does not target an array"
        "frozen array mutation index is outside its target" index) path record
  | .copyFromRecord donorKey donorPath =>
    let donor ← select records donorKey allowRoot
    let _ ← readRecord R records target path
    let donorValue ← readRecord R records donor donorPath.text
    updateRecord records target fun record => setPointer R record path donorValue
  | .swapWithRecord donorKey donorPath =>
    let donor ← select records donorKey allowRoot
    let targetValue ← readRecord R records target path
    let donorValue ← readRecord R records donor donorPath.text
    let records ← updateRecord records target fun record => setPointer R record path donorValue
    updateRecord records donor fun record => setPointer R record donorPath.text targetValue

/-- `_independent_target_mutation`. -/
def independentTargetMutation (payload : Bytes) (spec : FrozenCorruptionSpec ν) :
    Except String Bytes := do
  let isJsonl := isJsonlPath spec.targetArtifactPath
  let records ← loadRecords R isJsonl payload
  let target ← select records spec.targetRecordKey (!isJsonl)
  let records ← applyRecipe R spec (!isJsonl) target records
  if isJsonl then canonicalJsonlBytes R.json defaultJsonLimits records
  else do
    let record ← expect records[0]? "IndexError"
    R.json.canonicalJsonBytes defaultJsonLimits record

/-- One descriptor of `_manifest_with_one_rebuilt_descriptor`. -/
def rebuildOne (target : String) (payload : Bytes) (file : BundleFile) :
    Except String BundleFile := do
  if file.path ≠ target then pure file
  else
    let descriptor := BundleFile.rebuilt R file payload
    descriptor.validate R.texts
    pure descriptor

/-- `_manifest_with_one_rebuilt_descriptor`. -/
def manifestWithOneRebuiltDescriptor (manifestBytes : Bytes) (target : String)
    (payload : Bytes) : Except String Bytes := do
  let manifest ← R.loadManifest manifestBytes
  let descriptors ← manifest.files.mapM (rebuildOne R target payload)
  require (target ∈ manifest.files.map (·.path))
    "frozen target is not declared by the source manifest"
  let rebuilt := { manifest with files := descriptors }
  rebuilt.validate R.texts
  R.manifestBytes rebuilt

/-- `_verify_stale_manifest_case`. -/
def verifyStaleManifestCase (sourceMap corruptedMap : Dict String Bytes) (corrupted : Bytes)
    (target : String) : Except String Unit := do
  require (corruptedMap.get? "bundle.json" = sourceMap.get? "bundle.json")
    "stale-manifest case changed bundle.json"
  let original ← expect (sourceMap.get? target) "KeyError"
  let changed ← expect (corruptedMap.get? target) "KeyError"
  require (differing original changed = 1)
    "stale-manifest case must change exactly one target byte"
  match verifyBenchmarkCab R corrupted (R.sha256 corrupted) with
  | .error _ => pure ()
  | .ok _ => throw "stale-manifest case unexpectedly passes CAB integrity"

/-- `_verify_rebuilt_manifest_case`. -/
def verifyRebuiltManifestCase (sourceMap corruptedMap : Dict String Bytes) (corrupted : Bytes)
    (target : String) (expectedTarget : Bytes) : Except String Unit := do
  let _ ← verifyBenchmarkCab R corrupted (R.sha256 corrupted)
  let expectedManifest ←
    if target = "bundle.json" then pure expectedTarget
    else do
      let sourceManifest ← expect (sourceMap.get? "bundle.json") "KeyError"
      manifestWithOneRebuiltDescriptor R sourceManifest target expectedTarget
  require (corruptedMap.get? "bundle.json" = some expectedManifest)
    "rebuilt manifest differs outside the frozen target descriptor"

/-- The manifest check that the policy asks for. -/
def verifyManifestCase (policy : ManifestPolicy) (sourceMap corruptedMap : Dict String Bytes)
    (corrupted : Bytes) (target : String) (expectedTarget : Bytes) : Except String Unit :=
  match policy with
  | .keep => verifyStaleManifestCase R sourceMap corruptedMap corrupted target
  | .rebuild => verifyRebuiltManifestCase R sourceMap corruptedMap corrupted target expectedTarget

/-- The members other than the manifest that differ. -/
def changedMembers (sourceMap corruptedMap : Dict String Bytes) : List String :=
  sourceMap.keys.filter fun path =>
    decide (path ≠ "bundle.json" ∧ sourceMap.get? path ≠ corruptedMap.get? path)

/-- `_inspect_exact_mutation`. -/
def inspectExactMutation (source : VerifiedBenchmarkCab) (corrupted : Bytes)
    (spec : FrozenCorruptionSpec ν) : Except String Entries := do
  let corruptedEntries ← decodeSnapshotEntries corrupted
  let encoded ← encodeSnapshotEntries corruptedEntries
  require (encoded = corrupted) "corrupted snapshot is not in canonical container form"
  require (source.entries.map Prod.fst = corruptedEntries.map Prod.fst)
    "corrupted snapshot changes the frozen member set or order"
  let sourceMap := Dict.ofPairs source.entries
  let corruptedMap := Dict.ofPairs corruptedEntries
  let target := spec.targetArtifactPath
  let payload ← expect (sourceMap.get? target) "frozen mutation target is absent"
  let expectedTarget ← independentTargetMutation R payload spec
  require (corruptedMap.get? target = some expectedTarget)
    "corrupted target does not match the independent mutation replay"
  require ((changedMembers sourceMap corruptedMap).toFinset
      = if target = "bundle.json" then ∅ else {target})
    "corrupted snapshot changes members outside the frozen target"
  verifyManifestCase R spec.manifestPolicy sourceMap corruptedMap corrupted target expectedTarget
  pure corruptedEntries

end Verifier

end ControlAssurance.Benchmark
