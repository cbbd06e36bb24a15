import ControlAssurance.Cab.Canonical
import ControlAssurance.Cab.Manifest
import ControlAssurance.Lib.Dict

/-!
# Source CABs of the benchmark

One CAB is a byte string: a snapshot that decodes, is verified as a bundle and is addressed by its
digest. `rebuild_manifest` puts the descriptors of changed members right again.
-/

namespace ControlAssurance.Benchmark

open Lib Cab

structure SealedCabSnapshot where
  snapshotDigest : Digest
  cabId : String
  manifestDigest : Digest
deriving DecidableEq

/-- What the CAB functions call: SHA-256, the JSON functions, the fields of a manifest as JSON text
and back, the verification of a decoded snapshot as a bundle directory, and `int(text)`. -/
structure CabRuntime (ν : Type) where
  sha256 : Bytes → Digest
  json : JsonCodec ν
  texts : TextChecks
  parseManifest : Bytes → Except String BundleManifest
  manifestBytes : BundleManifest → Except String Bytes
  verifyCabSnapshot : Bytes → Except String SealedCabSnapshot
  parseInt : String → Option Int

structure VerifiedBenchmarkCab where
  snapshotBytes : Bytes
  snapshotDigest : Digest
  cabId : String
  manifestDigest : Digest
  manifest : BundleManifest
  entries : Entries
deriving DecidableEq

section

variable {ν : Type} (R : CabRuntime ν)

/-- `decode_snapshot_entries`. -/
def decodeSnapshotEntries (snapshot : Bytes) : Except String Entries :=
  decodeCabSnapshotEntries snapshot maxCabSnapshotBytes

/-- `encode_snapshot_entries`. -/
def encodeSnapshotEntries (entries : Entries) : Except String Bytes :=
  encodeCabSnapshotEntries entries maxCabSnapshotBytes

/-- `BundleManifest.model_validate_json`. -/
def CabRuntime.loadManifest (payload : Bytes) : Except String BundleManifest := do
  let manifest ← R.parseManifest payload
  manifest.validate R.texts
  pure manifest

/-- `verify_benchmark_cab`. -/
def verifyBenchmarkCab (snapshot : Bytes) (expectedSnapshotDigest : Digest) :
    Except String VerifiedBenchmarkCab := do
  require (snapshot.length ≤ maxCabSnapshotBytes)
    "resolved source CAB exceeds the CAB snapshot byte limit"
  require (R.sha256 snapshot = expectedSnapshotDigest)
    "resolved source CAB bytes do not match the index digest"
  let sealedSnapshot ← R.verifyCabSnapshot snapshot
  let entries ← decodeSnapshotEntries snapshot
  let payload ← expect ((Dict.ofPairs entries).get? "bundle.json")
    "resolved source CAB is not a verified canonical CAB"
  let manifest ← R.loadManifest payload
  require (sealedSnapshot.snapshotDigest = expectedSnapshotDigest)
    "CAB verifier returned a different snapshot digest"
  pure ⟨snapshot, sealedSnapshot.snapshotDigest, sealedSnapshot.cabId,
    sealedSnapshot.manifestDigest, manifest, entries⟩

/-- The order of two path and content pairs. -/
def entryLe (a b : String × Bytes) : Bool :=
  decide (a.1 < b.1 ∨ a.1 = b.1 ∧ a.2 ≤ b.2)

/-- `bundle.json`, and the other members sorted. -/
def orderedEntries (stored : Dict String Bytes) : Except String Entries := do
  let manifest ← expect (stored.get? "bundle.json") "KeyError"
  pure (("bundle.json", manifest)
    :: (stored.filter fun e => decide (e.1 ≠ "bundle.json")).mergeSort entryLe)

/-- A descriptor for other content. -/
def BundleFile.rebuilt (file : BundleFile) (payload : Bytes) : BundleFile :=
  { file with sha256 := R.sha256 payload, size := payload.length }

/-- One descriptor of `rebuild_manifest`. -/
def rebuildDescriptor (stored : Dict String Bytes) (changedPaths : List String)
    (file : BundleFile) : Except String BundleFile := do
  if file.path ∈ changedPaths then
    let payload ← expect (stored.get? file.path)
      "cannot rebuild a manifest for a missing target"
    let descriptor := BundleFile.rebuilt R file payload
    descriptor.validate R.texts
    pure descriptor
  else pure file

/-- `rebuild_manifest`. -/
def rebuildManifest (entries : Entries) (changedPaths : List String) : Except String Entries := do
  let stored := Dict.ofPairs entries
  let payload ← expect (stored.get? "bundle.json") "cannot rebuild an invalid CAB manifest"
  let manifest ← R.loadManifest payload
  let descriptors ← manifest.files.mapM (rebuildDescriptor R stored changedPaths)
  require (∀ path ∈ changedPaths, path ∈ manifest.files.map (·.path))
    "manifest rebuild target is not a manifested CAB member"
  let rebuilt := { manifest with files := descriptors }
  rebuilt.validate R.texts
  let payload ← R.manifestBytes rebuilt
  orderedEntries (stored.insert "bundle.json" payload)

end

end ControlAssurance.Benchmark
