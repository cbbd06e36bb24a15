import ControlAssurance.Values
import ControlAssurance.Cab.Snapshot

/-!
# The CAB manifest

`bundle.json`: where the bundle comes from and one descriptor for every payload file.
-/

namespace ControlAssurance.Cab

open Lib

inductive Sensitivity where
  | synthetic
  | labInternal
deriving DecidableEq

structure BundleFile where
  path : String
  sha256 : Digest
  size : Nat
  mediaType : String
  role : String
  sensitivity : Sensitivity
  requiredFor : List String
deriving DecidableEq

structure ExperimentRef where
  id : String
  specVersion : String
  specDigest : Digest
deriving DecidableEq

structure EvaluatorRef where
  name : String
  version : String
  sourceRevision : String
  imageDigest : Option Digest
deriving DecidableEq

structure EvaluationRef where
  policyId : String
  policyDigest : Digest
  evaluator : EvaluatorRef
deriving DecidableEq

structure BundleManifest where
  createdAt : String
  asOf : String
  experiment : ExperimentRef
  evaluation : EvaluationRef
  parentBundles : List String
  files : List BundleFile
deriving DecidableEq

/-- `unicodedata.category`/`bidirectional`, as far as display texts go: is this character a
control, a surrogate or a bidirectional one? And is a text a canonical timestamp? -/
structure TextChecks where
  unsafeDisplay : Char → Bool
  isTimestamp : String → Bool

section

variable (T : TextChecks)

/-- `_SafeText` with its length limits. -/
def TextChecks.safeText (low high : Nat) (value : String) : Prop :=
  (∀ c ∈ value.toList, T.unsafeDisplay c = false) ∧ low ≤ value.length ∧ value.length ≤ high

instance (low high : Nat) (value : String) : Decidable (T.safeText low high value) :=
  inferInstanceAs (Decidable (_ ∧ _ ∧ _))

/-- `BundleFile`, with `safe_payload_path`. -/
def BundleFile.validate (file : BundleFile) : Except String Unit := do
  require (1 ≤ file.path.length ∧ file.path.length ≤ 1024) "path"
  require (1 ≤ file.mediaType.length ∧ file.mediaType.length ≤ 255) "media_type"
  require (T.safeText 1 128 file.role) "role"
  require (file.requiredFor.length ≤ 128
      ∧ ∀ value ∈ file.requiredFor, ∀ c ∈ value.toList, T.unsafeDisplay c = false) "required_for"
  validatePayloadPath file.path
  require file.requiredFor.Nodup "required_for entries must be unique"

/-- `BundleManifest`, with `canonical_timestamp` and `coherent_manifest`. -/
def BundleManifest.validate (manifest : BundleManifest) : Except String Unit := do
  require (T.isTimestamp manifest.createdAt = true) "created_at"
  require (T.isTimestamp manifest.asOf = true) "as_of"
  require (T.safeText 1 256 manifest.experiment.id) "experiment.id"
  require (T.safeText 1 64 manifest.experiment.specVersion) "experiment.spec_version"
  require (T.safeText 1 256 manifest.evaluation.policyId) "evaluation.policy_id"
  require (T.safeText 1 128 manifest.evaluation.evaluator.name) "evaluation.evaluator.name"
  require (T.safeText 1 64 manifest.evaluation.evaluator.version) "evaluation.evaluator.version"
  require (T.safeText 1 256 manifest.evaluation.evaluator.sourceRevision)
    "evaluation.evaluator.source_revision"
  require (manifest.parentBundles.length ≤ 1000
      ∧ ∀ value ∈ manifest.parentBundles, ∀ c ∈ value.toList, T.unsafeDisplay c = false)
    "parent_bundles"
  require (manifest.files.length ≤ 10000) "files"
  manifest.files.forM (·.validate T)
  require (¬manifest.createdAt < manifest.asOf)
    "bundle cannot be created before its evaluation time"
  let paths := manifest.files.map (·.path)
  require (paths.Pairwise (· ≤ ·)) "bundle file descriptors must be sorted by path"
  require paths.Nodup "bundle file paths must be unique"
  require (paths.map String.toLower).Nodup "bundle paths collide after ASCII case folding"
  require manifest.parentBundles.Nodup "parent bundle identifiers must be unique"

end

end ControlAssurance.Cab
