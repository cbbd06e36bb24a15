import Mathlib.Data.Finset.Insert
import Mathlib.Data.Finset.Dedup
import Mathlib.Data.List.Sort
import ControlAssurance.Digests
import ControlAssurance.Benchmark.Texts
import ControlAssurance.Lib.Checked
import ControlAssurance.Lib.Dict

/-!
# The normalized semantic result of a benchmark

Three scenarios of sixteen cells of three trials, each level with its own issues. The models nest,
and each level has one validator: a model is accepted when its fields are (`revalidate_instances`
runs the validators of the nested models again) and then its own validator passes. `validate` of a
model below is both, in that order.
-/

namespace ControlAssurance.Benchmark

open Lib

inductive ScenarioId where
  | detection
  | response
  | recovery
deriving DecidableEq

def ScenarioId.value : ScenarioId → String
  | .detection => "financial-exact-correlation-detection"
  | .response => "financial-exact-session-response"
  | .recovery => "financial-entitlement-recovery"

/-- `BENCHMARK_SCENARIO_IDS`. -/
def benchmarkScenarioIds : List ScenarioId := [.recovery, .detection, .response]

inductive IssueDisposition where
  | rejected
  | indeterminate
  | conflicting
  | nonRepeatable
deriving DecidableEq

def IssueDisposition.value : IssueDisposition → String
  | .rejected => "rejected"
  | .indeterminate => "indeterminate"
  | .conflicting => "conflicting"
  | .nonRepeatable => "non-repeatable"

structure NormalizedIssue where
  code : String
  disposition : IssueDisposition
  subjectPath : String
  relatedTrialKeys : List Digest
deriving DecidableEq

structure OpaqueArtifactReference where
  schemaName : String
  artifactDigest : Digest
deriving DecidableEq

structure SingleTrialSemanticLineage where
  subjectTrialKey : Digest
  actionArtifact : OpaqueArtifactReference
  runtimeArtifact : OpaqueArtifactReference
  lineageDigest : Digest
deriving DecidableEq

structure MatchedPairSemanticLineage where
  subjectTrialKey : Digest
  attackTrialKey : Digest
  benignTrialKey : Digest
  attackActionArtifact : OpaqueArtifactReference
  benignActionArtifact : OpaqueArtifactReference
  attackRuntimeArtifact : OpaqueArtifactReference
  benignRuntimeArtifact : OpaqueArtifactReference
  sharedLifecycleProof : OpaqueArtifactReference
  lineageDigest : Digest
deriving DecidableEq

inductive TrialSemanticLineage where
  | singleTrial (lineage : SingleTrialSemanticLineage)
  | matchedPair (lineage : MatchedPairSemanticLineage)
deriving DecidableEq

def TrialSemanticLineage.subjectTrialKey : TrialSemanticLineage → Digest
  | .singleTrial lineage => lineage.subjectTrialKey
  | .matchedPair lineage => lineage.subjectTrialKey

inductive ClaimDisposition where
  | supported
  | refuted
  | indeterminate
  | conflicting
  | nonRepeatable
  | notExercised
deriving DecidableEq

inductive BaselineDisposition where
  | pass
  | fail
  | indeterminate
  | conflicting
  | nonRepeatable
deriving DecidableEq

inductive ResidualDisposition where
  | maskedTargetFailure
  | exposedPath
  | targetEffective
  | unresolved
  | conflicting
  | nonRepeatable
deriving DecidableEq

structure SemanticVector where
  target : ClaimDisposition
  compensator : ClaimDisposition
  path : ClaimDisposition
  benign : ClaimDisposition
  baseline : BaselineDisposition
  residual : ResidualDisposition
deriving DecidableEq

structure TrialSemanticResult where
  scenarioId : ScenarioId
  specDigest : Digest
  trialKey : Digest
  cellKey : String
  block : String
  replicate : Nat
  ordinal : Nat
  traceId : String
  cloneUniqueInstanceId : String
  cloneReadbackDigest : Digest
  attestationBundleDigest : Digest
  runnerResourceId : String
  lineage : TrialSemanticLineage
  semantics : SemanticVector
  issues : List NormalizedIssue
deriving DecidableEq

inductive AgreementDisposition where
  | agreed
  | nonRepeatable
  | conflicting
deriving DecidableEq

structure ReplicateAgreement where
  disposition : AgreementDisposition
  semanticDigests : List Digest
  divergentTrialKeys : List Digest
deriving DecidableEq

structure CellSemanticResult where
  scenarioId : ScenarioId
  specDigest : Digest
  cellKey : String
  trials : List TrialSemanticResult
  agreement : ReplicateAgreement
  semantics : SemanticVector
  issues : List NormalizedIssue
deriving DecidableEq

structure ScenarioSemanticResult where
  scenarioId : ScenarioId
  specDigest : Digest
  rawTrialSetDigest : Digest
  cells : List CellSemanticResult
  issues : List NormalizedIssue
deriving DecidableEq

structure BenchmarkSemanticResult where
  benchmarkId : String
  benchmarkVersion : String
  evaluatorId : String
  evaluatorDigest : Digest
  scenarios : List ScenarioSemanticResult
  issues : List NormalizedIssue
deriving DecidableEq

/-! ## Digests -/

/-- The bodies that `canonical_digest` addresses here; a lineage without its own digest. -/
inductive SemanticDocument where
  | semantics (vector : SemanticVector)
  | singleTrialLineage (lineage : SingleTrialSemanticLineage)
  | matchedPairLineage (lineage : MatchedPairSemanticLineage)
deriving DecidableEq

/-- What the validators read from outside the value: SHA-256 of a UTF-8 text, the digest of the
canonical JSON of a body, and the Unicode tables. -/
structure Environment where
  sha256 : String → Digest
  canonicalDigest : SemanticDocument → Digest
  unicode : UnicodeData

/-- `canonical_trial_key`: `none` where the coordinates are refused. -/
def canonicalTrialKey (E : Environment) (specDigest : Digest) (cellKey block : String)
    (replicate : Nat) : Option Digest :=
  if isSafeCompilerCellKey E.unicode cellKey && isCompilerBlock block
      && decide (1 ≤ replicate ∧ replicate ≤ 1000) then
    some (E.sha256 (String.intercalate "\x00"
      [Digest.text specDigest, cellKey, block, toString replicate]))
  else none

/-! ## The validators -/

section

variable (E : Environment)

/-- `tuple(sorted(xs)) == xs`. -/
def Sorted (xs : List Digest) : Prop := xs.Pairwise (· ≤ ·)

instance (xs : List Digest) : Decidable (Sorted xs) := inferInstanceAs (Decidable (List.Pairwise _ _))

/-- `NormalizedIssue`, with `canonical_related_trials`. -/
def NormalizedIssue.validate (issue : NormalizedIssue) : Except String Unit := do
  require (isIssueCode issue.code = true) "code"
  require (isSubjectPath E.unicode issue.subjectPath = true) "subject_path"
  require (issue.relatedTrialKeys.length ≤ 144) "related_trial_keys"
  require (Sorted issue.relatedTrialKeys)
    "related_trial_keys must be in canonical lexical order"
  require (issue.relatedTrialKeys.Nodup) "related_trial_keys must be unique"

/-- The order of two sort keys: that of tuples, field by field. -/
def NormalizedIssue.keyLt (a b : NormalizedIssue) : Prop :=
  a.code < b.code ∨ a.code = b.code ∧ (a.disposition.value < b.disposition.value
    ∨ a.disposition.value = b.disposition.value ∧ (a.subjectPath < b.subjectPath
      ∨ a.subjectPath = b.subjectPath ∧ a.relatedTrialKeys < b.relatedTrialKeys))

instance (a b : NormalizedIssue) : Decidable (a.keyLt b) :=
  inferInstanceAs (Decidable (_ ∨ _ ∧ (_ ∨ _ ∧ (_ ∨ _ ∧ _))))

/-- `_canonical_issues`: sorted and without duplicates, so each key is below the next ones. -/
def CanonicalIssues (issues : List NormalizedIssue) : Prop :=
  issues.Pairwise NormalizedIssue.keyLt

instance (issues : List NormalizedIssue) : Decidable (CanonicalIssues issues) :=
  inferInstanceAs (Decidable (List.Pairwise _ _))

def OpaqueArtifactReference.validate (reference : OpaqueArtifactReference) : Except String Unit :=
  require (isSchemaName reference.schemaName = true) "schema_name"

/-- `SingleTrialSemanticLineage.content_addressed_lineage`. -/
def SingleTrialSemanticLineage.validate (lineage : SingleTrialSemanticLineage) :
    Except String Unit := do
  lineage.actionArtifact.validate
  lineage.runtimeArtifact.validate
  require (lineage.lineageDigest
      = E.canonicalDigest (.singleTrialLineage { lineage with lineageDigest := 0 }))
    "lineage_digest does not address the single-trial lineage"

/-- `MatchedPairSemanticLineage.exact_content_addressed_pair`. -/
def MatchedPairSemanticLineage.validate (lineage : MatchedPairSemanticLineage) :
    Except String Unit := do
  lineage.attackActionArtifact.validate
  lineage.benignActionArtifact.validate
  lineage.attackRuntimeArtifact.validate
  lineage.benignRuntimeArtifact.validate
  lineage.sharedLifecycleProof.validate
  require (lineage.attackTrialKey ≠ lineage.benignTrialKey)
    "matched lineage requires distinct attack and benign trials"
  require (lineage.subjectTrialKey = lineage.attackTrialKey
      ∨ lineage.subjectTrialKey = lineage.benignTrialKey)
    "matched lineage subject must be one member of the pair"
  require (lineage.attackRuntimeArtifact ≠ lineage.benignRuntimeArtifact)
    "matched lineage requires two distinct runtime observations"
  require (lineage.lineageDigest
      = E.canonicalDigest (.matchedPairLineage { lineage with lineageDigest := 0 }))
    "lineage_digest does not address the matched-trial lineage"

def TrialSemanticLineage.validate : TrialSemanticLineage → Except String Unit
  | .singleTrial lineage => lineage.validate E
  | .matchedPair lineage => lineage.validate E

/-- `_all_conflicting_semantics`. -/
def allConflictingSemantics : SemanticVector :=
  ⟨.conflicting, .conflicting, .conflicting, .conflicting, .conflicting, .conflicting⟩

/-- `_all_non_repeatable_semantics`. -/
def allNonRepeatableSemantics : SemanticVector :=
  ⟨.nonRepeatable, .nonRepeatable, .nonRepeatable, .nonRepeatable, .nonRepeatable, .nonRepeatable⟩

/-- `_has_positive_semantics`. -/
def hasPositiveSemantics (semantics : SemanticVector) : Bool :=
  decide (.supported ∈
      [semantics.target, semantics.compensator, semantics.path, semantics.benign])
    || decide (semantics.baseline = .pass)
    || decide (semantics.residual ∈ [.maskedTargetFailure, .exposedPath, .targetEffective])

/-- `_validate_issue_constrained_semantics`. -/
def validateIssueConstrainedSemantics (issues : List NormalizedIssue)
    (semantics : SemanticVector) : Except String Unit :=
  let dispositions := issues.map (·.disposition)
  if .conflicting ∈ dispositions then
    require (semantics = allConflictingSemantics)
      "conflicting issues require an entirely conflicting semantic vector"
  else if .nonRepeatable ∈ dispositions then
    require (semantics = allNonRepeatableSemantics)
      "non-repeatable issues require an entirely non-repeatable semantic vector"
  else
    require (¬(issues ≠ [] ∧ hasPositiveSemantics semantics = true))
      "negative issues must not coexist with positive semantics"

/-- The kind of lineage each scenario asks for. -/
def validateLineageMode (scenarioId : ScenarioId) :
    TrialSemanticLineage → Except String Unit
  | .singleTrial _ =>
    require (scenarioId ≠ .recovery) "recovery semantics require matched-pair lineage"
  | .matchedPair _ =>
    require (scenarioId = .recovery) "single-trial scenarios require single-trial lineage"

/-- `TrialSemanticResult`, with `canonical_issue_order`. -/
def TrialSemanticResult.validate (trial : TrialSemanticResult) : Except String Unit := do
  require (isSafeCompilerCellKey E.unicode trial.cellKey = true) "cell_key"
  require (isCompilerBlock trial.block = true) "block"
  require (1 ≤ trial.replicate ∧ trial.replicate ≤ 1000) "replicate"
  require (1 ≤ trial.ordinal) "ordinal"
  require (isExternalIdentity E.unicode trial.traceId = true) "trace_id"
  require (isExternalIdentity E.unicode trial.cloneUniqueInstanceId = true)
    "clone_unique_instance_id"
  require (isExternalIdentity E.unicode trial.runnerResourceId = true) "runner_resource_id"
  trial.lineage.validate E
  trial.issues.forM (·.validate E)
  require (trial.issues.length ≤ 64) "issues"
  require (CanonicalIssues trial.issues) "issues must be unique and in canonical order"
  let expected ← expect (canonicalTrialKey E trial.specDigest trial.cellKey trial.block
    trial.replicate) "invalid compiler-owned trial coordinates"
  require (trial.trialKey = expected)
    "semantic trial_key does not match the compiler-owned trial coordinates"
  require (trial.lineage.subjectTrialKey = trial.trialKey)
    "semantic lineage subject does not match the containing trial"
  validateLineageMode trial.scenarioId trial.lineage
  require (∀ issue ∈ trial.issues, ∀ key ∈ issue.relatedTrialKeys, key = trial.trialKey)
    "trial issues may only reference their containing trial"
  validateIssueConstrainedSemantics trial.issues trial.semantics

/-- `trials_by_key[key]`, of a dictionary that has every related key. -/
def affectedTrials (issue : NormalizedIssue) (trialsByKey : Dict Digest TrialSemanticResult) :
    Except String (List TrialSemanticResult) :=
  if issue.relatedTrialKeys = [] then .ok trialsByKey.values
  else issue.relatedTrialKeys.mapM fun key => expect (trialsByKey.get? key) "KeyError"

/-- `_validate_issues_against_exact_trials`. -/
def validateIssuesAgainstExactTrials (issues : List NormalizedIssue)
    (trialsByKey : Dict Digest TrialSemanticResult) : Except String Unit :=
  issues.forM fun issue => do
    let affected ← affectedTrials issue trialsByKey
    affected.forM fun trial => validateIssueConstrainedSemantics [issue] trial.semantics

/-- `sorted(set(xs))`. -/
def sortedSet (xs : List Digest) : List Digest := xs.dedup.insertionSort (· ≤ ·)

/-- `ReplicateAgreement.canonical_summary`. -/
def ReplicateAgreement.validate (agreement : ReplicateAgreement) : Except String Unit := do
  require (1 ≤ agreement.semanticDigests.length ∧ agreement.semanticDigests.length ≤ 3)
    "semantic_digests"
  require (agreement.divergentTrialKeys.length ≤ 3) "divergent_trial_keys"
  require (sortedSet agreement.semanticDigests = agreement.semanticDigests)
    "semantic_digests must be unique and canonically ordered"
  require (sortedSet agreement.divergentTrialKeys = agreement.divergentTrialKeys)
    "divergent_trial_keys must be unique and canonically ordered"
  if agreement.disposition = .agreed then
    require (agreement.semanticDigests.length = 1 ∧ agreement.divergentTrialKeys = [])
      "agreed replicates require one digest and no divergence"
  else
    require (2 ≤ agreement.semanticDigests.length ∧ agreement.divergentTrialKeys.length = 3)
      "divergent replicates require all three trial keys and multiple semantics"

/-- One of the six conclusions is conflicting. -/
def SemanticVector.hasConflict (semantics : SemanticVector) : Bool :=
  decide (.conflicting ∈
      [semantics.target, semantics.compensator, semantics.path, semantics.benign])
    || decide (semantics.baseline = .conflicting) || decide (semantics.residual = .conflicting)

/-- The disposition that the replicates of a cell force. -/
def expectedDisposition (semanticDigests : List Digest) (trials : List TrialSemanticResult) :
    AgreementDisposition :=
  if semanticDigests.length = 1 then .agreed
  else if trials.any (·.semantics.hasConflict) then .conflicting
  else .nonRepeatable

def CellSemanticResult.trialsByKey (cell : CellSemanticResult) : Dict Digest TrialSemanticResult :=
  Dict.ofPairs (cell.trials.map fun trial => (trial.trialKey, trial))

/-- The issues of a cell and of its trials. -/
def CellSemanticResult.issueCount (cell : CellSemanticResult) : Nat :=
  cell.issues.length + (cell.trials.map (·.issues.length)).sum

/-- The conclusion of the cell is the one its replicates force. -/
def CellSemanticResult.validateAggregate (cell : CellSemanticResult) :
    AgreementDisposition → Except String Unit
  | .agreed =>
    require (∀ first ∈ cell.trials.head?, cell.semantics = first.semantics)
      "agreed cell semantics must equal every replicate"
  | .conflicting =>
    require (cell.semantics = allConflictingSemantics)
      "conflicting cells must not retain a positive conclusion"
  | .nonRepeatable =>
    require (cell.semantics = allNonRepeatableSemantics)
      "non-repeatable cells must not use majority-vote semantics"

/-- `CellSemanticResult`, with `exact_non_voting_aggregate`. -/
def CellSemanticResult.validate (cell : CellSemanticResult) : Except String Unit := do
  require (isSafeCompilerCellKey E.unicode cell.cellKey = true) "cell_key"
  require (cell.trials.length = 3) "trials"
  cell.trials.forM (·.validate E)
  cell.agreement.validate
  cell.issues.forM (·.validate E)
  require (cell.issues.length ≤ 64) "issues"
  require (cell.issueCount ≤ 128) "cell semantic issue tree exceeds the global cell limit"
  require (CanonicalIssues cell.issues) "issues must be unique and in canonical order"
  require (∀ trial ∈ cell.trials, trial.scenarioId = cell.scenarioId
      ∧ trial.specDigest = cell.specDigest ∧ trial.cellKey = cell.cellKey)
    "every semantic trial must match its cell"
  require ((cell.trials.map (·.replicate)).toFinset = {1, 2, 3})
    "a semantic cell requires replicates 1, 2, and 3"
  require (cell.trials.map (·.replicate) = [1, 2, 3])
    "semantic trials must be ordered by replicate"
  let trialKeys := (cell.trials.map (·.trialKey)).insertionSort (· ≤ ·)
  require (trialKeys.dedup.length = 3) "semantic trial keys must be unique within a cell"
  require (∀ issue ∈ cell.issues, ∀ key ∈ issue.relatedTrialKeys, key ∈ trialKeys)
    "cell issues reference a trial outside the cell"
  validateIssuesAgainstExactTrials cell.issues cell.trialsByKey
  let semanticDigests := sortedSet
    (cell.trials.map fun trial => E.canonicalDigest (.semantics trial.semantics))
  let disposition := expectedDisposition semanticDigests cell.trials
  require (cell.agreement.disposition = disposition)
    "replicate agreement does not match all three trials"
  require (cell.agreement.semanticDigests = semanticDigests)
    "replicate agreement carries the wrong semantic digests"
  require (cell.agreement.divergentTrialKeys
      = if disposition = .agreed then [] else trialKeys)
    "replicate agreement carries the wrong divergent trial keys"
  cell.validateAggregate disposition
  validateIssueConstrainedSemantics cell.issues cell.semantics

/-- `{trial.trial_key: cell for cell in cells for trial in cell.trials}`. -/
def trialToCell (cells : List CellSemanticResult) : Dict Digest CellSemanticResult :=
  Dict.ofPairs (cells.flatMap fun cell => cell.trials.map fun trial => (trial.trialKey, cell))

/-- `{trial.trial_key: trial for cell in cells for trial in cell.trials}`. -/
def trialsByKey (cells : List CellSemanticResult) : Dict Digest TrialSemanticResult :=
  Dict.ofPairs (cells.flatMap fun cell => cell.trials.map fun trial => (trial.trialKey, trial))

/-- The cells that an issue over several cells reaches. -/
def affectedCells (issue : NormalizedIssue) (cells : List CellSemanticResult) :
    Except String (List CellSemanticResult) :=
  if issue.relatedTrialKeys = [] then .ok cells
  else issue.relatedTrialKeys.mapM fun key => expect ((trialToCell cells).get? key) "KeyError"

/-- The last two loops over the issues of a scenario, and of a benchmark. -/
def validateIssuesOverCells (issues : List NormalizedIssue) (cells : List CellSemanticResult)
    (outside : String) : Except String Unit := do
  require (∀ issue ∈ issues, ∀ key ∈ issue.relatedTrialKeys, key ∈ (trialToCell cells).keys)
    outside
  validateIssuesAgainstExactTrials issues (trialsByKey cells)
  issues.forM fun issue => do
    let affected ← affectedCells issue cells
    affected.forM fun cell => validateIssueConstrainedSemantics [issue] cell.semantics

/-- The trials of a scenario. -/
def ScenarioSemanticResult.trials (scenario : ScenarioSemanticResult) :
    List TrialSemanticResult :=
  scenario.cells.flatMap (·.trials)

/-- The issues of a scenario, its cells and their trials. -/
def ScenarioSemanticResult.issueCount (scenario : ScenarioSemanticResult) : Nat :=
  scenario.issues.length + (scenario.cells.map (·.issueCount)).sum

/-- `ScenarioSemanticResult`, with `complete_unique_scenario`. -/
def ScenarioSemanticResult.validate (scenario : ScenarioSemanticResult) : Except String Unit := do
  require (scenario.cells.length = 16) "cells"
  scenario.cells.forM (·.validate E)
  scenario.issues.forM (·.validate E)
  require (scenario.issues.length ≤ 256) "issues"
  require (scenario.issueCount ≤ 256)
    "scenario semantic issue tree exceeds the global scenario limit"
  require (CanonicalIssues scenario.issues) "issues must be unique and in canonical order"
  require (∀ cell ∈ scenario.cells, cell.scenarioId = scenario.scenarioId
      ∧ cell.specDigest = scenario.specDigest)
    "every cell must match the scenario result"
  let cellKeys := scenario.cells.map (·.cellKey)
  require (cellKeys.dedup.length = 16) "scenario cell keys must be unique"
  require (cellKeys.Pairwise (· ≤ ·)) "scenario cells must be canonically ordered"
  let trials := scenario.trials
  require (trials.map (·.trialKey)).Nodup "scenario semantic trial keys must be unique"
  require (trials.map (·.traceId)).Nodup "scenario semantic trace ids must be unique"
  require (trials.map (·.cloneUniqueInstanceId)).Nodup
    "scenario semantic clone identities must be unique"
  require (trials.map (·.cloneReadbackDigest)).Nodup
    "scenario semantic clone readback digests must be unique"
  require (trials.map (·.attestationBundleDigest)).Nodup
    "scenario semantic attestation bundle digests must be unique"
  require (trials.map (·.ordinal)).Nodup "scenario semantic ordinals must be unique"
  require ((trials.map (·.ordinal)).insertionSort (· ≤ ·) = (List.range 48).map (· + 1))
    "scenario semantic ordinals must be exactly 1 through 48"
  require ((trials.map (·.block)).dedup.length = 1)
    "the fixed 48-trial scenario must use one declared runner block"
  validateIssuesOverCells scenario.issues scenario.cells
    "scenario issues reference a trial outside the scenario"

/-- The cells of a benchmark. -/
def BenchmarkSemanticResult.cells (result : BenchmarkSemanticResult) : List CellSemanticResult :=
  result.scenarios.flatMap (·.cells)

/-- The trials of a benchmark. -/
def BenchmarkSemanticResult.trials (result : BenchmarkSemanticResult) :
    List TrialSemanticResult :=
  result.cells.flatMap (·.trials)

def BenchmarkSemanticResult.issueCount (result : BenchmarkSemanticResult) : Nat :=
  result.issues.length + (result.scenarios.map (·.issueCount)).sum

/-- `BenchmarkSemanticResult`, with `complete_unique_benchmark`. -/
def BenchmarkSemanticResult.validate (result : BenchmarkSemanticResult) : Except String Unit := do
  require (isPortableId 128 result.benchmarkId = true) "benchmark_id"
  require (isPortableVersion result.benchmarkVersion = true) "benchmark_version"
  require (isPortableId 256 result.evaluatorId = true) "evaluator_id"
  require (result.scenarios.length = 3) "scenarios"
  result.scenarios.forM (·.validate E)
  result.issues.forM (·.validate E)
  require (result.issues.length ≤ 512) "issues"
  require (result.issueCount ≤ 512)
    "benchmark semantic issue tree exceeds the global benchmark limit"
  require (CanonicalIssues result.issues) "issues must be unique and in canonical order"
  let scenarioIds := result.scenarios.map (·.scenarioId)
  require (scenarioIds.dedup.length = 3) "benchmark scenario identities must be unique"
  require ((result.scenarios.map (·.specDigest)).dedup.length = 3)
    "benchmark specification digests must be unique"
  require ((result.scenarios.map (·.rawTrialSetDigest)).dedup.length = 3)
    "benchmark raw trial sets must not be reused"
  require ((scenarioIds.map (·.value)).Pairwise (· ≤ ·))
    "benchmark scenarios must be canonically ordered"
  require (scenarioIds = benchmarkScenarioIds)
    "benchmark must contain the exact frozen lifecycle scenarios"
  let trials := result.trials
  require ((trials.map (·.trialKey)).dedup.length = 144)
    "benchmark trial keys must be globally unique"
  require ((trials.map (·.traceId)).dedup.length = 144)
    "benchmark trace ids must be globally unique"
  require ((trials.map (·.cloneUniqueInstanceId)).dedup.length = 144)
    "benchmark clone identities must be globally unique"
  require ((trials.map (·.cloneReadbackDigest)).dedup.length = 144)
    "benchmark clone readback digests must be globally unique"
  require ((trials.map (·.attestationBundleDigest)).dedup.length = 144)
    "benchmark attestation bundle digests must be globally unique"
  validateIssuesOverCells result.issues result.cells
    "benchmark issues reference a trial outside the benchmark"

end

end ControlAssurance.Benchmark
