import Mathlib.Data.Finset.Lattice.Basic
import ControlAssurance.Experiment.Contract
import ControlAssurance.Lib.Dict

/-!
# Incident lifecycles

The record of an incident's detection, response and recovery: the branch that happened and a
matched comparison, each a chain of snapshots with one transition between neighbours.
`verify_lifecycle` checks both chains and what they may share.

A model carries its own validator as a field, so a value of it has passed. SHA-256 and the
canonical JSON of a snapshot and of a transition body are parameters. Two models are equal in the
source when their fields are, and datetimes when their instants are: `DisclosureEntry.key`.
-/

namespace ControlAssurance.Incident

open Lib
open Experiment (AwareDatetime)

abbrev Bytes := List UInt8

inductive LifecyclePhase where
  | sourceBound
  | detectionClosed
  | responseProbed
  | restoreApplied
  | sessionRotated
  | retested
  | finalized
deriving DecidableEq

/-- `_PHASE_RANK`. -/
def LifecyclePhase.rank : LifecyclePhase → Nat
  | .sourceBound => 0
  | .detectionClosed => 1
  | .responseProbed => 2
  | .restoreApplied => 3
  | .sessionRotated => 4
  | .retested => 5
  | .finalized => 6

inductive BranchKind where
  | actual
  | matchedComparison
deriving DecidableEq

inductive CompromisedSessionState where
  | active
  | revoked
  | unknown
deriving DecidableEq

inductive QuarantineState where
  | normal
  | quarantined
  | unknown
deriving DecidableEq

inductive ReplacementSessionState where
  | none
  | active
  | revoked
  | unknown
deriving DecidableEq

inductive ConfidentialityStatus where
  | noneObservedOnTestedBranch
  | priorDisclosureOccurred
  | unknown
deriving DecidableEq

inductive LifecycleAction where
  | bindSource
  | closeDetection
  | probeResponse
  | applyRestore
  | rotateSession
  | retest
  | finalize
deriving DecidableEq

/-- `_ACTION_DESTINATION`. -/
def LifecycleAction.destination : LifecycleAction → LifecyclePhase
  | .bindSource => .sourceBound
  | .closeDetection => .detectionClosed
  | .probeResponse => .responseProbed
  | .applyRestore => .restoreApplied
  | .rotateSession => .sessionRotated
  | .retest => .retested
  | .finalize => .finalized

/-- `_ACTION_ORIGIN`. -/
def LifecycleAction.origin : LifecycleAction → LifecyclePhase
  | .bindSource => .sourceBound
  | .closeDetection => .sourceBound
  | .probeResponse => .detectionClosed
  | .applyRestore => .responseProbed
  | .rotateSession => .restoreApplied
  | .retest => .sessionRotated
  | .finalize => .retested

inductive FinalizationDisposition where
  | lifecycleCompleted
  | noRelatedAlert
deriving DecidableEq

/-! ## Models -/

structure DisclosureEntry where
  recordToken : String
  firstDeliveryTraceId : String
  firstDeliveryEventDigest : Digest
  firstObservedAt : AwareDatetime
deriving DecidableEq

abbrev ReceiptKey := String × String × Digest × Int

/-- `_entry_key`: all four fields, the time as an instant. -/
def DisclosureEntry.key (entry : DisclosureEntry) : ReceiptKey :=
  (entry.recordToken, entry.firstDeliveryTraceId, entry.firstDeliveryEventDigest,
    entry.firstObservedAt.utc)

/-- `sorted_unique_entries`. -/
def checkLedger (entries : List DisclosureEntry) : Except String Unit := do
  let tokens := entries.map (·.recordToken)
  require tokens.Nodup "disclosure ledger record tokens must be unique"
  require (tokens.Pairwise (· ≤ ·)) "disclosure ledger entries must be sorted by record token"

structure DisclosureLedger where
  entries : List DisclosureEntry
  sorted : checkLedger entries = .ok ()
deriving DecidableEq

structure SnapshotFields where
  incidentId : String
  branchId : String
  branchKind : BranchKind
  ordinal : ℕ+
  phase : LifecyclePhase
  sourcePreventionBundleId : Digest
  sourceTrialKey : Digest
  sourceTraceId : String
  entitlementSetDigest : Digest
  compromisedSessionDigest : Digest
  compromisedSessionState : CompromisedSessionState
  quarantineState : QuarantineState
  replacementSessionDigest : Option Digest
  replacementSessionState : ReplacementSessionState
  replacementEntitlementDigest : Option Digest
  confidentialityStatus : ConfidentialityStatus
  disclosureLedger : DisclosureLedger
  lastAlertId : Option String
  observedAt : AwareDatetime
  previousSnapshotDigest : Option Digest
  evidenceIds : List Digest
deriving DecidableEq

/-- `IncidentSnapshot.internally_coherent`. -/
def SnapshotFields.validate (s : SnapshotFields) : Except String Unit := do
  require (s.evidenceIds.length ≤ 256) "evidence_ids"
  require s.evidenceIds.Nodup "snapshot evidence ids must be unique"
  require (s.evidenceIds.Pairwise (· ≤ ·)) "snapshot evidence ids must be sorted"
  let hasDisclosure := s.disclosureLedger.entries ≠ []
  require (hasDisclosure → s.confidentialityStatus = .priorDisclosureOccurred)
    "a non-empty disclosure ledger requires prior_disclosure_occurred"
  require (¬hasDisclosure → s.confidentialityStatus ≠ .priorDisclosureOccurred)
    "prior_disclosure_occurred requires a disclosure ledger entry"
  match s.replacementSessionState with
  | .none =>
    require (s.replacementSessionDigest = none ∧ s.replacementEntitlementDigest = none)
      "replacement state none cannot carry replacement material"
  | .active | .revoked =>
    require (s.replacementSessionDigest ≠ none ∧ s.replacementEntitlementDigest ≠ none)
      "an active or revoked replacement requires session and entitlement digests"
  | .unknown =>
    require (¬(s.replacementSessionDigest = none ∧ s.replacementEntitlementDigest ≠ none))
      "replacement entitlement cannot exist without a replacement session"

structure IncidentSnapshot extends SnapshotFields where
  coherent : toSnapshotFields.validate = .ok ()
deriving DecidableEq

structure TransitionFields where
  caseSpecDigest : Digest
  incidentId : String
  branchId : String
  ordinal : ℕ+
  action : LifecycleAction
  fromSnapshotDigest : Digest
  toSnapshotDigest : Digest
  previousTransitionDigest : Option Digest
  factorAssignmentDigest : Digest
  traceId : String
  startedAt : AwareDatetime
  endedAt : AwareDatetime
  eventArtifactIds : List Digest
  attestationBundleDigest : Digest
  cleanupBundleDigest : Digest
  finalizationDisposition : Option FinalizationDisposition
  finalizationReason : Option String
deriving DecidableEq

/-- `IncidentTransitionBody.internally_coherent`. -/
def TransitionFields.validate (t : TransitionFields) : Except String Unit := do
  require (1 ≤ t.eventArtifactIds.length ∧ t.eventArtifactIds.length ≤ 256) "event_artifact_ids"
  require (¬t.endedAt.utc ≤ t.startedAt.utc) "lifecycle transition must have positive duration"
  require t.eventArtifactIds.Nodup "transition event artifact ids must be unique"
  require (t.eventArtifactIds.Pairwise (· ≤ ·)) "transition event artifact ids must be sorted"
  let isFinal := t.action = .finalize
  require (isFinal → t.finalizationDisposition ≠ none ∧ t.finalizationReason ≠ none)
    "finalize requires an explicit disposition and reason"
  require (¬isFinal → t.finalizationDisposition = none ∧ t.finalizationReason = none)
    "only finalize can carry a finalization disposition"

structure IncidentTransitionBody extends TransitionFields where
  coherent : toTransitionFields.validate = .ok ()
deriving DecidableEq

/-- `IncidentTransitionRecord`: a body and the id it is known under. -/
structure IncidentTransitionRecord extends IncidentTransitionBody where
  transitionId : Digest
deriving DecidableEq

structure IncidentBranch where
  branchKind : BranchKind
  snapshots : List IncidentSnapshot
  transitions : List IncidentTransitionRecord
  started : snapshots ≠ []
deriving DecidableEq

def IncidentBranch.first (branch : IncidentBranch) : IncidentSnapshot :=
  branch.snapshots.head branch.started

def IncidentBranch.head (branch : IncidentBranch) : IncidentSnapshot :=
  branch.snapshots.getLast branch.started

structure IncidentLifecycle where
  actual : IncidentBranch
  matchedComparison : IncidentBranch
  currentSnapshotDigest : Digest
deriving DecidableEq

structure AdmittedReceiptEvidence where
  recordToken : String
  deliveryTraceId : String
  deliveryEventDigest : Digest
  observedAt : AwareDatetime
deriving DecidableEq

/-- `_receipt_key` of a receipt. -/
def AdmittedReceiptEvidence.key (receipt : AdmittedReceiptEvidence) : ReceiptKey :=
  (receipt.recordToken, receipt.deliveryTraceId, receipt.deliveryEventDigest,
    receipt.observedAt.utc)

structure VerifiedLifecycle where
  incidentId : String
  currentSnapshotDigest : Digest
  actualHeadDigest : Digest
  matchedComparisonHeadDigest : Digest
  actualTransitionIds : List Digest
  matchedComparisonTransitionIds : List Digest
deriving DecidableEq

/-! ## Digests -/

/-- SHA-256, and the canonical JSON of a dumped snapshot and transition body; JSON beyond the
configured limits is refused. -/
structure LifecycleRuntime where
  sha256 : Bytes → Digest
  snapshotJson : IncidentSnapshot → Except String Bytes
  transitionJson : IncidentTransitionBody → Except String Bytes

variable (R : LifecycleRuntime)

/-- `incident_snapshot_digest`. -/
def incidentSnapshotDigest (snapshot : IncidentSnapshot) : Except String Digest := do
  let document ← R.snapshotJson snapshot
  pure (R.sha256 document)

/-- `incident_transition_digest`. -/
def incidentTransitionDigest (transition : IncidentTransitionRecord) : Except String Digest := do
  let document ← R.transitionJson transition.toIncidentTransitionBody
  pure (R.sha256 document)

/-! ## One branch -/

/-- `_branch_identity`; the principal is a literal of the model. -/
def branchIdentity (snapshot : IncidentSnapshot) : String × Digest × Digest × String × Digest :=
  (snapshot.incidentId, snapshot.sourcePreventionBundleId, snapshot.sourceTrialKey,
    snapshot.sourceTraceId, snapshot.compromisedSessionDigest)

/-- `_verify_replacement`. -/
def verifyReplacement (snapshot : IncidentSnapshot) : Except String Unit :=
  require (snapshot.replacementSessionDigest ≠ some snapshot.compromisedSessionDigest)
    "replacement session must be distinct from the compromised session"

/-- The entry of a ledger under a token. -/
def DisclosureLedger.entry? (ledger : DisclosureLedger) (token : String) :
    Option DisclosureEntry :=
  ledger.entries.find? fun entry => decide (entry.recordToken = token)

/-- A disclosure that a ledger does not carry over: it is receipted, evidenced and in time. -/
def verifyNewDisclosure (receiptKeys : List ReceiptKey) (evidenceIds : List Digest)
    (observedAfter : Option Int) (observedBefore : Int) (entry : DisclosureEntry) :
    Except String Unit := do
  require (entry.key ∈ receiptKeys) "new disclosure requires matching admitted receipt evidence"
  require (entry.firstDeliveryEventDigest ∈ evidenceIds)
    "new disclosure receipt must be referenced by the admitting evidence"
  require (∀ after ∈ observedAfter, ¬entry.firstObservedAt.utc < after)
    "new disclosure receipt predates the transition that admits it"
  require (¬observedBefore < entry.firstObservedAt.utc)
    "new disclosure receipt postdates the snapshot that records it"

/-- `_verify_disclosure_delta`, from the entries of the prior ledger. -/
def verifyDisclosureDelta (prior : List DisclosureEntry) (current : DisclosureLedger)
    (receiptKeys : List ReceiptKey) (evidenceIds : List Digest) (observedAfter : Option Int)
    (observedBefore : Int) : Except String Unit := do
  require (∀ entry ∈ prior, (current.entry? entry.recordToken).isSome = true)
    "disclosure ledger entries cannot be removed"
  require (∀ entry ∈ prior, (current.entry? entry.recordToken).map (·.key) = some entry.key)
    "disclosure ledger entries cannot be rewritten"
  (current.entries.filter fun entry =>
      decide (entry.recordToken ∉ prior.map (·.recordToken))).forM
    (verifyNewDisclosure receiptKeys evidenceIds observedAfter observedBefore)

/-- `_verify_phase_transition`. -/
def verifyPhaseTransition (branchKind : BranchKind) (source target : IncidentSnapshot)
    (transition : IncidentTransitionRecord) : Except String Unit := do
  require (¬target.phase.rank < source.phase.rank) "lifecycle phase rollback is not allowed"
  require (target.phase = transition.action.destination)
    "transition action does not match destination phase"
  if source.phase = transition.action.origin then
    require (transition.action = .finalize →
        transition.finalizationDisposition = some .lifecycleCompleted)
      "normal finalization requires lifecycle_completed disposition"
  else
    require (branchKind = .actual ∧ source.phase = .detectionClosed ∧ target.phase = .finalized
        ∧ transition.action = .finalize
        ∧ transition.finalizationDisposition = some .noRelatedAlert
        ∧ source.lastAlertId = none ∧ target.lastAlertId = none)
      "transition skipped a required lifecycle phase"

/-- The checks on the source-bound snapshot, before the loop. -/
def verifyFirst (branch : IncidentBranch) (receiptKeys : List ReceiptKey) :
    Except String Unit := do
  let first := branch.first
  require (branch.branchKind = first.branchKind) "branch kind does not match its snapshots"
  require (¬(first.ordinal ≠ 1 ∨ first.phase ≠ .sourceBound))
    "a lifecycle branch must begin at source_bound ordinal 1"
  require (first.previousSnapshotDigest = none)
    "the source-bound snapshot cannot have a predecessor"
  require (first.compromisedSessionState = .active)
    "the source-bound snapshot must begin with the compromised session active"
  require (first.quarantineState = .normal)
    "the source-bound snapshot must begin before principal quarantine"
  require (first.lastAlertId = none) "the source-bound snapshot cannot claim a later detection alert"
  require (branch.transitions.length = branch.snapshots.length - 1)
    "each adjacent snapshot pair requires one transition"
  verifyReplacement first
  verifyDisclosureDelta [] first.disclosureLedger receiptKeys first.evidenceIds none
    first.observedAt.utc

/-- `previous_replacement` and `previous_replacement_state`. -/
structure ReplacementTrack where
  replacement : Option Digest := none
  state : ReplacementSessionState := .none
deriving DecidableEq

/-- A snapshot against the replacement session before it. -/
def trackReplacement (track : ReplacementTrack) (snapshot : IncidentSnapshot) :
    Except String ReplacementTrack := do
  let replacement := snapshot.replacementSessionDigest
  require (track.replacement ≠ none → replacement = track.replacement)
    "replacement session identity cannot change after rotation"
  require (track.state = .revoked → snapshot.replacementSessionState = .revoked)
    "a revoked replacement session cannot reactivate"
  require (¬((track.state = .active ∨ track.state = .revoked)
      ∧ snapshot.replacementSessionState = .unknown))
    "a known replacement session state cannot regress to unknown"
  pure ⟨replacement <|> track.replacement, snapshot.replacementSessionState⟩

/-- `is_no_alert_final`, of the transition that leads to a snapshot. -/
def isNoAlertFinal (transition : Option IncidentTransitionRecord) (snapshot : IncidentSnapshot) :
    Bool :=
  decide (snapshot.phase = .finalized) && transition.any fun t =>
    decide (t.action = .finalize ∧ t.finalizationDisposition = some .noRelatedAlert)

/-- What a phase asks of the sessions. -/
def verifySessions (noAlertFinal : Bool) (snapshot : IncidentSnapshot) : Except String Unit := do
  require (¬(snapshot.phase.rank < LifecyclePhase.sessionRotated.rank
      ∧ snapshot.replacementSessionDigest ≠ none))
    "a replacement session cannot exist before rotate_session"
  if LifecyclePhase.sessionRotated.rank ≤ snapshot.phase.rank ∧ noAlertFinal = false then do
    require (snapshot.compromisedSessionState = .revoked)
      "session_rotated and later snapshots require the compromised session revoked"
    require (snapshot.replacementSessionDigest ≠ none)
      "session_rotated and later snapshots require a replacement session"
    require (snapshot.replacementSessionState = .active)
      "session_rotated and later snapshots require an active replacement session"
    require (snapshot.replacementEntitlementDigest = some snapshot.entitlementSetDigest)
      "replacement entitlement must equal the restored current entitlement"
    require (snapshot.quarantineState = .normal)
      "session_rotated and later snapshots require principal quarantine released"
  else pure ()

/-- The links between two neighbouring snapshots and their transition. -/
def verifyLinks (first previous snapshot : IncidentSnapshot) (index : Nat)
    (transition : IncidentTransitionRecord) (previousTransition : Option Digest) :
    Except String Unit := do
  let previousDigest ← incidentSnapshotDigest R previous
  let currentDigest ← incidentSnapshotDigest R snapshot
  require (snapshot.previousSnapshotDigest = some previousDigest)
    "snapshot predecessor digest is broken"
  require (¬snapshot.observedAt.utc < previous.observedAt.utc)
    "snapshot observation times must be monotone"
  require (transition.ordinal.val = index) "transition ordinals must be contiguous from one"
  require (transition.incidentId = first.incidentId ∧ transition.branchId = first.branchId)
    "transition crossed its incident or branch boundary"
  require (transition.fromSnapshotDigest = previousDigest)
    "transition input is not the preceding snapshot"
  require (transition.toSnapshotDigest = currentDigest)
    "transition output is not the following snapshot"
  require (¬transition.startedAt.utc < previous.observedAt.utc)
    "transition starts before its input snapshot"
  require (¬snapshot.observedAt.utc < transition.endedAt.utc)
    "transition ends after its output snapshot"
  require (transition.eventArtifactIds ⊆ snapshot.evidenceIds)
    "transition event artifacts must be bound into the target snapshot"
  require (transition.previousTransitionDigest = previousTransition)
    "transition predecessor digest is broken"
  let transitionDigest ← incidentTransitionDigest R transition
  require (transition.transitionId = transitionDigest) "transition content address is invalid"

/-- What may change between two neighbouring snapshots. -/
def verifyChanges (branchKind : BranchKind) (receiptKeys : List ReceiptKey)
    (previous snapshot : IncidentSnapshot) (transition : IncidentTransitionRecord) :
    Except String Unit := do
  verifyPhaseTransition branchKind previous snapshot transition
  require (snapshot.entitlementSetDigest ≠ previous.entitlementSetDigest →
      transition.action = .applyRestore)
    "entitlement set can change only during apply_restore"
  require (snapshot.lastAlertId ≠ previous.lastAlertId →
      transition.action = .closeDetection ∧ previous.lastAlertId = none
        ∧ snapshot.lastAlertId ≠ none)
    "alert identity can only be established during close_detection and cannot later change or disappear"
  require (snapshot.compromisedSessionState ≠ previous.compromisedSessionState →
      transition.action = .probeResponse ∧ previous.compromisedSessionState = .active
        ∧ snapshot.compromisedSessionState = .revoked)
    "compromised session state can only change active to revoked during probe_response"
  verifyDisclosureDelta previous.disclosureLedger.entries snapshot.disclosureLedger receiptKeys
    transition.eventArtifactIds (some transition.startedAt.utc) transition.endedAt.utc
  if transition.action = .rotateSession then do
    require (snapshot.replacementSessionState = .active)
      "rotate_session must produce an active replacement session"
    require (snapshot.compromisedSessionState = .revoked)
      "rotate_session must revoke the compromised session"
  else pure ()

/-- `transitions[i]`. -/
def transitionAt (branch : IncidentBranch) (i : Nat) : Except String IncidentTransitionRecord :=
  expect branch.transitions[i]? "IndexError"

/-- `expected_previous_transition`. -/
def previousTransitionId (branch : IncidentBranch) (index : Nat) : Except String (Option Digest) :=
  if index = 1 then pure none
  else (transitionAt branch (index - 2)).map fun t => some t.transitionId

/-- The transition into a snapshot that has a predecessor. -/
def verifyStep (branch : IncidentBranch) (receiptKeys : List ReceiptKey)
    (snapshot : IncidentSnapshot) (index : Nat) : Except String Unit := do
  let previous ← expect branch.snapshots[index - 1]? "IndexError"
  let transition ← transitionAt branch (index - 1)
  let previousTransition ← previousTransitionId branch index
  verifyLinks R branch.first previous snapshot index transition previousTransition
  verifyChanges branch.branchKind receiptKeys previous snapshot transition

/-- One snapshot in the loop of `_verify_branch`. -/
def verifySnapshot (branch : IncidentBranch) (receiptKeys : List ReceiptKey)
    (track : ReplacementTrack) (entry : IncidentSnapshot × Nat) :
    Except String ReplacementTrack := do
  let (snapshot, index) := entry
  require (snapshot.ordinal.val = index + 1) "snapshot ordinals must be contiguous from one"
  require (snapshot.branchKind = branch.branchKind ∧ snapshot.branchId = branch.first.branchId)
    "snapshot crossed its declared branch boundary"
  require (branchIdentity snapshot = branchIdentity branch.first)
    "incident, source, principal, or compromised session changed within a branch"
  verifyReplacement snapshot
  let track ← trackReplacement track snapshot
  verifySessions (isNoAlertFinal (if index = 0 then none else branch.transitions[index - 1]?)
    snapshot) snapshot
  if index = 0 then pure track
  else do
    verifyStep R branch receiptKeys snapshot index
    pure track

/-- Two lists have no element in common. -/
def Apart {α : Type} (l l' : List α) : Prop := ∀ a ∈ l, a ∉ l'

instance {α : Type} [DecidableEq α] (l l' : List α) : Decidable (Apart l l') :=
  inferInstanceAs (Decidable (∀ a ∈ l, a ∉ l'))

/-- The bundles of the transitions of a branch. -/
def IncidentBranch.bundleIds (branch : IncidentBranch) : List Digest :=
  branch.transitions.flatMap fun t => [t.attestationBundleDigest, t.cleanupBundleDigest]

def IncidentBranch.eventArtifactIds (branch : IncidentBranch) : List Digest :=
  branch.transitions.flatMap (·.eventArtifactIds)

/-- The checks after the loop: nothing is used twice. -/
def verifyReuse (branch : IncidentBranch) : Except String Unit := do
  let first := branch.first
  require (¬1 < (branch.transitions.map (·.caseSpecDigest)).dedup.length)
    "case specification changed within a branch"
  require ((branch.transitions.map (·.traceId)).Nodup)
    "transition traces cannot be reused within a branch"
  require branch.eventArtifactIds.Nodup
    "transition event artifacts cannot be reused within a branch"
  require branch.bundleIds.Nodup
    "attestation and cleanup bundles cannot be reused within a branch"
  require (first.sourceTraceId ∉ branch.transitions.map (·.traceId))
    "post-fork transitions cannot reuse the source trace"
  require (first.sourcePreventionBundleId ∉ branch.bundleIds)
    "post-fork transitions cannot reuse the source prevention bundle"
  require (Apart (first.evidenceIds
      ++ first.disclosureLedger.entries.map (·.firstDeliveryEventDigest)) branch.eventArtifactIds)
    "post-fork transitions cannot reuse source-fixture event evidence"

/-- `_verify_branch`. -/
def verifyBranch (branch : IncidentBranch) (receiptKeys : List ReceiptKey) :
    Except String Unit := do
  verifyFirst branch receiptKeys
  let _ ← branch.snapshots.zipIdx.foldlM (verifySnapshot R branch receiptKeys) {}
  verifyReuse branch

/-! ## Two branches -/

/-- What identifies an event of a branch. -/
inductive EventKey where
  | artifact (id : Digest)
  | alert (id : String)
  | delivery (digest : Digest)
  | trace (id : String)
  | bundle (id : Digest)
deriving DecidableEq

/-- The keys of a snapshot after the fork. -/
def snapshotEventKeys (source snapshot : IncidentSnapshot) : List EventKey :=
  (snapshot.evidenceIds.filter fun id => decide (id ∉ source.evidenceIds)).map .artifact
    ++ (snapshot.lastAlertId.map EventKey.alert).toList
    ++ (snapshot.disclosureLedger.entries.filter fun entry =>
        decide ((source.disclosureLedger.entry? entry.recordToken).map (·.key) ≠ some entry.key)).map
      fun entry => .delivery entry.firstDeliveryEventDigest

def transitionEventKeys (t : IncidentTransitionRecord) : List EventKey :=
  .trace t.traceId :: t.eventArtifactIds.map .artifact
    ++ [.bundle t.attestationBundleDigest, .bundle t.cleanupBundleDigest]

/-- `_branch_event_keys`. -/
def branchEventKeys (branch : IncidentBranch) : List EventKey :=
  branch.snapshots.tail.flatMap (snapshotEventKeys branch.first)
    ++ branch.transitions.flatMap transitionEventKeys

def disclosedKeys (branch : IncidentBranch) : List ReceiptKey :=
  branch.snapshots.flatMap fun snapshot => snapshot.disclosureLedger.entries.map (·.key)

def replacementDigests (branch : IncidentBranch) : List Digest :=
  branch.snapshots.filterMap (·.replacementSessionDigest)

/-- What the two branches must and must not have in common. -/
def verifyPair (actual comparison : IncidentBranch) (receiptKeys : List ReceiptKey) :
    Except String Unit := do
  require (receiptKeys.toFinset = (disclosedKeys actual ++ disclosedKeys comparison).toFinset)
    "admitted receipt evidence must exactly match disclosed ledger entries"
  require (actual.first.branchId ≠ comparison.first.branchId)
    "actual and comparison branch ids must differ"
  require (branchIdentity actual.first = branchIdentity comparison.first)
    "comparison is not matched to the same incident and preventive source"
  require (actual.first.entitlementSetDigest = comparison.first.entitlementSetDigest)
    "comparison is not matched to the same source entitlement set"
  require ((actual.transitions.map (·.caseSpecDigest)).toFinset
      = (comparison.transitions.map (·.caseSpecDigest)).toFinset)
    "branches do not share one case specification"
  require (Apart (actual.transitions.map (·.factorAssignmentDigest))
      (comparison.transitions.map (·.factorAssignmentDigest)))
    "matched branches require distinct factor assignments"
  require (Apart (branchEventKeys actual) (branchEventKeys comparison))
    "actual and comparison branches cannot reuse event or transition-bundle evidence"
  require (Apart (replacementDigests actual) (replacementDigests comparison))
    "actual and comparison branches require distinct replacement sessions"

/-- The claim about the current snapshot: the head of the actual branch. -/
def verifyCurrent (lifecycle : IncidentLifecycle) : Except String Digest := do
  let actualDigests ← lifecycle.actual.snapshots.mapM (incidentSnapshotDigest R)
  let comparisonDigests ← lifecycle.matchedComparison.snapshots.mapM (incidentSnapshotDigest R)
  require (lifecycle.currentSnapshotDigest ∉ comparisonDigests)
    "a matched-comparison snapshot cannot qualify as current evidence"
  let headDigest ← incidentSnapshotDigest R lifecycle.actual.head
  require (lifecycle.currentSnapshotDigest = headDigest)
    (if lifecycle.currentSnapshotDigest ∈ actualDigests then
      "only the actual branch head can qualify as current evidence"
    else "current snapshot is not part of the actual branch")
  pure headDigest

/-- `verify_lifecycle`. -/
def verifyLifecycle (lifecycle : IncidentLifecycle)
    (admittedReceipts : List AdmittedReceiptEvidence) : Except String VerifiedLifecycle := do
  let actual := lifecycle.actual
  let comparison := lifecycle.matchedComparison
  require (actual.branchKind = .actual) "actual slot requires an actual branch"
  require (comparison.branchKind = .matchedComparison)
    "matched_comparison slot requires a matched-comparison branch"
  let receiptKeys : List ReceiptKey := admittedReceipts.map (·.key)
  require receiptKeys.Nodup "admitted receipt evidence must be unique"
  verifyBranch R actual receiptKeys
  verifyBranch R comparison receiptKeys
  verifyPair actual comparison receiptKeys
  let headDigest ← verifyCurrent R lifecycle
  let comparisonHead ← incidentSnapshotDigest R comparison.head
  pure ⟨actual.first.incidentId, lifecycle.currentSnapshotDigest, headDigest, comparisonHead,
    actual.transitions.map (·.transitionId), comparison.transitions.map (·.transitionId)⟩

end ControlAssurance.Incident
