import ControlAssurance.Values

/-!
# Control-plane models

The records of `control_plane/models.py`. A `ControlConfiguration` is an
immutable value; its canonical bytes and the value determine each other, so a
row that stores configuration bytes stores the value here. Every identity of
the service is the SHA-256 digest of one canonical JSON body; `Document` lists
these bodies, and the digest is a parameter `sha : Document → Digest` of
everything that uses it. Nothing below assumes more about `sha` than that it
is a function.

The immutable columns of a revision and of a deployment operation are records
of their own (`RevisionContent`, `OperationRequest`), so that an update that
does not touch them leaves them untouched by definition.
-/

namespace ControlAssurance.ControlPlane

inductive RevisionState where
  | draft | submitted | approved | rejected | retired
deriving DecidableEq

inductive Role where
  | viewer | editor | approver | deployer | auditor | administrator
deriving DecidableEq

inductive Environment where
  | development | test | staging | production
deriving DecidableEq

inductive OperationState where
  | pending | leased | applied | failed
deriving DecidableEq

inductive OperationKind where
  | apply | rollback
deriving DecidableEq

inductive Verdict where
  | approved | rejected
deriving DecidableEq

inductive AuditAction where
  | revisionCreated | revisionSubmitted | revisionApproved | revisionRejected
  | revisionActivated | deploymentRetryRequested | deploymentRollbackRequested
  | deploymentLeased | deploymentApplied | deploymentFailed
deriving DecidableEq

/-- One authenticated institutional identity and its effective roles. -/
structure Actor where
  tenantId : String
  subject : String
  displayName : String
  roles : List Role
  groups : List String
  authenticatedAt : Time
  sessionIdDigest : Digest
  mfa : Bool
deriving DecidableEq

/-- A tenant-scoped workload identity. -/
structure DeploymentWorkerIdentity where
  tenantId : String
  workerId : String
  credentialDigest : Digest
deriving DecidableEq

def DeploymentWorkerIdentity.subject (w : DeploymentWorkerIdentity) : String :=
  "deployment-worker:" ++ w.workerId

def DeploymentWorkerIdentity.sessionIdDigest (w : DeploymentWorkerIdentity) : Digest :=
  w.credentialDigest

/-! ## Configurations -/

structure ElasticSourceConfiguration where
  endpointOrigin : String
  indexAlias : String
  parentCredentialRef : String
  leaseTtlSeconds : Nat
  caBundleRef : Option String
deriving DecidableEq

inductive DefenderCloud where
  | global | usGovernmentL4 | usGovernmentL5
deriving DecidableEq

structure DefenderSourceConfiguration where
  cloud : DefenderCloud
  tenantId : String
  clientId : String
  clientCredentialRef : String
deriving DecidableEq

inductive SourceConfiguration where
  | elastic (c : ElasticSourceConfiguration)
  | defender (c : DefenderSourceConfiguration)
deriving DecidableEq

/-- A schedule that passed its validators: the field ranges, and
`validate_window`. -/
structure ScheduleConfiguration where
  intervalSeconds : Nat
  collectionLagSeconds : Nat
  windowSeconds : Nat
  interval_range : 60 ≤ intervalSeconds ∧ intervalSeconds ≤ 86400
  lag_range : collectionLagSeconds ≤ 3600
  window_range : 60 ≤ windowSeconds ∧ windowSeconds ≤ 86400
  window_le_interval : windowSeconds ≤ intervalSeconds
deriving DecidableEq

structure EvidenceConfiguration where
  custodyRef : String
  signingKeyRef : String
  retentionDays : Nat
  legalHold : Bool
deriving DecidableEq

/-- One deployable, read-only assurance control. -/
structure ControlConfiguration where
  tenantId : String
  controlId : String
  displayName : String
  description : String
  environment : Environment
  ownerGroup : String
  controlProfileId : String
  controlProfileDigest : Digest
  source : SourceConfiguration
  schedule : ScheduleConfiguration
  evidence : EvidenceConfiguration
  enabled : Bool
deriving DecidableEq

/-! ## Rows -/

/-- The columns `revisions_immutable_content` protects. -/
structure RevisionContent where
  revisionId : Digest
  tenantId : String
  controlId : String
  generation : Nat
  parentRevisionId : Option Digest
  configurationDigest : Digest
  configurationBytes : ControlConfiguration
  createdBy : String
  createdAt : Time
deriving DecidableEq

structure ConfigurationRevision extends RevisionContent where
  state : RevisionState
  stateVersion : Nat
  submittedAt : Option Time
  decidedAt : Option Time
deriving DecidableEq

structure ApprovalDecision where
  decisionId : Digest
  revisionId : Digest
  tenantId : String
  decision : Verdict
  decidedBy : String
  decidedAt : Time
  comment : String
  actorSessionDigest : Digest
deriving DecidableEq

/-- The desired-selection pointer of one control. -/
structure ActiveDeployment where
  tenantId : String
  controlId : String
  revisionId : Digest
  configurationDigest : Digest
  activatedBy : String
  activatedAt : Time
  deploymentVersion : Nat
deriving DecidableEq

/-- The columns `deployment_operations_immutable_request` protects. -/
structure OperationRequest where
  operationId : Digest
  tenantId : String
  controlId : String
  operationSequence : Nat
  kind : OperationKind
  revisionId : Digest
  configurationDigest : Digest
  predecessorOperationId : Option Digest
  retryOfOperationId : Option Digest
  requestedBy : String
  requestedAt : Time
  requesterSessionDigest : Digest
deriving DecidableEq

/-- One durable request to make an exact immutable revision effective. -/
structure DeploymentOperation extends OperationRequest where
  state : OperationState
  stateVersion : Nat
  attemptCount : Nat
  leaseFence : Nat
  leaseOwner : Option String
  leaseTokenDigest : Option Digest
  leasedAt : Option Time
  leaseExpiresAt : Option Time
  retryAt : Option Time
  appliedAt : Option Time
  appliedConfigurationDigest : Option Digest
  targetReceiptDigest : Option Digest
  failedAt : Option Time
  failureDigest : Option Digest
deriving DecidableEq

/-- The `details` object of each audit action. -/
inductive AuditDetails where
  | revisionCreated (configurationDigest : Digest) (controlId : String)
      (generation : Nat) (parentRevisionId : Option Digest)
  | revisionTransition (controlId : String) (fromState : RevisionState)
      (generation : Nat) (toState : RevisionState)
  | revisionDecided (commentDigest : Digest) (controlId : String)
      (decisionId : Digest) (generation : Nat)
  | revisionActivated (configurationDigest : Digest) (controlId : String)
      (deploymentVersion : Nat) (operationId : Digest) (operationSequence : Nat)
      (previousRevisionId : Option Digest)
  | rollbackRequested (configurationDigest : Digest) (controlId : String)
      (operationSequence : Nat) (predecessorOperationId : Option Digest)
      (revisionId : Digest)
  | retryRequested (configurationDigest : Digest) (controlId : String)
      (operationSequence : Nat) (retryOfOperationId : Digest) (revisionId : Digest)
  | leased (attemptCount : Nat) (controlId : String) (leaseExpiresAt : Time)
      (leaseFence : Nat) (recoveredFromState : OperationState) (workerId : String)
  | applied (appliedConfigurationDigest : Digest) (controlId : String)
      (leaseFence : Nat) (targetReceiptDigest : Digest) (workerId : String)
  | failed (controlId : String) (failureDigest : Digest) (leaseFence : Nat)
      (retryAt : Option Time) (workerId : String)
deriving DecidableEq

/-- The canonical body of one audit event (`audit_event_bytes`). -/
structure AuditEventBody where
  tenantId : String
  sequence : Nat
  previousEventDigest : Digest
  action : AuditAction
  objectId : Digest
  actorSubject : String
  actorSessionDigest : Digest
  occurredAt : Time
  detailsDigest : Digest
deriving DecidableEq

structure AuditEvent where
  body : AuditEventBody
  eventDigest : Digest
  detailsBytes : AuditDetails
deriving DecidableEq

/-- The canonical JSON bodies whose digests the control plane uses. -/
inductive Document where
  | configuration (c : ControlConfiguration)
  | revision (tenantId controlId : String) (generation : Nat)
      (parentRevisionId : Option Digest) (configurationDigest : Digest)
  | decision (revisionId : Digest) (tenantId : String) (decision : Verdict)
      (decidedBy : String) (decidedAt : Time) (comment : String)
      (actorSessionDigest : Digest)
  | operation (tenantId controlId : String) (operationSequence : Nat)
      (kind : OperationKind) (revisionId configurationDigest : Digest)
      (predecessorOperationId retryOfOperationId : Option Digest)
      (requestedBy : String) (requestedAt : Time) (requesterSessionDigest : Digest)
  | comment (text : String)
  | details (d : AuditDetails)
  | event (e : AuditEventBody)
  | failure (attemptCount : Nat) (code : String) (leaseFence : Nat)
      (operationId : Digest) (retryable : Bool)
deriving DecidableEq

/-! ## Identities and row validation -/

section

variable (sha : Document → Digest)

def ControlConfiguration.digest (c : ControlConfiguration) : Digest :=
  sha (.configuration c)

def revisionIdentity (tenantId controlId : String) (generation : Nat)
    (parentRevisionId : Option Digest) (configurationDigest : Digest) : Digest :=
  sha (.revision tenantId controlId generation parentRevisionId configurationDigest)

def decisionIdentity (revisionId : Digest) (tenantId : String) (decision : Verdict)
    (decidedBy : String) (decidedAt : Time) (comment : String)
    (actorSessionDigest : Digest) : Digest :=
  sha (.decision revisionId tenantId decision decidedBy decidedAt comment
    actorSessionDigest)

/-- The identity of a request: every immutable column but the id itself. -/
def deploymentOperationIdentity (r : OperationRequest) : Digest :=
  sha (.operation r.tenantId r.controlId r.operationSequence r.kind r.revisionId
    r.configurationDigest r.predecessorOperationId r.retryOfOperationId
    r.requestedBy r.requestedAt r.requesterSessionDigest)

/-- `ConfigurationRevision.validate_revision` on a stored row. -/
def ConfigurationRevision.valid (r : ConfigurationRevision) : Bool :=
  decide (sha (.configuration r.configurationBytes) = r.configurationDigest
    ∧ r.configurationBytes.tenantId = r.tenantId
    ∧ r.configurationBytes.controlId = r.controlId
    ∧ revisionIdentity sha r.tenantId r.controlId r.generation r.parentRevisionId
        r.configurationDigest = r.revisionId
    ∧ 1 ≤ r.generation
    ∧ (r.generation = 1 → r.parentRevisionId = none)
    ∧ (1 < r.generation → r.parentRevisionId ≠ none)
    ∧ (r.state = .draft → r.submittedAt = none ∧ r.decidedAt = none)
    ∧ (r.state = .submitted → r.submittedAt ≠ none ∧ r.decidedAt = none)
    ∧ (r.state = .approved ∨ r.state = .rejected →
        r.submittedAt ≠ none ∧ r.decidedAt ≠ none))

end

def maxRetryDelay : Time := 24 * 60 * 60

/-- The `CHECK` of `deployment_operations`, which is also what
`DeploymentOperation.validate_operation` tests of a stored row: which columns
are set in which state, and how their times are ordered. -/
def DeploymentOperation.stateShape (op : DeploymentOperation) : Bool :=
  match op.state with
  | .pending => decide (op.stateVersion = 0 ∧ op.attemptCount = 0 ∧ op.leaseFence = 0
      ∧ op.leaseOwner = none ∧ op.leaseTokenDigest = none ∧ op.leasedAt = none
      ∧ op.leaseExpiresAt = none ∧ op.retryAt = none ∧ op.appliedAt = none
      ∧ op.appliedConfigurationDigest = none ∧ op.targetReceiptDigest = none
      ∧ op.failedAt = none ∧ op.failureDigest = none)
  | .leased => decide (1 ≤ op.attemptCount ∧ op.leaseFence = op.attemptCount
      ∧ op.leaseOwner ≠ none ∧ op.leaseTokenDigest ≠ none
      ∧ sqlLe (some op.requestedAt) op.leasedAt = true
      ∧ sqlLt op.leasedAt op.leaseExpiresAt = true
      ∧ op.retryAt = none ∧ op.appliedAt = none
      ∧ op.appliedConfigurationDigest = none ∧ op.targetReceiptDigest = none
      ∧ op.failedAt = none ∧ op.failureDigest = none)
  | .applied => decide (1 ≤ op.attemptCount ∧ op.leaseFence = op.attemptCount
      ∧ op.leaseOwner = none ∧ op.leaseTokenDigest = none ∧ op.leasedAt = none
      ∧ op.leaseExpiresAt = none ∧ op.retryAt = none
      ∧ sqlLe (some op.requestedAt) op.appliedAt = true
      ∧ op.appliedConfigurationDigest = some op.configurationDigest
      ∧ op.targetReceiptDigest ≠ none
      ∧ op.failedAt = none ∧ op.failureDigest = none)
  | .failed => decide (1 ≤ op.attemptCount ∧ op.leaseFence = op.attemptCount
      ∧ op.leaseOwner = none ∧ op.leaseTokenDigest = none ∧ op.leasedAt = none
      ∧ op.leaseExpiresAt = none ∧ op.appliedAt = none
      ∧ op.appliedConfigurationDigest = none ∧ op.targetReceiptDigest = none
      ∧ sqlLe (some op.requestedAt) op.failedAt = true ∧ op.failureDigest ≠ none
      ∧ (op.retryAt = none ∨ (sqlLt op.failedAt op.retryAt = true
          ∧ sqlLe op.retryAt (op.failedAt.map (· + maxRetryDelay)) = true)))

/-- `DeploymentOperation.validate_operation` on a stored row. -/
def DeploymentOperation.valid (sha : Document → Digest) (op : DeploymentOperation) : Bool :=
  decide (deploymentOperationIdentity sha op.toOperationRequest = op.operationId
    ∧ (op.kind = .rollback → op.retryOfOperationId = none)) && op.stateShape

/-- Waiting for a worker, held by one, or failed with a retry time: the rows of
the partial index `deployment_operations_one_unresolved`. -/
def DeploymentOperation.unresolved (op : DeploymentOperation) : Bool :=
  decide (op.state = .pending ∨ op.state = .leased
    ∨ (op.state = .failed ∧ op.retryAt ≠ none))

/-- Applied, or failed for good. -/
def DeploymentOperation.closed (op : DeploymentOperation) : Bool :=
  decide (op.state = .applied ∨ (op.state = .failed ∧ op.retryAt = none))

theorem DeploymentOperation.closed_eq_not_unresolved (op : DeploymentOperation) :
    op.closed = !op.unresolved := by
  unfold DeploymentOperation.closed DeploymentOperation.unresolved
  cases op.state <;> simp

end ControlAssurance.ControlPlane
