import Mathlib.Data.List.Sort
import ControlAssurance.Lib.Table
import ControlAssurance.Runtime.Scheduling

/-!
# The PostgreSQL runtime catalog

`PostgresRuntimeCatalog` over the seven tables of `runtime-schema.sql`. Each
method is one transaction: a function from the tables to the new tables with
the answer, or to the exception, after which the tables are as before. Keys,
`CHECK`s and the `BEFORE INSERT`/`BEFORE UPDATE` triggers belong to the
statements that fire them.

Columns that a trigger equates with a field of the stored canonical document
(`receipt_bytes`, `request_bytes`, `configuration_bytes`) are that field: a row
holds the document once. Bytes that are not the canonical text of a value are
refused by the request models before any statement runs, so a configuration or
a document stands for its bytes.
-/

namespace ControlAssurance.Runtime

open Lib ControlPlane

/-! ## Documents -/

structure RuntimeDeploymentReceipt where
  tenantId : String
  controlId : String
  operationId : Digest
  operationSequence : Nat
  leaseFenceAtCommit : Nat
  revisionId : Digest
  configurationDigest : Digest
  controlProfileId : String
  controlProfileDigest : Digest
  previousOperationId : Option Digest
  previousReceiptDigest : Option Digest
  appliedAt : Time
deriving DecidableEq

/-- Immutable identity of one half-open collection window. -/
structure ControlRunRequest where
  tenantId : String
  controlId : String
  deploymentOperationId : Digest
  deploymentOperationSequence : Nat
  deploymentReceiptDigest : Digest
  controlProfileId : String
  controlProfileDigest : Digest
  revisionId : Digest
  configurationDigest : Digest
  windowStart : Time
  windowEnd : Time
  dueAt : Time
deriving DecidableEq

/-- Canonical closure joining request, deployment, evidence and receipt. -/
structure ControlRunClosure where
  runId : Digest
  tenantId : String
  controlId : String
  deploymentOperationId : Digest
  deploymentReceiptDigest : Digest
  configurationDigest : Digest
  controlProfileId : String
  controlProfileDigest : Digest
  windowStart : Time
  windowEnd : Time
  attemptCount : Nat
  leaseFence : Nat
  evidenceDigest : Digest
  executorReceiptDigest : Digest
  completedAt : Time
deriving DecidableEq

/-- The canonical JSON bodies whose digests the runtime uses. -/
inductive RuntimeDocument where
  | receipt (r : RuntimeDeploymentReceipt)
  | runRequest (q : ControlRunRequest)
  | closure (c : ControlRunClosure)
  | runFailure (attemptCount : Nat) (code : String) (leaseFence : Nat)
      (retryable : Bool) (runId : Digest)
deriving DecidableEq

/-! ## Tables -/

/-- A registered profile; only its key is read below. -/
structure ControlProfileKey where
  tenantId : String
  profileId : String
  profileDigest : Digest
deriving DecidableEq

/-- A row of `deployment_history`. -/
structure DeploymentHistory extends RuntimeDeploymentReceipt where
  receiptDigest : Digest
  configurationBytes : ControlConfiguration
deriving DecidableEq

/-- A row of `deployment_operation_fences`. -/
structure DeploymentOperationFence where
  operationId : Digest
  tenantId : String
  controlId : String
  highestLeaseFenceSeen : Nat
deriving DecidableEq

/-- A row of `current_deployed_controls`. -/
structure DeployedControl where
  tenantId : String
  controlId : String
  operationId : Digest
  operationSequence : Nat
  revisionId : Digest
  configurationDigest : Digest
  configurationBytes : ControlConfiguration
  controlProfileId : String
  controlProfileDigest : Digest
  deploymentReceiptDigest : Digest
  leaseFenceAtCommit : Nat
  appliedAt : Time
deriving DecidableEq

inductive RunState where
  | pending | leased | succeeded | failed
deriving DecidableEq

/-- The columns `enforce_control_run_identity_immutable` protects. -/
structure ControlRunIdentity where
  runId : Digest
  request : ControlRunRequest
  materializedAt : Time
deriving DecidableEq

structure ControlRun extends ControlRunIdentity where
  state : RunState
  stateVersion : Nat
  attemptCount : Nat
  leaseFence : Nat
  leaseOwner : Option String
  leaseTokenDigest : Option Digest
  leasedAt : Option Time
  leaseExpiresAt : Option Time
  retryAt : Option Time
  completedAt : Option Time
  evidenceDigest : Option Digest
  executorReceiptDigest : Option Digest
  closureDigest : Option Digest
  failedAt : Option Time
  failureDigest : Option Digest
deriving DecidableEq

/-- A row of `control_run_claims`. -/
structure ControlRunClaim where
  tenantId : String
  runId : Digest
  leaseFence : Nat
  attemptCount : Nat
  workerId : String
  workerCredentialDigest : Digest
  leaseTokenDigest : Digest
  leasedAt : Time
  leaseExpiresAt : Time
deriving DecidableEq

/-- The two shapes `runtime_outcome_shape` allows. -/
inductive RunOutcome where
  | succeeded (evidenceDigest executorReceiptDigest closureDigest : Digest)
      (closureBytes : ControlRunClosure)
  | failed (failureDigest : Digest) (retryAt : Option Time)
deriving DecidableEq

/-- A row of `control_run_outcomes`. -/
structure ControlRunOutcome where
  tenantId : String
  runId : Digest
  leaseFence : Nat
  outcome : RunOutcome
  recordedAt : Time
deriving DecidableEq

structure Catalog where
  profiles : List ControlProfileKey
  history : List DeploymentHistory
  fences : List DeploymentOperationFence
  current : List DeployedControl
  runs : List ControlRun
  claims : List ControlRunClaim
  outcomes : List ControlRunOutcome
deriving DecidableEq

def Catalog.empty : Catalog := ⟨[], [], [], [], [], [], []⟩

inductive RuntimeCatalogError where
  | value (message : String)
  | conflict (message : String)
  | notFound (message : String)
  | integrity (message : String)
  | catalog (message : String)
  | outcomeUnknown (code : String)
deriving DecidableEq

/-! ## Applying a deployment -/

/-- Exact adapter input; the operation id is the idempotency key. -/
structure DeploymentApplyRequest where
  operationId : Digest
  tenantId : String
  controlId : String
  revisionId : Digest
  configurationDigest : Digest
  configurationBytes : ControlConfiguration
  operationSequence : Nat
  leaseFence : Nat
deriving DecidableEq

structure DeploymentTargetAcknowledgement where
  operationId : Digest
  leaseFence : Nat
  appliedConfigurationDigest : Digest
  targetReceiptDigest : Digest
deriving DecidableEq

/-- `DeploymentApplyError`; `DeploymentOutcomeUnknown` is the last code below. -/
structure DeploymentApplyError where
  code : String
  retryable : Bool
deriving DecidableEq

def deploymentOutcomeUnknown : DeploymentApplyError :=
  ⟨"runtime-deployment-outcome-unknown", true⟩

/-- What a key, `CHECK` or trigger violation, a deadlock or a lock timeout is
reported as. -/
def deploymentConflict : DeploymentApplyError := ⟨"runtime-deployment-conflict", false⟩

def Catalog.historyRow (c : Catalog) (tenantId : String) (operationId : Digest) :
    Option DeploymentHistory :=
  c.history.find? fun h => decide (h.tenantId = tenantId ∧ h.operationId = operationId)

def Catalog.fenceRow (c : Catalog) (operationId : Digest) :
    Option DeploymentOperationFence :=
  c.fences.find? fun f => decide (f.operationId = operationId)

def Catalog.currentRow (c : Catalog) (tenantId controlId : String) :
    Option DeployedControl :=
  c.current.find? fun d => decide (d.tenantId = tenantId ∧ d.controlId = controlId)

/-- The history of one control. -/
def Catalog.controlHistory (c : Catalog) (tenantId controlId : String) :
    List DeploymentHistory :=
  c.history.filter fun h => decide (h.tenantId = tenantId ∧ h.controlId = controlId)

/-- `ORDER BY operation_sequence DESC LIMIT 1`. -/
def Catalog.latestHistory (c : Catalog) (tenantId controlId : String) :
    Option DeploymentHistory :=
  firstBy (fun a b => decide (b.operationSequence ≤ a.operationSequence))
    (c.controlHistory tenantId controlId)

/-- `validate_deployment_history_insert`: the new row continues the control's
chain. -/
def Catalog.chainGuard (c : Catalog) (h : DeploymentHistory) : Prop :=
  match c.latestHistory h.tenantId h.controlId with
  | some latest => h.previousOperationId = some latest.operationId
      ∧ h.previousReceiptDigest = some latest.receiptDigest
      ∧ latest.operationSequence < h.operationSequence ∧ latest.appliedAt < h.appliedAt
  | none => h.previousOperationId = none ∧ h.previousReceiptDigest = none

instance (c : Catalog) (h : DeploymentHistory) : Decidable (c.chainGuard h) := by
  unfold Catalog.chainGuard
  split <;> infer_instance

section

variable (sha : Document → Digest) (rsha : RuntimeDocument → Digest)

/-- `INSERT INTO deployment_history` with its keys, `CHECK`s and trigger. -/
def insertHistory (c : Catalog) (h : DeploymentHistory) :
    Except DeploymentApplyError Catalog := do
  require (c.chainGuard h) deploymentConflict
  require (1 ≤ h.operationSequence ∧ 1 ≤ h.leaseFenceAtCommit) deploymentConflict
  require (∀ x ∈ c.history, x.operationId ≠ h.operationId) deploymentConflict
  require (∀ x ∈ c.history, x.receiptDigest ≠ h.receiptDigest) deploymentConflict
  require (∀ x ∈ c.history, ¬(x.tenantId = h.tenantId ∧ x.controlId = h.controlId
    ∧ x.operationSequence = h.operationSequence)) deploymentConflict
  pure { c with history := c.history ++ [h] }

/-- `INSERT INTO deployment_operation_fences`. -/
def insertFence (c : Catalog) (f : DeploymentOperationFence) :
    Except DeploymentApplyError Catalog := do
  require (∀ x ∈ c.fences, x.operationId ≠ f.operationId) deploymentConflict
  pure { c with fences := c.fences ++ [f] }

/-- The pointer row a new history row makes current. -/
def DeploymentHistory.deployed (h : DeploymentHistory) : DeployedControl :=
  { tenantId := h.tenantId
    controlId := h.controlId
    operationId := h.operationId
    operationSequence := h.operationSequence
    revisionId := h.revisionId
    configurationDigest := h.configurationDigest
    configurationBytes := h.configurationBytes
    controlProfileId := h.controlProfileId
    controlProfileDigest := h.controlProfileDigest
    deploymentReceiptDigest := h.receiptDigest
    leaseFenceAtCommit := h.leaseFenceAtCommit
    appliedAt := h.appliedAt }

/-- The closing `INSERT` or `UPDATE` of `current_deployed_controls`; the trigger
lets an update through only when the sequence advances. -/
def setCurrent (c : Catalog) (current : Option DeployedControl) (h : DeploymentHistory) :
    Except DeploymentApplyError Catalog :=
  match current with
  | none => do
    require (∀ x ∈ c.current, ¬(x.tenantId = h.tenantId ∧ x.controlId = h.controlId))
      deploymentConflict
    pure { c with current := c.current ++ [h.deployed] }
  | some _ => do
    require (∀ x ∈ c.current, x.tenantId = h.tenantId ∧ x.controlId = h.controlId →
      x.operationSequence < h.operationSequence) deploymentConflict
    let current := updateWhere
      (fun d => decide (d.tenantId = h.tenantId ∧ d.controlId = h.controlId))
      (fun _ => h.deployed) c.current
    pure { c with current }

/-- The logical application time: the transaction's, or one second after the
current deployment's when that is not earlier. -/
def applicationTime (current : Option DeployedControl) (timestamp : Time) : Time :=
  match current with
  | none => timestamp
  | some d => if timestamp ≤ d.appliedAt then d.appliedAt + 1 else timestamp

/-- The row a first application of a request adds. -/
def newHistory (request : DeploymentApplyRequest) (current : Option DeployedControl)
    (timestamp : Time) : DeploymentHistory :=
  let receipt : RuntimeDeploymentReceipt :=
    { tenantId := request.tenantId
      controlId := request.controlId
      operationId := request.operationId
      operationSequence := request.operationSequence
      leaseFenceAtCommit := request.leaseFence
      revisionId := request.revisionId
      configurationDigest := request.configurationDigest
      controlProfileId := request.configurationBytes.controlProfileId
      controlProfileDigest := request.configurationBytes.controlProfileDigest
      previousOperationId := current.map (·.operationId)
      previousReceiptDigest := current.map (·.deploymentReceiptDigest)
      appliedAt := applicationTime current timestamp }
  { receipt with
    receiptDigest := rsha (.receipt receipt)
    configurationBytes := request.configurationBytes }

/-- The branch of `ensure_applied` for an operation that is already in the
history. -/
def reapply (c : Catalog) (request : DeploymentApplyRequest) (existing : DeploymentHistory)
    (fence : DeploymentOperationFence) (current : Option DeployedControl) :
    Except DeploymentApplyError (Catalog × DeploymentTargetAcknowledgement) := do
  require (existing.tenantId = request.tenantId ∧ existing.controlId = request.controlId
      ∧ existing.operationSequence = request.operationSequence
      ∧ existing.revisionId = request.revisionId
      ∧ existing.configurationDigest = request.configurationDigest
      ∧ existing.configurationBytes = request.configurationBytes
      ∧ existing.controlProfileId = request.configurationBytes.controlProfileId
      ∧ existing.controlProfileDigest = request.configurationBytes.controlProfileDigest)
    ⟨"runtime-operation-id-collision", false⟩
  require (current.map (·.operationId) = some request.operationId)
    ⟨"runtime-deployment-superseded", false⟩
  require (fence.highestLeaseFenceSeen ≤ request.leaseFence)
    ⟨"runtime-stale-deployment-fence", false⟩
  let fences := if fence.highestLeaseFenceSeen < request.leaseFence then
      updateWhere
        (fun f => decide (f.tenantId = request.tenantId
          ∧ f.operationId = request.operationId))
        (fun f => { f with highestLeaseFenceSeen := request.leaseFence }) c.fences
    else c.fences
  require (rsha (.receipt existing.toRuntimeDeploymentReceipt) = existing.receiptDigest)
    ⟨"runtime-catalog-integrity", false⟩
  pure ({ c with fences },
    { operationId := request.operationId
      leaseFence := request.leaseFence
      appliedConfigurationDigest := request.configurationDigest
      targetReceiptDigest := existing.receiptDigest })

/-- `ensure_applied`, committed by a transaction that started at `timestamp`. -/
def ensureApplied (c : Catalog) (request : DeploymentApplyRequest) (timestamp : Time) :
    Except DeploymentApplyError (Catalog × DeploymentTargetAcknowledgement) := do
  let configuration := request.configurationBytes
  require (configuration.digest sha = request.configurationDigest
      ∧ configuration.tenantId = request.tenantId
      ∧ configuration.controlId = request.controlId)
    ⟨"runtime-configuration-not-canonical", false⟩
  require (∃ p ∈ c.profiles, p.tenantId = request.tenantId
      ∧ p.profileId = configuration.controlProfileId
      ∧ p.profileDigest = configuration.controlProfileDigest)
    ⟨"runtime-control-profile-not-found", false⟩
  let current := c.currentRow request.tenantId request.controlId
  match c.historyRow request.tenantId request.operationId,
      c.fenceRow request.operationId with
  | some existing, some fence => reapply rsha c request existing fence current
  | _, _ => do
    require (∀ d, current = some d → d.operationSequence < request.operationSequence)
      ⟨"runtime-stale-deployment-sequence", false⟩
    let row := newHistory rsha request current timestamp
    let c₁ ← insertHistory c row
    let c₂ ← insertFence c₁
      { operationId := request.operationId
        tenantId := request.tenantId
        controlId := request.controlId
        highestLeaseFenceSeen := request.leaseFence }
    let c₃ ← setCurrent c₂ current row
    pure (c₃,
      { operationId := request.operationId
        leaseFence := request.leaseFence
        appliedConfigurationDigest := request.configurationDigest
        targetReceiptDigest := row.receiptDigest })

end

/-! ## Materializing due runs -/

/-- `lead(applied_at) OVER (PARTITION BY control ORDER BY operation_sequence)`. -/
def Catalog.supersededAt (c : Catalog) (h : DeploymentHistory) : Option Time :=
  (firstBy (fun a b => decide (a.operationSequence ≤ b.operationSequence))
    ((c.controlHistory h.tenantId h.controlId).filter fun x =>
      decide (h.operationSequence < x.operationSequence))).map (·.appliedAt)

/-- The run one history row owes for a window end. -/
def DeploymentHistory.runRequest (h : DeploymentHistory) (windowEnd : Time) :
    ControlRunRequest :=
  { tenantId := h.tenantId
    controlId := h.configurationBytes.controlId
    deploymentOperationId := h.operationId
    deploymentOperationSequence := h.operationSequence
    deploymentReceiptDigest := h.receiptDigest
    controlProfileId := h.configurationBytes.controlProfileId
    controlProfileDigest := h.configurationBytes.controlProfileDigest
    revisionId := h.revisionId
    configurationDigest := h.configurationDigest
    windowStart := windowEnd - h.configurationBytes.schedule.windowSeconds
    windowEnd
    dueAt := windowEnd + h.configurationBytes.schedule.collectionLagSeconds }

/-- `validate_control_run_insert`: some enabled deployment owes exactly this
window, it is due, and no later deployment was applied before its end. -/
def Catalog.runGuard (c : Catalog) (q : ControlRunRequest) (materializedAt : Time) : Prop :=
  ∃ h ∈ c.history, h.tenantId = q.tenantId ∧ h.controlId = q.controlId
    ∧ h.operationId = q.deploymentOperationId
    ∧ h.operationSequence = q.deploymentOperationSequence
    ∧ h.receiptDigest = q.deploymentReceiptDigest ∧ h.revisionId = q.revisionId
    ∧ h.configurationDigest = q.configurationDigest
    ∧ h.controlProfileId = q.controlProfileId
    ∧ h.controlProfileDigest = q.controlProfileDigest
    ∧ h.configurationBytes.enabled = true ∧ h.appliedAt ≤ q.windowStart
    ∧ q.windowEnd - q.windowStart = h.configurationBytes.schedule.windowSeconds
    ∧ q.dueAt = q.windowEnd + h.configurationBytes.schedule.collectionLagSeconds
    ∧ q.windowEnd % h.configurationBytes.schedule.intervalSeconds = 0
    ∧ q.dueAt ≤ materializedAt
    ∧ ¬∃ x ∈ c.history, x.tenantId = h.tenantId ∧ x.controlId = h.controlId
      ∧ h.operationSequence < x.operationSequence ∧ x.appliedAt < q.windowEnd

instance (c : Catalog) (q : ControlRunRequest) (t : Time) : Decidable (c.runGuard q t) :=
  inferInstanceAs (Decidable (∃ h ∈ c.history, _))

def pendingRun (runId : Digest) (request : ControlRunRequest) (materializedAt : Time) :
    ControlRun :=
  { runId
    request
    materializedAt
    state := .pending
    stateVersion := 0
    attemptCount := 0
    leaseFence := 0
    leaseOwner := none
    leaseTokenDigest := none
    leasedAt := none
    leaseExpiresAt := none
    retryAt := none
    completedAt := none
    evidenceDigest := none
    executorReceiptDigest := none
    closureDigest := none
    failedAt := none
    failureDigest := none }

/-- The bounds of one `materialize_due_runs` call. -/
structure MaterializationLimits where
  maxDeployments : Nat
  maxWindowsPerDeployment : Nat
  maxNewRuns : Nat
deriving DecidableEq

/-- The defaults, which are what the worker uses. -/
def MaterializationLimits.default : MaterializationLimits := ⟨10000, 10000, 10000⟩

section

variable (sha : Document → Digest) (rsha : RuntimeDocument → Digest)

/-- `INSERT INTO control_runs … ON CONFLICT (run_id) DO NOTHING`; the answer is the
row count. The trigger fires before the conflict is looked for. -/
def insertRun (c : Catalog) (q : ControlRunRequest) (materializedAt : Time) :
    Except RuntimeCatalogError (Catalog × Nat) := do
  require (c.runGuard q materializedAt) (.catalog "runtime materialization failed")
  if ∃ r ∈ c.runs, r.runId = rsha (.runRequest q) then
    pure (c, 0)
  else do
    require (∀ r ∈ c.runs, ¬(r.request.tenantId = q.tenantId
        ∧ r.request.controlId = q.controlId
        ∧ r.request.deploymentOperationId = q.deploymentOperationId
        ∧ r.request.windowStart = q.windowStart ∧ r.request.windowEnd = q.windowEnd))
      (.catalog "runtime materialization failed")
    pure ({ c with runs := c.runs ++ [pendingRun (rsha (.runRequest q)) q materializedAt] },
      1)

/-- The inner loop, over the windows of one deployment. -/
def insertRuns (materializedAt : Time) (maxNewRuns : Nat) :
    List ControlRunRequest → Catalog × Nat → Except RuntimeCatalogError (Catalog × Nat)
  | [], acc => pure acc
  | q :: qs, (c, created) => do
    let (c₁, inserted) ← insertRun rsha c q materializedAt
    require (created + inserted ≤ maxNewRuns)
      (.conflict "new control runs exceed the bounded limit")
    insertRuns materializedAt maxNewRuns qs (c₁, created + inserted)

/-- One history row: check its configuration, derive its windows, insert. The
superseding times come from the one `SELECT` before the loop. -/
def materializeRow (horizon materializedAt : Time) (limits : MaterializationLimits)
    (row : DeploymentHistory × Option Time) (acc : Catalog × Nat) :
    Except RuntimeCatalogError (Catalog × Nat) := do
  let configuration := row.1.configurationBytes
  require (configuration.digest sha = row.1.configurationDigest
      ∧ configuration.tenantId = row.1.tenantId
      ∧ configuration.controlId = row.1.controlId
      ∧ configuration.controlProfileId = row.1.controlProfileId
      ∧ configuration.controlProfileDigest = row.1.controlProfileDigest)
    (.integrity "deployment history configuration is invalid")
  let ends ← (dueWindowEnds configuration row.1.appliedAt row.2 horizon
    limits.maxWindowsPerDeployment).mapError fun _ =>
      RuntimeCatalogError.integrity "runtime materialization input or state is invalid"
  insertRuns rsha materializedAt limits.maxNewRuns (ends.map row.1.runRequest) acc

/-- The outer loop, over the history rows of the tenant. -/
def materializeRows (horizon materializedAt : Time) (limits : MaterializationLimits) :
    List (DeploymentHistory × Option Time) → Catalog × Nat →
      Except RuntimeCatalogError (Catalog × Nat)
  | [], acc => pure acc
  | row :: rows, acc => do
    let acc₁ ← materializeRow sha rsha horizon materializedAt limits row acc
    materializeRows horizon materializedAt limits rows acc₁

/-- `ORDER BY control_id, operation_sequence`. -/
def historyOrder (a b : DeploymentHistory) : Prop :=
  a.controlId < b.controlId
    ∨ (a.controlId = b.controlId ∧ a.operationSequence ≤ b.operationSequence)

instance (a b : DeploymentHistory) : Decidable (historyOrder a b) :=
  inferInstanceAs (Decidable (_ ∨ _))

/-- The tenant's deployments, each with its superseding time. -/
def Catalog.deployments (c : Catalog) (tenantId : String) :
    List (DeploymentHistory × Option Time) :=
  ((c.history.filter fun h => decide (h.tenantId = tenantId)).insertionSort
    historyOrder).map fun h => (h, c.supersededAt h)

/-- `materialize_due_runs` at database time `now`; the answer is the number of new
runs. -/
def materializeDueRuns (c : Catalog) (now : Time) (tenantId : String)
    (through : Option Time) (limits : MaterializationLimits) :
    Except RuntimeCatalogError (Catalog × Nat) := do
  require (1 ≤ limits.maxDeployments ∧ limits.maxDeployments ≤ 100000)
    (.value "deployment scan is outside the supported range")
  require (1 ≤ limits.maxWindowsPerDeployment ∧ limits.maxWindowsPerDeployment ≤ 100000)
    (.value "window scan is outside the supported range")
  require (1 ≤ limits.maxNewRuns ∧ limits.maxNewRuns ≤ 100000)
    (.value "new run limit is outside the supported range")
  require (∀ h, through = some h → h ≤ now)
    (.conflict "materialization horizon cannot be in the future")
  let rows := c.deployments tenantId
  require (rows.length ≤ limits.maxDeployments)
    (.conflict "runtime deployment scan exceeds its bounded limit")
  materializeRows sha rsha (through.getD now) now limits rows (c, 0)

end

end ControlAssurance.Runtime
