import ControlAssurance.Runtime.Catalog

/-!
# Leasing and closing control runs

`claim_next_run`, `complete_run` and `fail_run` of the runtime catalog, with the
triggers of `control_runs`, `control_run_claims` and `control_run_outcomes`. A
run is leased under a fence, one claim row per lease; its outcome is recorded
once per claim; a lease that ran out at the attempt limit is closed by the next
worker that asks for work (`_terminalize_exhausted_lease`).
-/

namespace ControlAssurance.Runtime

open Lib ControlPlane

structure RuntimeWorkerIdentity where
  tenantId : String
  workerId : String
  credentialDigest : Digest
deriving DecidableEq

/-- Executor observation of evidence already placed in custody. -/
structure ControlRunExecutionResult where
  runId : Digest
  leaseFence : Nat
  evidenceDigest : Digest
  executorReceiptDigest : Digest
deriving DecidableEq

/-! ## Constraints and triggers -/

/-- `runtime_run_state_shape`. -/
def ControlRun.stateShape (r : ControlRun) : Bool :=
  match r.state with
  | .pending => decide (r.stateVersion = 0 ∧ r.attemptCount = 0 ∧ r.leaseFence = 0
      ∧ r.leaseOwner = none ∧ r.leaseTokenDigest = none ∧ r.leasedAt = none
      ∧ r.leaseExpiresAt = none ∧ r.retryAt = none ∧ r.completedAt = none
      ∧ r.evidenceDigest = none ∧ r.executorReceiptDigest = none
      ∧ r.closureDigest = none ∧ r.failedAt = none ∧ r.failureDigest = none)
  | .leased => decide (1 ≤ r.attemptCount ∧ r.attemptCount ≤ 32
      ∧ r.leaseFence = r.attemptCount ∧ r.leaseOwner ≠ none ∧ r.leaseTokenDigest ≠ none
      ∧ r.leasedAt ≠ none ∧ sqlLt r.leasedAt r.leaseExpiresAt = true
      ∧ sqlLe (some r.request.dueAt) r.leasedAt = true ∧ r.retryAt = none
      ∧ r.completedAt = none ∧ r.evidenceDigest = none ∧ r.executorReceiptDigest = none
      ∧ r.closureDigest = none ∧ r.failedAt = none ∧ r.failureDigest = none)
  | .succeeded => decide (1 ≤ r.attemptCount ∧ r.attemptCount ≤ 32
      ∧ r.leaseFence = r.attemptCount ∧ r.leaseOwner = none ∧ r.leaseTokenDigest = none
      ∧ r.leasedAt = none ∧ r.leaseExpiresAt = none ∧ r.retryAt = none
      ∧ sqlLe (some r.request.windowEnd) r.completedAt = true ∧ r.evidenceDigest ≠ none
      ∧ r.executorReceiptDigest ≠ none ∧ r.closureDigest ≠ none ∧ r.failedAt = none
      ∧ r.failureDigest = none)
  | .failed => decide (1 ≤ r.attemptCount ∧ r.attemptCount ≤ 32
      ∧ r.leaseFence = r.attemptCount ∧ r.leaseOwner = none ∧ r.leaseTokenDigest = none
      ∧ r.leasedAt = none ∧ r.leaseExpiresAt = none ∧ r.completedAt = none
      ∧ r.evidenceDigest = none ∧ r.executorReceiptDigest = none
      ∧ r.closureDigest = none ∧ r.failedAt ≠ none ∧ r.failureDigest ≠ none
      ∧ (r.retryAt = none ∨ sqlLt r.failedAt r.retryAt = true))

/-- `enforce_control_run_identity_immutable`: the updates the trigger lets
through. -/
def runTransitionGuard (old new : ControlRun) : Bool :=
  decide (new.toControlRunIdentity = old.toControlRunIdentity
    ∧ new.stateVersion = old.stateVersion + 1
    ∧ ((new.state = .leased ∧ new.attemptCount = old.attemptCount + 1
        ∧ new.leaseFence = old.leaseFence + 1
        ∧ (old.state = .pending
          ∨ (old.state = .leased ∧ sqlLe old.leaseExpiresAt new.leasedAt = true)
          ∨ (old.state = .failed ∧ sqlLe old.retryAt new.leasedAt = true)))
      ∨ ((new.state = .succeeded ∨ new.state = .failed) ∧ old.state = .leased
        ∧ new.attemptCount = old.attemptCount ∧ new.leaseFence = old.leaseFence)))

/-- `UPDATE control_runs`: each matched row passes the trigger and the `CHECK`. -/
def updateRuns (c : Catalog) (p : ControlRun → Bool) (f : ControlRun → ControlRun)
    (rejected : RuntimeCatalogError) : Except RuntimeCatalogError Catalog := do
  require (∀ r ∈ c.runs, p r = true → runTransitionGuard r (f r) = true) rejected
  require (∀ r ∈ c.runs, p r = true → (f r).stateShape = true) rejected
  pure { c with runs := updateWhere p f c.runs }

def Catalog.runRow (c : Catalog) (tenantId : String) (runId : Digest) : Option ControlRun :=
  c.runs.find? fun r => decide (r.request.tenantId = tenantId ∧ r.runId = runId)

def Catalog.claimRow (c : Catalog) (tenantId : String) (runId : Digest) (fence : Nat) :
    Option ControlRunClaim :=
  c.claims.find? fun k =>
    decide (k.tenantId = tenantId ∧ k.runId = runId ∧ k.leaseFence = fence)

/-- `INSERT INTO control_run_claims`: the key, and
`validate_control_run_claim_insert`. -/
def insertClaim (c : Catalog) (k : ControlRunClaim) (rejected : RuntimeCatalogError) :
    Except RuntimeCatalogError Catalog := do
  require (∃ r ∈ c.runs, r.request.tenantId = k.tenantId ∧ r.runId = k.runId
      ∧ r.state = .leased ∧ r.leaseFence = k.leaseFence
      ∧ r.attemptCount = k.attemptCount ∧ r.leaseOwner = some k.workerId
      ∧ r.leaseTokenDigest = some k.leaseTokenDigest ∧ r.leasedAt = some k.leasedAt
      ∧ r.leaseExpiresAt = some k.leaseExpiresAt) rejected
  require (k.leaseFence = k.attemptCount ∧ k.leasedAt < k.leaseExpiresAt
      ∧ 1 ≤ k.leaseFence ∧ k.attemptCount ≤ 32) rejected
  require (∀ x ∈ c.claims, ¬(x.tenantId = k.tenantId ∧ x.runId = k.runId
      ∧ x.leaseFence = k.leaseFence)) rejected
  pure { c with claims := c.claims ++ [k] }

/-- The closure fields `validate_control_run_outcome_insert` compares with the
run's own row and the outcome. -/
def closureMatches (closure : ControlRunClosure) (r : ControlRun) (o : ControlRunOutcome)
    (evidence receipt : Digest) : Bool :=
  decide (closure.runId = o.runId ∧ closure.tenantId = o.tenantId
    ∧ closure.controlId = r.request.controlId
    ∧ closure.deploymentOperationId = r.request.deploymentOperationId
    ∧ closure.deploymentReceiptDigest = r.request.deploymentReceiptDigest
    ∧ closure.configurationDigest = r.request.configurationDigest
    ∧ closure.controlProfileId = r.request.controlProfileId
    ∧ closure.controlProfileDigest = r.request.controlProfileDigest
    ∧ closure.windowStart = r.request.windowStart
    ∧ closure.windowEnd = r.request.windowEnd
    ∧ closure.attemptCount = r.attemptCount ∧ closure.leaseFence = r.leaseFence
    ∧ closure.evidenceDigest = evidence ∧ closure.executorReceiptDigest = receipt
    ∧ closure.completedAt = o.recordedAt)

/-- `validate_control_run_outcome_insert` and `runtime_outcome_shape`. -/
def outcomeGuard (rsha : RuntimeDocument → Digest) (c : Catalog) (o : ControlRunOutcome) :
    Bool :=
  match c.runRow o.tenantId o.runId, c.claimRow o.tenantId o.runId o.leaseFence with
  | some r, some claim =>
    decide (r.state = .leased ∧ r.leaseFence = o.leaseFence
      ∧ r.request.windowEnd ≤ o.recordedAt)
    && match o.outcome with
      | .succeeded evidence receipt digest closure =>
        decide (o.recordedAt < claim.leaseExpiresAt ∧ digest = rsha (.closure closure))
          && closureMatches closure r o evidence receipt
      | .failed _ retryAt => decide (∀ t, retryAt = some t → o.recordedAt < t)
  | _, _ => false

/-- `INSERT INTO control_run_outcomes`. -/
def insertOutcome (rsha : RuntimeDocument → Digest) (c : Catalog) (o : ControlRunOutcome)
    (rejected : RuntimeCatalogError) : Except RuntimeCatalogError Catalog := do
  require (outcomeGuard rsha c o = true) rejected
  require (∀ x ∈ c.outcomes, ¬(x.tenantId = o.tenantId ∧ x.runId = o.runId
      ∧ x.leaseFence = o.leaseFence)) rejected
  pure { c with outcomes := c.outcomes ++ [o] }

/-! ## Row updates -/

def ControlRun.lease (r : ControlRun) (attempt fence : Nat) (workerId : String)
    (token : Digest) (leasedAt expiresAt : Time) : ControlRun :=
  { r with
    state := .leased
    stateVersion := r.stateVersion + 1
    attemptCount := attempt
    leaseFence := fence
    leaseOwner := some workerId
    leaseTokenDigest := some token
    leasedAt := some leasedAt
    leaseExpiresAt := some expiresAt
    retryAt := none
    failedAt := none
    failureDigest := none }

def ControlRun.succeed (r : ControlRun) (completedAt : Time)
    (evidence receipt closureDigest : Digest) : ControlRun :=
  { r with
    state := .succeeded
    stateVersion := r.stateVersion + 1
    leaseOwner := none
    leaseTokenDigest := none
    leasedAt := none
    leaseExpiresAt := none
    completedAt := some completedAt
    evidenceDigest := some evidence
    executorReceiptDigest := some receipt
    closureDigest := some closureDigest }

def ControlRun.fail (r : ControlRun) (failedAt : Time) (failureDigest : Digest)
    (retryAt : Option Time) : ControlRun :=
  { r with
    state := .failed
    stateVersion := r.stateVersion + 1
    leaseOwner := none
    leaseTokenDigest := none
    leasedAt := none
    leaseExpiresAt := none
    retryAt
    failedAt := some failedAt
    failureDigest := some failureDigest }

/-- `ORDER BY due_at, run_id`. -/
def claimOrder (a b : ControlRun) : Bool :=
  decide (a.request.dueAt < b.request.dueAt
    ∨ (a.request.dueAt = b.request.dueAt ∧ a.runId ≤ b.runId))

/-- The row is leased at `fence`: the `WHERE` of the closing updates. -/
def ControlRun.leasedAtFence (tenantId : String) (runId : Digest) (fence : Nat)
    (r : ControlRun) : Bool :=
  decide (r.request.tenantId = tenantId ∧ r.runId = runId ∧ r.state = .leased
    ∧ r.leaseFence = fence)

section

variable (rsha : RuntimeDocument → Digest) (maxRunAttempts : Nat)

def claimFailed : RuntimeCatalogError := .catalog "control run claim failed"

/-- The leased rows at the attempt limit whose lease ran out. -/
def ControlRun.exhausted (tenantId : String) (t : Time) (r : ControlRun) : Bool :=
  decide (r.request.tenantId = tenantId ∧ r.state = .leased
    ∧ sqlLe r.leaseExpiresAt (some t) = true ∧ maxRunAttempts ≤ r.attemptCount)

/-- The failure an exhausted lease is closed with. -/
def exhaustedFailure (r : ControlRun) : Digest :=
  rsha (.runFailure r.attemptCount "lease-expired-attempt-limit" r.leaseFence false r.runId)

/-- `_terminalize_exhausted_lease`. -/
def terminalizeExhaustedLease (c : Catalog) (tenantId : String) (failedAt : Time) :
    Except RuntimeCatalogError Catalog :=
  match firstBy claimOrder (c.runs.filter (ControlRun.exhausted maxRunAttempts tenantId
      failedAt)) with
  | none => pure c
  | some row => do
    let failure := exhaustedFailure rsha row
    let c₁ ← insertOutcome rsha c
      { tenantId, runId := row.runId, leaseFence := row.leaseFence
        outcome := .failed failure none, recordedAt := failedAt } claimFailed
    updateRuns c₁ (ControlRun.leasedAtFence tenantId row.runId row.leaseFence)
      (fun r => r.fail failedAt failure none) claimFailed

/-- The rows a worker may claim at `t`. -/
def ControlRun.claimable (tenantId : String) (t : Time) (r : ControlRun) : Bool :=
  decide (r.request.tenantId = tenantId ∧ r.request.dueAt ≤ t
    ∧ r.attemptCount < maxRunAttempts
    ∧ (r.state = .pending
      ∨ (r.state = .leased ∧ sqlLe r.leaseExpiresAt (some t) = true)
      ∨ (r.state = .failed ∧ sqlLe r.retryAt (some t) = true)))

/-- `claim_next_run`. -/
def claimNextRun (c : Catalog) (worker : RuntimeWorkerIdentity) (leaseTokenDigest : Digest)
    (leasedAt : Time) (leaseTtlSeconds : Nat) :
    Except RuntimeCatalogError (Catalog × Option ControlRun) := do
  require (15 ≤ leaseTtlSeconds ∧ leaseTtlSeconds ≤ 3600)
    (.value "run lease TTL is outside the supported range")
  let expiresAt := leasedAt + leaseTtlSeconds
  let c₁ ← terminalizeExhaustedLease rsha maxRunAttempts c worker.tenantId leasedAt
  match firstBy claimOrder (c₁.runs.filter (ControlRun.claimable maxRunAttempts
      worker.tenantId leasedAt)) with
  | none => pure (c₁, none)
  | some row =>
    let newFence := row.leaseFence + 1
    let newAttempt := row.attemptCount + 1
    let c₂ ← updateRuns c₁
      (fun r => decide (r.request.tenantId = worker.tenantId ∧ r.runId = row.runId))
      (fun r => r.lease newAttempt newFence worker.workerId leaseTokenDigest leasedAt
        expiresAt) claimFailed
    let updated ← expect (c₂.runRow worker.tenantId row.runId)
      (.conflict "control run lease was lost")
    let c₃ ← insertClaim c₂
      { tenantId := worker.tenantId
        runId := row.runId
        leaseFence := newFence
        attemptCount := newAttempt
        workerId := worker.workerId
        workerCredentialDigest := worker.credentialDigest
        leaseTokenDigest
        leasedAt
        leaseExpiresAt := expiresAt } claimFailed
    pure (c₃, some updated)

/-- `_require_current_lease`. -/
def requireCurrentLease (r : ControlRun) (worker : RuntimeWorkerIdentity) (token : Digest)
    (fence : Nat) (t : Time) : Except RuntimeCatalogError Unit :=
  require (r.state = .leased ∧ r.leaseOwner = some worker.workerId
      ∧ r.leaseTokenDigest = some token ∧ r.leaseFence = fence
      ∧ sqlLt (some t) r.leaseExpiresAt = true)
    (.conflict "control run lease is stale")

/-- The claim a repeated closing call must have been made under. -/
def requireClaimIdentity (c : Catalog) (worker : RuntimeWorkerIdentity) (runId token : Digest)
    (fence : Nat) (message : String) : Except RuntimeCatalogError Unit :=
  require (∃ k, c.claimRow worker.tenantId runId fence = some k
    ∧ k.workerId = worker.workerId ∧ k.leaseTokenDigest = token) (.conflict message)

/-- The closure document of a completion. -/
def ControlRun.closure (r : ControlRun) (runId : Digest) (fence : Nat)
    (result : ControlRunExecutionResult) (completedAt : Time) : ControlRunClosure :=
  { runId
    tenantId := r.request.tenantId
    controlId := r.request.controlId
    deploymentOperationId := r.request.deploymentOperationId
    deploymentReceiptDigest := r.request.deploymentReceiptDigest
    configurationDigest := r.request.configurationDigest
    controlProfileId := r.request.controlProfileId
    controlProfileDigest := r.request.controlProfileDigest
    windowStart := r.request.windowStart
    windowEnd := r.request.windowEnd
    attemptCount := r.attemptCount
    leaseFence := fence
    evidenceDigest := result.evidenceDigest
    executorReceiptDigest := result.executorReceiptDigest
    completedAt }

/-- `complete_run`. A run that already succeeded answers the same result again, to
the worker and token of the claim it succeeded under. -/
def completeRun (c : Catalog) (worker : RuntimeWorkerIdentity) (runId : Digest)
    (leaseTokenDigest : Digest) (leaseFence : Nat) (result : ControlRunExecutionResult)
    (completedAt : Time) : Except RuntimeCatalogError (Catalog × ControlRun) := do
  require (result.runId = runId ∧ result.leaseFence = leaseFence)
    (.conflict "executor result does not match the run lease")
  let row ← expect (c.runRow worker.tenantId runId) (.notFound "control run not found")
  if row.state = .succeeded then do
    require (row.leaseFence = leaseFence
        ∧ row.evidenceDigest = some result.evidenceDigest
        ∧ row.executorReceiptDigest = some result.executorReceiptDigest)
      (.conflict "completed run differs from executor result")
    requireClaimIdentity c worker runId leaseTokenDigest leaseFence
      "completed run claim identity differs"
    pure (c, row)
  else do
    requireCurrentLease row worker leaseTokenDigest leaseFence completedAt
    let closure := row.closure runId leaseFence result completedAt
    -- `ControlRunClosure` refuses a completion before the window's end
    require (row.request.windowEnd ≤ completedAt)
      (.outcomeUnknown "run-completion-outcome-unknown")
    let rejected := RuntimeCatalogError.conflict "control run completion was rejected"
    let c₁ ← insertOutcome rsha c
      { tenantId := worker.tenantId
        runId
        leaseFence
        outcome := .succeeded result.evidenceDigest result.executorReceiptDigest
          (rsha (.closure closure)) closure
        recordedAt := completedAt } rejected
    let c₂ ← updateRuns c₁ (ControlRun.leasedAtFence worker.tenantId runId leaseFence)
      (fun r => r.succeed completedAt result.evidenceDigest result.executorReceiptDigest
        (rsha (.closure closure))) rejected
    let updated ← expect (c₂.runRow worker.tenantId runId)
      (.conflict "control run completion compare-and-swap failed")
    pure (c₂, updated)

/-- The retry time that counts: none at the attempt limit. -/
def effectiveRetry (r : ControlRun) (retryAt : Option Time) : Option Time :=
  if maxRunAttempts ≤ r.attemptCount then none else retryAt

/-- `fail_run`. A run that already failed answers the same failure again, to the
worker and token of the claim it failed under. -/
def failRun (c : Catalog) (worker : RuntimeWorkerIdentity) (runId : Digest)
    (leaseTokenDigest : Digest) (leaseFence : Nat) (failureDigest : Digest)
    (failedAt : Time) (retryAt : Option Time) :
    Except RuntimeCatalogError (Catalog × ControlRun) := do
  require (∀ t, retryAt = some t → failedAt < t)
    (.value "run retry must be later than failure")
  let row ← expect (c.runRow worker.tenantId runId) (.notFound "control run not found")
  if row.state = .failed then do
    require (row.leaseFence = leaseFence ∧ row.failureDigest = some failureDigest
        ∧ row.retryAt = effectiveRetry maxRunAttempts row retryAt)
      (.conflict "failed run differs from requested failure")
    requireClaimIdentity c worker runId leaseTokenDigest leaseFence
      "failed run claim identity differs"
    pure (c, row)
  else do
    requireCurrentLease row worker leaseTokenDigest leaseFence failedAt
    let retry := effectiveRetry maxRunAttempts row retryAt
    let rejected := RuntimeCatalogError.conflict "control run failure was rejected"
    let c₁ ← insertOutcome rsha c
      { tenantId := worker.tenantId
        runId
        leaseFence
        outcome := .failed failureDigest retry
        recordedAt := failedAt } rejected
    let c₂ ← updateRuns c₁ (ControlRun.leasedAtFence worker.tenantId runId leaseFence)
      (fun r => r.fail failedAt failureDigest retry) rejected
    let updated ← expect (c₂.runRow worker.tenantId runId)
      (.conflict "control run failure compare-and-swap failed")
    pure (c₂, updated)

end

/-! ## The catalog as one machine -/

/-- `register_control_profile`, reduced to the key columns. -/
def registerControlProfile (c : Catalog) (p : ControlProfileKey) :
    Except RuntimeCatalogError Catalog :=
  match c.profiles.find? fun x =>
      decide (x.tenantId = p.tenantId ∧ x.profileDigest = p.profileDigest) with
  | some existing => do
    require (existing.profileId = p.profileId)
      (.conflict "control profile content identity collides")
    pure c
  | none => pure { c with profiles := c.profiles ++ [p] }

/-- One atomic catalog call with all its arguments, and the database time for
those that read it. -/
inductive CatalogCall where
  | registerProfile (p : ControlProfileKey)
  | ensureApplied (q : DeploymentApplyRequest) (timestamp : Time)
  | materialize (now : Time) (tenantId : String) (through : Option Time)
      (limits : MaterializationLimits)
  | claim (worker : RuntimeWorkerIdentity) (leaseTokenDigest : Digest) (leasedAt : Time)
      (leaseTtlSeconds : Nat)
  | complete (worker : RuntimeWorkerIdentity) (runId leaseTokenDigest : Digest)
      (leaseFence : Nat) (result : ControlRunExecutionResult) (completedAt : Time)
  | fail (worker : RuntimeWorkerIdentity) (runId leaseTokenDigest : Digest)
      (leaseFence : Nat) (failureDigest : Digest) (failedAt : Time) (retryAt : Option Time)

section

variable (sha : Document → Digest) (rsha : RuntimeDocument → Digest) (maxRunAttempts : Nat)

/-- The tables after a transaction: the committed ones, or the old ones when it
raised. -/
def committed {ε α : Type} (c : Catalog) : Except ε (Catalog × α) → Catalog
  | .ok (c', _) => c'
  | .error _ => c

def CatalogCall.next (c : Catalog) : CatalogCall → Catalog
  | .registerProfile p => committed c ((registerControlProfile c p).map (·, ()))
  | .ensureApplied q t => committed c (Runtime.ensureApplied sha rsha c q t)
  | .materialize now tenant through limits =>
    committed c (materializeDueRuns sha rsha c now tenant through limits)
  | .claim w k t n => committed c (claimNextRun rsha maxRunAttempts c w k t n)
  | .complete w r k f result t => committed c (completeRun rsha c w r k f result t)
  | .fail w r k f d t retryAt =>
    committed c (failRun rsha maxRunAttempts c w r k f d t retryAt)

/-- The catalog after any sequence of calls on an empty database. -/
def catalogAfter (calls : List CatalogCall) : Catalog :=
  calls.foldl (fun c call => call.next sha rsha maxRunAttempts c) Catalog.empty

end

end ControlAssurance.Runtime
