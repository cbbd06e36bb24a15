import ControlAssurance.ControlPlane.Lease
import ControlAssurance.Runtime.RunSteps

/-!
# The deployment reconciler between the two databases

`DeploymentReconciler.run_once` of `control_plane/deployment.py` as a client
program: lease an operation from the control plane, hand the target a request,
and close the lease with what came back. The target is the runtime catalog's
`ensure_applied`, reached through messages: a request that was sent may be
delivered at any time, any number of times or never, and the reconciler receives
the answer of some delivery, or an ambiguous one. Any number of reconcilers run
at once and may die between two calls; the service and the runtime workers go on
with their own calls as the environment.
-/

namespace ControlAssurance.Reconciliation

open Lib ControlPlane ControlAssurance.Runtime

/-- A reconciler's configuration, as `__init__` accepts it. -/
structure ReconcilerSettings where
  worker : DeploymentWorkerIdentity
  leaseTtlSeconds : Nat
  maxAttempts : Nat
  baseRetrySeconds : Nat
  maxRetrySeconds : Nat
  ttl_range : 15 ≤ leaseTtlSeconds ∧ leaseTtlSeconds ≤ 3600
  attempt_range : 1 ≤ maxAttempts ∧ maxAttempts ≤ 32
  retry_range : 1 ≤ baseRetrySeconds ∧ baseRetrySeconds ≤ maxRetrySeconds
    ∧ maxRetrySeconds ≤ 86400

/-- The exceptions `run_once` tells apart. -/
inductive TargetFailure where
  | apply (e : DeploymentApplyError)
  | unhandled
deriving DecidableEq

abbrev TargetAnswer := Except TargetFailure DeploymentTargetAcknowledgement

inductive ReconcilerCall where
  | store (c : StoreCall)
  | send (q : DeploymentApplyRequest)
  | receive (q : DeploymentApplyRequest)

def ReconcilerCall.Answer : ReconcilerCall → Type
  | .store c => c.Answer
  | .send _ => Unit
  | .receive _ => TargetAnswer

abbrev Reconciler :=
  Prog ReconcilerCall (fun c => Except ControlPlaneError c.Answer)
    (Except ControlPlaneError (Option DeploymentOperation))

open Prog (check request)

section

variable (sha : Document → Digest) (settings : ReconcilerSettings)

/-- The retry delay after the given number of attempts. -/
def retryDelay (attemptCount : Nat) : Nat :=
  min (settings.baseRetrySeconds * 2 ^ min (attemptCount - 1) 30) settings.maxRetrySeconds

/-- `_failure`: close the lease with a failure, for good once the attempts are
used up or the failure is not retryable. -/
def failure (token : Digest) (failedAt : Time) (op : DeploymentOperation) (code : String)
    (retryable : Bool) : Reconciler :=
  let canRetry := retryable && decide (op.attemptCount < settings.maxAttempts)
  let retryAt : Option Time :=
    if canRetry then some (failedAt + retryDelay settings op.attemptCount) else none
  request (.store (.fail settings.worker op.operationId token op.leaseFence
      (sha (.failure op.attemptCount code op.leaseFence op.operationId canRetry)) failedAt
      retryAt))
    fun (failed : DeploymentOperation) => .ret (.ok (some failed))

/-- The request of a leased operation, with the validators of
`DeploymentApplyRequest`. -/
def applyRequest (op : DeploymentOperation) (revision : ConfigurationRevision) :
    Except ControlPlaneError DeploymentApplyRequest := do
  require (1 ≤ op.operationSequence ∧ op.operationSequence < 2 ^ 63 ∧ 1 ≤ op.leaseFence
      ∧ op.leaseFence < 2 ^ 63)
    (.value "deployment request field is out of range")
  require (revision.configurationBytes.digest sha = op.configurationDigest)
    (.value "deployment request configuration digest differs")
  require (revision.configurationBytes.tenantId = op.tenantId
      ∧ revision.configurationBytes.controlId = op.controlId)
    (.value "deployment request crosses its configuration boundary")
  pure { operationId := op.operationId
         tenantId := op.tenantId
         controlId := op.controlId
         revisionId := op.revisionId
         configurationDigest := op.configurationDigest
         configurationBytes := revision.configurationBytes
         operationSequence := op.operationSequence
         leaseFence := op.leaseFence }

/-- Close the lease with what the target answered. -/
def close (token : Digest) (closedAt : Time) (op : DeploymentOperation) :
    TargetAnswer → Reconciler
  | .error (.apply e) => failure sha settings token closedAt op e.code e.retryable
  | .error .unhandled => failure sha settings token closedAt op "adapter-unhandled" true
  | .ok ack =>
    if ack.operationId = op.operationId ∧ ack.leaseFence = op.leaseFence
        ∧ ack.appliedConfigurationDigest = op.configurationDigest then
      request (.store (.acknowledge settings.worker op.operationId token op.leaseFence
          ack.appliedConfigurationDigest ack.targetReceiptDigest closedAt))
        fun (applied : DeploymentOperation) => .ret (.ok (some applied))
    else
      failure sha settings token closedAt op "target-acknowledgement-mismatch" false

/-- What `run_once` does with the operation it leased. -/
def reconcile (token : Digest) (closedAt : Time) (op : DeploymentOperation) : Reconciler :=
  request (.store (.getRevision op.tenantId op.revisionId))
    fun (revision : ConfigurationRevision) =>
  if revision.controlId ≠ op.controlId
      ∨ revision.configurationDigest ≠ op.configurationDigest then
    failure sha settings token closedAt op "revision-integrity-mismatch" false
  else
    check (applyRequest sha op revision) fun q =>
    request (.send q) fun _ =>
    request (.receive q) fun (answer : TargetAnswer) =>
    close sha settings token closedAt op answer

/-- `run_once`, with the lease token it drew and its two readings of the clock. -/
def runOnce (token : Digest) (leasedAt closedAt : Time) : Reconciler :=
  request (.store (.lease settings.worker token leasedAt settings.leaseTtlSeconds))
    fun (leased : Option DeploymentOperation) =>
  match leased with
  | none => .ret (.ok none)
  | some op => reconcile sha settings token closedAt op

end

/-! ## The two databases and the messages between them -/

structure System where
  plane : World
  catalog : Catalog
  /-- every request ever sent to the target -/
  sent : List DeploymentApplyRequest
  /-- every answer the target ever gave, with the request it answers -/
  answers : List (DeploymentApplyRequest × TargetAnswer)

def System.init : System := ⟨World.init, Catalog.empty, [], []⟩

/-- The answers that say nothing about what happened at the target. -/
def ambiguous (a : TargetAnswer) : Prop :=
  a = .error (.apply deploymentOutcomeUnknown) ∨ a = .error .unhandled

section

variable (sha : Document → Digest) (rsha : RuntimeDocument → Digest)

def answerOf (r : Except DeploymentApplyError (Catalog × DeploymentTargetAcknowledgement)) :
    TargetAnswer :=
  match r with
  | .ok (_, ack) => .ok ack
  | .error e => .error (.apply e)

/-- The target handles one delivery of a request at its own time. -/
def System.deliver (s : System) (q : DeploymentApplyRequest) (timestamp : Time) : System :=
  { s with
    catalog := committed s.catalog (ensureApplied sha rsha s.catalog q timestamp)
    answers := s.answers ++ [(q, answerOf (ensureApplied sha rsha s.catalog q timestamp))] }

def execCall : (c : ReconcilerCall) → System → Except ControlPlaneError c.Answer → System →
    Prop
  | .store c, s, r, s' => ∃ w', exec sha c s.plane r w' ∧ s' = { s with plane := w' }
  | .send q, s, r, s' => r = .ok () ∧ s' = { s with sent := s.sent ++ [q] }
  | .receive q, s, r, s' =>
    s' = s ∧ ∃ a : TargetAnswer, r = .ok a ∧ ((q, a) ∈ s.answers ∨ ambiguous a)

inductive Entry : Reconciler → Prop
  | runOnce (settings token leasedAt closedAt) :
      Entry (Reconciliation.runOnce sha settings token leasedAt closedAt)

/-- What else happens: the service's calls, deliveries, and the other calls of
the catalog. -/
inductive Environment (maxRunAttempts : Nat) (s : System) : System → Prop
  | service (c : StoreCall) (h : c.leaseCall = false) :
      Environment maxRunAttempts s { s with plane := (transact sha c s.plane).2 }
  | delivery (q : DeploymentApplyRequest) (timestamp : Time) (h : q ∈ s.sent) :
      Environment maxRunAttempts s (s.deliver sha rsha q timestamp)
  | runtime (call : CatalogCall) (h : ∀ q t, call ≠ .ensureApplied q t) :
      Environment maxRunAttempts s
        { s with catalog := call.next sha rsha maxRunAttempts s.catalog }

abbrev SystemStep (maxRunAttempts : Nat) :
    Config System Reconciler → Config System Reconciler → Prop :=
  Step (execCall sha) (Entry sha) (Environment sha rsha maxRunAttempts)

/-- Configurations that reconcilers, service and runtime can get to. -/
def ReachableSystem (maxRunAttempts : Nat) (c : Config System Reconciler) : Prop :=
  Reachable (execCall sha) (Entry sha) (Environment sha rsha maxRunAttempts) System.init c

/-! ## Written schedules -/

/-- Make a call; `choice` is the place of the target's answer among all answers,
and a place without an answer to the request is an ambiguous outcome. -/
def runCall (choice : Nat) : (c : ReconcilerCall) → System →
    Except ControlPlaneError c.Answer × System
  | .store c, s => ((transact sha c s.plane).1, { s with plane := (transact sha c s.plane).2 })
  | .send q, s => (.ok (), { s with sent := s.sent ++ [q] })
  | .receive q, s =>
    (.ok (match s.answers[choice]? with
      | some (q', a) => if q' = q then a else .error (.apply deploymentOutcomeUnknown)
      | none => .error (.apply deploymentOutcomeUnknown)), s)

theorem runCall_exec (choice : Nat) (c : ReconcilerCall) (s : System) :
    execCall sha c s (runCall sha choice c s).1 (runCall sha choice c s).2 := by
  cases c with
  | store c => exact ⟨_, rfl, rfl⟩
  | send q => exact ⟨rfl, rfl⟩
  | receive q =>
    refine ⟨rfl, _, rfl, ?_⟩
    cases ha : s.answers[choice]? with
    | none => exact Or.inr (Or.inl rfl)
    | some answer =>
      obtain ⟨q', a⟩ := answer
      by_cases hq : q' = q
      · left
        show (q, if q' = q then a else _) ∈ s.answers
        rw [if_pos hq, ← hq]
        exact List.mem_of_getElem? ha
      · exact Or.inr (Or.inl (if_neg hq))

abbrev SystemMove (maxRunAttempts : Nat) :=
  Move (Entry sha) (Environment sha rsha maxRunAttempts) Nat

/-- The service commits a call of its own. -/
def serviceMove (maxRunAttempts : Nat) (c : StoreCall) (h : c.leaseCall = false) :
    SystemMove sha rsha maxRunAttempts :=
  .environment (fun s => some { s with plane := (transact sha c s.plane).2 }) fun s s' hs => by
    cases hs
    exact .service c h

/-- The target handles the request sent at place `n`. -/
def deliveryMove (maxRunAttempts n : Nat) (timestamp : Time) :
    SystemMove sha rsha maxRunAttempts :=
  .environment (fun s => s.sent[n]?.map fun q => s.deliver sha rsha q timestamp) fun s s' hs => by
    obtain ⟨q, hq, rfl⟩ := Option.map_eq_some_iff.mp hs
    exact .delivery q timestamp (List.mem_of_getElem? hq)

/-- The runtime registers a profile. -/
def profileMove (maxRunAttempts : Nat) (p : ControlProfileKey) :
    SystemMove sha rsha maxRunAttempts :=
  .environment
    (fun s => some { s with
      catalog := (CatalogCall.registerProfile p).next sha rsha maxRunAttempts s.catalog })
    fun s s' hs => by
      cases hs
      exact .runtime (.registerProfile p) fun _ _ h => by cases h

/-- The configuration a written schedule ends in. -/
def played (maxRunAttempts : Nat) (ms : List (SystemMove sha rsha maxRunAttempts)) :
    Config System Reconciler :=
  ms.foldl (fun c m => play (runCall sha) m c) ⟨System.init, []⟩

theorem played_reachable (maxRunAttempts : Nat)
    (ms : List (SystemMove sha rsha maxRunAttempts)) :
    ReachableSystem sha rsha maxRunAttempts (played sha rsha maxRunAttempts ms) :=
  play_reachable (runCall_exec sha) ms

end

end ControlAssurance.Reconciliation
