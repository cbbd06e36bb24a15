import ControlAssurance.Lib.Transactions
import ControlAssurance.ControlPlane.StoreSteps

/-!
# The control-plane service

`ControlPlaneService` method by method. A method checks the actor against its
own clock reading, reads what it has to know from the store, and then makes
one writing call; each store call is a transaction of its own, so a method is
a client program (`Lib.Prog`) and other clients run between its calls.

`World` is the store together with the commits made so far, a history no
service reads: it is what the statements "was requested while …" and "was made
by …" are about.
-/

namespace ControlAssurance.ControlPlane

open Lib

/-! ## Authorization -/

def privilegedSessionMaxAge : Time := 60 * 60

def futureClockTolerance : Time := 5 * 60

def Role.name : Role → String
  | .viewer => "viewer"
  | .editor => "editor"
  | .approver => "approver"
  | .deployer => "deployer"
  | .auditor => "auditor"
  | .administrator => "administrator"

/-- `_authorize`. -/
def authorize (actor : Actor) (role : Role) (privileged : Bool) (now : Time) :
    Except ControlPlaneError Unit := do
  require (.administrator ∈ actor.roles ∨ role ∈ actor.roles)
    (.authorization (role.name ++ " role is required"))
  let age := now - actor.authenticatedAt
  require (-futureClockTolerance ≤ age)
    (.authorization "authentication time is in the future")
  require (privileged = true → actor.mfa = true ∧ 0 ≤ age ∧ age ≤ privilegedSessionMaxAge)
    (.authorization "fresh MFA authentication is required for this action")

/-- `_same_tenant`. -/
def sameTenant (actor : Actor) (tenantId : String) : Except ControlPlaneError Unit :=
  require (actor.tenantId = tenantId) (.authorization "cross-tenant access is denied")

/-- `_owns_control`. -/
def ownsControl (actor : Actor) (configuration : ControlConfiguration) :
    Except ControlPlaneError Unit :=
  require (.administrator ∈ actor.roles ∨ configuration.ownerGroup ∈ actor.groups)
    (.authorization "actor is not a member of the control owner group")

/-! ## Methods -/

inductive ServiceAnswer where
  | revision (r : ConfigurationRevision)
  | decided (r : ConfigurationRevision) (d : ApprovalDecision)
  | activated (d : ActiveDeployment) (op : DeploymentOperation)
  | operation (op : DeploymentOperation)
  | leased (op : Option DeploymentOperation)

/-- A client of the store. -/
abbrev Client :=
  Prog StoreCall (fun c => Except ControlPlaneError c.Answer)
    (Except ControlPlaneError ServiceAnswer)

open Prog (check request)

def createRevision (now : Time) (actor : Actor) (configuration : ControlConfiguration)
    (expectedParentRevisionId : Option Digest) : Client :=
  check (authorize actor .editor false now) fun _ =>
  check (sameTenant actor configuration.tenantId) fun _ =>
  check (ownsControl actor configuration) fun _ =>
  request (.createDraft actor configuration expectedParentRevisionId now)
    fun (revisionId : Digest) =>
  request (.getRevision configuration.tenantId revisionId)
    fun (r : ConfigurationRevision) =>
  .ret (.ok (.revision r))

def submitRevision (now : Time) (actor : Actor) (revisionId : Digest)
    (expectedStateVersion : Nat) : Client :=
  check (authorize actor .editor false now) fun _ =>
  request (.getRevision actor.tenantId revisionId) fun (r : ConfigurationRevision) =>
  check (require (r.createdBy = actor.subject ∨ .administrator ∈ actor.roles)
    (.authorization "only the revision author may submit it")) fun _ =>
  check (ownsControl actor r.configurationBytes) fun _ =>
  request (.submit actor revisionId expectedStateVersion now) fun _ =>
  request (.getRevision actor.tenantId revisionId) fun (r : ConfigurationRevision) =>
  .ret (.ok (.revision r))

def decideRevisionCall (now : Time) (actor : Actor) (revisionId : Digest)
    (expectedStateVersion : Nat) (decision : Verdict) (comment : String) : Client :=
  check (authorize actor .approver true now) fun _ =>
  request (.getRevision actor.tenantId revisionId) fun (r : ConfigurationRevision) =>
  check (require (r.createdBy ≠ actor.subject)
    (.authorization "revision author cannot approve or reject their own change")) fun _ =>
  request (.decide actor revisionId expectedStateVersion decision comment now)
    fun (d : ApprovalDecision) =>
  request (.getRevision actor.tenantId revisionId) fun (r : ConfigurationRevision) =>
  .ret (.ok (.decided r d))

def activateRevisionWithOperation (now : Time) (actor : Actor) (revisionId : Digest)
    (expectedDeploymentVersion : Option Nat) : Client :=
  check (authorize actor .deployer true now) fun _ =>
  request (.getRevision actor.tenantId revisionId) fun (r : ConfigurationRevision) =>
  check (require (r.createdBy ≠ actor.subject)
    (.authorization "revision author cannot activate their own change")) fun _ =>
  request (.activateWithOperation actor revisionId expectedDeploymentVersion now)
    fun (ans : ActiveDeployment × DeploymentOperation) =>
  .ret (.ok (.activated ans.1 ans.2))

def requestRollbackCall (now : Time) (actor : Actor) (revisionId : Digest)
    (expectedPredecessorOperationId : Digest) : Client :=
  check (authorize actor .deployer true now) fun _ =>
  request (.getRevision actor.tenantId revisionId) fun (r : ConfigurationRevision) =>
  check (require (r.createdBy ≠ actor.subject)
    (.authorization "revision author cannot request their own rollback deployment"))
    fun _ =>
  request (.requestRollback actor revisionId expectedPredecessorOperationId now)
    fun (op : DeploymentOperation) =>
  .ret (.ok (.operation op))

def retryDeployment (now : Time) (actor : Actor) (failedOperationId : Digest) : Client :=
  check (authorize actor .deployer true now) fun _ =>
  request (.getDeploymentOperation actor.tenantId failedOperationId)
    fun (failed : DeploymentOperation) =>
  request (.getRevision actor.tenantId failed.revisionId)
    fun (r : ConfigurationRevision) =>
  check (require (r.createdBy ≠ actor.subject)
    (.authorization "revision author cannot request their own deployment retry")) fun _ =>
  request (.requestDeploymentRetry actor failedOperationId now)
    fun (op : DeploymentOperation) =>
  .ret (.ok (.operation op))

/-- Who may call what: the service's methods, and a deployment worker's three
store calls with whatever arguments it likes. The reading methods change
nothing and are left out. -/
inductive Entry : Client → Prop
  | create (now actor configuration parent) :
      Entry (createRevision now actor configuration parent)
  | submit (now actor revisionId version) :
      Entry (submitRevision now actor revisionId version)
  | decide (now actor revisionId version decision comment) :
      Entry (decideRevisionCall now actor revisionId version decision comment)
  | activate (now actor revisionId version) :
      Entry (activateRevisionWithOperation now actor revisionId version)
  | rollback (now actor revisionId predecessor) :
      Entry (requestRollbackCall now actor revisionId predecessor)
  | retry (now actor operationId) : Entry (retryDeployment now actor operationId)
  | lease (worker token t ttl) : Entry (request (.lease worker token t ttl)
      fun (op : Option DeploymentOperation) => .ret (.ok (.leased op)))
  | acknowledge (worker operationId token fence digest receipt t) :
      Entry (request (.acknowledge worker operationId token fence digest receipt t)
        fun (op : DeploymentOperation) => .ret (.ok (.operation op)))
  | fail (worker operationId token fence digest t retryAt) :
      Entry (request (.fail worker operationId token fence digest t retryAt)
        fun (op : DeploymentOperation) => .ret (.ok (.operation op)))

/-! ## The system -/

/-- One committed call with its answer, and the tables before and after. -/
structure Commit where
  before : Store
  call : StoreCall
  answer : call.Answer
  after : Store

structure World where
  store : Store
  log : List Commit

def World.init : World := ⟨Store.empty, []⟩

/-- A store call is one transaction: it commits, or raises and changes nothing. -/
def transact (sha : Document → Digest) (c : StoreCall) (w : World) :
    Except ControlPlaneError c.Answer × World :=
  match c.run sha w.store with
  | .ok (st', ans) => (.ok ans, ⟨st', w.log ++ [⟨w.store, c, ans, st'⟩]⟩)
  | .error e => (.error e, w)

def exec (sha : Document → Digest) (c : StoreCall) (w : World)
    (r : Except ControlPlaneError c.Answer) (w' : World) : Prop :=
  (r, w') = transact sha c w

/-- Configurations of the running service. -/
def ReachableWorld (sha : Document → Digest) (c : Config World Client) : Prop :=
  Reachable (exec sha) Entry (fun _ _ => False) World.init c

theorem exec_cases {sha : Document → Digest} {c : StoreCall} {w w' : World}
    {r : Except ControlPlaneError c.Answer} (h : exec sha c w r w') :
    (∃ st' ans, c.run sha w.store = .ok (st', ans) ∧ r = .ok ans
      ∧ w' = ⟨st', w.log ++ [⟨w.store, c, ans, st'⟩]⟩) ∨
    (∃ e, r = .error e ∧ w' = w) := by
  unfold exec transact at h
  split at h
  next st' ans hrun =>
    obtain ⟨rfl, rfl⟩ := Prod.mk.inj h
    exact Or.inl ⟨st', ans, hrun, rfl, rfl⟩
  next e _ =>
    obtain ⟨rfl, rfl⟩ := Prod.mk.inj h
    exact Or.inr ⟨e, rfl, rfl⟩

end ControlAssurance.ControlPlane
