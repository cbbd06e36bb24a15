import ControlAssurance.Lib.KeyLocks
import ControlAssurance.Oidc.IdToken
import Mathlib.Data.Finset.Card

/-!
# Login admission in PostgreSQL

The four routines of `control_assurance_auth` behind the durable state store:
`reserve_login_admission`, `finalize_login_admission`, `cancel_login_admission` and
`consume_ready_authorization_transaction`. Each is called in a transaction of its own. A routine
is a program of statements; tables are sets of rows, and a row is known by its primary key.

A `DELETE` by digest is three requests: the statement's snapshot picks the row, then it waits for
the row's lock (a row that is gone by then is not deleted), and then the row is deleted together
with what the foreign key cascades to. The cleanup of a reservation skips locked rows instead of
waiting. Inserting a row locks its key, as the unique index does; a row that breaks a `CHECK`, a
primary key or the foreign key makes the statement fail.

Digests are canonical by type (see `Values.lean`), which is what the patterns on them ask for.
Times are finite: the store passes `datetime` values. Two advisory locks whose names hash to one
number would only make callers wait more.
-/

namespace ControlAssurance.Oidc.Durable

open Lib

/-! ## Tables -/

/-- The text `hmac-sha256:` and 64 lower-case hexadecimal digits. -/
abbrev SourceDigest := BitVec 256

/-- `OIDCLoginAdmissionPolicy`, with the field only this store reads. -/
structure AdmissionPolicy extends OIDCLoginAdmissionPolicy where
  reservationTtlSeconds : Nat
deriving DecidableEq

inductive Phase where
  | reserved | ready
deriving DecidableEq

/-- A row of `oidc_login_admissions`. -/
structure LoginAdmission where
  transactionDigest : Digest
  sourceDigest : SourceDigest
  phase : Phase
  admittedAt : Micros
  reservationExpiresAt : Micros
  transactionExpiresAt : Micros
deriving DecidableEq

/-- A row of `authorization_transactions`. -/
structure AuthorizationRow where
  transactionDigest : Digest
  stateDigest : Digest
  nonceDigest : Digest
  verifierCiphertext : List UInt8
  verifierKeyReference : Text
  verifierAlgorithm : Text
  createdAt : Micros
  expiresAt : Micros
deriving DecidableEq

/-- A row of `authorization_transaction_burns`. -/
structure Burn where
  transactionDigest : Digest
  transactionExpiresAt : Micros
  consumedAt : Micros
  purgeAfter : Micros
deriving DecidableEq

namespace LoginAdmission

variable (a : LoginAdmission)

/-- `oidc_login_admission_time_shape` -/
def timeShape : Bool :=
  decide (a.admittedAt < a.reservationExpiresAt)
    && decide (a.reservationExpiresAt ≤ a.admittedAt + seconds 120)
    && decide (a.admittedAt < a.transactionExpiresAt)
    && decide (a.transactionExpiresAt ≤ a.admittedAt + seconds 900)

/-- The end of the row's place: that of the reservation, then that of the transaction. -/
def expiresAt : Micros :=
  match a.phase with
  | .reserved => a.reservationExpiresAt
  | .ready => a.transactionExpiresAt

/-- The row counts against the limits at an instant. -/
def Active (t : Micros) : Prop := t < a.expiresAt

instance (t : Micros) : Decidable (a.Active t) :=
  inferInstanceAs (Decidable (t < a.expiresAt))

/-- The order in which expired rows are cleaned up. -/
def cleanupOrder : Micros := min a.reservationExpiresAt a.transactionExpiresAt

end LoginAdmission

/-- The `CHECK` constraints of `authorization_transactions`. -/
def AuthorizationRow.checks (r : AuthorizationRow) : Bool :=
  decide (16 ≤ r.verifierCiphertext.length) && decide (r.verifierCiphertext.length ≤ 16384)
    && decide (1 ≤ r.verifierKeyReference.length) && decide (r.verifierKeyReference.length ≤ 512)
    && decide (1 ≤ r.verifierAlgorithm.length) && decide (r.verifierAlgorithm.length ≤ 64)
    && r.verifierAlgorithm.all (fun c => c.isAlphanum
      || c ∈ ['.', '_', ':', '/', '@', '+', '-'])
    && decide (r.createdAt < r.expiresAt) && decide (r.expiresAt ≤ r.createdAt + seconds 900)

/-- `authorization_burn_retention` -/
def Burn.retention (b : Burn) : Bool :=
  decide (b.transactionExpiresAt ≤ b.purgeAfter) && decide (b.consumedAt ≤ b.purgeAfter)

structure Tables where
  admissions : Finset LoginAdmission
  transactions : Finset AuthorizationRow
  burns : Finset Burn
deriving DecidableEq

/-! ## Statements -/

inductive AdvisoryLock where
  /-- `control-assurance:oidc-login-admission:global` -/
  | loginAdmission
  /-- `control-assurance:oidc-transaction-burns:global` -/
  | transactionBurns
  /-- `control-assurance:oidc-transaction:` and a digest -/
  | transaction (d : Digest)
deriving DecidableEq

inductive Key where
  | advisory (l : AdvisoryLock)
  | admissionRow (d : Digest)
  | transactionRow (d : Digest)
  | burnRow (d : Digest)
deriving DecidableEq

/-- What an open transaction has done. The `locked` entry is a row lock, the `counted` entries
are the answers its counts got; these change no row. -/
inductive Entry where
  | lockedAdmission (a : LoginAdmission)
  | deletedAdmission (a : LoginAdmission)
  | insertedAdmission (a : LoginAdmission)
  | deletedTransaction (r : AuthorizationRow)
  | insertedTransaction (r : AuthorizationRow)
  | deletedBurn (b : Burn)
  | insertedBurn (b : Burn)
  | counted (t : Micros) (n : Nat)
  | countedSource (source : SourceDigest) (t : Micros) (n : Nat)
  | countedBurns (n : Nat)
deriving DecidableEq

section

variable (ws : List Entry)

def deletedAdmissions : Finset LoginAdmission :=
  (ws.filterMap fun | .deletedAdmission a => some a | _ => none).toFinset

def insertedAdmissions : Finset LoginAdmission :=
  (ws.filterMap fun | .insertedAdmission a => some a | _ => none).toFinset

def deletedTransactions : Finset AuthorizationRow :=
  (ws.filterMap fun | .deletedTransaction r => some r | _ => none).toFinset

def insertedTransactions : Finset AuthorizationRow :=
  (ws.filterMap fun | .insertedTransaction r => some r | _ => none).toFinset

def deletedBurns : Finset Burn :=
  (ws.filterMap fun | .deletedBurn b => some b | _ => none).toFinset

def insertedBurns : Finset Burn :=
  (ws.filterMap fun | .insertedBurn b => some b | _ => none).toFinset

end

/-- The rows a transaction sees. -/
def Tables.over (c : Tables) (ws : List Entry) : Tables where
  admissions := c.admissions \ deletedAdmissions ws ∪ insertedAdmissions ws
  transactions := c.transactions \ deletedTransactions ws ∪ insertedTransactions ws
  burns := c.burns \ deletedBurns ws ∪ insertedBurns ws

inductive Statement where
  | transactionTimestamp
  | advisoryLock (l : AdvisoryLock)
  /-- `SELECT ... ORDER BY LEAST(...) FOR UPDATE SKIP LOCKED LIMIT` of expired admissions -/
  | doomedAdmissions (t : Micros) (limit : Nat)
  /-- locked admissions, and the transactions that refer to them -/
  | deleteAdmissions (rows : List LoginAdmission)
  /-- the same cleanup for burns, to which nothing refers -/
  | deleteDoomedBurns (t : Micros) (limit : Nat)
  | countBurns
  | known (d : Digest)
  | countActive (t : Micros)
  | countSource (source : SourceDigest) (t : Micros)
  | insertAdmission (a : LoginAdmission)
  | findAdmission (d : Digest)
  | lockAdmission (a : LoginAdmission)
  | insertTransaction (r : AuthorizationRow)
  | findReady (d : Digest)
  | deleteTransaction (r : AuthorizationRow)
  | insertBurn (b : Burn)
deriving DecidableEq

def Statement.Out : Statement → Type
  | .transactionTimestamp => Micros
  | .advisoryLock _ => Unit
  | .doomedAdmissions _ _ => List LoginAdmission
  | .deleteAdmissions _ => Unit
  | .deleteDoomedBurns _ _ => Unit
  | .countBurns => Nat
  | .known _ => Bool
  | .countActive _ => Nat
  | .countSource _ _ => Nat
  | .insertAdmission _ => Unit
  | .findAdmission _ => Option LoginAdmission
  | .lockAdmission _ => Bool
  | .insertTransaction _ => Unit
  | .findReady _ => Option AuthorizationRow
  | .deleteTransaction _ => Bool
  | .insertBurn _ => Unit

/-- `ORDER BY order FOR UPDATE SKIP LOCKED LIMIT limit`: only candidates that nobody else has
locked, no more than the limit, and one that is left out while there was room is locked or
comes no earlier. -/
def Doomed {ρ : Type} (candidate : ρ → Prop) (locked : ρ → Prop) (order : ρ → Micros)
    (rows : Finset ρ) (limit : Nat) (doomed : List ρ) : Prop :=
  doomed.Nodup ∧ doomed.length ≤ limit
    ∧ (∀ x ∈ doomed, x ∈ rows ∧ candidate x ∧ ¬locked x)
    ∧ ∀ y ∈ rows, candidate y → ¬locked y → y ∈ doomed
      ∨ (doomed.length = limit ∧ ∀ x ∈ doomed, order x ≤ order y)

/-- The answer, the entries and the locks of a statement. -/
def act : (q : Statement) → Scene Key Tables Unit → q.Out → List Entry → List Key → Unit → Prop
  | .transactionTimestamp, s, r, ws, ks, _ => r = s.startedAt ∧ ws = [] ∧ ks = []
  | .advisoryLock l, _, _, ws, ks, _ => ws = [] ∧ ks = [.advisory l]
  | .doomedAdmissions t limit, s, rows, ws, ks, _ =>
    Doomed (fun a => ¬a.Active t) (fun a => s.held (.admissionRow a.transactionDigest))
        LoginAdmission.cleanupOrder s.view.admissions limit rows
      ∧ ws = rows.map .lockedAdmission ∧ ks = rows.map fun a => .admissionRow a.transactionDigest
  | .deleteAdmissions rows, s, _, ws, ks, _ =>
    ∃ children : List AuthorizationRow, (∀ r, r ∈ children ↔ r ∈ s.view.transactions
        ∧ ∃ a ∈ rows, a.transactionDigest = r.transactionDigest)
      ∧ ws = rows.map .deletedAdmission ++ children.map .deletedTransaction
      ∧ ks = children.map fun r => .transactionRow r.transactionDigest
  | .deleteDoomedBurns t limit, s, _, ws, ks, _ =>
    ∃ rows, Doomed (fun b => b.purgeAfter ≤ t) (fun b => s.held (.burnRow b.transactionDigest))
        Burn.purgeAfter s.view.burns limit rows
      ∧ ws = rows.map .deletedBurn ∧ ks = rows.map fun b => .burnRow b.transactionDigest
  | .countBurns, s, n, ws, ks, _ => n = s.view.burns.card ∧ ws = [.countedBurns n] ∧ ks = []
  | .known d, s, r, ws, ks, _ =>
    r = decide ((∃ a ∈ s.view.admissions, a.transactionDigest = d)
        ∨ ∃ b ∈ s.view.burns, b.transactionDigest = d)
      ∧ ws = [] ∧ ks = []
  | .countActive t, s, n, ws, ks, _ =>
    n = (s.view.admissions.filter (·.Active t)).card ∧ ws = [.counted t n] ∧ ks = []
  | .countSource source t, s, n, ws, ks, _ =>
    n = ((s.view.admissions.filter (·.sourceDigest = source)).filter (·.Active t)).card
      ∧ ws = [.countedSource source t n] ∧ ks = []
  | .insertAdmission a, s, _, ws, ks, _ => a.timeShape = true
      ∧ (∀ x ∈ s.view.admissions, x.transactionDigest ≠ a.transactionDigest)
      ∧ ws = [.insertedAdmission a] ∧ ks = [.admissionRow a.transactionDigest]
  | .findAdmission d, s, some a, ws, ks, _ =>
    (a ∈ s.view.admissions ∧ a.transactionDigest = d) ∧ ws = [] ∧ ks = []
  | .findAdmission d, s, none, ws, ks, _ =>
    (∀ a ∈ s.view.admissions, a.transactionDigest ≠ d) ∧ ws = [] ∧ ks = []
  | .lockAdmission a, s, true, ws, ks, _ => a ∈ s.view.admissions
      ∧ ws = [.lockedAdmission a] ∧ ks = [.admissionRow a.transactionDigest]
  | .lockAdmission a, s, false, ws, ks, _ => a ∉ s.view.admissions ∧ ws = [] ∧ ks = []
  | .insertTransaction r, s, _, ws, ks, _ => r.checks = true
      ∧ (∀ x ∈ s.view.transactions, x.transactionDigest ≠ r.transactionDigest)
      -- the foreign key locks the admission it refers to
      ∧ (∃ a ∈ s.view.admissions, a.transactionDigest = r.transactionDigest)
      ∧ ws = [.insertedTransaction r]
      ∧ ks = [.transactionRow r.transactionDigest, .admissionRow r.transactionDigest]
  | .findReady d, s, some r, ws, ks, _ =>
    (r ∈ s.view.transactions ∧ r.transactionDigest = d
      ∧ ∃ a ∈ s.view.admissions, a.transactionDigest = d ∧ a.phase = .ready) ∧ ws = [] ∧ ks = []
  | .findReady d, s, none, ws, ks, _ =>
    (∀ r ∈ s.view.transactions, r.transactionDigest = d →
      ∀ a ∈ s.view.admissions, a.transactionDigest = d → a.phase ≠ .ready) ∧ ws = [] ∧ ks = []
  | .deleteTransaction r, s, true, ws, ks, _ => r ∈ s.view.transactions
      ∧ ws = [.deletedTransaction r] ∧ ks = [.transactionRow r.transactionDigest]
  | .deleteTransaction r, s, false, ws, ks, _ =>
    r ∉ s.view.transactions ∧ ws = [] ∧ ks = []
  | .insertBurn b, s, _, ws, ks, _ => b.retention = true
      ∧ (∀ x ∈ s.view.burns, x.transactionDigest ≠ b.transactionDigest)
      ∧ ws = [.insertedBurn b] ∧ ks = [.burnRow b.transactionDigest]

def engine : Engine Key Tables Unit Entry Statement Statement.Out := ⟨Tables.over, act⟩

/-! ## Routines -/

inductive Outcome where
  | reserved | burnCapacity | conflict | globalLimit | sourceLimit
deriving DecidableEq

inductive Answer where
  | admission (outcome : Outcome)
  | finalized (done : Bool)
  | cancelled (done : Bool)
  | consumed (row : Option AuthorizationRow)
deriving DecidableEq

abbrev Routine := Prog Statement Statement.Out (Except String Answer)

/-- `DELETE ... WHERE transaction_digest = d AND cond RETURNING *`. -/
def deleteAdmission (d : Digest) (cond : LoginAdmission → Bool)
    (k : Option LoginAdmission → Routine) : Routine :=
  .call (.findAdmission d) fun (found : Option LoginAdmission) =>
    match found.filter cond with
    | none => k none
    | some a => .call (.lockAdmission a) fun (there : Bool) =>
      if there then .call (.deleteAdmissions [a]) fun _ => k (some a) else k none

/-- What `reserve_login_admission` decides once the ledger of burns has room. -/
def admitReservation (policy : AdmissionPolicy) (d : Digest) (source : SourceDigest)
    (admittedAt transactionExpiresAt : Micros) : Routine :=
  .call (.known d) fun (conflict : Bool) =>
    if conflict then .ret (.ok (.admission .conflict))
    else .call (.countActive admittedAt) fun (globalActive : Nat) =>
      if policy.globalActiveLimit ≤ globalActive then .ret (.ok (.admission .globalLimit))
      else .call (.countSource source admittedAt) fun (sourceActive : Nat) =>
        if policy.sourceActiveLimit ≤ sourceActive then .ret (.ok (.admission .sourceLimit))
        else .call (.insertAdmission ⟨d, source, .reserved, admittedAt,
            admittedAt + seconds policy.reservationTtlSeconds, transactionExpiresAt⟩) fun _ =>
          .ret (.ok (.admission .reserved))

/-- The arguments `reserve_login_admission` raises on. -/
def invalidReservation (policy : AdmissionPolicy) (admittedAt transactionExpiresAt : Micros)
    (cleanupLimit : Nat) : Bool :=
  decide (transactionExpiresAt ≤ admittedAt)
    || decide (admittedAt + seconds 900 < transactionExpiresAt)
    || decide (policy.reservationTtlSeconds < 5) || decide (120 < policy.reservationTtlSeconds)
    || decide (policy.globalActiveLimit < 1) || decide (100000 < policy.globalActiveLimit)
    || decide (policy.sourceActiveLimit < 1)
    || decide (policy.globalActiveLimit < policy.sourceActiveLimit)
    || decide (policy.burnCapacity < policy.globalActiveLimit)
    || decide (1000000 < policy.burnCapacity)
    || decide (cleanupLimit < 1) || decide (10000 < cleanupLimit)

def reserveLoginAdmission (policy : AdmissionPolicy) (d : Digest) (source : SourceDigest)
    (transactionExpiresAt : Micros) (cleanupLimit : Nat) : Routine :=
  .call .transactionTimestamp fun (admittedAt : Micros) =>
    if invalidReservation policy admittedAt transactionExpiresAt cleanupLimit then
      .ret (.error "OIDC login admission arguments are invalid")
    else .call (.advisoryLock .loginAdmission) fun _ =>
      .call (.doomedAdmissions admittedAt cleanupLimit) fun (doomed : List LoginAdmission) =>
      .call (.deleteAdmissions doomed) fun _ =>
      .call (.deleteDoomedBurns admittedAt cleanupLimit) fun _ =>
      .call .countBurns fun (burnCount : Nat) =>
        if policy.burnCapacity ≤ burnCount then .ret (.ok (.admission .burnCapacity))
        else admitReservation policy d source admittedAt transactionExpiresAt

def finalizeLoginAdmission (row : AuthorizationRow) : Routine :=
  .call .transactionTimestamp fun (finalizedAt : Micros) =>
  .call (.advisoryLock (.transaction row.transactionDigest)) fun _ =>
    deleteAdmission row.transactionDigest (fun a => a.phase = .reserved
        && decide (finalizedAt < a.reservationExpiresAt)
        && a.transactionExpiresAt == row.expiresAt) fun claimed =>
      match claimed with
      | none => deleteAdmission row.transactionDigest (fun a => a.phase = .reserved
          && decide (a.reservationExpiresAt ≤ finalizedAt)) fun _ => .ret (.ok (.finalized false))
      | some claimed =>
        .call (.insertAdmission { claimed with phase := .ready }) fun _ =>
        .call (.insertTransaction row) fun _ => .ret (.ok (.finalized true))

def cancelLoginAdmission (d : Digest) : Routine :=
  .call (.advisoryLock (.transaction d)) fun _ =>
    deleteAdmission d (fun _ => true) fun deleted => .ret (.ok (.cancelled deleted.isSome))

/-- The arguments `consume_ready_authorization_transaction` raises on. -/
def invalidConsume (policy : AdmissionPolicy) (burnRetentionSeconds cleanupLimit : Nat) : Bool :=
  decide (burnRetentionSeconds < 60) || decide (86400 < burnRetentionSeconds)
    || decide (cleanupLimit < 1) || decide (10000 < cleanupLimit)
    || decide (policy.burnCapacity < 1) || decide (1000000 < policy.burnCapacity)

/-- The end of `consume_ready_authorization_transaction`, for a row it has deleted. -/
def burnClaimed (claimed : AuthorizationRow) (consumedAt : Micros) (burnRetentionSeconds : Nat) :
    Routine :=
  deleteAdmission claimed.transactionDigest (fun a => a.phase = .ready) fun _ =>
    .call (.insertBurn ⟨claimed.transactionDigest, claimed.expiresAt, consumedAt,
        max claimed.expiresAt consumedAt + seconds burnRetentionSeconds⟩) fun _ =>
      .ret (.ok (.consumed (some claimed)))

def consumeReadyAuthorizationTransaction (policy : AdmissionPolicy) (d : Digest)
    (consumedAt : Micros) (burnRetentionSeconds cleanupLimit : Nat) : Routine :=
  if invalidConsume policy burnRetentionSeconds cleanupLimit then
    .ret (.error "OIDC consume arguments are invalid")
  else .call (.advisoryLock .transactionBurns) fun _ =>
    .call (.deleteDoomedBurns consumedAt cleanupLimit) fun _ =>
    .call .countBurns fun (burnCount : Nat) =>
      if policy.burnCapacity ≤ burnCount then .ret (.error "OIDC replay ledger is at capacity")
      else .call (.advisoryLock (.transaction d)) fun _ =>
        .call (.findReady d) fun (found : Option AuthorizationRow) =>
          match found with
          | none => .ret (.ok (.consumed none))
          | some claimed => .call (.deleteTransaction claimed) fun (there : Bool) =>
            if there then burnClaimed claimed consumedAt burnRetentionSeconds
            else .ret (.ok (.consumed none))

/-! ## The system -/

/-- A call some replica makes, with the arguments that are not in the policy. -/
inductive Call where
  | reserve (d : Digest) (source : SourceDigest) (transactionExpiresAt : Micros)
      (cleanupLimit : Nat)
  | finalize (row : AuthorizationRow)
  | cancel (d : Digest)
  | consume (d : Digest) (consumedAt : Micros) (burnRetentionSeconds cleanupLimit : Nat)
deriving DecidableEq

def Call.routine (policy : AdmissionPolicy) : Call → Routine
  | .reserve d source expiresAt limit => reserveLoginAdmission policy d source expiresAt limit
  | .finalize row => finalizeLoginAdmission row
  | .cancel d => cancelLoginAdmission d
  | .consume d at_ retention limit =>
    consumeReadyAuthorizationTransaction policy d at_ retention limit

abbrev Database (ι : Type) := Server ι Key Tables Unit Entry

abbrev Client (ι : Type) := Prog (ι × Request Statement Call Answer)
  (fun c => c.2.Reply String Statement.Out) (Except String Answer)

/-- Connections of any replica run one call after another, each in its own transaction. -/
def replicas {ι : Type} (policy : AdmissionPolicy) (id : ι) (p : Client ι) : Prop :=
  ∃ call : Call, p = transaction (fun _ e => e) id call (call.routine policy)

/-- Migration 5 on an empty database. -/
def installed {ι : Type} (now : Micros) : Database ι :=
  ⟨now, now, ⟨∅, ∅, ∅⟩, (), fun _ => .begun now⟩

end ControlAssurance.Oidc.Durable
