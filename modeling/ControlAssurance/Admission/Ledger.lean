import Mathlib.Data.List.Sort
import Mathlib.Data.List.Dedup
import ControlAssurance.Lib.Grown
import ControlAssurance.Admission.Documents

/-!
# The admission ledger: tables and their verification

The nine tables of `_SQLiteAdmissionLedger` and everything that reads them back:
each stored row is verified against the signed document it carries, the
duplicated heads against the ends of the chains, and `validateCompleteLedger`
re-establishes the whole history, as it is done when a database is opened and
after every commit of another connection.

A row's columns repeat parts of its document (`LeaseColumns`, `AdmissionColumns`,
`PreparationColumns`); the document itself stands for the stored bytes.
-/

namespace ControlAssurance.Admission

open Lib

/-! ## Tables -/

structure LeaseColumns where
  leaseDigest : Digest
  nonceDigest : Digest
  tenantId : String
  collectorId : String
  audience : String
  jobId : String
  policyId : String
  policyRevision : Nat
  policyDigest : Digest
  epoch : Nat
  sequence : Nat
  expiresAt : Instant
deriving DecidableEq

/-- A row of `job_leases`. -/
structure LeaseRow extends LeaseColumns where
  grant : SignedJobLease
  consumedEnvelopeDigest : Option Digest
  consumedReceiptDigest : Option Digest
deriving DecidableEq

structure PolicyVersion where
  policyId : String
  policyRevision : Nat
  policyDigest : Digest
deriving DecidableEq

structure PolicyHead where
  policyId : String
  currentRevision : Nat
  currentPolicyDigest : Digest
deriving DecidableEq

structure CollectorHead where
  tenantId : String
  collectorId : String
  currentEpoch : Nat
  lastSequence : Nat
  lastReceiptDigest : Digest
deriving DecidableEq

structure TenantHead where
  tenantId : String
  lastReceiptSequence : Nat
  lastReceiptDigest : Digest
deriving DecidableEq

/-- The evidence kept beside a receipt. -/
structure Evidence where
  envelopeBytes : Bytes
  cabSnapshotBytes : Bytes
  policyBytes : Bytes
  attestation : AttestationVerification
deriving DecidableEq

inductive CustodyState where
  | pending | durable
deriving DecidableEq

structure AdmissionColumns where
  receiptDigest : Digest
  receiptSequence : Nat
  leaseDigest : Digest
  tenantId : String
  collectorId : String
  epoch : Nat
  sequence : Nat
  envelopeDigest : Digest
  statementDigest : Digest
  cabSnapshotDigest : Digest
  policyId : String
  policyRevision : Nat
  policyDigest : Digest
  attestationDigest : Digest
  requestFingerprint : Digest
  custodyObjectId : Digest
  custodyReference : String
deriving DecidableEq

/-- A row of `admissions`. -/
structure AdmissionRow extends AdmissionColumns where
  receipt : AdmissionReceipt
  evidence : Evidence
  custodyState : CustodyState
  custodyAckDigest : Option Digest
  custodyAck : Option CustodyAcknowledgement
deriving DecidableEq

structure PreparationColumns where
  receiptBodyDigest : Digest
  leaseDigest : Digest
  tenantId : String
  collectorId : String
  epoch : Nat
  sequence : Nat
  receiptSequence : Nat
  envelopeDigest : Digest
  policyId : String
  policyRevision : Nat
  policyDigest : Digest
  custodyObjectId : Digest
  custodyReference : String
deriving DecidableEq

/-- A row of `admission_preparations`. -/
structure PreparationRow extends PreparationColumns where
  receiptBody : AdmissionReceiptBody
  evidence : Evidence
deriving DecidableEq

/-- A row of `custody_ack_preparations`. -/
structure AckPreparationRow where
  receiptDigest : Digest
  acknowledgementBodyDigest : Digest
  acknowledgementBody : CustodyAcknowledgementBody
deriving DecidableEq

structure Ledger where
  /-- the one row of `admission_meta`, as far as it changes -/
  lastAdmittedAt : Option Instant
  leases : List LeaseRow
  policyVersions : List PolicyVersion
  policyHeads : List PolicyHead
  collectorHeads : List CollectorHead
  tenantHeads : List TenantHead
  admissions : List AdmissionRow
  preparations : List PreparationRow
  ackPreparations : List AckPreparationRow
deriving DecidableEq

def Ledger.empty : Ledger := ⟨none, [], [], [], [], [], [], [], []⟩

/-! ## Columns of a document -/

section

variable (P : Profile)

def JobLease.columns (l : JobLease) : LeaseColumns :=
  { leaseDigest := l.leaseDigest P
    nonceDigest := l.nonceDigest P
    tenantId := l.tenantId
    collectorId := l.collectorId
    audience := l.audience
    jobId := l.jobId
    policyId := l.policyId
    policyRevision := l.policyRevision
    policyDigest := l.policyDigest
    epoch := l.epoch
    sequence := l.sequence
    expiresAt := l.expiresAt }

def AdmissionReceipt.columns (r : AdmissionReceipt) : AdmissionColumns :=
  { receiptDigest := r.receiptDigest P
    receiptSequence := r.body.receiptSequence
    leaseDigest := r.body.leaseDigest
    tenantId := r.body.tenantId
    collectorId := r.body.collectorId
    epoch := r.body.epoch
    sequence := r.body.sequence
    envelopeDigest := r.body.envelopeDigest
    statementDigest := r.body.payloadDigest
    cabSnapshotDigest := r.body.cabSnapshotDigest
    policyId := r.body.trustPolicyId
    policyRevision := r.body.trustPolicyRevision
    policyDigest := r.body.trustPolicyDigest
    attestationDigest := r.body.attestationVerificationDigest
    requestFingerprint := r.body.admissionRequestFingerprint
    custodyObjectId := r.body.custodyObjectId
    custodyReference := r.body.custodyReference }

def AdmissionReceiptBody.preparationColumns (b : AdmissionReceiptBody) : PreparationColumns :=
  { receiptBodyDigest := P.sha (.receiptBody b)
    leaseDigest := b.leaseDigest
    tenantId := b.tenantId
    collectorId := b.collectorId
    epoch := b.epoch
    sequence := b.sequence
    receiptSequence := b.receiptSequence
    envelopeDigest := b.envelopeDigest
    policyId := b.trustPolicyId
    policyRevision := b.trustPolicyRevision
    policyDigest := b.trustPolicyDigest
    custodyObjectId := b.custodyObjectId
    custodyReference := b.custodyReference }

end

/-! ## Collector positions -/

/-- Where a lease or receipt stands in its collector's history. -/
structure CollectorPosition where
  epoch : Nat
  sequence : Nat
  previousEpoch : Option Nat
  previousEpochFinalSequence : Option Nat
  previousEpochFinalReceiptDigest : Option Digest
deriving DecidableEq

def LeaseTerms.position (t : LeaseTerms) : CollectorPosition :=
  ⟨t.epoch, t.sequence, t.previousEpoch, t.previousEpochFinalSequence,
    t.previousEpochFinalReceiptDigest⟩

def AdmissionReceiptBody.position (b : AdmissionReceiptBody) : CollectorPosition :=
  ⟨b.epoch, b.sequence, b.previousEpoch, b.previousEpochFinalSequence,
    b.previousEpochFinalReceiptDigest⟩

/-- The position binds the head `(epoch, sequence, receipt)`. -/
def CollectorPosition.binds (p : CollectorPosition) (head : Nat × Nat × Digest) : Prop :=
  p.previousEpoch = some head.1 ∧ p.previousEpochFinalSequence = some head.2.1
    ∧ p.previousEpochFinalReceiptDigest = some head.2.2

instance (p : CollectorPosition) (head : Nat × Nat × Digest) : Decidable (p.binds head) :=
  inferInstanceAs (Decidable (_ ∧ _ ∧ _))

/-- `collector_valid`: the position is the next one after the head. -/
def collectorValid (head : Option (Nat × Nat × Digest)) (p : CollectorPosition) : Prop :=
  match head with
  | none => p.epoch = 1 ∧ p.sequence = 1
  | some head =>
    if p.epoch = head.1 then p.sequence = head.2.1 + 1
    else if p.epoch = head.1 + 1 then p.sequence = 1 ∧ p.binds head
    else False

instance (head : Option (Nat × Nat × Digest)) (p : CollectorPosition) :
    Decidable (collectorValid head p) :=
  match head with
  | none => inferInstanceAs (Decidable (_ ∧ _))
  | some head => inferInstanceAs
      (Decidable (if p.epoch = head.1 then _ else if p.epoch = head.1 + 1 then _ else False))

/-- The same decision where each way to fail has its own rejection. -/
def checkCollector (head : Option (Nat × Nat × Digest)) (p : CollectorPosition)
    (first gap transition skip : AdmissionError) : Except AdmissionError Unit :=
  match head with
  | none => require (p.epoch = 1 ∧ p.sequence = 1) first
  | some head =>
    if p.epoch = head.1 then require (p.sequence = head.2.1 + 1) gap
    else if p.epoch = head.1 + 1 then require (p.sequence = 1 ∧ p.binds head) transition
    else .error skip

theorem checkCollector_eq_ok {head : Option (Nat × Nat × Digest)} {p : CollectorPosition}
    {e₁ e₂ e₃ e₄ : AdmissionError} {u : Unit} :
    checkCollector head p e₁ e₂ e₃ e₄ = .ok u ↔ collectorValid head p := by
  unfold checkCollector collectorValid
  cases head with
  | none => exact require_eq_ok
  | some head =>
    dsimp only
    split
    · exact require_eq_ok
    · split
      · exact require_eq_ok
      · simp

end ControlAssurance.Admission
