import ControlAssurance.Admission.Transactions

/-!
# The invariant of the admission ledger

What the tables say together, table by table: leases, receipts, preparations,
heads, policies, acknowledgements and the clock. Each tenant's receipts are a
list that only grew at its end (`Grown`), and `NextBody` is what a body needs to
be the next one: the next number, the previous receipt's digest, no custody
outstanding, and the next position of its collector. A preparation is the body
that was allowed next; a receipt is one that was.
-/

namespace ControlAssurance.Admission

open Lib

/-! ## Ends of chains -/

/-- Number and digest of the last receipt. -/
def tenantEnd (rows : List AdmissionRow) : Option (Nat × Digest) :=
  chainHead (·.receiptSequence) (·.receiptDigest) rows

/-- Epoch, sequence and digest of the collector's last receipt. -/
def collectorEnd (rows : List AdmissionRow) (collectorId : String) :
    Option (Nat × Nat × Digest) :=
  (rows.filter fun a => decide (a.collectorId = collectorId)).getLast?.map fun a =>
    (a.epoch, a.sequence, a.receiptDigest)

/-- The body may follow the receipts. -/
structure NextBody (rows : List AdmissionRow) (b : AdmissionReceiptBody) : Prop where
  number : b.receiptSequence = rows.length + 1
  previous : b.previousReceiptDigest = (tenantEnd rows).map Prod.snd
  durable : ∀ a ∈ rows, a.custodyState = .durable
  collector : collectorValid (collectorEnd rows b.collectorId) b.position

/-! ## Single rows -/

section

variable (P : Profile)

structure SoundLease (row : LeaseRow) : Prop where
  valid : row.grant.lease.valid
  signed : P.authorityVerifies row.grant.lease row.grant.authoritySignature = true
  authority : row.grant.lease.leaseAuthorityKeyFingerprint = P.leaseAuthorityFingerprint
  columns : row.toLeaseColumns = row.grant.lease.columns P

/-- A body with its evidence, made under a lease. -/
structure SoundEvidence (b : AdmissionReceiptBody) (ev : Evidence) (lease : JobLease) :
    Prop where
  valid : b.valid
  bounded : ev.envelopeBytes.length ≤ P.limits.maxEnvelopeBytes
    ∧ ev.policyBytes.length ≤ P.limits.maxPolicyBytes
  bound : ∃ statement, P.parseStatement ev.envelopeBytes = some statement
    ∧ EvidenceBound P b ev statement lease
  configured : b.audience = P.expectedAudience ∧ b.capabilityDigest = P.expectedCapabilityDigest
  policy : P.parseTrustPolicy ev.policyBytes = some b.trustPolicyId
  verified : ev.attestation.verified = true ∧ ev.attestation.reasonCode = .verified
  policyNamed : ev.attestation.policyId = some b.trustPolicyId
  digests : EvidenceDigests P b ev
  snapshot : P.verifySnapshot ev.cabSnapshotBytes = some ⟨b.cabId, b.manifestDigest⟩
  fingerprint : b.requestFingerprint P ev.attestation = b.admissionRequestFingerprint

/-- What a durable row's acknowledgement says. -/
structure SoundAck (row : AdmissionRow) (ack : CustodyAcknowledgement) : Prop where
  stored : row.custodyAck = some ack
  digest : row.custodyAckDigest = some (P.sha (.acknowledgement ack))
  signed : P.signerVerifies (.acknowledgement ack.body) ack.serviceSignature = true
  body : ack.body = acknowledgementBody P row.receipt row.custodyReference

/-- Pending rows have no acknowledgement, durable ones have theirs. -/
def Acknowledged (row : AdmissionRow) : Prop :=
  (row.custodyState = .pending ∧ row.custodyAck = none ∧ row.custodyAckDigest = none)
    ∨ (row.custodyState = .durable ∧ ∃ ack, SoundAck P row ack)

/-- A receipt row with the lease it consumed. -/
structure SoundReceipt (db : Ledger) (row : AdmissionRow) : Prop where
  signed : P.signerVerifies (.receipt row.receipt.body) row.receipt.serviceSignature = true
  columns : row.toAdmissionColumns = row.receipt.columns P
  lease : ∃ l ∈ db.leases, l.leaseDigest = row.leaseDigest
    ∧ SoundEvidence P row.receipt.body row.evidence l.grant.lease
    ∧ l.consumedEnvelopeDigest = some row.envelopeDigest
    ∧ l.consumedReceiptDigest = some row.receiptDigest
  ack : Acknowledged P row

/-- A preparation with the lease it reserves. -/
structure SoundPreparation (db : Ledger) (row : PreparationRow) : Prop where
  columns : row.toPreparationColumns = row.receiptBody.preparationColumns P
  lease : ∃ l ∈ db.leases, l.leaseDigest = row.leaseDigest
    ∧ SoundEvidence P row.receiptBody row.evidence l.grant.lease
    ∧ l.consumedEnvelopeDigest = none ∧ l.consumedReceiptDigest = none

/-! ## The tables -/

/-- A lease's place in its collector's plan. -/
def LeaseColumns.coordinate (l : LeaseColumns) : String × String × Nat × Nat :=
  (l.tenantId, l.collectorId, l.epoch, l.sequence)

structure LeasesInv (db : Ledger) : Prop where
  digests : (db.leases.map (·.leaseDigest)).Nodup
  nonces : (db.leases.map (·.nonceDigest)).Nodup
  coordinates : (db.leases.map fun l => l.toLeaseColumns.coordinate).Nodup
  sound : ∀ l ∈ db.leases, SoundLease P l
  /-- a marked lease has a receipt -/
  consumed : ∀ l ∈ db.leases,
    (l.consumedEnvelopeDigest = none ∧ l.consumedReceiptDigest = none)
      ∨ ∃ a ∈ db.admissions, a.leaseDigest = l.leaseDigest

structure ReceiptsInv (db : Ledger) : Prop where
  digests : (db.admissions.map (·.receiptDigest)).Nodup
  leases : (db.admissions.map (·.leaseDigest)).Nodup
  sound : ∀ a ∈ db.admissions, SoundReceipt P db a
  chains : ∀ t, Grown (fun rows a => NextBody rows a.receipt.body) (db.tenantAdmissions t)

structure PreparationsInv (db : Ledger) : Prop where
  tenants : (db.preparations.map (·.tenantId)).Nodup
  leases : (db.preparations.map (·.leaseDigest)).Nodup
  sound : ∀ p ∈ db.preparations, SoundPreparation P db p
  next : ∀ p ∈ db.preparations, NextBody (db.tenantAdmissions p.tenantId) p.receiptBody
  /-- no envelope is used twice, be it admitted or reserved -/
  envelopes : (db.admissions.map (·.envelopeDigest)
    ++ db.preparations.map (·.envelopeDigest)).Nodup
  quota : ∀ p ∈ db.preparations, (db.tenantAdmissions p.tenantId).length
    < P.limits.maxAdmissionsPerTenant

end

structure HeadsInv (db : Ledger) : Prop where
  tenants : ∀ h, h ∈ db.tenantHeads ↔ tenantEnd (db.tenantAdmissions h.tenantId)
    = some (h.lastReceiptSequence, h.lastReceiptDigest)
  collectors : ∀ h, h ∈ db.collectorHeads ↔
    collectorEnd (db.tenantAdmissions h.tenantId) h.collectorId
      = some (h.currentEpoch, h.lastSequence, h.lastReceiptDigest)

def AdmissionColumns.policy (a : AdmissionColumns) : PolicyVersion :=
  ⟨a.policyId, a.policyRevision, a.policyDigest⟩

def PreparationColumns.policy (p : PreparationColumns) : PolicyVersion :=
  ⟨p.policyId, p.policyRevision, p.policyDigest⟩

/-- The policy revisions in use. -/
def Ledger.policiesUsed (db : Ledger) : List PolicyVersion :=
  db.admissions.map (fun a => a.toAdmissionColumns.policy)
    ++ db.preparations.map fun p => p.toPreparationColumns.policy

structure PoliciesInv (db : Ledger) : Prop where
  versions : (db.policyVersions.map fun v => (v.policyId, v.policyRevision)).Nodup
  used : ∀ v, v ∈ db.policyVersions ↔ v ∈ db.policiesUsed
  /-- a policy's head is its newest version -/
  heads : ∀ h, h ∈ db.policyHeads ↔
    ⟨h.policyId, h.currentRevision, h.currentPolicyDigest⟩ ∈ db.policyVersions
      ∧ ∀ v ∈ db.policyVersions, v.policyId = h.policyId → v.policyRevision ≤ h.currentRevision

structure AcksInv (P : Profile) (db : Ledger) : Prop where
  receipts : (db.ackPreparations.map (·.receiptDigest)).Nodup
  sound : ∀ q ∈ db.ackPreparations, ∃ a ∈ db.admissions, a.receiptDigest = q.receiptDigest
    ∧ a.custodyState = .pending
    ∧ q.acknowledgementBody = acknowledgementBody P a.receipt a.custodyReference
    ∧ q.acknowledgementBodyDigest = P.sha (.acknowledgementBody q.acknowledgementBody)

/-- The admission times of receipts and reservations. -/
def Ledger.admissionTimes (db : Ledger) : List Instant :=
  db.admissions.map (·.receipt.body.admittedAt)
    ++ db.preparations.map (·.receiptBody.admittedAt)

/-- `o` is the greatest element, or there is none. -/
def IsMax (o : Option Instant) (l : List Instant) : Prop :=
  (o = none ∧ l = []) ∨ ∃ m, o = some m ∧ m ∈ l ∧ ∀ x ∈ l, x ≤ m

structure LedgerInv (P : Profile) (db : Ledger) : Prop where
  leases : LeasesInv P db
  receipts : ReceiptsInv P db
  preparations : PreparationsInv P db
  heads : HeadsInv db
  policies : PoliciesInv db
  acks : AcksInv P db
  clock : IsMax db.lastAdmittedAt db.admissionTimes
  quota : ∀ t, (db.tenantAdmissions t).length ≤ P.limits.maxAdmissionsPerTenant

theorem ledgerInv_empty (P : Profile) : LedgerInv P Ledger.empty := by
  refine ⟨⟨List.nodup_nil, List.nodup_nil, List.nodup_nil, ?_, ?_⟩,
    ⟨List.nodup_nil, List.nodup_nil, ?_, fun _ => .nil⟩,
    ⟨List.nodup_nil, List.nodup_nil, ?_, ?_, List.nodup_nil, ?_⟩, ⟨?_, ?_⟩,
    ⟨List.nodup_nil, fun _ => Iff.rfl, ?_⟩, ⟨List.nodup_nil, ?_⟩, Or.inl ⟨rfl, rfl⟩,
    fun _ => Nat.zero_le _⟩
  case refine_7 =>
    intro h
    exact ⟨fun hh => (by cases hh), fun hh => (by cases hh)⟩
  case refine_8 =>
    intro h
    exact ⟨fun hh => (by cases hh), fun hh => (by cases hh)⟩
  case refine_9 =>
    intro h
    exact ⟨fun hh => (by cases hh), fun hh => (by cases hh.1)⟩
  all_goals
    intro x hx
    cases hx

/-! ## The chain of one tenant -/

variable {P : Profile}

variable {a : AdmissionRow} {db : Ledger}

/-- The digest column is the digest of the receipt, and so on. -/
theorem SoundReceipt.receiptDigest (h : SoundReceipt P db a) :
    a.receiptDigest = a.receipt.receiptDigest P :=
  congrArg AdmissionColumns.receiptDigest h.columns

theorem SoundReceipt.receiptSequence
    (h : SoundReceipt P db a) : a.receiptSequence = a.receipt.body.receiptSequence :=
  congrArg AdmissionColumns.receiptSequence h.columns

theorem SoundReceipt.collectorId (h : SoundReceipt P db a) :
    a.collectorId = a.receipt.body.collectorId :=
  congrArg AdmissionColumns.collectorId h.columns

theorem SoundReceipt.tenantId (h : SoundReceipt P db a) :
    a.tenantId = a.receipt.body.tenantId :=
  congrArg AdmissionColumns.tenantId h.columns

theorem mem_tenantAdmissions {t : String} :
    a ∈ db.tenantAdmissions t ↔ a ∈ db.admissions ∧ a.tenantId = t := by
  simp [Ledger.tenantAdmissions]

/-- A tenant's receipts are a numbered chain. -/
theorem ReceiptsInv.linked (h : ReceiptsInv P db) (t : String) :
    Grown (NextLink (fun a : AdmissionRow => a.receiptSequence)
      (fun a => a.receipt.body.previousReceiptDigest) (·.receiptDigest))
      (db.tenantAdmissions t) := by
  have hsub : ∀ a ∈ db.tenantAdmissions t, SoundReceipt P db a :=
    fun a ha => h.sound a (mem_tenantAdmissions.mp ha).1
  refine ((h.chains t).and hsub).imp ?_
  intro rows a ⟨hnext, hsound⟩
  exact ⟨hsound.receiptSequence.trans hnext.number, hnext.previous⟩

end ControlAssurance.Admission
