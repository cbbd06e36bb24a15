import ControlAssurance.Admission.Validation

/-!
# What a committed transaction changes

A transaction of the ledger leaves the tables alone or makes one of five changes:
a lease is registered, a receipt is reserved, a reservation is replaced by its
signed receipt, an acknowledgement is prepared, or custody is closed. Each change
is a structure that says all of it, guards included, and the theorem about a
transaction says which change it made and what its answer refers to.
-/

namespace ControlAssurance.Admission

open Lib

/-! ## The changes -/

section

variable (P : Profile) (db db' : Ledger)

/-- A new lease. -/
structure Registered (row : LeaseRow) : Prop where
  sound : SoundLease P row
  unused : row.consumedEnvelopeDigest = none ∧ row.consumedReceiptDigest = none
  digest : ∀ l ∈ db.leases, l.leaseDigest ≠ row.leaseDigest
  nonce : ∀ l ∈ db.leases, l.nonceDigest ≠ row.nonceDigest
  coordinate : ∀ l ∈ db.leases, l.toLeaseColumns.coordinate ≠ row.toLeaseColumns.coordinate
  result : db' = { db with leases := db.leases ++ [row] }

/-- The policy was the newest one already, or is a newer one and becomes the head. -/
def PolicyAdvanced (v : PolicyVersion) : Prop :=
  (v ∈ db.policyVersions
      ∧ (∀ x ∈ db.policyVersions, x.policyId = v.policyId → x.policyRevision ≤ v.policyRevision)
      ∧ db'.policyVersions = db.policyVersions ∧ db'.policyHeads = db.policyHeads)
    ∨ ((∀ x ∈ db.policyVersions, x.policyId = v.policyId → x.policyRevision < v.policyRevision)
      ∧ db'.policyVersions = db.policyVersions ++ [v]
      ∧ db'.policyHeads = db.policyHeads.filter (fun h => !decide (h.policyId = v.policyId))
        ++ [⟨v.policyId, v.policyRevision, v.policyDigest⟩])

/-- A receipt body is reserved. -/
structure Reserved (row : PreparationRow) : Prop where
  sound : SoundPreparation P db row
  next : NextBody (db.tenantAdmissions row.tenantId) row.receiptBody
  tenant : ∀ p ∈ db.preparations, p.tenantId ≠ row.tenantId
  lease : ∀ p ∈ db.preparations, p.leaseDigest ≠ row.leaseDigest
  admitted : ∀ a ∈ db.admissions, a.envelopeDigest ≠ row.envelopeDigest
  reserved : ∀ p ∈ db.preparations, p.envelopeDigest ≠ row.envelopeDigest
  floor : ∀ f ∈ db.lastAdmittedAt, f ≤ row.receiptBody.admittedAt
  quota : (db.tenantAdmissions row.tenantId).length < P.limits.maxAdmissionsPerTenant
  policy : PolicyAdvanced db db' row.toPreparationColumns.policy
  result : db' = { db with
    policyVersions := db'.policyVersions
    policyHeads := db'.policyHeads
    preparations := db.preparations ++ [row]
    lastAdmittedAt := some row.receiptBody.admittedAt }

/-- The rows of leases that `_finalize_admission` marks. -/
def unusedLease (leaseDigest : Digest) (l : LeaseRow) : Bool :=
  decide (l.leaseDigest = leaseDigest ∧ l.consumedEnvelopeDigest = none
    ∧ l.consumedReceiptDigest = none)

/-- The preparation it deletes. -/
def samePreparation (p q : PreparationRow) : Bool :=
  decide (q.receiptBodyDigest = p.receiptBodyDigest ∧ q.leaseDigest = p.leaseDigest)

/-- A reservation becomes the signed receipt. -/
structure Finalized (p : PreparationRow) (receipt : AdmissionReceipt) : Prop where
  mem : p ∈ db.preparations
  body : receipt.body = p.receiptBody
  signed : P.signerVerifies (.receipt receipt.body) receipt.serviceSignature = true
  digest : ∀ a ∈ db.admissions, a.receiptDigest ≠ receipt.receiptDigest P
  lease : ∀ a ∈ db.admissions, a.leaseDigest ≠ p.leaseDigest
  result : db' = { db with
    preparations := db.preparations.filter fun q => !samePreparation p q
    admissions := db.admissions ++ [receipt.row P p.evidence]
    leases := updateWhere (unusedLease p.leaseDigest) (fun l => { l with
      consumedEnvelopeDigest := some p.envelopeDigest
      consumedReceiptDigest := some (receipt.receiptDigest P) }) db.leases
    collectorHeads := upsertCollector db.collectorHeads
      ⟨p.tenantId, p.collectorId, p.epoch, p.sequence, receipt.receiptDigest P⟩
    tenantHeads := db.tenantHeads.filter (fun h => !decide (h.tenantId = p.tenantId))
      ++ [⟨p.tenantId, p.receiptSequence, receipt.receiptDigest P⟩] }

/-- The preparation of a row's acknowledgement. -/
def AdmissionRow.ackPreparation (a : AdmissionRow) : AckPreparationRow :=
  ⟨a.receiptDigest, P.sha (.acknowledgementBody (acknowledgementBody P a.receipt
    a.custodyReference)), acknowledgementBody P a.receipt a.custodyReference⟩

structure AckPrepared (a : AdmissionRow) : Prop where
  mem : a ∈ db.admissions
  pending : a.custodyState = .pending
  fresh : ∀ q ∈ db.ackPreparations, q.receiptDigest ≠ a.receiptDigest
  result : db' = { db with ackPreparations := db.ackPreparations ++ [a.ackPreparation P] }

/-- Custody of a receipt is confirmed by a signed acknowledgement. -/
structure CustodyClosed (a : AdmissionRow) (ack : CustodyAcknowledgement) : Prop where
  mem : a ∈ db.admissions
  pending : a.custodyState = .pending
  prepared : a.ackPreparation P ∈ db.ackPreparations
  body : ack.body = acknowledgementBody P a.receipt a.custodyReference
  signed : P.signerVerifies (.acknowledgement ack.body) ack.serviceSignature = true
  result : db' = { db with
    ackPreparations := db.ackPreparations.filter fun q =>
      !decide (q.receiptDigest = a.receiptDigest
        ∧ q.acknowledgementBodyDigest = (a.ackPreparation P).acknowledgementBodyDigest)
    admissions := updateWhere
      (fun x => decide (x.receiptDigest = a.receiptDigest ∧ x.custodyState = .pending))
      (fun x => { x with
        custodyState := .durable
        custodyAckDigest := some (P.sha (.acknowledgement ack))
        custodyAck := some ack }) db.admissions }

end

variable {P : Profile} {db db' : Ledger}

/-! ## Leases -/

theorem registerLease_step {file : DatabaseFile} {grant answer : SignedJobLease}
    (h : registerLease P file db grant = .ok (db', answer)) :
    answer = grant ∧ (db' = db ∨ ∃ row, Registered P db db' row ∧ row.grant = grant) := by
  simp only [registerLease, bind_eq_ok, require_eq_ok, exists_const] at h
  obtain ⟨hvalid, ⟨hsigned, hauthority⟩, registered, _, h⟩ := h
  split at h
  · simp only [pure_eq_ok, Prod.mk.injEq] at h
    exact ⟨h.2.symm, Or.inl h.1.symm⟩
  · simp only [insertLease, constrain, checkDatabaseCapacity, bind_eq_ok, require_eq_ok,
      pure_eq_ok, Prod.mk.injEq, exists_const] at h
    obtain ⟨_, _, _, _, ⟨hdigest, hnonce, _, hcoordinate, rfl⟩, rfl, rfl⟩ := h
    refine ⟨rfl, Or.inr ⟨_, ⟨⟨hvalid, hsigned, hauthority, rfl⟩, ⟨rfl, rfl⟩, hdigest, hnonce, ?_,
      rfl⟩, rfl⟩⟩
    intro l hl heq
    simp only [LeaseColumns.coordinate, Prod.mk.injEq] at heq
    exact hcoordinate l hl heq

/-- The row of the statement's lease. -/
theorem statementLease_ok {statement : CollectionStatement} {row : LeaseRow}
    {grant : SignedJobLease} (h : statementLease P db statement = .ok (row, grant)) :
    row ∈ db.leases ∧ SoundLease P row ∧ row.grant = grant
      ∧ statement.matchesLease P row.grant.lease ∧ row.leaseDigest = statement.leaseDigest
      ∧ (row.consumedEnvelopeDigest = none ↔ row.consumedReceiptDigest = none) := by
  simp only [statementLease, leaseByNonce, bind_eq_ok, require_eq_ok, expect_eq_ok, pure_eq_ok,
    verifyGrantRow_eq_ok, exists_const, Prod.mk.injEq] at h
  obtain ⟨_, ⟨_, hfind, _, ⟨hsound, rfl⟩, rfl⟩, hmatch, hmarks, rfl, rfl⟩ := h
  refine ⟨List.mem_of_find?_eq_some hfind, hsound, rfl, hmatch, ?_, hmarks⟩
  rw [hmatch.1]
  exact congrArg LeaseColumns.leaseDigest hsound.columns

/-! ## Reserving a receipt -/

theorem advancePolicyHead_step (hinv : PoliciesInv db) {policyId : String} {revision : Nat}
    {digest : Digest} (h : advancePolicyHead db policyId revision digest = .ok db') :
    PolicyAdvanced db db' ⟨policyId, revision, digest⟩
      ∧ db' = { db with policyVersions := db'.policyVersions, policyHeads := db'.policyHeads } := by
  simp only [advancePolicyHead, bind_eq_ok, require_eq_ok, exists_const] at h
  obtain ⟨head, hhead, holder, hfork, h⟩ := h
  rcases verifyPolicyHead_ok hinv policyId with ⟨hnone, hno⟩ | ⟨r, d, hsome, hv, hmax⟩
  · -- a first version
    rw [hnone] at hhead
    cases hhead
    rw [if_neg (by simp)] at h
    simp only [bind_eq_ok, require_eq_ok, pure_eq_ok, exists_const] at h
    obtain ⟨_, rfl⟩ := h
    exact ⟨Or.inr ⟨fun x hx hid => absurd hid (hno x hx), rfl, rfl⟩, rfl⟩
  · rw [hsome] at hhead
    cases hhead
    have hge : r ≤ revision := holder (r, d) rfl
    by_cases heq : revision = r
    · -- the revision of the head
      have hdigest : digest = d := hfork (r, d) rfl heq
      rw [if_pos ⟨(r, d), rfl, heq⟩, pure_eq_ok] at h
      subst h heq hdigest
      exact ⟨Or.inl ⟨hv, hmax, rfl, rfl⟩, rfl⟩
    · -- a newer one
      have hlt : r < revision := by omega
      rw [if_neg (by simpa using heq)] at h
      simp only [bind_eq_ok, require_eq_ok, pure_eq_ok, exists_const] at h
      obtain ⟨_, rfl⟩ := h
      exact ⟨Or.inr ⟨fun x hx hid => Nat.lt_of_le_of_lt (hmax x hx hid) hlt, rfl, rfl⟩, rfl⟩

/-- What `candidate_for` has established when it answers. -/
structure CandidateOf (inputs : AdmissionInputs P) (now : Instant) (c : VerifiedAdmission) :
    Prop where
  verified : c.evidence.attestation.verified = true
    ∧ c.evidence.attestation.reasonCode = .verified
  policyNamed : c.evidence.attestation.policyId = some inputs.statement.policyId
  envelope : c.evidence.attestation.rawEnvelopeSha256 = some c.envelopeDigest
  payload : c.evidence.attestation.expectedPayloadSha256
    = some (P.sha (.statement inputs.statement))
  policy : c.evidence.attestation.trustPolicySha256 = some c.policyDigest
  time : c.evidence.attestation.admissionTime = some now
  fields : c =
    { statement := inputs.statement
      evidence := ⟨inputs.envelopeBytes, inputs.snapshotBytes, inputs.policyBytes,
        P.verifyAttestation inputs.envelopeBytes inputs.policyBytes inputs.statement now⟩
      envelopeDigest := P.sha (.bytes inputs.envelopeBytes)
      snapshotDigest := P.sha (.bytes inputs.snapshotBytes)
      policyDigest := P.sha (.bytes inputs.policyBytes)
      requestFingerprint := c.requestFingerprint
      admittedAt := now
      currentTime := now
      custodyObjectId := P.sha (.custodyObject inputs.statement.tenantId inputs.statement.jobId
        (P.sha (.bytes inputs.envelopeBytes)) (P.sha (.bytes inputs.snapshotBytes)))
      custodyReference := inputs.custodyReference }
  fingerprint : ∀ n d b, receiptBody P c n d = .ok b →
    b.requestFingerprint P c.evidence.attestation = c.requestFingerprint

variable {c : VerifiedAdmission} {now : Instant} {inputs : AdmissionInputs P}
  {heads : List TenantHead} {a : AdmissionRow}

theorem candidateFor_ok (h : candidateFor P inputs now = .ok c) : CandidateOf inputs now c := by
  simp only [candidateFor, bind_eq_ok, require_eq_ok, pure_eq_ok, exists_const] at h
  obtain ⟨hverified, ⟨_, henvelope, hpayload, hpolicy, hnamed, htime⟩, rfl⟩ := h
  refine ⟨hverified, hnamed, henvelope, hpayload, hpolicy, htime, rfl, ?_⟩
  intro n d b hb
  simp only [receiptBody, bind_eq_ok, require_eq_ok, pure_eq_ok, exists_const] at hb
  obtain ⟨_, rfl⟩ := hb
  rfl

/-- Lease, collection and admission happened in this order. -/
structure WithinLease (lease : JobLease) (collectedAt admittedAt : Instant) : Prop where
  issued : lease.issuedAt ≤ admittedAt
  unexpired : admittedAt < lease.expiresAt
  collected : lease.issuedAt ≤ collectedAt
  collectedUnexpired : collectedAt < lease.expiresAt
  before : collectedAt ≤ admittedAt

/-- A body made from verified inputs under a registered lease is evidenced. -/
theorem receiptBody_sound
    (hc : CandidateOf inputs now c) {row : LeaseRow} (hlease : SoundLease P row)
    (hmatch : inputs.statement.matchesLease P row.grant.lease)
    (htime : WithinLease row.grant.lease inputs.statement.collectedAt now)
    {n : Nat} {d : Option Digest} {b : AdmissionReceiptBody}
    (hb : receiptBody P c n d = .ok b) : SoundEvidence P b c.evidence row.grant.lease := by
  have hfingerprint := hc.fingerprint n d b hb
  obtain ⟨hverified, hnamed, henvelope, hpayload, hpolicy, hat, hfields, _⟩ := hc
  obtain ⟨statement, evidence, envelopeDigest, snapshotDigest, policyDigest, fingerprint,
    admittedAt, currentTime, objectId, reference⟩ := c
  simp only [VerifiedAdmission.mk.injEq] at hfields
  obtain ⟨rfl, rfl, rfl, rfl, rfl, -, rfl, rfl, rfl, rfl⟩ := hfields
  simp only [receiptBody, bind_eq_ok, require_eq_ok, pure_eq_ok, exists_const] at hb
  obtain ⟨hvalid, rfl⟩ := hb
  refine ⟨hvalid, inputs.bounded, ⟨inputs.statement, inputs.parsed, ?_⟩, inputs.configured, inputs.policy,
    hverified, hnamed, ⟨rfl, rfl, rfl, rfl⟩, inputs.snapshot, hfingerprint⟩
  exact ⟨hmatch, rfl, hlease.authority.symm, rfl, P.distinct, hmatch.1, rfl, rfl, rfl, rfl, rfl,
    rfl, rfl, rfl, rfl, rfl, rfl, rfl, rfl, inputs.policyDigest, rfl, rfl, henvelope, hpayload,
    hpolicy, hat, rfl, htime.issued, htime.unexpired, htime.collected, htime.collectedUnexpired,
    htime.before⟩

/-- The columns of a body that `_receipt_body` made. -/
theorem receiptBody_columns
    (hc : CandidateOf inputs now c) {n : Nat} {d : Option Digest} {b : AdmissionReceiptBody}
    (hb : receiptBody P c n d = .ok b) :
    b.receiptSequence = n ∧ b.previousReceiptDigest = d ∧ b.admittedAt = now
      ∧ b.tenantId = inputs.statement.tenantId ∧ b.collectorId = inputs.statement.collectorId
      ∧ b.leaseDigest = inputs.statement.leaseDigest ∧ b.envelopeDigest = c.envelopeDigest
      ∧ b.position = inputs.statement.position
      ∧ (b.preparationColumns P).policy
        = ⟨inputs.statement.policyId, inputs.statement.policyRevision, c.policyDigest⟩ := by
  simp only [receiptBody, bind_eq_ok, require_eq_ok, pure_eq_ok, exists_const] at hb
  obtain ⟨_, rfl⟩ := hb
  rw [hc.fields]
  exact ⟨rfl, rfl, rfl, rfl, rfl, rfl, rfl, rfl, rfl⟩

theorem insertPreparation_eq {row : PreparationRow} (h : insertPreparation db row = .ok db') :
    (∀ p ∈ db.preparations, p.leaseDigest ≠ row.leaseDigest)
      ∧ (∀ p ∈ db.preparations, p.tenantId ≠ row.tenantId)
      ∧ (∀ p ∈ db.preparations, p.envelopeDigest ≠ row.envelopeDigest)
      ∧ db' = { db with preparations := db.preparations ++ [row] } := by
  simp only [insertPreparation, constrain, bind_eq_ok, require_eq_ok, pure_eq_ok,
    exists_const] at h
  obtain ⟨_, hlease, htenant, henvelope, _, _, _, rfl⟩ := h
  exact ⟨hlease, htenant, henvelope, rfl⟩

theorem reserve_step {file : DatabaseFile} (hinv : LedgerInv P db) {prepared : PreparedAdmission}
    {leaseRow : LeaseRow} (hmem : leaseRow ∈ db.leases)
    (hmatch : inputs.statement.matchesLease P leaseRow.grant.lease)
    (hdigest : leaseRow.leaseDigest = inputs.statement.leaseDigest)
    (hunused : leaseRow.consumedEnvelopeDigest = none ∧ leaseRow.consumedReceiptDigest = none)
    (h : reserve P file heads db inputs leaseRow.grant.lease now = .ok (db', prepared)) :
    ∃ row, Reserved P db db' row ∧ row.leaseDigest = inputs.statement.leaseDigest
      ∧ prepared = ⟨P.sha (.receiptBody row.receiptBody), row.receiptBody, row.evidence⟩ := by
  simp only [reserve, reservable, bind_eq_ok, require_eq_ok, checkCollector_eq_ok, pure_eq_ok,
    exists_const, clockFloor, checkDatabaseCapacity] at h
  obtain ⟨_, ⟨_, hfloor, c, hcandidate, _, _, hexpires, hissued, ⟨hcollected, hunexpired, hbefore⟩,
    collectorHead, hcollector, hposition, tenantHead, htenant, hpending, ⟨hadmitted, _⟩, db₁,
    hpolicy, rfl⟩, body, hbody, hquota, _, db₂, hinsert, hresult⟩ := h
  obtain ⟨rfl, rfl⟩ := Prod.mk.inj hresult
  have hc := candidateFor_ok hcandidate
  have hnow : c.admittedAt = now ∧ c.currentTime = now := by
    rw [hc.fields]
    exact ⟨rfl, rfl⟩
  rw [hnow.1] at hexpires hissued hbefore
  obtain ⟨hadvanced, hdb₁⟩ := advancePolicyHead_step hinv.policies hpolicy
  obtain ⟨hseq, hprev, hat, hten, hcol, hlea, henv, hpos, hpol⟩ := receiptBody_columns hc hbody
  obtain ⟨hleaseFresh, htenantFresh, henvelopeFresh, rfl⟩ := insertPreparation_eq hinsert
  have hevidence := receiptBody_sound hc (hinv.leases.sound leaseRow hmem) hmatch
    ⟨hissued, hexpires, hcollected, hunexpired, hbefore⟩ hbody
  rw [verifyTenantHead_eq hinv.heads htenant] at hseq hprev
  rw [verifyCollectorHead_eq hinv.heads hcollector] at hposition
  -- the tables other than the policies are as before
  have hadmissions : db₁.admissions = db.admissions := by rw [hdb₁]
  have hpreparations : db₁.preparations = db.preparations := by rw [hdb₁]
  have hrows : db₁.tenantAdmissions = db.tenantAdmissions := by rw [hdb₁]; rfl
  rw [hpreparations] at hleaseFresh htenantFresh henvelopeFresh
  rw [hrows] at hquota
  have hresult : body.admittedAt = c.currentTime := hat.trans hnow.2.symm
  refine ⟨⟨body.preparationColumns P, body, c.evidence⟩, ?_, hlea, rfl⟩
  refine
    { sound := ⟨rfl, leaseRow, hmem, hdigest.trans hlea.symm, hevidence, hunused⟩
      next := ⟨?_, ?_, ?_, ?_⟩
      tenant := htenantFresh
      lease := hleaseFresh
      admitted := ?_
      reserved := henvelopeFresh
      floor := ?_
      quota := ?_
      policy := ?_
      result := ?_ }
  · rw [hseq, ← tenant_next hinv.receipts]
    exact congrArg (fun t => nextNumber (tenantEnd (db.tenantAdmissions t))) hten.symm
  · rw [hprev]
    exact congrArg (fun t => (tenantEnd (db.tenantAdmissions t)).map Prod.snd) hten.symm
  · show ∀ a ∈ db.tenantAdmissions body.tenantId, _
    rw [hten]
    exact not_pendingReceipt.mp hpending
  · show collectorValid (collectorEnd (db.tenantAdmissions body.tenantId) body.collectorId) _
    rw [hten, hcol, hpos]
    exact hposition
  · intro a ha
    show a.envelopeDigest ≠ body.envelopeDigest
    rw [henv]
    exact hadmitted a ha
  · show ∀ f ∈ db.lastAdmittedAt, f ≤ body.admittedAt
    rw [hat]
    exact hfloor
  · show (db.tenantAdmissions body.tenantId).length < _
    rw [hten]
    omega
  · show PolicyAdvanced db _ (body.preparationColumns P).policy
    rw [hpol]
    exact hadvanced
  · rw [hdb₁]
    dsimp only
    rw [hresult]

/-- A reading of a receipt row answers its receipt. -/
theorem verifyReceiptRow_eq {receipt : AdmissionReceipt}
    (h : verifyReceiptRow P db a = .ok receipt) : receipt = a.receipt := by
  simp only [verifyReceiptRow, bind_eq_ok, require_eq_ok, expect_eq_ok, pure_eq_ok,
    exists_const] at h
  obtain ⟨_, _, _, _, _, _, _, _, _, _, _, _, _, _, _, _, _, _, _, rfl⟩ := h
  rfl

/-- The preparation as it is handed to the signer. -/
def PreparationRow.prepared (P : Profile) (row : PreparationRow) : PreparedAdmission :=
  ⟨P.sha (.receiptBody row.receiptBody), row.receiptBody, row.evidence⟩

/-- An answer that refers to a stored receipt. -/
def Answers (P : Profile) (a : AdmissionRow) (stored : StoredAdmission) : Prop :=
  ∃ ack, storedAck P a = .ok ack ∧ stored = a.stored a.receipt ack

theorem prepareAdmission_step {file : DatabaseFile} (hinv : LedgerInv P db) {original : Option Instant}
    {answer : PreparedOrStored}
    (h : prepareAdmission P file heads db inputs original now = .ok (db', answer)) :
    (∃ a ∈ db.admissions, ∃ stored, db' = db ∧ a.leaseDigest = inputs.statement.leaseDigest
        ∧ answer = .stored stored ∧ Answers P a stored)
      ∨ ∃ row ∈ db'.preparations, (db' = db ∨ Reserved P db db' row)
        ∧ row.leaseDigest = inputs.statement.leaseDigest
        ∧ answer = .prepared (row.prepared P) := by
  simp only [prepareAdmission, bind_eq_ok] at h
  obtain ⟨⟨leaseRow, grant⟩, hlease, h⟩ := h
  obtain ⟨hmem, hsound, rfl, hmatch, hdigest, hmarks⟩ := statementLease_ok hlease
  cases hconsumed : leaseRow.consumedEnvelopeDigest with
  | some consumed =>
    simp only [hconsumed, retryConsumed, bind_eq_ok, require_eq_ok, expect_eq_ok, pure_eq_ok,
      exists_const, Prod.mk.injEq] at h
    obtain ⟨stored, ⟨_, a, hfind, receipt, hread, _, _, _, _, _, _, _, ack, hack, rfl⟩, rfl, rfl⟩ := h
    left
    have hlookup : a.leaseDigest = leaseRow.grant.lease.leaseDigest P := by
      simpa using List.find?_some hfind
    rw [verifyReceiptRow_eq hread]
    exact ⟨a, List.mem_of_find?_eq_some hfind, _, rfl, hlookup.trans hmatch.1.symm, rfl, ack, hack,
      rfl⟩
  | none =>
    right
    cases hprepared : db.preparationByLease (leaseRow.grant.lease.leaseDigest P) with
    | some row =>
      simp only [hconsumed, hprepared, retryPrepared, reverified, bind_eq_ok, require_eq_ok,
        pure_eq_ok, exists_const] at h
      obtain ⟨_, ⟨_, ⟨_, hread, _, _, _, _, _, rfl⟩, _, _, _, rfl⟩, hanswer⟩ := h
      obtain ⟨rfl, rfl⟩ := Prod.mk.inj hanswer
      have hlookup : row.leaseDigest = leaseRow.grant.lease.leaseDigest P := by
        simpa using List.find?_some hprepared
      rw [preparedAdmissionFromRow_eq hread]
      exact ⟨row, List.mem_of_find?_eq_some hprepared, Or.inl rfl,
        hlookup.trans hmatch.1.symm, rfl⟩
    | none =>
      simp only [hconsumed, hprepared, bind_eq_ok, pure_eq_ok, Prod.mk.injEq] at h
      obtain ⟨⟨db₁, prepared⟩, hreserve, rfl, rfl⟩ := h
      obtain ⟨row, hreserved, hrow, rfl⟩ := reserve_step hinv hmem hmatch hdigest
        ⟨hconsumed, hmarks.mp hconsumed⟩ hreserve
      refine ⟨row, ?_, Or.inr hreserved, hrow, rfl⟩
      rw [hreserved.result]
      exact List.mem_append_right _ (List.mem_singleton_self row)

/-! ## Finalizing a receipt -/

theorem insertAdmission_eq {row : AdmissionRow} (h : insertAdmission db row = .ok db') :
    (∀ a ∈ db.admissions, a.receiptDigest ≠ row.receiptDigest)
      ∧ (∀ a ∈ db.admissions, a.leaseDigest ≠ row.leaseDigest)
      ∧ db' = { db with admissions := db.admissions ++ [row] } := by
  simp only [insertAdmission, constrain, bind_eq_ok, require_eq_ok, pure_eq_ok,
    exists_const] at h
  obtain ⟨hdigest, hlease, _, _, _, _, rfl⟩ := h
  exact ⟨hdigest, hlease, rfl⟩

theorem finalizeAdmission_step (hinv : LedgerInv P db)
    {expected : PreparedAdmission} {receipt : AdmissionReceipt} {stored : StoredAdmission}
    (h : finalizeAdmission P heads db expected receipt = .ok (db', stored)) :
    (∃ a ∈ db.admissions, db' = db ∧ a.leaseDigest = expected.body.leaseDigest
        ∧ a.receipt.body = expected.body ∧ Answers P a stored)
      ∨ ∃ p, Finalized P db db' p receipt ∧ expected = p.prepared P
        ∧ stored = ⟨.admitted, receipt, p.evidence, p.receiptBody.custodyReference, none⟩ := by
  unfold finalizeAdmission at h
  cases hfind : db.admissionByLease expected.body.leaseDigest with
  | some a =>
    simp only [hfind, finalizedAlready, bind_eq_ok, require_eq_ok, pure_eq_ok, exists_const,
      Prod.mk.injEq] at h
    obtain ⟨_, ⟨existing, hread, _, _, hbody, ack, hack, rfl⟩, rfl, rfl⟩ := h
    left
    have hlookup : a.leaseDigest = expected.body.leaseDigest := by
      simpa using List.find?_some hfind
    rw [verifyReceiptRow_eq hread] at hbody ⊢
    exact ⟨a, List.mem_of_find?_eq_some hfind, rfl, hlookup, hbody.1, ack, hack, rfl⟩
  | none =>
    simp only [hfind, replacePreparation, bind_eq_ok, require_eq_ok, expect_eq_ok, pure_eq_ok,
      exists_const, Prod.mk.injEq] at h
    obtain ⟨p, hp, _, hread, ⟨rfl, hbody⟩, hsigned, _, _, _, _, _, _, ⟨_, db₁, hinsert, _, rfl⟩,
      rfl, rfl⟩ := h
    right
    have hmem := List.mem_of_find?_eq_some hp
    have hcols := (hinv.preparations.sound p hmem).columns
    cases preparedAdmissionFromRow_eq hread
    obtain ⟨hdigest, hlease, rfl⟩ := insertAdmission_eq hinsert
    refine ⟨p, ⟨hmem, hbody, hsigned, hdigest, ?_, ?_⟩, rfl, rfl⟩
    · intro a ha
      rw [hcols]
      have hne : a.leaseDigest ≠ receipt.body.leaseDigest := hlease a ha
      rwa [hbody] at hne
    · obtain ⟨columns, body, evidence⟩ := p
      cases (show columns = body.preparationColumns P from hcols)
      rfl

/-! ## Custody acknowledgements -/

theorem SoundReceipt.pending (h : SoundReceipt P db a)
    (hack : storedAck P a = .ok none) : a.custodyState = .pending := by
  rcases storedAck_ok h with ⟨hstate, _⟩ | ⟨ack, _, hsome, _⟩
  · exact hstate
  · rw [hsome] at hack
    cases hack

theorem SoundReceipt.acknowledged (h : SoundReceipt P db a)
    {ack : CustodyAcknowledgement} (hack : storedAck P a = .ok (some ack)) :
    a.custodyAck = some ack := by
  rcases storedAck_ok h with ⟨_, hnone⟩ | ⟨ack', _, hsome, hstored⟩
  · rw [hnone] at hack
    cases hack
  · rw [hsome] at hack
    cases hack
    exact hstored

/-- A prepared acknowledgement is the one its receipt row has. -/
theorem ackPreparation_eq (hinv : LedgerInv P db) (ha : a ∈ db.admissions)
    {q : AckPreparationRow} (hq : q ∈ db.ackPreparations)
    (hdigest : q.receiptDigest = a.receiptDigest) : q = a.ackPreparation P := by
  obtain ⟨b, hb, hbdigest, _, hbody, hbodyDigest⟩ := hinv.acks.sound q hq
  have hab : b = a :=
    List.inj_on_of_nodup_map hinv.receipts.digests hb ha (hbdigest.trans hdigest)
  subst hab
  obtain ⟨digest, bodyDigest, body⟩ := q
  simp only at hdigest hbody hbodyDigest
  rw [AdmissionRow.ackPreparation, hdigest, hbodyDigest, hbody]

theorem prepareCustodyAcknowledgement_step (hinv : LedgerInv P db) {receiptDigest : Digest}
    {reference : String} {answer : PreparedOrAcknowledged}
    (h : prepareCustodyAcknowledgement P db receiptDigest reference = .ok (db', answer)) :
    ∃ a ∈ db.admissions, a.receiptDigest = receiptDigest
      ∧ ((∃ ack, db' = db ∧ a.custodyAck = some ack ∧ answer = .acknowledged ack)
        ∨ (a.ackPreparation P ∈ db'.ackPreparations ∧ (db' = db ∨ AckPrepared P db db' a)
          ∧ answer = .prepared ⟨(a.ackPreparation P).acknowledgementBodyDigest,
            (a.ackPreparation P).acknowledgementBody⟩)) := by
  simp only [prepareCustodyAcknowledgement, bind_eq_ok, require_eq_ok, expect_eq_ok,
    exists_const] at h
  obtain ⟨a, hfind, receipt, hread, rfl, existing, hack, h⟩ := h
  have ha := List.mem_of_find?_eq_some hfind
  have hdigest : a.receiptDigest = receiptDigest := by simpa using List.find?_some hfind
  have hsound := hinv.receipts.sound a ha
  cases verifyReceiptRow_eq hread
  refine ⟨a, ha, hdigest, ?_⟩
  cases existing with
  | some ack =>
    simp only [pure_eq_ok, Prod.mk.injEq] at h
    exact Or.inl ⟨ack, h.1.symm, hsound.acknowledged hack, h.2.symm⟩
  | none =>
    right
    cases hprepared : db.ackPreparation receiptDigest with
    | some q =>
      simp only [hprepared, bind_eq_ok, require_eq_ok, pure_eq_ok, exists_const,
        Prod.mk.injEq] at h
      obtain ⟨prepared, hq, _, rfl, rfl⟩ := h
      have hqmem := List.mem_of_find?_eq_some hprepared
      have hqdigest : q.receiptDigest = receiptDigest := by
        simpa using List.find?_some hprepared
      have heq := ackPreparation_eq hinv ha hqmem (hqdigest.trans hdigest.symm)
      rw [preparedAcknowledgementFromRow_ok hinv hqmem] at hq
      cases hq
      subst heq
      exact ⟨hqmem, Or.inl rfl, rfl⟩
    | none =>
      simp only [hprepared, insertAckPreparation, constrain, bind_eq_ok, require_eq_ok,
        pure_eq_ok, exists_const, Prod.mk.injEq] at h
      obtain ⟨_, _, ⟨hfresh, _, _, rfl⟩, rfl, rfl⟩ := h
      subst hdigest
      refine ⟨List.mem_append_right _ (List.mem_singleton_self _), Or.inr ?_, rfl⟩
      exact ⟨ha, hsound.pending hack, hfresh, rfl⟩

theorem finalizeCustodyAcknowledgement_step (hinv : LedgerInv P db)
    {expected : PreparedCustodyAcknowledgement} {ack answer : CustodyAcknowledgement}
    (h : finalizeCustodyAcknowledgement P db expected ack = .ok (db', answer)) :
    ∃ a ∈ db.admissions, a.receiptDigest = expected.body.receiptDigest
      ∧ ((db' = db ∧ a.custodyAck = some answer)
        ∨ (CustodyClosed P db db' a ack ∧ answer = ack)) := by
  simp only [finalizeCustodyAcknowledgement, bind_eq_ok, expect_eq_ok] at h
  obtain ⟨a, hfind, existing, hack, h⟩ := h
  have ha := List.mem_of_find?_eq_some hfind
  have hdigest : a.receiptDigest = expected.body.receiptDigest := by
    simpa using List.find?_some hfind
  have hsound := hinv.receipts.sound a ha
  refine ⟨a, ha, hdigest, ?_⟩
  cases existing with
  | some stored =>
    simp only [bind_eq_ok, require_eq_ok, pure_eq_ok, exists_const, Prod.mk.injEq] at h
    obtain ⟨_, rfl, rfl⟩ := h
    exact Or.inl ⟨rfl, hsound.acknowledged hack⟩
  | none =>
    right
    simp only [bind_eq_ok, require_eq_ok, expect_eq_ok, pure_eq_ok, exists_const,
      Prod.mk.injEq] at h
    obtain ⟨q, hprepared, prepared, hq, ⟨rfl, hbody, hsigned⟩, _, _, _, rfl, rfl⟩ := h
    have hqmem := List.mem_of_find?_eq_some hprepared
    have hqdigest : q.receiptDigest = prepared.body.receiptDigest := by
      simpa using List.find?_some hprepared
    have heq := ackPreparation_eq hinv ha hqmem (hqdigest.trans hdigest.symm)
    rw [preparedAcknowledgementFromRow_ok hinv hqmem] at hq
    cases hq
    subst heq
    refine ⟨⟨ha, hsound.pending hack, hqmem, hbody, hsigned, ?_⟩, rfl⟩
    rw [hdigest]

end ControlAssurance.Admission
