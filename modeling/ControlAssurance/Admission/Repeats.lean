import ControlAssurance.Admission.Signing

/-!
# What the transactions answer a repeated request

A request whose lease is consumed or reserved meets its own entry again. These
are the theorems that the transactions then succeed, for any later state of the
ledger: the retry is verified at the time of the original admission, so neither
the clock nor the policy head nor the lease's expiry counts. The documents of an
entry are what digests are taken of on the way; a transaction that inserts a row
needs that these digests are not taken.
-/

namespace ControlAssurance.Admission

open Lib

variable {P : Profile} {db : Ledger} {heads : List TenantHead}

/-! ## Entries and their leases -/

theorem admissionByLease_of_mem (h : ReceiptsInv P db) {a : AdmissionRow}
    (ha : a ∈ db.admissions) : db.admissionByLease a.leaseDigest = some a :=
  find?_key h.leases ha

theorem preparationByLease_of_mem (h : PreparationsInv P db) {p : PreparationRow}
    (hp : p ∈ db.preparations) : db.preparationByLease p.leaseDigest = some p :=
  find?_key h.leases hp

theorem ackPreparation_of_mem (h : AcksInv P db) {q : AckPreparationRow}
    (hq : q ∈ db.ackPreparations) : db.ackPreparation q.receiptDigest = some q :=
  find?_key h.receipts hq

/-- The row behind an entry. -/
inductive EntryRow (db : Ledger) (e : Entry) (l : LeaseRow) : Prop
  | admitted (a : AdmissionRow) (ha : a ∈ db.admissions) (hentry : a.entry = e)
      (hlease : a.leaseDigest = l.leaseDigest)
      (henvelope : l.consumedEnvelopeDigest = some e.1.envelopeDigest)
      (hreceipt : l.consumedReceiptDigest = some a.receiptDigest)
  | reserved (p : PreparationRow) (hp : p ∈ db.preparations) (hentry : p.entry = e)
      (hlease : p.leaseDigest = l.leaseDigest)
      (hunused : l.consumedEnvelopeDigest = none ∧ l.consumedReceiptDigest = none)

/-- An entry has its lease, its evidence and its row. -/
theorem LedgerInv.entry (hinv : LedgerInv P db) {e : Entry} (he : e ∈ db.entries) :
    ∃ l ∈ db.leases, l.leaseDigest = e.1.leaseDigest
      ∧ SoundEvidence P e.1 e.2 l.grant.lease ∧ EntryRow db e l := by
  rcases mem_entries.mp he with ⟨a, ha, rfl⟩ | ⟨p, hp, rfl⟩
  · obtain ⟨l, hl, hdigest, hev, henvelope, hreceipt⟩ := (hinv.receipts.sound a ha).lease
    have hcolumns := hinv.admitted_columns ha
    refine ⟨l, hl, hdigest.trans hcolumns.2.2.1, hev,
      .admitted a ha rfl hdigest.symm ?_ hreceipt⟩
    rw [henvelope, hcolumns.2.2.2]
    rfl
  · obtain ⟨l, hl, hdigest, hev, hunused⟩ := (hinv.preparations.sound p hp).lease
    exact ⟨l, hl, hdigest.trans (hinv.reserved_columns hp).2.2.1, hev,
      .reserved p hp rfl hdigest.symm hunused⟩

theorem SoundLease.leaseDigest {l : LeaseRow} (h : SoundLease P l) :
    l.leaseDigest = l.grant.lease.leaseDigest P :=
  congrArg LeaseColumns.leaseDigest h.columns

/-- The statement of an entry's envelope. -/
theorem SoundEvidence.binds {b : AdmissionReceiptBody} {ev : Evidence} {lease : JobLease}
    (h : SoundEvidence P b ev lease) {statement : CollectionStatement}
    (hparse : P.parseStatement ev.envelopeBytes = some statement) :
    EvidenceBound P b ev statement lease := by
  obtain ⟨statement', hparse', hbound⟩ := h.bound
  rw [hparse] at hparse'
  cases hparse'
  exact hbound

/-- A statement finds the lease it matches. -/
theorem statementLease_found (hinv : LedgerInv P db) {l : LeaseRow} (hl : l ∈ db.leases)
    {statement : CollectionStatement} (hmatch : statement.matchesLease P l.grant.lease) :
    statementLease P db statement = .ok (l, l.grant) := by
  have hsound := hinv.leases.sound l hl
  have hnonce : l.nonceDigest = statement.nonceDigest P := by
    rw [hsound.columns, CollectionStatement.nonceDigest, hmatch.2]
    rfl
  have hfind : db.leaseByNonceRow (statement.nonceDigest P) = some l := by
    rw [← hnonce]
    exact find?_key hinv.leases.nonces hl
  have hmarks : l.consumedEnvelopeDigest = none ↔ l.consumedReceiptDigest = none := by
    rcases hinv.leases.consumed l hl with ⟨henvelope, hreceipt⟩ | ⟨a, ha, hlease⟩
    · rw [henvelope, hreceipt]
    · obtain ⟨l', hl', hdigest, _, henvelope, hreceipt⟩ := (hinv.receipts.sound a ha).lease
      have hsame : l' = l :=
        List.inj_on_of_nodup_map hinv.leases.digests hl' hl (hdigest.trans hlease)
      rw [← hsame, henvelope, hreceipt]
      simp
  simp only [statementLease, leaseByNonce, bind_eq_ok, require_eq_ok, expect_eq_ok, pure_eq_ok,
    verifyGrantRow_eq_ok, exists_const, Prod.mk.injEq]
  exact ⟨(l, l.grant), ⟨l, hfind, l.grant, ⟨hsound, rfl⟩, rfl⟩, hmatch, hmarks, rfl, rfl⟩

/-- A statement finds the lease it matches, or is refused. -/
theorem statementLease_cases (hinv : LedgerInv P db) (statement : CollectionStatement) :
    (∃ reason detail, statementLease P db statement = .error (.rejected reason detail))
      ∨ ∃ l ∈ db.leases, statement.matchesLease P l.grant.lease
        ∧ statementLease P db statement = .ok (l, l.grant) := by
  by_cases hmatch : ∃ l ∈ db.leases, statement.matchesLease P l.grant.lease
  · obtain ⟨l, hl, hmatch⟩ := hmatch
    exact Or.inr ⟨l, hl, hmatch, statementLease_found hinv hl hmatch⟩
  · left
    unfold statementLease leaseByNonce
    cases hfind : db.leaseByNonceRow (statement.nonceDigest P) with
    | none => exact ⟨_, _, rfl⟩
    | some l =>
      have hl := List.mem_of_find?_eq_some hfind
      have hread : verifyGrantRow P l = .ok l.grant :=
        verifyGrantRow_eq_ok.mpr ⟨hinv.leases.sound l hl, rfl⟩
      have hother : ¬statement.matchesLease P l.grant.lease := fun h => hmatch ⟨l, hl, h⟩
      simp only [expect, ok_bind, hread, pure_bind]
      rw [require_neg hother]
      exact ⟨_, _, rfl⟩

/-! ## Probing for a retry -/

/-- The receipt after one names it. -/
theorem successor_binds (hinv : LedgerInv P db) {a b : AdmissionRow} (ha : a ∈ db.admissions)
    (hfind : db.admissionAt a.receipt.body.tenantId (a.receipt.body.receiptSequence + 1) = some b) :
    b ∈ db.admissions
      ∧ b.receipt.body.previousReceiptDigest = some (a.receipt.receiptDigest P) := by
  have hsound := hinv.receipts.sound a ha
  have hb := List.mem_of_find?_eq_some hfind
  have hkey : b.tenantId = a.receipt.body.tenantId
      ∧ b.receiptSequence = a.receipt.body.receiptSequence + 1 := by
    simpa using List.find?_some hfind
  have hnum := (hinv.receipts.sound b hb).receiptSequence
  have hnumber := hkey.2
  refine ⟨hb, ?_⟩
  rcases predecessor hinv.receipts hb with ⟨hone, _⟩ | ⟨c, hc, _, hnext, hprevious, _⟩
  · obtain ⟨_, _, _, hev, _⟩ := hsound.lease
    have hpositive := hev.valid.1
    omega
  · -- the predecessor of the successor is the receipt itself
    obtain ⟨hcmem, hctenant⟩ := mem_tenantAdmissions.mp hc
    have hsequence : c.receiptSequence = a.receiptSequence := by
      rw [hsound.receiptSequence]
      omega
    have hsame : c = a := by
      have hfound := admissionAt_of_mem hinv.receipts hcmem
      rw [hctenant, hkey.1, ← hsound.tenantId, hsequence,
        admissionAt_of_mem hinv.receipts ha] at hfound
      exact (Option.some.inj hfound).symm
    rw [hprevious, hsame, hsound.receiptDigest]

/-- The neighbours of a receipt are in order. -/
theorem verifyReceiptChainNeighborhood_ok (hinv : LedgerInv P db)
    (hheads : CurrentHeads db heads) {a : AdmissionRow} (ha : a ∈ db.admissions) :
    verifyReceiptChainNeighborhood P heads db a.receipt = .ok () := by
  have hread : ∀ b ∈ db.admissions, verifyReceiptRow P db b = .ok b.receipt := fun b hb =>
    verifyReceiptRow_ok hinv.leases hinv.receipts hinv.policies hb
  have htenant : a.tenantId = a.receipt.body.tenantId := (hinv.receipts.sound a ha).tenantId
  have hsuccessor : ∀ b, db.admissionAt a.receipt.body.tenantId
      (a.receipt.body.receiptSequence + 1) = some b → verifyReceiptRow P db b = .ok b.receipt
        ∧ b.receipt.body.previousReceiptDigest = some (a.receipt.receiptDigest P) := by
    intro b hfind
    obtain ⟨hb, hprevious⟩ := successor_binds hinv ha hfind
    exact ⟨hread b hb, hprevious⟩
  unfold verifyReceiptChainNeighborhood
  simp only [verifyTenantHead_ok hinv hheads, verifyCollectorHead_ok hinv, ok_bind]
  rcases predecessor hinv.receipts ha with ⟨hone, hprev⟩ | ⟨b, hbmem, hpos, hnum, hprev, _⟩
  · rw [if_pos hone, require_pos hprev]
    dsimp only [ok_bind]
    split
    next => rfl
    next b hfind =>
      obtain ⟨hok, hprevious⟩ := hsuccessor b hfind
      rw [hok, ok_bind, require_pos hprevious]
      rfl
  · obtain ⟨hb, hbtenant⟩ := mem_tenantAdmissions.mp hbmem
    have hfound := admissionAt_of_mem hinv.receipts hb
    rw [hbtenant, htenant] at hfound
    have hbefore : a.receipt.body.receiptSequence - 1 = b.receiptSequence := by omega
    have hdigest : a.receipt.body.previousReceiptDigest = some (b.receipt.receiptDigest P) := by
      rw [hprev, (hinv.receipts.sound b hb).receiptDigest]
    rw [if_neg (by omega), hbefore, hfound]
    simp only [expect, hread b hb, ok_bind, require_pos hdigest]
    split
    next => rfl
    next c hfind =>
      obtain ⟨hok, hprevious⟩ := hsuccessor c hfind
      rw [hok, ok_bind, require_pos hprevious]
      rfl

theorem retryAdmittedAt_ok (hinv : LedgerInv P db) (hheads : CurrentHeads db heads) {e : Entry}
    (he : e ∈ db.entries) {statement : CollectionStatement}
    (hparse : P.parseStatement e.2.envelopeBytes = some statement) {now : Instant}
    (hclock : ∀ f ∈ db.lastAdmittedAt, f ≤ now) :
    retryAdmittedAt P heads db statement e.1.envelopeDigest now = .ok (some e.1.admittedAt) := by
  obtain ⟨l, hl, hdigest, hev, hrow⟩ := hinv.entry he
  obtain ⟨hmatch, _⟩ := hev.binds hparse
  have hfloor : clockFloor db now = .ok () := require_pos hclock
  unfold retryAdmittedAt
  rw [statementLease_found hinv hl hmatch, ok_bind]
  dsimp only
  cases hrow with
  | admitted a ha hentry hlease henvelope _ =>
    have hfound := admissionByLease_of_mem hinv.receipts ha
    rw [hlease, (hinv.leases.sound l hl).leaseDigest] at hfound
    subst hentry
    simp only [henvelope, require_pos, ok_bind, hfloor, hfound, expect,
      verifyReceiptRow_ok hinv.leases hinv.receipts hinv.policies ha,
      verifyReceiptChainNeighborhood_ok hinv hheads ha]
    rfl
  | reserved p hp hentry hlease hunused =>
    have hfound := preparationByLease_of_mem hinv.preparations hp
    rw [hlease, (hinv.leases.sound l hl).leaseDigest] at hfound
    subst hentry
    simp only [hunused.1, hfound, ok_bind,
      preparedAdmissionFromRow_ok hinv.leases hinv.preparations hinv.policies hp]
    rw [require_pos (by rfl), ok_bind, hfloor]
    rfl

/-- A statement of the entry's lease in another envelope is refused. -/
theorem retryAdmittedAt_other (hinv : LedgerInv P db) {e : Entry} (he : e ∈ db.entries)
    {statement : CollectionStatement} (hlease : statement.leaseDigest = e.1.leaseDigest)
    {envelopeDigest : Digest} (hother : e.1.envelopeDigest ≠ envelopeDigest) (now : Instant) :
    ∃ reason detail, retryAdmittedAt P heads db statement envelopeDigest now
      = .error (.rejected reason detail) := by
  obtain ⟨l, hl, hdigest, _, hrow⟩ := hinv.entry he
  unfold retryAdmittedAt
  rcases statementLease_cases hinv statement with ⟨reason, detail, herror⟩ | ⟨l', hl', hmatch, hok⟩
  · rw [herror]
    exact ⟨_, _, rfl⟩
  · have hsame : l' = l := by
      refine List.inj_on_of_nodup_map hinv.leases.digests hl' hl ?_
      rw [hdigest, ← hlease, (hinv.leases.sound l' hl').leaseDigest, hmatch.1]
    subst hsame
    rw [hok, ok_bind]
    cases hrow with
    | admitted a _ _ _ henvelope _ =>
      simp only [henvelope, require_neg hother]
      exact ⟨_, _, rfl⟩
    | reserved p hp hentry hrowLease hunused =>
      have hfound := preparationByLease_of_mem hinv.preparations hp
      rw [hrowLease, (hinv.leases.sound l' hl).leaseDigest] at hfound
      have hbody : p.receiptBody.envelopeDigest ≠ envelopeDigest := by
        rw [show p.receiptBody = e.1 from congrArg Prod.fst hentry]
        exact hother
      simp only [hunused.1, hfound, ok_bind, require_neg hbody,
        preparedAdmissionFromRow_ok hinv.leases hinv.preparations hinv.policies hp]
      exact ⟨_, _, rfl⟩

/-! ## Preparing again -/

/-- The body that a request with the envelope and policy of `b` makes at the same
place with another CAB. -/
def AdmissionReceiptBody.withSnapshot (P : Profile) (b : AdmissionReceiptBody)
    (attestation : AttestationVerification) (snapshotBytes : Bytes) (reference : String) :
    AdmissionReceiptBody :=
  let body := { b with
    cabSnapshotDigest := P.sha (.bytes snapshotBytes)
    custodyObjectId := P.sha (.custodyObject b.tenantId b.jobId b.envelopeDigest
      (P.sha (.bytes snapshotBytes)))
    custodyReference := reference }
  { body with admissionRequestFingerprint := body.requestFingerprint P attestation }

section

variable {b : AdmissionReceiptBody} {ev : Evidence} {lease : JobLease}

theorem withSnapshot_valid (hev : SoundEvidence P b ev lease) (snapshotBytes : Bytes)
    {reference : String} (hsafe : safeReference reference = true) :
    (b.withSnapshot P ev.attestation snapshotBytes reference).valid := by
  obtain ⟨h₁, h₂, h₃, h₄, h₅, h₆, h₇, _, hrest⟩ := hev.valid
  exact ⟨h₁, h₂, h₃, h₄, h₅, h₆, h₇, hsafe, hrest⟩

/-- With its own CAB it is `b`. -/
theorem withSnapshot_self (hev : SoundEvidence P b ev lease) :
    b.withSnapshot P ev.attestation ev.cabSnapshotBytes b.custodyReference = b := by
  obtain ⟨statement, _, hbound⟩ := hev.bound
  obtain ⟨_, _, _, _, _, _, _, htenant, _, _, hjob, _, _, _, _, hobject, _⟩ := hbound
  rw [← htenant, ← hjob] at hobject
  simp only [AdmissionReceiptBody.withSnapshot, hev.digests.2.1, ← hobject]
  exact congrArg (fun d => { b with admissionRequestFingerprint := d }) hev.fingerprint

/-- At the original time a request with the same envelope and policy is verified
again, and makes a body at the same place. -/
theorem candidateFor_again (hev : SoundEvidence P b ev lease) {inputs : AdmissionInputs P}
    (henvelope : inputs.envelopeBytes = ev.envelopeBytes)
    (hpolicy : inputs.policyBytes = ev.policyBytes)
    (hsafe : safeReference inputs.custodyReference = true) :
    ∃ c, candidateFor P inputs b.admittedAt = .ok c
      ∧ c.evidence = ⟨ev.envelopeBytes, inputs.snapshotBytes, ev.policyBytes, ev.attestation⟩
      ∧ c.requestFingerprint = (b.withSnapshot P ev.attestation inputs.snapshotBytes
        inputs.custodyReference).admissionRequestFingerprint
      ∧ receiptBody P c b.receiptSequence b.previousReceiptDigest
        = .ok (b.withSnapshot P ev.attestation inputs.snapshotBytes inputs.custodyReference) := by
  have hparsed := inputs.parsed
  rw [henvelope] at hparsed
  have hbound := hev.binds hparsed
  obtain ⟨hmatch, hauthority, _, hsigner, _, hlease, hnonce, htenant, hcollector, haudience, hjob,
    hcapability, hposition, hcab, hmanifest, _, hpayload, hpolicyId, hrevision, hpolicyDigest,
    hkeys, hidentities, hraw, hexpected, htrust, htime, hattestation, _⟩ := hbound
  obtain ⟨henvelopeSha, _, hpolicySha, hattestationSha⟩ := hev.digests
  have hlease' : b.leaseDigest = inputs.statement.leaseDigest := hlease.trans hmatch.1.symm
  have hepoch : b.epoch = inputs.statement.epoch := congrArg CollectorPosition.epoch hposition
  have hsequence : b.sequence = inputs.statement.sequence :=
    congrArg CollectorPosition.sequence hposition
  have hprevious : b.previousEpoch = inputs.statement.previousEpoch :=
    congrArg CollectorPosition.previousEpoch hposition
  have hfinal : b.previousEpochFinalSequence = inputs.statement.previousEpochFinalSequence :=
    congrArg CollectorPosition.previousEpochFinalSequence hposition
  have hreceipt : b.previousEpochFinalReceiptDigest
      = inputs.statement.previousEpochFinalReceiptDigest :=
    congrArg CollectorPosition.previousEpochFinalReceiptDigest hposition
  have hvalid := withSnapshot_valid hev inputs.snapshotBytes hsafe
  -- everything the candidate is made from is in the body
  simp only [candidateFor, henvelope, hpolicy, hattestation, henvelopeSha, hpolicySha,
    ← hpolicyDigest, ← hpayload, ← hpolicyId, ← hrevision, ← haudience, ← hcapability, ← hkeys,
    ← hidentities, ← hauthority, ← hsigner, ← htenant, ← hjob, require_pos hev.verified, ok_bind]
  rw [require_pos ⟨trivial, hraw, hexpected, htrust, hev.policyNamed, htime⟩, ok_bind]
  refine ⟨_, rfl, rfl, rfl, ?_⟩
  simp only [receiptBody, ← hpayload, ← hpolicyId, ← hrevision, ← haudience, ← hcapability,
    ← hkeys, ← hidentities, ← hauthority, ← hsigner, ← htenant, ← hjob, ← hcollector, ← hlease',
    ← hnonce, ← hepoch, ← hsequence, ← hprevious, ← hfinal, ← hreceipt, ← hcab, ← hmanifest]
  simp only [AdmissionReceiptBody.withSnapshot, AdmissionReceiptBody.requestFingerprint,
    hattestationSha] at hvalid ⊢
  rw [require_pos hvalid]
  rfl

end

/-- A stored row answers its receipt and its acknowledgement. -/
theorem storedAck_answers (hinv : LedgerInv P db) {a : AdmissionRow} (ha : a ∈ db.admissions) :
    ∃ ack, storedAck P a = .ok ack ∧ Answers P a (a.stored a.receipt ack) := by
  rcases storedAck_ok (hinv.receipts.sound a ha) with ⟨_, hack⟩ | ⟨ack, _, hack, _⟩
  · exact ⟨none, hack, none, hack, rfl⟩
  · exact ⟨some ack, hack, some ack, hack, rfl⟩

section

variable {b : AdmissionReceiptBody} {ev : Evidence} {inputs : AdmissionInputs P} (now : Instant)

/-- A request with the envelope of a receipt is compared by its fingerprint. -/
theorem retryConsumed_eq (hinv : LedgerInv P db) (hheads : CurrentHeads db heads)
    {a : AdmissionRow} (ha : a ∈ db.admissions) (hentry : a.entry = (b, ev)) {lease : JobLease}
    (hlease : a.leaseDigest = lease.leaseDigest P)
    (hown : b.envelopeDigest = inputs.envelopeDigest P) {c : VerifiedAdmission}
    (hcandidate : candidateFor P inputs b.admittedAt = .ok c) :
    ∃ stored, Answers P a stored
      ∧ retryConsumed P heads db inputs lease b.envelopeDigest (some b.admittedAt) now
        = if b.admissionRequestFingerprint = c.requestFingerprint then .ok stored
          else .error (.rejected .retryMismatch
            "retry inputs differ from the original admission request") := by
  have hbody : a.receipt.body = b := congrArg Prod.fst hentry
  obtain ⟨ack, hack, hanswers⟩ := storedAck_answers hinv ha
  have hfound := admissionByLease_of_mem hinv.receipts ha
  have hstored : a.requestFingerprint = b.admissionRequestFingerprint := by
    rw [(hinv.receipts.sound a ha).columns, ← hbody]
    rfl
  have htime : a.receipt.body.admittedAt = b.admittedAt := by rw [hbody]
  rw [hlease] at hfound
  refine ⟨_, hanswers, ?_⟩
  simp only [retryConsumed, require_pos hown, hfound, expect, ok_bind, checkRetryTime,
    verifyReceiptRow_ok hinv.leases hinv.receipts hinv.policies ha,
    verifyReceiptChainNeighborhood_ok hinv hheads ha, htime, hcandidate, hstored, hack,
    require_pos trivial]
  by_cases hsame : b.admissionRequestFingerprint = c.requestFingerprint
  · rw [if_pos hsame, require_pos hsame]
    rfl
  · rw [if_neg hsame, require_neg hsame]
    rfl

/-- A request with the envelope of a reservation is compared by the body and the
evidence it makes. -/
theorem retryPrepared_eq (hinv : LedgerInv P db) {p : PreparationRow}
    (hp : p ∈ db.preparations) (hentry : p.entry = (b, ev))
    (hown : b.envelopeDigest = inputs.envelopeDigest P) {c : VerifiedAdmission}
    (hcandidate : candidateFor P inputs b.admittedAt = .ok c) {body : AdmissionReceiptBody}
    (hbody : receiptBody P c b.receiptSequence b.previousReceiptDigest = .ok body) :
    retryPrepared P db inputs p (some b.admittedAt) now
      = if body = b ∧ c.evidence = ev then .ok (p.prepared P)
        else .error (.rejected .retryMismatch
          "retry inputs differ from the durable signing preparation") := by
  have hread := preparedAdmissionFromRow_ok hinv.leases hinv.preparations hinv.policies hp
  have hreserved : p.receiptBody = b := congrArg Prod.fst hentry
  have hevidence : p.evidence = ev := congrArg Prod.snd hentry
  rw [hreserved, hevidence] at hread
  simp only [retryPrepared, reverified, hread, ok_bind, pure_bind, require_pos hown, checkRetryTime,
    hcandidate, hbody, require_pos trivial, PreparationRow.prepared, hreserved, hevidence]
  by_cases hsame : body = b ∧ c.evidence = ev
  · rw [if_pos hsame, require_pos hsame]
    rfl
  · rw [if_neg hsame, require_neg hsame]
    rfl

/-- Preparing an entry's request again leaves the tables alone; it is answered
with the entry's row, or refused. -/
theorem prepareAdmission_entry (file : DatabaseFile) (hinv : LedgerInv P db) (hheads : CurrentHeads db heads)
    (he : (b, ev) ∈ db.entries) (henvelope : inputs.envelopeBytes = ev.envelopeBytes)
    {c : VerifiedAdmission} (hcandidate : candidateFor P inputs b.admittedAt = .ok c)
    {body : AdmissionReceiptBody}
    (hbody : receiptBody P c b.receiptSequence b.previousReceiptDigest = .ok body) :
    (∃ a ∈ db.admissions, a.entry = (b, ev) ∧ ∃ stored detail, Answers P a stored
        ∧ prepareAdmission P file heads db inputs (some b.admittedAt) now
          = if b.admissionRequestFingerprint = c.requestFingerprint then .ok (db, .stored stored)
            else .error (.rejected .retryMismatch detail))
      ∨ ∃ p ∈ db.preparations, p.entry = (b, ev) ∧ ∃ detail,
        prepareAdmission P file heads db inputs (some b.admittedAt) now
          = if body = b ∧ c.evidence = ev then .ok (db, .prepared (p.prepared P))
            else .error (.rejected .retryMismatch detail) := by
  obtain ⟨l, hl, hdigest, hev, hrow⟩ := hinv.entry he
  have hparsed := inputs.parsed
  rw [henvelope] at hparsed
  have hmatch := (hev.binds hparsed).1
  have hown : b.envelopeDigest = inputs.envelopeDigest P := by
    rw [AdmissionInputs.envelopeDigest, henvelope]
    exact hev.digests.1.symm
  unfold prepareAdmission
  rw [statementLease_found hinv hl hmatch, ok_bind]
  cases hrow with
  | admitted a ha hentry hlease hmark _ =>
    rw [(hinv.leases.sound l hl).leaseDigest] at hlease
    obtain ⟨stored, hanswers, hretry⟩ :=
      retryConsumed_eq now hinv hheads ha hentry hlease hown hcandidate
    refine Or.inl ⟨a, ha, hentry, stored, "retry inputs differ from the original admission request",
      hanswers, ?_⟩
    simp only [hmark, hretry]
    split <;> rfl
  | reserved p hp hentry hlease hunused =>
    have hfound := preparationByLease_of_mem hinv.preparations hp
    rw [hlease, (hinv.leases.sound l hl).leaseDigest] at hfound
    refine Or.inr ⟨p, hp, hentry, "retry inputs differ from the durable signing preparation", ?_⟩
    simp only [hunused.1, hfound, retryPrepared_eq now hinv hp hentry hown hcandidate hbody]
    split <;> rfl

end

/-! ## Finalizing -/

/-- No receipt is in the place of a reservation. -/
theorem reserved_place (hinv : LedgerInv P db) {p : PreparationRow} (hp : p ∈ db.preparations)
    {a : AdmissionRow} (ha : a ∈ db.admissions) :
    ¬SamePlace a.receipt.body p.receiptBody := by
  intro hplace
  have hbody := bodies_unique hinv (mem_bodies.mpr (Or.inl ⟨a, ha, rfl⟩))
    (mem_bodies.mpr (Or.inr ⟨p, hp, rfl⟩)) hplace
  obtain ⟨hadmitted, hreserved, hdisjoint⟩ := List.nodup_append.mp hinv.preparations.envelopes
  refine hdisjoint _ (List.mem_map_of_mem ha) _ (List.mem_map_of_mem hp) ?_
  rw [(hinv.admitted_columns ha).2.2.2, (hinv.reserved_columns hp).2.2.2, hbody]

section

variable {p : PreparationRow} {receipt : AdmissionReceipt}

/-- The row of a signed reservation can be inserted, if the digests it is keyed
by are not those of other documents. -/
theorem replacePreparation_ok (hinv : LedgerInv P db) (hp : p ∈ db.preparations)
    (hbody : receipt.body = p.receiptBody)
    (hreceipts : ∀ a ∈ db.admissions, a.receiptDigest = receipt.receiptDigest P →
      a.receipt.body = receipt.body)
    (hobjects : ∀ a ∈ db.admissions, a.custodyObjectId = receipt.body.custodyObjectId →
      a.receipt.body.envelopeDigest = receipt.body.envelopeDigest) :
    ∃ db', replacePreparation P db (p.prepared P) receipt = .ok db' := by
  have hcolumns : p.receiptBodyDigest = P.sha (.receiptBody p.receiptBody) :=
    congrArg PreparationColumns.receiptBodyDigest (hinv.preparations.sound p hp).columns
  have hleaseColumn := (hinv.reserved_columns hp).2.2.1
  have hplace : ∀ a ∈ db.admissions, ¬SamePlace a.receipt.body receipt.body := by
    intro a ha
    rw [hbody]
    exact reserved_place hinv hp ha
  have hself : ∀ a ∈ db.admissions, a.receipt.body ≠ receipt.body := by
    intro a ha hsame
    refine hplace a ha (Or.inr (Or.inl ?_))
    rw [hsame]
  have hown : db.preparations.countP (fun q => decide (q.receiptBodyDigest
      = (p.prepared P).receiptBodyDigest ∧ q.leaseDigest = (p.prepared P).body.leaseDigest)) = 1 := by
    refine countP_key hinv.preparations.leases hp (decide_eq_true ⟨hcolumns, hleaseColumn⟩) ?_
    intro q _ hq
    exact (of_decide_eq_true hq).2.trans hleaseColumn.symm
  have hunused : db.leases.countP (fun l => decide (l.leaseDigest = (p.prepared P).body.leaseDigest
      ∧ l.consumedEnvelopeDigest = none ∧ l.consumedReceiptDigest = none)) = 1 := by
    obtain ⟨l, hl, hdigest, _, hmarks⟩ := (hinv.preparations.sound p hp).lease
    have hlease := hdigest.trans hleaseColumn
    refine countP_key hinv.leases.digests hl (decide_eq_true ⟨hlease, hmarks⟩) ?_
    intro x _ hx
    exact (of_decide_eq_true hx).1.trans hlease.symm
  simp only [replacePreparation, insertAdmission, constrain, bind_eq_ok, require_eq_ok, pure_eq_ok,
    exists_const]
  refine ⟨_, hown, _, ⟨?_, ?_, ?_, ?_, ?_, ?_, rfl⟩, hunused, rfl⟩
  · intro a ha h
    exact hself a ha (hreceipts a ha h)
  · intro a ha h
    refine hplace a ha (Or.inr (Or.inl ?_))
    rw [← (hinv.admitted_columns ha).2.2.1]
    exact h
  · intro a ha h
    refine hplace a ha (Or.inr (Or.inr (Or.inr ?_)))
    rw [← (hinv.admitted_columns ha).2.2.2]
    exact h
  · intro a ha h
    exact hplace a ha (Or.inr (Or.inr (Or.inr (hobjects a ha h))))
  · intro a ha h
    obtain ⟨htenant, hnumber, _⟩ := hinv.admitted_columns ha
    refine hplace a ha (Or.inl ?_)
    rw [← htenant, ← hnumber]
    exact h
  · intro a ha h
    have hcols := (hinv.receipts.sound a ha).columns
    refine hplace a ha (Or.inr (Or.inr (Or.inl ?_)))
    rw [hcols] at h
    exact h

variable (receipt) in
theorem finalizeAdmission_reserved (hinv : LedgerInv P db) (hheads : CurrentHeads db heads)
    (hp : p ∈ db.preparations) (hbody : receipt.body = p.receiptBody)
    (hsigned : P.signerVerifies (.receipt receipt.body) receipt.serviceSignature = true)
    (hreceipts : ∀ a ∈ db.admissions, a.receiptDigest = receipt.receiptDigest P →
      a.receipt.body = receipt.body)
    (hobjects : ∀ a ∈ db.admissions, a.custodyObjectId = receipt.body.custodyObjectId →
      a.receipt.body.envelopeDigest = receipt.body.envelopeDigest) :
    ∃ db', finalizeAdmission P heads db (p.prepared P) receipt
      = .ok (db', ⟨.admitted, receipt, p.evidence, p.receiptBody.custodyReference, none⟩) := by
  have hnone : db.admissionByLease p.receiptBody.leaseDigest = none := by
    rw [Ledger.admissionByLease, List.find?_eq_none]
    intro a ha hkey
    refine reserved_place hinv hp ha (Or.inr (Or.inl ?_))
    rw [← (hinv.admitted_columns ha).2.2.1]
    simpa using hkey
  have hfound := preparationByLease_of_mem hinv.preparations hp
  rw [(hinv.reserved_columns hp).2.2.1] at hfound
  have hnext := hinv.preparations.next p hp
  rw [(hinv.reserved_columns hp).1] at hnext
  have hposition : p.receiptBody.receiptSequence
      = nextNumber (tenantEnd (db.tenantAdmissions p.receiptBody.tenantId)) := by
    rw [tenant_next hinv.receipts]
    exact hnext.number
  obtain ⟨db', hreplaced⟩ := replacePreparation_ok hinv hp hbody hreceipts hobjects
  refine ⟨db', ?_⟩
  have hread := preparedAdmissionFromRow_ok hinv.leases hinv.preparations hinv.policies hp
  simp only [finalizeAdmission, PreparationRow.prepared] at hreplaced ⊢
  simp only [hnone, hfound, expect, ok_bind, hread, verifyTenantHead_ok hinv hheads,
    verifyCollectorHead_ok hinv, hreplaced]
  rw [require_pos ⟨trivial, hbody⟩, ok_bind, require_pos hsigned, ok_bind,
    require_pos ⟨hposition, hnext.previous, hnext.collector, not_pendingReceipt.mpr hnext.durable⟩]
  rfl

variable (receipt) in
/-- A finalization that comes second answers the receipt that is there. -/
theorem finalizeAdmission_admitted (hinv : LedgerInv P db) (hheads : CurrentHeads db heads)
    {a : AdmissionRow} (ha : a ∈ db.admissions) (expected : PreparedAdmission)
    (hexpected : a.receipt.body = expected.body) (hbody : receipt.body = expected.body) :
    ∃ stored, Answers P a stored
      ∧ finalizeAdmission P heads db expected receipt = .ok (db, stored) := by
  have hfound := admissionByLease_of_mem hinv.receipts ha
  rw [(hinv.admitted_columns ha).2.2.1, hexpected] at hfound
  obtain ⟨ack, hack, hanswers⟩ := storedAck_answers hinv ha
  refine ⟨_, hanswers, ?_⟩
  simp only [finalizeAdmission, hfound, finalizedAlready, hack, ok_bind,
    verifyReceiptRow_ok hinv.leases hinv.receipts hinv.policies ha,
    verifyReceiptChainNeighborhood_ok hinv hheads ha, require_pos (And.intro hexpected hbody)]
  rfl

end

/-! ## Acknowledging -/

section

variable {a : AdmissionRow}

/-- What `_prepare_custody_acknowledgement` hands to the signer. -/
def AdmissionRow.preparedAck (P : Profile) (a : AdmissionRow) : PreparedCustodyAcknowledgement :=
  ⟨(a.ackPreparation P).acknowledgementBodyDigest, (a.ackPreparation P).acknowledgementBody⟩

theorem prepareAck_ok (hinv : LedgerInv P db) (ha : a ∈ db.admissions)
    (hbodies : ∀ q ∈ db.ackPreparations,
      q.acknowledgementBodyDigest = (a.ackPreparation P).acknowledgementBodyDigest →
      q.acknowledgementBody = (a.ackPreparation P).acknowledgementBody) :
    ∃ db' answer, prepareCustodyAcknowledgement P db a.receiptDigest a.custodyReference
      = .ok (db', answer) := by
  have hread := verifyReceiptRow_ok hinv.leases hinv.receipts hinv.policies ha
  have hfound := admissionByReceipt_of_mem hinv.receipts ha
  simp only [prepareCustodyAcknowledgement, hfound, expect, ok_bind, hread, require_pos trivial]
  rcases storedAck_ok (hinv.receipts.sound a ha) with ⟨_, hack⟩ | ⟨ack, _, hack, _⟩
  · simp only [hack, ok_bind]
    cases hprepared : db.ackPreparation a.receiptDigest with
    | some q =>
      have hq := List.mem_of_find?_eq_some hprepared
      have hdigest : q.receiptDigest = a.receiptDigest := by simpa using List.find?_some hprepared
      have hreference : q.acknowledgementBody.custodyReference = a.custodyReference := by
        rw [ackPreparation_eq hinv ha hq hdigest]
        rfl
      simp only [preparedAcknowledgementFromRow_ok hinv hq, ok_bind, require_pos hreference]
      exact ⟨_, _, rfl⟩
    | none =>
      have hfresh : ∀ q ∈ db.ackPreparations, q.receiptDigest ≠ a.receiptDigest := by
        intro q hq hdigest
        have hnone := List.find?_eq_none.mp hprepared q hq
        exact hnone (decide_eq_true hdigest)
      simp only [insertAckPreparation, constrain, bind_eq_ok, require_eq_ok, pure_eq_ok,
        exists_const]
      refine ⟨_, _, not_pendingBefore hinv.receipts ha, _, ⟨hfresh, ?_, ⟨a, ha, rfl⟩, rfl⟩, rfl⟩
      intro q hq hdigest
      -- the same body would be that of the same receipt
      obtain ⟨x, hx, hxdigest, _, hxbody, _⟩ := hinv.acks.sound q hq
      have hsame := hbodies q hq hdigest
      refine hfresh q hq ?_
      have hreceipt := congrArg CustodyAcknowledgementBody.receiptDigest (hxbody.symm.trans hsame)
      rw [← hxdigest, (hinv.receipts.sound x hx).receiptDigest,
        (hinv.receipts.sound a ha).receiptDigest]
      exact hreceipt
  · simp only [hack, ok_bind]
    exact ⟨_, _, rfl⟩

theorem finalizeAck_ok (hinv : LedgerInv P db) (ha : a ∈ db.admissions)
    (hstill : a.ackPreparation P ∈ db.ackPreparations ∨ a.custodyState = .durable)
    (ack : CustodyAcknowledgement) (hbody : ack.body = (a.ackPreparation P).acknowledgementBody)
    (hsigned : P.signerVerifies (.acknowledgement ack.body) ack.serviceSignature = true) :
    ∃ db' answer, finalizeCustodyAcknowledgement P db (a.preparedAck P) ack
      = .ok (db', answer) := by
  have hdigest : (a.preparedAck P).body.receiptDigest = a.receiptDigest :=
    (hinv.receipts.sound a ha).receiptDigest.symm
  have hfound := admissionByReceipt_of_mem hinv.receipts ha
  have hsound := hinv.receipts.sound a ha
  simp only [finalizeCustodyAcknowledgement, hdigest, hfound, expect, ok_bind]
  rcases hsound.ack with ⟨hpending, _⟩ | ⟨hdurable, stored, hstored⟩
  · rcases hstill with hq | hdurable
    · have hack : storedAck P a = .ok none := by
        rcases storedAck_ok hsound with ⟨_, h⟩ | ⟨_, hdurable, _⟩
        · exact h
        · rw [hpending] at hdurable
          cases hdurable
      have hprepared := ackPreparation_of_mem hinv.acks hq
      have hreceipt : (a.ackPreparation P).receiptDigest = a.receiptDigest := rfl
      rw [hreceipt] at hprepared
      simp only [hack, ok_bind, hprepared, preparedAcknowledgementFromRow_ok hinv hq]
      simp only [bind_eq_ok, require_eq_ok, pure_eq_ok, exists_const]
      refine ⟨_, _, ⟨rfl, hbody, hsigned⟩, not_pendingBefore hinv.receipts ha, ?_, ?_, rfl⟩
      · refine countP_key hinv.acks.receipts hq (decide_eq_true ⟨rfl, rfl⟩) ?_
        intro x _ hx
        exact (of_decide_eq_true hx).1
      · refine countP_key hinv.receipts.digests ha (decide_eq_true ⟨rfl, hpending⟩) ?_
        intro x _ hx
        exact (of_decide_eq_true hx).1
    · rw [hpending] at hdurable
      cases hdurable
  · have hack : storedAck P a = .ok (some stored) := by
      rcases storedAck_ok hsound with ⟨hpending, _⟩ | ⟨ack', _, h, hrow⟩
      · rw [hdurable] at hpending
        cases hpending
      · rw [hstored.stored] at hrow
        cases hrow
        exact h
    simp only [hack, ok_bind]
    rw [require_pos ⟨hstored.body, hbody⟩]
    exact ⟨_, _, rfl⟩

end

end ControlAssurance.Admission
