import Mathlib.Data.Set.Function
import ControlAssurance.Lib.Alongside
import ControlAssurance.Admission.Repeats

/-!
# Exact retries are idempotent

A call of `admit` for a lease that is already reserved or consumed, while any
other clients do whatever they like. With the envelope and the CAB of the entry
it ends with the entry's receipt and acknowledgement; with another envelope or
another CAB it is refused and touches no table.

The surroundings of the call are functions here: a resolver and a custody that
answer as they did for the entry, a signer that signs, and at each transaction a
clock that is not behind the durable floor.

Digests are compared in place of documents, and rows are keyed by them. `docs` is
any set of documents on which the digest is injective; the statements are about
runs whose documents are in it.
-/

namespace ControlAssurance.Admission

open Lib
open Prog (check request)

variable {P : Profile} {db db' : Ledger}

/-! ## Documents -/

/-- What the custody object id is the digest of. -/
def AdmissionReceiptBody.custodyDocument (b : AdmissionReceiptBody) : Document :=
  .custodyObject b.tenantId b.jobId b.envelopeDigest b.cabSnapshotDigest

/-- What the request fingerprint is the digest of. -/
def AdmissionReceiptBody.request (P : Profile) (b : AdmissionReceiptBody)
    (attestation : AttestationVerification) : AdmissionRequest :=
  { statementDigest := b.payloadDigest
    envelopeDigest := b.envelopeDigest
    snapshotDigest := b.cabSnapshotDigest
    policyDigest := b.trustPolicyDigest
    policyRevision := b.trustPolicyRevision
    attestationDigest := P.sha (.attestation attestation)
    audience := b.audience
    capabilityDigest := b.capabilityDigest
    acceptedKeyIds := b.acceptedKeyIds
    acceptedIdentities := b.acceptedIdentities
    custodyObjectId := b.custodyObjectId
    custodyReference := b.custodyReference
    leaseAuthorityKeyFingerprint := b.leaseAuthorityKeyFingerprint
    receiptSignerKeyFingerprint := b.receiptSignerKeyFingerprint }

theorem requestFingerprint_eq (b : AdmissionReceiptBody) (attestation : AttestationVerification) :
    b.requestFingerprint P attestation = P.sha (.request (b.request P attestation)) := rfl

/-- The documents of an entry that are compared by their digests. -/
def entryDocuments (P : Profile) (e : Entry) : List Document :=
  [.bytes e.2.envelopeBytes, .bytes e.2.cabSnapshotBytes, e.1.custodyDocument,
    .request (e.1.request P e.2.attestation)]

/-- The documents of the ledger that are. -/
def Ledger.documents (P : Profile) (db : Ledger) : List Document :=
  db.entries.flatMap (entryDocuments P)
    ++ (db.admissions.map (fun a => .receipt a.receipt)
      ++ db.ackPreparations.map fun q => .acknowledgementBody q.acknowledgementBody)

/-- The ledger has no documents beside those of `docs`. -/
def Known (P : Profile) (docs : Set Document) (db : Ledger) : Prop :=
  ∀ d ∈ db.documents P, d ∈ docs

section

variable {docs : Set Document}

theorem known_iff : Known P docs db ↔
    (∀ e ∈ db.entries, ∀ d ∈ entryDocuments P e, d ∈ docs)
      ∧ (∀ a ∈ db.admissions, Document.receipt a.receipt ∈ docs)
      ∧ ∀ q ∈ db.ackPreparations, Document.acknowledgementBody q.acknowledgementBody ∈ docs := by
  unfold Known Ledger.documents
  constructor
  · intro h
    refine ⟨fun e he d hd => h d ?_, fun a ha => h _ ?_, fun q hq => h _ ?_⟩
    · exact List.mem_append_left _ (List.mem_flatMap.mpr ⟨e, he, hd⟩)
    · exact List.mem_append_right _ (List.mem_append_left _ (List.mem_map.mpr ⟨a, ha, rfl⟩))
    · exact List.mem_append_right _ (List.mem_append_right _ (List.mem_map.mpr ⟨q, hq, rfl⟩))
  · intro ⟨hentries, hreceipts, hacks⟩ d hd
    rcases List.mem_append.mp hd with hd | hd
    · obtain ⟨e, he, hmem⟩ := List.mem_flatMap.mp hd
      exact hentries e he d hmem
    · rcases List.mem_append.mp hd with hd | hd
      · obtain ⟨a, ha, rfl⟩ := List.mem_map.mp hd
        exact hreceipts a ha
      · obtain ⟨q, hq, rfl⟩ := List.mem_map.mp hd
        exact hacks q hq

theorem known_finalized (hinv : LedgerInv P db) (h : Known P docs db) {p : PreparationRow}
    {receipt : AdmissionReceipt} (hstep : Finalized P db db' p receipt)
    (hreceipt : Document.receipt receipt ∈ docs) : Known P docs db' := by
  obtain ⟨hentries, hreceipts, hacks⟩ := known_iff.mp h
  refine known_iff.mpr ⟨?_, ?_, ?_⟩
  · exact fun e he => hentries e ((hstep.entries hinv e).mp he)
  · intro a ha
    rw [hstep.result] at ha
    rcases List.mem_append.mp ha with ha | ha
    · exact hreceipts a ha
    · rw [List.mem_singleton.mp ha]
      exact hreceipt
  · rw [hstep.result]
    exact hacks

theorem known_ackPrepared (h : Known P docs db) {a : AdmissionRow}
    (hstep : AckPrepared P db db' a)
    (hbody : Document.acknowledgementBody (a.ackPreparation P).acknowledgementBody ∈ docs) :
    Known P docs db' := by
  obtain ⟨hentries, hreceipts, hacks⟩ := known_iff.mp h
  rw [hstep.result]
  refine known_iff.mpr ⟨hentries, hreceipts, fun q hq => ?_⟩
  rcases List.mem_append.mp hq with hq | hq
  · exact hacks q hq
  · rw [List.mem_singleton.mp hq]
    exact hbody

theorem known_closed (h : Known P docs db) {a : AdmissionRow} {ack : CustodyAcknowledgement}
    (hstep : CustodyClosed P db db' a ack) : Known P docs db' := by
  obtain ⟨hentries, hreceipts, hacks⟩ := known_iff.mp h
  obtain ⟨g, hg, hadmissions, _⟩ := hstep.rows
  refine known_iff.mpr ⟨?_, fun x hx => ?_, fun q hq => ?_⟩
  · rw [hstep.entries]
    exact hentries
  · rw [hadmissions] at hx
    obtain ⟨x₀, hx₀, rfl⟩ := List.mem_map.mp hx
    rw [hg.receipt]
    exact hreceipts x₀ hx₀
  · rw [hstep.result] at hq
    exact hacks q (List.mem_of_mem_filter hq)

end

/-! ## Surroundings that work -/

/-- What the surroundings answer a call of `admit`. -/
structure Surroundings where
  resolver : String → Nat → Digest → Bytes
  /-- the CAB source, sealed -/
  snapshotBytes : Bytes
  reference : Digest → String
  signer : SigningBody → DetachedSignature

/-- A call that is answered by them, with a clock that is not behind the durable
floor. -/
def workingExec (around : Surroundings) : (c : ServiceCall P) → SigningWorld →
    Except AdmissionError c.Answer → SigningWorld → Prop
  | .ledger service call, s, r, s' => (r, s') = s.transact service call
  | .retryTime service statement digest, s, r, s' =>
    ∃ now, (∀ f ∈ s.world.ledger.lastAdmittedAt, f ≤ now)
      ∧ (r, s') = s.transact service (.retryTime (P := P) statement digest now)
  | .prepare service inputs original, s, r, s' =>
    ∃ now, (∀ f ∈ s.world.ledger.lastAdmittedAt, f ≤ now)
      ∧ (r, s') = s.transact service (.prepare inputs original now)
  | .resolve id revision digest, s, r, s' => r = .ok (around.resolver id revision digest) ∧ s' = s
  | .capture, s, r, s' => r = .ok around.snapshotBytes ∧ s' = s
  | .referenceFor object, s, r, s' => r = .ok (around.reference object) ∧ s' = s
  | .persist _, s, r, s' => r = .ok () ∧ s' = s
  | .sign body, s, r, s' => r = .ok (around.signer body) ∧ s' = s.record (.signed body)
  | .reply outcome, s, r, s' => r = .ok () ∧ s' = s.record (.returned outcome)

/-- A transaction as its function on the tables. -/
theorem transact_run {s s' : SigningWorld} (hinv : WorldInv P s.world) {service : Nat}
    {c : LedgerCall P} {r : Except AdmissionError c.Answer}
    (h : (r, s') = s.transact service c) :
    s'.world.file = s.world.file ∧ ∃ heads, CurrentHeads s.world.ledger heads
      ∧ ((∃ a, c.run P s.world.file heads s.world.ledger = .ok (s'.world.ledger, a) ∧ r = .ok a)
        ∨ ∃ e, (c.run P s.world.file heads s.world.ledger = .error e
              ∨ e = overQuota ∧ ¬s.world.file.hasRoom P
                ∧ ∃ db a, c.run P s.world.file heads s.world.ledger = .ok (db, a)
                  ∧ db ≠ s.world.ledger)
            ∧ r = .error e ∧ s'.world.ledger = s.world.ledger) := by
  obtain ⟨hr, rfl⟩ := Prod.mk.inj h
  show (s.world.transact P service c).2.file = s.world.file ∧ ∃ heads,
    CurrentHeads s.world.ledger heads
      ∧ ((∃ a, c.run P s.world.file heads s.world.ledger
            = .ok ((s.world.transact P service c).2.ledger, a) ∧ r = .ok a)
        ∨ ∃ e, (_ ∨ _) ∧ r = .error e
          ∧ (s.world.transact P service c).2.ledger = s.world.ledger)
  obtain ⟨heads, _, hcurrent, ⟨db, a, hrun, heq⟩ | ⟨e, hfailed, heq⟩⟩ :=
    transact_cases hinv service c
  · rw [heq] at hr ⊢
    exact ⟨rfl, heads, hcurrent, .inl ⟨a, hrun, hr⟩⟩
  · rw [heq] at hr ⊢
    exact ⟨rfl, heads, hcurrent, .inr ⟨e, hfailed, hr, rfl⟩⟩

/-! ## Rules for one call of `admit` -/

section

variable (around : Surroundings) (docs : Set Document) (room : DatabaseFile → Prop)
variable (keeps : Ledger → Ledger → Prop)
variable (post : Except AdmissionError ServiceResult → SigningWorld → Prop)

/-- The call, from `s` on, ends with `post`, as long as the file is as `room` says;
its own transactions change the tables as `keeps` says. -/
abbrev Retries (p : Client P) (s : SigningWorld) : Prop :=
  Completes (workingExec around)
    (fun s => SigningInv P s ∧ Known P docs s.world.ledger ∧ room s.world.file) LogGrows
    (fun s s' => keeps s.world.ledger s'.world.ledger) post p s

end

section

variable {around : Surroundings} {docs : Set Document} {room : DatabaseFile → Prop}
variable {keeps : Ledger → Ledger → Prop}
variable {post : Except AdmissionError ServiceResult → SigningWorld → Prop} {s : SigningWorld}

/-- A call of the surroundings. -/
theorem retries_outside (hrefl : ∀ db, keeps db db) {c : ServiceCall P} {a : c.Answer}
    {k : c.Answer → Client P}
    (hexec : ∀ s r s', workingExec around c s r s' ↔ r = .ok a ∧ s' = s)
    (hk : ∀ s', LogGrows s s' → SigningInv P s' → Retries around docs room keeps post (k a) s') :
    Retries around docs room keeps post (request c k) s := by
  refine completes_requested ?_
  intro s' hgrows hinv
  refine ⟨⟨.ok a, s', (hexec _ _ _).mpr ⟨rfl, rfl⟩⟩, fun r s'' h => ?_⟩
  obtain ⟨rfl, rfl⟩ := (hexec _ _ _).mp h
  exact ⟨hinv, logGrows_refl _, hrefl _, hk s'' hgrows hinv.1⟩

/-- What has to hold after a transaction on the tables of `s`. -/
def Continues (around : Surroundings) (docs : Set Document) (room : DatabaseFile → Prop)
    (keeps : Ledger → Ledger → Prop)
    (post : Except AdmissionError ServiceResult → SigningWorld → Prop) (s : SigningWorld)
    {α : Type} (k : α → Client P) : Except AdmissionError (Ledger × α) → Prop
  | .ok (db', a) => (db' = s.world.ledger ∨ s.world.file.hasRoom P) ∧ Known P docs db'
      ∧ keeps s.world.ledger db'
      ∧ ∀ s', LogGrows s s' → SigningInv P s' → s'.world.ledger = db' →
        Retries around docs room keeps post (k a) s'
  | .error e => ∀ s', post (.error e) s'

/-- What follows the transaction, whichever way it goes. -/
theorem continues_transact (hrefl : ∀ db, keeps db db) {s' : SigningWorld} (hinv : SigningInv P s)
    (hknown : Known P docs s.world.ledger ∧ room s.world.file) {service : Nat} {c : LedgerCall P}
    {k : c.Answer → Client P} {r : Except AdmissionError c.Answer}
    (h : (r, s') = s.transact service c)
    (hk : ∀ heads, CurrentHeads s.world.ledger heads →
      Continues around docs room keeps post s k (c.run P s.world.file heads s.world.ledger)) :
    (SigningInv P s' ∧ Known P docs s'.world.ledger ∧ room s'.world.file) ∧ LogGrows s s'
      ∧ keeps s.world.ledger s'.world.ledger
      ∧ Retries around docs room keeps post (check r k) s' := by
  obtain ⟨hinv', hgrows, _⟩ := ledger_exec hinv h
  obtain ⟨hfile, heads, hcurrent, hrun⟩ := transact_run hinv.world h
  have hafter := hk heads hcurrent
  rw [hfile]
  rcases hrun with ⟨a, hok, rfl⟩ | ⟨e, herror | ⟨rfl, hfull, db', a, hok, hwrites⟩, rfl, hsame⟩
  · rw [hok] at hafter
    obtain ⟨_, hknown', hkeeps, hrest⟩ := hafter
    exact ⟨⟨hinv', hknown', hknown.2⟩, hgrows, hkeeps, hrest s' hgrows hinv' rfl⟩
  · rw [herror] at hafter
    rw [hsame]
    exact ⟨⟨hinv', hknown⟩, hgrows, hrefl _, fun s'' _ _ => hafter s''⟩
  · -- a transaction that writes has the room
    rw [hok] at hafter
    exact absurd hafter.1 (not_or.mpr ⟨hwrites, hfull⟩)

theorem retries_transaction (hrefl : ∀ db, keeps db db) {service : Nat} {c : LedgerCall P}
    {k : c.Answer → Client P}
    (hk : ∀ s', LogGrows s s' → SigningInv P s' →
      Known P docs s'.world.ledger ∧ room s'.world.file →
      ∀ heads, CurrentHeads s'.world.ledger heads →
      Continues around docs room keeps post s' k (c.run P s'.world.file heads s'.world.ledger)) :
    Retries around docs room keeps post (request (.ledger service c) k) s := by
  refine completes_requested ?_
  intro s' hgrows hinv
  refine ⟨⟨_, _, rfl⟩, fun r s'' h => ?_⟩
  exact continues_transact hrefl hinv.1 hinv.2 h (hk s' hgrows hinv.1 hinv.2)

/-- A clock that is not behind the floor. -/
theorem exists_clock (db : Ledger) : ∃ now, ∀ f ∈ db.lastAdmittedAt, f ≤ now := by
  cases h : db.lastAdmittedAt with
  | none => exact ⟨0, fun f hf => by cases hf⟩
  | some m => exact ⟨m, fun f hf => le_of_eq (Option.some.inj hf).symm⟩

theorem retries_retryTime (hrefl : ∀ db, keeps db db) {service : Nat}
    {statement : CollectionStatement} {digest : Digest} {k : Option Instant → Client P}
    (hk : ∀ s', LogGrows s s' → SigningInv P s' → Known P docs s'.world.ledger →
      ∀ heads, CurrentHeads s'.world.ledger heads → ∀ now,
      (∀ f ∈ s'.world.ledger.lastAdmittedAt, f ≤ now) →
      Continues around docs room keeps post s' k
        ((retryAdmittedAt P heads s'.world.ledger statement digest now).map
          (s'.world.ledger, ·))) :
    Retries around docs room keeps post (request (.retryTime service statement digest) k) s := by
  refine completes_requested ?_
  intro s' hgrows hinv
  obtain ⟨now₀, hnow₀⟩ := exists_clock s'.world.ledger
  refine ⟨⟨_, _, now₀, hnow₀, rfl⟩, fun r s'' h => ?_⟩
  obtain ⟨now, hnow, htransact⟩ := h
  exact @continues_transact P around docs room keeps post s' hrefl s'' hinv.1 hinv.2 service
    (.retryTime statement digest now) k r htransact
    fun heads hcurrent => hk s' hgrows hinv.1 hinv.2.1 heads hcurrent now hnow

theorem retries_prepare (hrefl : ∀ db, keeps db db) {service : Nat} {inputs : AdmissionInputs P}
    {original : Option Instant} {k : PreparedOrStored → Client P}
    (hk : ∀ s', LogGrows s s' → SigningInv P s' → Known P docs s'.world.ledger →
      ∀ heads, CurrentHeads s'.world.ledger heads → ∀ now,
      Continues around docs room keeps post s' k
        (prepareAdmission P s'.world.file heads s'.world.ledger inputs original now)) :
    Retries around docs room keeps post (request (.prepare service inputs original) k) s := by
  refine completes_requested ?_
  intro s' hgrows hinv
  obtain ⟨now₀, hnow₀⟩ := exists_clock s'.world.ledger
  refine ⟨⟨_, _, now₀, hnow₀, rfl⟩, fun r s'' h => ?_⟩
  obtain ⟨now, _, htransact⟩ := h
  exact @continues_transact P around docs room keeps post s' hrefl s'' hinv.1 hinv.2 service
    (.prepare inputs original now) k r htransact
    fun heads hcurrent => hk s' hgrows hinv.1 hinv.2.1 heads hcurrent now

/-- The signer signs what is justified. -/
theorem retries_sign (hrefl : ∀ db, keeps db db) {body : SigningBody}
    {k : DetachedSignature → Client P}
    (hjust : ∀ s', LogGrows s s' → Justified s'.log (.signed body))
    (hk : ∀ s', LogGrows s s' → SigningInv P s' →
      Retries around docs room keeps post (k (around.signer body)) s') :
    Retries around docs room keeps post (request (.sign body) k) s := by
  refine completes_requested ?_
  intro s' hgrows hinv
  refine ⟨⟨_, _, rfl, rfl⟩, fun r s'' h => ?_⟩
  obtain ⟨rfl, rfl⟩ := h
  obtain ⟨hinv', hgrows'⟩ := record_inv hinv.1 (hjust s' hgrows) (fun db h => by cases h)
  exact ⟨⟨hinv', hinv.2⟩, hgrows', hrefl _, hk _ (logGrows_trans hgrows hgrows') hinv'⟩

end

/-! ## An exact retry -/

/-- Resolver and custody answer as they did for the entry, and the signer signs. -/
structure Works (P : Profile) (around : Surroundings) (e : Entry) : Prop where
  resolver : around.resolver e.1.trustPolicyId e.1.trustPolicyRevision e.1.trustPolicyDigest
    = e.2.policyBytes
  reference : around.reference e.1.custodyObjectId = e.1.custodyReference
  signer : ∀ body, P.signerVerifies body (around.signer body) = true

/-- The digest tells the documents of a run apart, the entry's receipt and the
acknowledgements of receipts included. -/
structure CollisionFree (P : Profile) (docs : Set Document) (around : Surroundings) (e : Entry) :
    Prop where
  injective : Set.InjOn P.sha docs
  receipt : Document.receipt ⟨e.1, around.signer (.receipt e.1)⟩ ∈ docs
  acknowledgements : ∀ r, Document.receipt r ∈ docs →
    Document.acknowledgementBody (acknowledgementBody P r r.body.custodyReference) ∈ docs

theorem SoundEvidence.custodyObject {b : AdmissionReceiptBody} {ev : Evidence} {lease : JobLease}
    (h : SoundEvidence P b ev lease) : b.custodyObjectId = P.sha b.custodyDocument := by
  obtain ⟨statement, _, hbound⟩ := h.bound
  obtain ⟨_, _, _, _, _, _, _, htenant, _, _, hjob, _, _, _, _, hobject, _⟩ := hbound
  rw [hobject, ← htenant, ← hjob]
  rfl

/-- Receipts stay as they are; the custody of one may be confirmed. -/
def KeepsFinalized (db db' : Ledger) : Prop :=
  ∀ a ∈ db.admissions, ∃ a' ∈ db'.admissions, KeepsRow a a'

theorem keepsFinalized_refl (db : Ledger) : KeepsFinalized db db := fun a ha => ⟨a, ha, .refl a⟩

/-- `Retries` of a call that may write, and so needs the room. -/
abbrev Settles (around : Surroundings) (docs : Set Document)
    (post : Except AdmissionError ServiceResult → SigningWorld → Prop) :
    Client P → SigningWorld → Prop :=
  Retries around docs (DatabaseFile.hasRoom P) KeepsFinalized post

/-- A row that was in a committed ledger. -/
def KnowsRow (log : List SigningEvent) (a : AdmissionRow) : Prop :=
  ∃ db, LedgerIn log db ∧ a ∈ db.admissions

theorem KnowsRow.now {s : SigningWorld} (hinv : SigningInv P s) {a : AdmissionRow}
    (h : KnowsRow s.log a) : ∃ a' ∈ s.world.ledger.admissions, KeepsRow a a' := by
  obtain ⟨db, hdb, ha⟩ := h
  exact (hinv.ledgers db hdb).2.receipts a ha

theorem KnowsRow.later {s s' : SigningWorld} {a : AdmissionRow} (h : KnowsRow s.log a)
    (hgrows : LogGrows s s') : KnowsRow s'.log a := by
  obtain ⟨db, hdb, ha⟩ := h
  exact ⟨db, hgrows.ledgerIn hdb, ha⟩

/-- The acknowledgement of a row depends on what it keeps. -/
theorem KeepsRow.ackPreparation {a a' : AdmissionRow} (h : KeepsRow a a') :
    a'.ackPreparation P = a.ackPreparation P := by
  unfold AdmissionRow.ackPreparation
  rw [h.receipt, h.columns]

/-- A row whose custody is confirmed by `ack`. -/
def RowConfirmed (a : AdmissionRow) (ack : CustodyAcknowledgement) (db : Ledger) : Prop :=
  ∃ a' ∈ db.admissions, KeepsRow a a' ∧ a'.custodyAck = some ack

section

variable {around : Surroundings} {docs : Set Document} {e : Entry}
variable {post : Except AdmissionError ServiceResult → SigningWorld → Prop} {s : SigningWorld}
variable (hworks : Works P around e)
include hworks

/-- A prepared acknowledgement is signed and closes custody, unless another client
has closed it. -/
theorem signAcknowledgement_retries {service : Nat} {a : AdmissionRow}
    {k : CustodyAcknowledgement → Client P} (hknows : KnowsRow s.log a)
    (hprepared : ∃ db, LedgerIn s.log db ∧ a.ackPreparation P ∈ db.ackPreparations)
    (hk : ∀ s' ack, LogGrows s s' → SigningInv P s' → RowConfirmed a ack s'.world.ledger →
      Settles around docs post (k ack) s') :
    Settles around docs post
      (check (require (P.sha (.acknowledgementBody (a.preparedAck P).body)
            = (a.preparedAck P).acknowledgementBodyDigest)
          (corrupted "in-memory custody acknowledgement preparation changed")) fun _ =>
        request (.sign (.acknowledgement (a.preparedAck P).body)) fun signature =>
        check (require (P.signerVerifies (.acknowledgement (a.preparedAck P).body) signature = true)
          (.rejected .invalidReceiptSignature
            "custody acknowledgement signer returned a substituted signature")) fun _ =>
        request (.ledger service (.finalizeAck (a.preparedAck P)
          ⟨(a.preparedAck P).body, signature⟩)) fun (ack : CustodyAcknowledgement) => k ack) s := by
  obtain ⟨db, hdb, hq⟩ := hprepared
  refine completes_check (a := ()) (require_pos rfl) ?_
  refine retries_sign keepsFinalized_refl (fun s' hgrows => ⟨db, hgrows.ledgerIn hdb, _, hq, rfl⟩) ?_
  intro s₁ hgrows₁ hinv₁
  refine completes_check (a := ()) (require_pos (hworks.signer _)) ?_
  refine retries_transaction keepsFinalized_refl ?_
  rintro s₂ hgrows₂ hinv₂ ⟨hknown₂, hroom⟩ heads _
  have hledger := hinv₂.world.ledger
  have hgrows := logGrows_trans hgrows₁ hgrows₂
  obtain ⟨a₂, ha₂, hkeeps⟩ := (hknows.later hgrows).now hinv₂
  have hstill : a₂.ackPreparation P ∈ s₂.world.ledger.ackPreparations
      ∨ a₂.custodyState = .durable := by
    rw [hkeeps.ackPreparation]
    rcases (hinv₂.ledgers db (hgrows.ledgerIn hdb)).2.acks _ hq with hq' | ⟨x, hx, hxd, hdurable⟩
    · exact Or.inl hq'
    · right
      have hxa : x = a₂ := by
        refine List.inj_on_of_nodup_map hledger.receipts.digests hx ha₂ ?_
        rw [hxd, hkeeps.columns]
        rfl
      rw [← hxa]
      exact hdurable
  have hbody : (a.preparedAck P).body = (a₂.ackPreparation P).acknowledgementBody := by
    rw [hkeeps.ackPreparation]
    rfl
  have hsame : a₂.preparedAck P = a.preparedAck P := by
    unfold AdmissionRow.preparedAck
    rw [hkeeps.ackPreparation]
  obtain ⟨db', answer, hok⟩ := finalizeAck_ok hledger ha₂ hstill
    ⟨(a.preparedAck P).body, around.signer (.acknowledgement (a.preparedAck P).body)⟩ hbody
    (hworks.signer _)
  rw [hsame] at hok
  obtain ⟨a₃, ha₃, hdigest, hanswer⟩ := finalizeCustodyAcknowledgement_step hledger hok
  have ha₃₂ : a₃ = a₂ := by
    refine List.inj_on_of_nodup_map hledger.receipts.digests ha₃ ha₂ ?_
    rw [hdigest, ← hsame]
    exact (hledger.receipts.sound a₂ ha₂).receiptDigest.symm
  subst ha₃₂
  show Continues around docs (DatabaseFile.hasRoom P) KeepsFinalized post s₂ _
    (finalizeCustodyAcknowledgement P s₂.world.ledger (a.preparedAck P) _)
  rw [hok]
  rcases hanswer with ⟨rfl, hack⟩ | ⟨hclosed, rfl⟩
  · -- another client has closed it
    refine ⟨.inr hroom, hknown₂, keepsFinalized_refl _, fun s₃ hgrows₃ hinv₃ hdb₃ => ?_⟩
    refine hk s₃ answer (logGrows_trans hgrows hgrows₃) hinv₃ ⟨a₃, ?_, hkeeps, hack⟩
    rw [hdb₃]
    exact ha₃
  · have hchange : LedgerChange P s₂.world.ledger db' := .closed a₃ _ hclosed
    refine ⟨.inr hroom, known_closed hknown₂ hclosed, (hchange.advances hledger).receipts, ?_⟩
    intro s₃ hgrows₃ hinv₃ hdb₃
    obtain ⟨g, hg, hadmissions, hself, _⟩ := hclosed.rows
    have hrow : g a₃ ∈ db'.admissions := by
      rw [hadmissions]
      exact List.mem_map_of_mem ha₃
    obtain ⟨a₄, ha₄, hkeeps₄⟩ := (hchange.advances hledger).receipts a₃ ha₃
    have hsame₄ : a₄ = g a₃ := by
      refine List.inj_on_of_nodup_map (hchange.inv hledger).receipts.digests ha₄ hrow ?_
      rw [hkeeps₄.columns, hg.columns]
    refine hk s₃ _ (logGrows_trans hgrows hgrows₃) hinv₃ ⟨a₄, ?_, hkeeps.trans hkeeps₄, ?_⟩
    · rw [hdb₃]
      exact ha₄
    · rw [hsame₄, hself]
      rfl

variable (hfree : CollisionFree P docs around e)
include hfree

theorem markCustodyDurable_retries {service : Nat} {a : AdmissionRow}
    {k : CustodyAcknowledgement → Client P} (hknows : KnowsRow s.log a)
    (hk : ∀ s' ack, LogGrows s s' → SigningInv P s' → RowConfirmed a ack s'.world.ledger →
      Settles around docs post (k ack) s') :
    Settles around docs post
      (markCustodyDurable P service a.receiptDigest a.custodyReference k) s := by
  refine retries_transaction keepsFinalized_refl ?_
  rintro s₁ hgrows₁ hinv₁ ⟨hknown₁, hroom⟩ heads _
  have hledger := hinv₁.world.ledger
  obtain ⟨a₁, ha₁, hkeeps₁⟩ := (hknows.later hgrows₁).now hinv₁
  have hreceiptDoc : Document.receipt a₁.receipt ∈ docs := (known_iff.mp hknown₁).2.1 a₁ ha₁
  have hreference : a₁.custodyReference = a₁.receipt.body.custodyReference :=
    congrArg AdmissionColumns.custodyReference (hledger.receipts.sound a₁ ha₁).columns
  have hbodyDoc : Document.acknowledgementBody (a₁.ackPreparation P).acknowledgementBody ∈ docs := by
    have h := hfree.acknowledgements _ hreceiptDoc
    rw [← hreference] at h
    exact h
  obtain ⟨db', answer, hok⟩ := prepareAck_ok hledger ha₁ (fun q hq hdigest => by
    obtain ⟨_, _, _, _, _, hqdigest⟩ := hledger.acks.sound q hq
    have hqdoc := (known_iff.mp hknown₁).2.2 q hq
    exact Document.acknowledgementBody.inj
      (hfree.injective hqdoc hbodyDoc (hqdigest.symm.trans hdigest)))
  rw [hkeeps₁.columns] at hok
  obtain ⟨a₂, ha₂, hdigest, hanswer⟩ := prepareCustodyAcknowledgement_step hledger hok
  have hsame : a₂ = a₁ := by
    refine List.inj_on_of_nodup_map hledger.receipts.digests ha₂ ha₁ ?_
    rw [hdigest, hkeeps₁.columns]
  subst hsame
  show Continues around docs (DatabaseFile.hasRoom P) KeepsFinalized post s₁ _
    (prepareCustodyAcknowledgement P s₁.world.ledger a.receiptDigest a.custodyReference)
  rw [hok]
  rcases hanswer with ⟨ack, rfl, hack, rfl⟩ | ⟨hq, hdb, rfl⟩
  · -- custody was confirmed before
    refine ⟨.inr hroom, hknown₁, keepsFinalized_refl _, fun s₂ hgrows₂ hinv₂ hdb₂ => ?_⟩
    refine hk s₂ ack (logGrows_trans hgrows₁ hgrows₂) hinv₂ ⟨a₂, ?_, hkeeps₁, hack⟩
    rw [hdb₂]
    exact ha₂
  · have hchange : LedgerChange P s₁.world.ledger db' := by
      rcases hdb with hdb | hprepared
      · exact .same hdb
      · exact .ackPrepared a₂ hprepared
    have hknown' : Known P docs db' := by
      rcases hdb with hdb | hprepared
      · rw [hdb]
        exact hknown₁
      · exact known_ackPrepared hknown₁ hprepared hbodyDoc
    refine ⟨.inr hroom, hknown', (hchange.advances hledger).receipts, fun s₂ hgrows₂ hinv₂ hdb₂ => ?_⟩
    have hgrows := logGrows_trans hgrows₁ hgrows₂
    have hin : LedgerIn s₂.log db' := by
      rw [← hdb₂]
      exact hinv₂.current
    rw [hkeeps₁.ackPreparation] at hq ⊢
    exact signAcknowledgement_retries hworks (hknows.later hgrows) ⟨db', hin, hq⟩
      fun s' ack hgrows' => hk s' ack (logGrows_trans hgrows hgrows')

/-- The answer `stored` is what the row says, as far as it is about the receipt. -/
structure StoredOf (a : AdmissionRow) (stored : StoredAdmission) : Prop where
  receipt : stored.receipt = a.receipt
  reference : stored.custodyReference = a.custodyReference
  ack : ∀ ack ∈ stored.custodyAcknowledgement, a.custodyAck = some ack

theorem establishCustody_retries {service : Nat} {a : AdmissionRow} {stored : StoredAdmission}
    {k : CustodyAcknowledgement → Client P} (hinv : SigningInv P s) (hknows : KnowsRow s.log a)
    (hstored : StoredOf a stored)
    (hk : ∀ s' ack, LogGrows s s' → SigningInv P s' → RowConfirmed a ack s'.world.ledger →
      Settles around docs post (k ack) s') :
    Settles around docs post (establishCustody P service stored k) s := by
  refine retries_outside (c := .persist stored) (a := ()) keepsFinalized_refl
    (fun _ _ _ => Iff.rfl) ?_
  intro s₁ hgrows₁ hinv₁
  have hdigest : stored.receipt.receiptDigest P = a.receiptDigest := by
    obtain ⟨db, hdb, ha⟩ := hknows
    rw [hstored.receipt]
    exact ((hinv.ledgers db hdb).1.receipts.sound a ha).receiptDigest.symm
  rw [hdigest, hstored.reference]
  refine markCustodyDurable_retries hworks hfree (hknows.later hgrows₁) ?_
  intro s₂ ack hgrows₂ hinv₂ hconfirmed
  refine completes_check (a := ()) (require_pos fun ack' hack' => ?_)
    (hk s₂ ack (logGrows_trans hgrows₁ hgrows₂) hinv₂ hconfirmed)
  -- an acknowledgement that was there before is still there
  obtain ⟨a', _, hkeeps, hack⟩ := hconfirmed
  rw [hkeeps.ack ack' (hstored.ack ack' hack')] at hack
  exact Option.some.inj hack

omit hworks hfree in
/-- An answer of the ledger about a row. -/
theorem Answers.storedOf (hinv : LedgerInv P db) {a : AdmissionRow} (ha : a ∈ db.admissions)
    {stored : StoredAdmission} (h : Answers P a stored) : StoredOf a stored := by
  obtain ⟨ack, hack, rfl⟩ := h
  refine ⟨rfl, rfl, fun x hx => ?_⟩
  cases hx
  exact (hinv.receipts.sound a ha).acknowledged hack

omit hworks in
/-- No other receipt has the digest of the entry's. -/
theorem receiptDigest_free (hinv : LedgerInv P db) (hknown : Known P docs db) {a : AdmissionRow}
    (ha : a ∈ db.admissions)
    (h : a.receiptDigest = AdmissionReceipt.receiptDigest P ⟨e.1, around.signer (.receipt e.1)⟩) :
    a.receipt.body = e.1 := by
  rw [(hinv.receipts.sound a ha).receiptDigest] at h
  have hsame := hfree.injective ((known_iff.mp hknown).2.1 a ha) hfree.receipt h
  exact congrArg AdmissionReceipt.body (Document.receipt.inj hsame)

omit hworks in
/-- No receipt of another envelope has its custody object. -/
theorem custodyObject_free (hinv : LedgerInv P db) (hknown : Known P docs db)
    (he : e ∈ db.entries) {a : AdmissionRow} (ha : a ∈ db.admissions)
    (h : a.custodyObjectId = e.1.custodyObjectId) :
    a.receipt.body.envelopeDigest = e.1.envelopeDigest := by
  have hdocs : ∀ x ∈ db.entries, x.1.custodyDocument ∈ docs := by
    intro x hx
    exact (known_iff.mp hknown).1 x hx _ (by simp [entryDocuments])
  have haentry : a.entry ∈ db.entries := mem_entries.mpr (Or.inl ⟨a, ha, rfl⟩)
  have hobject : ∀ x ∈ db.entries, x.1.custodyObjectId = P.sha x.1.custodyDocument := by
    intro x hx
    obtain ⟨_, _, _, hev, _⟩ := hinv.entry hx
    exact hev.custodyObject
  have hcolumn : a.custodyObjectId = a.entry.1.custodyObjectId :=
    congrArg AdmissionColumns.custodyObjectId (hinv.receipts.sound a ha).columns
  rw [hcolumn, hobject _ haentry, hobject _ he] at h
  have hsame := hfree.injective (hdocs _ haentry) (hdocs _ he) h
  exact (Document.custodyObject.inj hsame).2.2.1

/-- Finalizing the entry's preparation: it becomes the receipt, or the receipt of
a faster client is the answer. -/
theorem finalizeAdmission_entry {heads : List TenantHead} (hinv : LedgerInv P db)
    (hheads : CurrentHeads db heads) (hknown : Known P docs db) (he : e ∈ db.entries) :
    ∃ db' stored, finalizeAdmission P heads db ⟨P.sha (.receiptBody e.1), e.1, e.2⟩
        ⟨e.1, around.signer (.receipt e.1)⟩ = .ok (db', stored)
      ∧ Known P docs db' ∧ KeepsFinalized db db'
      ∧ ∃ a ∈ db'.admissions, a.entry = e ∧ StoredOf a stored := by
  obtain ⟨l, _, _, _, hrow⟩ := hinv.entry he
  cases hrow with
  | admitted a ha hentry _ _ _ =>
    obtain ⟨stored, hanswers, hok⟩ := finalizeAdmission_admitted
      ⟨e.1, around.signer (.receipt e.1)⟩ hinv hheads ha ⟨P.sha (.receiptBody e.1), e.1, e.2⟩
      (congrArg Prod.fst hentry) rfl
    exact ⟨db, stored, hok, hknown, keepsFinalized_refl db, a, ha, hentry,
      hanswers.storedOf hinv ha⟩
  | reserved p hp hentry _ _ =>
    have hprepared : p.prepared P = ⟨P.sha (.receiptBody e.1), e.1, e.2⟩ := by
      rw [← hentry]
      rfl
    have hbody : e.1 = p.receiptBody := (congrArg Prod.fst hentry).symm
    obtain ⟨db', hok⟩ := finalizeAdmission_reserved ⟨e.1, around.signer (.receipt e.1)⟩ hinv hheads
      hp hbody (hworks.signer _)
      (fun a ha => receiptDigest_free hfree hinv hknown ha)
      (fun a ha => custodyObject_free hfree hinv hknown he ha)
    rw [hprepared] at hok
    rcases finalizeAdmission_step hinv hok with ⟨_, _, _, _, _, _, _, hno⟩ | ⟨q, hstep, hq, _⟩
    · cases hno
    · have hchange : LedgerChange P db db' := .finalized q _ hstep
      refine ⟨db', _, hok, known_finalized hinv hknown hstep hfree.receipt,
        (hchange.advances hinv).receipts,
        AdmissionReceipt.row P ⟨e.1, around.signer (.receipt e.1)⟩ q.evidence, ?_, ?_,
        ⟨rfl, ?_, fun _ h => by cases h⟩⟩
      · rw [hstep.result]
        exact List.mem_append_right _ (List.mem_singleton_self _)
      · exact Prod.ext rfl (congrArg PreparedAdmission.evidence hq).symm
      · rw [← hbody]
        rfl

theorem completePreparedAdmission_retries {service : Nat} {p : PreparationRow}
    {k : StoredAdmission → Client P}
    (hknows : ∃ db, LedgerIn s.log db ∧ p ∈ db.preparations) (hentry : p.entry = e)
    (hk : ∀ s' a stored, LogGrows s s' → SigningInv P s' → a ∈ s'.world.ledger.admissions →
      a.entry = e → StoredOf a stored → Settles around docs post (k stored) s') :
    Settles around docs post
      (completePreparedAdmission P service (p.prepared P) k) s := by
  obtain ⟨db, hdb, hp⟩ := hknows
  refine completes_check (a := ()) (require_pos rfl) ?_
  refine retries_sign keepsFinalized_refl (fun s' hgrows => ⟨db, hgrows.ledgerIn hdb, p, hp, rfl⟩) ?_
  intro s₁ hgrows₁ hinv₁
  refine completes_check (a := ()) (require_pos (hworks.signer _)) ?_
  refine retries_transaction keepsFinalized_refl ?_
  rintro s₂ hgrows₂ hinv₂ ⟨hknown₂, hroom⟩ heads hcurrent
  have hgrows := logGrows_trans hgrows₁ hgrows₂
  have he : e ∈ s₂.world.ledger.entries := by
    refine (hinv₂.ledgers db (hgrows.ledgerIn hdb)).2.entries e (mem_entries.mpr (Or.inr ?_))
    exact ⟨p, hp, hentry⟩
  have hprepared : p.prepared P = ⟨P.sha (.receiptBody e.1), e.1, e.2⟩ := by
    rw [← hentry]
    rfl
  obtain ⟨db', stored, hok, hknown', hkeeps, a, ha, haentry, hstored⟩ :=
    finalizeAdmission_entry hworks hfree hinv₂.world.ledger hcurrent hknown₂ he
  show Continues around docs (DatabaseFile.hasRoom P) KeepsFinalized post s₂ _
    (finalizeAdmission P heads s₂.world.ledger (p.prepared P) _)
  rw [hprepared, hok]
  refine ⟨.inr hroom, hknown', hkeeps, fun s₃ hgrows₃ hinv₃ hdb₃ => ?_⟩
  refine hk s₃ a stored (logGrows_trans hgrows hgrows₃) hinv₃ ?_ haentry hstored
  rw [hdb₃]
  exact ha

end

/-! ## The checks of `admit` -/

section

variable {statement : CollectionStatement} {bytes : Bytes}

theorem checkEnvelope_ok (hlength : bytes.length ≤ P.limits.maxEnvelopeBytes)
    (hparse : P.parseStatement bytes = some statement)
    (hconfigured : statement.audience = P.expectedAudience
      ∧ statement.capabilityDigest = P.expectedCapabilityDigest) :
    checkEnvelope P bytes = .ok ⟨statement, hlength, hparse, hconfigured⟩ := by
  unfold checkEnvelope
  rw [dif_pos hlength]
  -- the answer's type mentions the parsed statement
  revert hparse
  generalize P.parseStatement bytes = parsed
  intro hparse
  subst hparse
  exact dif_pos hconfigured

theorem checkPolicy_ok {exactRetry : Bool} (hlength : bytes.length ≤ P.limits.maxPolicyBytes)
    (hparse : P.parseTrustPolicy bytes = some statement.policyId)
    (hdigest : P.sha (.bytes bytes) = statement.policyDigest) :
    checkPolicy P statement exactRetry bytes = .ok ⟨bytes, hlength, hparse, hdigest⟩ := by
  unfold checkPolicy
  rw [dif_pos hlength]
  split
  next hnone =>
    rw [hparse] at hnone
    cases hnone
  next policyId hsome =>
    rw [hparse] at hsome
    cases hsome
    rw [dif_pos rfl, dif_pos hdigest]

theorem checkSnapshot_ok (hsealed : P.verifySnapshot bytes
      = some ⟨statement.cabId, statement.manifestDigest⟩) :
    checkSnapshot P statement bytes = .ok ⟨bytes, hsealed⟩ := by
  unfold checkSnapshot
  split
  next hnone =>
    rw [hsealed] at hnone
    cases hnone
  next snapshot hsome =>
    rw [hsealed] at hsome
    cases hsome
    rw [dif_pos rfl]

theorem checkSnapshot_bytes {sealed : { b : Bytes // P.verifySnapshot b
      = some ⟨statement.cabId, statement.manifestDigest⟩ }}
    (h : checkSnapshot P statement bytes = .ok sealed) : sealed.1 = bytes := by
  unfold checkSnapshot at h
  split at h
  · cases h
  · split at h
    · cases h
      rfl
    · cases h

theorem checkEnvelope_error {e : AdmissionError} (h : checkEnvelope P bytes = .error e) :
    ∃ reason detail, e = .rejected reason detail := by
  unfold checkEnvelope at h
  split at h
  · revert h
    generalize P.parseStatement bytes = parsed
    intro h
    cases parsed with
    | none =>
      cases h
      exact ⟨_, _, rfl⟩
    | some statement =>
      dsimp only at h
      split at h
      · cases h
      · cases h
        exact ⟨_, _, rfl⟩
  · cases h
    exact ⟨_, _, rfl⟩

theorem checkSnapshot_error {e : AdmissionError} (h : checkSnapshot P statement bytes = .error e) :
    ∃ reason detail, e = .rejected reason detail := by
  unfold checkSnapshot at h
  split at h
  · cases h
    exact ⟨_, _, rfl⟩
  · split at h
    · cases h
    · cases h
      exact ⟨_, _, rfl⟩

end

/-! ## A call with the entry's envelope -/

/-- What `admit` does with the receipt the ledger answered. -/
def finishAdmit (P : Profile) (service : Nat) (stored : StoredAdmission) : Client P :=
  establishCustody P service stored fun ack =>
  request (.reply ⟨stored.disposition, stored.receipt, ack⟩) fun _ =>
  .ret (.ok (.admitted ⟨stored.disposition, stored.receipt, ack⟩))

/-- The custody object of the entry's envelope with the CAB of the call. -/
def Surroundings.custodyObject (P : Profile) (around : Surroundings) (e : Entry) : Digest :=
  P.sha (.custodyObject e.1.tenantId e.1.jobId e.1.envelopeDigest
    (P.sha (.bytes around.snapshotBytes)))

/-- The inputs of such a call. -/
structure InputsOf (around : Surroundings) (e : Entry) (inputs : AdmissionInputs P) : Prop where
  envelope : inputs.envelopeBytes = e.2.envelopeBytes
  policy : inputs.policyBytes = e.2.policyBytes
  snapshot : inputs.snapshotBytes = around.snapshotBytes
  reference : inputs.custodyReference = around.reference (around.custodyObject P e)
  safe : safeReference inputs.custodyReference = true

section

variable {around : Surroundings} {docs : Set Document} {e : Entry}
variable {room : DatabaseFile → Prop} {keeps : Ledger → Ledger → Prop}
variable {post : Except AdmissionError ServiceResult → SigningWorld → Prop} {s : SigningWorld}

/-- The entry was admitted or reserved in some committed ledger. -/
def KnowsEntry (log : List SigningEvent) (e : Entry) : Prop :=
  ∃ db, LedgerIn log db ∧ e ∈ db.entries

theorem KnowsEntry.now (hinv : SigningInv P s) (h : KnowsEntry s.log e) :
    e ∈ s.world.ledger.entries := by
  obtain ⟨db, hdb, he⟩ := h
  exact (hinv.ledgers db hdb).2.entries e he

theorem KnowsEntry.later {s' : SigningWorld} (h : KnowsEntry s.log e) (hgrows : LogGrows s s') :
    KnowsEntry s'.log e := by
  obtain ⟨db, hdb, he⟩ := h
  exact ⟨db, hgrows.ledgerIn hdb, he⟩

/-- A call with the entry's envelope comes as far as the ledger, with the
original time, unless its CAB or custody's reference is refused. -/
theorem admit_entry (hrefl : ∀ db, keeps db db) {service : Nat} (hinv : SigningInv P s)
    (hworks : Works P around e) (he : KnowsEntry s.log e)
    (hsnapshot : ∀ statement err, P.parseStatement e.2.envelopeBytes = some statement →
      checkSnapshot P statement around.snapshotBytes = .error err → ∀ s', post (.error err) s')
    (hreference : safeReference (around.reference (around.custodyObject P e)) ≠ true →
      ∀ s', post (.error (ServiceCall.failure (P := P) (.referenceFor 0))) s')
    (hk : ∀ s' (inputs : AdmissionInputs P), LogGrows s s' → SigningInv P s' →
      InputsOf around e inputs → Retries around docs room keeps post
        (append P service inputs (some e.1.admittedAt) (finishAdmit P service)) s') :
    Retries around docs room keeps post (admitCall P service e.2.envelopeBytes) s := by
  obtain ⟨l, _, _, hev, _⟩ := hinv.world.ledger.entry (he.now hinv)
  obtain ⟨statement, hparse, hbound⟩ := hev.bound
  obtain ⟨_, _, _, _, _, _, _, htenant, _, haudience, hjob, hcapability, _, _, _, _, _, hpolicyId,
    hrevision, hpolicyDigest, _⟩ := hbound
  have hconfigured : statement.audience = P.expectedAudience
      ∧ statement.capabilityDigest = P.expectedCapabilityDigest := by
    rw [← haudience, ← hcapability]
    exact hev.configured
  refine completes_check (checkEnvelope_ok hev.bounded.1 hparse hconfigured) ?_
  refine retries_retryTime hrefl ?_
  intro s₁ hgrows₁ hinv₁ hknown₁ heads hcurrent now hclock
  have hprobe := retryAdmittedAt_ok hinv₁.world.ledger hcurrent ((he.later hgrows₁).now hinv₁)
    hparse hclock
  rw [hev.digests.1, hprobe]
  refine ⟨.inl rfl, hknown₁, hrefl _, fun s₂ hgrows₂ _ _ => ?_⟩
  -- the policy is the one the entry was made under
  refine retries_outside (c := .resolve statement.policyId statement.policyRevision
    statement.policyDigest) hrefl (fun _ _ _ => Iff.rfl) ?_
  intro s₃ hgrows₃ _
  have hresolved : around.resolver statement.policyId statement.policyRevision
      statement.policyDigest = e.2.policyBytes := by
    rw [← hpolicyId, ← hrevision, ← hpolicyDigest]
    exact hworks.resolver
  rw [hresolved]
  have hpolicy : P.parseTrustPolicy e.2.policyBytes = some statement.policyId := by
    rw [← hpolicyId]
    exact hev.policy
  refine completes_check (checkPolicy_ok hev.bounded.2 hpolicy
    (hev.digests.2.2.1.trans hpolicyDigest)) ?_
  refine retries_outside (c := .capture) hrefl (fun _ _ _ => Iff.rfl) ?_
  intro s₄ hgrows₄ _
  refine completes_check_or (fun err herror => hsnapshot statement err hparse herror) ?_
  intro snapshot hsealed
  have hbytes := checkSnapshot_bytes hsealed
  have hobject : P.sha (.custodyObject statement.tenantId statement.jobId e.1.envelopeDigest
      (P.sha (.bytes snapshot.1))) = around.custodyObject P e := by
    rw [hbytes, ← htenant, ← hjob]
    rfl
  refine retries_outside (c := .referenceFor (P.sha (.custodyObject statement.tenantId
    statement.jobId e.1.envelopeDigest (P.sha (.bytes snapshot.1))))) hrefl
    (fun _ _ _ => Iff.rfl) ?_
  intro s₅ hgrows₅ hinv₅
  rw [hobject]
  by_cases hsafe : safeReference (around.reference (around.custodyObject P e)) = true
  · refine completes_check (a := ()) (require_pos hsafe) ?_
    have hgrows := logGrows_trans hgrows₁ (logGrows_trans hgrows₂ (logGrows_trans hgrows₃
      (logGrows_trans hgrows₄ hgrows₅)))
    exact hk s₅ _ hgrows hinv₅ ⟨rfl, rfl, hbytes, rfl, hsafe⟩
  · rw [require_neg hsafe]
    exact fun s' _ _ => hreference hsafe s'

end

/-! ## The receipt comes back -/

/-- The call has returned the receipt and the acknowledgement of the entry's
lease; `db₀` is the ledger it began with. -/
def Returned (db₀ : Ledger) (e : Entry) (r : Except AdmissionError ServiceResult)
    (s : SigningWorld) : Prop :=
  ∃ o, r = .ok (.admitted o) ∧ ∃ a ∈ s.world.ledger.admissions, a.entry = e
    ∧ a.receipt = o.receipt ∧ a.custodyAck = some o.custodyAcknowledgement
    ∧ (∀ a' ∈ s.world.ledger.admissions, a'.leaseDigest = e.1.leaseDigest → a' = a)
    ∧ ∀ a₀ ∈ db₀.admissions, a₀.leaseDigest = e.1.leaseDigest → KeepsRow a₀ a

theorem KeepsRow.entry {a a' : AdmissionRow} (h : KeepsRow a a') : a'.entry = a.entry := by
  rw [AdmissionRow.entry, AdmissionRow.entry, h.receipt, h.evidence]

section

variable {around : Surroundings} {docs : Set Document} {e : Entry} {s : SigningWorld}

/-- An outcome that a committed row says is what the call returns for good. -/
theorem returned_of_confirmed (hinv : SigningInv P s) {db₀ : Ledger} (hdb₀ : LedgerIn s.log db₀)
    {a : AdmissionRow} (hentry : a.entry = e) {o : AdmissionOutcome} (hreceipt : a.receipt = o.receipt)
    {db : Ledger} (hdb : LedgerIn s.log db) (hconfirmed : RowConfirmed a o.custodyAcknowledgement db) :
    Returned db₀ e (.ok (.admitted o)) s := by
  have hledger := hinv.world.ledger
  obtain ⟨a₁, ha₁, hkeeps₁, hack⟩ := hconfirmed
  obtain ⟨a₂, ha₂, hkeeps₂⟩ := (hinv.ledgers db hdb).2.receipts a₁ ha₁
  have hkeeps := hkeeps₁.trans hkeeps₂
  have hlease : a₂.leaseDigest = e.1.leaseDigest := by
    rw [(hledger.admitted_columns ha₂).2.2.1, hkeeps.receipt, ← hentry]
    rfl
  have hunique : ∀ a' ∈ s.world.ledger.admissions, a'.leaseDigest = e.1.leaseDigest → a' = a₂ := by
    intro a' ha' hlease'
    exact List.inj_on_of_nodup_map hledger.receipts.leases ha' ha₂ (hlease'.trans hlease.symm)
  refine ⟨o, rfl, a₂, ha₂, hkeeps.entry.trans hentry, hkeeps.receipt.trans hreceipt,
    hkeeps₂.ack _ hack, hunique, fun a₀ ha₀ hlease₀ => ?_⟩
  obtain ⟨a₃, ha₃, hkeeps₃⟩ := (hinv.ledgers db₀ hdb₀).2.receipts a₀ ha₀
  rw [hunique a₃ ha₃ (by rw [hkeeps₃.columns]; exact hlease₀)] at hkeeps₃
  exact hkeeps₃

variable (hworks : Works P around e) (hfree : CollisionFree P docs around e)
include hworks hfree

theorem finishAdmit_returns {service : Nat} (hinv : SigningInv P s) {db₀ : Ledger}
    (hdb₀ : LedgerIn s.log db₀) {a : AdmissionRow} (hknows : KnowsRow s.log a)
    (hentry : a.entry = e) {stored : StoredAdmission} (hstored : StoredOf a stored) :
    Settles around docs (Returned db₀ e) (finishAdmit P service stored) s := by
  refine establishCustody_retries hworks hfree hinv hknows hstored ?_
  intro s₁ ack hgrows₁ hinv₁ hconfirmed
  refine completes_requested ?_
  intro s₂ hgrows₂ hinv₂
  refine ⟨⟨_, _, rfl, rfl⟩, fun r s₃ h => ?_⟩
  obtain ⟨rfl, rfl⟩ := h
  have hin : LedgerIn s₂.log s₁.world.ledger := hgrows₂.ledgerIn hinv₁.current
  have hholds : Holds s₁.world.ledger ⟨stored.disposition, stored.receipt, ack⟩ := by
    obtain ⟨a₁, ha₁, hkeeps, hack⟩ := hconfirmed
    refine ⟨a₁, ha₁, ?_, hack⟩
    rw [hkeeps.receipt]
    exact hstored.receipt.symm
  obtain ⟨hinv₃, hgrows₃⟩ := record_inv hinv₂.1 (e := .returned _) ⟨_, hin, hholds⟩
    (fun db h => by cases h)
  refine ⟨⟨hinv₃, hinv₂.2⟩, hgrows₃, keepsFinalized_refl _, fun s₄ hgrows₄ hinv₄ => ?_⟩
  have hlater := logGrows_trans hgrows₃ hgrows₄
  exact returned_of_confirmed hinv₄.1
    ((logGrows_trans hgrows₁ (logGrows_trans hgrows₂ hlater)).ledgerIn hdb₀) hentry
    hstored.receipt.symm (hlater.ledgerIn hin) hconfirmed

/-- **An exact retry returns.** -/
theorem admit_again {service : Nat} (hinv : SigningInv P s) (he : e ∈ s.world.ledger.entries)
    (hsame : around.snapshotBytes = e.2.cabSnapshotBytes) :
    Settles around docs (Returned s.world.ledger e)
      (admitCall P service e.2.envelopeBytes) s := by
  have hknows : KnowsEntry s.log e := ⟨_, hinv.current, he⟩
  obtain ⟨l, _, _, hev, _⟩ := hinv.world.ledger.entry he
  have hobject : around.custodyObject P e = e.1.custodyObjectId := by
    rw [hev.custodyObject, Surroundings.custodyObject, hsame, hev.digests.2.1]
    rfl
  have hreference : around.reference (around.custodyObject P e) = e.1.custodyReference := by
    rw [hobject]
    exact hworks.reference
  refine admit_entry keepsFinalized_refl hinv hworks hknows ?_ ?_ ?_
  · -- the CAB is sealed as before
    intro statement err hparse herror
    obtain ⟨_, _, _, _, _, _, _, _, _, _, _, _, _, hcab, hmanifest, _⟩ := hev.binds hparse
    have hsealed : P.verifySnapshot around.snapshotBytes
        = some ⟨statement.cabId, statement.manifestDigest⟩ := by
      rw [hsame, ← hcab, ← hmanifest]
      exact hev.snapshot
    rw [checkSnapshot_ok hsealed] at herror
    cases herror
  · intro hunsafe
    rw [hreference] at hunsafe
    exact absurd hev.valid.2.2.2.2.2.2.2.1 hunsafe
  · intro s₁ inputs hgrows₁ hinv₁ hinputs
    refine retries_prepare keepsFinalized_refl ?_
    intro s₂ hgrows₂ hinv₂ hknown₂ heads hcurrent now
    have hgrows := logGrows_trans hgrows₁ hgrows₂
    obtain ⟨c, hcandidate, hevidence, hfingerprint, hbody⟩ :=
      candidateFor_again hev hinputs.envelope hinputs.policy hinputs.safe
    -- with the same CAB the body is the same
    rw [hinputs.snapshot, hinputs.reference, hsame, hreference, withSnapshot_self hev]
      at hfingerprint hbody
    rw [hinputs.snapshot, hsame] at hevidence
    rcases prepareAdmission_entry now _ hinv₂.world.ledger hcurrent ((hknows.later hgrows).now hinv₂)
        hinputs.envelope hcandidate hbody with
      ⟨a, ha, hentry, stored, _, hanswers, hprepare⟩ | ⟨p, hp, hentry, _, hprepare⟩
    · rw [hprepare, if_pos hfingerprint.symm]
      refine ⟨.inl rfl, hknown₂, keepsFinalized_refl _, fun s₃ hgrows₃ hinv₃ hdb₃ => ?_⟩
      have hknowsRow : KnowsRow s₃.log a := ⟨_, hgrows₃.ledgerIn hinv₂.current, ha⟩
      exact finishAdmit_returns hworks hfree hinv₃
        ((logGrows_trans hgrows hgrows₃).ledgerIn hinv.current) hknowsRow hentry
        (hanswers.storedOf hinv₂.world.ledger ha)
    · rw [hprepare, if_pos ⟨rfl, hevidence⟩]
      refine ⟨.inl rfl, hknown₂, keepsFinalized_refl _, fun s₃ hgrows₃ hinv₃ hdb₃ => ?_⟩
      refine completePreparedAdmission_retries hworks hfree
        ⟨_, hgrows₃.ledgerIn hinv₂.current, hp⟩ hentry ?_
      intro s₄ a stored hgrows₄ hinv₄ ha haentry hstored
      have hknowsRow : KnowsRow s₄.log a := ⟨_, hinv₄.current, ha⟩
      exact finishAdmit_returns hworks hfree hinv₄
        ((logGrows_trans hgrows (logGrows_trans hgrows₃ hgrows₄)).ledgerIn hinv.current)
        hknowsRow haentry hstored

end

/-! ## Any other request is refused -/

/-- The call has raised `AdmissionRejected`. -/
def Refused (r : Except AdmissionError ServiceResult) (_ : SigningWorld) : Prop :=
  ∃ reason detail, r = .error (.rejected reason detail)

/-- No table has changed. -/
def SameTables (db db' : Ledger) : Prop :=
  db' = db

theorem sameTables_refl (db : Ledger) : SameTables db db := rfl

/-- The documents of a request with the entry's envelope and another CAB. -/
def alteredDocuments (P : Profile) (around : Surroundings) (e : Entry) : List Document :=
  [.bytes around.snapshotBytes,
    .request ((e.1.withSnapshot P e.2.attestation around.snapshotBytes
      (around.reference (around.custodyObject P e))).request P e.2.attestation)]

section

variable {around : Surroundings} {docs : Set Document} {e : Entry} {s : SigningWorld}

/-- Another CAB has another digest, and makes another request. -/
theorem altered_differs {b : AdmissionReceiptBody} {ev : Evidence} {lease : JobLease}
    (hinjective : Set.InjOn P.sha docs) (hev : SoundEvidence P b ev lease)
    (hentry : ∀ d ∈ entryDocuments P (b, ev), d ∈ docs)
    (haltered : ∀ d ∈ alteredDocuments P around (b, ev), d ∈ docs)
    (hother : around.snapshotBytes ≠ ev.cabSnapshotBytes) :
    b.admissionRequestFingerprint ≠ (b.withSnapshot P ev.attestation around.snapshotBytes
      (around.reference (around.custodyObject P (b, ev)))).admissionRequestFingerprint := by
  have hdigest : b.cabSnapshotDigest ≠ P.sha (.bytes around.snapshotBytes) := by
    rw [← hev.digests.2.1]
    intro hsame
    have hbytes := hinjective (hentry (.bytes ev.cabSnapshotBytes) (by simp [entryDocuments]))
      (haltered (.bytes around.snapshotBytes) (by simp [alteredDocuments])) hsame
    exact hother (Document.bytes.inj hbytes).symm
  rw [← hev.fingerprint, requestFingerprint_eq]
  intro hsame
  have hrequest := hinjective (hentry _ (by simp [entryDocuments]))
    (haltered (.request ((b.withSnapshot P ev.attestation around.snapshotBytes
      (around.reference (around.custodyObject P (b, ev)))).request P ev.attestation))
      (by simp [alteredDocuments])) hsame
  exact hdigest (congrArg AdmissionRequest.snapshotDigest (Document.request.inj hrequest))

/-- **Another CAB is refused.** -/
theorem admit_altered {service : Nat} (hworks : Works P around e)
    (hinjective : Set.InjOn P.sha docs) (haltered : ∀ d ∈ alteredDocuments P around e, d ∈ docs)
    (hinv : SigningInv P s) (he : e ∈ s.world.ledger.entries)
    (hother : around.snapshotBytes ≠ e.2.cabSnapshotBytes) :
    Retries around docs (fun _ => True) SameTables Refused (admitCall P service e.2.envelopeBytes) s := by
  have hknows : KnowsEntry s.log e := ⟨_, hinv.current, he⟩
  obtain ⟨l, _, _, hev, _⟩ := hinv.world.ledger.entry he
  refine admit_entry sameTables_refl hinv hworks hknows ?_ ?_ ?_
  · intro statement err _ herror s'
    obtain ⟨reason, detail, rfl⟩ := checkSnapshot_error herror
    exact ⟨reason, detail, rfl⟩
  · exact fun _ _ => ⟨_, _, rfl⟩
  · intro s₁ inputs hgrows₁ hinv₁ hinputs
    refine retries_prepare sameTables_refl ?_
    intro s₂ hgrows₂ hinv₂ hknown₂ heads hcurrent now
    have he₂ := (hknows.later (logGrows_trans hgrows₁ hgrows₂)).now hinv₂
    have hdiffers := altered_differs hinjective hev ((known_iff.mp hknown₂).1 e he₂) haltered hother
    obtain ⟨c, hcandidate, hevidence, hfingerprint, hbody⟩ :=
      candidateFor_again hev hinputs.envelope hinputs.policy hinputs.safe
    rw [hinputs.snapshot, hinputs.reference] at hfingerprint hbody
    rw [hinputs.snapshot] at hevidence
    rcases prepareAdmission_entry now _ hinv₂.world.ledger hcurrent he₂ hinputs.envelope hcandidate
        hbody with
      ⟨a, _, _, stored, detail, _, hprepare⟩ | ⟨p, _, _, detail, hprepare⟩
    · rw [hprepare, if_neg (by rw [hfingerprint]; exact hdiffers)]
      exact fun _ => ⟨_, _, rfl⟩
    · have hcab : ¬ c.evidence = e.2 := by
        rw [hevidence]
        intro hsame
        exact hother (congrArg Evidence.cabSnapshotBytes hsame)
      rw [hprepare, if_neg (fun h => hcab h.2)]
      exact fun _ => ⟨_, _, rfl⟩

/-- **Another envelope is refused.** -/
theorem admit_other {service : Nat} (hinjective : Set.InjOn P.sha docs) (hinv : SigningInv P s)
    (he : e ∈ s.world.ledger.entries) {envelopeBytes : Bytes}
    (hdoc : Document.bytes envelopeBytes ∈ docs) {statement : CollectionStatement}
    (hparse : P.parseStatement envelopeBytes = some statement)
    (hlease : statement.leaseDigest = e.1.leaseDigest)
    (hother : envelopeBytes ≠ e.2.envelopeBytes) :
    Retries around docs (fun _ => True) SameTables Refused (admitCall P service envelopeBytes) s := by
  have hknows : KnowsEntry s.log e := ⟨_, hinv.current, he⟩
  obtain ⟨l, _, _, hev, _⟩ := hinv.world.ledger.entry he
  refine completes_check_or ?_ ?_
  · intro err herror s'
    obtain ⟨reason, detail, rfl⟩ := checkEnvelope_error herror
    exact ⟨reason, detail, rfl⟩
  · intro checked _
    show Retries around docs (fun _ => True) SameTables Refused _ s
    refine retries_retryTime sameTables_refl ?_
    intro s₁ hgrows₁ hinv₁ hknown₁ heads _ now _
    have he₁ := (hknows.later hgrows₁).now hinv₁
    have hnamed : checked.1.leaseDigest = e.1.leaseDigest := by
      have hsame : checked.1 = statement := Option.some.inj (checked.2.2.1.symm.trans hparse)
      rw [hsame]
      exact hlease
    have hdigest : e.1.envelopeDigest ≠ P.sha (.bytes envelopeBytes) := by
      rw [← hev.digests.1]
      intro hsame
      have hbytes := hinjective ((known_iff.mp hknown₁).1 e he₁ (.bytes e.2.envelopeBytes)
        (by simp [entryDocuments])) hdoc hsame
      exact hother (Document.bytes.inj hbytes).symm
    obtain ⟨reason, detail, herror⟩ :=
      retryAdmittedAt_other hinv₁.world.ledger he₁ hnamed hdigest now
    rw [herror]
    exact fun _ => ⟨reason, detail, rfl⟩

end

/-! ## Among the other clients -/

/-- However the call is run among the others, as long as the ledger stays within
`docs` and the file as `room` says: it ends with `post`, and its own transactions
change the tables as `keeps` says. -/
def AlwaysRetries (around : Surroundings) (docs : Set Document) (room : DatabaseFile → Prop)
    (keeps : Ledger → Ledger → Prop)
    (post : Except AdmissionError ServiceResult → SigningWorld → Prop)
    (c : Config SigningWorld (Client P)) (p : Client P) : Prop :=
  AlwaysEnds serviceExec (workingExec around) ServiceEntry (serviceEnv (P := P))
    (fun s => Known P docs s.world.ledger ∧ room s.world.file)
    (fun s s' => keeps s.world.ledger s'.world.ledger) post c p

theorem Retries.always {around : Surroundings} {docs : Set Document} {room : DatabaseFile → Prop}
    {keeps : Ledger → Ledger → Prop}
    {post : Except AdmissionError ServiceResult → SigningWorld → Prop}
    {c : Config SigningWorld (Client P)}
    (h : Reachable serviceExec ServiceEntry (serviceEnv (P := P)) SigningWorld.init c)
    (hknown : Known P docs c.shared.world.ledger ∧ room c.shared.world.file) {p : Client P}
    (hretries : Retries around docs room keeps post p c.shared) :
    AlwaysRetries around docs room keeps post c p := by
  obtain ⟨hinv, _, hsafe⟩ := reachable_safe logGrows_refl (fun _ _ _ => logGrows_trans)
    (fun _ _ _ _ _ => trivial) (fun p hp s _ => serviceEntry_safe p hp s)
    (fun s s' hinv henv => env_inv hinv henv) signingInv_init h
  exact completes_alwaysEnds logGrows_refl (fun _ _ _ => logGrows_trans)
    (fun p hp s _ => serviceEntry_safe p hp s) (fun s s' hinv henv => env_inv hinv henv)
    ⟨hinv, hknown⟩ hsafe hretries

def retryDigest : Document → Digest
  | .request r => r.snapshotDigest + 4000
  | d => exampleDigest d

def retryProfile : Profile :=
  { exampleProfile with
    sha := retryDigest
    parseStatement := fun bytes =>
      if bytes = [1] ∨ bytes = [5] then some exampleStatement else none
    verifySnapshot := fun bytes => if bytes = [3] ∨ bytes = [4] then some ⟨88, 88⟩ else none }

def retryMoves (calls : Nat) : List (ServiceMove retryProfile) :=
  List.replicate calls (.run 0 exampleAnswers)

/-- An instance dies when its receipt is finalized and its custody is not. -/
def diedPending : List (ServiceMove retryProfile) :=
  [.start (registerLeaseCall retryProfile 0 exampleLease) (.register 0 exampleLease)]
    ++ retryMoves 1
    ++ [.start (admitCall retryProfile 0 [1]) (.admitCall 0 [1])]
    ++ retryMoves 7
    ++ [.crash 0]

def diedPendingEnd : Config SigningWorld (Client retryProfile) :=
  diedPending.foldl (fun c m => play runService m c) ⟨SigningWorld.init, []⟩

def pendingEntry : Entry :=
  diedPendingEnd.shared.world.ledger.entries.head (by decide +kernel)

/-- Surroundings as before, whose clock the lease may have expired on. -/
def retryAround (snapshotBytes : Bytes) : Surroundings :=
  ⟨fun _ _ _ => [2], snapshotBytes, fun _ => "custody:1", fun _ => ⟨"signer", 2⟩⟩

/-- The receipt a document is. -/
def Document.ofReceipt : Document → Option AdmissionReceipt
  | .receipt r => some r
  | _ => none

def retryDocuments : List Document :=
  diedPendingEnd.shared.world.ledger.documents retryProfile
    ++ alteredDocuments retryProfile (retryAround [4]) pendingEntry
    ++ [.bytes [5], .receipt ⟨pendingEntry.1, ⟨"signer", 2⟩⟩,
      .acknowledgementBody (acknowledgementBody retryProfile ⟨pendingEntry.1, ⟨"signer", 2⟩⟩
        pendingEntry.1.custodyReference)]

theorem retryDocuments_known :
    Known retryProfile {d | d ∈ retryDocuments} diedPendingEnd.shared.world.ledger :=
  fun _ hd => List.mem_append_left _ (List.mem_append_left _ hd)

theorem pendingEntry_mem : pendingEntry ∈ diedPendingEnd.shared.world.ledger.entries :=
  List.head_mem _

theorem retryDocuments_computed :
    (∀ d ∈ retryDocuments, ∀ d' ∈ retryDocuments, retryDigest d = retryDigest d' → d = d')
    ∧ ∀ d ∈ retryDocuments, ∀ r ∈ d.ofReceipt, Document.acknowledgementBody
      (acknowledgementBody retryProfile r r.body.custodyReference) ∈ retryDocuments := by
  decide +kernel

theorem retryDocuments_injective : Set.InjOn retryProfile.sha {d | d ∈ retryDocuments} :=
  fun d hd d' hd' => retryDocuments_computed.1 d hd d' hd'

theorem pendingEntry_computed :
    [2] = pendingEntry.2.policyBytes ∧ "custody:1" = pendingEntry.1.custodyReference
    ∧ (∃ a ∈ diedPendingEnd.shared.world.ledger.admissions, a.custodyState = .pending)
    ∧ pendingEntry.2.cabSnapshotBytes = [3]
    ∧ diedPendingEnd.shared.world.file.hasRoom retryProfile
    ∧ exampleStatement.leaseDigest = pendingEntry.1.leaseDigest
    ∧ [5] ≠ pendingEntry.2.envelopeBytes := by
  decide +kernel

theorem pendingEntry_works (snapshotBytes : Bytes) :
    Works retryProfile (retryAround snapshotBytes) pendingEntry := by
  obtain ⟨hpolicy, hreference, -⟩ := pendingEntry_computed
  exact ⟨hpolicy, hreference, fun _ => by simp [retryProfile, exampleProfile, retryAround]⟩

theorem pendingEntry_free (snapshotBytes : Bytes) :
    CollisionFree retryProfile {d | d ∈ retryDocuments} (retryAround snapshotBytes)
      pendingEntry := by
  refine ⟨retryDocuments_injective, ?_, fun r hr => ?_⟩
  · show Document.receipt ⟨pendingEntry.1, ⟨"signer", 2⟩⟩ ∈ retryDocuments
    exact List.mem_append_right _ (.tail _ (.head _))
  · exact retryDocuments_computed.2 (.receipt r) hr r (Option.mem_some_self r)

/-- The constant answers of `retryAround [3]`, with a clock at the floor. -/
def runRetry (c : ServiceCall retryProfile) (s : SigningWorld) :
    Except AdmissionError c.Answer × SigningWorld :=
  runService ⟨s.world.ledger.lastAdmittedAt.getD 0, [2], [3], "custody:1", ⟨"signer", 2⟩⟩ c s

theorem runRetry_working (c : ServiceCall retryProfile) (s : SigningWorld) :
    workingExec (retryAround [3]) c s (runRetry c s).1 (runRetry c s).2 := by
  have hfloor : ∀ f ∈ s.world.ledger.lastAdmittedAt, f ≤ s.world.ledger.lastAdmittedAt.getD 0 := by
    intro f hf
    rw [Option.mem_def.mp hf]
    exact le_refl f
  cases c with
  | retryTime service statement digest => exact ⟨_, hfloor, rfl⟩
  | prepare service inputs original => exact ⟨_, hfloor, rfl⟩
  | ledger service call => exact rfl
  | _ => exact ⟨rfl, rfl⟩

/-- The file measures something else. -/
def withFile (c : Config SigningWorld (Client P)) (file : DatabaseFile) :
    Config SigningWorld (Client P) :=
  ⟨{ c.shared with world := { c.shared.world with file } }, c.clients⟩

theorem withFile_step (c : Config SigningWorld (Client P)) (file : DatabaseFile) :
    Step serviceExec ServiceEntry (serviceEnv (P := P)) c (withFile c file) :=
  .environment ⟨rfl, .measured file, (by intro _ _ hno; cases hno), rfl⟩

/-- The client has raised that the file is over its quota. -/
def hasFailed : Client P → Bool
  | .ret (.error e) => decide (e = overQuota)
  | _ => false

theorem AlwaysRetries.not_failed {around : Surroundings} {docs : Set Document}
    {room : DatabaseFile → Prop} {db : Ledger} {e : Entry} {c : Config SigningWorld (Client P)}
    {p : Client P} (h : AlwaysRetries around docs room KeepsFinalized (Returned db e) c p)
    {x : Config SigningWorld (Client P) × Client P}
    (hknown : Known P docs c.shared.world.ledger) (file : DatabaseFile) (hroom : room file)
    (hrun : Relation.ReflTransGen (Alongside serviceExec (workingExec around) ServiceEntry
      (serviceEnv (P := P)) fun s => Known P docs s.world.ledger ∧ room s.world.file)
      (withFile c file, p) x) :
    hasFailed x.2 = false := by
  obtain ⟨c', p'⟩ := x
  have hend := h c' p' (.head (.others (withFile_step c file) ⟨hknown, hroom⟩) hrun)
  cases p' with
  | ret r =>
    obtain ⟨o, rfl, _⟩ := hend
    rfl
  | call q k => rfl

end ControlAssurance.Admission
