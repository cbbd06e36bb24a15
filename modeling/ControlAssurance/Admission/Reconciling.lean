import ControlAssurance.Lib.Plays
import ControlAssurance.Admission.Retry

/-!
# One item of a reconciliation

`reconcile_pending` takes the outstanding reservations and the receipts without
confirmed custody one at a time. Each is about one tenant: finalizing a
reservation and closing the custody of a receipt leave the rows of every other
tenant as they are (`Untouched`). The custody here refuses the objects of a set
`F` and takes all others, and the signer signs what it is asked for.
-/

namespace ControlAssurance.Admission

open Lib
open Prog (check request)

variable {P : Profile} {db db' db'' : Ledger}

/-! ## The rows of other tenants -/

/-- Reservations and receipts of the tenants that `keep` selects are the same rows
in the same order. -/
structure Untouched (keep : String → Bool) (db db' : Ledger) : Prop where
  preparations : db'.preparations.filter (fun p => keep p.tenantId)
    = db.preparations.filter fun p => keep p.tenantId
  admissions : db'.admissions.filter (fun a => keep a.tenantId)
    = db.admissions.filter fun a => keep a.tenantId

section

variable {keep keep' : String → Bool}

theorem untouched_refl (keep : String → Bool) (db : Ledger) : Untouched keep db db := ⟨rfl, rfl⟩

theorem Untouched.trans (h : Untouched keep db db') (h' : Untouched keep db' db'') :
    Untouched keep db db'' :=
  ⟨h'.preparations.trans h.preparations, h'.admissions.trans h.admissions⟩

/-- Fewer tenants. -/
theorem Untouched.mono (h : Untouched keep db db') (hkeep : ∀ t, keep' t = true → keep t = true) :
    Untouched keep' db db' := by
  have hboth : ∀ t, keep' t = (keep t && keep' t) := by
    intro t
    cases ht : keep' t with
    | false => rw [Bool.and_false]
    | true => rw [hkeep t ht, Bool.and_true]
  have hfilter : ∀ {α : Type} (tenant : α → String) (rows : List α),
      rows.filter (fun x => keep' (tenant x))
        = (rows.filter fun x => keep (tenant x)).filter fun x => keep' (tenant x) := by
    intro α tenant rows
    rw [List.filter_filter]
    refine List.filter_congr fun x _ => ?_
    rw [hboth, Bool.and_comm, Bool.and_assoc, Bool.and_self]
  constructor
  · rw [hfilter (·.tenantId) db'.preparations, h.preparations,
      ← hfilter (·.tenantId) db.preparations]
  · rw [hfilter (fun a : AdmissionRow => a.tenantId) db'.admissions, h.admissions,
      ← hfilter (fun a : AdmissionRow => a.tenantId) db.admissions]

theorem Untouched.mem_preparations (h : Untouched keep db db') {p : PreparationRow}
    (hp : keep p.tenantId = true) : p ∈ db'.preparations ↔ p ∈ db.preparations := by
  have hmem : ∀ rows : List PreparationRow,
      p ∈ rows.filter (fun p => keep p.tenantId) ↔ p ∈ rows := by
    intro rows
    rw [List.mem_filter, and_iff_left hp]
  rw [← hmem, h.preparations, hmem]

theorem Untouched.mem_admissions (h : Untouched keep db db') {a : AdmissionRow}
    (ha : keep a.tenantId = true) : a ∈ db'.admissions ↔ a ∈ db.admissions := by
  have hmem : ∀ rows : List AdmissionRow,
      a ∈ rows.filter (fun a => keep a.tenantId) ↔ a ∈ rows := by
    intro rows
    rw [List.mem_filter, and_iff_left ha]
  rw [← hmem, h.admissions, hmem]

end

/-- Every tenant but one. -/
def elsewhere (tenantId t : String) : Bool := !decide (t = tenantId)

theorem Finalized.untouched (hinv : LedgerInv P db) {p : PreparationRow}
    {receipt : AdmissionReceipt} (h : Finalized P db db' p receipt) :
    Untouched (elsewhere p.tenantId) db db' := by
  have hpreparations : db'.preparations = db.preparations.filter fun q => !samePreparation p q := by
    rw [h.result]
  have hadmissions : db'.admissions = db.admissions ++ [receipt.row P p.evidence] := by
    rw [h.result]
  have htenant : (receipt.row P p.evidence).tenantId = p.tenantId := by
    rw [(hinv.reserved_columns h.mem).1, ← h.body]
    rfl
  constructor
  · rw [hpreparations, List.filter_filter]
    refine List.filter_congr fun q hq => ?_
    by_cases hsame : samePreparation p q = true
    · have hrow : q = p := List.inj_on_of_nodup_map hinv.preparations.leases hq h.mem
        (of_decide_eq_true hsame).2
      rw [hrow, elsewhere, decide_eq_true rfl]
      rfl
    · rw [Bool.not_eq_true] at hsame
      rw [hsame]
      exact Bool.and_true _
  · rw [hadmissions, List.filter_append]
    have hother : elsewhere p.tenantId (receipt.row P p.evidence).tenantId ≠ true := by
      rw [htenant, elsewhere, decide_eq_true rfl]
      decide
    have hnone : [receipt.row P p.evidence].filter (fun a => elsewhere p.tenantId a.tenantId)
        = [] := by
      rw [List.filter_eq_nil_iff]
      intro a ha
      rw [List.mem_singleton.mp ha]
      exact hother
    rw [hnone, List.append_nil]

theorem AckPrepared.untouched {a : AdmissionRow} (h : AckPrepared P db db' a)
    (keep : String → Bool) : Untouched keep db db' := by
  rw [h.result]
  exact ⟨rfl, rfl⟩

theorem CustodyClosed.untouched (hinv : LedgerInv P db) {a : AdmissionRow}
    {ack : CustodyAcknowledgement} (h : CustodyClosed P db db' a ack) :
    Untouched (elsewhere a.tenantId) db db' := by
  obtain ⟨g, hg, hadmissions, _, hother⟩ := h.rows
  constructor
  · rw [h.result]
  · rw [hadmissions, List.filter_map]
    have hfilter : db.admissions.filter ((fun x => elsewhere a.tenantId x.tenantId) ∘ g)
        = db.admissions.filter fun x => elsewhere a.tenantId x.tenantId := by
      refine List.filter_congr fun x _ => ?_
      show elsewhere a.tenantId (g x).tenantId = _
      rw [hg.columns]
    rw [hfilter]
    refine (List.map_congr_left fun x hx => ?_).trans (List.map_id _)
    obtain ⟨hx, htenant⟩ := List.mem_filter.mp hx
    refine hother x fun hdigest => ?_
    have hrow : x = a := List.inj_on_of_nodup_map hinv.receipts.digests hx h.mem hdigest
    rw [hrow, elsewhere, decide_eq_true rfl] at htenant
    exact nomatch htenant

/-! ## A custody that refuses some objects -/

/-- Custody fails on the objects of `F` only, and the signer signs. -/
def custodyExec (F : Set Digest) (signer : SigningBody → DetachedSignature) :
    (c : ServiceCall P) → SigningWorld → Except AdmissionError c.Answer → SigningWorld → Prop
  | .persist stored, s, r, s' => s' = s
      ∧ (stored.receipt.body.custodyObjectId ∈ F →
        r = .error (ServiceCall.failure (P := P) (.persist stored)))
      ∧ (stored.receipt.body.custodyObjectId ∉ F → r = .ok ())
  | .sign body, s, r, s' => r = .ok (signer body) ∧ s' = s.record (.signed body)
  | c, s, r, s' => serviceExec c s r s'

section

variable {F : Set Digest} {signer : SigningBody → DetachedSignature}

/-- It is one of the behaviours of the surroundings. -/
theorem custodyExec_exec {c : ServiceCall P} {s s' : SigningWorld}
    {r : Except AdmissionError c.Answer} (h : custodyExec F signer c s r s') :
    serviceExec c s r s' := by
  cases c with
  | persist stored =>
    obtain ⟨rfl, hrefused, htaken⟩ := h
    refine ⟨?_, rfl⟩
    by_cases hobject : stored.receipt.body.custodyObjectId ∈ F
    · exact .inr (hrefused hobject)
    · exact .inl ⟨(), htaken hobject⟩
  | sign body => exact ⟨.inl ⟨_, h.1⟩, h.2⟩
  | ledger service call => exact h
  | retryTime service statement digest => exact h
  | prepare service inputs original => exact h
  | resolve id revision digest => exact h
  | capture => exact h
  | referenceFor object => exact h
  | reply outcome => exact h

theorem custodyExec_total (c : ServiceCall P) (s : SigningWorld) :
    ∃ r s', custodyExec F signer c s r s' := by
  have hany : ∃ r s', serviceExec c s r s' :=
    ⟨_, _, runService_exec ⟨0, [], [], "", ⟨"", 0⟩⟩ c s⟩
  cases c with
  | persist stored =>
    by_cases hobject : stored.receipt.body.custodyObjectId ∈ F
    · exact ⟨.error _, s, rfl, fun _ => rfl, fun h => absurd hobject h⟩
    · exact ⟨.ok (), s, rfl, fun h => absurd h hobject, fun _ => rfl⟩
  | sign body => exact ⟨_, _, rfl, rfl⟩
  | ledger service call => exact hany
  | retryTime service statement digest => exact hany
  | prepare service inputs original => exact hany
  | resolve id revision digest => exact hany
  | capture => exact hany
  | referenceFor object => exact hany
  | reply outcome => exact hany

end

/-- Every call leaves a ledger that is in order. -/
theorem serviceExec_world {c : ServiceCall P} {s s' : SigningWorld}
    {r : Except AdmissionError c.Answer} (hinv : WorldInv P s.world) (h : serviceExec c s r s') :
    WorldInv P s'.world := by
  have htransact : ∀ {service : Nat} {call : LedgerCall P} {answer : Except AdmissionError call.Answer},
      (answer, s') = s.transact service call → WorldInv P s'.world := by
    intro service call answer h
    obtain ⟨_, rfl⟩ := Prod.mk.inj h
    exact (transact_inv hinv service call).1
  cases c with
  | ledger service call => exact htransact h
  | retryTime service statement digest =>
    rcases h with ⟨now, h⟩ | ⟨_, rfl⟩
    · exact @htransact service (.retryTime statement digest now) r h
    · exact hinv
  | prepare service inputs original =>
    rcases h with ⟨now, h⟩ | ⟨_, rfl⟩
    · exact @htransact service (.prepare inputs original now) r h
    · exact hinv
  | sign body => exact h.2 ▸ hinv
  | reply outcome => exact h.2 ▸ hinv
  | resolve id revision digest => exact h.2 ▸ hinv
  | capture => exact h.2 ▸ hinv
  | referenceFor object => exact h.2 ▸ hinv
  | persist stored => exact h.2 ▸ hinv

/-- What is done with an item. -/
inductive Stage where
  | signed | persisted | acknowledged
deriving DecidableEq

/-- The item a call is about, by its custody object. -/
def ServiceCall.processed : ServiceCall P → Option (Stage × Digest)
  | .sign (.receipt body) => some (.signed, body.custodyObjectId)
  | .persist stored => some (.persisted, stored.receipt.body.custodyObjectId)
  | .sign (.acknowledgement body) => some (.acknowledged, body.custodyObjectId)
  | _ => none

/-- What a run has done with its items, in its order. -/
def processed (made : List (Made SigningWorld (ServiceCall P)
    fun c => Except AdmissionError c.Answer)) : List (Stage × Digest) :=
  made.filterMap fun m => m.call.processed

/-! ## Documents -/

/-- The digest tells the documents of the run apart: those of the ledger, the
receipts that the signer makes of its entries and their acknowledgements. -/
structure Distinguishes (P : Profile) (docs : Set Document)
    (signer : SigningBody → DetachedSignature) (db : Ledger) : Prop where
  injective : Set.InjOn P.sha docs
  known : Known P docs db
  bodies : ∀ e ∈ db.entries, Document.receiptBody e.1 ∈ docs
  receipts : ∀ e ∈ db.entries, Document.receipt ⟨e.1, signer (.receipt e.1)⟩ ∈ docs
  acknowledgements : ∀ r, Document.receipt r ∈ docs →
    Document.acknowledgementBody (acknowledgementBody P r r.body.custodyReference) ∈ docs

section

variable {docs : Set Document} {signer : SigningBody → DetachedSignature}

/-- With the same entries only the ledger's own documents are new. -/
theorem Distinguishes.of_entries (h : Distinguishes P docs signer db)
    (hentries : ∀ e, e ∈ db'.entries ↔ e ∈ db.entries) (hknown : Known P docs db') :
    Distinguishes P docs signer db' :=
  ⟨h.injective, hknown, fun e he => h.bodies e ((hentries e).mp he),
    fun e he => h.receipts e ((hentries e).mp he), h.acknowledgements⟩

/-- Surroundings that work for an entry. -/
def workingFor (signer : SigningBody → DetachedSignature) (e : Entry) : Surroundings :=
  ⟨fun _ _ _ => e.2.policyBytes, e.2.cabSnapshotBytes, fun _ => e.1.custodyReference, signer⟩

theorem Distinguishes.collisionFree (h : Distinguishes P docs signer db) {e : Entry}
    (he : e ∈ db.entries) : CollisionFree P docs (workingFor signer e) e :=
  ⟨h.injective, h.receipts e he, h.acknowledgements⟩

/-! ## The two steps of an item -/

/-- The ledger is in order and its file has room. -/
structure Roomy (P : Profile) (w : World) : Prop extends WorldInv P w where
  room : w.file.hasRoom P

/-- A file that has room keeps it, whatever it measures; nothing else changes. -/
def Measured (P : Profile) (s s' : SigningWorld) : Prop :=
  ∃ file : DatabaseFile, (s.world.file.hasRoom P → file.hasRoom P)
    ∧ s' = { s with world := { s.world with file } }

theorem measured_refl (s : SigningWorld) : Measured P s s := ⟨s.world.file, id, rfl⟩

theorem Roomy.measured {s s' : SigningWorld} (hinv : Roomy P s.world) (h : Measured P s s') :
    Roomy P s'.world ∧ s'.world.ledger = s.world.ledger := by
  obtain ⟨file, hfile, rfl⟩ := h
  exact ⟨{ ledger := hinv.ledger, validated := hinv.validated, room := hfile hinv.room }, rfl⟩

/-- A transaction that succeeds whatever current heads it works with. -/
theorem transact_ok {s s' : SigningWorld} (hinv : Roomy P s.world) {service : Nat}
    {c : LedgerCall P} {r : Except AdmissionError c.Answer}
    (h : (r, s') = s.transact service c) {Q : c.Answer → Ledger → Prop}
    (hrun : ∀ heads, CurrentHeads s.world.ledger heads →
      ∃ answer db', c.run P s.world.file heads s.world.ledger = .ok (db', answer)
        ∧ Q answer db') :
    Roomy P s'.world ∧ ∃ answer, r = .ok answer ∧ Q answer s'.world.ledger := by
  obtain ⟨hfile, heads, hcurrent, hcases⟩ := transact_run hinv.toWorldInv h
  have hworld : Roomy P s'.world := by
    refine { toWorldInv := ?_, room := hfile ▸ hinv.room }
    obtain ⟨_, rfl⟩ := Prod.mk.inj h
    exact (transact_inv hinv.toWorldInv service c).1
  obtain ⟨answer, db', hok, hQ⟩ := hrun heads hcurrent
  rcases hcases with ⟨answer', hok', rfl⟩ | ⟨e, herror | ⟨_, hfull, _⟩, _⟩
  · rw [hok] at hok'
    obtain ⟨hdb, hanswer⟩ := Prod.mk.inj (Except.ok.inj hok')
    rw [hdb, hanswer] at hQ
    exact ⟨hworld, answer', rfl, hQ⟩
  · rw [hok] at herror
    cases herror
  · exact absurd hinv.room hfull

/-- The receipt of a reservation. -/
def PreparationRow.signedReceipt (signer : SigningBody → DetachedSignature) (p : PreparationRow) :
    AdmissionReceipt :=
  ⟨p.receiptBody, signer (.receipt p.receiptBody)⟩

/-- What `_finalize_admission` answers for a new receipt. -/
def PreparationRow.admitted (signer : SigningBody → DetachedSignature) (p : PreparationRow) :
    StoredAdmission :=
  ⟨.admitted, p.signedReceipt signer, p.evidence, p.receiptBody.custodyReference, none⟩

variable (hsigner : ∀ body, P.signerVerifies body (signer body) = true)
include hsigner

/-- A reservation becomes its receipt. -/
theorem finalize_ok {heads : List TenantHead} (hinv : LedgerInv P db)
    (hheads : CurrentHeads db heads) (hdocs : Distinguishes P docs signer db) {p : PreparationRow}
    (hp : p ∈ db.preparations) :
    ∃ db', finalizeAdmission P heads db (p.prepared P) (p.signedReceipt signer)
        = .ok (db', p.admitted signer)
      ∧ Finalized P db db' p (p.signedReceipt signer) ∧ Distinguishes P docs signer db' := by
  have he : p.entry ∈ db.entries := mem_entries.mpr (.inr ⟨p, hp, rfl⟩)
  have hfree := hdocs.collisionFree he
  obtain ⟨db', hok⟩ := finalizeAdmission_reserved (p.signedReceipt signer) hinv hheads hp rfl
    (hsigner _) (fun a ha => receiptDigest_free hfree hinv hdocs.known ha)
    (fun a ha => custodyObject_free hfree hinv hdocs.known he ha)
  rcases finalizeAdmission_step hinv hok with ⟨_, _, _, _, _, _, _, hno⟩ | ⟨q, hstep, hq, _⟩
  · cases hno
  · have hsame : q = p := by
      refine List.inj_on_of_nodup_map hinv.preparations.leases hstep.mem hp ?_
      rw [(hinv.reserved_columns hstep.mem).2.2.1, (hinv.reserved_columns hp).2.2.1]
      exact congrArg (fun x => x.body.leaseDigest) hq.symm
    subst hsame
    exact ⟨db', hok, hstep, hdocs.of_entries (hstep.entries hinv)
      (known_finalized hinv hdocs.known hstep (hdocs.receipts _ he))⟩

omit hsigner in
/-- The acknowledgement of a row's receipt is prepared, now or before. -/
theorem prepareAck_prepared (hinv : LedgerInv P db) (hdocs : Distinguishes P docs signer db)
    {a : AdmissionRow} (ha : a ∈ db.admissions) (hpending : a.custodyState = .pending) :
    ∃ db', prepareCustodyAcknowledgement P db a.receiptDigest a.custodyReference
        = .ok (db', .prepared (a.preparedAck P))
      ∧ (db' = db ∨ AckPrepared P db db' a) ∧ a.ackPreparation P ∈ db'.ackPreparations
      ∧ Distinguishes P docs signer db' := by
  have hreference : a.custodyReference = a.receipt.body.custodyReference :=
    congrArg AdmissionColumns.custodyReference (hinv.receipts.sound a ha).columns
  have hbodyDoc : Document.acknowledgementBody (a.ackPreparation P).acknowledgementBody ∈ docs := by
    have h := hdocs.acknowledgements _ ((known_iff.mp hdocs.known).2.1 a ha)
    rw [← hreference] at h
    exact h
  obtain ⟨db', answer, hok⟩ := prepareAck_ok hinv ha fun q hq hdigest => by
    obtain ⟨_, _, _, _, _, hqdigest⟩ := hinv.acks.sound q hq
    exact Document.acknowledgementBody.inj (hdocs.injective ((known_iff.mp hdocs.known).2.2 q hq)
      hbodyDoc (hqdigest.symm.trans hdigest))
  obtain ⟨x, hx, hdigest, hanswer⟩ := prepareCustodyAcknowledgement_step hinv hok
  obtain rfl : x = a := List.inj_on_of_nodup_map hinv.receipts.digests hx ha hdigest
  rcases hanswer with ⟨ack, _, hack, _⟩ | ⟨hq, hdb, rfl⟩
  · -- a pending row has no acknowledgement
    rcases (hinv.receipts.sound x hx).ack with ⟨_, hnone, _⟩ | ⟨hdurable, _⟩
    · rw [hnone] at hack
      cases hack
    · rw [hpending] at hdurable
      cases hdurable
  · refine ⟨db', hok, hdb, hq, ?_⟩
    rcases hdb with rfl | hprepared
    · exact hdocs
    · refine hdocs.of_entries (fun e => ?_) (known_ackPrepared hdocs.known hprepared hbodyDoc)
      rw [hprepared.result]
      rfl

omit hsigner in
/-- A tenant has one receipt without confirmed custody at most. -/
theorem pending_unique (hinv : LedgerInv P db) {a b : AdmissionRow} (ha : a ∈ db.admissions)
    (hb : b ∈ db.admissions) (hpa : a.custodyState = .pending) (hpb : b.custodyState = .pending)
    (htenant : a.tenantId = b.tenantId) : a = b := by
  have hnotDurable : ∀ x : AdmissionRow, x.custodyState = .pending → x.custodyState ≠ .durable := by
    intro x hx hdurable
    rw [hx] at hdurable
    cases hdurable
  have hab : ¬a.receiptSequence < b.receiptSequence := fun hlt =>
    not_pendingBefore hinv.receipts hb ⟨a, ha, htenant, hlt, hnotDurable a hpa⟩
  have hba : ¬b.receiptSequence < a.receiptSequence := fun hlt =>
    not_pendingBefore hinv.receipts ha ⟨b, hb, htenant.symm, hlt, hnotDurable b hpb⟩
  have hfound := admissionAt_of_mem hinv.receipts ha
  rw [htenant, show a.receiptSequence = b.receiptSequence by omega,
    admissionAt_of_mem hinv.receipts hb] at hfound
  exact (Option.some.inj hfound).symm

/-- Custody of the row's receipt is confirmed. -/
structure Settled (db db' : Ledger) (a : AdmissionRow) : Prop where
  untouched : Untouched (elsewhere a.tenantId) db db'
  admitted : ∃ a' ∈ db'.admissions, a'.entry = a.entry ∧ a'.tenantId = a.tenantId
  /-- the tenant has nothing outstanding -/
  durable : ∀ x ∈ db'.admissions, x.tenantId = a.tenantId → x.custodyState = .durable

/-- A prepared acknowledgement closes custody. -/
theorem finalizeAck_settles (hinv : LedgerInv P db) (hdocs : Distinguishes P docs signer db)
    {a : AdmissionRow} (ha : a ∈ db.admissions) (hpending : a.custodyState = .pending)
    (hprepared : a.ackPreparation P ∈ db.ackPreparations) :
    ∃ db' ack, finalizeCustodyAcknowledgement P db (a.preparedAck P)
        ⟨(a.preparedAck P).body, signer (.acknowledgement (a.preparedAck P).body)⟩ = .ok (db', ack)
      ∧ Settled db db' a ∧ Distinguishes P docs signer db' := by
  obtain ⟨db', answer, hok⟩ := finalizeAck_ok hinv ha (.inl hprepared)
    ⟨(a.preparedAck P).body, signer (.acknowledgement (a.preparedAck P).body)⟩ rfl (hsigner _)
  obtain ⟨x, hx, hdigest, hanswer⟩ := finalizeCustodyAcknowledgement_step hinv hok
  obtain rfl : x = a := by
    refine List.inj_on_of_nodup_map hinv.receipts.digests hx ha ?_
    exact hdigest.trans (hinv.receipts.sound a ha).receiptDigest.symm
  refine ⟨db', answer, hok, ?_⟩
  rcases hanswer with ⟨_, hack⟩ | ⟨hclosed, _⟩
  · rcases (hinv.receipts.sound x hx).ack with ⟨_, hnone, _⟩ | ⟨hdurable, _⟩
    · rw [hnone] at hack
      cases hack
    · rw [hpending] at hdurable
      cases hdurable
  · obtain ⟨g, hg, hadmissions, hself, hother⟩ := hclosed.rows
    refine ⟨⟨hclosed.untouched hinv, ⟨g x, ?_, ?_, ?_⟩, fun y hy htenant => ?_⟩,
      hdocs.of_entries (fun e => ?_) (known_closed hdocs.known hclosed)⟩
    · rw [hadmissions]
      exact List.mem_map_of_mem hx
    · rw [AdmissionRow.entry, AdmissionRow.entry, hg.receipt, hg.evidence]
    · rw [hg.columns]
    · rw [hadmissions] at hy
      obtain ⟨z, hz, rfl⟩ := List.mem_map.mp hy
      rw [hg.columns] at htenant
      by_cases hsame : z = x
      · rw [hsame, hself]
        rfl
      · have hdigests : z.receiptDigest ≠ x.receiptDigest := fun heq =>
          hsame (List.inj_on_of_nodup_map hinv.receipts.digests hz hx heq)
        rw [hother z hdigests]
        cases hstate : z.custodyState with
        | durable => rfl
        | pending => exact absurd (pending_unique hinv hz hx hstate hpending htenant) hsame
    · rw [hclosed.entries]

/-! ## The calls of an item -/

section

variable {F : Set Digest} {service : Nat} {s s' : SigningWorld}
variable {made : List (Made SigningWorld (ServiceCall P) fun c => Except AdmissionError c.Answer)}
variable {r : Except AdmissionError ServiceResult}

omit hsigner in
/-- A transaction of the run. -/
theorem ledger_plays (c : LedgerCall P) (hinv : Roomy P s.world) {k : c.Answer → Client P}
    {Q : c.Answer → Ledger → Prop}
    (hrun : ∀ file heads, CurrentHeads s.world.ledger heads →
      ∃ answer db', c.run P file heads s.world.ledger = .ok (db', answer) ∧ Q answer db')
    (h : Plays (custodyExec F signer) (Measured P) (request (.ledger service c) k) s made r s') :
    ∃ answer s₁ rest, processed made = processed rest ∧ Roomy P s₁.world
      ∧ Q answer s₁.world.ledger
      ∧ Plays (custodyExec F signer) (Measured P) (k answer) s₁ rest r s' := by
  obtain ⟨before, answer, after, rest, hmeasured, hexec, rfl, hend⟩ := plays_request h
  obtain ⟨hbefore, hsame⟩ := hinv.measured hmeasured
  have htransact : (answer, after) = before.transact service c := hexec
  rw [← hsame] at hrun
  obtain ⟨hworld, a, rfl, hQ⟩ := transact_ok hbefore htransact (hrun before.world.file)
  rcases hend with ⟨_, hno, _⟩ | ⟨_, hanswer, h⟩
  · cases hno
  · obtain rfl := Except.ok.inj hanswer
    exact ⟨a, after, rest, rfl, hworld, hQ, h⟩

omit hsigner in
/-- A signature of the run. -/
theorem sign_plays {body : SigningBody} {k : DetachedSignature → Client P}
    (hinv : Roomy P s.world)
    (h : Plays (custodyExec F signer) (Measured P) (request (.sign body) k) s made r s') :
    ∃ s₁ rest, processed made = (ServiceCall.processed (P := P) (.sign body)).toList
        ++ processed rest
      ∧ Roomy P s₁.world ∧ s₁.world.ledger = s.world.ledger
      ∧ Plays (custodyExec F signer) (Measured P) (k (signer body)) s₁ rest r s' := by
  obtain ⟨before, answer, after, rest, hmeasured, ⟨rfl, rfl⟩, rfl, hend⟩ := plays_request h
  obtain ⟨hbefore, hsame⟩ := hinv.measured hmeasured
  rcases hend with ⟨_, hno, _⟩ | ⟨_, hanswer, h⟩
  · cases hno
  · obtain rfl := Except.ok.inj hanswer
    refine ⟨before.record (.signed body), rest, ?_, hbefore, hsame, h⟩
    cases body <;> rfl

/-- What holds between two items. -/
structure Ready (P : Profile) (docs : Set Document) (signer : SigningBody → DetachedSignature)
    (s : SigningWorld) : Prop where
  world : Roomy P s.world
  documents : Distinguishes P docs signer s.world.ledger

/-- Completing a reservation: its receipt is signed and finalized. -/
theorem completePreparedAdmission_plays (hs : Ready P docs signer s) {p : PreparationRow}
    (hp : p ∈ s.world.ledger.preparations) {k : StoredAdmission → Client P}
    (h : Plays (custodyExec F signer) (Measured P)
      (completePreparedAdmission P service (p.prepared P) k) s made r s') :
    ∃ s₁ rest, processed made = (.signed, p.receiptBody.custodyObjectId) :: processed rest
      ∧ Ready P docs signer s₁
      ∧ Finalized P s.world.ledger s₁.world.ledger p (p.signedReceipt signer)
      ∧ Plays (custodyExec F signer) (Measured P) (k (p.admitted signer)) s₁ rest r s' := by
  have h := plays_passed (a := ()) (require_pos rfl) h
  obtain ⟨s₀, rest, hsigned, hworld₀, hsame, h⟩ := sign_plays hs.world h
  have h := plays_passed (a := ()) (require_pos (hsigner _)) h
  obtain ⟨stored, s₁, rest', hledger, hworld, ⟨rfl, hfinal, hdocs⟩, h⟩ := ledger_plays
    (.finalize (p.prepared P) (p.signedReceipt signer))
    (Q := fun stored db' => stored = p.admitted signer
      ∧ Finalized P s.world.ledger db' p (p.signedReceipt signer) ∧ Distinguishes P docs signer db')
    hworld₀ (fun _ heads hheads => by
      rw [hsame] at hheads ⊢
      obtain ⟨db', hok, hfinal, hdocs⟩ :=
        finalize_ok hsigner hs.world.ledger hheads hs.documents hp
      exact ⟨_, db', hok, rfl, hfinal, hdocs⟩) h
  refine ⟨s₁, rest', ?_, ⟨hworld, hdocs⟩, hfinal, h⟩
  rw [hsigned, hledger]
  rfl

/-- Custody of a pending receipt: refused, or confirmed. -/
theorem establishCustody_plays (hs : Ready P docs signer s) {a : AdmissionRow}
    (ha : a ∈ s.world.ledger.admissions) (hpending : a.custodyState = .pending)
    {stored : StoredAdmission} (hstored : StoredOf a stored)
    {k : CustodyAcknowledgement → Client P}
    (h : Plays (custodyExec F signer) (Measured P) (establishCustody P service stored k) s made r s') :
    (a.receipt.body.custodyObjectId ∈ F
        ∧ r = .error (ServiceCall.failure (P := P) (.persist stored))
        ∧ s'.world.ledger = s.world.ledger
        ∧ processed made = [(.persisted, a.receipt.body.custodyObjectId)])
      ∨ (a.receipt.body.custodyObjectId ∉ F ∧ ∃ ack s₁ rest,
        processed made = [(.persisted, a.receipt.body.custodyObjectId),
          (.acknowledged, a.receipt.body.custodyObjectId)] ++ processed rest
        ∧ Ready P docs signer s₁ ∧ Settled s.world.ledger s₁.world.ledger a
        ∧ Plays (custodyExec F signer) (Measured P) (k ack) s₁ rest r s') := by
  obtain ⟨before, answer, after, rest, hmeasured, ⟨rfl, hrefused, htaken⟩, rfl, hend⟩ :=
    plays_request h
  obtain ⟨hbefore, hkept⟩ := hs.world.measured hmeasured
  rw [hstored.receipt] at hrefused htaken
  have hpersisted : ∀ {before after : SigningWorld},
      processed (⟨.persist stored, before, answer, after⟩ :: rest)
        = (.persisted, a.receipt.body.custodyObjectId) :: processed rest := by
    rw [← hstored.receipt]
    exact rfl
  by_cases hobject : a.receipt.body.custodyObjectId ∈ F
  · left
    rcases hend with ⟨e, herror, rfl, rfl, rfl⟩ | ⟨_, hok, _⟩
    · rw [hrefused hobject] at herror
      exact ⟨hobject, by rw [Except.error.inj herror], hkept, hpersisted⟩
    · rw [hrefused hobject] at hok
      cases hok
  · right
    refine ⟨hobject, ?_⟩
    rcases hend with ⟨e, herror, _⟩ | ⟨_, _, h⟩
    · rw [htaken hobject] at herror
      cases herror
    have hledger := hs.world.ledger
    have hdigest : stored.receipt.receiptDigest P = a.receiptDigest := by
      rw [hstored.receipt]
      exact (hledger.receipts.sound a ha).receiptDigest.symm
    rw [hdigest, hstored.reference, markCustodyDurable] at h
    obtain ⟨answer, s₁, rest₁, hprepare, hworld₁, ⟨rfl, hstep, hprepared, hdocs₁⟩, h⟩ := ledger_plays
      (.prepareAck a.receiptDigest a.custodyReference)
      (Q := fun answer db' => answer = PreparedOrAcknowledged.prepared (a.preparedAck P)
        ∧ (db' = s.world.ledger ∨ AckPrepared P s.world.ledger db' a)
        ∧ a.ackPreparation P ∈ db'.ackPreparations ∧ Distinguishes P docs signer db')
      hbefore (fun _ heads _ => by
        rw [hkept]
        obtain ⟨db', hok, hstep, hprepared, hdocs⟩ :=
          prepareAck_prepared hledger hs.documents ha hpending
        exact ⟨_, db', hok, rfl, hstep, hprepared, hdocs⟩) h
    have huntouched : Untouched (elsewhere a.tenantId) s.world.ledger s₁.world.ledger := by
      rcases hstep with hsame | hack
      · rw [hsame]
        exact untouched_refl _ _
      · exact hack.untouched _
    have hadmissions : s₁.world.ledger.admissions = s.world.ledger.admissions := by
      rcases hstep with hsame | hack
      · rw [hsame]
      · rw [hack.result]
    have h := plays_passed (a := ()) (require_pos rfl) h
    obtain ⟨s₀, rest₂, hsigned, hworld₀, hsame, h⟩ := sign_plays hworld₁ h
    have h := plays_passed (a := ()) (require_pos (hsigner _)) h
    obtain ⟨ack, s₂, rest₃, hfinalize, hworld₂, ⟨hsettled, hdocs₂⟩, h⟩ := ledger_plays
      (.finalizeAck (a.preparedAck P)
        ⟨(a.preparedAck P).body, signer (.acknowledgement (a.preparedAck P).body)⟩)
      (Q := fun _ db' => Settled s₁.world.ledger db' a ∧ Distinguishes P docs signer db')
      hworld₀ (fun _ heads _ => by
        rw [hsame]
        obtain ⟨db', ack, hok, hsettled, hdocs⟩ := finalizeAck_settles hsigner hworld₁.ledger hdocs₁
          (hadmissions ▸ ha) hpending hprepared
        exact ⟨ack, db', hok, hsettled, hdocs⟩) h
    change CustodyAcknowledgement at ack
    have hnone : ∀ x ∈ stored.custodyAcknowledgement, x = ack := by
      intro x hx
      have hack := hstored.ack x hx
      rcases (hledger.receipts.sound a ha).ack with ⟨_, hno, _⟩ | ⟨hdurable, _⟩
      · rw [hno] at hack
        cases hack
      · rw [hpending] at hdurable
        cases hdurable
    have h := plays_passed (a := ()) (require_pos hnone) h
    refine ⟨ack, s₂, rest₃, ?_, ⟨hworld₂, hdocs₂⟩,
      ⟨huntouched.trans hsettled.untouched, hsettled.admitted, hsettled.durable⟩, h⟩
    rw [hpersisted, hprepare, hsigned, hfinalize]
    rfl

end

end

end ControlAssurance.Admission
