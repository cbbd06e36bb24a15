import ControlAssurance.Admission.Repeats

/-!
# Leases that are never used

Registration takes a coordinate `(epoch, sequence)` of a collector for good,
admission wants exactly the next one. A lease that is registered and never used
therefore costs its collector that coordinate. This file says what is left: which
fresh leases a collector can still use, and when there is none.

`Ledger.blocked` is the exact condition. A collector without a receipt has one
way on, `(1, 1)`; a collector with head `(e, n)` has two, `(e, n + 1)` and
`(e + 1, 1)`; while a receipt of the collector is reserved at `(e, n)` only
`(e, n + 1)` can be registered ahead of it.
-/

namespace ControlAssurance.Admission

open Lib

/-! ## What is asked -/

section

variable (P : Profile)

/-- A lease of the collector that the ledger has not seen: valid, signed by the
authority, with a new job, a new nonce and a new digest. -/
structure FreshLease (db : Ledger) (tenantId collectorId : String) (grant : SignedJobLease) :
    Prop where
  tenant : grant.lease.tenantId = tenantId
  collector : grant.lease.collectorId = collectorId
  valid : grant.lease.valid
  signed : P.authorityVerifies grant.lease grant.authoritySignature = true
    ∧ grant.lease.leaseAuthorityKeyFingerprint = P.leaseAuthorityFingerprint
  digest : ∀ l ∈ db.leases, l.leaseDigest ≠ grant.lease.leaseDigest P
  nonce : ∀ l ∈ db.leases, l.nonceDigest ≠ grant.lease.nonceDigest P
  job : ∀ l ∈ db.leases, ¬(l.tenantId = grant.lease.tenantId ∧ l.jobId = grant.lease.jobId)

/-- The collector-order check of `_prepare_admission` passes. -/
def PassesOrder (db : Ledger) (statement : CollectionStatement) : Prop :=
  ∃ head, verifyCollectorHead P db statement.tenantId statement.collectorId = .ok head
    ∧ checkCollector head statement.position
      (.rejected .epochMismatch "the first collector admission must be epoch 1 sequence 1")
      (.rejected .outOfSequence ("expected collector sequence "
        ++ toString ((head.map fun h => h.2.1 + 1).getD 1)))
      (.rejected .epochMismatch "new epoch does not bind the preceding collector head")
      (.rejected .epochMismatch "collector epoch is stale or skips a durable epoch") = .ok ()

/-- Nothing of the tenant is reserved or awaits custody. -/
def Ledger.quiet (db : Ledger) (tenantId : String) : Prop :=
  (∀ p ∈ db.preparations, p.tenantId ≠ tenantId) ∧ ¬db.pendingReceipt tenantId

/-- None of the events reserves a receipt of the collector. -/
def NoneReserved (tenantId collectorId : String) : World → List (LedgerEvent P) → Prop
  | _, [] => True
  | w, e :: events =>
    (∀ p ∈ (w.next P e).ledger.preparations, p.tenantId = tenantId → p.collectorId = collectorId →
      p ∈ w.ledger.preparations) ∧ NoneReserved tenantId collectorId (w.next P e) events

/-- After `events`, `register_lease` of any instance accepts the grant. -/
def Accepts (events : List (LedgerEvent P)) (grant : SignedJobLease) : Prop :=
  ∀ service, ((worldAfter P events).transact P service (.register grant)).1 = .ok grant

/-- The ledger when the grant has been presented and `more` has happened. -/
def ledgerAfter (events : List (LedgerEvent P)) (service : Nat) (grant : SignedJobLease)
    (more : List (LedgerEvent P)) : Ledger :=
  (more.foldl (World.next P) ((worldAfter P events).next P (.called service (.register grant)))).ledger

/-- In every such ledger in which the tenant is quiet, and before another statement
of the collector was reserved, `verdict` holds of the ledger and of any statement
made under the grant. -/
def WhenQuiet (events : List (LedgerEvent P)) (grant : SignedJobLease)
    (verdict : Ledger → CollectionStatement → Prop) : Prop :=
  ∀ service more,
    NoneReserved P grant.lease.tenantId grant.lease.collectorId
      ((worldAfter P events).next P (.called service (.register grant))) more →
    (ledgerAfter P events service grant more).quiet grant.lease.tenantId →
    ∀ statement, statement.matchesLease P grant.lease →
      verdict (ledgerAfter P events service grant more) statement

/-- The lease is accepted, and its statement passes the order check when the tenant
is quiet. -/
def Usable (events : List (LedgerEvent P)) (grant : SignedJobLease) : Prop :=
  Accepts P events grant ∧ WhenQuiet P events grant (PassesOrder P)

/-- The lease is refused, or its statement never passes the order check. -/
def Useless (events : List (LedgerEvent P)) (grant : SignedJobLease) : Prop :=
  (∀ service, ((worldAfter P events).transact P service (.register grant)).1 ≠ .ok grant)
    ∨ WhenQuiet P events grant fun db statement => ¬PassesOrder P db statement

end

/-- The coordinate is registered. -/
def Ledger.taken (db : Ledger) (tenantId collectorId : String) (epoch sequence : Nat) : Prop :=
  ∃ l ∈ db.leases, l.tenantId = tenantId ∧ l.collectorId = collectorId ∧ l.epoch = epoch
    ∧ l.sequence = sequence

/-- The receipt of the collector that is reserved. -/
def Ledger.outstanding (db : Ledger) (tenantId collectorId : String) : Option PreparationRow :=
  db.preparations.find? fun p => decide (p.tenantId = tenantId ∧ p.collectorId = collectorId)

/-- The coordinates the collector can go on with. -/
def Ledger.waysOn (db : Ledger) (tenantId collectorId : String) : List (Nat × Nat) :=
  match db.outstanding tenantId collectorId, db.collectorHead tenantId collectorId with
  | some p, _ => [(p.epoch, p.sequence + 1)]
  | none, none => [(1, 1)]
  | none, some h => [(h.currentEpoch, h.lastSequence + 1), (h.currentEpoch + 1, 1)]

/-- All of them are registered. -/
def Ledger.blocked (db : Ledger) (tenantId collectorId : String) : Prop :=
  ∀ x ∈ db.waysOn tenantId collectorId, db.taken tenantId collectorId x.1 x.2

instance (db : Ledger) (t c : String) (epoch sequence : Nat) :
    Decidable (db.taken t c epoch sequence) :=
  inferInstanceAs (Decidable (∃ l ∈ db.leases, _ ∧ _ ∧ _ ∧ _))

instance (db : Ledger) (t c : String) : Decidable (db.blocked t c) :=
  inferInstanceAs (Decidable (∀ x ∈ db.waysOn t c, db.taken t c x.1 x.2))

/-- The predecessor fields a document model accepts. -/
def CollectorPosition.coherent (p : CollectorPosition) : Prop :=
  1 ≤ p.epoch ∧ 1 ≤ p.sequence ∧ transitionCoherent p.epoch p.sequence p.previousEpoch
    p.previousEpochFinalSequence p.previousEpochFinalReceiptDigest

/-! ## The head that is to be expected -/

variable {P : Profile} {db db' : Ledger} {t c : String}

theorem passesOrder_iff (hinv : LedgerInv P db) {statement : CollectionStatement} :
    PassesOrder P db statement ↔ collectorValid
      (collectorEnd (db.tenantAdmissions statement.tenantId) statement.collectorId)
      statement.position := by
  unfold PassesOrder
  rw [verifyCollectorHead_ok hinv]
  constructor
  · intro ⟨head, hhead, hcheck⟩
    cases hhead
    exact checkCollector_eq_ok.mp hcheck
  · intro h
    exact ⟨_, rfl, checkCollector_eq_ok.mpr h⟩

/-- A reservation has passed the order check, before its lease expired. -/
theorem reserve_checks {file : DatabaseFile} {heads : List TenantHead} {inputs : AdmissionInputs P} {lease : JobLease}
    {now : Instant} {r : Ledger × PreparedAdmission}
    (h : reserve P file heads db inputs lease now = .ok r) :
    now < lease.expiresAt ∧ PassesOrder P db inputs.statement := by
  simp only [reserve, reservable, bind_eq_ok, require_eq_ok, exists_const, clockFloor] at h
  obtain ⟨_, ⟨_, _, candidate, hcandidate, _, _, hexpires, _, _, head, hhead, _, hcheck, _⟩, _⟩ := h
  simp only [candidateFor, bind_eq_ok, require_eq_ok, pure_eq_ok, exists_const] at hcandidate
  obtain ⟨_, _, rfl⟩ := hcandidate
  exact ⟨hexpires, head, hhead, hcheck⟩

/-- A lease that expired unused admits nothing. -/
theorem prepareAdmission_expired (hinv : LedgerInv P db) {l : LeaseRow} (hl : l ∈ db.leases)
    (hunused : l.consumedEnvelopeDigest = none)
    (hfree : db.preparationByLease (l.grant.lease.leaseDigest P) = none)
    {file : DatabaseFile} {heads : List TenantHead} {inputs : AdmissionInputs P}
    (hmatch : inputs.statement.matchesLease P l.grant.lease) {original : Option Instant}
    {now : Instant} (hlate : l.grant.lease.expiresAt ≤ now) (r : Ledger × PreparedOrStored) :
    prepareAdmission P file heads db inputs original now ≠ .ok r := by
  intro h
  unfold prepareAdmission at h
  rw [statementLease_found hinv hl hmatch, ok_bind] at h
  simp only [hunused, hfree, bind_eq_ok] at h
  obtain ⟨reserved, hreserve, _⟩ := h
  exact absurd (reserve_checks hreserve).1 (not_lt.mpr hlate)

/-- `Q` holds of the collector's head once nothing of the collector is reserved. -/
def Expects (Q : Option (Nat × Nat × Digest) → Prop) (db : Ledger) (t c : String) : Prop :=
  ((∀ p ∈ db.preparations, ¬(p.tenantId = t ∧ p.collectorId = c))
      ∧ Q (collectorEnd (db.tenantAdmissions t) c))
    ∨ ∃ p ∈ db.preparations, p.tenantId = t ∧ p.collectorId = c
      ∧ ∀ d, Q (some (p.epoch, p.sequence, d))

section

variable {Q : Option (Nat × Nat × Digest) → Prop}

theorem Expects.quiet (h : Expects Q db t c) (hquiet : ∀ p ∈ db.preparations, p.tenantId ≠ t) :
    Q (collectorEnd (db.tenantAdmissions t) c) := by
  rcases h with ⟨_, hq⟩ | ⟨p, hp, ht, _⟩
  · exact hq
  · exact absurd ht (hquiet p hp)

/-- Only the two tables matter. -/
theorem Expects.frame (h : Expects Q db t c) (hpreparations : db'.preparations = db.preparations)
    (hadmissions : ∀ t, collectorEnd (db'.tenantAdmissions t) c
      = collectorEnd (db.tenantAdmissions t) c) : Expects Q db' t c := by
  unfold Expects
  rw [hpreparations, hadmissions]
  exact h

theorem Expects.finalized (hinv : LedgerInv P db) (h : Expects Q db t c) {p : PreparationRow}
    {receipt : AdmissionReceipt} (hstep : Finalized P db db' p receipt) : Expects Q db' t c := by
  obtain ⟨hmem, hbody, _, _, _, rfl⟩ := hstep
  have hcolumns := (hinv.preparations.sound p hmem).columns
  have htenant : (receipt.row P p.evidence).tenantId = p.tenantId := by
    rw [hcolumns]
    exact congrArg AdmissionReceiptBody.tenantId hbody
  have hcollector : (receipt.row P p.evidence).collectorId = p.collectorId := by
    rw [hcolumns]
    exact congrArg AdmissionReceiptBody.collectorId hbody
  have hepoch : (receipt.row P p.evidence).epoch = p.epoch := by
    rw [hcolumns]
    exact congrArg AdmissionReceiptBody.epoch hbody
  have hsequence : (receipt.row P p.evidence).sequence = p.sequence := by
    rw [hcolumns]
    exact congrArg AdmissionReceiptBody.sequence hbody
  have hend : ∀ {db' : Ledger}, db'.admissions = db.admissions ++ [receipt.row P p.evidence] →
      collectorEnd (db'.tenantAdmissions t) c = if p.tenantId = t ∧ p.collectorId = c
        then some (p.epoch, p.sequence, (receipt.row P p.evidence).receiptDigest)
        else collectorEnd (db.tenantAdmissions t) c := by
    intro db' hadmissions
    rw [tenantAdmissions_concat hadmissions, htenant]
    by_cases ht : p.tenantId = t
    · rw [if_pos ht, collectorEnd_concat, hcollector, hepoch, hsequence]
      by_cases hc : p.collectorId = c
      · rw [if_pos hc, if_pos ⟨ht, hc⟩]
      · rw [if_neg hc, if_neg fun h => hc h.2]
    · rw [if_neg ht, if_neg fun h => ht h.1]
  unfold Expects
  rw [hend rfl]
  rcases h with ⟨hnone, hq⟩ | ⟨q, hq, ht, hc, hall⟩
  · refine Or.inl ⟨fun q hq => hnone q (List.mem_of_mem_filter hq), ?_⟩
    rw [if_neg (hnone p hmem)]
    exact hq
  · by_cases hqp : q = p
    · -- the collector's own receipt: its reservation was the only one of the tenant
      subst hqp
      refine Or.inl ⟨fun q' hq' hsame => ?_, ?_⟩
      · obtain ⟨hq'', hne⟩ := (mem_otherPreparations hinv.preparations hmem).mp hq'
        exact hne (List.inj_on_of_nodup_map hinv.preparations.tenants hq'' hmem
          (hsame.1.trans ht.symm))
      · rw [if_pos ⟨ht, hc⟩]
        exact hall _
    · exact Or.inr ⟨q, (mem_otherPreparations hinv.preparations hmem).mpr ⟨hq, hqp⟩, ht, hc, hall⟩

/-- Any change that does not reserve for the collector keeps what is expected. -/
theorem LedgerChange.expects (hchange : LedgerChange P db db') (hinv : LedgerInv P db)
    (hnone : ∀ p ∈ db'.preparations, p.tenantId = t → p.collectorId = c → p ∈ db.preparations)
    (h : Expects Q db t c) : Expects Q db' t c := by
  cases hchange with
  | same hsame =>
    rw [hsame]
    exact h
  | registered row hstep =>
    rw [hstep.result]
    exact h.frame rfl fun _ => rfl
  | reserved row hstep =>
    have hpreparations : db'.preparations = db.preparations ++ [row] := by rw [hstep.result]
    have hadmissions : db'.admissions = db.admissions := by rw [hstep.result]
    have hrows : ∀ t, db'.tenantAdmissions t = db.tenantAdmissions t := by
      intro t
      unfold Ledger.tenantAdmissions
      rw [hadmissions]
    have hother : ¬(row.tenantId = t ∧ row.collectorId = c) := by
      intro ⟨ht, hc⟩
      have hmem := hnone row (by rw [hpreparations]; simp) ht hc
      exact hstep.tenant row hmem rfl
    unfold Expects
    rw [hpreparations, hrows]
    rcases h with ⟨hfree, hq⟩ | ⟨p, hp, hrest⟩
    · refine Or.inl ⟨fun p hp => ?_, hq⟩
      rcases List.mem_append.mp hp with hp | hp
      · exact hfree p hp
      · rw [List.mem_singleton.mp hp]
        exact hother
    · exact Or.inr ⟨p, List.mem_append_left _ hp, hrest⟩
  | finalized p receipt hstep => exact h.finalized hinv hstep
  | ackPrepared a hstep =>
    rw [hstep.result]
    exact h.frame rfl fun _ => rfl
  | closed a ack hstep =>
    obtain ⟨g, hg, hadmissions, _⟩ := hstep.rows
    refine h.frame (by rw [hstep.result]) fun t => ?_
    rw [tenantAdmissions_map hg hadmissions, collectorEnd_map hg]

/-- So does a run. -/
theorem expects_run : ∀ (events : List (LedgerEvent P)) (w : World), WorldInv P w →
    NoneReserved P t c w events → Expects Q w.ledger t c →
    Expects Q (events.foldl (World.next P) w).ledger t c
  | [], _, _, _, h => h
  | e :: events, w, hw, hnone, h =>
    expects_run events (w.next P e) (next_inv hw e) hnone.2
      ((next_change hw e).expects hw.ledger hnone.1 h)

end

/-! ## Registering a fresh lease -/

/-- The tenant may register another lease. -/
def Ledger.leaseQuotaFree (P : Profile) (db : Ledger) (tenantId : String) : Prop :=
  (db.leases.filter fun l => decide (l.tenantId = tenantId)).length
    < P.limits.maxRegisteredLeasesPerTenant

instance (P : Profile) (db : Ledger) (t : String) : Decidable (db.leaseQuotaFree P t) :=
  inferInstanceAs (Decidable (_ < _))

/-- What `register_lease` asks of a fresh lease. -/
def Registrable (db : Ledger) (t c : String) (position : CollectorPosition) : Prop :=
  ¬db.taken t c position.epoch position.sequence
    ∧ (1 < position.epoch ∧ position.sequence = 1 →
      ∃ h ∈ collectorEnd (db.tenantAdmissions t) c, position.binds h)

theorem insertLease_ok {row : LeaseRow} (hdigest : ∀ l ∈ db.leases, l.leaseDigest ≠ row.leaseDigest)
    (hnonce : ∀ l ∈ db.leases, l.nonceDigest ≠ row.nonceDigest)
    (hjob : ∀ l ∈ db.leases, ¬(l.tenantId = row.tenantId ∧ l.jobId = row.jobId))
    (hcoordinate : ∀ l ∈ db.leases, ¬(l.tenantId = row.tenantId ∧ l.collectorId = row.collectorId
      ∧ l.epoch = row.epoch ∧ l.sequence = row.sequence)) :
    insertLease db row = .ok { db with leases := db.leases ++ [row] } := by
  unfold insertLease constrain
  rw [require_pos hdigest, ok_bind, require_pos hnonce, ok_bind, require_pos hjob, ok_bind,
    require_pos hcoordinate, ok_bind]
  rfl

/-- The file has room for the lease, before it is written and after. -/
def DatabaseFile.leaseRoom (P : Profile) (file : DatabaseFile) (grant : SignedJobLease) : Prop :=
  file.pageBytes + file.walBytes + (P.grantLength grant + 4096) ≤ P.limits.maxDatabaseBytes
    ∧ file.hasRoom P

instance (P : Profile) (file : DatabaseFile) (grant : SignedJobLease) :
    Decidable (file.leaseRoom P grant) :=
  inferInstanceAs (Decidable (_ ∧ _))

theorem registerLease_fresh (hinv : LedgerInv P db) {grant : SignedJobLease}
    (hfresh : FreshLease P db t c grant) (hquota : db.leaseQuotaFree P t) (file : DatabaseFile) :
    (∃ db', registerLease P file db grant = .ok (db', grant) ∧ (db' = db ∨ file.hasRoom P))
      ↔ Registrable db t c grant.lease.position ∧ file.leaseRoom P grant := by
  obtain ⟨rfl, rfl, hvalid, hsigned, hdigest, hnonce, hjob⟩ := hfresh
  have hrow : db.leaseRow (grant.lease.leaseDigest P) = none := by
    unfold Ledger.leaseRow
    rw [List.find?_eq_none]
    intro l hl
    rw [decide_eq_true_iff]
    exact hdigest l hl
  have huntaken : (∀ l ∈ db.leases, ¬(l.tenantId = grant.lease.tenantId
      ∧ l.collectorId = grant.lease.collectorId ∧ l.epoch = grant.lease.epoch
      ∧ l.sequence = grant.lease.sequence))
      ↔ ¬db.taken grant.lease.tenantId grant.lease.collectorId grant.lease.position.epoch
        grant.lease.position.sequence := by
    constructor
    · rintro hfree ⟨l, hl, hsame⟩
      exact hfree l hl hsame
    · intro hnot l hl hsame
      exact hnot ⟨l, hl, hsame⟩
  unfold registerLease Registrable
  dsimp only
  rw [require_pos hvalid, ok_bind, require_pos hsigned, ok_bind, registeredGrant, hrow, pure_bind]
  constructor
  · rintro ⟨db', h, hwritten⟩
    simp only [admitLease, checkDatabaseCapacity, Bool.false_eq_true, if_false, bind_eq_ok,
      require_eq_ok, exists_const, pure_eq_ok, Prod.mk.injEq] at h
    obtain ⟨_, ⟨_, _, hcoordinate, _, hhead⟩, hcapacity, _, hinsert, rfl, _⟩ := h
    rw [insertLease_ok hdigest hnonce hjob hcoordinate] at hinsert
    have hroom : file.hasRoom P := hwritten.resolve_left fun hsame => by
      have hleases := congrArg (List.length ∘ Ledger.leases) (Except.ok.inj hinsert |>.trans hsame)
      simp at hleases
    refine ⟨⟨huntaken.mp hcoordinate, fun htransition => ?_⟩, hcapacity, hroom⟩
    change 1 < grant.lease.epoch ∧ grant.lease.sequence = 1 at htransition
    rw [if_pos htransition] at hhead
    simp only [bind_eq_ok, require_eq_ok] at hhead
    obtain ⟨head, hverified, hbinds⟩ := hhead
    rw [← verifyCollectorHead_eq hinv.heads hverified]
    exact hbinds
  · rintro ⟨⟨hcoordinate, hhead⟩, hcapacity, hroom⟩
    have hfree := huntaken.mpr hcoordinate
    have hadmit : admitLease P db grant.lease = .ok () := by
      unfold admitLease
      dsimp only
      rw [require_pos hnonce, ok_bind, require_pos hjob, ok_bind, require_pos hfree, ok_bind,
        require_pos (show _ < _ from hquota), ok_bind]
      by_cases htransition : 1 < grant.lease.epoch ∧ grant.lease.sequence = 1
      · rw [if_pos htransition, verifyCollectorHead_ok hinv, ok_bind, require_pos (hhead htransition)]
      · rw [if_neg htransition]
        rfl
    refine ⟨{ db with leases := db.leases ++ [{
      toLeaseColumns := grant.lease.columns P
      grant
      consumedEnvelopeDigest := none
      consumedReceiptDigest := none }] }, ?_, .inr hroom⟩
    rw [if_neg (by decide), hadmit, ok_bind, checkDatabaseCapacity, require_pos hcapacity, ok_bind,
      insertLease_ok hdigest hnonce hjob hfree]
    rfl

/-! ## The ways on -/

theorem outstanding_some {p : PreparationRow} (h : db.outstanding t c = some p) :
    p ∈ db.preparations ∧ p.tenantId = t ∧ p.collectorId = c := by
  have hfound := List.find?_some h
  rw [decide_eq_true_iff] at hfound
  exact ⟨List.mem_of_find?_eq_some h, hfound⟩

theorem outstanding_none (h : db.outstanding t c = none) :
    ∀ p ∈ db.preparations, ¬(p.tenantId = t ∧ p.collectorId = c) := by
  intro p hp
  have hnot := List.find?_eq_none.mp h p hp
  rwa [decide_eq_true_iff] at hnot

/-- A reservation's coordinate, which follows the collector's head. -/
theorem LedgerInv.reserved_position (hinv : LedgerInv P db) {p : PreparationRow}
    (hp : p ∈ db.preparations) :
    1 ≤ p.epoch ∧ 1 ≤ p.sequence ∧ ∀ e n d,
      collectorEnd (db.tenantAdmissions p.tenantId) p.collectorId = some (e, n, d) →
      ¬(e = p.epoch ∧ n = p.sequence) := by
  have hsound := hinv.preparations.sound p hp
  obtain ⟨_, _, _, hev, _⟩ := hsound.lease
  have hnext := (hinv.preparations.next p hp).collector
  have hcolumns := hsound.columns
  have hepoch : p.epoch = p.receiptBody.epoch := congrArg PreparationColumns.epoch hcolumns
  have hsequence : p.sequence = p.receiptBody.sequence :=
    congrArg PreparationColumns.sequence hcolumns
  have hcollector : p.collectorId = p.receiptBody.collectorId :=
    congrArg PreparationColumns.collectorId hcolumns
  refine ⟨?_, ?_, ?_⟩
  · rw [hepoch]
    exact hev.valid.2.1
  · rw [hsequence]
    exact hev.valid.2.2.1
  · intro e n d hend ⟨he, hn⟩
    rw [hcollector] at hend
    rw [hend] at hnext
    have hsame : p.receiptBody.position.epoch = e := by rw [he, hepoch]; rfl
    have hlast : p.receiptBody.position.sequence = n + 1 := by
      simpa [collectorValid, hsame] using hnext
    have hposition : p.receiptBody.position.sequence = p.sequence := hsequence.symm
    omega

theorem LedgerInv.head_position (hinv : LedgerInv P db) {e n : Nat} {d : Digest}
    (hend : collectorEnd (db.tenantAdmissions t) c = some (e, n, d)) : 1 ≤ e ∧ 1 ≤ n := by
  unfold collectorEnd at hend
  rw [Option.map_eq_some_iff] at hend
  obtain ⟨a, hlast, ha⟩ := hend
  have hmem := (mem_tenantAdmissions.mp (List.mem_of_mem_filter (List.mem_of_getLast? hlast))).1
  have hsound := hinv.receipts.sound a hmem
  obtain ⟨_, _, _, hev, _⟩ := hsound.lease
  have hepoch : a.epoch = a.receipt.body.epoch := congrArg AdmissionColumns.epoch hsound.columns
  have hsequence : a.sequence = a.receipt.body.sequence :=
    congrArg AdmissionColumns.sequence hsound.columns
  simp only [Prod.mk.injEq] at ha
  rw [← ha.1, ← ha.2.1, hepoch, hsequence]
  exact ⟨hev.valid.2.1, hev.valid.2.2.1⟩

/-- Nothing is bound within an epoch. -/
theorem transitionCoherent_within {e n : Nat} (h : e = 1 ∨ n ≠ 1) :
    transitionCoherent e n none none none := by
  unfold transitionCoherent
  rw [if_pos h]
  exact ⟨rfl, rfl, rfl⟩

/-- A way on that is not taken: leases for it are accepted, and it is the next
position when nothing of the collector is reserved. -/
theorem open_way (hinv : LedgerInv P db) (hopen : ¬db.blocked t c) :
    ∃ position, position.coherent ∧ Registrable db t c position
      ∧ Expects (collectorValid · position) db t c := by
  unfold Ledger.blocked Ledger.waysOn at hopen
  rw [collectorHead_eq hinv.heads] at hopen
  cases hout : db.outstanding t c with
  | some p =>
    obtain ⟨hp, ht, hc⟩ := outstanding_some hout
    obtain ⟨he, hn, _⟩ := hinv.reserved_position hp
    simp only [hout, List.mem_singleton, forall_eq] at hopen
    refine ⟨⟨p.epoch, p.sequence + 1, none, none, none⟩, ⟨he, by simp, ?_⟩, ⟨hopen, ?_⟩,
      Or.inr ⟨p, hp, ht, hc, fun d => ?_⟩⟩
    · have hlater : p.sequence + 1 ≠ 1 := by omega
      exact transitionCoherent_within (Or.inr hlater)
    · rintro ⟨_, hfirst⟩
      simp only at hfirst
      omega
    · simp [collectorValid]
  | none =>
    have hfree := outstanding_none hout
    cases hend : collectorEnd (db.tenantAdmissions t) c with
    | none =>
      simp only [hout, hend, Option.map_none, List.mem_singleton, forall_eq] at hopen
      refine ⟨⟨1, 1, none, none, none⟩, ⟨le_refl 1, le_refl 1, transitionCoherent_within (Or.inl rfl)⟩,
        ⟨hopen, fun h => absurd h.1 (lt_irrefl 1)⟩, Or.inl ⟨hfree, ?_⟩⟩
      rw [hend]
      exact ⟨rfl, rfl⟩
    | some head =>
      obtain ⟨e, n, d⟩ := head
      obtain ⟨he, hn⟩ := hinv.head_position hend
      simp only [hout, hend, Option.map_some, List.mem_cons, List.not_mem_nil, or_false,
        forall_eq_or_imp, forall_eq] at hopen
      by_cases hsame : db.taken t c e (n + 1)
      · -- the next epoch is left, bound to the head
        have hnext : ¬db.taken t c (e + 1) 1 := fun h => hopen ⟨hsame, h⟩
        refine ⟨⟨e + 1, 1, some e, some n, some d⟩, ⟨by simp, le_refl 1, ?_⟩,
          ⟨hnext, fun _ => ⟨_, hend, rfl, rfl, rfl⟩⟩, Or.inl ⟨hfree, ?_⟩⟩
        · have hlater : ¬(e + 1 = 1 ∨ 1 ≠ 1) := by omega
          unfold transitionCoherent
          rw [if_neg hlater]
          exact ⟨rfl, Option.some_ne_none n, Option.some_ne_none d⟩
        · rw [hend]
          simp [collectorValid, CollectorPosition.binds]
      · refine ⟨⟨e, n + 1, none, none, none⟩, ⟨he, by simp, ?_⟩, ⟨hsame, ?_⟩,
          Or.inl ⟨hfree, ?_⟩⟩
        · have hlater : n + 1 ≠ 1 := by omega
          exact transitionCoherent_within (Or.inr hlater)
        · rintro ⟨_, hfirst⟩
          simp only at hfirst
          omega
        · rw [hend]
          simp [collectorValid]

/-- When all ways on are taken, whatever can be registered is not next. -/
theorem no_way (hinv : LedgerInv P db) (hblocked : db.blocked t c) {position : CollectorPosition}
    (hregistrable : Registrable db t c position) :
    Expects (fun head => ¬collectorValid head position) db t c := by
  obtain ⟨huntaken, htransition⟩ := hregistrable
  unfold Ledger.blocked Ledger.waysOn at hblocked
  rw [collectorHead_eq hinv.heads] at hblocked
  cases hout : db.outstanding t c with
  | some p =>
    obtain ⟨hp, ht, hc⟩ := outstanding_some hout
    obtain ⟨he, hn, hfollows⟩ := hinv.reserved_position hp
    rw [ht, hc] at hfollows
    simp only [hout, List.mem_singleton, forall_eq] at hblocked
    refine Or.inr ⟨p, hp, ht, hc, fun d hvalid => ?_⟩
    simp only [collectorValid] at hvalid
    split at hvalid
    next hepoch =>
      rw [hepoch, hvalid] at huntaken
      exact huntaken hblocked
    next =>
      split at hvalid
      next hepoch =>
        -- it would have to bind the reserved receipt, which is no head yet
        obtain ⟨hsequence, hprevious, hfinal, _⟩ := hvalid
        obtain ⟨h, hend, hprevious', hfinal', _⟩ := htransition ⟨by omega, hsequence⟩
        rw [hprevious] at hprevious'
        rw [hfinal] at hfinal'
        obtain ⟨e, n, d'⟩ := h
        exact hfollows e n d' hend ⟨(Option.some.inj hprevious').symm, (Option.some.inj hfinal').symm⟩
      next => exact hvalid
  | none =>
    refine Or.inl ⟨outstanding_none hout, fun hvalid => ?_⟩
    cases hend : collectorEnd (db.tenantAdmissions t) c with
    | none =>
      simp only [hout, hend, Option.map_none, List.mem_singleton, forall_eq] at hblocked
      rw [hend] at hvalid
      obtain ⟨hepoch, hsequence⟩ := hvalid
      rw [hepoch, hsequence] at huntaken
      exact huntaken hblocked
    | some head =>
      simp only [hout, hend, Option.map_some, List.mem_cons, List.not_mem_nil, or_false,
        forall_eq_or_imp, forall_eq] at hblocked
      rw [hend] at hvalid
      simp only [collectorValid] at hvalid
      split at hvalid
      next hepoch =>
        rw [hepoch, hvalid] at huntaken
        exact huntaken hblocked.1
      next =>
        split at hvalid
        next hepoch =>
          rw [hepoch, hvalid.1] at huntaken
          exact huntaken hblocked.2
        next => exact hvalid

/-! ## Fresh leases over a run -/

section

variable {events : List (LedgerEvent P)} {grant : SignedJobLease}

/-- The transaction answers what `registerLease` does, if what it writes fits. -/
theorem transact_register {w : World} (hw : WorldInv P w) (service : Nat) (grant : SignedJobLease) :
    (w.transact P service (.register grant)).1 = .ok grant
      ↔ ∃ db', registerLease P w.file w.ledger grant = .ok (db', grant)
        ∧ (db' = w.ledger ∨ w.file.hasRoom P) := by
  obtain ⟨heads, hheads, _⟩ := hw.currentHeads service
  unfold World.transact
  rw [hheads]
  dsimp only
  split
  next e hrun =>
    constructor
    · intro h
      cases h
    · intro ⟨db', hok, _⟩
      cases hrun.symm.trans hok
  next db' answer hrun =>
    split
    next hwrites =>
      constructor
      · intro h
        cases h
        exact ⟨db', hrun, hwrites⟩
      · intro ⟨db'', hok, _⟩
        cases hrun.symm.trans hok
        rfl
    next hfull =>
      constructor
      · intro h
        cases h
      · intro ⟨db'', hok, hwrites⟩
        cases hrun.symm.trans hok
        exact absurd hwrites hfull

/-- Registering reserves and admits nothing. -/
theorem register_frame {w : World} (hw : WorldInv P w) (service : Nat) (grant : SignedJobLease) :
    (w.next P (.called service (.register grant))).ledger.preparations = w.ledger.preparations
      ∧ (w.next P (.called service (.register grant))).ledger.admissions
        = w.ledger.admissions := by
  show ((w.transact P service (.register grant)).2).ledger.preparations = _
    ∧ ((w.transact P service (.register grant)).2).ledger.admissions = _
  obtain ⟨_, _, _, ⟨db', answer, hrun, heq⟩ | ⟨e, _, heq⟩⟩ :=
    transact_cases hw service (.register grant)
  · rw [heq]
    obtain ⟨_, rfl | ⟨row, hrow, _⟩⟩ := registerLease_step hrun
    · exact ⟨rfl, rfl⟩
    · rw [hrow.result]
      exact ⟨rfl, rfl⟩
  · rw [heq]
    exact ⟨rfl, rfl⟩

theorem accepts_iff (hfresh : FreshLease P (worldAfter P events).ledger t c grant)
    (hquota : (worldAfter P events).ledger.leaseQuotaFree P t) (service : Nat) :
    ((worldAfter P events).transact P service (.register grant)).1 = .ok grant
      ↔ Registrable (worldAfter P events).ledger t c grant.lease.position
        ∧ (worldAfter P events).file.leaseRoom P grant := by
  have hw := worldAfter_inv events
  rw [transact_register hw, registerLease_fresh hw.ledger hfresh hquota]

/-- What is expected when the grant is presented is what the order check finds. -/
theorem whenQuiet_of_expects {Q : Option (Nat × Nat × Digest) → Prop}
    {verdict : Ledger → CollectionStatement → Prop}
    (h : Expects Q (worldAfter P events).ledger grant.lease.tenantId grant.lease.collectorId)
    (hverdict : ∀ db statement, LedgerInv P db → statement.matchesLease P grant.lease →
      Q (collectorEnd (db.tenantAdmissions statement.tenantId) statement.collectorId) →
      verdict db statement) : WhenQuiet P events grant verdict := by
  intro service more hnone hquiet statement hmatch
  have hw := worldAfter_inv events
  have hregistered : NoneReserved P grant.lease.tenantId grant.lease.collectorId
      (worldAfter P events) (.called service (.register grant) :: more) := by
    refine ⟨fun p hp _ _ => ?_, hnone⟩
    rw [(register_frame hw service grant).1] at hp
    exact hp
  have hexpects := expects_run _ _ hw hregistered h
  have hlater : ledgerAfter P events service grant more
      = (worldAfter P (events ++ .called service (.register grant) :: more)).ledger := by
    unfold ledgerAfter worldAfter
    rw [List.foldl_append]
    rfl
  have hinv : LedgerInv P (ledgerAfter P events service grant more) := by
    rw [hlater]
    exact (worldAfter_inv _).ledger
  refine hverdict _ statement hinv hmatch ?_
  have htenant : statement.tenantId = grant.lease.tenantId :=
    congrArg LeaseTerms.tenantId hmatch.2
  have hcollector : statement.collectorId = grant.lease.collectorId :=
    congrArg LeaseTerms.collectorId hmatch.2
  rw [htenant, hcollector]
  exact hexpects.quiet hquiet.1

theorem matches_position {statement : CollectionStatement}
    (hmatch : statement.matchesLease P grant.lease) :
    statement.position = grant.lease.position :=
  congrArg LeaseTerms.position hmatch.2

theorem open_usable (hquota : (worldAfter P events).ledger.leaseQuotaFree P t)
    (hopen : ¬(worldAfter P events).ledger.blocked t c) :
    ∃ position : CollectorPosition, position.coherent ∧ ∀ grant,
      FreshLease P (worldAfter P events).ledger t c grant →
      (worldAfter P events).file.leaseRoom P grant →
      grant.lease.position = position → Usable P events grant := by
  obtain ⟨position, hcoherent, hregistrable, hexpects⟩ :=
    open_way (worldAfter_inv events).ledger hopen
  refine ⟨position, hcoherent, fun grant hfresh hroom hposition => ⟨fun service => ?_, ?_⟩⟩
  · rw [accepts_iff hfresh hquota, hposition]
    exact ⟨hregistrable, hroom⟩
  · rw [← hfresh.tenant, ← hfresh.collector] at hexpects
    refine whenQuiet_of_expects hexpects fun db statement hinv hmatch hvalid => ?_
    rw [passesOrder_iff hinv, matches_position hmatch, hposition]
    exact hvalid

theorem blocked_useless (hquota : (worldAfter P events).ledger.leaseQuotaFree P t)
    (hblocked : (worldAfter P events).ledger.blocked t c)
    (hfresh : FreshLease P (worldAfter P events).ledger t c grant) : Useless P events grant := by
  by_cases hregistrable : Registrable (worldAfter P events).ledger t c grant.lease.position
  · right
    have hexpects := no_way (worldAfter_inv events).ledger hblocked hregistrable
    rw [← hfresh.tenant, ← hfresh.collector] at hexpects
    refine whenQuiet_of_expects hexpects fun db statement hinv hmatch hvalid => ?_
    rw [passesOrder_iff hinv, matches_position hmatch]
    exact hvalid
  · left
    intro service
    rw [ne_eq, accepts_iff hfresh hquota]
    exact fun h => hregistrable h.1

/-- In a quiet ledger a lease cannot be both. -/
theorem Useless.not_usable (h : Useless P events grant)
    (hquiet : (worldAfter P events).ledger.quiet grant.lease.tenantId) :
    ¬Usable P events grant := by
  intro ⟨haccepts, hpasses⟩
  rcases h with hrefused | hnever
  · exact hrefused 0 (haccepts 0)
  · have hw := worldAfter_inv events
    have hafter : (ledgerAfter P events 0 grant []).quiet grant.lease.tenantId := by
      obtain ⟨hpreparations, hadmissions⟩ := register_frame hw 0 grant
      unfold Ledger.quiet Ledger.pendingReceipt ledgerAfter
      rw [List.foldl_nil, hpreparations, hadmissions]
      exact hquiet
    have hmatch : CollectionStatement.matchesLease P
        ⟨grant.lease.toLeaseTerms, grant.lease.leaseDigest P, 0⟩ grant.lease := ⟨rfl, rfl⟩
    exact hnever 0 [] trivial hafter _ hmatch (hpasses 0 [] trivial hafter _ hmatch)

/-- **What unused leases leave to a collector.** After any run, for a tenant with
lease quota left: while one of the ways on is not registered there is a position
all of whose fresh leases the file has room for can be used, and when all are
registered no fresh lease can be. -/
theorem fresh_leases_usable (events : List (LedgerEvent P)) (tenantId collectorId : String)
    (hquota : (worldAfter P events).ledger.leaseQuotaFree P tenantId) :
    (¬(worldAfter P events).ledger.blocked tenantId collectorId →
      ∃ position : CollectorPosition, position.coherent ∧ ∀ grant,
        FreshLease P (worldAfter P events).ledger tenantId collectorId grant →
        (worldAfter P events).file.leaseRoom P grant →
        grant.lease.position = position → Usable P events grant)
    ∧ ((worldAfter P events).ledger.blocked tenantId collectorId → ∀ grant,
        FreshLease P (worldAfter P events).ledger tenantId collectorId grant →
        Useless P events grant) :=
  ⟨open_usable hquota, fun hblocked _ => blocked_useless hquota hblocked⟩

end

/-! The example's service, with a digest that tells leases apart. -/

def unusedDigest : Document → Digest
  | .lease l => l.jobNonce + 6000
  | d => exampleDigest d

def unusedStatement : CollectionStatement :=
  { exampleStatement with leaseDigest := unusedDigest (.lease exampleLease.lease) }

def unusedProfile : Profile :=
  { exampleProfile with
    sha := unusedDigest
    parseStatement := fun bytes => if bytes = [1] then some unusedStatement else none }

def unusedInputs : AdmissionInputs unusedProfile :=
  { statement := unusedStatement
    envelopeBytes := [1]
    policyBytes := [2]
    snapshotBytes := [3]
    custodyReference := "custody:1"
    bounded := by decide
    parsed := by decide
    configured := by decide
    policy := by decide
    policyDigest := by decide
    snapshot := by decide }

/-- The lease at `(1, 1)` is registered, and its receipt reserved. -/
def reservedRun : List (LedgerEvent unusedProfile) :=
  [.called 0 (.register exampleLease), .called 0 (.prepare unusedInputs none 200)]

/-- The next sequence can be registered ahead of the reserved receipt. -/
theorem fresh_leases_reservedRun :
    ((worldAfter unusedProfile reservedRun).ledger.outstanding "tenant-a" "collector-1").isSome
    ∧ ∃ position : CollectorPosition, position.coherent ∧ ∀ grant,
      FreshLease unusedProfile (worldAfter unusedProfile reservedRun).ledger "tenant-a"
        "collector-1" grant →
      (worldAfter unusedProfile reservedRun).file.leaseRoom unusedProfile grant →
      grant.lease.position = position → Usable unusedProfile reservedRun grant :=
  ⟨by decide +kernel, (fresh_leases_usable reservedRun "tenant-a" "collector-1"
    (by decide +kernel)).1 (by decide +kernel)⟩

/-- The lease at `(1, 1)` is registered, and nothing else happens. -/
def unusedRun : List (LedgerEvent unusedProfile) := [.called 0 (.register exampleLease)]

/-- A later lease of the collector. -/
def laterLease : SignedJobLease :=
  { exampleLease with lease := { exampleLease.lease with
    jobId := "job-2"
    jobNonce := 10
    sequence := 2
    issuedAt := 2000
    expiresAt := 3000 } }

/-- One lease that expired unused, and there is no lease the collector could use:
not the registered one, since it has expired, and no fresh one. -/
theorem unused_lease_blocks :
    (worldAfter unusedProfile unusedRun).ledger.leaseQuotaFree unusedProfile "tenant-a"
    ∧ (worldAfter unusedProfile unusedRun).ledger.quiet "tenant-a"
    ∧ FreshLease unusedProfile (worldAfter unusedProfile unusedRun).ledger "tenant-a"
      "collector-1" laterLease
    ∧ (∀ grant, (worldAfter unusedProfile unusedRun).file.leaseRoom unusedProfile grant)
    ∧ (∀ grant, FreshLease unusedProfile (worldAfter unusedProfile unusedRun).ledger "tenant-a"
      "collector-1" grant → ¬Usable unusedProfile unusedRun grant)
    ∧ ∀ file heads (inputs : AdmissionInputs unusedProfile) original now r,
      inputs.statement.matchesLease unusedProfile exampleLease.lease → 1000 ≤ now →
      prepareAdmission unusedProfile file heads (worldAfter unusedProfile unusedRun).ledger inputs
        original now ≠ .ok r := by
  have hworld : (worldAfter unusedProfile unusedRun).ledger.leaseQuotaFree unusedProfile "tenant-a"
      ∧ (worldAfter unusedProfile unusedRun).ledger.preparations = []
      ∧ (worldAfter unusedProfile unusedRun).ledger.admissions = []
      ∧ (worldAfter unusedProfile unusedRun).ledger.blocked "tenant-a" "collector-1"
      ∧ (worldAfter unusedProfile unusedRun).file.hasRoom unusedProfile
      ∧ ∃ l ∈ (worldAfter unusedProfile unusedRun).ledger.leases,
        l.grant = exampleLease ∧ l.consumedEnvelopeDigest = none := by
    decide +kernel
  obtain ⟨hquota, hpreparations, hadmissions, hblocked, hroom, l, hl, hgrant, hunused⟩ := hworld
  have hquiet : (worldAfter unusedProfile unusedRun).ledger.quiet "tenant-a" := by
    unfold Ledger.quiet Ledger.pendingReceipt
    rw [hpreparations, hadmissions]
    simp
  refine ⟨hquota, hquiet, ?_, fun _ => ⟨?_, hroom⟩, ?_, ?_⟩
  · exact ⟨rfl, rfl, by decide +kernel, by decide +kernel, by decide +kernel, by decide +kernel,
      by decide +kernel⟩
  · show _ + (512 + 4096) ≤ 1073741824
    decide +kernel
  · intro grant hfresh
    refine (blocked_useless hquota hblocked hfresh).not_usable ?_
    rw [hfresh.tenant]
    exact hquiet
  · intro file heads inputs original now r hmatch hlate
    have hfree : (worldAfter unusedProfile unusedRun).ledger.preparationByLease
        (l.grant.lease.leaseDigest unusedProfile) = none := by
      unfold Ledger.preparationByLease
      rw [hpreparations]
      rfl
    refine prepareAdmission_expired (worldAfter_inv unusedRun).ledger hl hunused hfree ?_ ?_ r
    · rw [hgrant]
      exact hmatch
    · rw [hgrant]
      exact hlate

end ControlAssurance.Admission
