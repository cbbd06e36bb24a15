import ControlAssurance.Admission.Invariant

/-!
# In a ledger that satisfies the invariant every read succeeds

The verification functions answer what the tables say, with no rejection:
grants, receipts, preparations and acknowledgements (`*_ok`), and the heads of
tenants, collectors and policies.
-/

namespace ControlAssurance.Admission

open Lib

variable {P : Profile} {db : Ledger}

/-! ## Leases and policies -/

theorem verifyGrantRow_eq_ok {row : LeaseRow} {grant : SignedJobLease} :
    verifyGrantRow P row = .ok grant ↔ SoundLease P row ∧ row.grant = grant := by
  simp only [verifyGrantRow, bind_eq_ok, require_eq_ok, pure_eq_ok, exists_const]
  constructor
  · rintro ⟨hvalid, ⟨hsigned, hauth⟩, hcols, rfl⟩
    exact ⟨⟨hvalid, hsigned, hauth, hcols⟩, rfl⟩
  · rintro ⟨h, rfl⟩
    exact ⟨h.valid, ⟨h.signed, h.authority⟩, h.columns, rfl⟩

theorem leaseRow_of_mem (h : LeasesInv P db) {l : LeaseRow} (hl : l ∈ db.leases) :
    db.leaseRow l.leaseDigest = some l :=
  find?_key h.digests hl

theorem policyVersion_of_mem (h : PoliciesInv db) {v : PolicyVersion}
    (hv : v ∈ db.policyVersions) : db.policyVersion v.policyId v.policyRevision = some v := by
  refine find?_eq_of_unique hv (by simp) ?_
  intro x hx hp
  simp only [decide_eq_true_eq] at hp
  exact List.inj_on_of_nodup_map h.versions hx hv (Prod.ext hp.1 hp.2)

/-- A newest pair of a list. -/
theorem newest_le {l : List (Nat × Digest)} {m : Nat × Digest}
    (h : firstBy (fun a b : Nat × Digest => decide (b.1 ≤ a.1)) l = some m) :
    m ∈ l ∧ ∀ x ∈ l, x.1 ≤ m.1 := by
  refine ⟨firstBy_mem h, fun x hx => ?_⟩
  have hle := firstBy_le (fun a b => by simpa using Nat.le_total b.1 a.1)
    (fun a b c h₁ h₂ => by
      simp only [decide_eq_true_eq] at h₁ h₂ ⊢
      exact Nat.le_trans h₂ h₁) h x hx
  simpa using hle

variable {d : Digest} {r : Nat} {policyId t : String} {a : AdmissionRow}

theorem mem_versionPairs :
    (r, d) ∈ (db.policyVersions.filter fun v => decide (v.policyId = policyId)).map
        (fun v => (v.policyRevision, v.policyDigest))
      ↔ ⟨policyId, r, d⟩ ∈ db.policyVersions := by
  simp only [List.mem_map, List.mem_filter, decide_eq_true_eq, Prod.mk.injEq]
  constructor
  · rintro ⟨v, ⟨hv, rfl⟩, rfl, rfl⟩
    exact hv
  · intro hv
    exact ⟨_, ⟨hv, rfl⟩, rfl, rfl⟩

theorem mem_usedPairs : (r, d) ∈ (db.admissions.filter fun a => decide (a.policyId = policyId)).map
          (fun a => (a.policyRevision, a.policyDigest))
        ++ (db.preparations.filter fun p => decide (p.policyId = policyId)).map
          (fun p => (p.policyRevision, p.policyDigest))
      ↔ ⟨policyId, r, d⟩ ∈ db.policiesUsed := by
  simp only [Ledger.policiesUsed, List.mem_append, List.mem_map, List.mem_filter,
    decide_eq_true_eq, Prod.mk.injEq, AdmissionColumns.policy, PreparationColumns.policy,
    PolicyVersion.mk.injEq]
  constructor
  · rintro (⟨a, ⟨ha, h₁⟩, h₂, h₃⟩ | ⟨p, ⟨hp, h₁⟩, h₂, h₃⟩)
    · exact Or.inl ⟨a, ha, h₁, h₂, h₃⟩
    · exact Or.inr ⟨p, hp, h₁, h₂, h₃⟩
  · rintro (⟨a, ha, h₁, h₂, h₃⟩ | ⟨p, hp, h₁, h₂, h₃⟩)
    · exact Or.inl ⟨a, ⟨ha, h₁⟩, h₂, h₃⟩
    · exact Or.inr ⟨p, ⟨hp, h₁⟩, h₂, h₃⟩

theorem policyHead_eq_some (h : PoliciesInv db) (hv : ⟨policyId, r, d⟩ ∈ db.policyVersions)
    (hmax : ∀ v ∈ db.policyVersions, v.policyId = policyId → v.policyRevision ≤ r) :
    db.policyHead policyId = some ⟨policyId, r, d⟩ := by
  refine find?_eq_of_unique ((h.heads _).mpr ⟨hv, hmax⟩) (by simp) ?_
  intro x hx hp
  obtain ⟨hxv, hxmax⟩ := (h.heads x).mp hx
  have hxid : x.policyId = policyId := by simpa using hp
  have hle := hmax _ hxv hxid
  have hge := hxmax _ hv hxid.symm
  have hrev : x.currentRevision = r := Nat.le_antisymm hle hge
  have heq := List.inj_on_of_nodup_map h.versions hxv hv (Prod.ext hxid hrev)
  obtain ⟨xid, xr, xd⟩ := x
  simp only [PolicyVersion.mk.injEq] at heq
  obtain ⟨rfl, rfl, rfl⟩ := heq
  rfl

/-- The head of a policy is read without complaint, and is its newest version. -/
theorem verifyPolicyHead_ok (h : PoliciesInv db) (policyId : String) :
    (verifyPolicyHead db policyId = .ok none
        ∧ ∀ v ∈ db.policyVersions, v.policyId ≠ policyId)
      ∨ ∃ r d, verifyPolicyHead db policyId = .ok (some (r, d))
        ∧ ⟨policyId, r, d⟩ ∈ db.policyVersions
        ∧ ∀ v ∈ db.policyVersions, v.policyId = policyId → v.policyRevision ≤ r := by
  unfold verifyPolicyHead
  dsimp only
  cases hl : firstBy (fun a b : Nat × Digest => decide (b.1 ≤ a.1))
      ((db.policyVersions.filter fun v => decide (v.policyId = policyId)).map
        fun v => (v.policyRevision, v.policyDigest)) with
  | none =>
    -- no version, so no head and no use
    have hnil := firstBy_eq_none.mp hl
    have hno : ∀ v ∈ db.policyVersions, v.policyId ≠ policyId := by
      intro v hv hid
      have hmem : (v.policyRevision, v.policyDigest) ∈
          (db.policyVersions.filter fun v => decide (v.policyId = policyId)).map
            (fun v => (v.policyRevision, v.policyDigest)) :=
        mem_versionPairs.mpr (hid ▸ hv)
      rw [hnil] at hmem
      cases hmem
    have hused : firstBy (fun a b : Nat × Digest => decide (b.1 ≤ a.1))
        ((db.admissions.filter fun a => decide (a.policyId = policyId)).map
            (fun a => (a.policyRevision, a.policyDigest))
          ++ (db.preparations.filter fun p => decide (p.policyId = policyId)).map
            fun p => (p.policyRevision, p.policyDigest)) = none := by
      cases hu : firstBy (fun a b : Nat × Digest => decide (b.1 ≤ a.1)) _ with
      | none => rfl
      | some m =>
        have hv := (h.used _).mpr (mem_usedPairs.mp (newest_le hu).1)
        exact absurd rfl (hno _ hv)
    have hhead : db.policyHead policyId = none := by
      cases hh : db.policyHead policyId with
      | none => rfl
      | some x =>
        have hx := (h.heads x).mp (List.mem_of_find?_eq_some hh)
        have hid : x.policyId = policyId := by simpa using List.find?_some hh
        exact absurd hid (hno _ hx.1)
    left
    rw [hused, hhead]
    exact ⟨rfl, hno⟩
  | some latest =>
    obtain ⟨r, d⟩ := latest
    obtain ⟨hmem, hle⟩ := newest_le hl
    have hv : ⟨policyId, r, d⟩ ∈ db.policyVersions := mem_versionPairs.mp hmem
    have hmax : ∀ v ∈ db.policyVersions, v.policyId = policyId → v.policyRevision ≤ r := by
      intro v hv hid
      exact hle (v.policyRevision, v.policyDigest) (mem_versionPairs.mpr (hid ▸ hv))
    have hused : firstBy (fun a b : Nat × Digest => decide (b.1 ≤ a.1))
        ((db.admissions.filter fun a => decide (a.policyId = policyId)).map
            (fun a => (a.policyRevision, a.policyDigest))
          ++ (db.preparations.filter fun p => decide (p.policyId = policyId)).map
            fun p => (p.policyRevision, p.policyDigest)) = some (r, d) := by
      cases hu : firstBy (fun a b : Nat × Digest => decide (b.1 ≤ a.1)) _ with
      | none =>
        have hnil := firstBy_eq_none.mp hu
        have hin := mem_usedPairs.mpr ((h.used _).mp hv)
        rw [hnil] at hin
        cases hin
      | some m =>
        obtain ⟨hm, hmle⟩ := newest_le hu
        have hmv := (h.used _).mpr (mem_usedPairs.mp hm)
        have hrm : r ≤ m.1 := hmle (r, d) (mem_usedPairs.mpr ((h.used _).mp hv))
        have hmr : m.1 ≤ r := hmax _ hmv rfl
        have heq := List.inj_on_of_nodup_map h.versions hmv hv
          (Prod.ext rfl (Nat.le_antisymm hmr hrm))
        simp only [PolicyVersion.mk.injEq, true_and] at heq
        rw [← heq.1, ← heq.2]
    right
    refine ⟨r, d, ?_, hv, hmax⟩
    rw [hused, policyHead_eq_some h hv hmax]
    simp [Lib.require]

theorem policyVersion_ok (h : PoliciesInv db) (hused : ⟨policyId, r, d⟩ ∈ db.policiesUsed) :
    (db.policyVersion policyId r).map (·.policyDigest) = some d
      ∧ ∃ head, verifyPolicyHead db policyId = .ok (some head) ∧ r ≤ head.1 := by
  have hv := (h.used _).mpr hused
  have hfind : db.policyVersion policyId r = some ⟨policyId, r, d⟩ :=
    policyVersion_of_mem h hv
  refine ⟨by rw [hfind]; rfl, ?_⟩
  rcases verifyPolicyHead_ok h policyId with ⟨_, hno⟩ | ⟨r', d', hok, _, hmax⟩
  · exact absurd rfl (hno _ hv)
  · exact ⟨(r', d'), hok, hmax _ hv rfl⟩

/-! ## Receipts -/

theorem receipt_policy_used (h : ReceiptsInv P db) (ha : a ∈ db.admissions) :
    ⟨a.receipt.body.trustPolicyId, a.receipt.body.trustPolicyRevision,
      a.receipt.body.trustPolicyDigest⟩ ∈ db.policiesUsed := by
  have hcols : a.toAdmissionColumns.policy = (a.receipt.columns P).policy := by
    rw [(h.sound a ha).columns]
  refine List.mem_append_left _ (List.mem_map.mpr ⟨a, ha, ?_⟩)
  rw [hcols]
  rfl

theorem verifyReceiptRow_ok (hl : LeasesInv P db) (hr : ReceiptsInv P db)
    (hp : PoliciesInv db) (ha : a ∈ db.admissions) :
    verifyReceiptRow P db a = .ok a.receipt := by
  have hsound := hr.sound a ha
  obtain ⟨l, hmem, hdig, hev, henv, hrec⟩ := hsound.lease
  obtain ⟨statement, hparse, hbound⟩ := hev.bound
  obtain ⟨hversion, head, hhead, hle⟩ := policyVersion_ok hp (receipt_policy_used hr ha)
  have hrow : db.leaseRow a.leaseDigest = some l := hdig ▸ leaseRow_of_mem hl hmem
  have henvelope : a.envelopeDigest = a.receipt.body.envelopeDigest :=
    congrArg AdmissionColumns.envelopeDigest hsound.columns
  simp only [verifyReceiptRow, bind_eq_ok, require_eq_ok, expect_eq_ok, pure_eq_ok,
    exists_const]
  refine ⟨hev.valid, hsound.signed, hsound.receiptDigest.symm, ⟨hsound.columns, hev.digests⟩,
    statement, hparse, _, hev.policy, hev.verified.1, l, hrow, l.grant,
    verifyGrantRow_eq_ok.mpr ⟨hl.sound l hmem, rfl⟩, hversion, some head, hhead,
    ⟨head, rfl, hle⟩, ⟨hbound, ?_, ?_, hev.policyNamed, rfl⟩, hev.fingerprint, trivial⟩
  · rw [henv, henvelope]
  · rw [hrec, hsound.receiptDigest]

/-- The acknowledgement that a row holds. -/
theorem storedAck_ok (hr : SoundReceipt P db a) :
    (a.custodyState = .pending ∧ storedAck P a = .ok none)
      ∨ ∃ ack, a.custodyState = .durable ∧ storedAck P a = .ok (some ack)
        ∧ a.custodyAck = some ack := by
  rcases hr.ack with ⟨hstate, hack, hdig⟩ | ⟨hstate, ack, hsound⟩
  · left
    refine ⟨hstate, ?_⟩
    simp only [storedAck, hstate, bind_eq_ok, require_eq_ok, pure_eq_ok, exists_const]
    exact ⟨⟨hack, hdig⟩, trivial⟩
  · right
    refine ⟨ack, hstate, ?_, hsound.stored⟩
    have hcols := hr.columns
    simp only [storedAck, hstate, hsound.stored, hsound.digest, bind_eq_ok, require_eq_ok,
      pure_eq_ok, exists_const]
    refine ⟨⟨trivial, hsound.signed, ?_⟩, trivial⟩
    rw [hsound.body, hcols]
    exact ⟨rfl, rfl, rfl, rfl, rfl, rfl, rfl⟩

/-! ## Preparations -/

theorem preparation_policy_used (h : PreparationsInv P db) {p : PreparationRow}
    (hp : p ∈ db.preparations) :
    ⟨p.receiptBody.trustPolicyId, p.receiptBody.trustPolicyRevision,
      p.receiptBody.trustPolicyDigest⟩ ∈ db.policiesUsed := by
  have hcols : p.toPreparationColumns.policy = (p.receiptBody.preparationColumns P).policy := by
    rw [(h.sound p hp).columns]
  refine List.mem_append_right _ (List.mem_map.mpr ⟨p, hp, ?_⟩)
  rw [hcols]
  rfl

theorem preparedAdmissionFromRow_ok (hl : LeasesInv P db) (hq : PreparationsInv P db)
    (hp : PoliciesInv db) {p : PreparationRow} (hmem : p ∈ db.preparations) :
    preparedAdmissionFromRow P db p
      = .ok ⟨P.sha (.receiptBody p.receiptBody), p.receiptBody, p.evidence⟩ := by
  have hsound := hq.sound p hmem
  obtain ⟨l, hlmem, hdig, hev, henv, hrec⟩ := hsound.lease
  obtain ⟨statement, hparse, hbound⟩ := hev.bound
  obtain ⟨hversion, _⟩ := policyVersion_ok hp (preparation_policy_used hq hmem)
  have hlease : l.leaseDigest = p.receiptBody.leaseDigest :=
    hdig.trans (congrArg PreparationColumns.leaseDigest hsound.columns)
  have hrow : db.leaseRow p.receiptBody.leaseDigest = some l :=
    hlease ▸ leaseRow_of_mem hl hlmem
  simp only [preparedAdmissionFromRow, bind_eq_ok, require_eq_ok, expect_eq_ok, pure_eq_ok,
    exists_const]
  exact ⟨hev.valid, statement, hparse, _, hev.policy, hev.verified.1, _, hev.snapshot, l, hrow,
    l.grant, verifyGrantRow_eq_ok.mpr ⟨hl.sound l hlmem, rfl⟩,
    ⟨hsound.columns, hev.digests, henv, hrec, hversion, hbound, rfl, rfl, rfl,
      hev.fingerprint⟩, trivial⟩

theorem preparedAdmissionFromRow_eq {row : PreparationRow} {p : PreparedAdmission}
    (h : preparedAdmissionFromRow P db row = .ok p) :
    p = ⟨P.sha (.receiptBody row.receiptBody), row.receiptBody, row.evidence⟩ := by
  simp only [preparedAdmissionFromRow, bind_eq_ok, require_eq_ok, expect_eq_ok, pure_eq_ok,
    exists_const] at h
  obtain ⟨_, _, _, _, _, _, _, _, _, _, _, _, _, rfl⟩ := h
  rfl

/-! ## Ends of chains -/

theorem tenant_pairwise (h : ReceiptsInv P db) (t : String) :
    (db.tenantAdmissions t).Pairwise fun a b => a.receiptSequence < b.receiptSequence := by
  have hnum := chain_numbers (h.linked t)
  have hrange : (List.range' 1 (db.tenantAdmissions t).length).Pairwise (· < ·) :=
    List.pairwise_lt_range'
  rw [← hnum, List.pairwise_map] at hrange
  exact hrange

theorem latestReceipt_eq {rows : List AdmissionRow}
    (h : rows.Pairwise fun a b => a.receiptSequence < b.receiptSequence) :
    latestReceipt rows = rows.getLast? := by
  refine firstBy_eq_getLast? (h.imp ?_)
  intro a b hlt
  simpa using hlt

variable {heads : List TenantHead}

theorem tenantHeadIn_some {h : TenantHead}
    (hh : tenantHeadIn heads t = some h) : h ∈ heads ∧ h.tenantId = t :=
  ⟨List.mem_of_find?_eq_some hh, by simpa using List.find?_some hh⟩

/-- Heads that are exactly the ends of the chains, as rows or as an instance has
validated them. -/
def CurrentHeads (db : Ledger) (heads : List TenantHead) : Prop :=
  ∀ h, h ∈ heads ↔ tenantEnd (db.tenantAdmissions h.tenantId)
    = some (h.lastReceiptSequence, h.lastReceiptDigest)

/-- A tenant's head among such heads is the end of its chain. -/
theorem CurrentHeads.eq (h : CurrentHeads db heads) (t : String) :
    tenantHeadIn heads t
      = (tenantEnd (db.tenantAdmissions t)).map fun e => ⟨t, e.1, e.2⟩ := by
  cases hfind : tenantHeadIn heads t with
  | some x =>
    obtain ⟨hmem, hid⟩ := tenantHeadIn_some hfind
    have hend := (h x).mp hmem
    rw [hid] at hend
    rw [hend, ← hid]
    rfl
  | none =>
    cases hend : tenantEnd (db.tenantAdmissions t) with
    | none => rfl
    | some e =>
      have hmem : (⟨t, e.1, e.2⟩ : TenantHead) ∈ heads := (h _).mpr hend
      exact absurd (decide_eq_true rfl) (List.find?_eq_none.mp hfind _ hmem)

/-- A collector's head is found among heads that are the ends of its tenant's
histories. -/
theorem collectorHead_find {heads : List CollectorHead}
    {last : String → Option (Nat × Nat × Digest)} (h : ∀ x : CollectorHead, x.tenantId = t →
      (x ∈ heads ↔ last x.collectorId = some (x.currentEpoch, x.lastSequence, x.lastReceiptDigest)))
    (c : String) :
    heads.find? (fun x => decide (x.tenantId = t ∧ x.collectorId = c))
      = (last c).map fun e => ⟨t, c, e.1, e.2.1, e.2.2⟩ := by
  cases hfind : heads.find? (fun x => decide (x.tenantId = t ∧ x.collectorId = c)) with
  | some x =>
    have hid : x.tenantId = t ∧ x.collectorId = c := by simpa using List.find?_some hfind
    have hend := (h x hid.1).mp (List.mem_of_find?_eq_some hfind)
    rw [hid.2] at hend
    rw [hend, ← hid.1, ← hid.2]
    rfl
  | none =>
    cases hend : last c with
    | none => rfl
    | some e =>
      have hmem : (⟨t, c, e.1, e.2.1, e.2.2⟩ : CollectorHead) ∈ heads := (h _ rfl).mpr hend
      exact absurd (decide_eq_true ⟨rfl, rfl⟩) (List.find?_eq_none.mp hfind _ hmem)

theorem collectorHead_eq (h : HeadsInv db) (t c : String) :
    db.collectorHead t c = (collectorEnd (db.tenantAdmissions t) c).map
      fun e => ⟨t, c, e.1, e.2.1, e.2.2⟩ := by
  refine collectorHead_find (fun x hx => ?_) c
  rw [h.collectors x, hx]

/-- Whatever `verifyTenantHead` accepts is the end of the chain. -/
theorem verifyTenantHead_eq (h : HeadsInv db)
    {e : Option (Nat × Digest)} (hok : verifyTenantHead P heads db t = .ok e) :
    e = tenantEnd (db.tenantAdmissions t) := by
  unfold verifyTenantHead at hok
  rw [CurrentHeads.eq h.tenants t] at hok
  cases hend : tenantEnd (db.tenantAdmissions t) with
  | none =>
    rw [hend, Option.map_none] at hok
    split at hok
    next =>
      simp only [bind_eq_ok, require_eq_ok, pure_eq_ok, exists_const] at hok
      exact hok.2.symm
    next hsome _ => cases hsome
    next => cases hok
  | some x =>
    rw [hend, Option.map_some] at hok
    split at hok
    next hnone _ => cases hnone
    next head latest hhead _ =>
      cases hhead
      simp only [bind_eq_ok, require_eq_ok, exists_const] at hok
      obtain ⟨receipt, _, hmatch, _, hok⟩ := hok
      -- both branches of the predecessor check end with the same answer
      split at hok
      · simp only [bind_eq_ok, require_eq_ok, pure_eq_ok, exists_const] at hok
        rw [← hok.2, ← hmatch.1, ← hmatch.2]
      · simp only [bind_eq_ok, require_eq_ok, expect_eq_ok, pure_eq_ok, exists_const] at hok
        obtain ⟨_, _, _, _, _, hok⟩ := hok
        rw [← hok, ← hmatch.1, ← hmatch.2]
    next => cases hok

theorem verifyCollectorHead_eq (h : HeadsInv db) {c : String}
    {e : Option (Nat × Nat × Digest)} (hok : verifyCollectorHead P db t c = .ok e) :
    e = collectorEnd (db.tenantAdmissions t) c := by
  unfold verifyCollectorHead at hok
  rw [collectorHead_eq h t c] at hok
  cases hend : collectorEnd (db.tenantAdmissions t) c with
  | none =>
    rw [hend, Option.map_none] at hok
    split at hok
    next =>
      simp only [pure_eq_ok] at hok
      exact hok.symm
    next hsome _ => cases hsome
    next => cases hok
  | some x =>
    rw [hend, Option.map_some] at hok
    split at hok
    next hnone _ => cases hnone
    next head latest hhead _ =>
      cases hhead
      simp only [bind_eq_ok, require_eq_ok, pure_eq_ok, exists_const] at hok
      obtain ⟨receipt, _, hmatch, rfl⟩ := hok
      rw [hmatch]
    next => cases hok

/-! ## Heads and neighbours are found -/

theorem admissionAt_of_mem (h : ReceiptsInv P db) (ha : a ∈ db.admissions) :
    db.admissionAt a.tenantId a.receiptSequence = some a := by
  refine find?_eq_of_unique ha (by simp) ?_
  intro x hx hp
  have hkey : x.tenantId = a.tenantId ∧ x.receiptSequence = a.receiptSequence := by
    simpa using hp
  have hnd : ((db.tenantAdmissions a.tenantId).map (·.receiptSequence)).Nodup := by
    rw [chain_numbers (h.linked a.tenantId)]
    exact List.nodup_range'
  exact List.inj_on_of_nodup_map hnd (mem_tenantAdmissions.mpr ⟨hx, hkey.1⟩)
    (mem_tenantAdmissions.mpr ⟨ha, rfl⟩) hkey.2

/-- A body that may follow is the first, or follows a receipt in durable custody. -/
theorem NextBody.predecessor {rows : List AdmissionRow} {b : AdmissionReceiptBody}
    (h : NextBody rows b)
    (hlinked : Grown (NextLink (fun a : AdmissionRow => a.receiptSequence)
      (fun a => a.receipt.body.previousReceiptDigest) (·.receiptDigest)) rows) :
    (b.receiptSequence = 1 ∧ b.previousReceiptDigest = none)
      ∨ ∃ a ∈ rows, 1 ≤ a.receiptSequence ∧ b.receiptSequence = a.receiptSequence + 1
        ∧ b.previousReceiptDigest = some a.receiptDigest ∧ a.custodyState = .durable := by
  rcases chain_head hlinked with ⟨_, rfl⟩ | ⟨rows', a, rfl, hhead⟩
  · exact Or.inl ⟨h.number, h.previous⟩
  · right
    have ha : a ∈ rows' ++ [a] := List.mem_append_right _ (List.mem_singleton_self a)
    have hnumber : a.receiptSequence = (rows' ++ [a]).length := by
      rw [chainHead_concat] at hhead
      exact congrArg Prod.fst (Option.some.inj hhead)
    refine ⟨a, ha, ?_, ?_, ?_, h.durable a ha⟩
    · rw [hnumber, List.length_append, List.length_singleton]
      omega
    · rw [h.number, hnumber]
    · rw [h.previous, tenantEnd, chainHead_concat]
      rfl

theorem predecessor (h : ReceiptsInv P db) (ha : a ∈ db.admissions) :
    (a.receipt.body.receiptSequence = 1 ∧ a.receipt.body.previousReceiptDigest = none)
      ∨ ∃ b ∈ db.tenantAdmissions a.tenantId, 1 ≤ b.receiptSequence
        ∧ a.receipt.body.receiptSequence = b.receiptSequence + 1
        ∧ a.receipt.body.previousReceiptDigest = some b.receiptDigest
        ∧ b.custodyState = .durable := by
  obtain ⟨pre, post, hrows, _, hnext⟩ :=
    (h.chains a.tenantId).mem (mem_tenantAdmissions.mpr ⟨ha, rfl⟩)
  rcases hnext.predecessor ((h.linked a.tenantId).split hrows).1 with hfirst | ⟨b, hb, hrest⟩
  · exact Or.inl hfirst
  · refine Or.inr ⟨b, ?_, hrest⟩
    rw [hrows]
    exact List.mem_append_left _ hb

/-- An instance whose validated heads are current reads the end of the chain. -/
theorem verifyTenantHead_ok (hinv : LedgerInv P db) (hcache : CurrentHeads db heads) :
    verifyTenantHead P heads db t = .ok (tenantEnd (db.tenantAdmissions t)) := by
  have hlatest := latestReceipt_eq (tenant_pairwise hinv.receipts t)
  unfold verifyTenantHead
  rw [hcache.eq, CurrentHeads.eq hinv.heads.tenants, hlatest]
  rcases chain_head (hinv.receipts.linked t) with ⟨hend, hnil⟩ | ⟨rows, a, hrows, hend⟩
  · have hend' : tenantEnd (db.tenantAdmissions t) = none := hend
    rw [hend', hnil]
    simp [Lib.require]
  · have ha : a ∈ db.admissions ∧ a.tenantId = t := by
      rw [← mem_tenantAdmissions, hrows]
      exact List.mem_append_right _ (List.mem_singleton_self a)
    have hsound := hinv.receipts.sound a ha.1
    have hread := verifyReceiptRow_ok hinv.leases hinv.receipts hinv.policies ha.1
    have hend' : tenantEnd (db.tenantAdmissions t)
        = some (a.receipt.body.receiptSequence, a.receipt.receiptDigest P) := by
      rw [hrows, tenantEnd, chainHead_concat, hsound.receiptSequence, hsound.receiptDigest]
    rw [hend', hrows, List.getLast?_concat]
    simp only [Option.map_some, bind_eq_ok, require_eq_ok, exists_const]
    refine ⟨a.receipt, hread, ⟨rfl, rfl⟩, rfl, ?_⟩
    rcases predecessor hinv.receipts ha.1 with ⟨hone, hprev⟩ | ⟨b, hbmem, hpos, hnum, hprev, _⟩
    · rw [if_pos hone]
      simp only [hprev, bind_eq_ok, require_eq_ok, exists_const]
      exact ⟨trivial, rfl⟩
    · obtain ⟨hb, htenant⟩ := mem_tenantAdmissions.mp hbmem
      have hfind := admissionAt_of_mem hinv.receipts hb
      have hbread := verifyReceiptRow_ok hinv.leases hinv.receipts hinv.policies hb
      rw [if_neg (by omega), hnum, Nat.add_sub_cancel, ← ha.2, ← htenant, hfind]
      simp only [bind_eq_ok, require_eq_ok, expect_eq_ok, exists_const]
      refine ⟨b, rfl, b.receipt, hbread, ?_, rfl⟩
      rw [hprev, (hinv.receipts.sound b hb).receiptDigest]

theorem verifyCollectorHead_ok (hinv : LedgerInv P db) (t c : String) :
    verifyCollectorHead P db t c = .ok (collectorEnd (db.tenantAdmissions t) c) := by
  have hlatest := latestReceipt_eq ((tenant_pairwise hinv.receipts t).filter
    fun a => decide (a.collectorId = c))
  unfold verifyCollectorHead
  rw [collectorHead_eq hinv.heads, hlatest, collectorEnd]
  cases hlast : ((db.tenantAdmissions t).filter fun a => decide (a.collectorId = c)).getLast? with
  | none => rfl
  | some a =>
    have ha : a ∈ db.admissions :=
      (mem_tenantAdmissions.mp (List.mem_of_mem_filter (List.mem_of_getLast? hlast))).1
    have hsound := hinv.receipts.sound a ha
    have hread := verifyReceiptRow_ok hinv.leases hinv.receipts hinv.policies ha
    have hexpected : (a.epoch, a.sequence, a.receiptDigest)
        = (a.receipt.body.epoch, a.receipt.body.sequence, a.receipt.receiptDigest P) := by
      rw [hsound.columns]
      rfl
    rw [Option.map_some, hexpected]
    simp only [Option.map_some, bind_eq_ok, require_eq_ok, exists_const]
    exact ⟨a.receipt, hread, rfl, rfl⟩

/-! ## Acknowledgement preparations -/

theorem admissionByReceipt_of_mem (h : ReceiptsInv P db)
    (ha : a ∈ db.admissions) : db.admissionByReceipt a.receiptDigest = some a :=
  find?_key h.digests ha

/-- Every receipt before another one of its tenant is durable. -/
theorem not_pendingBefore (h : ReceiptsInv P db) (ha : a ∈ db.admissions) :
    ¬db.pendingBefore a.tenantId a.receiptSequence := by
  rintro ⟨b, hb, htenant, hlt, hstate⟩
  obtain ⟨pre, post, hrows, _, hnext⟩ :=
    (h.chains a.tenantId).mem (mem_tenantAdmissions.mpr ⟨ha, rfl⟩)
  have hbmem : b ∈ pre ++ a :: post := by
    rw [← hrows]
    exact mem_tenantAdmissions.mpr ⟨hb, htenant⟩
  have hpair := tenant_pairwise h a.tenantId
  rw [hrows, List.pairwise_append, List.pairwise_cons] at hpair
  rcases List.mem_append.mp hbmem with hpre | hpost
  · exact hstate (hnext.durable b hpre)
  · rcases List.mem_cons.mp hpost with rfl | hpost
    · exact absurd hlt (Nat.lt_irrefl _)
    · exact absurd (hpair.2.1.1 b hpost) (Nat.not_lt_of_gt hlt)

theorem preparedAcknowledgementFromRow_ok (hinv : LedgerInv P db) {q : AckPreparationRow}
    (hq : q ∈ db.ackPreparations) :
    preparedAcknowledgementFromRow P db q
      = .ok ⟨q.acknowledgementBodyDigest, q.acknowledgementBody⟩ := by
  obtain ⟨a, ha, hdigest, hpending, hbody, hbodyDigest⟩ := hinv.acks.sound q hq
  have hsound := hinv.receipts.sound a ha
  have hread := verifyReceiptRow_ok hinv.leases hinv.receipts hinv.policies ha
  obtain ⟨_, _, _, hev, _⟩ := hsound.lease
  have hreference : a.custodyReference = a.receipt.body.custodyReference :=
    congrArg AdmissionColumns.custodyReference hsound.columns
  have hnone : a.custodyAck = none ∧ a.custodyAckDigest = none := by
    rcases hsound.ack with ⟨_, h⟩ | ⟨hdurable, _⟩
    · exact h
    · rw [hpending] at hdurable
      cases hdurable
  have hreceipt : q.acknowledgementBody.receiptDigest = a.receiptDigest := by
    rw [hbody, hsound.receiptDigest]
    rfl
  have hsafe : safeReference q.acknowledgementBody.custodyReference = true := by
    have hvalid := hev.valid.2.2.2.2.2.2.2.1
    rw [hbody, hreference]
    exact hvalid
  simp only [preparedAcknowledgementFromRow, bind_eq_ok, require_eq_ok, expect_eq_ok,
    pure_eq_ok, exists_const]
  refine ⟨hsafe, a, hreceipt ▸ admissionByReceipt_of_mem hinv.receipts ha, a.receipt, hread,
    ⟨hreceipt.trans hdigest, hbodyDigest.symm, hpending, hnone.2, hnone.1,
      hbody.trans (by rw [hreference])⟩, not_pendingBefore hinv.receipts ha, ?_⟩
  rw [← hbodyDigest]

end ControlAssurance.Admission
