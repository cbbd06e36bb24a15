import ControlAssurance.Admission.Reading

/-!
# The complete validation accepts

In a ledger that satisfies the invariant `validateCompleteLedger` runs through
and answers the current tenant heads. The walk over one tenant is a loop over a
grown list (`grown_foldlM`): after each receipt its state summarises the receipts
read so far (`Walked`).
-/

namespace ControlAssurance.Admission

open Lib

variable {P : Profile} {db : Ledger}

/-! ## The walk over one tenant -/

theorem mem_upsertCollector {heads : List CollectorHead} {h x : CollectorHead} :
    x ∈ upsertCollector heads h ↔ x = h
      ∨ (x ∈ heads ∧ ¬(x.tenantId = h.tenantId ∧ x.collectorId = h.collectorId)) := by
  unfold upsertCollector
  rw [List.mem_append, List.mem_filter, List.mem_singleton, Bool.not_eq_true',
    decide_eq_false_iff_not]
  exact or_comm

theorem collectorEnd_concat (rows : List AdmissionRow) (a : AdmissionRow) (c : String) :
    collectorEnd (rows ++ [a]) c
      = if a.collectorId = c then some (a.epoch, a.sequence, a.receiptDigest)
        else collectorEnd rows c := by
  unfold collectorEnd
  rw [List.filter_append]
  by_cases hc : a.collectorId = c
  · rw [if_pos hc, List.filter_singleton, decide_eq_true hc]
    simp
  · rw [if_neg hc, List.filter_singleton, decide_eq_false hc]
    simp

/-- What the walk knows after some of a tenant's receipts. -/
structure Walked (t : String) (rows : List AdmissionRow) (s : WalkState) : Prop where
  seen : s.seen = rows.length
  previous : s.previousDigest = (tenantEnd rows).map Prod.snd
  collectors : ∀ h, h ∈ s.collectors ↔ h.tenantId = t
    ∧ collectorEnd rows h.collectorId = some (h.currentEpoch, h.lastSequence, h.lastReceiptDigest)
  pending : (∀ a ∈ rows, a.custodyState = .durable) → s.pendingSeen = false
  times : s.times = rows.map (·.receipt.body.admittedAt)

theorem walked_start (t : String) : Walked t [] WalkState.start := by
  refine ⟨rfl, rfl, fun h => ?_, fun _ => rfl, rfl⟩
  exact ⟨fun hh => (by cases hh), fun hh => (by cases hh.2)⟩

variable {t : String} {walks : List (TenantHead × WalkState)} {tenants : List String}

/-- One round of the walk. -/
theorem walkRow_ok (hinv : LedgerInv P db) {rows : List AdmissionRow}
    {a : AdmissionRow} {s : WalkState} (ha : a ∈ db.admissions) (htenant : a.tenantId = t)
    (hnext : NextBody rows a.receipt.body) (hwalked : Walked t rows s) :
    ∃ s', walkRow P db t s a = .ok s' ∧ Walked t (rows ++ [a]) s' := by
  have hsound := hinv.receipts.sound a ha
  have hread := verifyReceiptRow_ok hinv.leases hinv.receipts hinv.policies ha
  have hprior : (s.collectors.find? fun h =>
        decide (h.tenantId = t ∧ h.collectorId = a.receipt.body.collectorId)).map
      (fun h => (h.currentEpoch, h.lastSequence, h.lastReceiptDigest))
      = collectorEnd rows a.receipt.body.collectorId := by
    have hspec : ∀ x : CollectorHead, x.tenantId = t → (x ∈ s.collectors ↔
        collectorEnd rows x.collectorId
          = some (x.currentEpoch, x.lastSequence, x.lastReceiptDigest)) := by
      intro x hx
      rw [hwalked.collectors x]
      simp [hx]
    rw [collectorHead_find hspec]
    cases collectorEnd rows a.receipt.body.collectorId <;> rfl
  have hcolumns : (a.epoch, a.sequence, a.receiptDigest)
      = (a.receipt.body.epoch, a.receipt.body.sequence, a.receipt.receiptDigest P) := by
    rw [hsound.columns]
    rfl
  -- the acknowledgement that is stored, or none while custody is pending
  have hack : ∃ ack, storedAck P a = .ok ack ∧ (a.custodyState = .durable → ack.isNone = false) := by
    rcases storedAck_ok hsound with ⟨hstate, hok⟩ | ⟨ack, _, hok, _⟩
    · refine ⟨none, hok, fun hdurable => ?_⟩
      rw [hstate] at hdurable
      cases hdurable
    · exact ⟨some ack, hok, fun _ => rfl⟩
  obtain ⟨ack, hstored, hnone⟩ := hack
  simp only [walkRow, bind_eq_ok, require_eq_ok, checkCollector_eq_ok, pure_eq_ok, exists_const]
  refine ⟨_, ⟨a.receipt, hread, ⟨hsound.tenantId.symm.trans htenant, ?_, ?_⟩,
    hwalked.pending hnext.durable, ?_, ack, hstored, rfl⟩, ?_⟩
  · rw [hwalked.seen]
    exact hnext.number
  · rw [hwalked.previous]
    exact hnext.previous
  · rw [hprior]
    exact hnext.collector
  · refine ⟨?_, ?_, ?_, ?_, ?_⟩
    · simp [hwalked.seen]
    · rw [tenantEnd, chainHead_concat, Option.map_some, hsound.receiptDigest]
    · intro h
      rw [mem_upsertCollector, hwalked.collectors h, collectorEnd_concat, hsound.collectorId,
        hcolumns]
      by_cases hc : a.receipt.body.collectorId = h.collectorId
      · rw [if_pos hc]
        constructor
        · rintro (rfl | ⟨⟨ht, _⟩, hne⟩)
          · exact ⟨rfl, rfl⟩
          · exact absurd ⟨ht, hc.symm⟩ hne
        · rintro ⟨ht, hhead⟩
          left
          cases h
          simp only [Option.some.injEq, Prod.mk.injEq] at hhead ht hc ⊢
          simp [ht, ← hc, hhead]
      · rw [if_neg hc]
        constructor
        · rintro (rfl | ⟨hh, _⟩)
          · exact absurd rfl hc
          · exact hh
        · exact fun hh => Or.inr ⟨hh, fun hkey => hc hkey.2.symm⟩
    · intro hdurable
      exact hnone (hdurable a (List.mem_append_right _ (List.mem_singleton_self a)))
    · rw [hwalked.times, List.map_append]
      rfl

/-- What `validateTenant` answers. -/
structure ValidTenant (db : Ledger) (t : String) (result : TenantHead × WalkState) : Prop where
  tenant : result.1.tenantId = t
  head : tenantEnd (db.tenantAdmissions t)
    = some (result.1.lastReceiptSequence, result.1.lastReceiptDigest)
  walked : Walked t (db.tenantAdmissions t) result.2

theorem walk_ok (hinv : LedgerInv P db) (t : String) :
    ∃ s, (db.tenantAdmissions t).foldlM (walkRow P db t) WalkState.start = .ok s
      ∧ Walked t (db.tenantAdmissions t) s := by
  have hsub : ∀ a ∈ db.tenantAdmissions t, a ∈ db.admissions ∧ a.tenantId = t :=
    fun a ha => mem_tenantAdmissions.mp ha
  refine grown_foldlM (walked_start t) ?_ ((hinv.receipts.chains t).and hsub)
  intro rows a s _ ⟨hnext, ha, htenant⟩ hwalked
  exact walkRow_ok hinv ha htenant hnext hwalked

theorem validateTenant_ok (hinv : LedgerInv P db) (ht : t ∈ db.admissions.map (·.tenantId)) :
    ∃ result, validateTenant P db t = .ok result ∧ ValidTenant db t result := by
  obtain ⟨s, hs, hwalked⟩ := walk_ok hinv t
  obtain ⟨x, hx, hxt⟩ := List.mem_map.mp ht
  have hxmem : x ∈ db.tenantAdmissions t := mem_tenantAdmissions.mpr ⟨hx, hxt⟩
  have hpos : 1 ≤ (db.tenantAdmissions t).length := List.length_pos_of_mem hxmem
  have hnumbers := chain_numbers (hinv.receipts.linked t)
  have hmin : ((db.tenantAdmissions t).map (·.receiptSequence)).min? = some 1 := by
    rw [hnumbers, List.min?_eq_some_iff]
    refine ⟨?_, fun n hn => ?_⟩
    · rw [List.mem_range'_1]
      omega
    · rw [List.mem_range'_1] at hn
      exact hn.1
  have hmax : ((db.tenantAdmissions t).map (·.receiptSequence)).max?
      = some (db.tenantAdmissions t).length := by
    rw [hnumbers, List.max?_eq_some_iff]
    refine ⟨?_, fun n hn => ?_⟩
    · rw [List.mem_range'_1]
      omega
    · rw [List.mem_range'_1] at hn
      omega
  -- the rows are stored in the order of their numbers already
  have hsorted : (db.tenantAdmissions t).insertionSort
      (fun a b => a.receiptSequence ≤ b.receiptSequence) = db.tenantAdmissions t :=
    ((tenant_pairwise hinv.receipts t).imp Nat.le_of_lt).insertionSort_eq
  rcases chain_head (hinv.receipts.linked t) with ⟨_, hnil⟩ | ⟨rows, a, hrows, hend⟩
  · rw [hnil] at hxmem
    cases hxmem
  · have hend' : tenantEnd (db.tenantAdmissions t)
        = some ((db.tenantAdmissions t).length, a.receiptDigest) := hend
    have hprevious : s.previousDigest = some a.receiptDigest := by
      rw [hwalked.previous, hend']
      rfl
    simp only [validateTenant, bind_eq_ok, require_eq_ok, expect_eq_ok, pure_eq_ok, exists_const]
    refine ⟨(⟨t, (db.tenantAdmissions t).length, a.receiptDigest⟩, s),
      ⟨⟨hpos, hinv.quota t, hmin, hmax⟩, s, ?_, a.receiptDigest, hprevious, ?_, rfl⟩,
      rfl, hend', hwalked⟩
    · rw [hsorted]
      exact hs
    · rw [CurrentHeads.eq hinv.heads.tenants, hend']
      rfl

/-! ## Preparations -/

/-- The number the next receipt of a tenant has. -/
theorem tenant_next (h : ReceiptsInv P db) (t : String) :
    nextNumber (tenantEnd (db.tenantAdmissions t)) = (db.tenantAdmissions t).length + 1 :=
  chain_next (h.linked t)

theorem not_pendingReceipt :
    ¬db.pendingReceipt t ↔ ∀ a ∈ db.tenantAdmissions t, a.custodyState = .durable := by
  unfold Ledger.pendingReceipt
  constructor
  · intro h a ha
    obtain ⟨hmem, htenant⟩ := mem_tenantAdmissions.mp ha
    cases hstate : a.custodyState with
    | durable => rfl
    | pending => exact absurd ⟨a, hmem, htenant, hstate⟩ h
  · rintro h ⟨a, ha, htenant, hstate⟩
    have hdurable := h a (mem_tenantAdmissions.mpr ⟨ha, htenant⟩)
    rw [hstate] at hdurable
    cases hdurable

theorem validatePreparation_ok (hinv : LedgerInv P db) {heads : List TenantHead}
    (hheads : CurrentHeads db heads) {p : PreparationRow} (hp : p ∈ db.preparations) :
    validatePreparation P heads db p = .ok p.receiptBody.admittedAt := by
  have hsound := hinv.preparations.sound p hp
  have hnext := hinv.preparations.next p hp
  have htenant : p.tenantId = p.receiptBody.tenantId :=
    congrArg PreparationColumns.tenantId hsound.columns
  rw [htenant] at hnext
  obtain ⟨_, head, hhead, hle⟩ :=
    policyVersion_ok hinv.policies (preparation_policy_used hinv.preparations hp)
  simp only [validatePreparation, bind_eq_ok, require_eq_ok, pure_eq_ok, exists_const]
  refine ⟨_, preparedAdmissionFromRow_ok hinv.leases hinv.preparations hinv.policies hp, _,
    verifyTenantHead_ok hinv hheads, _, verifyCollectorHead_ok hinv _ _, _, hhead,
    ⟨?_, hnext.previous, hnext.collector, not_pendingReceipt.mpr hnext.durable, head, rfl, hle⟩,
    rfl⟩
  rw [tenant_next hinv.receipts]
  exact hnext.number

/-! ## The complete ledger -/

/-- Only tenants with receipts have heads. -/
theorem head_iff_admitted (hinv : LedgerInv P db) (t : String) :
    t ∈ db.tenantHeads.map (·.tenantId) ↔ t ∈ db.admissions.map (·.tenantId) := by
  rw [List.mem_map, List.mem_map]
  constructor
  · rintro ⟨h, hh, rfl⟩
    have hend := (hinv.heads.tenants h).mp hh
    rcases chain_head (hinv.receipts.linked h.tenantId) with ⟨hnone, _⟩ | ⟨rows, a, hrows, _⟩
    · have hnone' : tenantEnd (db.tenantAdmissions h.tenantId) = none := hnone
      rw [hnone'] at hend
      cases hend
    · have ha : a ∈ db.tenantAdmissions h.tenantId := by
        rw [hrows]
        exact List.mem_append_right _ (List.mem_singleton_self a)
      exact ⟨a, mem_tenantAdmissions.mp ha⟩
  · rintro ⟨a, ha, rfl⟩
    rcases chain_head (hinv.receipts.linked a.tenantId) with ⟨_, hnil⟩ | ⟨rows, b, _, hend⟩
    · have hmem : a ∈ db.tenantAdmissions a.tenantId := mem_tenantAdmissions.mpr ⟨ha, rfl⟩
      rw [hnil] at hmem
      cases hmem
    · exact ⟨⟨a.tenantId, _, _⟩, (hinv.heads.tenants _).mpr hend, rfl⟩

theorem collectorEnd_some {rows : List AdmissionRow} {c : String} {e : Nat × Nat × Digest}
    (h : collectorEnd rows c = some e) : ∃ a ∈ rows, a.collectorId = c := by
  unfold collectorEnd at h
  rw [Option.map_eq_some_iff] at h
  obtain ⟨a, hlast, _⟩ := h
  have hmem := List.mem_filter.mp (List.mem_of_getLast? hlast)
  exact ⟨a, hmem.1, by simpa using hmem.2⟩

/-- The greatest element does not depend on the order. -/
theorem IsMax.eq_max? {o : Option Instant} {l l' : List Instant} (h : IsMax o l)
    (hmem : ∀ x, x ∈ l' ↔ x ∈ l) : o = l'.max? := by
  rcases h with ⟨rfl, rfl⟩ | ⟨m, rfl, hm, hle⟩
  · have hnil : l' = [] := by
      rw [List.eq_nil_iff_forall_not_mem]
      intro x hx
      cases (hmem x).mp hx
    rw [hnil]
    rfl
  · symm
    rw [List.max?_eq_some_iff]
    exact ⟨(hmem m).mpr hm, fun x hx => hle x ((hmem x).mp hx)⟩

/-- The answers of the walks over all tenants are the current heads. -/
theorem walks_heads (hinv : LedgerInv P db)
    (htenants : ∀ t, t ∈ tenants ↔ t ∈ db.admissions.map (·.tenantId))
    (hwalks : List.Forall₂ (ValidTenant db) tenants walks) :
    CurrentHeads db (walks.map Prod.fst) := by
  intro h
  rw [List.mem_map]
  constructor
  · rintro ⟨w, hw, rfl⟩
    obtain ⟨t, _, hvalid⟩ := exists_of_forall₂_right hwalks hw
    rw [hvalid.tenant]
    exact hvalid.head
  · intro hend
    have ht : h.tenantId ∈ tenants := by
      rw [htenants, ← head_iff_admitted hinv]
      exact List.mem_map_of_mem ((hinv.heads.tenants h).mpr hend)
    obtain ⟨w, hw, hvalid⟩ := exists_of_forall₂_left hwalks ht
    refine ⟨w, hw, ?_⟩
    have hsame := hvalid.head.symm.trans hend
    obtain ⟨⟨wt, wn, wd⟩, _⟩ := w
    obtain ⟨tenantId, number, digest⟩ := h
    have htenant : wt = tenantId := hvalid.tenant
    simp only [Option.some.injEq, Prod.mk.injEq] at hsame
    rw [htenant, hsame.1, hsame.2]

theorem walks_collectors (hinv : LedgerInv P db)
    (htenants : ∀ t, t ∈ tenants ↔ t ∈ db.admissions.map (·.tenantId))
    (hwalks : List.Forall₂ (ValidTenant db) tenants walks) (h : CollectorHead) :
    h ∈ walks.flatMap (fun w => w.2.collectors) ↔ h ∈ db.collectorHeads := by
  rw [List.mem_flatMap, hinv.heads.collectors h]
  constructor
  · rintro ⟨w, hw, hh⟩
    obtain ⟨t, _, hvalid⟩ := exists_of_forall₂_right hwalks hw
    obtain ⟨rfl, hend⟩ := (hvalid.walked.collectors h).mp hh
    exact hend
  · intro hend
    obtain ⟨a, ha, _⟩ := collectorEnd_some hend
    obtain ⟨hmem, htenant⟩ := mem_tenantAdmissions.mp ha
    have ht : h.tenantId ∈ tenants :=
      (htenants _).mpr (htenant ▸ List.mem_map_of_mem hmem)
    obtain ⟨w, hw, hvalid⟩ := exists_of_forall₂_left hwalks ht
    exact ⟨w, hw, (hvalid.walked.collectors h).mpr ⟨rfl, hend⟩⟩

theorem walks_times (htenants : ∀ t, t ∈ tenants ↔ t ∈ db.admissions.map (·.tenantId))
    (hwalks : List.Forall₂ (ValidTenant db) tenants walks) (x : Instant) :
    x ∈ walks.flatMap (fun w => w.2.times)
      ↔ x ∈ db.admissions.map (·.receipt.body.admittedAt) := by
  rw [List.mem_flatMap]
  constructor
  · rintro ⟨w, hw, hx⟩
    obtain ⟨t, _, hvalid⟩ := exists_of_forall₂_right hwalks hw
    rw [hvalid.walked.times, List.mem_map] at hx
    obtain ⟨a, ha, rfl⟩ := hx
    exact List.mem_map_of_mem (mem_tenantAdmissions.mp ha).1
  · intro hx
    obtain ⟨a, ha, rfl⟩ := List.mem_map.mp hx
    obtain ⟨w, hw, hvalid⟩ := exists_of_forall₂_left hwalks
      ((htenants a.tenantId).mpr (List.mem_map_of_mem ha))
    refine ⟨w, hw, ?_⟩
    rw [hvalid.walked.times]
    exact List.mem_map_of_mem (mem_tenantAdmissions.mpr ⟨ha, rfl⟩)

/-- A ledger that satisfies the invariant can be opened: the complete validation
succeeds and leaves the current heads. -/
theorem validateCompleteLedger_ok (hinv : LedgerInv P db) :
    ∃ heads, validateCompleteLedger P db = .ok heads ∧ CurrentHeads db heads := by
  have htenants : ∀ t, t ∈ (db.admissions.map (·.tenantId)).dedup
      ↔ t ∈ db.admissions.map (·.tenantId) := fun t => List.mem_dedup
  obtain ⟨walks, hwalks, hvalid⟩ := mapM_ok (l := (db.admissions.map (·.tenantId)).dedup)
    fun t ht => validateTenant_ok hinv ((htenants t).mp ht)
  have hheads := walks_heads hinv htenants hvalid
  obtain ⟨times, htimes, hprepared⟩ := mapM_ok (l := db.preparations)
    fun p hp => ⟨_, validatePreparation_ok hinv hheads hp, rfl⟩
  obtain ⟨acks, hacks, _⟩ := mapM_ok (R := fun _ _ => True) (l := db.ackPreparations)
    fun q hq => ⟨_, preparedAcknowledgementFromRow_ok hinv hq, trivial⟩
  have htimesEq : times = db.preparations.map (·.receiptBody.admittedAt) :=
    (List.forall₂_eq_eq_eq ▸ List.forall₂_map_left_iff.mpr hprepared).symm
  refine ⟨walks.map Prod.fst, ?_, hheads⟩
  simp only [validateCompleteLedger, bind_eq_ok, require_eq_ok, pure_eq_ok, exists_const]
  refine ⟨⟨fun t ht => ?_, fun t ht => ?_⟩, walks, hwalks, ⟨fun h hh => ?_, fun h hh => ?_⟩,
    times, htimes, acks, hacks, ?_, rfl⟩
  · exact (head_iff_admitted hinv t).mpr ((htenants t).mp ht)
  · exact (htenants t).mpr ((head_iff_admitted hinv t).mp ht)
  · exact (walks_collectors hinv htenants hvalid h).mpr hh
  · exact (walks_collectors hinv htenants hvalid h).mp hh
  · refine hinv.clock.eq_max? fun x => ?_
    rw [Ledger.admissionTimes, List.mem_append, List.mem_append, walks_times htenants hvalid,
      htimesEq]

end ControlAssurance.Admission
