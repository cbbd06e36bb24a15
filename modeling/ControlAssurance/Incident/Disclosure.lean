import ControlAssurance.Incident.Process

/-!
# Disclosures

A ledger only grows along a branch, each new entry comes with the transition that admits it, and
the entries of both branches together are the admitted receipts.
-/

namespace ControlAssurance.Incident

open Lib

variable {R : LifecycleRuntime} {branch : IncidentBranch} {receiptKeys : List ReceiptKey}

/-! ## Ledgers -/

theorem DisclosureLedger.tokens_nodup (ledger : DisclosureLedger) :
    (ledger.entries.map (·.recordToken)).Nodup := by
  have hsorted := ledger.sorted
  simp only [checkLedger, bind_eq_ok, require_eq_ok] at hsorted
  obtain ⟨_, hnodup, _⟩ := hsorted
  exact hnodup

variable {entry : DisclosureEntry} {s : IncidentSnapshot} {j : Nat}

/-- An entry is found under its token. -/
theorem DisclosureLedger.entry?_of_mem {ledger : DisclosureLedger}
    (hmem : entry ∈ ledger.entries) : ledger.entry? entry.recordToken = some entry := by
  rw [DisclosureLedger.entry?]
  cases hfound : ledger.entries.find? fun e => decide (e.recordToken = entry.recordToken) with
  | none => simpa using List.find?_eq_none.mp hfound entry hmem
  | some e =>
    have htoken : e.recordToken = entry.recordToken := by simpa using List.find?_some hfound
    have hsame := List.inj_on_of_nodup_map ledger.tokens_nodup (List.mem_of_find?_eq_some hfound)
      hmem htoken
    rw [hsame]

theorem DisclosureLedger.mem_of_entry? {ledger : DisclosureLedger} {token : String}
    (h : ledger.entry? token = some entry) :
    entry ∈ ledger.entries ∧ entry.recordToken = token :=
  ⟨List.mem_of_find?_eq_some h, by simpa using List.find?_some h⟩

/-- Entries of one key have one token, delivery and time. -/
theorem key_fields {entry' : DisclosureEntry} (h : entry.key = entry'.key) :
    entry.recordToken = entry'.recordToken
      ∧ entry.firstDeliveryEventDigest = entry'.firstDeliveryEventDigest
      ∧ entry.firstObservedAt.utc = entry'.firstObservedAt.utc := by
  simp only [DisclosureEntry.key, Prod.mk.injEq] at h
  exact ⟨h.1, h.2.2.1, h.2.2.2⟩

/-- A status says whether the ledger has an entry. -/
theorem IncidentSnapshot.status_iff (s : IncidentSnapshot) :
    s.confidentialityStatus = .priorDisclosureOccurred ↔ s.disclosureLedger.entries ≠ [] := by
  have hcoherent := s.coherent
  simp only [SnapshotFields.validate, bind_eq_ok, require_eq_ok] at hcoherent
  obtain ⟨_, _, _, _, _, _, _, hdisclosed, _, hempty, _⟩ := hcoherent
  constructor
  · intro hstatus hentries
    exact hempty (not_not.mpr hentries) hstatus
  · exact hdisclosed

/-! ## Along a branch -/

/-- The entry under a token stays the same entry. -/
theorem BranchFacts.ledger_kept (h : BranchFacts R branch receiptKeys) {i : Nat}
    {s' : IncidentSnapshot} (hij : i ≤ j) (hs : branch.snapshots[i]? = some s)
    (hs' : branch.snapshots[j]? = some s') (hmem : entry ∈ s.disclosureLedger.entries) :
    (s'.disclosureLedger.entry? entry.recordToken).map (·.key) = some entry.key := by
  refine neighbours_from (P := fun _ z =>
    (z.disclosureLedger.entry? entry.recordToken).map (·.key) = some entry.key) ?_ hij hs hs' ?_
  · intro k x y hx hy hsame
    obtain ⟨_, _, hstep⟩ := h.between hx hy
    obtain ⟨held, hheld, hkey⟩ := Option.map_eq_some_iff.mp hsame
    obtain ⟨hmember, htoken⟩ := DisclosureLedger.mem_of_entry? hheld
    have hnext := hstep.disclosed.kept held hmember
    rwa [htoken, hkey] at hnext
  · rw [DisclosureLedger.entry?_of_mem hmem]
    rfl

/-- Once a disclosure occurred, it has occurred. -/
theorem BranchFacts.status_kept (h : BranchFacts R branch receiptKeys) {i : Nat}
    {s' : IncidentSnapshot} (hij : i ≤ j) (hs : branch.snapshots[i]? = some s)
    (hs' : branch.snapshots[j]? = some s')
    (hstatus : s.confidentialityStatus = .priorDisclosureOccurred) :
    s'.confidentialityStatus = .priorDisclosureOccurred := by
  obtain ⟨entry, hmem⟩ := List.exists_mem_of_ne_nil _ (s.status_iff.mp hstatus)
  have hkept := h.ledger_kept hij hs hs' hmem
  obtain ⟨held, hheld, _⟩ := Option.map_eq_some_iff.mp hkept
  exact s'.status_iff.mpr (List.ne_nil_of_mem (DisclosureLedger.mem_of_entry? hheld).1)

/-- A step admits an entry: it is new under its token, evidenced by the transition and observed
while the transition ran. -/
structure Introduces (previous : IncidentSnapshot) (t : IncidentTransitionRecord)
    (s : IncidentSnapshot) (entry : DisclosureEntry) : Prop where
  absent : entry.recordToken ∉ previous.disclosureLedger.entries.map (·.recordToken)
  present : (s.disclosureLedger.entry? entry.recordToken).map (·.key) = some entry.key
  evidenced : entry.firstDeliveryEventDigest ∈ t.eventArtifactIds
  after : t.startedAt.utc ≤ entry.firstObservedAt.utc
  before : entry.firstObservedAt.utc ≤ t.endedAt.utc

theorem Introduces.of_key {previous : IncidentSnapshot} {t : IncidentTransitionRecord}
    {entry' : DisclosureEntry} (h : Introduces previous t s entry)
    (hkey : entry.key = entry'.key) : Introduces previous t s entry' := by
  obtain ⟨htoken, hdigest, htime⟩ := key_fields hkey
  exact {
    absent := htoken ▸ h.absent
    present := by
      rw [← htoken, ← hkey]
      exact h.present
    evidenced := hdigest ▸ h.evidenced
    after := htime ▸ h.after
    before := htime ▸ h.before }

/-- An entry that the source snapshot lacks was introduced by an earlier step. -/
theorem BranchFacts.introduced (h : BranchFacts R branch receiptKeys)
    (hs : branch.snapshots[j]? = some s) :
    ∀ entry ∈ s.disclosureLedger.entries,
      (∀ source ∈ branch.first.disclosureLedger.entries, source.key ≠ entry.key) →
      ∃ i p t s', i < j ∧ branch.StepAt i p t s' ∧ Introduces p t s' entry := by
  refine neighbours_all (P := fun j z => ∀ entry ∈ z.disclosureLedger.entries,
    (∀ source ∈ branch.first.disclosureLedger.entries, source.key ≠ entry.key) →
      ∃ i p t s', i < j ∧ branch.StepAt i p t s' ∧ Introduces p t s' entry)
    (fun x hx entry hmem hsource => ?_) (fun k x y hx hy ih entry hmem hsource => ?_) hs
  · obtain rfl := Option.some.inj (branch.getElem?_zero.symm.trans hx)
    exact absurd rfl (hsource entry hmem)
  · obtain ⟨t, ht, hstep⟩ := h.between hx hy
    by_cases hold : entry.recordToken ∈ x.disclosureLedger.entries.map (·.recordToken)
    · -- carried over: the entry before it has its key and was introduced
      obtain ⟨held, hheld, htoken⟩ := List.mem_map.mp hold
      have hkept := hstep.disclosed.kept held hheld
      rw [htoken, DisclosureLedger.entry?_of_mem hmem] at hkept
      have hkey : held.key = entry.key := (Option.some.inj hkept).symm
      obtain ⟨i, p, t', s', hlt, hat, hintroduced⟩ :=
        ih held hheld fun source hmember heq => hsource source hmember (heq.trans hkey)
      exact ⟨i, p, t', s', Nat.lt_succ_of_lt hlt, hat, hintroduced.of_key hkey⟩
    · obtain ⟨hafter, hbefore⟩ := hstep.disclosed.intime entry hmem hold
      refine ⟨k, x, t, y, Nat.lt_succ_self k, ⟨hx, ht, hy⟩, {
        absent := hold
        present := ?_
        evidenced := hstep.disclosed.evidenced entry hmem hold
        after := hafter _ rfl
        before := hbefore }⟩
      rw [DisclosureLedger.entry?_of_mem hmem]
      rfl

/-! ## The law -/

/-- What a branch says about disclosures. -/
structure DisclosureFacts (branch : IncidentBranch) : Prop where
  kept : ∀ (i j : Nat) (s s' : IncidentSnapshot), i ≤ j → branch.snapshots[i]? = some s →
    branch.snapshots[j]? = some s' → ∀ entry ∈ s.disclosureLedger.entries,
      (s'.disclosureLedger.entry? entry.recordToken).map (·.key) = some entry.key
  introduced : ∀ (j : Nat) (s : IncidentSnapshot), branch.snapshots[j]? = some s →
    ∀ entry ∈ s.disclosureLedger.entries,
    (∀ source ∈ branch.first.disclosureLedger.entries, source.key ≠ entry.key) →
      ∃ i p t s', i < j ∧ branch.StepAt i p t s' ∧ Introduces p t s' entry
  status : ∀ (i j : Nat) (s s' : IncidentSnapshot), i ≤ j → branch.snapshots[i]? = some s →
    branch.snapshots[j]? = some s' → s.confidentialityStatus = .priorDisclosureOccurred →
      s'.confidentialityStatus = .priorDisclosureOccurred

theorem BranchFacts.disclosures (h : BranchFacts R branch receiptKeys) : DisclosureFacts branch where
  kept := fun _ _ _ _ hij hs hs' _ hmem => h.ledger_kept hij hs hs' hmem
  introduced := fun _ _ hs => h.introduced hs
  status := fun _ _ _ _ hij hs hs' hstatus => h.status_kept hij hs hs' hstatus

theorem mem_disclosedKeys {key : ReceiptKey} : key ∈ disclosedKeys branch
    ↔ ∃ s ∈ branch.snapshots, ∃ entry ∈ s.disclosureLedger.entries, entry.key = key := by
  simp only [disclosedKeys, List.mem_flatMap, List.mem_map]

/-- The receipts are those of the disclosed entries. -/
theorem verifyPair_receipts {actual comparison : IncidentBranch}
    (h : verifyPair actual comparison receiptKeys = .ok ()) (key : ReceiptKey) :
    key ∈ receiptKeys ↔ key ∈ disclosedKeys actual ∨ key ∈ disclosedKeys comparison := by
  simp only [verifyPair, bind_eq_ok, require_eq_ok] at h
  obtain ⟨_, hsame, _⟩ := h
  rw [← List.mem_toFinset, hsame, List.mem_toFinset, List.mem_append]

/-- Disclosures of an accepted lifecycle are kept, introduced by a transition that evidences them,
and exactly those that were receipted. -/
theorem disclosures_append_only {lifecycle : IncidentLifecycle}
    {receipts : List AdmittedReceiptEvidence} {verified : VerifiedLifecycle}
    (h : verifyLifecycle R lifecycle receipts = .ok verified) :
    DisclosureFacts lifecycle.actual ∧ DisclosureFacts lifecycle.matchedComparison
      ∧ ∀ key, key ∈ receipts.map (·.key)
        ↔ ∃ branch ∈ [lifecycle.actual, lifecycle.matchedComparison], ∃ s ∈ branch.snapshots,
          ∃ entry ∈ s.disclosureLedger.entries, entry.key = key := by
  obtain ⟨_, _, hactual, hcomparison, hpair, _⟩ := verifyLifecycle_ok h
  refine ⟨hactual.disclosures, hcomparison.disclosures, fun key => ?_⟩
  rw [verifyPair_receipts hpair, mem_disclosedKeys, mem_disclosedKeys]
  simp only [List.mem_cons, List.not_mem_nil, or_false, exists_eq_or_imp, exists_eq_left]

/-- A record disclosed while the response is probed. -/
theorem disclosures_append_only_example : ∃ verified,
    verifyLifecycle exampleLifecycleRuntime exampleLifecycle exampleReceipts = .ok verified
      ∧ DisclosureFacts exampleLifecycle.actual
      ∧ exampleDisclosure.key ∈ disclosedKeys exampleLifecycle.actual := by
  obtain ⟨verified, hverified⟩ := example_accepted.exists_ok
  exact ⟨verified, hverified, (disclosures_append_only hverified).1, by decide⟩

end ControlAssurance.Incident
