import ControlAssurance.Pam.Broker

/-!
# What a journal call changes

What both journals have in common: a call that reads leaves the rows as they are and answers rows
of the table, `prepare` adds one row, and a transition replaces one row, which was in the state
and under the revision that its caller expected (`Updated`).
-/

namespace ControlAssurance.Pam

open Lib

section

variable {backend : LeaseBackend} {descriptorDigest : List Char → Digest}
variable {rows rows' : LeaseRows} {answer : LeaseAnswer} {leaseId : LeaseId} {revision : Int}

variable {r : ElasticLeaseRecord} {limit : Int} {selected : ElasticLeaseRecord → Bool}
  {now : Millis} {states : List LeaseState} {set : ElasticLeaseRecord → ElasticLeaseRecord}

theorem record_ok {r' : ElasticLeaseRecord}
    (h : PostgresElasticLeaseJournal.record r = .ok r') : r' = r := by
  unfold PostgresElasticLeaseJournal.record ElasticLeaseRecord.exact at h
  split at h
  · rename_i x hx
    cases h
    simp only [bind_eq_ok, pure_eq_ok] at hx
    obtain ⟨-, -, -, -, rfl⟩ := hx
    rfl
  · cases h

theorem exact_ok {r' : ElasticLeaseRecord} (h : r.exact = .ok r') : r' = r := by
  unfold ElasticLeaseRecord.exact at h
  simp only [bind_eq_ok, pure_eq_ok] at h
  obtain ⟨-, -, -, -, rfl⟩ := h
  rfl

theorem sqlite_get_ok (h : SQLiteElasticLeaseJournal.get rows leaseId = .ok (rows', answer)) :
    rows' = rows ∧ ∃ r ∈ rows, r.leaseId = leaseId ∧ answer = .record r := by
  unfold SQLiteElasticLeaseJournal.get at h
  simp only [bind_eq_ok, expect_eq_ok, pure_eq_ok] at h
  obtain ⟨row, hfind, r, hexact, hresult⟩ := h
  cases hresult
  obtain rfl := exact_ok hexact
  have hid := List.find?_some hfind
  exact ⟨rfl, r, List.mem_of_find?_eq_some hfind, of_decide_eq_true hid, rfl⟩

theorem get_ok (h : backend.run descriptorDigest rows (.get leaseId) = .ok (rows', answer)) :
    rows' = rows ∧ ∃ r ∈ rows, r.leaseId = leaseId ∧ answer = .record r := by
  cases backend with
  | sqlite => exact sqlite_get_ok h
  | postgres ctype =>
    have hget : PostgresElasticLeaseJournal.get rows leaseId = .ok (rows', answer) := h
    unfold PostgresElasticLeaseJournal.get at hget
    simp only [bind_eq_ok, expect_eq_ok, pure_eq_ok] at hget
    obtain ⟨row, hfind, r, hrecord, hresult⟩ := hget
    cases hresult
    obtain rfl := record_ok hrecord
    have hid := List.find?_some hfind
    exact ⟨rfl, r, List.mem_of_find?_eq_some hfind, of_decide_eq_true hid, rfl⟩

theorem selectRows_mem (h : r ∈ selectRows rows selected limit) : r ∈ rows :=
  List.mem_of_mem_filter (List.mem_mergeSort.mp (List.mem_of_mem_take h))

/-- The rows of a selection are rows of the table. -/
theorem select_ok (h : SQLiteElasticLeaseJournal.select rows selected limit = .ok (rows', answer)
      ∨ PostgresElasticLeaseJournal.select rows selected limit = .ok (rows', answer)) :
    rows' = rows ∧ ∃ rs, answer = .records rs ∧ ∀ r ∈ rs, r ∈ rows := by
  rcases h with h | h
  · unfold SQLiteElasticLeaseJournal.select at h
    simp only [bind_eq_ok, pure_eq_ok] at h
    obtain ⟨-, -, rs, hrs, hresult⟩ := h
    cases hresult
    refine ⟨rfl, rs, rfl, fun r hr => ?_⟩
    obtain ⟨row, hrow, hexact⟩ := mapM_mem hrs r hr
    rw [exact_ok hexact]
    exact selectRows_mem hrow
  · unfold PostgresElasticLeaseJournal.select at h
    simp only [bind_eq_ok, pure_eq_ok] at h
    obtain ⟨-, -, rs, hrs, hresult⟩ := h
    cases hresult
    refine ⟨rfl, rs, rfl, fun r hr => ?_⟩
    obtain ⟨row, hrow, hrecord⟩ := mapM_mem hrs r hr
    rw [record_ok hrecord]
    exact selectRows_mem hrow

theorem unsettled_ok
    (h : backend.run descriptorDigest rows (.unsettled limit) = .ok (rows', answer)) :
    rows' = rows ∧ ∃ rs, answer = .records rs ∧ ∀ r ∈ rs, r ∈ rows := by
  cases backend with
  | sqlite => exact select_ok (Or.inl h)
  | postgres ctype => exact select_ok (Or.inr h)

theorem recordsForRequestDigest_ok {requestDigest : Digest} {unsettledOnly : Bool}
    (h : backend.run descriptorDigest rows
      (.recordsForRequestDigest requestDigest unsettledOnly limit) = .ok (rows', answer)) :
    rows' = rows ∧ ∃ rs, answer = .records rs ∧ ∀ r ∈ rs, r ∈ rows := by
  cases backend with
  | sqlite => exact select_ok (Or.inl h)
  | postgres ctype => exact select_ok (Or.inr h)

theorem prepare_ok {keyName : KeyName} {policy : ElasticPamPolicy}
    {requestDigest endpointOriginDigest : Digest}
    (h : backend.run descriptorDigest rows (.prepare leaseId keyName policy requestDigest
      endpointOriginDigest now) = .ok (rows', answer)) :
    (∀ r ∈ rows, r.leaseId ≠ leaseId ∧ r.keyName ≠ keyName)
      ∧ rows' = rows ++ [preparedRow descriptorDigest leaseId keyName policy requestDigest
        endpointOriginDigest now]
      ∧ answer = .record (preparedRow descriptorDigest leaseId keyName policy requestDigest
        endpointOriginDigest now) := by
  cases backend with
  | sqlite =>
    have hrun : SQLiteElasticLeaseJournal.run descriptorDigest rows (.prepare leaseId keyName
      policy requestDigest endpointOriginDigest now) = .ok (rows', answer) := h
    simp only [SQLiteElasticLeaseJournal.run, bind_eq_ok, require_eq_ok] at hrun
    obtain ⟨-, -, -, hnew, hget⟩ := hrun
    obtain ⟨rfl, r, hr, hid, rfl⟩ := sqlite_get_ok hget
    refine ⟨hnew, rfl, ?_⟩
    -- only the new row has this id
    rcases List.mem_append.mp hr with hr | hr
    · exact absurd hid (hnew r hr).1
    · rw [List.mem_singleton.mp hr]
  | postgres ctype =>
    have hrun : PostgresElasticLeaseJournal.run ctype descriptorDigest rows (.prepare leaseId
      keyName policy requestDigest endpointOriginDigest now) = .ok (rows', answer) := h
    simp only [PostgresElasticLeaseJournal.run, PostgresElasticLeaseJournal.insert, bind_eq_ok,
      require_eq_ok, pure_eq_ok] at hrun
    obtain ⟨-, -, -, -, -, hnew, r, hrecord, hresult⟩ := hrun
    cases hresult
    rw [record_ok hrecord]
    exact ⟨hnew, rfl, rfl⟩

/-- A row was replaced by its next version. -/
structure Updated (rows rows' : LeaseRows) (answer : LeaseAnswer) (leaseId : LeaseId)
    (revision : Int) (states : List LeaseState)
    (set : ElasticLeaseRecord → ElasticLeaseRecord) (old : ElasticLeaseRecord) : Prop where
  mem : old ∈ rows
  lease : old.leaseId = leaseId
  current : old.revision = revision
  state : old.state ∈ states
  result : rows' = updateWhere (·.matching leaseId revision states) set rows
  answered : answer = .record (set old)

theorem matching_of (h : r.matching leaseId revision states = true) :
    r.leaseId = leaseId ∧ r.revision = revision ∧ r.state ∈ states :=
  of_decide_eq_true h

theorem sqlite_update_ok {lost : String}
    (hids : (rows.map (·.leaseId)).Nodup) (hset : ∀ r, (set r).leaseId = r.leaseId)
    (h : SQLiteElasticLeaseJournal.update rows leaseId revision states set lost
      = .ok (rows', answer)) :
    ∃ old, Updated rows rows' answer leaseId revision states set old := by
  unfold SQLiteElasticLeaseJournal.update at h
  simp only [bind_eq_ok, require_eq_ok] at h
  obtain ⟨-, -, -, hcount, hget⟩ := h
  obtain ⟨rfl, r, hr, hid, rfl⟩ := sqlite_get_ok hget
  have hfound : ∃ old ∈ rows, old.matching leaseId revision states = true := by
    have hpos : 0 < rows.countP (·.matching leaseId revision states) := by
      rw [hcount]
      exact Nat.one_pos
    exact List.countP_pos_iff.mp hpos
  obtain ⟨old, hold, hmatch⟩ := hfound
  obtain ⟨hlease, hcurrent, hstate⟩ := matching_of hmatch
  refine ⟨old, hold, hlease, hcurrent, hstate, rfl, ?_⟩
  -- the row read back is the one of this id
  have hnew : set old ∈ updateWhere (·.matching leaseId revision states) set rows :=
    mem_updateWhere.mpr (Or.inl ⟨old, hold, hmatch, rfl⟩)
  have hsame : r = set old := List.inj_on_of_nodup_map (updateWhere_keys hset hids) hr hnew
    (hid.trans (hlease.symm.trans (hset old).symm))
  rw [hsame]

theorem postgres_update_ok {ctype : PostgresCtype} {lost : String}
    (h : PostgresElasticLeaseJournal.update ctype rows leaseId revision states set lost
      = .ok (rows', answer)) :
    ∃ old, Updated rows rows' answer leaseId revision states set old := by
  unfold PostgresElasticLeaseJournal.update at h
  simp only [bind_eq_ok, expect_eq_ok, pure_eq_ok] at h
  obtain ⟨old, hfind, -, -, r, hrecord, hresult⟩ := h
  cases hresult
  rw [record_ok hrecord]
  have hmatch : old.matching leaseId revision states = true := List.find?_some hfind
  obtain ⟨hlease, hcurrent, hstate⟩ := matching_of hmatch
  exact ⟨old, List.mem_of_find?_eq_some hfind, hlease, hcurrent, hstate, rfl, rfl⟩

theorem activate_ok {keyId : List Char} {expiration : Millis} (hids : (rows.map (·.leaseId)).Nodup)
    (h : backend.run descriptorDigest rows (.activate leaseId revision keyId expiration now)
      = .ok (rows', answer)) :
    ∃ old, Updated rows rows' answer leaseId revision [.prepared]
      (·.activated keyId expiration now) old := by
  cases backend with
  | sqlite =>
    simp only [LeaseBackend.run, SQLiteElasticLeaseJournal.run, bind_eq_ok] at h
    obtain ⟨-, -, -, -, -, -, hupdate⟩ := h
    exact sqlite_update_ok hids (fun _ => rfl) hupdate
  | postgres ctype =>
    simp only [LeaseBackend.run, PostgresElasticLeaseJournal.run, bind_eq_ok] at h
    obtain ⟨-, -, -, -, -, -, -, -, -, -, hupdate⟩ := h
    exact postgres_update_ok hupdate

theorem beginRevocation_ok {reason : Option (List Char)} (hids : (rows.map (·.leaseId)).Nodup)
    (h : backend.run descriptorDigest rows (.beginRevocation leaseId revision reason)
      = .ok (rows', answer)) :
    ∃ old, Updated rows rows' answer leaseId revision unsettledStates (·.revoking reason) old := by
  cases backend with
  | sqlite => exact sqlite_update_ok hids (fun _ => rfl) h
  | postgres ctype =>
    simp only [LeaseBackend.run, PostgresElasticLeaseJournal.run, bind_eq_ok] at h
    obtain ⟨-, -, -, -, hupdate⟩ := h
    exact postgres_update_ok hupdate

theorem markRevoked_ok (hids : (rows.map (·.leaseId)).Nodup)
    (h : backend.run descriptorDigest rows (.markRevoked leaseId revision now)
      = .ok (rows', answer)) :
    ∃ old, Updated rows rows' answer leaseId revision [.revokePending] (·.settled now) old := by
  cases backend with
  | sqlite =>
    simp only [LeaseBackend.run, SQLiteElasticLeaseJournal.run, bind_eq_ok] at h
    obtain ⟨-, -, hupdate⟩ := h
    exact sqlite_update_ok hids (fun _ => rfl) hupdate
  | postgres ctype =>
    simp only [LeaseBackend.run, PostgresElasticLeaseJournal.run, bind_eq_ok] at h
    obtain ⟨-, -, -, -, hupdate⟩ := h
    exact postgres_update_ok hupdate

end

end ControlAssurance.Pam
