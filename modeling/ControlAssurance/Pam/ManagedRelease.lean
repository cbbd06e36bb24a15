import ControlAssurance.Pam.LeaseCalls
import ControlAssurance.Pam.ManagedCapture
import ControlAssurance.Pam.Recovery

/-!
# A capture is released after its key is revoked

A run of `managedCapture` while other replicas use the same journal. Each of them may call the
journal between any two steps of the run, also between the write of a row and its reading back;
what it cannot do is activate a lease that it has not prepared (`OtherCall`). The run either ends
with a capture whose lease is settled in the journal, with the key that was used for it, or it
raises and leaves a lease that recovery finds (`managed_capture_settles`).
-/

namespace ControlAssurance.Pam

open Lib Attestation Connectors

/-! ## The journal among replicas -/

section

variable (backend : LeaseBackend) (descriptorDigest : List Char → Digest) (own : LeaseId)

/-- Rows that some calls have left. -/
def JournalRows : LeaseRows → Prop :=
  Relation.ReflTransGen
    (fun rows rows' => ∃ call answer, backend.run descriptorDigest rows call = .ok (rows', answer)) []

/-- A call of another replica. A broker activates only the lease it prepared, so not `own`. -/
def OtherCall (rows rows' : LeaseRows) : Prop :=
  ∃ call answer, (∀ revision keyId expiration now, call ≠ .activate own revision keyId expiration now)
    ∧ backend.run descriptorDigest rows call = .ok (rows', answer)

/-- Any number of calls of other replicas. -/
def Others : LeaseRows → LeaseRows → Prop :=
  Relation.ReflTransGen (OtherCall backend descriptorDigest own)

end

/-- The lease whose row a call writes. -/
def LeaseCall.writes : LeaseCall → Option LeaseId
  | .prepare leaseId .. | .activate leaseId .. | .beginRevocation leaseId .. | .markRevoked leaseId .. =>
    some leaseId
  | .get _ | .unsettled _ | .recordsForRequestDigest .. => none

section

variable (backend : LeaseBackend) (descriptorDigest : List Char → Digest) (own : LeaseId)

/-- A call on the journal, as its caller sees it. A write may be read back after calls of others,
and its exception may come before or after it is committed. -/
def JournalAnswers (call : LeaseCall) (rows : LeaseRows) (r : Except CaptureError LeaseAnswer)
    (rows' : LeaseRows) : Prop :=
  match r with
  | .ok answer => backend.run descriptorDigest rows call = .ok (rows', answer)
    ∨ ∃ leaseId written first, call.writes = some leaseId
      ∧ backend.run descriptorDigest rows call = .ok (written, first)
      ∧ Others backend descriptorDigest own written rows'
      ∧ backend.run descriptorDigest rows' (.get leaseId) = .ok (rows', answer)
  | .error _ => rows' = rows
    ∨ ∃ written first, backend.run descriptorDigest rows call = .ok (written, first)
      ∧ Others backend descriptorDigest own written rows'

/-- What a step of the run may answer, when its nonce source has at best `own`. -/
def managedExec : (c : ManagedCall) → LeaseRows → c.Out → LeaseRows → Prop
  | .nonce, rows, answer, rows' => (answer = none ∨ answer = some own) ∧ rows' = rows
  | .journal call, rows, r, rows' => JournalAnswers backend descriptorDigest own call rows r rows'
  | .now, rows, _, rows' | .create _, rows, _, rows' | .delete _, rows, _, rows'
  | .connector _, rows, _, rows' => rows' = rows

/-- A call that was made in a run. -/
abbrev ManagedStep := Made LeaseRows ManagedCall ManagedCall.Out

/-- A run of a client among other replicas. -/
abbrev Runs (p : ManagedClient) (rows : LeaseRows) (made : List ManagedStep)
    (r : Except CaptureError ManagedElasticCapture) (rows' : LeaseRows) : Prop :=
  Plays (managedExec backend descriptorDigest own) (Others backend descriptorDigest own) p rows made
    r rows'

end

/-! ## What is kept -/

/-- Every lease has one row, and each row reads back. -/
structure RowsInv (rows : LeaseRows) : Prop where
  ids : (rows.map (·.leaseId)).Nodup
  exact : ∀ r ∈ rows, r.exact = .ok r

/-- The columns of a row that a revocation leaves alone: its identity and its key. -/
def ElasticLeaseRecord.lasting (r : ElasticLeaseRecord) : ElasticLeaseRecord :=
  { r with
    state := .prepared
    revokedEpochMillis := none
    revokeAttempts := 0
    revision := 0
    lastError := none }

/-- What other replicas do to a lease: they may revoke it. Once it is revoked it stays as it is. -/
structure Onward (row row' : ElasticLeaseRecord) : Prop where
  lasting : row'.lasting = row.lasting
  settled : row.state = .revoked → row' = row

section

variable {row row' row'' : ElasticLeaseRecord}

theorem lasting_leaseId (h : row'.lasting = row.lasting) : row'.leaseId = row.leaseId :=
  congrArg (·.leaseId) h

theorem lasting_keyId (h : row'.lasting = row.lasting) : row'.keyId = row.keyId :=
  congrArg (·.keyId) h

theorem Onward.refl (row : ElasticLeaseRecord) : Onward row row := ⟨rfl, fun _ => rfl⟩

theorem Onward.leaseId (h : Onward row row') : row'.leaseId = row.leaseId :=
  lasting_leaseId h.lasting

theorem Onward.trans (h : Onward row row') (h' : Onward row' row'') : Onward row row'' := by
  refine ⟨h'.lasting.trans h.lasting, fun hrevoked => ?_⟩
  obtain rfl := h.settled hrevoked
  exact h'.settled hrevoked

end

section

variable {backend : LeaseBackend} {descriptorDigest : List Char → Digest} {own : LeaseId}
variable {rows rows' : LeaseRows} {answer : LeaseAnswer} {row : ElasticLeaseRecord}

/-- An update leaves a row as it was, or makes it its new version. -/
theorem Updated.moves {leaseId : LeaseId} {revision : Int} {states : List LeaseState}
    {set : ElasticLeaseRecord → ElasticLeaseRecord} {old : ElasticLeaseRecord}
    (h : Updated rows rows' answer leaseId revision states set old)
    (hids : (rows.map (·.leaseId)).Nodup) (hset : ∀ r, (set r).leaseId = r.leaseId)
    (hrow : row ∈ rows) : (row = old ∧ set old ∈ rows') ∨ row ∈ rows' := by
  have hmatch : old.matching leaseId revision states = true :=
    matching_iff.mpr ⟨h.lease, h.current, h.state⟩
  have hreplaced := updated_replaced set hids h.mem hmatch hset
  rw [← h.result] at hreplaced
  by_cases hsame : row.leaseId = old.leaseId
  · exact Or.inl ⟨List.inj_on_of_nodup_map hids hrow h.mem hsame, hreplaced.mem_new⟩
  · exact Or.inr ((hreplaced.rows row).mpr (Or.inr ⟨hrow, hsame⟩))

theorem Updated.inv {leaseId : LeaseId} {revision : Int} {states : List LeaseState}
    {set : ElasticLeaseRecord → ElasticLeaseRecord} {old : ElasticLeaseRecord}
    (h : Updated rows rows' answer leaseId revision states set old) (hinv : RowsInv rows)
    (hset : ∀ r, (set r).leaseId = r.leaseId)
    (hexact : ∀ x, x.exact = .ok x → (set x).exact = .ok (set x)) : RowsInv rows' := by
  rw [h.result]
  exact ⟨updateWhere_keys hset hinv.ids, updateWhere_exact set hinv.exact hexact⟩

/-- Only a key id of the right form is written. -/
theorem activate_key {leaseId : LeaseId} {revision : Int} {keyId : KeyId} {expiration now : Millis}
    (h : backend.run descriptorDigest rows (.activate leaseId revision keyId expiration now)
      = .ok (rows', answer)) : keyIdText keyId = true := by
  cases backend with
  | sqlite =>
    simp only [LeaseBackend.run, SQLiteElasticLeaseJournal.run, bind_eq_ok, require_eq_ok] at h
    exact h.choose_spec.1
  | postgres ctype =>
    simp only [LeaseBackend.run, PostgresElasticLeaseJournal.run, bind_eq_ok, require_eq_ok] at h
    exact h.choose_spec.1

/-- Every call keeps the rows sound. -/
theorem RowsInv.call {call : LeaseCall} (h : RowsInv rows)
    (hrun : backend.run descriptorDigest rows call = .ok (rows', answer)) : RowsInv rows' := by
  cases call with
  | prepare leaseId keyName policy requestDigest endpointOriginDigest now =>
    obtain ⟨hnew, rfl, -⟩ := prepare_ok hrun
    refine ⟨append_keys h.ids fun x hx => (hnew x hx).1, fun r hr => ?_⟩
    rcases List.mem_append.mp hr with hr | hr
    · exact h.exact r hr
    · rw [List.mem_singleton.mp hr]
      unfold ElasticLeaseRecord.exact
      rw [require_pos (show alertAlias (preparedRow descriptorDigest leaseId keyName policy
        requestDigest endpointOriginDigest now).indexAlias = true from policy.aliasExact), ok_bind,
        require_pos fun k hk => (nomatch hk)]
      rfl
  | activate leaseId revision keyId expiration now =>
    obtain ⟨old, hupdated⟩ := activate_ok h.ids hrun
    refine hupdated.inv h (fun _ => rfl) fun x hx => ?_
    unfold ElasticLeaseRecord.exact at hx ⊢
    simp only [bind_eq_ok, require_eq_ok] at hx
    obtain ⟨-, halias, -⟩ := hx
    rw [require_pos (show alertAlias (x.activated keyId expiration now).indexAlias = true from
      halias), ok_bind, require_pos fun k hk => by
        obtain rfl := Option.some.inj hk
        exact activate_key hrun]
    rfl
  | beginRevocation leaseId revision reason =>
    obtain ⟨old, hupdated⟩ := beginRevocation_ok h.ids hrun
    exact hupdated.inv h (fun _ => rfl) fun x hx => @exact_same x _ rfl rfl hx
  | markRevoked leaseId revision now =>
    obtain ⟨old, hupdated⟩ := markRevoked_ok h.ids hrun
    exact hupdated.inv h (fun _ => rfl) fun x hx => @exact_same x _ rfl rfl hx
  | get leaseId =>
    obtain ⟨rfl, -⟩ := get_ok hrun
    exact h
  | unsettled limit =>
    obtain ⟨rfl, -⟩ := unsettled_ok hrun
    exact h
  | recordsForRequestDigest requestDigest unsettledOnly limit =>
    obtain ⟨rfl, -⟩ := recordsForRequestDigest_ok hrun
    exact h

theorem JournalRows.inv (h : JournalRows backend descriptorDigest rows) : RowsInv rows := by
  induction h with
  | refl => exact ⟨List.nodup_nil, fun _ hr => absurd hr List.not_mem_nil⟩
  | tail _ hstep ih =>
    obtain ⟨call, answer, hrun⟩ := hstep
    exact ih.call hrun

/-- A call that does not activate the lease moves its row on. -/
theorem call_onward {call : LeaseCall} (h : RowsInv rows)
    (hcall : ∀ revision keyId expiration now,
      call ≠ .activate row.leaseId revision keyId expiration now)
    (hrun : backend.run descriptorDigest rows call = .ok (rows', answer)) (hrow : row ∈ rows) :
    ∃ row' ∈ rows', Onward row row' := by
  cases call with
  | prepare leaseId keyName policy requestDigest endpointOriginDigest now =>
    obtain ⟨-, rfl, -⟩ := prepare_ok hrun
    exact ⟨row, List.mem_append_left _ hrow, .refl row⟩
  | activate leaseId revision keyId expiration now =>
    obtain ⟨old, hupdated⟩ := activate_ok h.ids hrun
    rcases hupdated.moves h.ids (fun _ => rfl) hrow with ⟨rfl, -⟩ | hkept
    · exact absurd (by rw [hupdated.lease]) (hcall revision keyId expiration now)
    · exact ⟨row, hkept, .refl row⟩
  | beginRevocation leaseId revision reason =>
    obtain ⟨old, hupdated⟩ := beginRevocation_ok h.ids hrun
    rcases hupdated.moves h.ids (fun _ => rfl) hrow with ⟨rfl, hnew⟩ | hkept
    · refine ⟨_, hnew, rfl, fun hrevoked => ?_⟩
      exact absurd hrevoked (mem_unsettledStates.mp hupdated.state)
    · exact ⟨row, hkept, .refl row⟩
  | markRevoked leaseId revision now =>
    obtain ⟨old, hupdated⟩ := markRevoked_ok h.ids hrun
    rcases hupdated.moves h.ids (fun _ => rfl) hrow with ⟨rfl, hnew⟩ | hkept
    · refine ⟨_, hnew, rfl, fun hrevoked => ?_⟩
      rw [List.mem_singleton.mp hupdated.state] at hrevoked
      cases hrevoked
    · exact ⟨row, hkept, .refl row⟩
  | get leaseId =>
    obtain ⟨rfl, -⟩ := get_ok hrun
    exact ⟨row, hrow, .refl row⟩
  | unsettled limit =>
    obtain ⟨rfl, -⟩ := unsettled_ok hrun
    exact ⟨row, hrow, .refl row⟩
  | recordsForRequestDigest requestDigest unsettledOnly limit =>
    obtain ⟨rfl, -⟩ := recordsForRequestDigest_ok hrun
    exact ⟨row, hrow, .refl row⟩

theorem Others.inv (h : Others backend descriptorDigest own rows rows') (hinv : RowsInv rows) :
    RowsInv rows' := by
  induction h with
  | refl => exact hinv
  | tail _ hstep ih =>
    obtain ⟨call, answer, -, hrun⟩ := hstep
    exact ih.call hrun

theorem Others.onward (h : Others backend descriptorDigest own rows rows') (hinv : RowsInv rows)
    (hrow : row ∈ rows) (hown : row.leaseId = own) : ∃ row' ∈ rows', Onward row row' := by
  induction h with
  | refl => exact ⟨row, hrow, .refl row⟩
  | tail hsteps hstep ih =>
    obtain ⟨row₁, hrow₁, honward⟩ := ih
    obtain ⟨call, answer, hother, hrun⟩ := hstep
    have hown₁ : row₁.leaseId = own := honward.leaseId.trans hown
    obtain ⟨row₂, hrow₂, hnext⟩ := call_onward (Others.inv hsteps hinv)
      (by rw [hown₁]; exact hother) hrun hrow₁
    exact ⟨row₂, hrow₂, honward.trans hnext⟩

/-- A lease has one row. -/
theorem RowsInv.same (h : RowsInv rows) {x y : ElasticLeaseRecord} (hx : x ∈ rows) (hy : y ∈ rows)
    (hsame : x.leaseId = y.leaseId) : x = y :=
  List.inj_on_of_nodup_map h.ids hx hy hsame

/-! ## One call on the journal -/

/-- The row that a write was answered with: what it wrote, or what others made of that. -/
theorem answered_row {call : LeaseCall} {P : ElasticLeaseRecord → Prop} (hinv : RowsInv rows)
    (hwrites : call.writes = some own)
    (h : JournalAnswers backend descriptorDigest own call rows (.ok answer) rows')
    (hwrite : ∀ written first, backend.run descriptorDigest rows call = .ok (written, first) →
      ∃ new, P new ∧ first = .record new ∧ new ∈ written ∧ new.leaseId = own) :
    ∃ new x, P new ∧ answer = .record x ∧ x ∈ rows' ∧ Onward new x ∧ RowsInv rows' := by
  rcases h with hrun | ⟨leaseId, written, first, hlease, hrun, hothers, hget⟩
  · obtain ⟨new, hnew, hanswer, hmem, -⟩ := hwrite _ _ hrun
    exact ⟨new, new, hnew, hanswer, hmem, .refl new, hinv.call hrun⟩
  · obtain rfl := Option.some.inj (hwrites.symm.trans hlease)
    obtain ⟨new, hnew, -, hmem, hown⟩ := hwrite _ _ hrun
    have hwritten := hinv.call hrun
    obtain ⟨row', hrow', honward⟩ := hothers.onward hwritten hmem hown
    obtain ⟨-, x, hx, hid, hanswer⟩ := get_ok hget
    have hafter := hothers.inv hwritten
    obtain rfl := hafter.same hx hrow' (hid.trans (honward.leaseId.trans hown).symm)
    exact ⟨new, x, hnew, hanswer, hx, honward, hafter⟩

/-- The new row of a lease. -/
theorem prepared_answer {keyName : KeyName} {policy : ElasticPamPolicy}
    {requestDigest endpointOriginDigest : Digest} {now : Millis} (hinv : RowsInv rows)
    (h : JournalAnswers backend descriptorDigest own (.prepare own keyName policy requestDigest
      endpointOriginDigest now) rows (.ok answer) rows') :
    (∀ r ∈ rows, r.leaseId ≠ own) ∧ ∃ x, answer = .record x ∧ x ∈ rows' ∧ RowsInv rows'
      ∧ x.lasting = (preparedRow descriptorDigest own keyName policy requestDigest
        endpointOriginDigest now).lasting := by
  have hfresh : ∀ r ∈ rows, r.leaseId ≠ own := by
    rcases h with hrun | ⟨_, _, _, _, hrun, _⟩ <;> exact fun r hr => ((prepare_ok hrun).1 r hr).1
  obtain ⟨new, x, rfl, hanswer, hx, honward, hafter⟩ := answered_row
    (P := (· = preparedRow descriptorDigest own keyName policy requestDigest endpointOriginDigest
      now)) hinv rfl h fun written first hrun => by
      obtain ⟨-, rfl, rfl⟩ := prepare_ok hrun
      exact ⟨_, rfl, rfl, List.mem_append_right _ (List.mem_singleton.mpr rfl), rfl⟩
  exact ⟨hfresh, x, hanswer, hx, hafter, honward.lasting⟩

/-- The row of a lease after an update by the run itself. -/
theorem updated_answer (set : ElasticLeaseRecord → ElasticLeaseRecord) {call : LeaseCall}
    {revision : Int} {states : List LeaseState} (hinv : RowsInv rows)
    (hwrites : call.writes = some own) (hset : ∀ r, (set r).leaseId = r.leaseId)
    (hupdate : ∀ written first, backend.run descriptorDigest rows call = .ok (written, first) →
      ∃ old, Updated rows written first own revision states set old)
    (h : JournalAnswers backend descriptorDigest own call rows (.ok answer) rows') :
    ∃ old x, (old ∈ rows ∧ old.leaseId = own) ∧ answer = .record x ∧ x ∈ rows' ∧ RowsInv rows'
      ∧ Onward (set old) x := by
  obtain ⟨new, x, ⟨old, hold, rfl⟩, hanswer, hx, honward, hafter⟩ := answered_row
    (P := fun new => ∃ old, (old ∈ rows ∧ old.leaseId = own) ∧ new = set old) hinv hwrites h
    fun written first hrun => by
      obtain ⟨old, hupdated⟩ := hupdate written first hrun
      have hnew : set old ∈ written := by
        rcases hupdated.moves hinv.ids hset hupdated.mem with ⟨-, hnew⟩ | hkept
        · exact hnew
        · have hmatch : old.matching own revision states = true :=
            matching_iff.mpr ⟨hupdated.lease, hupdated.current, hupdated.state⟩
          rw [hupdated.result]
          exact (updated_replaced set hinv.ids hupdated.mem hmatch hset).mem_new
      exact ⟨set old, ⟨old, ⟨hupdated.mem, hupdated.lease⟩, rfl⟩, hupdated.answered, hnew,
        (hset old).trans hupdated.lease⟩
  exact ⟨old, x, hold, hanswer, hx, hafter, honward⟩

/-- The row of a lease as it is. -/
theorem read_answer
    (h : JournalAnswers backend descriptorDigest own (.get own) rows (.ok answer) rows') :
    rows' = rows ∧ ∃ x ∈ rows, x.leaseId = own ∧ answer = .record x := by
  rcases h with hrun | ⟨_, _, _, hno, _⟩
  · exact get_ok hrun
  · cases hno

/-! ## A run -/

/-- What is told of a run: the leases that were prepared, the keys that were activated, what the
connector was given and returned, and the answers to the deletions. -/
inductive Noted where
  | prepared (leaseId : LeaseId) (before : LeaseRows)
  | activated (leaseId : LeaseId) (keyId : KeyId)
  | connected (key : Text) (outcome : Except CaptureError (Option ConnectorCapture))
  | deleted (response : Except CaptureError PamHttpResponse)

def noted : ManagedStep → Option Noted
  | ⟨.journal (.prepare leaseId ..), before, _, _⟩ => some (.prepared leaseId before)
  | ⟨.journal (.activate leaseId _ keyId _ _), _, _, _⟩ => some (.activated leaseId keyId)
  | ⟨.connector key, _, outcome, _⟩ => some (.connected key outcome)
  | ⟨.delete _, _, response, _⟩ => some (.deleted response)
  | _ => none

/-- Elasticsearch reported no error and that the key is invalid now. -/
def AccountsFor (R : ManagedRuntime) (key : KeyId) (response : PamHttpResponse) : Prop :=
  ∃ parsed invalidated previous, responseJson R "revoke-key" response = .ok parsed
    ∧ idList (member parsed "invalidated_api_keys") = some invalidated
    ∧ idList (member parsed "previously_invalidated_api_keys") = some previous
    ∧ intValue (member parsed "error_count") = some 0
    ∧ (codes key ∈ invalidated ∨ codes key ∈ previous)

/-- The encoding of a key id and some secret. -/
def Encodes (encoded : Text) (key : KeyId) : Prop :=
  ∃ keyId secret, chars keyId = key ∧ b64decode encoded = some (utf8Text (keyId ++ text ":" ++ secret))

section

variable {R : ManagedRuntime}
variable {made : List ManagedStep} {m : ManagedElasticCapture}
variable {r : Except CaptureError ManagedElasticCapture}

/-- A journal call that returns one record. -/
theorem managedRecord_plays {call : LeaseCall}
    {k : Except CaptureError ElasticLeaseRecord → ManagedClient}
    (h : Runs backend descriptorDigest own (managedRecord call k) rows made r rows') :
    ∃ before result after rest, Others backend descriptorDigest own rows before
      ∧ JournalAnswers backend descriptorDigest own call before result after
      ∧ made = ⟨.journal call, before, result, after⟩ :: rest
      ∧ ((∃ x, result = .ok (.record x)
          ∧ Runs backend descriptorDigest own (k (.ok x)) after rest r rows')
        ∨ ∃ e, Runs backend descriptorDigest own (k (.error e)) after rest r rows') := by
  cases h with
  | @call _ _ _ before result after _ _ _ hothers hexec hrest =>
    refine ⟨before, result, after, _, hothers, hexec, rfl, ?_⟩
    rcases (result : Except CaptureError LeaseAnswer) with e | (x | xs)
    · exact Or.inr ⟨e, hrest⟩
    · exact Or.inl ⟨x, rfl, hrest⟩
    · exact Or.inr ⟨_, hrest⟩

/-- What the broker read from a response it went on with. -/
theorem checkResponse_ok {stage : String} {response : Except CaptureError PamHttpResponse}
    {parsed : Members} (h : checkResponse R stage response = .ok parsed) :
    ∃ raw, response = .ok raw ∧ responseJson R stage raw = .ok parsed := by
  simp only [checkResponse, bind_eq_ok, require_eq_ok, mapError_eq_ok] at h
  obtain ⟨raw, hraw, -, -, hparsed⟩ := h
  exact ⟨raw, hraw, hparsed⟩

theorem readCreatedKey_ok {record : ElasticLeaseRecord} {policy : ElasticPamPolicy}
    {sentAt : Millis} {parsed : Members} {created : CreatedKey}
    (h : readCreatedKey record policy sentAt parsed = .ok created) :
    Encodes created.encoded created.keyId := by
  simp only [readCreatedKey, bind_eq_ok, require_eq_ok, expect_eq_ok, pure_eq_ok] at h
  obtain ⟨-, -, keyId, -, -, -, -, -, rawKey, -, encoded, -, -, -, -, -, decoded, hdecoded, -, -, -,
    ⟨rfl, -⟩, expiration, -, -, -, rfl⟩ := h
  exact ⟨keyId, rawKey, rfl, hdecoded⟩

theorem readRevocation_ok {pending : ElasticLeaseRecord} {parsed : Members} {key : KeyId}
    {outcome : RevocationOutcome} (hkey : pending.keyId = some key)
    (h : readRevocation pending parsed = .ok outcome) :
    ∃ invalidated previous, idList (member parsed "invalidated_api_keys") = some invalidated
      ∧ idList (member parsed "previously_invalidated_api_keys") = some previous
      ∧ intValue (member parsed "error_count") = some 0
      ∧ (codes key ∈ invalidated ∨ codes key ∈ previous) := by
  simp only [readRevocation, bind_eq_ok, require_eq_ok, expect_eq_ok, hkey] at h
  obtain ⟨-, -, invalidated, hinvalidated, previous, hprevious, -, ⟨hcount, -⟩, h⟩ := h
  refine ⟨invalidated, previous, hinvalidated, hprevious, hcount, ?_⟩
  split at h
  next hmem => exact Or.inl hmem
  next =>
    split at h
    next hmem => exact Or.inr hmem
    next => cases h

/-- A revocation that went through. -/
theorem revokeKey_plays {record : ElasticLeaseRecord} {reason : Option (List Char)}
    {k : Except CaptureError (ElasticLeaseRecord × RevocationOutcome × Digest) → ManagedClient}
    {key : KeyId} (hinv : RowsInv rows) (hrecord : record ∈ rows) (hown : record.leaseId = own)
    (hkey : record.keyId = some key) (hk : ∀ e, OnlyRaises (k (.error e)))
    (h : Runs backend descriptorDigest own (revokeKey R record reason k) rows made (.ok m) rows') :
    ∃ response revoked outcome digest after rest,
      made.filterMap noted = .deleted (.ok response) :: rest.filterMap noted
      ∧ AccountsFor R key response ∧ RowsInv after ∧ revoked ∈ after ∧ revoked.state = .revoked
      ∧ revoked.lasting = record.lasting
      ∧ Runs backend descriptorDigest own (k (.ok (revoked, outcome, digest))) after rest (.ok m)
        rows' := by
  obtain ⟨before, result, after, rest, hothers, hjournal, rfl, ⟨pending, rfl, hrest⟩ | ⟨e, hrest⟩⟩ :=
    managedRecord_plays h
  · obtain ⟨row, hrow, honward⟩ := hothers.onward hinv hrecord hown
    have hbefore := hothers.inv hinv
    rw [hown] at hjournal
    obtain ⟨old, x, ⟨hold, holdOwn⟩, hanswer, hx, hafter, hbegun⟩ := updated_answer
      (·.revoking reason) hbefore rfl (fun _ => rfl)
      (fun _ _ hrun => beginRevocation_ok hbefore.ids hrun) hjournal
    obtain rfl : pending = x := LeaseAnswer.record.inj hanswer
    obtain rfl : row = old := hbefore.same hrow hold
      ((honward.leaseId.trans hown).trans holdOwn.symm)
    have hlasting : pending.lasting = record.lasting := hbegun.lasting.trans honward.lasting
    have hpendingOwn : pending.leaseId = own := (lasting_leaseId hlasting).trans hown
    have hpendingKey : pending.keyId = some key := (lasting_keyId hlasting).trans hkey
    dsimp only at hrest
    split at hrest
    next => exact absurd ((hk _).raised hrest).choose_spec (fun hno => nomatch hno)
    next body _ =>
      cases hrest with
      | @call _ _ _ before₁ response after₁ _ _ _ hothers₁ hexec₁ hrest =>
        obtain rfl := hexec₁
        dsimp only at hrest
        split at hrest
        next => exact absurd ((hk _).raised hrest).choose_spec (fun hno => nomatch hno)
        next outcome houtcome =>
          rw [bind_eq_ok] at houtcome
          obtain ⟨parsed, hparsed, hread⟩ := houtcome
          obtain ⟨raw, rfl, hjson⟩ := checkResponse_ok hparsed
          obtain ⟨invalidated, previous, hinvalidated, hprevious, hcount, hmem⟩ :=
            readRevocation_ok hpendingKey hread
          cases hrest with
          | @call _ _ _ before₂ now after₂ _ _ _ hothers₂ hexec₂ hrest =>
            obtain rfl := hexec₂
            obtain ⟨before₃, result₃, after₃, rest₃, hothers₃, hjournal₃, rfl,
              ⟨revoked, rfl, hlast⟩ | ⟨e, hlast⟩⟩ := managedRecord_plays hrest
            · have hothersAll := (hothers₁.trans hothers₂).trans hothers₃
              obtain ⟨row₃, hrow₃, honward₃⟩ := Others.onward hothersAll hafter hx hpendingOwn
              have hbefore₃ := Others.inv hothersAll hafter
              rw [hpendingOwn] at hjournal₃
              obtain ⟨old₃, y, ⟨hold₃, holdOwn₃⟩, hanswer₃, hy, hafter₃, hsettled⟩ :=
                updated_answer (·.settled now) hbefore₃ rfl (fun _ => rfl)
                  (fun _ _ hrun => markRevoked_ok hbefore₃.ids hrun) hjournal₃
              obtain rfl : revoked = y := LeaseAnswer.record.inj hanswer₃
              obtain rfl : row₃ = old₃ := hbefore₃.same hrow₃ hold₃
                ((honward₃.leaseId.trans hpendingOwn).trans holdOwn₃.symm)
              refine ⟨raw, revoked, outcome, R.sha body, after₃, rest₃, rfl,
                ⟨parsed, invalidated, previous, hjson, hinvalidated, hprevious, hcount, hmem⟩,
                hafter₃, hy, ?_, ?_, hlast⟩
              · rw [hsettled.settled rfl]
                rfl
              · exact (hsettled.lasting.trans honward₃.lasting).trans hlasting
            · exact absurd ((hk e).raised hlast).choose_spec (fun hno => nomatch hno)
  · exact absurd ((hk e).raised hrest).choose_spec (fun hno => nomatch hno)

/-- A key that was issued: it is active in the journal. -/
theorem issueKey_plays {record : ElasticLeaseRecord} {policy : ElasticPamPolicy}
    {k : Except CaptureError (Text × Digest) → ManagedClient} (hinv : RowsInv rows)
    (hown : record.leaseId = own) (hk : ∀ e, OnlyRaises (k (.error e)))
    (h : Runs backend descriptorDigest own (issueKey R record policy k) rows made (.ok m) rows') :
    ∃ encoded key digest after active rest,
      made.filterMap noted = .activated own key :: rest.filterMap noted ∧ Encodes encoded key
      ∧ RowsInv after ∧ active ∈ after ∧ active.leaseId = own ∧ active.keyId = some key
      ∧ Runs backend descriptorDigest own (k (.ok (encoded, digest))) after rest (.ok m) rows' := by
  unfold issueKey at h
  split at h
  next => exact absurd ((hk _).raised h).choose_spec (fun hno => by cases hno)
  next body _ =>
    cases h with
    | @call _ _ _ before sentAt after _ _ _ hothers hexec h =>
      obtain rfl := hexec
      cases h with
      | @call _ _ _ before₁ response after₁ _ _ _ hothers₁ hexec₁ h =>
        obtain rfl := hexec₁
        dsimp only at h
        split at h
        next => exact absurd ((hk _).raised h).choose_spec (fun hno => by cases hno)
        next created hcreated =>
          rw [bind_eq_ok] at hcreated
          obtain ⟨parsed, -, hread⟩ := hcreated
          cases h with
          | @call _ _ _ before₂ now after₂ _ _ _ hothers₂ hexec₂ h =>
            obtain rfl := hexec₂
            obtain ⟨before₃, result, after₃, rest, hothers₃, hjournal, rfl,
              ⟨active, rfl, hrest⟩ | ⟨e, hrest⟩⟩ := managedRecord_plays h
            · have hothersAll := ((hothers.trans hothers₁).trans hothers₂).trans hothers₃
              have hbefore₃ := Others.inv hothersAll hinv
              rw [hown] at hjournal
              obtain ⟨old, x, ⟨hold, holdOwn⟩, hanswer, hx, hafter, hactivated⟩ := updated_answer
                (·.activated created.keyId created.expiration now) hbefore₃ rfl (fun _ => rfl)
                (fun _ _ hrun => activate_ok hbefore₃.ids hrun) hjournal
              obtain rfl : active = x := LeaseAnswer.record.inj hanswer
              have hactive : active.leaseId = own :=
                (lasting_leaseId hactivated.lasting).trans holdOwn
              have hkey : active.keyId = some created.keyId := lasting_keyId hactivated.lasting
              dsimp only at hrest
              cases hencoded : elasticApiKey created.encoded with
              | error e =>
                rw [hencoded] at hrest
                exact absurd ((hk e).raised hrest).choose_spec (fun hno => by cases hno)
              | ok encoded =>
                have hsame : encoded = created.encoded := by
                  simp only [elasticApiKey, bind_eq_ok, pure_eq_ok] at hencoded
                  obtain ⟨-, -, rfl⟩ := hencoded
                  rfl
                rw [hencoded] at hrest
                refine ⟨encoded, created.keyId, R.sha body, after₃, active, rest, ?_,
                  hsame ▸ readCreatedKey_ok hread, hafter, hx, hactive, hkey, hrest⟩
                show Noted.activated record.leaseId created.keyId :: rest.filterMap noted = _
                rw [hown]
            · exact absurd ((hk e).raised hrest).choose_spec (fun hno => by cases hno)

end

/-! ## Failures -/

section

variable {R : ManagedRuntime}

theorem managedRecord_raises {call : LeaseCall}
    {k : Except CaptureError ElasticLeaseRecord → ManagedClient} (hk : ∀ r, OnlyRaises (k r)) :
    OnlyRaises (managedRecord call k) := by
  intro answer
  rcases (answer : Except CaptureError LeaseAnswer) with e | (x | xs)
  · exact hk (.error e)
  · exact hk (.ok x)
  · exact hk _

theorem revokeKey_raises {record : ElasticLeaseRecord} {reason : Option (List Char)}
    {k : Except CaptureError (ElasticLeaseRecord × RevocationOutcome × Digest) → ManagedClient}
    (hk : ∀ r, OnlyRaises (k r)) : OnlyRaises (revokeKey R record reason k) := by
  refine managedRecord_raises fun r => ?_
  cases r with
  | error e => exact hk _
  | ok pending =>
    dsimp only
    split
    next => exact hk _
    next body _ =>
      intro response
      dsimp only
      split
      next => exact hk _
      next => exact fun now => managedRecord_raises fun r => hk _

/-- A capture whose operation failed ends with an exception. -/
theorem settleManaged_raises (leaseId : LeaseId) (anchors : ConnectorCapture → PamAnchors)
    (e : CaptureError) : OnlyRaises (settleManaged R leaseId anchors (.error e)) := by
  refine managedRecord_raises fun r => ?_
  cases r with
  | error e => exact ⟨e, rfl⟩
  | ok latest =>
    refine revokeKey_raises fun r => ?_
    cases r with
    | error e' => exact ⟨_, rfl⟩
    | ok revoked => exact ⟨_, rfl⟩

end

/-! ## The receipt -/

section

variable {R : ManagedRuntime}

/-- A time that was written is read back, and one that was not is refused. -/
theorem Same.time {v : Option Int} {read : JsonValue} {time : Int}
    (hsame : Same (optionalInt v) read) (h : lifecycleTime read = .ok time) :
    v = some time := by
  simp only [lifecycleTime, bind_eq_ok, expect_eq_ok, require_eq_ok, pure_eq_ok] at h
  obtain ⟨time, htime, -, -, rfl⟩ := h
  cases v with
  | none =>
    have hnull : read = .null := by simpa [optionalInt, Same] using hsame.symm
    rw [hnull] at htime
    cases htime
  | some n =>
    rw [Same.int hsame] at htime
    exact congrArg some (Option.some.inj htime)

/-- The life cycle of a lease was closed before its key expired. -/
def ElasticLeaseRecord.ClosedInTime (r : ElasticLeaseRecord) : Prop :=
  ∃ activated revoked expiration, r.activatedEpochMillis = some activated
    ∧ r.revokedEpochMillis = some revoked ∧ r.expirationEpochMillis = some expiration
    ∧ r.createdEpochMillis ≤ activated ∧ activated ≤ revoked ∧ revoked < expiration

/-- The lifecycle that `verify_elastic_pam_receipt` checks on a loaded receipt. -/
theorem verifyPamDocument_times {anchors : PamAnchors} {parsed : Members} {leaseId : Text}
    (h : verifyPamDocument anchors parsed = .ok leaseId) :
    ∃ lease created activated revoked expiration, membersValue (member parsed "lease") = some lease
      ∧ lifecycleTime (member lease "created_epoch_millis") = .ok created
      ∧ lifecycleTime (member lease "activated_epoch_millis") = .ok activated
      ∧ lifecycleTime (member lease "revoked_epoch_millis") = .ok revoked
      ∧ lifecycleTime (member lease "expiration_epoch_millis") = .ok expiration
      ∧ created ≤ activated ∧ activated ≤ revoked ∧ revoked < expiration := by
  simp only [verifyPamDocument, bind_eq_ok, require_eq_ok, expect_eq_ok] at h
  obtain ⟨-, -, -, -, broker, -, -, -, capture, -, -, -, lease, hlease, mutations, -, -, -, -, -, -,
    -, leaseId, -, indexAlias, -, ttl, -, -, -, created, hcreated, activated, hactivated, revoked,
    hrevoked, expiration, hexpiration, -, hordered, -⟩ := h
  exact ⟨lease, created, activated, revoked, expiration, hlease, hcreated, hactivated, hrevoked,
    hexpiration, hordered⟩

theorem pamReceipt_floatFree (capture : ConnectorCapture) (revoked : ElasticLeaseRecord)
    (keyIdDigest createDigest invalidateDigest : Digest) (outcome : RevocationOutcome) :
    (pamReceipt R capture revoked keyIdDigest createDigest invalidateDigest outcome).FloatFree := by
  have htimes : ∀ value : Option Int, (optionalInt value).FloatFree := by
    intro value
    cases value <;> simp [optionalInt, JsonValue.FloatFree]
  simp [pamReceipt, object, literal, digestJson, JsonValue.FloatFree, MembersFloatFree, htimes]

/-- A released capture: its receipt is accepted, and it says when the lease was closed. -/
theorem releaseCapture_ok {anchors : PamAnchors} {capture : ConnectorCapture}
    {revoked : ElasticLeaseRecord} {outcome : RevocationOutcome}
    {createDigest invalidateDigest : Digest} (hR : ReadsBack R.toCanonicalRuntime)
    (h : releaseCapture R anchors capture revoked outcome createDigest invalidateDigest = .ok m) :
    m.capture = capture ∧ revoked.ClosedInTime ∧ ∃ verified,
      verifyElasticPamReceipt R anchors m.pamReceiptBytes = .ok verified
        ∧ verified.receiptDigest = m.pamReceiptDigest := by
  simp only [releaseCapture, bind_eq_ok, expect_eq_ok, mapError_eq_ok, pure_eq_ok] at h
  obtain ⟨key, -, receiptBytes, hwritten, verified, hverified, rfl⟩ := h
  refine ⟨rfl, ?_, verified, hverified, rfl⟩
  simp only [verifyElasticPamReceipt, bind_eq_ok, require_eq_ok, expect_eq_ok, mapError_eq_ok]
    at hverified
  obtain ⟨-, -, parsed, hparsed, -, -, -, -, members, hmembers, leaseId, hdocument, -⟩ := hverified
  obtain ⟨lease, created, activated, revokedAt, expiration, hlease, hcreated, hactivated, hrevoked,
    hexpiration, hordered⟩ := verifyPamDocument_times hdocument
  have hsame := hR _ _ _ _ _ (pamReceipt_floatFree ..) hwritten hparsed
  obtain rfl := membersValue_eq hmembers
  have hleaseSame := Same.member "lease" hsame rfl
  rw [membersValue_eq hlease] at hleaseSame
  have hcreatedSame := Same.member "created_epoch_millis" hleaseSame rfl
  rw [← Option.some.inj (Same.time (v := some revoked.createdEpochMillis) hcreatedSame hcreated)]
    at hordered
  exact ⟨activated, revokedAt, expiration,
    Same.time (Same.member "activated_epoch_millis" hleaseSame rfl) hactivated,
    Same.time (Same.member "revoked_epoch_millis" hleaseSame rfl) hrevoked,
    Same.time (Same.member "expiration_epoch_millis" hleaseSame rfl) hexpiration, hordered⟩

/-! ## From the request to the receipt -/

/-- The settlement of a capture that is released. -/
theorem settleManaged_plays {anchors : ConnectorCapture → PamAnchors} {capture : ConnectorCapture}
    {createDigest : Digest} {active : ElasticLeaseRecord} {key : KeyId}
    (hR : ReadsBack R.toCanonicalRuntime) (hinv : RowsInv rows) (hactive : active ∈ rows)
    (hown : active.leaseId = own) (hkey : active.keyId = some key)
    (h : Runs backend descriptorDigest own
      (settleManaged R own anchors (.ok (capture, createDigest))) rows made (.ok m) rows') :
    m.capture = capture ∧ (∃ response, made.filterMap noted = [.deleted (.ok response)]
        ∧ AccountsFor R key response)
      ∧ (∃ revoked ∈ rows', revoked.leaseId = own ∧ revoked.state = .revoked
        ∧ revoked.keyId = some key ∧ revoked.ClosedInTime)
      ∧ ∃ verified, verifyElasticPamReceipt R (anchors m.capture) m.pamReceiptBytes = .ok verified
        ∧ verified.receiptDigest = m.pamReceiptDigest := by
  obtain ⟨before, result, after, rest, hothers, hjournal, rfl, ⟨latest, rfl, hrest⟩ | ⟨e, hrest⟩⟩ :=
    managedRecord_plays h
  · obtain ⟨rfl, x, hx, hid, hanswer⟩ := read_answer hjournal
    obtain rfl : latest = x := LeaseAnswer.record.inj hanswer
    obtain ⟨row, hrow, honward⟩ := hothers.onward hinv hactive hown
    have hbefore := hothers.inv hinv
    obtain rfl : latest = row := hbefore.same hx hrow (hid.trans (honward.leaseId.trans hown).symm)
    obtain ⟨response, revoked, outcome, digest, after, rest, htold, haccounts, -, hmem, hstate,
      hlasting, hlast⟩ := revokeKey_plays hbefore hx hid ((lasting_keyId honward.lasting).trans hkey)
        (fun _ => by exact ⟨_, rfl⟩) hrest
    obtain ⟨rfl, hm, rfl⟩ := plays_ret hlast
    obtain ⟨hcapture, hclosed, hverified⟩ := releaseCapture_ok hR hm.symm
    refine ⟨hcapture, ⟨response, htold, haccounts⟩, ⟨revoked, hmem, ?_, hstate, ?_, hclosed⟩, ?_⟩
    · exact (lasting_leaseId hlasting).trans hid
    · exact (lasting_keyId hlasting).trans ((lasting_keyId honward.lasting).trans hkey)
    · rw [hcapture]
      exact hverified
  · obtain ⟨-, hno, -⟩ := plays_ret hrest
    cases hno

variable (descriptorDigest) (own) (R) in
/-- What a returned capture stands for: the one key that was activated, for a lease that did not
exist before, was handed to the connector, and Elasticsearch and the journal say it is revoked. -/
structure Released (policy : ElasticPamPolicy) (requestDigest : Digest) (made : List ManagedStep)
    (m : ManagedElasticCapture) (rows' before : LeaseRows) (encoded : Text) (key : KeyId)
    (response : PamHttpResponse) : Prop where
  story : made.filterMap noted = [.prepared own before, .activated own key,
    .connected encoded (.ok (some m.capture)), .deleted (.ok response)]
  fresh : ∀ r ∈ before, r.leaseId ≠ own
  encodes : Encodes encoded key
  accounted : AccountsFor R key response
  settled : ∃ revoked ∈ rows', revoked.leaseId = own ∧ revoked.state = .revoked
    ∧ revoked.keyId = some key ∧ revoked.ClosedInTime
  receipt : ∃ verified, verifyElasticPamReceipt R
      (captureAnchors R descriptorDigest policy requestDigest m.capture) m.pamReceiptBytes
        = .ok verified ∧ verified.receiptDigest = m.pamReceiptDigest

/-- A capture that is returned under its policy. -/
theorem captureUnder_plays {policy : ElasticPamPolicy} {requestDigest : Digest}
    (hR : ReadsBack R.toCanonicalRuntime) (hinv : RowsInv rows)
    (h : Runs backend descriptorDigest own (captureUnder R descriptorDigest policy requestDigest)
      rows made (.ok m) rows') :
    ∃ before encoded key response, Released descriptorDigest own R policy requestDigest made m rows'
      before encoded key response := by
  cases h with
  | @call _ _ _ before answer after _ _ _ hothers hexec h =>
    obtain ⟨hanswer, rfl⟩ := hexec
    rcases hanswer with rfl | rfl
    · obtain ⟨-, hno, -⟩ := plays_ret h
      cases hno
    cases h with
    | @call _ _ _ before₁ now after₁ _ _ _ hothers₁ hexec₁ h =>
      obtain rfl := hexec₁
      obtain ⟨before₂, result, after₂, rest, hothers₂, hjournal, rfl,
        ⟨prepared, rfl, hrest⟩ | ⟨e, hrest⟩⟩ := managedRecord_plays h
      · have hbefore := Others.inv ((hothers.trans hothers₁).trans hothers₂) hinv
        obtain ⟨hfresh, x, hanswer, hx, hafter, hlasting⟩ := prepared_answer hbefore hjournal
        obtain rfl : prepared = x := LeaseAnswer.record.inj hanswer
        have hprepared : prepared.leaseId = own := lasting_leaseId hlasting
        obtain ⟨encoded, key, digest, after₃, active, rest₃, htold, hencodes, hinv₃, hactive, hown,
          hkey, hissued⟩ := issueKey_plays hafter hprepared
            (fun e => by exact settleManaged_raises own _ e) hrest
        cases hissued with
        | @call _ _ _ before₄ outcome after₄ _ _ _ hothers₄ hexec₄ hsettle =>
          obtain rfl := hexec₄
          dsimp only at hsettle
          cases houtcome : connectorOutcome digest outcome with
          | error e =>
            rw [houtcome] at hsettle
            exact absurd ((settleManaged_raises own _ e).raised hsettle).choose_spec
              (fun hno => nomatch hno)
          | ok captured =>
            have hconnected := houtcome
            simp only [connectorOutcome, bind_eq_ok, expect_eq_ok, pure_eq_ok] at hconnected
            obtain ⟨_, rfl, capture, rfl, rfl⟩ := hconnected
            rw [houtcome] at hsettle
            obtain ⟨row, hrow, honward⟩ := hothers₄.onward hinv₃ hactive hown
            obtain ⟨rfl, ⟨response, hdeleted, haccounted⟩, hsettled, hreceipt⟩ :=
              settleManaged_plays hR (hothers₄.inv hinv₃) hrow (honward.leaseId.trans hown)
                ((lasting_keyId honward.lasting).trans hkey) hsettle
            refine ⟨before₂, encoded, key, response, ?_, hfresh, hencodes, haccounted, hsettled,
              hreceipt⟩
            show Noted.prepared own before₂ :: rest.filterMap noted = _
            rw [htold]
            show Noted.prepared own before₂ :: .activated own key
              :: .connected encoded (.ok (some m.capture)) :: _ = _
            rw [hdeleted]
      · obtain ⟨-, hno, -⟩ := plays_ret hrest
        cases hno

end

/-! ## What a failure leaves -/

/-- Sound rows, one of them of the lease. -/
structure Held (own : LeaseId) (rows : LeaseRows) : Prop where
  inv : RowsInv rows
  row : ∃ row ∈ rows, row.leaseId = own

theorem Held.call {call : LeaseCall} (h : Held own rows)
    (hrun : backend.run descriptorDigest rows call = .ok (rows', answer)) : Held own rows' := by
  obtain ⟨row, hrow, hown⟩ := h.row
  refine ⟨h.inv.call hrun, ?_⟩
  by_cases hcall : ∃ revision keyId expiration now,
      call = .activate row.leaseId revision keyId expiration now
  · obtain ⟨revision, keyId, expiration, now, rfl⟩ := hcall
    obtain ⟨old, hupdated⟩ := activate_ok h.inv.ids hrun
    rcases hupdated.moves h.inv.ids (fun _ => rfl) hrow with ⟨rfl, hnew⟩ | hkept
    · exact ⟨_, hnew, hown⟩
    · exact ⟨row, hkept, hown⟩
  · obtain ⟨row', hrow', honward⟩ := call_onward h.inv
      (fun revision keyId expiration now hsame => hcall ⟨revision, keyId, expiration, now, hsame⟩)
      hrun hrow
    exact ⟨row', hrow', honward.leaseId.trans hown⟩

theorem Held.others (h : Held own rows) (hothers : Others backend descriptorDigest own rows rows') :
    Held own rows' := by
  induction hothers with
  | refl => exact h
  | tail _ hstep ih =>
    obtain ⟨call, answer, -, hrun⟩ := hstep
    exact ih.call hrun

/-- What every call keeps, a call as its caller sees it keeps. -/
theorem JournalAnswers.keeps {P : LeaseRows → Prop} {call : LeaseCall}
    {r : Except CaptureError LeaseAnswer} (hrun : ∀ {rows rows' call answer}, P rows →
      backend.run descriptorDigest rows call = .ok (rows', answer) → P rows')
    (hothers : ∀ {rows rows'}, P rows → Others backend descriptorDigest own rows rows' → P rows')
    (h : JournalAnswers backend descriptorDigest own call rows r rows') (hP : P rows) : P rows' := by
  cases r with
  | ok answer =>
    rcases h with hok | ⟨_, written, _, -, hwritten, hmoved, -⟩
    · exact hrun hP hok
    · exact hothers (hrun hP hwritten) hmoved
  | error e =>
    rcases h with rfl | ⟨written, _, hwritten, hmoved⟩
    · exact hP
    · exact hothers (hrun hP hwritten) hmoved

theorem managedExec_keeps {P : LeaseRows → Prop} (hrun : ∀ {rows rows' call answer}, P rows →
      backend.run descriptorDigest rows call = .ok (rows', answer) → P rows')
    (hothers : ∀ {rows rows'}, P rows → Others backend descriptorDigest own rows rows' → P rows')
    (c : ManagedCall) (rows : LeaseRows) (answer : c.Out) (rows' : LeaseRows) (hP : P rows)
    (h : managedExec backend descriptorDigest own c rows answer rows') : P rows' := by
  cases c with
  | journal call => exact JournalAnswers.keeps hrun hothers h hP
  | nonce =>
    obtain ⟨-, rfl⟩ := h
    exact hP
  | now | create | delete | connector =>
    obtain rfl := h
    exact hP

/-- The journal answered that the lease is prepared, or it has the lease. -/
def Prepared (own : LeaseId) (step : ManagedStep) : Prop :=
  (∃ keyName policy requestDigest endpointOriginDigest now before answer after,
    step = ⟨.journal (.prepare own keyName policy requestDigest endpointOriginDigest now), before,
      .ok answer, after⟩)
  ∨ ∃ row ∈ step.after, row.leaseId = own

variable (backend descriptorDigest own) in
/-- The lease is revoked, or it is among the unsettled ones that a recovery goes through. -/
def Recoverable (rows : LeaseRows) : Prop :=
  ∃ row ∈ rows, row.leaseId = own ∧ (row.state = .revoked ∨ row ∈ outstanding rows
    ∧ ∀ limit : Int, 1 ≤ limit ∧ limit ≤ 10000 → backend.run descriptorDigest rows (.unsettled limit)
      = .ok (rows, .records ((outstanding rows).take limit.toNat)))

theorem Held.recoverable (h : Held own rows) : Recoverable backend descriptorDigest own rows := by
  obtain ⟨row, hrow, hown⟩ := h.row
  refine ⟨row, hrow, hown, ?_⟩
  by_cases hrevoked : row.state = .revoked
  · exact Or.inl hrevoked
  · exact Or.inr ⟨mem_outstanding.mpr ⟨hrow, hrevoked⟩,
      fun limit hlimit => unsettled_answers backend h.inv.exact hlimit⟩

/-- Once its lease is prepared, a run of any client leaves it where recovery finds it. -/
theorem recoverable_after {p : ManagedClient} {made : List ManagedStep}
    {r : Except CaptureError ManagedElasticCapture} (hinv : RowsInv rows)
    (h : Runs backend descriptorDigest own p rows made r rows') :
    ∀ step ∈ made, Prepared own step → Recoverable backend descriptorDigest own rows' := by
  intro step hstep hprepared
  obtain ⟨hbefore, hexec⟩ := h.made_in RowsInv (fun _ _ hrows hothers => hothers.inv hrows)
    (managedExec_keeps RowsInv.call fun hrows hothers => hothers.inv hrows) hinv step hstep
  have hafter : Held own step.after := by
    refine ⟨managedExec_keeps RowsInv.call (fun hrows hothers => hothers.inv hrows) _ _ _ _ hbefore
      hexec, ?_⟩
    rcases hprepared with ⟨_, _, _, _, _, before, answer, after, rfl⟩ | hrow
    · obtain ⟨-, x, -, hx, -, hlasting⟩ := prepared_answer hbefore hexec
      exact ⟨x, hx, lasting_leaseId hlasting⟩
    · exact hrow
  exact (h.keeps_after (fun _ _ hheld hothers => hheld.others hothers)
    (managedExec_keeps Held.call Held.others) step hstep hafter).recoverable

/-- A capture that is returned was taken with the one key of a new lease, and the lease was revoked
before; and whenever the broker raises once the lease is prepared, the lease can be recovered. -/
theorem managed_capture_settles {R : ManagedRuntime} {request : ElasticRequest} {ttlSeconds : Int}
    {made : List ManagedStep} {r : Except CaptureError ManagedElasticCapture}
    (hR : ReadsBack R.toCanonicalRuntime) (hrows : JournalRows backend descriptorDigest rows)
    (h : Runs backend descriptorDigest own (managedCapture R descriptorDigest request ttlSeconds)
      rows made r rows') :
    (∀ m, r = .ok m → ∃ policy requestBytes before encoded key response,
      makePolicy request.indexAlias ttlSeconds = .ok policy
        ∧ canonicalJsonBytes R.toCanonicalRuntime defaultJsonLimits request.asJson = .ok requestBytes
        ∧ Released descriptorDigest own R policy (R.sha requestBytes) made m rows' before encoded key
          response)
      ∧ ((∃ e, r = .error e) →
        ∀ step ∈ made, Prepared own step → Recoverable backend descriptorDigest own rows') := by
  refine ⟨?_, fun _ => recoverable_after hrows.inv h⟩
  rintro m rfl
  unfold managedCapture at h
  split at h
  next =>
    obtain ⟨-, hno, -⟩ := plays_ret h
    cases hno
  next policy hpolicy =>
    split at h
    next =>
      obtain ⟨-, hno, -⟩ := plays_ret h
      cases hno
    next requestBytes hbytes =>
      obtain ⟨before, encoded, key, response, hreleased⟩ := captureUnder_plays hR hrows.inv h
      exact ⟨policy, requestBytes, before, encoded, key, response, hpolicy, hbytes, hreleased⟩

end

/-! ## A capture -/

/-- The lease of the example once its key is revoked. -/
def closedLease : ElasticLeaseRecord :=
  (((preparedRow exampleDescriptor 1 0 examplePolicy 9 9 1000).activated ['k'] 901000 1000).revoking
    none).settled 1000

def capturedExample : ConnectorCapture := ⟨7, 8⟩

/-- Libraries that write every document as one byte and read none. -/
def bareRuntime : ManagedRuntime where
  loads _ := .error "not JSON"
  parseFloat _ := false
  checkFloat _ := .ok ()
  dump _ := .ok [0x2d]
  sha _ := 9
  reflects _ := false
  version := text "1"
  endpointDigest := 9

def closedReceipt : JsonValue := pamReceipt bareRuntime capturedExample closedLease 9 9 9 .invalidated

/-- The libraries on the documents of the example: the receipt is written as one letter, and it and
the two answers are read. -/
def receiptRuntime : ManagedRuntime :=
  { bareRuntime with
    loads := fun chars => match chars with
      | ['r'] => .ok closedReceipt
      | ['c'] => .ok (object [("api_key", literal "s"), ("encoded", literal "azpz"),
          ("expiration", .int 901000), ("id", literal "k"), ("name", .string (keyNameText 0))])
      | ['d'] => .ok (object [("error_count", .int 0),
          ("invalidated_api_keys", .list [literal "k"]),
          ("previously_invalidated_api_keys", .list [])])
      | _ => .error "not JSON"
    dump := fun value => .ok [if value = closedReceipt then 0x72 else 0x2d] }

def elasticAnswer (body : Bytes) : PamHttpResponse :=
  ⟨200, [(text "x-elastic-product", text "Elasticsearch"),
    (text "content-type", text "application/json")], body⟩

/-- What a call is answered, and the rows it leaves. -/
def answerAlone : (c : ManagedCall) → LeaseRows → c.Out × LeaseRows
  | .nonce, rows => (some 1, rows)
  | .now, rows => ((1000 : Int), rows)
  | .journal call, rows =>
    match LeaseBackend.sqlite.run exampleDescriptor rows call with
    | .ok (rows', answer) => (.ok answer, rows')
    | .error e => (.error (.lease e), rows)
  | .create _, rows => (.ok (elasticAnswer [0x63]), rows)
  | .delete _, rows => (.ok (elasticAnswer [0x64]), rows)
  | .connector _, rows => (.ok (some capturedExample), rows)

/-- How a client ends that is alone. -/
def endsAlone {α : Type} : Prog ManagedCall ManagedCall.Out α → LeaseRows → α × LeaseRows
  | .ret a, rows => (a, rows)
  | .call c k, rows => endsAlone (k (answerAlone c rows).1) (answerAlone c rows).2

def plainRequest : ElasticRequest := ⟨examplePolicy.indexAlias, .null⟩

theorem endsAlone_runs : ∀ (p : ManagedClient) (rows : LeaseRows), ∃ made,
    Runs .sqlite exampleDescriptor 1 p rows made (endsAlone p rows).1 (endsAlone p rows).2
  | .ret a, rows => ⟨[], .ret⟩
  | .call c k, rows => by
    obtain ⟨made, hrest⟩ := endsAlone_runs (k (answerAlone c rows).1) (answerAlone c rows).2
    refine ⟨_, .call .refl ?_ hrest⟩
    cases c with
    | nonce => exact ⟨Or.inr rfl, rfl⟩
    | journal call =>
      show JournalAnswers .sqlite exampleDescriptor 1 call rows (answerAlone (.journal call) rows).1
        (answerAlone (.journal call) rows).2
      cases hrun : LeaseBackend.sqlite.run exampleDescriptor rows call with
      | ok result =>
        simp only [answerAlone, hrun]
        exact Or.inl hrun
      | error e =>
        simp only [answerAlone, hrun]
        exact Or.inl rfl
    | now | create | delete | connector => rfl

theorem receiptRuntime_readsBack : ReadsBack receiptRuntime.toCanonicalRuntime := by
  intro limits limits' value bytes value' _ hwritten hread
  simp only [canonicalJsonBytes, bind_eq_ok, require_eq_ok, pure_eq_ok] at hwritten
  obtain ⟨-, -, written, hdump, -, -, rfl⟩ := hwritten
  obtain rfl := Except.ok.inj hdump
  simp only [strictJsonLoads, bind_eq_ok, require_eq_ok, expect_eq_ok, pure_eq_ok] at hread
  obtain ⟨-, -, -, -, chars, hchars, loaded, hloads, -, -, rfl⟩ := hread
  by_cases hvalue : value = closedReceipt
  · rw [if_pos hvalue] at hchars
    have hletter : some ['r'] = decodeUtf8 [0x72] := by decide
    obtain rfl := Option.some.inj (hletter.trans hchars)
    obtain rfl := Except.ok.inj hloads
    rw [hvalue]
    exact Same.refl (by decide)
  · rw [if_neg hvalue] at hchars
    have hletter : some ['-'] = decodeUtf8 [0x2d] := by decide
    obtain rfl := Option.some.inj (hletter.trans hchars)
    cases hloads

/-- A capture by a broker that is alone. -/
theorem managed_capture_settles_alone :
    ∃ made m rows', Runs .sqlite exampleDescriptor 1
        (managedCapture receiptRuntime exampleDescriptor plainRequest 900) [] made (.ok m) rows'
      ∧ ∃ policy requestBytes before encoded key response,
        makePolicy plainRequest.indexAlias 900 = .ok policy
          ∧ canonicalJsonBytes receiptRuntime.toCanonicalRuntime defaultJsonLimits
            plainRequest.asJson = .ok requestBytes
          ∧ Released exampleDescriptor 1 receiptRuntime policy (receiptRuntime.sha requestBytes) made m
            rows' before encoded key response := by
  obtain ⟨made, hruns⟩ := endsAlone_runs
    (managedCapture receiptRuntime exampleDescriptor plainRequest 900) []
  have hok : (endsAlone (managedCapture receiptRuntime exampleDescriptor plainRequest 900) []).1.isOk
      = true := by decide +kernel
  cases hend : (endsAlone (managedCapture receiptRuntime exampleDescriptor plainRequest 900) []).1 with
  | error e =>
    rw [hend] at hok
    cases hok
  | ok m =>
    rw [hend] at hruns
    exact ⟨made, m, _, hruns,
      (managed_capture_settles receiptRuntime_readsBack .refl hruns).1 m rfl⟩

end ControlAssurance.Pam
