import ControlAssurance.Pam.TokenBroker

/-!
# What a token request leaves in the journal

`TokenWorld.Inv` ties the journal to the requests that were handed to the transport: a request
that may have produced a token has a row, and that row is not closed as a request without a
token. Only the client that prepared a row hands over its request and closes it so, because the
first calls of `capture` insert the row; this is what `Rely` promises it.

A client may close its row as rejected while nothing was handed over, or once the transport has
returned a refusal. `_issue` raises a plain `DefenderPamError` in these two cases, and in one
more: the `mark_uncertain` it makes after an unknown outcome may raise one itself. `Steady` says
that this happens only when the row is no longer `prepared`. Without it the invariant fails.
-/

namespace ControlAssurance.Pam.Defender

open Lib

/-! ## What a journal call changes -/

/-- The row a transition leaves for the row it found. -/
inductive NextVersion : TokenCall → DefenderTokenRecord → DefenderTokenRecord → Prop
  | issued {old now expires digest requestId} (h : old.state = .prepared) :
      NextVersion (.markIssued old.acquisitionId old.revision now expires digest requestId) old
        (old.issued now expires digest requestId)
  | closed {old state closure now error} (stored : Option (List Char)) (h : old.state = state) :
      NextVersion (.close old.acquisitionId old.revision state closure now error) old
        (old.closed closure now stored)
  | uncertain {old now error} (stored : List Char) (h : old.state = .prepared) :
      NextVersion (.markUncertain old.acquisitionId old.revision now error) old
        (old.uncertain now stored)

/-- What a committed call does to the rows, and answers. -/
inductive TokenEffect (rows : TokenRows) : TokenCall → TokenRows → TokenAnswer → Prop
  | get (a : AcquisitionId) (r : DefenderTokenRecord) (hr : r ∈ rows) (ha : r.acquisitionId = a) :
      TokenEffect rows (.get a) rows (.record r)
  | unsettled (limit : Int) (rs : List DefenderTokenRecord) :
      TokenEffect rows (.unsettled limit) rows (.records rs)
  | ofRequest (digest : Digest) (only : Bool) (limit : Int) (rs : List DefenderTokenRecord) :
      TokenEffect rows (.recordsForRequestDigest digest only limit) rows (.records rs)
  | inserted {a d₁ d₂ d₃ d₄ mode d₅ d₆ now endAt} (hnew : ∀ r ∈ rows, r.acquisitionId ≠ a) :
      TokenEffect rows (.prepare a d₁ d₂ d₃ d₄ mode d₅ d₆ now endAt)
        (rows ++ [preparedRow a d₁ d₂ d₃ d₄ mode d₅ d₆ now endAt])
        (.record (preparedRow a d₁ d₂ d₃ d₄ mode d₅ d₆ now endAt))
  | moved {call rows' old new} (hreplaced : Replaced (·.acquisitionId) rows rows' old new)
      (hids : rows'.map (·.acquisitionId) = rows.map (·.acquisitionId))
      (hnext : NextVersion call old new) : TokenEffect rows call rows' (.record new)

section

variable {rows rows' : TokenRows} {answer : TokenAnswer} {a : AcquisitionId} {revision : Int}
variable {state : TokenState} {set : DefenderTokenRecord → DefenderTokenRecord}

theorem get_ok (h : get rows a = .ok (rows', answer)) :
    rows' = rows ∧ ∃ r ∈ rows, r.acquisitionId = a ∧ answer = .record r := by
  unfold get at h
  simp only [bind_eq_ok, expect_eq_ok, pure_eq_ok] at h
  obtain ⟨r, hfind, hresult⟩ := h
  cases hresult
  have hid := List.find?_some hfind
  exact ⟨rfl, r, List.mem_of_find?_eq_some hfind, of_decide_eq_true hid, rfl⟩

theorem select_ok {selected : DefenderTokenRecord → Bool} {limit : Int}
    (h : select rows selected limit = .ok (rows', answer)) :
    rows' = rows ∧ ∃ rs, answer = .records rs := by
  unfold select at h
  simp only [bind_eq_ok, pure_eq_ok] at h
  obtain ⟨-, -, hresult⟩ := h
  cases hresult
  exact ⟨rfl, _, rfl⟩

/-- An update that found its row. -/
theorem replaced_matching {old : DefenderTokenRecord}
    (hids : (rows.map (·.acquisitionId)).Nodup)
    (hset : ∀ r, (set r).acquisitionId = r.acquisitionId) (hold : old ∈ rows)
    (hmatch : old.matching a revision state = true) :
    Replaced (·.acquisitionId) rows (updateWhere (·.matching a revision state) set rows) old
      (set old) := by
  refine replaced_updateWhere hids hold hmatch ?_ (hset old)
  intro x hx
  have hx' : x.acquisitionId = a ∧ _ := of_decide_eq_true hx
  have hold' : old.acquisitionId = a ∧ _ := of_decide_eq_true hmatch
  exact hx'.1.trans hold'.1.symm

/-- A transition found the row it names and replaced it. -/
structure Moved (rows rows' : TokenRows) (answer : TokenAnswer) (a : AcquisitionId)
    (revision : Int) (state : TokenState) (set : DefenderTokenRecord → DefenderTokenRecord)
    (old : DefenderTokenRecord) : Prop where
  replaced : Replaced (·.acquisitionId) rows rows' old (set old)
  ids : rows'.map (·.acquisitionId) = rows.map (·.acquisitionId)
  acquisition : old.acquisitionId = a
  current : old.revision = revision
  state : old.state = state
  answered : answer = .record (set old)

theorem sqlite_transition_ok (hids : (rows.map (·.acquisitionId)).Nodup)
    (hset : ∀ r, (set r).acquisitionId = r.acquisitionId)
    (h : SQLiteDefenderTokenJournal.transition rows a revision state set = .ok (rows', answer)) :
    ∃ old, Moved rows rows' answer a revision state set old := by
  unfold SQLiteDefenderTokenJournal.transition at h
  simp only [bind_eq_ok, require_eq_ok] at h
  obtain ⟨-, -, -, hcount, hget⟩ := h
  obtain ⟨rfl, r, hr, hid, rfl⟩ := get_ok hget
  have hpos : 0 < rows.countP (·.matching a revision state) := by omega
  obtain ⟨old, hold, hmatch⟩ := List.countP_pos_iff.mp hpos
  obtain ⟨ha, hcurrent, hstate⟩ := of_decide_eq_true hmatch
  have hreplaced := replaced_matching hids hset hold hmatch
  refine ⟨old, hreplaced, map_updateWhere hset, ha, hcurrent, hstate, ?_⟩
  -- the row read back is the one of this id
  have hsame : r = set old := List.inj_on_of_nodup_map (updateWhere_keys hset hids) hr
    hreplaced.mem_new (hid.trans (ha.symm.trans (hset old).symm))
  rw [hsame]

theorem postgres_update_ok {ctype : PostgresCtype} (hids : (rows.map (·.acquisitionId)).Nodup)
    (hset : ∀ r, (set r).acquisitionId = r.acquisitionId)
    (h : PostgresDefenderTokenJournal.update ctype rows a revision state set
      = .ok (rows', answer)) :
    ∃ old, Moved rows rows' answer a revision state set old := by
  unfold PostgresDefenderTokenJournal.update at h
  simp only [bind_eq_ok, expect_eq_ok, pure_eq_ok] at h
  obtain ⟨old, hfind, -, -, hresult⟩ := h
  cases hresult
  have hold := List.mem_of_find?_eq_some hfind
  have hmatch : old.matching a revision state = true := List.find?_some hfind
  obtain ⟨ha, hcurrent, hstate⟩ := of_decide_eq_true hmatch
  exact ⟨old, replaced_matching hids hset hold hmatch, map_updateWhere hset, ha, hcurrent, hstate,
    rfl⟩

variable {call : TokenCall} {now : Millis}

theorem Moved.effect {old : DefenderTokenRecord}
    (h : Moved rows rows' answer a revision state set old)
    (hnext : NextVersion call old (set old)) : TokenEffect rows call rows' answer := by
  rw [h.answered]
  exact .moved h.replaced h.ids hnext

theorem issued_effect {expires : Millis} {digest : Digest} {requestId : Option Digest}
    (h : ∃ old, Moved rows rows' answer a revision .prepared
      (·.issued now expires digest requestId) old) :
    TokenEffect rows (.markIssued a revision now expires digest requestId) rows' answer := by
  obtain ⟨old, hmoved⟩ := h
  obtain rfl := hmoved.acquisition
  obtain rfl := hmoved.current
  exact hmoved.effect (.issued hmoved.state)

theorem closed_effect {closure : TokenClosure} {error stored : Option (List Char)}
    (h : ∃ old, Moved rows rows' answer a revision state (·.closed closure now stored) old) :
    TokenEffect rows (.close a revision state closure now error) rows' answer := by
  obtain ⟨old, hmoved⟩ := h
  obtain rfl := hmoved.acquisition
  obtain rfl := hmoved.current
  exact hmoved.effect (.closed stored hmoved.state)

theorem uncertain_effect {error stored : List Char}
    (h : ∃ old, Moved rows rows' answer a revision .prepared (·.uncertain now stored) old) :
    TokenEffect rows (.markUncertain a revision now error) rows' answer := by
  obtain ⟨old, hmoved⟩ := h
  obtain rfl := hmoved.acquisition
  obtain rfl := hmoved.current
  exact hmoved.effect (.uncertain stored hmoved.state)

theorem get_effect (h : get rows a = .ok (rows', answer)) :
    TokenEffect rows (.get a) rows' answer := by
  obtain ⟨rfl, r, hr, ha, rfl⟩ := get_ok h
  exact .get a r hr ha

theorem sqlite_effect (hids : (rows.map (·.acquisitionId)).Nodup)
    (h : SQLiteDefenderTokenJournal.run rows call = .ok (rows', answer)) :
    TokenEffect rows call rows' answer := by
  cases call with
  | prepare a d₁ d₂ d₃ d₄ mode d₅ d₆ now endAt =>
    simp only [SQLiteDefenderTokenJournal.run, bind_eq_ok, require_eq_ok] at h
    obtain ⟨-, -, -, -, -, hnew, hget⟩ := h
    obtain ⟨rfl, r, hr, hid, rfl⟩ := get_ok hget
    rcases List.mem_append.mp hr with hr | hr
    · exact absurd hid (hnew r hr)
    · rw [List.mem_singleton.mp hr]
      exact .inserted hnew
  | markIssued a revision now expires digest requestId =>
    simp only [SQLiteDefenderTokenJournal.run, bind_eq_ok] at h
    obtain ⟨-, -, -, -, htransition⟩ := h
    exact issued_effect (sqlite_transition_ok hids (fun _ => rfl) htransition)
  | close a revision state closure now error =>
    simp only [SQLiteDefenderTokenJournal.run, bind_eq_ok] at h
    obtain ⟨-, -, htransition⟩ := h
    exact closed_effect (sqlite_transition_ok hids (fun _ => rfl) htransition)
  | markUncertain a revision now error =>
    simp only [SQLiteDefenderTokenJournal.run, bind_eq_ok] at h
    obtain ⟨-, -, htransition⟩ := h
    exact uncertain_effect (sqlite_transition_ok hids (fun _ => rfl) htransition)
  | get a => exact get_effect h
  | unsettled limit =>
    obtain ⟨rfl, rs, rfl⟩ := select_ok h
    exact .unsettled limit rs
  | recordsForRequestDigest digest only limit =>
    obtain ⟨rfl, rs, rfl⟩ := select_ok h
    exact .ofRequest digest only limit rs

theorem postgres_effect {ctype : PostgresCtype} (hids : (rows.map (·.acquisitionId)).Nodup)
    (h : PostgresDefenderTokenJournal.run ctype rows call = .ok (rows', answer)) :
    TokenEffect rows call rows' answer := by
  cases call with
  | prepare a d₁ d₂ d₃ d₄ mode d₅ d₆ now endAt =>
    simp only [PostgresDefenderTokenJournal.run, PostgresDefenderTokenJournal.insert, bind_eq_ok,
      require_eq_ok, pure_eq_ok] at h
    obtain ⟨-, -, -, -, -, -, -, -, -, hnew, hresult⟩ := h
    cases hresult
    exact .inserted hnew
  | markIssued a revision now expires digest requestId =>
    simp only [PostgresDefenderTokenJournal.run, bind_eq_ok] at h
    obtain ⟨-, -, -, -, -, -, -, -, hupdate⟩ := h
    exact issued_effect (postgres_update_ok hids (fun _ => rfl) hupdate)
  | close a revision state closure now error =>
    simp only [PostgresDefenderTokenJournal.run, bind_eq_ok] at h
    obtain ⟨-, -, -, -, -, -, -, -, -, -, -, -, stored, -, -, -, -, -, hupdate⟩ := h
    exact closed_effect (postgres_update_ok hids (fun _ => rfl) hupdate)
  | markUncertain a revision now error =>
    simp only [PostgresDefenderTokenJournal.run, bind_eq_ok] at h
    obtain ⟨-, -, -, -, -, -, text, -, hupdate⟩ := h
    exact uncertain_effect (postgres_update_ok hids (fun _ => rfl) hupdate)
  | get a => exact get_effect h
  | unsettled limit =>
    obtain ⟨rfl, rs, rfl⟩ := select_ok h
    exact .unsettled limit rs
  | recordsForRequestDigest digest only limit =>
    obtain ⟨rfl, rs, rfl⟩ := select_ok h
    exact .ofRequest digest only limit rs

theorem run_effect {backend : TokenBackend} (hids : (rows.map (·.acquisitionId)).Nodup)
    (h : backend.run rows call = .ok (rows', answer)) :
    TokenEffect rows call rows' answer := by
  cases backend with
  | sqlite => exact sqlite_effect hids h
  | postgres ctype => exact postgres_effect hids h

end

/-! ## The invariant -/

/-- The token request was handed over, and not refused by the server as far as is known. -/
def HandedRequest.MayHaveToken (h : HandedRequest) : Prop :=
  ∀ o ∈ h.outcome, o.refused = false

/-- How the closure of a row goes with its state. -/
def DefenderTokenRecord.Shaped (r : DefenderTokenRecord) : Prop :=
  match r.state with
  | .prepared => r.closure = none
  | .issued => r.closure = none ∧ r.issuedEpochMillis ≠ none
  | .uncertain => r.closure = some .tokenRequestAmbiguous
  | .closed => r.closure = some .tokenRequestRejectedNoToken ∨ (r.issuedEpochMillis ≠ none
      ∧ r.closure ∈ [some .captureCompletedTokenReleaseOnly, some .captureFailedTokenReleaseOnly,
        some .abandonedAfterCrash])

structure TokenWorld.Inv (s : TokenWorld) : Prop where
  ids : (s.rows.map (·.acquisitionId)).Nodup
  owned : s.owners.map (·.1) = s.rows.map (·.acquisitionId)
  shaped : ∀ r ∈ s.rows, r.Shaped
  recorded : ∀ h ∈ s.handed, ∃ r ∈ s.rows, r.acquisitionId = h.acquisition
  present : ∀ h ∈ s.handed, h.MayHaveToken → ∀ r ∈ s.rows, r.acquisitionId = h.acquisition →
    r.closure ≠ some .tokenRequestRejectedNoToken

/-- A row that has left `prepared`. -/
def TokenWorld.Settled (s : TokenWorld) (a : AcquisitionId) : Prop :=
  ∃ r ∈ s.rows, r.acquisitionId = a ∧ r.state ≠ .prepared

/-- The row of an acquisition was not closed as rejected. -/
def TokenWorld.Unrejected (s : TokenWorld) (a : AcquisitionId) : Prop :=
  ∀ r ∈ s.rows, r.acquisitionId = a → r.closure ≠ some .tokenRequestRejectedNoToken

/-- Every request handed over for an acquisition was refused. -/
def TokenWorld.Cleared (s : TokenWorld) (a : AcquisitionId) : Prop :=
  ∀ h ∈ s.handed, h.acquisition = a → ¬h.MayHaveToken

/-- What every move keeps. -/
def TokenWorld.Order (s s' : TokenWorld) : Prop := ∀ a, s.Settled a → s'.Settled a

/-- What every journal call keeps for the client `id`, its own calls included: the acquisitions
it prepared stay its own, with the requests handed over for them. -/
structure TokenWorld.Keeps (id : Nat) (s s' : TokenWorld) : Prop where
  order : s.Order s'
  owned : ∀ a, (a, id) ∈ s.owners → (a, id) ∈ s'.owners
  handed : ∀ a, (a, id) ∈ s.owners → ∀ h : HandedRequest, h.acquisition = a →
    (h ∈ s'.handed ↔ h ∈ s.handed)

/-- What the others keep for the client `id`: they do not reject its acquisitions either. -/
structure TokenWorld.Rely (id : Nat) (s s' : TokenWorld) : Prop extends
    TokenWorld.Keeps id s s' where
  unrejected : ∀ a, (a, id) ∈ s.owners → s.Unrejected a → s'.Unrejected a

theorem TokenWorld.Rely.refl (id : Nat) (s : TokenWorld) : s.Rely id s :=
  ⟨⟨fun _ h => h, fun _ h => h, fun _ _ _ _ => Iff.rfl⟩, fun _ _ h => h⟩

theorem TokenWorld.Rely.trans {id : Nat} {s₁ s₂ s₃ : TokenWorld} (h₁ : s₁.Rely id s₂)
    (h₂ : s₂.Rely id s₃) : s₁.Rely id s₃ := by
  refine ⟨⟨fun a h => h₂.order a (h₁.order a h), fun a h => h₂.owned a (h₁.owned a h), ?_⟩, ?_⟩
  · intro a ha h hh
    exact (h₂.handed a (h₁.owned a ha) h hh).trans (h₁.handed a ha h hh)
  · intro a ha h
    exact h₂.unrejected a (h₁.owned a ha) (h₁.unrejected a ha h)

theorem TokenWorld.Keeps.cleared {id : Nat} {s s' : TokenWorld} (h : s.Keeps id s')
    {a : AcquisitionId} (hown : (a, id) ∈ s.owners) (hclear : s.Cleared a) : s'.Cleared a := by
  intro x hx ha
  exact hclear x ((h.handed a hown x ha).mp hx) ha

/-- An acquisition has one owner. -/
theorem TokenWorld.Inv.owner_unique {s : TokenWorld} (h : s.Inv) {a : AcquisitionId} {i j : Nat}
    (hi : (a, i) ∈ s.owners) (hj : (a, j) ∈ s.owners) : i = j := by
  have hnodup : (s.owners.map (·.1)).Nodup := by
    rw [h.owned]
    exact h.ids
  have heq := List.inj_on_of_nodup_map hnodup hi hj rfl
  exact congrArg Prod.snd heq

/-! ## Journal calls -/

/-- When the client `id` may make a call. -/
def Allowed (id : Nat) (s : TokenWorld) : TokenCall → Prop
  | .close a _ state closure _ _ =>
    (state = .prepared ∧ closure = .tokenRequestRejectedNoToken ∧ (a, id) ∈ s.owners
      ∧ s.Cleared a)
    ∨ (state = .issued ∧ closure ∈ [TokenClosure.captureCompletedTokenReleaseOnly,
      .captureFailedTokenReleaseOnly, .abandonedAfterCrash])
  | _ => True

variable {new old : DefenderTokenRecord}

theorem NextVersion.unprepared {call : TokenCall}
    (h : NextVersion call old new) : new.state ≠ .prepared := by
  cases h <;> exact fun hstate => nomatch hstate

/-- A transition that does not reject leaves a row that was not rejected. -/
theorem NextVersion.shaped {call : TokenCall}
    (h : NextVersion call old new) {id : Nat} {s : TokenWorld} (hallowed : Allowed id s call)
    (hold : old.Shaped) : new.Shaped := by
  cases h with
  | issued hstate =>
    unfold DefenderTokenRecord.Shaped at hold
    rw [hstate] at hold
    exact ⟨hold, fun hnone => nomatch hnone⟩
  | uncertain stored hstate => exact rfl
  | closed stored hstate =>
    rcases hallowed with ⟨-, rfl, -⟩ | ⟨rfl, hclosure⟩
    · exact Or.inl rfl
    · unfold DefenderTokenRecord.Shaped at hold
      rw [hstate] at hold
      refine Or.inr ⟨hold.2, ?_⟩
      exact List.mem_map_of_mem hclosure

/-- A row becomes rejected only by the call of its owner, when nothing can have come of the
request. -/
theorem NextVersion.rejecting {call : TokenCall}
    (h : NextVersion call old new) {id : Nat} {s : TokenWorld} (hallowed : Allowed id s call)
    (hold : old.Shaped) (hnew : new.closure = some .tokenRequestRejectedNoToken) :
    (old.acquisitionId, id) ∈ s.owners ∧ s.Cleared old.acquisitionId := by
  cases h with
  | issued hstate =>
    unfold DefenderTokenRecord.Shaped at hold
    rw [hstate] at hold
    exact absurd (hold.symm.trans hnew) (fun hnone => nomatch hnone)
  | uncertain stored hstate => cases hnew
  | closed stored hstate =>
    rcases hallowed with ⟨-, -, howner, hcleared⟩ | ⟨rfl, hclosure⟩
    · exact ⟨howner, hcleared⟩
    · obtain rfl := Option.some.inj hnew
      simp at hclosure

theorem TokenEffect.claims_eq {rows rows' : TokenRows} {call : TokenCall} {answer : TokenAnswer}
    (h : TokenEffect rows call rows' answer) (s : TokenWorld) (id : Nat) :
    (∃ a, s.claims id call = s.owners ++ [(a, id)])
      ∨ s.claims id call = s.owners := by
  cases h with
  | inserted hnew => exact Or.inl ⟨_, rfl⟩
  | get a r hr ha => exact Or.inr rfl
  | unsettled limit rs => exact Or.inr rfl
  | ofRequest digest only limit rs => exact Or.inr rfl
  | moved _ _ hnext =>
    right
    cases hnext <;> rfl

section

variable {s : TokenWorld} {id : Nat} {call : TokenCall} {rows : TokenRows} {answer : TokenAnswer}

/-- A committed call keeps the invariant. -/
theorem TokenWorld.Inv.effect (h : s.Inv) (hallowed : Allowed id s call)
    (heffect : TokenEffect s.rows call rows answer) :
    TokenWorld.Inv { s with rows := rows, owners := s.claims id call } := by
  cases heffect with
  | get a r hr ha => exact h
  | unsettled limit rs => exact h
  | ofRequest digest only limit rs => exact h
  | inserted hnew =>
    refine ⟨append_keys h.ids hnew, ?_, ?_, ?_, ?_⟩
    · show (s.owners ++ _).map _ = _
      rw [List.map_append, List.map_append, h.owned]
      rfl
    · intro r hr
      rcases List.mem_append.mp hr with hr | hr
      · exact h.shaped r hr
      · rw [List.mem_singleton.mp hr]
        exact rfl
    · intro x hx
      obtain ⟨r, hr, hid⟩ := h.recorded x hx
      exact ⟨r, List.mem_append_left _ hr, hid⟩
    · intro x hx hmay r hr hid
      rcases List.mem_append.mp hr with hr | hr
      · exact h.present x hx hmay r hr hid
      · rw [List.mem_singleton.mp hr]
        exact fun hnone => nomatch hnone
  | moved hreplaced hids hnext =>
    rename_i old new
    have hclaims : s.claims id call = s.owners := by cases hnext <;> rfl
    refine ⟨?_, ?_, ?_, ?_, ?_⟩
    · show (rows.map _).Nodup
      rw [hids]
      exact h.ids
    · show (s.claims id call).map _ = rows.map _
      rw [hclaims, hids]
      exact h.owned
    · intro r hr
      rcases (hreplaced.rows r).mp hr with rfl | ⟨hr, -⟩
      · exact hnext.shaped hallowed (h.shaped old hreplaced.mem)
      · exact h.shaped r hr
    · intro x hx
      obtain ⟨r, hr, hid⟩ := h.recorded x hx
      by_cases hsame : r.acquisitionId = old.acquisitionId
      · exact ⟨new, hreplaced.mem_new, hreplaced.key_eq.trans (hsame.symm.trans hid)⟩
      · exact ⟨r, (hreplaced.rows r).mpr (Or.inr ⟨hr, hsame⟩), hid⟩
    · intro x hx hmay r hr hid
      rcases (hreplaced.rows r).mp hr with rfl | ⟨hr, -⟩
      · intro hrejected
        obtain ⟨-, hcleared⟩ := hnext.rejecting hallowed (h.shaped old hreplaced.mem) hrejected
        exact hcleared x hx (hid.symm.trans hreplaced.key_eq) hmay
      · exact h.present x hx hmay r hr hid

theorem TokenEffect.order (heffect : TokenEffect s.rows call rows answer)
    (owners : List (AcquisitionId × Nat)) :
    s.Order { s with rows := rows, owners := owners } := by
  intro a hsettled
  cases heffect with
  | get a r hr ha => exact hsettled
  | unsettled limit rs => exact hsettled
  | ofRequest digest only limit rs => exact hsettled
  | inserted hnew =>
    obtain ⟨r, hr, hid, hstate⟩ := hsettled
    exact ⟨r, List.mem_append_left _ hr, hid, hstate⟩
  | moved hreplaced hids hnext =>
    rename_i old new
    obtain ⟨r, hr, hid, hstate⟩ := hsettled
    by_cases hsame : r.acquisitionId = old.acquisitionId
    · exact ⟨new, hreplaced.mem_new, hreplaced.key_eq.trans (hsame.symm.trans hid),
        hnext.unprepared⟩
    · exact ⟨r, (hreplaced.rows r).mpr (Or.inr ⟨hr, hsame⟩), hid, hstate⟩

/-- What a committed call keeps for every client. -/
theorem TokenEffect.keeps (heffect : TokenEffect s.rows call rows answer) (other : Nat) :
    s.Keeps other { s with rows := rows, owners := s.claims id call } := by
  refine ⟨heffect.order _, ?_, fun _ _ _ _ => Iff.rfl⟩
  intro a ha
  show (a, other) ∈ s.claims id call
  rcases heffect.claims_eq s id with ⟨b, hclaims⟩ | hclaims
  · rw [hclaims]
    exact List.mem_append_left _ ha
  · rw [hclaims]
    exact ha

/-- What a committed call of `id` keeps for the other clients. -/
theorem TokenEffect.rely (h : s.Inv) (hallowed : Allowed id s call)
    (heffect : TokenEffect s.rows call rows answer) {other : Nat} (hother : other ≠ id) :
    s.Rely other { s with rows := rows, owners := s.claims id call } := by
  refine ⟨heffect.keeps other, ?_⟩
  intro a ha hunrejected
  cases heffect with
  | get a r hr ha => exact hunrejected
  | unsettled limit rs => exact hunrejected
  | ofRequest digest only limit rs => exact hunrejected
  | inserted hnew =>
    intro r hr hid
    rcases List.mem_append.mp hr with hr | hr
    · exact hunrejected r hr hid
    · rw [List.mem_singleton.mp hr]
      exact fun hnone => nomatch hnone
  | moved hreplaced hids hnext =>
    rename_i old new
    intro r hr hid
    rcases (hreplaced.rows r).mp hr with rfl | ⟨hr, -⟩
    · intro hrejected
      obtain ⟨howner, -⟩ := hnext.rejecting hallowed (h.shaped old hreplaced.mem) hrejected
      -- the row is the caller's own, so the caller is the client
      rw [← hreplaced.key_eq, hid] at howner
      exact hother (h.owner_unique ha howner)
    · exact hunrejected r hr hid

end

/-! ## The token request -/

section

variable {s : TokenWorld} {id : Nat} {a : AcquisitionId}

/-- The world once a request was handed over. -/
def TokenWorld.send (s : TokenWorld) (a : AcquisitionId) : TokenWorld :=
  { s with handed := s.handed ++ [⟨a, none⟩] }

/-- The world once the transport is done with it. -/
def TokenWorld.receive (s : TokenWorld) (a : AcquisitionId) (o : TransportOutcome) : TokenWorld :=
  { s with handed := answered a o s.handed }

theorem TokenWorld.Inv.recorded_of_owner (h : s.Inv) (hown : (a, id) ∈ s.owners) :
    ∃ r ∈ s.rows, r.acquisitionId = a := by
  have hmem : a ∈ s.owners.map (·.1) := List.mem_map.mpr ⟨(a, id), hown, rfl⟩
  rw [h.owned] at hmem
  exact List.mem_map.mp hmem

theorem TokenWorld.Inv.send (h : s.Inv) (hown : (a, id) ∈ s.owners) (hrow : s.Unrejected a) :
    (s.send a).Inv := by
  refine ⟨h.ids, h.owned, h.shaped, ?_, ?_⟩
  · intro x hx
    rcases List.mem_append.mp hx with hx | hx
    · exact h.recorded x hx
    · rw [List.mem_singleton.mp hx]
      exact h.recorded_of_owner hown
  · intro x hx hmay r hr hid
    rcases List.mem_append.mp hx with hx | hx
    · exact h.present x hx hmay r hr hid
    · rw [List.mem_singleton.mp hx] at hid
      exact hrow r hr hid

/-- A request that nobody has answered yet is answered. -/
theorem TokenWorld.Inv.receive (h : s.Inv) (o : TransportOutcome)
    (hopen : ∀ x ∈ s.handed, x.acquisition = a → x.outcome = none) : (s.receive a o).Inv := by
  refine ⟨h.ids, h.owned, h.shaped, ?_, ?_⟩
  · intro x hx
    rcases mem_updateWhere.mp hx with ⟨y, hy, -, rfl⟩ | ⟨hx, -⟩
    · exact h.recorded y hy
    · exact h.recorded x hx
  · intro x hx hmay r hr hid
    rcases mem_updateWhere.mp hx with ⟨y, hy, hya, rfl⟩ | ⟨hx, -⟩
    · refine h.present y hy ?_ r hr hid
      intro o' ho'
      rw [hopen y hy (of_decide_eq_true hya)] at ho'
      cases ho'
    · exact h.present x hx hmay r hr hid

/-- Handing over a request changes nothing for the clients of other acquisitions. -/
theorem send_rely (h : s.Inv) (hown : (a, id) ∈ s.owners) {other : Nat} (hne : other ≠ id) :
    s.Rely other (s.send a) := by
  refine ⟨⟨fun _ h => h, fun _ h => h, ?_⟩, fun _ _ h => h⟩
  intro b hb x hx
  show x ∈ s.handed ++ [⟨a, none⟩] ↔ _
  rw [List.mem_append, List.mem_singleton]
  refine ⟨fun hmem => hmem.resolve_right ?_, Or.inl⟩
  rintro rfl
  obtain rfl : a = b := hx
  exact hne (h.owner_unique hb hown)

theorem receive_rely (h : s.Inv) (o : TransportOutcome) (hown : (a, id) ∈ s.owners) {other : Nat}
    (hne : other ≠ id) : s.Rely other (s.receive a o) := by
  refine ⟨⟨fun _ h => h, fun _ h => h, ?_⟩, fun _ _ h => h⟩
  intro b hb x hx
  show x ∈ answered a o s.handed ↔ _
  have hba : b ≠ a := by
    rintro rfl
    exact hne (h.owner_unique hb hown)
  unfold answered
  rw [mem_updateWhere]
  constructor
  · rintro (⟨y, hy, hya, rfl⟩ | ⟨hx, -⟩)
    · exact absurd (hx.symm.trans (of_decide_eq_true hya)) hba
    · exact hx
  · exact fun hmem => Or.inr ⟨hmem, decide_eq_false fun ha => hba (hx.symm.trans ha)⟩

end

end ControlAssurance.Pam.Defender
