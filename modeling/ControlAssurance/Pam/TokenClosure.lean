import ControlAssurance.Pam.LeaseAgreement
import ControlAssurance.Pam.TokenSafety

/-!
# A token that may exist is not recorded as absent

Captures and recoveries side by side, on one journal, with any transport and any credential.
`capture` closes a row as `token-request-rejected-no-token` when `_issue` raised a
`DefenderPamError` that is not ambiguous and the row is still `prepared`. That is right as long
as `_issue` raises such an error only if there is no token. It is not when the `mark_uncertain`
of one of its handlers fails: the handler's own exception is lost, and the journal's takes its
place.
-/

namespace ControlAssurance.Pam.Defender

open Lib

/-- A `mark_uncertain` of `_issue` that raises a plain `DefenderPamError` leaves a row that is no
longer `prepared`. -/
def Steady (c : TokenBrokerCall) (r : c.Out) (s' : TokenWorld) : Prop :=
  match c, r with
  | .journal _ (.outcome a) _, .error (.pam _ _) =>
    ∀ row ∈ s'.rows, row.acquisitionId = a → row.state ≠ .prepared
  | _, _ => True

/-- A call that meets the condition. -/
def steadyExec (backend : TokenBackend) (c : TokenBrokerCall) (s : TokenWorld) (r : c.Out)
    (s' : TokenWorld) : Prop :=
  tokenExec backend c s r s' ∧ Steady c r s'

/-! ## One client -/

section

variable (backend : TokenBackend)

/-- A client keeps the invariant, whatever the others do meanwhile. -/
abbrev TokenClientSafe (id : Nat) (p : TokenClient) (s : TokenWorld) : Prop :=
  NamedSafe (steadyExec backend) True TokenWorld.Inv TokenWorld.Order TokenWorld.Rely
    (fun _ _ _ => True) (fun _ _ => True) id p s

variable {backend} {id : Nat} {s : TokenWorld}

theorem safe_ret {a : Except Raised TokenBrokerAnswer} :
    TokenClientSafe backend id (.ret a) s :=
  trivial

/-- A call that changes nothing. -/
theorem safe_idle {c : TokenBrokerCall} {k : c.Out → TokenClient}
    (hidle : ∀ s r s', tokenExec backend c s r s' → s' = s)
    (hk : ∀ r s', s.Rely id s' → s'.Inv → TokenClientSafe backend id (k r) s') :
    TokenClientSafe backend id (.call c k) s := by
  intro s' hrely hinv
  refine ⟨trivial, fun r s'' hexec => ?_⟩
  obtain rfl := hidle s' r s'' hexec.1
  exact ⟨hinv, fun _ h => h, fun other _ => .refl other s'', hk r s'' hrely hinv⟩

theorem safe_now {k : Millis → TokenClient}
    (hk : ∀ r s', s.Rely id s' → s'.Inv → TokenClientSafe backend id (k r) s') :
    TokenClientSafe backend id (.call .now k) s :=
  safe_idle (fun _ _ _ h => h) hk

variable {call : TokenCall} {e : Raised}

/-- A journal call that is allowed whenever it is made. -/
theorem safe_journal {site : JournalSite} {k : Except Raised TokenAnswer → TokenClient}
    (hallowed : ∀ s', s.Rely id s' → s'.Inv → Allowed id s' call)
    (hok : ∀ s' s'' rows answer, s.Rely id s' → s'.Inv → TokenEffect s'.rows call rows answer →
      s'' = { s' with rows := rows, owners := s'.claims id call } → s''.Inv →
      s'.Keeps id s'' → TokenClientSafe backend id (k (.ok answer)) s'')
    (herror : ∀ s' s'' e, s.Rely id s' → s''.Inv → s'.Keeps id s'' →
      Steady (.journal id site call) (.error e) s'' →
      TokenClientSafe backend id (k (.error e)) s'') :
    TokenClientSafe backend id (.call (.journal id site call) k) s := by
  intro s' hrely hinv
  refine ⟨trivial, fun r s'' hexec => ?_⟩
  obtain ⟨hexec, hsteady⟩ := hexec
  have hallow := hallowed s' hrely hinv
  cases (r : Except Raised TokenAnswer) with
  | ok answer =>
    obtain ⟨rows, hrun, rfl⟩ := hexec
    have heffect := run_effect hinv.ids hrun
    exact ⟨hinv.effect hallow heffect, heffect.order _,
      fun other hne => heffect.rely hinv hallow (hne trivial),
      hok s' _ rows answer hrely hinv heffect rfl (hinv.effect hallow heffect)
        (heffect.keeps id)⟩
  | error e =>
    rcases hexec with rfl | ⟨answer, rows, hrun, rfl⟩
    · exact ⟨hinv, fun _ h => h, fun other _ => .refl other s'',
        herror s'' s'' e hrely hinv (TokenWorld.Rely.refl id s'').toKeeps hsteady⟩
    · have heffect := run_effect hinv.ids hrun
      exact ⟨hinv.effect hallow heffect, heffect.order _,
        fun other hne => heffect.rely hinv hallow (hne trivial),
        herror s' _ e hrely (hinv.effect hallow heffect) (heffect.keeps id) hsteady⟩

/-- A journal call whose answer does not matter. -/
theorem safe_journalRecord {site : JournalSite}
    {k : Except Raised DefenderTokenRecord → TokenClient}
    (hallowed : ∀ s', s.Rely id s' → s'.Inv → Allowed id s' call)
    (hk : ∀ r s' s'', s.Rely id s' → s''.Inv → s'.Keeps id s'' →
      TokenClientSafe backend id (k r) s'') :
    TokenClientSafe backend id (journalRecord id site call k) s := by
  refine safe_journal hallowed ?_ (fun s' s'' e hrely hinv hkeeps _ => hk _ s' s'' hrely hinv hkeeps)
  intro s' s'' rows answer hrely _ _ _ hinv hkeeps
  cases answer with
  | record r => exact hk _ s' s'' hrely hinv hkeeps
  | records rs => exact hk _ s' s'' hrely hinv hkeeps

/-! ## Recovery -/

theorem recoverRecords_safe (records : List DefenderTokenRecord) :
    ∀ (recovered : List DefenderTokenRecord) (s : TokenWorld),
      TokenClientSafe backend id (recoverRecords id records recovered) s := by
  induction records with
  | nil => exact fun _ _ => safe_ret
  | cons record records ih =>
    intro recovered s
    refine safe_now ?_
    intro now s₁ _ _
    refine safe_journalRecord ?_ ?_
    · intro s₂ _ _
      by_cases hstate : record.state = .prepared
      · rw [if_pos hstate]
        exact trivial
      · rw [if_neg hstate]
        exact Or.inr ⟨rfl, by decide⟩
    · intro r s₂ s₃ _ _ _
      cases r with
      | error e => exact safe_ret
      | ok settled => exact ih _ s₃

theorem recoverWith_safe (hallowed : ∀ s, Allowed id s call) :
    TokenClientSafe backend id (recoverWith id call) s := by
  refine safe_journal (fun s' _ _ => hallowed s') ?_ (fun _ _ _ _ _ _ _ => safe_ret)
  intro s' s'' rows answer _ _ _ _ _ _
  cases answer with
  | record r => exact safe_ret
  | records rs => exact recoverRecords_safe rs [] s''

/-! ## Closing a row -/

/-- `capture` may go on with an exception of `_issue`: there is no token, or the row has left
`prepared`, or the exception is not a plain `DefenderPamError`. -/
def Closable (id : Nat) (a : AcquisitionId) (e : Raised) (s : TokenWorld) : Prop :=
  ((a, id) ∈ s.owners ∧ s.Cleared a) ∨ s.Settled a ∨ ∀ stage reason, e ≠ .pam stage reason

theorem Closable.later {a : AcquisitionId} {s' : TokenWorld}
    (h : Closable id a e s) (hkeeps : s.Keeps id s') : Closable id a e s' := by
  rcases h with ⟨hown, hcleared⟩ | hsettled | he
  · exact Or.inl ⟨hkeeps.owned a hown, hkeeps.cleared hown hcleared⟩
  · exact Or.inr (Or.inl (hkeeps.order a hsettled))
  · exact Or.inr (Or.inr he)

theorem rejected_safe {a : AcquisitionId} (h : Closable id a e s) :
    TokenClientSafe backend id (rejected id a e) s := by
  refine safe_journal (fun _ _ _ => trivial) ?_ (fun _ _ _ _ _ _ _ => safe_ret)
  intro s₁ s₂ rows answer hrely₁ hinv₁ heffect _ _ hkeeps
  cases heffect with
  | moved _ _ hnext => nomatch hnext
  | get _ latest hlatest ha =>
    dsimp only
    split
    · rename_i hstate
      refine safe_now ?_
      intro now s₃ hrely₃ _
      refine safe_journalRecord ?_ ?_
      · intro s₄ hrely₄ _
        refine Or.inl ⟨rfl, rfl, ?_⟩
        rw [ha]
        -- a prepared row and a plain error: there is no token
        rcases (h.later hrely₁.toKeeps) with ⟨hown, hcleared⟩ | ⟨row, hrow, hid, hstate'⟩ | he
        · have hlater := (hrely₃.trans hrely₄).toKeeps
          have hown₂ := hkeeps.owned a hown
          exact ⟨hlater.owned a hown₂, hlater.cleared hown₂ (hkeeps.cleared hown hcleared)⟩
        · have hsame := List.inj_on_of_nodup_map hinv₁.ids hrow hlatest (hid.trans ha.symm)
          rw [hsame] at hstate'
          exact absurd hstate hstate'
        · exact absurd rfl (he _ _)
      · intro r _ s₅ _ _ _
        cases r <;> exact safe_ret
    · exact safe_ret

theorem release_safe (issued : DefenderTokenRecord) (operation : Except Raised Unit) :
    TokenClientSafe backend id (release id issued operation) s := by
  refine safe_now ?_
  intro now s₁ _ _
  refine safe_journalRecord ?_ ?_
  · intro s₂ _ _
    refine Or.inr ⟨rfl, ?_⟩
    cases operation with
    | ok u => exact List.mem_cons_self ..
    | error e => exact List.mem_cons_of_mem _ (List.mem_cons_self ..)
  · intro r _ s₃ _ _ _
    split <;> exact safe_ret

/-! ## Issuing -/

variable {prepared : DefenderTokenRecord}
variable {k : Except Raised (Bytes × DefenderTokenRecord) → TokenClient}

/-- The outcome of the request does not rule out a token. -/
theorem markedUncertain_safe {error : List Char} {stage reason : String}
    (hown : (prepared.acquisitionId, id) ∈ s.owners)
    (hk : ∀ s' e, s'.Inv → Closable id prepared.acquisitionId e s' →
      TokenClientSafe backend id (k (.error e)) s') :
    TokenClientSafe backend id
      (markedUncertain id prepared error (.ambiguous stage reason) k) s := by
  have hambiguous : ∀ s', Closable id prepared.acquisitionId (.ambiguous stage reason) s' :=
    fun _ => Or.inr (Or.inr fun _ _ h => nomatch h)
  refine safe_now ?_
  intro now s₁ hrely₁ _
  refine safe_journal (fun _ _ _ => trivial) ?_ ?_
  · intro s₂ s₃ rows answer _ _ _ _ hinv₃ _
    cases answer with
    | record r => exact hk s₃ _ hinv₃ (hambiguous s₃)
    | records rs => exact hk s₃ _ hinv₃ (Or.inr (Or.inr fun _ _ h => nomatch h))
  · intro s₂ s₃ e hrely₂ hinv₃ hkeeps hsteady
    refine hk s₃ e hinv₃ ?_
    cases e with
    | pam stage reason =>
      -- the row is there, and not prepared any more
      have hown₃ := hkeeps.owned _ (hrely₂.owned _ (hrely₁.owned _ hown))
      obtain ⟨row, hrow, hid⟩ := hinv₃.recorded_of_owner hown₃
      exact Or.inr (Or.inl ⟨row, hrow, hid, hsteady row hrow hid⟩)
    | ambiguous stage reason => exact Or.inr (Or.inr fun _ _ h => nomatch h)
    | connector stage => exact Or.inr (Or.inr fun _ _ h => nomatch h)
    | other className => exact Or.inr (Or.inr fun _ _ h => nomatch h)

variable {assertion : IssuedAssertion} {body : Bytes} {headers : List TokenHeader}
  {runtime : TokenRuntime}

theorem activate_safe {token : Bytes} {expiresIn : Int} {requestIdDigest : Option Digest}
    (hk : ∀ s' e, s'.Inv → Closable id prepared.acquisitionId e s' →
      TokenClientSafe backend id (k (.error e)) s')
    (hok : ∀ s' t, s'.Inv → TokenClientSafe backend id (k (.ok t)) s') :
    TokenClientSafe backend id
      (activate id prepared assertion token expiresIn requestIdDigest k) s := by
  refine safe_now ?_
  intro issuedAt s₁ _ _
  refine safe_journalRecord (fun _ _ _ => trivial) ?_
  intro r s₂ s₃ _ hinv₃ _
  cases r with
  | ok issued => exact hok s₃ _ hinv₃
  | error e =>
    refine safe_now ?_
    intro now s₄ _ _
    refine safe_journalRecord (fun _ _ _ => trivial) ?_
    intro r s₅ s₆ _ hinv₆ _
    exact hk s₆ _ hinv₆ (Or.inr (Or.inr fun _ _ h => nomatch h))

/-- Formatting the headers raises no error of the broker. -/
theorem reflected_error
    (h : reflected headers body = .error e) : ∃ className, e = .other className := by
  unfold reflected at h
  cases hlines : headers.mapM TokenHeader.shown with
  | ok lines =>
    rw [hlines] at h
    cases h
  | error e' =>
    rw [hlines] at h
    obtain rfl := Except.error.inj h
    clear h
    induction headers with
    | nil => cases hlines
    | cons header rest ih =>
      rw [List.mapM_cons] at hlines
      cases hshown : header.shown with
      | error e₀ =>
        rw [hshown] at hlines
        obtain rfl := Except.error.inj hlines
        cases header with
        | text name value => cases hshown
        | formatted shown => cases hshown
        | broken className =>
          obtain rfl := Except.error.inj hshown
          exact ⟨className, rfl⟩
      | ok line =>
        rw [hshown, ok_bind] at hlines
        cases hrest : rest.mapM TokenHeader.shown with
        | error e₁ =>
          rw [hrest] at hlines ih
          obtain rfl := Except.error.inj hlines
          exact ih rfl
        | ok lines =>
          rw [hrest] at hlines
          cases hlines

/-- Reading a response. A status that is not `200` rules out a token. -/
theorem consume_safe {status : Int} (hown : (prepared.acquisitionId, id) ∈ s.owners)
    (hcleared : status ≠ 200 → s.Cleared prepared.acquisitionId) (hinv : s.Inv)
    (hk : ∀ s' e, s'.Inv → Closable id prepared.acquisitionId e s' →
      TokenClientSafe backend id (k (.error e)) s')
    (hok : ∀ s' t, s'.Inv → TokenClientSafe backend id (k (.ok t)) s') :
    TokenClientSafe backend id (consume runtime id prepared assertion status headers body k) s := by
  unfold consume
  split
  · rename_i e he
    obtain ⟨className, rfl⟩ := reflected_error he
    exact hk s _ hinv (Or.inr (Or.inr fun _ _ h => nomatch h))
  · split
    · exact markedUncertain_safe hown hk
    · split
      · rename_i hstatus
        refine safe_now ?_
        intro now s₁ hrely₁ _
        refine safe_journalRecord ?_ ?_
        · intro s₂ hrely₂ _
          have hlater := (hrely₁.trans hrely₂).toKeeps
          exact Or.inl ⟨rfl, rfl, hlater.owned _ hown, hlater.cleared hown (hcleared hstatus)⟩
        · intro r s₂ s₃ hrely₂ hinv₃ hkeeps
          have hclosable : ∀ e, Closable id prepared.acquisitionId e s₃ := by
            intro e
            have hnow : Closable id prepared.acquisitionId e s := Or.inl ⟨hown, hcleared hstatus⟩
            exact (hnow.later (hrely₁.trans hrely₂).toKeeps).later hkeeps
          cases r with
          | error e => exact hk s₃ _ hinv₃ (hclosable _)
          | ok closed => exact hk s₃ _ hinv₃ (hclosable _)
      · split
        · rename_i e he
          split
          · exact markedUncertain_safe hown hk
          · rename_i hpam
            refine hk s e hinv (Or.inr (Or.inr ?_))
            rintro stage reason rfl
            exact hpam rfl
        · split
          · exact markedUncertain_safe hown hk
          · exact activate_safe hk hok

/-- What the transport returned for a refusal. -/
theorem refused_of_wellFormed {response : TokenHTTPResponse} {status : Int}
    (h : response.wellFormed = some (status, headers, body)) (hstatus : status ≠ 200) :
    (TransportOutcome.response response).refused = true := by
  unfold TokenHTTPResponse.wellFormed at h
  split at h
  · rename_i code hs bs hcode hheaders hbody
    split at h
    · rename_i hrange
      cases h
      unfold TransportOutcome.refused
      simp only [hcode]
      exact decide_eq_true ⟨hrange.1, hrange.2.1, hstatus⟩
    · cases h
  · cases h

theorem readOutcome_safe
    {outcome : TransportOutcome} (hown : (prepared.acquisitionId, id) ∈ s.owners)
    (hhanded : ∀ h ∈ s.handed, h.acquisition = prepared.acquisitionId → h.outcome = some outcome)
    (hinv : s.Inv) (hk : ∀ s' e, s'.Inv → Closable id prepared.acquisitionId e s' →
      TokenClientSafe backend id (k (.error e)) s')
    (hok : ∀ s' t, s'.Inv → TokenClientSafe backend id (k (.ok t)) s') :
    TokenClientSafe backend id (readOutcome runtime id prepared assertion outcome k) s := by
  unfold readOutcome
  split
  · exact markedUncertain_safe hown hk
  · exact markedUncertain_safe hown hk
  · exact markedUncertain_safe hown hk
  · split
    · exact markedUncertain_safe hown hk
    · rename_i response status headers body hformed
      refine consume_safe hown ?_ hinv hk hok
      intro hstatus x hx ha hmay
      have hrefused := hmay _ (hhanded x hx ha)
      rw [refused_of_wellFormed hformed hstatus] at hrefused
      cases hrefused

theorem issue_safe {b : TokenBroker} (hown : (prepared.acquisitionId, id) ∈ s.owners)
    (hunhanded : ∀ h ∈ s.handed, h.acquisition ≠ prepared.acquisitionId)
    (hunrejected : s.Unrejected prepared.acquisitionId)
    (hk : ∀ s' e, s'.Inv → Closable id prepared.acquisitionId e s' →
      TokenClientSafe backend id (k (.error e)) s')
    (hok : ∀ s' t, s'.Inv → TokenClientSafe backend id (k (.ok t)) s') :
    TokenClientSafe backend id (issue runtime b id prepared k) s := by
  -- nothing was handed over yet, so any exception may close the row
  have hfree : ∀ s', s.Rely id s' → ∀ e, Closable id prepared.acquisitionId e s' := by
    intro s' hrely e
    refine Closable.later (Or.inl ⟨hown, ?_⟩) hrely.toKeeps
    intro x hx ha
    exact absurd ha (hunhanded x hx)
  refine safe_now ?_
  intro now s₁ hrely₁ _
  refine safe_idle (fun _ _ _ h => h) ?_
  intro r s₂ hrely₂ hinv₂
  have hrely := hrely₁.trans hrely₂
  cases (r : Except Raised IssuedAssertion) with
  | error e => exact hk s₂ e hinv₂ (hfree s₂ hrely e)
  | ok assertion =>
    dsimp only
    split
    · exact hk s₂ _ hinv₂ (hfree s₂ hrely _)
    · split
      · exact hk s₂ _ hinv₂ (hfree s₂ hrely _)
      · intro s₃ hrely₃ hinv₃
        have hrely' := hrely.trans hrely₃
        have hown₃ := hrely'.owned _ hown
        have hinv₄ := hinv₃.send hown₃ (hrely'.unrejected _ hown hunrejected)
        refine ⟨trivial, fun u s₄ hsend => ?_⟩
        obtain rfl : s₄ = s₃.send prepared.acquisitionId := hsend.1
        refine ⟨hinv₄, fun _ h => h, fun other hne => send_rely hinv₃ hown₃ (hne trivial), ?_⟩
        -- the one request of this acquisition is open until the transport is done
        have hopen : ∀ x ∈ (s₃.send prepared.acquisitionId).handed,
            x.acquisition = prepared.acquisitionId → x.outcome = none := by
          intro x hx ha
          rcases List.mem_append.mp hx with hx | hx
          · exact absurd ha (hunhanded x ((hrely'.handed _ hown x ha).mp hx))
          · rw [List.mem_singleton.mp hx]
        intro s₅ hrely₅ hinv₅
        have hown₅ := hrely₅.owned _ hown₃
        have hopen₅ : ∀ x ∈ s₅.handed, x.acquisition = prepared.acquisitionId →
            x.outcome = none :=
          fun x hx ha => hopen x ((hrely₅.handed _ hown₃ x ha).mp hx) ha
        refine ⟨trivial, fun outcome s₆ hreceive => ?_⟩
        obtain rfl : s₆ = s₅.receive prepared.acquisitionId outcome := hreceive.1
        refine ⟨hinv₅.receive outcome hopen₅, fun _ h => h,
          fun other hne => receive_rely hinv₅ outcome hown₅ (hne trivial), ?_⟩
        refine readOutcome_safe hown₅ ?_ (hinv₅.receive outcome hopen₅) hk hok
        intro x hx ha
        rcases mem_updateWhere.mp hx with ⟨y, -, -, rfl⟩ | ⟨-, hother⟩
        · rfl
        · exact absurd ha (of_decide_eq_false hother)

/-! ## Capture -/

theorem capture_safe (runtime : TokenRuntime) (b : TokenBroker) (requestDigest : Digest) :
    TokenClientSafe backend id (capture runtime b id requestDigest) s := by
  refine safe_idle (fun _ _ _ h => h) ?_
  intro nonce s₁ _ _
  cases (nonce : Option AcquisitionId) with
  | none => exact safe_ret
  | some a =>
    refine safe_now ?_
    intro now s₂ _ _
    dsimp only
    split
    · exact safe_ret
    · refine safe_journal (fun _ _ _ => trivial) ?_ (fun _ _ _ _ _ _ _ => safe_ret)
      intro s₃ s₄ rows answer _ hinv₃ heffect hs₄ _ _
      subst hs₄
      cases heffect with
      | moved _ _ hnext => nomatch hnext
      | inserted hnew =>
        refine issue_safe (List.mem_append_right _ (List.mem_singleton.mpr rfl)) ?_ ?_ ?_ ?_
        · -- the acquisition is new, so nothing was handed over for it
          intro x hx ha
          obtain ⟨r, hr, hid⟩ := hinv₃.recorded x hx
          exact hnew r hr (hid.trans ha)
        · intro r hr hid
          rcases List.mem_append.mp hr with hr | hr
          · exact absurd hid (hnew r hr)
          · rw [List.mem_singleton.mp hr]
            exact fun hnone => nomatch hnone
        · intro s₅ e _ hclosable
          dsimp only
          split
          · exact rejected_safe hclosable
          · exact safe_ret
        · intro s₅ t _
          refine safe_idle (fun _ _ _ h => h) ?_
          intro operation s₆ _ _
          exact release_safe t.2 operation

theorem entry_safe {p : TokenClient} (h : TokenEntry runtime id p) :
    TokenClientSafe backend id p s := by
  cases h with
  | capture b requestDigest => exact capture_safe runtime b requestDigest
  | recoverUnsettled limit => exact recoverWith_safe fun _ => trivial
  | recoverRequestDigest requestDigest limit => exact recoverWith_safe fun _ => trivial

end

/-! ## Every schedule -/

abbrev TokenConfig := Config TokenWorld (Nat × TokenClient)

/-- Some schedule of captures and recoveries leads to a configuration; `exec` says what a call
may do. -/
def TokenBrokered (exec : (c : TokenBrokerCall) → TokenWorld → c.Out → TokenWorld → Prop)
    (runtime : TokenRuntime) (c : TokenConfig) : Prop :=
  NamedSteps exec (TokenEntry runtime) True ⟨TokenWorld.init, []⟩ c

/-- A row that does not say that there is no token: the request is open, its outcome unknown, or
the token was issued. -/
def DefenderTokenRecord.Accounted (r : DefenderTokenRecord) : Prop :=
  r.closure ≠ some .tokenRequestRejectedNoToken
    ∧ (r.state = .prepared ∨ r.state = .issued ∨ r.state = .uncertain
      ∨ (r.state = .closed ∧ r.issuedEpochMillis ≠ none))

instance (r : DefenderTokenRecord) : Decidable r.Accounted := by
  delta DefenderTokenRecord.Accounted; infer_instance

instance (h : HandedRequest) : Decidable h.MayHaveToken := by
  delta HandedRequest.MayHaveToken; infer_instance

/-- Each token request that was handed to the transport has a row, and unless the transport
returned an HTTP response with a status other than `200`, the row accounts for the token. -/
def TokensAccounted (s : TokenWorld) : Prop :=
  ∀ h ∈ s.handed, (∃ r ∈ s.rows, r.acquisitionId = h.acquisition)
    ∧ (h.MayHaveToken → ∀ r ∈ s.rows, r.acquisitionId = h.acquisition → r.Accounted)

instance (s : TokenWorld) : Decidable (TokensAccounted s) := by
  delta TokensAccounted; infer_instance

theorem DefenderTokenRecord.Shaped.accounted {r : DefenderTokenRecord} (h : r.Shaped)
    (hclosure : r.closure ≠ some .tokenRequestRejectedNoToken) : r.Accounted := by
  refine ⟨hclosure, ?_⟩
  unfold DefenderTokenRecord.Shaped at h
  cases hstate : r.state with
  | prepared => exact Or.inl rfl
  | issued => exact Or.inr (Or.inl rfl)
  | uncertain => exact Or.inr (Or.inr (Or.inl rfl))
  | closed =>
    rw [hstate] at h
    rcases h with hrejected | ⟨hissued, -⟩
    · exact absurd hrejected hclosure
    · exact Or.inr (Or.inr (Or.inr ⟨rfl, hissued⟩))

theorem TokenWorld.Inv.accounted {s : TokenWorld} (h : s.Inv) : TokensAccounted s := by
  intro x hx
  refine ⟨h.recorded x hx, ?_⟩
  intro hmay r hr hid
  exact (h.shaped r hr).accounted (h.present x hx hmay r hr hid)

theorem inv_init : TokenWorld.init.Inv := by
  refine ⟨List.nodup_nil, rfl, ?_, ?_, ?_⟩
  all_goals exact fun _ h => absurd h List.not_mem_nil

theorem brokered_inv {backend : TokenBackend} {runtime : TokenRuntime} {c : TokenConfig}
    (h : TokenBrokered (steadyExec backend) runtime c) : c.shared.Inv := by
  obtain ⟨hkept, -⟩ := namedSteps_kept (fun _ _ h => h)
    (fun _ _ _ h₁ h₂ a h => h₂ a (h₁ a h)) TokenWorld.Rely.refl (fun _ _ _ _ => .trans)
    (fun _ _ _ _ _ => trivial) (fun _ _ hentry _ _ => entry_safe hentry) h (kept_init inv_init)
  exact hkept.holds

/-! ## Written schedules -/

/-- What the surroundings answer in a written schedule; `fault` is what a journal call raises
instead of being made. -/
structure TokenChoice where
  nonce : AcquisitionId
  now : Millis
  assertion : IssuedAssertion
  outcome : TransportOutcome
  fault : Option Raised

instance (c : TokenBrokerCall) (r : c.Out) (s' : TokenWorld) : Decidable (Steady c r s') := by
  unfold Steady
  split <;> infer_instance

/-- A move of a written schedule. -/
def runToken (backend : TokenBackend) (choice : TokenChoice) :
    (c : TokenBrokerCall) → TokenWorld → c.Out × TokenWorld
  | .nonce, s => (some choice.nonce, s)
  | .now, s => (choice.now, s)
  | .credential _, s => (.ok choice.assertion, s)
  | .journal client _ call, s =>
    match choice.fault, backend.run s.rows call with
    | some e, _ => (.error e, s)
    | none, .ok (rows, answer) =>
      (.ok answer, { s with rows := rows, owners := s.claims client call })
    | none, .error e => (.error e, s)
  | .send a _, s => ((), s.send a)
  | .receive a, s => (choice.outcome, s.receive a choice.outcome)
  | .capture _, s => (.ok (), s)

theorem runToken_exec (backend : TokenBackend) (choice : TokenChoice) (c : TokenBrokerCall)
    (s : TokenWorld) :
    tokenExec backend c s (runToken backend choice c s).1 (runToken backend choice c s).2 := by
  cases c with
  | nonce => exact rfl
  | now => exact rfl
  | credential now => exact rfl
  | journal client site call =>
    unfold runToken
    dsimp only
    split
    · exact Or.inl rfl
    · rename_i hrun
      exact ⟨_, hrun, rfl⟩
    · exact Or.inl rfl
  | send a body => exact rfl
  | receive a => exact rfl
  | capture token => exact rfl

/-- A move that meets the condition, where it is asked for. -/
def steadyToken (backend : TokenBackend) (steady : Bool) (choice : TokenChoice)
    (c : TokenBrokerCall) (s : TokenWorld) : Option (c.Out × TokenWorld) :=
  if steady = true → Steady c (runToken backend choice c s).1 (runToken backend choice c s).2 then
    some (runToken backend choice c s)
  else
    none

abbrev TokenMove (runtime : TokenRuntime) := NamedMove (TokenEntry runtime) TokenChoice

def playToken {runtime : TokenRuntime} (backend : TokenBackend) (steady : Bool)
    (moves : List (TokenMove runtime)) : TokenConfig :=
  moves.foldl (fun c m => playNamed (steadyToken backend steady) m c) ⟨TokenWorld.init, []⟩

theorem steadyToken_some {backend : TokenBackend} {steady : Bool} (choice : TokenChoice)
    (c : TokenBrokerCall) (s : TokenWorld) (r : c.Out) (s' : TokenWorld)
    (h : steadyToken backend steady choice c s = some (r, s')) :
    tokenExec backend c s r s' ∧ (steady = true → Steady c r s') := by
  unfold steadyToken at h
  split at h
  · rename_i hsteady
    have hrun := Option.some.inj h
    have hexec := runToken_exec backend choice c s
    rw [hrun] at hsteady hexec
    exact ⟨hexec, hsteady⟩
  · cases h

theorem playToken_brokered {runtime : TokenRuntime} (backend : TokenBackend)
    (moves : List (TokenMove runtime)) :
    TokenBrokered (tokenExec backend) runtime (playToken backend false moves) := by
  refine playNamed_steps (fun choice c s r s' h => ?_) moves _
  exact (steadyToken_some choice c s r s' h).1

theorem playToken_steady {runtime : TokenRuntime} (backend : TokenBackend)
    (moves : List (TokenMove runtime)) :
    TokenBrokered (steadyExec backend) runtime (playToken backend true moves) := by
  refine playNamed_steps (fun choice c s r s' h => ?_) moves _
  obtain ⟨hexec, hsteady⟩ := steadyToken_some choice c s r s' h
  exact ⟨hexec, hsteady rfl⟩

/-! ## An outcome that stays unknown -/

/-- No response is read in the schedules below. -/
def exampleRuntime : TokenRuntime where
  lower text := text.map Char.toLower
  sha256 _ := 0
  strictJsonLoads _ := none

def exampleBroker : TokenBroker :=
  ⟨"client".toList, "scope".toList, 1, 2, 3, .certificatePs256, 4, 5⟩

/-- The transport gives up on a request it has sent. -/
def timedOut : TransportOutcome :=
  .raised (.ambiguous "token-transport" "token request outcome is ambiguous")

def exampleTokenChoice : TokenChoice :=
  { nonce := 7
    now := 1000
    assertion := ⟨[65, 66], .certificatePs256, 4, 6⟩
    outcome := timedOut
    fault := none }

/-- The journal is not reachable for one call. -/
def exampleOutage : TokenChoice :=
  { exampleTokenChoice with
    fault := some (journalFailure "PostgreSQL PAM journal is unavailable") }

def tokenMoves (n : Nat) (choice : TokenChoice) : List (TokenMove exampleRuntime) :=
  List.replicate n (.run 0 choice)

/-- A capture up to the clock reading before its `mark_uncertain`. -/
def exampleTimedOut : List (TokenMove exampleRuntime) :=
  [.start 0 _ (.capture 0 exampleBroker 9)] ++ tokenMoves 8 exampleTokenChoice

/-- **A token that may exist is not recorded as absent**, in every schedule in which a
`mark_uncertain` that `_issue` makes for the outcome of its request raises a plain
`DefenderPamError` only when the row has left `prepared`. -/
theorem possible_token_is_accounted (backend : TokenBackend) (runtime : TokenRuntime)
    {c : TokenConfig} (h : TokenBrokered (steadyExec backend) runtime c) :
    TokensAccounted c.shared :=
  (brokered_inv h).accounted

/-- The request timed out, and the row says so. -/
theorem possible_token_is_accounted_timeout :
    ∃ c, TokenBrokered (steadyExec (.postgres asciiCtype)) exampleRuntime c
      ∧ TokensAccounted c.shared ∧ (∀ p ∈ c.clients, ¬p.2.Live)
      ∧ ∃ r ∈ c.shared.rows, r.state = .uncertain := by
  refine ⟨playToken (.postgres asciiCtype) true (exampleTimedOut ++ tokenMoves 2 exampleTokenChoice),
    playToken_steady _ _, possible_token_is_accounted _ _ (playToken_steady _ _), ?_⟩
  decide +kernel

/-- The request timed out, the journal was not reachable for the `mark_uncertain`, and is again:
`capture` closes the row as rejected. -/
theorem outage_hides_token :
    ∃ c, TokenBrokered (tokenExec (.postgres asciiCtype)) exampleRuntime c
      ∧ ¬TokensAccounted c.shared ∧ (∀ p ∈ c.clients, ¬p.2.Live) := by
  refine ⟨playToken (.postgres asciiCtype) false (exampleTimedOut
    ++ tokenMoves 1 exampleOutage ++ tokenMoves 3 exampleTokenChoice), playToken_brokered _ _, ?_⟩
  decide +kernel

end ControlAssurance.Pam.Defender
