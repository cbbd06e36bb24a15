import ControlAssurance.Oidc.LoginSafety

/-!
# Logins side by side

Any number of `begin`, `complete`, `authenticate_session` and `logout` calls on one store, in any
order of their calls. Every event of the history is allowed by the events before it
(`LoginAllowed`), and an answer is one the history accounts for (`LoginReturned`).
-/

namespace ControlAssurance.Oidc

open Lib ControlPlane

section

variable (runtime : OidcRuntime) (sha : Text → Digest) (configuration : OIDCConfiguration)

/-- What the history says of an answer. -/
def LoginReturned (answer : Except Failure LoginAnswer) (s : LoginWorld) : Prop :=
  match answer with
  | .ok (.began request) => ∃ h n t, .begun h n t ∈ s.log ∧ b64url h = request.transactionCookie
      ∧ t.expiresAt = request.expiresAt
  | .ok (.completed result) => ∃ h t token jwks session, .stored h t token jwks session ∈ s.log
      ∧ b64url h = result.sessionCookie ∧ session.actor = result.actor
      ∧ session.expiresAt = result.expiresAt
  | .ok (.authenticated cookie actor) => ∃ at_ session,
      .read (sha cookie) at_ (.ok session) ∈ s.log ∧ session.actor = actor
  | _ => True

/-- A client keeps the invariant, whatever the others do meanwhile. -/
abbrev LoginSafe (id : Nat) (p : LoginClient) (s : LoginWorld) : Prop :=
  NamedSafe (loginExec sha configuration) True (LoginWorld.Inv runtime sha configuration)
    LoginWorld.Order LoginWorld.Rely (fun _ _ _ => True) (LoginReturned sha) id p s

end

section

variable {runtime : OidcRuntime} {sha : Text → Digest} {configuration : OIDCConfiguration}
variable {id : Nat} {s : LoginWorld}

/-! ## One client -/

theorem safe_refuse (code : String) : LoginSafe runtime sha configuration id (refuse code) s :=
  trivial

theorem safe_error (e : Failure) :
    LoginSafe runtime sha configuration id (.ret (.error e)) s :=
  trivial

/-- A call that changes nothing. -/
theorem safe_idle {c : LoginCall} {k : c.Out → LoginClient}
    (hidle : ∀ s r s', loginExec sha configuration c s r s' → s' = s)
    (hk : ∀ r s', s.Rely id s' → s'.Inv runtime sha configuration →
      LoginSafe runtime sha configuration id (k r) s') :
    LoginSafe runtime sha configuration id (.call c k) s := by
  intro s' hrely hinv
  refine ⟨trivial, fun r s'' hexec => ?_⟩
  obtain rfl := hidle s' r s'' hexec
  exact ⟨hinv, List.prefix_rfl, fun other _ => .refl other s'', hk r s'' hrely hinv⟩

theorem safe_clock {k : Micros → LoginClient}
    (hk : ∀ r s', s.Rely id s' → s'.Inv runtime sha configuration →
      LoginSafe runtime sha configuration id (k r) s') :
    LoginSafe runtime sha configuration id (.call .clock k) s :=
  safe_idle (fun _ _ _ h => h) hk

/-- A handle that is new, and the client's own. -/
theorem safe_opaque {k : Handle → LoginClient}
    (hk : ∀ h s', s.Rely id s' → s'.Inv runtime sha configuration → (h, id) ∈ s'.drawn →
      h ∉ handles s'.log → LoginSafe runtime sha configuration id (k h) s') :
    LoginSafe runtime sha configuration id (opaqueHandle id k) s := by
  intro s' hrely hinv
  refine ⟨trivial, fun r s'' hexec => ?_⟩
  cases (r : Option Handle) with
  | none =>
    obtain rfl : s'' = s' := hexec
    exact ⟨hinv, List.prefix_rfl, fun other _ => .refl other s'', safe_refuse _⟩
  | some h =>
    obtain ⟨hnew, rfl⟩ := hexec
    refine ⟨hinv.draw hnew, List.prefix_rfl, fun other _ => draw_rely h id other, ?_⟩
    refine hk h _ (hrely.trans (draw_rely h id id)) (hinv.draw hnew) (List.mem_cons_self ..) ?_
    exact fun hused => hnew (hinv.hashed h hused).1

/-- The digest of a text that does not collide with any text hashed before. -/
theorem safe_sha256 {text : Text} {k : Digest → LoginClient}
    (hk : ∀ s', s.Rely id s' → s'.Inv runtime sha configuration → text ∈ s'.texts →
      LoginSafe runtime sha configuration id (k (sha text)) s') :
    LoginSafe runtime sha configuration id (.call (.sha256 text) k) s := by
  intro s' hrely hinv
  refine ⟨trivial, fun r s'' hexec => ?_⟩
  obtain ⟨rfl, hfree, rfl⟩ := hexec
  exact ⟨hinv.hash hfree, List.prefix_rfl, fun other _ => hash_rely text other,
    hk _ (hrely.trans (hash_rely text id)) (hinv.hash hfree) (List.mem_cons_self ..)⟩

/-! ## Beginning and ending -/

theorem begin_safe (sourceDigest : String) :
    LoginSafe runtime sha configuration id (begin_ configuration id sourceDigest) s := by
  refine safe_clock ?_
  intro now s₁ _ _
  refine safe_opaque ?_
  intro handle s₂ _ _ hdrawn hunused
  refine safe_opaque ?_
  intro state s₃ hrely₃ _ _ _
  refine safe_opaque ?_
  intro nonce s₄ hrely₄ _ _ _
  refine safe_opaque ?_
  intro verifier s₅ hrely₅ _ _ _
  refine safe_sha256 ?_
  intro s₆ hrely₆ _ _
  refine safe_sha256 ?_
  intro s₇ hrely₇ _ htext
  refine safe_sha256 ?_
  intro s₈ hrely₈ _ _
  refine safe_sha256 ?_
  intro s₉ hrely₉ _ hntext s' hrely' hinv
  refine ⟨trivial, fun r s'' hexec => ?_⟩
  obtain ⟨rfl, rfl⟩ := hexec
  have hearly := hrely₃.trans (hrely₄.trans (hrely₅.trans (hrely₆.trans hrely₇)))
  have hlate := hrely₈.trans (hrely₉.trans hrely')
  have hmine := (hearly.trans hlate).drawn handle hdrawn
  have hfree := (hearly.trans hlate).unused handle hdrawn hunused
  generalize ht : AuthorizationTransaction.mk (sha (b64url handle)) (sha (b64url state))
    (sha (b64url nonce)) (b64url verifier) now
    (now + seconds configuration.transactionTtlSeconds) = t
  rcases createTransaction_cases s'.store t sourceDigest configuration.loginAdmissionPolicy with
    ⟨e, herror, hstore⟩ | hok
  · -- refused: the store may have been pruned
    have hshrunk : s'.store.Shrunk
        (s'.store.createTransaction t sourceDigest configuration.loginAdmissionPolicy).2 := by
      rcases hstore with hsame | hpruned
      · rw [hsame]
        exact .refl _
      · rw [hpruned]
        exact pruned_shrunk hinv.unique t.createdAt
    rw [herror]
    have hsame : s'.after
        (s'.store.createTransaction t sourceDigest configuration.loginAdmissionPolicy).2
        (onOk (Except.error e : Except Failure Unit) (.begun handle nonce t))
        = { s' with store :=
          (s'.store.createTransaction t sourceDigest configuration.loginAdmissionPolicy).2 } := by
      unfold LoginWorld.after onOk
      rw [List.append_nil]
    rw [hsame]
    exact ⟨hinv.shrink hshrunk, List.prefix_rfl, fun other _ => ⟨List.prefix_rfl, fun _ h => h,
      fun _ h => h, fun _ _ h => h, fun _ _ _ _ _ h => h⟩, safe_error e⟩
  · rw [hok]
    have hpruned := hinv.shrink (pruned_shrunk hinv.unique t.createdAt)
    have hadd : LoginWorld.Inv runtime sha configuration (s'.after ((s'.store.pruned
        t.createdAt).add t sourceDigest configuration.loginAdmissionPolicy.burnCapacity)
        [.begun handle nonce t]) :=
      hpruned.add (by rw [← ht]) (by rw [← ht]) (List.mem_map_of_mem hmine)
        (hlate.texts _ htext) (hrely'.texts _ hntext) hfree
    refine ⟨hadd, List.prefix_append _ _, fun other hne => ?_, ?_⟩
    · exact used_rely (e := .begun handle nonce t) hinv rfl hmine
        (fun _ _ _ _ heq => nomatch heq) _ (hne trivial)
    · refine ⟨handle, nonce, t, List.mem_append_right _ (List.mem_singleton.mpr rfl), rfl, ?_⟩
      rw [← ht]

theorem authenticateSession_safe (cookie : Text) :
    LoginSafe runtime sha configuration id (authenticateSession cookie) s := by
  unfold authenticateSession
  split
  · refine safe_sha256 ?_
    intro s₁ _ _ _
    refine safe_clock ?_
    intro now s₂ _ _ s' _ hinv
    refine ⟨trivial, fun r s'' hexec => ?_⟩
    obtain ⟨rfl, rfl⟩ := hexec
    refine ⟨hinv.read _ now, List.prefix_append _ _, fun other _ => snoc_rely rfl _ other, ?_⟩
    generalize hr : (s'.store.readSession (sha cookie) now).1 = r
    cases r with
    | error e => exact safe_error e
    | ok session =>
      exact ⟨now, session, List.mem_append_right _ (List.mem_singleton.mpr rfl), rfl⟩
  · exact safe_refuse _

theorem logout_safe (cookie : Text) :
    LoginSafe runtime sha configuration id (logout cookie) s := by
  unfold logout
  split
  · refine safe_sha256 ?_
    intro s₁ _ _ _ s' _ hinv
    refine ⟨trivial, fun r s'' hexec => ?_⟩
    obtain ⟨rfl, rfl⟩ := hexec
    exact ⟨hinv.revoke _ _, List.prefix_append _ _, fun other _ => snoc_rely rfl _ other, trivial⟩
  · exact trivial

/-! ## Completing -/

/-- What a client knows of the transaction it consumed. -/
structure Holding (sha : Text → Digest) (id : Nat) (now : Micros) (t : AuthorizationTransaction)
    (n : Handle) (s : LoginWorld) : Prop where
  consumed : ∃ h₀ stateDigest, Before s.log (.begun h₀ n t)
    (.consumed id t.transactionDigest stateDigest now (.ok t))
  unstored : Unstored s.log t
  nonce : t.nonceDigest = sha (b64url n)
  text : b64url n ∈ s.texts

variable {n : Handle} {t : AuthorizationTransaction} {token : String}

theorem Holding.later {now : Micros} {s' : LoginWorld}
    (h : Holding sha id now t n s) (hrely : s.Rely id s') : Holding sha id now t n s' := by
  obtain ⟨h₀, stateDigest, hbefore⟩ := h.consumed
  exact ⟨⟨h₀, stateDigest, hbefore.of_prefix hrely.log⟩,
    hrely.unstored _ _ _ t hbefore.right h.unstored, h.nonce, hrely.texts _ h.text⟩

/-- What `verify_id_token` establishes. -/
def IdentityGranted (runtime : OidcRuntime) (configuration : OIDCConfiguration) (token : String)
    (jwks : Bytes) (nonce : Text) (identity : VerifiedIdentity) : Prop :=
  ∃ parts exp, jwtParts runtime token = .ok parts ∧ Signed runtime jwks parts
    ∧ parts.claims.get "iss" = some (.text configuration.issuer)
    ∧ ForClient parts.claims configuration.clientId
    ∧ parts.claims.get "nonce" = some (.text (String.ofList nonce))
    ∧ parts.claims.get "exp" = some (.integer exp)
    ∧ (∀ group, group ∈ identity.groups ↔ group ∈ tokenGroups parts.claims)
    ∧ identity.expiresAt = seconds exp

theorem verifyIdToken_safe {jwks : Bytes} {now now' : Micros}
    {k : Except Failure VerifiedIdentity → LoginClient} (hinv : s.Inv runtime sha configuration)
    (hholding : Holding sha id now t n s)
    (hk : ∀ r s', s.Rely id s' → s'.Inv runtime sha configuration →
      (∀ identity, r = .ok identity →
        IdentityGranted runtime configuration token jwks (b64url n) identity) →
      LoginSafe runtime sha configuration id (k r) s') :
    LoginSafe runtime sha configuration id
      (verifyIdToken runtime configuration token jwks t.nonceDigest now' k) s := by
  have herror : ∀ (e : Failure) s', s.Rely id s' → s'.Inv runtime sha configuration →
      LoginSafe runtime sha configuration id (k (.error e)) s' :=
    fun e s' hrely hinv' => hk _ s' hrely hinv' fun _ h => nomatch h
  unfold verifyIdToken
  split
  · exact herror _ s (.refl id s) hinv
  · rename_i checked hchecked
    split
    · exact herror _ s (.refl id s) hinv
    · rename_i nonce hnonce
      refine safe_sha256 ?_
      intro s' hrely hinv' htext
      split
      · rename_i hdigest
        refine hk _ s' hrely hinv' ?_
        intro identity hidentity
        -- the nonce is the transaction's, since the two texts have one digest
        have hholding' := hholding.later hrely
        have hsame : nonce = b64url n :=
          hinv'.free _ htext _ hholding'.text (hdigest.trans hholding'.nonce)
        obtain ⟨parts, hparts, hsigned, hissuer, haudience, hclaims, hexp⟩ :=
          verifyClaims_ok hchecked
        obtain ⟨hgroups, hexpires⟩ := verifyIdentity_ok hidentity
        have hget := nonceText_ok hnonce
        rw [hclaims] at hget hgroups
        rw [hsame] at hget
        exact ⟨parts, checked.expiresAt, hparts, hsigned, hissuer, haudience, hget, hexp, hgroups,
          hexpires⟩
      · exact herror _ s' hrely hinv'

theorem openSession_safe {jwks : Bytes} {now : Micros} {identity : VerifiedIdentity}
    (hholding : Holding sha id now t n s)
    (hgranted : IdentityGranted runtime configuration token jwks (b64url n) identity) :
    LoginSafe runtime sha configuration id
      (openSession configuration id now t token jwks identity) s := by
  refine safe_opaque ?_
  intro handle s₁ hrely₁ _ hdrawn hunused
  refine safe_sha256 ?_
  intro s₂ hrely₂ _ htext
  split
  · exact safe_error _
  · rename_i actor hactor
    dsimp only
    split
    · exact safe_refuse _
    · intro s' hrely' hinv
      refine ⟨trivial, fun r s'' hexec => ?_⟩
      obtain ⟨rfl, rfl⟩ := hexec
      have hmine := (hrely₂.trans hrely').drawn handle hdrawn
      have hfree := (hrely₂.trans hrely').unused handle hdrawn hunused
      have hholding' := hholding.later (hrely₁.trans (hrely₂.trans hrely'))
      generalize hsession : SessionRecord.mk (sha (b64url handle)) actor now
        (min identity.expiresAt (now + seconds configuration.sessionTtlSeconds)) = session
      rcases createSession_cases s'.store session with ⟨e, herror, hshrunk⟩ | ⟨hok, live, hlive, hstore⟩
      · rw [herror]
        have hsame : s'.after (s'.store.createSession session).2
            (onOk (Except.error e : Except Failure Unit) (.stored handle t token jwks session))
            = { s' with store := (s'.store.createSession session).2 } := by
          unfold LoginWorld.after onOk
          rw [List.append_nil]
        rw [hsame]
        exact ⟨hinv.shrink hshrunk, List.prefix_rfl, fun other _ => ⟨List.prefix_rfl,
          fun _ h => h, fun _ h => h, fun _ _ h => h, fun _ _ _ _ _ h => h⟩, safe_error e⟩
      · rw [hok, hstore]
        obtain ⟨h₀, stateDigest, hbefore⟩ := hholding'.consumed
        obtain ⟨parts, exp, hparts, hsigned, hissuer, haudience, hnonce, hexp, hgroups, hexpires⟩ :=
          hgranted
        have hallowed : LoginAllowed runtime sha configuration s'.log
            (.stored handle t token jwks session) := by
          refine ⟨by rw [← hsession], ⟨h₀, n, id, stateDigest, ?_, parts, exp, hparts, hsigned,
            hissuer, haudience, hnonce, hexp, ?_, ?_, ?_⟩, hholding'.unstored⟩
          · rw [← hsession]
            exact hbefore
          · rw [← hsession]
            exact (mapActor_ok hactor).congr hgroups
          · rw [← hsession, ← hexpires]
            exact Int.min_le_left _ _
          · rw [← hsession]
            exact Int.min_le_right _ _
        refine ⟨hinv.open hlive hallowed (List.mem_map_of_mem hmine) (hrely'.texts _ htext) hfree,
          List.prefix_append _ _, fun other hne => ?_, ?_⟩
        · refine used_rely (e := .stored handle t token jwks session) hinv rfl hmine ?_ _
            (hne trivial)
          intro t' token' jwks' session' heq
          cases heq
          exact ⟨_, _, _, hbefore.right⟩
        · refine ⟨handle, t, token, jwks, session,
            List.mem_append_right _ (List.mem_singleton.mpr rfl), rfl, ?_, ?_⟩
          · rw [← hsession]
          · rw [← hsession]

theorem fetchJwks_safe {refresh : Option (String × Bytes)} {k : Bytes → LoginClient}
    (hk : ∀ jwks s', s.Rely id s' → s'.Inv runtime sha configuration →
      LoginSafe runtime sha configuration id (k jwks) s') :
    LoginSafe runtime sha configuration id (fetchJwks configuration refresh k) s := by
  refine safe_idle (fun _ _ _ h => h) ?_
  intro r s' hrely hinv
  cases (r : Option JWKSFetchResult) with
  | none => exact safe_refuse _
  | some result =>
    dsimp only
    split
    · exact hk _ s' hrely hinv
    · exact safe_refuse _

theorem finish_safe {now : Micros} (hholding : Holding sha id now t n s) :
    LoginSafe runtime sha configuration id (finish runtime configuration id now t token) s := by
  refine fetchJwks_safe ?_
  intro jwks s₁ hrely₁ hinv₁
  have hholding₁ := hholding.later hrely₁
  refine verifyIdToken_safe hinv₁ hholding₁ ?_
  intro r s₂ hrely₂ hinv₂ hgranted
  split
  · rename_i identity
    exact openSession_safe (hholding₁.later hrely₂) (hgranted identity rfl)
  · split
    · exact safe_error _
    · split
      · exact safe_error _
      · refine fetchJwks_safe ?_
        intro fresh s₃ hrely₃ hinv₃
        have hholding₃ := (hholding₁.later hrely₂).later hrely₃
        refine verifyIdToken_safe hinv₃ hholding₃ ?_
        intro r s₄ hrely₄ _ hgranted'
        cases r with
        | error e => exact safe_error e
        | ok identity => exact openSession_safe (hholding₃.later hrely₄) (hgranted' identity rfl)
  · exact safe_error _

/-- The transaction a client has just consumed. -/
theorem holding_of_consumed {d stateDigest : Digest} {now : Micros}
    (hinv : s.Inv runtime sha configuration)
    (htaken : (s.store.consumeTransaction d stateDigest now).1 = .ok t) :
    ∃ n, Holding sha id now t n (s.after (s.store.consumeTransaction d stateDigest now).2
      [.consumed id d stateDigest now (.ok t)]) := by
  have hconsumed := consumption s.store d stateDigest now
  rw [htaken] at hconsumed
  generalize (s.store.consumeTransaction d stateDigest now).2 = store at hconsumed ⊢
  cases hconsumed with
  | taken _ ht hd hstate hfrom hto =>
    obtain ⟨⟨h₀, n, hbegun⟩, -⟩ := hinv.begun t ht
    obtain ⟨pre, post, -, -, hallowed⟩ := hinv.grown.mem hbegun
    refine ⟨n, ⟨h₀, stateDigest, ?_⟩, ?_, hallowed.2.1, hinv.nonces h₀ n t hbegun⟩
    · rw [hd]
      exact before_snoc.mpr (Or.inr ⟨hbegun, rfl⟩)
    · -- a session of the transaction would mean that it was taken out before
      intro h token jwks session hstored
      rcases List.mem_append.mp hstored with hstored | hstored
      · obtain ⟨pre', post', hlog, -, hold⟩ := hinv.grown.mem hstored
        obtain ⟨-, ⟨h₁, n₁, c, stateDigest', hbefore, -⟩, -⟩ := hold
        have hprefix : pre' <+: s.log := by
          rw [hlog]
          exact List.prefix_append _ _
        exact hinv.burned h₁ n₁ t c stateDigest' _ _ (hbefore.of_prefix hprefix)
          (fun hr => nomatch hr) t ht rfl
      · cases List.mem_singleton.mp hstored

theorem complete_safe (cookie state code : Text) :
    LoginSafe runtime sha configuration id
      (complete runtime configuration id cookie state code) s := by
  unfold complete
  split
  · refine safe_clock ?_
    intro now s₁ _ _
    refine safe_sha256 ?_
    intro s₂ _ _ _
    refine safe_sha256 ?_
    intro s₃ _ _ _ s' _ hinv
    refine ⟨trivial, fun r s'' hexec => ?_⟩
    obtain ⟨rfl, rfl⟩ := hexec
    refine ⟨hinv.consume id _ _ now, List.prefix_append _ _, fun other _ => snoc_rely rfl _ other,
      ?_⟩
    generalize hr : (s'.store.consumeTransaction (sha cookie) (sha state) now).1 = r
    cases r with
    | error e => exact safe_error e
    | ok t =>
      have htaken : ∃ n, Holding sha id now t n _ := holding_of_consumed hinv hr
      obtain ⟨n, hholding⟩ := htaken
      refine safe_idle (fun _ _ _ h => h) ?_
      intro result s₄ hrely₄ _
      cases (result : Option TokenExchangeResult) with
      | none => exact safe_refuse _
      | some result =>
        dsimp only
        split
        · exact finish_safe (hholding.later hrely₄)
        · exact safe_refuse _
  · exact safe_refuse _

theorem entry_safe {p : LoginClient} (h : LoginEntry runtime configuration id p) :
    LoginSafe runtime sha configuration id p s := by
  cases h with
  | begin_ sourceDigest => exact begin_safe sourceDigest
  | complete cookie state code => exact complete_safe cookie state code
  | authenticateSession cookie => exact authenticateSession_safe cookie
  | logout cookie => exact logout_safe cookie

end

/-! ## Every schedule -/

abbrev LoginConfig := Config LoginWorld (Nat × LoginClient)

/-- Some schedule of logins leads to a configuration. -/
def LoginRun (runtime : OidcRuntime) (sha : Text → Digest) (configuration : OIDCConfiguration)
    (c : LoginConfig) : Prop :=
  NamedSteps (loginExec sha configuration) (LoginEntry runtime configuration) True
    ⟨LoginWorld.init, []⟩ c

theorem inv_init {runtime : OidcRuntime} {sha : Text → Digest}
    {configuration : OIDCConfiguration} :
    LoginWorld.init.Inv runtime sha configuration := by
  refine ⟨List.nodup_nil, ?_, .nil, List.nodup_nil, ?_, ?_, ?_, ?_, ?_, ?_⟩
  · exact fun _ h => absurd h List.not_mem_nil
  · exact fun _ h => absurd h List.not_mem_nil
  · exact fun _ _ _ h => absurd h List.not_mem_nil
  · exact fun _ h => absurd h List.not_mem_nil
  · exact fun _ _ _ _ _ _ _ h => absurd h.left List.not_mem_nil
  · exact fun _ h => absurd h List.not_mem_nil
  · exact fun _ _ _ _ _ _ h => absurd h.left List.not_mem_nil

theorem LoginReturned.later {sha : Text → Digest} {answer : Except Failure LoginAnswer}
    {s s' : LoginWorld} (h : LoginReturned sha answer s) (horder : s.Order s') :
    LoginReturned sha answer s' := by
  unfold LoginReturned at h ⊢
  split
  · obtain ⟨a, n, t, hmem, hrest⟩ := h
    exact ⟨a, n, t, horder.subset hmem, hrest⟩
  · obtain ⟨a, t, token, jwks, session, hmem, hrest⟩ := h
    exact ⟨a, t, token, jwks, session, horder.subset hmem, hrest⟩
  · obtain ⟨at_, session, hmem, hactor⟩ := h
    exact ⟨at_, session, horder.subset hmem, hactor⟩
  · exact trivial

theorem loginRun_kept {runtime : OidcRuntime} {sha : Text → Digest}
    {configuration : OIDCConfiguration} {c : LoginConfig}
    (h : LoginRun runtime sha configuration c) :
    Kept (loginExec sha configuration) True (LoginWorld.Inv runtime sha configuration)
      LoginWorld.Order LoginWorld.Rely (fun _ _ _ => True) (LoginReturned sha) c := by
  have hentry : ∀ id p, LoginEntry runtime configuration id p → ∀ s,
      LoginWorld.Inv runtime sha configuration s → LoginSafe runtime sha configuration id p s :=
    fun _ _ h _ _ => entry_safe h
  have horder : ∀ a b c : LoginWorld, a.Order b → b.Order c → a.Order c :=
    fun _ _ _ h₁ h₂ => List.IsPrefix.trans h₁ h₂
  have hpost : ∀ a (s s' : LoginWorld), LoginReturned sha a s → s.Order s' →
      LoginReturned sha a s' := fun _ _ _ h => h.later
  have hrefl : ∀ s : LoginWorld, s.Order s := fun _ => List.prefix_rfl
  have hinit : Kept (loginExec sha configuration) True (LoginWorld.Inv runtime sha configuration)
      LoginWorld.Order LoginWorld.Rely (fun _ _ _ => True) (LoginReturned sha)
      (⟨LoginWorld.init, []⟩ : LoginConfig) := kept_init inv_init
  exact (namedSteps_kept hrefl horder LoginWorld.Rely.refl
    (fun _ _ _ _ => LoginWorld.Rely.trans) hpost hentry h hinit).1

/-! ## Written schedules -/

/-- What the surroundings answer in a written schedule. Both remote calls fail. -/
structure LoginChoice where
  now : Micros
  random : Handle

/-- A move of a written schedule. -/
def runLogin (sha : Text → Digest) (configuration : OIDCConfiguration) (choice : LoginChoice) :
    (c : LoginCall) → LoginWorld → Option (c.Out × LoginWorld)
  | .clock, s => some (choice.now, s)
  | .random client, s =>
    if choice.random ∉ s.drawn.map (·.1) then
      some (some choice.random, { s with drawn := (choice.random, client) :: s.drawn })
    else none
  | .sha256 text, s =>
    if ∀ u ∈ s.texts, sha u = sha text → u = text then
      some (sha text, { s with texts := text :: s.texts })
    else none
  | .createTransaction handle nonce t source, s =>
    let result := s.store.createTransaction t source configuration.loginAdmissionPolicy
    some (result.1, s.after result.2 (onOk result.1 (.begun handle nonce t)))
  | .consumeTransaction client d stateDigest at_, s =>
    let result := s.store.consumeTransaction d stateDigest at_
    some (result.1, s.after result.2 [.consumed client d stateDigest at_ result.1])
  | .redeem .., s => some (none, s)
  | .fetchJwks _, s => some (none, s)
  | .createSession handle t token jwks session, s =>
    let result := s.store.createSession session
    some (result.1, s.after result.2 (onOk result.1 (.stored handle t token jwks session)))
  | .readSession d at_, s =>
    let result := s.store.readSession d at_
    some (result.1, s.after result.2 [.read d at_ result.1])
  | .revokeSession d, s =>
    let result := s.store.revokeSession d
    some (result.1, s.after result.2 [.revoked d result.1])

theorem runLogin_exec (sha : Text → Digest) (configuration : OIDCConfiguration)
    (choice : LoginChoice) (c : LoginCall) (s : LoginWorld) (r : c.Out) (s' : LoginWorld)
    (h : runLogin sha configuration choice c s = some (r, s')) :
    loginExec sha configuration c s r s' := by
  cases c with
  | random client =>
    unfold runLogin at h
    dsimp only at h
    split at h
    · rename_i hnew
      cases h
      exact ⟨hnew, rfl⟩
    · cases h
  | sha256 text =>
    unfold runLogin at h
    dsimp only at h
    split at h
    · rename_i hfree
      cases h
      exact ⟨rfl, hfree, rfl⟩
    · cases h
  | clock =>
    cases h
    rfl
  | redeem code codeVerifier =>
    cases h
    rfl
  | fetchJwks refresh =>
    cases h
    rfl
  | createTransaction handle nonce t source =>
    cases h
    exact ⟨rfl, rfl⟩
  | consumeTransaction client d stateDigest at_ =>
    cases h
    exact ⟨rfl, rfl⟩
  | createSession handle t token jwks session =>
    cases h
    exact ⟨rfl, rfl⟩
  | readSession d at_ =>
    cases h
    exact ⟨rfl, rfl⟩
  | revokeSession d =>
    cases h
    exact ⟨rfl, rfl⟩

abbrev LoginMove (runtime : OidcRuntime) (configuration : OIDCConfiguration) :=
  NamedMove (LoginEntry runtime configuration) LoginChoice

def playLogins {runtime : OidcRuntime} {configuration : OIDCConfiguration}
    (sha : Text → Digest) (moves : List (LoginMove runtime configuration)) : LoginConfig :=
  moves.foldl (fun c m => playNamed (runLogin sha configuration) m c) ⟨LoginWorld.init, []⟩

theorem playLogins_run {runtime : OidcRuntime} {configuration : OIDCConfiguration}
    (sha : Text → Digest) (moves : List (LoginMove runtime configuration)) :
    LoginRun runtime sha configuration (playLogins sha moves) :=
  playNamed_steps (runLogin_exec sha configuration) moves _

/-! ## A login that is begun and completed -/

/-- No token is read in the schedules below. -/
def exampleRuntime : OidcRuntime where
  decodeB64url _ _ := none
  strictJson _ := none
  strictJwks _ := none
  rsaVerify _ _ _ _ := none
  ecVerify _ _ _ _ _ := none
  timestamp now := now.tdiv 1000000

def exampleLogins : OIDCConfiguration where
  issuer := "https://idp.example"
  tokenEndpoint := "https://idp.example/token"
  jwksUri := "https://idp.example/keys"
  clientId := "client"
  redirectUri := "https://control.example/callback"
  entitlements := [⟨"operators", "tenant", [.viewer]⟩]
  mfaPolicy := ⟨true, [], ["mfa"], 3600⟩
  loginAdmissionPolicy := ⟨2, 2, 2⟩
  scopes := ["openid"]
  transactionTtlSeconds := 60
  sessionTtlSeconds := 300
  clockSkewSeconds := 60
  maximumIdTokenAgeSeconds := 300
  maximumIdTokenLifetimeSeconds := 3600
  groupsUnique := by decide
  limits := by decide
  transactionTtl := by decide
  sessionTtl := by decide

/-- The handles below differ in the last character of their texts. -/
def exampleTextSha (text : Text) : Digest :=
  BitVec.ofNat 256 ((text.getLast?.map Char.toNat).getD 0)

def exampleSource : String :=
  "hmac-sha256:" ++ String.ofList (List.replicate 64 '0')

abbrev ExampleMove := LoginMove exampleRuntime exampleLogins

/-- A `begin` under name `id`, with the four handles from `first` on. -/
def beginMoves (id : Nat) (now : Int) (first : Nat) : List ExampleMove :=
  .start id _ (.begin_ id exampleSource) ::
    [first, first, first + 1, first + 2, first + 3, 0, 0, 0, 0, 0].map fun n =>
      .run 0 ⟨seconds now, BitVec.ofNat 256 n⟩

/-- A `complete` under name `id`, with the cookie and the state of two handles. -/
def completeMoves (id : Nat) (now : Int) (cookie state : Nat) : List ExampleMove :=
  .start id _ (.complete id (b64url (BitVec.ofNat 256 cookie)) (b64url (BitVec.ofNat 256 state))
    ['x']) :: List.replicate 5 (.run 0 ⟨seconds now, 0⟩)

/-- **Logins are sound**: each event of the store's history is allowed by the events before it,
and each answer is accounted for by the history. -/
theorem logins_are_sound (runtime : OidcRuntime) (sha : Text → Digest)
    (configuration : OIDCConfiguration) {c : LoginConfig}
    (h : LoginRun runtime sha configuration c) :
    Grown (LoginAllowed runtime sha configuration) c.shared.log
      ∧ ∀ id answer, (id, .ret answer) ∈ c.clients → LoginReturned sha answer c.shared := by
  have hkept := loginRun_kept h
  exact ⟨hkept.holds.grown, fun _ _ hmem => hkept.returned hmem⟩

/-- A login is begun and its transaction consumed. -/
theorem logins_are_sound_begun :
    ∃ c, LoginRun exampleRuntime exampleTextSha exampleLogins c
      ∧ Grown (LoginAllowed exampleRuntime exampleTextSha exampleLogins) c.shared.log
      ∧ ∃ e ∈ c.shared.log, ∃ client d stateDigest at_ t,
        e = .consumed client d stateDigest at_ (.ok t) := by
  refine ⟨playLogins exampleTextSha (beginMoves 0 0 1 ++ completeMoves 1 11 1 2),
    playLogins_run _ _, (logins_are_sound _ _ _ (playLogins_run _ _)).1, ?_⟩
  have hmem : LoginEvent.consumed 1 (exampleTextSha (b64url 1)) (exampleTextSha (b64url 2))
      (seconds 11) (.ok ⟨exampleTextSha (b64url 1), exampleTextSha (b64url 2),
        exampleTextSha (b64url 3), b64url 4, 0, seconds 60⟩)
      ∈ (playLogins exampleTextSha (beginMoves 0 0 1 ++ completeMoves 1 11 1 2)).shared.log := by
    decide
  exact ⟨_, hmem, _, _, _, _, _, rfl⟩

/-- A consume with a wrong state or outside the lifetime makes every later one fail. -/
def BurnsAlways (log : List LoginEvent) : Prop :=
  ∀ h n t c stateDigest at_ r c' stateDigest' at' t',
    Before log (.begun h n t) (.consumed c t.transactionDigest stateDigest at_ r) →
    (stateDigest ≠ t.stateDigest ∨ at_ < t.createdAt ∨ t.expiresAt < at_) →
    ¬Before log (.consumed c t.transactionDigest stateDigest at_ r)
      (.consumed c' t.transactionDigest stateDigest' at' (.ok t'))

/-- Three logins, two of which fill the burn records while the second is open. -/
def exampleFull : List ExampleMove :=
  beginMoves 0 0 1 ++ beginMoves 1 10 5 ++ completeMoves 2 11 1 2 ++ beginMoves 3 12 9
    ++ completeMoves 4 13 9 1 ++ completeMoves 5 14 5 1 ++ completeMoves 6 61 5 6

/-- The second of the three logins. -/
def exampleSecond : AuthorizationTransaction :=
  ⟨exampleTextSha (b64url 5), exampleTextSha (b64url 6), exampleTextSha (b64url 7), b64url 8,
    seconds 10, seconds 70⟩

/-- A consume with a wrong state that is turned away burns nothing: the next one succeeds. -/
theorem full_store_burns_nothing :
    ∃ c, LoginRun exampleRuntime exampleTextSha exampleLogins c ∧ ¬BurnsAlways c.shared.log := by
  refine ⟨playLogins exampleTextSha exampleFull, playLogins_run _ _, fun hburns => ?_⟩
  have hlog : Before (playLogins exampleTextSha exampleFull).shared.log
        (.begun 5 7 exampleSecond) (.consumed 5 exampleSecond.transactionDigest
          (exampleTextSha (b64url 1)) (seconds 14) (.error unavailable))
      ∧ Before (playLogins exampleTextSha exampleFull).shared.log
        (.consumed 5 exampleSecond.transactionDigest (exampleTextSha (b64url 1)) (seconds 14)
          (.error unavailable))
        (.consumed 6 exampleSecond.transactionDigest (exampleTextSha (b64url 6)) (seconds 61)
          (.ok exampleSecond)) := by
    decide +kernel
  exact hburns _ _ _ _ _ _ _ _ _ _ _ hlog.1 (Or.inl (by decide)) hlog.2

end ControlAssurance.Oidc
