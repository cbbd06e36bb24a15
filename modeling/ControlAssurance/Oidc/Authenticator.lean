import ControlAssurance.Lib.Owned
import ControlAssurance.Oidc.IdToken

/-!
# Logins

`InMemoryOIDCStateStore` and `OIDCAuthenticator`. A method of the store is one atomic call, made
under its lock; what it pruned stays pruned when it raises. `begin`, `complete`,
`authenticate_session` and `logout` are programs over these calls, with the clock, the source of
randomness and the two remote calls in between. Clocks and remote calls may answer anything.

Handles of the random source are pairwise different, and SHA-256 does not collide on the texts
that are hashed in a run: `loginExec` asks for both. `LoginWorld` keeps a history of the store's
calls for the statements. So that the history can be read, calls carry the name of their client,
the handles that were hashed into their digests, and the token a session comes from; the store
reads none of these.
-/

namespace ControlAssurance.Oidc

open Lib ControlPlane

/-! ## Handles -/

/-- The URL-safe alphabet: `A-Z`, `a-z`, `0-9`, `-` and `_`. -/
def b64urlChar (n : Nat) : Char :=
  if n < 26 then Char.ofNat (65 + n)
  else if n < 52 then Char.ofNat (71 + n)
  else if n < 62 then Char.ofNat (n - 4)
  else if n = 62 then '-'
  else '_'

/-- The `k` lowest base-64 digits of `n`, lowest first. -/
def sextets : Nat → Nat → List Nat
  | 0, _ => []
  | k + 1, n => n % 64 :: sextets k (n / 64)

abbrev Handle := BitVec 256

/-- `_b64url` of 32 bytes: 43 digits, the last of which has two bits of padding. -/
def b64url (h : Handle) : Text := (sextets 43 (h.toNat * 4)).reverse.map b64urlChar

/-! ## The store -/

structure AuthorizationTransaction where
  transactionDigest : Digest
  stateDigest : Digest
  nonceDigest : Digest
  codeVerifier : Text
  createdAt : Micros
  expiresAt : Micros
deriving DecidableEq

structure SessionRecord where
  sessionIdDigest : Digest
  actor : Actor
  issuedAt : Micros
  expiresAt : Micros
deriving DecidableEq

/-- `InMemoryOIDCStateStore` -/
structure OIDCStateStore where
  transactions : List AuthorizationTransaction
  transactionSources : List (Digest × String)
  burnCapacities : List (Digest × Nat)
  usedTransactions : List (Digest × Micros)
  sessions : List SessionRecord
deriving DecidableEq

/-- `_SOURCE_DIGEST_RE` -/
def sourceDigestRe (s : String) : Bool :=
  let stem := "hmac-sha256:".toList
  s.toList.take stem.length == stem && s.toList.length == stem.length + 64
    && (s.toList.drop stem.length).all fun c => c.isDigit || ('a' ≤ c && c ≤ 'f')

/-- `dict.pop(key, None)` -/
def popKey {α : Type} (entries : List (Digest × α)) (d : Digest) : List (Digest × α) :=
  entries.filter fun e => decide (e.1 ≠ d)

def unavailable : Failure := .oidc "state_store_unavailable"

namespace OIDCStateStore

/-- The burn records that outlast an instant. -/
def unburned (store : OIDCStateStore) (now : Micros) : List (Digest × Micros) :=
  store.usedTransactions.filter fun u => decide (now < u.2)

/-- What `create_transaction` drops before it decides. -/
def pruned (store : OIDCStateStore) (now : Micros) : OIDCStateStore :=
  let expired := (store.transactions.filter fun t => decide (t.expiresAt ≤ now)).map
    (·.transactionDigest)
  { store with
    transactions := store.transactions.filter fun t => decide (now < t.expiresAt)
    transactionSources := store.transactionSources.filter fun e => decide (e.1 ∉ expired)
    burnCapacities := store.burnCapacities.filter fun e => decide (e.1 ∉ expired)
    usedTransactions := store.unburned now }

/-- The entries of a transaction in three of the dictionaries. -/
def add (store : OIDCStateStore) (t : AuthorizationTransaction) (source : String)
    (capacity : Nat) : OIDCStateStore :=
  { store with
    transactions := store.transactions ++ [t]
    transactionSources := store.transactionSources ++ [(t.transactionDigest, source)]
    burnCapacities := store.burnCapacities ++ [(t.transactionDigest, capacity)] }

def createTransaction (store : OIDCStateStore) (t : AuthorizationTransaction)
    (sourceDigest : String) (policy : OIDCLoginAdmissionPolicy) :
    Except Failure Unit × OIDCStateStore :=
  if sourceDigestRe sourceDigest = false then
    (.error (.oidc "invalid_login_source"), store)
  else
    let store := store.pruned t.createdAt
    if policy.burnCapacity ≤ store.usedTransactions.length then
      (.error unavailable, store)
    else if policy.globalActiveLimit ≤ store.transactions.length then
      (.error (.oidc "login_admission_limited"), store)
    else if policy.sourceActiveLimit
        ≤ store.transactionSources.countP fun e => decide (e.2 = sourceDigest) then
      (.error (.oidc "login_admission_limited"), store)
    else if (∃ x ∈ store.transactions, x.transactionDigest = t.transactionDigest)
        ∨ ∃ x ∈ store.usedTransactions, x.1 = t.transactionDigest then
      (.error (.oidc "transaction_conflict"), store)
    else
      (.ok (), store.add t sourceDigest policy.burnCapacity)

/-- The transaction is taken out and burned. -/
def burn (store : OIDCStateStore) (t : AuthorizationTransaction) (d : Digest) : OIDCStateStore :=
  { store with
    transactions := store.transactions.filter fun x => decide (x.transactionDigest ≠ d)
    transactionSources := popKey store.transactionSources d
    burnCapacities := popKey store.burnCapacities d
    usedTransactions := popKey store.usedTransactions d ++ [(d, t.expiresAt)] }

def consumeTransaction (store : OIDCStateStore) (d stateDigest : Digest) (at_ : Micros) :
    Except Failure AuthorizationTransaction × OIDCStateStore :=
  match store.transactions.find? fun t => decide (t.transactionDigest = d) with
  | none => (.error (.oidc "invalid_transaction"), store)
  | some t =>
    let store := { store with usedTransactions := store.unburned at_ }
    match store.burnCapacities.find? fun e => decide (e.1 = d) with
    | none => (.error (.other "KeyError"), store)
    | some (_, capacity) =>
      if capacity ≤ store.usedTransactions.length then
        (.error unavailable, store)
      else if at_ < t.createdAt ∨ t.expiresAt < at_ ∨ t.stateDigest ≠ stateDigest then
        (.error (.oidc "invalid_transaction"), store.burn t d)
      else
        (.ok t, store.burn t d)

def createSession (store : OIDCStateStore) (session : SessionRecord) :
    Except Failure Unit × OIDCStateStore :=
  let live := store.sessions.filter fun x => decide (session.issuedAt < x.expiresAt)
  if ∃ x ∈ live, x.sessionIdDigest = session.sessionIdDigest then
    (.error (.oidc "session_conflict"), { store with sessions := live })
  else
    (.ok (), { store with sessions := live ++ [session] })

/-- `dict.pop` on the sessions. -/
def dropSession (store : OIDCStateStore) (d : Digest) : OIDCStateStore :=
  { store with sessions := store.sessions.filter fun x => decide (x.sessionIdDigest ≠ d) }

def readSession (store : OIDCStateStore) (d : Digest) (at_ : Micros) :
    Except Failure SessionRecord × OIDCStateStore :=
  match store.sessions.find? fun x => decide (x.sessionIdDigest = d) with
  | none => (.error (.oidc "invalid_session"), store)
  | some session =>
    if at_ < session.issuedAt ∨ session.expiresAt ≤ at_ then
      (.error (.oidc "invalid_session"), store.dropSession d)
    else
      (.ok session, store)

def revokeSession (store : OIDCStateStore) (d : Digest) : Bool × OIDCStateStore :=
  (store.sessions.any fun x => decide (x.sessionIdDigest = d), store.dropSession d)

end OIDCStateStore

/-! ## The world -/

inductive LoginEvent where
  /-- `create_transaction` stored a transaction, made from a handle and a nonce -/
  | begun (handle nonce : Handle) (t : AuthorizationTransaction)
  /-- `consume_transaction` -/
  | consumed (client : Nat) (d stateDigest : Digest) (at_ : Micros)
      (r : Except Failure AuthorizationTransaction)
  /-- `create_session` stored a session, after a transaction and from a token -/
  | stored (handle : Handle) (t : AuthorizationTransaction) (token : String) (jwks : Bytes)
      (session : SessionRecord)
  /-- `read_session` -/
  | read (d : Digest) (at_ : Micros) (r : Except Failure SessionRecord)
  /-- `revoke_session` -/
  | revoked (d : Digest) (r : Bool)
deriving DecidableEq

structure LoginWorld where
  store : OIDCStateStore
  /-- the random values handed out so far, and to whom -/
  drawn : List (Handle × Nat)
  /-- the texts hashed so far -/
  texts : List Text
  log : List LoginEvent
deriving DecidableEq

def LoginWorld.init : LoginWorld := ⟨⟨[], [], [], [], []⟩, [], [], []⟩

structure TokenExchangeResult where
  idToken : String
  effectiveEndpoint : String
deriving DecidableEq

structure JWKSFetchResult where
  payload : Bytes
  effectiveUri : String
deriving DecidableEq

inductive LoginCall where
  | clock
  | random (client : Nat)
  | sha256 (text : Text)
  | createTransaction (handle nonce : Handle) (t : AuthorizationTransaction) (source : String)
  | consumeTransaction (client : Nat) (d stateDigest : Digest) (at_ : Micros)
  /-- `redeemer.redeem` -/
  | redeem (code codeVerifier : Text)
  /-- `jwks_fetcher.fetch`; a forced refresh names the missing key and the key set seen -/
  | fetchJwks (refresh : Option (String × Bytes))
  | createSession (handle : Handle) (t : AuthorizationTransaction) (token : String)
      (jwks : Bytes) (session : SessionRecord)
  | readSession (d : Digest) (at_ : Micros)
  | revokeSession (d : Digest)

/-- A remote call that raised, or did not return its own type, answers nothing. -/
@[reducible] def LoginCall.Out : LoginCall → Type
  | .clock => Micros
  | .random _ => Option Handle
  | .sha256 _ => Digest
  | .createTransaction .. => Except Failure Unit
  | .consumeTransaction .. => Except Failure AuthorizationTransaction
  | .redeem .. => Option TokenExchangeResult
  | .fetchJwks _ => Option JWKSFetchResult
  | .createSession .. => Except Failure Unit
  | .readSession .. => Except Failure SessionRecord
  | .revokeSession _ => Bool

section

variable (sha : Text → Digest) (configuration : OIDCConfiguration)

/-- A store call: its answer, the store it leaves, and what the history says about it. -/
def LoginWorld.after (s : LoginWorld) (store : OIDCStateStore) (events : List LoginEvent) :
    LoginWorld :=
  { s with store := store, log := s.log ++ events }

/-- An event of a call that succeeded. -/
def onOk {ε α : Type} (r : Except ε α) (e : LoginEvent) : List LoginEvent :=
  match r with
  | .ok _ => [e]
  | .error _ => []

/-- What a call may answer and leave. -/
def loginExec : (c : LoginCall) → LoginWorld → c.Out → LoginWorld → Prop
  | .clock, s, _, s' => s' = s
  | .random client, s, r, s' => match r with
    | some h => h ∉ s.drawn.map (·.1) ∧ s' = { s with drawn := (h, client) :: s.drawn }
    | none => s' = s
  | .sha256 text, s, r, s' => r = sha text ∧ (∀ u ∈ s.texts, sha u = sha text → u = text)
      ∧ s' = { s with texts := text :: s.texts }
  | .createTransaction handle nonce t source, s, r, s' =>
    let result := s.store.createTransaction t source configuration.loginAdmissionPolicy
    r = result.1 ∧ s' = s.after result.2 (onOk result.1 (.begun handle nonce t))
  | .consumeTransaction client d stateDigest at_, s, r, s' =>
    let result := s.store.consumeTransaction d stateDigest at_
    r = result.1 ∧ s' = s.after result.2 [.consumed client d stateDigest at_ result.1]
  | .redeem .., s, _, s' => s' = s
  | .fetchJwks _, s, _, s' => s' = s
  | .createSession handle t token jwks session, s, r, s' =>
    let result := s.store.createSession session
    r = result.1 ∧ s' = s.after result.2 (onOk result.1 (.stored handle t token jwks session))
  | .readSession d at_, s, r, s' =>
    let result := s.store.readSession d at_
    r = result.1 ∧ s' = s.after result.2 [.read d at_ result.1]
  | .revokeSession d, s, r, s' =>
    let result := s.store.revokeSession d
    r = result.1 ∧ s' = s.after result.2 [.revoked d result.1]

end

/-! ## The authenticator -/

/-- The redirect of `begin`: the parameters of its query, and the cookie. -/
structure AuthorizationRequest where
  query : List (String × String)
  transactionCookie : Text
  expiresAt : Micros
deriving DecidableEq

structure AuthenticationResult where
  actor : Actor
  sessionCookie : Text
  expiresAt : Micros
deriving DecidableEq

inductive LoginAnswer where
  | began (request : AuthorizationRequest)
  | completed (result : AuthenticationResult)
  /-- what `authenticate_session` returns for a cookie -/
  | authenticated (cookie : Text) (actor : Actor)
  | loggedOut (revoked : Bool)
deriving DecidableEq

abbrev LoginClient := Prog LoginCall LoginCall.Out (Except Failure LoginAnswer)

section

variable (runtime : OidcRuntime) (configuration : OIDCConfiguration) (client : Nat)

/-- An exception ends the call. -/
def refuse (code : String) : LoginClient := .ret (.error (.oidc code))

/-- `_opaque` -/
def opaqueHandle (k : Handle → LoginClient) : LoginClient :=
  .call (.random client) fun (r : Option Handle) => match r with
    | none => refuse "random_source_failure"
    | some h => k h

/-- The query of the redirect. -/
def authorizationQuery (state nonce : Handle) (challenge : Digest) : List (String × String) :=
  [("response_type", "code"), ("client_id", configuration.clientId),
    ("redirect_uri", configuration.redirectUri), ("scope", " ".intercalate configuration.scopes),
    ("state", String.ofList (b64url state)), ("nonce", String.ofList (b64url nonce)),
    ("code_challenge", String.ofList (b64url challenge)), ("code_challenge_method", "S256"),
    ("max_age", toString configuration.mfaPolicy.maximumAuthenticationAgeSeconds)]

/-- `begin` -/
def begin_ (sourceDigest : String) : LoginClient :=
  .call .clock fun (now : Micros) =>
  opaqueHandle client fun handle =>
  opaqueHandle client fun state =>
  opaqueHandle client fun nonce =>
  opaqueHandle client fun verifier =>
  .call (.sha256 (b64url verifier)) fun (challenge : Digest) =>
  .call (.sha256 (b64url handle)) fun (transactionDigest : Digest) =>
  .call (.sha256 (b64url state)) fun (stateDigest : Digest) =>
  .call (.sha256 (b64url nonce)) fun (nonceDigest : Digest) =>
  let expiresAt := now + seconds configuration.transactionTtlSeconds
  .call (.createTransaction handle nonce
    ⟨transactionDigest, stateDigest, nonceDigest, b64url verifier, now, expiresAt⟩
    sourceDigest) fun (r : Except Failure Unit) => match r with
    | .error e => .ret (.error e)
    | .ok _ => .ret (.ok (.began
        ⟨authorizationQuery configuration state nonce challenge, b64url handle, expiresAt⟩))

/-- `_fetch_jwks` -/
def fetchJwks (refresh : Option (String × Bytes)) (k : Bytes → LoginClient) : LoginClient :=
  .call (.fetchJwks refresh) fun (r : Option JWKSFetchResult) => match r with
    | none => refuse "jwks_fetch_failed"
    | some result =>
      if result.effectiveUri = configuration.jwksUri ∧ result.payload ≠ []
          ∧ result.payload.length ≤ 1024 * 1024 then
        k result.payload
      else refuse "jwks_fetch_failed"

/-- `verify_id_token` -/
def verifyIdToken (token : String) (jwks : Bytes) (expectedNonceDigest : Digest) (now : Micros)
    (k : Except Failure VerifiedIdentity → LoginClient) : LoginClient :=
  match verifyClaims runtime configuration token jwks now with
  | .error e => k (.error e)
  | .ok checked => match nonceText checked.claims with
    | .error e => k (.error e)
    | .ok nonce =>
      .call (.sha256 nonce) fun (digest : Digest) =>
        if digest = expectedNonceDigest then k (verifyIdentity configuration checked)
        else k (.error (.oidc "invalid_claims"))

/-- The end of `complete`, once the token was verified. -/
def openSession (now : Micros) (t : AuthorizationTransaction) (token : String) (jwks : Bytes)
    (identity : VerifiedIdentity) : LoginClient :=
  opaqueHandle client fun handle =>
  .call (.sha256 (b64url handle)) fun (sessionDigest : Digest) =>
  match mapActor configuration identity sessionDigest with
  | .error e => .ret (.error e)
  | .ok actor =>
    let expiresAt := min identity.expiresAt (now + seconds configuration.sessionTtlSeconds)
    if expiresAt ≤ now then refuse "stale_authentication"
    else
      .call (.createSession handle t token jwks ⟨sessionDigest, actor, now, expiresAt⟩)
        fun (r : Except Failure Unit) => match r with
        | .error e => .ret (.error e)
        | .ok _ => .ret (.ok (.completed ⟨actor, b64url handle, expiresAt⟩))

/-- `complete`, from the result of the token exchange on. -/
def finish (now : Micros) (t : AuthorizationTransaction) (token : String) : LoginClient :=
  fetchJwks configuration none fun jwks =>
  verifyIdToken runtime configuration token jwks t.nonceDigest now fun r => match r with
    | .ok identity => openSession configuration client now t token jwks identity
    | .error (.oidc "unknown_signing_key") =>
      -- one fresh key set, named by the key that was missing
      match jwtParts runtime token with
      | .error e => .ret (.error e)
      | .ok parts => match claimText (parts.header.get "kid") "invalid_token" 255 with
        | .error e => .ret (.error e)
        | .ok kid =>
          fetchJwks configuration (some (kid, jwks)) fun fresh =>
          verifyIdToken runtime configuration token fresh t.nonceDigest now fun r => match r with
            | .ok identity => openSession configuration client now t token fresh identity
            | .error e => .ret (.error e)
    | .error e => .ret (.error e)

/-- A cookie or a state of the right form. -/
def opaqueText (s : Text) : Bool := s.length == 43 && b64urlText s

/-- `complete` -/
def complete (transactionCookie returnedState authorizationCode : Text) : LoginClient :=
  if opaqueText transactionCookie && opaqueText returnedState && !authorizationCode.isEmpty
      && authorizationCode.length ≤ 4096
      && authorizationCode.all fun c => 0x20 ≤ c.toNat && c.toNat != 0x7f then
    .call .clock fun (now : Micros) =>
    .call (.sha256 transactionCookie) fun (transactionDigest : Digest) =>
    .call (.sha256 returnedState) fun (stateDigest : Digest) =>
    .call (.consumeTransaction client transactionDigest stateDigest now)
      fun (r : Except Failure AuthorizationTransaction) => match r with
      | .error e => .ret (.error e)
      | .ok t =>
        .call (.redeem authorizationCode t.codeVerifier) fun (r : Option TokenExchangeResult) =>
          match r with
          | none => refuse "token_exchange_failed"
          | some result =>
            if result.effectiveEndpoint = configuration.tokenEndpoint then
              finish runtime configuration client now t result.idToken
            else refuse "token_exchange_failed"
  else refuse "invalid_callback"

/-- `authenticate_session` -/
def authenticateSession (sessionCookie : Text) : LoginClient :=
  if opaqueText sessionCookie then
    .call (.sha256 sessionCookie) fun (digest : Digest) =>
    .call .clock fun (now : Micros) =>
    .call (.readSession digest now) fun (r : Except Failure SessionRecord) => match r with
      | .error e => .ret (.error e)
      | .ok session => .ret (.ok (.authenticated sessionCookie session.actor))
  else refuse "invalid_session"

/-- `logout` -/
def logout (sessionCookie : Text) : LoginClient :=
  if opaqueText sessionCookie then
    .call (.sha256 sessionCookie) fun (digest : Digest) =>
    .call (.revokeSession digest) fun (revoked : Bool) => .ret (.ok (.loggedOut revoked))
  else .ret (.ok (.loggedOut false))

end

/-- What may start, under a name. -/
inductive LoginEntry (runtime : OidcRuntime) (configuration : OIDCConfiguration) :
    Nat → LoginClient → Prop
  | begin_ (id : Nat) (sourceDigest : String) :
      LoginEntry runtime configuration id (begin_ configuration id sourceDigest)
  | complete (id : Nat) (transactionCookie returnedState authorizationCode : Text) :
      LoginEntry runtime configuration id
        (complete runtime configuration id transactionCookie returnedState authorizationCode)
  | authenticateSession (id : Nat) (sessionCookie : Text) :
      LoginEntry runtime configuration id (authenticateSession sessionCookie)
  | logout (id : Nat) (sessionCookie : Text) :
      LoginEntry runtime configuration id (logout sessionCookie)

end ControlAssurance.Oidc
