import ControlAssurance.Lib.Table
import ControlAssurance.Oidc.Authenticator

/-!
# What a verified token says

`SessionGranted` is what a session owes its ID token: the signature, the issuer, the audience and
the nonce of the token, the tenant and the roles that the configuration gives to its groups, and
its expiry. `verify_id_token` and `_map_actor` establish it.
-/

namespace ControlAssurance.Oidc

open Lib ControlPlane

section

variable (runtime : OidcRuntime) (configuration : OIDCConfiguration)

/-- A key of the key set verifies the token. -/
def Signed (jwks : Bytes) (parts : JwtParts) : Prop :=
  ∃ algorithm kid key, parts.header.get "alg" = some (.text algorithm)
    ∧ parts.header.get "kid" = some (.text kid)
    ∧ selectJwk runtime jwks kid algorithm = .ok key
    ∧ verifySignature runtime algorithm key parts.signingInput parts.signature = .ok ()

/-- The token is meant for a client. -/
def ForClient (claims : JsonObject) (clientId : String) : Prop :=
  claims.get "aud" = some (.text clientId)
    ∨ ∃ items, claims.get "aud" = some (.array items) ∧ .text clientId ∈ items

/-- The groups a token names. -/
def tokenGroups (claims : JsonObject) : List String :=
  match claims.get "groups" with
  | some (.array items) => items.filterMap Json.textValue
  | _ => []

/-- The actor has the one tenant of the entitlements of some groups, and all their roles. -/
structure Entitled (groups : List String) (actor : Actor) : Prop where
  some_group : ∃ e ∈ configuration.entitlements, e.group ∈ groups
  tenant : ∀ e ∈ configuration.entitlements, e.group ∈ groups → e.tenantId = actor.tenantId
  roles : ∀ role, role ∈ actor.roles ↔
    ∃ e ∈ configuration.entitlements, e.group ∈ groups ∧ role ∈ e.roles

/-- What a session owes the token it comes from. -/
structure SessionGranted (token : String) (jwks : Bytes) (nonce : Text)
    (session : SessionRecord) (parts : JwtParts) (exp : Int) : Prop where
  parsed : jwtParts runtime token = .ok parts
  signed : Signed runtime jwks parts
  issuer : parts.claims.get "iss" = some (.text configuration.issuer)
  audience : ForClient parts.claims configuration.clientId
  nonce : parts.claims.get "nonce" = some (.text (String.ofList nonce))
  expiry : parts.claims.get "exp" = some (.integer exp)
  entitled : Entitled configuration (tokenGroups parts.claims) session.actor
  atMostToken : session.expiresAt ≤ seconds exp
  atMostSession : session.expiresAt
    ≤ session.issuedAt + seconds configuration.sessionTtlSeconds

end

section

variable {runtime : OidcRuntime} {configuration : OIDCConfiguration}

theorem claimText_ok {value : Option Json} {code text : String} {maximum : Nat}
    (h : claimText value code maximum = .ok text) : value = some (.text text) := by
  unfold claimText at h
  split at h
  · simp only [bind_eq_ok, pure_eq_ok] at h
    obtain ⟨-, -, rfl⟩ := h
    rfl
  · cases h

theorem numericDate_ok {value : Option Json} {n : Int} (h : numericDate value = .ok n) :
    value = some (.integer n) := by
  unfold numericDate at h
  split at h
  · simp only [bind_eq_ok, pure_eq_ok] at h
    obtain ⟨-, -, rfl⟩ := h
    rfl
  · cases h

theorem nonceText_ok {claims : JsonObject} {nonce : Text} (h : nonceText claims = .ok nonce) :
    claims.get "nonce" = some (.text (String.ofList nonce)) := by
  unfold nonceText at h
  split at h
  · rename_i hget
    simp only [bind_eq_ok, pure_eq_ok] at h
    obtain ⟨-, -, rfl⟩ := h
    rw [String.ofList_toList]
    exact hget
  · cases h

/-- The texts of an array, in some order. -/
theorem stringArray_ok {value : Option Json} {maximumItems : Nat} {pattern : String → Bool}
    {result : List String} (h : stringArray value maximumItems pattern = .ok result) :
    ∃ items, value = some (.array items) ∧ ∀ text, text ∈ result ↔ .text text ∈ items := by
  unfold stringArray at h
  split at h
  · rename_i items
    simp only [bind_eq_ok, pure_eq_ok] at h
    obtain ⟨-, -, texts, htexts, -, -, rfl⟩ := h
    refine ⟨items, rfl, ?_⟩
    intro text
    rw [List.mem_mergeSort]
    induction items generalizing texts with
    | nil =>
      cases htexts
      simp
    | cons item items ih =>
      simp only [List.mapM_cons, bind_eq_ok, pure_eq_ok] at htexts
      obtain ⟨t, ⟨t', hclaim, -, -, rfl⟩, rest, hrest, rfl⟩ := htexts
      obtain rfl := Option.some.inj (claimText_ok hclaim)
      rw [List.mem_cons, List.mem_cons, ih rest hrest]
      constructor
      · rintro (rfl | hmem)
        · exact Or.inl rfl
        · exact Or.inr hmem
      · rintro (heq | hmem)
        · exact Or.inl (Json.text.inj heq)
        · exact Or.inr hmem
  · cases h

theorem audiences_ok {claims : JsonObject} {audience : List String} {clientId : String}
    (h : audiences claims = .ok audience) (hmem : clientId ∈ audience) :
    ForClient claims clientId := by
  unfold audiences at h
  split at h
  · rename_i s hget
    simp only [bind_eq_ok, pure_eq_ok] at h
    obtain ⟨text, htext, rfl⟩ := h
    rw [List.mem_singleton.mp hmem]
    obtain rfl := Json.text.inj (Option.some.inj (claimText_ok htext))
    exact Or.inl hget
  · obtain ⟨items, hget, htexts⟩ := stringArray_ok h
    exact Or.inr ⟨items, hget, (htexts clientId).mp hmem⟩

theorem checkHeader_ok {header : JsonObject} {algorithm kid : String}
    (h : checkHeader header = .ok (algorithm, kid)) :
    header.get "alg" = some (.text algorithm) ∧ header.get "kid" = some (.text kid) := by
  unfold checkHeader at h
  simp only [bind_eq_ok, expect_eq_ok, pure_eq_ok] at h
  obtain ⟨-, -, algorithm', halg, -, -, kid', hkid, -, -, heq⟩ := h
  cases heq
  refine ⟨?_, claimText_ok hkid⟩
  cases hget : header.get "alg" with
  | none =>
    rw [hget] at halg
    cases halg
  | some value =>
    rw [hget] at halg
    cases value with
    | text s =>
      obtain rfl := Option.some.inj halg
      rfl
    | null => cases halg
    | integer n => cases halg
    | array items => cases halg
    | object members => cases halg
    | other => cases halg

theorem compareDigest_true {a b : String} (h : compareDigest a b = .ok true) : a = b := by
  unfold compareDigest at h
  simp only [bind_eq_ok, pure_eq_ok] at h
  obtain ⟨-, -, heq⟩ := h
  exact of_decide_eq_true heq

/-- What the checks before the nonce establish. -/
theorem verifyClaims_ok {token : String} {jwks : Bytes} {now : Micros} {checked : CheckedClaims}
    (h : verifyClaims runtime configuration token jwks now = .ok checked) :
    ∃ parts, jwtParts runtime token = .ok parts ∧ Signed runtime jwks parts
      ∧ parts.claims.get "iss" = some (.text configuration.issuer)
      ∧ ForClient parts.claims configuration.clientId
      ∧ checked.claims = parts.claims
      ∧ parts.claims.get "exp" = some (.integer checked.expiresAt) := by
  unfold verifyClaims at h
  simp only [bind_eq_ok, require_eq_ok] at h
  obtain ⟨parts, hparts, ⟨algorithm, kid⟩, hheader, key, hkey, _, hsignature, issuer, hissuer, same,
    hcompare, -, hsame, audience, haudience, -, hclient, -, -, htimes⟩ := h
  obtain ⟨halg, hkid⟩ := checkHeader_ok hheader
  rw [hsame] at hcompare
  obtain rfl := compareDigest_true hcompare
  unfold checkTimes at htimes
  simp only [bind_eq_ok, pure_eq_ok] at htimes
  obtain ⟨issuedAt, -, expiresAt, hexpires, authTime, -, -, -, rfl⟩ := htimes
  exact ⟨parts, hparts, ⟨algorithm, kid, key, halg, hkid, hkey, hsignature⟩, claimText_ok hissuer,
    audiences_ok haudience hclient, rfl, numericDate_ok hexpires⟩

/-- The groups of an identity are those the token names, and its expiry is the token's. -/
theorem verifyIdentity_ok {checked : CheckedClaims} {identity : VerifiedIdentity}
    (h : verifyIdentity configuration checked = .ok identity) :
    (∀ group, group ∈ identity.groups ↔ group ∈ tokenGroups checked.claims)
      ∧ identity.expiresAt = seconds checked.expiresAt := by
  unfold verifyIdentity at h
  simp only [bind_eq_ok, pure_eq_ok] at h
  obtain ⟨subject, -, displayName, -, acr, -, amr, -, groups, hgroups, -, -, rfl⟩ := h
  refine ⟨?_, rfl⟩
  obtain ⟨items, hvalue, htexts⟩ := stringArray_ok hgroups
  unfold arrayOrEmpty at hvalue
  unfold tokenGroups
  intro group
  rw [htexts]
  cases hget : checked.claims.get "groups" with
  | none =>
    rw [hget] at hvalue
    cases hvalue
    exact iff_of_false List.not_mem_nil List.not_mem_nil
  | some value =>
    rw [hget] at hvalue
    obtain rfl := Option.some.inj hvalue
    show .text group ∈ items ↔ group ∈ items.filterMap Json.textValue
    rw [List.mem_filterMap]
    constructor
    · exact fun hmem => ⟨_, hmem, rfl⟩
    · rintro ⟨value, hmem, hvalue⟩
      cases value with
      | text s =>
        obtain rfl := Option.some.inj hvalue
        exact hmem
      | null => cases hvalue
      | integer n => cases hvalue
      | array items => cases hvalue
      | object members => cases hvalue
      | other => cases hvalue

/-- The entitlements `_map_actor` finds are those of the identity's groups. -/
theorem mem_matched {groups : List String} {e : GroupEntitlement} :
    e ∈ groups.filterMap (fun group =>
      configuration.entitlements.find? fun e => decide (e.group = group))
      ↔ e ∈ configuration.entitlements ∧ e.group ∈ groups := by
  rw [List.mem_filterMap]
  constructor
  · rintro ⟨group, hgroup, hfind⟩
    have hname : e.group = group := by
      have hp := List.find?_some hfind
      exact of_decide_eq_true hp
    rw [hname]
    exact ⟨List.mem_of_find?_eq_some hfind, hgroup⟩
  · rintro ⟨he, hgroup⟩
    exact ⟨e.group, hgroup, find?_key configuration.groupsUnique he⟩

theorem mapActor_ok {identity : VerifiedIdentity} {digest : Digest} {actor : Actor}
    (h : mapActor configuration identity digest = .ok actor) :
    Entitled configuration identity.groups actor := by
  unfold mapActor at h
  dsimp only at h
  split at h
  · cases h
  · rename_i first rest hmatched
    simp only [bind_eq_ok, require_eq_ok, pure_eq_ok] at h
    obtain ⟨-, htenant, rfl⟩ := h
    have hmem : ∀ e, e ∈ first :: rest ↔
        e ∈ configuration.entitlements ∧ e.group ∈ identity.groups := by
      intro e
      rw [← hmatched]
      exact mem_matched
    refine ⟨?_, ?_, ?_⟩
    · exact ⟨first, (hmem first).mp (List.mem_cons_self ..)⟩
    · intro e he hgroup
      rcases List.mem_cons.mp ((hmem e).mpr ⟨he, hgroup⟩) with rfl | hrest
      · rfl
      · exact htenant e hrest
    · intro role
      show role ∈ (List.flatMap _ _).dedup ↔ _
      rw [List.mem_dedup, List.mem_flatMap]
      constructor
      · rintro ⟨e, he, hrole⟩
        rw [hmatched, hmem] at he
        exact ⟨e, he.1, he.2, hrole⟩
      · rintro ⟨e, he, hgroup, hrole⟩
        refine ⟨e, ?_, hrole⟩
        rw [hmatched, hmem]
        exact ⟨he, hgroup⟩

theorem Entitled.congr {groups groups' : List String} {actor : Actor}
    (h : Entitled configuration groups actor) (hsame : ∀ g, g ∈ groups ↔ g ∈ groups') :
    Entitled configuration groups' actor := by
  obtain ⟨⟨e, he, hgroup⟩, htenant, hroles⟩ := h
  refine ⟨⟨e, he, (hsame _).mp hgroup⟩, fun e he hg => htenant e he ((hsame _).mpr hg), ?_⟩
  intro role
  rw [hroles]
  simp only [hsame]

end

end ControlAssurance.Oidc
