import ControlAssurance.ControlPlane.Models
import ControlAssurance.Lib.Checked
import Mathlib.Data.List.Dedup

/-!
# ID tokens

`verify_id_token` and `_map_actor` of `control_plane/oidc.py`. The parts that the module takes
from elsewhere are parameters: strict JSON, base64 of arbitrary length, and the two signature
schemes of the `cryptography` package. Times are microseconds since the Unix epoch, as a
`datetime` has them; `int(datetime.timestamp())` goes through a float and is a parameter too.
-/

namespace ControlAssurance.Oidc

open Lib ControlPlane

abbrev Bytes := List UInt8

/-- Microseconds since the Unix epoch. -/
abbrev Micros := Int

def seconds (n : Int) : Micros := n * 1000000

/-- What a call raises: an `OIDCError` with its code, or another exception. -/
inductive Failure where
  | oidc (code : String)
  | other (className : String)
deriving DecidableEq

/-! ## JSON -/

inductive Json where
  | null
  | text (s : String)
  | integer (n : Int)
  | array (items : List Json)
  | object (members : List (String × Json))
  /-- a boolean or a number that is not an integer -/
  | other

abbrev JsonObject := List (String × Json)

/-- `mapping.get(name)`, where a JSON `null` is `None` too. -/
def JsonObject.get (o : JsonObject) (name : String) : Option Json :=
  (o.find? fun m => decide (m.1 = name)).map (·.2)

def JsonObject.has (o : JsonObject) (name : String) : Bool := o.any fun m => decide (m.1 = name)

def Json.textValue : Json → Option String
  | .text s => some s
  | _ => none

/-- What the module uses of its surroundings. -/
structure OidcRuntime where
  /-- `_decode_b64url`: the bytes of a canonical encoding of at most `maximum` bytes -/
  decodeB64url : (maximum : Nat) → String → Option Bytes
  /-- `strict_json_loads` under `_JWT_LIMITS` -/
  strictJson : Bytes → Option Json
  /-- `strict_json_loads` under `_JWKS_LIMITS` -/
  strictJwks : Bytes → Option Json
  /-- PKCS#1 v1.5 with SHA-256; nothing if the key is refused -/
  rsaVerify : (exponent modulus : Nat) → (input : String) → (signature : Bytes) → Option Bool
  /-- ECDSA on P-256 with SHA-256; nothing if the key is refused -/
  ecVerify : (x y r s : Nat) → (input : String) → Option Bool
  timestamp : Micros → Int

/-! ## Configuration -/

structure GroupEntitlement where
  group : String
  tenantId : String
  roles : List Role
deriving DecidableEq

structure MFAPolicy where
  required : Bool
  acceptedAcr : List String
  requiredAmr : List String
  maximumAuthenticationAgeSeconds : Int
deriving DecidableEq

structure OIDCLoginAdmissionPolicy where
  globalActiveLimit : Nat
  sourceActiveLimit : Nat
  burnCapacity : Nat
deriving DecidableEq

/-- `OIDCConfiguration`, with what `__post_init__` checks of the fields used here. -/
structure OIDCConfiguration where
  issuer : String
  tokenEndpoint : String
  jwksUri : String
  clientId : String
  redirectUri : String
  entitlements : List GroupEntitlement
  mfaPolicy : MFAPolicy
  loginAdmissionPolicy : OIDCLoginAdmissionPolicy
  scopes : List String
  transactionTtlSeconds : Int
  sessionTtlSeconds : Int
  clockSkewSeconds : Int
  maximumIdTokenAgeSeconds : Int
  maximumIdTokenLifetimeSeconds : Int
  groupsUnique : (entitlements.map (·.group)).Nodup
  limits : 1 ≤ loginAdmissionPolicy.sourceActiveLimit
    ∧ loginAdmissionPolicy.sourceActiveLimit ≤ loginAdmissionPolicy.globalActiveLimit
    ∧ loginAdmissionPolicy.globalActiveLimit ≤ loginAdmissionPolicy.burnCapacity
  transactionTtl : 60 ≤ transactionTtlSeconds ∧ transactionTtlSeconds ≤ 900
  sessionTtl : 300 ≤ sessionTtlSeconds ∧ sessionTtlSeconds ≤ 86400

/-! ## Texts -/

abbrev Text := List Char

/-- `_B64URL_RE` -/
def b64urlText (s : Text) : Bool :=
  !s.isEmpty && s.all fun c => c.isAlphanum || c == '-' || c == '_'

/-- `_CLAIM_TEXT_RE` -/
def claimTextRe (s : String) : Bool :=
  1 ≤ s.length && s.length ≤ 255 && s.toList.all fun c => 0x20 ≤ c.toNat && c.toNat != 0x7f

/-- `_GROUP_RE` -/
def groupRe (s : String) : Bool :=
  match s.toList with
  | [] => false
  | c :: rest => c.isAlphanum && rest.length ≤ 254 && rest.all fun c =>
      c.isAlphanum || c == '.' || c == '_' || c == ':' || c == '/' || c == '@' || c == '-'

/-- `_claim_text` -/
def claimText (value : Option Json) (code : String) (maximum : Nat) : Except Failure String :=
  match value with
  | some (.text s) => do
    require (s.length ≤ maximum ∧ claimTextRe s = true) (Failure.oidc code)
    pure s
  | _ => .error (.oidc code)

/-- `_numeric_date` -/
def numericDate (value : Option Json) : Except Failure Int :=
  match value with
  | some (.integer n) => do
    require (0 ≤ n ∧ n ≤ 253402300799) (Failure.oidc "invalid_claims")
    pure n
  | _ => .error (.oidc "invalid_claims")

/-- `_string_array` -/
def stringArray (value : Option Json) (maximumItems : Nat) (pattern : String → Bool) :
    Except Failure (List String) :=
  match value with
  | some (.array items) => do
    require (items.length ≤ maximumItems) (Failure.oidc "invalid_claims")
    let result ← items.mapM fun item => do
      let text ← claimText (some item) "invalid_claims" 255
      require (pattern text = true) (Failure.oidc "invalid_claims")
      pure text
    require result.Nodup (Failure.oidc "invalid_claims")
    pure (result.mergeSort fun a b => decide (a ≤ b))
  | _ => .error (.oidc "invalid_claims")

/-- `hmac.compare_digest` on two strings, which must be ASCII. -/
def compareDigest (a b : String) : Except Failure Bool := do
  require ((∀ c ∈ a.toList, c.toNat < 128) ∧ ∀ c ∈ b.toList, c.toNat < 128)
    (Failure.other "TypeError")
  pure (decide (a = b))

/-! ## The token -/

structure JwtParts where
  signingInput : String
  signature : Bytes
  header : JsonObject
  claims : JsonObject

section

variable (runtime : OidcRuntime)

def decodeB64url (value : String) (maximum : Nat) (code : String) : Except Failure Bytes :=
  expect (runtime.decodeB64url maximum value) (.oidc code)

/-- A part of the token that has to be a JSON object. -/
def jsonPart (bytes : Bytes) : Except Failure JsonObject :=
  match runtime.strictJson bytes with
  | some (.object members) => .ok members
  | _ => .error (.oidc "invalid_token")

/-- `_jwt_parts` -/
def jwtParts (token : String) : Except Failure JwtParts := do
  require (0 < token.length ∧ token.length ≤ 64 * 1024) (Failure.oidc "invalid_token")
  match token.splitOn "." with
  | [encodedHeader, encodedPayload, encodedSignature] => do
    let headerBytes ← decodeB64url runtime encodedHeader (16 * 1024) "invalid_token"
    let payloadBytes ← decodeB64url runtime encodedPayload (48 * 1024) "invalid_token"
    let signature ← decodeB64url runtime encodedSignature (2 * 1024) "invalid_token"
    let header ← jsonPart runtime headerBytes
    let claims ← jsonPart runtime payloadBytes
    pure ⟨encodedHeader ++ "." ++ encodedPayload, signature, header, claims⟩
  | _ => .error (.oidc "invalid_token")

/-- `_PRIVATE_JWK_FIELDS` -/
def privateJwkFields : List String := ["d", "p", "q", "dp", "dq", "qi", "oth", "k"]

/-- A member that, if there is one, has to be the given text. -/
def pinned (key : JsonObject) (name value : String) : Prop :=
  key.has name = true → (key.get name).bind Json.textValue = some value

instance (key : JsonObject) (name value : String) : Decidable (pinned key name value) := by
  delta pinned; infer_instance

/-- The check of `key_ops`. -/
def keyOperations (key : JsonObject) : Except Failure Unit :=
  match key.get "key_ops" with
  | none => .ok ()
  | some (.array operations) => do
    let texts ← expect (operations.mapM Json.textValue) (Failure.oidc "invalid_jwks")
    require (texts ≠ [] ∧ texts.length ≤ 8 ∧ texts.Nodup ∧ "verify" ∈ texts)
      (Failure.oidc "invalid_jwks")
  | some _ => .error (.oidc "invalid_jwks")

/-- `_select_jwk` -/
def selectJwk (payload : Bytes) (kid algorithm : String) : Except Failure JsonObject := do
  let invalid : Failure := .oidc "invalid_jwks"
  match runtime.strictJwks payload with
  | some (.object value) => match JsonObject.get value "keys" with
    | some (.array keys) => do
      require (keys ≠ [] ∧ keys.length ≤ 512) invalid
      let objects ← expect (keys.mapM fun key => match key with
        | .object members => some members
        | _ => none) invalid
      match objects.filter fun key =>
          decide ((JsonObject.get key "kid").bind Json.textValue = some kid) with
      | [] => .error (.oidc "unknown_signing_key")
      | [key] => do
        require (∀ name ∈ privateJwkFields, JsonObject.has key name = false) invalid
        require (pinned key "alg" algorithm) invalid
        require (pinned key "use" "sig") invalid
        keyOperations key
        pure key
      | _ => .error invalid
    | _ => .error invalid
  | _ => .error invalid

/-- `int.from_bytes(value, "big")` -/
def fromBytes (value : Bytes) : Nat := value.foldl (fun n b => n * 256 + b.toNat) 0

/-- A number of a key, from its member. -/
def keyBytes (key : JsonObject) (name : String) (maximum : Nat) : Except Failure Bytes :=
  match (key.get name).bind Json.textValue with
  | some value => decodeB64url runtime value maximum "invalid_jwks"
  | none => .error (.oidc "invalid_jwks")

/-- What a signature scheme said. -/
def verdict : Option Bool → Except Failure Unit
  | some true => .ok ()
  | some false => .error (.oidc "invalid_signature")
  | none => .error (.oidc "invalid_jwks")

/-- `_verify_signature` -/
def verifySignature (algorithm : String) (key : JsonObject) (signingInput : String)
    (signature : Bytes) : Except Failure Unit := do
  let invalid : Failure := .oidc "invalid_jwks"
  if algorithm = "RS256" then
    require ((key.get "kty").bind Json.textValue = some "RSA") invalid
    let modulusBytes ← keyBytes runtime key "n" 1024
    let exponentBytes ← keyBytes runtime key "e" 8
    require (modulusBytes ≠ [] ∧ modulusBytes.head? ≠ some 0 ∧ exponentBytes ≠ []
      ∧ exponentBytes.head? ≠ some 0) invalid
    let modulus := fromBytes modulusBytes
    let exponent := fromBytes exponentBytes
    require (2 ^ 2047 ≤ modulus ∧ modulus < 2 ^ 8192 ∧ 3 ≤ exponent ∧ exponent % 2 = 1) invalid
    verdict (runtime.rsaVerify exponent modulus signingInput signature)
  else if algorithm = "ES256" then
    require ((key.get "kty").bind Json.textValue = some "EC"
      ∧ (key.get "crv").bind Json.textValue = some "P-256") invalid
    let x ← keyBytes runtime key "x" 32
    let y ← keyBytes runtime key "y" 32
    require (x.length = 32 ∧ y.length = 32 ∧ signature.length = 64) invalid
    verdict (runtime.ecVerify (fromBytes x) (fromBytes y) (fromBytes (signature.take 32))
      (fromBytes (signature.drop 32)) signingInput)
  else
    .error (.oidc "invalid_algorithm")

/-! ## Verification -/

/-- The check of `typ`. -/
def checkType (header : JsonObject) : Except Failure Unit :=
  match header.get "typ" with
  | none | some .null => .ok ()
  | some value => require (value.textValue = some "JWT") (Failure.oidc "invalid_token")

/-- The header of a token: its algorithm and its key id. -/
def checkHeader (header : JsonObject) : Except Failure (String × String) := do
  require (∀ m ∈ header, m.1 ∈ ["alg", "kid", "typ"]) (Failure.oidc "invalid_token")
  let algorithm ← expect ((header.get "alg").bind Json.textValue)
    (Failure.oidc "invalid_algorithm")
  require (algorithm ∈ ["RS256", "ES256"]) (Failure.oidc "invalid_algorithm")
  let kid ← claimText (header.get "kid") "invalid_token" 255
  checkType header
  pure (algorithm, kid)

/-- `aud`, as a list. -/
def audiences (claims : JsonObject) : Except Failure (List String) :=
  match claims.get "aud" with
  | some (.text s) => do
    let audience ← claimText (some (.text s)) "invalid_claims" 255
    pure [audience]
  | value => stringArray value 16 fun _ => true

/-- The check of `azp`. -/
def authorizedParty (claims : JsonObject) (several : Bool) (clientId : String) :
    Except Failure Unit :=
  match claims.get "azp" with
  | none | some .null => require (several = false) (Failure.oidc "invalid_claims")
  | some value => require (value.textValue = some clientId) (Failure.oidc "invalid_claims")

/-- The claims of a token, up to its nonce. -/
structure CheckedClaims where
  claims : JsonObject
  expiresAt : Int
  authTime : Int

variable (configuration : OIDCConfiguration)

/-- The checks of `iat`, `exp` and `auth_time`. -/
def checkTimes (claims : JsonObject) (nowSeconds : Int) : Except Failure CheckedClaims := do
  let issuedAt ← numericDate (claims.get "iat")
  let expiresAt ← numericDate (claims.get "exp")
  let authTime ← numericDate (claims.get "auth_time")
  let skew := configuration.clockSkewSeconds
  require (issuedAt < expiresAt
    ∧ expiresAt - issuedAt ≤ configuration.maximumIdTokenLifetimeSeconds
    ∧ nowSeconds ≤ expiresAt + skew
    ∧ issuedAt ≤ nowSeconds + skew
    ∧ nowSeconds - issuedAt ≤ configuration.maximumIdTokenAgeSeconds + skew
    ∧ authTime ≤ issuedAt + skew
    ∧ authTime ≤ nowSeconds + skew
    ∧ nowSeconds - authTime ≤ configuration.mfaPolicy.maximumAuthenticationAgeSeconds + skew)
    (Failure.oidc "stale_authentication")
  pure ⟨claims, expiresAt, authTime⟩

/-- `verify_id_token`, up to the nonce. -/
def verifyClaims (token : String) (jwks : Bytes) (now : Micros) :
    Except Failure CheckedClaims := do
  let parts ← jwtParts runtime token
  let (algorithm, kid) ← checkHeader parts.header
  let key ← selectJwk runtime jwks kid algorithm
  verifySignature runtime algorithm key parts.signingInput parts.signature
  let issuer ← claimText (parts.claims.get "iss") "invalid_claims" 2048
  let same ← compareDigest issuer configuration.issuer
  require (same = true) (Failure.oidc "invalid_claims")
  let audience ← audiences parts.claims
  require (configuration.clientId ∈ audience) (Failure.oidc "invalid_claims")
  authorizedParty parts.claims (decide (1 < audience.length)) configuration.clientId
  checkTimes configuration parts.claims (runtime.timestamp now)

/-- The nonce of a token, if it has the form of one. -/
def nonceText (claims : JsonObject) : Except Failure Text :=
  match claims.get "nonce" with
  | some (.text nonce) => do
    require (nonce.toList.length = 43 ∧ b64urlText nonce.toList = true)
      (Failure.oidc "invalid_claims")
    pure nonce.toList
  | _ => .error (.oidc "invalid_claims")

structure VerifiedIdentity where
  subject : String
  displayName : String
  groups : List String
  acr : Option String
  amr : List String
  authenticatedAt : Time
  expiresAt : Micros
  mfa : Bool
deriving DecidableEq

/-- An optional claim that defaults to an empty array. -/
def arrayOrEmpty (claims : JsonObject) (name : String) : Option Json :=
  some ((claims.get name).getD (.array []))

/-- The claim `acr`, which may be absent. -/
def optionalAcr (claims : JsonObject) : Except Failure (Option String) :=
  match claims.get "acr" with
  | none | some .null => .ok none
  | some value => (claimText (some value) "invalid_claims" 128).map some

/-- `verify_id_token`, after the nonce. -/
def verifyIdentity (checked : CheckedClaims) : Except Failure VerifiedIdentity := do
  let claims := checked.claims
  let subject ← claimText (claims.get "sub") "invalid_claims" 250
  let displayName ← claimText (some ((claims.get "name").getD (.text subject)))
    "invalid_claims" 255
  let acr ← optionalAcr claims
  let amr ← stringArray (arrayOrEmpty claims "amr") 16 fun _ => true
  let groups ← stringArray (arrayOrEmpty claims "groups") 128 groupRe
  let policy := configuration.mfaPolicy
  let acrOk := policy.acceptedAcr.isEmpty || acr.any (policy.acceptedAcr.contains ·)
  let amrOk := policy.requiredAmr.all (amr.contains ·)
  let mfa := !(policy.acceptedAcr.isEmpty && policy.requiredAmr.isEmpty) && acrOk && amrOk
  require (policy.required = true → mfa = true) (Failure.oidc "mfa_required")
  pure ⟨subject, displayName, groups, acr, amr, checked.authTime, seconds checked.expiresAt, mfa⟩

/-- `_map_actor`. The constructor of `Actor` repeats checks that have passed. -/
def mapActor (identity : VerifiedIdentity) (sessionIdDigest : Digest) : Except Failure Actor := do
  let matched := identity.groups.filterMap fun group =>
    configuration.entitlements.find? fun e => decide (e.group = group)
  match matched with
  | [] => .error (.oidc "not_entitled")
  | first :: rest => do
    require (∀ e ∈ rest, e.tenantId = first.tenantId) (Failure.oidc "ambiguous_tenant")
    pure {
      tenantId := first.tenantId
      subject := "oidc:" ++ identity.subject
      displayName := identity.displayName
      roles := (matched.flatMap (·.roles)).dedup
      groups := identity.groups
      authenticatedAt := identity.authenticatedAt
      sessionIdDigest := sessionIdDigest
      mfa := identity.mfa }

end

end ControlAssurance.Oidc
