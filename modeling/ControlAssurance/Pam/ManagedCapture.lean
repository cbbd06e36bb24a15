import ControlAssurance.Connectors.Json
import ControlAssurance.Pam.Broker

/-!
# A capture under a just-in-time key

`ElasticJitApiKeyBroker.capture` from its request to the receipt it returns, with the documents it
exchanges: the body of the create, the two answers of Elasticsearch, the receipt, and
`verify_elastic_pam_receipt`. Everything outside the broker answers as it likes: the nonce source,
the clock, the journal, the transport and the connector.

`Broker.lean` has the same calls with their answers already read, for what concerns the keys at
Elasticsearch. Here the journal is the only state.
-/

namespace ControlAssurance.Pam

open Lib Attestation Connectors

/-! ## What surrounds the broker -/

/-- Anything a step of a capture raises. -/
inductive CaptureError where
  | lease (e : LeaseError)
  | connector (e : ConnectorFailure)
  /-- any other exception, by the name of its class -/
  | other (className : List Char)
deriving DecidableEq

/-- `ElasticPamError` -/
def pamFailure (stage reason : String) : CaptureError := .lease (pamError stage reason)

/-- `_bounded_error` -/
def boundedCaptureError : CaptureError → List Char
  | .lease e => boundedError (.lease e)
  | .connector e => boundedError (.connector e)
  | .other className =>
    let words := joinWords className
    (if words = [] then "unspecified failure".toList else words).take maxErrorLength

/-- `_PamHTTPResponse` -/
structure PamHttpResponse where
  status : Int
  headers : List (Text × Text)
  body : Bytes

/-- `ConnectorCapture`, as far as the broker reads it. -/
structure ConnectorCapture where
  recordsDigest : Digest
  receiptDigest : Digest
deriving DecidableEq

/-- `ElasticSecurityRequest`, as far as the broker reads it. -/
structure ElasticRequest where
  indexAlias : List Char
  asJson : JsonValue

/-- The libraries, the parent credential and the identity of a broker. -/
structure ManagedRuntime extends CanonicalRuntime where
  sha : Bytes → Digest
  /-- `_credential._appears_in` -/
  reflects : PamHttpResponse → Bool
  version : Text
  endpointDigest : Digest

/-! ## Limits -/

/-- `_RESPONSE_LIMITS` -/
def pamResponseLimits : JsonLimits where
  maxBytes := 128 * 1024
  maxLineBytes := 128 * 1024
  maxDepth := 16
  maxCollectionItems := 10000
  maxStringLength := 16384

/-- `_RECEIPT_LIMITS` -/
def pamReceiptLimits : JsonLimits where
  maxBytes := 64 * 1024
  maxLineBytes := 64 * 1024
  maxDepth := 16
  maxCollectionItems := 512
  maxStringLength := 4096

/-! ## Documents the broker writes -/

/-- `control-assurance-` and the first half of the lease id. -/
def keyNameText (name : KeyName) : Text := text "control-assurance-" ++ hexText 32 name.toNat

def leaseIdText (leaseId : LeaseId) : Text := hexText 64 leaseId.toNat

/-- `ElasticPamPolicy.role_descriptor` -/
def roleDescriptor (policy : ElasticPamPolicy) : JsonValue :=
  let spaceId := codes (policy.indexAlias.drop ".alerts-security.alerts-".toList.length)
  object [("capture", object
    [("cluster", .list []),
      ("indices", .list [object
        [("allow_restricted_indices", .bool true),
          ("names", .list [.string (codes policy.indexAlias),
            .string (text ".internal.alerts-security.alerts-" ++ spaceId ++ text "-*")]),
          ("privileges", .list [literal "read"])]])])]

/-- `_create_body` -/
def createBody (R : ManagedRuntime) (record : ElasticLeaseRecord) (policy : ElasticPamPolicy) :
    Except String Bytes :=
  canonicalJsonBytes R.toCanonicalRuntime pamResponseLimits (object
    [("expiration", .string (integerText policy.ttlSeconds ++ text "s")),
      ("metadata", object
        [("application", literal "control-assurance-lab"),
          ("lease_id", .string (leaseIdText record.leaseId)),
          ("request_digest", digestJson record.requestDigest)]),
      ("name", .string (keyNameText record.keyName)),
      ("role_descriptors", roleDescriptor policy)])

/-- The body of the `DELETE` in `_revoke`. -/
def invalidateBody (R : ManagedRuntime) (pending : ElasticLeaseRecord) : Except String Bytes :=
  canonicalJsonBytes R.toCanonicalRuntime pamResponseLimits <| match pending.keyId with
    | none => object [("name", .string (keyNameText pending.keyName)), ("owner", .bool true)]
    | some key => object [("ids", .list [.string (codes key)])]

def optionalInt (value : Option Int) : JsonValue := (value.map JsonValue.int).getD .null

def RevocationOutcome.text : RevocationOutcome → String
  | .invalidated => "invalidated"
  | .previouslyInvalidated => "previously-invalidated"
  | .notCreated => "not-created"

/-- `ELASTIC_PAM_BROKER_ID` -/
def pamBrokerId : String := "elastic-native-jit-api-key"

/-- `ELASTIC_PAM_RECEIPT_MEDIA_TYPE` -/
def pamReceiptMediaType : String :=
  "application/vnd.control-assurance.elastic-pam-lifecycle.v1+json"

/-- `ELASTIC_PAM_RECEIPT_SCHEMA_VERSION` -/
def pamReceiptSchemaVersion : String := "1.0.0"

/-- The receipt of a settled lease. -/
def pamReceipt (R : ManagedRuntime) (capture : ConnectorCapture) (revoked : ElasticLeaseRecord)
    (keyIdDigest createBodyDigest invalidateBodyDigest : Digest) (outcome : RevocationOutcome) :
    JsonValue :=
  object
    [("broker", object [("id", literal pamBrokerId), ("version", .string R.version)]),
      ("capture", object
        [("records_digest", digestJson capture.recordsDigest),
          ("receipt_digest", digestJson capture.receiptDigest)]),
      ("lease", object
        [("activated_epoch_millis", optionalInt revoked.activatedEpochMillis),
          ("created_epoch_millis", .int revoked.createdEpochMillis),
          ("endpoint_origin_digest", digestJson revoked.endpointOriginDigest),
          ("expiration_epoch_millis", optionalInt revoked.expirationEpochMillis),
          ("index_alias", .string (codes revoked.indexAlias)),
          ("key_id_digest", digestJson keyIdDigest),
          ("key_name_digest", digestJson (R.sha (utf8Text (keyNameText revoked.keyName)))),
          ("lease_id", .string (leaseIdText revoked.leaseId)),
          ("request_digest", digestJson revoked.requestDigest),
          ("revoked_epoch_millis", optionalInt revoked.revokedEpochMillis),
          ("role_descriptor_digest", digestJson revoked.roleDescriptorDigest),
          ("ttl_seconds", .int revoked.ttlSeconds)]),
      ("media_type", literal pamReceiptMediaType),
      ("mutations", object
        [("create_body_digest", digestJson createBodyDigest),
          ("invalidate_body_digest", digestJson invalidateBodyDigest),
          ("revocation_outcome", literal outcome.text)]),
      ("schema_version", literal pamReceiptSchemaVersion)]

/-! ## Documents the broker reads -/

/-- `dict(headers).get(name)`: the last header of a name. -/
def headerValue (headers : List (Text × Text)) (name : String) : Option Text :=
  headers.reverse.lookup (text name)

/-- `content_type.split(";", 1)[0].strip().lower()`. Only ASCII letters become the ones of the
media type this is compared with. -/
def mediaType (contentType : Text) : Text :=
  let isSpace (code : Nat) : Bool := pythonSpace (Char.ofNat code)
  let first := contentType.takeWhile (· ≠ ';'.toNat)
  let stripped := ((first.dropWhile isSpace).reverse.dropWhile isSpace).reverse
  stripped.map fun code => if 'A'.toNat ≤ code ∧ code ≤ 'Z'.toNat then code + 32 else code

/-- `_response_json` -/
def responseJson (R : ManagedRuntime) (stage : String) (response : PamHttpResponse) :
    Except LeaseError Members := do
  require (headerValue response.headers "x-elastic-product" = some (text "Elasticsearch"))
    (pamError stage "response lacks the Elasticsearch product marker")
  require (mediaType ((headerValue response.headers "content-type").getD [])
      = text "application/json") (pamError stage "response is not application/json")
  require (response.status = 200)
    (pamError stage ("Elasticsearch returned HTTP " ++ toString response.status))
  let parsed ← (strictJsonLoads R.toJsonRuntime pamResponseLimits response.body).mapError
    fun _ => pamError stage "response is not strict bounded JSON"
  expect (membersValue parsed) (pamError stage "response JSON is not an object")

/-- What `_request` checks on a response. -/
def checkResponse (R : ManagedRuntime) (stage : String)
    (response : Except CaptureError PamHttpResponse) : Except CaptureError Members := do
  let response ← response
  require (R.reflects response = false)
    (pamFailure stage "Elasticsearch response reflected parent credentials")
  (responseJson R stage response).mapError .lease

/-- What `_issue` keeps of a created key. -/
structure CreatedKey where
  keyId : KeyId
  /-- the encoded key, in ASCII -/
  encoded : Text
  expiration : Millis

def isAscii (value : Text) : Bool := value.all (· < 0x80)

/-- `_KEY_SECRET_RE`, on the ASCII characters of a text. -/
def keySecret (value : Text) : Bool :=
  let ascii := value.filter (· < 0x80)
  1 ≤ ascii.length && ascii.length ≤ 4096 && ascii.all fun code => 0x21 ≤ code && code ≤ 0x7e

/-- The checks of `_issue` on the answer to its create. -/
def readCreatedKey (record : ElasticLeaseRecord) (policy : ElasticPamPolicy) (sentAt : Millis)
    (parsed : Members) : Except CaptureError CreatedKey := do
  require (HasNames parsed ["api_key", "encoded", "expiration", "id", "name"] [])
    (pamFailure "create-key" "response has missing or unexpected members")
  let keyId ← expect (textValue (member parsed "id"))
    (pamFailure "create-key" "response key id is invalid")
  require (keyIdText (chars keyId) = true) (pamFailure "create-key" "response key id is invalid")
  require (textValue (member parsed "name") = some (keyNameText record.keyName))
    (pamFailure "create-key" "response names a different lease")
  let rawKey ← expect (textValue (member parsed "api_key"))
    (pamFailure "create-key" "response key material is invalid")
  let encoded ← expect (textValue (member parsed "encoded"))
    (pamFailure "create-key" "response key material is invalid")
  require (keySecret rawKey = true) (pamFailure "create-key" "response key material is invalid")
  require (isAscii encoded = true) (pamFailure "create-key" "response encoded key is invalid")
  let decoded ← expect (b64decode encoded)
    (pamFailure "create-key" "response encoded key is invalid")
  -- only a strict encoding of a key with other characters raises here
  require (isAscii rawKey = true) (.other "UnicodeEncodeError".toList)
  require (decoded = utf8Text (keyId ++ text ":" ++ rawKey) ∧ b64encode decoded = encoded)
    (pamFailure "create-key" "response key encodings do not agree")
  let expiration ← expect (intValue (member parsed "expiration"))
    (pamFailure "create-key" "response expiration is invalid")
  require (expiration - (sentAt + policy.ttlSeconds * 1000) ≤ maxClockSkew
      ∧ sentAt + policy.ttlSeconds * 1000 - expiration ≤ maxClockSkew)
    (pamFailure "create-key" "response expiration is outside the lease window")
  pure ⟨chars keyId, encoded, expiration⟩

/-- `[A-Za-z0-9_+/=-]` -/
def apiKeyCode (code : Nat) : Bool :=
  (Char.ofNat code).isAlphanum || code == '_'.toNat || code == '+'.toNat || code == '/'.toNat
    || code == '='.toNat || code == '-'.toNat

/-- `ElasticApiKey` -/
def elasticApiKey (encoded : Text) : Except CaptureError Text := do
  require (encoded ≠ [] ∧ encoded.length ≤ 4096 ∧ encoded.all apiKeyCode = true)
    (.lease (.valueError "Elastic API key must be bounded base64-like ASCII bytes"))
  pure encoded

/-- The ids of a member of the answer to an invalidation. -/
def idList (value : JsonValue) : Option (List Text) := do
  let items ← itemsValue value
  items.mapM textValue

/-- The checks of `_revoke` on the answer to its invalidation. -/
def readRevocation (pending : ElasticLeaseRecord) (parsed : Members) :
    Except CaptureError RevocationOutcome := do
  require (HasNames parsed
      ["error_count", "invalidated_api_keys", "previously_invalidated_api_keys"]
      ["error_details"])
    (pamFailure "revoke-key" "response has missing or unexpected members")
  let unconfirmed := pamFailure "revoke-key" "Elasticsearch did not confirm clean revocation"
  let invalidated ← expect (idList (member parsed "invalidated_api_keys")) unconfirmed
  let previous ← expect (idList (member parsed "previously_invalidated_api_keys")) unconfirmed
  require (intValue (member parsed "error_count") = some 0 ∧ present parsed "error_details" = false)
    unconfirmed
  match pending.keyId with
  | none => pure (if invalidated ≠ [] ∨ previous ≠ [] then .invalidated else .notCreated)
  | some key =>
    if codes key ∈ invalidated then pure .invalidated
    else if codes key ∈ previous then pure .previouslyInvalidated
    else .error (pamFailure "revoke-key" "response did not account for the exact key id")

/-! ## `verify_elastic_pam_receipt` -/

/-- `VerifiedElasticPamReceipt` -/
structure VerifiedPamReceipt where
  leaseId : Text
  requestDigest : Digest
  endpointOriginDigest : Digest
  roleDescriptorDigest : Digest
  captureReceiptDigest : Digest
  captureRecordsDigest : Digest
  receiptDigest : Digest

/-- The values a receipt is verified against. -/
structure PamAnchors where
  requestDigest : Digest
  endpointOriginDigest : Digest
  roleDescriptorDigest : Digest
  captureReceiptDigest : Digest
  captureRecordsDigest : Digest

def verifyError (reason : String) : CaptureError := pamFailure "verify" reason

/-- `_LEASE_ID_RE` -/
def isLeaseIdText (value : Text) : Bool := value.length = 64 && value.all isLowerHex

/-- A canonical digest. -/
def isDigestJson (value : JsonValue) : Bool := (textValue value).any isDigestText

/-- A time of the life cycle. -/
def lifecycleTime (value : JsonValue) : Except CaptureError Int := do
  let time ← expect (intValue value) (verifyError "PAM lifecycle time is invalid")
  require (0 ≤ time) (verifyError "PAM lifecycle time is invalid")
  pure time

def leaseNames : List String :=
  ["activated_epoch_millis", "created_epoch_millis", "endpoint_origin_digest",
    "expiration_epoch_millis", "index_alias", "key_id_digest", "key_name_digest", "lease_id",
    "request_digest", "revoked_epoch_millis", "role_descriptor_digest", "ttl_seconds"]

/-- The checks on the loaded receipt. -/
def verifyPamDocument (anchors : PamAnchors) (parsed : Members) : Except CaptureError Text := do
  require (HasNames parsed
      ["broker", "capture", "lease", "media_type", "mutations", "schema_version"] [])
    (verifyError "PAM receipt has missing or unexpected members")
  require (member parsed "media_type" = literal pamReceiptMediaType
      ∧ member parsed "schema_version" = literal pamReceiptSchemaVersion)
    (verifyError "PAM receipt has the wrong profile identity")
  let structureError := verifyError "PAM receipt structure is invalid"
  let broker ← expect (membersValue (member parsed "broker")) structureError
  require (HasNames broker ["id", "version"] [] ∧ member broker "id" = literal pamBrokerId
      ∧ (textValue (member broker "version")).isSome = true) structureError
  let capture ← expect (membersValue (member parsed "capture")) structureError
  require (HasNames capture ["records_digest", "receipt_digest"] []) structureError
  let lease ← expect (membersValue (member parsed "lease")) structureError
  let mutations ← expect (membersValue (member parsed "mutations")) structureError
  require (HasNames lease leaseNames [] ∧ HasNames mutations
      ["create_body_digest", "invalidate_body_digest", "revocation_outcome"] [])
    (verifyError "PAM receipt lifecycle fields are incomplete")
  require ([member capture "records_digest", member capture "receipt_digest",
      member lease "endpoint_origin_digest", member lease "key_id_digest",
      member lease "key_name_digest", member lease "request_digest",
      member lease "role_descriptor_digest", member mutations "create_body_digest",
      member mutations "invalidate_body_digest"].all isDigestJson = true)
    (verifyError "PAM receipt contains an invalid digest")
  require (member capture "receipt_digest" = digestJson anchors.captureReceiptDigest
      ∧ member capture "records_digest" = digestJson anchors.captureRecordsDigest
      ∧ member lease "request_digest" = digestJson anchors.requestDigest
      ∧ member lease "endpoint_origin_digest" = digestJson anchors.endpointOriginDigest
      ∧ member lease "role_descriptor_digest" = digestJson anchors.roleDescriptorDigest)
    (verifyError "PAM receipt differs from an external anchor")
  let scopeError := verifyError "PAM lease identity or scope is invalid"
  let leaseId ← expect (textValue (member lease "lease_id")) scopeError
  let indexAlias ← expect (textValue (member lease "index_alias")) scopeError
  let ttl ← expect (intValue (member lease "ttl_seconds")) scopeError
  require (isLeaseIdText leaseId = true ∧ alertAlias (chars indexAlias) = true
      ∧ 120 ≤ ttl ∧ ttl ≤ 3600) scopeError
  let created ← lifecycleTime (member lease "created_epoch_millis")
  let activated ← lifecycleTime (member lease "activated_epoch_millis")
  let revoked ← lifecycleTime (member lease "revoked_epoch_millis")
  let expiration ← lifecycleTime (member lease "expiration_epoch_millis")
  require (created ≤ activated ∧ activated ≤ revoked ∧ revoked < expiration)
    (verifyError "PAM lifecycle is not closed before expiration")
  -- a list or an object has no hash to be looked up by
  require ((itemsValue (member mutations "revocation_outcome")).isNone = true
      ∧ (membersValue (member mutations "revocation_outcome")).isNone = true)
    (.other "TypeError".toList)
  require (member mutations "revocation_outcome" = literal "invalidated"
      ∨ member mutations "revocation_outcome" = literal "previously-invalidated")
    (verifyError "PAM receipt does not prove an issued key was revoked")
  pure leaseId

/-- `verify_elastic_pam_receipt` -/
def verifyElasticPamReceipt (R : ManagedRuntime) (anchors : PamAnchors) (receiptBytes : Bytes) :
    Except CaptureError VerifiedPamReceipt := do
  require (receiptBytes ≠ []) (verifyError "PAM receipt must be non-empty immutable bytes")
  let parsed ← (strictJsonLoads R.toJsonRuntime pamReceiptLimits receiptBytes).mapError
    fun _ => verifyError "PAM receipt is not strict bounded JSON"
  let canonical ← (canonicalJsonBytes R.toCanonicalRuntime pamReceiptLimits parsed).mapError
    fun _ => verifyError "PAM receipt is not strict bounded JSON"
  require (canonical = receiptBytes) (verifyError "PAM receipt is not a canonical JSON object")
  let members ← expect (membersValue parsed) (verifyError "PAM receipt is not a canonical JSON object")
  let leaseId ← verifyPamDocument anchors members
  pure
    { leaseId := leaseId
      requestDigest := anchors.requestDigest
      endpointOriginDigest := anchors.endpointOriginDigest
      roleDescriptorDigest := anchors.roleDescriptorDigest
      captureReceiptDigest := anchors.captureReceiptDigest
      captureRecordsDigest := anchors.captureRecordsDigest
      receiptDigest := R.sha receiptBytes }

/-! ## The broker -/

inductive ManagedCall where
  | nonce
  | now
  | journal (call : LeaseCall)
  /-- `POST /_security/api_key` -/
  | create (body : Bytes)
  /-- `DELETE /_security/api_key` -/
  | delete (body : Bytes)
  /-- building the connector with a key, and its `capture` -/
  | connector (key : Text)

@[reducible] def ManagedCall.Out : ManagedCall → Type
  | .nonce => Option LeaseId
  | .now => Millis
  | .journal _ => Except CaptureError LeaseAnswer
  | .create _ | .delete _ => Except CaptureError PamHttpResponse
  | .connector _ => Except CaptureError (Option ConnectorCapture)

/-- `ManagedElasticCapture` -/
structure ManagedElasticCapture where
  capture : ConnectorCapture
  pamReceiptBytes : Bytes
  pamReceiptDigest : Digest

abbrev ManagedClient := Prog ManagedCall ManagedCall.Out (Except CaptureError ManagedElasticCapture)

/-- A journal call that returns one record. -/
def managedRecord (call : LeaseCall)
    (k : Except CaptureError ElasticLeaseRecord → ManagedClient) : ManagedClient :=
  .call (.journal call) fun r => match r with
    | .ok (.record record) => k (.ok record)
    | .ok (.records _) => k (.error (.lease (journalError "journal returned an invalid record")))
    | .error e => k (.error e)

section

variable (R : ManagedRuntime)

/-- `_issue`: the key, and the digest of the body that asked for it. -/
def issueKey (record : ElasticLeaseRecord) (policy : ElasticPamPolicy)
    (k : Except CaptureError (Text × Digest) → ManagedClient) : ManagedClient :=
  match createBody R record policy with
  | .error _ => k (.error (.other "StrictJSONError".toList))
  | .ok body =>
    .call .now fun (sentAt : Millis) =>
    .call (.create body) fun (response : Except CaptureError PamHttpResponse) =>
      match checkResponse R "create-key" response >>= readCreatedKey record policy sentAt with
      | .error e => k (.error e)
      | .ok created =>
        .call .now fun (activatedAt : Millis) =>
        managedRecord (.activate record.leaseId record.revision created.keyId created.expiration
          activatedAt) fun r => match r with
          | .error e => k (.error e)
          | .ok _ => k ((elasticApiKey created.encoded).map fun key => (key, R.sha body))

/-- `_revoke` -/
def revokeKey (record : ElasticLeaseRecord) (reason : Option (List Char))
    (k : Except CaptureError (ElasticLeaseRecord × RevocationOutcome × Digest) → ManagedClient) :
    ManagedClient :=
  managedRecord (.beginRevocation record.leaseId record.revision reason) fun r => match r with
    | .error e => k (.error e)
    | .ok pending => match invalidateBody R pending with
      | .error _ => k (.error (.other "StrictJSONError".toList))
      | .ok body =>
        .call (.delete body) fun (response : Except CaptureError PamHttpResponse) =>
          match checkResponse R "revoke-key" response >>= readRevocation pending with
          | .error e => k (.error e)
          | .ok outcome =>
            .call .now fun (now : Millis) =>
            managedRecord (.markRevoked pending.leaseId pending.revision now) fun r =>
              k (r.map fun revoked => (revoked, outcome, R.sha body))

/-- The end of `capture`: the receipt, verified. -/
def releaseCapture (anchors : PamAnchors) (capture : ConnectorCapture)
    (revoked : ElasticLeaseRecord) (outcome : RevocationOutcome)
    (createDigest invalidateDigest : Digest) : Except CaptureError ManagedElasticCapture := do
  let keyId ← expect revoked.keyId (.other "AttributeError".toList)
  let receipt := pamReceipt R capture revoked (R.sha (utf8Text (codes keyId))) createDigest
    invalidateDigest outcome
  let receiptBytes ← (canonicalJsonBytes R.toCanonicalRuntime pamReceiptLimits receipt).mapError
    fun _ => pamFailure "receipt" "PAM receipt exceeds its canonical profile"
  let verified ← verifyElasticPamReceipt R anchors receiptBytes
  pure ⟨capture, receiptBytes, verified.receiptDigest⟩

/-- What is raised once the key of a failed capture is revoked. -/
def raisedAfter : CaptureError → CaptureError
  | .lease (.elasticPam stage reason) => .lease (.elasticPam stage reason)
  | .connector e => .connector e
  | _ => pamFailure "capture" "connector capture failed before evidence could be returned"

/-- `capture` after its operation: the lease is read again, revoked, and then the capture is
released. -/
def settleManaged (leaseId : LeaseId) (anchors : ConnectorCapture → PamAnchors)
    (operation : Except CaptureError (ConnectorCapture × Digest)) : ManagedClient :=
  managedRecord (.get leaseId) fun r => match r with
    | .error e => .ret (.error e)
    | .ok latest =>
      let reason := match operation with
        | .ok _ => none
        | .error e => some (boundedCaptureError e)
      revokeKey R latest reason fun r => match r, operation with
        | .error _, _ => .ret (.error (pamFailure "revoke-key"
            "capture is withheld because lease revocation was not confirmed"))
        | .ok _, .error e => .ret (.error (raisedAfter e))
        | .ok (revoked, outcome, invalidateDigest), .ok (capture, createDigest) =>
          .ret (releaseCapture R (anchors capture) capture revoked outcome createDigest
            invalidateDigest)

/-- What the connector returned. -/
def connectorOutcome (createDigest : Digest) (r : Except CaptureError (Option ConnectorCapture)) :
    Except CaptureError (ConnectorCapture × Digest) := do
  let answer ← r
  let capture ← expect answer
    (pamFailure "capture" "connector returned an unsupported capture object")
  pure (capture, createDigest)

/-- `ElasticPamPolicy(index_alias=…, ttl_seconds=…)` -/
def makePolicy (indexAlias : List Char) (ttlSeconds : Int) : Except LeaseError ElasticPamPolicy :=
  if halias : alertAlias indexAlias = true then
    if httl : 120 ≤ ttlSeconds ∧ ttlSeconds ≤ 3600 then
      .ok ⟨indexAlias, ttlSeconds, halias, httl⟩
    else .error (.valueError "PAM lease lifetime is outside the supported range")
  else .error (.valueError "PAM policy requires one exact Elastic Security alert alias")

/-- What a receipt of the call is verified against. -/
def captureAnchors (descriptorDigest : List Char → Digest) (policy : ElasticPamPolicy)
    (requestDigest : Digest) (capture : ConnectorCapture) : PamAnchors where
  requestDigest := requestDigest
  endpointOriginDigest := R.endpointDigest
  roleDescriptorDigest := descriptorDigest policy.indexAlias
  captureReceiptDigest := capture.receiptDigest
  captureRecordsDigest := capture.recordsDigest

/-- `capture`, once the request and the policy are there. -/
def captureUnder (descriptorDigest : List Char → Digest) (policy : ElasticPamPolicy)
    (requestDigest : Digest) : ManagedClient :=
  .call .nonce fun (answer : Option LeaseId) => match answer with
    | none => .ret (.error (pamFailure "lease" "nonce source returned an invalid lease id"))
    | some leaseId =>
      .call .now fun (now : Millis) =>
      managedRecord (.prepare leaseId (keyNameOf leaseId) policy requestDigest R.endpointDigest now)
        fun r => match r with
        | .error e => .ret (.error e)
        | .ok prepared =>
          let settle := settleManaged R leaseId
            (captureAnchors R descriptorDigest policy requestDigest)
          issueKey R prepared policy fun r => match r with
            | .error e => settle (.error e)
            | .ok (key, createDigest) =>
              .call (.connector key) fun outcome => settle (connectorOutcome createDigest outcome)

/-- `ElasticJitApiKeyBroker.capture` -/
def managedCapture (descriptorDigest : List Char → Digest) (request : ElasticRequest)
    (ttlSeconds : Int) : ManagedClient :=
  match makePolicy request.indexAlias ttlSeconds with
  | .error e => .ret (.error (.lease e))
  | .ok policy =>
    match canonicalJsonBytes R.toCanonicalRuntime defaultJsonLimits request.asJson with
    | .error _ => .ret (.error (.other "StrictJSONError".toList))
    | .ok requestBytes => captureUnder R descriptorDigest policy (R.sha requestBytes)

end

end ControlAssurance.Pam
