import ControlAssurance.Lib.Owned
import ControlAssurance.Pam.DefenderToken

/-!
# The broker of Defender tokens

`DefenderWorkloadIdentityBroker` as programs over atomic calls: a call on the journal, the
credential, the clock, the token request and the capture under the token. The request is two
calls, so that a replica may die after it handed the request to the transport. The transport
and the credential may do anything. A journal call may raise anything; it then has written
nothing, or its commit went through and only the answer was lost.

`TokenWorld` remembers which requests were handed over, what became of them, and whose call
prepared a row. A journal call carries the name of its caller, and says whether it is a
`mark_uncertain` that `_issue` makes without a handler of its own. Nothing reads these; they are
kept for the statements.
-/

namespace ControlAssurance.Pam.Defender

open Lib

abbrev Bytes := List UInt8

/-! ## The token request -/

/-- A member of `response.headers`. -/
inductive TokenHeader where
  | text (name value : List Char)
  /-- a pair that is not two strings, and how it is formatted -/
  | formatted (shown : List Char)
  /-- unpacking it raises -/
  | broken (className : String)
deriving DecidableEq

/-- `_TokenHTTPResponse`; a field that is not of its exact type is `none`. -/
structure TokenHTTPResponse where
  status : Option Int
  headers : Option (List TokenHeader)
  body : Option Bytes
deriving DecidableEq

inductive TransportOutcome where
  | raised (e : Raised)
  /-- an object that is not a `_TokenHTTPResponse` -/
  | foreign
  | response (r : TokenHTTPResponse)
deriving DecidableEq

/-- An HTTP response with a status that is not `200`. -/
def TransportOutcome.refused : TransportOutcome → Bool
  | .response r => match r.status with
    | some status => decide (100 ≤ status ∧ status ≤ 599 ∧ status ≠ 200)
    | none => false
  | _ => false

/-- `_IssuedAssertion` -/
structure IssuedAssertion where
  value : Bytes
  mode : CredentialMode
  referenceDigest : Digest
  assertionIdDigest : Digest
deriving DecidableEq

/-- A member of the token document. -/
inductive TokenMember where
  | text (s : List Char)
  | integer (n : Int)
  | other
deriving DecidableEq

/-- What the broker uses of Python and of `strict_json`. -/
structure TokenRuntime where
  lower : List Char → List Char
  sha256 : Bytes → Digest
  /-- `strict_json_loads` under `_RESPONSE_LIMITS`: not strict JSON, not an object, or its
  members -/
  strictJsonLoads : Bytes → Option (Option (List (String × TokenMember)))

/-- The configuration of a broker. -/
structure TokenBroker where
  clientId : List Char
  scope : List Char
  tokenEndpointDigest : Digest
  graphOriginDigest : Digest
  scopeDigest : Digest
  credentialMode : CredentialMode
  credentialReferenceDigest : Digest
  profileDigest : Digest

def utf8 (text : List Char) : Bytes := (String.ofList text).toUTF8.toList

def hexDigit (n : Nat) : UInt8 := if n < 10 then (48 + n).toUInt8 else (55 + n).toUInt8

/-- The characters `quote` never escapes: letters, digits and `_.-~`. -/
def unreserved (b : UInt8) : Bool :=
  (65 ≤ b && b ≤ 90) || (97 ≤ b && b ≤ 122) || (48 ≤ b && b ≤ 57)
    || b == 95 || b == 46 || b == 45 || b == 126

/-- `quote_from_bytes` -/
def quoteBytes (safe : UInt8 → Bool) (value : Bytes) : Bytes :=
  value.flatMap fun b =>
    if unreserved b || safe b then [b]
    else [37, hexDigit (b.toNat / 16), hexDigit (b.toNat % 16)]

/-- `_IssuedAssertion.appears_in` -/
def IssuedAssertion.appearsIn (a : IssuedAssertion) (content : Bytes) : Bool :=
  content.tails.any a.value.isPrefixOf
    || content.tails.any (quoteBytes (· == 47) a.value).isPrefixOf

/-- `_MAX_FORM_BYTES` -/
def maxFormBytes : Nat := 192 * 1024

/-- `_MAX_RESPONSE_BYTES` -/
def maxResponseBytes : Nat := 256 * 1024

/-- `_MAX_TOKEN_BYTES` and `MAX_BEARER_TOKEN_BYTES` -/
def maxTokenBytes : Nat := 32 * 1024

/-- `_form` -/
def TokenBroker.form (b : TokenBroker) (assertion : IssuedAssertion) : Except Raised Bytes := do
  require (∀ x ∈ assertion.value, x < 128) (Raised.other "UnicodeDecodeError")
  let field (name : String) (value : Bytes) : Bytes :=
    utf8 name.toList ++ [61] ++ quoteBytes (fun _ => false) value
  let body := [38].intercalate [
    field "client_id" (utf8 b.clientId),
    field "client_assertion_type"
      (utf8 "urn:ietf:params:oauth:client-assertion-type:jwt-bearer".toList),
    field "client_assertion" assertion.value,
    field "grant_type" (utf8 "client_credentials".toList),
    field "scope" (utf8 b.scope)]
  require (body.length ≤ maxFormBytes)
    (Raised.pam "token-request" "token request form exceeds its byte limit")
  pure body

/-! ## Reading a response -/

/-- `type(response.status) is int` and the checks after it. -/
def TokenHTTPResponse.wellFormed (r : TokenHTTPResponse) :
    Option (Int × List TokenHeader × Bytes) :=
  match r.status, r.headers, r.body with
  | some status, some headers, some body =>
    if 100 ≤ status ∧ status ≤ 599 ∧ body.length ≤ maxResponseBytes then
      some (status, headers, body)
    else none
  | _, _, _ => none

/-- `f"{name}:{value}"` -/
def TokenHeader.shown : TokenHeader → Except Raised (List Char)
  | .text name value => .ok (name ++ ':' :: value)
  | .formatted shown => .ok shown
  | .broken className => .error (.other className)

/-- The bytes in which the assertion must not appear. -/
def reflected (headers : List TokenHeader) (body : Bytes) : Except Raised Bytes := do
  let lines ← headers.mapM TokenHeader.shown
  pure (body ++ [0] ++ [0].intercalate (lines.map utf8))

def tokenResponse (reason : String) : Raised := .pam "token-response" reason

/-- The loop over the headers in `_parse_success`. -/
def canonicalHeaders (runtime : TokenRuntime) (previous : List Char) :
    List TokenHeader → Except Raised (List (List Char × List Char))
  | [] => .ok []
  | .text name value :: rest => do
    require (name = runtime.lower name ∧ previous < name ∧ '\r' ∉ value ∧ '\n' ∉ value
      ∧ value.length ≤ 4096) (tokenResponse "response headers are not canonical")
    let headers ← canonicalHeaders runtime name rest
    pure ((name, value) :: headers)
  | .formatted _ :: _ => .error (tokenResponse "response headers are not canonical")
  | .broken className :: _ => .error (.other className)

def headerValue (headers : List (List Char × List Char)) (name : String) :
    Option (List Char) :=
  (headers.find? fun h => decide (h.1 = name.toList)).map (·.2)

def memberValue (members : List (String × TokenMember)) (name : String) : Option TokenMember :=
  (members.find? fun m => decide (m.1 = name)).map (·.2)

/-- `str.strip` -/
def strip (text : List Char) : List Char :=
  ((text.dropWhile pythonSpace).reverse.dropWhile pythonSpace).reverse

/-- `[A-Za-z0-9\-._~+/]+=*` -/
def visibleToken (token : Bytes) : Bool :=
  let rest := token.dropWhile fun b => unreserved b && b != 95 || b == 43 || b == 47
  decide (rest.length < token.length) && rest.all (· == 61)

/-- `_parse_success` -/
def parseSuccess (runtime : TokenRuntime) (responseHeaders : List TokenHeader) (body : Bytes) :
    Except Raised (Bytes × Int × Option Digest) := do
  let headers ← canonicalHeaders runtime [] responseHeaders
  let contentType := (headerValue headers "content-type").getD []
  require (runtime.lower (strip (contentType.takeWhile (· ≠ ';'))) = "application/json".toList)
    (tokenResponse "token response is not application/json")
  require (runtime.lower ((headerValue headers "content-encoding").getD "identity".toList)
      = "identity".toList)
    (tokenResponse "compressed token responses are forbidden")
  let parsed ← expect (runtime.strictJsonLoads body)
    (tokenResponse "token response is not strict JSON")
  let members ← expect parsed (tokenResponse "token response JSON is not an object")
  let names := members.map (·.1)
  require ((∀ n ∈ ["access_token", "expires_in", "token_type"], n ∈ names)
      ∧ ∀ n ∈ names, n ∈ ["access_token", "expires_in", "token_type", "ext_expires_in"])
    (tokenResponse "response has missing or unexpected members")
  require (memberValue members "token_type" = some (.text "Bearer".toList))
    (tokenResponse "token type is not Bearer")
  let expires ← match memberValue members "expires_in" with
    | some (.integer n) => do
      require (60 ≤ n ∧ n ≤ 3900) (tokenResponse "access token lifetime is outside policy")
      pure n
    | _ => .error (tokenResponse "access token lifetime is outside policy")
  match memberValue members "ext_expires_in" with
    | none => pure ()
    | some (.integer n) =>
      require (expires ≤ n ∧ n ≤ 86400) (tokenResponse "extended token lifetime is invalid")
    | some _ => .error (tokenResponse "extended token lifetime is invalid")
  let accessToken ← match memberValue members "access_token" with
    | some (.text token) => pure token
    | _ => .error (tokenResponse "access token is not text")
  require (∀ c ∈ accessToken, c.toNat < 128) (tokenResponse "access token is not ASCII")
  let token := accessToken.map fun c => c.toNat.toUInt8
  require (token ≠ [] ∧ token.length ≤ maxTokenBytes ∧ visibleToken token = true)
    (tokenResponse "access token has invalid syntax")
  pure (token, expires, (headerValue headers "request-id").map fun v => runtime.sha256 (utf8 v))

/-- `DefenderBearerToken(token_bytes)` -/
def defenderBearerToken (token : Bytes) : Except Raised Bytes := do
  require (token ≠ [] ∧ token.length ≤ maxTokenBytes ∧ visibleToken token = true) valueError
  pure token

/-! ## The world -/

/-- A token request that was handed to the transport, and what the transport did. -/
structure HandedRequest where
  acquisition : AcquisitionId
  outcome : Option TransportOutcome
deriving DecidableEq

structure TokenWorld where
  rows : TokenRows
  handed : List HandedRequest
  /-- whose call prepared the row of an acquisition -/
  owners : List (AcquisitionId × Nat)
deriving DecidableEq

def TokenWorld.init : TokenWorld := ⟨[], [], []⟩

/-- Where a journal call stands. -/
inductive JournalSite where
  /-- in `_issue` after the request was handed over, with no handler around it -/
  | outcome (acquisition : AcquisitionId)
  | elsewhere
deriving DecidableEq

inductive TokenBrokerCall where
  | nonce
  | now
  | credential (nowEpochSeconds : Int)
  | journal (client : Nat) (site : JournalSite) (call : TokenCall)
  | send (acquisition : AcquisitionId) (body : Bytes)
  | receive (acquisition : AcquisitionId)
  /-- building the connector, and `connector.capture`, under the token -/
  | capture (token : Bytes)

@[reducible] def TokenBrokerCall.Out : TokenBrokerCall → Type
  | .nonce => Option AcquisitionId
  | .now => Millis
  | .credential _ => Except Raised IssuedAssertion
  | .journal .. => Except Raised TokenAnswer
  | .send .. => Unit
  | .receive _ => TransportOutcome
  | .capture _ => Except Raised Unit

/-- The row of an acquisition is new, and the call's. -/
def TokenWorld.claims (s : TokenWorld) (client : Nat) : TokenCall → List (AcquisitionId × Nat)
  | .prepare acquisitionId .. => s.owners ++ [(acquisitionId, client)]
  | _ => s.owners

/-- The transport is done with a request. -/
def answered (acquisition : AcquisitionId) (outcome : TransportOutcome) :
    List HandedRequest → List HandedRequest :=
  updateWhere (fun h => decide (h.acquisition = acquisition))
    fun h => { h with outcome := some outcome }

section

variable (backend : TokenBackend)

/-- A journal call that commits. -/
def TokenCommitted (client : Nat) (call : TokenCall) (s s' : TokenWorld) (answer : TokenAnswer) :
    Prop :=
  ∃ rows, backend.run s.rows call = .ok (rows, answer)
    ∧ s' = { s with rows := rows, owners := s.claims client call }

/-- What a call may answer and leave. -/
def tokenExec : (c : TokenBrokerCall) → TokenWorld → c.Out → TokenWorld → Prop
  | .nonce, s, _, s' => s' = s
  | .now, s, _, s' => s' = s
  | .credential _, s, _, s' => s' = s
  | .journal client _ call, s, r, s' => match r with
    | .ok answer => TokenCommitted backend client call s s' answer
    | .error _ => s' = s ∨ ∃ answer, TokenCommitted backend client call s s' answer
  | .send acquisition _, s, _, s' => s' = { s with handed := s.handed ++ [⟨acquisition, none⟩] }
  | .receive acquisition, s, r, s' =>
    s' = { s with handed := answered acquisition r s.handed }
  | .capture _, s, _, s' => s' = s

end

/-! ## The broker -/

inductive TokenBrokerAnswer where
  | captured (closed : DefenderTokenRecord)
  | recovered (records : List DefenderTokenRecord)
deriving DecidableEq

abbrev TokenClient := Prog TokenBrokerCall TokenBrokerCall.Out (Except Raised TokenBrokerAnswer)

/-- `_safe_reason` -/
def safeReason (e : Raised) : List Char :=
  let reason := match e with
    | .pam _ reason | .ambiguous _ reason => reason.toList
    | .connector stage => "connector-".toList ++ stage.toList ++ "-failure".toList
    | .other className => className.toList
  let words := joinWords reason
  (if words = [] then "unspecified failure".toList else words).take 384

/-- `type(exc).__name__` -/
def Raised.className : Raised → List Char
  | .pam .. => "DefenderPamError".toList
  | .ambiguous .. => "DefenderPamAmbiguousRequest".toList
  | .connector _ => "ConnectorCaptureError".toList
  | .other className => className.toList

section

variable (runtime : TokenRuntime) (b : TokenBroker) (client : Nat)

/-- A journal call that returns one record. -/
def journalRecord (site : JournalSite) (call : TokenCall)
    (k : Except Raised DefenderTokenRecord → TokenClient) : TokenClient :=
  .call (.journal client site call) fun r => match r with
    | .ok (.record record) => k (.ok record)
    | .ok (.records _) => k (.error (.other "TypeError"))
    | .error e => k (.error e)

/-- `_prepare` -/
def prepare (requestDigest : Digest) (k : Except Raised DefenderTokenRecord → TokenClient) :
    TokenClient :=
  .call .nonce fun (nonce : Option AcquisitionId) => match nonce with
    | none => k (.error (.pam "lifecycle" "nonce source returned an invalid id"))
    | some acquisitionId =>
      .call .now fun (now : Millis) =>
        if now < 0 then
          k (.error (.pam "clock" "wall clock source returned an invalid value"))
        else
          journalRecord client .elsewhere (.prepare acquisitionId requestDigest
            b.tokenEndpointDigest b.graphOriginDigest b.scopeDigest b.credentialMode
            b.credentialReferenceDigest b.profileDigest now (now + (3900 + 60) * 1000)) k

/-- The journal is told that the outcome is unknown, and then `raise` leaves `_issue`. A failure
of the journal leaves it instead. -/
def markedUncertain (prepared : DefenderTokenRecord) (error : List Char) (raise : Raised)
    (k : Except Raised (Bytes × DefenderTokenRecord) → TokenClient) : TokenClient :=
  .call .now fun (now : Millis) =>
  journalRecord client (.outcome prepared.acquisitionId)
    (.markUncertain prepared.acquisitionId prepared.revision now error) fun r => match r with
    | .error e => k (.error e)
    | .ok _ => k (.error raise)

/-- The end of `_issue`, with a usable token. -/
def activate (prepared : DefenderTokenRecord) (assertion : IssuedAssertion) (token : Bytes)
    (expiresIn : Int) (requestIdDigest : Option Digest)
    (k : Except Raised (Bytes × DefenderTokenRecord) → TokenClient) : TokenClient :=
  .call .now fun (issuedAt : Millis) =>
  journalRecord client .elsewhere (.markIssued prepared.acquisitionId prepared.revision issuedAt
    (issuedAt + expiresIn * 1000) assertion.assertionIdDigest requestIdDigest) fun r => match r with
    | .ok issued => k (.ok (token, issued))
    | .error _ =>
      .call .now fun (now : Millis) =>
      -- `suppress(BaseException)`
      journalRecord client .elsewhere (.markUncertain prepared.acquisitionId prepared.revision now
        "issued token could not be durably activated".toList) fun _ =>
        k (.error (.ambiguous "journal" "issued token could not be durably recorded"))

/-- `_issue` from a response with well-formed fields on. -/
def consume (prepared : DefenderTokenRecord) (assertion : IssuedAssertion) (status : Int)
    (headers : List TokenHeader) (body : Bytes)
    (k : Except Raised (Bytes × DefenderTokenRecord) → TokenClient) : TokenClient :=
  match reflected headers body with
  | .error e => k (.error e)
  | .ok content =>
    if assertion.appearsIn content then
      markedUncertain client prepared "assertion reflection".toList (.ambiguous "token-response"
        "token endpoint reflected client assertion material") k
    else if status ≠ 200 then
      .call .now fun (now : Millis) =>
      journalRecord client .elsewhere (.close prepared.acquisitionId prepared.revision .prepared
        .tokenRequestRejectedNoToken now (some ("HTTP ".toList ++ (toString status).toList)))
        fun r => match r with
        | .error e => k (.error e)
        | .ok _ => k (.error (tokenResponse ("Microsoft Entra returned HTTP " ++ toString status)))
    else match parseSuccess runtime headers body with
      | .error e =>
        if e.isPam then
          markedUncertain client prepared (safeReason e) (.ambiguous "token-response"
            "HTTP 200 token response could not be safely consumed") k
        else k (.error e)
      | .ok (tokenBytes, expiresIn, requestIdDigest) =>
        match defenderBearerToken tokenBytes with
        | .error _ =>
          markedUncertain client prepared "invalid access token material".toList
            (.ambiguous "token-response" "HTTP 200 contained invalid access token material") k
        | .ok token => activate client prepared assertion token expiresIn requestIdDigest k

/-- `_issue` from the outcome of the request on. -/
def readOutcome (prepared : DefenderTokenRecord) (assertion : IssuedAssertion)
    (outcome : TransportOutcome)
    (k : Except Raised (Bytes × DefenderTokenRecord) → TokenClient) : TokenClient :=
  match outcome with
  | .raised (.ambiguous stage reason) =>
    markedUncertain client prepared (safeReason (.ambiguous stage reason))
      (.ambiguous stage reason) k
  | .raised e =>
    markedUncertain client prepared e.className
      (.ambiguous "token-transport" "token request outcome is ambiguous") k
  | .foreign =>
    markedUncertain client prepared "invalid transport response".toList
      (.ambiguous "token-transport" "token transport returned an invalid response") k
  | .response response => match response.wellFormed with
    | none =>
      markedUncertain client prepared "malformed transport response fields".toList
        (.ambiguous "token-transport" "token transport returned malformed response fields") k
    | some (status, headers, body) =>
      consume runtime client prepared assertion status headers body k

/-- `_issue` -/
def issue (prepared : DefenderTokenRecord)
    (k : Except Raised (Bytes × DefenderTokenRecord) → TokenClient) : TokenClient :=
  .call .now fun (now : Millis) =>
  .call (.credential (now / 1000)) fun (r : Except Raised IssuedAssertion) => match r with
    | .error e => k (.error e)
    | .ok assertion =>
      if assertion.mode ≠ prepared.credentialMode
          ∨ assertion.referenceDigest ≠ prepared.credentialReferenceDigest then
        k (.error (.pam "assertion" "credential identity changed during acquisition"))
      else match b.form assertion with
        | .error e => k (.error e)
        | .ok body =>
          .call (.send prepared.acquisitionId body) fun _ =>
          .call (.receive prepared.acquisitionId) fun (outcome : TransportOutcome) =>
            readOutcome runtime client prepared assertion outcome k

/-- The `except DefenderPamError` of `capture`. -/
def rejected (acquisitionId : AcquisitionId) (e : Raised) : TokenClient :=
  journalRecord client .elsewhere (.get acquisitionId) fun r => match r with
    | .error e' => .ret (.error e')
    | .ok latest => match latest.state, e with
      | .prepared, .pam .. =>
        .call .now fun (now : Millis) =>
        journalRecord client .elsewhere (.close latest.acquisitionId latest.revision .prepared
          .tokenRequestRejectedNoToken now
          (some "assertion or local token request construction failed".toList)) fun r =>
          match r with
          | .error e' => .ret (.error e')
          | .ok _ => .ret (.error e)
      | _, _ => .ret (.error e)

/-- The end of `capture`, up to the receipt it builds. -/
def release (issued : DefenderTokenRecord) (operation : Except Raised Unit) : TokenClient :=
  .call .now fun (now : Millis) =>
    let closure : TokenClosure := match operation with
      | .ok _ => .captureCompletedTokenReleaseOnly
      | .error _ => .captureFailedTokenReleaseOnly
    let error : Option (List Char) := match operation with
      | .ok _ => none
      | .error e => some (safeReason e)
    journalRecord client .elsewhere (.close issued.acquisitionId issued.revision .issued closure
      now error) fun r => match r, operation with
      | .error _, _ => .ret (.error (journalFailure
          "capture is withheld because token lifecycle closure was not durable"))
      | .ok closed, .ok _ => .ret (.ok (.captured closed))
      | .ok _, .error (.other _) => .ret (.error (.pam "capture"
          "connector capture failed before evidence could be returned"))
      | .ok _, .error e => .ret (.error e)

/-- `capture` -/
def capture (requestDigest : Digest) : TokenClient :=
  prepare b client requestDigest fun r => match r with
    | .error e => .ret (.error e)
    | .ok prepared =>
      issue runtime b client prepared fun r => match r with
        | .error e =>
          if e.isPam then rejected client prepared.acquisitionId e else .ret (.error e)
        | .ok (token, issued) =>
          .call (.capture token) fun (operation : Except Raised Unit) =>
            release client issued operation

/-- `_recover_records` -/
def recoverRecords : List DefenderTokenRecord → List DefenderTokenRecord → TokenClient
  | [], recovered => .ret (.ok (.recovered recovered))
  | record :: records, recovered =>
    .call .now fun (now : Millis) =>
    journalRecord client .elsewhere
      (if record.state = .prepared then
        .markUncertain record.acquisitionId record.revision now
          "recovered prepared token request".toList
      else
        .close record.acquisitionId record.revision .issued .abandonedAfterCrash now
          (some "issued token was abandoned after process recovery".toList)) fun r => match r with
      | .error e => .ret (.error e)
      | .ok settled => recoverRecords records (recovered ++ [settled])

def recoverWith (call : TokenCall) : TokenClient :=
  .call (.journal client .elsewhere call) fun r => match r with
    | .ok (.records records) => recoverRecords client records []
    | .ok (.record _) => .ret (.error (.other "TypeError"))
    | .error e => .ret (.error e)

/-- `recover_unsettled` -/
def recoverUnsettled (limit : Int) : TokenClient := recoverWith client (.unsettled limit)

/-- `recover_request_digest` -/
def recoverRequestDigest (requestDigest : Digest) (limit : Int) : TokenClient :=
  recoverWith client (.recordsForRequestDigest requestDigest true limit)

end

/-- What may start: a call of a replica, each with its own configuration, under a name. -/
inductive TokenEntry (runtime : TokenRuntime) : Nat → TokenClient → Prop
  | capture (id : Nat) (b : TokenBroker) (requestDigest : Digest) :
      TokenEntry runtime id (capture runtime b id requestDigest)
  | recoverUnsettled (id : Nat) (limit : Int) :
      TokenEntry runtime id (recoverUnsettled id limit)
  | recoverRequestDigest (id : Nat) (requestDigest : Digest) (limit : Int) :
      TokenEntry runtime id (recoverRequestDigest id requestDigest limit)

end ControlAssurance.Pam.Defender
