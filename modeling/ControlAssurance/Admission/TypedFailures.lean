import ControlAssurance.Admission.Attested

/-!
# How a call of the service fails

Whole runs of `admit` and `register_lease`, whatever the others do in between.
`Escapes` are the calls that let another exception than a typed rejection through,
and a run raises one exactly when it makes such a call. A run that has not reserved
its receipt has changed no table.
-/

namespace ControlAssurance.Admission

open Lib
open Prog (check request)

variable {P : Profile} {others : SigningWorld → SigningWorld → Prop}

/-! ## Every exception is typed -/

/-- What `admit` and `register_lease` ask of their calls. -/
def ServiceCall.proper : ServiceCall P → Prop
  | .ledger _ c => c.prepares = false
  | .prepare _ inputs _ => safeReference inputs.custodyReference = true
  | _ => True

/-- A run raises a typed rejection as long as its calls do, and its calls are proper. -/
def RaisesAsCalls (others : SigningWorld → SigningWorld → Prop) (p : Client P) : Prop :=
  ∀ s made r s', Plays serviceExec others p s made r s' →
    (∀ m ∈ made, m.call.proper) ∧ (Rejects r ↔ ∀ m ∈ made, Rejects m.answer)

theorem raisesAsCalls_ret (result : ServiceResult) :
    RaisesAsCalls others (.ret (.ok result) : Client P) := by
  intro s made r s' h
  obtain ⟨rfl, rfl, _⟩ := plays_ret h
  exact ⟨fun _ hm => absurd hm List.not_mem_nil,
    iff_of_true raises_ok fun _ hm => absurd hm List.not_mem_nil⟩

theorem raisesAsCalls_check {α : Type} {x : Except AdmissionError α} {k : α → Client P}
    (hx : Rejects x) (hk : ∀ a, x = .ok a → RaisesAsCalls others (k a)) :
    RaisesAsCalls others (check x k) := by
  intro s made r s' h
  rcases plays_check h with ⟨e, hx', rfl, rfl, _⟩ | ⟨a, ha, hrest⟩
  · exact ⟨fun _ hm => absurd hm List.not_mem_nil,
      iff_of_true (raises_error.mpr (hx e hx')) fun _ hm => absurd hm List.not_mem_nil⟩
  · exact hk a ha s made r s' hrest

/-- The exception of a call ends the run. -/
theorem raisesAsCalls_request {c : ServiceCall P} {k : c.Answer → Client P} (hc : c.proper)
    (hk : ∀ a, RaisesAsCalls others (k a)) : RaisesAsCalls others (request c k) := by
  intro s made r s' h
  obtain ⟨before, answer, after, rest, _, _, rfl, hend⟩ := plays_request h
  rw [List.forall_mem_cons, List.forall_mem_cons]
  rcases hend with ⟨e, rfl, rfl, rfl, _⟩ | ⟨a, rfl, hrest⟩
  · refine ⟨⟨hc, fun _ hm => absurd hm List.not_mem_nil⟩,
      fun h => ⟨?_, fun _ hm => absurd hm List.not_mem_nil⟩, fun h => ?_⟩
    · exact raises_error.mpr (raises_error.mp h)
    · exact raises_error.mpr (raises_error.mp h.1)
  · obtain ⟨hproper, hiff⟩ := hk a after rest r s' hrest
    exact ⟨⟨hc, hproper⟩, hiff.trans ⟨fun h => ⟨raises_ok, h⟩, fun h => h.2⟩⟩

theorem checkPolicy_rejects {statement : CollectionStatement} {exactRetry : Bool} {bytes : Bytes} :
    Rejects (checkPolicy P statement exactRetry bytes) := by
  unfold checkPolicy
  split
  · split
    · exact raises_error.mpr trivial
    next policyId _ =>
      split
      · split
        · exact raises_ok
        · exact raises_error.mpr trivial
      · exact raises_error.mpr trivial
  · exact raises_error.mpr trivial

section

variable {service : Nat}

theorem raisesAsCalls_completePreparedAdmission {prepared : PreparedAdmission}
    {k : StoredAdmission → Client P} (hk : ∀ stored, RaisesAsCalls others (k stored)) :
    RaisesAsCalls others (completePreparedAdmission P service prepared k) :=
  raisesAsCalls_check (by simp) fun _ _ => raisesAsCalls_request trivial fun _ =>
    raisesAsCalls_check (by simp) fun _ _ => raisesAsCalls_request rfl hk

theorem raisesAsCalls_establishCustody {stored : StoredAdmission}
    {k : CustodyAcknowledgement → Client P} (hk : ∀ ack, RaisesAsCalls others (k ack)) :
    RaisesAsCalls others (establishCustody P service stored k) := by
  have hmarked : ∀ marked, RaisesAsCalls others
      (check (require (∀ ack ∈ stored.custodyAcknowledgement, ack = marked)
        (corrupted "durable custody acknowledgement changed during retry")) fun _ => k marked) :=
    fun marked => raisesAsCalls_check (by simp) fun _ _ => hk marked
  refine raisesAsCalls_request trivial fun _ => raisesAsCalls_request rfl fun answer => ?_
  cases answer with
  | acknowledged ack => exact hmarked ack
  | prepared prepared =>
    exact raisesAsCalls_check (by simp) fun _ _ => raisesAsCalls_request trivial fun _ =>
      raisesAsCalls_check (by simp) fun _ _ => raisesAsCalls_request rfl hmarked

theorem raisesAsCalls_admit (envelopeBytes : Bytes) :
    RaisesAsCalls others (admitCall P service envelopeBytes) := by
  refine raisesAsCalls_check (fun e he => ?_) fun statement _ => ?_
  · obtain ⟨reason, detail, rfl⟩ := checkEnvelope_error he
    exact trivial
  refine raisesAsCalls_request trivial fun original => ?_
  refine raisesAsCalls_request trivial fun policyBytes => ?_
  refine raisesAsCalls_check (fun e he => checkPolicy_rejects e he) fun policy _ => ?_
  refine raisesAsCalls_request trivial fun snapshotBytes => ?_
  refine raisesAsCalls_check (fun e he => ?_) fun snapshot _ => ?_
  · obtain ⟨reason, detail, rfl⟩ := checkSnapshot_error he
    exact trivial
  refine raisesAsCalls_request trivial fun reference => ?_
  refine raisesAsCalls_check (by simp [ServiceCall.failure]) fun _ hreference => ?_
  have hstored : ∀ stored, RaisesAsCalls others (establishCustody P service stored fun ack =>
      request (.reply ⟨stored.disposition, stored.receipt, ack⟩) fun _ =>
      .ret (.ok (.admitted ⟨stored.disposition, stored.receipt, ack⟩))) := fun stored =>
    raisesAsCalls_establishCustody fun ack => raisesAsCalls_request trivial fun _ =>
      raisesAsCalls_ret _
  have hsafe : safeReference reference = true := require_eq_ok.mp hreference
  refine raisesAsCalls_request hsafe fun answer => ?_
  cases answer with
  | stored stored => exact hstored stored
  | prepared prepared => exact raisesAsCalls_completePreparedAdmission hstored

theorem raisesAsCalls_register (grant : SignedJobLease) :
    RaisesAsCalls others (registerLeaseCall P service grant) :=
  raisesAsCalls_request rfl fun _ => raisesAsCalls_ret _

end

/-! ## Nothing is written before the reservation -/

/-- The call reserved a receipt, or found the one of its lease. -/
def Reserves (m : Made SigningWorld (ServiceCall P) fun c => Except AdmissionError c.Answer) :
    Prop :=
  ∃ service inputs original before answer after,
    m = ⟨.prepare service inputs original, before, .ok answer, after⟩

/-- The call left the tables as they were. -/
def LeavesTables
    (m : Made SigningWorld (ServiceCall P) fun c => Except AdmissionError c.Answer) : Prop :=
  m.after.world.ledger = m.before.world.ledger

/-- A run without a reservation leaves the tables alone. -/
def ReservesFirst (others : SigningWorld → SigningWorld → Prop) (p : Client P) : Prop :=
  ∀ s made r s', Plays serviceExec others p s made r s' → (∀ m ∈ made, ¬Reserves m) →
    ∀ m ∈ made, LeavesTables m

theorem reservesFirst_check {α : Type} {x : Except AdmissionError α} {k : α → Client P}
    (hk : ∀ a, x = .ok a → ReservesFirst others (k a)) : ReservesFirst others (check x k) := by
  intro s made r s' h hnone
  rcases plays_check h with ⟨_, _, rfl, _⟩ | ⟨a, ha, hrest⟩
  · exact fun _ hm => nomatch hm
  · exact hk a ha s made r s' hrest hnone

/-- A call that never writes. -/
theorem reservesFirst_request {c : ServiceCall P} {k : c.Answer → Client P}
    (hc : ∀ s r s', serviceExec c s r s' → s'.world.ledger = s.world.ledger)
    (hk : ∀ a, ReservesFirst others (k a)) : ReservesFirst others (request c k) := by
  intro s made r s' h hnone m hm
  obtain ⟨before, answer, after, rest, _, hexec, rfl, hend⟩ := plays_request h
  rcases List.mem_cons.mp hm with rfl | hm
  · exact hc _ _ _ hexec
  · rcases hend with ⟨_, _, rfl, _⟩ | ⟨a, _, hrest⟩
    · exact nomatch hm
    · exact hk a _ _ _ _ hrest (fun x hx => hnone x (List.mem_cons_of_mem _ hx)) m hm

/-- A reservation that is refused ends the run. -/
theorem reservesFirst_prepare {service : Nat} {inputs : AdmissionInputs P}
    {original : Option Instant} {k : PreparedOrStored → Client P} :
    ReservesFirst others (request (.prepare service inputs original) k) := by
  intro s made r s' h hnone m hm
  obtain ⟨before, answer, after, rest, _, hexec, rfl, hend⟩ := plays_request h
  rcases hend with ⟨e, rfl, rfl, _⟩ | ⟨a, rfl, _⟩
  · obtain rfl := List.mem_singleton.mp hm
    rcases hexec with ⟨now, htransact⟩ | ⟨_, rfl⟩
    · exact transact_failed (c := .prepare inputs original now) htransact
    · rfl
  · exact absurd ⟨_, _, _, _, _, _, rfl⟩ (hnone _ (List.mem_cons_self ..))

/-- `admit` leaves the tables alone until its reservation commits. -/
theorem reservesFirst_admit (service : Nat) (envelopeBytes : Bytes) :
    ReservesFirst others (admitCall P service envelopeBytes) := by
  refine reservesFirst_check fun statement _ => ?_
  refine reservesFirst_request (fun s r s' hexec => ?_) fun original => ?_
  · rcases hexec with ⟨now, htransact⟩ | ⟨_, rfl⟩
    · exact transact_retryTime htransact
    · rfl
  have hsame : ∀ {s s' : SigningWorld}, s' = s → s'.world.ledger = s.world.ledger :=
    fun h => congrArg (fun w : SigningWorld => w.world.ledger) h
  refine reservesFirst_request (fun _ _ _ hexec => hsame hexec.2) fun policyBytes => ?_
  refine reservesFirst_check fun policy _ => ?_
  refine reservesFirst_request (fun _ _ _ hexec => hsame hexec.2) fun snapshotBytes => ?_
  refine reservesFirst_check fun snapshot _ => ?_
  refine reservesFirst_request (fun _ _ _ hexec => hsame hexec.2) fun reference => ?_
  exact reservesFirst_check fun _ _ => reservesFirst_prepare

/-- `register_lease` is one transaction. -/
theorem register_failed {service : Nat} {grant : SignedJobLease} {s s' : SigningWorld}
    {made : List (Made SigningWorld (ServiceCall P) fun c => Except AdmissionError c.Answer)}
    {e : AdmissionError}
    (h : Plays serviceExec others (registerLeaseCall P service grant) s made (.error e) s') :
    ∀ m ∈ made, LeavesTables m := by
  obtain ⟨before, answer, after, rest, _, hexec, rfl, hend⟩ := plays_request h
  rcases hend with ⟨e', rfl, rfl, _⟩ | ⟨a, _, hrest⟩
  · intro m hm
    obtain rfl := List.mem_singleton.mp hm
    exact transact_failed (c := .register grant) hexec
  · obtain ⟨_, hr, _⟩ := plays_ret hrest
    cases hr

/-! ## The calls of the public operations -/

/-- The two operations that admit evidence. -/
inductive AdmissionCall : Client P → Prop
  | admitCall (service : Nat) (envelopeBytes : Bytes) :
      AdmissionCall (admitCall P service envelopeBytes)
  | register (service : Nat) (grant : SignedJobLease) :
      AdmissionCall (registerLeaseCall P service grant)

/-- Every call of a client is answered. -/
theorem serviceExec_total (c : ServiceCall P) (s : SigningWorld) : ∃ r s', serviceExec c s r s' :=
  ⟨_, _, runService_exec ⟨0, [], [], "", ⟨"", 0⟩⟩ c s⟩

/-- A verified admission under a valid lease has a receipt body exactly when the identities of the
keys that signed are identifiers. -/
theorem receiptBody_iff {E : EvidenceRuntime} {base : Profile}
    {inputs : AdmissionInputs (attested E base)} {now : Instant} {c : VerifiedAdmission}
    {lease : JobLease} {n : Nat} (previous : Option Digest)
    (hc : candidateFor (attested E base) inputs now = .ok c) (hlease : lease.valid)
    (hmatch : inputs.statement.matchesLease (attested E base) lease)
    (hreference : safeReference inputs.custodyReference = true) (hn : 1 ≤ n) :
    (∃ body, receiptBody (attested E base) c n previous = .ok body)
      ↔ PortableSigners E inputs.envelopeBytes inputs.policyBytes := by
  have hcandidate := candidateFor_ok hc
  have hattestation : c.evidence.attestation = E.verify inputs.envelopeBytes inputs.policyBytes
      inputs.statement now := by
    rw [hcandidate.fields]
    rfl
  have hverified := hcandidate.verified.1
  rw [hattestation] at hverified
  obtain ⟨hkeyIds, hidentities⟩ := verified_fits hverified
  rw [← hattestation] at hkeyIds hidentities
  rw [← hidentities]
  constructor
  · rintro ⟨body, hbody⟩
    obtain ⟨_, hvalid, _⟩ := bind_eq_ok.mp hbody
    obtain ⟨_, _, _, _, _, _, _, _, _, hcanonical, _⟩ := require_eq_ok.mp hvalid
    exact hcanonical
  · exact receiptBody_ok previous hcandidate hlease hmatch hreference hn hkeyIds

section

variable {E : EvidenceRuntime} {base : Profile}

/-- The calls that let an exception through: sealing the CAB source, when it raises
anything but a `CABSnapshotError`, and a reservation that passes every check before its
receipt body, for an envelope signed under an identity that is no identifier. -/
inductive Escapes (E : EvidenceRuntime) (base : Profile) :
    Made SigningWorld (ServiceCall (attested E base)) (fun c => Except AdmissionError c.Answer) →
    Prop
  | capture {before after : SigningWorld} {exception : String} :
      Escapes E base ⟨.capture, before, .error (.uncaught exception), after⟩
  | reservation {service : Nat} {inputs : AdmissionInputs (attested E base)}
      {original : Option Instant} {before after : SigningWorld}
      {answer : Except AdmissionError PreparedOrStored} {now : Instant} {heads : List TenantHead}
      {c : VerifiedAdmission} {n : Nat} {previous : Option Digest}
      (hnow : (answer, after) = before.transact service (.prepare inputs original now))
      (hheads : before.world.heads (attested E base) service = .ok heads)
      (hbuilds : Builds (attested E base) heads before.world.ledger inputs original now c n previous)
      (hsigners : ¬PortableSigners E inputs.envelopeBytes inputs.policyBytes) :
      Escapes E base ⟨.prepare service inputs original, before, answer, after⟩

/-- The body of a request that gets so far is valid exactly when its signers are portable. -/
theorem Builds.body_iff {heads : List TenantHead} {db : Ledger}
    {inputs : AdmissionInputs (attested E base)} {original : Option Instant} {now : Instant}
    {c : VerifiedAdmission} {n : Nat} {previous : Option Digest}
    (h : Builds (attested E base) heads db inputs original now c n previous)
    (hreference : safeReference inputs.custodyReference = true) :
    (∃ body, receiptBody (attested E base) c n previous = .ok body)
      ↔ PortableSigners E inputs.envelopeBytes inputs.policyBytes := by
  obtain ⟨lease, time, hvalid, hmatch, hcandidate, hn⟩ := h.checked
  exact receiptBody_iff previous hcandidate hvalid hmatch hreference hn

/-- A reservation rejects unless it escapes. -/
theorem rejects_prepare {service : Nat} {inputs : AdmissionInputs (attested E base)}
    {original : Option Instant} {before after : SigningWorld}
    {answer : Except AdmissionError PreparedOrStored}
    (hexec : serviceExec (.prepare service inputs original) before answer after)
    (hreference : safeReference inputs.custodyReference = true) :
    Rejects answer ↔ ¬Escapes E base ⟨.prepare service inputs original, before, answer, after⟩ := by
  constructor
  · rintro hrejects (_ | @⟨_, _, _, _, _, _, now, heads, c, n, previous, hnow, hheads, hbuilds,
      hsigners⟩)
    have hrun := prepareAdmission_escapes before.world.file hbuilds
      (mt (hbuilds.body_iff hreference).mp hsigners)
    have herror := transact_error (c := .prepare inputs original now) hheads hrun
    rw [← hnow] at herror
    exact hrejects _ herror
  · intro hnot
    rcases hexec with ⟨now, hnow⟩ | ⟨rfl, _⟩
    · refine rejects_transact (c := .prepare inputs original now) hnow fun heads hheads => ?_
      refine rejects_prepareAdmission _ fun c n previous hbuilds => ?_
      rw [hbuilds.body_iff hreference]
      by_contra hsigners
      exact hnot (.reservation hnow hheads hbuilds hsigners)
    · exact raises_error.mpr trivial

/-- The surroundings fail with a typed rejection. -/
theorem rejects_outside {c : ServiceCall P} {r : Except AdmissionError c.Answer}
    (h : Outside c r) (hc : c.failure.typed) : Rejects r := by
  rcases h with ⟨answer, rfl⟩ | rfl
  · exact raises_ok
  · exact raises_error.mpr hc

/-- Every call rejects unless it escapes. -/
theorem rejects_call
    {m : Made SigningWorld (ServiceCall (attested E base)) fun c => Except AdmissionError c.Answer}
    (hexec : serviceExec m.call m.before m.answer m.after) (hproper : m.call.proper) :
    Rejects m.answer ↔ ¬Escapes E base m := by
  obtain ⟨call, before, answer, after⟩ := m
  cases call with
  | prepare service inputs original => exact rejects_prepare hexec hproper
  | capture =>
    rcases hexec.1 with hanswer | ⟨exception, rfl⟩
    · refine iff_of_true (rejects_outside hanswer trivial) ?_
      rintro ⟨⟩
      rcases hanswer with ⟨_, hno⟩ | hno <;> cases hno
    · exact iff_of_false (fun h => h _ rfl) fun h => h .capture
  | ledger service call =>
    exact iff_of_true (rejects_transact hexec fun _ _ => rejects_run hproper) (by rintro ⟨⟩)
  | retryTime service statement digest =>
    refine iff_of_true ?_ (by rintro ⟨⟩)
    rcases hexec with ⟨now, hnow⟩ | ⟨rfl, _⟩
    · exact rejects_transact (c := .retryTime statement digest now) hnow fun _ _ => rejects_run rfl
    · exact raises_error.mpr trivial
  | resolve id revision digest =>
    exact iff_of_true (rejects_outside hexec.1 trivial) (by rintro ⟨⟩)
  | referenceFor object => exact iff_of_true (rejects_outside hexec.1 trivial) (by rintro ⟨⟩)
  | persist stored => exact iff_of_true (rejects_outside hexec.1 trivial) (by rintro ⟨⟩)
  | sign body =>
    refine iff_of_true (rejects_outside hexec.1 ?_) (by rintro ⟨⟩)
    cases body <;> exact trivial
  | reply outcome => exact iff_of_true (hexec.1 ▸ raises_ok) (by rintro ⟨⟩)

/-- `admit` and `register_lease` end, whatever the others do in between and whatever the
surroundings answer. A run raises something else than a typed rejection exactly when one of its
calls escapes; the verified admissions that have a receipt body are those whose signers have
identifiers for identities; and without a reservation an exception leaves every table as it was. -/
theorem admission_failures_typed {p : Client (attested E base)} (hp : AdmissionCall p)
    (hrefl : ∀ s, others s s) (s : SigningWorld) :
    (∃ made r s', Plays serviceExec others p s made r s')
    ∧ (∀ made r s', Plays serviceExec others p s made r s' →
      ((∀ e, r = .error e → e.typed) ↔ ∀ m ∈ made, ¬Escapes E base m)
      ∧ ((∀ m ∈ made, ¬Reserves m) → ∀ e, r = .error e → ∀ m ∈ made, LeavesTables m))
    ∧ ∀ (inputs : AdmissionInputs (attested E base)) now c lease n previous,
      candidateFor (attested E base) inputs now = .ok c → lease.valid →
      inputs.statement.matchesLease (attested E base) lease →
      safeReference inputs.custodyReference = true → 1 ≤ n →
      ((∃ body, receiptBody (attested E base) c n previous = .ok body)
        ↔ PortableSigners E inputs.envelopeBytes inputs.policyBytes) := by
  refine ⟨plays_exists serviceExec_total hrefl p s,
    fun made r s' hplays => ⟨?_, ?_⟩,
    fun inputs now c lease n previous hc hlease hmatch hreference hn =>
      receiptBody_iff previous hc hlease hmatch hreference hn⟩
  · have hcalls : RaisesAsCalls others p := by
      cases hp with
      | admitCall service envelopeBytes => exact raisesAsCalls_admit envelopeBytes
      | register service grant => exact raisesAsCalls_register grant
    obtain ⟨hproper, hiff⟩ := hcalls s made r s' hplays
    have hexec := hplays.made_in (fun _ => True) (fun _ _ _ _ => trivial)
      (fun _ _ _ _ _ _ => trivial) trivial
    refine hiff.trans (forall₂_congr fun m hm => ?_)
    exact rejects_call (hexec m hm).2 (hproper m hm)
  · rintro hnone e rfl
    cases hp with
    | admitCall service envelopeBytes =>
      exact reservesFirst_admit service envelopeBytes s made _ s' hplays hnone
    | register service grant => exact register_failed hplays

end

/-! An envelope with one signature, under a policy whose key has no identifier for an identity. -/

section

open Attestation (DsseEnvelope DsseSignature KeyOf Text TrustPolicy TrustedKey VisibleAscii
  exampleSignature exampleTrustPolicy exampleTrustedKey maxIdentityLength parseDsseEnvelope
  parseTrustPolicy text trustPolicyMediaType trustPolicySchemaVersion)

def statementPayload : Bytes := [0x7b, 0x7d]

def signedEnvelope : DsseEnvelope where
  payloadType := collectionStatementMediaType
  payload := text "e30="
  signatures := [exampleSignature]
  payloadTypeSafe := by decide
  payloadSafe := by decide
  signaturesBounded := Attestation.exampleSignedEnvelope.signaturesBounded

def signedEnvelopeText : List Char :=
  ["\x7b\"payloadType\":", "\"application/vnd.", "control-assurance.", "collection-statement.",
    "v2+json\",", "\"payload\":\"e30=\",", "\"signatures\":[", "\x7b\"keyid\":\"k\",",
    "\"sig\":\""].flatMap String.toList
    ++ List.replicate 86 'A' ++ "==\"\x7d]\x7d".toList

/-- No identifier has an equals sign. -/
def signerIdentity : Text := text "ci=builder"

/-- A key of the policy, from the epoch on. -/
def signingKey : TrustedKey :=
  { exampleTrustedKey with
    identity := signerIdentity
    identitySafe := by decide
    allowedPayloadTypes := [collectionStatementMediaType]
    payloadTypesExplicit := by decide
    validFrom := text "1970-01-01T00:00:00.000000Z"
    timestampsCanonical := by decide
    windowCoherent := by decide }

def signingPolicy : TrustPolicy where
  mediaType := trustPolicyMediaType
  schemaVersion := trustPolicySchemaVersion
  policyId := text "policy"
  threshold := 1
  trustedKeys := [signingKey]
  mediaTypeLiteral := rfl
  schemaVersionLiteral := rfl
  policyIdSafe := by decide
  thresholdBounds := exampleTrustPolicy.thresholdBounds
  keysBounded := exampleTrustPolicy.keysBounded
  keyMaterialUnambiguous := exampleTrustPolicy.keyMaterialUnambiguous

/-- The canonical JSON of the policy. -/
def signingPolicyText : List Char :=
  ["\x7b\"media_type\":", "\"application/vnd.", "control-assurance.", "trust-policy.v1+json\",",
    "\"policy_id\":\"policy\",", "\"schema_version\":", "\"1.0.0\",\"threshold\":1,",
    "\"trusted_keys\":[\x7b", "\"algorithm\":\"ed25519\",", "\"allowed_payload_types\":[",
    "\"application/vnd.", "control-assurance.", "collection-statement.", "v2+json\"],",
    "\"identity\":\""].flatMap String.toList
    ++ signerIdentity.map Char.ofNat
    ++ ["\",\"key_id\":\"k\",", "\"public_key\":\""].flatMap String.toList
    ++ List.replicate 43 'A'
    ++ ["=\",\"revocation_", "effective_at\":null,", "\"status\":\"active\",",
      "\"valid_from\":\"", "1970-01-01T", "00:00:00.000000Z\",",
      "\"valid_until\":null\x7d]\x7d"].flatMap String.toList

/-- A digest that tells the bytes of the example apart. -/
def startDigest (bytes : Bytes) : Digest := exampleDigest (.bytes (bytes.take 3))

/-- A runtime that knows the two texts, and under which every signature verifies. -/
def signingRuntime : EvidenceRuntime where
  attestation :=
    { loads := fun chars =>
        if chars = signedEnvelopeText then .ok signedEnvelope.modelDump
        else if chars = signingPolicyText then .ok signingPolicy.modelDump
        else .error "Expecting value"
      parseFloat := fun _ => true
      checkFloat := fun _ => .ok ()
      dump := fun _ => .ok (utf8 signingPolicyText)
      sha256 := startDigest
      acceptsPublicKey := fun _ => true
      verifies := fun _ _ _ => true }
  statementBytes _ := statementPayload

theorem signedEnvelope_computed :
    (utf8 signedEnvelopeText).length = 223 ∧ (utf8 signedEnvelopeText).take 3 ≠ [0xEF, 0xBB, 0xBF]
    ∧ Attestation.preflightJsonStructure Attestation.envelopePreflight (utf8 signedEnvelopeText)
      = .ok ()
    ∧ Attestation.validateTree signingRuntime.attestation.toJsonRuntime
      Attestation.envelopeJsonLimits 0 signedEnvelope.modelDump = .ok () := by
  decide +kernel

theorem signingPolicy_computed :
    (utf8 signingPolicyText).length = 471 ∧ (utf8 signingPolicyText).take 3 ≠ [0xEF, 0xBB, 0xBF]
    ∧ (utf8 signingPolicyText).take 3 ≠ (utf8 signedEnvelopeText).take 3
    ∧ Attestation.preflightJsonStructure Attestation.policyPreflight (utf8 signingPolicyText)
      = .ok ()
    ∧ Attestation.validateTree signingRuntime.attestation.toJsonRuntime
      Attestation.trustPolicyJsonLimits 0 signingPolicy.modelDump = .ok () := by
  decide +kernel

theorem signedEnvelope_parses :
    parseDsseEnvelope signingRuntime.attestation.toJsonRuntime
      (utf8 signedEnvelopeText) = .ok signedEnvelope := by
  obtain ⟨hlength, hbom, hpreflight, hvalid⟩ := signedEnvelope_computed
  have hfound : signingRuntime.attestation.loads signedEnvelopeText
      = .ok signedEnvelope.modelDump := by
    simp only [signingRuntime, eq_self, if_true]
  exact Attestation.parseDsseEnvelope_utf8 (by rw [hlength]; decide) hbom hpreflight hfound hvalid rfl
    (by decide)

theorem signingPolicy_parses :
    parseTrustPolicy signingRuntime.attestation.toCanonicalRuntime
      (utf8 signingPolicyText) = .ok signingPolicy := by
  obtain ⟨hlength, hbom, hstart, hpreflight, hvalid⟩ := signingPolicy_computed
  have hsize : (utf8 signingPolicyText).length ≤ Attestation.maxTrustPolicyBytes := by
    rw [hlength]
    decide
  have hbytes : (utf8 signingPolicyText).length ≤ Attestation.trustPolicyJsonLimits.maxBytes := hsize
  have hother : signingPolicyText ≠ signedEnvelopeText :=
    fun hsame => hstart (by rw [hsame])
  have hfound : signingRuntime.attestation.loads signingPolicyText
      = .ok signingPolicy.modelDump := by
    simp only [signingRuntime, if_neg hother, if_pos]
  have hloads := Attestation.strictJsonLoads_utf8 hbytes hbom hfound hvalid
  have hdump : signingRuntime.attestation.dump signingPolicy.modelDump
      = .ok (utf8 signingPolicyText) := rfl
  have hcanonical : signingPolicy.canonicalBytes signingRuntime.attestation.toCanonicalRuntime
      = .ok (utf8 signingPolicyText) := by
    rw [TrustPolicy.canonicalBytes, Attestation.canonicalJsonBytes, hvalid, ok_bind, hdump, ok_bind,
      require_pos hbytes, ok_bind]
    rfl
  rw [parseTrustPolicy, require_pos hsize, ok_bind, hpreflight, ok_bind, Attestation.policyDocument]
  simp only [bind_eq_ok, mapError_eq_ok, require_eq_ok, pure_eq_ok]
  exact ⟨_, hloads, _, rfl, _, signingPolicy.modelValidate_modelDump, _, hcanonical, (), rfl, rfl⟩

/-- The rule holds of the envelope at 200 seconds after the epoch. -/
theorem signing_rule : Attestation.QuorumMet signingRuntime.attestation signingPolicy
    signedEnvelope collectionStatementMediaType statementPayload (200 + unixEpoch) := by
  obtain ⟨publicKeyBytes, hkey⟩ := signingKey.publicKeyBytes_ok
  obtain ⟨signatureBytes, hbytes⟩ := exampleSignature.bytes_ok
  have hopens : Attestation.timestampPosition signingKey.validFrom = .ok unixEpoch := by
    decide
  refine ⟨rfl, by decide, by decide, ⟨_, rfl, fun signature hsignature => ?_⟩, ?_, by decide⟩
  · obtain rfl := List.mem_singleton.mp hsignature
    refine ⟨signingKey, List.mem_singleton.mpr rfl, rfl,
      ⟨by decide, by decide, fun d hd => ?_, fun _ hv => (nomatch hv),
        fun _ hv => (nomatch hv)⟩,
      publicKeyBytes, signatureBytes, hkey, hbytes, rfl, rfl⟩
    rw [Attestation.timestampPosition, hd] at hopens
    have hposition : d.microseconds = unixEpoch := Except.ok.inj hopens
    rw [hposition]
    omega
  · intro signature hsignature signature' hsignature' _ _ _ _ _ _ _
    rw [List.mem_singleton.mp hsignature, List.mem_singleton.mp hsignature']

def signingTerms : LeaseTerms :=
  { exampleTerms with policyDigest := startDigest (utf8 signingPolicyText) }

def signingLease : SignedJobLease :=
  { exampleLease with lease := { exampleLease.lease with toLeaseTerms := signingTerms } }

def signingStatement : CollectionStatement := { exampleStatement with toLeaseTerms := signingTerms }

/-- The digest of the statement is the one of its bytes. -/
def signingDigest : Document → Digest
  | .bytes bytes => startDigest bytes
  | .statement _ => startDigest statementPayload
  | document => exampleDigest document

def signingProfile : Profile :=
  attested signingRuntime
    { exampleProfile with
      sha := signingDigest
      parseStatement := fun bytes =>
        if bytes = utf8 signedEnvelopeText then some signingStatement else none
      limits := ⟨4096, 4096, 10, 10, 1073741824⟩ }

/-- What the verifier reports of the envelope. -/
def signingVerification : AttestationVerification where
  verified := true
  reasonCode := .verified
  acceptedKeyIds := ["k"]
  acceptedIdentities := ["ci=builder"]
  rawEnvelopeSha256 := some (startDigest (utf8 signedEnvelopeText))
  expectedPayloadSha256 := some (startDigest statementPayload)
  trustPolicySha256 := some (startDigest (utf8 signingPolicyText))
  policyId := some "policy"
  admissionTime := some 200

theorem signing_verified : signingRuntime.verify (utf8 signedEnvelopeText)
    (utf8 signingPolicyText) signingStatement 200 = signingVerification := by
  have htime : (admissionTimeOf 200).isSome = true := by decide
  obtain ⟨time, htime⟩ := Option.isSome_iff_exists.mp htime
  have hof : List.Forall₂ (KeyOf signingPolicy) signedEnvelope.signatures [signingKey] :=
    .cons ⟨List.mem_singleton.mpr rfl, rfl⟩ .nil
  rw [verify_accepts signingPolicy_parses signedEnvelope_parses htime signing_rule hof
    (List.nodup_singleton _)]
  simp only [List.map_cons, List.map_nil, List.mergeSort_singleton]
  decide

theorem signingStatement_parses :
    signingProfile.parseStatement (utf8 signedEnvelopeText) = some signingStatement := by
  simp only [signingProfile, attested, if_pos]

theorem signingProfile_policy :
    signingProfile.parseTrustPolicy (utf8 signingPolicyText) = some "policy" := by
  simp only [signingProfile, attested]
  rw [signingPolicy_parses]
  decide

def signingInputs : AdmissionInputs signingProfile where
  statement := signingStatement
  envelopeBytes := utf8 signedEnvelopeText
  policyBytes := utf8 signingPolicyText
  snapshotBytes := [3]
  custodyReference := "custody:1"
  bounded := by
    rw [signedEnvelope_computed.1, signingPolicy_computed.1]
    decide
  parsed := signingStatement_parses
  configured := by decide
  policy := signingProfile_policy
  policyDigest := by decide
  snapshot := by decide

/-- `candidateFor` on what the verifier reports. -/
def signingCandidate : VerifiedAdmission where
  statement := signingStatement
  evidence := ⟨utf8 signedEnvelopeText, [3], utf8 signingPolicyText, signingVerification⟩
  envelopeDigest := startDigest (utf8 signedEnvelopeText)
  snapshotDigest := startDigest [3]
  policyDigest := startDigest (utf8 signingPolicyText)
  requestFingerprint := 1004
  admittedAt := 200
  currentTime := 200
  custodyObjectId := 1005
  custodyReference := "custody:1"

theorem signing_candidate : candidateFor signingProfile signingInputs 200 = .ok signingCandidate := by
  have hverified : signingProfile.verifyAttestation signingInputs.envelopeBytes
      signingInputs.policyBytes signingInputs.statement 200 = signingVerification := by
    simp only [signingProfile, attested, signingInputs]
    rw [signing_verified]
  rw [candidateFor]
  dsimp only
  rw [hverified, require_pos (by decide), ok_bind, require_pos (by decide), ok_bind]
  decide +kernel

/-- The world in which the lease is registered. -/
def leasedWorld : SigningWorld :=
  (SigningWorld.init.transact 0 (.register (P := signingProfile) signingLease)).2

/-- The world after the retry probe. -/
def probedWorld : SigningWorld :=
  (leasedWorld.transact 0 (.retryTime (P := signingProfile) signingStatement
    (startDigest (utf8 signedEnvelopeText)) 200)).2

def leasedLedger : Ledger :=
  { Ledger.empty with
    leases := [{ toLeaseColumns := signingLease.lease.columns signingProfile
                 grant := signingLease
                 consumedEnvelopeDigest := none
                 consumedReceiptDigest := none }] }

theorem leased_computed : leasedWorld.world.ledger = leasedLedger
    ∧ leasedWorld.world.heads signingProfile 0 = .ok []
    ∧ probedWorld.world.heads signingProfile 0 = .ok []
    ∧ probedWorld.world.file = ⟨0, 0, 0⟩
    ∧ statementLease signingProfile leasedLedger signingInputs.statement
      = .ok (⟨signingLease.lease.columns signingProfile, signingLease, none, none⟩, signingLease)
    ∧ retryAdmittedAt signingProfile [] leasedWorld.world.ledger signingStatement
      (startDigest (utf8 signedEnvelopeText)) 200 = .ok none := by
  decide +kernel

theorem probed_ledger : probedWorld.world.ledger = leasedLedger :=
  (transact_retryTime rfl).trans leased_computed.1

/-- The quorum is verified and the receipt has no body. -/
theorem reservation_escapes :
    prepareAdmission signingProfile ⟨0, 0, 0⟩ [] leasedLedger signingInputs none 200
      = .error (.validation "AdmissionReceiptBody") := by
  obtain ⟨-, -, -, -, hlease, -⟩ := leased_computed
  rw [prepareAdmission, hlease, ok_bind]
  dsimp only
  have hnone : leasedLedger.preparationByLease (signingLease.lease.leaseDigest signingProfile)
      = none := rfl
  rw [hnone]
  dsimp only
  rw [reserve, reservable]
  dsimp only
  rw [require_pos (by decide), ok_bind, clockFloor, require_pos (by decide), ok_bind,
    signing_candidate, ok_bind]
  decide

/-- The lease is registered, `admit` gets every answer it asks for, the quorum is verified, and the
call ends with an exception of the receipt model. -/
theorem verified_quorum_escapes :
    leasedWorld.world = worldAfter signingProfile [.called 0 (.register signingLease)]
    ∧ (signingRuntime.verify (utf8 signedEnvelopeText) (utf8 signingPolicyText) signingStatement
        200).verified = true
    ∧ Ends serviceExec Eq (admitCall signingProfile 0 (utf8 signedEnvelopeText)) leasedWorld
      (.error (.validation "AdmissionReceiptBody"))
    ∧ ¬AdmissionError.typed (.validation "AdmissionReceiptBody") := by
  refine ⟨?_, congrArg AttestationVerification.verified signing_verified, ?_, fun htyped => htyped⟩
  · simp only [leasedWorld, SigningWorld.transact, SigningWorld.init, worldAfter, List.foldl_cons,
      List.foldl_nil, World.next]
  obtain ⟨-, hheads, hheads', hfile, -, hfound⟩ := leased_computed
  have hprobe : (leasedWorld.transact 0 (.retryTime (P := signingProfile) signingStatement
      (startDigest (utf8 signedEnvelopeText)) 200)).1 = .ok none := by
    refine transact_reads hheads ?_
    rw [LedgerCall.run, hfound]
    rfl
  have hrun : (LedgerCall.prepare signingInputs none 200).run signingProfile
      probedWorld.world.file [] probedWorld.world.ledger
      = .error (.validation "AdmissionReceiptBody") := by
    rw [probed_ledger, hfile]
    exact reservation_escapes
  have hprepare : (probedWorld.transact 0 (.prepare signingInputs none 200)).1
      = .error (.validation "AdmissionReceiptBody") := transact_error hheads' hrun
  have hprobed : serviceExec (P := signingProfile) (.retryTime 0 signingStatement
      (startDigest (utf8 signedEnvelopeText))) leasedWorld (.ok none) probedWorld :=
    .inl ⟨200, Prod.ext hprobe.symm rfl⟩
  have hresolved : serviceExec (P := signingProfile)
      (.resolve "policy" 1 (startDigest (utf8 signingPolicyText))) probedWorld
      (.ok (utf8 signingPolicyText)) probedWorld := ⟨.inl ⟨_, rfl⟩, rfl⟩
  have hcaptured : serviceExec (P := signingProfile) .capture probedWorld (.ok [3]) probedWorld :=
    ⟨.inl (.inl ⟨_, rfl⟩), rfl⟩
  have hreference : ∀ object, serviceExec (P := signingProfile) (.referenceFor object) probedWorld
      (.ok "custody:1") probedWorld := fun _ => ⟨.inl ⟨_, rfl⟩, rfl⟩
  have hprepared : serviceExec (.prepare 0 signingInputs none) probedWorld
      (.error (.validation "AdmissionReceiptBody"))
      (probedWorld.transact 0 (.prepare signingInputs none 200)).2 :=
    .inl ⟨200, Prod.ext hprepare.symm rfl⟩
  refine ends_checked (checkEnvelope_ok signingInputs.bounded.1 signingInputs.parsed
    signingInputs.configured) ?_
  refine ends_answered rfl hprobed ?_
  refine ends_answered rfl hresolved ?_
  refine ends_checked (checkPolicy_ok signingInputs.bounded.2 signingInputs.policy
    signingInputs.policyDigest) ?_
  refine ends_answered rfl hcaptured ?_
  refine ends_checked (checkSnapshot_ok signingInputs.snapshot) ?_
  refine ends_answered rfl (hreference _) ?_
  refine ends_checked (require_pos (by decide)) ?_
  exact ends_raised rfl hprepared

/-- Alone, a call of `admit` that raises before its reservation has changed no table. -/
theorem signing_run_ends :
    (∃ made r s', Plays serviceExec Eq (admitCall signingProfile 0 (utf8 signedEnvelopeText))
      leasedWorld made r s')
    ∧ ∀ made r s', Plays serviceExec Eq (admitCall signingProfile 0 (utf8 signedEnvelopeText))
      leasedWorld made r s' → (∀ m ∈ made, ¬Reserves m) → ∀ e, r = .error e →
      ∀ m ∈ made, LeavesTables m := by
  obtain ⟨hends, hruns, _⟩ := admission_failures_typed (E := signingRuntime)
    (AdmissionCall.admitCall (P := signingProfile) 0 (utf8 signedEnvelopeText))
    (fun s : SigningWorld => Eq.refl s) leasedWorld
  exact ⟨hends, fun made r s' hplays => (hruns made r s' hplays).2⟩

end

end ControlAssurance.Admission
