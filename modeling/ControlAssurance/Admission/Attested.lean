import ControlAssurance.Admission.Failures
import ControlAssurance.Attestation.Accepted

/-!
# Admission on the attestation verifier

`Profile` leaves the trust policy parser and the attestation verifier open; here
they are the ones of `evidence/attestation.py`. An accepted key id has the same
pattern as an identifier of the receipt body. An accepted identity does not: a
trusted key's identity is any visible ASCII of up to 512 characters. So the
signers of a verified attestation fit the receipt body exactly when the
identities of the keys that signed are identifiers (`signersFit_attested`).
-/

namespace ControlAssurance.Admission

open Lib
open Attestation (AttestationRuntime AdmissionTime DsseEnvelope KeyOf Text TrustPolicy TrustedKey
  parseDsseEnvelope parseTrustPolicy text textLe verifyDsseAttestation)

/-! ## The verifier as `admit` calls it -/

/-- A text as a string. -/
def textString (value : Text) : String := String.ofList (value.map Char.ofNat)

def collectionStatementMediaType : Text :=
  text "application/vnd.control-assurance.collection-statement.v2+json"

/-- The position of the Unix epoch among the microseconds of the calendar. -/
def unixEpoch : Nat := 719163 * 86400000000

theorem utcOffset : (-86400000000 : Int) < 0 ∧ (0 : Int) < 86400000000 := by decide

/-- `_parse_timestamp` of the canonical timestamp of an instant. -/
def admissionTimeOf (now : Instant) : Option AdmissionTime :=
  (DateTime.ofMicroseconds (now + unixEpoch).toNat).map fun d => ⟨d, 0, utcOffset⟩

/-- A timestamp as an instant. -/
def instantOf (value : Text) : Option Instant :=
  (Attestation.parseCanonicalTimestamp value).toOption.map fun d => d.microseconds - unixEpoch

def reportedReason : Attestation.AttestationReason → AttestationReason
  | .verified => .verified
  | .invalidExpectation => .invalidExpectation
  | .invalidAdmissionTime => .invalidAdmissionTime
  | .malformedPolicy => .malformedPolicy
  | .malformedEnvelope => .malformedEnvelope
  | .malformedBase64 => .malformedBase64
  | .resourceLimitExceeded => .resourceLimitExceeded
  | .payloadTypeMismatch => .payloadTypeMismatch
  | .payloadMismatch => .payloadMismatch
  | .duplicateTrustedKey => .duplicateTrustedKey
  | .duplicateSigner => .duplicateSigner
  | .unknownSigner => .unknownSigner
  | .unknownAlgorithm => .unknownAlgorithm
  | .payloadTypeNotAllowed => .payloadTypeNotAllowed
  | .keyNotYetValid => .keyNotYetValid
  | .keyExpired => .keyExpired
  | .keyDisabled => .keyDisabled
  | .keyRevoked => .keyRevoked
  | .invalidPublicKey => .invalidPublicKey
  | .invalidSignature => .invalidSignature
  | .thresholdNotMet => .thresholdNotMet

/-- A decision, as the admission service reads it. -/
def reported (decision : Attestation.AttestationVerification) : AttestationVerification where
  verified := decision.verified
  reasonCode := reportedReason decision.reasonCode
  acceptedKeyIds := decision.acceptedKeyIds.map textString
  acceptedIdentities := decision.acceptedIdentities.map textString
  rawEnvelopeSha256 := decision.rawEnvelopeSha256
  expectedPayloadSha256 := decision.expectedPayloadSha256
  trustPolicySha256 := decision.trustPolicySha256
  policyId := decision.policyId.map textString
  admissionTime := decision.admissionTime.bind instantOf

/-- No decision: the policy was refused before, or the clock is outside the calendar. -/
def undecided : AttestationVerification :=
  ⟨false, .malformedPolicy, [], [], none, none, none, none, none⟩

structure EvidenceRuntime where
  attestation : AttestationRuntime
  /-- `canonical_bytes` of a statement -/
  statementBytes : CollectionStatement → Bytes

/-- `verify_dsse_attestation` under the policy that was parsed. -/
def EvidenceRuntime.verify (E : EvidenceRuntime) (envelopeBytes policyBytes : Bytes)
    (statement : CollectionStatement) (now : Instant) : AttestationVerification :=
  match parseTrustPolicy E.attestation.toCanonicalRuntime policyBytes, admissionTimeOf now with
  | .ok policy, some time =>
    match verifyDsseAttestation E.attestation envelopeBytes policy collectionStatementMediaType
        (E.statementBytes statement) time with
    | .ok decision => reported decision
    | .error _ => undecided
  | _, _ => undecided

/-- The profile on the verifier. -/
def attested (E : EvidenceRuntime) (base : Profile) : Profile :=
  { base with
    parseTrustPolicy := fun bytes =>
      (parseTrustPolicy E.attestation.toCanonicalRuntime bytes).toOption.map fun policy =>
        textString policy.policyId
    verifyAttestation := E.verify }

/-! ## Accepted signers as identifiers -/

theorem ascii_char {code : Nat} (h : code ≤ 0x7e) : (Char.ofNat code).toNat = code := by
  have hall : ∀ n < 127, (Char.ofNat n).toNat = n := by decide
  exact hall code (by omega)

/-- Different texts in order are different strings in order. By induction on the texts. -/
theorem textString_lt : ∀ {a b : Text}, (∀ code ∈ a, code ≤ 0x7e) → (∀ code ∈ b, code ≤ 0x7e) →
    textLe a b = true → a ≠ b → textString a < textString b := by
  have hlists : ∀ {a b : Text}, (∀ code ∈ a, code ≤ 0x7e) → (∀ code ∈ b, code ≤ 0x7e) →
      textLe a b = true → a ≠ b → a.map Char.ofNat < b.map Char.ofNat := by
    intro a
    induction a with
    | nil =>
      intro b _ _ _ hne
      cases b with
      | nil => exact absurd rfl hne
      | cons y b => exact List.nil_lt_cons _ _
    | cons x a ih =>
      intro b ha hb hle hne
      cases b with
      | nil => cases hle
      | cons y b =>
        have hx := ascii_char (ha x (List.mem_cons_self ..))
        have hy := ascii_char (hb y (List.mem_cons_self ..))
        rw [List.map_cons, List.map_cons, List.cons_lt_cons_iff]
        simp only [textLe, Bool.or_eq_true, Bool.and_eq_true, decide_eq_true_eq, beq_iff_eq] at hle
        rcases hle with hlt | ⟨rfl, hle⟩
        · left
          rw [Char.lt_def, UInt32.lt_iff_toNat_lt]
          show (Char.ofNat x).toNat < (Char.ofNat y).toNat
          omega
        · refine .inr ⟨rfl, ih (fun c hc => ha c (List.mem_cons_of_mem _ hc))
            (fun c hc => hb c (List.mem_cons_of_mem _ hc)) hle ?_⟩
          rintro rfl
          exact hne rfl
  intro a b ha hb hle hne
  rw [String.lt_iff, textString, textString, String.toList_ofList, String.toList_ofList]
  exact hlists ha hb hle hne

/-- A sorted set of at most 64 ASCII texts is canonical when its texts are identifiers. -/
theorem canonicalSigners_sorted {values : List Text} (hne : values ≠ []) (hlen : values.length ≤ 64)
    (hnodup : values.Nodup) (hascii : ∀ value ∈ values, ∀ code ∈ value, code ≤ 0x7e) :
    canonicalSigners ((values.mergeSort textLe).map textString)
      ↔ ∀ value ∈ values, safeIdentifier (textString value) = true := by
  have hmem : ∀ value, value ∈ values.mergeSort textLe ↔ value ∈ values :=
    fun value => (List.mergeSort_perm values _).mem_iff
  have hsorted : ((values.mergeSort textLe).map textString).Pairwise (· < ·) := by
    rw [List.pairwise_map]
    have hdistinct : (values.mergeSort textLe).Nodup :=
      (List.mergeSort_perm values _).nodup_iff.mpr hnodup
    refine ((Attestation.text_order.pairwise values).and hdistinct).imp_of_mem ?_
    rintro a b ha hb ⟨hle, hab⟩
    exact textString_lt (hascii a ((hmem a).mp ha)) (hascii b ((hmem b).mp hb)) hle hab
  unfold canonicalSigners
  constructor
  · rintro ⟨_, _, _, hsafe⟩ value hvalue
    exact hsafe _ (List.mem_map_of_mem ((hmem value).mpr hvalue))
  · intro hsafe
    refine ⟨?_, ?_, hsorted, ?_⟩
    · obtain ⟨value, hvalue⟩ := List.exists_mem_of_ne_nil values hne
      exact List.ne_nil_of_mem (List.mem_map_of_mem ((hmem value).mpr hvalue))
    · rw [List.length_map, List.length_mergeSort]
      exact hlen
    · intro value hvalue
      obtain ⟨v, hv, rfl⟩ := List.mem_map.mp hvalue
      exact hsafe v ((hmem v).mp hv)

/-- A key id has the pattern of an identifier. -/
theorem keyId_ascii {value : Text} (h : Attestation.KeyIdSafe value) :
    ∀ code ∈ value, code ≤ 0x7e := by
  obtain ⟨hhead, _, htail⟩ := h
  have halphanumeric : ∀ code, Attestation.isAlphanumeric code = true → code ≤ 0x7e := by
    intro code hcode
    simp only [Attestation.isAlphanumeric, Bool.or_eq_true, Bool.and_eq_true, decide_eq_true_eq]
      at hcode
    have hA : 'Z'.toNat = 90 ∧ 'z'.toNat = 122 ∧ '9'.toNat = 57 := by decide
    omega
  have hmarks : ∀ code ∈ text "._:@/+~-", code ≤ 0x7e := by decide
  cases value with
  | nil => exact fun _ hmem => absurd hmem List.not_mem_nil
  | cons first rest =>
    intro code hmem
    rcases List.mem_cons.mp hmem with rfl | hmem
    · exact halphanumeric _ (by simpa using hhead)
    · rcases htail code hmem with hcode | hcode
      · exact halphanumeric _ hcode
      · exact hmarks _ hcode

theorem keyId_identifier {value : Text} (h : Attestation.KeyIdSafe value) :
    safeIdentifier (textString value) = true := by
  have hascii := keyId_ascii h
  obtain ⟨hhead, hlength, htail⟩ := h
  have hsame : ∀ code < 127, Attestation.isAlphanumeric code = (Char.ofNat code).isAlphanum := by
    decide
  have hmarks : ∀ code ∈ text "._:@/+~-", "._:@/+~-".toList.contains (Char.ofNat code) = true := by
    decide
  rw [safeIdentifier, textString, String.toList_ofList]
  cases value with
  | nil => cases hhead
  | cons first rest =>
    have hfirst : (Char.ofNat first).isAlphanum = true := by
      rw [← hsame first (by have := hascii first (List.mem_cons_self ..); omega)]
      simpa using hhead
    have hshort : rest.length ≤ 255 := by
      have hbound : (first :: rest).length ≤ 256 := hlength
      rw [List.length_cons] at hbound
      omega
    rw [List.map_cons]
    simp only [hfirst, List.length_map, hshort, decide_true, Bool.true_and, List.all_eq_true,
      List.mem_map, Bool.or_eq_true]
    rintro _ ⟨code, hmem, rfl⟩
    have hbound := hascii code (List.mem_cons_of_mem _ hmem)
    rcases htail code hmem with hcode | hcode
    · left
      rw [← hsame code (by omega)]
      exact hcode
    · exact .inr (hmarks code hcode)

/-- The identities of the keys that an envelope names are identifiers. -/
def PortableSigners (E : EvidenceRuntime) (envelopeBytes policyBytes : Bytes) : Prop :=
  ∀ policy envelope,
    parseTrustPolicy E.attestation.toCanonicalRuntime policyBytes = .ok policy →
    parseDsseEnvelope E.attestation.toJsonRuntime envelopeBytes = .ok envelope →
    ∀ signature ∈ envelope.signatures, ∀ key ∈ policy.trustedKeys, key.keyId = signature.keyid →
      safeIdentifier (textString key.identity) = true

/-- The signers of a verified attestation fit the receipt body exactly when their
identities are identifiers. -/
theorem verified_fits {E : EvidenceRuntime} {envelopeBytes policyBytes : Bytes}
    {statement : CollectionStatement} {now : Instant}
    (h : (E.verify envelopeBytes policyBytes statement now).verified = true) :
    canonicalSigners (E.verify envelopeBytes policyBytes statement now).acceptedKeyIds
      ∧ (canonicalSigners (E.verify envelopeBytes policyBytes statement now).acceptedIdentities
        ↔ PortableSigners E envelopeBytes policyBytes) := by
  unfold EvidenceRuntime.verify at h ⊢
  split
  next policy time hparse htime =>
    rw [hparse, htime] at h
    dsimp only at h
    split
    next decision hdecision =>
      rw [hdecision] at h
      obtain ⟨envelope, keys, henvelope, _, hof, hids, hidentities, hne, hkeyIds, hnames⟩ :=
        Attestation.verified_signers hdecision h
      have hfew : keys.length ≤ 64 := by
        rw [← hof.length_eq]
        exact envelope.signaturesBounded
      show canonicalSigners (decision.acceptedKeyIds.map textString)
        ∧ (canonicalSigners (decision.acceptedIdentities.map textString) ↔ _)
      rw [hkeyIds, hnames, canonicalSigners_sorted, canonicalSigners_sorted]
      · refine ⟨?_, ?_, ?_⟩
        · intro value hvalue
          obtain ⟨key, _, rfl⟩ := List.mem_map.mp hvalue
          exact keyId_identifier key.keyIdSafe
        · intro hsafe policy' envelope' hparse' henvelope' signature hsignature key hkey hid
          obtain rfl := Except.ok.inj (hparse.symm.trans hparse')
          obtain rfl := Except.ok.inj (henvelope.symm.trans henvelope')
          obtain ⟨other, hother, hotherKey, hotherId⟩ := exists_of_forall₂_left hof hsignature
          have hsame : other = key := List.inj_on_of_nodup_map policy.keyIds_nodup hotherKey hkey
            (hotherId.trans hid.symm)
          exact hsafe _ (List.mem_map.mpr ⟨other, hother, by rw [hsame]⟩)
        · intro hportable value hvalue
          obtain ⟨key, hkey, rfl⟩ := List.mem_map.mp hvalue
          obtain ⟨signature, hsignature, hmem, hid⟩ := exists_of_forall₂_right hof hkey
          exact hportable policy envelope hparse henvelope signature hsignature key hmem hid
      · simpa using hne
      · rw [List.length_map]
        exact hfew
      · exact hidentities
      · intro value hvalue code hcode
        obtain ⟨key, _, rfl⟩ := List.mem_map.mp hvalue
        exact (key.identitySafe.2.2 code hcode).2
      · simpa using hne
      · rw [List.length_map]
        exact hfew
      · exact hids
      · intro value hvalue
        obtain ⟨key, _, rfl⟩ := List.mem_map.mp hvalue
        exact keyId_ascii key.keyIdSafe
    next message hdecision =>
      rw [hdecision] at h
      cases h
  next hnone =>
    split at h
    next policy time hparse htime => exact (hnone policy time hparse htime).elim
    next => cases h

/-! ## The decision on an envelope that meets the rule -/

/-- The bytes of a parsed policy are its canonical form. -/
theorem parsed_canonical {R : Attestation.CanonicalRuntime} {bytes : Bytes} {policy : TrustPolicy}
    (h : parseTrustPolicy R bytes = .ok policy) : policy.canonicalBytes R = .ok bytes := by
  simp only [parseTrustPolicy, Attestation.policyDocument, bind_eq_ok, require_eq_ok,
    mapError_eq_ok, pure_eq_ok] at h
  obtain ⟨_, _, _, _, document, _, _, _, parsed, _, canonical, hcanonical, _, rfl, rfl⟩ := h
  exact hcanonical

/-- The service's clock as the verifier reads it. -/
theorem canonical_admission {now : Instant} {time : AdmissionTime}
    (h : admissionTimeOf now = some time) : ∃ d, Attestation.canonicalAdmissionTime time = some d
      ∧ (d.microseconds : Int) = now + unixEpoch := by
  obtain ⟨d, hd, rfl⟩ := Option.map_eq_some_iff.mp h
  have hposition := DateTime.microseconds_of hd
  have hsome : (DateTime.ofMicroseconds (now + unixEpoch).toNat).isSome = true := by
    rw [hd]
    rfl
  have hbounds := DateTime.ofMicroseconds_isSome.mp hsome
  refine ⟨d, ?_, by omega⟩
  have hinstant : (AdmissionTime.instant ⟨d, 0, by decide⟩).toNat = (now + unixEpoch).toNat := by
    show ((d.microseconds : Int) - 0).toNat = _
    omega
  rw [Attestation.canonicalAdmissionTime, hinstant]
  exact hd

theorem verify_accepts {E : EvidenceRuntime} {envelopeBytes policyBytes : Bytes}
    {statement : CollectionStatement} {now : Instant} {policy : TrustPolicy}
    {envelope : DsseEnvelope} {keys : List TrustedKey} {time : AdmissionTime}
    (hpolicy : parseTrustPolicy E.attestation.toCanonicalRuntime policyBytes = .ok policy)
    (henvelope : parseDsseEnvelope E.attestation.toJsonRuntime envelopeBytes = .ok envelope)
    (htime : admissionTimeOf now = some time)
    (hmet : Attestation.QuorumMet E.attestation policy envelope collectionStatementMediaType
      (E.statementBytes statement) (now + unixEpoch))
    (hof : List.Forall₂ (KeyOf policy) envelope.signatures keys)
    (hidentities : (keys.map (·.identity)).Nodup) :
    E.verify envelopeBytes policyBytes statement now =
      { verified := true
        reasonCode := .verified
        acceptedKeyIds := ((keys.map (·.keyId)).mergeSort textLe).map textString
        acceptedIdentities := ((keys.map (·.identity)).mergeSort textLe).map textString
        rawEnvelopeSha256 := some (E.attestation.sha256 envelopeBytes)
        expectedPayloadSha256 := some (E.attestation.sha256 (E.statementBytes statement))
        trustPolicySha256 := some (E.attestation.sha256 policyBytes)
        policyId := some (textString policy.policyId)
        admissionTime := some now } := by
  obtain ⟨d, hd, hinstant⟩ := canonical_admission htime
  have hread : instantOf (Attestation.formatCanonicalTimestamp d) = some now := by
    rw [instantOf, Attestation.parse_formatCanonicalTimestamp]
    show some ((d.microseconds : Int) - unixEpoch) = some now
    rw [hinstant, add_sub_cancel_right]
  rw [← hinstant] at hmet
  rw [EvidenceRuntime.verify, hpolicy, htime]
  dsimp only
  rw [Attestation.verified_decision henvelope (parsed_canonical hpolicy) hd hmet hof hidentities]
  simp only [reported, reportedReason, Option.map_some, Option.bind_some, hread]

end ControlAssurance.Admission
