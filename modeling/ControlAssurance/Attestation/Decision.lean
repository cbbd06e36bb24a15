import ControlAssurance.Attestation.Quorum

/-!
# The decision of a verification

`verify_dsse_attestation` returns on every input, and it returns `verified` exactly when the quorum
rule holds, the canonical form of the policy fits and the admission lies in the calendar. The order
of the signatures and of the keys does not matter to it.
-/

namespace ControlAssurance.Attestation

open Lib

variable {R : AttestationRuntime}

/-! ## Reading the envelope -/

variable {envelope : DsseEnvelope} {bytes payload : Bytes} {α ε : Type}
  {provenance : VerificationProvenance} {payloadType : Text} {t : AdmissionTime}
  {policy' : TrustPolicy}

/-- A document that the model accepts does not look malformed: what is decoded there has been
decoded by the model. -/
theorem looksLikeMalformedBase64_valid {document : JsonValue} {entries : Members}
    (hdict : document = .dict entries) (h : DsseEnvelope.modelValidate document = .ok envelope) :
    looksLikeMalformedBase64 entries = false := by
  obtain ⟨entries', items, rfl, _, _, hpayload, hsignatures, hall⟩ :=
    DsseEnvelope.modelValidate_ok h
  cases hdict
  obtain ⟨decoded, hdecoded, _⟩ := envelope.payloadBytes_ok
  have hcandidate : malformedCandidate (stringMember (text "payload") entries)
      maxEncodedPayloadLength none = false := by
    have hdecoded' : canonicalBase64Decode envelope.payload maxEncodedPayloadLength none
        = .ok decoded := hdecoded
    rw [stringMember, hpayload]
    simp [malformedCandidate, hdecoded', Except.isOk, Except.toBool]
  have hfew : ¬maxEnvelopeSignatures < items.length := by
    have hcount : items.length = envelope.signatures.length := mapM_length hall
    have := envelope.signaturesBounded
    omega
  rw [looksLikeMalformedBase64, hsignatures]
  show (if maxEnvelopeSignatures < items.length then false else _) = false
  rw [if_neg hfew, hcandidate, Bool.false_or, List.any_eq_false]
  intro item hitem
  obtain ⟨signature, _, hsignature⟩ := mapM_answer hall item hitem
  obtain ⟨members, rfl, _, _, hsig⟩ := DsseSignature.modelValidate_ok hsignature
  obtain ⟨signatureBytes, hbytes⟩ := signature.bytes_ok
  show ¬(malformedCandidate (stringMember (text "sig") members) ed25519SignatureBase64Length
    (some ed25519SignatureBytes) = true)
  rw [stringMember, hsig]
  simp [malformedCandidate, hbytes, Except.isOk, Except.toBool]

/-- Within the size limit, the envelope is read as `parse_dsse_envelope` reads it. -/
theorem readEnvelope_ok (hsize : bytes.length ≤ maxEnvelopeBytes)
    : readEnvelope R bytes = .ok envelope
      ↔ parseDsseEnvelope R.toJsonRuntime bytes = .ok envelope := by
  simp only [readEnvelope, parseDsseEnvelope, envelopeDocument, bind_eq_ok, mapError_eq_ok,
    require_eq_ok]
  constructor
  · rintro ⟨_, hpreflight, document, hloads, members, hdict, _, hshape, _, _, hmodel⟩
    exact ⟨(), hsize, (), hpreflight, document, hloads, members, hdict, (), hshape, hmodel⟩
  · rintro ⟨_, _, _, hpreflight, document, hloads, members, hdict, _, hshape, hmodel⟩
    exact ⟨(), hpreflight, document, hloads, members, hdict, (), hshape, (),
      looksLikeMalformedBase64_valid (asDict_ok hdict) hmodel, hmodel⟩

variable {e : ε} {policy : TrustPolicy}

/-- An error comes from the first part of a sequence or from the rest. -/
theorem bind_eq_error {β : Type} {x : Except ε α} {f : α → Except ε β}
    (h : (x >>= f) = .error e) : x = .error e ∨ ∃ a, x = .ok a ∧ f a = .error e := by
  cases x with
  | ok a => exact .inr ⟨a, rfl, h⟩
  | error e' => exact .inl (congrArg _ (Except.error.inj h))

theorem mapError_eq_error {ε' : Type} {x : Except ε α} {f : ε → ε'} {e : ε'}
    (h : x.mapError f = .error e) : ∃ e₀, x = .error e₀ ∧ f e₀ = e := by
  cases x with
  | ok a => cases h
  | error e₀ => exact ⟨e₀, rfl, Except.error.inj h⟩

theorem require_error {c : Prop} [Decidable c] {e' : ε}
    (h : require c e = .error e') : e' = e := (require_eq_error.mp h).2.symm

theorem forM_error {f : α → Except ε Unit} :
    ∀ {l : List α}, l.forM f = .error e → ∃ a ∈ l, f a = .error e
  | [], h => by cases h
  | a :: l, h => by
    rcases bind_eq_error h with h | ⟨_, _, h⟩
    · exact ⟨a, List.mem_cons_self .., h⟩
    · obtain ⟨b, hb, hfb⟩ := forM_error h
      exact ⟨b, List.mem_cons_of_mem _ hb, hfb⟩

/-- The checks of the shape have no fuel to run out of. -/
theorem validateRawEnvelopeShape_error {entries : Members} {e : PreflightError}
    (h : validateRawEnvelopeShape entries = .error e) : e ≠ .exhausted := by
  rw [validateRawEnvelopeShape] at h
  rcases bind_eq_error h with h | ⟨_, _, h⟩
  · rw [require_error h]
    exact fun heq => nomatch heq
  rcases bind_eq_error h with h | ⟨_, _, h⟩
  · rw [require_error h]
    exact fun heq => nomatch heq
  rcases bind_eq_error h with h | ⟨_, _, h⟩
  · obtain ⟨_, _, rfl⟩ := mapError_eq_error h
    exact fun heq => nomatch heq
  rcases bind_eq_error h with h | ⟨_, _, h⟩
  · rw [require_error h]
    exact fun heq => nomatch heq
  obtain ⟨signature, _, h⟩ := forM_error h
  rw [checkRawSignature] at h
  rcases bind_eq_error h with h | ⟨_, _, h⟩
  · obtain ⟨_, _, rfl⟩ := mapError_eq_error h
    exact fun heq => nomatch heq
  · rw [require_error h]
    exact fun heq => nomatch heq

theorem structureStop_refuses {e : PreflightError} (h : e ≠ .exhausted) :
    ∃ reason, structureStop e = .refuse reason ∧ reason ≠ .verified := by
  cases e with
  | resource message => exact ⟨_, rfl, by decide⟩
  | invalid message => exact ⟨_, rfl, by decide⟩
  | exhausted => exact absurd rfl h

theorem strictJsonStop_refuses (message : String) :
    ∃ reason, strictJsonStop message = .refuse reason ∧ reason ≠ .verified := by
  delta strictJsonStop
  split
  · exact ⟨_, rfl, by decide⟩
  · exact ⟨_, rfl, by decide⟩

theorem quiet_readEnvelope (bytes : Bytes) : Quiet (readEnvelope R bytes) := by
  refine quiet_bind (quiet_mapError fun e he => structureStop_refuses ?_) fun _ _ =>
    quiet_bind (quiet_mapError fun message _ => strictJsonStop_refuses message) fun _ _ =>
      quiet_bind (quiet_mapError fun _ _ => ⟨_, rfl, by decide⟩) fun _ _ =>
        quiet_bind (quiet_mapError fun e he =>
          structureStop_refuses (validateRawEnvelopeShape_error he)) fun _ _ =>
            quiet_bind (quiet_require rfl) fun _ _ =>
              quiet_mapError fun _ _ => ⟨_, rfl, by decide⟩
  rintro rfl
  exact preflight_terminates envelopePreflight bytes he

/-! ## Building a decision -/

/-- A provenance that passes the validators of the decision. -/
structure ProvenanceValid (provenance : VerificationProvenance) : Prop where
  payloadType : ∀ value ∈ provenance.expectedPayloadType, VisibleAscii maxPayloadTypeLength value
  policyId : ∀ value ∈ provenance.policyId, VisibleAscii 256 value
  admissionTime : ∀ value ∈ provenance.admissionTime, TimestampSafe value

/-- What the verifier's caller learns of a decision: the verdict and the signers. -/
structure Verdict where
  verified : Bool
  keyIds : List Text
  identities : List Text

def AttestationVerification.verdict (decision : AttestationVerification) : Verdict where
  verified := decision.verified
  keyIds := decision.acceptedKeyIds
  identities := decision.acceptedIdentities

/-- The verdict of a failed decision. -/
def Verdict.denied : Verdict := ⟨false, [], []⟩

theorem sortedSet_nil : sortedSet [] = [] := by
  rw [sortedSet, List.dedup_nil, List.mergeSort_nil]

theorem failed_returns (reason : AttestationReason) {threshold : Option Int}
    (hreason : reason ≠ .verified) (hthreshold : ∀ t ∈ threshold, 1 ≤ t ∧ t ≤ maxTrustedKeys)
    (hprovenance : ProvenanceValid provenance) :
    ∃ decision, failed reason threshold provenance = .ok decision
      ∧ decision.verdict = Verdict.denied := by
  obtain ⟨htype, hpolicy, htime⟩ := hprovenance
  let decision : AttestationVerification := { provenance with
    verified := false, reasonCode := reason, thresholdRequired := threshold }
  refine ⟨decision, ?_, rfl⟩
  · rw [failed, AttestationVerification.build, require_pos hthreshold, ok_bind, require_pos htype,
      ok_bind, require_pos hpolicy, ok_bind, require_pos htime, ok_bind,
      AttestationVerification.decisionIsCoherent, require_pos sortedSet_nil.symm, ok_bind,
      require_pos sortedSet_nil.symm, ok_bind, if_neg Bool.false_ne_true, require_pos hreason, ok_bind,
      require_pos ⟨rfl, rfl⟩, ok_bind]
    rfl

/-- A set that was sorted is sorted, and has no entry twice. -/
theorem sortedSet_sorted {values : List Text} (h : values.Nodup) :
    sortedSet (values.mergeSort textLe) = values.mergeSort textLe := by
  have hnodup : (values.mergeSort textLe).Nodup := (List.mergeSort_perm values _).nodup_iff.mpr h
  rw [sortedSet, hnodup.dedup]
  exact text_order.sort_sorted values

theorem verified_returns {threshold : Int} {keyIds identities : List Text}
    (hthreshold : 1 ≤ threshold ∧ threshold ≤ maxTrustedKeys)
    (hprovenance : ProvenanceValid provenance)
    (hcomplete : provenance.rawEnvelopeSha256.isSome ∧ provenance.expectedPayloadSha256.isSome
      ∧ provenance.expectedPayloadType.isSome ∧ provenance.trustPolicySha256.isSome
      ∧ provenance.policyId.isSome ∧ provenance.admissionTime.isSome)
    (hids : keyIds.Nodup) (hidentities : identities.Nodup) (hmet : threshold ≤ identities.length)
    (hlength : keyIds.length = identities.length) :
    ∃ decision, verified threshold keyIds identities provenance = .ok decision
      ∧ decision.verdict
        = ⟨true, keyIds.mergeSort textLe, identities.mergeSort textLe⟩ := by
  obtain ⟨htype, hpolicy, htime⟩ := hprovenance
  have hbounds : ∀ t ∈ some threshold, 1 ≤ t ∧ t ≤ maxTrustedKeys := by
    intro t ht
    obtain rfl := Option.some.inj ht
    exact hthreshold
  have hmet' : threshold ≤ ((identities.mergeSort textLe).length : Int) := by
    rw [List.length_mergeSort]
    exact hmet
  have hlength' : (keyIds.mergeSort textLe).length = (identities.mergeSort textLe).length := by
    rw [List.length_mergeSort, List.length_mergeSort]
    exact hlength
  let decision : AttestationVerification := { provenance with
    verified := true, reasonCode := .verified, thresholdRequired := some threshold
    acceptedKeyIds := keyIds.mergeSort textLe, acceptedIdentities := identities.mergeSort textLe }
  refine ⟨decision, ?_, rfl⟩
  · rw [verified, AttestationVerification.build, require_pos hbounds, ok_bind, require_pos htype,
      ok_bind, require_pos hpolicy, ok_bind, require_pos htime, ok_bind,
      AttestationVerification.decisionIsCoherent, require_pos (sortedSet_sorted hids).symm, ok_bind,
      require_pos (sortedSet_sorted hidentities).symm, ok_bind, if_pos rfl, require_pos rfl, ok_bind,
      expect, ok_bind, require_pos hcomplete, ok_bind, require_pos hmet', ok_bind,
      require_pos hlength', ok_bind]
    rfl

/-! ## The rule over the inputs -/

/-- The bytes parse as an envelope that meets the rule. -/
def RuleHolds (R : AttestationRuntime) (bytes : Bytes) (policy : TrustPolicy) (payloadType : Text)
    (payload : Bytes) (instant : Int) : Prop :=
  ∃ envelope, parseDsseEnvelope R.toJsonRuntime bytes = .ok envelope
    ∧ QuorumMet R policy envelope payloadType payload instant

/-- The verdict is that of the rule: the signers, or nobody. -/
def Judged (R : AttestationRuntime) (bytes : Bytes) (policy : TrustPolicy) (payloadType : Text)
    (payload : Bytes) (t : AdmissionTime) (verdict : Verdict) : Prop :=
  (verdict = Verdict.denied ∧ ¬(policy.Fits ∧ (canonicalAdmissionTime t).isSome
      ∧ RuleHolds R bytes policy payloadType payload t.instant))
    ∨ ((policy.Fits ∧ (canonicalAdmissionTime t).isSome)
      ∧ ∃ envelope keys, parseDsseEnvelope R.toJsonRuntime bytes = .ok envelope
        ∧ QuorumMet R policy envelope payloadType payload t.instant
        ∧ List.Forall₂ (KeyOf policy) envelope.signatures keys
        ∧ verdict = ⟨true, (envelope.signatures.map (·.keyid)).mergeSort textLe,
            (keys.map (·.identity)).mergeSort textLe⟩)

theorem judge_judged (hsize : bytes.length ≤ maxEnvelopeBytes) (hfits : policy.Fits)
    {admittedAt : DateTime} (hadmitted : canonicalAdmissionTime t = some admittedAt)
    (hprovenance : ProvenanceValid provenance)
    (hcomplete : provenance.rawEnvelopeSha256.isSome ∧ provenance.expectedPayloadSha256.isSome
      ∧ provenance.expectedPayloadType.isSome ∧ provenance.trustPolicySha256.isSome
      ∧ provenance.policyId.isSome ∧ provenance.admissionTime.isSome) :
    ∃ decision, conclude policy.threshold provenance
        (judge R policy bytes payloadType payload admittedAt) = .ok decision
      ∧ Judged R bytes policy payloadType payload t decision.verdict := by
  have hinstant : (admittedAt.microseconds : Int) = t.instant :=
    canonicalAdmissionTime_instant hadmitted
  have hsome : (canonicalAdmissionTime t).isSome = true := by
    rw [hadmitted]
    rfl
  have haccepts : ∀ accepted, judge R policy bytes payloadType payload admittedAt = .ok accepted
      ↔ ∃ envelope, parseDsseEnvelope R.toJsonRuntime bytes = .ok envelope
        ∧ QuorumMet R policy envelope payloadType payload t.instant
        ∧ ∃ keys, List.Forall₂ (KeyOf policy) envelope.signatures keys
          ∧ (keys.map (·.identity)).Nodup ∧ accepted = collect {} keys := by
    intro accepted
    simp only [judge, bind_eq_ok, readEnvelope_ok hsize, acceptSigners_ok, hinstant]
  have hquiet : Quiet (judge R policy bytes payloadType payload admittedAt) :=
    quiet_bind (quiet_readEnvelope bytes) fun envelope _ => quiet_acceptSigners _ _ _ _ _
  cases hjudge : judge R policy bytes payloadType payload admittedAt with
  | ok accepted =>
    obtain ⟨envelope, hparse, hmet, keys, hof, hidentities, rfl⟩ := (haccepts accepted).mp hjudge
    have hids : (keys.map (·.keyId)).Nodup := by
      rw [keyIds_eq hof]
      exact hmet.keyIdsDistinct
    obtain ⟨hpermIds, hpermIdentities⟩ := collect_perm hids hidentities
    have hthreshold : policy.threshold ≤ (collect {} keys).identities.length := by
      rw [hpermIdentities.length_eq, List.length_map, ← hof.length_eq]
      exact hmet.threshold
    obtain ⟨decision, hdecision, hverdict⟩ := verified_returns policy.thresholdBounds hprovenance
      hcomplete (hpermIds.nodup_iff.mpr hids) (hpermIdentities.nodup_iff.mpr hidentities)
      hthreshold (by rw [hpermIds.length_eq, hpermIdentities.length_eq, List.length_map,
        List.length_map])
    refine ⟨decision, hdecision, .inr ⟨⟨hfits, hsome⟩, envelope, keys, hparse, hmet, hof, ?_⟩⟩
    rw [hverdict, text_order.sort_perm hpermIds, text_order.sort_perm hpermIdentities,
      keyIds_eq hof]
  | error stop =>
    obtain ⟨reason, rfl, hreason⟩ := hquiet stop hjudge
    have hbounds : ∀ threshold ∈ some policy.threshold, 1 ≤ threshold
        ∧ threshold ≤ maxTrustedKeys := by
      intro threshold hthreshold
      obtain rfl := Option.some.inj hthreshold
      exact policy.thresholdBounds
    obtain ⟨decision, hdecision, hverdict⟩ := failed_returns reason hreason hbounds hprovenance
    refine ⟨decision, hdecision, .inl ⟨hverdict, ?_⟩⟩
    rintro ⟨_, _, envelope, hparse, hmet⟩
    obtain ⟨message, keys, _, hof, _, _, hidentities⟩ := hmet.keys
    have hok := (haccepts (collect {} keys)).mpr
      ⟨envelope, hparse, hmet, keys, hof, hidentities, rfl⟩
    rw [hjudge] at hok
    cases hok

theorem formatCanonicalTimestamp_safe (d : DateTime) :
    TimestampSafe (formatCanonicalTimestamp d) :=
  isOk_iff.mpr ⟨d, parse_formatCanonicalTimestamp d⟩

theorem forall_mem_none {p : Text → Prop} : ∀ value ∈ (none : Option Text), p value :=
  fun _ h => nomatch h

theorem forall_mem_some {p : Text → Prop} {value : Text} (h : p value) :
    ∀ other ∈ some value, p other := by
  intro other hother
  obtain rfl := Option.some.inj hother
  exact h

/-- A refusal before the policy is read, where the rule does not hold. -/
theorem failed_early (reason : AttestationReason) (hreason : reason ≠ .verified)
    {threshold : Option Int} (hthreshold : ∀ n ∈ threshold, 1 ≤ n ∧ n ≤ maxTrustedKeys)
    (hprovenance : ProvenanceValid provenance)
    (hrule : ¬(policy.Fits ∧ (canonicalAdmissionTime t).isSome
      ∧ RuleHolds R bytes policy payloadType payload t.instant)) :
    ∃ decision, failed reason threshold provenance = .ok decision
      ∧ Judged R bytes policy payloadType payload t decision.verdict := by
  obtain ⟨decision, hdecision, hverdict⟩ := failed_returns reason hreason hthreshold hprovenance
  exact ⟨decision, hdecision, .inl ⟨hverdict, hrule⟩⟩

/-- Verification returns, and its verdict is that of the rule. -/
theorem verify_judged (hR : R.toCanonicalRuntime.DumpsCanonically) (bytes : Bytes)
    (policy : TrustPolicy) (payloadType : Text) (payload : Bytes) (t : AdmissionTime) :
    ∃ decision, verifyDsseAttestation R bytes policy payloadType payload t = .ok decision
      ∧ Judged R bytes policy payloadType payload t decision.verdict := by
  have hnone : ∀ n ∈ (none : Option Int), 1 ≤ n ∧ n ≤ maxTrustedKeys := fun _ h => nomatch h
  have hthreshold : ∀ n ∈ some policy.threshold, 1 ≤ n ∧ n ≤ maxTrustedKeys := by
    intro n hn
    obtain rfl := Option.some.inj hn
    exact policy.thresholdBounds
  rw [verifyDsseAttestation]
  by_cases hsize : maxEnvelopeBytes < bytes.length
  · rw [if_pos hsize]
    refine failed_early _ (by decide) hnone ⟨forall_mem_none, forall_mem_none, forall_mem_none⟩ ?_
    rintro ⟨_, _, envelope, hparse, _⟩
    simp only [parseDsseEnvelope, bind_eq_ok, require_eq_ok] at hparse
    obtain ⟨_, hsmall, _⟩ := hparse
    omega
  rw [if_neg hsize]
  by_cases htype : VisibleAscii maxPayloadTypeLength payloadType
  swap
  · rw [if_pos htype]
    refine failed_early _ (by decide) hnone ⟨forall_mem_none, forall_mem_none, forall_mem_none⟩ ?_
    rintro ⟨_, _, envelope, _, hmet⟩
    exact htype (hmet.typeExpected ▸ envelope.payloadTypeSafe)
  rw [if_neg (not_not.mpr htype)]
  by_cases hpayload : maxDecodedPayloadBytes < payload.length
  · rw [if_pos hpayload]
    refine failed_early _ (by decide) hnone ⟨forall_mem_none, forall_mem_none, forall_mem_none⟩ ?_
    rintro ⟨_, _, envelope, _, hmet⟩
    obtain ⟨decoded, hdecoded, hbounded⟩ := envelope.payloadBytes_ok
    obtain rfl := Except.ok.inj (hdecoded.symm.trans hmet.payloadExpected)
    omega
  rw [if_neg hpayload, revalidateProgrammaticPolicy_eq hR]
  by_cases hfits : policy.Fits
  swap
  · rw [if_neg hfits]
    refine failed_early _ (by decide) hnone
      ⟨forall_mem_some htype, forall_mem_none, forall_mem_none⟩ fun hrule => hfits hrule.1
  rw [if_pos hfits]
  simp only [canonicalBytes_eq hR, require_pos hfits, ok_bind, pure_bind]
  cases hadmitted : canonicalAdmissionTime t with
  | none =>
    refine failed_early _ (by decide) hthreshold
      ⟨forall_mem_some htype, forall_mem_some policy.policyIdSafe, forall_mem_none⟩ fun hrule => ?_
    rw [hadmitted] at hrule
    exact Bool.false_ne_true hrule.2.1
  | some admittedAt =>
    exact judge_judged (by omega) hfits hadmitted ⟨forall_mem_some htype,
      forall_mem_some policy.policyIdSafe, forall_mem_some (formatCanonicalTimestamp_safe admittedAt)⟩
      ⟨rfl, rfl, rfl, rfl, rfl, rfl⟩

/-! ## Orders that do not matter -/

/-- The same policy, its keys in another order. -/
structure SameUpToOrder (policy policy' : TrustPolicy) : Prop where
  policyId : policy.policyId = policy'.policyId
  threshold : policy.threshold = policy'.threshold
  trustedKeys : policy.trustedKeys.Perm policy'.trustedKeys

/-- The order of the keys does not change whether a policy fits. -/
theorem SameUpToOrder.fits (h : SameUpToOrder policy policy') :
    policy.Fits ↔ policy'.Fits := by
  have hkeys := list_length (h.trustedKeys.map TrustedKey.modelDump)
  have hlength : (utf8Text (rfc8785 policy.modelDump)).length
      = (utf8Text (rfc8785 policy'.modelDump)).length := by
    rw [TrustPolicy.modelDump, TrustPolicy.modelDump, dict_length, dict_length]
    simp only [memberTexts, List.map_cons, List.map_nil, List.sum_cons, List.sum_nil,
      utf8Text_append, List.length_append, List.length_cons, List.length_nil, hkeys,
      policy.mediaTypeLiteral, policy'.mediaTypeLiteral, policy.schemaVersionLiteral,
      policy'.schemaVersionLiteral, h.policyId, h.threshold]
  rw [TrustPolicy.Fits, TrustPolicy.Fits, hlength]

/-- Envelopes that differ by the order of their signatures. -/
structure Reordered (envelope envelope' : DsseEnvelope) : Prop where
  payloadType : envelope.payloadType = envelope'.payloadType
  payload : envelope.payload = envelope'.payload
  signatures : envelope.signatures.Perm envelope'.signatures

/-- The rule does not depend on either order. -/
theorem QuorumMet.reordered (hpolicy : SameUpToOrder policy policy')
    {envelope' : DsseEnvelope} (henvelope : Reordered envelope envelope') {instant : Int}
    (h : QuorumMet R policy envelope payloadType payload instant) :
    QuorumMet R policy' envelope' payloadType payload instant := by
  have hkey : ∀ {key}, key ∈ policy'.trustedKeys → key ∈ policy.trustedKeys :=
    hpolicy.trustedKeys.mem_iff.mpr
  have hsignature : ∀ {s}, s ∈ envelope'.signatures → s ∈ envelope.signatures :=
    henvelope.signatures.mem_iff.mpr
  obtain ⟨message, hmessage, hsigned⟩ := h.signed
  refine ⟨henvelope.payloadType ▸ h.typeExpected, ?_,
    (henvelope.signatures.map _).nodup_iff.mp h.keyIdsDistinct,
    ⟨message, hmessage, fun s hs => ?_⟩, ?_, ?_⟩
  · rw [DsseEnvelope.payloadBytes, ← henvelope.payload]
    exact h.payloadExpected
  · obtain ⟨key, hmem, hrest⟩ := hsigned s (hsignature hs)
    exact ⟨key, hpolicy.trustedKeys.mem_iff.mp hmem, hrest⟩
  · intro s hs s' hs' key hk key' hk'
    exact h.identitiesDistinct s (hsignature hs) s' (hsignature hs') key (hkey hk) key' (hkey hk')
  · rw [← hpolicy.threshold, ← henvelope.signatures.length_eq]
    exact h.threshold

theorem SameUpToOrder.symm (h : SameUpToOrder policy policy') :
    SameUpToOrder policy' policy := ⟨h.policyId.symm, h.threshold.symm, h.trustedKeys.symm⟩

theorem Reordered.symm {envelope' : DsseEnvelope} (h : Reordered envelope envelope') :
    Reordered envelope' envelope := ⟨h.payloadType.symm, h.payload.symm, h.signatures.symm⟩

theorem Reordered.refl (envelope : DsseEnvelope) : Reordered envelope envelope :=
  ⟨rfl, rfl, List.Perm.refl _⟩

theorem SameUpToOrder.refl (policy : TrustPolicy) : SameUpToOrder policy policy :=
  ⟨rfl, rfl, List.Perm.refl _⟩

/-- The keys of reordered signatures are the same keys, reordered. -/
theorem keys_perm (hpolicy : SameUpToOrder policy policy')
    {signatures signatures' : List DsseSignature} (h : signatures.Perm signatures') :
    ∀ {keys keys' : List TrustedKey}, List.Forall₂ (KeyOf policy) signatures keys →
      List.Forall₂ (KeyOf policy') signatures' keys' → keys.Perm keys' := by
  have hkeyOf : ∀ {signatures keys}, List.Forall₂ (KeyOf policy) signatures keys →
      List.Forall₂ (KeyOf policy') signatures keys := fun hall =>
    hall.imp fun _ _ hkey => ⟨hpolicy.trustedKeys.mem_iff.mp hkey.1, hkey.2⟩
  intro keys keys' hof hof'
  have hlookup : ∀ {signatures : List DsseSignature} {keys : List TrustedKey},
      List.Forall₂ (KeyOf policy') signatures keys →
        keys = signatures.filterMap fun s =>
          policy'.trustedKeys.find? fun key => key.keyId = s.keyid := by
    intro signatures keys hall
    induction hall with
    | nil => rfl
    | cons hkey _ ih => rw [List.filterMap_cons, (find_key policy').mpr hkey, ← ih]
  rw [hlookup (hkeyOf hof), hlookup hof']
  exact h.filterMap _

/-- The verdicts of two verifications whose inputs differ by orders only. -/
theorem Judged.reordered {bytes' : Bytes} (hpolicy : SameUpToOrder policy policy')
    (hbytes : ∀ envelope, parseDsseEnvelope R.toJsonRuntime bytes = .ok envelope →
      ∃ envelope', parseDsseEnvelope R.toJsonRuntime bytes' = .ok envelope'
        ∧ Reordered envelope envelope')
    (hbytes' : ∀ envelope', parseDsseEnvelope R.toJsonRuntime bytes' = .ok envelope' →
      ∃ envelope, parseDsseEnvelope R.toJsonRuntime bytes = .ok envelope
        ∧ Reordered envelope envelope')
    {verdict verdict' : Verdict} (h : Judged R bytes policy payloadType payload t verdict)
    (h' : Judged R bytes' policy' payloadType payload t verdict') : verdict = verdict' := by
  have hrule : RuleHolds R bytes policy payloadType payload t.instant
      ↔ RuleHolds R bytes' policy' payloadType payload t.instant := by
    constructor
    · rintro ⟨envelope, hparse, hmet⟩
      obtain ⟨envelope', hparse', hsame⟩ := hbytes envelope hparse
      exact ⟨envelope', hparse', hmet.reordered hpolicy hsame⟩
    · rintro ⟨envelope', hparse', hmet⟩
      obtain ⟨envelope, hparse, hsame⟩ := hbytes' envelope' hparse'
      exact ⟨envelope, hparse, hmet.reordered hpolicy.symm hsame.symm⟩
  rcases h with ⟨rfl, hnot⟩ | ⟨⟨hfits, htime⟩, envelope, keys, hparse, hmet, hof, rfl⟩
  · rcases h' with ⟨rfl, _⟩ | ⟨⟨hfits', htime'⟩, envelope', _, hparse', hmet', _⟩
    · rfl
    · exact absurd ⟨hpolicy.fits.mpr hfits', htime', hrule.mpr ⟨envelope', hparse', hmet'⟩⟩ hnot
  · rcases h' with ⟨rfl, hnot'⟩ | ⟨_, envelope', keys', hparse', _, hof', rfl⟩
    · exact absurd ⟨hpolicy.fits.mp hfits, htime, hrule.mp ⟨envelope, hparse, hmet⟩⟩ hnot'
    · obtain ⟨other, hother, hsame⟩ := hbytes envelope hparse
      obtain rfl := Except.ok.inj (hparse'.symm.trans hother)
      have hkeys := keys_perm hpolicy hsame.signatures hof hof'
      rw [text_order.sort_perm (hsame.signatures.map _), text_order.sort_perm (hkeys.map _)]

/-- The instant of an admission is in one of the years of the calendar. -/
def AdmissionTime.InCalendar (t : AdmissionTime) : Prop :=
  86400000000 ≤ t.instant ∧ t.instant < 3652060 * 86400000000

theorem canonicalAdmissionTime_isSome (t : AdmissionTime) :
    (canonicalAdmissionTime t).isSome = true ↔ t.InCalendar := by
  rw [canonicalAdmissionTime, DateTime.ofMicroseconds_isSome, AdmissionTime.InCalendar]
  omega

/-- Verification always returns. It verifies exactly when the rule holds of what the bytes parse as,
the canonical form of the policy fits and the admission is in the calendar; the accepted signers are
those of the signatures; and neither the order of the keys nor that of the signatures matters. -/
theorem dsse_decision (hR : R.toCanonicalRuntime.DumpsCanonically) (bytes : Bytes)
    (policy : TrustPolicy) (payloadType : Text) (payload : Bytes) (t : AdmissionTime) :
    ∃ decision, verifyDsseAttestation R bytes policy payloadType payload t = .ok decision
      ∧ (decision.verified = true ↔ policy.Fits ∧ t.InCalendar
        ∧ RuleHolds R bytes policy payloadType payload t.instant)
      ∧ (decision.verified = true →
        ∀ envelope, parseDsseEnvelope R.toJsonRuntime bytes = .ok envelope →
          ∃ keys, List.Forall₂ (KeyOf policy) envelope.signatures keys
            ∧ decision.acceptedKeyIds = (envelope.signatures.map (·.keyid)).mergeSort textLe
            ∧ decision.acceptedIdentities = (keys.map (·.identity)).mergeSort textLe)
      ∧ (∀ policy', SameUpToOrder policy policy' → ∃ decision',
        verifyDsseAttestation R bytes policy' payloadType payload t = .ok decision'
          ∧ decision'.verdict = decision.verdict)
      ∧ ∀ bytes' envelope envelope', parseDsseEnvelope R.toJsonRuntime bytes = .ok envelope →
        parseDsseEnvelope R.toJsonRuntime bytes' = .ok envelope' → Reordered envelope envelope' →
        ∃ decision', verifyDsseAttestation R bytes' policy payloadType payload t = .ok decision'
          ∧ decision'.verdict = decision.verdict := by
  obtain ⟨decision, hdecision, hjudged⟩ := verify_judged hR bytes policy payloadType payload t
  refine ⟨decision, hdecision, ?_, ?_, ?_, ?_⟩
  · rw [← canonicalAdmissionTime_isSome]
    rcases hjudged with ⟨hdenied, hnot⟩ | ⟨⟨hfits, htime⟩, envelope, keys, hparse, hmet, _, hverdict⟩
    · have hfalse : decision.verified = false := congrArg Verdict.verified hdenied
      rw [hfalse]
      exact ⟨fun h => absurd h Bool.false_ne_true, fun h => absurd h hnot⟩
    · have htrue : decision.verified = true := congrArg Verdict.verified hverdict
      exact ⟨fun _ => ⟨hfits, htime, envelope, hparse, hmet⟩, fun _ => htrue⟩
  · intro hverified envelope hparse
    rcases hjudged with ⟨hdenied, _⟩ | ⟨_, other, keys, hother, _, hof, hverdict⟩
    · have hfalse : decision.verified = false := congrArg Verdict.verified hdenied
      rw [hfalse] at hverified
      cases hverified
    · obtain rfl := Except.ok.inj (hparse.symm.trans hother)
      exact ⟨keys, hof, congrArg Verdict.keyIds hverdict, congrArg Verdict.identities hverdict⟩
  · intro policy' hpolicy
    obtain ⟨decision', hdecision', hjudged'⟩ :=
      verify_judged hR bytes policy' payloadType payload t
    refine ⟨decision', hdecision', (hjudged.reordered hpolicy ?_ ?_ hjudged').symm⟩
    · exact fun envelope hparse => ⟨envelope, hparse, Reordered.refl envelope⟩
    · exact fun envelope hparse => ⟨envelope, hparse, Reordered.refl envelope⟩
  · intro bytes' envelope envelope' hparse hparse' hsame
    obtain ⟨decision', hdecision', hjudged'⟩ :=
      verify_judged hR bytes' policy payloadType payload t
    refine ⟨decision', hdecision',
      (hjudged.reordered (SameUpToOrder.refl policy) ?_ ?_ hjudged').symm⟩
    · intro other hother
      obtain rfl := Except.ok.inj (hparse.symm.trans hother)
      exact ⟨envelope', hparse', hsame⟩
    · intro other hother
      obtain rfl := Except.ok.inj (hparse'.symm.trans hother)
      exact ⟨envelope, hparse, hsame⟩

/-! An envelope with one signature, its policy, and a clock ahead of the calendar. -/

/-- `DSSEEnvelope.model_dump`, by alias. -/
def DsseEnvelope.modelDump (envelope : DsseEnvelope) : JsonValue :=
  .dict [(text "payloadType", .string envelope.payloadType),
    (text "payload", .string envelope.payload),
    (text "signatures", .list (envelope.signatures.map fun signature =>
      .dict [(text "keyid", .string signature.keyid), (text "sig", .string signature.sig)]))]

/-- An envelope is read back from its document. -/
theorem DsseEnvelope.modelValidate_modelDump (envelope : DsseEnvelope) :
    DsseEnvelope.modelValidate envelope.modelDump = .ok envelope := by
  have hsignatures : ∀ signatures : List DsseSignature, (signatures.map fun signature =>
      JsonValue.dict [(text "keyid", .string signature.keyid),
        (text "sig", .string signature.sig)]).mapM DsseSignature.modelValidate
      = .ok signatures := by
    intro signatures
    induction signatures with
    | nil => rfl
    | cons signature signatures ih =>
      have hextra : forbidExtra signatureFields [(text "keyid", .string signature.keyid),
          (text "sig", .string signature.sig)] = .ok () := by
        refine require_pos fun entry hentry => ?_
        rw [signatureFields]
        simpa using List.mem_map_of_mem (f := (·.1)) hentry
      rw [List.map_cons, List.mapM_cons, DsseSignature.modelValidate, asDict, ok_bind, hextra,
        ok_bind, field_ok rfl, ok_bind, asString_string, ok_bind, field_ok rfl, ok_bind,
        asString_string, ok_bind, ensure_eq_ok signature.keyidSafe, ok_bind,
        ensure_eq_ok signature.sigSafe, ok_bind, ih]
      rfl
  have hextra : forbidExtra envelopeFields [(text "payloadType", .string envelope.payloadType),
      (text "payload", .string envelope.payload),
      (text "signatures", .list (envelope.signatures.map fun signature =>
        .dict [(text "keyid", .string signature.keyid), (text "sig", .string signature.sig)]))]
      = .ok () := by
    refine require_pos fun entry hentry => ?_
    rw [envelopeFields]
    simpa using List.mem_map_of_mem (f := (·.1)) hentry
  rw [DsseEnvelope.modelDump, DsseEnvelope.modelValidate, asDict, ok_bind, hextra, ok_bind,
    field_ok rfl, ok_bind, asString_string, ok_bind, field_ok rfl, ok_bind, asString_string, ok_bind,
    field_ok rfl, ok_bind, asList, ok_bind, hsignatures, ok_bind,
    ensure_eq_ok envelope.payloadTypeSafe, ok_bind, ensure_eq_ok envelope.payloadSafe, ok_bind,
    ensure_eq_ok envelope.signaturesBounded, ok_bind]
  rfl

/-- A text that `json.loads` knows is loaded, within the limits. -/
theorem strictJsonLoads_utf8 {J : JsonRuntime} {limits : JsonLimits} {chars : List Char}
    {document : JsonValue} (hlength : (utf8 chars).length ≤ limits.maxBytes)
    (hbom : (utf8 chars).take 3 ≠ [0xEF, 0xBB, 0xBF]) (hfound : J.loads chars = .ok document)
    (hvalid : validateTree J limits 0 document = .ok ()) :
    strictJsonLoads J limits (utf8 chars) = .ok document := by
  rw [strictJsonLoads, require_pos hlength, ok_bind, require_pos hbom, ok_bind, decodeUtf8_utf8,
    expect, ok_bind, hfound, ok_bind, hvalid]
  rfl

/-- The document of an envelope is parsed. -/
theorem parseDsseEnvelope_utf8 {J : JsonRuntime} {chars : List Char} {members : Members}
    (hlength : (utf8 chars).length ≤ maxEnvelopeBytes)
    (hbom : (utf8 chars).take 3 ≠ [0xEF, 0xBB, 0xBF])
    (hpreflight : preflightJsonStructure envelopePreflight (utf8 chars) = .ok ())
    (hfound : J.loads chars = .ok envelope.modelDump)
    (hvalid : validateTree J envelopeJsonLimits 0 envelope.modelDump = .ok ())
    (hmembers : envelope.modelDump = .dict members)
    (hshape : validateRawEnvelopeShape members = .ok ()) :
    parseDsseEnvelope J (utf8 chars) = .ok envelope := by
  rw [parseDsseEnvelope, require_pos hlength, ok_bind, hpreflight, ok_bind]
  simp only [envelopeDocument, bind_eq_ok, mapError_eq_ok]
  exact ⟨_, strictJsonLoads_utf8 hlength hbom hfound hvalid, members, by rw [hmembers]; rfl, (),
    hshape, envelope.modelValidate_modelDump⟩

def exampleSignature : DsseSignature where
  keyid := text "k"
  sig := List.replicate 86 'A'.toNat ++ text "=="
  keyidSafe := by decide
  sigSafe := by decide

def exampleSignedEnvelope : DsseEnvelope where
  payloadType := text "a"
  payload := []
  signatures := [exampleSignature]
  payloadTypeSafe := by decide
  payloadSafe := by decide
  signaturesBounded := by decide

def exampleSignedText : List Char :=
  "\x7b\"payloadType\":\"a\",\"payload\":\"\",\"signatures\":[\x7b\"keyid\":\"k\",\"sig\":\"".toList
    ++ List.replicate 86 'A' ++ "==\"\x7d]\x7d".toList

def exampleTrustedKey : TrustedKey where
  keyId := text "k"
  identity := text "i"
  algorithm := text "ed25519"
  publicKey := List.replicate 43 'A'.toNat ++ text "="
  allowedPayloadTypes := [text "a"]
  validFrom := text "2000-01-01T00:00:00.000000Z"
  validUntil := none
  status := .active
  revocationEffectiveAt := none
  keyIdSafe := by decide
  identitySafe := by decide
  algorithmSafe := rfl
  publicKeySafe := by decide
  payloadTypesExplicit := by decide
  timestampsCanonical := by decide
  windowCoherent := by decide

def exampleTrustPolicy : TrustPolicy where
  mediaType := trustPolicyMediaType
  schemaVersion := trustPolicySchemaVersion
  policyId := text "p"
  threshold := 1
  trustedKeys := [exampleTrustedKey]
  mediaTypeLiteral := rfl
  schemaVersionLiteral := rfl
  policyIdSafe := by decide
  thresholdBounds := by decide
  keysBounded := by decide
  keyMaterialUnambiguous := by decide

/-- A runtime that knows one text, and under which every signature verifies. -/
def exampleAttestationRuntime : AttestationRuntime where
  loads chars := if chars = exampleSignedText then .ok exampleSignedEnvelope.modelDump
    else .error "Expecting value"
  parseFloat _ := true
  checkFloat _ := .ok ()
  dump value := .ok (utf8Text (rfc8785 value))
  sha256 bytes := BitVec.ofNat 256 bytes.length
  acceptsPublicKey _ := true
  verifies _ _ _ := true

theorem exampleAttestationRuntime_dumps :
    exampleAttestationRuntime.toCanonicalRuntime.DumpsCanonically := fun _ _ _ _ => rfl

theorem exampleSignedText_computed :
    (utf8 exampleSignedText).length ≤ maxEnvelopeBytes
    ∧ (utf8 exampleSignedText).take 3 ≠ [0xEF, 0xBB, 0xBF]
    ∧ preflightJsonStructure envelopePreflight (utf8 exampleSignedText) = .ok ()
    ∧ validateTree exampleAttestationRuntime.toJsonRuntime envelopeJsonLimits 0
        exampleSignedEnvelope.modelDump = .ok () := by
  decide +kernel

theorem exampleSignedText_parses : parseDsseEnvelope exampleAttestationRuntime.toJsonRuntime
    (utf8 exampleSignedText) = .ok exampleSignedEnvelope := by
  obtain ⟨hlength, hbom, hpreflight, hvalid⟩ := exampleSignedText_computed
  have hfound : exampleAttestationRuntime.loads exampleSignedText
      = .ok exampleSignedEnvelope.modelDump := by
    simp only [exampleAttestationRuntime, eq_self, if_true]
  exact parseDsseEnvelope_utf8 hlength hbom hpreflight hfound hvalid rfl (by decide)

/-- The rule holds of the example at every instant from the start of its key's validity. -/
theorem example_rule {instant : Int} (h : 63082368000000000 ≤ instant) :
    RuleHolds exampleAttestationRuntime (utf8 exampleSignedText) exampleTrustPolicy (text "a") []
      instant := by
  refine ⟨exampleSignedEnvelope, exampleSignedText_parses, rfl, by decide, by decide,
    ⟨_, rfl, fun signature hsignature => ?_⟩, ?_, by decide⟩
  · obtain rfl := List.mem_singleton.mp hsignature
    obtain ⟨publicKeyBytes, hkey⟩ := exampleTrustedKey.publicKeyBytes_ok
    obtain ⟨signatureBytes, hbytes⟩ := exampleSignature.bytes_ok
    refine ⟨exampleTrustedKey, List.mem_singleton.mpr rfl, rfl,
      ⟨by decide, by decide, fun d hd => ?_, fun _ hv => (nomatch hv), fun _ hv => (nomatch hv)⟩,
      publicKeyBytes, signatureBytes, hkey, hbytes, rfl, rfl⟩
    have hopens : timestampPosition exampleTrustedKey.validFrom = .ok 63082368000000000 := by
      decide
    rw [timestampPosition, hd] at hopens
    rw [Except.ok.inj hopens]
    exact h
  · intro signature hsignature signature' hsignature' _ _ _ _ _ _ _
    rw [List.mem_singleton.mp hsignature, List.mem_singleton.mp hsignature']

theorem exampleTrustPolicy_fits : exampleTrustPolicy.Fits := by
  have hkey : (utf8Text (rfc8785 exampleTrustedKey.modelDump)).length = 252 := by
    rw [TrustedKey.modelDump, dict_length]
    decide
  have hkeys : (utf8Text (rfc8785 (.list [exampleTrustedKey.modelDump]))).length = 254 := by
    have hitem : commaSeparated (itemTexts [exampleTrustedKey.modelDump])
        = rfc8785 exampleTrustedKey.modelDump := by
      simp [itemTexts, commaSeparated]
    rw [rfc8785, hitem, utf8Text_append, utf8Text_append, List.length_append, List.length_append,
      hkey]
    decide
  rw [TrustPolicy.Fits, TrustPolicy.modelDump, dict_length]
  simp only [memberTexts, List.map_cons, List.map_nil, List.sum_cons, List.sum_nil,
    utf8Text_append, List.length_append, List.length_cons, List.length_nil]
  show _ + (_ + (_ + (_ + (_ + (utf8Text (rfc8785 (.list [exampleTrustedKey.modelDump]))).length
    + 0)))) + _ + 2 ≤ _
  rw [hkeys]
  decide

/-- 2001-01-01T00:00:00 in UTC. -/
def exampleAdmission : AdmissionTime where
  localTime := ⟨2001, 1, 1, 0, 0, 0, 0, by decide, by decide, by decide, by decide⟩
  offset := 0
  offsetValid := by decide

/-- 9999-12-31T23:59:59, one hour behind UTC. -/
def lateAdmission : AdmissionTime where
  localTime := ⟨9999, 12, 31, 23, 59, 59, 0, by decide, by decide, by decide, by decide⟩
  offset := -3600000000
  offsetValid := by decide

theorem dsse_decision_example : ∃ decision, verifyDsseAttestation exampleAttestationRuntime
    (utf8 exampleSignedText) exampleTrustPolicy (text "a") [] exampleAdmission = .ok decision
      ∧ decision.verified = true := by
  obtain ⟨decision, hdecision, hverified, _⟩ := dsse_decision exampleAttestationRuntime_dumps
    (utf8 exampleSignedText) exampleTrustPolicy (text "a") [] exampleAdmission
  exact ⟨decision, hdecision, hverified.mpr ⟨exampleTrustPolicy_fits,
    ⟨by decide, by decide⟩, example_rule (by decide)⟩⟩

/-- An admission whose instant is after year 9999 in UTC is refused, though the rule holds. -/
theorem late_admission_refused : ∃ decision, verifyDsseAttestation exampleAttestationRuntime
    (utf8 exampleSignedText) exampleTrustPolicy (text "a") [] lateAdmission = .ok decision
      ∧ ¬(decision.verified = true ↔ RuleHolds exampleAttestationRuntime (utf8 exampleSignedText)
        exampleTrustPolicy (text "a") [] lateAdmission.instant) := by
  obtain ⟨decision, hdecision, hjudged⟩ := verify_judged exampleAttestationRuntime_dumps
    (utf8 exampleSignedText) exampleTrustPolicy (text "a") [] lateAdmission
  have hnone : (canonicalAdmissionTime lateAdmission).isSome = false := by decide
  refine ⟨decision, hdecision, fun hiff => ?_⟩
  have hverified := hiff.mpr (example_rule (by decide))
  rcases hjudged with ⟨hdenied, _⟩ | ⟨⟨_, htime⟩, _⟩
  · have hfalse : decision.verified = false := congrArg Verdict.verified hdenied
    rw [hfalse] at hverified
    cases hverified
  · rw [hnone] at htime
    cases htime

end ControlAssurance.Attestation
