import ControlAssurance.Attestation.Decision
import ControlAssurance.Lib.Wire

/-!
# What a verified decision says

A decision that verified names the signers of its envelope under the policy's own keys, and the
bytes, policy and time that it was made for. Both directions are about the decision as a whole: what
its signers are whenever there is one, and which decision there is when the rule holds. The signed
bytes say what they sign: no two pairs of a type and a payload have one encoding.
-/

namespace ControlAssurance.Attestation

open Lib

variable {R : AttestationRuntime}

variable {decision : AttestationVerification} {policy : TrustPolicy} {payload : Bytes}
  {payloadType : Text}

/-- The validators of a decision change nothing. -/
theorem build_eq {built : AttestationVerification} (h : decision.build = .ok built) :
    built = decision := by
  simp only [AttestationVerification.build, bind_eq_ok, require_eq_ok, pure_eq_ok] at h
  obtain ⟨_, _, _, _, _, _, _, _, _, _, rfl⟩ := h
  rfl

theorem failed_denies {reason : AttestationReason} {threshold : Option Int}
    {provenance : VerificationProvenance}
    (h : failed reason threshold provenance = .ok decision) : decision.verified = false := by
  rw [build_eq h]

/-- A policy that has canonical bytes is revalidated as itself. -/
theorem revalidate_canonical {canonical : Bytes}
    (h : policy.canonicalBytes R.toCanonicalRuntime = .ok canonical) :
    revalidateProgrammaticPolicy R policy = some policy := by
  rw [revalidateProgrammaticPolicy, boundedProgrammaticPolicyPrimitive_eq, Option.bind_eq_bind,
    Option.bind_some, policy.modelValidate_modelDump, Option.bind_eq_bind]
  show ((policy.canonicalBytes R.toCanonicalRuntime).toOption.bind fun _ => some policy) = _
  rw [h]
  rfl

theorem revalidate_same {revalidated : TrustPolicy}
    (h : revalidateProgrammaticPolicy R policy = some revalidated) : revalidated = policy := by
  rw [revalidateProgrammaticPolicy, boundedProgrammaticPolicyPrimitive_eq, Option.bind_eq_bind,
    Option.bind_some, policy.modelValidate_modelDump, Option.bind_eq_bind] at h
  have hsome : ((policy.canonicalBytes R.toCanonicalRuntime).toOption.bind fun _ => some policy)
      = some revalidated := h
  rw [Option.bind_eq_some_iff] at hsome
  obtain ⟨_, _, hsame⟩ := hsome
  exact (Option.some.inj hsame).symm

/-- The signers of a verified decision: the keys of the policy that signed the envelope, each once. -/
theorem verified_signers {bytes : Bytes} {t : AdmissionTime}
    (h : verifyDsseAttestation R bytes policy payloadType payload t = .ok decision)
    (hverified : decision.verified = true) :
    ∃ envelope keys, parseDsseEnvelope R.toJsonRuntime bytes = .ok envelope
      ∧ (∃ instant, QuorumMet R policy envelope payloadType payload instant)
      ∧ List.Forall₂ (KeyOf policy) envelope.signatures keys
      ∧ (keys.map (·.keyId)).Nodup ∧ (keys.map (·.identity)).Nodup ∧ keys ≠ []
      ∧ decision.acceptedKeyIds = (keys.map (·.keyId)).mergeSort textLe
      ∧ decision.acceptedIdentities = (keys.map (·.identity)).mergeSort textLe := by
  have hdenied : ∀ {reason threshold provenance}, failed reason threshold provenance = .ok decision
      → False := by
    intro reason threshold provenance hfailed
    rw [failed_denies hfailed] at hverified
    cases hverified
  rw [verifyDsseAttestation] at h
  split at h
  · exact (hdenied h).elim
  next hsize =>
  split at h
  · exact (hdenied h).elim
  split at h
  · exact (hdenied h).elim
  dsimp only at h
  split at h
  · exact (hdenied h).elim
  next revalidated hrevalidated =>
  obtain rfl := revalidate_same hrevalidated
  obtain ⟨canonical, _, h⟩ := bind_eq_ok.mp h
  split at h
  · exact (hdenied h).elim
  next admittedAt _ =>
  cases hjudge : judge R revalidated bytes payloadType payload admittedAt with
  | error stop =>
    rw [hjudge] at h
    cases stop with
    | refuse reason => exact (hdenied h).elim
    | raise message => cases h
  | ok accepted =>
    rw [hjudge] at h
    have hdecision := build_eq h
    simp only [judge, bind_eq_ok, readEnvelope_ok (Nat.le_of_not_lt hsize), acceptSigners_ok]
      at hjudge
    obtain ⟨envelope, hparse, hmet, keys, hof, hidentities, rfl⟩ := hjudge
    have hids : (keys.map (·.keyId)).Nodup := by
      rw [keyIds_eq hof]
      exact hmet.keyIdsDistinct
    obtain ⟨hpermIds, hpermIdentities⟩ := collect_perm hids hidentities
    refine ⟨envelope, keys, hparse, ⟨_, hmet⟩, hof, hids, hidentities, ?_, ?_, ?_⟩
    · rintro rfl
      have hthreshold := hmet.threshold
      have hpositive := revalidated.thresholdBounds.1
      rw [hof.length_eq, List.length_nil] at hthreshold
      omega
    · rw [hdecision]
      exact text_order.sort_perm hpermIds
    · rw [hdecision]
      exact text_order.sort_perm hpermIdentities

/-- The decision on an envelope that meets the rule. -/
theorem verified_decision {bytes canonical : Bytes}
    {t : AdmissionTime} {admittedAt : DateTime} {envelope : DsseEnvelope}
    {keys : List TrustedKey} (hparse : parseDsseEnvelope R.toJsonRuntime bytes = .ok envelope)
    (hcanonical : policy.canonicalBytes R.toCanonicalRuntime = .ok canonical)
    (htime : canonicalAdmissionTime t = some admittedAt)
    (hmet : QuorumMet R policy envelope payloadType payload admittedAt.microseconds)
    (hof : List.Forall₂ (KeyOf policy) envelope.signatures keys)
    (hidentities : (keys.map (·.identity)).Nodup) :
    verifyDsseAttestation R bytes policy payloadType payload t = .ok
      { rawEnvelopeSha256 := some (R.sha256 bytes)
        expectedPayloadSha256 := some (R.sha256 payload)
        expectedPayloadType := some payloadType
        trustPolicySha256 := some (R.sha256 canonical)
        policyId := some policy.policyId
        admissionTime := some (formatCanonicalTimestamp admittedAt)
        verified := true
        reasonCode := .verified
        thresholdRequired := some policy.threshold
        acceptedKeyIds := (keys.map (·.keyId)).mergeSort textLe
        acceptedIdentities := (keys.map (·.identity)).mergeSort textLe } := by
  have hsize : bytes.length ≤ maxEnvelopeBytes := by
    simp only [parseDsseEnvelope, bind_eq_ok, require_eq_ok] at hparse
    obtain ⟨_, hsmall, _⟩ := hparse
    exact hsmall
  have htype : VisibleAscii maxPayloadTypeLength payloadType :=
    hmet.typeExpected ▸ envelope.payloadTypeSafe
  have hpayload : payload.length ≤ maxDecodedPayloadBytes := by
    obtain ⟨decoded, hdecoded, hbounded⟩ := envelope.payloadBytes_ok
    obtain rfl := Except.ok.inj (hdecoded.symm.trans hmet.payloadExpected)
    exact hbounded
  have hjudge : judge R policy bytes payloadType payload admittedAt = .ok (collect {} keys) := by
    simp only [judge, bind_eq_ok, readEnvelope_ok hsize, acceptSigners_ok]
    exact ⟨envelope, hparse, hmet, keys, hof, hidentities, rfl⟩
  have hids : (keys.map (·.keyId)).Nodup := by
    rw [keyIds_eq hof]
    exact hmet.keyIdsDistinct
  obtain ⟨hpermIds, hpermIdentities⟩ := collect_perm hids hidentities
  have hthreshold : policy.threshold ≤ (collect {} keys).identities.length := by
    rw [hpermIdentities.length_eq, List.length_map, ← hof.length_eq]
    exact hmet.threshold
  rw [verifyDsseAttestation, if_neg (Nat.not_lt.mpr hsize), if_neg (not_not.mpr htype),
    if_neg (Nat.not_lt.mpr hpayload), revalidate_canonical hcanonical]
  dsimp only
  rw [hcanonical, ok_bind, htime]
  dsimp only
  rw [hjudge]
  have hprovenance : ProvenanceValid
      { rawEnvelopeSha256 := some (R.sha256 bytes)
        expectedPayloadSha256 := some (R.sha256 payload)
        expectedPayloadType := some payloadType
        trustPolicySha256 := some (R.sha256 canonical)
        policyId := some policy.policyId
        admissionTime := some (formatCanonicalTimestamp admittedAt) } :=
    ⟨forall_mem_some htype, forall_mem_some policy.policyIdSafe,
      forall_mem_some (formatCanonicalTimestamp_safe admittedAt)⟩
  obtain ⟨decision, hdecision, _⟩ := verified_returns policy.thresholdBounds hprovenance
    ⟨rfl, rfl, rfl, rfl, rfl, rfl⟩ (hpermIds.nodup_iff.mpr hids)
    (hpermIdentities.nodup_iff.mpr hidentities) hthreshold
    (by rw [hpermIds.length_eq, hpermIdentities.length_eq, List.length_map, List.length_map])
  refine hdecision.trans ?_
  rw [build_eq hdecision, text_order.sort_perm hpermIds, text_order.sort_perm hpermIdentities]

/-! ## One encoding for each type and payload -/

theorem encodeText_inj {value value' : Text} {encoded : Bytes}
    (h : encodeText value = some encoded) (h' : encodeText value' = some encoded) :
    value = value' := by
  have hback : ∀ {value : Text}, encodeText value = some encoded →
      (decodeUtf8 encoded).map (·.map Char.toNat) = some value := by
    intro value h
    rw [encodeText] at h
    split at h
    next hvalid =>
      rw [← Option.some.inj h, decodeUtf8_utf8, Option.map_some, List.map_map]
      congr 1
      refine (List.map_congr_left fun code hcode => ?_).trans (List.map_id value)
      show (Char.ofNat code).toNat = code
      rw [Char.ofNat, dif_pos (hvalid code hcode)]
      rfl
    next => cases h
  exact Option.some.inj ((hback h).symm.trans (hback h'))

/-- A decimal text is made of digits. -/
theorem decimalBytes_digits {n : Nat} {c : Char} (h : c ∈ Nat.toDigits 10 n) :
    0x20 < (UInt8.ofNat c.toNat).toNat ∧ (UInt8.ofNat c.toNat).toNat = c.toNat := by
  have hdigit := Char.isDigit_iff_toNat.mp
    (Nat.isDigit_of_mem_toDigits (by decide) (by decide) h)
  have hlow : 48 ≤ c.toNat := hdigit.1
  have hhigh : c.toNat ≤ 57 := hdigit.2
  rw [UInt8.toNat_ofNat']
  omega

theorem decimalBytes_inj {m n : Nat} (h : decimalBytes m = decimalBytes n) : m = n := by
  have hback : ∀ n, (decimalBytes n).map (fun b => Char.ofNat b.toNat) = Nat.toDigits 10 n := by
    intro n
    rw [decimalBytes, List.map_map]
    refine (List.map_congr_left fun c hc => ?_).trans (List.map_id _)
    show Char.ofNat (UInt8.ofNat c.toNat).toNat = c
    rw [(decimalBytes_digits hc).2, Char.ofNat_toNat]
  rw [← Nat.ofDigitChars_ten_toDigits (n := m), ← hback, h, hback, Nat.ofDigitChars_ten_toDigits]

theorem decimalBytes_noSpace (n : Nat) : 0x20 ∉ decimalBytes n := by
  intro h
  obtain ⟨c, hc, heq⟩ := List.mem_map.mp h
  have hspace : (UInt8.ofNat c.toNat).toNat = 0x20 := congrArg UInt8.toNat heq
  have := (decimalBytes_digits hc).1
  omega

/-- The lengths are parsed off the front, each up to its space, before any free text. -/
theorem dssePae_inj {payloadType' : Text} {payload' message : Bytes}
    (h : dssePae payloadType payload = .ok message)
    (h' : dssePae payloadType' payload' = .ok message) :
    payloadType = payloadType' ∧ payload = payload' := by
  simp only [dssePae, bind_eq_ok, expect_eq_ok, pure_eq_ok] at h h'
  obtain ⟨encoded, hencoded, rfl⟩ := h
  obtain ⟨encoded', hencoded', heq⟩ := h'
  have hmessage : ∀ a b c d : Bytes,
      List.intercalate [0x20] [dssePaeVersion.map UInt8.ofNat, a, b, c, d]
        = dssePaeVersion.map UInt8.ofNat ++ 0x20 :: (a ++ 0x20 :: (b ++ 0x20 :: (c ++ 0x20 :: d))) := by
    intro a b c d
    simp [List.intercalate]
  rw [hmessage, hmessage] at heq
  obtain ⟨hlength, hbody⟩ := split_separator (decimalBytes_noSpace _) (decimalBytes_noSpace _)
    (List.cons.inj (List.append_cancel_left heq)).2
  obtain ⟨rfl, hrest⟩ := List.append_inj hbody (decimalBytes_inj hlength)
  obtain ⟨-, rfl⟩ := split_separator (decimalBytes_noSpace _) (decimalBytes_noSpace _)
    (List.cons.inj hrest).2
  exact ⟨encodeText_inj hencoded hencoded', rfl⟩

/-- A verification that accepted a type and a payload with these signature bytes, under a public
key of its policy. -/
def AcceptedFor (R : AttestationRuntime) (publicKeyBytes signatureBytes : Bytes)
    (payloadType : Text) (payload : Bytes) : Prop :=
  ∃ bytes policy t decision envelope,
    verifyDsseAttestation R bytes policy payloadType payload t = .ok decision
      ∧ decision.verified = true ∧ parseDsseEnvelope R.toJsonRuntime bytes = .ok envelope
      ∧ ∃ signature ∈ envelope.signatures, ∃ key ∈ policy.trustedKeys,
        key.keyId = signature.keyid ∧ key.publicKeyBytes = .ok publicKeyBytes
          ∧ canonicalBase64Decode signature.sig ed25519SignatureBase64Length
            (some ed25519SignatureBytes) = .ok signatureBytes

/-- Each signature of an accepted envelope verifies over the encoding of what was accepted. -/
theorem AcceptedFor.verifies {publicKeyBytes signatureBytes : Bytes}
    (h : AcceptedFor R publicKeyBytes signatureBytes payloadType payload) :
    ∃ message, dssePae payloadType payload = .ok message
      ∧ R.verifies publicKeyBytes signatureBytes message = true := by
  obtain ⟨bytes, policy, t, decision, envelope, hdecision, hverified, hparse, signature,
    hsignature, key, hkey, hid, hpublic, hsig⟩ := h
  obtain ⟨envelope', _, hparse', ⟨instant, hmet⟩, _⟩ := verified_signers hdecision hverified
  obtain rfl := Except.ok.inj (hparse.symm.trans hparse')
  obtain ⟨message, hmessage, hsigned⟩ := hmet.signed
  obtain ⟨key', hkey', hid', _, publicKeyBytes', signatureBytes', hpublic', hsig', _, hverifies⟩ :=
    hsigned signature hsignature
  obtain rfl : key' = key :=
    List.inj_on_of_nodup_map policy.keyIds_nodup hkey' hkey (hid'.trans hid.symm)
  obtain rfl := Except.ok.inj (hpublic.symm.trans hpublic')
  obtain rfl := Except.ok.inj (hsig.symm.trans hsig')
  exact ⟨message, hmessage, hverifies⟩

/-- **The signed encoding is injective.** A signature that is accepted for one type and payload is
accepted for another only where it verifies over two different messages. -/
theorem dsse_pae_injective (R : AttestationRuntime) :
    (∀ payloadType payloadType' payload payload' message,
      dssePae payloadType payload = .ok message → dssePae payloadType' payload' = .ok message →
      payloadType = payloadType' ∧ payload = payload')
    ∧ ∀ publicKeyBytes signatureBytes payloadType payload,
      AcceptedFor R publicKeyBytes signatureBytes payloadType payload →
      ∃ message, dssePae payloadType payload = .ok message
        ∧ R.verifies publicKeyBytes signatureBytes message = true
        ∧ ∀ payloadType' payload',
          AcceptedFor R publicKeyBytes signatureBytes payloadType' payload' →
          payloadType' = payloadType ∧ payload' = payload
            ∨ ∃ message' ≠ message, R.verifies publicKeyBytes signatureBytes message' = true := by
  refine ⟨fun _ _ _ _ _ h h' => dssePae_inj h h', ?_⟩
  intro publicKeyBytes signatureBytes payloadType payload h
  obtain ⟨message, hmessage, hverifies⟩ := h.verifies
  refine ⟨message, hmessage, hverifies, fun payloadType' payload' h' => ?_⟩
  obtain ⟨message', hmessage', hverifies'⟩ := h'.verifies
  by_cases hsame : message' = message
  · subst hsame
    exact .inl (dssePae_inj hmessage' hmessage)
  · exact .inr ⟨message', hsame, hverifies'⟩

theorem example_signed_message : ∃ publicKeyBytes signatureBytes message,
    dssePae (text "a") [] = .ok message
      ∧ exampleAttestationRuntime.verifies publicKeyBytes signatureBytes message = true := by
  obtain ⟨publicKeyBytes, hkey⟩ := exampleTrustedKey.publicKeyBytes_ok
  obtain ⟨signatureBytes, hbytes⟩ := exampleSignature.bytes_ok
  obtain ⟨decision, hdecision, hjudged⟩ := verify_judged exampleAttestationRuntime_dumps
    (utf8 exampleSignedText) exampleTrustPolicy (text "a") [] exampleAdmission
  have hverified : decision.verified = true := by
    rcases hjudged with ⟨_, hrule⟩ | ⟨_, _, _, _, _, _, hverdict⟩
    · exact absurd ⟨exampleTrustPolicy_fits, by decide, example_rule (by decide)⟩
        hrule
    · exact congrArg Verdict.verified hverdict
  obtain ⟨message, hmessage, hverifies, _⟩ := (dsse_pae_injective exampleAttestationRuntime).2
    publicKeyBytes signatureBytes (text "a") [] ⟨utf8 exampleSignedText, exampleTrustPolicy,
      exampleAdmission, decision, exampleSignedEnvelope, hdecision, hverified,
      exampleSignedText_parses, exampleSignature, List.mem_singleton.mpr rfl, exampleTrustedKey,
      List.mem_singleton.mpr rfl, rfl, hkey, hbytes⟩
  exact ⟨publicKeyBytes, signatureBytes, message, hmessage, hverifies⟩

end ControlAssurance.Attestation
