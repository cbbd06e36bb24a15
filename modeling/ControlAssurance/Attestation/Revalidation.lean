import ControlAssurance.Attestation.Rfc8785
import ControlAssurance.Attestation.Verification

/-!
# Revalidating a policy

A policy that passed its model is read back from what `model_dump` writes, so revalidation returns
it unchanged, unless its canonical form does not fit.
-/

namespace ControlAssurance.Attestation

open Lib

/-! ## Reading what was written -/

theorem asString_string (value : Text) : asString (.string value) = .ok value := rfl

theorem mapM_asString : ∀ values : List Text,
    (values.map JsonValue.string).mapM asString = .ok values
  | [] => rfl
  | value :: values => by
    rw [List.map_cons, List.mapM_cons, asString_string, ok_bind, mapM_asString values]
    rfl

theorem optionalString_optionalValue {name : Text} {entries : Members} {value : Option Text}
    (h : entries.lookup name = some (optionalValue value)) :
    optionalString name entries = .ok value := by
  rw [optionalString, h]
  cases value with
  | none => rfl
  | some t => rfl

/-- A field that stands in the document. -/
theorem field_ok {name : Text} {entries : Members} {value : JsonValue}
    (h : entries.lookup name = some value) : field name entries = .ok value :=
  expect_eq_ok.mpr h

theorem TrustedKey.modelValidate_modelDump (key : TrustedKey) :
    TrustedKey.modelValidate key.modelDump = .ok key := by
  have hextra : forbidExtra trustedKeyFields
      [(text "key_id", .string key.keyId), (text "identity", .string key.identity),
      (text "algorithm", .string key.algorithm), (text "public_key", .string key.publicKey),
      (text "allowed_payload_types", .list (key.allowedPayloadTypes.map .string)),
      (text "valid_from", .string key.validFrom),
      (text "valid_until", optionalValue key.validUntil),
      (text "status", .string key.status.value),
      (text "revocation_effective_at", optionalValue key.revocationEffectiveAt)] = .ok () := by
    refine require_pos fun entry hentry => ?_
    rw [trustedKeyFields]
    simpa using List.mem_map_of_mem (f := (·.1)) hentry
  have hstatus : asStatus (.string key.status.value) = .ok key.status := by
    rw [asStatus, KeyStatus.ofValue_value]
    rfl
  rw [TrustedKey.modelDump, TrustedKey.modelValidate, asDict, ok_bind, hextra, ok_bind,
    field_ok rfl, ok_bind, asString_string, ok_bind, field_ok rfl, ok_bind, asString_string,
    ok_bind, field_ok rfl, ok_bind, asString_string, ok_bind, field_ok rfl, ok_bind,
    asString_string, ok_bind, field_ok rfl, ok_bind, asList, ok_bind, mapM_asString, ok_bind,
    field_ok rfl, ok_bind, asString_string, ok_bind, optionalString_optionalValue rfl, ok_bind,
    field_ok rfl, ok_bind, hstatus, ok_bind, optionalString_optionalValue rfl, ok_bind,
    ensure_eq_ok key.keyIdSafe, ok_bind, ensure_eq_ok key.identitySafe, ok_bind,
    ensure_eq_ok key.algorithmSafe, ok_bind, ensure_eq_ok key.publicKeySafe, ok_bind,
    ensure_eq_ok key.payloadTypesExplicit, ok_bind, ensure_eq_ok key.timestampsCanonical, ok_bind,
    ensure_eq_ok key.windowCoherent, ok_bind]
  rfl

theorem mapM_modelDump : ∀ keys : List TrustedKey,
    (keys.map TrustedKey.modelDump).mapM TrustedKey.modelValidate = .ok keys
  | [] => rfl
  | key :: keys => by
    rw [List.map_cons, List.mapM_cons, key.modelValidate_modelDump, ok_bind, mapM_modelDump keys]
    rfl

/-- A policy is read back from its document. -/
theorem TrustPolicy.modelValidate_modelDump (policy : TrustPolicy) :
    TrustPolicy.modelValidate policy.modelDump = .ok policy := by
  have hextra : forbidExtra trustPolicyFields
      [(text "media_type", .string policy.mediaType),
      (text "schema_version", .string policy.schemaVersion),
      (text "policy_id", .string policy.policyId), (text "threshold", .int policy.threshold),
      (text "trusted_keys", .list (policy.trustedKeys.map TrustedKey.modelDump))] = .ok () := by
    refine require_pos fun entry hentry => ?_
    rw [trustPolicyFields]
    simpa using List.mem_map_of_mem (f := (·.1)) hentry
  rw [TrustPolicy.modelDump, TrustPolicy.modelValidate, asDict, ok_bind, hextra, ok_bind,
    field_ok rfl, ok_bind, asString_string, ok_bind, field_ok rfl, ok_bind, asString_string,
    ok_bind, field_ok rfl, ok_bind, asString_string, ok_bind, field_ok rfl, ok_bind, asInt,
    ok_bind, field_ok rfl, ok_bind, asList, ok_bind, mapM_modelDump, ok_bind,
    ensure_eq_ok policy.mediaTypeLiteral, ok_bind, ensure_eq_ok policy.schemaVersionLiteral,
    ok_bind, ensure_eq_ok policy.policyIdSafe, ok_bind, ensure_eq_ok policy.thresholdBounds,
    ok_bind, ensure_eq_ok policy.keysBounded, ok_bind, ensure_eq_ok policy.keyMaterialUnambiguous,
    ok_bind]
  rfl

/-! ## The bounded copy -/

theorem TimestampSafe.length {value : Text} (h : TimestampSafe value) : value.length = 27 := by
  obtain ⟨parsed, hparsed⟩ := isOk_iff.mp h
  simp only [parseCanonicalTimestamp, bind_eq_ok, require_eq_ok] at hparsed
  obtain ⟨_, ⟨hlength, _⟩, _⟩ := hparsed
  exact hlength

theorem boundedKeyPrimitive_eq (key : TrustedKey) :
    boundedKeyPrimitive key = some key.modelDump := by
  obtain ⟨hfrom, huntil, hrevocation⟩ := key.timestampsCanonical
  obtain ⟨hfew, hvisible, _, _⟩ := key.payloadTypesExplicit
  refine if_pos ⟨key.keyIdSafe.2.1, key.identitySafe.2.1, ?_, le_of_eq key.publicKeySafe.1,
    le_of_eq hfrom.length, fun t ht => le_of_eq (huntil t ht).length,
    fun t ht => le_of_eq (hrevocation t ht).length, hfew, fun value hvalue => (hvisible value hvalue).2.1⟩
  rw [key.algorithmSafe]
  decide

theorem mapM_boundedKeyPrimitive : ∀ keys : List TrustedKey,
    keys.mapM boundedKeyPrimitive = some (keys.map TrustedKey.modelDump)
  | [] => rfl
  | key :: keys => by
    rw [List.mapM_cons, boundedKeyPrimitive_eq key, mapM_boundedKeyPrimitive keys]
    rfl

theorem boundedProgrammaticPolicyPrimitive_eq (policy : TrustPolicy) :
    boundedProgrammaticPolicyPrimitive policy = some policy.modelDump := by
  have hmedia : policy.mediaType.length ≤ 128 := by
    rw [policy.mediaTypeLiteral]
    decide
  have hschema : policy.schemaVersion.length ≤ 32 := by
    rw [policy.schemaVersionLiteral]
    decide
  rw [boundedProgrammaticPolicyPrimitive, if_pos ⟨hmedia, hschema, policy.policyIdSafe.2.1,
    policy.thresholdBounds, policy.keysBounded⟩, mapM_boundedKeyPrimitive]
  rfl

/-- Revalidation returns the policy when its canonical form fits, and nothing otherwise. -/
theorem revalidateProgrammaticPolicy_eq {R : AttestationRuntime}
    (hR : R.toCanonicalRuntime.DumpsCanonically) (policy : TrustPolicy) :
    revalidateProgrammaticPolicy R policy = if policy.Fits then some policy else none := by
  rw [revalidateProgrammaticPolicy, boundedProgrammaticPolicyPrimitive_eq, Option.bind_eq_bind,
    Option.bind_some, policy.modelValidate_modelDump, Option.bind_eq_bind]
  show ((policy.canonicalBytes R.toCanonicalRuntime).toOption.bind fun _ => some policy) = _
  rw [canonicalBytes_eq hR]
  by_cases hfits : policy.Fits
  · rw [require_pos hfits, if_pos hfits]
    rfl
  · rw [require_neg hfits, if_neg hfits]
    rfl

end ControlAssurance.Attestation
