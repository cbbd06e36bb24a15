import ControlAssurance.Attestation.Revalidation
import ControlAssurance.Attestation.Transparency

/-!
# The quorum rule

`QuorumMet` is the rule that a verified attestation stands for. Each stage of the verification is
read as its part of the rule, and none of them raises: what could raise decodes again what the
model of the envelope or the policy has decoded before.
-/

namespace ControlAssurance.Attestation

open Lib

/-- A key admits a payload type at an instant: half-open validity, half-open revocation. -/
structure Eligible (key : TrustedKey) (payloadType : Text) (instant : Int) : Prop where
  allowed : payloadType ∈ key.allowedPayloadTypes
  enabled : key.status ≠ .disabled
  opened : ∀ d, parseCanonicalTimestamp key.validFrom = .ok d → d.microseconds ≤ instant
  notExpired : ∀ value ∈ key.validUntil, ∀ d, parseCanonicalTimestamp value = .ok d →
    instant < d.microseconds
  notRevoked : ∀ value ∈ key.revocationEffectiveAt, ∀ d, parseCanonicalTimestamp value = .ok d →
    instant < d.microseconds

variable {R : AttestationRuntime}

/-- A signature verifies over a message under a key. -/
def Signs (R : AttestationRuntime) (message : Bytes) (signature : DsseSignature)
    (key : TrustedKey) : Prop :=
  ∃ publicKeyBytes signatureBytes, key.publicKeyBytes = .ok publicKeyBytes
    ∧ canonicalBase64Decode signature.sig ed25519SignatureBase64Length
        (some ed25519SignatureBytes) = .ok signatureBytes
    ∧ R.acceptsPublicKey publicKeyBytes = true
    ∧ R.verifies publicKeyBytes signatureBytes message = true

/-- The rule, for an envelope against a policy, what is expected, and an instant. -/
structure QuorumMet (R : AttestationRuntime) (policy : TrustPolicy) (envelope : DsseEnvelope)
    (payloadType : Text) (payload : Bytes) (instant : Int) : Prop where
  typeExpected : envelope.payloadType = payloadType
  payloadExpected : envelope.payloadBytes = .ok payload
  keyIdsDistinct : (envelope.signatures.map (·.keyid)).Nodup
  signed : ∃ message, dssePae payloadType payload = .ok message
    ∧ ∀ signature ∈ envelope.signatures, ∃ key ∈ policy.trustedKeys,
      key.keyId = signature.keyid ∧ Eligible key payloadType instant
        ∧ Signs R message signature key
  identitiesDistinct : ∀ signature ∈ envelope.signatures, ∀ signature' ∈ envelope.signatures,
    ∀ key ∈ policy.trustedKeys, ∀ key' ∈ policy.trustedKeys, key.keyId = signature.keyid →
      key'.keyId = signature'.keyid → key.identity = key'.identity →
      signature.keyid = signature'.keyid
  threshold : policy.threshold ≤ envelope.signatures.length

/-! ## Stages that do not raise -/

/-- A stage that ends with a result or with the refusal of a failed decision. -/
def Quiet {α : Type} (x : Except Stop α) : Prop :=
  ∀ stop, x = .error stop → ∃ reason, stop = .refuse reason ∧ reason ≠ .verified

theorem quiet_ok {α : Type} (a : α) : Quiet (.ok a : Except Stop α) := fun _ h => nomatch h

theorem quiet_bind {α β : Type} {x : Except Stop α} {f : α → Except Stop β} (hx : Quiet x)
    (hf : ∀ a, x = .ok a → Quiet (f a)) : Quiet (x >>= f) := by
  cases x with
  | ok a => exact hf a rfl
  | error stop =>
    intro other h
    exact hx other (congrArg _ (Except.error.inj h))

theorem quiet_require {c : Prop} [Decidable c] {reason : AttestationReason}
    (h : (reason != .verified) = true) : Quiet (require c (Stop.refuse reason)) := by
  by_cases hc : c
  · rw [require_pos hc]
    exact quiet_ok ()
  · rw [require_neg hc]
    intro stop heq
    exact ⟨reason, (Except.error.inj heq).symm, bne_iff_ne.mp h⟩

theorem quiet_mapError {ε α : Type} {x : Except ε α} {f : ε → Stop}
    (h : ∀ e, x = .error e → ∃ reason, f e = .refuse reason ∧ reason ≠ .verified) :
    Quiet (x.mapError f) := by
  cases x with
  | ok a => exact quiet_ok a
  | error e =>
    intro stop heq
    obtain ⟨reason, hreason, hne⟩ := h e rfl
    exact ⟨reason, (Except.error.inj heq).symm.trans hreason, hne⟩

theorem quiet_of_ok {ε α : Type} {x : Except ε α} {f : ε → Stop} (h : ∃ a, x = .ok a) :
    Quiet (x.mapError f) := by
  obtain ⟨a, rfl⟩ := h
  exact quiet_ok a

theorem quiet_forM {α : Type} {f : α → Except Stop Unit} :
    ∀ {l : List α}, (∀ a ∈ l, Quiet (f a)) → Quiet (l.forM f)
  | [], _ => quiet_ok ()
  | a :: _, h => quiet_bind (h a (List.mem_cons_self ..)) fun _ _ =>
      quiet_forM fun b hb => h b (List.mem_cons_of_mem _ hb)

theorem quiet_foldlM {α β : Type} {f : β → α → Except Stop β} :
    ∀ {l : List α} {b : β}, (∀ b, ∀ a ∈ l, Quiet (f b a)) → Quiet (l.foldlM f b)
  | [], b, _ => quiet_ok b
  | a :: l, b, h => by
    rw [List.foldlM_cons]
    exact quiet_bind (h b a (List.mem_cons_self ..)) fun _ _ =>
      quiet_foldlM fun c x hx => h c x (List.mem_cons_of_mem _ hx)

/-! ## What the models have decoded -/

theorem TrustedKey.publicKeyBytes_ok (key : TrustedKey) :
    ∃ publicKeyBytes, key.publicKeyBytes = .ok publicKeyBytes :=
  isOk_iff.mp key.publicKeySafe.2

theorem DsseSignature.bytes_ok (signature : DsseSignature) :
    ∃ signatureBytes, canonicalBase64Decode signature.sig ed25519SignatureBase64Length
      (some ed25519SignatureBytes) = .ok signatureBytes :=
  isOk_iff.mp signature.sigSafe.2

theorem DsseEnvelope.payloadBytes_ok (envelope : DsseEnvelope) :
    ∃ payload, envelope.payloadBytes = .ok payload ∧ payload.length ≤ maxDecodedPayloadBytes := by
  obtain ⟨payload, hpayload⟩ := isOk_iff.mp envelope.payloadSafe
  simp only [decodePayload, bind_eq_ok, require_eq_ok, pure_eq_ok] at hpayload
  obtain ⟨decoded, hdecoded, _, hbounded, rfl⟩ := hpayload
  exact ⟨decoded, hdecoded, hbounded⟩

theorem TimestampSafe.position {value : Text} (h : TimestampSafe value) :
    ∃ d, parseCanonicalTimestamp value = .ok d ∧ timestampPosition value = .ok d.microseconds := by
  obtain ⟨d, hd⟩ := isOk_iff.mp h
  refine ⟨d, hd, ?_⟩
  rw [timestampPosition, hd]
  rfl

theorem TrustPolicy.keyIds_nodup (policy : TrustPolicy) :
    (policy.trustedKeys.map (·.keyId)).Nodup := by
  have h := policy.keyMaterialUnambiguous
  simp only [checkKeyMaterial, bind_eq_ok, require_eq_ok] at h
  exact h.choose_spec.1

/-- A visible ASCII text is encoded. -/
theorem encodeText_visible {maximum : Nat} {value : Text} (h : VisibleAscii maximum value) :
    encodeText value = some (utf8 (value.map Char.ofNat)) := by
  refine if_pos fun code hcode => ?_
  have hlow := (h.2.2 code hcode).2
  exact .inl (by omega)

/-! ## The stages as parts of the rule -/

theorem checkPayload_ok {envelope : DsseEnvelope} {payloadType : Text} {payload : Bytes} :
    checkPayload envelope payloadType payload = .ok ()
      ↔ envelope.payloadType = payloadType ∧ envelope.payloadBytes = .ok payload := by
  simp only [checkPayload, bind_eq_ok, require_eq_ok, mapError_eq_ok]
  constructor
  · rintro ⟨_, htype, decoded, hdecoded, rfl⟩
    exact ⟨htype, hdecoded⟩
  · rintro ⟨htype, hpayload⟩
    exact ⟨(), htype, payload, hpayload, rfl⟩

theorem quiet_checkPayload (envelope : DsseEnvelope) (payloadType : Text) (payload : Bytes) :
    Quiet (checkPayload envelope payloadType payload) := by
  obtain ⟨decoded, hdecoded, _⟩ := envelope.payloadBytes_ok
  exact quiet_bind (quiet_require rfl) fun _ _ =>
    quiet_bind (quiet_of_ok ⟨decoded, hdecoded⟩) fun _ _ => quiet_require rfl

/-- A selected key is the one under the key id of its signature. -/
def KeyOf (policy : TrustPolicy) (signature : DsseSignature) (key : TrustedKey) : Prop :=
  key ∈ policy.trustedKeys ∧ key.keyId = signature.keyid

theorem find_key (policy : TrustPolicy) {keyId : Text} {key : TrustedKey} :
    policy.trustedKeys.find? (fun key => key.keyId = keyId) = some key
      ↔ key ∈ policy.trustedKeys ∧ key.keyId = keyId := by
  constructor
  · intro h
    exact ⟨List.mem_of_find?_eq_some h, by simpa using List.find?_some h⟩
  · rintro ⟨hkey, hid⟩
    have hsome : (policy.trustedKeys.find? fun key => key.keyId = keyId).isSome := by
      rw [List.find?_isSome]
      exact ⟨key, hkey, by simpa using hid⟩
    obtain ⟨other, hother⟩ := Option.isSome_iff_exists.mp hsome
    have hsame : other = key := List.inj_on_of_nodup_map policy.keyIds_nodup
      (List.mem_of_find?_eq_some hother) hkey (by
        have : other.keyId = keyId := by simpa using List.find?_some hother
        rw [this, hid])
    rw [hother, hsame]

theorem selectKeys_ok {policy : TrustPolicy} {envelope : DsseEnvelope} {keys : List TrustedKey} :
    selectKeys policy envelope = .ok keys
      ↔ (envelope.signatures.map (·.keyid)).Nodup
        ∧ List.Forall₂ (KeyOf policy) envelope.signatures keys
        ∧ (keys.map (·.identity)).Nodup := by
  have hselected : ∀ (signatures : List DsseSignature) (keys : List TrustedKey),
      (signatures.map (·.keyid)).mapM (fun keyId =>
        expect (policy.trustedKeys.find? fun key => key.keyId = keyId) (Stop.raise "KeyError"))
          = .ok keys ↔ List.Forall₂ (KeyOf policy) signatures keys := by
    intro signatures
    induction signatures with
    | nil =>
      intro keys
      rw [List.map_nil, List.mapM_nil, pure_eq_ok, List.forall₂_nil_left_iff]
      exact eq_comm
    | cons signature signatures ih =>
      intro keys
      simp only [List.map_cons, List.mapM_cons, bind_eq_ok, expect_eq_ok, find_key, ih,
        pure_eq_ok, List.forall₂_cons_left_iff]
      constructor
      · rintro ⟨key, hkey, rest, hrest, rfl⟩
        exact ⟨key, rest, hkey, hrest, rfl⟩
      · rintro ⟨key, rest, hkey, hrest, rfl⟩
        exact ⟨key, hkey, rest, hrest, rfl⟩
  simp only [selectKeys, bind_eq_ok, require_eq_ok, pure_eq_ok, hselected]
  constructor
  · rintro ⟨_, _, _, hnodup, _, _, selected, hall, _, hidentities, rfl⟩
    exact ⟨hnodup, hall, hidentities⟩
  · rintro ⟨hnodup, hall, hidentities⟩
    refine ⟨(), policy.keyIds_nodup, (), hnodup, (), ?_, keys, hall, (), hidentities, rfl⟩
    intro keyId hkeyId
    obtain ⟨signature, hsignature, rfl⟩ := List.mem_map.mp hkeyId
    obtain ⟨key, _, hkey, hid⟩ := exists_of_forall₂_left hall hsignature
    exact List.mem_map.mpr ⟨key, hkey, hid⟩

theorem quiet_selectKeys (policy : TrustPolicy) (envelope : DsseEnvelope) :
    Quiet (selectKeys policy envelope) := by
  refine quiet_bind (quiet_require rfl) fun _ _ => quiet_bind (quiet_require rfl) fun _ _ =>
    quiet_bind (quiet_require rfl) fun _ hknown => quiet_bind ?_ fun _ _ =>
      quiet_bind (quiet_require rfl) fun _ _ => quiet_ok _
  -- every id that is looked up is known
  have hknown : envelope.signatures.map (·.keyid) ⊆ policy.trustedKeys.map (·.keyId) :=
    require_eq_ok.mp hknown
  obtain ⟨keys, hkeys, _⟩ := mapM_ok (R := fun _ _ => True) (f := fun keyId =>
      expect (policy.trustedKeys.find? fun key => key.keyId = keyId) (Stop.raise "KeyError"))
      (l := envelope.signatures.map (·.keyid)) (by
    intro keyId hkeyId
    obtain ⟨key, hkey, hid⟩ := List.mem_map.mp (hknown hkeyId)
    exact ⟨key, expect_eq_ok.mpr ((find_key policy).mpr ⟨hkey, hid⟩), trivial⟩)
  rw [hkeys]
  exact quiet_ok keys

/-- The timestamps of a key, as bounds. -/
theorem checkBefore_ok {bound : Option Text} {admittedAt : Nat} {reason : AttestationReason}
    (hbound : ∀ value ∈ bound, TimestampSafe value) :
    checkBefore bound admittedAt reason = .ok ()
      ↔ ∀ value ∈ bound, ∀ d, parseCanonicalTimestamp value = .ok d →
        (admittedAt : Int) < d.microseconds := by
  cases bound with
  | none => exact ⟨fun _ value hvalue => (nomatch hvalue), fun _ => rfl⟩
  | some value =>
    obtain ⟨d, hd, hposition⟩ := (hbound value rfl).position
    simp only [checkBefore, hposition, bind_eq_ok, mapError_eq_ok, require_eq_ok]
    constructor
    · rintro ⟨ends, hends, hlt⟩ other hother e he
      obtain rfl := Option.some.inj hother
      obtain rfl := Except.ok.inj (hd.symm.trans he)
      obtain rfl := Except.ok.inj hends
      exact_mod_cast hlt
    · intro h
      exact ⟨d.microseconds, rfl, by exact_mod_cast h value rfl d hd⟩

theorem quiet_checkBefore {bound : Option Text} {admittedAt : Nat} {reason : AttestationReason}
    (hbound : ∀ value ∈ bound, TimestampSafe value) (h : (reason != .verified) = true) :
    Quiet (checkBefore bound admittedAt reason) := by
  cases bound with
  | none => exact quiet_ok ()
  | some value =>
    obtain ⟨d, _, hposition⟩ := (hbound value rfl).position
    exact quiet_bind (quiet_of_ok ⟨_, hposition⟩) fun _ _ => quiet_require h

theorem checkKey_ok {admittedAt : Nat} {key : TrustedKey} :
    checkKey admittedAt key = .ok () ↔ key.status ≠ .disabled
      ∧ (∀ value ∈ key.revocationEffectiveAt, ∀ d, parseCanonicalTimestamp value = .ok d →
        (admittedAt : Int) < d.microseconds)
      ∧ (∀ d, parseCanonicalTimestamp key.validFrom = .ok d → d.microseconds ≤ (admittedAt : Int))
      ∧ ∀ value ∈ key.validUntil, ∀ d, parseCanonicalTimestamp value = .ok d →
        (admittedAt : Int) < d.microseconds := by
  obtain ⟨hfrom, huntil, hrevocation⟩ := key.timestampsCanonical
  obtain ⟨opens, hopens, hposition⟩ := hfrom.position
  simp only [checkKey, hposition, bind_eq_ok, mapError_eq_ok, require_eq_ok,
    checkBefore_ok huntil, checkBefore_ok hrevocation]
  constructor
  · rintro ⟨_, hstatus, _, hrevoked, position, hposition, _, hle, hexpired⟩
    obtain rfl := Except.ok.inj hposition
    refine ⟨hstatus, hrevoked, fun d hd => ?_, hexpired⟩
    obtain rfl := Except.ok.inj (hopens.symm.trans hd)
    exact_mod_cast hle
  · rintro ⟨hstatus, hrevoked, hopened, hexpired⟩
    exact ⟨(), hstatus, (), hrevoked, opens.microseconds, rfl, (),
      by exact_mod_cast hopened opens hopens, hexpired⟩

theorem quiet_checkKey (admittedAt : Nat) (key : TrustedKey) : Quiet (checkKey admittedAt key) := by
  obtain ⟨hfrom, huntil, hrevocation⟩ := key.timestampsCanonical
  obtain ⟨opens, _, hposition⟩ := hfrom.position
  exact quiet_bind (quiet_require rfl) fun _ _ => quiet_bind (quiet_checkBefore hrevocation rfl)
    fun _ _ => quiet_bind (quiet_of_ok ⟨_, hposition⟩) fun _ _ =>
      quiet_bind (quiet_require rfl) fun _ _ => quiet_checkBefore huntil rfl

theorem checkKeys_ok {keys : List TrustedKey} {payloadType : Text} {admittedAt : Nat} :
    checkKeys keys payloadType admittedAt = .ok ()
      ↔ ∀ key ∈ keys, Eligible key payloadType admittedAt := by
  simp only [checkKeys, bind_eq_ok, require_eq_ok, forM_eq_ok, checkKey_ok]
  constructor
  · rintro ⟨_, _, _, hallowed, hchecked⟩ key hkey
    obtain ⟨hstatus, hrevoked, hopened, hexpired⟩ := hchecked key hkey
    exact ⟨hallowed key hkey, hstatus, hopened, hexpired, hrevoked⟩
  · intro h
    refine ⟨(), fun key _ => key.algorithmSafe, (), fun key hkey => (h key hkey).allowed,
      fun key hkey => ?_⟩
    have heligible := h key hkey
    exact ⟨heligible.enabled, heligible.notRevoked, heligible.opened, heligible.notExpired⟩

theorem quiet_checkKeys (keys : List TrustedKey) (payloadType : Text) (admittedAt : Nat) :
    Quiet (checkKeys keys payloadType admittedAt) :=
  quiet_bind (quiet_require rfl) fun _ _ => quiet_bind (quiet_require rfl) fun _ _ =>
    quiet_forM fun key _ => quiet_checkKey admittedAt key

theorem verifySignature_ok {message : Bytes} {signature : DsseSignature} {key : TrustedKey} :
    verifySignature R message signature key = .ok () ↔ Signs R message signature key := by
  simp only [verifySignature, bind_eq_ok, mapError_eq_ok, require_eq_ok, Signs]
  constructor
  · rintro ⟨publicKeyBytes, hkey, _, _, _, haccepts, signatureBytes, hsignature, hverifies⟩
    exact ⟨publicKeyBytes, signatureBytes, hkey, hsignature, haccepts, hverifies⟩
  · rintro ⟨publicKeyBytes, signatureBytes, hkey, hsignature, haccepts, hverifies⟩
    have hlength : publicKeyBytes.length = 32 :=
      (canonicalBase64Decode_ok hkey).2 ed25519PublicKeyBytes rfl
    exact ⟨publicKeyBytes, hkey, (), hlength, (), haccepts, signatureBytes, hsignature, hverifies⟩

theorem quiet_verifySignature (message : Bytes) (signature : DsseSignature) (key : TrustedKey) :
    Quiet (verifySignature R message signature key) :=
  quiet_bind (quiet_of_ok key.publicKeyBytes_ok) fun _ _ => quiet_bind (quiet_require rfl)
    fun _ _ => quiet_bind (quiet_require rfl) fun _ _ =>
      quiet_bind (quiet_of_ok signature.bytes_ok) fun _ _ => quiet_require rfl

/-! ## The loop over the signatures -/

/-- What the loop collects: the ids and identities of the keys, each once. -/
def collect (accepted : Accepted) (keys : List TrustedKey) : Accepted :=
  keys.foldl (fun accepted key =>
    { keyIds := accepted.keyIds.insert key.keyId
      identities := accepted.identities.insert key.identity }) accepted

/-- By induction on the signatures and their keys. -/
theorem acceptLoop_ok {message : Bytes} : ∀ {signatures : List DsseSignature}
    {keys : List TrustedKey} {accepted result : Accepted}, signatures.length = keys.length →
    ((signatures.zip keys).foldlM (acceptSignature R message) accepted = .ok result
      ↔ List.Forall₂ (Signs R message) signatures keys ∧ result = collect accepted keys)
  | [], [], accepted, result, _ => by
    rw [List.zip_nil_left, List.foldlM_nil, pure_eq_ok]
    exact ⟨fun h => ⟨.nil, h.symm⟩, fun h => h.2.symm⟩
  | signature :: signatures, key :: keys, accepted, result, hlength => by
    have hrest := @acceptLoop_ok message signatures keys
      { keyIds := accepted.keyIds.insert key.keyId
        identities := accepted.identities.insert key.identity } result (by simpa using hlength)
    have hstep : acceptSignature R message accepted (signature, key)
        = verifySignature R message signature key >>= fun _ =>
          pure { keyIds := accepted.keyIds.insert key.keyId
                 identities := accepted.identities.insert key.identity } := rfl
    rw [List.zip_cons_cons, List.foldlM_cons, hstep, List.forall₂_cons]
    simp only [bind_eq_ok, pure_eq_ok]
    constructor
    · rintro ⟨_, ⟨_, hsigns, rfl⟩, hloop⟩
      obtain ⟨hall, hresult⟩ := hrest.mp hloop
      exact ⟨⟨verifySignature_ok.mp hsigns, hall⟩, hresult⟩
    · rintro ⟨⟨hsigns, hall⟩, hresult⟩
      exact ⟨_, ⟨(), verifySignature_ok.mpr hsigns, rfl⟩, hrest.mpr ⟨hall, hresult⟩⟩

/-- Inserting distinct new values leaves a permutation of them. -/
theorem insertAll_perm : ∀ (values held : List Text), values.Nodup →
    (∀ value ∈ values, value ∉ held) →
      (values.foldl (fun held value => held.insert value) held).Perm (values ++ held)
  | [], held, _, _ => List.Perm.refl held
  | value :: values, held, hnodup, hnew => by
    obtain ⟨hfresh, hrest⟩ := List.nodup_cons.mp hnodup
    have hinsert : held.insert value = value :: held :=
      List.insert_of_not_mem (hnew value (List.mem_cons_self ..))
    rw [List.foldl_cons, hinsert]
    refine (insertAll_perm values (value :: held) hrest fun other hother hmem => ?_).trans
      List.perm_middle
    rcases List.mem_cons.mp hmem with rfl | hmem
    · exact hfresh hother
    · exact hnew other (List.mem_cons_of_mem _ hother) hmem

theorem collect_fields : ∀ (keys : List TrustedKey) (accepted : Accepted),
    collect accepted keys
      = { keyIds := (keys.map (·.keyId)).foldl (fun held value => held.insert value)
            accepted.keyIds
          identities := (keys.map (·.identity)).foldl (fun held value => held.insert value)
            accepted.identities }
  | [], _ => rfl
  | key :: keys, accepted => by
    rw [collect, List.foldl_cons]
    exact collect_fields keys _

theorem collect_perm {keys : List TrustedKey} (hids : (keys.map (·.keyId)).Nodup)
    (hidentities : (keys.map (·.identity)).Nodup) :
    (collect {} keys).keyIds.Perm (keys.map (·.keyId))
      ∧ (collect {} keys).identities.Perm (keys.map (·.identity)) := by
  have hempty : ∀ values : List Text, values ++ [] = values := List.append_nil
  rw [collect_fields]
  constructor
  · have h := insertAll_perm (keys.map (·.keyId)) [] hids fun _ _ hmem => nomatch hmem
    rwa [hempty] at h
  · have h := insertAll_perm (keys.map (·.identity)) [] hidentities fun _ _ hmem => nomatch hmem
    rwa [hempty] at h

/-! ## The signers of an envelope -/

/-- The keys of the rule, one for each signature. -/
theorem QuorumMet.keys {policy : TrustPolicy} {envelope : DsseEnvelope} {payloadType : Text}
    {payload : Bytes} {instant : Int}
    (h : QuorumMet R policy envelope payloadType payload instant) :
    ∃ message keys, dssePae payloadType payload = .ok message
      ∧ List.Forall₂ (KeyOf policy) envelope.signatures keys
      ∧ List.Forall₂ (Signs R message) envelope.signatures keys
      ∧ (∀ key ∈ keys, Eligible key payloadType instant)
      ∧ (keys.map (·.identity)).Nodup := by
  obtain ⟨message, hmessage, hsigned⟩ := h.signed
  have hpicked : ∀ signatures : List DsseSignature, (∀ s ∈ signatures, s ∈ envelope.signatures) →
      (signatures.map (·.keyid)).Nodup →
      ∃ keys, List.Forall₂ (KeyOf policy) signatures keys
        ∧ List.Forall₂ (Signs R message) signatures keys
        ∧ (∀ key ∈ keys, Eligible key payloadType instant) ∧ (keys.map (·.identity)).Nodup := by
    intro signatures
    induction signatures with
    | nil => exact fun _ _ => ⟨[], .nil, .nil, fun _ hkey => (nomatch hkey), List.nodup_nil⟩
    | cons signature signatures ih =>
      intro hmem hnodup
      obtain ⟨hfresh, hrest⟩ := List.nodup_cons.mp hnodup
      obtain ⟨keys, hof, hsigns, heligible, hidentities⟩ :=
        ih (fun s hs => hmem s (List.mem_cons_of_mem _ hs)) hrest
      have hhead := hmem signature (List.mem_cons_self ..)
      obtain ⟨key, hkey, hid, hable, hverifies⟩ := hsigned signature hhead
      refine ⟨key :: keys, .cons ⟨hkey, hid⟩ hof, .cons hverifies hsigns, ?_, ?_⟩
      · intro other hother
        rcases List.mem_cons.mp hother with rfl | hother
        · exact hable
        · exact heligible other hother
      · -- a second key of the identity would be under the same key id
        rw [List.map_cons, List.nodup_cons]
        refine ⟨fun hsame => ?_, hidentities⟩
        obtain ⟨other, hother, heq⟩ := List.mem_map.mp hsame
        obtain ⟨signature', hsignature', hpolicy, hid'⟩ := exists_of_forall₂_right hof hother
        have hkeyid := h.identitiesDistinct signature hhead signature'
          (hmem signature' (List.mem_cons_of_mem _ hsignature')) key hkey other hpolicy hid hid'
          heq.symm
        exact hfresh (List.mem_map.mpr ⟨signature', hsignature', hkeyid.symm⟩)
  obtain ⟨keys, hkeys⟩ := hpicked envelope.signatures (fun s hs => hs) h.keyIdsDistinct
  exact ⟨message, keys, hmessage, hkeys⟩

theorem keyIds_eq {policy : TrustPolicy} {signatures : List DsseSignature} {keys : List TrustedKey}
    (h : List.Forall₂ (KeyOf policy) signatures keys) :
    keys.map (·.keyId) = signatures.map (·.keyid) := by
  induction h with
  | nil => rfl
  | cons hkey _ ih => rw [List.map_cons, List.map_cons, hkey.2, ih]

/-- Keys of a policy with the same ids are the same keys. -/
theorem keys_unique {policy : TrustPolicy} : ∀ {signatures : List DsseSignature}
    {keys keys' : List TrustedKey}, List.Forall₂ (KeyOf policy) signatures keys →
    List.Forall₂ (KeyOf policy) signatures keys' → keys = keys'
  | [], _, _, h, h' => by
    rw [List.forall₂_nil_left_iff.mp h, List.forall₂_nil_left_iff.mp h']
  | signature :: signatures, _, _, h, h' => by
    obtain ⟨key, rest, ⟨hkey, hid⟩, hrest, rfl⟩ := List.forall₂_cons_left_iff.mp h
    obtain ⟨key', rest', ⟨hkey', hid'⟩, hrest', rfl⟩ := List.forall₂_cons_left_iff.mp h'
    have hsame : key = key' :=
      List.inj_on_of_nodup_map policy.keyIds_nodup hkey hkey' (hid.trans hid'.symm)
    rw [hsame, keys_unique hrest hrest']

theorem forall₂_both {α β : Type} {P Q : α → β → Prop} {l : List α} {l' : List β}
    (hP : List.Forall₂ P l l') (hQ : List.Forall₂ Q l l') :
    List.Forall₂ (fun a b => P a b ∧ Q a b) l l' := by
  induction hP with
  | nil => exact .nil
  | cons hab _ ih =>
    obtain ⟨hab', hrest⟩ := List.forall₂_cons.mp hQ
    exact .cons ⟨hab, hab'⟩ (ih hrest)

/-- The keys that were selected and checked meet the rule. -/
theorem quorumMet_of_keys {policy : TrustPolicy} {envelope : DsseEnvelope} {payloadType : Text}
    {payload : Bytes} {instant : Int} {message : Bytes} {keys : List TrustedKey}
    (htype : envelope.payloadType = payloadType) (hpayload : envelope.payloadBytes = .ok payload)
    (hnodup : (envelope.signatures.map (·.keyid)).Nodup)
    (hmessage : dssePae payloadType payload = .ok message)
    (hof : List.Forall₂ (KeyOf policy) envelope.signatures keys)
    (hsigns : List.Forall₂ (Signs R message) envelope.signatures keys)
    (heligible : ∀ key ∈ keys, Eligible key payloadType instant)
    (hidentities : (keys.map (·.identity)).Nodup)
    (hthreshold : policy.threshold ≤ envelope.signatures.length) :
    QuorumMet R policy envelope payloadType payload instant := by
  have hunique : ∀ {signature : DsseSignature} {key key' : TrustedKey},
      KeyOf policy signature key → KeyOf policy signature key' → key = key' :=
    fun hkey hkey' => List.inj_on_of_nodup_map policy.keyIds_nodup hkey.1 hkey'.1
      (hkey.2.trans hkey'.2.symm)
  refine ⟨htype, hpayload, hnodup, ⟨message, hmessage, fun signature hsignature => ?_⟩, ?_,
    hthreshold⟩
  · obtain ⟨key, hkey, hkeyOf, hverifies⟩ := exists_of_forall₂_left (forall₂_both hof hsigns)
      hsignature
    exact ⟨key, hkeyOf.1, hkeyOf.2, heligible key hkey, hverifies⟩
  · intro signature hsignature signature' hsignature' key hkey key' hkey' hid hid' hidentity
    obtain ⟨other, hother, hotherOf⟩ := exists_of_forall₂_left hof hsignature
    obtain ⟨other', hother', hotherOf'⟩ := exists_of_forall₂_left hof hsignature'
    obtain rfl := hunique hotherOf ⟨hkey, hid⟩
    obtain rfl := hunique hotherOf' ⟨hkey', hid'⟩
    have hsame : other = other' := List.inj_on_of_nodup_map hidentities hother hother' hidentity
    rw [← hid, ← hid', hsame]

/-- The last stages accept exactly by the rule, and what they accept are the signers. -/
theorem acceptSigners_ok {policy : TrustPolicy} {envelope : DsseEnvelope} {payloadType : Text}
    {payload : Bytes} {admittedAt : Nat} {accepted : Accepted} :
    acceptSigners R policy envelope payloadType payload admittedAt = .ok accepted
      ↔ QuorumMet R policy envelope payloadType payload admittedAt
        ∧ ∃ keys, List.Forall₂ (KeyOf policy) envelope.signatures keys
          ∧ (keys.map (·.identity)).Nodup ∧ accepted = collect {} keys := by
  have hchecks : acceptSigners R policy envelope payloadType payload admittedAt = .ok accepted
      ↔ checkPayload envelope payloadType payload = .ok () ∧ ∃ keys,
        selectKeys policy envelope = .ok keys ∧ checkKeys keys payloadType admittedAt = .ok ()
        ∧ ∃ message, dssePae envelope.payloadType payload = .ok message
        ∧ envelope.signatures.length = keys.length
        ∧ (envelope.signatures.zip keys).foldlM (acceptSignature R message) {} = .ok accepted
        ∧ policy.threshold ≤ accepted.identities.length := by
    simp only [acceptSigners, bind_eq_ok, require_eq_ok, mapError_eq_ok, pure_eq_ok]
    constructor
    · rintro ⟨_, hpayload, keys, hkeys, _, hchecked, message, hmessage, _, hlength, result, hloop,
        _, hthreshold, rfl⟩
      exact ⟨hpayload, keys, hkeys, hchecked, message, hmessage, hlength, hloop, hthreshold⟩
    · rintro ⟨hpayload, keys, hkeys, hchecked, message, hmessage, hlength, hloop, hthreshold⟩
      exact ⟨(), hpayload, keys, hkeys, (), hchecked, message, hmessage, (), hlength, accepted,
        hloop, (), hthreshold, rfl⟩
  rw [hchecks, checkPayload_ok]
  constructor
  · rintro ⟨⟨rfl, hpayload⟩, keys, hkeys, hchecked, message, hmessage, hlength, hloop, hthreshold⟩
    obtain ⟨hnodup, hof, hidentities⟩ := selectKeys_ok.mp hkeys
    obtain ⟨hsigns, rfl⟩ := (acceptLoop_ok hlength).mp hloop
    have hcount : (collect {} keys).identities.length = envelope.signatures.length := by
      have hids : (keys.map (·.keyId)).Nodup := by
        rw [keyIds_eq hof]
        exact hnodup
      rw [(collect_perm hids hidentities).2.length_eq, List.length_map, ← hlength]
    refine ⟨quorumMet_of_keys rfl hpayload hnodup hmessage hof hsigns (checkKeys_ok.mp hchecked)
      hidentities ?_, keys, hof, hidentities, rfl⟩
    rw [← hcount]
    exact hthreshold
  · rintro ⟨hmet, keys, hof, hidentities, rfl⟩
    obtain ⟨message, keys', hmessage, hof', hsigns, heligible, _⟩ := hmet.keys
    obtain rfl := keys_unique hof hof'
    have hids : (keys.map (·.keyId)).Nodup := by
      rw [keyIds_eq hof]
      exact hmet.keyIdsDistinct
    have hlength := hof.length_eq
    refine ⟨⟨hmet.typeExpected, hmet.payloadExpected⟩, keys,
      selectKeys_ok.mpr ⟨hmet.keyIdsDistinct, hof, hidentities⟩, checkKeys_ok.mpr heligible,
      message, ?_, hlength, (acceptLoop_ok hlength).mpr ⟨hsigns, rfl⟩, ?_⟩
    · rw [hmet.typeExpected]
      exact hmessage
    · rw [(collect_perm hids hidentities).2.length_eq, List.length_map, ← hlength]
      exact hmet.threshold

theorem quiet_acceptSigners (policy : TrustPolicy) (envelope : DsseEnvelope) (payloadType : Text)
    (payload : Bytes) (admittedAt : Nat) :
    Quiet (acceptSigners R policy envelope payloadType payload admittedAt) := by
  refine quiet_bind (quiet_checkPayload _ _ _) fun _ _ => quiet_bind (quiet_selectKeys _ _)
    fun keys hkeys => quiet_bind (quiet_checkKeys _ _ _) fun _ _ => quiet_bind (quiet_of_ok ?_)
      fun message _ => quiet_bind ?_ fun _ _ => quiet_bind (quiet_foldlM fun accepted pair _ => ?_)
        fun _ _ => quiet_bind (quiet_require rfl) fun _ _ => quiet_ok _
  · rw [dssePae, encodeText_visible envelope.payloadTypeSafe]
    exact ⟨_, rfl⟩
  · -- one key was selected for each signature
    have hlength := (selectKeys_ok.mp hkeys).2.1.length_eq
    rw [require_pos hlength]
    exact quiet_ok ()
  · exact quiet_bind (quiet_verifySignature _ _ _) fun _ _ => quiet_ok _

end ControlAssurance.Attestation
