import ControlAssurance.Attestation.Policy
import ControlAssurance.Attestation.PreflightFuel
import ControlAssurance.Attestation.PreflightLaws

/-!
# The preflight is transparent

A document that the parser accepts, as an envelope or as a policy, passes the preflight. What the
model reads off the loaded document is carried back to the tree of the text: `loaded` keeps the
number of members and items, and a name or a base64 text is its own units, since joining surrogates
only makes code points beyond the basic plane.
-/

namespace ControlAssurance.Attestation

open Lib

/-! ## A loaded tree -/

section Loaded

variable {parseFloat : List Char → Bool}

/-- Joined surrogates are beyond the basic plane, so a text without such code points is plain. -/
theorem joinSurrogates_plain (units : List Nat)
    (h : ∀ code ∈ joinSurrogates units, code < 0x10000) : joinSurrogates units = units := by
  fun_induction joinSurrogates units with
  | case1 high low rest hpair ih =>
    have hjoined := h _ (List.mem_cons_self ..)
    omega
  | case2 high low rest hpair ih =>
    rw [ih fun code hcode => h code (List.mem_cons_of_mem _ hcode)]
  | case3 units _ => rfl

/-- Units below the surrogates are not joined. -/
theorem joinSurrogates_low (units : List Nat) (h : ∀ code ∈ units, code < 0xD800) :
    joinSurrogates units = units := by
  fun_induction joinSurrogates units with
  | case1 high low rest hpair ih =>
    have hhigh := h high (List.mem_cons_self ..)
    omega
  | case2 high low rest hpair ih =>
    rw [ih fun code hcode => h code (List.mem_cons_of_mem _ hcode)]
  | case3 units _ => rfl

theorem loadedItems_forall₂ : ∀ {items : List JsonTree} {values : List JsonValue},
    loadedItems parseFloat items = some values →
      List.Forall₂ (fun item value => loaded parseFloat item = some value) items values
  | [], values, h => by
    rw [loadedItems] at h
    obtain rfl := Option.some.inj h
    exact .nil
  | item :: items, values, h => by
    rw [loadedItems, Option.bind_eq_some_iff] at h
    obtain ⟨value, hvalue, hrest⟩ := h
    obtain ⟨others, hothers, rfl⟩ := Option.map_eq_some_iff.mp hrest
    exact .cons hvalue (loadedItems_forall₂ hothers)

/-- A member and what it is loaded as. -/
def LoadsMember (parseFloat : List Char → Bool) (member : List Nat × JsonTree)
    (entry : Text × JsonValue) : Prop :=
  entry.1 = joinSurrogates member.1 ∧ loaded parseFloat member.2 = some entry.2

theorem loadedMembers_forall₂ : ∀ {members : List (List Nat × JsonTree)} {entries : Members},
    loadedMembers parseFloat members = some entries →
      List.Forall₂ (LoadsMember parseFloat) members entries
  | [], entries, h => by
    rw [loadedMembers] at h
    obtain rfl := Option.some.inj h
    exact .nil
  | (name, item) :: members, entries, h => by
    rw [loadedMembers, Option.bind_eq_some_iff] at h
    obtain ⟨value, hvalue, hrest⟩ := h
    obtain ⟨others, hothers, rfl⟩ := Option.map_eq_some_iff.mp hrest
    exact .cons ⟨rfl, hvalue⟩ (loadedMembers_forall₂ hothers)

/-- The tree that a value was loaded from. -/
def LoadedFrom (parseFloat : List Char → Bool) (tree : JsonTree) : JsonValue → Prop
  | .dict entries => ∃ members, tree = .object members
    ∧ List.Forall₂ (LoadsMember parseFloat) members entries ∧ (entries.map (·.1)).Nodup
  | .list values => ∃ items, tree = .array items
    ∧ List.Forall₂ (fun item value => loaded parseFloat item = some value) items values
  | .string value => ∃ units, tree = .string units ∧ joinSurrogates units = value
  | _ => tree = .null ∨ (∃ value, tree = .bool value) ∨ ∃ digits, tree = .number digits

/-- By the shape of the tree. -/
theorem loaded_from {tree : JsonTree} {value : JsonValue}
    (h : loaded parseFloat tree = some value) : LoadedFrom parseFloat tree value := by
  cases tree with
  | null =>
    rw [loaded] at h
    obtain rfl := Option.some.inj h
    exact .inl rfl
  | bool value =>
    rw [loaded] at h
    obtain rfl := Option.some.inj h
    exact .inr (.inl ⟨value, rfl⟩)
  | number digits =>
    have hleaf : value.isNumber = true := by
      rw [loaded, loadNumber] at h
      split at h
      · split at h <;> cases h
        rfl
      · obtain ⟨n, _, rfl⟩ := Option.map_eq_some_iff.mp h
        rfl
    cases value with
    | int n => exact .inr (.inr ⟨digits, rfl⟩)
    | float source => exact .inr (.inr ⟨digits, rfl⟩)
    | null => cases hleaf
    | bool value => cases hleaf
    | string value => cases hleaf
    | list values => cases hleaf
    | dict entries => cases hleaf
  | string units =>
    rw [loaded] at h
    obtain rfl := Option.some.inj h
    exact ⟨units, rfl, rfl⟩
  | array items =>
    rw [loaded] at h
    obtain ⟨values, hvalues, rfl⟩ := Option.map_eq_some_iff.mp h
    exact ⟨items, rfl, loadedItems_forall₂ hvalues⟩
  | object members =>
    rw [loaded, Option.bind_eq_some_iff] at h
    obtain ⟨entries, hentries, hdict⟩ := h
    split at hdict
    · rename_i hnodup
      obtain rfl := Option.some.inj hdict
      exact ⟨members, rfl, loadedMembers_forall₂ hentries, hnodup⟩
    · cases hdict

end Loaded

/-! ## Reading a dictionary -/

variable {name : Text} {entries : Members}

/-- With distinct names, what a lookup finds is the entry under the name. -/
theorem lookup_of_mem (hnodup : (entries.map (·.1)).Nodup)
    {value : JsonValue} (h : (name, value) ∈ entries) : entries.lookup name = some value := by
  induction entries with
  | nil => cases h
  | cons entry entries ih =>
    obtain ⟨hfresh, hrest⟩ := List.nodup_cons.mp hnodup
    rcases List.mem_cons.mp h with rfl | h
    · exact List.lookup_cons_self
    · have hne : name ≠ entry.1 := by
        rintro rfl
        exact hfresh (List.mem_map_of_mem (f := (·.1)) h)
      have hother : (name == entry.1) = false := by simpa using hne
      rw [List.lookup_cons, hother]
      exact ih hrest h

/-- A dictionary without other names than the fields has no more entries than there are fields. -/
theorem entries_bounded {fields : List Text}
    (hnodup : (entries.map (·.1)).Nodup) (hfields : ∀ entry ∈ entries, entry.1 ∈ fields) :
    entries.length ≤ fields.length := by
  have hsubset : entries.map (·.1) ⊆ fields := by
    intro name hname
    obtain ⟨entry, hentry, rfl⟩ := List.mem_map.mp hname
    exact hfields entry hentry
  have hlength := List.Nodup.length_le_of_subset hnodup hsubset
  rwa [List.length_map] at hlength

variable {L : PreflightLimits}

theorem withinItems_iff {depth : Nat} {items : List JsonTree} :
    WithinItems L depth items ↔ ∀ item ∈ items, Within L depth false none item := by
  induction items with
  | nil => simp [WithinItems]
  | cons item items ih => simp [WithinItems, ih]

theorem withinMembers_iff {depth : Nat} {members : List (List Nat × JsonTree)} :
    WithinMembers L depth members ↔ ∀ member ∈ members,
      Within L depth (isPayloadMember L depth (capturedName member.1))
        (allowedTypesLimit L (capturedName member.1)) member.2 := by
  induction members with
  | nil => simp [WithinMembers]
  | cons member members ih =>
    obtain ⟨name, item⟩ := member
    simp [WithinMembers, ih]

/-- A captured name below the surrogates is the name that was loaded. -/
theorem captured_eq {name : List Nat} {known : Text} (hlow : ∀ code ∈ known, code < 0xD800)
    (h : capturedName name = some known) : joinSurrogates name = known := by
  rw [capturedName] at h
  split at h
  · obtain rfl := Option.some.inj h
    exact joinSurrogates_low name hlow
  · cases h

/-! ## Within the limits -/

variable {parseFloat : List Char → Bool} {tree : JsonTree} {depth : Nat} {payload : Bool}
  {itemLimit : Option Nat}

/-- A canonical payload is within the limits of the preflight. -/
theorem payloadWithin_of_safe {units : List Nat} (h : PayloadSafe (joinSurrogates units)) :
    PayloadWithin units := by
  obtain ⟨decoded, hdecoded⟩ := isOk_iff.mp h
  simp only [decodePayload, bind_eq_ok, require_eq_ok, pure_eq_ok] at hdecoded
  obtain ⟨bytes, hbytes, _, hbounded, rfl⟩ := hdecoded
  obtain ⟨⟨hlength, hencoded⟩, _⟩ := canonicalBase64Decode_ok hbytes
  have hplain : joinSurrogates units = units := by
    refine joinSurrogates_plain units fun code hcode => ?_
    rw [← hencoded] at hcode
    have := b64encode_ascii bytes code hcode
    omega
  rw [hplain] at hlength hencoded
  obtain ⟨_, hcount, _⟩ := canonical_length bytes
  rw [hencoded] at hcount
  refine ⟨hlength, fun _ => ?_⟩
  rw [hcount]
  exact hbounded

theorem string_within {value : Text} (h : loaded parseFloat tree = some (.string value))
    (hsafe : payload = true → PayloadSafe value) : Within L depth payload itemLimit tree := by
  obtain ⟨units, rfl, rfl⟩ := loaded_from h
  rw [Within]
  exact fun hpayload => payloadWithin_of_safe (hsafe hpayload)

theorem int_within {value : Int} (h : loaded parseFloat tree = some (.int value)) :
    Within L depth payload itemLimit tree := by
  rcases loaded_from h with rfl | ⟨_, rfl⟩ | ⟨_, rfl⟩
  · simp [Within]
  · simp [Within]
  · simp [Within]

theorem null_within (h : loaded parseFloat tree = some .null) :
    Within L depth payload itemLimit tree := by
  rcases loaded_from h with rfl | ⟨_, rfl⟩ | ⟨_, rfl⟩
  · simp [Within]
  · simp [Within]
  · simp [Within]

/-- A list within the limits, whose items are. -/
theorem list_within {values : List JsonValue} (h : loaded parseFloat tree = some (.list values))
    (hdepth : depth + 1 ≤ L.maxContainers) (hlength : values.length ≤ L.maxCollectionItems)
    (hlimit : ∀ limit ∈ itemLimit, values.length ≤ limit)
    (hitems : ∀ item value, value ∈ values → loaded parseFloat item = some value →
      Within L (depth + 1) false none item) : Within L depth payload itemLimit tree := by
  obtain ⟨items, rfl, hall⟩ := loaded_from h
  rw [Within, hall.length_eq, withinItems_iff]
  refine ⟨hdepth, hlength, hlimit, fun item hitem => ?_⟩
  obtain ⟨value, hvalue, hloaded⟩ := exists_of_forall₂_left hall hitem
  exact hitems item value hvalue hloaded

/-- A dictionary of known fields, whose members are within the limits. -/
theorem dict_within {fields : List Text} (h : loaded parseFloat tree = some (.dict entries))
    (hextra : ∀ entry ∈ entries, entry.1 ∈ fields) (hdepth : depth + 1 ≤ L.maxContainers)
    (hlength : fields.length ≤ L.maxCollectionItems)
    (hmembers : ∀ name item value, joinSurrogates name ∈ fields →
      loaded parseFloat item = some value → entries.lookup (joinSurrogates name) = some value →
      Within L (depth + 1) (isPayloadMember L (depth + 1) (capturedName name))
        (allowedTypesLimit L (capturedName name)) item) :
    Within L depth payload itemLimit tree := by
  obtain ⟨members, rfl, hall, hnodup⟩ := loaded_from h
  have hbounded := entries_bounded hnodup hextra
  rw [Within, hall.length_eq, withinMembers_iff]
  refine ⟨hdepth, by omega, fun member hmember => ?_⟩
  obtain ⟨entry, hentry, hname, hloaded⟩ := exists_of_forall₂_left hall hmember
  refine hmembers member.1 member.2 entry.2 ?_ hloaded ?_
  · rw [← hname]
    exact hextra entry hentry
  · rw [← hname]
    exact lookup_of_mem hnodup hentry

/-! ## Envelopes -/

theorem expect_field {value : JsonValue} :
    field name entries = .ok value ↔ entries.lookup name = some value := expect_eq_ok

theorem asString_ok {value : JsonValue} {s : Text} (h : asString value = .ok s) :
    value = .string s := by
  cases value with
  | string t =>
    obtain rfl := Except.ok.inj h
    rfl
  | null => cases h
  | bool b => cases h
  | int n => cases h
  | float source => cases h
  | list values => cases h
  | dict entries => cases h

theorem asList_ok {value : JsonValue} {items : List JsonValue} (h : asList value = .ok items) :
    value = .list items := by
  cases value with
  | list values =>
    obtain rfl := Except.ok.inj h
    rfl
  | null => cases h
  | bool b => cases h
  | int n => cases h
  | float source => cases h
  | string t => cases h
  | dict entries => cases h

theorem asDict_ok {value : JsonValue} (h : asDict value = .ok entries) :
    value = .dict entries := by
  cases value with
  | dict others =>
    obtain rfl := Except.ok.inj h
    rfl
  | null => cases h
  | bool b => cases h
  | int n => cases h
  | float source => cases h
  | string t => cases h
  | list values => cases h

variable {document : JsonValue} {envelope : DsseEnvelope} {bytes : Bytes} {J : JsonRuntime}

/-- What a valid signature document holds: two strings. -/
theorem DsseSignature.modelValidate_ok {signature : DsseSignature}
    (h : DsseSignature.modelValidate document = .ok signature) :
    ∃ entries, document = .dict entries ∧ (∀ entry ∈ entries, entry.1 ∈ signatureFields)
      ∧ entries.lookup (text "keyid") = some (.string signature.keyid)
      ∧ entries.lookup (text "sig") = some (.string signature.sig) := by
  simp only [DsseSignature.modelValidate, forbidExtra, bind_eq_ok, require_eq_ok, pure_eq_ok,
    expect_field] at h
  obtain ⟨entries, hdict, _, hextra, keyid, ⟨_, hkeyid, hkeyid'⟩, sig, ⟨_, hsig, hsig'⟩, _, _, _,
    _, rfl⟩ := h
  obtain rfl := asDict_ok hdict
  obtain rfl := asString_ok hkeyid'
  obtain rfl := asString_ok hsig'
  exact ⟨entries, rfl, hextra, hkeyid, hsig⟩

/-- What a valid envelope document holds. -/
theorem DsseEnvelope.modelValidate_ok (h : DsseEnvelope.modelValidate document = .ok envelope) :
    ∃ entries items, document = .dict entries ∧ (∀ entry ∈ entries, entry.1 ∈ envelopeFields)
      ∧ entries.lookup (text "payloadType") = some (.string envelope.payloadType)
      ∧ entries.lookup (text "payload") = some (.string envelope.payload)
      ∧ entries.lookup (text "signatures") = some (.list items)
      ∧ items.mapM DsseSignature.modelValidate = .ok envelope.signatures := by
  simp only [DsseEnvelope.modelValidate, forbidExtra, bind_eq_ok, require_eq_ok, pure_eq_ok,
    expect_field] at h
  obtain ⟨entries, hdict, _, hextra, payloadType, ⟨_, htype, htype'⟩, payload,
    ⟨_, hpayload, hpayload'⟩, items, ⟨_, hitems, hitems'⟩, signatures, hsignatures, _, _, _, _, _,
    _, rfl⟩ := h
  obtain rfl := asDict_ok hdict
  obtain rfl := asString_ok htype'
  obtain rfl := asString_ok hpayload'
  obtain rfl := asList_ok hitems'
  exact ⟨entries, items, rfl, hextra, htype, hpayload, hitems, hsignatures⟩

theorem signature_within {signature : DsseSignature}
    (hloaded : loaded parseFloat tree = some document)
    (h : DsseSignature.modelValidate document = .ok signature) :
    Within envelopePreflight 2 false none tree := by
  obtain ⟨entries, rfl, hextra, hkeyid, hsig⟩ := DsseSignature.modelValidate_ok h
  refine dict_within hloaded hextra (by decide) (by decide) fun name item value hname hitem
    hlookup => ?_
  have hflag : isPayloadMember envelopePreflight (2 + 1) (capturedName name) = false := rfl
  rw [hflag]
  simp only [signatureFields, List.mem_cons, List.not_mem_nil, or_false] at hname
  rcases hname with hname | hname
  · rw [hname, hkeyid] at hlookup
    obtain rfl := Option.some.inj hlookup
    exact string_within hitem (fun hpayload => by cases hpayload)
  · rw [hname, hsig] at hlookup
    obtain rfl := Option.some.inj hlookup
    exact string_within hitem (fun hpayload => by cases hpayload)

/-- A valid envelope is within the limits of its preflight. -/
theorem envelope_within (hloaded : loaded parseFloat tree = some document)
    (h : DsseEnvelope.modelValidate document = .ok envelope) :
    Within envelopePreflight 0 false none tree := by
  obtain ⟨entries, items, rfl, hextra, htype, hpayload, hsignatures, hall⟩ :=
    DsseEnvelope.modelValidate_ok h
  refine dict_within hloaded hextra (by decide) (by decide) fun name item value hname hitem
    hlookup => ?_
  -- the only string under the payload's limit is the payload
  have hflag : isPayloadMember envelopePreflight (0 + 1) (capturedName name) = true →
      joinSurrogates name = text "payload" := by
    intro hflag
    have hname : capturedName name = some (text "payload") := by
      simpa [isPayloadMember, envelopePreflight] using hflag
    exact captured_eq (by decide) hname
  have hunlimited : allowedTypesLimit envelopePreflight (capturedName name) = none := rfl
  rw [hunlimited]
  simp only [envelopeFields, List.mem_cons, List.not_mem_nil, or_false] at hname
  rcases hname with hname | hname | hname
  · rw [hname, htype] at hlookup
    obtain rfl := Option.some.inj hlookup
    refine string_within hitem fun hpayload' => ?_
    have hother : text "payloadType" = text "payload" := by rw [← hname, hflag hpayload']
    exact absurd hother (by decide)
  · rw [hname, hpayload] at hlookup
    obtain rfl := Option.some.inj hlookup
    exact string_within hitem fun _ => envelope.payloadSafe
  · rw [hname, hsignatures] at hlookup
    obtain rfl := Option.some.inj hlookup
    have hcount : items.length = envelope.signatures.length := mapM_length hall
    refine list_within hitem (by decide) ?_ (fun limit hlimit => nomatch hlimit) ?_
    · rw [hcount]
      exact envelope.signaturesBounded
    · intro item value hvalue hitem
      obtain ⟨signature, _, hsignature⟩ := mapM_answer hall value hvalue
      exact signature_within hitem hsignature

/-! ## Policies -/

theorem asInt_ok {value : JsonValue} {n : Int} (h : asInt value = .ok n) : value = .int n := by
  cases value with
  | int m =>
    obtain rfl := Except.ok.inj h
    rfl
  | null => cases h
  | bool b => cases h
  | string t => cases h
  | float source => cases h
  | list values => cases h
  | dict entries => cases h

theorem asStatus_ok {value : JsonValue} {status : KeyStatus} (h : asStatus value = .ok status) :
    ∃ s, value = .string s := by
  cases value with
  | string t => exact ⟨t, rfl⟩
  | null => cases h
  | bool b => cases h
  | int n => cases h
  | float source => cases h
  | list values => cases h
  | dict entries => cases h

/-- An optional string, where it stands in the document, is null or a string. -/
theorem optionalString_within {found : Option Text}
    (h : optionalString name entries = .ok found) {value : JsonValue}
    (hlookup : entries.lookup name = some value) (hloaded : loaded parseFloat tree = some value) :
    Within L depth false itemLimit tree := by
  rw [optionalString, hlookup] at h
  by_cases hnull : value = .null
  · subst hnull
    exact null_within hloaded
  · have hstring : ∃ s, asString value = .ok s := by
      cases value with
      | null => exact absurd rfl hnull
      | string s => exact ⟨s, rfl⟩
      | bool b => cases h
      | int n => cases h
      | float source => cases h
      | list values => cases h
      | dict members => cases h
    obtain ⟨s, hs⟩ := hstring
    obtain rfl := asString_ok hs
    exact string_within hloaded (fun hpayload => nomatch hpayload)

/-- The only array under a limit of its own is that of the payload types. -/
theorem allowedTypesLimit_name {name : List Nat} {limit : Nat}
    (h : limit ∈ allowedTypesLimit L (capturedName name)) :
    limit = maxAllowedPayloadTypes ∧ joinSurrogates name = text "allowed_payload_types" := by
  rw [allowedTypesLimit] at h
  split at h
  · rename_i hname
    obtain ⟨_, hname⟩ := Bool.and_eq_true_iff.mp hname
    exact ⟨(Option.some.inj h).symm, captured_eq (by decide) (by simpa using hname)⟩
  · cases h

/-- A valid key is within the limits of the policy's preflight. -/
theorem trustedKey_within {key : TrustedKey} (hloaded : loaded parseFloat tree = some document)
    (h : TrustedKey.modelValidate document = .ok key) :
    Within policyPreflight 2 false none tree := by
  simp only [TrustedKey.modelValidate, forbidExtra, bind_eq_ok, require_eq_ok, pure_eq_ok,
    expect_field] at h
  obtain ⟨entries, hdict, _, hextra, keyId, ⟨_, hkeyId, hkeyId'⟩, identity,
    ⟨_, hidentity, hidentity'⟩, algorithm, ⟨_, halgorithm, halgorithm'⟩, publicKey,
    ⟨_, hpublicKey, hpublicKey'⟩, items, ⟨_, hitems, hitems'⟩, allowed, hallowed, validFrom,
    ⟨_, hfrom, hfrom'⟩, validUntil, huntil, status, ⟨_, hstatus, hstatus'⟩, revocation, hrevocation,
    _, _, _, _, _, _, _, _, ⟨hexplicit⟩, _, _, _, _, _, rfl⟩ := h
  obtain rfl := asDict_ok hdict
  obtain rfl := asString_ok hkeyId'
  obtain rfl := asString_ok hidentity'
  obtain rfl := asString_ok halgorithm'
  obtain rfl := asString_ok hpublicKey'
  obtain rfl := asList_ok hitems'
  obtain rfl := asString_ok hfrom'
  obtain ⟨statusValue, rfl⟩ := asStatus_ok hstatus'
  refine dict_within hloaded hextra (by decide) (by decide) fun name item value hname hitem
    hlookup => ?_
  have hflag : isPayloadMember policyPreflight (2 + 1) (capturedName name) = false := rfl
  rw [hflag]
  have hstring : ∀ {known s : Text}, entries.lookup known = some (.string s) →
      joinSurrogates name = known → Within policyPreflight (2 + 1) false
        (allowedTypesLimit policyPreflight (capturedName name)) item := by
    intro known s hknown heq
    rw [heq, hknown] at hlookup
    obtain rfl := Option.some.inj hlookup
    exact string_within hitem (fun hpayload => by cases hpayload)
  simp only [trustedKeyFields, List.mem_cons, List.not_mem_nil, or_false] at hname
  rcases hname with hname | hname | hname | hname | hname | hname | hname | hname | hname
  · exact hstring hkeyId hname
  · exact hstring hidentity hname
  · exact hstring halgorithm hname
  · exact hstring hpublicKey hname
  · rw [hname, hitems] at hlookup
    obtain rfl := Option.some.inj hlookup
    have hcount : items.length = allowed.length := mapM_length hallowed
    have hbounded : items.length ≤ maxAllowedPayloadTypes := by
      rw [hcount]
      exact hexplicit.1
    refine list_within hitem (by decide) (by
      have hfew : maxAllowedPayloadTypes ≤ policyPreflight.maxCollectionItems := by decide
      omega) (fun limit hlimit => ?_) ?_
    · rw [(allowedTypesLimit_name hlimit).1]
      exact hbounded
    · intro item value hvalue hitem
      obtain ⟨s, _, hs⟩ := mapM_answer hallowed value hvalue
      obtain rfl := asString_ok hs
      exact string_within hitem (fun hpayload => by cases hpayload)
  · exact hstring hfrom hname
  · exact optionalString_within huntil (hname ▸ hlookup) hitem
  · exact hstring hstatus hname
  · exact optionalString_within hrevocation (hname ▸ hlookup) hitem

/-- A valid policy is within the limits of its preflight. -/
theorem policy_within {policy : TrustPolicy} (hloaded : loaded parseFloat tree = some document)
    (h : TrustPolicy.modelValidate document = .ok policy) :
    Within policyPreflight 0 false none tree := by
  simp only [TrustPolicy.modelValidate, forbidExtra, bind_eq_ok, require_eq_ok, pure_eq_ok,
    expect_field] at h
  obtain ⟨entries, hdict, _, hextra, mediaType, ⟨_, hmedia, hmedia'⟩, schemaVersion,
    ⟨_, hschema, hschema'⟩, policyId, ⟨_, hpolicyId, hpolicyId'⟩, threshold,
    ⟨_, hthreshold, hthreshold'⟩, items, ⟨_, hitems, hitems'⟩, keys, hkeys, _, _, _, _, _, _, _, _,
    ⟨hbounded⟩, _, _, _, rfl⟩ := h
  obtain rfl := asDict_ok hdict
  obtain rfl := asString_ok hmedia'
  obtain rfl := asString_ok hschema'
  obtain rfl := asString_ok hpolicyId'
  obtain rfl := asInt_ok hthreshold'
  obtain rfl := asList_ok hitems'
  refine dict_within hloaded hextra (by decide) (by decide) fun name item value hname hitem
    hlookup => ?_
  have hflag : isPayloadMember policyPreflight (0 + 1) (capturedName name) = false := rfl
  rw [hflag]
  have hstring : ∀ {known s : Text}, entries.lookup known = some (.string s) →
      joinSurrogates name = known → Within policyPreflight (0 + 1) false
        (allowedTypesLimit policyPreflight (capturedName name)) item := by
    intro known s hknown heq
    rw [heq, hknown] at hlookup
    obtain rfl := Option.some.inj hlookup
    exact string_within hitem (fun hpayload => by cases hpayload)
  simp only [trustPolicyFields, List.mem_cons, List.not_mem_nil, or_false] at hname
  rcases hname with hname | hname | hname | hname | hname
  · exact hstring hmedia hname
  · exact hstring hschema hname
  · exact hstring hpolicyId hname
  · rw [hname, hthreshold] at hlookup
    obtain rfl := Option.some.inj hlookup
    exact int_within hitem
  · rw [hname, hitems] at hlookup
    obtain rfl := Option.some.inj hlookup
    have hcount : items.length = keys.length := mapM_length hkeys
    refine list_within hitem (by decide) (by rw [hcount]; exact hbounded) (fun limit hlimit => ?_)
      ?_
    · have hother : text "trusted_keys" = text "allowed_payload_types" := by
        rw [← hname, (allowedTypesLimit_name hlimit).2]
      exact absurd hother (by decide)
    · intro item value hvalue hitem
      obtain ⟨key, _, hkey⟩ := mapM_answer hkeys value hvalue
      exact trustedKey_within hitem hkey

/-! ## The parsers -/

/-- `parse_dsse_envelope` with the preflight left out. -/
def parseEnvelopeUnscanned (J : JsonRuntime) (envelopeBytes : Bytes) :
    Except PreflightError DsseEnvelope := do
  require (envelopeBytes.length ≤ maxEnvelopeBytes)
    (.resource "DSSE envelope exceeds the profile byte limit")
  envelopeDocument J envelopeBytes

/-- `parse_trust_policy` with the preflight left out. -/
def parsePolicyUnscanned (R : CanonicalRuntime) (policyBytes : Bytes) :
    Except PreflightError TrustPolicy := do
  require (policyBytes.length ≤ maxTrustPolicyBytes)
    (.resource "trust policy exceeds the profile byte limit")
  policyDocument R policyBytes

/-- A strictly loaded document comes from a text of the grammar. -/
theorem strictJsonLoads_text (hJ : J.Implements) {limits : JsonLimits}
    (h : strictJsonLoads J limits bytes = .ok document) :
    ∃ chars tree, bytes = utf8 chars ∧ JsonText chars tree
      ∧ loaded J.parseFloat tree = some document := by
  simp only [strictJsonLoads, bind_eq_ok, require_eq_ok, expect_eq_ok, pure_eq_ok] at h
  obtain ⟨_, _, _, _, chars, hchars, value, hvalue, _, _, rfl⟩ := h
  obtain ⟨tree, htext, htree⟩ := hJ chars value hvalue
  exact ⟨chars, tree, decodeUtf8_eq_some.mp hchars, htext, htree⟩

theorem envelope_passes (hJ : J.Implements)
    (hdocument : strictJsonLoads J envelopeJsonLimits bytes = .ok document)
    (hmodel : DsseEnvelope.modelValidate document = .ok envelope) :
    preflightJsonStructure envelopePreflight bytes = .ok () := by
  obtain ⟨chars, tree, rfl, htext, hloaded⟩ := strictJsonLoads_text hJ hdocument
  exact (preflight_text htext).mpr (envelope_within hloaded hmodel)

theorem policy_passes (hJ : J.Implements) {policy : TrustPolicy}
    (hdocument : strictJsonLoads J trustPolicyJsonLimits bytes = .ok document)
    (hmodel : TrustPolicy.modelValidate document = .ok policy) :
    preflightJsonStructure policyPreflight bytes = .ok () := by
  obtain ⟨chars, tree, rfl, htext, hloaded⟩ := strictJsonLoads_text hJ hdocument
  exact (preflight_text htext).mpr (policy_within hloaded hmodel)

theorem envelope_unscanned (hJ : J.Implements) (bytes : Bytes)
    (envelope : DsseEnvelope) : parseDsseEnvelope J bytes = .ok envelope
      ↔ parseEnvelopeUnscanned J bytes = .ok envelope := by
  simp only [parseDsseEnvelope, parseEnvelopeUnscanned, bind_eq_ok]
  constructor
  · rintro ⟨_, hsize, _, _, hdocument⟩
    exact ⟨(), hsize, hdocument⟩
  · rintro ⟨_, hsize, hdocument⟩
    have hparts := hdocument
    simp only [envelopeDocument, bind_eq_ok, mapError_eq_ok] at hparts
    obtain ⟨_, hloads, _, _, _, _, hmodel⟩ := hparts
    exact ⟨(), hsize, (), envelope_passes hJ hloads hmodel, hdocument⟩

theorem policy_unscanned {R : CanonicalRuntime} (hR : R.Implements) (bytes : Bytes)
    (policy : TrustPolicy) : parseTrustPolicy R bytes = .ok policy
      ↔ parsePolicyUnscanned R bytes = .ok policy := by
  simp only [parseTrustPolicy, parsePolicyUnscanned, bind_eq_ok]
  constructor
  · rintro ⟨_, hsize, _, _, hdocument⟩
    exact ⟨(), hsize, hdocument⟩
  · rintro ⟨_, hsize, hdocument⟩
    have hparts := hdocument
    simp only [policyDocument, bind_eq_ok, mapError_eq_ok] at hparts
    obtain ⟨_, hloads, _, _, _, hmodel, _⟩ := hparts
    exact ⟨(), hsize, (), policy_passes hR hloads hmodel, hdocument⟩

/-- The preflight in front of the parsers: what they accept without it passes it, so they accept
the same with it; a document that passes is within its bounds; and it ends on any bytes. -/
theorem preflight_transparent {R : CanonicalRuntime} (hR : R.Implements) (bytes : Bytes) :
    (∀ document entries envelope,
        strictJsonLoads R.toJsonRuntime envelopeJsonLimits bytes = .ok document →
        document = .dict entries → validateRawEnvelopeShape entries = .ok () →
        DsseEnvelope.modelValidate document = .ok envelope →
        preflightJsonStructure envelopePreflight bytes = .ok ())
      ∧ (∀ document policy,
        strictJsonLoads R.toJsonRuntime trustPolicyJsonLimits bytes = .ok document →
        TrustPolicy.modelValidate document = .ok policy →
        preflightJsonStructure policyPreflight bytes = .ok ())
      ∧ (∀ envelope, parseDsseEnvelope R.toJsonRuntime bytes = .ok envelope
        ↔ parseEnvelopeUnscanned R.toJsonRuntime bytes = .ok envelope)
      ∧ (∀ policy, parseTrustPolicy R bytes = .ok policy ↔ parsePolicyUnscanned R bytes = .ok policy)
      ∧ (∀ L, preflightJsonStructure L bytes = .ok () →
        ∀ chars tree, bytes = utf8 chars → JsonText chars tree →
          tree.nesting ≤ L.maxContainers ∧ tree.EntriesWithin L.maxCollectionItems)
      ∧ ∀ L, preflightJsonStructure L bytes ≠ .error .exhausted := by
  refine ⟨fun _ _ _ hloads _ _ hmodel => envelope_passes hR hloads hmodel,
    fun _ _ hloads hmodel => policy_passes hR hloads hmodel, envelope_unscanned hR bytes,
    policy_unscanned hR bytes, ?_, fun L => preflight_terminates L bytes⟩
  rintro L haccepted chars tree rfl htext
  exact preflight_bounds htext haccepted

/-! An envelope without signatures, and a `json.loads` that knows its text. -/

/-- A string without escapes is its own units. -/
theorem stringUnits_plain {body : List Char}
    (h : ∀ c ∈ body, 0x20 ≤ c.toNat ∧ c ≠ '"' ∧ c ≠ '\\') :
    StringUnits body (body.map Char.toNat) := by
  induction body with
  | nil => exact .nil
  | cons c body ih =>
    obtain ⟨hcontrol, hquote, hbackslash⟩ := h c (List.mem_cons_self ..)
    exact .plain hcontrol hquote hbackslash (ih fun d hd => h d (List.mem_cons_of_mem _ hd))

def exampleEnvelopeText : List Char :=
  "\x7b\"payload\":\"\",\"payloadType\":\"a\",\"signatures\":[]\x7d".toList

def exampleEnvelopeTree : JsonTree :=
  .object [(text "payload", .string []), (text "payloadType", .string (text "a")),
    (text "signatures", .array [])]

def exampleEnvelopeDocument : JsonValue :=
  .dict [(text "payload", .string []), (text "payloadType", .string (text "a")),
    (text "signatures", .list [])]

theorem exampleEnvelopeText_spelled : JsonText exampleEnvelopeText exampleEnvelopeTree := by
  have hblank : Blank [] := fun c hc => nomatch hc
  refine ⟨[], exampleEnvelopeText, [], rfl, hblank, ?_, hblank⟩
  rw [exampleEnvelopeTree, Spells]
  swap
  · exact List.cons_ne_nil _ _
  refine ⟨exampleEnvelopeText.tail.dropLast, by decide, ?_⟩
  rw [SpellsMembers]
  refine ⟨[], "payload".toList, [], [], "\"\"".toList, [],
    "\"payloadType\":\"a\",\"signatures\":[]".toList, by decide, hblank,
    stringUnits_plain (by decide), hblank, hblank, ?_, hblank, ?_⟩
  · rw [Spells]
    exact ⟨[], by decide, .nil⟩
  rw [SpellsMembers]
  refine ⟨[], "payloadType".toList, [], [], "\"a\"".toList, [], "\"signatures\":[]".toList,
    by decide, hblank, stringUnits_plain (by decide), hblank, hblank, ?_, hblank, ?_⟩
  · rw [Spells]
    exact ⟨['a'], by decide, stringUnits_plain (by decide)⟩
  rw [SpellsMembers]
  refine ⟨[], "signatures".toList, [], [], "[]".toList, [], by decide, hblank,
    stringUnits_plain (by decide), hblank, hblank, ?_, hblank⟩
  rw [Spells]
  exact ⟨[], by decide, hblank⟩

def exampleLoads : CanonicalRuntime where
  loads chars := if chars = exampleEnvelopeText then .ok exampleEnvelopeDocument
    else .error "Expecting value"
  parseFloat _ := true
  checkFloat _ := .ok ()
  dump _ := .error "unsupported"

theorem exampleLoads_implements : exampleLoads.Implements := by
  intro chars value h
  by_cases hchars : chars = exampleEnvelopeText
  · have hvalue : exampleEnvelopeDocument = value := by simpa [exampleLoads, hchars] using h
    subst hvalue
    subst hchars
    exact ⟨exampleEnvelopeTree, exampleEnvelopeText_spelled, rfl⟩
  · simp [exampleLoads, hchars] at h

theorem preflight_transparent_example : ∃ envelope,
    parseDsseEnvelope exampleLoads.toJsonRuntime (utf8 exampleEnvelopeText) = .ok envelope := by
  have hloads : strictJsonLoads exampleLoads.toJsonRuntime envelopeJsonLimits
      (utf8 exampleEnvelopeText) = .ok exampleEnvelopeDocument := by
    rw [strictJsonLoads, require_pos (by decide), ok_bind, require_pos (by decide), ok_bind,
      decodeUtf8_utf8]
    rfl
  have hunscanned : ∃ envelope, parseEnvelopeUnscanned exampleLoads.toJsonRuntime
      (utf8 exampleEnvelopeText) = .ok envelope := by
    rw [parseEnvelopeUnscanned, require_pos (by decide), ok_bind, envelopeDocument, hloads]
    exact isOk_iff.mp (by decide)
  obtain ⟨envelope, henvelope⟩ := hunscanned
  exact ⟨envelope, ((preflight_transparent exampleLoads_implements
    (utf8 exampleEnvelopeText)).2.2.1 envelope).mpr henvelope⟩

end ControlAssurance.Attestation
