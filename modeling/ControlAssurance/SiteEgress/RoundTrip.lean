import ControlAssurance.SiteEgress.Contract

/-!
# An egress contract and its document

What each part of `parse_site_egress_contract` reads is what its result is written as: a text, a
number and a list of texts are the value itself, an object has the same members in some order
(`Faithful`). One comparison is loose: Python's `==` on `cilium` takes numbers for the booleans.
-/

namespace ControlAssurance.SiteEgress

open Lib Attestation Connectors

/-! ## Written objects -/

variable {written : List (String × JsonValue)} {cilium document members rawWorkloads : Members}
  {t : Text} {workload : Workload} {byName : Dict Text SiteEgressDestination}
  {parsed : List (Workload × List SiteEgressDestination)} {contract : SiteEgressContract}

variable {code name : String} {gateways : List SiteEgressGateway}

theorem member_object {value : JsonValue} (h : written.lookup name = some value) :
    member (written.map fun entry => (text entry.1, entry.2)) name = value := by
  rw [member, lookup_names, h]
  rfl

theorem hasNames_object {keys : List String} (h : (written.map (·.1)).Perm keys) :
    HasNames (written.map fun entry => (text entry.1, entry.2)) keys [] := by
  refine ⟨fun name hname => ?_, fun entry hentry => ?_⟩
  · obtain ⟨entry, hentry, rfl⟩ := List.mem_map.mp (h.mem_iff.mpr hname)
    rw [lookup_names, List.lookup_isSome_iff]
    exact ⟨entry, hentry, beq_self_eq_true _⟩
  · obtain ⟨source, hsource, rfl⟩ := List.mem_map.mp hentry
    rw [List.append_nil]
    exact ⟨source.1, h.mem_iff.mp (List.mem_map_of_mem hsource), rfl⟩

/-- A mapping is accepted with exactly its keys. -/
theorem exactMapping_ok {value : JsonValue} {keys : List String} :
    exactMapping value keys code = .ok members ↔ value = .dict members ∧ HasNames members keys [] := by
  cases value with
  | dict found =>
    simp only [exactMapping, bind_eq_ok, require_eq_ok, pure_eq_ok, exists_const,
      JsonValue.dict.injEq]
    constructor
    · rintro ⟨h, rfl⟩
      exact ⟨rfl, h⟩
    · rintro ⟨rfl, h⟩
      exact ⟨h, rfl⟩
  | _ => simp [exactMapping]

/-- A document that was written with its keys is accepted. -/
theorem exactMapping_object {keys : List String}
    (h : (written.map (·.1)).Perm keys) (code : String) :
    exactMapping (object written) keys code
      = .ok (written.map fun entry => (text entry.1, entry.2)) :=
  exactMapping_ok.mpr ⟨rfl, hasNames_object h⟩

theorem member_of_lookup {value : JsonValue}
    (h : members.lookup (text name) = some value) : member members name = value := by
  rw [member, h]
  rfl

theorem mem_of_lookup {name : Text} {value : JsonValue}
    (h : members.lookup name = some value) : (name, value) ∈ members := by
  obtain ⟨front, back, rfl, -⟩ := List.lookup_eq_some_iff.mp h
  exact List.mem_append_right _ List.mem_cons_self

theorem names_lookup {keys : List String} (h : HasNames members keys []) (hname : name ∈ keys) :
    members.lookup (text name) = some (member members name) := by
  obtain ⟨value, hvalue⟩ := Option.isSome_iff_exists.mp (h.1 name hname)
  rw [hvalue, member_of_lookup hvalue]

/-- An object with the names of a written one has as many members. -/
theorem names_length {keys : List String} (h : HasNames members keys [])
    (hkeys : keys.Nodup) (hmembers : (members.map (·.1)).Nodup) : keys.length = members.length := by
  have hperm : (members.map (·.1)).Perm (keys.map text) := by
    refine (List.perm_ext_iff_of_nodup hmembers (hkeys.map fun _ _ => text_injective)).mpr
      fun name => ⟨fun hname => ?_, fun hname => ?_⟩
    · obtain ⟨entry, hentry, rfl⟩ := List.mem_map.mp hname
      obtain ⟨key, hkey, heq⟩ := h.2 entry hentry
      rw [List.append_nil] at hkey
      exact heq ▸ List.mem_map_of_mem hkey
    · obtain ⟨key, hkey, rfl⟩ := List.mem_map.mp hname
      exact List.mem_map_of_mem (mem_of_lookup (names_lookup h hkey))
  simpa using hperm.length_eq.symm

/-- What was written under each name is what is read under it. -/
theorem sameMembers_written {read : Members} : ∀ {written : List (String × JsonValue)},
    (∀ entry ∈ written, ∃ value, read.lookup (text entry.1) = some value ∧ Same entry.2 value) →
    SameMembers (written.map fun entry => (text entry.1, entry.2)) read
  | [], _ => by simp [SameMembers]
  | entry :: written, h => by
    obtain ⟨⟨value, hlookup, hvalue⟩, hrest⟩ := List.forall_mem_cons.mp h
    rw [List.map_cons, SameMembers, hlookup]
    exact ⟨hvalue, sameMembers_written hrest⟩

/-- An object with the names of a written one and the same values is the same object. -/
theorem same_object {keys : List String} {read : Members}
    (hnames : HasNames read keys []) (hkeys : (written.map (·.1)).Perm keys) (hnodup : keys.Nodup)
    (hread : (read.map (·.1)).Nodup) (h : ∀ entry ∈ written, Same entry.2 (member read entry.1)) :
    Same (object written) (.dict read) := by
  rw [object, Same]
  refine ⟨?_, sameMembers_written fun entry hentry => ?_⟩
  · rw [List.length_map, ← names_length hnames hnodup hread, ← hkeys.length_eq, List.length_map]
  · exact ⟨_, names_lookup hnames (hkeys.mem_iff.mp (List.mem_map_of_mem hentry)), h entry hentry⟩

theorem distinct_names (h : distinctNames (.dict members) = true) : (members.map (·.1)).Nodup := by
  rw [distinctNames, Bool.and_eq_true, decide_eq_true_iff] at h
  exact h.1

theorem distinct_value : ∀ {members : Members} {entry : Text × JsonValue},
    membersDistinct members = true → entry ∈ members → distinctNames entry.2 = true
  | [], _, _, hentry => absurd hentry List.not_mem_nil
  | (_, _) :: members, entry, h, hentry => by
    rw [membersDistinct, Bool.and_eq_true] at h
    rcases List.mem_cons.mp hentry with rfl | hentry
    · exact h.1
    · exact distinct_value h.2 hentry

/-- Names are distinct at every level. -/
theorem distinct_member (h : distinctNames (.dict members) = true)
    (name : String) : distinctNames (member members name) = true := by
  rw [distinctNames, Bool.and_eq_true] at h
  unfold member
  cases hlookup : members.lookup (text name) with
  | none => rfl
  | some value => exact distinct_value h.2 (mem_of_lookup hlookup)

/-- A member that is what is written is the same as it. -/
theorem same_member {value : JsonValue}
    (h : distinctNames (.dict members) = true) (heq : member members name = value) :
    Same value (member members name) := by
  rw [heq]
  exact Same.refl (heq ▸ distinct_member h name)

/-! ## Texts and lists -/

theorem stringField_ok {value : JsonValue} {maximum : Nat}
    (h : stringField value code maximum = .ok t) : value = .string t := by
  cases value with
  | string found =>
    simp only [stringField, bind_eq_ok, pure_eq_ok] at h
    obtain ⟨-, -, -, -, rfl⟩ := h
    rfl
  | _ => cases h

theorem labelValue_ok {value : JsonValue}
    (h : labelValue value code = .ok t) : value = .string t := by
  simp only [labelValue, labelName, bind_eq_ok, pure_eq_ok] at h
  obtain ⟨found, hfound, -, -, rfl⟩ := h
  exact stringField_ok hfound

theorem takeWhile_tail {key : Text} {separator : Nat} (h : separator ∈ key) :
    key.takeWhile (· ≠ separator) ++ separator :: (key.dropWhile (· ≠ separator)).tail = key := by
  induction key with
  | nil => cases h
  | cons first key ih =>
    by_cases hfirst : first = separator
    · simp [hfirst]
    · have hrest := (List.mem_cons.mp h).resolve_left fun heq => hfirst heq.symm
      simpa [hfirst] using ih hrest

/-- A label key is a text as it stands, with its prefix or without. -/
theorem labelKey_ok {value : JsonValue} (h : labelKey value code = .ok t) : value = .string t := by
  simp only [labelKey, labelName, bind_eq_ok] at h
  obtain ⟨key, hkey, h⟩ := h
  rw [stringField_ok hkey]
  split at h
  · simp only [bind_eq_ok, pure_eq_ok] at h
    obtain ⟨-, -, rfl⟩ := h
    rfl
  next hslash =>
    simp only [bind_eq_ok, pure_eq_ok] at h
    obtain ⟨-, -, _, ⟨-, -, rfl⟩, rfl⟩ := h
    rw [takeWhile_tail (not_not.mp hslash)]

theorem fqdnField_ok {value : JsonValue} (h : fqdnField value = .ok t) :
    value = .string t := by
  simp only [fqdnField, bind_eq_ok, require_eq_ok, pure_eq_ok] at h
  obtain ⟨name, hname, -, ⟨hlower, -⟩, -, -, rfl⟩ := h
  rw [← hlower]
  exact stringField_ok hname

/-- A network that is read has the text it is read from. -/
theorem networkField_ok {value : JsonValue} {minimum : Nat}
    (h : networkField value code minimum = .ok t) :
    value = .string t ∧ (networkOf t).text = t := by
  simp only [networkField, bind_eq_ok, require_eq_ok, expect_eq_ok, pure_eq_ok] at h
  obtain ⟨source, hsource, network, hnetwork, -, ⟨htext, -⟩, rfl⟩ := h
  refine ⟨stringField_ok hsource, ?_⟩
  rw [networkOf, hnetwork]
  exact htext

theorem addressField_ok {value : JsonValue} (h : addressField value = .ok t) :
    value = .string t := by
  simp only [addressField, bind_eq_ok, pure_eq_ok] at h
  obtain ⟨source, hsource, -, -, -, -, rfl⟩ := h
  exact stringField_ok hsource

/-- A sequence is a list within its bounds. -/
theorem sequence_ok {value : JsonValue} {minimum maximum : Nat} {items : List JsonValue} :
    sequence value minimum maximum code = .ok items
      ↔ value = .list items ∧ minimum ≤ items.length ∧ items.length ≤ maximum := by
  cases value with
  | list found =>
    simp only [sequence, bind_eq_ok, require_eq_ok, pure_eq_ok, exists_const,
      JsonValue.list.injEq]
    constructor
    · rintro ⟨h, rfl⟩
      exact ⟨rfl, h⟩
    · rintro ⟨rfl, h⟩
      exact ⟨h, rfl⟩
  | _ => simp [sequence]

/-- Texts that are parsed one by one are the texts of the document. -/
theorem mapM_texts {parse : JsonValue → Except String Text}
    (hparse : ∀ {value t}, parse value = .ok t → value = .string t) :
    ∀ {items : List JsonValue} {texts : List Text}, items.mapM parse = .ok texts →
      items = texts.map .string
  | [], _, h => by
    obtain rfl := pure_eq_ok.mp h
    rfl
  | item :: items, _, h => by
    rw [List.mapM_cons] at h
    simp only [bind_eq_ok, pure_eq_ok] at h
    obtain ⟨t, ht, texts, htexts, rfl⟩ := h
    rw [hparse ht, mapM_texts hparse htexts]
    rfl

/-! ## Faithful parsers -/

/-- The result is written as what was read, up to the order of members, and is read again. -/
structure Faithful {α : Type} (parse : JsonValue → Except String α) (write : α → JsonValue) :
    Prop where
  same : ∀ {value result}, parse value = .ok result → distinctNames value = true →
    Same (write result) value
  again : ∀ {value result}, parse value = .ok result → parse (write result) = .ok result

variable {α : Type} {parse : JsonValue → Except String α} {write : α → JsonValue}

/-- A list of faithful items is written as it was read. -/
theorem Faithful.sameItems (h : Faithful parse write) :
    ∀ {items : List JsonValue} {results : List α}, items.mapM parse = .ok results →
      itemsDistinct items = true → SameItems (results.map write) items
  | [], _, hparse, _ => by
    obtain rfl := pure_eq_ok.mp hparse
    simp [SameItems]
  | item :: items, _, hparse, hdistinct => by
    rw [List.mapM_cons] at hparse
    simp only [bind_eq_ok, pure_eq_ok] at hparse
    obtain ⟨result, hresult, results, hresults, rfl⟩ := hparse
    rw [itemsDistinct, Bool.and_eq_true] at hdistinct
    rw [List.map_cons, SameItems]
    exact ⟨h.same hresult hdistinct.1, h.sameItems hresults hdistinct.2⟩

/-- What was written of them is parsed to the same items. -/
theorem Faithful.mapM_again (h : Faithful parse write) :
    ∀ {items : List JsonValue} {results : List α}, items.mapM parse = .ok results →
      (results.map write).mapM parse = .ok results
  | [], _, hparse => by
    obtain rfl := pure_eq_ok.mp hparse
    rfl
  | item :: items, _, hparse => by
    rw [List.mapM_cons] at hparse
    simp only [bind_eq_ok, pure_eq_ok] at hparse
    obtain ⟨result, hresult, results, hresults, rfl⟩ := hparse
    rw [List.map_cons, List.mapM_cons, h.again hresult, ok_bind, h.mapM_again hresults]
    rfl

/-! ## Destinations and gateways -/

/-- The keys of a destination, as `_parse_destination` has them. -/
abbrev destinationKeys : List String := ["name", "fqdn", "cidrs", "port"]

/-- The fields of a destination, read off its members. -/
theorem parseDestination_ok {value : JsonValue}
    {destination : SiteEgressDestination} (h : parseDestination workload value = .ok destination) :
    ∃ members, value = .dict members ∧ HasNames members destinationKeys []
      ∧ member members "cidrs" = textList destination.cidrs
      ∧ member members "fqdn" = .string destination.fqdn
      ∧ member members "name" = .string destination.name
      ∧ member members "port" = .int destination.port
      ∧ ∀ cidr ∈ destination.cidrs, (networkOf cidr).text = cidr := by
  simp only [parseDestination, bind_eq_ok, require_eq_ok, expect_eq_ok, pure_eq_ok] at h
  obtain ⟨members, hshape, name, hname, -, -, port, hport, -, -, items, hitems, cidrs, hcidrs, -, -,
    fqdn, hfqdn, rfl⟩ := h
  obtain ⟨rfl, hnames⟩ := exactMapping_ok.mp hshape
  refine ⟨members, rfl, hnames, ?_, fqdnField_ok hfqdn, stringField_ok hname, ?_,
    fun cidr hcidr => ?_⟩
  · rw [(sequence_ok.mp hitems).1, mapM_texts (fun h => (networkField_ok h).1) hcidrs]
    rfl
  · cases hmember : member members "port" with
    | int n => rw [hmember] at hport; exact congrArg _ (Option.some.inj hport)
    | _ => rw [hmember] at hport; cases hport
  · obtain ⟨item, -, hitem⟩ := mapM_mem hcidrs cidr hcidr
    exact (networkField_ok hitem).2

/-- A destination is read off its members. -/
theorem parseDestination_congr {members' : Members}
    (h : HasNames members destinationKeys []) (h' : HasNames members' destinationKeys [])
    (hagree : ∀ name ∈ destinationKeys, member members' name = member members name) :
    parseDestination workload (.dict members') = parseDestination workload (.dict members) := by
  unfold parseDestination
  rw [exactMapping_ok.mpr ⟨rfl, h⟩, exactMapping_ok.mpr ⟨rfl, h'⟩, ok_bind, ok_bind,
    hagree "name" (by decide), hagree "port" (by decide), hagree "cidrs" (by decide),
    hagree "fqdn" (by decide)]

/-- A destination is written as it was read. -/
theorem destination_faithful (workload : Workload) :
    Faithful (parseDestination workload) SiteEgressDestination.asDocument := by
  refine ⟨fun {value destination} h hdistinct => ?_, fun {value destination} h => ?_⟩
  · obtain ⟨members, rfl, hnames, hcidrs, hfqdn, hname, hport, -⟩ := parseDestination_ok h
    refine same_object hnames ?_ (by decide) (distinct_names hdistinct) ?_
    · show ["cidrs", "fqdn", "name", "port"].Perm destinationKeys
      decide
    · simp only [List.forall_mem_cons]
      exact ⟨same_member hdistinct hcidrs, same_member hdistinct hfqdn, same_member hdistinct hname,
        same_member hdistinct hport, List.forall_mem_nil _⟩
  · obtain ⟨members, rfl, hnames, hcidrs, hfqdn, hname, hport, -⟩ := parseDestination_ok h
    refine (parseDestination_congr hnames (hasNames_object ?_) ?_).trans h
    · show ["cidrs", "fqdn", "name", "port"].Perm destinationKeys
      decide
    · simp only [destinationKeys, List.forall_mem_cons]
      exact ⟨(member_object rfl).trans hname.symm, (member_object rfl).trans hfqdn.symm,
        (member_object rfl).trans hcidrs.symm, (member_object rfl).trans hport.symm,
        List.forall_mem_nil _⟩

/-- The fields of a gateway, read off its members. -/
theorem parseGateway_ok {value : JsonValue} {gateway : SiteEgressGateway} :
    parseGateway value = .ok gateway ↔
      ∃ members selector, value = .dict members
        ∧ HasNames members ["node_selector", "egress_ip"] []
        ∧ member members "node_selector" = .dict selector
        ∧ HasNames selector ["kubernetes.io/hostname"] []
        ∧ labelValue (member selector "kubernetes.io/hostname")
          "site-egress-gateway-selector-invalid" = .ok gateway.nodeName
        ∧ addressField (member members "egress_ip") = .ok gateway.egressIp := by
  simp only [parseGateway, bind_eq_ok, pure_eq_ok, exactMapping_ok]
  constructor
  · rintro ⟨members, ⟨rfl, hnames⟩, selector, ⟨hselector, hnames'⟩, name, hname, address, haddress, rfl⟩
    exact ⟨members, selector, rfl, hnames, hselector, hnames', hname, haddress⟩
  · rintro ⟨members, selector, rfl, hnames, hselector, hnames', hname, haddress⟩
    exact ⟨members, ⟨rfl, hnames⟩, selector, ⟨hselector, hnames'⟩, _, hname, _, haddress, rfl⟩

theorem gateway_faithful : Faithful parseGateway SiteEgressGateway.asDocument := by
  refine ⟨fun {value gateway} h hdistinct => ?_, fun {value gateway} h => ?_⟩
  · obtain ⟨members, selector, rfl, hnames, hselector, hnames', hname, haddress⟩ :=
      parseGateway_ok.mp h
    have hinner := distinct_member hdistinct "node_selector"
    rw [hselector] at hinner
    refine same_object hnames (by show ["egress_ip", "node_selector"].Perm _; decide) (by decide)
      (distinct_names hdistinct) ?_
    simp only [List.forall_mem_cons]
    refine ⟨same_member hdistinct (addressField_ok haddress), ?_,
      List.forall_mem_nil _⟩
    rw [hselector]
    refine same_object hnames' (List.Perm.refl _) (by decide) (distinct_names hinner) ?_
    simp only [List.forall_mem_cons]
    exact ⟨same_member hinner (labelValue_ok hname), List.forall_mem_nil _⟩
  · obtain ⟨members, selector, rfl, -, -, -, hname, haddress⟩ := parseGateway_ok.mp h
    rw [labelValue_ok hname] at hname
    rw [addressField_ok haddress] at haddress
    refine parseGateway_ok.mpr ⟨_, _, rfl,
      hasNames_object (by show ["egress_ip", "node_selector"].Perm _; decide), member_object rfl,
      hasNames_object (List.Perm.refl _), ?_, ?_⟩
    · rw [member_object rfl]
      exact hname
    · rw [member_object rfl]
      exact haddress

/-- The gateways are two to eight, with nodes and addresses of their own. -/
theorem gateways_ok {value : JsonValue} :
    parseGateways value = .ok gateways ↔ ∃ items, value = .list items
      ∧ 2 ≤ gateways.length ∧ gateways.length ≤ 8 ∧ items.mapM parseGateway = .ok gateways
      ∧ (gateways.map (·.nodeName)).Nodup ∧ (gateways.map (·.egressIp)).Nodup := by
  simp only [parseGateways, bind_eq_ok, require_eq_ok, pure_eq_ok, sequence_ok, exists_const]
  constructor
  · rintro ⟨items, ⟨rfl, hlow, hhigh⟩, parsed, hparsed, hnodup, rfl⟩
    rw [mapM_length hparsed] at hlow hhigh
    exact ⟨items, rfl, hlow, hhigh, hparsed, hnodup⟩
  · rintro ⟨items, rfl, hlow, hhigh, hparsed, hnodup⟩
    rw [← mapM_length hparsed] at hlow hhigh
    exact ⟨items, ⟨rfl, hlow, hhigh⟩, gateways, hparsed, hnodup, rfl⟩

theorem gateways_faithful :
    Faithful parseGateways fun gateways => .list (gateways.map SiteEgressGateway.asDocument) := by
  refine ⟨fun {value gateways} h hdistinct => ?_, fun {value gateways} h => ?_⟩
  · obtain ⟨items, rfl, -, -, hparsed, -⟩ := gateways_ok.mp h
    rw [Same]
    exact gateway_faithful.sameItems hparsed hdistinct
  · obtain ⟨items, rfl, hlow, hhigh, hparsed, hnodup⟩ := gateways_ok.mp h
    exact gateways_ok.mpr
      ⟨_, rfl, hlow, hhigh, gateway_faithful.mapM_again hparsed, hnodup⟩

/-! ## The DNS pods -/

theorem pairLe_trans (a b c : Text × Text) (hab : pairLe a b = true) (hbc : pairLe b c = true) :
    pairLe a c = true := by
  unfold pairLe at *
  by_cases h₁ : a.1 = b.1
  · by_cases h₂ : b.1 = c.1
    · rw [if_pos h₁] at hab
      rw [if_pos h₂] at hbc
      rw [if_pos (h₁.trans h₂)]
      exact textLe_trans _ _ _ hab hbc
    · rw [if_neg h₂] at hbc
      rw [if_neg (h₁ ▸ h₂), h₁]
      exact hbc
  · rw [if_neg h₁] at hab
    by_cases h₂ : b.1 = c.1
    · rw [if_neg (h₂ ▸ h₁), ← h₂]
      exact hab
    · rw [if_neg h₂] at hbc
      have hac : a.1 ≠ c.1 := fun heq => h₁ (textLe_antisymm _ _ hab (heq ▸ hbc))
      rw [if_neg hac]
      exact textLe_trans _ _ _ hab hbc

theorem pairLe_total (a b : Text × Text) : pairLe a b = true ∨ pairLe b a = true := by
  unfold pairLe
  by_cases h : a.1 = b.1
  · rw [if_pos h, if_pos h.symm]
    exact textLe_total _ _
  · rw [if_neg h, if_neg fun heq => h heq.symm]
    exact textLe_total _ _

/-- The order of `sorted` on pairs. -/
abbrev pairsOrdered (left right : Text × Text) : Prop := pairLe left right = true

instance : Std.Total pairsOrdered := ⟨pairLe_total⟩

instance : IsTrans (Text × Text) pairsOrdered := ⟨pairLe_trans⟩

/-- The labels as members of an object. -/
def labelMembers (labels : List (Text × Text)) : Members :=
  labels.map fun entry => (entry.1, .string entry.2)

theorem parseLabel_ok {entry : Text × JsonValue} {label : Text × Text}
    (h : parseLabel entry = .ok label) : entry = (label.1, .string label.2) := by
  simp only [parseLabel, bind_eq_ok, pure_eq_ok] at h
  obtain ⟨key, hkey, value, hvalue, rfl⟩ := h
  rw [← JsonValue.string.inj (labelKey_ok hkey), ← labelValue_ok hvalue]

theorem mapM_labels : ∀ {members : Members} {labels : List (Text × Text)},
    members.mapM parseLabel = .ok labels → members = labelMembers labels
  | [], _, h => by
    obtain rfl := pure_eq_ok.mp h
    rfl
  | entry :: members, _, h => by
    rw [List.mapM_cons] at h
    simp only [bind_eq_ok, pure_eq_ok] at h
    obtain ⟨label, hlabel, labels, hlabels, rfl⟩ := h
    rw [parseLabel_ok hlabel, mapM_labels hlabels]
    rfl

theorem mapM_parseLabel : ∀ {labels : List (Text × Text)},
    (∀ label ∈ labels, parseLabel (label.1, .string label.2) = .ok label) →
      (labelMembers labels).mapM parseLabel = .ok labels
  | [], _ => rfl
  | label :: labels, h => by
    obtain ⟨hfirst, hrest⟩ := List.forall_mem_cons.mp h
    rw [labelMembers, List.map_cons, List.mapM_cons, hfirst, ok_bind]
    show ((labelMembers labels).mapM parseLabel >>= _) = _
    rw [mapM_parseLabel hrest]
    rfl

/-- A selector is sorted, whatever the order of its labels in the document. -/
theorem parseSelector_ok {value : JsonValue} {labels : List (Text × Text)} :
    parseSelector value = .ok labels ↔ ∃ found, value = .dict (labelMembers found)
      ∧ 1 ≤ found.length ∧ found.length ≤ 4
      ∧ (∀ label ∈ found, parseLabel (label.1, .string label.2) = .ok label)
      ∧ found.insertionSort pairsOrdered = labels := by
  cases value with
  | dict members =>
    simp only [parseSelector, bind_eq_ok, require_eq_ok, pure_eq_ok, exists_const,
      JsonValue.dict.injEq]
    constructor
    · rintro ⟨⟨hlow, hhigh⟩, found, hfound, hsort⟩
      rw [mapM_length hfound] at hlow hhigh
      refine ⟨found, mapM_labels hfound, hlow, hhigh, fun label hlabel => ?_, hsort⟩
      obtain ⟨entry, -, hentry⟩ := mapM_mem hfound label hlabel
      rw [parseLabel_ok hentry] at hentry
      exact hentry
    · rintro ⟨found, rfl, hlow, hhigh, hlabels, hsort⟩
      refine ⟨?_, found, mapM_parseLabel hlabels, hsort⟩
      rw [labelMembers, List.length_map]
      exact ⟨hlow, hhigh⟩
  | _ => simp [parseSelector]

theorem membersDistinct_labels : ∀ labels : List (Text × Text),
    membersDistinct (labelMembers labels) = true
  | [] => rfl
  | label :: labels => by
    show (distinctNames (.string label.2) && membersDistinct (labelMembers labels)) = true
    rw [membersDistinct_labels labels]
    rfl

theorem selector_faithful : Faithful parseSelector fun labels => .dict (labelMembers labels) := by
  refine ⟨fun {value labels} h hdistinct => ?_, fun {value labels} h => ?_⟩
  · obtain ⟨found, rfl, -, -, -, rfl⟩ := parseSelector_ok.mp h
    have hperm := (List.perm_insertionSort pairsOrdered found).map
      fun entry => (entry.1, JsonValue.string entry.2)
    rw [Same]
    refine ⟨hperm.length_eq, sameMembers_refl (membersDistinct_labels _) fun entry hentry => ?_⟩
    exact lookup_distinct (distinct_names hdistinct) entry (hperm.mem_iff.mp hentry)
  · obtain ⟨found, rfl, hlow, hhigh, hlabels, rfl⟩ := parseSelector_ok.mp h
    have hperm := List.perm_insertionSort pairsOrdered found
    refine parseSelector_ok.mpr ⟨_, rfl, by rw [hperm.length_eq]; exact hlow,
      by rw [hperm.length_eq]; exact hhigh, fun label hlabel => hlabels label (hperm.mem_iff.mp hlabel),
      (List.pairwise_insertionSort pairsOrdered found).insertionSort_eq⟩

/-- The fields of the name server, read off its members. -/
theorem parseDns_ok {value : JsonValue} {result : Text × List (Text × Text)} :
    parseDns value = .ok result ↔ ∃ members, value = .dict members
      ∧ HasNames members ["namespace", "pod_selector"] []
      ∧ stringField (member members "namespace") "site-egress-dns-identity-invalid" 63
        = .ok result.1
      ∧ isDnsLabel result.1 = true ∧ parseSelector (member members "pod_selector") = .ok result.2 := by
  simp only [parseDns, bind_eq_ok, require_eq_ok, pure_eq_ok, exactMapping_ok, exists_const]
  constructor
  · rintro ⟨members, ⟨rfl, hnames⟩, name, hname, hlabel, selector, hselector, rfl⟩
    exact ⟨members, rfl, hnames, hname, hlabel, hselector⟩
  · rintro ⟨members, rfl, hnames, hname, hlabel, hselector⟩
    exact ⟨members, ⟨rfl, hnames⟩, _, hname, hlabel, _, hselector, rfl⟩

/-- `cluster_dns` -/
def dnsDocument (dns : Text × List (Text × Text)) : JsonValue :=
  object [("namespace", .string dns.1), ("pod_selector", .dict (labelMembers dns.2))]

theorem dns_faithful : Faithful parseDns dnsDocument := by
  refine ⟨fun {value dns} h hdistinct => ?_, fun {value dns} h => ?_⟩
  · obtain ⟨members, rfl, hnames, hname, -, hselector⟩ := parseDns_ok.mp h
    refine same_object hnames (List.Perm.refl _) (by decide) (distinct_names hdistinct) ?_
    simp only [List.forall_mem_cons]
    exact ⟨same_member hdistinct (stringField_ok hname),
      selector_faithful.same hselector (distinct_member hdistinct _),
      List.forall_mem_nil _⟩
  · obtain ⟨members, rfl, -, hname, hlabel, hselector⟩ := parseDns_ok.mp h
    rw [stringField_ok hname] at hname
    refine parseDns_ok.mpr ⟨_, rfl, hasNames_object (List.Perm.refl _), ?_, hlabel, ?_⟩
    · rw [member_object rfl]
      exact hname
    · rw [member_object rfl]
      exact selector_faithful.again hselector

/-! ## Workloads -/

/-- The destinations of a workload as a document. -/
def destinationsDocument (destinations : List SiteEgressDestination) : JsonValue :=
  .list (destinations.map SiteEgressDestination.asDocument)

/-- One workload, and then the others with the names it has taken. -/
theorem parseWorkloads_cons {rest : List Workload} :
    parseWorkloads document byName (workload :: rest) = .ok parsed ↔
      ∃ items destinations byName' others, member document workload.name = .list items
        ∧ 1 ≤ destinations.length ∧ destinations.length ≤ 64
        ∧ items.mapM (parseDestination workload) = .ok destinations
        ∧ (destinations.map (·.name)).Nodup
        ∧ destinations.foldlM rememberDestination byName = .ok byName'
        ∧ parseWorkloads document byName' rest = .ok others
        ∧ (workload, destinations) :: others = parsed := by
  simp only [parseWorkloads, bind_eq_ok, require_eq_ok, pure_eq_ok, sequence_ok, exists_const]
  constructor
  · rintro ⟨items, ⟨hitems, hlow, hhigh⟩, destinations, hdestinations, hnodup, byName', hbyName,
      others, hothers, rfl⟩
    rw [mapM_length hdestinations] at hlow hhigh
    exact ⟨items, destinations, byName', others, hitems, hlow, hhigh, hdestinations, hnodup, hbyName,
      hothers, rfl⟩
  · rintro ⟨items, destinations, byName', others, hitems, hlow, hhigh, hdestinations, hnodup, hbyName,
      hothers, rfl⟩
    rw [← mapM_length hdestinations] at hlow hhigh
    exact ⟨items, ⟨hitems, hlow, hhigh⟩, destinations, hdestinations, hnodup, byName', hbyName,
      others, hothers, rfl⟩

theorem parseWorkloads_names : ∀ {rest : List Workload}
    {byName : Dict Text SiteEgressDestination} {parsed : List (Workload × List SiteEgressDestination)},
    parseWorkloads document byName rest = .ok parsed → parsed.map (·.1) = rest
  | [], _, _, h => by
    obtain rfl := pure_eq_ok.mp h
    rfl
  | workload :: rest, _, _, h => by
    obtain ⟨_, destinations, _, others, -, -, -, -, -, -, hothers, rfl⟩ := parseWorkloads_cons.mp h
    rw [List.map_cons, parseWorkloads_names hothers]

/-- Every workload has destinations, which are read off its list. -/
theorem parseWorkloads_entries : ∀ {rest : List Workload}
    {byName : Dict Text SiteEgressDestination} {parsed : List (Workload × List SiteEgressDestination)},
    parseWorkloads document byName rest = .ok parsed → ∀ entry ∈ parsed,
      entry.2 ≠ [] ∧ ∃ items, member document entry.1.name = .list items
        ∧ items.mapM (parseDestination entry.1) = .ok entry.2
  | [], _, _, h, _, hentry => by
    obtain rfl := pure_eq_ok.mp h
    cases hentry
  | workload :: rest, _, _, h, entry, hentry => by
    obtain ⟨items, destinations, _, others, hitems, hlow, -, hdestinations, -, -, hothers, rfl⟩ :=
      parseWorkloads_cons.mp h
    rcases List.mem_cons.mp hentry with rfl | hentry
    · exact ⟨List.ne_nil_of_length_pos hlow, items, hitems, hdestinations⟩
    · exact parseWorkloads_entries hothers entry hentry

/-- Documents that agree on every workload are parsed alike. -/
theorem parseWorkloads_again {document' : Members} : ∀ {rest : List Workload}
    {byName : Dict Text SiteEgressDestination} {parsed : List (Workload × List SiteEgressDestination)},
    parseWorkloads document byName rest = .ok parsed →
    (∀ entry ∈ parsed, member document' entry.1.name = destinationsDocument entry.2) →
      parseWorkloads document' byName rest = .ok parsed
  | [], _, _, h, _ => h
  | workload :: rest, _, _, h, hwritten => by
    obtain ⟨items, destinations, byName', others, -, hlow, hhigh, hdestinations, hnodup, hbyName,
      hothers, rfl⟩ := parseWorkloads_cons.mp h
    obtain ⟨hfirst, hrest⟩ := List.forall_mem_cons.mp hwritten
    exact parseWorkloads_cons.mpr ⟨_, destinations, byName', others, hfirst, hlow, hhigh,
      (destination_faithful workload).mapM_again hdestinations, hnodup, hbyName,
      parseWorkloads_again hothers hrest, rfl⟩

/-- `workloads` -/
def workloadMembers (parsed : List (Workload × List SiteEgressDestination)) :
    List (String × JsonValue) :=
  parsed.map fun entry => (entry.1.name, destinationsDocument entry.2)

theorem workload_names (h : parsed.map (·.1) = workloads) :
    (workloadMembers parsed).map (·.1) = workloads.map Workload.name := by
  rw [← h, workloadMembers, List.map_map, List.map_map]
  rfl

theorem member_workload (h : parsed.map (·.1) = workloads) : ∀ entry ∈ parsed,
      member ((workloadMembers parsed).map fun entry => (text entry.1, entry.2)) entry.1.name
        = destinationsDocument entry.2 := by
  intro entry hentry
  have hnodup : (((workloadMembers parsed).map fun entry => (text entry.1, entry.2)).map (·.1)).Nodup := by
    rw [List.map_map]
    show ((workloadMembers parsed).map (text ∘ (·.1))).Nodup
    rw [← List.map_map, workload_names h]
    exact List.Nodup.map (fun _ _ => text_injective) (by decide)
  exact member_of_lookup (lookup_distinct hnodup (text entry.1.name, destinationsDocument entry.2)
    (List.mem_map.mpr ⟨_, List.mem_map_of_mem hentry, rfl⟩))

/-- The workloads are written as they were read. -/
theorem workloads_same (h : parseWorkloads document byName workloads = .ok parsed)
    (hnames : HasNames document (workloads.map Workload.name) [])
    (hdistinct : distinctNames (.dict document) = true) :
    Same (object (workloadMembers parsed)) (.dict document) := by
  refine same_object hnames (by rw [workload_names (parseWorkloads_names h)]) (by decide)
    (distinct_names hdistinct) fun written hwritten => ?_
  obtain ⟨entry, hentry, rfl⟩ := List.mem_map.mp hwritten
  obtain ⟨-, items, hitems, hdestinations⟩ := parseWorkloads_entries h entry hentry
  have hinner := distinct_member hdistinct entry.1.name
  rw [hitems] at hinner
  show Same (destinationsDocument entry.2) (member document entry.1.name)
  rw [hitems, destinationsDocument, Same]
  exact (destination_faithful entry.1).sameItems hdestinations hinner

/-- The CIDRs of the destinations are written as their networks are. -/
theorem allCidrs_text (h : parseWorkloads document byName workloads = .ok parsed) :
    (allCidrs parsed).map (fun cidr => (networkOf cidr).text) = allCidrs parsed := by
  refine (List.map_congr_left fun cidr hcidr => ?_).trans (List.map_id _)
  obtain ⟨entry, hentry, hcidr⟩ := List.mem_flatMap.mp hcidr
  obtain ⟨destination, hdestination, hcidr⟩ := List.mem_flatMap.mp hcidr
  obtain ⟨-, items, -, hdestinations⟩ := parseWorkloads_entries h entry hentry
  obtain ⟨item, -, hitem⟩ := mapM_mem hdestinations destination hdestination
  obtain ⟨-, -, -, -, -, -, -, htext⟩ := parseDestination_ok hitem
  exact htext cidr hcidr

/-! ## The perimeter -/

theorem directSourceNetworks_ok {value : JsonValue} {sourceClass : String} {cidrs : List Text}
    (h : directSourceNetworks value sourceClass = .ok cidrs) : value = textList cidrs := by
  simp only [directSourceNetworks, bind_eq_ok, pure_eq_ok] at h
  obtain ⟨items, hitems, found, hfound, -, -, rfl⟩ := h
  rw [(sequence_ok.mp hitems).1, mapM_texts (fun h => (networkField_ok h).1) hfound]
  rfl

/-- The document of a perimeter, with the sources and CIDRs that it repeats. -/
def perimeterMembers (perimeter : Perimeter) (sources cidrs : List Text) :
    List (String × JsonValue) :=
  [("allowed_gateway_source_ips", textList sources),
    ("change_reference", .string perimeter.changeReference),
    ("contracted_destination_cidrs", textList cidrs),
    ("deny_all_direct_external_pod_and_node_egress", .bool true),
    ("deny_gateway_sources_outside_contracted_destinations", .bool true),
    ("direct_denied_node_source_cidrs", textList perimeter.nodeSources),
    ("direct_denied_pod_source_cidrs", textList perimeter.podSources),
    ("gateway_allow_exception_precedes_direct_deny", .bool true),
    ("perimeter_ipv6_external_egress_disabled", .bool true)]

/-- A perimeter names the gateways and networks that the rest of the contract has. -/
theorem parsePerimeter_ok {value : JsonValue} {cidrs : List Text} {perimeter : Perimeter}
    (h : parsePerimeter value gateways cidrs = .ok perimeter) :
    ∃ members, value = .dict members ∧ HasNames members perimeterKeys []
      ∧ ∀ entry ∈ perimeterMembers perimeter (gateways.map (·.egressIp))
          (sortedNetworks (cidrs.map fun cidr => (networkOf cidr).text)),
        member members entry.1 = entry.2 := by
  simp only [parsePerimeter, bind_eq_ok, require_eq_ok, pure_eq_ok] at h
  obtain ⟨members, hshape, reference, hreference, -, ⟨-, -, hdirect, houtside, hfirst, hipv6⟩,
    nodes, hnodes, pods, hpods, -, -, sourceItems, hsourceItems, sources, hsources, -, rfl,
    cidrItems, hcidrItems, contracted, hcontracted, -, rfl, rfl⟩ := h
  obtain ⟨rfl, hnames⟩ := exactMapping_ok.mp hshape
  refine ⟨members, rfl, hnames, ?_⟩
  have hsourceList : member members "allowed_gateway_source_ips"
      = textList (gateways.map (·.egressIp)) := by
    rw [(sequence_ok.mp hsourceItems).1, mapM_texts addressField_ok hsources]
    rfl
  have hcidrList : member members "contracted_destination_cidrs"
      = textList (sortedNetworks (cidrs.map fun cidr => (networkOf cidr).text)) := by
    rw [(sequence_ok.mp hcidrItems).1, mapM_texts (fun h => (networkField_ok h).1) hcontracted]
    rfl
  simp only [perimeterMembers, List.forall_mem_cons]
  exact ⟨hsourceList, stringField_ok hreference, hcidrList, hdirect, houtside,
    directSourceNetworks_ok hnodes, directSourceNetworks_ok hpods, hfirst, hipv6,
    List.forall_mem_nil _⟩

/-- A perimeter depends on its own members only. -/
theorem parsePerimeter_congr {members' : Members} (gateways : List SiteEgressGateway)
    (cidrs : List Text) (h : HasNames members perimeterKeys [])
    (h' : HasNames members' perimeterKeys [])
    (hagree : ∀ name ∈ perimeterKeys, member members' name = member members name) :
    parsePerimeter (.dict members') gateways cidrs = parsePerimeter (.dict members) gateways cidrs := by
  unfold parsePerimeter
  simp only [perimeterKeys, List.forall_mem_cons] at hagree
  obtain ⟨h₁, h₂, h₃, h₄, h₅, h₆, h₇, h₈, h₉, -⟩ := hagree
  rw [exactMapping_ok.mpr ⟨rfl, h⟩, exactMapping_ok.mpr ⟨rfl, h'⟩, ok_bind, ok_bind, h₁, h₂, h₃, h₄,
    h₅, h₆, h₇, h₈, h₉]

theorem perimeter_names (perimeter : Perimeter) (sources cidrs : List Text) :
    (perimeterMembers perimeter sources cidrs).map (·.1) = perimeterKeys :=
  rfl

theorem perimeter_faithful (gateways : List SiteEgressGateway) (cidrs : List Text) :
    Faithful (parsePerimeter · gateways cidrs) fun perimeter =>
      object (perimeterMembers perimeter (gateways.map (·.egressIp))
        (sortedNetworks (cidrs.map fun cidr => (networkOf cidr).text))) := by
  refine ⟨fun {value perimeter} h hdistinct => ?_, fun {value perimeter} h => ?_⟩
  · obtain ⟨members, rfl, hnames, hmembers⟩ := parsePerimeter_ok h
    refine same_object hnames (by rw [perimeter_names]) (by decide) (distinct_names hdistinct)
      fun entry hentry => same_member hdistinct (hmembers entry hentry)
  · obtain ⟨members, rfl, hnames, hmembers⟩ := parsePerimeter_ok h
    refine (parsePerimeter_congr gateways cidrs hnames
      (hasNames_object (by rw [perimeter_names])) ?_).trans h
    simp only [perimeterMembers, List.forall_mem_cons] at hmembers
    obtain ⟨h₁, h₂, h₃, h₄, h₅, h₆, h₇, h₈, h₉, -⟩ := hmembers
    simp only [perimeterKeys, List.forall_mem_cons]
    exact ⟨(member_object rfl).trans h₁.symm, (member_object rfl).trans h₂.symm,
      (member_object rfl).trans h₃.symm, (member_object rfl).trans h₄.symm,
      (member_object rfl).trans h₅.symm, (member_object rfl).trans h₆.symm,
      (member_object rfl).trans h₇.symm, (member_object rfl).trans h₈.symm,
      (member_object rfl).trans h₉.symm, List.forall_mem_nil _⟩

/-! ## The Cilium requirements -/

variable {F : PythonFloats}

/-- Nothing but a text equals a text; a flag is another matter. -/
theorem pythonEqual_literal {value : JsonValue}
    (h : pythonEqual F value (.string t) = true) : value = .string t := by
  cases value with
  | string found => rw [pythonEqual, beq_iff_eq] at h; rw [h]
  | float source =>
    have hnumber : ((F.integer source).isSome && F.integer source == none) = true := h
    cases hn : F.integer source <;> simp [hn] at hnumber
  | _ => simp [pythonEqual, numberValue] at h

theorem equalItems_literals : ∀ {items : List JsonValue} {texts : List Text},
    equalItems F items (texts.map .string) = true → items = texts.map .string
  | [], [], _ => rfl
  | [], _ :: _, h => by simp [equalItems] at h
  | _ :: _, [], h => by simp [equalItems] at h
  | item :: items, t :: texts, h => by
    rw [List.map_cons, equalItems, Bool.and_eq_true] at h
    rw [List.map_cons, pythonEqual_literal h.1, equalItems_literals h.2]

theorem pythonEqual_texts {value : JsonValue} {texts : List Text}
    (h : pythonEqual F value (textList texts) = true) : value = textList texts := by
  cases value with
  | list items => rw [textList, pythonEqual] at h; rw [textList, equalItems_literals h]
  | float source =>
    have hnumber : ((F.integer source).isSome && F.integer source == none) = true := h
    cases hn : F.integer source <;> simp [hn] at hnumber
  | _ => simp [pythonEqual, textList, numberValue] at h

theorem pythonEqual_bool {a b : Bool} (h : pythonEqual F (.bool a) (.bool b) = true) : a = b := by
  cases a <;> cases b <;> first | rfl | simp [pythonEqual, numberValue] at h

/-- Equal dictionaries hold equal values under equal names. -/
theorem equalMembers_mem {bs : Members} : ∀ {members : Members}, equalMembers F members bs = true →
    ∀ entry ∈ members, ∃ value, bs.lookup entry.1 = some value ∧ pythonEqual F entry.2 value = true
  | [], _, _, hentry => absurd hentry List.not_mem_nil
  | (name, a) :: members, h, entry, hentry => by
    rw [equalMembers, Bool.and_eq_true] at h
    obtain ⟨hfirst, hrest⟩ := h
    rcases List.mem_cons.mp hentry with rfl | hentry
    · split at hfirst
      next value hvalue => exact ⟨value, hvalue, hfirst⟩
      next => cases hfirst
    · exact equalMembers_mem hrest entry hentry

/-- Each requirement is equalled, as Python compares. -/
theorem cilium_equal (hnames : HasNames cilium (ciliumRequirements.map (·.1)) [])
    (h : pythonEqual F (.dict cilium) (object ciliumRequirements) = true) :
    ∀ entry ∈ ciliumRequirements, pythonEqual F (member cilium entry.1) entry.2 = true := by
  intro entry hentry
  rw [object, pythonEqual, Bool.and_eq_true] at h
  obtain ⟨value, hvalue, hequal⟩ := equalMembers_mem h.2 _
    (mem_of_lookup (names_lookup hnames (List.mem_map_of_mem hentry)))
  have hwritten : (ciliumRequirements.map fun entry => (text entry.1, entry.2)).lookup (text entry.1)
      = some entry.2 :=
    lookup_distinct (by decide) (text entry.1, entry.2) (List.mem_map_of_mem hentry)
  rw [hwritten] at hvalue
  rw [Option.some.inj hvalue]
  exact hequal

/-- The booleans among the requirements are given as booleans. -/
def BooleanFlags (cilium : Members) : Prop :=
  ∀ flag ∈ ciliumFlags, ∃ b, member cilium flag.1 = .bool b

/-- Values that equal the requirements are the requirements, if the flags are Booleans. -/
theorem cilium_same_iff (hnames : HasNames cilium (ciliumRequirements.map (·.1)) [])
    (hdistinct : distinctNames (.dict cilium) = true)
    (hequal : pythonEqual F (.dict cilium) (object ciliumRequirements) = true) :
    Same (object ciliumRequirements) (.dict cilium) ↔ BooleanFlags cilium := by
  have hentries := cilium_equal hnames hequal
  constructor
  · intro hsame flag hflag
    have hlookup : ciliumRequirements.lookup flag.1 = some (.bool flag.2) := by
      revert flag
      decide
    have hmember := Same.member flag.1 hsame hlookup
    simp only [Same] at hmember
    exact ⟨flag.2, hmember.symm⟩
  · intro hflags
    refine same_object hnames (List.Perm.refl _) (by decide) (distinct_names hdistinct)
      fun entry hentry => same_member hdistinct ?_
    have hvalue := hentries entry hentry
    rcases List.mem_append.mp hentry with hfixed | hflag
    · simp only [List.mem_cons, List.not_mem_nil, or_false] at hfixed
      rcases hfixed with rfl | rfl | rfl
      · exact pythonEqual_literal hvalue
      · exact pythonEqual_literal hvalue
      · exact (pythonEqual_texts hvalue : _ = textList (requiredIdentityLabels.map text))
    · obtain ⟨flag, hmem, rfl⟩ := List.mem_map.mp hflag
      obtain ⟨b, hb⟩ := hflags flag hmem
      show member cilium flag.1 = .bool flag.2
      rw [hb] at hvalue ⊢
      rw [pythonEqual_bool hvalue]

/-! ## The contract -/

/-- What a document is accepted with: its parts, and how they are read. -/
structure Accepted (F : PythonFloats) (document cilium rawWorkloads : Members)
    (contract : SiteEgressContract) : Prop where
  names : HasNames document ["cilium", "cluster_dns", "gateways", "profile", "schema",
    "site_perimeter_enforcement", "workloads"] []
  schema : member document "schema" = literal siteEgressSchema
  profile : member document "profile" = literal siteEgressProfile
  cilium_eq : member document "cilium" = .dict cilium
  cilium_names : HasNames cilium (ciliumRequirements.map (·.1)) []
  cilium_equal : pythonEqual F (.dict cilium) (object ciliumRequirements) = true
  dns : parseDns (member document "cluster_dns")
    = .ok (contract.dnsNamespace, contract.dnsPodSelector)
  gateways : parseGateways (member document "gateways") = .ok contract.gateways
  workloads_eq : member document "workloads" = .dict rawWorkloads
  workloads_names : HasNames rawWorkloads (workloads.map Workload.name) []
  parsed : parseWorkloads rawWorkloads [] workloads = .ok contract.workloads
  budget : ((allCidrs contract.workloads).map fun cidr => (networkOf cidr).text).dedup.length ≤ 256
  apart : ∀ gateway ∈ contract.gateways, ∀ cidr ∈ allCidrs contract.workloads,
    ¬(networkOf cidr).contains (addressOf gateway.egressIp) = true
  perimeter : parsePerimeter (member document "site_perimeter_enforcement") contract.gateways
    (allCidrs contract.workloads) = .ok ⟨contract.perimeterChangeReference,
      contract.directDeniedNodeSourceCidrs, contract.directDeniedPodSourceCidrs⟩

/-- **What the parser accepts**, as a condition on the document. -/
theorem parse_iff {value : JsonValue} :
    parseSiteEgressContract F value = .ok contract ↔ ∃ document cilium rawWorkloads,
      value = .dict document ∧ Accepted F document cilium rawWorkloads contract := by
  constructor
  · intro h
    simp only [parseSiteEgressContract, bind_eq_ok, require_eq_ok, pure_eq_ok, exactMapping_ok,
      exists_const] at h
    obtain ⟨document, ⟨rfl, hnames⟩, hschema, hprofile, cilium, ⟨hcilium, hciliumNames⟩, hequal,
      dns, hdns, gateways, hgateways, raw, ⟨hraw, hrawNames⟩, parsed, hparsed, hbudget, hapart,
      perimeter, hperimeter, rfl⟩ := h
    exact ⟨document, cilium, raw, rfl, hnames, hschema, hprofile, hcilium, hciliumNames, hequal, hdns,
      hgateways, hraw, hrawNames, hparsed, hbudget, hapart, hperimeter⟩
  · rintro ⟨document, cilium, raw, rfl, h⟩
    unfold parseSiteEgressContract
    rw [exactMapping_ok.mpr ⟨rfl, h.names⟩, ok_bind, require_pos h.schema, ok_bind,
      require_pos h.profile, ok_bind, exactMapping_ok.mpr ⟨h.cilium_eq, h.cilium_names⟩, ok_bind,
      require_pos h.cilium_equal, ok_bind, h.dns, ok_bind]
    dsimp only
    rw [h.gateways, ok_bind,
      exactMapping_ok.mpr ⟨h.workloads_eq, h.workloads_names⟩, ok_bind, h.parsed, ok_bind,
      require_pos h.budget, ok_bind, require_pos h.apart, ok_bind, h.perimeter]
    rfl

/-- The parts of the document of a contract. -/
theorem asDocument_eq (h : Accepted F document cilium rawWorkloads contract) :
    contract.asDocument = object [("cilium", object ciliumRequirements),
      ("cluster_dns", dnsDocument (contract.dnsNamespace, contract.dnsPodSelector)),
      ("site_perimeter_enforcement", object (perimeterMembers ⟨contract.perimeterChangeReference,
        contract.directDeniedNodeSourceCidrs, contract.directDeniedPodSourceCidrs⟩
        (contract.gateways.map (·.egressIp)) (sortedNetworks ((allCidrs contract.workloads).map
          fun cidr => (networkOf cidr).text)))),
      ("gateways", .list (contract.gateways.map SiteEgressGateway.asDocument)),
      ("profile", literal siteEgressProfile), ("schema", literal siteEgressSchema),
      ("workloads", object (workloadMembers contract.workloads))] := by
  rw [allCidrs_text h.parsed]
  rfl

/-- What is accepted is accepted again as it is written. -/
theorem accepted_again (h : Accepted F document cilium rawWorkloads contract) :
    parseSiteEgressContract F contract.asDocument = .ok contract := by
  refine parse_iff.mpr ⟨_, _, _, asDocument_eq h, hasNames_object ?_, member_object rfl,
    member_object rfl, member_object rfl, hasNames_object (List.Perm.refl _), rfl, ?_, ?_,
    member_object rfl, hasNames_object ?_, ?_, h.budget, h.apart, ?_⟩
  · show ["cilium", "cluster_dns", "site_perimeter_enforcement", "gateways", "profile", "schema",
      "workloads"].Perm _
    decide
  · rw [member_object rfl]
    exact dns_faithful.again h.dns
  · rw [member_object rfl]
    exact gateways_faithful.again h.gateways
  · rw [workload_names (parseWorkloads_names h.parsed)]
  · exact parseWorkloads_again h.parsed (member_workload (parseWorkloads_names h.parsed))
  · rw [member_object rfl]
    exact (perimeter_faithful contract.gateways (allCidrs contract.workloads)).again h.perimeter

/-- A contract is the document it was read from when its Cilium requirements are. -/
theorem accepted_same (h : Accepted F document cilium rawWorkloads contract)
    (hdistinct : distinctNames (.dict document) = true)
    (hcilium : Same (object ciliumRequirements) (.dict cilium)) :
    Same contract.asDocument (.dict document) := by
  have hraw := distinct_member hdistinct "workloads"
  rw [h.workloads_eq] at hraw
  rw [asDocument_eq h]
  refine same_object h.names ?_ (by decide) (distinct_names hdistinct) ?_
  · show ["cilium", "cluster_dns", "site_perimeter_enforcement", "gateways", "profile", "schema",
      "workloads"].Perm _
    decide
  · simp only [List.forall_mem_cons]
    refine ⟨?_, dns_faithful.same h.dns (distinct_member hdistinct _),
      (perimeter_faithful _ _).same h.perimeter (distinct_member hdistinct _),
      gateways_faithful.same h.gateways (distinct_member hdistinct _),
      same_member hdistinct h.profile, same_member hdistinct h.schema, ?_,
      List.forall_mem_nil _⟩
    · rw [h.cilium_eq]
      exact hcilium
    · rw [h.workloads_eq]
      exact workloads_same h.parsed h.workloads_names hraw

/-- The `cilium` member of a document. -/
def ciliumMembers : JsonValue → Members
  | .dict document => (membersValue (member document "cilium")).getD []
  | _ => []

/-- **A contract is its document, but for the Cilium booleans.** The document of a contract is what
was parsed, up to the order of members, and parses to the contract again, exactly when the booleans
that `cilium` must have are given as booleans: `!=` takes `1` and `1.0` for `true`, `0` for
`false`. -/
theorem contract_is_document_iff {value : JsonValue} {contract : SiteEgressContract}
    (h : parseSiteEgressContract F value = .ok contract) (hdistinct : distinctNames value = true) :
    (Same contract.asDocument value ∧ parseSiteEgressContract F contract.asDocument = .ok contract)
      ↔ BooleanFlags (ciliumMembers value) := by
  obtain ⟨document, cilium, rawWorkloads, rfl, haccepted⟩ := parse_iff.mp h
  have hcilium : ciliumMembers (.dict document) = cilium := by
    rw [ciliumMembers, haccepted.cilium_eq]
    rfl
  have hinner := distinct_member hdistinct "cilium"
  rw [haccepted.cilium_eq] at hinner
  have hiff := cilium_same_iff haccepted.cilium_names hinner haccepted.cilium_equal
  rw [hcilium, ← hiff]
  constructor
  · rintro ⟨hsame, -⟩
    rw [asDocument_eq haccepted] at hsame
    rw [← haccepted.cilium_eq]
    exact Same.member "cilium" hsame rfl
  · exact fun hsame => ⟨accepted_same haccepted hdistinct hsame, accepted_again haccepted⟩

def exampleDestination : SiteEgressDestination :=
  ⟨text "database", text "db.internal.corp", [text "203.0.113.0/24"], 5432⟩

def examplePerimeter : Perimeter := ⟨text "CHG-1024", [text "10.0.0.0/16"], [text "10.1.0.0/16"]⟩

/-- One database for all workloads, behind two gateways. -/
def exampleContract (selector : List (Text × Text)) : SiteEgressContract where
  dnsNamespace := text "kube-system"
  dnsPodSelector := selector
  directDeniedNodeSourceCidrs := examplePerimeter.nodeSources
  directDeniedPodSourceCidrs := examplePerimeter.podSources
  gateways := [⟨text "node-a", text "198.51.100.10"⟩, ⟨text "node-b", text "198.51.100.11"⟩]
  workloads := workloads.map fun workload => (workload, [exampleDestination])
  perimeterChangeReference := examplePerimeter.changeReference

def exampleSelector : List (Text × Text) := [(text "k8s-app", text "kube-dns")]

/-- No number of the example is a float. -/
def noFloats : PythonFloats := ⟨fun _ => none, fun _ _ => false⟩

/-- The requirements with a value for the first boolean. -/
def exampleCilium (enabled : JsonValue) : List (String × JsonValue) :=
  ciliumRequirements.map fun entry =>
    if entry.1 = "egress_gateway_enabled" then (entry.1, enabled) else entry

def exampleDocument (enabled : JsonValue) (selector : List (Text × Text)) : JsonValue :=
  let contract := exampleContract selector
  object [("cilium", object (exampleCilium enabled)),
    ("cluster_dns", dnsDocument (contract.dnsNamespace, selector)),
    ("site_perimeter_enforcement", contract.perimeterDocument),
    ("gateways", .list (contract.gateways.map SiteEgressGateway.asDocument)),
    ("profile", literal siteEgressProfile), ("schema", literal siteEgressSchema),
    ("workloads", object (workloadMembers contract.workloads))]

theorem example_perimeter :
    parsePerimeter (exampleContract []).perimeterDocument (exampleContract []).gateways
      (allCidrs (exampleContract []).workloads) = .ok examplePerimeter := by
  have hmember {name : String} {value : JsonValue} (h : (perimeterMembers examplePerimeter
      ((exampleContract []).gateways.map (·.egressIp))
      (exampleContract []).destinationCidrs).lookup name = some value) := member_object h
  show parsePerimeter (object (perimeterMembers _ _ _)) _ _ = _
  unfold parsePerimeter
  rw [exactMapping_object (by rw [perimeter_names]), ok_bind,
    @hmember "allowed_gateway_source_ips" _ rfl, @hmember "change_reference" _ rfl,
    @hmember "contracted_destination_cidrs" _ rfl,
    @hmember "deny_all_direct_external_pod_and_node_egress" _ rfl,
    @hmember "deny_gateway_sources_outside_contracted_destinations" _ rfl,
    @hmember "direct_denied_node_source_cidrs" _ rfl,
    @hmember "direct_denied_pod_source_cidrs" _ rfl,
    @hmember "gateway_allow_exception_precedes_direct_deny" _ rfl,
    @hmember "perimeter_ipv6_external_egress_disabled" _ rfl]
  decide +kernel

/-- The example is accepted with whatever equals `true`, and with any selector that is read. -/
theorem example_accepted {enabled : JsonValue} {selector : List (Text × Text)}
    (h : pythonEqual noFloats (object (exampleCilium enabled)) (object ciliumRequirements) = true)
    (hselector : parseSelector (.dict (labelMembers selector)) = .ok selector) :
    parseSiteEgressContract noFloats (exampleDocument enabled selector)
      = .ok (exampleContract selector) := by
  refine parse_iff.mpr ⟨_, _, _, rfl, hasNames_object ?_, member_object rfl,
    member_object rfl, member_object rfl, hasNames_object (List.Perm.refl _), h, ?_, ?_,
    member_object rfl, hasNames_object (List.Perm.refl _), ?_, ?_, ?_, ?_⟩
  · show ["cilium", "cluster_dns", "site_perimeter_enforcement", "gateways", "profile", "schema",
      "workloads"].Perm _
    decide
  · rw [member_object rfl]
    refine parseDns_ok.mpr ⟨_, rfl, hasNames_object (List.Perm.refl _), ?_, ?_, ?_⟩
    · rw [member_object rfl]
      show stringField (.string (text "kube-system")) _ _ = .ok (text "kube-system")
      decide
    · show isDnsLabel (text "kube-system") = true
      decide
    · rw [member_object rfl]
      exact hselector
  · rw [member_object rfl]
    show parseGateways (.list ((exampleContract []).gateways.map _)) = .ok (exampleContract []).gateways
    decide +kernel
  · show parseWorkloads ((workloadMembers (exampleContract []).workloads).map _) _ _
      = .ok (exampleContract []).workloads
    decide +kernel
  · show ((allCidrs (exampleContract []).workloads).map _).dedup.length ≤ 256
    decide +kernel
  · show ∀ gateway ∈ (exampleContract []).gateways, ∀ cidr ∈ allCidrs (exampleContract []).workloads,
      ¬(networkOf cidr).contains (addressOf gateway.egressIp) = true
    decide +kernel
  · rw [member_object rfl]
    exact example_perimeter

theorem example_equal : ∀ enabled ∈ [.bool true, .int 1],
    pythonEqual noFloats (object (exampleCilium enabled)) (object ciliumRequirements) = true := by
  decide +kernel

theorem example_contract_is_document :
    (Same (exampleContract exampleSelector).asDocument (exampleDocument (.bool true) exampleSelector)
        ∧ parseSiteEgressContract noFloats (exampleContract exampleSelector).asDocument
          = .ok (exampleContract exampleSelector))
      ↔ BooleanFlags (ciliumMembers (exampleDocument (.bool true) exampleSelector)) :=
  contract_is_document_iff (example_accepted (example_equal _ (.head _)) (by decide))
    (by decide +kernel)

/-- A document with the number `1` for `true` is accepted, and is not the document of its
contract. -/
theorem number_for_boolean_accepted :
    parseSiteEgressContract noFloats (exampleDocument (.int 1) exampleSelector)
        = .ok (exampleContract exampleSelector)
      ∧ ¬Same (exampleContract exampleSelector).asDocument
        (exampleDocument (.int 1) exampleSelector) := by
  refine ⟨example_accepted (example_equal _ (.tail _ (.head _))) (by decide), fun hsame => ?_⟩
  have hcilium := Same.member "cilium" hsame rfl
  rw [member_object rfl] at hcilium
  have hflag := Same.member "egress_gateway_enabled" hcilium rfl
  rw [member_object rfl] at hflag
  simp [Same] at hflag

end ControlAssurance.SiteEgress
