import ControlAssurance.SiteEgress.RoundTrip
import Std.Data.String.ToInt

/-!
# The rendered network policies

`render_site_egress_documents` on an accepted contract, and what its policies say when they are
read as Cilium reads them: `matchLabels` is a conjunction over the labels of a pod, among which
its namespace stands as `io.kubernetes.pod.namespace`.
-/

namespace ControlAssurance.SiteEgress

open Lib Attestation Connectors

/-! ## Rendering -/

/-- The value of `matchLabels`. -/
abbrev Labels := Dict Text Text

/-- `_WORKLOAD_LABELS` -/
def Workload.labels : Workload → List (String × String)
  | .controlPlane => [("app.kubernetes.io/name", "control-assurance"),
      ("app.kubernetes.io/component", "control-plane")]
  | .deploymentReconciler => [("app.kubernetes.io/name", "control-assurance"),
      ("app.kubernetes.io/component", "deployment-reconciler")]
  | .runtimeWorker => [("app.kubernetes.io/name", "control-assurance-runtime"),
      ("app.kubernetes.io/component", "runtime-worker")]
  | .profileRegistrar => [("app.kubernetes.io/name", "control-assurance-runtime"),
      ("app.kubernetes.io/component", "profile-registrar")]

/-- `NAMESPACE` -/
def productNamespace : String := "control-assurance"

/-- `SITE_EGRESS_DIGEST_LABEL` -/
def digestLabel : String := "control-assurance.io/egress-contract"

def namespaceLabel : String := "io.kubernetes.pod.namespace"

/-- `a` to `z`, then `2` to `7`. -/
def base32Code (n : Nat) : Nat := if n < 26 then 0x61 + n else 0x32 + (n - 26)

/-- `_digest_label_value`: the 32 bytes in base 32, without padding. -/
def digestLabelValue (digest : Text) : Except String Text := do
  require (isDigestText digest = true) "site-egress-digest-invalid"
  let number := (digest.drop 7).foldl
    (fun n code => n * 16 + if code < 0x3A then code - 0x30 else code - 0x57) 0
  pure ((List.range 52).map fun i => base32Code (number * 16 / 32 ^ (51 - i) % 32))

structure PolicyMetadata where
  name : String
  labels : Labels
  annotations : Labels
  namespaceName : Option String

/-- `_policy_metadata` -/
def policyMetadata (name component : String) (digest selectorDigest : Text) (namespaced : Bool) :
    PolicyMetadata where
  name := name
  labels := Dict.ofPairs [(text "app.kubernetes.io/name", text "control-assurance"),
    (text "app.kubernetes.io/component", text component), (text digestLabel, selectorDigest)]
  annotations := [(text "control-assurance.io/egress-contract-digest", digest)]
  namespaceName := if namespaced then some productNamespace else none

/-- A rule of `egress`: to pods or to names, on ports with a protocol, with names for DNS. -/
structure EgressRule where
  toEndpoints : List Labels := []
  toFqdns : List Text := []
  ports : List (String × String)
  dnsNames : List Text := []

structure CiliumNetworkPolicy where
  metadata : PolicyMetadata
  endpointSelector : Labels
  egress : List EgressRule

structure CiliumEgressGatewayPolicy where
  metadata : PolicyMetadata
  podSelectors : List Labels
  destinationCidrs : List Text
  egressGateways : List SiteEgressGateway

/-- `sorted({...})` of names. -/
def sortedNames (names : List Text) : List Text :=
  names.dedup.insertionSort fun left right => textLe left right = true

/-- `f"k8s:{key}"` -/
def sourced (key : Text) : Text := text "k8s:" ++ key

/-- The labels that DNS is allowed to. -/
def dnsLabels (contract : SiteEgressContract) : Labels :=
  Dict.ofPairs ((sourced (text namespaceLabel), contract.dnsNamespace)
    :: Dict.ofPairs (contract.dnsPodSelector.map fun entry => (sourced entry.1, entry.2)))

/-- The rule for the names of a port. -/
def portRule (destinations : List SiteEgressDestination) (port : Int) : EgressRule where
  toFqdns := sortedNames ((destinations.filter (·.port = port)).map (·.fqdn))
  ports := [(port.repr, "TCP")]

/-- `_cilium_network_policy` -/
def ciliumNetworkPolicy (workload : Workload) (destinations : List SiteEgressDestination)
    (contract : SiteEgressContract) (digest selectorDigest : Text) : CiliumNetworkPolicy where
  metadata := policyMetadata ("control-assurance-" ++ workload.name ++ "-egress") workload.name digest
    selectorDigest true
  endpointSelector := Dict.ofPairs ((workload.labels.map fun label => (text label.1, text label.2))
    ++ [(text digestLabel, selectorDigest)])
  egress := { toEndpoints := [dnsLabels contract]
              ports := [("53", "ANY")]
              dnsNames := sortedNames (destinations.map (·.fqdn)) }
    :: ((destinations.map (·.port)).dedup.insertionSort (· ≤ ·)).map (portRule destinations)

/-- The labels of a workload's pods in the gateway policy. -/
def gatewaySelector (selectorDigest : Text) (workload : Workload) : Labels :=
  Dict.ofPairs ((text namespaceLabel, text productNamespace)
    :: (workload.labels.map fun label => (text label.1, text label.2))
    ++ [(text digestLabel, selectorDigest)])

structure RenderedPolicies where
  networkPolicies : List CiliumNetworkPolicy
  gatewayPolicy : CiliumEgressGatewayPolicy

/-- `render_site_egress_documents` -/
def renderSiteEgressDocuments (contract : SiteEgressContract) (digest : Text) :
    Except String RenderedPolicies := do
  let selectorDigest ← digestLabelValue digest
  pure
    { networkPolicies := contract.workloads.map fun entry =>
        ciliumNetworkPolicy entry.1 entry.2 contract digest selectorDigest
      gatewayPolicy :=
        { metadata := policyMetadata "control-assurance-egress-gateway" "egress-gateway" digest
            selectorDigest false
          podSelectors := workloads.map (gatewaySelector selectorDigest)
          destinationCidrs := contract.destinationCidrs
          egressGateways := contract.gateways } }

/-! ## Reading the policies -/

/-- A pod. Its namespace is not a label that it can be given. -/
structure Pod where
  namespaceName : Text
  labels : Text → Option Text

def Pod.label (pod : Pod) (key : Text) : Option Text :=
  if key = text namespaceLabel then some pod.namespaceName else pod.labels key

/-- A key without the source that stands before it. -/
def unsourced (key : Text) : Text :=
  if (text "k8s:").isPrefixOf key = true then key.drop 4 else key

def selects (labels : Labels) (pod : Pod) : Prop :=
  ∀ label ∈ labels, pod.label (unsourced label.1) = some label.2

def CiliumNetworkPolicy.allowsTcp (policy : CiliumNetworkPolicy) (fqdn : Text) (port : Int) : Prop :=
  ∃ rule ∈ policy.egress, fqdn ∈ rule.toFqdns ∧ (port.repr, "TCP") ∈ rule.ports

def CiliumNetworkPolicy.allowsDns (policy : CiliumNetworkPolicy) (pod : Pod) (name : Text) : Prop :=
  ∃ rule ∈ policy.egress, (∃ labels ∈ rule.toEndpoints, selects labels pod) ∧ name ∈ rule.dnsNames

/-- A policy says what the contract says of a workload. -/
structure WorkloadExact (contract : SiteEgressContract) (selectorDigest : Text)
    (entry : Workload × List SiteEgressDestination) (policy : CiliumNetworkPolicy) : Prop where
  pods : ∀ pod, selects policy.endpointSelector pod ↔
    (∀ label ∈ entry.1.labels, pod.label (text label.1) = some (text label.2))
      ∧ pod.label (text digestLabel) = some selectorDigest
  tcp : ∀ fqdn port, policy.allowsTcp fqdn port ↔
    ∃ destination ∈ entry.2, destination.fqdn = fqdn ∧ destination.port = port
  dns : ∀ pod name, policy.allowsDns pod name →
    (∃ destination ∈ entry.2, destination.fqdn = name) ∧ pod.namespaceName = contract.dnsNamespace
      ∧ ∀ label ∈ contract.dnsPodSelector, pod.label label.1 = some label.2

/-- The policies say exactly what the contract says. -/
structure PoliciesExact (contract : SiteEgressContract) (selectorDigest : Text)
    (rendered : RenderedPolicies) : Prop where
  workloads : List.Forall₂ (WorkloadExact contract selectorDigest) contract.workloads
    rendered.networkPolicies
  routed : ∀ pod, (∃ labels ∈ rendered.gatewayPolicy.podSelectors, selects labels pod) ↔
    pod.namespaceName = text productNamespace
      ∧ ∃ policy ∈ rendered.networkPolicies, selects policy.endpointSelector pod
  once : rendered.gatewayPolicy.destinationCidrs.Nodup
  cidrs : ∀ cidr, cidr ∈ rendered.gatewayPolicy.destinationCidrs ↔
    ∃ entry ∈ contract.workloads, ∃ destination ∈ entry.2, cidr ∈ destination.cidrs
  outside : ∀ cidr ∈ rendered.gatewayPolicy.destinationCidrs,
    ∀ gateway ∈ rendered.gatewayPolicy.egressGateways,
      ¬(networkOf cidr).contains (addressOf gateway.egressIp) = true
  apart : rendered.networkPolicies.Pairwise fun policy other =>
    ∀ pod, ¬(selects policy.endpointSelector pod ∧ selects other.endpointSelector pod)

/-! ## Selectors -/

theorem unsourced_sourced (key : Text) : unsourced (sourced key) = key := by
  show unsourced (0x6B :: 0x38 :: 0x73 :: 0x3A :: key) = key
  simp [unsourced, show text "k8s:" = [0x6B, 0x38, 0x73, 0x3A] from rfl]

/-- Labels with distinct keys and no sources. -/
theorem selects_iff {pairs : List (Text × Text)} (hkeys : (pairs.map (·.1)).Nodup)
    (hplain : ∀ entry ∈ pairs, unsourced entry.1 = entry.1) (pod : Pod) :
    selects (Dict.ofPairs pairs) pod ↔ ∀ entry ∈ pairs, pod.label entry.1 = some entry.2 := by
  rw [Dict.ofPairs_of_nodup hkeys]
  exact forall₂_congr fun entry hentry => by rw [hplain entry hentry]

/-- The keys that the policies are written with. -/
def fixedKeys : List String :=
  [namespaceLabel, "app.kubernetes.io/name", "app.kubernetes.io/component", digestLabel]

theorem fixed_plain : ∀ key ∈ fixedKeys, unsourced (text key) = text key := by
  simp only [fixedKeys, List.forall_mem_cons]
  exact ⟨rfl, rfl, rfl, rfl, fun _ hnone => absurd hnone List.not_mem_nil⟩

theorem fixed_nodup : (fixedKeys.map text).Nodup :=
  List.Nodup.map (fun _ _ => text_injective) (by decide)

theorem gatewaySelector_keys (selectorDigest : Text) (workload : Workload) :
    ((text namespaceLabel, text productNamespace)
      :: (workload.labels.map fun label => (text label.1, text label.2))
      ++ [(text digestLabel, selectorDigest)]).map (·.1) = fixedKeys.map text := by
  cases workload <;> rfl

theorem endpoint_selects (contract : SiteEgressContract) (digest selectorDigest : Text)
    (entry : Workload × List SiteEgressDestination) (pod : Pod) :
    selects (ciliumNetworkPolicy entry.1 entry.2 contract digest selectorDigest).endpointSelector pod ↔
      (∀ label ∈ entry.1.labels, pod.label (text label.1) = some (text label.2))
        ∧ pod.label (text digestLabel) = some selectorDigest := by
  have hkeys := gatewaySelector_keys selectorDigest entry.1
  refine (selects_iff ?_ ?_ pod).trans ?_
  · have hnodup := hkeys ▸ fixed_nodup
    exact (List.nodup_cons.mp hnodup).2
  · intro label hlabel
    have hmem : label.1 ∈ fixedKeys.map text :=
      hkeys ▸ List.mem_map_of_mem (List.mem_cons_of_mem _ hlabel)
    obtain ⟨key, hkey, heq⟩ := List.mem_map.mp hmem
    rw [← heq]
    exact fixed_plain key hkey
  · rw [List.forall_mem_append, List.forall_mem_map]
    exact and_congr_right' List.forall_mem_singleton

theorem gateway_selects (contract : SiteEgressContract) (digest selectorDigest : Text)
    (entry : Workload × List SiteEgressDestination) (pod : Pod) :
    selects (gatewaySelector selectorDigest entry.1) pod ↔
      pod.namespaceName = text productNamespace ∧ selects
        (ciliumNetworkPolicy entry.1 entry.2 contract digest selectorDigest).endpointSelector pod := by
  have hkeys := gatewaySelector_keys selectorDigest entry.1
  refine (selects_iff (hkeys ▸ fixed_nodup) ?_ pod).trans ?_
  · intro label hlabel
    have hmem : label.1 ∈ fixedKeys.map text := hkeys ▸ List.mem_map_of_mem hlabel
    obtain ⟨key, hkey, heq⟩ := List.mem_map.mp hmem
    rw [← heq]
    exact fixed_plain key hkey
  · have hnamespace : pod.label (text namespaceLabel) = some pod.namespaceName := if_pos rfl
    rw [endpoint_selects, List.cons_append, List.forall_mem_cons, List.forall_mem_append,
      List.forall_mem_map, hnamespace, Option.some_inj]
    exact and_congr_right' (and_congr_right' List.forall_mem_singleton)

/-- Two workloads have different components. -/
theorem component_label (workload : Workload) :
    ("app.kubernetes.io/component", workload.name) ∈ workload.labels := by
  cases workload <;> exact List.mem_cons_of_mem _ List.mem_cons_self

theorem name_injective {workload other : Workload} (h : workload.name = other.name) :
    workload = other := by
  revert h
  cases workload <;> cases other <;> decide

theorem endpoints_apart (contract : SiteEgressContract) (digest selectorDigest : Text)
    {entry other : Workload × List SiteEgressDestination} (hne : entry.1 ≠ other.1) (pod : Pod) :
    ¬(selects (ciliumNetworkPolicy entry.1 entry.2 contract digest selectorDigest).endpointSelector pod
      ∧ selects (ciliumNetworkPolicy other.1 other.2 contract digest selectorDigest).endpointSelector
        pod) := by
  rintro ⟨hentry, hother⟩
  have hone := ((endpoint_selects ..).mp hentry).1 _ (component_label entry.1)
  have htwo := ((endpoint_selects ..).mp hother).1 _ (component_label other.1)
  exact hne (name_injective (text_injective (Option.some.inj (hone.symm.trans htwo))))

/-! ## Rules -/

theorem mem_sortedNames {names : List Text} {name : Text} : name ∈ sortedNames names ↔ name ∈ names := by
  rw [sortedNames, List.mem_insertionSort, List.mem_dedup]

/-- The ports of the names are those of the destinations with the name. -/
theorem allowsTcp_iff (contract : SiteEgressContract) (digest selectorDigest : Text)
    (entry : Workload × List SiteEgressDestination) (fqdn : Text) (port : Int) :
    (ciliumNetworkPolicy entry.1 entry.2 contract digest selectorDigest).allowsTcp fqdn port ↔
      ∃ destination ∈ entry.2, destination.fqdn = fqdn ∧ destination.port = port := by
  constructor
  · rintro ⟨rule, hrule, hfqdn, hport⟩
    rcases List.mem_cons.mp hrule with rfl | hrule
    · cases hfqdn
    · obtain ⟨found, -, rfl⟩ := List.mem_map.mp hrule
      have hrepr := (Prod.mk.inj (List.mem_singleton.mp hport)).1
      obtain ⟨destination, hdestination, hname⟩ := List.mem_map.mp (mem_sortedNames.mp hfqdn)
      obtain ⟨hmem, hfound⟩ := List.mem_filter.mp hdestination
      exact ⟨destination, hmem, hname, (of_decide_eq_true hfound).trans (Int.repr_injective hrepr).symm⟩
  · rintro ⟨destination, hmem, rfl, rfl⟩
    refine ⟨portRule entry.2 destination.port, List.mem_cons_of_mem _ (List.mem_map_of_mem ?_), ?_,
      List.mem_singleton_self _⟩
    · rw [List.mem_insertionSort, List.mem_dedup]
      exact List.mem_map_of_mem hmem
    · exact mem_sortedNames.mpr (List.mem_map_of_mem (List.mem_filter.mpr ⟨hmem, decide_eq_true rfl⟩))

/-- Only the first rule is about pods. -/
theorem allowsDns_iff (contract : SiteEgressContract) (digest selectorDigest : Text)
    (entry : Workload × List SiteEgressDestination) (pod : Pod) (name : Text) :
    (ciliumNetworkPolicy entry.1 entry.2 contract digest selectorDigest).allowsDns pod name ↔
      selects (dnsLabels contract) pod ∧ ∃ destination ∈ entry.2, destination.fqdn = name := by
  constructor
  · rintro ⟨rule, hrule, ⟨labels, hlabels, hselects⟩, hname⟩
    rcases List.mem_cons.mp hrule with rfl | hrule
    · rw [List.mem_singleton.mp hlabels] at hselects
      exact ⟨hselects, List.mem_map.mp (mem_sortedNames.mp hname)⟩
    · obtain ⟨port, -, rfl⟩ := List.mem_map.mp hrule
      cases hlabels
  · rintro ⟨hselects, hname⟩
    exact ⟨_, List.mem_cons_self, ⟨_, List.mem_singleton_self _, hselects⟩,
      mem_sortedNames.mpr (List.mem_map.mpr hname)⟩

/-! ## DNS -/

variable {labels : List (Text × Text)}

theorem selector_nodup {value : JsonValue}
    (h : parseSelector value = .ok labels) (hdistinct : distinctNames value = true) :
    (labels.map (·.1)).Nodup := by
  obtain ⟨found, rfl, -, -, -, rfl⟩ := parseSelector_ok.mp h
  have hnames := distinct_names hdistinct
  rw [labelMembers, List.map_map] at hnames
  exact ((List.perm_insertionSort pairsOrdered found).map (·.1)).nodup_iff.mpr hnames

/-- The labels of the DNS pods as they are written. -/
def sourcedLabels (labels : List (Text × Text)) : Labels :=
  labels.map fun entry => (sourced entry.1, entry.2)

theorem sourcedLabels_nodup (h : (labels.map (·.1)).Nodup) : (sourcedLabels labels).keys.Nodup := by
  have hkeys : (sourcedLabels labels).keys = (labels.map (·.1)).map sourced := by
    rw [sourcedLabels, Dict.keys, List.map_map, List.map_map]
    rfl
  rw [hkeys]
  exact h.map fun _ _ => List.append_cancel_left

/-- The labels of the contract's selector stand over the namespace. -/
theorem dnsLabels_get? {contract : SiteEgressContract}
    (h : (contract.dnsPodSelector.map (·.1)).Nodup) (k : Text) :
    (dnsLabels contract).get? k = if k ∈ (sourcedLabels contract.dnsPodSelector).keys
      then (sourcedLabels contract.dnsPodSelector).get? k
      else if sourced (text namespaceLabel) = k then some contract.dnsNamespace else none := by
  have hkeys := sourcedLabels_nodup h
  have hlabels : dnsLabels contract = Dict.ofPairs ([(sourced (text namespaceLabel),
      contract.dnsNamespace)] ++ sourcedLabels contract.dnsPodSelector) :=
    congrArg (fun labels => Dict.ofPairs (_ :: labels)) (Dict.ofPairs_of_nodup hkeys)
  rw [hlabels, Dict.get?_ofPairs_append hkeys]
  by_cases hk : k ∈ (sourcedLabels contract.dnsPodSelector).keys
  · rw [if_pos hk, if_pos hk]
  · rw [if_neg hk, if_neg hk]
    exact Dict.get?_cons (sourced (text namespaceLabel), contract.dnsNamespace) [] k

theorem sourced_mem {key value : Text} :
    (sourced key, value) ∈ sourcedLabels labels ↔ (key, value) ∈ labels := by
  constructor
  · intro h
    obtain ⟨label, hlabel, heq⟩ := List.mem_map.mp h
    obtain ⟨hkey, rfl⟩ := Prod.mk.inj heq
    rw [← List.append_cancel_left hkey]
    exact hlabel
  · exact fun h => List.mem_map.mpr ⟨_, h, rfl⟩

/-- A pod that DNS is allowed to carries the labels of the contract, and is in the namespace when no
label says otherwise. -/
theorem dns_selected {contract : SiteEgressContract}
    (hnodup : (contract.dnsPodSelector.map (·.1)).Nodup)
    (hnamespace : ∀ label ∈ contract.dnsPodSelector, label.1 = text namespaceLabel →
      label.2 = contract.dnsNamespace) {pod : Pod} (h : selects (dnsLabels contract) pod) :
    pod.namespaceName = contract.dnsNamespace
      ∧ ∀ label ∈ contract.dnsPodSelector, pod.label label.1 = some label.2 := by
  have hkeys := sourcedLabels_nodup hnodup
  have hfound {key value : Text} (hget : (dnsLabels contract).get? (sourced key) = some value) :
      pod.label key = some value := by
    rw [← unsourced_sourced key]
    exact h _ (Dict.get?_eq_some hget)
  have hlabels : ∀ label ∈ contract.dnsPodSelector, pod.label label.1 = some label.2 := by
    intro label hlabel
    have hmem := sourced_mem.mpr hlabel
    have hkey : sourced label.1 ∈ (sourcedLabels contract.dnsPodSelector).keys :=
      List.mem_map_of_mem hmem
    refine hfound ?_
    rw [dnsLabels_get? hnodup, if_pos hkey]
    exact Dict.get?_of_mem hkeys hmem
  refine ⟨?_, hlabels⟩
  have hpod : pod.label (text namespaceLabel) = some pod.namespaceName := if_pos rfl
  by_cases hgiven : sourced (text namespaceLabel) ∈ (sourcedLabels contract.dnsPodSelector).keys
  · obtain ⟨⟨key, value⟩, hmem, hkey⟩ := List.mem_map.mp hgiven
    obtain rfl : key = sourced (text namespaceLabel) := hkey
    have hlabel := sourced_mem.mp hmem
    have hcarried := hlabels _ hlabel
    rw [hpod, hnamespace _ hlabel rfl] at hcarried
    exact Option.some.inj hcarried
  · have hcarried : pod.label (text namespaceLabel) = some contract.dnsNamespace :=
      hfound (by rw [dnsLabels_get? hnodup, if_neg hgiven, if_pos rfl])
    exact Option.some.inj (hpod.symm.trans hcarried)

/-- A label for the namespace lets DNS go to the pods of that namespace. -/
theorem dns_elsewhere {contract : SiteEgressContract}
    (hnodup : (contract.dnsPodSelector.map (·.1)).Nodup) {value : Text}
    (hlabel : (text namespaceLabel, value) ∈ contract.dnsPodSelector) :
    selects (dnsLabels contract)
      ⟨value, fun key => Dict.get? contract.dnsPodSelector key⟩ := by
  intro written hwritten
  have hget : (dnsLabels contract).get? written.1 = some written.2 :=
    Dict.get?_of_mem (Dict.nodup_keys_ofPairs _) hwritten
  rw [dnsLabels_get? hnodup] at hget
  have hover : sourced (text namespaceLabel) ∈ (sourcedLabels contract.dnsPodSelector).keys :=
    List.mem_map_of_mem (sourced_mem.mpr hlabel)
  split at hget
  next hkey =>
    obtain ⟨label, hmem, heq⟩ := List.mem_map.mp (Dict.get?_eq_some hget)
    obtain ⟨hsource, hvalue⟩ := Prod.mk.inj heq
    rw [← hsource, ← hvalue, unsourced_sourced]
    by_cases hname : label.1 = text namespaceLabel
    · have hsame := List.inj_on_of_nodup_map hnodup hmem hlabel hname
      rw [hsame]
      exact if_pos rfl
    · exact (if_neg hname).trans (Dict.get?_of_mem hnodup hmem)
  next hkey =>
    split at hget
    next heq => exact absurd (heq ▸ hover) hkey
    next => cases hget

/-! ## The contract -/

theorem mem_destinationCidrs {contract : SiteEgressContract} {cidr : Text} :
    cidr ∈ contract.destinationCidrs ↔ cidr ∈ allCidrs contract.workloads := by
  rw [SiteEgressContract.destinationCidrs, sortedNetworks, List.mem_insertionSort, List.mem_dedup]

theorem mem_allCidrs {entries : List (Workload × List SiteEgressDestination)} {cidr : Text} :
    cidr ∈ allCidrs entries ↔ ∃ entry ∈ entries, ∃ destination ∈ entry.2, cidr ∈ destination.cidrs := by
  simp only [allCidrs, List.mem_flatMap]

variable {F : PythonFloats} {document cilium rawWorkloads : Members} {contract : SiteEgressContract}

/-- The pods that the gateway policy routes are those of the workload policies. -/
theorem routed_iff (h : contract.workloads.map (·.1) = workloads) (digest selectorDigest : Text)
    (pod : Pod) :
    (∃ labels ∈ workloads.map (gatewaySelector selectorDigest), selects labels pod) ↔
      pod.namespaceName = text productNamespace ∧ ∃ policy ∈ contract.workloads.map (fun entry =>
        ciliumNetworkPolicy entry.1 entry.2 contract digest selectorDigest),
          selects policy.endpointSelector pod := by
  rw [← h, List.map_map]
  simp only [List.mem_map, Function.comp_apply, exists_exists_and_eq_and]
  constructor
  · rintro ⟨entry, hentry, hselects⟩
    obtain ⟨hnamespace, hpolicy⟩ := (gateway_selects contract digest ..).mp hselects
    exact ⟨hnamespace, entry, hentry, hpolicy⟩
  · rintro ⟨hnamespace, entry, hentry, hpolicy⟩
    exact ⟨entry, hentry, (gateway_selects contract digest ..).mpr ⟨hnamespace, hpolicy⟩⟩

/-- What the policies of an accepted contract say, as far as DNS goes to its namespace only. -/
theorem policies_exact (h : Accepted F document cilium rawWorkloads contract)
    (hnodup : (contract.dnsPodSelector.map (·.1)).Nodup)
    (hnamespace : ∀ label ∈ contract.dnsPodSelector, label.1 = text namespaceLabel →
      label.2 = contract.dnsNamespace) {digest selectorDigest : Text} {rendered : RenderedPolicies}
    (hdigest : digestLabelValue digest = .ok selectorDigest)
    (hrender : renderSiteEgressDocuments contract digest = .ok rendered) :
    PoliciesExact contract selectorDigest rendered := by
  have hnames := parseWorkloads_names h.parsed
  unfold renderSiteEgressDocuments at hrender
  rw [hdigest, ok_bind] at hrender
  obtain rfl := pure_eq_ok.mp hrender
  refine ⟨?_, routed_iff hnames digest selectorDigest, ?_, fun cidr => ?_, fun cidr hcidr => ?_, ?_⟩
  · refine List.forall₂_map_right_iff.mpr (List.forall₂_same.mpr fun entry _ => ?_)
    refine ⟨fun _ => endpoint_selects .., fun _ _ => allowsTcp_iff .., fun pod name hdns => ?_⟩
    obtain ⟨hselects, hname⟩ := (allowsDns_iff ..).mp hdns
    exact ⟨hname, dns_selected hnodup hnamespace hselects⟩
  · exact (List.perm_insertionSort _ _).nodup_iff.mpr (List.nodup_dedup _)
  · exact mem_destinationCidrs.trans mem_allCidrs
  · exact fun gateway hgateway => h.apart gateway hgateway cidr (mem_destinationCidrs.mp hcidr)
  · rw [List.pairwise_map]
    have hdistinct : contract.workloads.Pairwise fun entry other => entry.1 ≠ other.1 := by
      rw [← List.pairwise_map, hnames]
      decide
    exact hdistinct.imp fun hne => endpoints_apart contract digest selectorDigest hne

/-- A label for the namespace that names another is seen in the policies. -/
theorem exact_namespace (h : Accepted F document cilium rawWorkloads contract)
    (hnodup : (contract.dnsPodSelector.map (·.1)).Nodup) {digest selectorDigest : Text}
    {rendered : RenderedPolicies} (hdigest : digestLabelValue digest = .ok selectorDigest)
    (hrender : renderSiteEgressDocuments contract digest = .ok rendered)
    (hexact : PoliciesExact contract selectorDigest rendered) :
    ∀ label ∈ contract.dnsPodSelector, label.1 = text namespaceLabel →
      label.2 = contract.dnsNamespace := by
  rintro ⟨key, value⟩ hlabel rfl
  -- the pods of the label's namespace may ask for a name of the first workload
  obtain ⟨entry, rest, hworkloads⟩ : ∃ entry rest, contract.workloads = entry :: rest := by
    have hnames := parseWorkloads_names h.parsed
    cases hcase : contract.workloads with
    | nil => rw [hcase] at hnames; cases hnames
    | cons entry rest => exact ⟨entry, rest, rfl⟩
  have hentry : entry ∈ contract.workloads := hworkloads ▸ List.mem_cons_self
  obtain ⟨destination, hdestination⟩ :=
    List.exists_mem_of_ne_nil _ (parseWorkloads_entries h.parsed entry hentry).1
  unfold renderSiteEgressDocuments at hrender
  rw [hdigest, ok_bind] at hrender
  obtain rfl := pure_eq_ok.mp hrender
  have hfirst := hexact.workloads
  rw [hworkloads, List.map_cons] at hfirst
  have hasked := (allowsDns_iff contract digest selectorDigest entry _ destination.fqdn).mpr
    ⟨dns_elsewhere hnodup hlabel, destination, hdestination, rfl⟩
  exact ((List.forall₂_cons.mp hfirst).1.dns _ _ hasked).2.1

theorem accepted_nodup (h : Accepted F document cilium rawWorkloads contract)
    (hdistinct : distinctNames (.dict document) = true) :
    (contract.dnsPodSelector.map (·.1)).Nodup := by
  obtain ⟨members, hmembers, -, -, -, hlabels⟩ := parseDns_ok.mp h.dns
  have hdns := distinct_member hdistinct "cluster_dns"
  rw [hmembers] at hdns
  exact selector_nodup hlabels (distinct_member hdns _)

/-- Of a digest, everything is rendered. -/
theorem render_ok (contract : SiteEgressContract) (digest : Text) (h : isDigestText digest = true) :
    ∃ selectorDigest rendered, digestLabelValue digest = .ok selectorDigest
      ∧ renderSiteEgressDocuments contract digest = .ok rendered := by
  unfold renderSiteEgressDocuments digestLabelValue
  rw [require_pos h]
  exact ⟨_, _, rfl, rfl⟩

/-- **The policies say exactly what the contract says, but for one label.** Every selected pod,
allowed name and port, routed pod and CIDR is the contract's, except that a label
`io.kubernetes.pod.namespace` of the DNS pods stands over `dns_namespace`: the policies are exact
unless it names another namespace. -/
theorem policies_exact_iff {value : JsonValue}
    (h : parseSiteEgressContract F value = .ok contract) (hdistinct : distinctNames value = true)
    {digest : Text} (hdigest : isDigestText digest = true) :
    ∃ selectorDigest rendered, digestLabelValue digest = .ok selectorDigest
      ∧ renderSiteEgressDocuments contract digest = .ok rendered
      ∧ (PoliciesExact contract selectorDigest rendered ↔
        ∀ label ∈ contract.dnsPodSelector, label.1 = text namespaceLabel →
          label.2 = contract.dnsNamespace) := by
  obtain ⟨document, cilium, rawWorkloads, rfl, haccepted⟩ := parse_iff.mp h
  obtain ⟨selectorDigest, rendered, hselector, hrender⟩ := render_ok contract digest hdigest
  have hnodup := accepted_nodup haccepted hdistinct
  exact ⟨selectorDigest, rendered, hselector, hrender,
    exact_namespace haccepted hnodup hselector hrender,
    fun hnamespace => policies_exact haccepted hnodup hnamespace hselector hrender⟩

def zeroDigest : Text := text "sha256:" ++ List.replicate 64 0x30

theorem example_policies_exact :
    ∃ selectorDigest rendered, digestLabelValue zeroDigest = .ok selectorDigest
      ∧ renderSiteEgressDocuments (exampleContract exampleSelector) zeroDigest = .ok rendered
      ∧ (PoliciesExact (exampleContract exampleSelector) selectorDigest rendered ↔
        ∀ label ∈ (exampleContract exampleSelector).dnsPodSelector, label.1 = text namespaceLabel →
          label.2 = (exampleContract exampleSelector).dnsNamespace) :=
  policies_exact_iff (example_accepted (by decide +kernel) (by decide +kernel)
    : parseSiteEgressContract noFloats (exampleDocument (.bool true) exampleSelector) = _)
    (by decide +kernel) (by decide +kernel)

/-- A label of the DNS pods that names another namespace than `dns_namespace`. -/
def otherSelector : List (Text × Text) := [(text namespaceLabel, text "other")]

/-- It is accepted, and the policies let DNS go to the pods of that other namespace. -/
theorem namespace_label_overrides :
    parseSiteEgressContract noFloats (exampleDocument (.bool true) otherSelector)
        = .ok (exampleContract otherSelector)
      ∧ ∃ selectorDigest rendered, digestLabelValue zeroDigest = .ok selectorDigest
        ∧ renderSiteEgressDocuments (exampleContract otherSelector) zeroDigest = .ok rendered
        ∧ ¬PoliciesExact (exampleContract otherSelector) selectorDigest rendered := by
  have hparse : parseSiteEgressContract noFloats (exampleDocument (.bool true) otherSelector)
      = .ok (exampleContract otherSelector) :=
    example_accepted (by decide +kernel) (by decide +kernel)
  obtain ⟨document, cilium, rawWorkloads, -, haccepted⟩ := parse_iff.mp hparse
  obtain ⟨selectorDigest, rendered, hselector, hrender⟩ :=
    render_ok (exampleContract otherSelector) zeroDigest (by decide +kernel)
  refine ⟨hparse, selectorDigest, rendered, hselector, hrender, fun hexact => ?_⟩
  have hsame := exact_namespace haccepted (List.nodup_singleton _) hselector hrender hexact _
    (List.mem_singleton_self _) rfl
  exact absurd hsame (by decide +kernel)

end ControlAssurance.SiteEgress
