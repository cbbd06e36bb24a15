import ControlAssurance.Connectors.Json
import ControlAssurance.Lib.Dict
import ControlAssurance.Lib.Ipv4

/-!
# Egress contracts

`parse_site_egress_contract` on a loaded document, and `SiteEgressContract.as_document`. Python's
`==` on documents, which takes `true` for `1`, is `pythonEqual`; what it makes of floats is a
parameter.
-/

namespace ControlAssurance.SiteEgress

open Lib Attestation Connectors

/-! ## Comparing as Python does -/

/-- What `==` makes of the floats of a document: the integer that one equals, and two of them. -/
structure PythonFloats where
  integer : List Char → Option Int
  equal : List Char → List Char → Bool

/-- The integer that a number or a boolean equals. -/
def numberValue (F : PythonFloats) : JsonValue → Option Int
  | .bool value => some (if value then 1 else 0)
  | .int value => some value
  | .float source => F.integer source
  | _ => none

mutual

/-- `left == right` of documents. -/
def pythonEqual (F : PythonFloats) : JsonValue → JsonValue → Bool
  | .null, .null => true
  | .string a, .string b => a == b
  | .float a, .float b => F.equal a b
  | .list a, .list b => equalItems F a b
  | .dict a, .dict b => a.length == b.length && equalMembers F a b
  | a, b => (numberValue F a).isSome && numberValue F a == numberValue F b

def equalItems (F : PythonFloats) : List JsonValue → List JsonValue → Bool
  | [], [] => true
  | a :: as, b :: bs => pythonEqual F a b && equalItems F as bs
  | _, _ => false

/-- Every member of the first equals one of the second. -/
def equalMembers (F : PythonFloats) : Members → Members → Bool
  | [], _ => true
  | (name, a) :: as, bs => (match bs.lookup name with
      | some b => pythonEqual F a b
      | none => false) && equalMembers F as bs

end

/-! ## Texts -/

def lowerOrDigit (code : Nat) : Bool :=
  (0x30 ≤ code && code ≤ 0x39) || (0x61 ≤ code && code ≤ 0x7A)

def alphanumeric (code : Nat) : Bool := lowerOrDigit code || (0x41 ≤ code && code ≤ 0x5A)

/-- A text of up to 63 characters whose first and last are of one class and the others of
another. -/
def framed (ends inner : Nat → Bool) (value : Text) : Bool :=
  value.length ≤ 63 && value.head?.any ends && value.getLast?.any ends && value.all inner

/-- `_DNS_LABEL` -/
def isDnsLabel (value : Text) : Bool :=
  framed lowerOrDigit (fun code => lowerOrDigit code || code == 0x2D) value

/-- `_KUBERNETES_LABEL_NAME` -/
def isLabelName (value : Text) : Bool :=
  framed alphanumeric (fun code => alphanumeric code || (text "_.-").contains code) value

/-- `_DESTINATION_NAME` -/
def isDestinationName (value : Text) : Bool :=
  2 ≤ value.length && value.length ≤ 63
    && value.head?.any (fun code => 0x61 ≤ code && code ≤ 0x7A)
    && value.all fun code => lowerOrDigit code || code == 0x2D

/-- `_CHANGE_REFERENCE` -/
def isChangeReference (value : Text) : Bool :=
  3 ≤ value.length && value.length ≤ 128 && value.head?.any alphanumeric
    && value.all fun code => alphanumeric code || (text "._:/-").contains code

/-- `str.lower` of ASCII; what is lowered here is refused unless it is ASCII. -/
def lower (value : Text) : Text :=
  value.map fun code => if 0x41 ≤ code ∧ code ≤ 0x5A then code + 0x20 else code

/-- `_PLACEHOLDER_WORDS` -/
def placeholderWords : List Text :=
  [text "change-me", text "changeme", text "example", text "placeholder", text "replace-me"]

/-- `_string` -/
def stringField (value : JsonValue) (code : String) (maximum : Nat) : Except String Text :=
  match value with
  | .string value => do
    require (rejectSurrogates value = .ok ()) "UnicodeEncodeError"
    require (value ≠ [] ∧ (utf8Text value).length ≤ maximum
      ∧ ∀ c ∈ value, c ≠ 0 ∧ c ≠ 0x0D ∧ c ≠ 0x0A) code
    pure value
  | _ => .error code

/-- `_valid_fqdn` -/
def validFqdn (value : Text) : Bool :=
  3 ≤ value.length && value.length ≤ 253 && value.contains 0x2E && value.head? != some 0x2E
    && value.getLast? != some 0x2E && (value.splitOn 0x2E).all isDnsLabel

/-- `_label_name` -/
def labelName (value : Text) (code : String) : Except String Text := do
  require (isLabelName value = true) code
  pure value

/-- `_label_key` -/
def labelKey (value : JsonValue) (code : String) : Except String Text := do
  let key ← stringField value code 253
  if 0x2F ∉ key then labelName key code
  else do
    let front := key.takeWhile (· ≠ 0x2F)
    let name := (key.dropWhile (· ≠ 0x2F)).tail
    require (front ≠ [] ∧ front.length ≤ 253 ∧ validFqdn front = true) code
    let name ← labelName name code
    pure (front ++ 0x2F :: name)

/-- `_label_value` -/
def labelValue (value : JsonValue) (code : String) : Except String Text := do
  let value ← stringField value code 63
  labelName value code

/-- The endings of names that are not sites. -/
def reservedSuffixes : List Text :=
  [text ".example", text ".example.com", text ".example.net", text ".example.org",
    text ".invalid", text ".localhost", text ".test"]

/-- `_fqdn` -/
def fqdnField (value : JsonValue) : Except String Text := do
  let name ← stringField value "site-egress-fqdn-invalid" 253
  require (name = lower name ∧ validFqdn (lower name) = true ∧ 0x2A ∉ lower name
      ∧ ∀ suffix ∈ reservedSuffixes, ¬suffix.isSuffixOf (lower name) = true)
    "site-egress-fqdn-invalid"
  require (parseAddress (lower name) = none) "site-egress-fqdn-invalid"
  pure (lower name)

/-- Neither loopback, link-local, multicast, reserved nor unspecified. -/
def routable (network : Ipv4Network) : Bool :=
  !(network.within 0x7F000000 0x7FFFFFFF || network.within 0xA9FE0000 0xA9FEFFFF
    || network.within 0xE0000000 0xEFFFFFFF || network.within 0xF0000000 0xFFFFFFFF
    || network.within 0 0)

/-- `_network` and `_direct_source_network`, which differ by their error and the shortest prefix. -/
def networkField (value : JsonValue) (code : String) (minimum : Nat) : Except String Text := do
  let source ← stringField value code 64
  let network ← expect (Ipv4Network.parse source) code
  require (network.text = source ∧ minimum ≤ network.prefixLength ∧ routable network = true) code
  pure source

/-- `_network` -/
def networkText (value : JsonValue) : Except String Text :=
  networkField value "site-egress-cidr-invalid" 24

/-- `_direct_source_network` -/
def directSourceNetwork (value : JsonValue) : Except String Text :=
  networkField value "site-egress-perimeter-source-cidr-invalid" 8

/-- `_address` -/
def addressField (value : JsonValue) : Except String Text := do
  let source ← stringField value "site-egress-gateway-ip-invalid" 45
  let address ← expect (parseAddress source) "site-egress-gateway-ip-invalid"
  require (addressText address = source ∧ routable ⟨address, 32⟩ = true)
    "site-egress-gateway-ip-invalid"
  pure source

/-- `_sequence` -/
def sequence (value : JsonValue) (minimum maximum : Nat) (code : String) :
    Except String (List JsonValue) :=
  match value with
  | .list items => do
    require (minimum ≤ items.length ∧ items.length ≤ maximum) code
    pure items
  | _ => .error code

/-- `_exact_mapping` -/
def exactMapping (value : JsonValue) (keys : List String) (code : String) :
    Except String Members :=
  match value with
  | .dict members => do
    require (HasNames members keys []) code
    pure members
  | _ => .error code

/-- The network of a text, for what has been checked. -/
def networkOf (cidr : Text) : Ipv4Network := (Ipv4Network.parse cidr).getD ⟨0, 0⟩

/-- `sorted(set(cidrs), key=_network_sort_key)` -/
def sortedNetworks (cidrs : List Text) : List Text :=
  cidrs.dedup.insertionSort fun left right => (networkOf left).le (networkOf right) = true

/-- `_direct_source_networks` -/
def directSourceNetworks (value : JsonValue) (sourceClass : String) :
    Except String (List Text) := do
  let items ← sequence value 1 64 ("site-egress-" ++ sourceClass ++ "-source-cidrs-invalid")
  let cidrs ← items.mapM directSourceNetwork
  require (cidrs = sortedNetworks cidrs)
    ("site-egress-" ++ sourceClass ++ "-source-cidrs-not-canonical")
  pure cidrs

/-! ## Contracts -/

inductive Workload where
  | controlPlane
  | deploymentReconciler
  | runtimeWorker
  | profileRegistrar
deriving DecidableEq

def Workload.name : Workload → String
  | .controlPlane => "control-plane"
  | .deploymentReconciler => "deployment-reconciler"
  | .runtimeWorker => "runtime-worker"
  | .profileRegistrar => "profile-registrar"

/-- The keys of `_WORKLOAD_LABELS`. -/
def workloads : List Workload :=
  [.controlPlane, .deploymentReconciler, .runtimeWorker, .profileRegistrar]

/-- `_WORKLOAD_PORTS` -/
def Workload.ports : Workload → List Int
  | .controlPlane => [443, 5432]
  | .deploymentReconciler => [5432]
  | .runtimeWorker => [443, 5432]
  | .profileRegistrar => [5432]

structure SiteEgressDestination where
  name : Text
  fqdn : Text
  cidrs : List Text
  port : Int
deriving DecidableEq

structure SiteEgressGateway where
  nodeName : Text
  egressIp : Text
deriving DecidableEq

structure SiteEgressContract where
  dnsNamespace : Text
  dnsPodSelector : List (Text × Text)
  directDeniedNodeSourceCidrs : List Text
  directDeniedPodSourceCidrs : List Text
  gateways : List SiteEgressGateway
  workloads : List (Workload × List SiteEgressDestination)
  perimeterChangeReference : Text
deriving DecidableEq

/-- The CIDRs of all destinations. -/
def allCidrs (workloads : List (Workload × List SiteEgressDestination)) : List Text :=
  workloads.flatMap fun entry => entry.2.flatMap (·.cidrs)

/-- `SiteEgressContract.destination_cidrs` -/
def SiteEgressContract.destinationCidrs (contract : SiteEgressContract) : List Text :=
  sortedNetworks (allCidrs contract.workloads)

/-! ## Documents -/

def textList (values : List Text) : JsonValue := .list (values.map .string)

/-- `_CILIUM_REQUIREMENTS`, the booleans among them. -/
def ciliumFlags : List (String × Bool) :=
  [("egress_gateway_enabled", true), ("bpf_masquerade", true), ("kube_proxy_replacement", true),
    ("l7_proxy_enabled", true), ("endpoint_policy_overflow_lockdown_enabled", true),
    ("ipv6_enabled", false), ("cluster_mesh_enabled", false),
    ("cilium_endpoint_slice_enabled", false)]

/-- `_REQUIRED_IDENTITY_LABELS` -/
def requiredIdentityLabels : List String :=
  ["app.kubernetes.io/component", "app.kubernetes.io/name", "control-assurance.io/egress-contract",
    "io.kubernetes.pod.namespace"]

/-- `_cilium_requirements_document` -/
def ciliumRequirements : List (String × JsonValue) :=
  [("minimum_version", literal "1.20.0"), ("identity_allocation_mode", literal "crd"),
    ("required_identity_labels", .list (requiredIdentityLabels.map literal))]
    ++ ciliumFlags.map fun flag => (flag.1, .bool flag.2)

def siteEgressSchema : String := "control-assurance/site-egress-contract/v3"

def siteEgressProfile : String := "cilium-egress-gateway/1.20"

def SiteEgressDestination.asDocument (destination : SiteEgressDestination) : JsonValue :=
  object [("cidrs", textList destination.cidrs), ("fqdn", .string destination.fqdn),
    ("name", .string destination.name), ("port", .int destination.port)]

def SiteEgressGateway.asDocument (gateway : SiteEgressGateway) : JsonValue :=
  object [("egress_ip", .string gateway.egressIp),
    ("node_selector", object [("kubernetes.io/hostname", .string gateway.nodeName)])]

/-- The document of the perimeter. -/
def SiteEgressContract.perimeterDocument (contract : SiteEgressContract) : JsonValue :=
  object [("allowed_gateway_source_ips", textList (contract.gateways.map (·.egressIp))),
    ("change_reference", .string contract.perimeterChangeReference),
    ("contracted_destination_cidrs", textList contract.destinationCidrs),
    ("deny_all_direct_external_pod_and_node_egress", .bool true),
    ("deny_gateway_sources_outside_contracted_destinations", .bool true),
    ("direct_denied_node_source_cidrs", textList contract.directDeniedNodeSourceCidrs),
    ("direct_denied_pod_source_cidrs", textList contract.directDeniedPodSourceCidrs),
    ("gateway_allow_exception_precedes_direct_deny", .bool true),
    ("perimeter_ipv6_external_egress_disabled", .bool true)]

/-- `SiteEgressContract.as_document` -/
def SiteEgressContract.asDocument (contract : SiteEgressContract) : JsonValue :=
  object [("cilium", object ciliumRequirements),
    ("cluster_dns", object [("namespace", .string contract.dnsNamespace),
      ("pod_selector", .dict (contract.dnsPodSelector.map fun entry =>
        (entry.1, .string entry.2)))]),
    ("site_perimeter_enforcement", contract.perimeterDocument),
    ("gateways", .list (contract.gateways.map SiteEgressGateway.asDocument)),
    ("profile", literal siteEgressProfile), ("schema", literal siteEgressSchema),
    ("workloads", object (contract.workloads.map fun entry =>
      (entry.1.name, .list (entry.2.map SiteEgressDestination.asDocument))))]

/-! ## Parsing -/

/-- `_parse_destination` -/
def parseDestination (workload : Workload) (value : JsonValue) :
    Except String SiteEgressDestination := do
  let document ← exactMapping value ["name", "fqdn", "cidrs", "port"]
    "site-egress-destination-shape"
  let name ← stringField (member document "name") "site-egress-destination-name-invalid" 63
  require (isDestinationName name = true) "site-egress-destination-name-invalid"
  let port ← expect (intValue (member document "port")) "site-egress-workload-port-invalid"
  require (port ∈ workload.ports) "site-egress-workload-port-invalid"
  let items ← sequence (member document "cidrs") 1 64 "site-egress-cidrs-invalid"
  let cidrs ← items.mapM networkText
  require cidrs.Nodup "site-egress-cidr-duplicate"
  let fqdn ← fqdnField (member document "fqdn")
  pure ⟨name, fqdn, cidrs, port⟩

/-- `_parse_gateway` -/
def parseGateway (value : JsonValue) : Except String SiteEgressGateway := do
  let document ← exactMapping value ["node_selector", "egress_ip"] "site-egress-gateway-shape"
  let selector ← exactMapping (member document "node_selector") ["kubernetes.io/hostname"]
    "site-egress-gateway-selector-invalid"
  let nodeName ← labelValue (member selector "kubernetes.io/hostname")
    "site-egress-gateway-selector-invalid"
  let egressIp ← addressField (member document "egress_ip")
  pure ⟨nodeName, egressIp⟩

/-- A destination under its name, unless another has it. -/
def rememberDestination (byName : Dict Text SiteEgressDestination)
    (destination : SiteEgressDestination) : Except String (Dict Text SiteEgressDestination) :=
  match byName.get? destination.name with
  | some previous => do
    require (previous = destination) "site-egress-destination-name-conflict"
    pure byName
  | none => pure (byName.insert destination.name destination)

/-- The destinations of the workloads, after those in `destination_by_name`. -/
def parseWorkloads (document : Members) : Dict Text SiteEgressDestination → List Workload →
    Except String (List (Workload × List SiteEgressDestination))
  | _, [] => pure []
  | byName, workload :: rest => do
    let items ← sequence (member document workload.name) 1 64
      "site-egress-destination-count-invalid"
    let destinations ← items.mapM (parseDestination workload)
    require (destinations.map (·.name)).Nodup "site-egress-destination-duplicate"
    let byName ← destinations.foldlM rememberDestination byName
    let others ← parseWorkloads document byName rest
    pure ((workload, destinations) :: others)

/-- The order of pairs of texts. -/
def pairLe (left right : Text × Text) : Bool :=
  if left.1 = right.1 then textLe left.2 right.2 else textLe left.1 right.1

/-- A label of the DNS pods. -/
def parseLabel (entry : Text × JsonValue) : Except String (Text × Text) := do
  let key ← labelKey (.string entry.1) "site-egress-dns-identity-invalid"
  let value ← labelValue entry.2 "site-egress-dns-identity-invalid"
  pure (key, value)

/-- The labels of the DNS pods, sorted. -/
def parseSelector (value : JsonValue) : Except String (List (Text × Text)) :=
  match value with
  | .dict members => do
    require (1 ≤ members.length ∧ members.length ≤ 4) "site-egress-dns-identity-invalid"
    let labels ← members.mapM parseLabel
    pure (labels.insertionSort fun left right => pairLe left right = true)
  | _ => .error "site-egress-dns-identity-invalid"

/-- `_address` of a gateway that has been checked. -/
def addressOf (source : Text) : Nat := (parseAddress source).getD 0

/-- The part of `parse_site_egress_contract` that reads `cluster_dns`. -/
def parseDns (value : JsonValue) : Except String (Text × List (Text × Text)) := do
  let dns ← exactMapping value ["namespace", "pod_selector"] "site-egress-dns-identity-invalid"
  let namespaceName ← stringField (member dns "namespace") "site-egress-dns-identity-invalid" 63
  require (isDnsLabel namespaceName = true) "site-egress-dns-identity-invalid"
  let selector ← parseSelector (member dns "pod_selector")
  pure (namespaceName, selector)

/-- The part that reads `gateways`. -/
def parseGateways (value : JsonValue) : Except String (List SiteEgressGateway) := do
  let items ← sequence value 2 8 "site-egress-gateway-count-invalid"
  let gateways ← items.mapM parseGateway
  require ((gateways.map (·.nodeName)).Nodup ∧ (gateways.map (·.egressIp)).Nodup)
    "site-egress-gateway-duplicate"
  pure gateways

/-- The keys of `site_perimeter_enforcement`. -/
def perimeterKeys : List String :=
  ["allowed_gateway_source_ips", "change_reference", "contracted_destination_cidrs",
    "deny_all_direct_external_pod_and_node_egress",
    "deny_gateway_sources_outside_contracted_destinations", "direct_denied_node_source_cidrs",
    "direct_denied_pod_source_cidrs", "gateway_allow_exception_precedes_direct_deny",
    "perimeter_ipv6_external_egress_disabled"]

/-- The change reference and the denied sources of nodes and pods. -/
structure Perimeter where
  changeReference : Text
  nodeSources : List Text
  podSources : List Text
deriving DecidableEq

/-- The part that reads `site_perimeter_enforcement`. -/
def parsePerimeter (value : JsonValue) (gateways : List SiteEgressGateway)
    (destinationCidrs : List Text) : Except String Perimeter := do
  let perimeter ← exactMapping value perimeterKeys "site-egress-perimeter-contract-invalid"
  let changeReference ← stringField (member perimeter "change_reference")
    "site-egress-perimeter-contract-invalid" 128
  require (isChangeReference changeReference = true
      ∧ lower changeReference ∉ placeholderWords
      ∧ member perimeter "deny_all_direct_external_pod_and_node_egress" = .bool true
      ∧ member perimeter "deny_gateway_sources_outside_contracted_destinations" = .bool true
      ∧ member perimeter "gateway_allow_exception_precedes_direct_deny" = .bool true
      ∧ member perimeter "perimeter_ipv6_external_egress_disabled" = .bool true)
    "site-egress-perimeter-contract-invalid"
  let nodeSources ← directSourceNetworks (member perimeter "direct_denied_node_source_cidrs") "node"
  let podSources ← directSourceNetworks (member perimeter "direct_denied_pod_source_cidrs") "pod"
  require ((nodeSources ++ podSources).Pairwise fun left right =>
    ¬(networkOf left).overlaps (networkOf right) = true) "site-egress-perimeter-source-cidr-overlap"
  let sources ← sequence (member perimeter "allowed_gateway_source_ips") 2 8
    "site-egress-perimeter-contract-invalid"
  let allowed ← sources.mapM addressField
  require (allowed = gateways.map (·.egressIp)) "site-egress-perimeter-source-mismatch"
  let contracted ← sequence (member perimeter "contracted_destination_cidrs") 1 256
    "site-egress-perimeter-contract-invalid"
  let contractedCidrs ← contracted.mapM networkText
  require (contractedCidrs = sortedNetworks (destinationCidrs.map fun cidr => (networkOf cidr).text))
    "site-egress-perimeter-destination-mismatch"
  pure ⟨changeReference, nodeSources, podSources⟩

/-- `parse_site_egress_contract` -/
def parseSiteEgressContract (F : PythonFloats) (value : JsonValue) :
    Except String SiteEgressContract := do
  let document ← exactMapping value ["cilium", "cluster_dns", "gateways", "profile", "schema",
    "site_perimeter_enforcement", "workloads"] "site-egress-contract-shape"
  require (member document "schema" = literal siteEgressSchema) "site-egress-schema-unsupported"
  require (member document "profile" = literal siteEgressProfile)
    "site-egress-profile-unsupported"
  let cilium ← exactMapping (member document "cilium") (ciliumRequirements.map (·.1))
    "site-egress-cilium-requirements-invalid"
  require (pythonEqual F (.dict cilium) (object ciliumRequirements) = true)
    "site-egress-cilium-requirements-invalid"
  let (dnsNamespace, selector) ← parseDns (member document "cluster_dns")
  let gateways ← parseGateways (member document "gateways")
  let rawWorkloads ← exactMapping (member document "workloads") (workloads.map Workload.name)
    "site-egress-workload-set-invalid"
  let parsed ← parseWorkloads rawWorkloads [] workloads
  let cidrs := allCidrs parsed
  require ((cidrs.map fun cidr => (networkOf cidr).text).dedup.length ≤ 256)
    "site-egress-cidr-budget-exceeded"
  require (∀ gateway ∈ gateways, ∀ cidr ∈ cidrs,
      ¬(networkOf cidr).contains (addressOf gateway.egressIp) = true)
    "site-egress-gateway-destination-overlap"
  let perimeter ← parsePerimeter (member document "site_perimeter_enforcement") gateways cidrs
  pure ⟨dnsNamespace, selector, perimeter.nodeSources, perimeter.podSources, gateways, parsed,
    perimeter.changeReference⟩

end ControlAssurance.SiteEgress
