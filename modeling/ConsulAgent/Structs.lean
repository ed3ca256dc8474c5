/-
The data the proxy configuration handlers receive from the agent cache: the `structs` types
of the payloads, with the fields the handlers read.  Names are those of the open-source
build, whose enterprise metadata is empty, so a service name is its name alone.
-/
import ConsulAgent.Go

namespace ConsulAgent

/-- `structs.ServiceKind`; `typical` is the empty kind of a plain service. -/
inductive ServiceKind
  | typical
  | connectProxy
  | meshGateway
  | terminatingGateway
  | ingressGateway
deriving DecidableEq, Repr

/-- `structs.ProxyMode`. -/
inductive ProxyMode
  | default
  | transparent
  | direct
deriving DecidableEq, Repr

/-- `structs.MeshGatewayMode`. -/
inductive MeshGatewayMode
  | default
  | none
  | «local»
  | remote
deriving DecidableEq, Repr

/-- `structs.ServiceName`; its `String()` is the name. -/
structure ServiceName where
  name : String
deriving DecidableEq, Repr

/-- `ServiceName.String`. -/
def ServiceName.toString (sn : ServiceName) : String :=
  sn.name

/-- `structs.ServiceNameFromString`. -/
def serviceNameFromString (s : String) : ServiceName :=
  ⟨s⟩

@[simp] theorem serviceNameFromString_toString (sn : ServiceName) :
    serviceNameFromString sn.toString = sn :=
  rfl

/-- `structs.ServiceID`; its `String()` is the id. -/
structure ServiceID where
  id : String
deriving DecidableEq, Repr

/-- `structs.ServiceIDFromString`. -/
def serviceIDFromString (s : String) : ServiceID :=
  ⟨s⟩

/-- `structs.IntentionDefaultNamespace`. -/
def intentionDefaultNamespace : String := "default"

/-- `structs.WildcardSpecifier`. -/
def wildcardSpecifier : String := "*"

/-- `structs.ConsulServiceName`. -/
def consulServiceName : String := "consul"

/-- `structs.MetaWANFederationKey`. -/
def metaWANFederationKey : String := "consul-wan-federation"

/-- `structs.UpstreamDestTypeService`. -/
def upstreamDestTypeService : String := "service"

/-- `structs.UpstreamDestTypePreparedQuery`. -/
def upstreamDestTypePreparedQuery : String := "prepared_query"

/-! ## Payloads -/

/-- `structs.IndexedCARoots`, of which the handlers read the trust domain. -/
structure IndexedCARoots where
  activeRootID : String
  trustDomain : String
deriving DecidableEq, Repr

/-- `structs.IssuedCert`. -/
structure IssuedCert where
  serialNumber : String
deriving DecidableEq, Repr

/-- One `structs.Intention`. -/
structure Intention where
  id : String
deriving DecidableEq, Repr

/-- `structs.CheckType`. -/
structure CheckType where
  checkID : String
deriving DecidableEq, Repr

/-- `structs.Node`: its datacenter, its address and its tagged WAN address. -/
structure Node where
  datacenter : String
  address : String
  wanAddress : Option String
deriving DecidableEq, Repr

/-- `structs.NodeService` with its proxy's destination and transparent-proxy settings. -/
structure NodeService where
  kind : ServiceKind
  service : String
  address : String
  wanAddress : Option String
  destinationServiceName : String
  destinationServiceID : String
  dialedDirectly : Bool
deriving DecidableEq, Repr

/-- `structs.CheckServiceNode`. -/
structure CheckServiceNode where
  node : Node
  service : NodeService
deriving DecidableEq, Repr

/-- `NodeService.CompoundServiceName`. -/
def NodeService.compoundServiceName (svc : NodeService) : ServiceName :=
  ⟨svc.service⟩

/-- `CheckServiceNode.BestAddress`: the service address, the WAN one when asked for and tagged,
and the node's address when the service has none. -/
def CheckServiceNode.bestAddress (n : CheckServiceNode) (wan : Bool) : String :=
  let svcAddr := if wan then n.service.wanAddress.getD n.service.address else n.service.address
  if svcAddr = "" then (if wan then n.node.wanAddress.getD n.node.address else n.node.address)
  else svcAddr

/-- `structs.Upstream`, with the fields the handlers and `Identifier` read. -/
structure Upstream where
  destinationType : String
  destinationNamespace : String
  destinationName : String
  datacenter : String
  localBindPort : Nat
  ingressHosts : List String
  config : List (String × String)
  centrallyConfigured : Bool
deriving DecidableEq, Repr

/-- `Upstream.Identifier` of the `structs` package: the name, namespaced when not default,
with a `?dc=` suffix, and typed when not a service. -/
def Upstream.identifier (u : Upstream) : String :=
  let name :=
    if u.destinationType ≠ upstreamDestTypePreparedQuery ∧ u.destinationNamespace ≠ "" ∧
        u.destinationNamespace ≠ intentionDefaultNamespace then
      u.destinationNamespace ++ "/" ++ u.destinationName
    else u.destinationName
  let name := if u.datacenter ≠ "" then name ++ "?dc=" ++ u.datacenter else name
  if u.destinationType = "" ∨ u.destinationType = upstreamDestTypeService then name
  else u.destinationType ++ ":" ++ name

/-- One `structs.DiscoveryTarget`. -/
structure DiscoveryTarget where
  id : String
  service : String
  ns : String
  datacenter : String
  meshGatewayMode : MeshGatewayMode
deriving DecidableEq, Repr

/-- `structs.CompiledDiscoveryChain`; its targets map is visited as a list. -/
structure CompiledDiscoveryChain where
  serviceName : String
  ns : String
  datacenter : String
  targets : List DiscoveryTarget
deriving DecidableEq, Repr

/-- `CompiledDiscoveryChain.ID`: the chain's own target id, `service.namespace.dc`. -/
def CompiledDiscoveryChain.id (c : CompiledDiscoveryChain) : String :=
  c.serviceName ++ "." ++ c.ns ++ "." ++ c.datacenter

/-- `structs.GatewayService`: a service linked to a gateway and its listener. -/
structure GatewayService where
  service : ServiceName
  port : Nat
  protocol : String
  hosts : List String
deriving DecidableEq, Repr

/-- `structs.ServiceResolverConfigEntry`. -/
structure ServiceResolverConfigEntry where
  name : String
  defaultSubset : String
deriving DecidableEq, Repr

/-- `structs.MeshConfigEntry`. -/
structure MeshConfigEntry where
  catalogDestinationsOnly : Bool
deriving DecidableEq, Repr

/-- `structs.ServiceConfigResponse`. -/
structure ServiceConfigResponse where
  protocol : String
deriving DecidableEq, Repr

/-- The dynamic type of a `structs.ConfigEntry`. -/
inductive ConfigEntry
  | serviceResolver (entry : ServiceResolverConfigEntry)
  | meshConfig (entry : MeshConfigEntry)
  | ingressGateway (tlsEnabled : Bool)
  | other (goType : String)
deriving DecidableEq, Repr

/-- `%T` of a config entry. -/
def ConfigEntry.goType : ConfigEntry → String
  | .serviceResolver _ => "*structs.ServiceResolverConfigEntry"
  | .meshConfig _ => "*structs.MeshConfigEntry"
  | .ingressGateway _ => "*structs.IngressGatewayConfigEntry"
  | .other t => t

/-- `%T` of a possibly nil config entry. -/
def entryGoType : Option ConfigEntry → String
  | none => "<nil>"
  | some e => e.goType

/-- The dynamic type and contents of `cache.UpdateEvent.Result`. -/
inductive Result
  | indexedCARoots (roots : IndexedCARoots)
  | issuedCert (cert : IssuedCert)
  | indexedIntentionMatches (matchSets : List (List Intention))
  | indexedServiceList (services : List ServiceName)
  | preparedQueryExecuteResponse (nodes : List CheckServiceNode)
  | checkTypes (checks : List CheckType)
  | configEntryResponse (entry : Option ConfigEntry)
  | serviceConfigResponse (resp : ServiceConfigResponse)
  | discoveryChainResponse (chain : Option CompiledDiscoveryChain)
  | indexedCheckServiceNodes (nodes : List CheckServiceNode)
  | indexedNodesWithGateways (nodes : List CheckServiceNode)
  | indexedGatewayServices (services : List GatewayService)
  | indexedConfigEntries (entries : List ConfigEntry)
  | datacenterIndexedCheckServiceNodes (datacenterNodes : GoMap String (List CheckServiceNode))
  | datacenters (list : Option (List String))
  | other (goType : String)

/-- `%T` of a result. -/
def Result.goType : Result → String
  | .indexedCARoots _ => "*structs.IndexedCARoots"
  | .issuedCert _ => "*structs.IssuedCert"
  | .indexedIntentionMatches _ => "*structs.IndexedIntentionMatches"
  | .indexedServiceList _ => "*structs.IndexedServiceList"
  | .preparedQueryExecuteResponse _ => "*structs.PreparedQueryExecuteResponse"
  | .checkTypes _ => "[]structs.CheckType"
  | .configEntryResponse _ => "*structs.ConfigEntryResponse"
  | .serviceConfigResponse _ => "*structs.ServiceConfigResponse"
  | .discoveryChainResponse _ => "*structs.DiscoveryChainResponse"
  | .indexedCheckServiceNodes _ => "*structs.IndexedCheckServiceNodes"
  | .indexedNodesWithGateways _ => "*structs.IndexedNodesWithGateways"
  | .indexedGatewayServices _ => "*structs.IndexedGatewayServices"
  | .indexedConfigEntries _ => "*structs.IndexedConfigEntries"
  | .datacenterIndexedCheckServiceNodes _ => "*structs.DatacenterIndexedCheckServiceNodes"
  | .datacenters _ => "*[]string"
  | .other t => t

/-- `cache.UpdateEvent`: a delivery on one correlation id, or the cache's error for it. -/
structure UpdateEvent where
  correlationID : String
  result : Result
  err : Option String

end ConsulAgent
