/-
`handlerIngressGateway`: a gateway whose listeners front mesh services.  Its config entry and
its linked services decide the upstream chains it watches and the DNS SANs of its leaf
certificate, re-issued on each of those deliveries; the rest goes to `handleUpdateUpstreams`.
-/
import ConsulAgent.Upstreams

namespace ConsulAgent

/-- `gatewayConfigWatchID`. -/
def gatewayConfigWatchID : String := "gateway-config"

/-- `makeUpstream`: the upstream an ingress listener gives a linked service. -/
def makeUpstream (g : GatewayService) : Upstream where
  destinationType := ""
  destinationNamespace := intentionDefaultNamespace
  destinationName := g.service.name
  datacenter := ""
  localBindPort := g.port
  ingressHosts := g.hosts
  config := [("protocol", g.protocol)]
  centrallyConfigured := false

/-- The distinct destination namespaces of the listeners' upstreams, in the order met.  Go
visits its namespace set in an unspecified order. -/
def ingressNamespaces (upstreams : GoMap IngressListenerKey (List Upstream)) : List String :=
  (upstreams.entries.flatMap fun e => e.2.map (·.destinationNamespace)).eraseDups

/-- The SANs of one namespace: the default namespace is written without its `ns.` label. -/
def namespaceSANs (dns : DNSConfig) (datacenter ns : String) : List String :=
  let ns := if ns = intentionDefaultNamespace then "" else ns ++ "."
  ["*.ingress." ++ ns ++ dns.domain, "*.ingress." ++ ns ++ datacenter ++ "." ++ dns.domain] ++
    if dns.altDomain ≠ "" then
      ["*.ingress." ++ ns ++ dns.altDomain, "*.ingress." ++ ns ++ datacenter ++ "." ++ dns.altDomain]
    else []

theorem mem_ingressNamespaces {upstreams : GoMap IngressListenerKey (List Upstream)} {ns : String} :
    ns ∈ ingressNamespaces upstreams ↔
      ∃ k us, upstreams.lookup k = some us ∧ ∃ u ∈ us, u.destinationNamespace = ns := by
  simp only [ingressNamespaces, mem_eraseDups, List.mem_flatMap, List.mem_map]
  constructor
  · rintro ⟨e, he, u, hu, rfl⟩
    obtain ⟨k, hk⟩ := (GoMap.mem_values upstreams e.2).1 (List.mem_map_of_mem _ he)
    exact ⟨k, e.2, hk, u, hu, rfl⟩
  · rintro ⟨k, us, hk, u, hu, rfl⟩
    obtain ⟨e, he, rfl⟩ := List.mem_map.1 ((GoMap.mem_values upstreams us).2 ⟨k, hk⟩)
    exact ⟨e, he, u, hu, rfl⟩

namespace handlerIngressGateway

/-- `generateIngressDNSSANs`: nothing without TLS; otherwise the SANs of every namespace, then
the configured hosts. -/
def generateIngressDNSSANs (s : HandlerState) (snap : ConfigSnapshot) : List String :=
  if !snap.ingressGateway.tlsEnabled then []
  else
    (ingressNamespaces snap.ingressGateway.upstreams).flatMap
        (namespaceSANs s.dnsConfig s.sourceDatacenter) ++ snap.ingressGateway.hosts

/-- The SANs of an ingress gateway's leaf certificate: none without TLS; with TLS, one block per
destination namespace of the listeners' upstreams, each namespace once and in some order, then
the configured hosts in order.  The block of the default namespace has no `ns.` label, and the
alternative domain adds its two names only when set. -/
theorem generateIngressDNSSANs_blocks (s : HandlerState) (snap : ConfigSnapshot) :
    (snap.ingressGateway.tlsEnabled = false → generateIngressDNSSANs s snap = []) ∧
    (snap.ingressGateway.tlsEnabled = true →
      ∃ nss : List String, nss.Nodup ∧
        (∀ ns, ns ∈ nss ↔ ∃ k us, snap.ingressGateway.upstreams.lookup k = some us ∧
          ∃ u ∈ us, u.destinationNamespace = ns) ∧
        generateIngressDNSSANs s snap =
          nss.flatMap (fun ns =>
            let p := if ns = intentionDefaultNamespace then "" else ns ++ "."
            ["*.ingress." ++ p ++ s.dnsConfig.domain,
              "*.ingress." ++ p ++ s.sourceDatacenter ++ "." ++ s.dnsConfig.domain] ++
            if s.dnsConfig.altDomain ≠ "" then
              ["*.ingress." ++ p ++ s.dnsConfig.altDomain,
                "*.ingress." ++ p ++ s.sourceDatacenter ++ "." ++ s.dnsConfig.altDomain]
            else []) ++
          snap.ingressGateway.hosts) :=
  ⟨fun h => by simp [generateIngressDNSSANs, h],
    fun h => ⟨_, nodup_eraseDups _, fun _ => mem_ingressNamespaces,
      by simp only [generateIngressDNSSANs, h, Bool.not_true, Bool.false_eq_true, if_false]; rfl⟩⟩

/-- `watchIngressLeafCert`: once both the TLS setting and the hosts are known, cancel the leaf
watch in place and open a new one, whose request carries `generateIngressDNSSANs`. -/
def watchIngressLeafCert (s : HandlerState) : HandlerM Unit := do
  let ig := (← getSnap).ingressGateway
  if ig.tlsSet && ig.hostsSet then
    cancelAll ig.leafCertWatchCancel.toList
    let (cancelFn, err) ← notifyWithCancel s.cache leafWatchID
    match err with
    | some e => do
        cancel cancelFn
        fail e
    | none => modifyIngressGateway fun ig => { ig with leafCertWatchCancel := some cancelFn }

/-- The gateway-config case: the TLS setting and its `-Set` flag, then the leaf watch. -/
def handleGatewayConfig (s : HandlerState) : Result → HandlerM Unit
  | .configEntryResponse (some (.ingressGateway tlsEnabled)) => do
      modifyIngressGateway fun ig => { ig with tlsEnabled := tlsEnabled, tlsSet := true }
      watchIngressLeafCert s
  | .configEntryResponse entry => fail ("invalid type for config entry: " ++ entryGoType entry)
  | r => fail (invalidTypeForResponse r)

/-- One linked service: the chain watch of its upstream. -/
def watchGatewayUpstream (s : HandlerState) (service : GatewayService) : HandlerM Unit := do
  let id := (makeUpstream service).identifier
  match ← handlerUpstreams.watchDiscoveryChain s id with
  | some e => fail ("failed to watch discovery chain for " ++ id ++ ": " ++ e)
  | none => pure ()

/-- The service loop of a gateway-services delivery. -/
def watchGatewayUpstreams (s : HandlerState) : List GatewayService → HandlerM Unit
  | [] => pure ()
  | service :: rest => do
      watchGatewayUpstream s service
      watchGatewayUpstreams s rest

/-- `upstreamsMap`: the upstreams of the linked services, grouped by listener. -/
def upstreamsByListener (services : List GatewayService) :
    GoMap IngressListenerKey (List Upstream) :=
  services.foldl (fun m service =>
    let key : IngressListenerKey := ⟨service.protocol, service.port⟩
    m.insert key ((m.lookup key).getD [] ++ [makeUpstream service])) ∅

/-- The listener loop appends each service's upstream to its listener's entry, from any map. -/
theorem lookup_foldl_upstreamsByListener (services : List GatewayService)
    (m : GoMap IngressListenerKey (List Upstream)) (k : IngressListenerKey) :
    (services.foldl (fun m service =>
        let key : IngressListenerKey := ⟨service.protocol, service.port⟩
        m.insert key ((m.lookup key).getD [] ++ [makeUpstream service])) m).lookup k =
      if (services.filter fun g => (⟨g.protocol, g.port⟩ : IngressListenerKey) = k).isEmpty then
        m.lookup k
      else some ((m.lookup k).getD [] ++
        (services.filter fun g => (⟨g.protocol, g.port⟩ : IngressListenerKey) = k).map
          makeUpstream) := by
  induction services generalizing m with
  | nil => rfl
  | cons g rest ih =>
    rw [List.foldl_cons, ih]
    by_cases hg : (⟨g.protocol, g.port⟩ : IngressListenerKey) = k
    · subst hg
      simp only [List.filter_cons, eq_self_iff_true, decide_True, ↓reduceIte, List.isEmpty_cons,
        AList.lookup_insert, Option.getD_some, Bool.false_eq_true]
      split_ifs with hrest
      · rw [List.isEmpty_iff.1 hrest]
        rfl
      · simp only [List.map_cons, List.append_assoc, List.singleton_append]
    · simp only [List.filter_cons, hg, decide_False, Bool.false_eq_true, ↓reduceIte,
        AList.lookup_insert_ne (Ne.symm hg)]

/-- `upstreamsMap` groups the linked services by listener: a listener's entry lists the
upstreams of the services on it in the order they were delivered, and a listener with none has
no entry. -/
theorem upstreamsByListener_lookup (services : List GatewayService) (k : IngressListenerKey) :
    (upstreamsByListener services).lookup k =
      if (services.filter fun g => (⟨g.protocol, g.port⟩ : IngressListenerKey) = k).isEmpty then
        none
      else some
        ((services.filter fun g => (⟨g.protocol, g.port⟩ : IngressListenerKey) = k).map
          makeUpstream) :=
  lookup_foldl_upstreamsByListener services ∅ k

/-- The gateway-services case: watch the chain of every linked service, rebuild the listeners
and hosts, cancel the chain watches of the services no longer linked, and re-issue the leaf
watch. -/
def handleGatewayServices (s : HandlerState) : Result → HandlerM Unit
  | .indexedGatewayServices services => do
      watchGatewayUpstreams s services
      let watchedSvcs := services.map fun service => (makeUpstream service).identifier
      modifyIngressGateway fun ig =>
        { ig with
          upstreams := upstreamsByListener services
          hosts := services.flatMap (·.hosts)
          hostsSet := true }
      let chains := (← getSnap).ingressGateway.configSnapshotUpstreams.watchedDiscoveryChains
      modifyIngressGateway fun ig =>
        { ig with configSnapshotUpstreams := { ig.configSnapshotUpstreams with
            watchedDiscoveryChains := chains.retain (· ∈ watchedSvcs) } }
      cancelAll (chains.dropped (· ∈ watchedSvcs))
      watchIngressLeafCert s
  | r => fail (invalidTypeForResponse r)

/-- `handlerIngressGateway.handleUpdate`. -/
def handleUpdate (s : HandlerState) (u : UpdateEvent) : HandlerM Unit :=
  match u.err with
  | some e => fail ("error filling agent cache: " ++ e)
  | none =>
      if u.correlationID = rootsWatchID then handleRoots u.result
      else if u.correlationID = gatewayConfigWatchID then handleGatewayConfig s u.result
      else if u.correlationID = gatewayServicesWatchID then handleGatewayServices s u.result
      else handlerUpstreams.handleUpdateUpstreams s u

/-! ### Subscriptions and Go errors -/

section Errors

open HandlerM

variable {s : HandlerState}

theorem noError_watchIngressLeafCert (hc : s.cache.Accepts) : NoError (watchIngressLeafCert s) := by
  refine total_getSnap.noError.bind fun _ => ?_
  dsimp only
  split
  · refine (total_cancelAll _).noError.bind fun _ =>
      (notifyWithCancel_ensures hc _).noError_bind fun ⟨_, _⟩ herr => ?_
    subst herr
    exact (total_modifyIngressGateway _).noError
  · exact (total_pure ()).noError

theorem clean_handleGatewayConfig (hc : s.cache.Accepts) (r : Result) :
    Clean (handleGatewayConfig s r) := by
  unfold handleGatewayConfig
  split
  · exact ((total_modifyIngressGateway _).noError.bind fun _ => noError_watchIngressLeafCert hc).clean
  · exact clean_fail _
  · exact clean_fail _

theorem noError_watchGatewayUpstreams (hc : s.cache.Accepts) (hk : s.kind = .ingressGateway)
    (services : List GatewayService) : NoError (watchGatewayUpstreams s services) := by
  induction services with
  | nil => exact (total_pure ()).noError
  | cons service rest ih =>
      refine NoError.bind ?_ fun _ => ih
      refine (handlerUpstreams.watchDiscoveryChain_ensures hc (.inr hk) _).noError_bind
        fun _ herr => ?_
      subst herr
      exact (total_pure ()).noError

theorem clean_handleGatewayServices (hc : s.cache.Accepts) (hk : s.kind = .ingressGateway)
    (r : Result) : Clean (handleGatewayServices s r) := by
  cases r with
  | indexedGatewayServices services =>
      refine NoError.clean ((noError_watchGatewayUpstreams hc hk services).bind fun _ => ?_)
      dsimp only
      exact (total_modifyIngressGateway _).noError.bind fun _ => total_getSnap.noError.bind
        fun _ => (total_modifyIngressGateway _).noError.bind fun _ => (total_cancelAll _).noError.bind
        fun _ => noError_watchIngressLeafCert hc
  | _ => exact clean_fail _

/-- Only gateway-config, gateway-services and chain deliveries open or cancel subscriptions. -/
theorem keepsSubs_handleUpdate (u : UpdateEvent) (h₁ : u.correlationID ≠ gatewayConfigWatchID)
    (h₂ : u.correlationID ≠ gatewayServicesWatchID)
    (h₃ : hasPrefix u.correlationID "discovery-chain:" = false) :
    Keeps ProxyState.subs (handleUpdate s u) := by
  unfold handleUpdate
  split
  · exact keeps_fail _ _
  · exact Keeps.ite (fun _ => handlerUpstreams.keepsSubs_handleRoots _) fun _ =>
      Keeps.ite (fun hc => absurd hc h₁) fun _ => Keeps.ite (fun hc => absurd hc h₂) fun _ =>
      handlerUpstreams.keepsSubs_handleUpdateUpstreams u h₃

/-- With accepting collaborators, a Go error from the ingress gateway's handler changes nothing,
but for a nil chain. -/
theorem clean_handleUpdate (hs : s.Accepts) (hk : s.kind = .ingressGateway) (u : UpdateEvent)
    (hnil : ¬ (hasPrefix u.correlationID "discovery-chain:" = true ∧
      u.result = .discoveryChainResponse none)) :
    Clean (handleUpdate s u) := by
  unfold handleUpdate
  split
  · exact clean_fail _
  · exact Clean.ite (fun _ => handlerUpstreams.clean_handleRoots _) fun _ =>
      Clean.ite (fun _ => clean_handleGatewayConfig hs.1 _) fun _ =>
      Clean.ite (fun _ => clean_handleGatewayServices hs.1 hk _) fun _ =>
      handlerUpstreams.clean_handleUpdateUpstreams hs u hnil

end Errors

/-- `handlerIngressGateway.initialize`: roots, the gateway's config entry and its linked
services.  The passthrough map stays nil. -/
def initWatches (s : HandlerState) : HandlerM Unit := do
  watchRootOrFail s.cache rootsWatchID
  watchRootOrFail s.cache gatewayConfigWatchID
  watchRootOrFail s.cache gatewayServicesWatchID

end handlerIngressGateway

end ConsulAgent
