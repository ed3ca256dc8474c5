/-
The correlation ids of an upstream's watches, and how `handleUpdate` brings each delivery back
to the entry it was watched for.
-/
import ConsulAgent.State

namespace ConsulAgent

open HandlerM

/-! ## Encoding and decoding -/

theorem hasPrefix_upstreamTargetID (t u : String) :
    hasPrefix (upstreamTargetID t u) "upstream-target:" = true := by
  simp [upstreamTargetID, String.append_assoc]

theorem hasPrefix_meshGatewayUpstreamID (dc u : String) :
    hasPrefix (meshGatewayUpstreamID dc u) "mesh-gateway:" = true := by
  simp [meshGatewayUpstreamID, String.append_assoc]

theorem hasPrefix_discoveryChainID (u : String) :
    hasPrefix (discoveryChainID u) "discovery-chain:" = true :=
  hasPrefix_append _ _

/-- A target id without a colon comes back from its endpoint id, with the upstream id. -/
theorem removeColonPrefix_upstreamTargetID {t : String} (u : String) (ht : ':' ∉ t.data) :
    removeColonPrefix (trimPrefix (upstreamTargetID t u) "upstream-target:") = (t, u, true) := by
  rw [upstreamTargetID, String.append_assoc, String.append_assoc, trimPrefix_append,
    ← String.append_assoc, removeColonPrefix_append u ht]

/-- A datacenter without a colon comes back from its gateway id, with the upstream id. -/
theorem removeColonPrefix_meshGatewayUpstreamID {dc : String} (u : String) (hdc : ':' ∉ dc.data) :
    removeColonPrefix (trimPrefix (meshGatewayUpstreamID dc u) "mesh-gateway:") = (dc, u, true) := by
  rw [meshGatewayUpstreamID, String.append_assoc, String.append_assoc, trimPrefix_append,
    ← String.append_assoc, removeColonPrefix_append u hdc]

/-- Two gateway ids of one upstream are equal only for one datacenter, colons or not. -/
theorem meshGatewayUpstreamID_inj {dc₁ dc₂ u : String}
    (h : meshGatewayUpstreamID dc₁ u = meshGatewayUpstreamID dc₂ u) : dc₁ = dc₂ := by
  have hdata := congrArg String.data h
  simp only [meshGatewayUpstreamID, String.data_append, List.append_assoc,
    List.append_cancel_left_eq, List.append_cancel_right_eq] at hdata
  exact String.ext hdata

/-- A target's endpoint id is never a gateway id: the prefixes differ. -/
theorem upstreamTargetID_ne_meshGatewayUpstreamID (t u dc u' : String) :
    upstreamTargetID t u ≠ meshGatewayUpstreamID dc u' := by
  intro h
  have htarget := hasPrefix_upstreamTargetID t u
  rw [h, hasPrefix_eq_false_of_diverge (hasPrefix_meshGatewayUpstreamID dc u') (by decide)
    (by decide)] at htarget
  cases htarget

/-! ## The dispatch cascades -/

namespace handlerUpstreams

theorem handleUpdateUpstreams_of_discoveryChain {id : String} (s : HandlerState) (r : Result)
    (h : hasPrefix id "discovery-chain:" = true) :
    handleUpdateUpstreams s ⟨id, r, none⟩ =
      handleDiscoveryChain s (trimPrefix id "discovery-chain:") r := by
  have hleaf : id ≠ leafWatchID := ne_of_hasPrefix h (by decide)
  simp [handleUpdateUpstreams, hleaf, h]

theorem handleUpdateUpstreams_of_upstreamTarget {id : String} (s : HandlerState) (r : Result)
    (h : hasPrefix id "upstream-target:" = true) :
    handleUpdateUpstreams s ⟨id, r, none⟩ = handleUpstreamTarget id r := by
  have hleaf : id ≠ leafWatchID := ne_of_hasPrefix h (by decide)
  have hchain : hasPrefix id "discovery-chain:" = false :=
    hasPrefix_eq_false_of_diverge h (by decide) (by decide)
  simp [handleUpdateUpstreams, hleaf, hchain, h]

theorem handleUpdateUpstreams_of_meshGateway {id : String} (s : HandlerState) (r : Result)
    (h : hasPrefix id "mesh-gateway:" = true) :
    handleUpdateUpstreams s ⟨id, r, none⟩ = handleMeshGateway id r := by
  have hleaf : id ≠ leafWatchID := ne_of_hasPrefix h (by decide)
  have hchain : hasPrefix id "discovery-chain:" = false :=
    hasPrefix_eq_false_of_diverge h (by decide) (by decide)
  have htarget : hasPrefix id "upstream-target:" = false :=
    hasPrefix_eq_false_of_diverge h (by decide) (by decide)
  simp [handleUpdateUpstreams, hleaf, hchain, htarget, h]

end handlerUpstreams

/-- The prefixes of the ids that only `handleUpdateUpstreams` handles. -/
def upstreamsPrefixes : List String :=
  ["discovery-chain:", "upstream-target:", "mesh-gateway:"]

namespace handlerConnectProxy

/-- An id with one of the upstreams prefixes passes every test of the connect proxy's own
cases. -/
theorem handleUpdate_of_upstreamsPrefix {id pre : String} (s : HandlerState) (r : Result)
    (h : hasPrefix id pre = true) (hpre : pre ∈ upstreamsPrefixes) :
    handleUpdate s ⟨id, r, none⟩ = handlerUpstreams.handleUpdateUpstreams s ⟨id, r, none⟩ := by
  have hcases : id ≠ rootsWatchID ∧ id ≠ intentionsWatchID ∧ id ≠ intentionUpstreamsID ∧
      hasPrefix id ("upstream:" ++ preparedQueryIDPrefix) = false ∧
      hasPrefix id svcChecksWatchIDPrefix = false ∧ id ≠ meshConfigEntryID := by
    simp only [upstreamsPrefixes, List.mem_cons, List.mem_singleton, List.not_mem_nil,
      or_false] at hpre
    rcases hpre with rfl | rfl | rfl <;>
      exact ⟨ne_of_hasPrefix h (by decide), ne_of_hasPrefix h (by decide),
        ne_of_hasPrefix h (by decide), hasPrefix_eq_false_of_diverge h (by decide) (by decide),
        hasPrefix_eq_false_of_diverge h (by decide) (by decide), ne_of_hasPrefix h (by decide)⟩
  obtain ⟨h₁, h₂, h₃, h₄, h₅, h₆⟩ := hcases
  simp [handleUpdate, h₁, h₂, h₃, h₄, h₅, h₆]

/-- A prepared-query upstream's id, behind `upstream:`, reaches the prepared-query case. -/
theorem handleUpdate_preparedQuery (s : HandlerState) (q : String) (r : Result) :
    handleUpdate s ⟨"upstream:" ++ (preparedQueryIDPrefix ++ q), r, none⟩ =
      handlePreparedQuery ("upstream:" ++ (preparedQueryIDPrefix ++ q)) r := by
  have h : hasPrefix ("upstream:" ++ (preparedQueryIDPrefix ++ q))
      ("upstream:" ++ preparedQueryIDPrefix) = true := by
    rw [← String.append_assoc]
    exact hasPrefix_append _ _
  have h₁ : "upstream:" ++ (preparedQueryIDPrefix ++ q) ≠ rootsWatchID :=
    ne_of_hasPrefix h (by decide)
  have h₂ : "upstream:" ++ (preparedQueryIDPrefix ++ q) ≠ intentionsWatchID :=
    ne_of_hasPrefix h (by decide)
  have h₃ : "upstream:" ++ (preparedQueryIDPrefix ++ q) ≠ intentionUpstreamsID :=
    ne_of_hasPrefix h (by decide)
  simp only [handleUpdate]
  rw [if_neg h₁, if_neg h₂, if_neg h₃, if_pos h]

end handlerConnectProxy

namespace handlerIngressGateway

/-- An id with one of the upstreams prefixes passes every test of the ingress gateway's own
cases. -/
theorem handleUpdate_of_upstreamsPrefix {id pre : String} (s : HandlerState) (r : Result)
    (h : hasPrefix id pre = true) (hpre : pre ∈ upstreamsPrefixes) :
    handleUpdate s ⟨id, r, none⟩ = handlerUpstreams.handleUpdateUpstreams s ⟨id, r, none⟩ := by
  have hcases : id ≠ rootsWatchID ∧ id ≠ gatewayConfigWatchID ∧ id ≠ gatewayServicesWatchID := by
    simp only [upstreamsPrefixes, List.mem_cons, List.mem_singleton, List.not_mem_nil,
      or_false] at hpre
    rcases hpre with rfl | rfl | rfl <;>
      exact ⟨ne_of_hasPrefix h (by decide), ne_of_hasPrefix h (by decide),
        ne_of_hasPrefix h (by decide)⟩
  obtain ⟨h₁, h₂, h₃⟩ := hcases
  simp [handleUpdate, h₁, h₂, h₃]

end handlerIngressGateway

/-- The two handlers that keep upstreams send every id with an upstreams prefix to
`handleUpdateUpstreams`. -/
theorem KindHandler.handleUpdate_of_upstreamsPrefix {h : KindHandler}
    (hh : h = .connectProxy ∨ h = .ingressGateway) {id pre : String} (s : HandlerState)
    (r : Result) (hid : hasPrefix id pre = true) (hpre : pre ∈ upstreamsPrefixes) :
    h.handleUpdate s ⟨id, r, none⟩ = handlerUpstreams.handleUpdateUpstreams s ⟨id, r, none⟩ := by
  rcases hh with rfl | rfl
  · exact handlerConnectProxy.handleUpdate_of_upstreamsPrefix s r hid hpre
  · exact handlerIngressGateway.handleUpdate_of_upstreamsPrefix s r hid hpre

namespace KindHandler

variable {h : KindHandler} (hh : h = .connectProxy ∨ h = .ingressGateway) (s : HandlerState)
include hh

theorem handleUpdate_upstreamTargetID (t u : String) (r : Result) :
    h.handleUpdate s ⟨upstreamTargetID t u, r, none⟩ =
      handlerUpstreams.handleUpstreamTarget (upstreamTargetID t u) r := by
  rw [handleUpdate_of_upstreamsPrefix hh s r (hasPrefix_upstreamTargetID t u) (by decide),
    handlerUpstreams.handleUpdateUpstreams_of_upstreamTarget s r (hasPrefix_upstreamTargetID t u)]

theorem handleUpdate_meshGatewayUpstreamID (dc u : String) (r : Result) :
    h.handleUpdate s ⟨meshGatewayUpstreamID dc u, r, none⟩ =
      handlerUpstreams.handleMeshGateway (meshGatewayUpstreamID dc u) r := by
  rw [handleUpdate_of_upstreamsPrefix hh s r (hasPrefix_meshGatewayUpstreamID dc u) (by decide),
    handlerUpstreams.handleUpdateUpstreams_of_meshGateway s r
      (hasPrefix_meshGatewayUpstreamID dc u)]

theorem handleUpdate_discoveryChainID (u : String) (r : Result) :
    h.handleUpdate s ⟨discoveryChainID u, r, none⟩ =
      handlerUpstreams.handleDiscoveryChain s u r := by
  rw [handleUpdate_of_upstreamsPrefix hh s r (hasPrefix_discoveryChainID u) (by decide),
    handlerUpstreams.handleUpdateUpstreams_of_discoveryChain s r (hasPrefix_discoveryChainID u),
    discoveryChainID, trimPrefix_append]

end KindHandler

/-! ## Where the payloads land -/

namespace handlerUpstreams

/-- An endpoint delivery for target `t` of upstream `u`: the endpoints are stored, then the
passthrough loop runs. -/
theorem handleUpstreamTarget_upstreamTargetID {t : String} (u : String) (ht : ':' ∉ t.data)
    (nodes : List CheckServiceNode) :
    handleUpstreamTarget (upstreamTargetID t u) (.indexedCheckServiceNodes nodes) =
      (modifyUpstreams fun us => { us with watchedUpstreamEndpoints :=
        (us.watchedUpstreamEndpoints.ensure u).setInner u t nodes }) >>= fun _ =>
      recordPassthroughs nodes := by
  simp only [handleUpstreamTarget, removeColonPrefix_upstreamTargetID u ht]

theorem upstreamTarget_stored {t : String} (u : String) (ht : ':' ∉ t.data)
    (nodes : List CheckServiceNode) (w : ProxyState) :
    ((finalState (handleUpstreamTarget (upstreamTargetID t u) (.indexedCheckServiceNodes nodes)
      w)).snap.upstreamsOf.watchedUpstreamEndpoints.inner u).lookup t = some nodes := by
  rw [handleUpstreamTarget_upstreamTargetID u ht, bind_ok (modifyUpstreams_apply _ w)]
  refine (congrArg (fun m => (GoMap.inner m u).lookup t) (@keeps_recordPassthroughs _
    (·.watchedUpstreamEndpoints) (fun _ _ => rfl) nodes _)).trans ?_
  simp

theorem meshGateway_stored {dc : String} (u : String) (hdc : ':' ∉ dc.data)
    (nodes : List CheckServiceNode) (w : ProxyState) :
    ((finalState (handleMeshGateway (meshGatewayUpstreamID dc u) (.indexedNodesWithGateways nodes)
      w)).snap.upstreamsOf.watchedGatewayEndpoints.inner u).lookup dc = some nodes := by
  simp [handleMeshGateway, removeColonPrefix_meshGatewayUpstreamID u hdc, finalState]

theorem discoveryChain_stored (s : HandlerState) (u : String)
    (chain : Option CompiledDiscoveryChain) (w : ProxyState) :
    (finalState (handleDiscoveryChain s u (.discoveryChainResponse chain)
      w)).snap.upstreamsOf.discoveryChain.lookup u = some chain := by
  simp only [handleDiscoveryChain]
  rw [bind_ok (modifyUpstreams_apply _ w)]
  refine (congrArg (AList.lookup u) (@keeps_resetWatchesFromChain _
    (·.discoveryChain) (fun _ _ _ _ _ => rfl) s u chain _)).trans ?_
  simp

end handlerUpstreams

/-- For every upstream id `u` and target or datacenter `t` without a colon, the ids of `u`'s
watches reach their own case of `handleUpdate`, and a payload of the right type lands under `u`
(and `t`). -/
theorem upstream_ids_reach_their_entries (h : KindHandler)
    (hh : h = .connectProxy ∨ h = .ingressGateway) (s : HandlerState) (w : ProxyState)
    (t u : String) (ht : ':' ∉ t.data) (nodes : List CheckServiceNode)
    (chain : Option CompiledDiscoveryChain) (q : String) :
    (∀ r, h.handleUpdate s ⟨upstreamTargetID t u, r, none⟩ =
      handlerUpstreams.handleUpstreamTarget (upstreamTargetID t u) r) ∧
    (∀ r, h.handleUpdate s ⟨meshGatewayUpstreamID t u, r, none⟩ =
      handlerUpstreams.handleMeshGateway (meshGatewayUpstreamID t u) r) ∧
    (∀ r, h.handleUpdate s ⟨discoveryChainID u, r, none⟩ =
      handlerUpstreams.handleDiscoveryChain s u r) ∧
    ((finalState (h.handleUpdate s ⟨upstreamTargetID t u, .indexedCheckServiceNodes nodes, none⟩
      w)).snap.upstreamsOf.watchedUpstreamEndpoints.inner u).lookup t = some nodes ∧
    ((finalState (h.handleUpdate s ⟨meshGatewayUpstreamID t u, .indexedNodesWithGateways nodes,
      none⟩ w)).snap.upstreamsOf.watchedGatewayEndpoints.inner u).lookup t = some nodes ∧
    (finalState (h.handleUpdate s ⟨discoveryChainID u, .discoveryChainResponse chain, none⟩
      w)).snap.upstreamsOf.discoveryChain.lookup u = some chain ∧
    (∀ r, handlerConnectProxy.handleUpdate s ⟨"upstream:" ++ (preparedQueryIDPrefix ++ q), r, none⟩ =
      handlerConnectProxy.handlePreparedQuery ("upstream:" ++ (preparedQueryIDPrefix ++ q)) r) ∧
    (finalState (handlerConnectProxy.handleUpdate s
      ⟨"upstream:" ++ (preparedQueryIDPrefix ++ q), .preparedQueryExecuteResponse nodes, none⟩
      w)).snap.connectProxy.preparedQueryEndpoints.lookup (preparedQueryIDPrefix ++ q) =
        some nodes := by
  have target := KindHandler.handleUpdate_upstreamTargetID hh s t u
  have gateway := KindHandler.handleUpdate_meshGatewayUpstreamID hh s t u
  have chainCase := KindHandler.handleUpdate_discoveryChainID hh s u
  have query := handlerConnectProxy.handleUpdate_preparedQuery s q
  refine ⟨target, gateway, chainCase, ?_, ?_, ?_, query, ?_⟩
  · rw [target]
    exact handlerUpstreams.upstreamTarget_stored u ht nodes w
  · rw [gateway]
    exact handlerUpstreams.meshGateway_stored u ht nodes w
  · rw [chainCase]
    exact handlerUpstreams.discoveryChain_stored s u chain w
  · rw [query]
    simp [handlerConnectProxy.handlePreparedQuery, finalState]

/-- The sidecar of `web` as `Watch` starts it, with no subscription yet. -/
def webSidecarStart : ProxyState :=
  ⟨newConfigSnapshotFromServiceInstance
    (acceptingHandlerState .connectProxy ⟨"web", "web", .default, []⟩), {}⟩

theorem web_upstream_ids_reach_their_entries :
    ':' ∉ "db.default.dc1".data ∧
    (∀ r, KindHandler.connectProxy.handleUpdate
        (acceptingHandlerState .connectProxy ⟨"web", "web", .default, []⟩)
        ⟨upstreamTargetID "db.default.dc1" "db", r, none⟩ =
      handlerUpstreams.handleUpstreamTarget (upstreamTargetID "db.default.dc1" "db") r) ∧
    (∀ r, KindHandler.connectProxy.handleUpdate
        (acceptingHandlerState .connectProxy ⟨"web", "web", .default, []⟩)
        ⟨meshGatewayUpstreamID "db.default.dc1" "db", r, none⟩ =
      handlerUpstreams.handleMeshGateway (meshGatewayUpstreamID "db.default.dc1" "db") r) ∧
    (∀ r, KindHandler.connectProxy.handleUpdate
        (acceptingHandlerState .connectProxy ⟨"web", "web", .default, []⟩)
        ⟨discoveryChainID "db", r, none⟩ =
      handlerUpstreams.handleDiscoveryChain
        (acceptingHandlerState .connectProxy ⟨"web", "web", .default, []⟩) "db" r) ∧
    ((finalState (KindHandler.connectProxy.handleUpdate
      (acceptingHandlerState .connectProxy ⟨"web", "web", .default, []⟩)
      ⟨upstreamTargetID "db.default.dc1" "db", .indexedCheckServiceNodes [], none⟩
      webSidecarStart)).snap.upstreamsOf.watchedUpstreamEndpoints.inner "db").lookup
        "db.default.dc1" = some [] ∧
    ((finalState (KindHandler.connectProxy.handleUpdate
      (acceptingHandlerState .connectProxy ⟨"web", "web", .default, []⟩)
      ⟨meshGatewayUpstreamID "db.default.dc1" "db", .indexedNodesWithGateways [], none⟩
      webSidecarStart)).snap.upstreamsOf.watchedGatewayEndpoints.inner "db").lookup
        "db.default.dc1" = some [] ∧
    (finalState (KindHandler.connectProxy.handleUpdate
      (acceptingHandlerState .connectProxy ⟨"web", "web", .default, []⟩)
      ⟨discoveryChainID "db", .discoveryChainResponse none, none⟩
      webSidecarStart)).snap.upstreamsOf.discoveryChain.lookup "db" = some none ∧
    (∀ r, handlerConnectProxy.handleUpdate
        (acceptingHandlerState .connectProxy ⟨"web", "web", .default, []⟩)
        ⟨"upstream:" ++ (preparedQueryIDPrefix ++ "geo"), r, none⟩ =
      handlerConnectProxy.handlePreparedQuery ("upstream:" ++ (preparedQueryIDPrefix ++ "geo")) r) ∧
    (finalState (handlerConnectProxy.handleUpdate
      (acceptingHandlerState .connectProxy ⟨"web", "web", .default, []⟩)
      ⟨"upstream:" ++ (preparedQueryIDPrefix ++ "geo"), .preparedQueryExecuteResponse [], none⟩
      webSidecarStart)).snap.connectProxy.preparedQueryEndpoints.lookup
        (preparedQueryIDPrefix ++ "geo") = some [] :=
  ⟨by decide, upstream_ids_reach_their_entries .connectProxy (.inl rfl)
    (acceptingHandlerState .connectProxy ⟨"web", "web", .default, []⟩) webSidecarStart
    "db.default.dc1" "db" (by decide) [] none "geo"⟩

end ConsulAgent
