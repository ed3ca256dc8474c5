/-
The subscriptions the handlers open and the cancel functions the snapshot keeps for them, with
the ingress gateway's chain watches, which `watchDiscoveryChain` looks up in the wrong map.
-/
import ConsulAgent.State

namespace ConsulAgent

open HandlerM

/-- The cancel functions of one `ConfigSnapshotUpstreams`: chain, target and gateway watches. -/
def ConfigSnapshotUpstreams.cancelHandles (us : ConfigSnapshotUpstreams) : List CancelFunc :=
  us.watchedDiscoveryChains.entries.map (·.2) ++
    us.watchedUpstreams.entries.flatMap (fun e => e.2.entries.map (·.2)) ++
    us.watchedGateways.entries.flatMap (fun e => e.2.entries.map (·.2))

/-- Every cancel function the snapshot's bookkeeping holds. -/
def ConfigSnapshot.cancelHandles (snap : ConfigSnapshot) : List CancelFunc :=
  let tg := snap.terminatingGateway
  snap.connectProxy.configSnapshotUpstreams.cancelHandles ++
    snap.ingressGateway.configSnapshotUpstreams.cancelHandles ++
    ([tg.watchedServices, tg.watchedIntentions, tg.watchedLeaves, tg.watchedConfigs,
      tg.watchedResolvers].flatMap fun m => m.entries.map (·.2)) ++
    snap.meshGateway.watchedServices.entries.map (·.2) ++
    snap.meshGateway.watchedDatacenters.entries.map (·.2) ++
    snap.ingressGateway.leafCertWatchCancel.toList

/-- The bookkeeping agrees with the subscriptions: a child context has a live subscription
exactly when the snapshot holds its cancel function. -/
def HandlesMatch (w : ProxyState) : Prop :=
  ∀ ctx, ctx ≠ 0 → ((∃ id, (ctx, id) ∈ w.subs.live) ↔ ⟨ctx⟩ ∈ w.snap.cancelHandles)

/-- The ingress gateway of the examples below: TLS and hosts unset, collaborators accepting. -/
def ingressProxy : ProxyHandler :=
  .accepting .ingressGateway ⟨"", "", .default, []⟩

/-- A gateway-services delivery linking the named services on one TCP listener. -/
def linkServices (names : List String) : UpdateEvent :=
  ⟨gatewayServicesWatchID, .indexedGatewayServices (names.map fun n => ⟨⟨n⟩, 8080, "tcp", []⟩),
    none⟩

/-- A live subscription on a child context whose cancel function the snapshot does not hold. -/
theorem not_handlesMatch_of_orphan {w : ProxyState} {ctx : Nat} {id : String}
    (hlive : (ctx, id) ∈ w.subs.live) (hctx : ctx ≠ 0) (horphan : ⟨ctx⟩ ∉ w.snap.cancelHandles) :
    ¬ HandlesMatch w :=
  fun h => horphan ((h ctx hctx).1 ⟨id, hlive⟩)

theorem ingress_relink_orphans_chain_watch :
    ∃ w, Reachable ingressProxy w ∧ (1, discoveryChainID "api") ∈ w.subs.live ∧
      ⟨1⟩ ∉ w.snap.cancelHandles ∧ ¬ HandlesMatch w :=
  let ⟨w, hw, hlive, horphan⟩ := exists_reachable_of_run (p := ingressProxy)
    [linkServices ["api"], linkServices ["api"]]
    (P := fun w => (1, discoveryChainID "api") ∈ w.subs.live ∧ ⟨1⟩ ∉ w.snap.cancelHandles)
    (by decide)
  ⟨w, hw, hlive, horphan, not_handlesMatch_of_orphan hlive Nat.one_ne_zero horphan⟩

theorem ingress_relink_replaces_kept_chain_watch :
    ∃ w₁ w₂, Reachable ingressProxy w₁ ∧
      ingressProxy.deliver (linkServices ["api"]) w₁ = some w₂ ∧
      (w₁.snap.ingressGateway.configSnapshotUpstreams.watchedDiscoveryChains.keys = ["api"] ∧
      w₂.snap.ingressGateway.configSnapshotUpstreams.watchedDiscoveryChains.keys = ["api"] ∧
      w₁.snap.ingressGateway.configSnapshotUpstreams.watchedDiscoveryChains.lookup "api" =
        some ⟨1⟩ ∧
      w₂.snap.ingressGateway.configSnapshotUpstreams.watchedDiscoveryChains.lookup "api" =
        some ⟨2⟩ ∧
      (w₂.subs.live.filter (·.2 = discoveryChainID "api")).length = 2) :=
  exists_reachable_deliver_of_run [linkServices ["api"]] _ (by decide)

/-- The chain of `api` in `dc1`, with its one target. -/
def apiChain : CompiledDiscoveryChain :=
  ⟨"api", "default", "dc1", [⟨"api.default.dc1", "api", "default", "dc1", .default⟩]⟩

/-- The ingress gateway once `api` is linked: its chain watch is open on context `1`. -/
def ingressLinkedApi : ProxyState where
  snap :=
    { kind := .ingressGateway, datacenter := "dc1", proxy := ⟨"", "", .default, []⟩
      ingressGateway :=
        { configSnapshotUpstreams :=
            { watchedDiscoveryChains := (∅ : GoMap String _).insert "api" ⟨1⟩ }
          upstreams := (∅ : GoMap IngressListenerKey _).insert ⟨"tcp", 8080⟩
            [makeUpstream ⟨⟨"api"⟩, 8080, "tcp", []⟩]
          hostsSet := true } }
  subs := ⟨2, [(1, discoveryChainID "api"), (0, gatewayServicesWatchID),
    (0, gatewayConfigWatchID), (0, rootsWatchID)]⟩

/-- The same gateway once `api`'s chain arrived: its target watch is open on context `2`. -/
def ingressWatchingApi : ProxyState where
  snap :=
    { ingressLinkedApi.snap with
      ingressGateway :=
        { ingressLinkedApi.snap.ingressGateway with
          configSnapshotUpstreams :=
            { discoveryChain := (∅ : GoMap String _).insert "api" (some apiChain)
              watchedDiscoveryChains := (∅ : GoMap String _).insert "api" ⟨1⟩
              watchedUpstreams := (∅ : GoMap String _).insert "api"
                ((∅ : GoMap String _).insert "api.default.dc1" ⟨2⟩)
              watchedUpstreamEndpoints := (∅ : GoMap String _).insert "api" ∅
              watchedGateways := (∅ : GoMap String _).insert "api" ∅
              watchedGatewayEndpoints := (∅ : GoMap String _).insert "api" ∅ } } }
  subs := ⟨3, (2, upstreamTargetID "api.default.dc1" "api") :: ingressLinkedApi.subs.live⟩

theorem reachable_ingressLinkedApi : Reachable ingressProxy ingressLinkedApi :=
  @reachable_of_run ingressProxy [linkServices ["api"]] ingressLinkedApi (by decide)

theorem reachable_ingressWatchingApi : Reachable ingressProxy ingressWatchingApi :=
  reachable_ingressLinkedApi.deliver
    ⟨discoveryChainID "api", .discoveryChainResponse (some apiChain), none⟩ (by decide)

theorem ingress_unlink_leaves_chain_behind :
    ∃ w, Reachable ingressProxy w ∧
      ("api" ∈ w.snap.ingressGateway.configSnapshotUpstreams.discoveryChain ∧
      "api" ∈ w.snap.ingressGateway.configSnapshotUpstreams.watchedUpstreams ∧
      "api" ∉ w.snap.ingressGateway.configSnapshotUpstreams.watchedDiscoveryChains ∧
      (2, upstreamTargetID "api.default.dc1" "api") ∈ w.subs.live) :=
  reachable_ingressWatchingApi.exists_of_deliverAll [linkServices []] (by decide)

end ConsulAgent
