/-
The passthrough map of a transparent proxy: the destinations its directly dialled upstream
instances stand for, which an endpoint delivery only ever adds to.
-/
import ConsulAgent.Routing
import ConsulAgent.Watches

namespace ConsulAgent

open HandlerM handlerUpstreams

/-- In transparent mode, an endpoint delivery whose first instance is dialled directly faults
while the roots are unknown or the passthrough map is nil. -/
theorem transparent_target_passthrough_faults (p : ProxyHandler)
    (hp : p.handler = .connectProxy ∨ p.handler = .ingressGateway) (w : ProxyState)
    (hmode : w.snap.proxy.mode = .transparent)
    (hfault : w.snap.roots = none ∨ w.snap.upstreamsOf.passthroughUpstreams = none)
    {t : String} (u : String) (ht : ':' ∉ t.data) (node : CheckServiceNode)
    (hnode : node.service.dialedDirectly = true) (rest : List CheckServiceNode) :
    p.deliver ⟨upstreamTargetID t u, .indexedCheckServiceNodes (node :: rest), none⟩ w = none := by
  obtain ⟨msg, hcrash⟩ := @recordPassthrough_faults node ⟨w.snap.modifyUpstreams fun us =>
    { us with watchedUpstreamEndpoints :=
      (us.watchedUpstreamEndpoints.ensure u).setInner u t (node :: rest) }, w.subs⟩
    (by simpa using hmode) hnode (by simpa using hfault)
  unfold ProxyHandler.deliver
  rw [KindHandler.handleUpdate_upstreamTargetID hp, handleUpstreamTarget_upstreamTargetID u ht,
    bind_ok (modifyUpstreams_apply _ w), recordPassthroughs, bind_error hcrash]

/-- A transparent sidecar of `web` whose collaborators accept every subscription. -/
def transparentProxy : ProxyHandler :=
  .accepting .connectProxy ⟨"web", "web", .transparent, []⟩

/-- The chain of `db` in `dc1`, with its one target. -/
def dbChain : CompiledDiscoveryChain :=
  ⟨"db", "default", "dc1", [⟨"db.default.dc1", "db", "default", "dc1", .default⟩]⟩

/-- An instance of `db`'s sidecar at `10.0.0.1`, dialled directly. -/
def dbSidecar : CheckServiceNode :=
  ⟨⟨"dc1", "10.0.0.1", none⟩,
    ⟨.connectProxy, "db-sidecar-proxy", "10.0.0.1", none, "db", "db-1", true⟩⟩

/-- The sidecar after `Watch`: its six fixed watches are on the root context. -/
def transparentStart : ProxyState where
  snap :=
    { kind := .connectProxy, datacenter := "dc1", proxy := ⟨"web", "web", .transparent, []⟩
      connectProxy := { configSnapshotUpstreams := { passthroughUpstreams := some ∅ } } }
  subs := ⟨1, [(0, meshConfigEntryID), (0, intentionUpstreamsID),
    (0, svcChecksWatchIDPrefix ++ "web"), (0, intentionsWatchID), (0, leafWatchID),
    (0, rootsWatchID)]⟩

/-- The sidecar once intentions allow `db`: its chain watch is open on context `1`. -/
def transparentAllowingDb : ProxyState where
  snap :=
    { kind := .connectProxy, datacenter := "dc1", proxy := ⟨"web", "web", .transparent, []⟩
      connectProxy := { configSnapshotUpstreams :=
        { watchedDiscoveryChains := (∅ : GoMap String _).insert "db" ⟨1⟩
          passthroughUpstreams := some ∅ } } }
  subs := ⟨2, [(1, discoveryChainID "db"), (0, meshConfigEntryID), (0, intentionUpstreamsID),
    (0, svcChecksWatchIDPrefix ++ "web"), (0, intentionsWatchID), (0, leafWatchID),
    (0, rootsWatchID)]⟩

/-- The sidecar once `db`'s chain arrived, before any roots: the target watch is open on
context `2`. -/
def transparentWatchingDb : ProxyState where
  snap :=
    { transparentAllowingDb.snap with
      connectProxy := { configSnapshotUpstreams :=
        { discoveryChain := (∅ : GoMap String _).insert "db" (some dbChain)
          watchedDiscoveryChains := (∅ : GoMap String _).insert "db" ⟨1⟩
          watchedUpstreams := (∅ : GoMap String _).insert "db"
            ((∅ : GoMap String _).insert "db.default.dc1" ⟨2⟩)
          watchedUpstreamEndpoints := (∅ : GoMap String _).insert "db" ∅
          watchedGateways := (∅ : GoMap String _).insert "db" ∅
          watchedGatewayEndpoints := (∅ : GoMap String _).insert "db" ∅
          passthroughUpstreams := some ∅ } } }
  subs := ⟨3, (2, upstreamTargetID "db.default.dc1" "db") :: transparentAllowingDb.subs.live⟩

theorem reachable_transparentAllowingDb : Reachable transparentProxy transparentAllowingDb :=
  (@reachable_of_run transparentProxy [] transparentStart (by decide)).deliver
    ⟨intentionUpstreamsID, .indexedServiceList [⟨"db"⟩], none⟩ (by decide)

theorem reachable_transparentWatchingDb : Reachable transparentProxy transparentWatchingDb :=
  reachable_transparentAllowingDb.deliver
    ⟨discoveryChainID "db", .discoveryChainResponse (some dbChain), none⟩ (by decide)

theorem transparent_db_target_before_roots_faults :
    Reachable transparentProxy transparentWatchingDb ∧
      transparentProxy.deliver ⟨upstreamTargetID "db.default.dc1" "db",
        .indexedCheckServiceNodes [dbSidecar], none⟩ transparentWatchingDb = none :=
  ⟨reachable_transparentWatchingDb, transparent_target_passthrough_faults transparentProxy
    (.inl rfl) transparentWatchingDb rfl (.inl rfl) "db" (by decide) dbSidecar rfl []⟩

/-- An endpoint delivery with a directly dialled instance, then one without it: the endpoints
are empty, and the instance's destination keeps its entry and the instance's address. -/
theorem passthrough_outlives_endpoints (p : ProxyHandler)
    (hp : p.handler = .connectProxy ∨ p.handler = .ingressGateway) (w : ProxyState)
    (hmode : w.snap.proxy.mode = .transparent) {roots : IndexedCARoots}
    (hroots : w.snap.roots = some roots) {pt : GoMap String ServicePassthroughAddrs}
    (hpass : w.snap.upstreamsOf.passthroughUpstreams = some pt) {t : String} (u : String)
    (ht : ':' ∉ t.data) (node : CheckServiceNode) (hnode : node.service.dialedDirectly = true) :
    ∃ w₁ w₂,
      p.deliver ⟨upstreamTargetID t u, .indexedCheckServiceNodes [node], none⟩ w = some w₁ ∧
      p.deliver ⟨upstreamTargetID t u, .indexedCheckServiceNodes [], none⟩ w₁ = some w₂ ∧
      (w₂.snap.upstreamsOf.watchedUpstreamEndpoints.inner u).lookup t = some [] ∧
      ∃ pt' entry, w₂.snap.upstreamsOf.passthroughUpstreams = some pt' ∧
        pt'.lookup (passthroughDestination node).toString = some entry ∧
        node.bestAddress false ∈ entry.addrs := by
  let stored (nodes : List CheckServiceNode) : ConfigSnapshotUpstreams → ConfigSnapshotUpstreams :=
    fun us => { us with watchedUpstreamEndpoints :=
      (us.watchedUpstreamEndpoints.ensure u).setInner u t nodes }
  let svc := passthroughDestination node
  let entry := (pt.lookup svc.toString).getD
    ⟨serviceSNI svc.name "" intentionDefaultNamespace w.snap.datacenter roots.trustDomain, []⟩
  let recorded : ConfigSnapshotUpstreams → ConfigSnapshotUpstreams := fun us =>
    { us with passthroughUpstreams := some (pt.insert svc.toString
        { entry with addrs := entry.addrs.insert (node.bestAddress false) }) }
  let w₀ : ProxyState := ⟨w.snap.modifyUpstreams (stored [node]), w.subs⟩
  let w₁ : ProxyState := ⟨w₀.snap.modifyUpstreams recorded, w.subs⟩
  have hrecord : recordPassthrough node w₀ = .ok () w₁ := by
    rw [@recordPassthrough_of_direct node w₀ roots pt (by simpa [w₀] using hmode) hnode
      (by simpa [w₀] using hroots) (by simpa [w₀, stored] using hpass)]
    simp [w₀, w₁, recorded, entry, svc]
  refine ⟨w₁, ⟨w₁.snap.modifyUpstreams (stored []), w.subs⟩, ?_, ?_, ?_⟩
  · unfold ProxyHandler.deliver
    rw [KindHandler.handleUpdate_upstreamTargetID hp, handleUpstreamTarget_upstreamTargetID u ht,
      bind_ok (modifyUpstreams_apply _ w), recordPassthroughs, bind_ok hrecord]
    rfl
  · unfold ProxyHandler.deliver
    rw [KindHandler.handleUpdate_upstreamTargetID hp, handleUpstreamTarget_upstreamTargetID u ht,
      bind_ok (modifyUpstreams_apply _ _)]
    rfl
  · simp [w₁, w₀, recorded, stored]

/-- The sidecar of `transparentWatchingDb` once its roots arrived. -/
def transparentTrustingDb : ProxyState :=
  { transparentWatchingDb with
    snap := { transparentWatchingDb.snap with
      roots := some ⟨"root-1", "11111111-2222-3333-4444-555555555555.consul"⟩ } }

theorem transparent_db_address_outlives_endpoints :
    Reachable transparentProxy transparentTrustingDb ∧
    ∃ w₁ w₂, transparentProxy.deliver ⟨upstreamTargetID "db.default.dc1" "db",
        .indexedCheckServiceNodes [dbSidecar], none⟩ transparentTrustingDb = some w₁ ∧
      transparentProxy.deliver ⟨upstreamTargetID "db.default.dc1" "db",
        .indexedCheckServiceNodes [], none⟩ w₁ = some w₂ ∧
      (w₂.snap.upstreamsOf.watchedUpstreamEndpoints.inner "db").lookup "db.default.dc1" =
        some [] ∧
      ∃ pt' entry, w₂.snap.upstreamsOf.passthroughUpstreams = some pt' ∧
        pt'.lookup (passthroughDestination dbSidecar).toString = some entry ∧
        dbSidecar.bestAddress false ∈ entry.addrs :=
  ⟨reachable_transparentWatchingDb.deliver
      ⟨rootsWatchID, .indexedCARoots ⟨"root-1", "11111111-2222-3333-4444-555555555555.consul"⟩,
        none⟩ (by decide),
    passthrough_outlives_endpoints transparentProxy (.inl rfl) transparentTrustingDb rfl rfl rfl
      "db" (by decide) dbSidecar rfl⟩

end ConsulAgent
