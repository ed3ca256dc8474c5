/-
The intention-upstreams delivery of a connect proxy: chain watches for the allowed services,
then a cleanup that cancels only the chain watches of the upstreams it drops.
-/
import ConsulAgent.Passthrough

namespace ConsulAgent

open HandlerM handlerUpstreams

namespace handlerConnectProxy

variable {s : HandlerState}

/-- What the service loop of an intention-upstreams delivery leaves, from `w` to `w'`:
subscriptions are only added, and the connect proxy's chain-watch and config entries change for
the delivered services `seen` only. -/
structure ServiceLoopFrame (seen : List String) (w w' : ProxyState) : Prop where
  live_sub : ∀ e ∈ w.subs.live, e ∈ w'.subs.live
  chains : ∀ k, k ∉ seen →
    w'.snap.connectProxy.configSnapshotUpstreams.watchedDiscoveryChains.lookup k =
      w.snap.connectProxy.configSnapshotUpstreams.watchedDiscoveryChains.lookup k
  config : ∀ k, k ∉ seen →
    w'.snap.connectProxy.configSnapshotUpstreams.upstreamConfig.lookup k =
      w.snap.connectProxy.configSnapshotUpstreams.upstreamConfig.lookup k

namespace ServiceLoopFrame

variable {seen seen' : List String} {w w₁ w₂ : ProxyState}

theorem refl (seen : List String) (w : ProxyState) : ServiceLoopFrame seen w w :=
  ⟨fun _ h => h, fun _ _ => rfl, fun _ _ => rfl⟩

theorem trans (h₁ : ServiceLoopFrame seen w w₁) (h₂ : ServiceLoopFrame seen w₁ w₂) :
    ServiceLoopFrame seen w w₂ :=
  ⟨fun e he => h₂.live_sub e (h₁.live_sub e he),
    fun k hk => (h₂.chains k hk).trans (h₁.chains k hk),
    fun k hk => (h₂.config k hk).trans (h₁.config k hk)⟩

theorem mono (h : ServiceLoopFrame seen w w₁) (hsub : ∀ k, k ∉ seen' → k ∉ seen) :
    ServiceLoopFrame seen' w w₁ :=
  ⟨h.live_sub, fun k hk => h.chains k (hsub k hk), fun k hk => h.config k (hsub k hk)⟩

end ServiceLoopFrame

theorem adoptWildcardDefaults_frame (svc : ServiceName) (w : ProxyState) :
    ∃ w', adoptWildcardDefaults svc w = .ok () w' ∧ ServiceLoopFrame [svc.toString] w w' := by
  unfold adoptWildcardDefaults
  simp only [bind, EStateM.bind, getSnap_apply]
  split
  · cases w.snap.connectProxy.configSnapshotUpstreams.upstreamConfig.lookup wildcardServiceID with
    | none => exact ⟨w, rfl, .refl _ w⟩
    | some defaults =>
      refine ⟨_, rfl, fun _ h => h, fun _ _ => rfl, fun k hk => ?_⟩
      exact AList.lookup_insert_ne (by simpa using hk)
  · exact ⟨w, rfl, .refl _ w⟩

/-- On a connect proxy with an accepting cache, `watchDiscoveryChain` returns nil, and opens and
stores a chain watch unless the map already has one for the id. -/
theorem watchDiscoveryChain_frame (hc : s.cache.Accepts) (hk : s.kind = .connectProxy)
    (id : String) (w : ProxyState) :
    ∃ w', watchDiscoveryChain s id w = .ok none w' ∧ ServiceLoopFrame [id] w w' := by
  simp only [watchDiscoveryChain, bind, EStateM.bind, getSnap_apply]
  split
  · exact ⟨w, rfl, .refl _ w⟩
  · simp only [EStateM.bind, notifyWithCancel_of_accepts hc, hk, modifyConnectProxy_apply, pure,
      EStateM.pure]
    refine ⟨_, rfl, fun e he => List.mem_cons_of_mem _ he, fun k hk => ?_, fun _ _ => rfl⟩
    exact AList.lookup_insert_ne (by simpa using hk)

theorem watchIntentionUpstreams_frame (hc : s.cache.Accepts) (hk : s.kind = .connectProxy)
    (services : List ServiceName) (w : ProxyState) :
    ∃ w', watchIntentionUpstreams s services w = .ok () w' ∧
      ServiceLoopFrame (services.map (·.toString)) w w' := by
  induction services generalizing w with
  | nil => exact ⟨w, rfl, .refl _ w⟩
  | cons svc rest ih =>
    obtain ⟨w₁, h₁, hf₁⟩ := adoptWildcardDefaults_frame svc w
    obtain ⟨w₂, h₂, hf₂⟩ := watchDiscoveryChain_frame hc hk svc.toString w₁
    obtain ⟨w₃, h₃, hf₃⟩ := ih w₂
    refine ⟨w₃, ?_, ((hf₁.trans hf₂).mono fun k hk h => ?_).trans (hf₃.mono fun k hk h => ?_)⟩
    · simp only [watchIntentionUpstreams, watchIntentionUpstream]
      rw [bind_assoc, bind_ok h₁, bind_assoc, bind_ok h₂]
      exact h₃
    · simp only [List.map_cons, List.mem_cons, List.not_mem_nil, or_false] at hk h
      exact hk (.inl h)
    · exact hk (List.mem_cons_of_mem _ h)

/-- The cleanup's test reads the config only of services that were not delivered. -/
theorem keepsUpstream_congr {cfg cfg' : GoMap String Upstream} {seen : List String}
    (h : ∀ k, k ∉ seen → cfg'.lookup k = cfg.lookup k) :
    keepsUpstream s cfg' seen = keepsUpstream s cfg seen := by
  funext k
  by_cases hk : k ∈ seen
  · simp [keepsUpstream, hk]
  · simp only [keepsUpstream, h k hk]

/-- The cleanup write of an intention-upstreams delivery: every map keeps the upstreams `keep`
accepts, the chains also those with no watch. -/
def intentionCleanup (keep : String → Bool) (us : ConfigSnapshotUpstreams) :
    ConfigSnapshotUpstreams :=
  { us with
    watchedUpstreams := us.watchedUpstreams.retain keep
    watchedUpstreamEndpoints := us.watchedUpstreamEndpoints.retain keep
    watchedGateways := us.watchedGateways.retain keep
    watchedGatewayEndpoints := us.watchedGatewayEndpoints.retain keep
    watchedDiscoveryChains := us.watchedDiscoveryChains.retain keep
    discoveryChain := us.discoveryChain.retain fun sn => keep sn || sn ∉ us.watchedDiscoveryChains }

/-- After its service loop, an intention-upstreams delivery writes the cleanup and then calls
the cancel functions of the chain watches it dropped. -/
theorem handleIntentionUpstreams_eq {services : List ServiceName} {w w₁ : ProxyState}
    (h₁ : watchIntentionUpstreams s services w = .ok () w₁) :
    handleIntentionUpstreams s (.indexedServiceList services) w =
      cancelAll (w₁.snap.connectProxy.configSnapshotUpstreams.watchedDiscoveryChains.dropped
          (keepsUpstream s w₁.snap.connectProxy.configSnapshotUpstreams.upstreamConfig
            (services.map (·.toString))))
        { w₁ with snap := { w₁.snap with connectProxy := { w₁.snap.connectProxy with
          configSnapshotUpstreams := intentionCleanup (keepsUpstream s
            w₁.snap.connectProxy.configSnapshotUpstreams.upstreamConfig (services.map (·.toString)))
            w₁.snap.connectProxy.configSnapshotUpstreams } } } := by
  rw [handleIntentionUpstreams, bind_ok h₁, bind_ok (getSnap_apply w₁)]
  rfl

theorem handleUpdate_intentionUpstreams (s : HandlerState) (r : Result) :
    handleUpdate s ⟨intentionUpstreamsID, r, none⟩ = handleIntentionUpstreams s r := by
  simp only [handleUpdate, ite_true]
  rw [if_neg (by decide), if_neg (by decide)]

end handlerConnectProxy

open handlerConnectProxy in
/-- An intention-upstreams delivery with an accepting cache, from any state: it returns, every
map forgets the dropped upstreams, and of the subscriptions live before exactly the chain watches
of dropped upstreams end, their target and gateway watches staying live. -/
theorem intentionUpstreams_cancels_only_chains (p : ProxyHandler)
    (hp : p.handler = .connectProxy) (hc : p.handlerState.cache.Accepts)
    (services : List ServiceName) (w : ProxyState) :
    let us := w.snap.connectProxy.configSnapshotUpstreams
    let keep := keepsUpstream p.handlerState us.upstreamConfig (services.map (·.toString))
    ∃ w', p.deliver ⟨intentionUpstreamsID, .indexedServiceList services, none⟩ w = some w' ∧
      (∀ c id, (c, id) ∈ w.subs.live → ((c, id) ∈ w'.subs.live ↔
        ∀ k f, us.watchedDiscoveryChains.lookup k = some f → keep k = false → f.context ≠ c)) ∧
      ∀ sn, keep sn = false →
        sn ∉ w'.snap.connectProxy.configSnapshotUpstreams.watchedUpstreams ∧
        sn ∉ w'.snap.connectProxy.configSnapshotUpstreams.watchedUpstreamEndpoints ∧
        sn ∉ w'.snap.connectProxy.configSnapshotUpstreams.watchedGateways ∧
        sn ∉ w'.snap.connectProxy.configSnapshotUpstreams.watchedGatewayEndpoints ∧
        sn ∉ w'.snap.connectProxy.configSnapshotUpstreams.watchedDiscoveryChains := by
  intro us keep
  have hk : p.handlerState.kind = .connectProxy :=
    (kind_of_kindHandlerOf p.picked).trans (by rw [hp]; rfl)
  obtain ⟨w₁, h₁, hf⟩ := watchIntentionUpstreams_frame hc hk services w
  have hkeep : keepsUpstream p.handlerState
      w₁.snap.connectProxy.configSnapshotUpstreams.upstreamConfig (services.map (·.toString)) =
        keep := keepsUpstream_congr hf.config
  have hseen : ∀ k, keep k = false → k ∉ services.map (·.toString) := fun k hdrop h => by
    simp [keep, keepsUpstream, h] at hdrop
  have hrun := (handleUpdate_intentionUpstreams p.handlerState (.indexedServiceList services) ▸
    hp ▸ rfl : p.handler.handleUpdate p.handlerState
      ⟨intentionUpstreamsID, .indexedServiceList services, none⟩ =
        handleIntentionUpstreams p.handlerState (.indexedServiceList services))
  refine ⟨finalState (handleIntentionUpstreams p.handlerState (.indexedServiceList services) w),
    ?_, fun c id hlive => ?_, fun sn hsn => ?_⟩ <;> rw [handleIntentionUpstreams_eq h₁, hkeep]
  · simp only [ProxyHandler.deliver, hrun, handleIntentionUpstreams_eq h₁, hkeep]
    rw [cancelAll_eq_ok]
    rfl
  · rw [mem_live_cancelAll, GoMap.mem_dropped]
    constructor
    · rintro ⟨-, hnot⟩ k f hlook hdrop rfl
      exact hnot ⟨k, (hf.chains k (hseen k hdrop)).trans hlook, hdrop⟩
    · intro h
      refine ⟨hf.live_sub _ hlive, fun ⟨k, hlook, hdrop⟩ => h k ⟨c⟩ ?_ hdrop rfl⟩
      exact (hf.chains k (hseen k hdrop)).symm.trans hlook
  · rw [snap_cancelAll]
    simp [intentionCleanup, hsn]

/-- The transparent sidecar watching the target of `db` on context `2` learns that intentions
allow no service: the chain watch of `db` on context `1` ends and the maps forget `db`, but the
target watch stays live. -/
theorem transparent_unlisted_db_keeps_target_watch :
    Reachable transparentProxy transparentWatchingDb ∧
    ∃ w', transparentProxy.deliver ⟨intentionUpstreamsID, .indexedServiceList [], none⟩
        transparentWatchingDb = some w' ∧
      (2, upstreamTargetID "db.default.dc1" "db") ∈ w'.subs.live ∧
      (1, discoveryChainID "db") ∉ w'.subs.live ∧
      "db" ∉ w'.snap.connectProxy.configSnapshotUpstreams.watchedUpstreams := by
  obtain ⟨w', hw', hlive, hgone⟩ := intentionUpstreams_cancels_only_chains transparentProxy rfl
    CacheNotifier.accepting_accepts [] transparentWatchingDb
  have hdrop : handlerConnectProxy.keepsUpstream transparentProxy.handlerState
      transparentWatchingDb.snap.connectProxy.configSnapshotUpstreams.upstreamConfig [] "db" =
        false := by decide
  have hchain : ∀ k f, (transparentWatchingDb.snap.connectProxy.configSnapshotUpstreams
      |>.watchedDiscoveryChains.lookup k) = some f → f = ⟨1⟩ := by
    intro k f h
    by_cases hk : k = "db"
    · subst hk
      exact (Option.some.inj h).symm
    · rw [show transparentWatchingDb.snap.connectProxy.configSnapshotUpstreams.watchedDiscoveryChains =
        (∅ : GoMap String CancelFunc).insert "db" ⟨1⟩ from rfl, AList.lookup_insert_ne hk] at h
      cases h
  refine ⟨reachable_transparentWatchingDb, w', hw', ?_, ?_, (hgone "db" hdrop).1⟩
  · refine (hlive _ _ (by decide)).2 fun k f hk _ => ?_
    rw [hchain k f hk]
    decide
  · exact fun h => (hlive _ _ (by decide)).1 h "db" ⟨1⟩ rfl hdrop rfl

end ConsulAgent
