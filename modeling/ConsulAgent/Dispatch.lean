/-
Every subscription a proxy holds is one its handler reads: each live subscription's id has a case
of `handleUpdate` (`HasCase`), and every case checks the delivery's type first.
-/
import ConsulAgent.IngressLeaf
import ConsulAgent.TerminatingBooks
import ConsulAgent.MeshBooks
import ConsulAgent.Deliveries

namespace ConsulAgent

open HandlerM

/-! ## The cases of the switches -/

/-- The exact ids and the prefixes that a kind's `handleUpdate` switch tests, read off its cases,
those of `handleUpdateUpstreams` included for the two kinds that defer to it. -/
def KindHandler.caseIDs : KindHandler → List String × List String
  | .connectProxy =>
      ([rootsWatchID, intentionsWatchID, intentionUpstreamsID, meshConfigEntryID, leafWatchID],
        ["upstream:" ++ preparedQueryIDPrefix, svcChecksWatchIDPrefix] ++ upstreamsPrefixes)
  | .terminatingGateway =>
      ([rootsWatchID, gatewayServicesWatchID],
        [externalServiceIDPrefix, serviceLeafIDPrefix, serviceConfigIDPrefix,
          serviceResolverIDPrefix, serviceIntentionsIDPrefix])
  | .meshGateway =>
      ([rootsWatchID, federationStateListGatewaysWatchID, serviceListWatchID, datacentersWatchID,
          serviceResolversWatchID, consulServerListWatchID], ["connect-service:", "mesh-gateway:"])
  | .ingressGateway =>
      ([rootsWatchID, gatewayConfigWatchID, gatewayServicesWatchID, leafWatchID],
        upstreamsPrefixes)

/-- The id is one of the kind's exact ids or has one of its prefixes. -/
def KindHandler.HasCase (h : KindHandler) (id : String) : Prop :=
  id ∈ h.caseIDs.1 ∨ ∃ pre ∈ h.caseIDs.2, hasPrefix id pre = true

namespace KindHandler

theorem hasCase_of_hasPrefix {h : KindHandler} {pre : String} (hpre : pre ∈ h.caseIDs.2)
    {id : String} (hid : hasPrefix id pre = true) : h.HasCase id :=
  .inr ⟨pre, hpre, hid⟩

theorem hasCase_append {h : KindHandler} {pre : String} (hpre : pre ∈ h.caseIDs.2)
    (x : String) : h.HasCase (pre ++ x) :=
  hasCase_of_hasPrefix hpre (hasPrefix_append pre x)

/-- The two kinds that defer to `handleUpdateUpstreams` have a case for its ids. -/
theorem hasCase_of_upstreamsPrefix {h : KindHandler} (hh : h = .connectProxy ∨ h = .ingressGateway)
    {id pre : String} (hpre : pre ∈ upstreamsPrefixes) (hid : hasPrefix id pre = true) :
    h.HasCase id := by
  refine .inr ⟨pre, ?_, hid⟩
  rcases hh with rfl | rfl
  · exact List.mem_append_right _ hpre
  · exact hpre

end KindHandler

/-! ## Every case checks the type first -/

theorem hasPrefix_append_of_hasPrefix {s pre : String} (h : hasPrefix s pre = true)
    (t : String) : hasPrefix (s ++ t) pre = true :=
  hasPrefix_iff.2 ((hasPrefix_iff.1 h).trans (by simp))

/-- A step that fails with a type-check message and leaves the state as it was. -/
def RefusesType (x : HandlerM Unit) : Prop :=
  ∀ w, ∃ msg, x w = .error (.error msg) w ∧ hasPrefix msg "invalid type for" = true

theorem refusesType_fail {msg : String} (h : hasPrefix msg "invalid type for" = true) :
    RefusesType (fail msg) :=
  fun _ => ⟨msg, rfl, h⟩

theorem refusesType_invalidTypeForResponse (r : Result) :
    RefusesType (fail (invalidTypeForResponse r)) :=
  refusesType_fail (hasPrefix_append_of_hasPrefix (by decide) _)

/-- A delivery of any unexpected Go type on `id` is refused by a type check. -/
def KindHandler.TypeChecks (h : KindHandler) (s : HandlerState) (id : String) : Prop :=
  ∀ t, RefusesType (h.handleUpdate s ⟨id, .other t, none⟩)

theorem RefusesType.ite {c : Prop} [Decidable c] {x y : HandlerM Unit}
    (hx : c → RefusesType x) (hy : ¬ c → RefusesType y) : RefusesType (if c then x else y) := by
  by_cases hc : c
  · rw [if_pos hc]
    exact hx hc
  · rw [if_neg hc]
    exact hy hc

/-- Every id with a case reaches it, and the case refuses an unexpected type: each test of the
switch that an id passes leads to a type check, and an id with a case passes one. -/
theorem KindHandler.typeChecks_of_hasCase {h : KindHandler} (s : HandlerState) {id : String}
    (hid : h.HasCase id) : h.TypeChecks s id := by
  intro t
  cases h <;>
    simp only [HasCase, caseIDs, upstreamsPrefixes, List.cons_append, List.singleton_append,
      List.nil_append, List.mem_cons, List.mem_singleton, List.not_mem_nil, or_false,
      exists_eq_or_imp, exists_eq_left] at hid <;>
    simp only [KindHandler.handleUpdate] <;>
    first
      | unfold handlerConnectProxy.handleUpdate | unfold handlerTerminatingGateway.handleUpdate
      | unfold handlerMeshGateway.handleUpdate | unfold handlerIngressGateway.handleUpdate
  all_goals
    dsimp only
    repeat' (apply RefusesType.ite <;> intro)
  -- each case's type check, or the default, which no id with a case reaches
  all_goals first
    | exact refusesType_invalidTypeForResponse _
    | exact refusesType_fail (hasPrefix_append_of_hasPrefix (by decide) _)
    | exact refusesType_fail
        (hasPrefix_append_of_hasPrefix (hasPrefix_append_of_hasPrefix (by decide) _) _)
    | (dsimp only at *; tauto)

/-! ## Live ids -/

/-- Every live subscription's id satisfies `P`. -/
def LiveIDs (P : String → Prop) (w : ProxyState) : Prop :=
  ∀ c id, (c, id) ∈ w.subs.live → P id

namespace LiveIDs

variable {P : String → Prop} {w w' : ProxyState}

theorem of_live (h : LiveIDs P w)
    (hlive : ∀ c id, (c, id) ∈ w'.subs.live → (c, id) ∈ w.subs.live) : LiveIDs P w' :=
  fun c id hc => h c id (hlive c id hc)

theorem subscribe (h : LiveIDs P w) {id : String} (hid : P id) (snap : ConfigSnapshot) :
    LiveIDs P ⟨snap, w.subs.subscribe id⟩ := by
  intro c id' hc
  rcases List.mem_cons.1 hc with hc | hc
  · exact (Prod.mk.inj hc).2 ▸ hid
  · exact h c id' hc

/-- A context spent on a refused `Notify`. -/
theorem spend (h : LiveIDs P w) (snap : ConfigSnapshot) :
    LiveIDs P ⟨snap, w.subs.skip.cancel w.subs.nextContext⟩ :=
  h.of_live fun _ _ hc => (List.mem_filter.1 hc).1

theorem of_cancelAll (h : LiveIDs P w) (fs : List CancelFunc) :
    LiveIDs P (finalState (cancelAll fs w)) :=
  h.of_live fun c id hc => ((mem_live_cancelAll fs w c id).1 hc).1

theorem preserves_of_keepsSubs {x : HandlerM α} (hx : Keeps ProxyState.subs x) :
    Preserves (LiveIDs P) x :=
  fun w h => h.of_live fun _ _ hc => hx w ▸ hc

theorem preserves_cancelAll (fs : List CancelFunc) : Preserves (LiveIDs P) (cancelAll fs) :=
  fun _ h => h.of_cancelAll fs

theorem preserves_notifyRoot (c : CacheNotifier) {id : String} (hid : P id) :
    Preserves (LiveIDs P) (notifyRoot c id) := by
  intro w h
  unfold notifyRoot
  split
  · intro c' id' hc
    rcases List.mem_cons.1 hc with hc | hc
    · exact (Prod.mk.inj hc).2 ▸ hid
    · exact h c' id' hc
  · exact h

theorem preserves_watchRootOrFail (c : CacheNotifier) {id : String} (hid : P id) :
    Preserves (LiveIDs P) (watchRootOrFail c id) :=
  (preserves_notifyRoot c hid).bind fun r => by
    cases r <;> exact fun _ h => h

/-- The steps of `handleUpdateUpstreams` open target and gateway watches only. -/
theorem upstreamsClosed (htarget : ∀ k u, P (upstreamTargetID k u))
    (hgateway : ∀ dc u, P (meshGatewayUpstreamID dc u)) :
    handlerUpstreams.UpstreamsClosed (LiveIDs P) where
  write _ _ h := h
  target w k u h := h.subscribe (htarget k u) w.snap
  gateway w dc u h := h.subscribe (hgateway dc u) w.snap
  skip _ h := h
  cancelled _ _ h := h.of_live fun _ _ hc => (List.mem_filter.1 hc).1

/-- `watchDiscoveryChain` opens a chain watch, or none. -/
theorem preserves_watchDiscoveryChain (hchain : ∀ id, P (discoveryChainID id)) (s : HandlerState)
    (id : String) : Preserves (LiveIDs P) (handlerUpstreams.watchDiscoveryChain s id) := by
  refine Preserves.bind (x := getSnap) (fun _ h => h) fun _ =>
    Preserves.ite (fun _ _ h => h) fun _ => ?_
  refine Preserves.bind (fun w h => ?_) fun (f, err) => ?_
  · unfold notifyWithCancel
    split
    exacts [h.subscribe (hchain id) w.snap, h]
  · cases err with
    | some e => exact fun w h => h.of_live fun _ _ hc => (List.mem_filter.1 hc).1
    | none =>
        dsimp only
        split
        · exact fun _ h => h
        · exact fun _ h => h
        · exact fun w h => h.of_live fun _ _ hc => (List.mem_filter.1 hc).1

end LiveIDs

/-! ## The terminating gateway -/

namespace handlerTerminatingGateway

theorem liveIDs_watchService (s : HandlerState) (v : ServiceWatch) (svc : ServiceName) :
    Preserves (LiveIDs KindHandler.terminatingGateway.HasCase) (watchService s v svc) := by
  intro w h
  rw [finalState_watchService]
  split_ifs
  · exact h
  · split
    · exact h.subscribe (KindHandler.hasCase_append (by cases v <;> decide) _) _
    · exact h.spend _

theorem liveIDs_watchLinkedServices (s : HandlerState) (services : List GatewayService) :
    Preserves (LiveIDs KindHandler.terminatingGateway.HasCase) (watchLinkedServices s services) := by
  induction services with
  | nil => exact fun _ h => h
  | cons gs rest ih =>
      refine Preserves.bind ?_ fun _ => ih
      exact Preserves.bind (fun _ h => h) fun _ =>
        (liveIDs_watchService s _ _).bind fun _ => (liveIDs_watchService s _ _).bind fun _ =>
        (liveIDs_watchService s _ _).bind fun _ => (liveIDs_watchService s _ _).bind fun _ =>
        liveIDs_watchService s _ _

theorem liveIDs_cancelUnlistedAll (listed : ServiceName → Bool) (ws : List ServiceWatch) :
    Preserves (LiveIDs KindHandler.terminatingGateway.HasCase) (cancelUnlistedAll listed ws) := by
  induction ws with
  | nil => exact fun _ h => h
  | cons v ws ih =>
      refine Preserves.bind (fun w h => ?_) fun _ => ih
      rw [finalState_cancelUnlisted]
      refine LiveIDs.of_cancelAll ?_ _
      exact h

theorem liveIDs_handleUpdate (s : HandlerState) (u : UpdateEvent) :
    Preserves (LiveIDs KindHandler.terminatingGateway.HasCase) (handleUpdate s u) := by
  by_cases hgs : u.correlationID = gatewayServicesWatchID
  · unfold handleUpdate
    split
    · exact fun _ h => h
    · rw [if_neg (hgs ▸ by decide), if_pos hgs]
      unfold handleGatewayServices
      split
      · exact (liveIDs_watchLinkedServices s _).bind fun _ =>
          Preserves.bind (fun _ h => h) fun _ => liveIDs_cancelUnlistedAll _ _
      · exact fun _ h => h
  · exact LiveIDs.preserves_of_keepsSubs (keepsSubs_handleUpdate u hgs)

theorem liveIDs_initWatches (s : HandlerState) :
    Preserves (LiveIDs KindHandler.terminatingGateway.HasCase) (initWatches s) :=
  (LiveIDs.preserves_watchRootOrFail _ (.inl (by decide))).bind fun _ =>
    LiveIDs.preserves_watchRootOrFail _ (.inl (by decide))

end handlerTerminatingGateway

/-! ## The mesh gateway -/

namespace handlerMeshGateway

theorem liveIDs_watchConnectServices (s : HandlerState) (services : List ServiceName) :
    Preserves (LiveIDs KindHandler.meshGateway.HasCase) (watchConnectServices s services) := by
  induction services with
  | nil => exact fun _ h => h
  | cons svc rest ih =>
      refine Preserves.bind (fun w h => ?_) fun _ => ih
      rw [finalState_watchConnectService]
      split_ifs
      · exact h
      · split
        · exact h.subscribe (KindHandler.hasCase_append (by decide) _) _
        · exact h.spend _

theorem liveIDs_watchDatacenters (s : HandlerState) (dcs : List String) :
    Preserves (LiveIDs KindHandler.meshGateway.HasCase) (watchDatacenters s dcs) := by
  induction dcs with
  | nil => exact fun _ h => h
  | cons dc rest ih =>
      refine Preserves.bind (fun w h => ?_) fun _ => ih
      rw [finalState_watchDatacenter]
      split_ifs
      · split
        · exact h.subscribe (KindHandler.hasCase_append (by decide) _) _
        · exact h.spend _
      · exact h

theorem liveIDs_handleUpdate (s : HandlerState) (u : UpdateEvent) :
    Preserves (LiveIDs KindHandler.meshGateway.HasCase) (handleUpdate s u) := by
  by_cases h₁ : u.correlationID = serviceListWatchID
  · unfold handleUpdate
    split
    · exact fun _ h => h
    · rw [if_neg (h₁ ▸ by decide), if_neg (h₁ ▸ by decide), if_pos h₁]
      unfold handleServiceList
      split
      · refine (liveIDs_watchConnectServices s _).bind fun _ =>
          Preserves.bind (fun w h => ?_) fun _ _ h => h
        rw [finalState_cancelUnlistedServices]
        refine LiveIDs.of_cancelAll ?_ _
        exact h
      · exact fun _ h => h
  by_cases h₂ : u.correlationID = datacentersWatchID
  · unfold handleUpdate
    split
    · exact fun _ h => h
    · rw [if_neg (h₂ ▸ by decide), if_neg (h₂ ▸ by decide), if_neg (h₂ ▸ by decide), if_pos h₂]
      unfold handleDatacenters
      split
      · exact fun _ h => h
      · refine (liveIDs_watchDatacenters s _).bind fun _ w h => ?_
        rw [finalState_cancelUnlistedDatacenters]
        refine LiveIDs.of_cancelAll ?_ _
        exact h
      · exact fun _ h => h
  exact LiveIDs.preserves_of_keepsSubs (keepsSubs_handleUpdate u h₁ h₂)

theorem liveIDs_initWatches (s : HandlerState) :
    Preserves (LiveIDs KindHandler.meshGateway.HasCase) (initWatches s) := by
  have hroot (c : CacheNotifier) {id : String} (hid : id ∈ KindHandler.meshGateway.caseIDs.1) :=
    LiveIDs.preserves_watchRootOrFail c (P := KindHandler.meshGateway.HasCase) (.inl hid)
  unfold initWatches
  refine (hroot _ (by decide)).bind fun _ => (hroot _ (by decide)).bind fun _ => Preserves.ite
    (fun _ => (hroot _ (by decide)).bind fun _ => (hroot _ (by decide)).bind fun _ => ?_)
    (fun _ => Preserves.bind (fun _ h => h) fun _ => ?_)
  -- the datacenters and resolvers watches, after either branch of the federation test
  all_goals exact (hroot _ (by decide)).bind fun _ => hroot _ (by decide)

end handlerMeshGateway

/-! ## The two kinds with upstreams -/

section Upstreams

variable {h : KindHandler} (hh : h = .connectProxy ∨ h = .ingressGateway)
include hh

theorem upstreamsClosed_hasCase : handlerUpstreams.UpstreamsClosed (LiveIDs h.HasCase) :=
  LiveIDs.upstreamsClosed
    (fun k u => KindHandler.hasCase_of_upstreamsPrefix hh (by decide) (hasPrefix_upstreamTargetID k u))
    fun dc u =>
      KindHandler.hasCase_of_upstreamsPrefix hh (by decide) (hasPrefix_meshGatewayUpstreamID dc u)

theorem liveIDs_watchDiscoveryChain (s : HandlerState) (id : String) :
    Preserves (LiveIDs h.HasCase) (handlerUpstreams.watchDiscoveryChain s id) :=
  LiveIDs.preserves_watchDiscoveryChain
    (fun id => KindHandler.hasCase_of_upstreamsPrefix hh (by decide) (hasPrefix_discoveryChainID id))
    s id

end Upstreams

namespace handlerConnectProxy

/-- A prepared-query upstream's id is `prepared_query:` followed by its name. -/
theorem hasPrefix_upstream_identifier {u : Upstream}
    (hu : u.destinationType = upstreamDestTypePreparedQuery) :
    hasPrefix ("upstream:" ++ u.identifier) ("upstream:" ++ preparedQueryIDPrefix) = true := by
  have hne : ¬ (u.destinationType = "" ∨ u.destinationType = upstreamDestTypeService) := by
    rw [hu]
    decide
  simp only [Upstream.identifier, if_neg hne, hu, preparedQueryIDPrefix, String.append_assoc]
  exact hasPrefix_append_of_hasPrefix (hasPrefix_append _ _) _

theorem liveIDs_initWatches (s : HandlerState) :
    Preserves (LiveIDs KindHandler.connectProxy.HasCase) (initWatches s) := by
  have hroot (c : CacheNotifier) {id : String} (hid : id ∈ KindHandler.connectProxy.caseIDs.1) :=
    LiveIDs.preserves_watchRootOrFail c (P := KindHandler.connectProxy.HasCase) (.inl hid)
  have hups : ∀ us, Preserves (LiveIDs KindHandler.connectProxy.HasCase) (initUpstreams s us) := by
    intro us
    induction us with
    | nil => exact fun _ h => h
    | cons u rest ih =>
        refine Preserves.bind ?_ fun _ => ih
        refine Preserves.ite (fun _ _ h => h) fun _ => Preserves.ite (fun _ _ h => h) fun _ =>
          Preserves.bind (fun _ h => h) fun _ => ?_
        dsimp only
        refine Preserves.ite (fun _ _ h => h) fun _ => Preserves.ite (fun hpq => ?_) fun _ =>
          Preserves.ite (fun _ => ?_) fun _ _ h => h
        · have hid := hasPrefix_upstream_identifier hpq
          exact LiveIDs.preserves_watchRootOrFail _ (KindHandler.hasCase_of_hasPrefix (by decide) hid)
        · refine (LiveIDs.preserves_notifyRoot _ (KindHandler.hasCase_of_upstreamsPrefix (.inl rfl)
            (by decide) (hasPrefix_discoveryChainID u.identifier))).bind fun r => ?_
          cases r <;> exact fun _ h => h
  refine Preserves.bind (fun _ h => h) fun _ => (hroot _ (by decide)).bind fun _ =>
    (hroot _ (by decide)).bind fun _ => (hroot _ (by decide)).bind fun _ =>
    (LiveIDs.preserves_watchRootOrFail _ (KindHandler.hasCase_append (by decide) _)).bind
    fun _ => ?_
  exact Preserves.ite (fun _ => (hroot _ (by decide)).bind fun _ =>
    (hroot _ (by decide)).bind fun _ => hups _) fun _ => Preserves.bind (fun _ h => h) fun _ =>
    hups _

theorem keepsSubs_adoptWildcardDefaults (svc : ServiceName) :
    Keeps ProxyState.subs (adoptWildcardDefaults svc) := by
  refine (keeps_getSnap _).bind fun _ => ?_
  dsimp only
  split
  · split <;> exact fun _ => rfl
  · exact fun _ => rfl

theorem liveIDs_handleIntentionUpstreams (s : HandlerState) (r : Result) :
    Preserves (LiveIDs KindHandler.connectProxy.HasCase) (handleIntentionUpstreams s r) := by
  cases r with
  | indexedServiceList services =>
      refine Preserves.bind ?_ fun _ => Preserves.bind (x := getSnap) (fun _ h => h) fun _ =>
        Preserves.bind (fun _ h => h) fun _ => LiveIDs.preserves_cancelAll _
      induction services with
      | nil => exact fun _ h => h
      | cons svc rest ih =>
          refine Preserves.bind ?_ fun _ => ih
          refine Preserves.bind (LiveIDs.preserves_of_keepsSubs (keepsSubs_adoptWildcardDefaults svc))
            fun _ => (liveIDs_watchDiscoveryChain (.inl rfl) s _).bind fun err => ?_
          cases err <;> exact fun _ h => h
  | _ => exact fun _ h => h

theorem liveIDs_handleUpdate (s : HandlerState) (u : UpdateEvent) :
    Preserves (LiveIDs KindHandler.connectProxy.HasCase) (handleUpdate s u) := by
  unfold handleUpdate
  split
  · exact fun _ h => h
  · refine Preserves.ite (fun _ => LiveIDs.preserves_of_keepsSubs
      (handlerUpstreams.keepsSubs_handleRoots _)) fun _ =>
      Preserves.ite (fun _ => LiveIDs.preserves_of_keepsSubs (keepsSubs_handleIntentions _))
      fun _ => Preserves.ite (fun _ => liveIDs_handleIntentionUpstreams s _) fun _ =>
      Preserves.ite (fun _ => LiveIDs.preserves_of_keepsSubs (keepsSubs_handlePreparedQuery _ _))
      fun _ => Preserves.ite (fun _ => LiveIDs.preserves_of_keepsSubs
        (keepsSubs_handleServiceChecks _ _)) fun _ =>
      Preserves.ite (fun _ => LiveIDs.preserves_of_keepsSubs (keepsSubs_handleMeshConfig _))
      fun _ => (upstreamsClosed_hasCase (.inl rfl)).preserves_handleUpdateUpstreams s u

end handlerConnectProxy

namespace handlerIngressGateway

theorem liveIDs_watchIngressLeafCert (s : HandlerState) :
    Preserves (LiveIDs KindHandler.ingressGateway.HasCase) (watchIngressLeafCert s) := by
  refine Preserves.bind (x := getSnap) (fun _ h => h) fun _ => ?_
  dsimp only
  split
  · refine (LiveIDs.preserves_cancelAll _).bind fun _ => Preserves.bind (fun w h => ?_)
      fun (f, err) => ?_
    · unfold notifyWithCancel
      split
      exacts [h.subscribe (.inl (by decide)) w.snap, h]
    · cases err with
      | some e => exact fun w h => h.of_live fun _ _ hc => (List.mem_filter.1 hc).1
      | none => exact fun _ h => h
  · exact fun _ h => h

theorem liveIDs_watchGatewayUpstreams (s : HandlerState) (services : List GatewayService) :
    Preserves (LiveIDs KindHandler.ingressGateway.HasCase) (watchGatewayUpstreams s services) := by
  induction services with
  | nil => exact fun _ h => h
  | cons service rest ih =>
      refine Preserves.bind ?_ fun _ => ih
      refine (liveIDs_watchDiscoveryChain (.inr rfl) s _).bind fun err => ?_
      cases err <;> exact fun _ h => h

theorem liveIDs_handleUpdate (s : HandlerState) (u : UpdateEvent) :
    Preserves (LiveIDs KindHandler.ingressGateway.HasCase) (handleUpdate s u) := by
  unfold handleUpdate
  split
  · exact fun _ h => h
  · refine Preserves.ite (fun _ => LiveIDs.preserves_of_keepsSubs
      (handlerUpstreams.keepsSubs_handleRoots _)) fun _ =>
      Preserves.ite (fun _ => ?_) fun _ => Preserves.ite (fun _ => ?_) fun _ =>
      (upstreamsClosed_hasCase (.inr rfl)).preserves_handleUpdateUpstreams s u
    · unfold handleGatewayConfig
      split
      · exact Preserves.bind (fun _ h => h) fun _ => liveIDs_watchIngressLeafCert s
      · exact fun _ h => h
      · exact fun _ h => h
    · unfold handleGatewayServices
      split
      · refine Preserves.bind ?_ fun _ => Preserves.bind (fun _ h => h) fun _ =>
          Preserves.bind (x := getSnap) (fun _ h => h) fun _ =>
          Preserves.bind (fun _ h => h) fun _ => (LiveIDs.preserves_cancelAll _).bind fun _ =>
          liveIDs_watchIngressLeafCert s
        exact liveIDs_watchGatewayUpstreams s _
      · exact fun _ h => h

theorem liveIDs_initWatches (s : HandlerState) :
    Preserves (LiveIDs KindHandler.ingressGateway.HasCase) (initWatches s) :=
  (LiveIDs.preserves_watchRootOrFail _ (.inl (by decide))).bind fun _ =>
    (LiveIDs.preserves_watchRootOrFail _ (.inl (by decide))).bind fun _ =>
    LiveIDs.preserves_watchRootOrFail _ (.inl (by decide))

end handlerIngressGateway

/-! ## Over every run -/

theorem KindHandler.liveIDs_initWatches (h : KindHandler) (s : HandlerState) :
    Preserves (LiveIDs h.HasCase) (h.initWatches s) := by
  cases h
  exacts [handlerConnectProxy.liveIDs_initWatches s, handlerTerminatingGateway.liveIDs_initWatches s,
    handlerMeshGateway.liveIDs_initWatches s, handlerIngressGateway.liveIDs_initWatches s]

theorem KindHandler.liveIDs_handleUpdate (h : KindHandler) (s : HandlerState) (u : UpdateEvent) :
    Preserves (LiveIDs h.HasCase) (h.handleUpdate s u) := by
  cases h
  exacts [handlerConnectProxy.liveIDs_handleUpdate s u,
    handlerTerminatingGateway.liveIDs_handleUpdate s u, handlerMeshGateway.liveIDs_handleUpdate s u,
    handlerIngressGateway.liveIDs_handleUpdate s u]

theorem liveIDs_of_reachable {p : ProxyHandler} {w : ProxyState} (hw : Reachable p w) :
    LiveIDs p.handler.HasCase w :=
  Reachable.induction_of_preserves (fun _ _ hc => absurd hc (List.not_mem_nil _))
    (p.handler.liveIDs_initWatches _) (fun u => p.handler.liveIDs_handleUpdate _ u) hw

/-- Whatever its collaborators answer and in whatever order deliveries come, every subscription
a proxy holds is one its handler has a case for: a delivery of an unexpected type on it is refused
by that case's type check, with the state left as it was, and is never dropped by a gateway's
default case nor reported as an unknown correlation ID. -/
theorem live_subscriptions_have_cases {p : ProxyHandler} {w : ProxyState} (hw : Reachable p w)
    {c : Nat} {id : String} (hc : (c, id) ∈ w.subs.live) (t : String) (w' : ProxyState) :
    ∃ msg, p.handler.handleUpdate p.handlerState ⟨id, .other t, none⟩ w' =
        .error (.error msg) w' ∧ hasPrefix msg "invalid type for" = true :=
  KindHandler.typeChecks_of_hasCase p.handlerState (liveIDs_of_reachable hw c id hc) t w'

theorem tgw_linked_db_watches_have_cases :
    Reachable tgwProxy tgwLinkedDb ∧
      (1, externalServiceIDPrefix ++ "db") ∈ tgwLinkedDb.subs.live ∧
      ∃ msg, tgwProxy.handler.handleUpdate tgwProxy.handlerState
          ⟨externalServiceIDPrefix ++ "db", .other "*structs.Unexpected", none⟩ tgwLinkedDb =
        .error (.error msg) tgwLinkedDb ∧ hasPrefix msg "invalid type for" = true :=
  ⟨reachable_tgwLinkedDb, by decide, live_subscriptions_have_cases reachable_tgwLinkedDb
    (by decide : (1, externalServiceIDPrefix ++ "db") ∈ tgwLinkedDb.subs.live) _ _⟩

end ConsulAgent
