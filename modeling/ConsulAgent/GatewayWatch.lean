/-
What `Watch` opens for a gateway: the whole table of root watches of its `initialize`, or the
error of the first refused `Notify`.
-/
import ConsulAgent.Initialize

namespace ConsulAgent

open HandlerM

/-- Root watches opened one after another, each with the collaborator it asks; the first refused
one ends the sequence with its error. -/
def watchRootsOrFail : List (CacheNotifier × String) → HandlerM Unit
  | [] => pure ()
  | (c, id) :: rest => do
      watchRootOrFail c id
      watchRootsOrFail rest

/-- The root watches a gateway's `initialize` opens, read off its code in order, with the
collaborator each asks.  A connect proxy's are `rootWatchIDs` followed by its upstreams'. -/
def gatewayRootWatches (s : HandlerState) : KindHandler → List (CacheNotifier × String)
  | .connectProxy => []
  | .terminatingGateway => [(s.cache, rootsWatchID), (s.cache, gatewayServicesWatchID)]
  | .meshGateway =>
      [(s.cache, rootsWatchID), (s.cache, serviceListWatchID)] ++
        (if s.meta.lookup metaWANFederationKey = some "1" then
          [(s.cache, federationStateListGatewaysWatchID), (s.health, consulServerListWatchID)]
        else []) ++
        [(s.cache, datacentersWatchID), (s.cache, serviceResolversWatchID)]
  | .ingressGateway =>
      [(s.cache, rootsWatchID), (s.cache, gatewayConfigWatchID), (s.cache, gatewayServicesWatchID)]

/-- The live subscriptions a list of accepted root watches adds, the last one first. -/
def rootSubscriptions (l : List (CacheNotifier × String)) : List (Nat × String) :=
  (l.map fun x => (0, x.2)).reverse

@[simp] theorem rootSubscriptions_nil : rootSubscriptions [] = [] := rfl

@[simp] theorem rootSubscriptions_cons (c : CacheNotifier) (id : String)
    (l : List (CacheNotifier × String)) :
    rootSubscriptions ((c, id) :: l) = rootSubscriptions l ++ [(0, id)] := by
  simp [rootSubscriptions]

/-- Every `Notify` of the list succeeds. -/
def RootWatchesAccepted (l : List (CacheNotifier × String)) : Prop :=
  ∀ x ∈ l, x.1.notify 0 x.2 = none

instance : DecidablePred RootWatchesAccepted :=
  fun l => inferInstanceAs (Decidable (∀ x ∈ l, x.1.notify 0 x.2 = none))

theorem watchRootOrFail_accepted {c : CacheNotifier} {id : String} (h : c.notify 0 id = none)
    (w : ProxyState) : watchRootOrFail c id w = .ok () (w.withRootWatch id) := by
  simp [watchRootOrFail, notifyRoot, h, bind, EStateM.bind, pure, EStateM.pure,
    ProxyState.withRootWatch]

theorem watchRootOrFail_refused {c : CacheNotifier} {id e : String} (h : c.notify 0 id = some e)
    (w : ProxyState) : watchRootOrFail c id w = .error (.error e) w := by
  simp [watchRootOrFail, notifyRoot, h, bind, EStateM.bind, fail]

/-- An accepted list adds its subscriptions to the root context and nothing else. -/
theorem watchRootsOrFail_accepted {l : List (CacheNotifier × String)} (h : RootWatchesAccepted l)
    (w : ProxyState) :
    watchRootsOrFail l w =
      .ok () { w with subs := { w.subs with live := rootSubscriptions l ++ w.subs.live } } := by
  induction l generalizing w with
  | nil => rfl
  | cons x rest ih =>
      obtain ⟨c, id⟩ := x
      have hx : c.notify 0 id = none := h _ (List.mem_cons_self _ _)
      rw [watchRootsOrFail, bind_ok (watchRootOrFail_accepted hx w),
        ih (fun y hy => h y (List.mem_cons_of_mem _ hy))]
      simp [ProxyState.withRootWatch]

/-- A list stops at its first refused `Notify`, with that call's error. -/
theorem watchRootsOrFail_refused {pre : List (CacheNotifier × String)}
    (hpre : RootWatchesAccepted pre) {c : CacheNotifier} {id e : String}
    (hc : c.notify 0 id = some e) (post : List (CacheNotifier × String)) (w : ProxyState) :
    watchRootsOrFail (pre ++ (c, id) :: post) w =
      .error (.error e)
        { w with subs := { w.subs with live := rootSubscriptions pre ++ w.subs.live } } := by
  induction pre generalizing w with
  | nil =>
      rw [List.nil_append, watchRootsOrFail, bind_error (watchRootOrFail_refused hc w)]
      rfl
  | cons x rest ih =>
      obtain ⟨c', id'⟩ := x
      have hx : c'.notify 0 id' = none := hpre _ (List.mem_cons_self _ _)
      rw [List.cons_append, watchRootsOrFail, bind_ok (watchRootOrFail_accepted hx w),
        ih (fun y hy => hpre y (List.mem_cons_of_mem _ hy))]
      simp [ProxyState.withRootWatch]

/-- A gateway's `initialize` is its table of root watches. -/
theorem initWatches_eq_watchRootsOrFail {h : KindHandler} (hp : h ≠ .connectProxy)
    (s : HandlerState) : h.initWatches s = watchRootsOrFail (gatewayRootWatches s h) := by
  cases h with
  | connectProxy => exact absurd rfl hp
  | terminatingGateway =>
      simp only [KindHandler.initWatches, handlerTerminatingGateway.initWatches, watchRootsOrFail,
        bind_pure_comp, id_map']
  | meshGateway =>
      by_cases hfed : s.meta.lookup metaWANFederationKey = some "1" <;>
        simp only [KindHandler.initWatches, handlerMeshGateway.initWatches, hfed, ↓reduceIte,
          pure_bind, watchRootsOrFail, List.append_eq, List.append_nil, List.nil_append,
          List.cons_append, List.singleton_append, bind_pure_comp, id_map']
  | ingressGateway =>
      simp only [KindHandler.initWatches, handlerIngressGateway.initWatches, watchRootsOrFail,
        bind_pure_comp, id_map']

/-- Whatever its collaborators answer, `Watch` on a terminating, mesh or ingress gateway either
opens every root watch of its table, in order, and returns the service instance's snapshot with
exactly those subscriptions, or returns the error of the first refused `Notify`. -/
theorem gateway_watch_opens_root_watches {p : ProxyHandler} (hp : p.handler ≠ .connectProxy) :
    (RootWatchesAccepted (gatewayRootWatches p.handlerState p.handler) →
      p.watch = .ok ⟨newConfigSnapshotFromServiceInstance p.handlerState,
        ⟨1, rootSubscriptions (gatewayRootWatches p.handlerState p.handler)⟩⟩) ∧
    ∀ pre c id post e, gatewayRootWatches p.handlerState p.handler = pre ++ (c, id) :: post →
      RootWatchesAccepted pre → c.notify 0 id = some e → p.watch = .error (.error e) := by
  refine ⟨fun h => ?_, fun pre c id post e htable hpre hc => ?_⟩
  · rw [ProxyHandler.watch, initWatches_eq_watchRootsOrFail hp, watchRootsOrFail_accepted h,
      List.append_nil]
  · rw [ProxyHandler.watch, initWatches_eq_watchRootsOrFail hp, htable,
      watchRootsOrFail_refused hpre hc]

/-- A WAN-federated mesh gateway whose health collaborator refuses every watch. -/
def federatedMeshProxy : ProxyHandler where
  handlerState :=
    { acceptingHandlerState .meshGateway ⟨"mgw", "mgw", .default, []⟩ with
      health := ⟨fun _ _ => some "health unavailable"⟩
      meta := (∅ : GoMap String String).insert metaWANFederationKey "1" }
  handler := .meshGateway
  picked := kindHandlerOf_kind .meshGateway

example : federatedMeshProxy.watch = .error (.error "health unavailable") :=
  (gateway_watch_opens_root_watches (p := federatedMeshProxy) (by decide)).2
    [(federatedMeshProxy.handlerState.cache, rootsWatchID),
      (federatedMeshProxy.handlerState.cache, serviceListWatchID),
      (federatedMeshProxy.handlerState.cache, federationStateListGatewaysWatchID)]
    _ consulServerListWatchID
    [(federatedMeshProxy.handlerState.cache, datacentersWatchID),
      (federatedMeshProxy.handlerState.cache, serviceResolversWatchID)] _
    rfl (by decide) rfl

end ConsulAgent
