/-
A handler that returns a Go error, which the run loop logs before going on from whatever the
handler wrote: where each error of the four handlers comes relative to their writes.
-/
import ConsulAgent.Routing
import ConsulAgent.Deliveries

namespace ConsulAgent

open HandlerM

/-- A proxy's handler serves the proxy's kind. -/
theorem ProxyHandler.kind_eq (p : ProxyHandler) : p.handlerState.kind = p.handler.kind :=
  kind_of_kindHandlerOf p.picked

/-- With accepting collaborators, a Go error from a proxy's handler leaves the state as it was,
unless the delivery is a discovery-chain reply with a nil chain. -/
theorem ProxyHandler.clean_handleUpdate (p : ProxyHandler) (hs : p.handlerState.Accepts)
    (u : UpdateEvent) (hnil : ¬ (hasPrefix u.correlationID "discovery-chain:" = true ∧
      u.result = .discoveryChainResponse none)) :
    Clean (p.handler.handleUpdate p.handlerState u) := by
  have hk := p.kind_eq
  cases hh : p.handler <;> rw [hh] at hk
  · exact handlerConnectProxy.clean_handleUpdate hs hk u hnil
  · exact handlerTerminatingGateway.clean_handleUpdate hs u
  · exact handlerMeshGateway.clean_handleUpdate hs u
  · exact handlerIngressGateway.clean_handleUpdate hs hk u hnil

/-- A nil chain for an upstream with no chain yet: the handler stores it, then returns its
error, so the state the loop goes on from has changed. -/
theorem nil_chain_error_keeps_write (p : ProxyHandler)
    (hp : p.handler = .connectProxy ∨ p.handler = .ingressGateway) (w : ProxyState) {svc : String}
    (hfresh : svc ∉ w.snap.upstreamsOf.discoveryChain) :
    ∃ msg w', p.handler.handleUpdate p.handlerState
        ⟨discoveryChainID svc, .discoveryChainResponse none, none⟩ w = .error (.error msg) w' ∧
      w' ≠ w ∧ w'.snap.upstreamsOf.discoveryChain.lookup svc = some none := by
  have hlook : (w.snap.upstreamsOf.discoveryChain.insert svc none).lookup svc = some none :=
    AList.lookup_insert _
  refine ⟨"not possible to arrive here with no discovery chain",
    ⟨w.snap.modifyUpstreams fun us => { us with discoveryChain := us.discoveryChain.insert svc none },
      w.subs⟩, ?_, fun h => hfresh ?_, by simp⟩
  · rw [KindHandler.handleUpdate_discoveryChainID hp, handlerUpstreams.handleDiscoveryChain,
      bind_ok (modifyUpstreams_apply _ w)]
    rfl
  · have hsame := congrArg (fun w : ProxyState => w.snap.upstreamsOf.discoveryChain.lookup svc) h
    simp only [ConfigSnapshot.upstreamsOf_modifyUpstreams, hlook] at hsame
    exact AList.lookup_isSome.1 (by rw [← hsame]; rfl)

theorem ingress_nil_chain_error_keeps_write :
    Reachable ingressProxy ingressLinkedApi ∧
      "api" ∉ ingressLinkedApi.snap.upstreamsOf.discoveryChain ∧
      ∃ msg w', ingressProxy.handler.handleUpdate ingressProxy.handlerState
          ⟨discoveryChainID "api", .discoveryChainResponse none, none⟩ ingressLinkedApi =
            .error (.error msg) w' ∧
        w' ≠ ingressLinkedApi ∧ w'.snap.upstreamsOf.discoveryChain.lookup "api" = some none :=
  ⟨reachable_ingressLinkedApi, by decide,
    nil_chain_error_keeps_write ingressProxy (.inr rfl) ingressLinkedApi (by decide)⟩

open handlerTerminatingGateway in
/-- A gateway-services delivery whose first service gets its instance watch refused: the
service's mapping is stored and the refused context is spent when the error is returned. -/
theorem refused_watch_keeps_mapping (p : ProxyHandler) (hp : p.handler = .terminatingGateway)
    (w : ProxyState) (gs : GatewayService) (rest : List GatewayService) {e : String}
    (hnew : gs.service ∉ w.snap.terminatingGateway.watchedServices)
    (hrefused : p.handlerState.health.notify w.subs.nextContext
      (externalServiceIDPrefix ++ gs.service.toString) = some e) :
    p.handler.handleUpdate p.handlerState
        ⟨gatewayServicesWatchID, .indexedGatewayServices (gs :: rest), none⟩ w =
      .error (.error e) ⟨{ w.snap with terminatingGateway := { w.snap.terminatingGateway with
          gatewayServices := w.snap.terminatingGateway.gatewayServices.insert gs.service gs } },
        w.subs.skip.cancel w.subs.nextContext⟩ := by
  rw [hp, KindHandler.handleUpdate, handleUpdate_gatewayServices, handleGatewayServices,
    watchLinkedServices, watchLinkedService]
  simp only [bind, EStateM.bind, modifyTerminatingGateway_apply, watchService, getSnap_apply,
    ServiceWatch.watched, ServiceWatch.notifier, ServiceWatch.idPrefix, notifyWithCancel, hrefused,
    hnew, cancel, fail, not_false_eq_true, ite_true]

/-- The terminating gateway of `tgwProxy`, whose health collaborator refuses the instance watch
of `db`. -/
def tgwRefusingDb : ProxyHandler :=
  ⟨{ acceptingHandlerState .terminatingGateway ⟨"tgw", "tgw", .default, []⟩ with
      health := ⟨fun _ id => if id = externalServiceIDPrefix ++ "db" then some "refused" else none⟩ },
    .terminatingGateway, rfl⟩

example : Reachable tgwRefusingDb tgwWatching ∧
    tgwRefusingDb.handler.handleUpdate tgwRefusingDb.handlerState (linkServices ["db"])
      tgwWatching =
      .error (.error "refused") ⟨{ tgwWatching.snap with terminatingGateway :=
          { gatewayServices :=
              (∅ : GoMap ServiceName _).insert ⟨"db"⟩ ⟨⟨"db"⟩, 8080, "tcp", []⟩ } },
        ⟨2, tgwWatching.subs.live⟩⟩ :=
  ⟨@reachable_of_run tgwRefusingDb [] tgwWatching (by decide),
    refused_watch_keeps_mapping tgwRefusingDb rfl tgwWatching _ [] (by decide) (by decide)⟩

end ConsulAgent
