/-
`state`: the handler `newState` picks for a registration's kind, the snapshot `Watch` starts
from, and the proxy states the handlers can reach.
-/
import ConsulAgent.ConnectProxy
import ConsulAgent.MeshGateway
import ConsulAgent.IngressGateway

namespace ConsulAgent

/-- The four `kindHandler`s. -/
inductive KindHandler
  | connectProxy
  | terminatingGateway
  | meshGateway
  | ingressGateway
deriving DecidableEq, Repr

/-- The handler `newState` picks for a kind, or its error for any other kind. -/
def kindHandlerOf : ServiceKind → Except String KindHandler
  | .connectProxy => .ok .connectProxy
  | .terminatingGateway => .ok .terminatingGateway
  | .meshGateway => .ok .meshGateway
  | .ingressGateway => .ok .ingressGateway
  | .typical => .error "not a connect-proxy, terminating-gateway, mesh-gateway, or ingress-gateway"

namespace KindHandler

/-- `kindHandler.handleUpdate`. -/
def handleUpdate : KindHandler → HandlerState → UpdateEvent → HandlerM Unit
  | .connectProxy => handlerConnectProxy.handleUpdate
  | .terminatingGateway => handlerTerminatingGateway.handleUpdate
  | .meshGateway => handlerMeshGateway.handleUpdate
  | .ingressGateway => handlerIngressGateway.handleUpdate

/-- `kindHandler.initialize`. -/
def initWatches : KindHandler → HandlerState → HandlerM Unit
  | .connectProxy => handlerConnectProxy.initWatches
  | .terminatingGateway => handlerTerminatingGateway.initWatches
  | .meshGateway => handlerMeshGateway.initWatches
  | .ingressGateway => handlerIngressGateway.initWatches

/-- The kind a handler serves. -/
def kind : KindHandler → ServiceKind
  | .connectProxy => .connectProxy
  | .terminatingGateway => .terminatingGateway
  | .meshGateway => .meshGateway
  | .ingressGateway => .ingressGateway

end KindHandler

theorem kindHandlerOf_kind (h : KindHandler) : kindHandlerOf h.kind = .ok h := by
  cases h <;> rfl

/-- The handler picked for a kind serves that kind. -/
theorem kind_of_kindHandlerOf {k : ServiceKind} {h : KindHandler} (hk : kindHandlerOf k = .ok h) :
    k = h.kind := by
  cases k <;> cases hk <;> rfl

/-- `newConfigSnapshotFromServiceInstance`. -/
def newConfigSnapshotFromServiceInstance (s : HandlerState) : ConfigSnapshot :=
  { kind := s.kind, datacenter := s.sourceDatacenter, proxy := s.proxyCfg }

/-- A registration of `web` in datacenter `dc1` whose collaborators accept every subscription.
Its `parseIP` stands in for `net.ParseIP` on the examples' addresses, dotted quads and host names,
by taking a text of digits and dots for an IP; on other texts it is not `net.ParseIP`: `::1` is a
host name here and `1.2.3` an IP. -/
def acceptingHandlerState (kind : ServiceKind) (proxyCfg : ConnectProxyConfig) : HandlerState where
  sourceDatacenter := "dc1"
  dnsConfig := ⟨"consul", ""⟩
  cache := .accepting
  health := .accepting
  parseIP := fun addr => addr.all fun c => c.isDigit || c = '.'
  kind := kind
  service := "web"
  meta := ∅
  proxyCfg := proxyCfg

theorem acceptingHandlerState_accepts (kind : ServiceKind) (proxyCfg : ConnectProxyConfig) :
    (acceptingHandlerState kind proxyCfg).Accepts :=
  ⟨CacheNotifier.accepting_accepts, CacheNotifier.accepting_accepts⟩

/-- A proxy's state as `newState` builds it: its handler state and the handler it picked for
the kind, so that the kind is one of the four. -/
structure ProxyHandler where
  handlerState : HandlerState
  handler : KindHandler
  picked : kindHandlerOf handlerState.kind = .ok handler

namespace ProxyHandler

/-- The accepting registration of a handler's kind. -/
def accepting (h : KindHandler) (proxyCfg : ConnectProxyConfig) : ProxyHandler :=
  ⟨acceptingHandlerState h.kind proxyCfg, h, kindHandlerOf_kind h⟩

/-- `state.Watch` up to the start of the loop: the initial watches, run from the service
instance's snapshot with no subscription; an error ends `Watch`. -/
def watch (p : ProxyHandler) : Except HandlerError ProxyState :=
  match p.handler.initWatches p.handlerState
      ⟨newConfigSnapshotFromServiceInstance p.handlerState, {}⟩ with
  | .ok () w => .ok w
  | .error e _ => .error e

/-- One delivery taken by the loop: the state the handler leaves, whether it returned or
stopped with an error, and `none` when it faulted. -/
def deliver (p : ProxyHandler) (u : UpdateEvent) (w : ProxyState) : Option ProxyState :=
  match p.handler.handleUpdate p.handlerState u w with
  | .ok () w' => some w'
  | .error (.error _) w' => some w'
  | .error (.panic _) _ => none

/-- Deliveries taken one after another; `none` once one faults. -/
def deliverAll (p : ProxyHandler) : List UpdateEvent → ProxyState → Option ProxyState
  | [], w => some w
  | u :: rest, w => (p.deliver u w).bind (p.deliverAll rest)

/-- `Watch`, then the deliveries in order. -/
def run (p : ProxyHandler) (us : List UpdateEvent) : Option ProxyState :=
  match p.watch with
  | .ok w => p.deliverAll us w
  | .error _ => none

end ProxyHandler

/-- The proxy states reachable from `Watch` by deliveries in any order. -/
inductive Reachable (p : ProxyHandler) : ProxyState → Prop
  | watch {w : ProxyState} : p.watch = .ok w → Reachable p w
  | deliver {w w' : ProxyState} (u : UpdateEvent) :
      Reachable p w → p.deliver u w = some w' → Reachable p w'

theorem Reachable.deliverAll {p : ProxyHandler} {w w' : ProxyState} (hw : Reachable p w)
    {us : List UpdateEvent} (h : p.deliverAll us w = some w') : Reachable p w' := by
  induction us generalizing w with
  | nil => cases h; exact hw
  | cons u rest ih =>
      obtain ⟨w₁, h₁, hrest⟩ := Option.bind_eq_some.1 h
      exact ih (hw.deliver u h₁) hrest

open HandlerM in
/-- An invariant that holds of the snapshot `Watch` starts from and that the initial watches and
every delivery preserve holds in every reachable state. -/
theorem Reachable.induction_of_preserves {p : ProxyHandler} {I : ProxyState → Prop}
    (hstart : I ⟨newConfigSnapshotFromServiceInstance p.handlerState, {}⟩)
    (hinit : Preserves I (p.handler.initWatches p.handlerState))
    (hstep : ∀ u, Preserves I (p.handler.handleUpdate p.handlerState u))
    {w : ProxyState} (hw : Reachable p w) : I w := by
  induction hw with
  | watch h =>
      unfold ProxyHandler.watch at h
      split at h
      · next heq =>
          cases h
          simpa [finalState, heq] using hinit _ hstart
      · cases h
  | deliver u _ h ih =>
      have hI := hstep u _ ih
      unfold ProxyHandler.deliver at h
      split at h
      · next heq =>
          cases h
          simpa [finalState, heq] using hI
      · next heq =>
          cases h
          simpa [finalState, heq] using hI
      · cases h

/-- Every state a run ends in is reachable. -/
theorem reachable_of_run {p : ProxyHandler} {us : List UpdateEvent} {w : ProxyState}
    (h : p.run us = some w) : Reachable p w := by
  unfold ProxyHandler.run at h
  split at h
  · exact (Reachable.watch ‹_›).deliverAll h
  · cases h

/-- Deliveries from a reachable state that end in a state with property `P` exhibit a reachable
state with it; `P` is checked by evaluating the deliveries. -/
theorem Reachable.exists_of_deliverAll {p : ProxyHandler} {w : ProxyState} (hw : Reachable p w)
    (us : List UpdateEvent) {P : ProxyState → Prop} [DecidablePred P]
    (h : ((p.deliverAll us w).map fun w' => decide (P w')) = some true) :
    ∃ w', Reachable p w' ∧ P w' := by
  cases hrun : p.deliverAll us w with
  | none => simp [hrun] at h
  | some w' => exact ⟨w', hw.deliverAll hrun, by simpa [hrun] using h⟩

/-- A run on given deliveries that ends in a state with property `P` exhibits a reachable state
with it; `P` is checked by evaluating the run. -/
theorem exists_reachable_of_run {p : ProxyHandler} (us : List UpdateEvent) {P : ProxyState → Prop}
    [DecidablePred P] (h : ((p.run us).map fun w => decide (P w)) = some true) :
    ∃ w, Reachable p w ∧ P w := by
  cases hrun : p.run us with
  | none => simp [hrun] at h
  | some w => exact ⟨w, reachable_of_run hrun, by simpa [hrun] using h⟩

/-- The same for a run followed by one more delivery, and a property of the two states. -/
theorem exists_reachable_deliver_of_run {p : ProxyHandler} (us : List UpdateEvent)
    (u : UpdateEvent) {Q : ProxyState → ProxyState → Prop} [∀ w₁ w₂, Decidable (Q w₁ w₂)]
    (h : ((p.run us).bind fun w₁ => (p.deliver u w₁).map fun w₂ => decide (Q w₁ w₂)) = some true) :
    ∃ w₁ w₂, Reachable p w₁ ∧ p.deliver u w₁ = some w₂ ∧ Q w₁ w₂ := by
  cases hrun : p.run us with
  | none => simp [hrun] at h
  | some w₁ =>
      cases hu : p.deliver u w₁ with
      | none => simp [hrun, hu] at h
      | some w₂ => exact ⟨w₁, w₂, reachable_of_run hrun, hu, by simpa [hrun, hu] using h⟩

end ConsulAgent
