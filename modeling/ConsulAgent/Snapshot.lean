/-
The configuration snapshot one proxy's state goroutine owns, the subscriptions it has opened on
the agent cache, and `HandlerM`, the monad its handlers run in.
-/
import ConsulAgent.Structs

namespace ConsulAgent

/-! ## The registration -/

/-- `structs.ConnectProxyConfig`, with the fields the handlers read. -/
structure ConnectProxyConfig where
  destinationServiceName : String
  destinationServiceID : String
  mode : ProxyMode
  upstreams : List Upstream
deriving DecidableEq, Repr

/-- `DNSConfig`. -/
structure DNSConfig where
  domain : String
  altDomain : String
deriving DecidableEq, Repr

/-- A collaborator that takes subscriptions (`CacheNotifier` or `Health`): its `Notify` for a
correlation id on a context succeeds (`none`) or fails with an error text. -/
structure CacheNotifier where
  notify : Nat → String → Option String

/-- Every `Notify` succeeds. -/
def CacheNotifier.Accepts (c : CacheNotifier) : Prop :=
  ∀ ctx correlationID, c.notify ctx correlationID = none

/-- The collaborator whose `Notify` always succeeds. -/
def CacheNotifier.accepting : CacheNotifier :=
  ⟨fun _ _ => none⟩

theorem CacheNotifier.accepting_accepts : CacheNotifier.accepting.Accepts :=
  fun _ _ => rfl

/-- `handlerState`: the `stateConfig` and the copied `serviceInstance` a handler reads.  The
source datacenter is `source.Datacenter`; `parseIP` is whether `net.ParseIP` accepts an
address. -/
structure HandlerState where
  sourceDatacenter : String
  dnsConfig : DNSConfig
  cache : CacheNotifier
  health : CacheNotifier
  parseIP : String → Bool
  kind : ServiceKind
  service : String
  meta : GoMap String String
  proxyCfg : ConnectProxyConfig

/-- Both collaborators accept every subscription. -/
def HandlerState.Accepts (s : HandlerState) : Prop :=
  s.cache.Accepts ∧ s.health.Accepts

/-! ## The snapshot -/

/-- A `context.CancelFunc`, named by the context it cancels. -/
structure CancelFunc where
  context : Nat
deriving DecidableEq, Repr

/-- `ServicePassthroughAddrs`: the SNI of a directly dialled destination and its address set. -/
structure ServicePassthroughAddrs where
  sni : String
  addrs : List String
deriving DecidableEq, Repr

/-- `IngressListenerKey`. -/
structure IngressListenerKey where
  protocol : String
  port : Nat
deriving DecidableEq, Repr

/-- `ConfigSnapshotUpstreams`, kept by connect proxies and ingress gateways.  The passthrough
map is `none` while it is a nil map, which the ingress gateway never replaces. -/
structure ConfigSnapshotUpstreams where
  leaf : Option IssuedCert := none
  discoveryChain : GoMap String (Option CompiledDiscoveryChain) := ∅
  watchedDiscoveryChains : GoMap String CancelFunc := ∅
  watchedUpstreams : GoMap String (GoMap String CancelFunc) := ∅
  watchedUpstreamEndpoints : GoMap String (GoMap String (List CheckServiceNode)) := ∅
  watchedGateways : GoMap String (GoMap String CancelFunc) := ∅
  watchedGatewayEndpoints : GoMap String (GoMap String (List CheckServiceNode)) := ∅
  upstreamConfig : GoMap String Upstream := ∅
  passthroughUpstreams : Option (GoMap String ServicePassthroughAddrs) := none
deriving DecidableEq

/-- `configSnapshotConnectProxy`. -/
structure ConfigSnapshotConnectProxy where
  configSnapshotUpstreams : ConfigSnapshotUpstreams := {}
  watchedServiceChecks : GoMap ServiceID (List CheckType) := ∅
  preparedQueryEndpoints : GoMap String (List CheckServiceNode) := ∅
  intentions : List Intention := []
  intentionsSet : Bool := false
  meshConfig : Option MeshConfigEntry := none
  meshConfigSet : Bool := false
deriving DecidableEq

/-- `configSnapshotTerminatingGateway`. -/
structure ConfigSnapshotTerminatingGateway where
  watchedServices : GoMap ServiceName CancelFunc := ∅
  watchedIntentions : GoMap ServiceName CancelFunc := ∅
  intentions : GoMap ServiceName (List Intention) := ∅
  watchedLeaves : GoMap ServiceName CancelFunc := ∅
  serviceLeaves : GoMap ServiceName IssuedCert := ∅
  watchedConfigs : GoMap ServiceName CancelFunc := ∅
  serviceConfigs : GoMap ServiceName ServiceConfigResponse := ∅
  watchedResolvers : GoMap ServiceName CancelFunc := ∅
  serviceResolvers : GoMap ServiceName ServiceResolverConfigEntry := ∅
  serviceResolversSet : GoMap ServiceName Bool := ∅
  serviceGroups : GoMap ServiceName (List CheckServiceNode) := ∅
  gatewayServices : GoMap ServiceName GatewayService := ∅
  hostnameServices : GoMap ServiceName (List CheckServiceNode) := ∅
deriving DecidableEq

/-- `configSnapshotMeshGateway`. -/
structure ConfigSnapshotMeshGateway where
  watchedServices : GoMap ServiceName CancelFunc := ∅
  watchedServicesSet : Bool := false
  watchedDatacenters : GoMap String CancelFunc := ∅
  serviceGroups : GoMap ServiceName (List CheckServiceNode) := ∅
  serviceResolvers : GoMap ServiceName ServiceResolverConfigEntry := ∅
  gatewayGroups : GoMap String (List CheckServiceNode) := ∅
  fedStateGateways : GoMap String (List CheckServiceNode) := ∅
  hostnameDatacenters : GoMap String (List CheckServiceNode) := ∅
  consulServers : List CheckServiceNode := []
deriving DecidableEq

/-- `configSnapshotIngressGateway`. -/
structure ConfigSnapshotIngressGateway where
  configSnapshotUpstreams : ConfigSnapshotUpstreams := {}
  tlsEnabled : Bool := false
  tlsSet : Bool := false
  leafCertWatchCancel : Option CancelFunc := none
  upstreams : GoMap IngressListenerKey (List Upstream) := ∅
  hosts : List String := []
  hostsSet : Bool := false
deriving DecidableEq

/-- `ConfigSnapshot`, with the fields the handlers read or write. -/
structure ConfigSnapshot where
  kind : ServiceKind
  datacenter : String
  proxy : ConnectProxyConfig
  roots : Option IndexedCARoots := none
  connectProxy : ConfigSnapshotConnectProxy := {}
  terminatingGateway : ConfigSnapshotTerminatingGateway := {}
  meshGateway : ConfigSnapshotMeshGateway := {}
  ingressGateway : ConfigSnapshotIngressGateway := {}
deriving DecidableEq

/-- The `ConfigSnapshotUpstreams` that `handleUpdateUpstreams` points at: the ingress gateway's
in an ingress snapshot, the connect proxy's otherwise. -/
def ConfigSnapshot.upstreamsOf (snap : ConfigSnapshot) : ConfigSnapshotUpstreams :=
  if snap.kind = .ingressGateway then snap.ingressGateway.configSnapshotUpstreams
  else snap.connectProxy.configSnapshotUpstreams

/-- A write through that pointer.  The snapshot is taken apart once, so that the kind is read
once per write. -/
def ConfigSnapshot.modifyUpstreams (f : ConfigSnapshotUpstreams → ConfigSnapshotUpstreams) :
    ConfigSnapshot → ConfigSnapshot
  | ⟨kind, datacenter, proxy, roots, cp, tg, mg, ig⟩ =>
      if kind = .ingressGateway then
        ⟨kind, datacenter, proxy, roots, cp, tg, mg,
          { ig with configSnapshotUpstreams := f ig.configSnapshotUpstreams }⟩
      else
        ⟨kind, datacenter, proxy, roots,
          { cp with configSnapshotUpstreams := f cp.configSnapshotUpstreams }, tg, mg, ig⟩

section ModifyUpstreams

variable (f : ConfigSnapshotUpstreams → ConfigSnapshotUpstreams) (snap : ConfigSnapshot)

@[simp] theorem ConfigSnapshot.kind_modifyUpstreams : (snap.modifyUpstreams f).kind = snap.kind := by
  cases snap; simp only [ConfigSnapshot.modifyUpstreams]; split_ifs <;> rfl

@[simp] theorem ConfigSnapshot.datacenter_modifyUpstreams :
    (snap.modifyUpstreams f).datacenter = snap.datacenter := by
  cases snap; simp only [ConfigSnapshot.modifyUpstreams]; split_ifs <;> rfl

@[simp] theorem ConfigSnapshot.proxy_modifyUpstreams :
    (snap.modifyUpstreams f).proxy = snap.proxy := by
  cases snap; simp only [ConfigSnapshot.modifyUpstreams]; split_ifs <;> rfl

@[simp] theorem ConfigSnapshot.roots_modifyUpstreams :
    (snap.modifyUpstreams f).roots = snap.roots := by
  cases snap; simp only [ConfigSnapshot.modifyUpstreams]; split_ifs <;> rfl

@[simp] theorem ConfigSnapshot.upstreamsOf_modifyUpstreams :
    (snap.modifyUpstreams f).upstreamsOf = f snap.upstreamsOf := by
  cases snap
  simp only [ConfigSnapshot.modifyUpstreams, ConfigSnapshot.upstreamsOf]
  split_ifs <;> simp_all

end ModifyUpstreams

/-! ## Subscriptions and the handler monad -/

/-- The subscriptions that are live, each with the context it was issued on, and the next
child context to create. -/
structure Subscriptions where
  nextContext : Nat := 1
  live : List (Nat × String) := []
deriving DecidableEq, Repr

/-- What a handler reads and writes: the snapshot and the subscriptions. -/
structure ProxyState where
  snap : ConfigSnapshot
  subs : Subscriptions
deriving DecidableEq

/-- How a handler stops early: a returned Go `error`, or a runtime fault. -/
inductive HandlerError
  | error (msg : String)
  | panic (msg : String)
deriving DecidableEq, Repr

/-- The handlers' monad. -/
abbrev HandlerM := EStateM HandlerError ProxyState

/-- Outcomes of a handler compare field by field, so that a concrete step can be decided. -/
instance [DecidableEq α] : DecidableEq (EStateM.Result HandlerError ProxyState α)
  | .ok a w, .ok b v => decidable_of_iff (a = b ∧ w = v) (by simp)
  | .error e w, .error f v => decidable_of_iff (e = f ∧ w = v) (by simp)
  | .ok _ _, .error _ _ => isFalse nofun
  | .error _ _, .ok _ _ => isFalse nofun

/-- `snap` as the handler sees it. -/
def getSnap : HandlerM ConfigSnapshot :=
  fun w => .ok w.snap w

/-- A write to the snapshot. -/
def modifySnap (f : ConfigSnapshot → ConfigSnapshot) : HandlerM Unit :=
  fun w => .ok () { w with snap := f w.snap }

/-- `return fmt.Errorf(...)`. -/
def fail {α : Type} (msg : String) : HandlerM α :=
  fun w => .error (.error msg) w

/-- A runtime fault. -/
def crash {α : Type} (msg : String) : HandlerM α :=
  fun w => .error (.panic msg) w

/-- A write to the connect proxy's part of the snapshot. -/
def modifyConnectProxy (f : ConfigSnapshotConnectProxy → ConfigSnapshotConnectProxy) :
    HandlerM Unit :=
  modifySnap fun snap => { snap with connectProxy := f snap.connectProxy }

/-- A write to the terminating gateway's part of the snapshot. -/
def modifyTerminatingGateway
    (f : ConfigSnapshotTerminatingGateway → ConfigSnapshotTerminatingGateway) : HandlerM Unit :=
  modifySnap fun snap => { snap with terminatingGateway := f snap.terminatingGateway }

/-- A write to the mesh gateway's part of the snapshot. -/
def modifyMeshGateway (f : ConfigSnapshotMeshGateway → ConfigSnapshotMeshGateway) :
    HandlerM Unit :=
  modifySnap fun snap => { snap with meshGateway := f snap.meshGateway }

/-- A write to the ingress gateway's part of the snapshot. -/
def modifyIngressGateway (f : ConfigSnapshotIngressGateway → ConfigSnapshotIngressGateway) :
    HandlerM Unit :=
  modifySnap fun snap => { snap with ingressGateway := f snap.ingressGateway }

/-- A write through `upstreamsSnapshot`, the kind's `ConfigSnapshotUpstreams`. -/
def modifyUpstreams (f : ConfigSnapshotUpstreams → ConfigSnapshotUpstreams) : HandlerM Unit :=
  modifySnap (·.modifyUpstreams f)

/-- A fresh child context, with a subscription on it for `correlationID`. -/
def Subscriptions.subscribe (subs : Subscriptions) (correlationID : String) : Subscriptions :=
  { nextContext := subs.nextContext + 1, live := (subs.nextContext, correlationID) :: subs.live }

/-- A fresh child context with no subscription on it. -/
def Subscriptions.skip (subs : Subscriptions) : Subscriptions :=
  { subs with nextContext := subs.nextContext + 1 }

/-- The subscriptions left once context `ctx` is cancelled. -/
def Subscriptions.cancel (subs : Subscriptions) (ctx : Nat) : Subscriptions :=
  { subs with live := subs.live.filter (·.1 ≠ ctx) }

/-- `ctx, cancel := context.WithCancel(ctx)` followed by `c.Notify(ctx, ..., correlationID,
s.ch)`: the cancel function of the fresh context and the error `Notify` returned. -/
def notifyWithCancel (c : CacheNotifier) (correlationID : String) :
    HandlerM (CancelFunc × Option String) :=
  fun w =>
    match c.notify w.subs.nextContext correlationID with
    | none => .ok (⟨w.subs.nextContext⟩, none) { w with subs := w.subs.subscribe correlationID }
    | some e => .ok (⟨w.subs.nextContext⟩, some e) { w with subs := w.subs.skip }

/-- `c.Notify(ctx, ..., correlationID, s.ch)` on the root context. -/
def notifyRoot (c : CacheNotifier) (correlationID : String) : HandlerM (Option String) :=
  fun w =>
    match c.notify 0 correlationID with
    | none => .ok none { w with subs := { w.subs with live := (0, correlationID) :: w.subs.live } }
    | some e => .ok (some e) w

/-- A watch on the root context whose failure ends the initial watches:
`if err != nil { return snap, err }`. -/
def watchRootOrFail (c : CacheNotifier) (correlationID : String) : HandlerM Unit := do
  if let some e := ← notifyRoot c correlationID then fail e

/-- Calling a cancel function: the subscriptions on its context end. -/
def cancel (f : CancelFunc) : HandlerM Unit :=
  fun w => .ok () { w with subs := w.subs.cancel f.context }

/-- Calling each of a list of cancel functions. -/
def cancelAll : List CancelFunc → HandlerM Unit
  | [] => pure ()
  | f :: rest => do cancel f; cancelAll rest

/-! ## A small program logic -/

namespace HandlerM

variable {α β γ : Type}

/-- The state a run ends in, whether it returned or stopped. -/
def finalState : EStateM.Result HandlerError ProxyState α → ProxyState
  | .ok _ w => w
  | .error _ w => w

/-- `x` always returns. -/
def Total (x : HandlerM α) : Prop :=
  ∀ w, ∃ a w', x w = .ok a w'

/-- `x` never returns a Go error; it may fault. -/
def NoError (x : HandlerM α) : Prop :=
  ∀ w msg w', x w ≠ .error (.error msg) w'

/-- When `x` returns a Go error, it leaves the state it started from. -/
def Clean (x : HandlerM α) : Prop :=
  ∀ w msg w', x w = .error (.error msg) w' → w' = w

/-- `x` always returns, with a result satisfying `P`. -/
def Ensures (x : HandlerM α) (P : α → Prop) : Prop :=
  ∀ w, ∃ a w', x w = .ok a w' ∧ P a

/-- Whatever `x` does, `f` of the state it leaves is `f` of the state it started from. -/
def Keeps (f : ProxyState → β) (x : HandlerM α) : Prop :=
  ∀ w, f (finalState (x w)) = f w

/-- From a state with `I`, `x` leaves a state with `I`, a Go error's and a fault's included. -/
def Preserves (I : ProxyState → Prop) (x : HandlerM α) : Prop :=
  ∀ w, I w → I (finalState (x w))

theorem bind_ok {x : HandlerM α} {f : α → HandlerM β} {w w' : ProxyState} {a : α}
    (h : x w = .ok a w') : (x >>= f) w = f a w' := by
  simp only [bind, EStateM.bind, h]

theorem bind_error {x : HandlerM α} {f : α → HandlerM β} {w w' : ProxyState} {e : HandlerError}
    (h : x w = .error e w') : (x >>= f) w = .error e w' := by
  simp only [bind, EStateM.bind, h]

theorem total_pure (a : α) : Total (pure a : HandlerM α) :=
  fun w => ⟨a, w, rfl⟩

theorem Total.bind {x : HandlerM α} {f : α → HandlerM β} (hx : Total x)
    (hf : ∀ a, Total (f a)) : Total (x >>= f) := by
  intro w
  obtain ⟨a, w', h⟩ := hx w
  rw [bind_ok h]
  exact hf a w'

theorem Total.noError {x : HandlerM α} (hx : Total x) : NoError x := by
  intro w msg w' h
  obtain ⟨a, w'', h'⟩ := hx w
  rw [h'] at h
  cases h

theorem Ensures.total {x : HandlerM α} {P : α → Prop} (hx : Ensures x P) : Total x := by
  intro w
  obtain ⟨a, w', h, -⟩ := hx w
  exact ⟨a, w', h⟩

theorem Total.ensures {x : HandlerM α} (hx : Total x) : Ensures x fun _ => True := by
  intro w
  obtain ⟨a, w', h⟩ := hx w
  exact ⟨a, w', h, trivial⟩

theorem ensures_pure (a : α) : Ensures (pure a : HandlerM α) (· = a) :=
  fun w => ⟨a, w, rfl, rfl⟩

theorem Ensures.bind {x : HandlerM α} {P : α → Prop} {f : α → HandlerM β} {Q : β → Prop}
    (hx : Ensures x P) (hf : ∀ a, P a → Ensures (f a) Q) : Ensures (x >>= f) Q := by
  intro w
  obtain ⟨a, w', h, ha⟩ := hx w
  rw [bind_ok h]
  exact hf a ha w'

/-- A step that always returns a result satisfying `P`, followed by steps that return no Go
error on such a result, returns no Go error. -/
theorem Ensures.noError_bind {x : HandlerM α} {P : α → Prop} {f : α → HandlerM β}
    (hx : Ensures x P) (hf : ∀ a, P a → NoError (f a)) : NoError (x >>= f) := by
  intro w msg w'
  obtain ⟨a, w₁, h, ha⟩ := hx w
  rw [bind_ok h]
  exact hf a ha w₁ msg w'

theorem noError_crash (msg : String) : NoError (crash msg : HandlerM α) :=
  fun _ _ _ h => by cases h

theorem NoError.bind {x : HandlerM α} {f : α → HandlerM β} (hx : NoError x)
    (hf : ∀ a, NoError (f a)) : NoError (x >>= f) := by
  intro w msg w' h
  cases hxw : x w with
  | ok a w₁ => exact hf a w₁ msg w' (by rwa [bind_ok hxw] at h)
  | error e w₁ =>
      rw [bind_error hxw] at h
      cases h
      exact hx w msg w' hxw

theorem NoError.clean {x : HandlerM α} (hx : NoError x) : Clean x :=
  fun w msg w' h => absurd h (hx w msg w')

theorem clean_fail (msg : String) : Clean (fail msg : HandlerM α) := by
  intro w e w' h
  cases h
  rfl

/-- A step that reads the state and changes nothing, followed by a clean step, is clean. -/
theorem Clean.bind_of_reads {x : HandlerM α} {f : α → HandlerM β}
    (hx : ∀ w, ∃ a, x w = .ok a w) (hf : ∀ a, Clean (f a)) : Clean (x >>= f) := by
  intro w e w' h
  obtain ⟨a, ha⟩ := hx w
  rw [bind_ok ha] at h
  exact hf a w e w' h

/-- A clean step followed by steps that return no Go error is clean. -/
theorem Clean.bind {x : HandlerM α} {f : α → HandlerM β} (hx : Clean x)
    (hf : ∀ a, NoError (f a)) : Clean (x >>= f) := by
  intro w msg w' h
  cases hxw : x w with
  | ok a w₁ => exact absurd (by rwa [bind_ok hxw] at h) (hf a w₁ msg w')
  | error e₁ w₁ =>
      rw [bind_error hxw] at h
      cases h
      exact hx w msg _ hxw

theorem keeps_pure (f : ProxyState → β) (a : α) : Keeps f (pure a : HandlerM α) :=
  fun _ => rfl

theorem keeps_fail (f : ProxyState → β) (msg : String) : Keeps f (fail msg : HandlerM α) :=
  fun _ => rfl

theorem keeps_crash (f : ProxyState → β) (msg : String) : Keeps f (crash msg : HandlerM α) :=
  fun _ => rfl

theorem Keeps.bind {f : ProxyState → γ} {x : HandlerM α} {g : α → HandlerM β} (hx : Keeps f x)
    (hg : ∀ a, Keeps f (g a)) : Keeps f (x >>= g) := by
  intro w
  cases hxw : x w with
  | ok a w₁ =>
      rw [bind_ok hxw, hg a w₁]
      simpa [finalState, hxw] using hx w
  | error e w₁ =>
      rw [bind_error hxw]
      simpa [finalState, hxw] using hx w

/-- A case of a dispatch cascade: each branch may use its own test. -/
theorem Keeps.ite {f : ProxyState → β} {c : Prop} [Decidable c] {x y : HandlerM α}
    (hx : c → Keeps f x) (hy : ¬ c → Keeps f y) : Keeps f (if c then x else y) := by
  by_cases hc : c
  · rw [if_pos hc]
    exact hx hc
  · rw [if_neg hc]
    exact hy hc

theorem Clean.ite {c : Prop} [Decidable c] {x y : HandlerM α} (hx : c → Clean x)
    (hy : ¬ c → Clean y) : Clean (if c then x else y) := by
  by_cases hc : c
  · rw [if_pos hc]
    exact hx hc
  · rw [if_neg hc]
    exact hy hc

theorem Preserves.bind {I : ProxyState → Prop} {x : HandlerM α} {f : α → HandlerM β}
    (hx : Preserves I x) (hf : ∀ a, Preserves I (f a)) : Preserves I (x >>= f) := by
  intro w hw
  cases hxw : x w with
  | ok a w₁ =>
      rw [bind_ok hxw]
      exact hf a w₁ (by simpa [finalState, hxw] using hx w hw)
  | error e w₁ =>
      rw [bind_error hxw]
      simpa [finalState, hxw] using hx w hw

/-- What keeps the part of the state that `I` reads preserves `I`. -/
theorem Keeps.preserves {I : ProxyState → Prop} {F : ProxyState → β} {x : HandlerM α}
    (hx : Keeps F x) (hI : ∀ w w', F w' = F w → I w → I w') : Preserves I x :=
  fun w hw => hI w _ (hx w) hw

theorem Preserves.ite {I : ProxyState → Prop} {c : Prop} [Decidable c] {x y : HandlerM α}
    (hx : c → Preserves I x) (hy : ¬ c → Preserves I y) : Preserves I (if c then x else y) := by
  by_cases hc : c
  · rw [if_pos hc]
    exact hx hc
  · rw [if_neg hc]
    exact hy hc

theorem Keeps.comp {F : ProxyState → β} {x : HandlerM α} (g : β → γ) (hx : Keeps F x) :
    Keeps (g ∘ F) x :=
  fun w => congrArg g (hx w)

end HandlerM

open HandlerM

@[simp] theorem getSnap_apply (w : ProxyState) : getSnap w = .ok w.snap w :=
  rfl

@[simp] theorem modifySnap_apply (f : ConfigSnapshot → ConfigSnapshot) (w : ProxyState) :
    modifySnap f w = .ok () { w with snap := f w.snap } :=
  rfl

@[simp] theorem modifyUpstreams_apply (g : ConfigSnapshotUpstreams → ConfigSnapshotUpstreams)
    (w : ProxyState) : modifyUpstreams g w = .ok () { w with snap := w.snap.modifyUpstreams g } :=
  rfl

@[simp] theorem modifyConnectProxy_apply
    (f : ConfigSnapshotConnectProxy → ConfigSnapshotConnectProxy) (w : ProxyState) :
    modifyConnectProxy f w =
      .ok () { w with snap := { w.snap with connectProxy := f w.snap.connectProxy } } :=
  rfl

@[simp] theorem modifyTerminatingGateway_apply
    (f : ConfigSnapshotTerminatingGateway → ConfigSnapshotTerminatingGateway) (w : ProxyState) :
    modifyTerminatingGateway f w =
      .ok () { w with snap := { w.snap with terminatingGateway := f w.snap.terminatingGateway } } :=
  rfl

@[simp] theorem modifyMeshGateway_apply (f : ConfigSnapshotMeshGateway → ConfigSnapshotMeshGateway)
    (w : ProxyState) :
    modifyMeshGateway f w =
      .ok () { w with snap := { w.snap with meshGateway := f w.snap.meshGateway } } :=
  rfl

@[simp] theorem modifyIngressGateway_apply
    (f : ConfigSnapshotIngressGateway → ConfigSnapshotIngressGateway) (w : ProxyState) :
    modifyIngressGateway f w =
      .ok () { w with snap := { w.snap with ingressGateway := f w.snap.ingressGateway } } :=
  rfl

theorem total_getSnap : Total getSnap :=
  fun w => ⟨w.snap, w, rfl⟩

theorem total_modifySnap (f : ConfigSnapshot → ConfigSnapshot) : Total (modifySnap f) :=
  fun _ => ⟨(), _, rfl⟩

theorem total_modifyConnectProxy (f : ConfigSnapshotConnectProxy → ConfigSnapshotConnectProxy) :
    Total (modifyConnectProxy f) :=
  total_modifySnap _

theorem total_modifyTerminatingGateway
    (f : ConfigSnapshotTerminatingGateway → ConfigSnapshotTerminatingGateway) :
    Total (modifyTerminatingGateway f) :=
  total_modifySnap _

theorem total_modifyMeshGateway (f : ConfigSnapshotMeshGateway → ConfigSnapshotMeshGateway) :
    Total (modifyMeshGateway f) :=
  total_modifySnap _

theorem total_modifyIngressGateway
    (f : ConfigSnapshotIngressGateway → ConfigSnapshotIngressGateway) :
    Total (modifyIngressGateway f) :=
  total_modifySnap _

theorem total_cancel (f : CancelFunc) : Total (cancel f) :=
  fun _ => ⟨(), _, rfl⟩

theorem total_cancelAll (fs : List CancelFunc) : Total (cancelAll fs) := by
  induction fs with
  | nil => exact total_pure ()
  | cons f rest ih => exact (total_cancel f).bind fun _ => ih

theorem total_notifyWithCancel (c : CacheNotifier) (correlationID : String) :
    Total (notifyWithCancel c correlationID) := by
  intro w
  unfold notifyWithCancel
  split <;> exact ⟨_, _, rfl⟩

theorem total_notifyRoot (c : CacheNotifier) (correlationID : String) :
    Total (notifyRoot c correlationID) := by
  intro w
  unfold notifyRoot
  split <;> exact ⟨_, _, rfl⟩

/-- An accepting collaborator's `Notify` reports no error. -/
theorem notifyWithCancel_of_accepts {c : CacheNotifier} (hc : c.Accepts) (correlationID : String)
    (w : ProxyState) :
    notifyWithCancel c correlationID w =
      .ok (⟨w.subs.nextContext⟩, none) { w with subs := w.subs.subscribe correlationID } := by
  simp [notifyWithCancel, hc w.subs.nextContext correlationID]

theorem notifyWithCancel_ensures {c : CacheNotifier} (hc : c.Accepts) (correlationID : String) :
    Ensures (notifyWithCancel c correlationID) (·.2 = none) :=
  fun w => ⟨_, _, notifyWithCancel_of_accepts hc correlationID w, rfl⟩

theorem notifyRoot_ensures {c : CacheNotifier} (hc : c.Accepts) (correlationID : String) :
    Ensures (notifyRoot c correlationID) (· = none) := by
  intro w
  simp [notifyRoot, hc 0 correlationID]

theorem keeps_getSnap (f : ProxyState → β) : Keeps f getSnap :=
  fun _ => rfl

/-- A snapshot write keeps what it does not touch. -/
theorem keeps_modifySnap {F : ConfigSnapshot → β} {g : ConfigSnapshot → ConfigSnapshot}
    (h : ∀ snap, F (g snap) = F snap) : Keeps (fun w => F w.snap) (modifySnap g) :=
  fun w => h w.snap

theorem keepsSubs_modifySnap (g : ConfigSnapshot → ConfigSnapshot) :
    Keeps ProxyState.subs (modifySnap g) :=
  fun _ => rfl

/-- A write through the upstreams pointer keeps what it does not touch. -/
theorem keeps_modifyUpstreams {F : ConfigSnapshotUpstreams → β}
    {g : ConfigSnapshotUpstreams → ConfigSnapshotUpstreams} (h : ∀ us, F (g us) = F us) :
    Keeps (fun w => F w.snap.upstreamsOf) (modifyUpstreams g) :=
  @keeps_modifySnap _ (fun snap => F snap.upstreamsOf) _ fun snap => by
    simp only [ConfigSnapshot.upstreamsOf_modifyUpstreams, h]

theorem keeps_notifyWithCancel (F : ConfigSnapshot → β) (c : CacheNotifier)
    (correlationID : String) : Keeps (fun w => F w.snap) (notifyWithCancel c correlationID) := by
  intro w
  unfold notifyWithCancel
  split <;> rfl

theorem keeps_notifyRoot (F : ConfigSnapshot → β) (c : CacheNotifier) (correlationID : String) :
    Keeps (fun w => F w.snap) (notifyRoot c correlationID) := by
  intro w
  unfold notifyRoot
  split <;> rfl

theorem keeps_watchRootOrFail (F : ConfigSnapshot → β) (c : CacheNotifier)
    (correlationID : String) : Keeps (fun w => F w.snap) (watchRootOrFail c correlationID) :=
  (keeps_notifyRoot F c correlationID).bind fun r => by
    cases r
    exacts [keeps_pure _ (), keeps_fail _ _]

theorem keeps_cancel (F : ConfigSnapshot → β) (f : CancelFunc) :
    Keeps (fun w => F w.snap) (cancel f) :=
  fun _ => rfl

theorem keeps_cancelAll (F : ConfigSnapshot → β) (fs : List CancelFunc) :
    Keeps (fun w => F w.snap) (cancelAll fs) := by
  induction fs with
  | nil => exact keeps_pure _ ()
  | cons f rest ih => exact (keeps_cancel F f).bind fun _ => ih

theorem nextContext_cancelAll (fs : List CancelFunc) (w : ProxyState) :
    (finalState (cancelAll fs w)).subs.nextContext = w.subs.nextContext := by
  induction fs generalizing w with
  | nil => rfl
  | cons f rest ih => exact ih _

/-- Cancelling a list of cancel functions ends exactly the subscriptions on their contexts. -/
theorem mem_live_cancelAll (fs : List CancelFunc) (w : ProxyState) (c : Nat) (id : String) :
    (c, id) ∈ (finalState (cancelAll fs w)).subs.live ↔ (c, id) ∈ w.subs.live ∧ ⟨c⟩ ∉ fs := by
  induction fs generalizing w with
  | nil => simp [cancelAll, pure, EStateM.pure, finalState]
  | cons f rest ih =>
      show (c, id) ∈ (finalState (cancelAll rest ⟨w.snap, w.subs.cancel f.context⟩)).subs.live ↔ _
      rw [ih]
      simp only [Subscriptions.cancel, List.mem_filter, List.mem_cons, not_or, decide_eq_true_eq]
      constructor
      · rintro ⟨⟨hmem, hc⟩, hrest⟩
        exact ⟨hmem, fun h => hc (by rw [← h]), hrest⟩
      · rintro ⟨hmem, hf, hrest⟩
        exact ⟨⟨hmem, fun h => hf (by subst h; rfl)⟩, hrest⟩

theorem cancelAll_eq_ok (fs : List CancelFunc) (w : ProxyState) :
    cancelAll fs w = .ok () (finalState (cancelAll fs w)) := by
  obtain ⟨⟨⟩, w', h⟩ := total_cancelAll fs w
  rw [h]
  rfl

theorem snap_cancelAll (fs : List CancelFunc) (w : ProxyState) :
    (finalState (cancelAll fs w)).snap = w.snap :=
  keeps_cancelAll id fs w

end ConsulAgent
