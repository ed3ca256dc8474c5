/-
What a data delivery does to a terminating gateway's snapshot: the handler reads the service back
from the correlation id and writes without looking at the watch maps.
-/
import ConsulAgent.Watches

namespace ConsulAgent

open HandlerM

namespace handlerTerminatingGateway

/-! ## Dispatch of the per-service ids -/

theorem handleUpdate_gatewayServices (s : HandlerState) (r : Result) :
    handleUpdate s ⟨gatewayServicesWatchID, r, none⟩ = handleGatewayServices s r := by
  have h : gatewayServicesWatchID ≠ rootsWatchID := by decide
  simp [handleUpdate, h]

theorem handleUpdate_externalService (s : HandlerState) (x : String) (r : Result) :
    handleUpdate s ⟨externalServiceIDPrefix ++ x, r, none⟩ =
      handleExternalService s (externalServiceIDPrefix ++ x) r := by
  have h := hasPrefix_append externalServiceIDPrefix x
  have h₁ : externalServiceIDPrefix ++ x ≠ rootsWatchID := ne_of_hasPrefix h (by decide)
  have h₂ : externalServiceIDPrefix ++ x ≠ gatewayServicesWatchID := ne_of_hasPrefix h (by decide)
  simp only [handleUpdate]
  rw [if_neg h₁, if_neg h₂, if_pos h]

theorem handleUpdate_serviceResolver (s : HandlerState) (x : String) (r : Result) :
    handleUpdate s ⟨serviceResolverIDPrefix ++ x, r, none⟩ =
      handleServiceResolver (serviceResolverIDPrefix ++ x) r := by
  have h := hasPrefix_append serviceResolverIDPrefix x
  have h₁ : serviceResolverIDPrefix ++ x ≠ rootsWatchID := ne_of_hasPrefix h (by decide)
  have h₂ : serviceResolverIDPrefix ++ x ≠ gatewayServicesWatchID := ne_of_hasPrefix h (by decide)
  have h₃ : hasPrefix (serviceResolverIDPrefix ++ x) externalServiceIDPrefix = false :=
    hasPrefix_eq_false_of_diverge h (by decide) (by decide)
  have h₄ : hasPrefix (serviceResolverIDPrefix ++ x) serviceLeafIDPrefix = false :=
    hasPrefix_eq_false_of_diverge h (by decide) (by decide)
  have h₅ : hasPrefix (serviceResolverIDPrefix ++ x) serviceConfigIDPrefix = false :=
    hasPrefix_eq_false_of_diverge h (by decide) (by decide)
  simp only [handleUpdate]
  rw [if_neg h₁, if_neg h₂, h₃, h₄, h₅, if_pos h]
  rfl

/-! ## The data cases -/

/-- A non-empty instance list replaces the service's group, whatever the watch maps hold. -/
theorem handleExternalService_cons (s : HandlerState) (sn : ServiceName) (node : CheckServiceNode)
    (rest : List CheckServiceNode) (w : ProxyState) :
    handleExternalService s (externalServiceIDPrefix ++ sn.toString)
        (.indexedCheckServiceNodes (node :: rest)) w =
      .ok () { w with snap := { w.snap with terminatingGateway :=
        { w.snap.terminatingGateway with
          serviceGroups := (w.snap.terminatingGateway.serviceGroups.erase sn).insert sn (node :: rest)
          hostnameServices := (w.snap.terminatingGateway.hostnameServices.erase sn).insert sn
            (hostnameEndpoints s.parseIP w.snap.datacenter (node :: rest)) } } } := by
  simp only [handleExternalService, trimPrefix_append, serviceNameFromString_toString]
  rfl

/-- The resolver of the service's id, with its `-Set` flag raised: the resolver is replaced only
by a delivery holding exactly one. -/
def resolvedAfter (sn : ServiceName) (entries : List ConfigEntry)
    (tg : ConfigSnapshotTerminatingGateway) : ConfigSnapshotTerminatingGateway :=
  { tg with
    serviceResolvers := (match entries with
      | [.serviceResolver resolver] => tg.serviceResolvers.insert sn resolver
      | _ => tg.serviceResolvers)
    serviceResolversSet := tg.serviceResolversSet.insert sn true }

theorem handleServiceResolver_entries (sn : ServiceName) (entries : List ConfigEntry) :
    handleServiceResolver (serviceResolverIDPrefix ++ sn.toString) (.indexedConfigEntries entries) =
      modifyTerminatingGateway (resolvedAfter sn entries) := by
  simp only [handleServiceResolver, trimPrefix_append, serviceNameFromString_toString]
  rfl

@[simp] theorem resolvedAfter_single (sn : ServiceName) (r : ServiceResolverConfigEntry)
    (tg : ConfigSnapshotTerminatingGateway) :
    (resolvedAfter sn [.serviceResolver r] tg).serviceResolvers = tg.serviceResolvers.insert sn r :=
  rfl

@[simp] theorem resolvedAfter_nil (sn : ServiceName) (tg : ConfigSnapshotTerminatingGateway) :
    (resolvedAfter sn [] tg).serviceResolvers = tg.serviceResolvers :=
  rfl

end handlerTerminatingGateway

open handlerTerminatingGateway

/-! ## Which deliveries touch subscriptions -/

/-- The correlation ids whose deliveries reshape a kind's watches.  Every other delivery leaves
the subscriptions alone, whether or not the subscription it came from is still live. -/
def KindHandler.reshapes : KindHandler → String → Bool
  | .connectProxy, id => id = intentionUpstreamsID || hasPrefix id "discovery-chain:"
  | .terminatingGateway, id => id = gatewayServicesWatchID
  | .meshGateway, id => id = serviceListWatchID || id = datacentersWatchID
  | .ingressGateway, id =>
      id = gatewayConfigWatchID || id = gatewayServicesWatchID || hasPrefix id "discovery-chain:"

theorem KindHandler.keepsSubs_handleUpdate (h : KindHandler) (s : HandlerState) (u : UpdateEvent)
    (hu : h.reshapes u.correlationID = false) : Keeps ProxyState.subs (h.handleUpdate s u) := by
  cases h <;> simp only [reshapes, Bool.or_eq_false_iff, decide_eq_false_iff_not] at hu
  · exact handlerConnectProxy.keepsSubs_handleUpdate u hu.1 hu.2
  · exact handlerTerminatingGateway.keepsSubs_handleUpdate u hu
  · exact handlerMeshGateway.keepsSubs_handleUpdate u hu.1 hu.2
  · exact handlerIngressGateway.keepsSubs_handleUpdate u hu.1.1 hu.1.2 hu.2

theorem deliver_externalService_cons (p : ProxyHandler) (hp : p.handler = .terminatingGateway)
    (w : ProxyState) (sn : ServiceName) (node : CheckServiceNode) (rest : List CheckServiceNode) :
    p.deliver ⟨externalServiceIDPrefix ++ sn.toString, .indexedCheckServiceNodes (node :: rest),
        none⟩ w =
      some { w with snap := { w.snap with terminatingGateway :=
        { w.snap.terminatingGateway with
          serviceGroups := (w.snap.terminatingGateway.serviceGroups.erase sn).insert sn (node :: rest)
          hostnameServices := (w.snap.terminatingGateway.hostnameServices.erase sn).insert sn
            (hostnameEndpoints p.handlerState.parseIP w.snap.datacenter (node :: rest)) } } } := by
  unfold ProxyHandler.deliver
  rw [hp, KindHandler.handleUpdate, handleUpdate_externalService, handleExternalService_cons]

/-- An instance delivery for a service with no group, taken whether or not the service is still
watched, writes the group back; subscriptions and watch maps stay as they were. -/
theorem unwatched_instances_restore_group (p : ProxyHandler)
    (hp : p.handler = .terminatingGateway) (w : ProxyState) {sn : ServiceName}
    (hgone : sn ∉ w.snap.terminatingGateway.serviceGroups) (node : CheckServiceNode)
    (rest : List CheckServiceNode) :
    ∃ w', p.deliver ⟨externalServiceIDPrefix ++ sn.toString, .indexedCheckServiceNodes (node :: rest),
        none⟩ w = some w' ∧
      w'.snap ≠ w.snap ∧ w'.snap.terminatingGateway.serviceGroups.lookup sn = some (node :: rest) ∧
      w'.snap.terminatingGateway.watchedServices = w.snap.terminatingGateway.watchedServices ∧
      w'.subs = w.subs := by
  have hlook : ((w.snap.terminatingGateway.serviceGroups.erase sn).insert sn (node :: rest)).lookup
      sn = some (node :: rest) := AList.lookup_insert _
  refine ⟨_, deliver_externalService_cons p hp w sn node rest, fun h => hgone ?_, hlook, rfl, rfl⟩
  have hsame : w.snap.terminatingGateway.serviceGroups.lookup sn = some (node :: rest) := by
    rw [← hlook]
    exact congrArg (fun snap => snap.terminatingGateway.serviceGroups.lookup sn) h.symm
  exact AList.lookup_isSome.1 (by rw [hsame]; rfl)

/-- A terminating gateway for `tgw` whose collaborators accept every subscription. -/
def tgwProxy : ProxyHandler :=
  .accepting .terminatingGateway ⟨"tgw", "tgw", .default, []⟩

/-- The gateway once `db` is linked: its five watches are open on contexts `1` to `5`. -/
def tgwLinkedDb : ProxyState where
  snap :=
    { kind := .terminatingGateway, datacenter := "dc1", proxy := ⟨"tgw", "tgw", .default, []⟩
      terminatingGateway :=
        { gatewayServices := (∅ : GoMap ServiceName _).insert ⟨"db"⟩ ⟨⟨"db"⟩, 8080, "tcp", []⟩
          watchedServices := (∅ : GoMap ServiceName _).insert ⟨"db"⟩ ⟨1⟩
          watchedIntentions := (∅ : GoMap ServiceName _).insert ⟨"db"⟩ ⟨2⟩
          watchedLeaves := (∅ : GoMap ServiceName _).insert ⟨"db"⟩ ⟨3⟩
          watchedConfigs := (∅ : GoMap ServiceName _).insert ⟨"db"⟩ ⟨4⟩
          watchedResolvers := (∅ : GoMap ServiceName _).insert ⟨"db"⟩ ⟨5⟩ } }
  subs := ⟨6, [(5, serviceResolverIDPrefix ++ "db"), (4, serviceConfigIDPrefix ++ "db"),
    (3, serviceLeafIDPrefix ++ "db"), (2, serviceIntentionsIDPrefix ++ "db"),
    (1, externalServiceIDPrefix ++ "db"), (0, gatewayServicesWatchID), (0, rootsWatchID)]⟩

/-- The same gateway once `db` is unlinked again: every watch of `db` is cancelled. -/
def tgwUnlinkedDb : ProxyState where
  snap := { kind := .terminatingGateway, datacenter := "dc1", proxy := ⟨"tgw", "tgw", .default, []⟩ }
  subs := ⟨6, [(0, gatewayServicesWatchID), (0, rootsWatchID)]⟩

/-- The gateway after `Watch`: roots and gateway services are watched on the root context. -/
def tgwWatching : ProxyState where
  snap := { kind := .terminatingGateway, datacenter := "dc1", proxy := ⟨"tgw", "tgw", .default, []⟩ }
  subs := ⟨1, [(0, gatewayServicesWatchID), (0, rootsWatchID)]⟩

/-- Linking `db`: the five watches are opened from `tgwWatching`, and the cleanup loops that
follow, checked in two halves, keep them. -/
theorem tgwWatching_link : tgwProxy.deliver (linkServices ["db"]) tgwWatching = some tgwLinkedDb := by
  have hwatch : watchLinkedServices tgwProxy.handlerState [⟨⟨"db"⟩, 8080, "tcp", []⟩] tgwWatching =
      .ok () tgwLinkedDb := by decide
  unfold ProxyHandler.deliver
  rw [show tgwProxy.handler = .terminatingGateway from rfl, KindHandler.handleUpdate, linkServices,
    handleUpdate_gatewayServices, List.map_cons, List.map_nil, handleGatewayServices, bind_ok hwatch,
    bind_ok (modifyTerminatingGateway_apply _ _),
    show cleanupOrder = [.externalService, .leaf] ++ [.config, .resolver, .intentions] from rfl,
    @cancelUnlistedAll_append _ _ _ _ tgwLinkedDb tgwLinkedDb]
  all_goals decide

theorem reachable_tgwLinkedDb : Reachable tgwProxy tgwLinkedDb :=
  (@reachable_of_run tgwProxy [] tgwWatching (by decide)).deliver _ tgwWatching_link

/-- The gateway halfway through unlinking `db`: the instance and leaf watches are cancelled. -/
def tgwUnlinkingDb : ProxyState where
  snap :=
    { tgwLinkedDb.snap with
      terminatingGateway :=
        { watchedIntentions := (∅ : GoMap ServiceName _).insert ⟨"db"⟩ ⟨2⟩
          watchedConfigs := (∅ : GoMap ServiceName _).insert ⟨"db"⟩ ⟨4⟩
          watchedResolvers := (∅ : GoMap ServiceName _).insert ⟨"db"⟩ ⟨5⟩ } }
  subs := ⟨6, [(5, serviceResolverIDPrefix ++ "db"), (4, serviceConfigIDPrefix ++ "db"),
    (2, serviceIntentionsIDPrefix ++ "db"), (0, gatewayServicesWatchID), (0, rootsWatchID)]⟩

/-- Unlinking `db` cancels its five watches and drops their data; the cleanup loops are checked
in two halves. -/
theorem tgwLinkedDb_unlink :
    tgwProxy.deliver (linkServices []) tgwLinkedDb = some tgwUnlinkedDb := by
  unfold ProxyHandler.deliver
  rw [show tgwProxy.handler = .terminatingGateway from rfl, KindHandler.handleUpdate, linkServices,
    List.map_nil, handleUpdate_gatewayServices, handleGatewayServices,
    bind_ok (rfl : watchLinkedServices _ [] tgwLinkedDb = .ok () tgwLinkedDb),
    bind_ok (modifyTerminatingGateway_apply _ _),
    show cleanupOrder = [.externalService, .leaf] ++ [.config, .resolver, .intentions] from rfl,
    @cancelUnlistedAll_append _ _ _ _ tgwUnlinkingDb tgwUnlinkedDb]
  all_goals decide

/-- An instance of `db` itself, at `10.0.0.2`. -/
def dbInstance : CheckServiceNode :=
  ⟨⟨"dc1", "10.0.0.2", none⟩, ⟨.typical, "db", "10.0.0.2", none, "", "db-1", false⟩⟩

theorem tgw_unlinked_db_instances_return :
    Reachable tgwProxy tgwLinkedDb ∧
      tgwProxy.deliver (linkServices []) tgwLinkedDb = some tgwUnlinkedDb ∧
      (1, externalServiceIDPrefix ++ "db") ∈ tgwLinkedDb.subs.live ∧
      (1, externalServiceIDPrefix ++ "db") ∉ tgwUnlinkedDb.subs.live ∧
      ∃ w', tgwProxy.deliver ⟨externalServiceIDPrefix ++ (⟨"db"⟩ : ServiceName).toString,
          .indexedCheckServiceNodes [dbInstance], none⟩ tgwUnlinkedDb = some w' ∧
        w'.snap ≠ tgwUnlinkedDb.snap ∧
        w'.snap.terminatingGateway.serviceGroups.lookup ⟨"db"⟩ = some [dbInstance] ∧
        w'.snap.terminatingGateway.watchedServices =
          tgwUnlinkedDb.snap.terminatingGateway.watchedServices ∧
        w'.subs = tgwUnlinkedDb.subs :=
  ⟨reachable_tgwLinkedDb, tgwLinkedDb_unlink, by decide, by decide,
    unwatched_instances_restore_group tgwProxy rfl tgwUnlinkedDb (by decide) dbInstance []⟩

theorem deliver_serviceResolver (p : ProxyHandler) (hp : p.handler = .terminatingGateway)
    (w : ProxyState) (sn : ServiceName) (entries : List ConfigEntry) :
    p.deliver ⟨serviceResolverIDPrefix ++ sn.toString, .indexedConfigEntries entries, none⟩ w =
      some { w with snap := { w.snap with
        terminatingGateway := resolvedAfter sn entries w.snap.terminatingGateway } } := by
  unfold ProxyHandler.deliver
  rw [hp, KindHandler.handleUpdate, handleUpdate_serviceResolver, handleServiceResolver_entries,
    modifyTerminatingGateway_apply]

/-- A resolver delivery, then one without an entry (the resolver was deleted), leave the
resolver; the empty delivery alone leaves what was there before. -/
theorem resolver_outlives_empty_delivery (p : ProxyHandler) (hp : p.handler = .terminatingGateway)
    (w : ProxyState) (sn : ServiceName) (r : ServiceResolverConfigEntry)
    (hr : w.snap.terminatingGateway.serviceResolvers.lookup sn ≠ some r) :
    ∃ w₁ w₂, p.deliverAll [⟨serviceResolverIDPrefix ++ sn.toString,
          .indexedConfigEntries [.serviceResolver r], none⟩,
        ⟨serviceResolverIDPrefix ++ sn.toString, .indexedConfigEntries [], none⟩] w = some w₁ ∧
      p.deliver ⟨serviceResolverIDPrefix ++ sn.toString, .indexedConfigEntries [], none⟩ w =
        some w₂ ∧
      w₁.snap.terminatingGateway.serviceResolvers.lookup sn = some r ∧
      w₂.snap.terminatingGateway.serviceResolvers.lookup sn ≠ some r := by
  simp only [ProxyHandler.deliverAll, deliver_serviceResolver p hp, Option.some_bind]
  exact ⟨_, _, rfl, rfl, by simp, by simpa using hr⟩

theorem tgw_linked_db_resolver_outlives_deletion :
    Reachable tgwProxy tgwLinkedDb ∧ (5, serviceResolverIDPrefix ++ "db") ∈ tgwLinkedDb.subs.live ∧
      tgwLinkedDb.snap.terminatingGateway.serviceResolvers.lookup ⟨"db"⟩ ≠ some ⟨"db", "v1"⟩ ∧
      ∃ w₁ w₂, tgwProxy.deliverAll [⟨serviceResolverIDPrefix ++ (⟨"db"⟩ : ServiceName).toString,
            .indexedConfigEntries [.serviceResolver ⟨"db", "v1"⟩], none⟩,
          ⟨serviceResolverIDPrefix ++ (⟨"db"⟩ : ServiceName).toString, .indexedConfigEntries [],
            none⟩] tgwLinkedDb = some w₁ ∧
        tgwProxy.deliver ⟨serviceResolverIDPrefix ++ (⟨"db"⟩ : ServiceName).toString,
          .indexedConfigEntries [], none⟩ tgwLinkedDb = some w₂ ∧
        w₁.snap.terminatingGateway.serviceResolvers.lookup ⟨"db"⟩ = some ⟨"db", "v1"⟩ ∧
        w₂.snap.terminatingGateway.serviceResolvers.lookup ⟨"db"⟩ ≠ some ⟨"db", "v1"⟩ :=
  ⟨reachable_tgwLinkedDb, by decide, by decide,
    resolver_outlives_empty_delivery tgwProxy rfl tgwLinkedDb ⟨"db"⟩ ⟨"db", "v1"⟩ (by decide)⟩

end ConsulAgent
