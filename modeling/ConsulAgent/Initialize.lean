/-
What `handlerConnectProxy.initialize` opens, with every subscription accepted, and what it
stores in `UpstreamConfig`.
-/
import ConsulAgent.State

namespace ConsulAgent

/-! ## The effects of one upstream -/

/-- `snap.ConnectProxy.UpstreamConfig[key] = &u`. -/
def ProxyState.setUpstreamConfig (w : ProxyState) (key : String) (u : Upstream) : ProxyState :=
  let us := w.snap.connectProxy.configSnapshotUpstreams
  { w with snap := { w.snap with connectProxy := { w.snap.connectProxy with
      configSnapshotUpstreams := { us with upstreamConfig := us.upstreamConfig.insert key u } } } }

/-- A watch accepted on the proxy's own context. -/
def ProxyState.withRootWatch (w : ProxyState) (id : String) : ProxyState :=
  { w with subs := { w.subs with live := (0, id) :: w.subs.live } }

/-- The connect proxy's `UpstreamConfig`. -/
def ProxyState.upstreamConfig (w : ProxyState) : GoMap String Upstream :=
  w.snap.connectProxy.configSnapshotUpstreams.upstreamConfig

@[simp] theorem ProxyState.subs_setUpstreamConfig (w : ProxyState) (k : String) (u : Upstream) :
    (w.setUpstreamConfig k u).subs = w.subs := rfl

@[simp] theorem ProxyState.upstreamConfig_setUpstreamConfig (w : ProxyState) (k : String)
    (u : Upstream) : (w.setUpstreamConfig k u).upstreamConfig = w.upstreamConfig.insert k u := rfl

@[simp] theorem ProxyState.subs_withRootWatch (w : ProxyState) (id : String) :
    (w.withRootWatch id).subs = { w.subs with live := (0, id) :: w.subs.live } := rfl

@[simp] theorem ProxyState.upstreamConfig_withRootWatch (w : ProxyState) (id : String) :
    (w.withRootWatch id).upstreamConfig = w.upstreamConfig := rfl

namespace handlerConnectProxy

/-- Modelled from the spec: an upstream with a watch of its own, neither a wildcard, nor
centrally configured, nor in transparent mode in the local datacenter, its own or by default
the source's. -/
def watchedUpstream (s : HandlerState) (u : Upstream) : Bool :=
  let dc := if u.datacenter ≠ "" then u.datacenter else s.sourceDatacenter
  decide (u.destinationName ≠ wildcardSpecifier ∧ u.centrallyConfigured = false ∧
    ¬ (s.proxyCfg.mode = .transparent ∧ (dc = "" ∨ dc = s.sourceDatacenter)))

/-- Modelled from the spec: the watch of an upstream by its type, `upstream:` for a prepared
query and `discovery-chain:` for a service or an unset type; none for another type. -/
def upstreamWatchID (u : Upstream) : Option String :=
  if u.destinationType = upstreamDestTypePreparedQuery then some ("upstream:" ++ u.identifier)
  else if u.destinationType = upstreamDestTypeService ∨ u.destinationType = "" then
    some (discoveryChainID u.identifier)
  else none

/-- Modelled from the spec: the key `UpstreamConfig` keeps an upstream under, if any: a
wildcard's destination, the identifier of one that is not centrally configured. -/
def upstreamConfigKey (u : Upstream) : Option String :=
  if u.destinationName = wildcardSpecifier then some u.destinationName
  else if u.centrallyConfigured then none
  else some u.identifier

/-- Modelled from the spec: the watches on the proxy's own context before the upstreams'. -/
def rootWatchIDs (s : HandlerState) : List String :=
  [rootsWatchID, leafWatchID, intentionsWatchID,
    svcChecksWatchIDPrefix ++ s.proxyCfg.destinationServiceID] ++
  if s.proxyCfg.mode = .transparent then [intentionUpstreamsID, meshConfigEntryID] else []

variable {s : HandlerState}

theorem watchRootOrFail_of_accepts (hc : s.cache.Accepts) (id : String) (w : ProxyState) :
    watchRootOrFail s.cache id w = .ok () (w.withRootWatch id) := by
  simp [watchRootOrFail, notifyRoot, hc 0 id, bind, EStateM.bind, pure, EStateM.pure,
    ProxyState.withRootWatch]

/-- One upstream of the loop: what it stores, and the watch it opens or the error it returns. -/
theorem initUpstream_of_accepts (hc : s.cache.Accepts) (u : Upstream) (w : ProxyState) :
    initUpstream s u w =
      let w₁ := match upstreamConfigKey u with
        | some k => w.setUpstreamConfig k u
        | none => w
      if watchedUpstream s u then
        match upstreamWatchID u with
        | some id => .ok () (w₁.withRootWatch id)
        | none => .error (.error ("unknown upstream type: " ++ goQuote u.destinationType)) w₁
      else .ok () w₁ := by
  by_cases h1 : u.destinationName = wildcardSpecifier
  · simp [initUpstream, watchedUpstream, upstreamConfigKey, h1, modifyOwnUpstreams,
      ProxyState.setUpstreamConfig]
  by_cases h2 : u.centrallyConfigured = true
  · simp [initUpstream, watchedUpstream, upstreamConfigKey, h1, h2, pure, EStateM.pure]
  have hkey : upstreamConfigKey u = some u.identifier := by simp [upstreamConfigKey, h1, h2]
  have hcfg : modifyOwnUpstreams
      (fun us => { us with upstreamConfig := us.upstreamConfig.insert u.identifier u }) w =
      .ok () (w.setUpstreamConfig u.identifier u) := rfl
  simp only [initUpstream, h1, h2, if_false, Bool.false_eq_true, HandlerM.bind_ok hcfg, hkey]
  set dc := if u.datacenter ≠ "" then u.datacenter else s.sourceDatacenter
  by_cases h3 : s.proxyCfg.mode = .transparent ∧ (dc = "" ∨ dc = s.sourceDatacenter)
  · have hw : watchedUpstream s u = false := decide_eq_false fun h => h.2.2 h3
    rw [if_pos h3, hw]
    rfl
  have hw : watchedUpstream s u = true := decide_eq_true ⟨h1, by simpa using h2, h3⟩
  rw [if_neg h3, if_pos hw]
  unfold upstreamWatchID
  by_cases h4 : u.destinationType = upstreamDestTypePreparedQuery
  · rw [if_pos h4, if_pos h4]
    exact watchRootOrFail_of_accepts hc _ _
  rw [if_neg h4, if_neg h4]
  by_cases h5 : u.destinationType = upstreamDestTypeService ∨ u.destinationType = ""
  · rw [if_pos h5, if_pos h5]
    have hroot :
        notifyRoot s.cache (discoveryChainID u.identifier) (w.setUpstreamConfig u.identifier u) =
          .ok none ((w.setUpstreamConfig u.identifier u).withRootWatch
            (discoveryChainID u.identifier)) := by
      simp [notifyRoot, hc 0, ProxyState.withRootWatch]
    rw [HandlerM.bind_ok hroot]
    rfl
  · rw [if_neg h5, if_neg h5]
    rfl

/-- One upstream whose type, if it is watched, has a watch: what it stores and subscribes. -/
theorem initUpstream_of_known (hc : s.cache.Accepts) {u : Upstream}
    (hk : watchedUpstream s u = true → (upstreamWatchID u).isSome) (w : ProxyState) :
    ∃ w₂, initUpstream s u w = .ok () w₂ ∧
      w₂.subs = { w.subs with live :=
        (if watchedUpstream s u then (upstreamWatchID u).toList.map ((0, ·)) else []) ++
          w.subs.live } ∧
      ∀ k, w₂.upstreamConfig.lookup k =
        if upstreamConfigKey u = some k then some u else w.upstreamConfig.lookup k := by
  rw [initUpstream_of_accepts hc]
  have hcfg (k : String) : (match upstreamConfigKey u with
      | some k => w.setUpstreamConfig k u
      | none => w).upstreamConfig.lookup k =
        if upstreamConfigKey u = some k then some u else w.upstreamConfig.lookup k := by
    cases upstreamConfigKey u with
    | none => simp
    | some k' =>
      by_cases h : k' = k
      · subst h; simp
      · simp [h, AList.lookup_insert_ne (Ne.symm h)]
  cases hw : watchedUpstream s u
  · exact ⟨_, rfl, by cases upstreamConfigKey u <;> rfl, hcfg⟩
  · obtain ⟨id, hid⟩ := Option.isSome_iff_exists.1 (hk hw)
    simp only [if_true, hid, Option.toList_some, List.map_cons, List.map_nil, List.singleton_append]
    exact ⟨_, rfl, by cases upstreamConfigKey u <;> rfl, hcfg⟩

/-- The upstream loop when every watched upstream has a known type: one watch per watched
upstream in order, and under each key the last upstream stored there. -/
theorem initUpstreams_of_known (hc : s.cache.Accepts) {us : List Upstream}
    (hk : ∀ u ∈ us, watchedUpstream s u = true → (upstreamWatchID u).isSome) (w : ProxyState) :
    ∃ w', initUpstreams s us w = .ok () w' ∧
      w'.subs = { w.subs with live :=
        (((us.filter (watchedUpstream s)).filterMap upstreamWatchID).map ((0, ·))).reverse ++
          w.subs.live } ∧
      ∀ k, w'.upstreamConfig.lookup k =
        ((us.filter fun u => upstreamConfigKey u = some k).getLast?).or
          (w.upstreamConfig.lookup k) := by
  induction us generalizing w with
  | nil => exact ⟨w, rfl, by simp, by simp⟩
  | cons u rest ih =>
    obtain ⟨w₂, h₂, hsubs₂, hcfg₂⟩ := initUpstream_of_known hc (hk u (List.mem_cons_self _ _)) w
    obtain ⟨w', h', hsubs', hcfg'⟩ := ih (fun u' hu' => hk u' (List.mem_cons_of_mem _ hu')) w₂
    refine ⟨w', by rw [initUpstreams, HandlerM.bind_ok h₂, h'], ?_, fun k => ?_⟩
    · rw [hsubs', hsubs₂]
      cases hw : watchedUpstream s u
      · simp [List.filter_cons, hw]
      · obtain ⟨id, hid⟩ := Option.isSome_iff_exists.1 (hk u (List.mem_cons_self _ _) hw)
        simp [List.filter_cons, hw, hid]
    · rw [hcfg', hcfg₂]
      by_cases hku : upstreamConfigKey u = some k
      · simp only [List.filter_cons, hku, decide_True, if_true, List.getLast?_cons]
        cases (rest.filter fun u => upstreamConfigKey u = some k).getLast? <;> rfl
      · simp [List.filter_cons, hku]

/-- The upstream loop stops at the first watched upstream of an unknown type. -/
theorem initUpstreams_of_unknown (hc : s.cache.Accepts) {pre post : List Upstream} {u : Upstream}
    (hpre : ∀ u' ∈ pre, watchedUpstream s u' = true → (upstreamWatchID u').isSome)
    (hw : watchedUpstream s u = true) (hid : upstreamWatchID u = none) (w : ProxyState) :
    ∃ w', initUpstreams s (pre ++ u :: post) w =
      .error (.error ("unknown upstream type: " ++ goQuote u.destinationType)) w' := by
  induction pre generalizing w with
  | nil =>
    have h := initUpstream_of_accepts hc u w
    simp only [hw, if_true, hid] at h
    exact ⟨_, by rw [List.nil_append, initUpstreams, HandlerM.bind_error h]⟩
  | cons u' pre ih =>
    obtain ⟨w₂, h₂, -⟩ := initUpstream_of_known hc (hpre u' (List.mem_cons_self _ _)) w
    obtain ⟨w', h'⟩ := ih (fun x hx => hpre x (List.mem_cons_of_mem _ hx)) w₂
    exact ⟨w', by rw [List.cons_append, initUpstreams, HandlerM.bind_ok h₂, h']⟩

/-- The watches before the upstream loop. -/
theorem initWatches_eq (hc : s.cache.Accepts) (w : ProxyState) :
    ∃ w₀, initWatches s w = initUpstreams s s.proxyCfg.upstreams w₀ ∧
      w₀.subs = { w.subs with live := ((rootWatchIDs s).map ((0, ·))).reverse ++ w.subs.live } ∧
      w₀.upstreamConfig = w.upstreamConfig := by
  obtain ⟨wp, hp, hsubs, hcfg⟩ : ∃ wp, modifyOwnUpstreams
      (fun us => { us with passthroughUpstreams := some ∅ }) w = .ok () wp ∧
      wp.subs = w.subs ∧ wp.upstreamConfig = w.upstreamConfig := ⟨_, rfl, rfl, rfl⟩
  have hroot := watchRootOrFail_of_accepts hc
  unfold initWatches
  simp only [HandlerM.bind_ok hp, HandlerM.bind_ok (hroot _ _)]
  by_cases ht : s.proxyCfg.mode = .transparent
  · rw [if_pos ht, HandlerM.bind_ok (hroot _ _), HandlerM.bind_ok (hroot _ _)]
    exact ⟨_, rfl, by simp [rootWatchIDs, ht, hsubs], hcfg⟩
  · rw [if_neg ht]
    exact ⟨_, rfl, by simp [rootWatchIDs, ht, hsubs], hcfg⟩

/-- `initialize` with every subscription accepted: it opens the root watches and one watch per
watched upstream, in order, storing the last upstream of each key in `UpstreamConfig`, or returns
the error of the first watched upstream of unknown type. -/
theorem initialize_opens_root_and_upstream_watches (s : HandlerState) (hc : s.cache.Accepts)
    (w : ProxyState) :
    ((∀ u ∈ s.proxyCfg.upstreams, watchedUpstream s u = true → (upstreamWatchID u).isSome) →
      ∃ w', initWatches s w = .ok () w' ∧
        w'.subs = { w.subs with live := ((rootWatchIDs s ++
          (s.proxyCfg.upstreams.filter (watchedUpstream s)).filterMap upstreamWatchID).map
            ((0, ·))).reverse ++ w.subs.live } ∧
        ∀ k, w'.upstreamConfig.lookup k =
          ((s.proxyCfg.upstreams.filter fun u => upstreamConfigKey u = some k).getLast?).or
            (w.upstreamConfig.lookup k)) ∧
    (∀ pre u post, s.proxyCfg.upstreams = pre ++ u :: post →
      (∀ u' ∈ pre, watchedUpstream s u' = true → (upstreamWatchID u').isSome) →
      watchedUpstream s u = true → upstreamWatchID u = none →
      ∃ w', initWatches s w =
        .error (.error ("unknown upstream type: " ++ goQuote u.destinationType)) w') := by
  obtain ⟨w₀, h₀, hsubs₀, hcfg₀⟩ := initWatches_eq hc w
  refine ⟨fun hk => ?_, fun pre u post e hpre hw hid => ?_⟩
  · obtain ⟨w', h', hsubs', hcfg'⟩ := initUpstreams_of_known hc hk w₀
    refine ⟨w', h₀.trans h', by simp [hsubs', hsubs₀], fun k => by rw [hcfg', hcfg₀]⟩
  · rw [h₀, e]
    exact initUpstreams_of_unknown hc hpre hw hid w₀

/-- A transparent proxy `web` of `dc1` with a prepared query in `dc3`, a service in `dc2`, a
local service (no watch of its own) and wildcard defaults. -/
def transparentWeb : HandlerState :=
  acceptingHandlerState .connectProxy ⟨"web", "web", .transparent,
    [⟨upstreamDestTypePreparedQuery, "", "geo-db", "dc3", 9191, [], [], false⟩,
      ⟨"", "", "billing", "dc2", 9292, [], [], false⟩,
      ⟨upstreamDestTypeService, "", "cache", "", 9393, [], [], false⟩,
      ⟨"", "", wildcardSpecifier, "", 0, [], [("protocol", "http")], false⟩]⟩

theorem initialize_opens_root_and_upstream_watches_transparentWeb :
    ∃ w', initWatches transparentWeb ⟨newConfigSnapshotFromServiceInstance transparentWeb, {}⟩ =
      .ok () w' ∧ w'.subs.live.length = 8 := by
  obtain ⟨w', h, hsubs, -⟩ := (initialize_opens_root_and_upstream_watches transparentWeb
    (acceptingHandlerState_accepts _ _).1 ⟨newConfigSnapshotFromServiceInstance transparentWeb, {}⟩).1
      (by decide)
  exact ⟨w', h, by rw [hsubs]; decide⟩

/-- Two upstreams of `web` with one identifier, `db`: one of unset type, one of type
`service`. -/
def webWithTwoDb : HandlerState :=
  acceptingHandlerState .connectProxy ⟨"web", "web", .default,
    [⟨"", "", "db", "", 9191, [], [], false⟩,
      ⟨upstreamDestTypeService, "", "db", "", 9292, [], [], false⟩]⟩

/-- `UpstreamConfig` keeps one upstream per key: of two upstreams with the identifier `db`,
only the last is stored. -/
theorem initialize_keeps_last_upstream_of_identifier :
    ∃ w', initWatches webWithTwoDb ⟨newConfigSnapshotFromServiceInstance webWithTwoDb, {}⟩ =
      .ok () w' ∧ w'.upstreamConfig.lookup "db" =
        some ⟨upstreamDestTypeService, "", "db", "", 9292, [], [], false⟩ ∧
      (⟨"", "", "db", "", 9191, [], [], false⟩ : Upstream) ∈ webWithTwoDb.proxyCfg.upstreams ∧
      (⟨"", "", "db", "", 9191, [], [], false⟩ : Upstream).identifier = "db" := by
  have hc : webWithTwoDb.cache.Accepts := (acceptingHandlerState_accepts _ _).1
  obtain ⟨w₀, h₀, -, hcfg₀⟩ :=
    initWatches_eq hc ⟨newConfigSnapshotFromServiceInstance webWithTwoDb, {}⟩
  obtain ⟨w', h', -, hcfg'⟩ :=
    @initUpstreams_of_known webWithTwoDb hc webWithTwoDb.proxyCfg.upstreams (by decide) w₀
  exact ⟨w', h₀.trans h', by rw [hcfg', hcfg₀]; decide, by decide, by decide⟩

end handlerConnectProxy

end ConsulAgent
