import L2tvpp.Syncd.Recovery

/-!
# The plugin as a map from keys to interfaces

The daemon knows a session by its key and reaches it by its interface.  What an
operation does is stated here for every record and every plugin, and whether
its calls are accepted or not.
-/

namespace L2tvpp.Syncd

open L2tvpp.Lib L2tvpp.Plugin

variable {cfg : Config} {w w' : World} {v v' : Vpp}

/-- The interface of the session that the plugin finds under a key. -/
def interfaceOf (v : Vpp) (key : SessionKey) : Option Nat :=
  ((v.lm.sessionByKey.lookup (l2tvppSessionKey key.1 key.2)).bind
    v.lm.sessions.elt?).map L2tvppSession.swIfIndex

theorem interfaceOf_some (hstore : StoreInv v) {key : SessionKey}
    {swIfIndex : Nat} :
    interfaceOf v key = some swIfIndex ↔ ∃ index sess,
      v.lm.sessions.elt? index = some sess ∧ ids sess = key ∧
        sess.swIfIndex = swIfIndex := by
  simp only [interfaceOf, Option.map_eq_some_iff, Option.bind_eq_some_iff]
  constructor
  · rintro ⟨sess, ⟨index, hfind, hsess⟩, rfl⟩
    obtain ⟨sess', hsess', hkey⟩ := hstore.byKey.some_iff.mp hfind
    rw [hsess] at hsess'
    cases hsess'
    obtain ⟨htid, hsid⟩ := l2tvppSessionKey_inj.mp hkey
    exact ⟨index, sess, hsess, Prod.ext htid hsid, rfl⟩
  · rintro ⟨index, sess, hsess, rfl, rfl⟩
    exact ⟨sess, ⟨index, hstore.byKey.find hsess, hsess⟩, rfl⟩

theorem interfaceOf_live (hstore : StoreInv v) {index : Nat}
    {sess : L2tvppSession} (hsess : v.lm.sessions.elt? index = some sess) :
    interfaceOf v (ids sess) = some sess.swIfIndex :=
  (interfaceOf_some hstore).mpr ⟨index, sess, hsess, rfl, rfl⟩

theorem interfaceOf_ne_nextIndex {P : Policies} (hstore : StoreInv v)
    (key : SessionKey) :
    interfaceOf v key ≠ some (v.swInterfaces.nextIndex P.swInterfaces) := by
  intro hlive
  obtain ⟨index, sess, hsess, -, hsw⟩ := (interfaceOf_some hstore).mp hlive
  exact hstore.nextIndex_fresh hsess hsw

theorem sessionLive_iff (hstore : StoreInv v) {key : SessionKey} :
    SessionLive v key ↔ interfaceOf v key ≠ none := by
  rw [Option.ne_none_iff_exists']
  constructor
  · rintro ⟨index, sess, hsess, rfl⟩
    exact ⟨sess.swIfIndex, interfaceOf_live hstore hsess⟩
  · rintro ⟨swIfIndex, hkey⟩
    obtain ⟨index, sess, hsess, hids, -⟩ := (interfaceOf_some hstore).mp hkey
    exact ⟨index, sess, hsess, hids⟩

theorem interfaceOf_inj (hstore : StoreInv v) {key key' : SessionKey}
    {swIfIndex : Nat} (h : interfaceOf v key = some swIfIndex)
    (h' : interfaceOf v key' = some swIfIndex) : key = key' := by
  obtain ⟨index, sess, hsess, rfl, hsw⟩ := (interfaceOf_some hstore).mp h
  obtain ⟨index', sess', hsess', rfl, hsw'⟩ := (interfaceOf_some hstore).mp h'
  have hindex := hstore.bySwIfIndex.index_eq hsess hsess' (hsw.trans hsw'.symm)
  rw [hindex, hsess'] at hsess
  cases hsess
  rfl

theorem lookup_none_iff (hstore : StoreInv v) {key : SessionKey} :
    v.lm.sessionByKey.lookup (l2tvppSessionKey key.1 key.2) = none ↔
      interfaceOf v key = none := by
  constructor
  · intro hfind
    simp [interfaceOf, hfind]
  · intro hnone
    rw [Option.eq_none_iff_forall_ne_some]
    intro index hfind
    obtain ⟨sess, hsess, hkey⟩ := hstore.byKey.some_iff.mp hfind
    obtain ⟨htid, hsid⟩ := l2tvppSessionKey_inj.mp hkey
    have hlive := interfaceOf_live hstore hsess
    rw [show ids sess = key from Prod.ext htid hsid, hnone] at hlive
    contradiction

/-- A route call is accepted for the interface of a session. -/
theorem sessionIndexOf_iff (hstore : StoreInv v) {swIfIndex : Nat} :
    (∃ index, v.lm.sessionIndexOf swIfIndex = some index) ↔
      ∃ key, interfaceOf v key = some swIfIndex := by
  constructor
  · rintro ⟨index, hindex⟩
    obtain ⟨sess, hsess, rfl⟩ := hstore.bySwIfIndex.some_iff.mp hindex
    exact ⟨ids sess, interfaceOf_live hstore hsess⟩
  · rintro ⟨key, hkey⟩
    obtain ⟨index, sess, hsess, -, rfl⟩ := (interfaceOf_some hstore).mp hkey
    exact ⟨index, hstore.bySwIfIndex.find hsess⟩

/-! ## What the calls do to it -/

theorem interfaceOf_sameStore (h : SameStore v v') :
    interfaceOf v' = interfaceOf v := by
  funext key
  simp only [interfaceOf, h.sessionByKey]
  cases v.lm.sessionByKey.lookup (l2tvppSessionKey key.1 key.2) with
  | none => rfl
  | some index =>
      have hsessions := congrArg (Option.map L2tvppSession.swIfIndex)
        (h.sessions index)
      simp only [Option.map_map] at hsessions
      exact hsessions

theorem interfaceOf_sessionAdd {P : Policies} {tunnelIndex : Nat}
    {t : L2tvppTunnel} {localSid peerSid : U16} {acfc pfc : U8}
    (hstore : StoreInv v)
    (hfree : v.lm.sessionByKey.lookup
      (l2tvppSessionKey t.localTid localSid) = none) :
    interfaceOf (v.sessionAdd P tunnelIndex t localSid peerSid acfc pfc) =
      Function.update (interfaceOf v) (t.localTid, localSid)
        (some (v.swInterfaces.nextIndex P.swInterfaces)) := by
  have hstore' : StoreInv
      (v.sessionAdd P tunnelIndex t localSid peerSid acfc pfc) :=
    hstore.sessionAdd hfree
  funext key
  apply Option.ext
  intro swIfIndex
  rw [interfaceOf_some hstore', Function.update_apply]
  constructor
  · rintro ⟨index, sess, hsess, rfl, rfl⟩
    rw [sessionAdd_sessions] at hsess
    split at hsess
    · cases hsess
      exact if_pos rfl
    · have hlive := interfaceOf_live hstore hsess
      have hnone : interfaceOf v (t.localTid, localSid) = none :=
        (lookup_none_iff hstore).mp hfree
      rw [if_neg, hlive]
      intro hids
      rw [hids, hnone] at hlive
      contradiction
  · intro hnew
    split at hnew
    · rename_i hkey
      cases hnew
      exact ⟨v.lm.sessions.nextIndex P.sessions,
        v.newSession P tunnelIndex t localSid peerSid acfc pfc,
        (sessionAdd_sessions ..).trans (if_pos rfl), hkey.symm, rfl⟩
    · obtain ⟨index, sess, hsess, hids, hsw⟩ :=
        (interfaceOf_some hstore).mp hnew
      exact ⟨index, sess, Pool.elt?_get_of_live P.sessions _ _ hsess, hids, hsw⟩

theorem interfaceOf_sessionDel {tunnelIndex index : Nat} {tid sid : U16}
    {sess : L2tvppSession} (hstore : StoreInv v)
    (hkey : v.lm.sessionByKey.lookup (l2tvppSessionKey tid sid) = some index)
    (hsess : v.lm.sessions.elt? index = some sess) :
    interfaceOf (v.sessionDel tunnelIndex (l2tvppSessionKey tid sid) index
      sess) = Function.update (interfaceOf v) (tid, sid) none := by
  have hstore' : StoreInv (v.sessionDel tunnelIndex (l2tvppSessionKey tid sid)
      index sess) := hstore.sessionDel hkey hsess
  have hids : ids sess = (tid, sid) := by
    obtain ⟨sess', hsess', hkey'⟩ := hstore.byKey.some_iff.mp hkey
    rw [hsess] at hsess'
    cases hsess'
    obtain ⟨htid, hsid⟩ := l2tvppSessionKey_inj.mp hkey'
    exact Prod.ext htid hsid
  funext key
  apply Option.ext
  intro swIfIndex
  rw [interfaceOf_some hstore', Function.update_apply]
  constructor
  · rintro ⟨other, sess', hsess', rfl, rfl⟩
    rw [sessionDel_sessions] at hsess'
    split at hsess'
    · contradiction
    · rename_i hne
      rw [if_neg, interfaceOf_live hstore hsess']
      intro heq
      exact hne (hstore.byKey.index_eq hsess' hsess
        (key_eq_iff.mpr (heq.trans hids.symm)))
  · intro hold
    split at hold
    · contradiction
    · rename_i hne
      obtain ⟨other, sess', hsess', rfl, hsw⟩ :=
        (interfaceOf_some hstore).mp hold
      refine ⟨other, sess', ?_, rfl, hsw⟩
      rw [sessionDel_sessions, if_neg, hsess']
      rintro rfl
      rw [hsess] at hsess'
      cases hsess'
      exact hne hids

/-! ## Routes -/

/-- A loop of route calls, whether they are accepted or not: they are if the
interface is a session's. -/
structure RoutesTried (isAdd : Bool) (swIfIndex : Option Nat)
    (pfxs : List IpPrefix) (w w' : World) : Prop where
  installed : w'.installed = w.installed
  sameStore : SameStore w.vpp w'.vpp
  live : ∀ index key, swIfIndex = some index →
    interfaceOf w.vpp key = some index →
    RoutesChanged isAdd pfxs index w.vpp w'.vpp
  dead : (∀ index key, swIfIndex = some index →
    interfaceOf w.vpp key ≠ some index) → w'.vpp = w.vpp

namespace RoutesTried

variable {pfxs : List IpPrefix} {swIfIndex : Option Nat} {isAdd : Bool}

theorem nil (w : World) : RoutesTried isAdd swIfIndex [] w w where
  installed := rfl
  sameStore := SameStore.refl _
  live := fun _ _ _ _ => RoutesChanged.nil _
  dead := fun _ => rfl

theorem logged {m : World} {pfx : IpPrefix} (hstore : StoreInv w.vpp)
    (h : RoutesTried isAdd swIfIndex pfxs w m) :
    RoutesTried isAdd swIfIndex (pfxs ++ [pfx]) w
      (m.logged cfg (.routeAddDel isAdd pfx swIfIndex)) := by
  obtain ⟨hinstalled, hsame, hlive, hdead⟩ := h
  have hstore' := hstore.of_sameStore hsame
  cases hok : (handle cfg.policies m.vpp
      (.routeAddDel isAdd pfx swIfIndex)).1.ok with
  | false =>
      simp only [World.logged, handle_rejected hok]
      refine ⟨hinstalled, hsame, ?_, hdead⟩
      rintro index key rfl hkey
      rw [← interfaceOf_sameStore hsame] at hkey
      obtain ⟨i, hi⟩ := (sessionIndexOf_iff hstore').mpr ⟨key, hkey⟩
      rw [routeAddDel_accepts hi] at hok
      contradiction
  | true =>
      obtain ⟨index, rfl, hroute⟩ := routeAddDel_accepted hok
      refine ⟨hinstalled, hsame.trans (sameStore_l2tvppRouteAddDel hroute), ?_,
        ?_⟩
      · rintro index' key heq hkey
        cases heq
        exact (hlive index key rfl hkey).snoc hroute
      · intro hnone
        obtain ⟨hi, -⟩ := l2tvppRouteAddDel_ok hroute
        obtain ⟨key, hkey⟩ := (sessionIndexOf_iff hstore').mp hi
        rw [interfaceOf_sameStore hsame] at hkey
        exact absurd hkey (hnone index key rfl)

end RoutesTried

theorem forM_route_run {pfxs : List IpPrefix} {swIfIndex : Option Nat}
    {isAdd : Bool} (hstore : StoreInv w.vpp)
    (h : exec (pfxs.forM fun pfx => route cfg pfx swIfIndex isAdd) w =
      (.ok (), w')) : RoutesTried isAdd swIfIndex pfxs w w' := by
  refine exec_forM_invariant (fun done m =>
    RoutesTried isAdd swIfIndex done w m) ?_ (RoutesTried.nil w) h
  intro done pfx rest _ m m' hm hround
  obtain rfl := route_run hround
  exact hm.logged hstore

/-! ## Adding a session -/

section Added

variable {pppRoutes : PppRoutes} {s : KSession} {cache cache' : TunnelsCache}
  {tunnelIndex : Option Nat} {routes : List IpPrefix}

theorem ensureTunnel_some {index : Nat}
    (h : exec (ensureTunnel cfg s cache) w =
      (.ok (some index, cache'), w')) :
    w'.installed = w.installed ∧
      TunnelEnsured cfg s cache w.vpp (some index) cache' w'.vpp := by
  rcases ensureTunnel_run h with ⟨hcache, rfl, rfl⟩ |
    ⟨localIp, localPort, hcache, hlocal, hindex, rfl, rfl⟩
  · exact ⟨rfl, .cached hcache⟩
  · have hok : (handle cfg.policies w.vpp
        (s.tunnelCall localIp localPort)).1.ok = true := by
      by_contra hno
      rw [(handle_not_ok (Bool.eq_false_of_not_eq_true hno)).1] at hindex
      contradiction
    obtain ⟨⟨-, -, hfind⟩, hhandle⟩ := tunnelAdd_accepted hok
    rw [KSession.tunnelCall, hhandle] at hindex
    simp only [World.logged, KSession.tunnelCall, hhandle, hindex]
    exact ⟨trivial, .added hcache hlocal hfind⟩

/-- A tunnel touches neither sessions nor routes nor interfaces. -/
theorem TunnelEnsured.frame
    (h : TunnelEnsured cfg s cache v tunnelIndex cache' v') :
    (StoreInv v → StoreInv v') ∧ interfaceOf v' = interfaceOf v ∧
      v'.fib = v.fib ∧ v'.swInterfaces = v.swInterfaces := by
  cases h with
  | cached hcache => exact ⟨id, rfl, rfl, rfl⟩
  | added hcache hlocal hfind =>
      exact ⟨fun hstore => hstore.tunnelAdd hfind, rfl, rfl, rfl⟩

theorem TunnelEnsured.localTid {index : Nat}
    (h : TunnelEnsured cfg s cache v (some index) cache' v')
    (hcache : CacheTid v cache) {t : L2tvppTunnel}
    (ht : v'.lm.tunnels.elt? index = some t) : t.localTid = s.localTid := by
  cases h with
  | cached hget =>
      obtain ⟨t', ht', htid⟩ := hcache _ _ hget
      rw [ht] at ht'
      cases ht'
      exact htid
  | added hget hlocal hfind =>
      simp only [Vpp.tunnelAdd, Pool.elt?_get_nextIndex] at ht
      cases ht
      rfl

/-- What an accepted session leaves in the plugin and in the record. -/
structure AddedSession (cfg : Config) (s : KSession) (routes : List IpPrefix)
    (w w' : World) : Prop where
  store : StoreInv w'.vpp
  free : interfaceOf w.vpp s.sessionKey = none
  interface : interfaceOf w'.vpp =
    Function.update (interfaceOf w.vpp) s.sessionKey
      (some (w.vpp.swInterfaces.nextIndex cfg.policies.swInterfaces))
  fib : ∀ path, path ∈ w'.vpp.fib ↔ path ∈ w.vpp.fib ∨ ∃ pfx ∈ routes,
    path = (pfx.decode,
      w.vpp.swInterfaces.nextIndex cfg.policies.swInterfaces)
  installed : ∃ tunnelIndex, w'.installed.get? =
    Function.update w.installed.get? s.sessionKey
      (some (s.record
        (some (w.vpp.swInterfaces.nextIndex cfg.policies.swInterfaces))
        tunnelIndex routes))
  upcoming : ∀ n, w'.vpp.swInterfaces.upcoming cfg.policies.swInterfaces n =
    w.vpp.swInterfaces.upcoming cfg.policies.swInterfaces (n + 1)

theorem SessionAdded.added (h : SessionAdded cfg s routes cache cache' w w')
    (hstore : StoreInv w.vpp) (hcache : CacheTid w.vpp cache) :
    AddedSession cfg s routes w w' := by
  obtain ⟨htunnel, ht, hkey, rfl, hroutes, hinstalled⟩ := h
  rename_i index t v
  obtain ⟨hstore', hsame, hfib, hinterfaces⟩ := htunnel.frame
  have htid := htunnel.localTid hcache ht
  rw [htid] at hkey
  have hadded : interfaceOf
      (v.sessionAdd cfg.policies index t s.localSid s.peerSid 0 0) =
        Function.update (interfaceOf v) (t.localTid, s.localSid)
          (some (v.swInterfaces.nextIndex cfg.policies.swInterfaces)) :=
    interfaceOf_sessionAdd (hstore' hstore) (htid ▸ hkey)
  rw [htid, hsame, hinterfaces] at hadded
  rw [hinterfaces] at hinstalled hroutes
  refine ⟨((hstore' hstore).sessionAdd (htid ▸ hkey)).of_sameStore
    hroutes.sameStore, ?_, ?_, ?_, ⟨some index, ?_⟩, ?_⟩
  · rw [← hsame]
    exact (lookup_none_iff (hstore' hstore)).mp hkey
  · rw [interfaceOf_sameStore hroutes.sameStore]
    exact hadded
  · intro path
    rw [hroutes.fib path, if_pos rfl]
    change path ∈ v.fib ∨ _ ↔ _
    rw [hfib]
  · rw [hinstalled, get?_set_eq_update]
  · intro n
    rw [hroutes.sameStore.swInterfaces]
    change (v.swInterfaces.get _ _).upcoming _ n = _
    rw [Pool.upcoming_get, hinterfaces]

theorem addSession_accepted {index : Nat} {middle routed : World}
    {swIfIndex : Option Nat} (hstore : StoreInv w.vpp)
    (hensure : exec (ensureTunnel cfg s cache) w =
      (.ok (some index, cache'), middle))
    (haccepted : (handle cfg.policies middle.vpp
      (s.sessionCall (some index))).1.ok = true)
    (hsw : swIfIndex = (handle cfg.policies middle.vpp
      (s.sessionCall (some index))).1.index)
    (hforM : exec (routes.forM fun pfx => route cfg pfx swIfIndex true)
      (middle.logged cfg (s.sessionCall (some index))) = (.ok (), routed)) :
    SessionAdded cfg s routes cache cache' w { routed with
      installed := routed.installed.set s.sessionKey
        (s.record swIfIndex (some index) routes) } := by
  obtain ⟨hinstalled, htunnel⟩ := ensureTunnel_some hensure
  obtain ⟨index', t, heq, ht, hkey, hhandle⟩ := sessionAdd_accepted haccepted
  cases heq
  simp only [KSession.sessionCall, hhandle] at hsw
  subst hsw
  have hstore' := htunnel.frame.1 hstore
  have hadded : interfaceOf
      (middle.logged cfg (s.sessionCall (some index))).vpp
        (t.localTid, s.localSid) =
      some (middle.vpp.swInterfaces.nextIndex cfg.policies.swInterfaces) := by
    simp only [World.logged, KSession.sessionCall, hhandle]
    rw [interfaceOf_sessionAdd hstore' hkey, Function.update_self]
  have hlogged : StoreInv
      (middle.logged cfg (s.sessionCall (some index))).vpp := by
    simp only [World.logged, KSession.sessionCall, hhandle]
    exact hstore'.sessionAdd hkey
  obtain ⟨hinstalled', -, hlive, -⟩ := forM_route_run hlogged hforM
  have hchanged := hlive _ _ rfl hadded
  simp only [World.logged, KSession.sessionCall, hhandle]
    at hchanged hinstalled'
  refine .intro htunnel ht hkey rfl hchanged ?_
  simp only [hinstalled', hinstalled]
  rfl

/-- With a free key and a tunnel that is there or can be added, the session is
accepted. -/
theorem addSession_added (hstore : StoreInv w.vpp)
    (hsound : CacheSound w.vpp cache)
    (hfree : interfaceOf w.vpp s.sessionKey = none)
    (hopen : cache.get? s.tunnelKey = none → ip4Endpoints cfg s = true ∧
      l2tvppTunnelFind w.vpp.lm s.peerIp.decode s.peerPort s.localTid = none)
    (h : exec (addSession cfg pppRoutes s cache) w = (.ok cache', w')) :
    SessionAdded cfg s (s.fetchRoutes pppRoutes) cache cache' w w' := by
  obtain ⟨tunnelIndex, middle, swIfIndex, routed, hensure, hsw, hforM, rfl⟩ :=
    addSession_run h
  obtain ⟨index, rfl⟩ : ∃ index, tunnelIndex = some index := by
    rcases ensureTunnel_run hensure with ⟨hcache, -, -⟩ |
      ⟨localIp, localPort, hcache, hlocal, rfl, -, -⟩
    · obtain ⟨index, -, hindex, -⟩ := hsound _ _ hcache
      exact ⟨index, hindex⟩
    · obtain ⟨hip4, hfind⟩ := hopen hcache
      rw [ip4Endpoints, hlocal, Bool.and_eq_true] at hip4
      have haccepts : (handle cfg.policies w.vpp
          (s.tunnelCall localIp localPort)).1.ok = true :=
        tunnelAdd_accepts hip4.1 hip4.2 hfind
      obtain ⟨-, hhandle⟩ := tunnelAdd_accepted haccepts
      rw [KSession.tunnelCall, hhandle]
      exact ⟨_, rfl⟩
  obtain ⟨-, htunnel⟩ := ensureTunnel_some hensure
  obtain ⟨hsound', hcached⟩ := htunnel.cacheSound hsound
  obtain ⟨_, t, heq, ht, -, -, htid⟩ := hsound' _ _ hcached
  cases heq
  obtain ⟨hstore', hsame, -⟩ := htunnel.frame
  have hkey : middle.vpp.lm.sessionByKey.lookup
      (l2tvppSessionKey t.localTid s.localSid) = none := by
    rw [← hsame] at hfree
    have hlookup := (lookup_none_iff (hstore' hstore)).mpr hfree
    rw [htid]
    exact hlookup
  have haccepted : (handle cfg.policies middle.vpp
      (s.sessionCall (some index))).1.ok = true := sessionAdd_accepts ht hkey
  exact addSession_accepted hstore hensure haccepted hsw hforM

/-- Nothing but the tunnels has changed, and none of them is gone. -/
structure SessionsKept (v v' : Vpp) : Prop where
  store : StoreInv v'
  interface : interfaceOf v' = interfaceOf v
  fib : v'.fib = v.fib
  tunnels : TunnelsKept v v'

theorem SessionsKept.refl (hstore : StoreInv v) : SessionsKept v v where
  store := hstore
  interface := rfl
  fib := rfl
  tunnels := tunnelsKept_of_sameStore (SameStore.refl v)

theorem sessionsKept_tunnelCall (hstore : StoreInv w.vpp)
    (localIp : IpAddress) (localPort : U16) :
    SessionsKept w.vpp (w.logged cfg (s.tunnelCall localIp localPort)).vpp := by
  cases hok : (handle cfg.policies w.vpp
      (s.tunnelCall localIp localPort)).1.ok with
  | false =>
      simp only [World.logged, handle_rejected hok]
      exact .refl hstore
  | true =>
      obtain ⟨⟨-, -, hfind⟩, hhandle⟩ := tunnelAdd_accepted hok
      simp only [World.logged, KSession.tunnelCall, hhandle]
      exact ⟨hstore.tunnelAdd hfind, rfl, rfl, tunnelsKept_tunnelAdd⟩

theorem ensureTunnel_kept (hstore : StoreInv w.vpp)
    (h : exec (ensureTunnel cfg s cache) w = (.ok (tunnelIndex, cache'), w')) :
    w'.installed = w.installed ∧ SessionsKept w.vpp w'.vpp := by
  rcases ensureTunnel_run h with ⟨hcache, rfl, rfl⟩ |
    ⟨localIp, localPort, hcache, hlocal, hindex, rfl, rfl⟩
  · exact ⟨rfl, .refl hstore⟩
  · exact ⟨rfl, sessionsKept_tunnelCall hstore localIp localPort⟩

/-- A rejected session leaves a record without an interface. -/
structure RejectedSession (s : KSession) (routes : List IpPrefix)
    (w w' : World) : Prop extends SessionsKept w.vpp w'.vpp where
  installed : ∃ tunnelIndex, w'.installed.get? =
    Function.update w.installed.get? s.sessionKey
      (some (s.record none tunnelIndex routes))

/-- `add_session` adds the session or only a record of it. -/
theorem addSession_cases (hstore : StoreInv w.vpp)
    (hcache : CacheTid w.vpp cache)
    (h : exec (addSession cfg pppRoutes s cache) w = (.ok cache', w')) :
    CacheTid w'.vpp cache' ∧
    (SessionAdded cfg s (s.fetchRoutes pppRoutes) cache cache' w w' ∧
        (cache.get? s.tunnelKey = none → ip4Endpoints cfg s = true ∧
          l2tvppTunnelFind w.vpp.lm s.peerIp.decode s.peerPort s.localTid =
            none) ∨
      RejectedSession s (s.fetchRoutes pppRoutes) w w') := by
  refine ⟨(addSession_live hcache h).1, ?_⟩
  obtain ⟨tunnelIndex, middle, swIfIndex, routed, hensure, hsw, hforM, rfl⟩ :=
    addSession_run h
  obtain ⟨-, -, -, hopen⟩ := ensureTunnel_cacheTid hcache hensure
  cases hok : (handle cfg.policies middle.vpp
      (s.sessionCall tunnelIndex)).1.ok with
  | true =>
      obtain ⟨index, _, rfl, -⟩ := sessionAdd_accepted hok
      exact .inl ⟨addSession_accepted hstore hensure hok hsw hforM,
        hopen (by simp)⟩
  | false =>
      obtain ⟨hinstalled, hkept⟩ := ensureTunnel_kept hstore hensure
      rw [(handle_not_ok hok).1] at hsw
      subst hsw
      have hvpp : (middle.logged cfg (s.sessionCall tunnelIndex)).vpp =
          middle.vpp := handle_rejected hok
      obtain ⟨hinstalled', -, -, hdead⟩ :=
        forM_route_run (hvpp ▸ hkept.store) hforM
      have hrouted := (hdead (by simp)).trans hvpp
      refine .inr ⟨?_, ⟨tunnelIndex, ?_⟩⟩
      · exact hrouted ▸ hkept
      · rw [get?_set_eq_update, hinstalled']
        change Function.update middle.installed.get? _ _ = _
        rw [hinstalled]

end Added

/-! ## One round of the first loop -/

/-- The routes of a session are synced over the interface in its record. -/
structure SyncedSession (cfg : Config) (key : SessionKey)
    (wantRoutes : List IpPrefix) (rec : InstalledRec) (w w' : World) :
    Prop where
  sameStore : SameStore w.vpp w'.vpp
  installed : ∃ routes, (∀ pfx, pfx ∈ routes ↔ pfx ∈ wantRoutes) ∧
    w'.installed.get? = Function.update w.installed.get? key
      (some { rec with routes := routes })
  live : ∀ swIfIndex other, rec.swIfIndex = some swIfIndex →
    interfaceOf w.vpp other = some swIfIndex → ∃ v,
      RoutesChanged true (cfg.setOrder.list (setDiff wantRoutes rec.routes))
        swIfIndex w.vpp v ∧
      RoutesChanged false (cfg.setOrder.list (setDiff rec.routes wantRoutes))
        swIfIndex v w'.vpp
  dead : (∀ swIfIndex other, rec.swIfIndex = some swIfIndex →
    interfaceOf w.vpp other ≠ some swIfIndex) → w'.vpp = w.vpp

theorem syncRoutes_synced {pppRoutes : PppRoutes} {s : KSession}
    {rec : InstalledRec} (hstore : StoreInv w.vpp)
    (hrec : w.installed.get? s.sessionKey = some rec)
    (h : exec (syncRoutes cfg pppRoutes s) w = (.ok (), w')) :
    SyncedSession cfg s.sessionKey (s.fetchRoutes pppRoutes) rec w w' := by
  obtain ⟨_, routes, added, deleted, hrec', hadd, hdel, hroutes, hvpp, -,
    hwrite⟩ := syncRoutes_run h
  rw [hrec] at hrec'
  cases hrec'
  obtain ⟨hinstalled, hsame, hlive, hdead⟩ := forM_route_run hstore hadd
  obtain ⟨hinstalled', hsame', hlive', hdead'⟩ :=
    forM_route_run (hstore.of_sameStore hsame) hdel
  rw [interfaceOf_sameStore hsame] at hlive' hdead'
  refine ⟨?_, ⟨routes, hroutes, hwrite (hinstalled'.trans hinstalled)⟩, ?_, ?_⟩
  · rw [hvpp]
    exact hsame.trans hsame'
  · intro swIfIndex other hsw hother
    rw [hvpp]
    exact ⟨added.vpp, hlive _ other hsw hother, hlive' _ other hsw hother⟩
  · intro hnone
    rw [hvpp, hdead' hnone, hdead hnone]

/-- What a round does, whether its calls are accepted or not. -/
inductive EntryTried (cfg : Config) (pass : Pass)
    (entry : SessionKey × KSession) (cache cache' : TunnelsCache)
    (w w' : World) : Prop
  | added (hnew : w.installed.get? entry.1 = none)
      (h : SessionAdded cfg entry.2 (entry.2.fetchRoutes pass.pppRoutes) cache
        cache' w w')
      (hopen : cache.get? entry.2.tunnelKey = none →
        ip4Endpoints cfg entry.2 = true ∧
        l2tvppTunnelFind w.vpp.lm entry.2.peerIp.decode entry.2.peerPort
          entry.2.localTid = none)
  | rejected (hnew : w.installed.get? entry.1 = none)
      (h : RejectedSession entry.2 (entry.2.fetchRoutes pass.pppRoutes) w w')
  | synced {rec : InstalledRec} (hsync : pass.syncExistingRoutes = true)
      (hold : w.installed.get? entry.1 = some rec) (hcache : cache' = cache)
      (h : SyncedSession cfg entry.1 (entry.2.fetchRoutes pass.pppRoutes) rec
        w w')
  | kept {rec : InstalledRec} (hsync : pass.syncExistingRoutes = false)
      (hold : w.installed.get? entry.1 = some rec) (hcache : cache' = cache)
      (hw : w' = w)

theorem reconcileSession_tried {pass : Pass} {entry : SessionKey × KSession}
    {acc acc' : Nat × TunnelsCache} (hstore : StoreInv w.vpp)
    (hcache : CacheTid w.vpp acc.2) (hkey : entry.1 = entry.2.sessionKey)
    (h : exec (reconcileSession cfg pass acc entry) w = (.ok acc', w')) :
    CacheTid w'.vpp acc'.2 ∧ EntryTried cfg pass entry acc.2 acc'.2 w w' := by
  rcases reconcileSession_run h with ⟨hnew, -, hadd⟩ |
    ⟨rec, hrec, rfl, ⟨hsync, hroutes⟩ | ⟨hsync, rfl⟩⟩
  · obtain ⟨htid, ⟨hadded, hopen⟩ | hrejected⟩ :=
      addSession_cases hstore hcache hadd
    · exact ⟨htid, .added hnew hadded hopen⟩
    · exact ⟨htid, .rejected hnew hrejected⟩
  · rw [hkey] at hrec
    have hsynced := syncRoutes_synced hstore hrec hroutes
    rw [← hkey] at hrec hsynced
    exact ⟨hcache.kept (tunnelsKept_of_sameStore hsynced.sameStore),
      .synced hsync hrec rfl hsynced⟩
  · exact ⟨hcache, .kept hsync hrec rfl rfl⟩

/-- A round leaves the other keys alone. -/
theorem EntryTried.frame {pass : Pass} {entry : SessionKey × KSession}
    {cache cache' : TunnelsCache} (hstore : StoreInv w.vpp)
    (hcache : CacheTid w.vpp cache) (hkey : entry.1 = entry.2.sessionKey)
    (h : EntryTried cfg pass entry cache cache' w w') :
    StoreInv w'.vpp ∧ (∃ rec, w'.installed.get? =
      Function.update w.installed.get? entry.1 (some rec)) ∧
    ∀ key, key ≠ entry.1 → interfaceOf w'.vpp key = interfaceOf w.vpp key := by
  cases h with
  | added hnew hadded hopen =>
      have hsession := hadded.added hstore hcache
      obtain ⟨tunnelIndex, hinstalled⟩ := hsession.installed
      rw [← hkey] at hinstalled
      refine ⟨hsession.store, ⟨_, hinstalled⟩, ?_⟩
      intro key hne
      rw [hsession.interface, ← hkey, Function.update_of_ne hne]
  | rejected hnew hrejected =>
      obtain ⟨tunnelIndex, hinstalled⟩ := hrejected.installed
      rw [← hkey] at hinstalled
      exact ⟨hrejected.store, ⟨_, hinstalled⟩,
        fun key _ => congrFun hrejected.interface key⟩
  | synced hsync hold hcache hsynced =>
      obtain ⟨routes, -, hinstalled⟩ := hsynced.installed
      exact ⟨hstore.of_sameStore hsynced.sameStore, ⟨_, hinstalled⟩,
        fun key _ => congrFun (interfaceOf_sameStore hsynced.sameStore) key⟩
  | kept hsync hold hcache hw =>
      subst hw
      exact ⟨hstore, ⟨_, (Function.update_eq_self_iff.mpr hold.symm).symm⟩,
        fun _ _ => rfl⟩

end L2tvpp.Syncd
