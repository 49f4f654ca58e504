import Mathlib.Data.Finset.Card
import L2tvpp.Syncd.Raising

/-!
# What a pass leaves alone

The calls of a pass that succeeds, seen from a session that is installed and
still wanted: none of them is about it or its tunnel, apart from the routes that
have changed.
-/

namespace L2tvpp.Syncd

open L2tvpp.Lib L2tvpp.Plugin

variable {cfg : Config} {pass : Pass} {w w' : World}

/-! ## What a call is about -/

/-- The session of a session call, which names it by its tunnel and its id. -/
def ApiEvent.session (event : ApiEvent) : Option SessionKey :=
  match event.call with
  | .sessionAddDel _ (some tunnelIndex) localSid _ _ _ =>
      (event.before.lm.tunnels.elt? tunnelIndex).map fun t =>
        (t.localTid, localSid)
  | _ => none

abbrev TunnelIds := Ip46 × U16 × U16

def tunnelIds (t : L2tvppTunnel) : TunnelIds := (t.peerIp, t.peerPort, t.localTid)

namespace ApiCall

def tunnel : ApiCall → Option TunnelIds
  | .tunnelAddDel _ _ peerIp _ peerPort localTid _ =>
      some (peerIp.decode, peerPort, localTid)
  | _ => none

def isRouteOf (swIfIndex : Option Nat) : ApiCall → Bool
  | .routeAddDel _ _ index => index == swIfIndex
  | _ => false

def isDump : ApiCall → Bool
  | .tunnelDump => true
  | .sessionDump => true
  | _ => false

end ApiCall

def PassesBy (key : SessionKey) (tunnel : TunnelIds) (event : ApiEvent) : Prop :=
  event.session ≠ some key ∧ event.call.tunnel ≠ some tunnel

/-! ## A session that stands -/

/-- The session and its tunnel are as they were, apart from the checksum that a
route call brings up to date and the number of sessions on the tunnel. -/
structure Standing (index : Nat) (sess : L2tvppSession) (t : L2tvppTunnel)
    (v : Vpp) : Prop where
  store : StoreInv v
  counts : CountExact v
  session : ∃ csum, v.lm.sessions.elt? index =
    some { sess with encapIpCsum0 := csum }
  tunnel : ∃ n, v.lm.tunnels.elt? sess.tunnelIndex =
    some { t with nSessions := n }

namespace Standing

variable {P : Policies} {index : Nat} {sess : L2tvppSession}
  {t : L2tvppTunnel} {v v' : Vpp}

theorem sameStore (h : Standing index sess t v) (hsame : SameStore v v') :
    Standing index sess t v' where
  store := h.store.of_sameStore hsame
  counts := h.counts.of_sameStore hsame
  session := by
    obtain ⟨csum, hsess⟩ := h.session
    obtain ⟨csum', hsess'⟩ := hsame.symm.session hsess
    exact ⟨csum', hsess'⟩
  tunnel := by
    rw [hsame.tunnels]
    exact h.tunnel

theorem tunnelAdd (h : Standing index sess t v) {localIp peerIp : Ip46}
    {localPort peerPort localTid peerTid : U16}
    (hfind : l2tvppTunnelFind v.lm peerIp peerPort localTid = none) :
    (peerIp, peerPort, localTid) ≠ tunnelIds t ∧ Standing index sess t
      (v.tunnelAdd P localIp peerIp localPort peerPort localTid peerTid) := by
  obtain ⟨n, ht⟩ := h.tunnel
  constructor
  · intro heq
    simp only [tunnelIds, Prod.mk.injEq] at heq
    exact l2tvppTunnelFind_none hfind ht
      ⟨heq.2.2.symm, heq.2.1.symm, heq.1.symm⟩
  · exact ⟨h.store.tunnelAdd hfind, h.counts.tunnelAdd, h.session, n,
      Pool.elt?_get_of_live P.tunnels v.lm.tunnels _ ht⟩

/-- A tunnel that can be deleted has no session on it. -/
theorem tunnelDel (h : Standing index sess t v) {peerIp : Ip46}
    {peerPort localTid : U16} {found : Nat} {t' : L2tvppTunnel}
    (hfind : l2tvppTunnelFind v.lm peerIp peerPort localTid =
      some (found, t')) (hzero : t'.nSessions = 0) :
    (peerIp, peerPort, localTid) ≠ tunnelIds t ∧
      Standing index sess t (v.tunnelDel found) := by
  obtain ⟨csum, hsess⟩ := h.session
  obtain ⟨n, ht⟩ := h.tunnel
  obtain ⟨ht', htid, hport, hpeer⟩ := l2tvppTunnelFind_some hfind
  have hnone := h.counts.no_session ht' hzero hsess
  have hother : sess.tunnelIndex ≠ found := hnone
  constructor
  · intro heq
    simp only [tunnelIds, Prod.mk.injEq] at heq
    exact hother (h.store.tunnel_unique ht ht' (heq.1.symm.trans hpeer.symm)
      (heq.2.1.symm.trans hport.symm) (heq.2.2.symm.trans htid.symm))
  · refine ⟨h.store.tunnelDel found, h.counts.tunnelDel ht' hzero,
      ⟨csum, hsess⟩, n, ?_⟩
    simp only [Vpp.tunnelDel, Pool.elt?_put]
    rw [if_neg hother, ht]

theorem sessionAdd (h : Standing index sess t v) {tunnelIndex : Nat}
    {t' : L2tvppTunnel} {localSid peerSid : U16} {acfc pfc : U8}
    (ht' : v.lm.tunnels.elt? tunnelIndex = some t')
    (hkey : v.lm.sessionByKey.lookup
      (l2tvppSessionKey t'.localTid localSid) = none) :
    (t'.localTid, localSid) ≠ ids sess ∧ Standing index sess t
      (v.sessionAdd P tunnelIndex t' localSid peerSid acfc pfc) := by
  obtain ⟨csum, hsess⟩ := h.session
  obtain ⟨n, ht⟩ := h.tunnel
  constructor
  · intro heq
    obtain ⟨htid, hsid⟩ := Prod.mk.inj heq
    have hfind := h.store.byKey.find hsess
    rw [htid, hsid] at hkey
    exact absurd (hkey.symm.trans hfind) (by simp)
  · refine ⟨h.store.sessionAdd hkey, .sessionAdd h.store h.counts ht',
      ⟨csum, Pool.elt?_get_of_live P.sessions v.lm.sessions _ hsess⟩, ?_⟩
    rw [sessionAdd_tunnels, ht]
    split
    · exact ⟨n + 1, rfl⟩
    · exact ⟨n, rfl⟩

theorem sessionDel (h : Standing index sess t v) {other : Nat}
    {sess' : L2tvppSession} (hsess' : v.lm.sessions.elt? other = some sess')
    (hne : ids sess' ≠ ids sess) : Standing index sess t
      (v.sessionDel sess'.tunnelIndex sess'.key other sess') := by
  obtain ⟨csum, hsess⟩ := h.session
  obtain ⟨n, ht⟩ := h.tunnel
  refine ⟨h.store.sessionDel (h.store.byKey.find hsess') hsess',
    h.counts.sessionDel hsess', ⟨csum, ?_⟩, ?_⟩
  · rw [sessionDel_sessions, if_neg, hsess]
    rintro rfl
    rw [hsess] at hsess'
    cases hsess'
    exact hne rfl
  · rw [sessionDel_tunnels, ht]
    split
    · exact ⟨n - 1, rfl⟩
    · exact ⟨n, rfl⟩

/-- Every accepted call but a session delete spares the session. -/
theorem accepted (h : Standing index sess t v) {call : ApiCall}
    (hcall : call.isSessionDel = false)
    (hok : (handle P v call).1.ok = true) :
    PassesBy (ids sess) (tunnelIds t) ⟨v, call, (handle P v call).1⟩ ∧
      Standing index sess t (handle P v call).2 := by
  cases call with
  | tunnelAddDel isAdd localIp peerIp localPort peerPort localTid peerTid =>
      cases isAdd with
      | true =>
          obtain ⟨⟨-, -, hfind⟩, hhandle⟩ := tunnelAdd_accepted hok
          obtain ⟨hne, hadd⟩ := h.tunnelAdd (P := P) hfind
          rw [hhandle]
          exact ⟨⟨by simp [ApiEvent.session],
            fun heq => hne (Option.some.inj heq)⟩, hadd⟩
      | false =>
          obtain ⟨found, t', hfind, hzero, hhandle⟩ := tunnelDel_accepted hok
          obtain ⟨hne, hdel⟩ := h.tunnelDel hfind hzero
          rw [hhandle]
          exact ⟨⟨by simp [ApiEvent.session],
            fun heq => hne (Option.some.inj heq)⟩, hdel⟩
  | sessionAddDel isAdd tunnelIndex localSid peerSid acfc pfc =>
      cases isAdd with
      | true =>
          obtain ⟨found, t', rfl, ht', hkey, hhandle⟩ := sessionAdd_accepted hok
          obtain ⟨hne, hadd⟩ := h.sessionAdd (P := P) ht' hkey
          rw [hhandle]
          refine ⟨⟨?_, by simp [ApiCall.tunnel]⟩, hadd⟩
          simp only [ApiEvent.session, ht', Option.map_some]
          exact fun heq => hne (Option.some.inj heq)
      | false => contradiction
  | routeAddDel isAdd pfx swIfIndex =>
      obtain ⟨found, -, hroute⟩ := routeAddDel_accepted hok
      exact ⟨⟨by simp [ApiEvent.session], by simp [ApiCall.tunnel]⟩,
        h.sameStore (sameStore_l2tvppRouteAddDel hroute)⟩
  | tunnelDump =>
      exact ⟨⟨by simp [ApiEvent.session], by simp [ApiCall.tunnel]⟩, h⟩
  | sessionDump =>
      exact ⟨⟨by simp [ApiEvent.session], by simp [ApiCall.tunnel]⟩, h⟩

end Standing

/-- As long as the calls of a pass succeed, the session stands and the calls
pass it by. -/
def Undisturbed (index : Nat) (sess : L2tvppSession) (t : L2tvppTunnel)
    (w : World) : Prop :=
  w.allOk = true → Standing index sess t w.vpp ∧
    ∀ event ∈ w.calls, PassesBy (ids sess) (tunnelIds t) event

section Undisturbed

variable {index : Nat} {sess : L2tvppSession} {t : L2tvppTunnel}

theorem callsKeep_undisturbed :
    CallsKeep cfg (Undisturbed index sess t) where
  call := by
    intro w call hcall h hok
    rw [allOk_logged] at hok
    obtain ⟨hstanding, hevents⟩ := h hok.1
    obtain ⟨hpasses, hstanding'⟩ := hstanding.accepted hcall hok.2
    refine ⟨hstanding', ?_⟩
    intro event hevent
    rcases List.mem_append.mp hevent with hevent | hevent
    · exact hevents event hevent
    · rw [List.mem_singleton.mp hevent]
      exact hpasses
  record := fun _ _ h => h

/-- The delete of another session names that one: its record has its id and its
tunnel, and the tunnel has its tunnel id. -/
theorem Undisturbed.delSession (h : Undisturbed index sess t w)
    (hmirror : Mirror w.vpp w.installed.get?) {key : SessionKey}
    (hne : key ≠ ids sess)
    (hrun : exec (delSession cfg key) w = (.ok (), w')) :
    Undisturbed index sess t w' := by
  intro hok
  have hdeleted := delSession_ok hrun hok
  have hbefore := allOk_before (appends_delSession · key) hrun hok
  obtain ⟨rec, routed, hrec, hforM, rfl⟩ := delSession_run hrun
  have hlogged : (routed.logged cfg (.sessionAddDel false rec.tunnelIndex
    rec.localSid rec.peerSid false false)).allOk = true := hok
  rw [allOk_logged] at hlogged
  have hrouted : Undisturbed index sess t routed :=
    callsKeep_undisturbed.routes _ _ false w _ routed hforM h
  constructor
  · obtain ⟨_, _, v, other, sess', -, hchanged, -, hsess', rfl, hvpp⟩ :=
      hdeleted.own hmirror
    rw [hvpp]
    exact ((h hbefore).1.sameStore hchanged.sameStore).sessionDel hsess' hne
  · intro event hevent
    rcases List.mem_append.mp hevent with hevent | hevent
    · exact (hrouted hlogged.1).2 event hevent
    · rw [List.mem_singleton.mp hevent]
      refine ⟨?_, by simp [ApiCall.tunnel]⟩
      obtain ⟨other, sess', hsess', rfl, hdescribes⟩ := hmirror.live hrec
      obtain ⟨t', ht', htid⟩ := hmirror.counts.tunnel hsess'
      obtain ⟨-, hroutes⟩ := forM_route_ok hforM hlogged.1
      have htunnels := (hroutes _ hdescribes.swIfIndex).sameStore.tunnels
      simp only [ApiEvent.session, hdescribes.tunnelIndex, htunnels, ht',
        Option.map_some, htid, hdescribes.localSid]
      exact fun heq => hne (Option.some.inj heq)

end Undisturbed

/-! ## Route calls -/

def World.routeCalls (w : World) (swIfIndex : Option Nat) : List ApiCall :=
  (w.calls.map ApiEvent.call).filter (ApiCall.isRouteOf swIfIndex)

/-- The calls that take the recorded routes to the wanted ones. -/
def routeChanges (cfg : Config) (rec : InstalledRec)
    (wantRoutes : List IpPrefix) : List ApiCall :=
  (cfg.setOrder.list (setDiff wantRoutes rec.routes)).map
      (.routeAddDel true · rec.swIfIndex) ++
    (cfg.setOrder.list (setDiff rec.routes wantRoutes)).map
      (.routeAddDel false · rec.swIfIndex)

section RouteCalls

variable {swIfIndex : Option Nat}

theorem routeCalls_logged (call : ApiCall) :
    (w.logged cfg call).routeCalls swIfIndex = w.routeCalls swIfIndex ++
      if call.isRouteOf swIfIndex then [call] else [] := by
  simp only [World.routeCalls, World.logged, List.map_append, List.filter_append,
    List.map_cons, List.map_nil, List.filter_cons, List.filter_nil]

theorem routeCalls_callApi {call : ApiCall} (calls : List ApiCall)
    (hcall : call.isRouteOf swIfIndex = false) :
    Preserves (fun m => m.routeCalls swIfIndex = calls)
      (callApi cfg call) := by
  intro w reply w' hexec hw
  rw [(callApi_ok hexec).2, routeCalls_logged, hcall]
  simpa using hw

theorem routeCalls_forM {pfxs : List IpPrefix} {via : Option Nat}
    {isAdd : Bool}
    (h : exec (pfxs.forM fun pfx => route cfg pfx via isAdd) w =
      (.ok (), w')) :
    w'.routeCalls swIfIndex = w.routeCalls swIfIndex ++
      if via = swIfIndex then pfxs.map (.routeAddDel isAdd · via) else [] := by
  refine exec_forM_invariant (fun done m => m.routeCalls swIfIndex =
    w.routeCalls swIfIndex ++ if via = swIfIndex then
      done.map (.routeAddDel isAdd · via) else []) ?_ (by simp) h
  intro done pfx rest _ m m' hm hroute
  rw [route_run hroute, routeCalls_logged, hm]
  by_cases hvia : via = swIfIndex
  · simp [ApiCall.isRouteOf, hvia]
  · simp [ApiCall.isRouteOf, hvia]

/-- The routes of a session that is added go over a new interface. -/
theorem routeCalls_addSession {index : Nat} {sess : L2tvppSession}
    {t : L2tvppTunnel} (h : Undisturbed index sess t w)
    {pppRoutes : PppRoutes} {s : KSession} {cache cache' : TunnelsCache}
    (hrun : exec (addSession cfg pppRoutes s cache) w = (.ok cache', w'))
    (hok : w'.allOk = true) :
    w'.routeCalls (some sess.swIfIndex) = w.routeCalls (some sess.swIfIndex) := by
  obtain ⟨tunnelIndex, middle, via, routed, hensure, hvia, hforM, rfl⟩ :=
    addSession_run hrun
  have hrouted : routed.allOk = true := hok
  have hlogged := allOk_before
    (fun calls => (callsKeep_appends calls).routes _ _ true) hforM hrouted
  rw [allOk_logged] at hlogged
  obtain ⟨hstanding, -⟩ :=
    callsKeep_undisturbed.ensureTunnel s cache w _ middle hensure h hlogged.1
  obtain ⟨csum, hsess⟩ := hstanding.session
  obtain ⟨found, t', rfl, -, -, hhandle⟩ := sessionAdd_accepted hlogged.2
  have hnew : via ≠ some sess.swIfIndex := by
    intro heq
    rw [hvia, KSession.sessionCall, hhandle] at heq
    exact hstanding.store.nextIndex_fresh hsess (Option.some.inj heq).symm
  have hmiddle : middle.routeCalls (some sess.swIfIndex) =
      w.routeCalls (some sess.swIfIndex) := by
    rcases ensureTunnel_run hensure with ⟨-, -, rfl⟩ |
      ⟨localIp, localPort, -, -, -, -, rfl⟩
    · rfl
    · rw [routeCalls_logged]
      simp [KSession.tunnelCall, ApiCall.isRouteOf]
  calc routed.routeCalls (some sess.swIfIndex)
      = (middle.logged cfg (s.sessionCall (some found))).routeCalls
          (some sess.swIfIndex) := by
        rw [routeCalls_forM hforM, if_neg hnew, List.append_nil]
    _ = middle.routeCalls (some sess.swIfIndex) := by
        rw [routeCalls_logged]
        simp [KSession.sessionCall, ApiCall.isRouteOf]
    _ = w.routeCalls (some sess.swIfIndex) := hmiddle

theorem routeCalls_syncRoutes {pppRoutes : PppRoutes} {s : KSession}
    {rec : InstalledRec} (hrec : w.installed.get? s.sessionKey = some rec)
    (h : exec (syncRoutes cfg pppRoutes s) w = (.ok (), w')) :
    w'.routeCalls swIfIndex = w.routeCalls swIfIndex ++
      if rec.swIfIndex = swIfIndex then
        routeChanges cfg rec (s.fetchRoutes pppRoutes)
      else [] := by
  obtain ⟨rec', routes, added, deleted, hrec', hadd, hdel, -, -, hcalls, -⟩ :=
    syncRoutes_run h
  rw [hrec] at hrec'
  cases hrec'
  have hfinal : w'.routeCalls swIfIndex = deleted.routeCalls swIfIndex := by
    rw [World.routeCalls, hcalls]
    rfl
  rw [hfinal, routeCalls_forM hdel, routeCalls_forM hadd, List.append_assoc]
  by_cases hvia : rec.swIfIndex = swIfIndex
  · simp [hvia, routeChanges]
  · simp [hvia]

theorem routeCalls_delSession {key : SessionKey} {rec : InstalledRec}
    (hrec : w.installed.get? key = some rec)
    (hother : rec.swIfIndex ≠ swIfIndex)
    (h : exec (delSession cfg key) w = (.ok (), w')) :
    w'.routeCalls swIfIndex = w.routeCalls swIfIndex := by
  obtain ⟨rec', routed, hrec', hforM, rfl⟩ := delSession_run h
  rw [hrec] at hrec'
  cases hrec'
  change (routed.logged cfg (.sessionAddDel false rec.tunnelIndex rec.localSid
    rec.peerSid false false)).routeCalls swIfIndex = _
  rw [routeCalls_logged, routeCalls_forM hforM, if_neg hother]
  simp [ApiCall.isRouteOf]

theorem routeCalls_pruneTunnels (calls : List ApiCall) :
    Preserves (fun m => m.routeCalls swIfIndex = calls)
      (pruneTunnels cfg) := by
  refine (routeCalls_callApi calls rfl).bind fun reply => ?_
  refine ((routeCalls_callApi calls rfl).bind fun _ => .ret _).bind
    fun tunnels => ?_
  refine .forM (fun entry => ?_) _
  split
  · exact .ret _
  · exact (routeCalls_callApi calls rfl).bind fun _ => .ret _

end RouteCalls

/-! ## Through a pass -/

/-- The session of a record that is still wanted, after some rounds of the first
loop. -/
structure LeftAlone (cfg : Config) (pass : Pass) (index : Nat)
    (sess : L2tvppSession) (t : L2tvppTunnel) (rec : InstalledRec)
    (s : KSession) (done : List (SessionKey × KSession)) (m : World) :
    Prop where
  undisturbed : Undisturbed index sess t m
  record : ∃ routes, m.installed.get? (ids sess) =
    some { rec with routes := routes }
  routeCalls : m.routeCalls rec.swIfIndex =
    if ids sess ∈ done.map Prod.fst ∧ pass.syncExistingRoutes = true then
      routeChanges cfg rec (s.fetchRoutes pass.pppRoutes)
    else []

section LeftAlone

variable {index : Nat} {sess : L2tvppSession} {t : L2tvppTunnel}
  {rec : InstalledRec} {s : KSession} {done : List (SessionKey × KSession)}
  {entry : SessionKey × KSession} {m m' : World}

theorem LeftAlone.other (h : LeftAlone cfg pass index sess t rec s done m)
    (hne : entry.1 ≠ ids sess) (hundisturbed : Undisturbed index sess t m')
    (hrecord : m'.installed.get? (ids sess) = m.installed.get? (ids sess))
    (hcalls : m'.routeCalls rec.swIfIndex = m.routeCalls rec.swIfIndex) :
    LeftAlone cfg pass index sess t rec s (done ++ [entry]) m' where
  undisturbed := hundisturbed
  record := by
    rw [hrecord]
    exact h.record
  routeCalls := by
    have hmem : ids sess ∈ (done ++ [entry]).map Prod.fst ↔
        ids sess ∈ done.map Prod.fst := by
      rw [List.map_append, List.mem_append]
      exact or_iff_left fun hlast => hne (List.mem_singleton.mp hlast).symm
    rw [hcalls, h.routeCalls]
    exact if_congr (and_congr_left' hmem.symm) rfl rfl

/-- Its own turn: the record is still as it was before the pass. -/
theorem LeftAlone.own (h : LeftAlone cfg pass index sess t rec s done m)
    (hentry : entry.1 = ids sess) (hkey : entry.1 = entry.2.sessionKey)
    (hsame : entry.2 = s) (hnew : entry.1 ∉ done.map Prod.fst)
    (hrec : m.installed.get? (ids sess) = some rec)
    (hundisturbed : Undisturbed index sess t m') (hok : m'.allOk = true)
    (hkept : pass.syncExistingRoutes = true ∧
        exec (syncRoutes cfg pass.pppRoutes entry.2) m = (.ok (), m') ∨
      pass.syncExistingRoutes = false ∧ m' = m) :
    LeftAlone cfg pass index sess t rec s (done ++ [entry]) m' := by
  have hbefore : m.routeCalls rec.swIfIndex = [] := by
    rw [h.routeCalls, if_neg]
    rw [← hentry]
    exact fun hmem => hnew hmem.1
  rcases hkept with ⟨hsync, hroutes⟩ | ⟨hsync, rfl⟩
  · have hrec' : m.installed.get? entry.2.sessionKey = some rec := by
      rw [← hkey, hentry, hrec]
    have hcalls : m'.routeCalls rec.swIfIndex = _ :=
      routeCalls_syncRoutes hrec' hroutes
    obtain ⟨hsynced, -, -, hinstalled⟩ := syncRoutes_ok hroutes hok
    rename_i rec₁ routes
    rw [hrec'] at hsynced
    cases hsynced
    refine ⟨hundisturbed, ⟨routes, ?_⟩, ?_⟩
    · rw [hinstalled, ← hkey, hentry, Function.update_self]
    · rw [hcalls, hbefore, if_pos rfl, hsame]
      simp [hentry, hsync]
  · refine ⟨hundisturbed, h.record, ?_⟩
    rw [hbefore, hsync]
    simp

theorem LeftAlone.step {acc acc' : Nat × TunnelsCache}
    (hwant : (wantSessions pass.ksessions).get? (ids sess) = some s)
    (hold : w.installed.get? (ids sess) = some rec)
    (hdescribes : Describes rec sess) {rest : List (SessionKey × KSession)}
    (heq : (wantSessions pass.ksessions).items = done ++ entry :: rest)
    (hkey : entry.1 = entry.2.sessionKey) (hnew : entry.1 ∉ done.map Prod.fst)
    (hadding : Adding pass w done acc.2 m)
    (h : LeftAlone cfg pass index sess t rec s done m)
    (hround : exec (reconcileSession cfg pass acc entry) m = (.ok acc', m'))
    (hok : m'.allOk = true) :
    LeftAlone cfg pass index sess t rec s (done ++ [entry]) m' := by
  have hundisturbed : Undisturbed index sess t m' :=
    callsKeep_undisturbed.reconcileSession pass acc entry m _ m' hround
      h.undisturbed
  obtain ⟨written, hwritten⟩ :=
    (reconcileSession_ok hround hok).installed hkey
  have hrecord : entry.1 ≠ ids sess →
      m'.installed.get? (ids sess) = m.installed.get? (ids sess) := by
    intro hne
    rw [hwritten, Function.update_of_ne (Ne.symm hne)]
  rcases reconcileSession_run hround with ⟨hnone, -, hadd⟩ |
    ⟨found, hfound, -, hkept⟩
  · -- the session of a record is not added
    have hne : entry.1 ≠ ids sess := by
      intro heq
      obtain ⟨routes, hrec⟩ := h.record
      rw [heq, hrec] at hnone
      contradiction
    refine h.other hne hundisturbed (hrecord hne) ?_
    rw [hdescribes.swIfIndex]
    exact routeCalls_addSession h.undisturbed hadd hok
  · by_cases hne : entry.1 = ids sess
    · have hsame : entry.2 = s := by
        have hget := (wantSessions pass.ksessions).mem_items.mp
          (heq ▸ List.mem_append_right done List.mem_cons_self)
        rw [hne, hwant] at hget
        exact (Option.some.inj hget).symm
      have hrec := hadding.untouched entry.1 hnew
      rw [hne, hold] at hrec
      exact h.own hne hkey hsame hnew hrec hundisturbed hok hkept
    · refine h.other hne hundisturbed (hrecord hne) ?_
      rcases hkept with ⟨-, hroutes⟩ | ⟨-, rfl⟩
      · obtain ⟨routes, hrec⟩ := h.record
        rw [hkey] at hfound
        have hother : found.swIfIndex ≠ rec.swIfIndex := by
          intro hsw
          have hkeys := hadding.mirror.key_eq_of_swIfIndex hfound hrec hsw
          exact hne (hkey.trans hkeys)
        rw [routeCalls_syncRoutes hfound hroutes, if_neg hother,
          List.append_nil]
      · rfl

theorem removing_leftAlone {w₁ w₂ : World} {removed : Nat}
    (hwant : (wantSessions pass.ksessions).get? (ids sess) = some s)
    (hmirror : Mirror w₁.vpp w₁.installed.get?)
    (hrec : w₁.installed.get? (ids sess) = some rec)
    (hundisturbed : Undisturbed index sess t w₁)
    (hrun : exec (w₁.installed.keys.foldlM
      (removeSession cfg (wantSessions pass.ksessions)) 0) w₁ =
      (.ok removed, w₂)) (hok : w₂.allOk = true) :
    Removing (wantSessions pass.ksessions) w₁ w₁.installed.keys removed w₂ ∧
      Undisturbed index sess t w₂ ∧
      w₂.routeCalls rec.swIfIndex = w₁.routeCalls rec.swIfIndex := by
  refine removing_exec (fun _ _ m => Undisturbed index sess t m ∧
    m.routeCalls rec.swIfIndex = w₁.routeCalls rec.swIfIndex) ?_ hmirror
    ⟨hundisturbed, rfl⟩ hrun hok
  intro done key rest _ n m n' m' hremoving hinv hround _
  rcases removeSession_run hround with ⟨hgone, -, hdel⟩ | ⟨s', -, -, rfl⟩
  · have hne : key ≠ ids sess := by
      rintro rfl
      rw [hwant] at hgone
      contradiction
    have hown : m.installed.get? (ids sess) = some rec := by
      rw [hremoving.installed, if_neg (by simp [hwant]), hrec]
    obtain ⟨found, _, hfound, -⟩ := delSession_run hdel
    have hother : found.swIfIndex ≠ rec.swIfIndex := fun hsw =>
      hne (hremoving.mirror.key_eq_of_swIfIndex hfound hown hsw)
    exact ⟨hinv.1.delSession hremoving.mirror hne hdel,
      (routeCalls_delSession hfound hother hdel).trans hinv.2⟩
  · exact hinv

end LeftAlone

/-- What a pass does to a session that is installed and still wanted. -/
structure SessionKept (cfg : Config) (pass : Pass) (key : SessionKey)
    (rec : InstalledRec) (s : KSession) (w w' : World) : Prop where
  /-- No session or tunnel call is about it, and it keeps its interface and its
  tunnel. -/
  session : ∃ index sess t csum n,
    w.vpp.lm.sessions.elt? index = some sess ∧ ids sess = key ∧
    w.vpp.lm.tunnels.elt? sess.tunnelIndex = some t ∧
    (∀ event ∈ w'.calls, PassesBy key (tunnelIds t) event) ∧
    w'.vpp.lm.sessions.elt? index = some { sess with encapIpCsum0 := csum } ∧
    w'.vpp.lm.tunnels.elt? sess.tunnelIndex = some { t with nSessions := n }
  record : ∃ routes, w'.installed.get? key = some { rec with routes := routes }
  routeCalls : w'.routeCalls rec.swIfIndex =
    if pass.syncExistingRoutes then
      routeChanges cfg rec (s.fetchRoutes pass.pppRoutes)
    else []

theorem reconcile_sessionKept {result : Nat × Nat}
    (hmirror : Mirror w.vpp w.installed.get?)
    (hrun : exec (reconcile cfg pass) w.startPass = (.ok result, w'))
    (hok : w'.allOk = true) {key : SessionKey} {rec : InstalledRec}
    {s : KSession} (hrec : w.installed.get? key = some rec)
    (hwant : (wantSessions pass.ksessions).get? key = some s) :
    SessionKept cfg pass key rec s w w' := by
  obtain ⟨acc, w₁, removed, w₂, w₃, hadding, hok₁, hremoving, hok₂, hprune,
    hvpp, hinstalled, hcalls, -⟩ := reconcile_ok hrun hok
  obtain ⟨index, sess, hsess, rfl, hdescribes⟩ := hmirror.live hrec
  obtain ⟨t, ht, -⟩ := hmirror.counts.tunnel hsess
  have hstart : LeftAlone cfg pass index sess t rec s []
      (w.startPass.logged cfg .tunnelDump) := by
    refine ⟨callsKeep_undisturbed.call w.startPass .tunnelDump rfl fun _ =>
      ⟨⟨hmirror.store, hmirror.counts, ⟨_, hsess⟩, ⟨_, ht⟩⟩, by
        simp [World.startPass]⟩, ⟨rec.routes, hrec⟩, ?_⟩
    rw [routeCalls_logged]
    rfl
  obtain ⟨hadded, hleft⟩ := adding_exec
    (fun done _ m => LeftAlone cfg pass index sess t rec s done m)
    (fun done entry rest heq hkey hnew acc m acc' m' hadding' hinv hround hok' =>
      hinv.step hwant hrec hdescribes heq hkey hnew hadding' hround hok')
    hmirror (cacheSound_dumpedTunnels _) hstart hadding hok₁
  have hmem : ids sess ∈ (wantSessions pass.ksessions).items.map Prod.fst :=
    (wantSessions pass.ksessions).mem_keys.mpr ⟨s, hwant⟩
  obtain ⟨routes, hrecord⟩ := hleft.record
  obtain ⟨hremoved, hundisturbed₂, hcalls₂⟩ := removing_leftAlone hwant
    hadded.mirror hrecord hleft.undisturbed hremoving hok₂
  have hfinal : Undisturbed index sess t w₃ ∧
      w₃.routeCalls rec.swIfIndex = w₂.routeCalls rec.swIfIndex ∧
      w₃.installed = w₂.installed := by
    rcases hprune with ⟨-, rfl⟩ | ⟨-, hprune, hok₃⟩
    · exact ⟨hundisturbed₂, rfl, rfl⟩
    · exact ⟨callsKeep_undisturbed.pruneTunnels w₂ _ w₃ hprune hundisturbed₂,
        routeCalls_pruneTunnels _ w₂ _ w₃ hprune rfl,
        (pruneTunnels_ok hprune hok₃).1⟩
  obtain ⟨hundisturbed₃, hcalls₃, hinstalled₃⟩ := hfinal
  rw [World.allOk, hcalls] at hok
  obtain ⟨hstanding, hevents⟩ := hundisturbed₃ hok
  obtain ⟨csum, hsess'⟩ := hstanding.session
  obtain ⟨n, ht'⟩ := hstanding.tunnel
  refine ⟨⟨index, sess, t, csum, n, hsess, rfl, ht, ?_, ?_, ?_⟩,
    ⟨routes, ?_⟩, ?_⟩
  · rw [hcalls]
    exact hevents
  · rw [hvpp]
    exact hsess'
  · rw [hvpp]
    exact ht'
  · rw [hinstalled, hinstalled₃, hremoved.records, if_neg (by simp [hwant])]
    exact hrecord
  · have hlast : w'.routeCalls rec.swIfIndex = w₃.routeCalls rec.swIfIndex := by
      rw [World.routeCalls, hcalls]
      rfl
    rw [hlast, hcalls₃]
    refine hcalls₂.trans ?_
    rw [hleft.routeCalls]
    simp [hmem]

/-! ## What a pass returns -/

def wantedKeys (ksessions : List KSession) : Finset SessionKey :=
  ((ksessions.filter KSession.hasIfname).map KSession.sessionKey).toFinset

theorem mem_wantedKeys {ksessions : List KSession} {key : SessionKey} :
    key ∈ wantedKeys ksessions ↔ key ∈ (wantSessions ksessions).keys := by
  rw [(wantSessions ksessions).mem_keys, wantedKeys, List.mem_toFinset,
    List.mem_map]
  constructor
  · rintro ⟨s, hs, rfl⟩
    obtain ⟨hmem, hifname⟩ := List.mem_filter.mp hs
    exact wantSessions_mem hmem hifname
  · rintro ⟨s, hs⟩
    obtain ⟨hmem, hifname, rfl⟩ := wantSessions_some hs
    exact ⟨s, List.mem_filter.mpr ⟨hmem, hifname⟩, rfl⟩

def World.installedKeys (w : World) : Finset SessionKey :=
  w.installed.keys.toFinset

theorem countP_eq_card {xs : List SessionKey} (hnodup : xs.Nodup)
    {test : SessionKey → Bool} {keys : Finset SessionKey}
    (h : ∀ key, key ∈ keys ↔ key ∈ xs ∧ test key = true) :
    xs.countP test = keys.card := by
  have hkeys : keys = (xs.filter test).toFinset := by
    ext key
    rw [h, List.mem_toFinset, List.mem_filter]
  rw [hkeys, List.toFinset_card_of_nodup (hnodup.filter test),
    List.countP_eq_length_filter]

theorem reconcile_result {result : Nat × Nat}
    (hmirror : Mirror w.vpp w.installed.get?)
    (hrun : exec (reconcile cfg pass) w.startPass = (.ok result, w'))
    (hok : w'.allOk = true) :
    result = ((wantedKeys pass.ksessions \ w.installedKeys).card,
      (w.installedKeys \ wantedKeys pass.ksessions).card) := by
  obtain ⟨acc, w₁, removed, w₂, w₃, hadding, hok₁, hremoving, hok₂, -, -, -, -,
    rfl⟩ := reconcile_ok hrun hok
  obtain ⟨hadded, hadds⟩ := adding_exec
    (fun done acc _ => acc.1 = (done.map Prod.fst).countP fun key =>
      (w.installed.get? key).isNone)
    (fun done entry rest _ _ hnew acc m acc' m' hadding' hinv hround _ => by
      rw [List.map_append, List.countP_append, ← hinv, List.map_singleton,
        List.countP_singleton, ← hadding'.untouched entry.1 hnew]
      rcases reconcileSession_run hround with ⟨hnone, hacc, -⟩ |
        ⟨rec, hrec, rfl, -⟩
      · rw [hacc, hnone]
        rfl
      · rw [hrec]
        rfl)
    hmirror (cacheSound_dumpedTunnels _) rfl hadding hok₁
  obtain ⟨-, hremoves⟩ := removing_exec
    (fun done removed _ => removed = done.countP fun key =>
      ((wantSessions pass.ksessions).get? key).isNone)
    (fun done key rest _ n m n' m' _ hinv hround _ => by
      rw [List.countP_append, ← hinv, List.countP_singleton]
      rcases removeSession_run hround with ⟨hgone, hn, -⟩ | ⟨s, hs, rfl, -⟩
      · rw [hn, hgone]
        rfl
      · rw [hs]
        rfl)
    hadded.mirror rfl hremoving hok₂
  rw [hadds, hremoves]
  congr 1
  · refine countP_eq_card (wantSessions pass.ksessions).nodup ?_
    intro key
    rw [Finset.mem_sdiff, mem_wantedKeys, World.installedKeys,
      List.mem_toFinset, Option.isNone_iff_eq_none, w.installed.get?_eq_none]
    rfl
  · refine countP_eq_card w₁.installed.nodup ?_
    intro key
    rw [Finset.mem_sdiff, mem_wantedKeys, World.installedKeys,
      List.mem_toFinset, Option.isNone_iff_eq_none,
      (wantSessions pass.ksessions).get?_eq_none]
    -- the first loop does not touch a key that is not wanted
    refine and_congr_left fun hgone => ?_
    change key ∈ w.installed.keys ↔ key ∈ w₁.installed.keys
    rw [w.installed.mem_keys, w₁.installed.mem_keys,
      hadded.untouched key hgone]

/-! ## A second pass -/

theorem callApi_uninterrupted {call : ApiCall} {reply : ApiReply}
    (h : exec (callApi cfg call) w = (.ok reply, w')) {interrupt : Interrupt}
    (hinterrupt : w.interrupt = some interrupt) :
    w.calls.length ≠ interrupt.call := by
  intro hnow
  simp only [callApi, exec_get_bind, hinterrupt, if_pos hnow] at h
  cases hcase : interrupt.applied <;> simp [hcase] at h

theorem exec_callApi {call : ApiCall}
    (h : ∀ interrupt, w.interrupt = some interrupt →
      w.calls.length ≠ interrupt.call) :
    exec (callApi cfg call) w =
      (.ok (handle cfg.policies w.vpp call).1, w.logged cfg call) := by
  simp only [callApi, exec_get_bind]
  split
  · rename_i interrupt hinterrupt
    simp only [if_neg (h interrupt hinterrupt), exec_set_bind, exec_pure]
  · simp only [exec_set_bind, exec_pure]

theorem setOrder_setDiff {order : SetOrder} {first second : List IpPrefix}
    (h : first ⊆ second) : order.list (setDiff first second) = [] := by
  rw [List.eq_nil_iff_forall_not_mem]
  intro pfx hmem
  rw [order.mem_list, mem_setDiff] at hmem
  exact hmem.2 (h hmem.1)

theorem exec_syncRoutes_same {pppRoutes : PppRoutes} {s : KSession}
    {rec : InstalledRec} (hrec : w.installed.get? s.sessionKey = some rec)
    (hsame : ∀ pfx, pfx ∈ rec.routes ↔ pfx ∈ s.fetchRoutes pppRoutes) :
    exec (syncRoutes cfg pppRoutes s) w = (.ok (), w) := by
  have hhave : rec.routes ⊆ s.fetchRoutes pppRoutes := fun pfx =>
    (hsame pfx).mp
  have hwant : s.fetchRoutes pppRoutes ⊆ rec.routes := fun pfx =>
    (hsame pfx).mpr
  rw [syncRoutes, exec_get_bind]
  simp only [hrec, setOrder_setDiff hhave, setOrder_setDiff hwant]
  rw [if_neg (not_not.mpr ⟨hhave, hwant⟩)]
  rfl

/-- A pass over exactly what is installed only dumps the tunnels. -/
theorem reconcile_idle
    (hinterrupt : ∀ interrupt, w.interrupt = some interrupt →
      interrupt.call ≠ 0)
    (hinstalled : ∀ key, (∃ rec, w.installed.get? key = some rec) ↔
      ∃ s, (wantSessions pass.ksessions).get? key = some s)
    (hroutes : pass.syncExistingRoutes = true → ∀ key s rec,
      (wantSessions pass.ksessions).get? key = some s →
      w.installed.get? key = some rec →
      ∀ pfx, pfx ∈ rec.routes ↔ pfx ∈ s.fetchRoutes pass.pppRoutes) :
    ∃ w', exec (reconcile cfg pass) w.startPass = (.ok (0, 0), w') ∧
      w'.installed = w.installed ∧ w'.vpp = w.vpp ∧
      ∀ event ∈ w'.calls, event.call.isDump = true := by
  let dumped := w.startPass.logged cfg .tunnelDump
  have hdump : exec (vppTunnels cfg) w.startPass =
      (.ok (dumpedTunnels w.vpp), dumped) := by
    rw [vppTunnels, exec_bind, exec_callApi]
    · rfl
    · intro interrupt hsome
      exact Ne.symm (hinterrupt interrupt hsome)
  have hfirst : ∀ entry ∈ (wantSessions pass.ksessions).items,
      exec (reconcileSession cfg pass (0, dumpedTunnels w.vpp) entry) dumped =
        (.ok (0, dumpedTunnels w.vpp), dumped) := by
    rintro ⟨key, s⟩ hmem
    have hget := (wantSessions pass.ksessions).mem_items.mp hmem
    obtain ⟨rec, hrec⟩ := (hinstalled key).mpr ⟨s, hget⟩
    have hrec' : dumped.installed.get? key = some rec := hrec
    simp only [reconcileSession, exec_get_bind, hrec', Option.isNone_some,
      Bool.false_eq_true, if_false]
    split
    · rename_i hsync
      have hkey := (wantSessions_some hget).2.2
      rw [← hkey] at hrec'
      rw [exec_bind, exec_syncRoutes_same hrec' (hroutes hsync key s rec hget hrec)]
      rfl
    · rfl
  have hsecond : ∀ key ∈ dumped.installed.keys,
      exec (removeSession cfg (wantSessions pass.ksessions) 0 key) dumped =
        (.ok 0, dumped) := by
    intro key hmem
    obtain ⟨s, hs⟩ := (hinstalled key).mp (w.installed.mem_keys.mp hmem)
    simp only [removeSession, hs, Option.isNone_some, Bool.false_eq_true,
      if_false, exec_pure]
  refine ⟨if cfg.statePath then
    { dumped with stateFile := some dumped.installed } else dumped, ?_, ?_⟩
  · simp only [reconcile, exec_bind, hdump, exec_foldlM_fixed hfirst, exec_get,
      exec_foldlM_fixed hsecond, ne_eq, not_true_eq_false, if_false, exec_pure,
      exec_saveState]
  · split
    · exact ⟨rfl, rfl, by simp [dumped, World.logged, World.startPass,
        ApiCall.isDump]⟩
    · exact ⟨rfl, rfl, by simp [dumped, World.logged, World.startPass,
        ApiCall.isDump]⟩

theorem reconcile_interrupt {result : Nat × Nat}
    (h : exec (reconcile cfg pass) w.startPass = (.ok result, w'))
    {interrupt : Interrupt} (hinterrupt : w'.interrupt = some interrupt) :
    interrupt.call ≠ 0 := by
  have hkeep : Triple (fun m => m.interrupt = w.startPass.interrupt)
      (reconcile cfg pass) (fun _ m => m.interrupt = w.startPass.interrupt)
      fun m => m.interrupt = w.startPass.interrupt := by
    refine StepsKeep.reconcile ⟨fun _ _ hm => hm, fun _ _ hm => hm⟩ ?_
    intro m hm
    cases cfg.statePath with
    | true => exact hm
    | false => exact hm
  rw [hkeep.ok rfl h] at hinterrupt
  obtain ⟨cache, dumped, htunnels, -⟩ := exec_bind_ok.mp h
  obtain ⟨reply, logged, hcall, -⟩ := exec_bind_ok.mp htunnels
  exact Ne.symm (callApi_uninterrupted hcall hinterrupt)

/-- A pass that succeeds leaves every session alone that is installed and
wanted, up to the routes it checks, and counts the others; a second one over the
same list that checks no more than it did only dumps the tunnels. -/
theorem reconcile_changes_only (cfg : Config) (w w' : World) (pass : Pass)
    (result : Nat × Nat) (hmirror : Mirror w.vpp w.installed.get?)
    (hrun : exec (reconcile cfg pass) w.startPass = (.ok result, w'))
    (hok : w'.allOk = true) :
    (∀ key rec s, w.installed.get? key = some rec →
      (wantSessions pass.ksessions).get? key = some s →
      SessionKept cfg pass key rec s w w') ∧
    result = ((wantedKeys pass.ksessions \ w.installedKeys).card,
      (w.installedKeys \ wantedKeys pass.ksessions).card) ∧
    ∀ again : Pass, again.ksessions = pass.ksessions →
      again.pppRoutes = pass.pppRoutes →
      (again.syncExistingRoutes = true → pass.syncExistingRoutes = true) →
      ∃ w'', exec (reconcile cfg again) w'.startPass = (.ok (0, 0), w'') ∧
        w''.installed = w'.installed ∧ w''.vpp = w'.vpp ∧
        ∀ event ∈ w''.calls, event.call.isDump = true := by
  have hpass : passOk cfg w pass = some w' := by
    rw [passOk, hrun]
    exact if_pos hok
  have hreconciled := passOk_reconciled hmirror hpass
  refine ⟨fun key rec s => reconcile_sessionKept hmirror hrun hok,
    reconcile_result hmirror hrun hok, ?_⟩
  intro again hksessions hppp hsync
  refine reconcile_idle (fun interrupt => reconcile_interrupt hrun) ?_ ?_
  · rw [hksessions]
    exact hreconciled.installed
  · intro hagain key s rec hs hrec pfx
    rw [hksessions] at hs
    rw [hreconciled.routes key s rec hs hrec, Pass.routesAfter, hppp]
    split
    · rfl
    · rw [if_pos (hsync hagain)]

def subscriber (ifname : Option String) (routes : List IpPrefix) : KSession :=
  { ksession 0x0a000002 100 1000 200 2000 "ppp0" routes with ifname := ifname }

/-- The subscriber gets another address. -/
def readdressed : Pass :=
  testPass [subscriber (some "ppp0") [IpPrefix.host 0x0ac80006]]

def subscribed : Option World :=
  passOk testConfig (World.initial Pool.empty Pool.empty)
    (testPass [subscriber (some "ppp0") [IpPrefix.host 0x0ac80005]])

theorem mirror_subscribed (h : subscribed = some w) :
    Mirror w.vpp w.installed.get? :=
  (passOk_reconciled (Mirror.initial Pool.empty Pool.empty) h).mirror

theorem reconcile_changes_only_readdressed :
    ∃ w w' w'' rec s result, subscribed = some w ∧
      exec (reconcile testConfig readdressed) w.startPass = (.ok result, w') ∧
      w'.allOk = true ∧
      SessionKept testConfig readdressed (100, 1000) rec s w w' ∧
      result = ((wantedKeys readdressed.ksessions \ w.installedKeys).card,
        (w.installedKeys \ wantedKeys readdressed.ksessions).card) ∧
      exec (reconcile testConfig readdressed) w'.startPass =
        (.ok (0, 0), w'') ∧
      w''.installed = w'.installed ∧ w''.vpp = w'.vpp ∧
      ∀ event ∈ w''.calls, event.call.isDump = true := by
  have hrun : ∃ w ∈ subscribed, (w.installed.get? (100, 1000)).isSome = true ∧
      (passOk testConfig w readdressed).isSome = true := by
    decide +kernel
  obtain ⟨w, hw, hinstalled, hpass⟩ := hrun
  obtain ⟨rec, hrec⟩ := Option.isSome_iff_exists.mp hinstalled
  obtain ⟨w', hpass⟩ := Option.isSome_iff_exists.mp hpass
  obtain ⟨result, hexec, hok⟩ := passOk_exec hpass
  obtain ⟨hkept, hresult, hagain⟩ := reconcile_changes_only testConfig w w'
    readdressed result (mirror_subscribed hw) hexec hok
  obtain ⟨w'', hsecond⟩ := hagain readdressed rfl rfl id
  exact ⟨w, w', w'', rec, _, result, hw, hexec, hok,
    hkept (100, 1000) rec _ hrec rfl, hresult, hsecond⟩

/-- A session in the list without an interface name is deleted, and a second
pass that checks the routes when the first did not makes route calls. -/
theorem reconcile_changes_unnamed_and_unchecked :
    (∃ w w', subscribed = some w ∧ Mirror w.vpp w.installed.get? ∧
      passOk testConfig w (testPass [subscriber none []]) = some w' ∧
      (subscriber none []).sessionKey ∈ w.installed.keys ∧
      ∃ event ∈ w'.calls,
        event.session = some (subscriber none []).sessionKey) ∧
    ∃ w w' w'', subscribed = some w ∧ Mirror w.vpp w.installed.get? ∧
      passOk testConfig w { readdressed with syncExistingRoutes := false } =
        some w' ∧
      passOk testConfig w' readdressed = some w'' ∧
      ∃ event ∈ w''.calls, event.call.isDump = false := by
  have hunnamed : ∃ w ∈ subscribed,
      ∃ w' ∈ passOk testConfig w (testPass [subscriber none []]),
        (subscriber none []).sessionKey ∈ w.installed.keys ∧
        ∃ event ∈ w'.calls,
          event.session = some (subscriber none []).sessionKey := by
    decide +kernel
  have hunchecked : ∃ w ∈ subscribed, ∃ w' ∈ passOk testConfig w
      { readdressed with syncExistingRoutes := false },
      ∃ w'' ∈ passOk testConfig w' readdressed,
        ∃ event ∈ w''.calls, event.call.isDump = false := by
    decide +kernel
  constructor
  · obtain ⟨w, hw, w', hpass, hinstalled, hevent⟩ := hunnamed
    exact ⟨w, w', hw, mirror_subscribed hw, hpass, hinstalled, hevent⟩
  · obtain ⟨w, hw, w', hpass, w'', hagain, hevent⟩ := hunchecked
    exact ⟨w, w', w'', hw, mirror_subscribed hw, hpass, hagain, hevent⟩

end L2tvpp.Syncd
