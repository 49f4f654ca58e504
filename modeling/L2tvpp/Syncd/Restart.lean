import L2tvpp.Syncd.Reconcile

/-!
# After a restart of VPP

A restarted VPP has no tunnels and sessions and hands out its indices from the
start again, while the state file still names the old ones.  The daemon loads
the file and takes every session in it for installed; what the file has and the
list has not it deletes, by indices that may now belong to others.
-/

namespace L2tvpp.Syncd

open L2tvpp.Lib L2tvpp.Plugin

variable {cfg : Config} {w w' : World}

/-- VPP comes up again with its other interfaces, and the daemon is restarted
with the state file that is there. -/
def World.restart (cfg : Config) (w : World) (hwInterfaces : List HwInterface)
    (swInterfaces : List SwInterface) : World where
  vpp := Vpp.initial (Pool.ofList hwInterfaces) (Pool.ofList swInterfaces)
  installed := loadState cfg w.stateFile
  stateFile := w.stateFile
  calls := []
  interrupt := none

/-! ## The condition -/

/-- The entries that open a tunnel: the first one for each tunnel key. -/
def tunnelOpeners (sessions : List KSession) : List KSession :=
  sessions.foldl (fun openers s =>
    if openers.any fun o => decide (o.tunnelKey = s.tunnelKey) then openers
    else openers ++ [s]) []

def ip4Endpoints (cfg : Config) (s : KSession) : Bool :=
  (packAddress (localEndpoint cfg s).1).isIp4 && s.peerIp.decode.isIp4

def tunnelsAddable (cfg : Config) (openers : List KSession) : Bool :=
  openers.all (ip4Endpoints cfg) &&
    decide (openers.Pairwise fun o o' => sameTunnel o o' = false)

/-- The delete for a record of the file finds no wanted session. -/
def sparesSessions (openers : List KSession) (want : List SessionKey)
    (rec : InstalledRec) : Bool :=
  (rec.tunnelIndex.bind fun index => openers[index]?).all fun o =>
    decide ((o.localTid, rec.localSid) ∉ want)

/-- The route deletes for a record of the file take no wanted route. -/
def sparesRoutes (pppRoutes : PppRoutes) (sessions : List KSession)
    (others : Nat) (rec : InstalledRec) : Bool :=
  (rec.swIfIndex.bind fun index =>
    if others ≤ index then sessions[index - others]? else none).all fun s =>
      rec.routes.all fun pfx => decide (pfx ∉ s.fetchRoutes pppRoutes)

/-- The file has none of the wanted sessions, and what it has collides with
none of them; `others` interfaces come before those of the plugin. -/
def noCollision (cfg : Config) (stateFile : InstalledDict) (others : Nat)
    (pass : Pass) : Bool :=
  let want := wantSessions pass.ksessions
  let sessions := want.items.map Prod.snd
  tunnelsAddable cfg (tunnelOpeners sessions) &&
  (pass.ksessions.all fun s => !s.hasIfname ||
    (want.get? s.sessionKey).all fun s' =>
      decide (s.fetchRoutes pass.pppRoutes ⊆ s'.fetchRoutes pass.pppRoutes)) &&
  (want.keys.all fun key => (stateFile.get? key).isNone) &&
  stateFile.items.all fun item =>
    sparesSessions (tunnelOpeners sessions) want.keys item.2 &&
      sparesRoutes pass.pppRoutes sessions others item.2

theorem tunnelsAddable_mono {openers openers' : List KSession}
    (h : tunnelsAddable cfg openers' = true) (hfirst : openers <+: openers') :
    tunnelsAddable cfg openers = true := by
  rw [tunnelsAddable, Bool.and_eq_true, List.all_eq_true,
    decide_eq_true_eq] at h ⊢
  exact ⟨fun o ho => h.1 o (hfirst.subset ho), h.2.sublist hfirst.sublist⟩

theorem tunnelOpeners_append (sessions : List KSession) (s : KSession) :
    tunnelOpeners (sessions ++ [s]) =
      if (tunnelOpeners sessions).any fun o =>
        decide (o.tunnelKey = s.tunnelKey) then tunnelOpeners sessions
      else tunnelOpeners sessions ++ [s] := by
  rw [tunnelOpeners, List.foldl_append]
  rfl

theorem tunnelOpeners_extends (sessions rest : List KSession) :
    tunnelOpeners sessions <+: tunnelOpeners (sessions ++ rest) := by
  induction rest generalizing sessions with
  | nil =>
      rw [List.append_nil]
  | cons s rest ih =>
      rw [show sessions ++ s :: rest = (sessions ++ [s]) ++ rest by simp]
      refine List.IsPrefix.trans ?_ (ih _)
      rw [tunnelOpeners_append]
      split
      · exact List.prefix_refl _
      · exact List.prefix_append ..

/-! ## Sessions that no call takes away -/

def SessionLive (v : Vpp) (key : SessionKey) : Prop :=
  ∃ index sess, v.lm.sessions.elt? index = some sess ∧ ids sess = key

theorem SessionLive.sameStore {v v' : Vpp} (h : SameStore v v')
    {key : SessionKey} (hlive : SessionLive v key) : SessionLive v' key := by
  obtain ⟨index, sess, hsess, hids⟩ := hlive
  obtain ⟨csum, hsess'⟩ := h.symm.session hsess
  exact ⟨index, _, hsess', hids⟩

/-- Only a session delete takes a session away. -/
theorem SessionLive.handle {P : Policies} {v : Vpp} {call : ApiCall}
    (hcall : call.isSessionDel = false) {key : SessionKey}
    (h : SessionLive v key) : SessionLive (handle P v call).2 key := by
  cases handleStep_handle P v call with
  | same hv' =>
      rw [hv']
      exact h
  | tunnelAdd hfind hv' =>
      rw [hv']
      exact h
  | tunnelDel hv' =>
      rw [hv']
      exact h
  | sessionAdd hcall' hkey hv' =>
      obtain ⟨index, sess, hsess, hids⟩ := h
      rw [hv']
      exact ⟨index, sess, Pool.elt?_get_of_live _ v.lm.sessions _ hsess, hids⟩
  | sessionDel hcall' hkey hsess hv' =>
      rw [hcall'] at hcall
      contradiction
  | route hcall' hroute =>
      exact h.sameStore (sameStore_l2tvppRouteAddDel hroute)

/-- No call of the pass so far has taken a session away. -/
def NoneDeleted (cfg : Config) (w : World) : Prop :=
  ∀ event ∈ w.calls, ∀ key, SessionLive event.before key →
    SessionLive (handle cfg.policies event.before event.call).2 key

theorem NoneDeleted.logged {call : ApiCall} (h : NoneDeleted cfg w)
    (hkeep : ∀ key, SessionLive w.vpp key →
      SessionLive (handle cfg.policies w.vpp call).2 key) :
    NoneDeleted cfg (w.logged cfg call) := by
  intro event hevent
  rcases List.mem_append.mp hevent with hevent | hevent
  · exact h event hevent
  · rw [List.mem_singleton.mp hevent]
    exact hkeep

theorem callsKeep_noneDeleted : CallsKeep cfg (NoneDeleted cfg) where
  call := fun _ _ hcall h => h.logged fun _ hlive => hlive.handle hcall
  record := fun _ _ h => h

/-! ## Adding on a fresh plugin -/

theorem Mirror.key_free {v : Vpp} {records : Records} (h : Mirror v records)
    {tid sid : U16} (hnone : records (tid, sid) = none) :
    v.lm.sessionByKey.lookup (l2tvppSessionKey tid sid) = none := by
  rw [Option.eq_none_iff_forall_ne_some]
  intro index hindex
  obtain ⟨sess, hsess, hkey⟩ := h.store.byKey.some_iff.mp hindex
  obtain ⟨rfl, rfl⟩ := l2tvppSessionKey_inj.mp hkey
  obtain ⟨rec, hrec⟩ := h.recorded hsess
  rw [ids, hnone] at hrec
  contradiction

theorem forM_route_allOk {pfxs : List IpPrefix} {swIfIndex index : Nat}
    {isAdd : Bool} (hok : w.allOk = true)
    (hlive : w.vpp.lm.sessionIndexOf swIfIndex = some index)
    (h : exec (pfxs.forM fun pfx => route cfg pfx (some swIfIndex) isAdd) w =
      (.ok (), w')) : w'.allOk = true := by
  refine (exec_forM_invariant (fun _ m => m.allOk = true ∧
    m.vpp.lm.sessionIndexOf swIfIndex = some index) ?_ ⟨hok, hlive⟩ h).1
  intro done pfx rest _ m m' hm hroute
  obtain rfl := route_run hroute
  have haccepts : (handle cfg.policies m.vpp
      (.routeAddDel isAdd pfx (some swIfIndex))).1.ok = true :=
    routeAddDel_accepts hm.2
  refine ⟨allOk_logged _ |>.mpr ⟨hm.1, haccepts⟩, ?_⟩
  obtain ⟨_, -, haccepted⟩ := routeAddDel_accepted haccepts
  exact ((sameStore_l2tvppRouteAddDel haccepted).sessionIndexOf
    swIfIndex).trans hm.2

/-- On a plugin that mirrors the records, a session that is not among them is
added without a rejected call, given that its tunnel can be. -/
theorem addSession_allOk {pppRoutes : PppRoutes} {s : KSession}
    {cache cache' : TunnelsCache} {records : Records} (hok : w.allOk = true)
    (hmirror : Mirror w.vpp records) (hnew : records s.sessionKey = none)
    (hsound : CacheSound w.vpp cache)
    (hopen : cache.get? s.tunnelKey = none → ip4Endpoints cfg s = true ∧
      l2tvppTunnelFind w.vpp.lm s.peerIp.decode s.peerPort s.localTid = none)
    (h : exec (addSession cfg pppRoutes s cache) w = (.ok cache', w')) :
    w'.allOk = true := by
  obtain ⟨tunnelIndex, middle, swIfIndex, routed, hensure, hsw, hforM, rfl⟩ :=
    addSession_run h
  have hmiddle : middle.allOk = true := by
    rcases ensureTunnel_run hensure with ⟨-, -, rfl⟩ |
      ⟨localIp, localPort, hcache, hlocal, -, -, rfl⟩
    · exact hok
    · obtain ⟨hip4, hfind⟩ := hopen hcache
      rw [ip4Endpoints, hlocal, Bool.and_eq_true] at hip4
      exact allOk_logged _ |>.mpr ⟨hok, tunnelAdd_accepts hip4.1 hip4.2 hfind⟩
  obtain ⟨-, htunnel⟩ := ensureTunnel_ok hensure hmiddle
  obtain ⟨hsound', hcached⟩ := htunnel.cacheSound hsound
  obtain ⟨index, t, rfl, ht, -, -, htid⟩ := hsound' _ _ hcached
  have hfree : middle.vpp.lm.sessionByKey.lookup
      (l2tvppSessionKey t.localTid s.localSid) = none := by
    rw [htid]
    exact (htunnel.mirror hmirror).key_free hnew
  have haccepts : (handle cfg.policies middle.vpp
      (s.sessionCall (some index))).1.ok = true :=
    sessionAdd_accepts ht hfree
  obtain ⟨index', t', heq, -, -, hhandle⟩ := sessionAdd_accepted haccepts
  cases heq
  simp only [KSession.sessionCall, hhandle] at hsw
  subst hsw
  have hlive : (middle.logged cfg (s.sessionCall (some index))).vpp.lm.sessionIndexOf
        (middle.vpp.swInterfaces.nextIndex cfg.policies.swInterfaces) =
      some (middle.vpp.lm.sessions.nextIndex cfg.policies.sessions) := by
    simp only [World.logged, KSession.sessionCall, hhandle]
    rw [sessionAdd_sessionIndexOf]
    exact if_pos rfl
  have hrouted : routed.allOk = true :=
    forM_route_allOk (allOk_logged _ |>.mpr ⟨hmiddle, haccepts⟩) hlive hforM
  exact hrouted

/-! ## The tunnels of a fresh plugin

They are numbered in the order in which they are opened.
-/

/-- The plugin's tunnels are those of the openers, in their order. -/
structure Opened (openers : List KSession) (cache : TunnelsCache)
    (v : Vpp) : Prop where
  packed : v.lm.tunnels.Packed openers.length
  cached : ∀ key, cache.get? key = none ↔ ∀ o ∈ openers, o.tunnelKey ≠ key
  opener : ∀ {index : Nat} {t : L2tvppTunnel},
    v.lm.tunnels.elt? index = some t →
    ∃ o, openers[index]? = some o ∧ MatchesTunnel o t

namespace Opened

variable {openers : List KSession} {cache cache' : TunnelsCache} {v v' : Vpp}

theorem of_tunnels (h : Opened openers cache v)
    (htunnels : v'.lm.tunnels = v.lm.tunnels) : Opened openers cache v' where
  packed := by
    rw [htunnels]
    exact h.packed
  cached := h.cached
  opener := by
    rw [htunnels]
    exact h.opener

theorem sessionAdd {P : Policies} {tunnelIndex : Nat} {t : L2tvppTunnel}
    {localSid peerSid : U16} {acfc pfc : U8} (h : Opened openers cache v) :
    Opened openers cache
      (v.sessionAdd P tunnelIndex t localSid peerSid acfc pfc) where
  packed := h.packed.modify _ _
  cached := h.cached
  opener := by
    intro index t' ht'
    rw [sessionAdd_tunnels] at ht'
    split at ht'
    · obtain ⟨old, hold, rfl⟩ := Option.map_eq_some_iff.mp ht'
      obtain ⟨o, ho, hmatches⟩ := h.opener hold
      exact ⟨o, ho, hmatches⟩
    · exact h.opener ht'

theorem find_none (h : Opened openers cache v) {s : KSession}
    (hnew : ∀ o ∈ openers, sameTunnel o s = false) :
    l2tvppTunnelFind v.lm s.peerIp.decode s.peerPort s.localTid = none := by
  rw [Option.eq_none_iff_forall_ne_some]
  rintro ⟨index, t⟩ hfind
  obtain ⟨ht, htid, hport, hpeer⟩ := l2tvppTunnelFind_some hfind
  obtain ⟨o, ho, hmatches⟩ := h.opener ht
  have hsame := (sameTunnel_iff hmatches).mpr ⟨hpeer, hport, htid⟩
  rw [hnew o (List.mem_of_getElem? ho)] at hsame
  contradiction

theorem ensured {sessions : List KSession} {s : KSession}
    {tunnelIndex : Option Nat}
    (h : Opened (tunnelOpeners sessions) cache v)
    (hensured : TunnelEnsured cfg s cache v tunnelIndex cache' v') :
    Opened (tunnelOpeners (sessions ++ [s])) cache' v' := by
  rw [tunnelOpeners_append]
  cases hensured with
  | cached hcache =>
      rw [if_pos]
      · exact h
      · by_contra hnone
        simp only [List.any_eq_true, decide_eq_true_eq, not_exists,
          not_and] at hnone
        rw [(h.cached s.tunnelKey).mpr hnone] at hcache
        contradiction
  | added hcache hlocal hfind =>
      have hnew := (h.cached s.tunnelKey).mp hcache
      rw [if_neg (by simpa using hnew)]
      refine ⟨?_, ?_, ?_⟩
      · rw [List.length_append]
        exact h.packed.get _ _
      · intro key
        rw [Dict.get?_set]
        simp only [List.mem_append, List.mem_singleton]
        split
        · rename_i hkey
          subst hkey
          simp
        · rename_i hkey
          rw [h.cached]
          constructor
          · rintro hall o (ho | rfl)
            · exact hall o ho
            · exact Ne.symm hkey
          · exact fun hall o ho => hall o (.inl ho)
      · intro index t ht
        simp only [Vpp.tunnelAdd, Pool.elt?_get, h.packed.nextIndex] at ht
        split at ht
        · rename_i hindex
          cases ht
          subst hindex
          exact ⟨s, by simp, rfl, rfl, rfl⟩
        · obtain ⟨o, ho, hmatches⟩ := h.opener ht
          refine ⟨o, ?_, hmatches⟩
          obtain ⟨hlt, -⟩ := List.getElem?_eq_some_iff.mp ho
          rw [List.getElem?_append_left hlt]
          exact ho

end Opened

/-! ## The first loop after a restart -/

def recovered (done : List (SessionKey × KSession)) (w : World) : Records :=
  fun key => if key ∈ done.map Prod.fst then w.installed.get? key else none

/-- The state after some of the wanted sessions have been added.  The records
of `stateFile` are not about this plugin; those written since are. -/
structure Recovering (pass : Pass) (stateFile : InstalledDict) (others : Nat)
    (done : List (SessionKey × KSession)) (cache : TunnelsCache)
    (w : World) : Prop where
  ok : w.allOk = true
  mirror : Mirror w.vpp (recovered done w)
  cacheSound : CacheSound w.vpp cache
  opened : Opened (tunnelOpeners (done.map Prod.snd)) cache w.vpp
  interfaces : w.vpp.swInterfaces.Packed (others + done.length)
  untouched : ∀ key, key ∉ done.map Prod.fst →
    w.installed.get? key = stateFile.get? key
  numbered : ∀ {index : Nat} {entry : SessionKey × KSession},
    done[index]? = some entry →
    ∃ rec, w.installed.get? entry.1 = some rec ∧
      rec.swIfIndex = some (others + index) ∧
      rec.routes = entry.2.fetchRoutes pass.pppRoutes
  tunnelsUsed : TunnelsUsed w.vpp

theorem SessionAdded.numbered {s : KSession} {routes : List IpPrefix}
    {cache cache' : TunnelsCache} {sessions : List KSession} {length : Nat}
    (h : SessionAdded cfg s routes cache cache' w w')
    (hopened : Opened (tunnelOpeners sessions) cache w.vpp)
    (hpacked : w.vpp.swInterfaces.Packed length) :
    Opened (tunnelOpeners (sessions ++ [s])) cache' w'.vpp ∧
      w'.vpp.swInterfaces.Packed (length + 1) ∧
      ∃ tunnelIndex, w'.installed = w.installed.set s.sessionKey
        (s.record (some length) tunnelIndex routes) := by
  obtain ⟨htunnel, ht, hkey, rfl, hroutes, hinstalled⟩ := h
  rename_i index t v
  have hv : v.swInterfaces = w.vpp.swInterfaces := by
    cases htunnel with
    | cached hcache => rfl
    | added hcache hlocal hfind => rfl
  rw [hv, hpacked.nextIndex] at hinstalled
  refine ⟨(hopened.ensured htunnel).sessionAdd.of_tunnels
    hroutes.sameStore.tunnels, ?_, _, hinstalled⟩
  rw [hroutes.sameStore.swInterfaces]
  change (v.swInterfaces.get _ _).Packed (length + 1)
  rw [hv]
  exact hpacked.get _ _

namespace Recovering

variable {pass : Pass} {stateFile : InstalledDict} {others : Nat}
  {done : List (SessionKey × KSession)} {cache : TunnelsCache}

theorem start (hw : List HwInterface) (sw : List SwInterface)
    (hsound : CacheSound (w.restart cfg hw sw).vpp cache) :
    Recovering pass (loadState cfg w.stateFile) sw.length [] cache
      ((w.restart cfg hw sw).logged cfg .tunnelDump) := by
  have hfresh : ∀ index,
      (w.restart cfg hw sw).vpp.lm.tunnels.elt? index = none :=
    fun index => Pool.elt?_empty index
  have hempty : ∀ key, cache.get? key = none := by
    intro key
    rw [Option.eq_none_iff_forall_ne_some]
    intro tunnelIndex hget
    obtain ⟨index, t, -, ht, -⟩ := hsound key tunnelIndex hget
    rw [hfresh] at ht
    contradiction
  have hnone : recovered [] ((w.restart cfg hw sw).logged cfg .tunnelDump) =
      fun _ => none := by
    funext key
    simp [recovered]
  refine ⟨rfl, ?_, hsound, ⟨Pool.packed_empty, ?_, ?_⟩, Pool.packed_ofList sw,
    fun _ _ => rfl, by simp, ?_⟩
  · rw [hnone]
    exact Mirror.initial _ _
  · simp [hempty, tunnelOpeners]
  · intro index t ht
    exact absurd ((hfresh index).symm.trans ht) (by simp)
  · intro index t ht
    exact absurd ((hfresh index).symm.trans ht) (by simp)

variable {entry : SessionKey × KSession}

theorem recorded (h : Recovering pass stateFile others done cache w)
    {index : Nat} (hentry : done[index]? = some entry) :
    ∃ rec, recovered done w entry.1 = some rec ∧
      rec.swIfIndex = some (others + index) ∧
      rec.routes = entry.2.fetchRoutes pass.pppRoutes := by
  obtain ⟨rec, hrec, hrest⟩ := h.numbered hentry
  refine ⟨rec, ?_, hrest⟩
  rw [recovered,
    if_pos (List.mem_map_of_mem (List.mem_of_getElem? hentry)), hrec]

theorem openable {s : KSession}
    (h : Recovering pass stateFile others done cache w)
    (haddable : tunnelsAddable cfg
      (tunnelOpeners (done.map Prod.snd ++ [s])) = true)
    (hcache : cache.get? s.tunnelKey = none) :
    ip4Endpoints cfg s = true ∧
      l2tvppTunnelFind w.vpp.lm s.peerIp.decode s.peerPort s.localTid =
        none := by
  have hnew := (h.opened.cached s.tunnelKey).mp hcache
  rw [tunnelOpeners_append, if_neg (by simpa using hnew), tunnelsAddable,
    Bool.and_eq_true, List.all_eq_true, decide_eq_true_eq,
    List.pairwise_append] at haddable
  obtain ⟨hip4, -, -, hdistinct⟩ := haddable
  exact ⟨hip4 s (by simp),
    h.opened.find_none fun o ho => hdistinct o ho s (by simp)⟩

theorem recovered_snoc {rec : InstalledRec}
    (hinstalled : w'.installed.get? =
      Function.update w.installed.get? entry.1 (some rec)) :
    recovered (done ++ [entry]) w' =
      Function.update (recovered done w) entry.1 (some rec) := by
  funext key
  simp only [recovered, hinstalled, Function.update_apply, List.map_append,
    List.map_cons, List.map_nil, List.mem_append, List.mem_singleton]
  by_cases hkey : key = entry.1
  · rw [if_pos hkey, if_pos hkey, if_pos (.inr hkey)]
  · rw [if_neg hkey, if_neg hkey]
    exact if_congr (or_iff_left hkey) rfl rfl

theorem step {acc acc' : Nat × TunnelsCache}
    (h : Recovering pass stateFile others done acc.2 w)
    (hkey : entry.1 = entry.2.sessionKey) (hnew : entry.1 ∉ done.map Prod.fst)
    (hfile : stateFile.get? entry.1 = none)
    (haddable : tunnelsAddable cfg
      (tunnelOpeners (done.map Prod.snd ++ [entry.2])) = true)
    (hround : exec (reconcileSession cfg pass acc entry) w = (.ok acc', w')) :
    Recovering pass stateFile others (done ++ [entry]) acc'.2 w' := by
  have hnone := (h.untouched _ hnew).trans hfile
  rw [reconcileSession, exec_get_bind, if_pos (by simp [hnone])] at hround
  obtain ⟨cache', added, hadd, hpure⟩ := exec_bind_ok.mp hround
  cases hpure
  have hunrecorded : recovered done w entry.2.sessionKey = none := by
    rw [← hkey, recovered, if_neg hnew]
  have hok := addSession_allOk h.ok h.mirror hunrecorded h.cacheSound
    (h.openable haddable) hadd
  have hadded := addSession_ok hadd hok
  obtain ⟨hsound, swIfIndex, tunnelIndex, hinstalled, hmirror⟩ :=
    hadded.mirror h.mirror h.cacheSound
  obtain ⟨hopened, hinterfaces, tunnelIndex', hinstalled'⟩ :=
    hadded.numbered h.opened h.interfaces
  have hget := get?_set_eq_update w.installed entry.2.sessionKey
    (entry.2.record swIfIndex tunnelIndex
      (entry.2.fetchRoutes pass.pppRoutes))
  have hget' := get?_set_eq_update w.installed entry.2.sessionKey
    (entry.2.record (some (others + done.length)) tunnelIndex'
      (entry.2.fetchRoutes pass.pppRoutes))
  rw [← hinstalled, ← hkey] at hget
  rw [← hinstalled', ← hkey] at hget'
  refine ⟨hok, ?_, hsound, ?_, ?_, ?_, ?_, hadded.tunnelsUsed h.tunnelsUsed⟩
  · rw [recovered_snoc hget, hkey]
    exact hmirror
  · rw [List.map_append]
    exact hopened
  · rw [List.length_append]
    exact hinterfaces
  · intro key hother
    obtain ⟨hkey, hne⟩ := untouched_append hother
    rw [hget, Function.update_of_ne hne]
    exact h.untouched key hkey
  · intro index other hother
    rcases getElem?_concat_eq_some.mp hother with hother | ⟨rfl, rfl⟩
    · obtain ⟨rec, hrec, hrest⟩ := h.numbered hother
      refine ⟨rec, ?_, hrest⟩
      have hne := fst_ne_of_mem hnew (List.mem_of_getElem? hother)
      rw [hget, Function.update_of_ne hne, hrec]
    · rw [hget', Function.update_self]
      exact ⟨_, rfl, rfl, rfl⟩

theorem run {acc : Nat × TunnelsCache}
    (h : Recovering pass stateFile others [] cache w)
    (hfile : ∀ key ∈ (wantSessions pass.ksessions).keys,
      stateFile.get? key = none)
    (haddable : tunnelsAddable cfg (tunnelOpeners
      ((wantSessions pass.ksessions).items.map Prod.snd)) = true)
    (hrun : exec ((wantSessions pass.ksessions).items.foldlM
      (reconcileSession cfg pass) (0, cache)) w = (.ok acc, w')) :
    Recovering pass stateFile others (wantSessions pass.ksessions).items acc.2
      w' := by
  refine exec_foldlM_invariant
    (fun done acc m => Recovering pass stateFile others done acc.2 m) ?_ h hrun
  intro done entry rest heq acc m acc' m' hm hround
  obtain ⟨hkey, hnew⟩ := wantSessions_entry heq
  refine hm.step hkey hnew (hfile _ ?_) (tunnelsAddable_mono haddable ?_) hround
  · rw [Dict.keys, heq]
    simp
  · rw [heq, show (done ++ entry :: rest).map Prod.snd =
      (done.map Prod.snd ++ [entry.2]) ++ rest.map Prod.snd by simp]
    exact tunnelOpeners_extends ..

end Recovering

/-! ## The second loop after a restart -/

theorem sameStore_routes {v : Vpp} (pfxs : List IpPrefix)
    (swIfIndex : Option Nat) (isAdd : Bool) :
    Preserves (fun w => SameStore v w.vpp)
      (pfxs.forM fun pfx => route cfg pfx swIfIndex isAdd) := by
  refine .forM (fun pfx => ?_) _
  intro w reply w' hexec hw
  obtain rfl := route_run hexec
  cases hok : (handle cfg.policies w.vpp
      (.routeAddDel isAdd pfx swIfIndex)).1.ok with
  | false =>
      simp only [World.logged, handle_rejected hok]
      exact hw
  | true =>
      obtain ⟨index, -, hroute⟩ := routeAddDel_accepted hok
      exact hw.trans (sameStore_l2tvppRouteAddDel hroute)

theorem forM_routeDel_run {pfxs : List IpPrefix} {swIfIndex : Option Nat}
    (h : exec (pfxs.forM fun pfx => route cfg pfx swIfIndex false) w =
      (.ok (), w')) :
    w'.installed = w.installed ∧
    ∀ pfx index, (pfx, index) ∈ w.vpp.fib →
      (swIfIndex = some index → ∀ p ∈ pfxs, p.decode ≠ pfx) →
      (pfx, index) ∈ w'.vpp.fib := by
  refine exec_forM_invariant (fun done m => m.installed = w.installed ∧
    ∀ pfx index, (pfx, index) ∈ w.vpp.fib →
      (swIfIndex = some index → ∀ p ∈ done, p.decode ≠ pfx) →
      (pfx, index) ∈ m.vpp.fib) ?_ ⟨rfl, fun _ _ hmem _ => hmem⟩ h
  rintro done p rest - m m' ⟨hinstalled, hfib⟩ hround
  obtain rfl := route_run hround
  refine ⟨hinstalled, ?_⟩
  intro pfx index hmem hspared
  have hkept := hfib pfx index hmem fun hsw p' hp' =>
    hspared hsw p' (List.mem_append_left _ hp')
  cases hok : (handle cfg.policies m.vpp
      (.routeAddDel false p swIfIndex)).1.ok with
  | false =>
      simp only [World.logged, handle_rejected hok]
      exact hkept
  | true =>
      obtain ⟨deleted, rfl, hroute⟩ := routeAddDel_accepted hok
      obtain ⟨-, hdeleted, -⟩ := l2tvppRouteAddDel_ok hroute
      simp only [World.logged]
      rw [hdeleted, if_neg Bool.false_ne_true, Finset.mem_erase,
        IpPrefix.key_decode]
      refine ⟨?_, hkept⟩
      intro heq
      obtain ⟨hpfx, hindex⟩ := Prod.mk.inj heq
      exact hspared (by rw [hindex]) p (by simp) hpfx.symm

structure Sparing (cfg : Config) (pass : Pass) (stateFile : InstalledDict)
    (others : Nat) (w₁ w : World) : Prop where
  sameStore : SameStore w₁.vpp w.vpp
  records : ∀ {key : SessionKey} {rec : InstalledRec},
    (wantSessions pass.ksessions).get? key = none →
    w.installed.get? key = some rec → stateFile.get? key = some rec
  routes : ∀ {index : Nat} {entry : SessionKey × KSession},
    (wantSessions pass.ksessions).items[index]? = some entry →
    ∀ pfx ∈ entry.2.fetchRoutes pass.pppRoutes,
      (pfx.decode, others + index) ∈ w.vpp.fib
  noneDeleted : NoneDeleted cfg w

/-- The deletes for the record take nothing from the wanted sessions. -/
structure Spares (pass : Pass) (others : Nat) (rec : InstalledRec) : Prop where
  sessions : sparesSessions
    (tunnelOpeners ((wantSessions pass.ksessions).items.map Prod.snd))
    (wantSessions pass.ksessions).keys rec = true
  routes : sparesRoutes pass.pppRoutes
    ((wantSessions pass.ksessions).items.map Prod.snd) others rec = true

section Sparing

variable {pass : Pass} {stateFile : InstalledDict} {others : Nat}
  {cache : TunnelsCache} {w₁ : World}

theorem Recovering.delete_rejected {rec : InstalledRec} {v : Vpp}
    (h : Recovering pass stateFile others
      (wantSessions pass.ksessions).items cache w₁)
    (hstore : SameStore w₁.vpp v)
    (hspares : Spares pass others rec) :
    (handle cfg.policies v (.sessionAddDel false rec.tunnelIndex rec.localSid
      rec.peerSid false false)).1.ok = false := by
  rw [← Bool.not_eq_true]
  intro hok
  obtain ⟨tunnel, t, index, sess, htunnel, ht, hkey, hsess, -⟩ :=
    sessionDel_accepted hok
  rw [hstore.tunnels] at ht
  obtain ⟨o, ho, -, -, htid⟩ := h.opened.opener ht
  have hfind := (h.mirror.store.of_sameStore hstore).byKey.some_iff.mp hkey
  obtain ⟨sess', hsess', hkey'⟩ := hfind
  rw [hsess] at hsess'
  cases hsess'
  obtain ⟨hsessTid, hsessSid⟩ := l2tvppSessionKey_inj.mp hkey'
  obtain ⟨csum, hlive⟩ := hstore.session hsess
  obtain ⟨rec', hrec'⟩ := h.mirror.recorded hlive
  rw [recovered] at hrec'
  split at hrec'
  · rename_i hwanted
    have hsessions := hspares.sessions
    simp only [sparesSessions, htunnel, Option.bind_some, ho, Option.all_some,
      decide_eq_true_eq] at hsessions
    apply hsessions
    rw [← htid, ← hsessTid, ← hsessSid]
    exact hwanted
  · contradiction

theorem Recovering.sparing {m : World}
    (h : Recovering pass stateFile others
      (wantSessions pass.ksessions).items cache m)
    (hnone : NoneDeleted cfg m) : Sparing cfg pass stateFile others m m where
  sameStore := SameStore.refl _
  records := by
    intro key rec hgone hrec
    rw [← h.untouched key ((Dict.get?_eq_none _).mp hgone), hrec]
  routes := by
    intro index entry hentry pfx hpfx
    obtain ⟨rec, hrec, hsw, hroutes⟩ := h.recorded hentry
    rw [h.mirror.fib]
    refine ⟨entry.1, rec, pfx, hrec, ?_, hsw, rfl⟩
    rw [hroutes]
    exact hpfx
  noneDeleted := hnone

theorem Sparing.delSession {key : SessionKey}
    (h : Sparing cfg pass stateFile others w₁ w)
    (hadded : Recovering pass stateFile others
      (wantSessions pass.ksessions).items cache w₁)
    (hspares : ∀ rec, stateFile.get? key = some rec →
      Spares pass others rec)
    (hgone : (wantSessions pass.ksessions).get? key = none)
    (hdel : exec (delSession cfg key) w = (.ok (), w')) :
    Sparing cfg pass stateFile others w₁ w' := by
  obtain ⟨rec, routed, hrec, hforM, rfl⟩ := delSession_run hdel
  have hspared := hspares rec (h.records hgone hrec)
  have hroutes := hspared.routes
  have hstore : SameStore w.vpp routed.vpp :=
    sameStore_routes _ _ false _ _ _ hforM (SameStore.refl _)
  obtain ⟨hinstalled, hfib⟩ := forM_routeDel_run hforM
  have hrejected : (handle cfg.policies routed.vpp (.sessionAddDel false
      rec.tunnelIndex rec.localSid rec.peerSid false false)).1.ok = false :=
    hadded.delete_rejected (h.sameStore.trans hstore) hspared
  refine ⟨?_, ?_, ?_, ?_⟩
  · simp only [World.logged, handle_rejected hrejected]
    exact h.sameStore.trans hstore
  · intro other rec' hother hrec'
    simp only [hinstalled, Dict.get?_erase] at hrec'
    split at hrec'
    · contradiction
    · exact h.records hother hrec'
  · intro index entry hentry pfx hpfx
    simp only [World.logged, handle_rejected hrejected]
    refine hfib _ _ (h.routes hentry pfx hpfx) ?_
    intro hsw p hp heq
    simp only [sparesRoutes, hsw, Option.bind_some, Nat.le_add_right, if_true,
      Nat.add_sub_cancel_left, List.getElem?_map, hentry, Option.map_some,
      Option.all_some, List.all_eq_true, decide_eq_true_eq] at hroutes
    rw [IpPrefix.decode_inj.mp heq] at hp
    exact hroutes pfx hp hpfx
  · have hbefore : NoneDeleted cfg routed :=
      callsKeep_noneDeleted.routes _ _ false w _ routed hforM h.noneDeleted
    refine hbefore.logged ?_
    intro other hlive
    rw [handle_rejected hrejected]
    exact hlive

theorem Sparing.run {removed : Nat} (hnone : NoneDeleted cfg w₁)
    (hadded : Recovering pass stateFile others
      (wantSessions pass.ksessions).items cache w₁)
    (hspares : ∀ key rec, stateFile.get? key = some rec →
      Spares pass others rec)
    (hrun : exec (w₁.installed.keys.foldlM
      (removeSession cfg (wantSessions pass.ksessions)) 0) w₁ =
      (.ok removed, w')) : Sparing cfg pass stateFile others w₁ w' := by
  refine exec_foldlM_invariant
    (fun _ _ m => Sparing cfg pass stateFile others w₁ m) ?_
    (hadded.sparing hnone) hrun
  intro done key rest _ n m n' m' hm hround
  rw [removeSession] at hround
  split at hround
  · rename_i hgone
    obtain ⟨_, deleted, hdel, hpure⟩ := exec_bind_ok.mp hround
    cases hpure
    exact hm.delSession hadded (hspares key)
      (Option.isNone_iff_eq_none.mp hgone) hdel
  · cases hround
    exact hm

end Sparing

theorem pruneTunnels_idle (hused : TunnelsUsed w.vpp)
    (h : exec (pruneTunnels cfg) w = (.ok (), w')) : w'.vpp = w.vpp := by
  obtain ⟨cache, dumped, hvpp, -, hsound, -, h⟩ := pruneTunnels_run h
  refine exec_forM_invariant (fun _ m => m.vpp = w.vpp) ?_ hvpp h
  rintro done ⟨key, tunnelIndex⟩ rest heq m m' hm hround
  obtain ⟨index, t, rfl, ht, -⟩ :=
    hsound key tunnelIndex (cache.mem_items.mp (by rw [heq]; simp))
  rw [if_pos (mem_usedTunnels.mpr (hused index t ht))] at hround
  cases hround
  exact hm

/-! ## The pass after a restart -/

/-- Every wanted session is there with its routes, and no call of the pass has
taken a wanted session away. -/
structure Recovered (cfg : Config) (pass : Pass) (w : World) : Prop where
  live : ∀ s ∈ pass.ksessions, s.hasIfname = true →
    ∃ index sess, w.vpp.lm.sessions.elt? index = some sess ∧
      (sess.localTid, sess.localSid) = s.sessionKey ∧
      ∀ pfx ∈ s.fetchRoutes pass.pppRoutes,
        (pfx.decode, sess.swIfIndex) ∈ w.vpp.fib
  kept : ∀ event ∈ w.calls, ∀ s ∈ pass.ksessions, s.hasIfname = true →
    SessionLive event.before s.sessionKey →
    SessionLive (handle cfg.policies event.before event.call).2 s.sessionKey

theorem recovered_of_noCollision {hw : List HwInterface}
    {sw : List SwInterface} {pass : Pass} {result : Nat × Nat}
    (hfree : noCollision cfg (loadState cfg w.stateFile) sw.length pass = true)
    (h : exec (reconcile cfg pass) (w.restart cfg hw sw) = (.ok result, w')) :
    Recovered cfg pass w' := by
  simp only [noCollision, Bool.and_eq_true, List.all_eq_true,
    Option.isNone_iff_eq_none] at hfree
  obtain ⟨⟨⟨haddable, hlast⟩, hfile⟩, hspares⟩ := hfree
  obtain ⟨acc, w₁, removed, w₂, w₃, hadding, hremoving, hprune, hvpp, -,
    hcalls, -⟩ := reconcile_run h
  have hsound := cacheSound_dumpedTunnels (w.restart cfg hw sw).vpp
  have hadded := (Recovering.start hw sw hsound).run hfile haddable hadding
  have hnone₀ : NoneDeleted cfg ((w.restart cfg hw sw).logged cfg .tunnelDump) :=
    callsKeep_noneDeleted.call _ .tunnelDump rfl (by simp [NoneDeleted, World.restart])
  have hnone₁ : NoneDeleted cfg w₁ :=
    Preserves.foldlM (callsKeep_noneDeleted.reconcileSession pass) _ _ _ _ _
      hadding hnone₀
  have hsparing := Sparing.run hnone₁ hadded
    (fun key rec hrec =>
      have hitem := hspares (key, rec) (Dict.mem_items _ |>.mpr hrec)
      ⟨hitem.1, hitem.2⟩)
    hremoving
  -- after the deletes nothing is left to prune
  have hfinal : w₃.vpp = w₂.vpp ∧ NoneDeleted cfg w₃ := by
    rcases hprune with ⟨-, rfl⟩ | ⟨-, hprune⟩
    · exact ⟨rfl, hsparing.noneDeleted⟩
    · exact ⟨pruneTunnels_idle (hadded.tunnelsUsed.sameStore hsparing.sameStore)
        hprune, callsKeep_noneDeleted.pruneTunnels _ _ _ hprune
          hsparing.noneDeleted⟩
  constructor
  · intro s hs hifname
    obtain ⟨s', hs'⟩ := wantSessions_mem hs hifname
    have hsubset := hlast s hs
    simp only [hifname, Bool.not_true, Bool.false_or, hs', Option.all_some,
      decide_eq_true_eq] at hsubset
    obtain ⟨index, hindex⟩ :=
      List.mem_iff_getElem?.mp (Dict.mem_items _ |>.mpr hs')
    obtain ⟨rec, hrec, hsw, -⟩ := hadded.recorded hindex
    obtain ⟨i, sess, hsess, hids, hdescribes⟩ := hadded.mirror.live hrec
    obtain ⟨csum, hlive⟩ := hsparing.sameStore.symm.session hsess
    rw [hvpp, hfinal.1]
    refine ⟨i, _, hlive, hids, ?_⟩
    intro pfx hpfx
    rw [hdescribes.swIfIndex] at hsw
    change (pfx.decode, sess.swIfIndex) ∈ w₂.vpp.fib
    rw [Option.some.inj hsw]
    exact hsparing.routes hindex pfx (hsubset hpfx)
  · intro event hevent s _ _
    rw [hcalls] at hevent
    exact hfinal.2 event hevent s.sessionKey

end L2tvpp.Syncd
