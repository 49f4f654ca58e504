import L2tvpp.Syncd.Mirror

/-!
# What each operation of the daemon does

For every operation, the plugin states it goes through when all its calls
succeed, and what it writes to the record.
-/

namespace L2tvpp.Syncd

open L2tvpp.Lib L2tvpp.Plugin

variable {cfg : Config} {w w' : World}

/-! ## Calls -/

theorem callApi_ok {call : ApiCall} {reply : ApiReply}
    (h : exec (callApi cfg call) w = (.ok reply, w')) :
    reply = (handle cfg.policies w.vpp call).1 ∧ w' = w.logged cfg call := by
  simp only [callApi, exec_get_bind] at h
  split at h
  · split at h
    · rename_i interrupt _ _
      cases hcase : interrupt.applied <;> simp [hcase] at h
    · simp only [exec_set_bind, exec_pure, Prod.mk.injEq, Except.ok.injEq] at h
      exact ⟨h.1.symm, h.2.symm⟩
  · simp only [exec_set_bind, exec_pure, Prod.mk.injEq, Except.ok.injEq] at h
    exact ⟨h.1.symm, h.2.symm⟩

/-- A call raises before or after the plugin has acted. -/
theorem callApi_triple {call : ApiCall} {pre : World → Prop}
    {post : ApiReply → World → Prop} {raised : World → Prop}
    (hpost : ∀ w, pre w →
      post (handle cfg.policies w.vpp call).1 (w.logged cfg call))
    (hraised : ∀ w, pre w → raised w ∧ raised (w.logged cfg call)) :
    Triple pre (callApi cfg call) post raised := by
  intro w hw
  simp only [Syncd.callApi, exec_get_bind]
  cases w.interrupt with
  | none =>
      simp only [exec_set_bind, exec_pure]
      exact hpost w hw
  | some interrupt =>
      by_cases hnow : w.calls.length = interrupt.call
      · simp only [if_pos hnow]
        cases interrupt.applied with
        | false => exact (hraised w hw).1
        | true => exact (hraised w hw).2
      · simp only [if_neg hnow, exec_set_bind, exec_pure]
        exact hpost w hw

theorem callApi_error {call : ApiCall} {e : PyExc}
    (h : exec (callApi cfg call) w = (.error e, w')) :
    w' = w ∨ w' = w.logged cfg call := by
  have hcall : Triple (fun m => m = w) (callApi cfg call) (fun _ _ => True)
      fun m => m = w ∨ m = w.logged cfg call := by
    refine callApi_triple (fun _ _ => trivial) ?_
    rintro m rfl
    exact ⟨.inl rfl, .inr rfl⟩
  exact hcall.error rfl h

@[simp] theorem allOk_logged (call : ApiCall) :
    (w.logged cfg call).allOk = true ↔
      w.allOk = true ∧ (handle cfg.policies w.vpp call).1.ok = true := by
  simp [World.allOk, World.logged]

theorem allOk_of_appended (hfirst : w.calls <+: w'.calls)
    (h : w'.allOk = true) : w.allOk = true := by
  simp only [World.allOk, List.all_eq_true] at h ⊢
  intro event hevent
  exact h event (hfirst.subset hevent)

theorem exec_setInstalled {installed : InstalledDict} :
    exec (setInstalled installed) w =
      (.ok (), { w with installed := installed }) := by
  simp [setInstalled]

theorem preserves_setInstalled {I : Vpp → Prop} (installed : InstalledDict) :
    Preserves (fun w => I w.vpp) (setInstalled installed) := by
  intro w _ w' hexec hw
  rw [exec_setInstalled] at hexec
  cases hexec
  exact hw

/-! ## Properties that calls keep

A property that every call and every write of the record keeps is kept by the
operations.  All but the delete of a session make no session delete.
-/

def ApiCall.isSessionDel : ApiCall → Bool
  | .sessionAddDel isAdd .. => !isAdd
  | _ => false

structure CallsKeep (cfg : Config) (I : World → Prop) : Prop where
  call : ∀ w call, call.isSessionDel = false → I w → I (w.logged cfg call)
  record : ∀ (w : World) installed, I w → I { w with installed := installed }

namespace CallsKeep

variable {I : World → Prop} (h : CallsKeep cfg I)
include h

theorem callApi {call : ApiCall} (hcall : call.isSessionDel = false) :
    Preserves I (callApi cfg call) := by
  intro w reply w' hexec hw
  rw [(callApi_ok hexec).2]
  exact h.call w call hcall hw

theorem setInstalled (installed : InstalledDict) :
    Preserves I (setInstalled installed) := by
  intro w _ w' hexec hw
  rw [exec_setInstalled] at hexec
  cases hexec
  exact h.record w installed hw

theorem vppTunnels : Preserves I (vppTunnels cfg) :=
  (h.callApi rfl).bind fun _ => .ret _

theorem ensureTunnel (s : KSession) (cache : TunnelsCache) :
    Preserves I (ensureTunnel cfg s cache) := by
  unfold Syncd.ensureTunnel
  split
  · exact .ret _
  · split
    · exact .raise _
    · exact (h.callApi rfl).bind fun _ => .ret _

theorem routes (pfxs : List IpPrefix) (swIfIndex : Option Nat)
    (isAdd : Bool) :
    Preserves I (pfxs.forM fun pfx => route cfg pfx swIfIndex isAdd) :=
  .forM (fun _ => (h.callApi rfl).bind fun _ => .ret _) _

theorem addSession (pppRoutes : PppRoutes) (s : KSession)
    (cache : TunnelsCache) :
    Preserves I (addSession cfg pppRoutes s cache) := by
  refine (h.ensureTunnel s cache).bind fun _ => ?_
  refine (h.callApi rfl).bind fun r => ?_
  refine (h.routes _ r.index true).bind fun _ => ?_
  exact .read fun _ => (h.setInstalled _).bind fun _ => .ret _

theorem syncRoutes (pppRoutes : PppRoutes) (s : KSession) :
    Preserves I (syncRoutes cfg pppRoutes s) := by
  refine .read fun w => ?_
  split
  · exact .raise _
  · rename_i rec _
    refine (h.routes _ rec.swIfIndex true).bind fun _ => ?_
    refine (h.routes _ rec.swIfIndex false).bind fun _ => ?_
    split
    · exact .read fun _ => h.setInstalled _
    · exact .ret _

theorem pruneTunnels : Preserves I (pruneTunnels cfg) := by
  refine (h.callApi rfl).bind fun reply => ?_
  refine h.vppTunnels.bind fun tunnels => ?_
  refine .forM (fun entry => ?_) _
  split
  · exact .ret _
  · exact (h.callApi rfl).bind fun _ => .ret _

theorem reconcileSession (pass : Pass) (acc : Nat × TunnelsCache)
    (entry : SessionKey × KSession) :
    Preserves I (reconcileSession cfg pass acc entry) := by
  refine .read fun w => ?_
  split
  · exact (h.addSession _ _ _).bind fun _ => .ret _
  · split
    · exact (h.syncRoutes _ _).bind fun _ => .ret _
    · exact .ret _

end CallsKeep

/-! ## The list of calls only grows -/

theorem callsKeep_appends (calls : List ApiEvent) :
    CallsKeep cfg fun w => calls <+: w.calls where
  call := fun _ _ _ h => h.trans (List.prefix_append ..)
  record := fun _ _ h => h

theorem appends_delSession (calls : List ApiEvent) (key : SessionKey) :
    Preserves (fun w => calls <+: w.calls) (delSession cfg key) := by
  have hkeep : CallsKeep cfg fun w => calls <+: w.calls :=
    callsKeep_appends calls
  refine .read fun w => ?_
  split
  · exact .raise _
  · rename_i rec _
    refine (hkeep.routes _ rec.swIfIndex false).bind fun _ => ?_
    refine .bind ?_ fun _ => .read fun _ => hkeep.setInstalled _
    intro w reply w' hexec hw
    rw [(callApi_ok hexec).2]
    exact hw.trans (List.prefix_append ..)

theorem appends_removeSession (calls : List ApiEvent)
    (want : Dict SessionKey KSession) (removed : Nat) (key : SessionKey) :
    Preserves (fun w => calls <+: w.calls)
      (removeSession cfg want removed key) := by
  unfold removeSession
  split
  · exact (appends_delSession calls key).bind fun _ => .ret _
  · exact .ret _

theorem allOk_before {α : Type} {prog : SyncM α} {a : α}
    (happends : ∀ calls, Preserves (fun w => calls <+: w.calls) prog)
    (hrun : exec prog w = (.ok a, w')) (hok : w'.allOk = true) :
    w.allOk = true :=
  allOk_of_appended (happends w.calls w a w' hrun (List.prefix_refl _)) hok

theorem foldlM_allOk {α β : Type} {body : β → α → SyncM β} {xs : List α}
    (happends : ∀ calls b x,
      Preserves (fun w => calls <+: w.calls) (body b x))
    (Inv : List α → β → World → Prop)
    (hbody : ∀ done x rest, xs = done ++ x :: rest → ∀ b w b' w',
      Inv done b w → exec (body b x) w = (.ok b', w') → w'.allOk = true →
      Inv (done ++ [x]) b' w')
    {b b' : β} {w w' : World} (hinit : Inv [] b w)
    (hrun : exec (xs.foldlM body b) w = (.ok b', w'))
    (hok : w'.allOk = true) : Inv xs b' w' := by
  refine exec_foldlM_invariant
    (fun done b w => w.allOk = true → Inv done b w) ?_ (fun _ => hinit) hrun hok
  intro done x rest heq b w b' w' hinv hround hok'
  have hbefore := allOk_before (happends · b x) hround hok'
  exact hbody done x rest heq b w b' w' (hinv hbefore) hround hok'

/-! ## Routes -/

theorem route_run {pfx : IpPrefix} {swIfIndex : Option Nat} {isAdd : Bool}
    (h : exec (route cfg pfx swIfIndex isAdd) w = (.ok (), w')) :
    w' = w.logged cfg (.routeAddDel isAdd pfx swIfIndex) := by
  obtain ⟨reply, logged, hcall, hpure⟩ := exec_bind_ok.mp h
  cases hpure
  exact (callApi_ok hcall).2

theorem forM_route_ok {pfxs : List IpPrefix} {swIfIndex : Option Nat}
    {isAdd : Bool}
    (h : exec (pfxs.forM fun pfx => route cfg pfx swIfIndex isAdd) w =
      (.ok (), w')) (hok : w'.allOk = true) :
    w'.installed = w.installed ∧
    ∀ index, swIfIndex = some index →
      RoutesChanged isAdd pfxs index w.vpp w'.vpp := by
  have hinv := exec_forM_invariant
    (fun done middle => middle.installed = w.installed ∧
      (middle.allOk = true → ∀ index, swIfIndex = some index →
        RoutesChanged isAdd done index w.vpp middle.vpp))
    ?_ ⟨rfl, fun _ index _ => RoutesChanged.nil w.vpp⟩ h
  · exact ⟨hinv.1, hinv.2 hok⟩
  · intro done pfx rest _ middle next hmiddle hroute
    obtain rfl := route_run hroute
    refine ⟨hmiddle.1, ?_⟩
    rintro hok' index rfl
    rw [allOk_logged] at hok'
    obtain ⟨_, heq, haccepted⟩ := routeAddDel_accepted hok'.2
    cases heq
    exact (hmiddle.2 hok'.1 index rfl).snoc haccepted

/-! ## Adding a session -/

/-- The tunnel of a session: in the cache, or added now. -/
inductive TunnelEnsured (cfg : Config) (s : KSession) (cache : TunnelsCache)
    (v : Vpp) : Option Nat → TunnelsCache → Vpp → Prop
  | cached {tunnelIndex : Option Nat}
      (hcache : cache.get? s.tunnelKey = some tunnelIndex) :
      TunnelEnsured cfg s cache v tunnelIndex cache v
  | added {localIp : IpAddress} {localPort : U16}
      (hcache : cache.get? s.tunnelKey = none)
      (hlocal : localEndpoint cfg s = (some localIp, localPort))
      (hfind : l2tvppTunnelFind v.lm s.peerIp.decode s.peerPort s.localTid =
        none) :
      TunnelEnsured cfg s cache v
        (some (v.lm.tunnels.nextIndex cfg.policies.tunnels))
        (cache.set s.tunnelKey
          (some (v.lm.tunnels.nextIndex cfg.policies.tunnels)))
        (v.tunnelAdd cfg.policies localIp.decode s.peerIp.decode localPort
          s.peerPort s.localTid s.peerTid)

def KSession.tunnelCall (s : KSession) (localIp : IpAddress)
    (localPort : U16) : ApiCall :=
  .tunnelAddDel true (some localIp) s.peerIp localPort s.peerPort s.localTid
    s.peerTid

theorem ensureTunnel_run {s : KSession} {cache cache' : TunnelsCache}
    {tunnelIndex : Option Nat}
    (h : exec (ensureTunnel cfg s cache) w = (.ok (tunnelIndex, cache'), w')) :
    (cache.get? s.tunnelKey = some tunnelIndex ∧ cache' = cache ∧ w' = w) ∨
    ∃ localIp localPort, cache.get? s.tunnelKey = none ∧
      localEndpoint cfg s = (some localIp, localPort) ∧
      tunnelIndex = (handle cfg.policies w.vpp
        (s.tunnelCall localIp localPort)).1.index ∧
      cache' = cache.set s.tunnelKey tunnelIndex ∧
      w' = w.logged cfg (s.tunnelCall localIp localPort) := by
  unfold ensureTunnel at h
  split at h
  · rename_i index hcache
    cases h
    exact .inl ⟨hcache, rfl, rfl⟩
  · rename_i hcache
    split at h
    · simp at h
    · rename_i localIp localPort hlocal
      obtain ⟨reply, logged, hcall, hpure⟩ := exec_bind_ok.mp h
      obtain ⟨rfl, rfl⟩ := callApi_ok hcall
      cases hpure
      exact .inr ⟨localIp, localPort, hcache, hlocal, rfl, rfl, rfl⟩

theorem ensureTunnel_ok {s : KSession} {cache cache' : TunnelsCache}
    {tunnelIndex : Option Nat}
    (h : exec (ensureTunnel cfg s cache) w = (.ok (tunnelIndex, cache'), w'))
    (hok : w'.allOk = true) :
    w'.installed = w.installed ∧
      TunnelEnsured cfg s cache w.vpp tunnelIndex cache' w'.vpp := by
  rcases ensureTunnel_run h with ⟨hcache, rfl, rfl⟩ |
    ⟨localIp, localPort, hcache, hlocal, rfl, rfl, rfl⟩
  · exact ⟨rfl, .cached hcache⟩
  · rw [allOk_logged] at hok
    obtain ⟨⟨-, -, hfind⟩, hhandle⟩ := tunnelAdd_accepted hok.2
    refine ⟨rfl, ?_⟩
    simp only [World.logged, KSession.tunnelCall, hhandle]
    exact .added hcache hlocal hfind

def KSession.record (s : KSession) (swIfIndex tunnelIndex : Option Nat)
    (routes : List IpPrefix) : InstalledRec where
  swIfIndex := swIfIndex
  tunnelIndex := tunnelIndex
  localSid := s.localSid
  peerSid := s.peerSid
  tunnelKey := s.tunnelKey
  routes := routes

inductive SessionAdded (cfg : Config) (s : KSession) (routes : List IpPrefix)
    (cache cache' : TunnelsCache) (w w' : World) : Prop
  | intro {tunnelIndex swIfIndex : Nat} {t : L2tvppTunnel} {v : Vpp}
      (htunnel : TunnelEnsured cfg s cache w.vpp (some tunnelIndex) cache' v)
      (ht : v.lm.tunnels.elt? tunnelIndex = some t)
      (hkey : v.lm.sessionByKey.lookup
        (l2tvppSessionKey t.localTid s.localSid) = none)
      (hsw : swIfIndex = v.swInterfaces.nextIndex cfg.policies.swInterfaces)
      (hroutes : RoutesChanged true routes swIfIndex
        (v.sessionAdd cfg.policies tunnelIndex t s.localSid s.peerSid 0 0)
        w'.vpp)
      (hinstalled : w'.installed = w.installed.set s.sessionKey
        (s.record (some swIfIndex) (some tunnelIndex) routes))

def KSession.sessionCall (s : KSession) (tunnelIndex : Option Nat) : ApiCall :=
  .sessionAddDel true tunnelIndex s.localSid s.peerSid false false

theorem addSession_run {pppRoutes : PppRoutes} {s : KSession}
    {cache cache' : TunnelsCache}
    (h : exec (addSession cfg pppRoutes s cache) w = (.ok cache', w')) :
    ∃ tunnelIndex middle swIfIndex routed,
      exec (ensureTunnel cfg s cache) w = (.ok (tunnelIndex, cache'), middle) ∧
      swIfIndex = (handle cfg.policies middle.vpp
        (s.sessionCall tunnelIndex)).1.index ∧
      exec ((s.fetchRoutes pppRoutes).forM fun pfx =>
        route cfg pfx swIfIndex true)
        (middle.logged cfg (s.sessionCall tunnelIndex)) = (.ok (), routed) ∧
      w' = { routed with
        installed := routed.installed.set s.sessionKey
          (s.record swIfIndex tunnelIndex (s.fetchRoutes pppRoutes)) } := by
  obtain ⟨⟨tunnelIndex, cache''⟩, middle, hensure, h⟩ := exec_bind_ok.mp h
  obtain ⟨reply, logged, hcall, h⟩ := exec_bind_ok.mp h
  obtain ⟨rfl, rfl⟩ := callApi_ok hcall
  obtain ⟨_, routed, hforM, h⟩ := exec_bind_ok.mp h
  rw [exec_get_bind] at h
  obtain ⟨_, final, hset, hpure⟩ := exec_bind_ok.mp h
  rw [exec_setInstalled] at hset
  cases hset
  cases hpure
  exact ⟨tunnelIndex, middle, _, routed, hensure, rfl, hforM, rfl⟩

theorem addSession_ok {pppRoutes : PppRoutes} {s : KSession}
    {cache cache' : TunnelsCache}
    (h : exec (addSession cfg pppRoutes s cache) w = (.ok cache', w'))
    (hok : w'.allOk = true) :
    SessionAdded cfg s (s.fetchRoutes pppRoutes) cache cache' w w' := by
  obtain ⟨tunnelIndex, middle, swIfIndex, routed, hensure, hsw, hforM, rfl⟩ :=
    addSession_run h
  have hrouted : routed.allOk = true := hok
  have hlogged := allOk_before
    (fun calls => (callsKeep_appends calls).routes _ _ true) hforM hrouted
  rw [allOk_logged] at hlogged
  obtain ⟨hinstalled, htunnel⟩ := ensureTunnel_ok hensure hlogged.1
  obtain ⟨index, t, rfl, ht, hkey, hhandle⟩ := sessionAdd_accepted hlogged.2
  obtain ⟨hinstalled', hroutes⟩ := forM_route_ok hforM hrouted
  simp only [KSession.sessionCall, hhandle] at hsw
  subst hsw
  have hchanged := hroutes _ rfl
  simp only [World.logged, KSession.sessionCall, hhandle] at hchanged hinstalled'
  refine .intro htunnel ht hkey rfl hchanged ?_
  simp only [hinstalled', hinstalled]
  rfl

/-! ## Syncing the routes of a session -/

theorem mem_setDiff {first second : List IpPrefix} {pfx : IpPrefix} :
    pfx ∈ setDiff first second ↔ pfx ∈ first ∧ pfx ∉ second := by
  simp [setDiff]

inductive RoutesSynced (cfg : Config) (key : SessionKey)
    (wantRoutes : List IpPrefix) (w w' : World) : Prop
  | intro {rec : InstalledRec} {routes : List IpPrefix}
      (hrec : w.installed.get? key = some rec)
      (hvpp : ∀ swIfIndex, rec.swIfIndex = some swIfIndex → ∃ v,
        RoutesChanged true (cfg.setOrder.list (setDiff wantRoutes rec.routes))
          swIfIndex w.vpp v ∧
        RoutesChanged false (cfg.setOrder.list (setDiff rec.routes wantRoutes))
          swIfIndex v w'.vpp)
      (hroutes : ∀ pfx, pfx ∈ routes ↔ pfx ∈ wantRoutes)
      (hinstalled : w'.installed.get? =
        Function.update w.installed.get? key
          (some { rec with routes := routes }))

theorem get?_set_eq_update (installed : InstalledDict) (key : SessionKey)
    (rec : InstalledRec) :
    (installed.set key rec).get? =
      Function.update installed.get? key (some rec) := by
  funext other
  rw [Dict.get?_set, Function.update_apply]

theorem get?_erase_eq_update (installed : InstalledDict) (key : SessionKey) :
    (installed.erase key).get? = Function.update installed.get? key none := by
  funext other
  rw [Dict.get?_erase, Function.update_apply]

/-- The two loops and the write of the record, whatever the replies were. -/
theorem syncRoutes_run {pppRoutes : PppRoutes} {s : KSession}
    (h : exec (syncRoutes cfg pppRoutes s) w = (.ok (), w')) :
    ∃ rec routes added deleted, w.installed.get? s.sessionKey = some rec ∧
      exec ((cfg.setOrder.list (setDiff (s.fetchRoutes pppRoutes)
        rec.routes)).forM fun pfx => route cfg pfx rec.swIfIndex true) w =
        (.ok (), added) ∧
      exec ((cfg.setOrder.list (setDiff rec.routes
        (s.fetchRoutes pppRoutes))).forM fun pfx =>
          route cfg pfx rec.swIfIndex false) added = (.ok (), deleted) ∧
      (∀ pfx, pfx ∈ routes ↔ pfx ∈ s.fetchRoutes pppRoutes) ∧
      w'.vpp = deleted.vpp ∧ w'.calls = deleted.calls ∧
      (deleted.installed = w.installed → w'.installed.get? =
        Function.update w.installed.get? s.sessionKey
          (some { rec with routes := routes })) := by
  simp only [syncRoutes, exec_get_bind] at h
  split at h
  · simp at h
  · rename_i rec hrec
    obtain ⟨_, added, hadd, h⟩ := exec_bind_ok.mp h
    obtain ⟨_, deleted, hdel, h⟩ := exec_bind_ok.mp h
    split at h
    · rw [exec_get_bind, exec_setInstalled] at h
      cases h
      refine ⟨rec, cfg.sortOrder.list (s.fetchRoutes pppRoutes), added, deleted,
        hrec, hadd, hdel, fun _ => cfg.sortOrder.mem_list, rfl, rfl, ?_⟩
      intro hinstalled
      rw [get?_set_eq_update, hinstalled]
    · rename_i hsame
      rw [not_not] at hsame
      cases h
      refine ⟨rec, rec.routes, added, w', hrec, hadd, hdel,
        fun _ => ⟨fun hmem => hsame.1 hmem, fun hmem => hsame.2 hmem⟩, rfl, rfl,
        ?_⟩
      intro hinstalled
      rw [hinstalled]
      exact (Function.update_eq_self_iff.mpr hrec.symm).symm

theorem syncRoutes_ok {pppRoutes : PppRoutes} {s : KSession}
    (h : exec (syncRoutes cfg pppRoutes s) w = (.ok (), w'))
    (hok : w'.allOk = true) :
    RoutesSynced cfg s.sessionKey (s.fetchRoutes pppRoutes) w w' := by
  obtain ⟨rec, routes, added, deleted, hrec, hadd, hdel, hroutes, hvpp, hcalls,
    hwrite⟩ := syncRoutes_run h
  rw [World.allOk, hcalls] at hok
  have hadded := allOk_before
    (fun calls => (callsKeep_appends calls).routes _ _ false) hdel hok
  obtain ⟨hinstalled, hfirst⟩ := forM_route_ok hadd hadded
  obtain ⟨hinstalled', hsecond⟩ := forM_route_ok hdel hok
  refine .intro hrec ?_ hroutes (hwrite (hinstalled'.trans hinstalled))
  intro swIfIndex hsw
  rw [hvpp]
  exact ⟨added.vpp, hfirst swIfIndex hsw, hsecond swIfIndex hsw⟩

/-! ## Deleting a session -/

inductive SessionDeleted (key : SessionKey) (w w' : World) : Prop
  | intro {rec : InstalledRec} {tunnelIndex index : Nat} {t : L2tvppTunnel}
      {sess : L2tvppSession} {v : Vpp}
      (hrec : w.installed.get? key = some rec)
      (hroutes : ∀ swIfIndex, rec.swIfIndex = some swIfIndex →
        RoutesChanged false rec.routes swIfIndex w.vpp v)
      (htunnel : rec.tunnelIndex = some tunnelIndex)
      (ht : v.lm.tunnels.elt? tunnelIndex = some t)
      (hkey : v.lm.sessionByKey.lookup
        (l2tvppSessionKey t.localTid rec.localSid) = some index)
      (hsess : v.lm.sessions.elt? index = some sess)
      (hvpp : w'.vpp = v.sessionDel tunnelIndex
        (l2tvppSessionKey t.localTid rec.localSid) index sess)
      (hinstalled : w'.installed.get? =
        Function.update w.installed.get? key none)

theorem delSession_run {key : SessionKey}
    (h : exec (delSession cfg key) w = (.ok (), w')) :
    ∃ rec routed, w.installed.get? key = some rec ∧
      exec (rec.routes.forM fun pfx => route cfg pfx rec.swIfIndex false) w =
        (.ok (), routed) ∧
      w' = { routed.logged cfg (.sessionAddDel false rec.tunnelIndex
        rec.localSid rec.peerSid false false) with
          installed := routed.installed.erase key } := by
  simp only [delSession, exec_get_bind] at h
  split at h
  · simp at h
  · rename_i rec hrec
    obtain ⟨_, routed, hforM, h⟩ := exec_bind_ok.mp h
    obtain ⟨reply, logged, hcall, h⟩ := exec_bind_ok.mp h
    obtain ⟨rfl, rfl⟩ := callApi_ok hcall
    rw [exec_get_bind, exec_setInstalled] at h
    cases h
    exact ⟨rec, routed, hrec, hforM, rfl⟩

theorem delSession_ok {key : SessionKey}
    (h : exec (delSession cfg key) w = (.ok (), w'))
    (hok : w'.allOk = true) : SessionDeleted key w w' := by
  obtain ⟨rec, routed, hrec, hforM, rfl⟩ := delSession_run h
  have hlogged : (routed.logged cfg (.sessionAddDel false rec.tunnelIndex
    rec.localSid rec.peerSid false false)).allOk = true := hok
  rw [allOk_logged] at hlogged
  obtain ⟨hinstalled, hroutes⟩ := forM_route_ok hforM hlogged.1
  obtain ⟨tunnelIndex, t, index, sess, htunnel, ht, hkey, hsess, hhandle⟩ :=
    sessionDel_accepted hlogged.2
  refine .intro hrec hroutes htunnel ht hkey hsess hhandle ?_
  rw [get?_erase_eq_update, hinstalled]

/-! ## Tunnels -/

def MatchesTunnel (s : KSession) (t : L2tvppTunnel) : Prop :=
  t.peerIp = s.peerIp.decode ∧ t.peerPort = s.peerPort ∧
    t.localTid = s.localTid

def sameTunnel (s s' : KSession) : Bool :=
  decide (s.peerIp.decode = s'.peerIp.decode) &&
    decide (s.peerPort = s'.peerPort) && decide (s.localTid = s'.localTid)

theorem sameTunnel_iff {s s' : KSession} {t : L2tvppTunnel}
    (h : MatchesTunnel s t) : sameTunnel s s' = true ↔ MatchesTunnel s' t := by
  obtain ⟨hpeer, hport, htid⟩ := h
  simp only [sameTunnel, Bool.and_eq_true, decide_eq_true_eq, MatchesTunnel,
    hpeer, hport, htid, and_assoc]

theorem MatchesTunnel.index_eq {v : Vpp} (hstore : StoreInv v) {s : KSession}
    {i j : Nat} {t t' : L2tvppTunnel} (hi : v.lm.tunnels.elt? i = some t)
    (hj : v.lm.tunnels.elt? j = some t') (h : MatchesTunnel s t)
    (h' : MatchesTunnel s t') : i = j :=
  hstore.tunnel_unique hi hj (h.1.trans h'.1.symm) (h.2.1.trans h'.2.1.symm)
    (h.2.2.trans h'.2.2.symm)

/-- The cache names live tunnels with its keys. -/
def CacheSound (v : Vpp) (cache : TunnelsCache) : Prop :=
  ∀ key tunnelIndex, cache.get? key = some tunnelIndex →
    ∃ index t, tunnelIndex = some index ∧
      v.lm.tunnels.elt? index = some t ∧ t.peerIp = key.1.decode ∧
      t.peerPort = key.2.1 ∧ t.localTid = key.2.2

/-- Every live tunnel is in the cache under its own address. -/
def CacheComplete (v : Vpp) (cache : TunnelsCache) : Prop :=
  ∀ index t, v.lm.tunnels.elt? index = some t →
    cache.get? (IpAddress.encode t.peerIp, t.peerPort, t.localTid) =
      some (some index)

/-- What `vpp_tunnels` makes of the dump. -/
def dumpedTunnels (v : Vpp) : TunnelsCache :=
  Dict.empty.setAll (fun t => (t.peerIp, t.peerPort, t.localTid))
    (fun t => some t.tunnelIndex)
    (v.lm.tunnels.toList.map fun entry => sendTunnelDetails entry.1 entry.2)

theorem dumpedTunnels_some {v : Vpp} {key : TunnelKey}
    {tunnelIndex : Option Nat}
    (h : (dumpedTunnels v).get? key = some tunnelIndex) :
    ∃ index t, tunnelIndex = some index ∧ v.lm.tunnels.elt? index = some t ∧
      key = (IpAddress.encode t.peerIp, t.peerPort, t.localTid) := by
  rcases Dict.setAll_some _ _ h with ⟨details, hmem, rfl, rfl⟩ | hempty
  · obtain ⟨⟨index, t⟩, hlive, rfl⟩ := List.mem_map.mp hmem
    exact ⟨index, t, rfl, (Pool.mem_toList _).mp hlive, rfl⟩
  · simp at hempty

theorem cacheSound_dumpedTunnels (v : Vpp) :
    CacheSound v (dumpedTunnels v) := by
  intro key tunnelIndex hget
  obtain ⟨index, t, hindex, ht, rfl⟩ := dumpedTunnels_some hget
  exact ⟨index, t, hindex, ht, (IpAddress.decode_encode t.peerIp).symm, rfl, rfl⟩

theorem cacheComplete_dumpedTunnels {v : Vpp} (hstore : StoreInv v) :
    CacheComplete v (dumpedTunnels v) := by
  intro index t ht
  have hmem : sendTunnelDetails index t ∈
      v.lm.tunnels.toList.map fun entry => sendTunnelDetails entry.1 entry.2 :=
    List.mem_map.mpr ⟨(index, t), (Pool.mem_toList _).mpr ht, rfl⟩
  obtain ⟨details, hdetails, hkey, hget⟩ := Dict.setAll_mem
    (fun t : TunnelDetails => (t.peerIp, t.peerPort, t.localTid))
    (fun t => some t.tunnelIndex) hmem
  obtain ⟨⟨index', t'⟩, hlive', rfl⟩ := List.mem_map.mp hdetails
  simp only [sendTunnelDetails, Prod.mk.injEq] at hkey
  have hpeer : t'.peerIp = t.peerIp := by
    rw [← IpAddress.decode_encode t'.peerIp, hkey.1, IpAddress.decode_encode]
  have hindex := hstore.tunnel_unique ((Pool.mem_toList _).mp hlive') ht hpeer
    hkey.2.1 hkey.2.2
  rw [← hindex]
  exact hget

theorem vppTunnels_ok {cache : TunnelsCache}
    (h : exec (vppTunnels cfg) w = (.ok cache, w')) :
    w' = w.logged cfg .tunnelDump ∧ cache = dumpedTunnels w.vpp := by
  obtain ⟨reply, logged, hcall, hpure⟩ := exec_bind_ok.mp h
  obtain ⟨rfl, rfl⟩ := callApi_ok hcall
  simp only [exec_pure, Prod.mk.injEq, Except.ok.injEq] at hpure
  obtain ⟨rfl, rfl⟩ := hpure
  exact ⟨rfl, rfl⟩

/-- Tunnels without a session are deleted one by one. -/
inductive Pruned (v : Vpp) : Vpp → Prop
  | refl : Pruned v v
  | tunnelDel {v' : Vpp} {index : Nat} {t : L2tvppTunnel} (h : Pruned v v')
      (ht : v'.lm.tunnels.elt? index = some t) (hzero : t.nSessions = 0) :
      Pruned v (v'.tunnelDel index)

namespace Pruned

variable {v v' : Vpp}

theorem frame (h : Pruned v v') :
    v'.lm.sessions = v.lm.sessions ∧ v'.lm.sessionByKey = v.lm.sessionByKey ∧
      v'.fib = v.fib ∧ v'.lm.encapAdjByIp4 = v.lm.encapAdjByIp4 := by
  induction h with
  | refl => exact ⟨rfl, rfl, rfl, rfl⟩
  | tunnelDel h ht hzero ih => exact ih

theorem live (h : Pruned v v') {index : Nat} {t : L2tvppTunnel}
    (ht : v'.lm.tunnels.elt? index = some t) :
    v.lm.tunnels.elt? index = some t := by
  induction h with
  | refl => exact ht
  | tunnelDel h _ _ ih =>
      simp only [Vpp.tunnelDel, Pool.elt?_put] at ht
      split at ht
      · contradiction
      · exact ih ht

theorem mirror (h : Pruned v v') {records : Records}
    (hmirror : Mirror v records) : Mirror v' records := by
  induction h with
  | refl => exact hmirror
  | tunnelDel h ht hzero ih => exact ih.tunnelDel ht hzero

end Pruned

/-- The tunnel indices in the dump of the sessions. -/
def usedTunnels (v : Vpp) : List (Option Nat) :=
  (v.lm.sessions.toList.map fun entry => sendSessionDetails entry.2).map
    fun s => some s.tunnelIndex

theorem mem_usedTunnels {v : Vpp} {index : Nat} :
    some index ∈ usedTunnels v ↔ ∃ i sess,
      v.lm.sessions.elt? i = some sess ∧ sess.tunnelIndex = index := by
  constructor
  · intro hmem
    obtain ⟨details, hdetails, heq⟩ := List.mem_map.mp hmem
    obtain ⟨⟨i, sess⟩, hsess, rfl⟩ := List.mem_map.mp hdetails
    exact ⟨i, sess, (Pool.mem_toList _).mp hsess, Option.some.inj heq⟩
  · rintro ⟨i, sess, hsess, rfl⟩
    exact List.mem_map.mpr ⟨sendSessionDetails sess,
      List.mem_map.mpr ⟨(i, sess), (Pool.mem_toList _).mpr hsess, rfl⟩, rfl⟩

/-- The loop after the two dumps. -/
theorem pruneTunnels_run (h : exec (pruneTunnels cfg) w = (.ok (), w')) :
    ∃ cache dumped, dumped.vpp = w.vpp ∧ dumped.installed = w.installed ∧
      CacheSound w.vpp cache ∧ (StoreInv w.vpp → CacheComplete w.vpp cache) ∧
      exec (cache.items.forM fun entry =>
        if entry.2 ∈ usedTunnels w.vpp then return
        else do
          let _ ← callApi cfg (.tunnelAddDel false cfg.localIp entry.1.1
            cfg.localPort entry.1.2.1 entry.1.2.2 0)) dumped =
        (.ok (), w') := by
  obtain ⟨reply, first, hdump, h⟩ := exec_bind_ok.mp h
  obtain ⟨rfl, rfl⟩ := callApi_ok hdump
  obtain ⟨cache, dumped, htunnels, h⟩ := exec_bind_ok.mp h
  obtain ⟨rfl, rfl⟩ := vppTunnels_ok htunnels
  exact ⟨_, (w.logged cfg .sessionDump).logged cfg .tunnelDump, rfl, rfl,
    cacheSound_dumpedTunnels _, cacheComplete_dumpedTunnels, h⟩

/-- The state after some entries of the cache have been looked at. -/
structure Pruning (w : World) (done : List (TunnelKey × Option Nat))
    (m : World) : Prop where
  installed : m.installed = w.installed
  pruned : m.allOk = true → Pruned w.vpp m.vpp
  gone : m.allOk = true → StoreInv w.vpp → ∀ key index,
    (key, some index) ∈ done → some index ∉ usedTunnels w.vpp →
    m.vpp.lm.tunnels.elt? index = none

namespace Pruning

variable {done : List (TunnelKey × Option Nat)} {key : TunnelKey}
  {tunnelIndex : Option Nat} {m : World}

theorem used (h : Pruning w done m) (hused : tunnelIndex ∈ usedTunnels w.vpp) :
    Pruning w (done ++ [(key, tunnelIndex)]) m := by
  refine ⟨h.installed, h.pruned, ?_⟩
  intro hok hstore other index hmem hnot
  rcases List.mem_append.mp hmem with hmem | hmem
  · exact h.gone hok hstore other index hmem hnot
  · cases List.mem_singleton.mp hmem
    exact absurd hused hnot

theorem deleted {cache : TunnelsCache} (h : Pruning w done m)
    (hsound : CacheSound w.vpp cache)
    (hentry : cache.get? key = some tunnelIndex) :
    Pruning w (done ++ [(key, tunnelIndex)]) (m.logged cfg
      (.tunnelAddDel false cfg.localIp key.1 cfg.localPort key.2.1 key.2.2
        0)) := by
  have hdel : ∀ hok : (m.logged cfg (.tunnelAddDel false cfg.localIp key.1
      cfg.localPort key.2.1 key.2.2 0)).allOk = true, m.allOk = true ∧
      ∃ found t, m.vpp.lm.tunnels.elt? found = some t ∧ t.nSessions = 0 ∧
        t.peerIp = key.1.decode ∧ t.peerPort = key.2.1 ∧
        t.localTid = key.2.2 ∧ (m.logged cfg (.tunnelAddDel false cfg.localIp
          key.1 cfg.localPort key.2.1 key.2.2 0)).vpp =
          m.vpp.tunnelDel found := by
    intro hok
    rw [allOk_logged] at hok
    obtain ⟨found, t, hfind, hzero, hhandle⟩ := tunnelDel_accepted hok.2
    obtain ⟨ht, htid, hport, hpeer⟩ := l2tvppTunnelFind_some hfind
    exact ⟨hok.1, found, t, ht, hzero, hpeer, hport, htid, hhandle⟩
  refine ⟨h.installed, ?_, ?_⟩
  · intro hok
    obtain ⟨hok', found, t, ht, hzero, -, -, -, hvpp⟩ := hdel hok
    rw [hvpp]
    exact (h.pruned hok').tunnelDel ht hzero
  · intro hok hstore other index hmem hnot
    obtain ⟨hok', found, t, ht, -, hpeer, hport, htid, hvpp⟩ := hdel hok
    rw [hvpp]
    simp only [Vpp.tunnelDel, Pool.elt?_put]
    split
    · rfl
    · rename_i hne
      rcases List.mem_append.mp hmem with hmem | hmem
      · exact h.gone hok' hstore other index hmem hnot
      · -- the tunnel found by its key is the one the dump has named
        cases List.mem_singleton.mp hmem
        obtain ⟨index', t', hindex, ht', hpeer', hport', htid'⟩ :=
          hsound key _ hentry
        cases hindex
        exact absurd (hstore.tunnel_unique ht' ((h.pruned hok').live ht)
          (hpeer'.trans hpeer.symm) (hport'.trans hport.symm)
          (htid'.trans htid.symm)) hne

end Pruning

theorem pruneTunnels_ok (h : exec (pruneTunnels cfg) w = (.ok (), w'))
    (hok : w'.allOk = true) :
    w'.installed = w.installed ∧ Pruned w.vpp w'.vpp ∧
    (StoreInv w.vpp → ∀ index t, w'.vpp.lm.tunnels.elt? index = some t →
      ∃ i sess, w'.vpp.lm.sessions.elt? i = some sess ∧
        sess.tunnelIndex = index) := by
  obtain ⟨cache, dumped, hvpp, hinstalled, hsound, hcomplete, h⟩ :=
    pruneTunnels_run h
  have hstart : Pruning w [] dumped :=
    ⟨hinstalled, fun _ => by rw [hvpp]; exact .refl, by simp⟩
  have hinv : Pruning w cache.items w' := by
    refine exec_forM_invariant (Pruning w) ?_ hstart h
    rintro done ⟨key, tunnelIndex⟩ rest heq m m' hm hround
    split at hround
    · rename_i hused
      cases hround
      exact hm.used hused
    · obtain ⟨reply, logged, hcall, hpure⟩ := exec_bind_ok.mp hround
      cases hpure
      obtain ⟨-, rfl⟩ := callApi_ok hcall
      exact hm.deleted hsound (cache.mem_items.mp (by rw [heq]; simp))
  have hpruned := hinv.pruned hok
  refine ⟨hinv.installed, hpruned, ?_⟩
  intro hstore index t ht
  have hentry := cache.mem_items.mpr
    (hcomplete hstore index t (hpruned.live ht))
  rw [hpruned.frame.1, ← mem_usedTunnels]
  by_contra hnot
  rw [hinv.gone hok hstore _ index hentry hnot] at ht
  contradiction

/-! ## One pass -/

inductive EntryReconciled (cfg : Config) (pass : Pass)
    (entry : SessionKey × KSession) (cache cache' : TunnelsCache)
    (w w' : World) : Prop
  | added (hnew : w.installed.get? entry.1 = none)
      (h : SessionAdded cfg entry.2 (entry.2.fetchRoutes pass.pppRoutes) cache
        cache' w w')
  | synced (hsync : pass.syncExistingRoutes = true) (hcache : cache' = cache)
      (h : RoutesSynced cfg entry.2.sessionKey
        (entry.2.fetchRoutes pass.pppRoutes) w w')
  | kept {rec : InstalledRec} (hsync : pass.syncExistingRoutes = false)
      (hold : w.installed.get? entry.1 = some rec) (hcache : cache' = cache)
      (hw : w' = w)

theorem reconcileSession_run {pass : Pass} {entry : SessionKey × KSession}
    {acc acc' : Nat × TunnelsCache}
    (h : exec (reconcileSession cfg pass acc entry) w = (.ok acc', w')) :
    (w.installed.get? entry.1 = none ∧ acc'.1 = acc.1 + 1 ∧
      exec (addSession cfg pass.pppRoutes entry.2 acc.2) w =
        (.ok acc'.2, w')) ∨
    ∃ rec, w.installed.get? entry.1 = some rec ∧ acc' = acc ∧
      (pass.syncExistingRoutes = true ∧
          exec (syncRoutes cfg pass.pppRoutes entry.2) w = (.ok (), w') ∨
        pass.syncExistingRoutes = false ∧ w' = w) := by
  rw [reconcileSession, exec_get_bind] at h
  split at h
  · rename_i hnew
    obtain ⟨cache, added, hadd, hpure⟩ := exec_bind_ok.mp h
    cases hpure
    exact .inl ⟨Option.isNone_iff_eq_none.mp hnew, rfl, hadd⟩
  · rename_i hold
    rw [Option.isNone_iff_eq_none] at hold
    obtain ⟨rec, hrec⟩ := Option.ne_none_iff_exists'.mp hold
    split at h
    · rename_i hsync
      obtain ⟨_, synced, hroutes, hpure⟩ := exec_bind_ok.mp h
      cases hpure
      exact .inr ⟨rec, hrec, rfl, .inl ⟨hsync, hroutes⟩⟩
    · rename_i hsync
      cases h
      exact .inr ⟨rec, hrec, rfl,
        .inr ⟨Bool.eq_false_of_not_eq_true hsync, rfl⟩⟩

theorem reconcileSession_ok {pass : Pass} {entry : SessionKey × KSession}
    {acc acc' : Nat × TunnelsCache}
    (h : exec (reconcileSession cfg pass acc entry) w = (.ok acc', w'))
    (hok : w'.allOk = true) :
    EntryReconciled cfg pass entry acc.2 acc'.2 w w' := by
  rcases reconcileSession_run h with ⟨hnew, -, hadd⟩ |
    ⟨rec, hrec, rfl, ⟨hsync, hroutes⟩ | ⟨hsync, rfl⟩⟩
  · exact .added hnew (addSession_ok hadd hok)
  · exact .synced hsync rfl (syncRoutes_ok hroutes hok)
  · exact .kept hsync hrec rfl rfl

theorem removeSession_run {want : Dict SessionKey KSession}
    {removed removed' : Nat} {key : SessionKey}
    (h : exec (removeSession cfg want removed key) w = (.ok removed', w')) :
    (want.get? key = none ∧ removed' = removed + 1 ∧
      exec (delSession cfg key) w = (.ok (), w')) ∨
    ∃ s, want.get? key = some s ∧ removed' = removed ∧ w' = w := by
  rw [removeSession] at h
  split at h
  · rename_i hgone
    obtain ⟨_, deleted, hdel, hpure⟩ := exec_bind_ok.mp h
    cases hpure
    exact .inl ⟨Option.isNone_iff_eq_none.mp hgone, rfl, hdel⟩
  · rename_i hwant
    cases h
    rw [Option.isNone_iff_eq_none] at hwant
    obtain ⟨s, hs⟩ := Option.ne_none_iff_exists'.mp hwant
    exact .inr ⟨s, hs, rfl, rfl⟩

theorem removeSession_ok {want : Dict SessionKey KSession}
    {removed removed' : Nat} {key : SessionKey}
    (h : exec (removeSession cfg want removed key) w = (.ok removed', w'))
    (hok : w'.allOk = true) :
    (want.get? key = none ∧ removed' = removed + 1 ∧
      SessionDeleted key w w') ∨
    (∃ s, want.get? key = some s ∧ removed' = removed ∧ w' = w) := by
  rcases removeSession_run h with ⟨hgone, hremoved, hdel⟩ | hkept
  · exact .inl ⟨hgone, hremoved, delSession_ok hdel hok⟩
  · exact .inr hkept

theorem saveState_ok (h : exec (saveState cfg) w = (.ok (), w')) :
    w'.vpp = w.vpp ∧ w'.installed = w.installed ∧ w'.calls = w.calls ∧
      (cfg.statePath = true → w'.stateFile = some w'.installed) := by
  rw [saveState, exec_get_bind] at h
  split at h
  · cases h
    exact ⟨rfl, rfl, rfl, fun _ => rfl⟩
  · rename_i hpath
    cases h
    exact ⟨rfl, rfl, rfl, fun h => absurd h hpath⟩

/-- The parts of a pass that returns, whatever the replies were. -/
theorem reconcile_run {pass : Pass} {result : Nat × Nat}
    (h : exec (reconcile cfg pass) w = (.ok result, w')) :
    ∃ acc w₁ removed w₂ w₃,
      exec ((wantSessions pass.ksessions).items.foldlM
        (reconcileSession cfg pass) (0, dumpedTunnels w.vpp))
        (w.logged cfg .tunnelDump) = (.ok acc, w₁) ∧
      exec (w₁.installed.keys.foldlM
        (removeSession cfg (wantSessions pass.ksessions)) 0) w₁ =
        (.ok removed, w₂) ∧
      (removed = 0 ∧ w₃ = w₂ ∨
        removed ≠ 0 ∧ exec (pruneTunnels cfg) w₂ = (.ok (), w₃)) ∧
      w'.vpp = w₃.vpp ∧ w'.installed = w₃.installed ∧ w'.calls = w₃.calls ∧
      (cfg.statePath = true → w'.stateFile = some w'.installed) ∧
      result = (acc.1, removed) := by
  obtain ⟨cache, dumped, htunnels, hlater⟩ := exec_bind_ok.mp h
  obtain ⟨rfl, rfl⟩ := vppTunnels_ok htunnels
  obtain ⟨acc, w₁, hadding, hlater⟩ := exec_bind_ok.mp hlater
  rw [exec_get_bind] at hlater
  obtain ⟨removed, w₂, hremoving, hlast⟩ := exec_bind_ok.mp hlater
  have hsaved : ∀ w₃, exec (do saveState cfg; pure (acc.1, removed)) w₃ =
      (.ok result, w') → w'.vpp = w₃.vpp ∧ w'.installed = w₃.installed ∧
        w'.calls = w₃.calls ∧
        (cfg.statePath = true → w'.stateFile = some w'.installed) ∧
        result = (acc.1, removed) := by
    intro w₃ hexec
    obtain ⟨_, saved, hsave, hpure⟩ := exec_bind_ok.mp hexec
    cases hpure
    obtain ⟨hvpp, hinstalled, hcalls, hfile⟩ := saveState_ok hsave
    exact ⟨hvpp, hinstalled, hcalls, hfile, rfl⟩
  dsimp only at hlast
  split at hlast
  · rename_i hremoved
    obtain ⟨_, w₃, hprune, hlast⟩ := exec_bind_ok.mp hlast
    exact ⟨acc, w₁, removed, w₂, w₃, hadding, hremoving,
      .inr ⟨hremoved, hprune⟩, hsaved w₃ hlast⟩
  · rename_i hremoved
    exact ⟨acc, w₁, removed, w₂, w₂, hadding, hremoving,
      .inl ⟨not_not.mp hremoved, rfl⟩, hsaved w₂ hlast⟩

/-- The parts of a pass that returns and whose calls all succeed. -/
theorem reconcile_ok {pass : Pass} {result : Nat × Nat}
    (h : exec (reconcile cfg pass) w = (.ok result, w'))
    (hok : w'.allOk = true) :
    ∃ acc w₁ removed w₂ w₃,
      exec ((wantSessions pass.ksessions).items.foldlM
        (reconcileSession cfg pass) (0, dumpedTunnels w.vpp))
        (w.logged cfg .tunnelDump) = (.ok acc, w₁) ∧
      w₁.allOk = true ∧
      exec (w₁.installed.keys.foldlM
        (removeSession cfg (wantSessions pass.ksessions)) 0) w₁ =
        (.ok removed, w₂) ∧
      w₂.allOk = true ∧
      (removed = 0 ∧ w₃ = w₂ ∨ removed ≠ 0 ∧
        exec (pruneTunnels cfg) w₂ = (.ok (), w₃) ∧ w₃.allOk = true) ∧
      w'.vpp = w₃.vpp ∧ w'.installed = w₃.installed ∧ w'.calls = w₃.calls ∧
      result = (acc.1, removed) := by
  obtain ⟨acc, w₁, removed, w₂, w₃, hadding, hremoving, hprune, hvpp,
    hinstalled, hcalls, -, hresult⟩ := reconcile_run h
  rw [World.allOk, hcalls] at hok
  have hpruned : w₂.allOk = true ∧ (removed = 0 ∧ w₃ = w₂ ∨ removed ≠ 0 ∧
      exec (pruneTunnels cfg) w₂ = (.ok (), w₃) ∧ w₃.allOk = true) := by
    rcases hprune with ⟨hremoved, rfl⟩ | ⟨hremoved, hprune⟩
    · exact ⟨hok, .inl ⟨hremoved, rfl⟩⟩
    · exact ⟨allOk_before
        (fun calls => (callsKeep_appends calls).pruneTunnels) hprune hok,
        .inr ⟨hremoved, hprune, hok⟩⟩
  have hok₁ := allOk_before
    (fun calls => .foldlM (appends_removeSession calls _) _ _) hremoving
    hpruned.1
  exact ⟨acc, w₁, removed, w₂, w₃, hadding, hok₁, hremoving, hpruned.1,
    hpruned.2, hvpp, hinstalled, hcalls, hresult⟩

theorem passOk_exec {pass : Pass} (h : passOk cfg w pass = some w') :
    ∃ result, exec (reconcile cfg pass) w.startPass = (.ok result, w') ∧
      w'.allOk = true := by
  unfold passOk at h
  split at h
  · rename_i result final hexec
    split at h
    · rename_i hok
      cases h
      exact ⟨result, hexec, hok⟩
    · contradiction
  · contradiction

theorem passOk_ok {pass : Pass} (h : passOk cfg w pass = some w') :
    ∃ cache acc w₁ removed w₂ w₃,
      CacheSound w.vpp cache ∧
      exec ((wantSessions pass.ksessions).items.foldlM
        (reconcileSession cfg pass) (0, cache))
        (w.startPass.logged cfg .tunnelDump) = (.ok acc, w₁) ∧
      w₁.allOk = true ∧
      exec (w₁.installed.keys.foldlM
        (removeSession cfg (wantSessions pass.ksessions)) 0) w₁ =
        (.ok removed, w₂) ∧
      w₂.allOk = true ∧
      (removed = 0 ∧ w₃ = w₂ ∨ removed ≠ 0 ∧
        exec (pruneTunnels cfg) w₂ = (.ok (), w₃) ∧ w₃.allOk = true) ∧
      w'.vpp = w₃.vpp ∧ w'.installed = w₃.installed := by
  obtain ⟨result, hexec, hok⟩ := passOk_exec h
  obtain ⟨acc, w₁, removed, w₂, w₃, hadding, hok₁, hremoving, hok₂, hprune,
    hvpp, hinstalled, -⟩ := reconcile_ok hexec hok
  exact ⟨_, acc, w₁, removed, w₂, w₃, cacheSound_dumpedTunnels _, hadding, hok₁,
    hremoving, hok₂, hprune, hvpp, hinstalled⟩

end L2tvpp.Syncd
