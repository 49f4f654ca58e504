import L2tvpp.Syncd.Steps

/-!
# The daemon mirrors the kernel

Every operation keeps the mirror relation, hence so does every pass and every
run of passes whose calls succeed.
-/

namespace L2tvpp.Syncd

open L2tvpp.Lib L2tvpp.Plugin

variable {cfg : Config} {w w' : World}

/-! ## Tunnels through a pass -/

/-- Live tunnels stay where they are; only their counters may change. -/
def TunnelsKept (v v' : Vpp) : Prop :=
  ∀ index t, v.lm.tunnels.elt? index = some t →
    ∃ n, v'.lm.tunnels.elt? index = some { t with nSessions := n }

theorem tunnelsKept_tunnelAdd {P : Policies} {v : Vpp} {localIp peerIp : Ip46}
    {localPort peerPort localTid peerTid : U16} :
    TunnelsKept v
      (v.tunnelAdd P localIp peerIp localPort peerPort localTid peerTid) := by
  intro index t ht
  exact ⟨t.nSessions, Pool.elt?_get_of_live P.tunnels v.lm.tunnels _ ht⟩

theorem tunnelsKept_sessionAdd {P : Policies} {v : Vpp} {tunnelIndex : Nat}
    {t : L2tvppTunnel} {localSid peerSid : U16} {acfc pfc : U8} :
    TunnelsKept v (v.sessionAdd P tunnelIndex t localSid peerSid acfc pfc) := by
  intro index t' ht'
  rw [sessionAdd_tunnels, ht']
  split
  · exact ⟨_, rfl⟩
  · exact ⟨_, rfl⟩

theorem tunnelsKept_of_sameStore {v v' : Vpp} (h : SameStore v v') :
    TunnelsKept v v' := by
  intro index t ht
  rw [h.tunnels]
  exact ⟨t.nSessions, ht⟩

theorem RoutesChanged.tunnelsKept {isAdd : Bool} {pfxs : List IpPrefix}
    {swIfIndex : Nat} {v v' : Vpp}
    (h : RoutesChanged isAdd pfxs swIfIndex v v') : TunnelsKept v v' :=
  tunnelsKept_of_sameStore h.sameStore

theorem TunnelsKept.trans {v v' v'' : Vpp} (h : TunnelsKept v v')
    (h' : TunnelsKept v' v'') : TunnelsKept v v'' := by
  intro index t ht
  obtain ⟨n, ht'⟩ := h index t ht
  obtain ⟨n', ht''⟩ := h' index _ ht'
  exact ⟨n', ht''⟩

theorem CacheSound.kept {v v' : Vpp} {cache : TunnelsCache}
    (h : CacheSound v cache) (hkept : TunnelsKept v v') :
    CacheSound v' cache := by
  intro key tunnelIndex hget
  obtain ⟨index, t, hindex, ht, hpeer, hport, htid⟩ := h key tunnelIndex hget
  obtain ⟨n, ht'⟩ := hkept index t ht
  exact ⟨index, _, hindex, ht', hpeer, hport, htid⟩

def TunnelsUsed (v : Vpp) : Prop :=
  ∀ index t, v.lm.tunnels.elt? index = some t →
    ∃ i sess, v.lm.sessions.elt? i = some sess ∧ sess.tunnelIndex = index

theorem TunnelsUsed.sameStore {v v' : Vpp} (hused : TunnelsUsed v)
    (h : SameStore v v') : TunnelsUsed v' := by
  intro index t ht
  rw [h.tunnels] at ht
  obtain ⟨i, sess, hsess, htunnel⟩ := hused index t ht
  obtain ⟨csum, hsess'⟩ := h.symm.session hsess
  exact ⟨i, _, hsess', htunnel⟩

/-! ## Adding a session -/

section Added

variable {s : KSession} {cache cache' : TunnelsCache} {v v' : Vpp}
  {tunnelIndex : Option Nat} {routes : List IpPrefix} {records : Records}

theorem TunnelEnsured.mirror
    (h : TunnelEnsured cfg s cache v tunnelIndex cache' v')
    (hmirror : Mirror v records) : Mirror v' records := by
  cases h with
  | cached hcache => exact hmirror
  | added hcache hlocal hfind => exact hmirror.tunnelAdd hfind

theorem TunnelEnsured.tunnelsKept
    (h : TunnelEnsured cfg s cache v tunnelIndex cache' v') :
    TunnelsKept v v' := by
  cases h with
  | cached hcache => exact fun index t ht => ⟨t.nSessions, ht⟩
  | added hcache hlocal hfind => exact tunnelsKept_tunnelAdd

theorem TunnelEnsured.cacheSound
    (h : TunnelEnsured cfg s cache v tunnelIndex cache' v')
    (hsound : CacheSound v cache) :
    CacheSound v' cache' ∧ cache'.get? s.tunnelKey = some tunnelIndex := by
  cases h with
  | cached hcache => exact ⟨hsound, hcache⟩
  | added hcache hlocal hfind =>
      refine ⟨?_, by simp [Dict.get?_set]⟩
      intro key index hget
      rw [Dict.get?_set] at hget
      split at hget
      · rename_i hkey
        subst hkey
        cases hget
        exact ⟨_, _, rfl, Pool.elt?_get_nextIndex _ v.lm.tunnels _, rfl, rfl,
          rfl⟩
      · exact hsound.kept tunnelsKept_tunnelAdd key index hget

theorem SessionAdded.mirror
    (h : SessionAdded cfg s routes cache cache' w w')
    (hmirror : Mirror w.vpp records) (hsound : CacheSound w.vpp cache) :
    CacheSound w'.vpp cache' ∧
    ∃ swIfIndex tunnelIndex, w'.installed = w.installed.set s.sessionKey
        (s.record swIfIndex tunnelIndex routes) ∧
      Mirror w'.vpp (Function.update records s.sessionKey
        (some (s.record swIfIndex tunnelIndex routes))) := by
  obtain ⟨htunnel, ht, hkey, rfl, hroutes, hinstalled⟩ := h
  rename_i index t v
  obtain ⟨hsound', hcached⟩ := htunnel.cacheSound hsound
  have hkept := tunnelsKept_sessionAdd.trans hroutes.tunnelsKept
  refine ⟨hsound'.kept hkept, _, _, hinstalled, ?_⟩
  -- the tunnel in use has the tunnel id of the session
  obtain ⟨index', t', heq, ht', -, -, htid⟩ := hsound' _ _ hcached
  cases heq
  rw [ht] at ht'
  cases ht'
  change t.localTid = s.localTid at htid
  let rec₀ := s.record (some (v.swInterfaces.nextIndex
    cfg.policies.swInterfaces)) (some index) []
  have hadded : Mirror
      (v.sessionAdd cfg.policies index t s.localSid s.peerSid 0 0)
      (Function.update records s.sessionKey (some rec₀)) := by
    have hadd := (htunnel.mirror hmirror).sessionAdd ht hkey
      (⟨rfl, rfl, rfl⟩ : Describes rec₀ (v.newSession cfg.policies index t
        s.localSid s.peerSid 0 0)) rfl
    rw [htid] at hadd
    exact hadd
  have hmem : ∀ pfx, pfx ∈ routes ↔ pfx ∈ rec₀.routes ∨ pfx ∈ routes := by
    simp [rec₀, KSession.record]
  have hrouted := hadded.routes hroutes (Function.update_self ..) rfl hmem
  rw [Function.update_idem] at hrouted
  exact hrouted

theorem SessionAdded.tunnelsUsed
    (h : SessionAdded cfg s routes cache cache' w w')
    (hused : TunnelsUsed w.vpp) : TunnelsUsed w'.vpp := by
  obtain ⟨htunnel, ht, hkey, rfl, hroutes, hinstalled⟩ := h
  rename_i index t v
  refine TunnelsUsed.sameStore ?_ hroutes.sameStore
  intro i t' ht'
  by_cases hnew : i = index
  · subst hnew
    exact ⟨_, _, Pool.elt?_get_nextIndex _ v.lm.sessions _, rfl⟩
  · rw [sessionAdd_tunnels, if_neg hnew] at ht'
    have hsession : ∃ j sess, v.lm.sessions.elt? j = some sess ∧
        sess.tunnelIndex = i := by
      cases htunnel with
      | cached hcache => exact hused i t' ht'
      | added hcache hlocal hfind =>
          simp only [Vpp.tunnelAdd, Pool.elt?_get, if_neg hnew] at ht'
          exact hused i t' ht'
    obtain ⟨j, sess, hsess, htunnel⟩ := hsession
    exact ⟨j, sess, Pool.elt?_get_of_live _ v.lm.sessions _ hsess, htunnel⟩

end Added

/-! ## Syncing routes and deleting a session -/

theorem RoutesSynced.mirror {key : SessionKey} {wantRoutes : List IpPrefix}
    (h : RoutesSynced cfg key wantRoutes w w')
    (hmirror : Mirror w.vpp w.installed.get?) :
    Mirror w'.vpp w'.installed.get? ∧ TunnelsKept w.vpp w'.vpp ∧
      (TunnelsUsed w.vpp → TunnelsUsed w'.vpp) := by
  obtain ⟨hrec, hvpp, hroutes, hinstalled⟩ := h
  rename_i rec routes
  obtain ⟨index, sess, hsess, hids, hdescribes⟩ := hmirror.live hrec
  obtain ⟨v, hadded, hdeleted⟩ := hvpp _ hdescribes.swIfIndex
  refine ⟨?_, hadded.tunnelsKept.trans hdeleted.tunnelsKept,
    fun hused =>
      (hused.sameStore hadded.sameStore).sameStore hdeleted.sameStore⟩
  have hfirst : ∀ pfx,
      pfx ∈ rec.routes ++ wantRoutes ↔ pfx ∈ rec.routes ∨
        pfx ∈ cfg.setOrder.list (setDiff wantRoutes rec.routes) := by
    intro pfx
    rw [cfg.setOrder.mem_list, mem_setDiff, List.mem_append]
    tauto
  have hmiddle := hmirror.routes hadded hrec hdescribes.swIfIndex hfirst
  have hsecond : ∀ pfx, pfx ∈ routes ↔ pfx ∈ rec.routes ++ wantRoutes ∧
      pfx ∉ cfg.setOrder.list (setDiff rec.routes wantRoutes) := by
    intro pfx
    rw [hroutes, cfg.setOrder.mem_list, mem_setDiff, List.mem_append]
    tauto
  have hfinal := hmiddle.routes hdeleted (Function.update_self ..)
    hdescribes.swIfIndex hsecond
  rw [Function.update_idem] at hfinal
  rw [hinstalled]
  exact hfinal

/-- The session deleted is the one of the record, and the record named its own
tunnel. -/
theorem SessionDeleted.own {key : SessionKey} (h : SessionDeleted key w w')
    (hmirror : Mirror w.vpp w.installed.get?) :
    ∃ rec swIfIndex v index sess, w.installed.get? key = some rec ∧
      RoutesChanged false rec.routes swIfIndex w.vpp v ∧
      Mirror v (Function.update w.installed.get? key
        (some { rec with routes := [] })) ∧
      v.lm.sessions.elt? index = some sess ∧ ids sess = key ∧
      w'.vpp = v.sessionDel sess.tunnelIndex sess.key index sess := by
  obtain ⟨hrec, hroutes, htunnel, ht, hkey, hsess, hvpp, hinstalled⟩ := h
  rename_i rec tunnelIndex index t sess v
  obtain ⟨index', sess', hsess', rfl, hdescribes⟩ := hmirror.live hrec
  have hchanged := hroutes _ hdescribes.swIfIndex
  have hnone : ∀ pfx, pfx ∈ ([] : List IpPrefix) ↔
      pfx ∈ rec.routes ∧ pfx ∉ rec.routes := by
    simp
  have hmiddle := hmirror.routes hchanged hrec hdescribes.swIfIndex hnone
  obtain ⟨csum, hlive⟩ := hchanged.sameStore.symm.session hsess'
  have htunnel' : tunnelIndex = sess'.tunnelIndex :=
    Option.some.inj (htunnel.symm.trans hdescribes.tunnelIndex)
  subst htunnel'
  obtain ⟨t', ht', htid⟩ := hmiddle.counts.tunnel hlive
  change v.lm.tunnels.elt? sess'.tunnelIndex = some t' at ht'
  change t'.localTid = sess'.localTid at htid
  rw [ht] at ht'
  cases ht'
  have hfind := hmiddle.store.byKey.find hlive
  rw [htid, hdescribes.localSid] at hkey hvpp
  change v.lm.sessionByKey.lookup
    (l2tvppSessionKey sess'.localTid sess'.localSid) = some index' at hfind
  rw [hfind] at hkey
  cases hkey
  rw [hlive] at hsess
  cases hsess
  exact ⟨rec, _, v, _, _, hrec, hchanged, hmiddle, hlive, rfl, hvpp⟩

theorem SessionDeleted.installed {key : SessionKey}
    (h : SessionDeleted key w w') :
    w'.installed.get? = Function.update w.installed.get? key none := by
  obtain ⟨hrec, hroutes, htunnel, ht, hkey, hsess, hvpp, hinstalled⟩ := h
  exact hinstalled

theorem EntryReconciled.installed {pass : Pass}
    {entry : SessionKey × KSession} {cache cache' : TunnelsCache}
    (h : EntryReconciled cfg pass entry cache cache' w w')
    (hkey : entry.1 = entry.2.sessionKey) :
    ∃ rec, w'.installed.get? =
      Function.update w.installed.get? entry.1 (some rec) := by
  cases h with
  | added hnew hadded =>
      obtain ⟨htunnel, ht, hfree, hsw, hroutes, hinstalled⟩ := hadded
      exact ⟨_, by rw [hinstalled, hkey, get?_set_eq_update]⟩
  | synced hsync hcache hsynced =>
      obtain ⟨hrec, hvpp, hroutes, hinstalled⟩ := hsynced
      exact ⟨_, by rw [hinstalled, hkey]⟩
  | kept hsync hrec hcache hw =>
      exact ⟨_, by rw [hw]; exact (Function.update_eq_self_iff.mpr hrec.symm).symm⟩

theorem SessionDeleted.mirror {key : SessionKey} (h : SessionDeleted key w w')
    (hmirror : Mirror w.vpp w.installed.get?) :
    Mirror w'.vpp w'.installed.get? := by
  obtain ⟨rec, _, v, index, sess, hrec, -, hmiddle, hsess, rfl, hvpp⟩ :=
    h.own hmirror
  have hdel := hmiddle.sessionDel hsess (Function.update_self ..) rfl
  rw [Function.update_idem, ← h.installed, ← hvpp] at hdel
  exact hdel

/-! ## The wanted sessions -/

theorem wantSessions_some {ksessions : List KSession} {key : SessionKey}
    {s : KSession} (h : (wantSessions ksessions).get? key = some s) :
    s ∈ ksessions ∧ s.hasIfname = true ∧ s.sessionKey = key := by
  rcases Dict.setAll_some _ _ h with ⟨s', hmem, hkey, rfl⟩ | hempty
  · obtain ⟨hmem, hifname⟩ := List.mem_filter.mp hmem
    exact ⟨hmem, hifname, hkey⟩
  · simp at hempty

theorem wantSessions_mem {ksessions : List KSession} {s : KSession}
    (hmem : s ∈ ksessions) (hifname : s.hasIfname = true) :
    ∃ s', (wantSessions ksessions).get? s.sessionKey = some s' := by
  obtain ⟨s', -, -, hget⟩ := Dict.setAll_mem KSession.sessionKey id
    (List.mem_filter.mpr ⟨hmem, hifname⟩)
  exact ⟨s', hget⟩

theorem wantSessions_entry {ksessions : List KSession}
    {done rest : List (SessionKey × KSession)} {entry : SessionKey × KSession}
    (h : (wantSessions ksessions).items = done ++ entry :: rest) :
    entry.1 = entry.2.sessionKey ∧ entry.1 ∉ done.map Prod.fst := by
  constructor
  · have hget := (wantSessions ksessions).mem_items.mp
      (h ▸ List.mem_append_right done List.mem_cons_self)
    exact (wantSessions_some hget).2.2.symm
  · have hnodup := (wantSessions ksessions).nodup
    rw [h, List.map_append, List.map_cons, List.nodup_append] at hnodup
    intro hmem
    exact hnodup.2.2 _ hmem _ List.mem_cons_self rfl

def Pass.routesAfter (pass : Pass) (records : Records)
    (entry : SessionKey × KSession) : List IpPrefix :=
  match records entry.1 with
  | none => entry.2.fetchRoutes pass.pppRoutes
  | some rec =>
      if pass.syncExistingRoutes then entry.2.fetchRoutes pass.pppRoutes
      else rec.routes

/-! ## The first loop -/

/-- The state after some of the wanted sessions have been looked at. -/
structure Adding (pass : Pass) (w₀ : World)
    (done : List (SessionKey × KSession)) (cache : TunnelsCache)
    (w : World) : Prop where
  mirror : Mirror w.vpp w.installed.get?
  cacheSound : CacheSound w.vpp cache
  untouched : ∀ key, key ∉ done.map Prod.fst →
    w.installed.get? key = w₀.installed.get? key
  done : ∀ entry ∈ done, ∃ rec, w.installed.get? entry.1 = some rec ∧
    (∀ old, w₀.installed.get? entry.1 = some old →
      rec.swIfIndex = old.swIfIndex) ∧
    ∀ pfx, pfx ∈ rec.routes ↔ pfx ∈ pass.routesAfter w₀.installed.get? entry
  tunnelsUsed : TunnelsUsed w₀.vpp → TunnelsUsed w.vpp

namespace Adding

variable {pass : Pass} {w₀ : World} {done : List (SessionKey × KSession)}
  {cache cache' : TunnelsCache} {entry : SessionKey × KSession}

theorem record (h : Adding pass w₀ done cache w) {rec : InstalledRec}
    (hnew : entry.1 ∉ done.map Prod.fst)
    (hinstalled : w'.installed.get? =
      Function.update w.installed.get? entry.1 (some rec))
    (hmirror : Mirror w'.vpp w'.installed.get?)
    (hsound : CacheSound w'.vpp cache')
    (hused : TunnelsUsed w.vpp → TunnelsUsed w'.vpp)
    (hsw : ∀ old, w₀.installed.get? entry.1 = some old →
      rec.swIfIndex = old.swIfIndex)
    (hroutes : ∀ pfx, pfx ∈ rec.routes ↔
      pfx ∈ pass.routesAfter w₀.installed.get? entry) :
    Adding pass w₀ (done ++ [entry]) cache' w' where
  mirror := hmirror
  cacheSound := hsound
  untouched := by
    intro key hkey
    obtain ⟨hkey, hne⟩ := untouched_append hkey
    rw [hinstalled, Function.update_of_ne hne]
    exact h.untouched key hkey
  done := by
    intro other hother
    rcases List.mem_append.mp hother with hother | hother
    · obtain ⟨rec', hrec', hrest⟩ := h.done other hother
      refine ⟨rec', ?_, hrest⟩
      rw [hinstalled, Function.update_of_ne (fst_ne_of_mem hnew hother), hrec']
    · rw [List.mem_singleton.mp hother, hinstalled, Function.update_self]
      exact ⟨rec, rfl, hsw, hroutes⟩
  tunnelsUsed := fun hw₀ => hused (h.tunnelsUsed hw₀)

theorem step (h : Adding pass w₀ done cache w)
    (hkey : entry.1 = entry.2.sessionKey) (hnew : entry.1 ∉ done.map Prod.fst)
    (hentry : EntryReconciled cfg pass entry cache cache' w w') :
    Adding pass w₀ (done ++ [entry]) cache' w' := by
  have hold := h.untouched _ hnew
  cases hentry with
  | added hnone hadded =>
      rw [hold] at hnone
      obtain ⟨hsound, swIfIndex, tunnelIndex, hinstalled, hmirror⟩ :=
        hadded.mirror h.mirror h.cacheSound
      have hget := get?_set_eq_update w.installed entry.2.sessionKey
        (entry.2.record swIfIndex tunnelIndex
          (entry.2.fetchRoutes pass.pppRoutes))
      rw [← hinstalled, ← hkey] at hget
      rw [← hkey, ← hget] at hmirror
      refine h.record hnew hget hmirror hsound hadded.tunnelsUsed ?_ ?_
      · intro old hold'
        rw [hnone] at hold'
        contradiction
      · intro pfx
        rw [Pass.routesAfter, hnone]
        rfl
  | synced hsync hcache hsynced =>
      subst hcache
      obtain ⟨hmirror, hkept, hused⟩ := hsynced.mirror h.mirror
      obtain ⟨hrec, hvpp, hroutes, hinstalled⟩ := hsynced
      rw [← hkey] at hrec hinstalled
      rw [hold] at hrec
      refine h.record hnew hinstalled hmirror (h.cacheSound.kept hkept) hused
        ?_ ?_
      · intro old hold'
        rw [hrec] at hold'
        cases hold'
        rfl
      · intro pfx
        rw [Pass.routesAfter, hrec]
        simp only [hsync, if_true]
        exact hroutes pfx
  | kept hsync hrec hcache hw =>
      rename_i rec
      subst hcache
      have hself : w'.installed.get? =
          Function.update w.installed.get? entry.1 (some rec) := by
        rw [hw]
        exact (Function.update_eq_self_iff.mpr hrec.symm).symm
      subst hw
      rw [hold] at hrec
      refine h.record hnew hself h.mirror h.cacheSound id ?_ ?_
      · intro old hold'
        rw [hrec] at hold'
        cases hold'
        rfl
      · intro pfx
        rw [Pass.routesAfter, hrec]
        simp only [hsync, Bool.false_eq_true, if_false]

end Adding

/-! ## The second loop -/

structure Removing (want : Dict SessionKey KSession) (w₁ : World)
    (done : List SessionKey) (removed : Nat) (w : World) : Prop where
  mirror : Mirror w.vpp w.installed.get?
  installed : ∀ key, w.installed.get? key =
    if key ∈ done ∧ want.get? key = none then none
    else w₁.installed.get? key
  unchanged : removed = 0 → w = w₁

theorem Removing.step {want : Dict SessionKey KSession} {w₁ : World}
    {done : List SessionKey} {removed removed' : Nat} {key : SessionKey}
    (h : Removing want w₁ done removed w)
    (hround : (want.get? key = none ∧ removed' = removed + 1 ∧
        SessionDeleted key w w') ∨
      (∃ s, want.get? key = some s ∧ removed' = removed ∧ w' = w)) :
    Removing want w₁ (done ++ [key]) removed' w' := by
  rcases hround with ⟨hgone, rfl, hdeleted⟩ | ⟨s, hs, rfl, rfl⟩
  · refine ⟨hdeleted.mirror h.mirror, ?_, by omega⟩
    intro other
    rw [hdeleted.installed, Function.update_apply]
    by_cases hother : other = key
    · subst hother
      simp [hgone]
    · rw [if_neg hother, h.installed]
      simp [hother]
  · refine ⟨h.mirror, ?_, h.unchanged⟩
    intro other
    rw [h.installed]
    by_cases hother : other = key
    · subst hother
      simp [hs]
    · simp [hother]

/-! ## Whole passes

Each loop rule also carries a further invariant through the loop.
-/

section Loops

variable {pass : Pass} {w₁ w₂ : World}

theorem adding_exec {cache : TunnelsCache} {acc : Nat × TunnelsCache}
    (Inv : List (SessionKey × KSession) → Nat × TunnelsCache → World → Prop)
    (hstep : ∀ done entry rest,
      (wantSessions pass.ksessions).items = done ++ entry :: rest →
      entry.1 = entry.2.sessionKey → entry.1 ∉ done.map Prod.fst →
      ∀ acc m acc' m', Adding pass w done acc.2 m → Inv done acc m →
        exec (reconcileSession cfg pass acc entry) m = (.ok acc', m') →
        m'.allOk = true → Inv (done ++ [entry]) acc' m')
    (hmirror : Mirror w.vpp w.installed.get?) (hsound : CacheSound w.vpp cache)
    (hinit : Inv [] (0, cache) (w.startPass.logged cfg .tunnelDump))
    (hrun : exec ((wantSessions pass.ksessions).items.foldlM
      (reconcileSession cfg pass) (0, cache))
      (w.startPass.logged cfg .tunnelDump) = (.ok acc, w₁))
    (hok : w₁.allOk = true) :
    Adding pass w (wantSessions pass.ksessions).items acc.2 w₁ ∧
      Inv (wantSessions pass.ksessions).items acc w₁ := by
  have hstart : Adding pass w [] cache (w.startPass.logged cfg .tunnelDump) :=
    ⟨hmirror, hsound, fun _ _ => rfl, by simp, id⟩
  refine foldlM_allOk
    (fun calls => (callsKeep_appends calls).reconcileSession pass)
    (fun done acc m => Adding pass w done acc.2 m ∧ Inv done acc m) ?_
    ⟨hstart, hinit⟩ hrun hok
  intro done entry rest heq acc m acc' m' hinv hround hok'
  obtain ⟨hkey, hnew⟩ := wantSessions_entry heq
  exact ⟨hinv.1.step hkey hnew (reconcileSession_ok hround hok'),
    hstep done entry rest heq hkey hnew _ _ _ _ hinv.1 hinv.2 hround hok'⟩

theorem adding_run {cache : TunnelsCache} {acc : Nat × TunnelsCache}
    (Inv : List (SessionKey × KSession) → World → Prop)
    (hstep : ∀ done entry rest,
      (wantSessions pass.ksessions).items = done ++ entry :: rest →
      entry.1 = entry.2.sessionKey → entry.1 ∉ done.map Prod.fst →
      ∀ cache m cache' m', Adding pass w done cache m → Inv done m →
        EntryReconciled cfg pass entry cache cache' m m' →
        Adding pass w (done ++ [entry]) cache' m' → Inv (done ++ [entry]) m')
    (hmirror : Mirror w.vpp w.installed.get?) (hsound : CacheSound w.vpp cache)
    (hinit : Inv [] (w.startPass.logged cfg .tunnelDump))
    (hrun : exec ((wantSessions pass.ksessions).items.foldlM
      (reconcileSession cfg pass) (0, cache))
      (w.startPass.logged cfg .tunnelDump) = (.ok acc, w₁))
    (hok : w₁.allOk = true) :
    Adding pass w (wantSessions pass.ksessions).items acc.2 w₁ ∧
      Inv (wantSessions pass.ksessions).items w₁ := by
  refine adding_exec (fun done _ m => Inv done m) ?_ hmirror hsound hinit hrun
    hok
  intro done entry rest heq hkey hnew acc m acc' m' hadding hinv hround hok'
  have hentry := reconcileSession_ok hround hok'
  exact hstep done entry rest heq hkey hnew _ _ _ _ hadding hinv hentry
    (hadding.step hkey hnew hentry)

theorem removing_exec {removed : Nat}
    (Inv : List SessionKey → Nat → World → Prop)
    (hstep : ∀ done key rest, w₁.installed.keys = done ++ key :: rest →
      ∀ removed m removed' m',
        Removing (wantSessions pass.ksessions) w₁ done removed m →
        Inv done removed m →
        exec (removeSession cfg (wantSessions pass.ksessions) removed key) m =
          (.ok removed', m') →
        m'.allOk = true → Inv (done ++ [key]) removed' m')
    (hmirror : Mirror w₁.vpp w₁.installed.get?) (hinit : Inv [] 0 w₁)
    (hrun : exec (w₁.installed.keys.foldlM
      (removeSession cfg (wantSessions pass.ksessions)) 0) w₁ =
      (.ok removed, w₂))
    (hok : w₂.allOk = true) :
    Removing (wantSessions pass.ksessions) w₁ w₁.installed.keys removed w₂ ∧
      Inv w₁.installed.keys removed w₂ := by
  refine foldlM_allOk (appends_removeSession · _)
    (fun done removed m =>
      Removing (wantSessions pass.ksessions) w₁ done removed m ∧
        Inv done removed m)
    ?_ ⟨⟨hmirror, by simp, fun _ => rfl⟩, hinit⟩ hrun hok
  intro done key rest heq removed m removed' m' hinv hround hok'
  exact ⟨hinv.1.step (removeSession_ok hround hok'),
    hstep done key rest heq _ _ _ _ hinv.1 hinv.2 hround hok'⟩

theorem removing_run {removed : Nat} (Inv : List SessionKey → World → Prop)
    (hdelete : ∀ done key rest, w₁.installed.keys = done ++ key :: rest →
      ∀ removed m m',
        Removing (wantSessions pass.ksessions) w₁ done removed m →
        Inv done m → (wantSessions pass.ksessions).get? key = none →
        SessionDeleted key m m' → Inv (done ++ [key]) m')
    (hkeep : ∀ done key m, Inv done m → Inv (done ++ [key]) m)
    (hmirror : Mirror w₁.vpp w₁.installed.get?) (hinit : Inv [] w₁)
    (hrun : exec (w₁.installed.keys.foldlM
      (removeSession cfg (wantSessions pass.ksessions)) 0) w₁ =
      (.ok removed, w₂))
    (hok : w₂.allOk = true) :
    Removing (wantSessions pass.ksessions) w₁ w₁.installed.keys removed w₂ ∧
      Inv w₁.installed.keys w₂ := by
  refine removing_exec (fun done _ m => Inv done m) ?_ hmirror hinit hrun hok
  intro done key rest heq removed m removed' m' hremoving hinv hround hok'
  rcases removeSession_ok hround hok' with ⟨hgone, -, hdeleted⟩ |
    ⟨s, hs, -, rfl⟩
  · exact hdelete done key rest heq _ _ _ hremoving hinv hgone hdeleted
  · exact hkeep done key m' hinv

end Loops

/-- What a pass whose calls all succeed leaves behind. -/
structure Reconciled (pass : Pass) (w w' : World) : Prop where
  mirror : Mirror w'.vpp w'.installed.get?
  installed : ∀ key, (∃ rec, w'.installed.get? key = some rec) ↔
    ∃ s, (wantSessions pass.ksessions).get? key = some s
  routes : ∀ key s rec, (wantSessions pass.ksessions).get? key = some s →
    w'.installed.get? key = some rec → ∀ pfx, pfx ∈ rec.routes ↔
      pfx ∈ pass.routesAfter w.installed.get? (key, s)
  tunnelsUsed : TunnelsUsed w.vpp → TunnelsUsed w'.vpp

theorem Removing.records {pass : Pass} {w₁ w₂ : World} {removed : Nat}
    (h : Removing (wantSessions pass.ksessions) w₁ w₁.installed.keys removed
      w₂) (key : SessionKey) :
    w₂.installed.get? key =
      if (wantSessions pass.ksessions).get? key = none then none
      else w₁.installed.get? key := by
  rw [h.installed]
  by_cases hgone : (wantSessions pass.ksessions).get? key = none
  · by_cases hmem : key ∈ w₁.installed.keys
    · simp [hgone, hmem]
    · simp [hgone, hmem, w₁.installed.get?_eq_none.mpr hmem]
  · simp [hgone]

theorem passOk_reconciled {pass : Pass}
    (hmirror : Mirror w.vpp w.installed.get?)
    (h : passOk cfg w pass = some w') : Reconciled pass w w' := by
  obtain ⟨cache, acc, w₁, removed, w₂, w₃, hsound, hadding, hok₁, hremoving,
    hok₂, hprune, hvpp, hinstalled⟩ := passOk_ok h
  obtain ⟨hadded, -⟩ := adding_run (fun _ _ => True)
    (fun _ _ _ _ _ _ _ _ _ _ _ _ _ _ => trivial) hmirror hsound trivial
    hadding hok₁
  obtain ⟨hremoved, -⟩ := removing_run (fun _ _ => True)
    (fun _ _ _ _ _ _ _ _ _ _ _ => trivial) (fun _ _ _ _ => trivial)
    hadded.mirror trivial hremoving hok₂
  have hrecords := hremoved.records
  have hfinal : w₃.installed = w₂.installed ∧
      Mirror w₃.vpp w₃.installed.get? ∧
      (TunnelsUsed w.vpp → TunnelsUsed w₃.vpp) := by
    rcases hprune with ⟨hzero, rfl⟩ | ⟨-, hrun, hok₃⟩
    · refine ⟨rfl, hremoved.mirror, ?_⟩
      rw [hremoved.unchanged hzero]
      exact hadded.tunnelsUsed
    · obtain ⟨hsame, hpruned, hused⟩ := pruneTunnels_ok hrun hok₃
      refine ⟨hsame, ?_, fun _ => hused hremoved.mirror.store⟩
      rw [hsame]
      exact hpruned.mirror hremoved.mirror
  obtain ⟨hsame, hmirror₃, hused⟩ := hfinal
  have hrec : ∀ key s, (wantSessions pass.ksessions).get? key = some s →
      w'.installed.get? key = w₁.installed.get? key ∧
      (key, s) ∈ (wantSessions pass.ksessions).items := by
    intro key s hs
    rw [hinstalled, hsame, hrecords, hs, if_neg (by simp)]
    exact ⟨rfl, (wantSessions pass.ksessions).mem_items.mpr hs⟩
  constructor
  · rw [hvpp, hinstalled]
    exact hmirror₃
  · intro key
    constructor
    · rintro ⟨rec, hget⟩
      rw [hinstalled, hsame, hrecords] at hget
      split at hget
      · contradiction
      · rename_i hwant
        exact Option.ne_none_iff_exists'.mp hwant
    · rintro ⟨s, hs⟩
      obtain ⟨hget, hmem⟩ := hrec key s hs
      obtain ⟨rec, hrec, -⟩ := hadded.done _ hmem
      exact ⟨rec, hget.trans hrec⟩
  · intro key s rec hs hget
    obtain ⟨hget', hmem⟩ := hrec key s hs
    obtain ⟨rec', hrec', -, hroutes⟩ := hadded.done _ hmem
    rw [hget', hrec'] at hget
    cases hget
    exact hroutes
  · rw [hvpp]
    exact hused

/-! ## Runs of passes -/

structure InSync (w : World) : Prop where
  mirror : Mirror w.vpp w.installed.get?
  tunnelsUsed : TunnelsUsed w.vpp

theorem InSync.initial (hwInterfaces : Pool HwInterface)
    (swInterfaces : Pool SwInterface) :
    InSync (World.initial hwInterfaces swInterfaces) where
  mirror := Mirror.initial hwInterfaces swInterfaces
  tunnelsUsed := by
    intro index t ht
    simp [World.initial, Vpp.initial, L2tvppMain.init] at ht

theorem InSync.pass (h : InSync w) {pass : Pass}
    (hpass : passOk cfg w pass = some w') : InSync w' :=
  have hreconciled := passOk_reconciled h.mirror hpass
  ⟨hreconciled.mirror, hreconciled.tunnelsUsed h.tunnelsUsed⟩

theorem InSync.run (hwInterfaces : Pool HwInterface)
    (swInterfaces : Pool SwInterface) {passes : List Pass}
    (hrun : runAll (passOk cfg) (World.initial hwInterfaces swInterfaces)
      passes = some w) : InSync w :=
  runAll_invariant (passOk cfg) InSync (fun _ _ _ h hpass => h.pass hpass)
    (InSync.initial hwInterfaces swInterfaces) hrun

theorem runAll_last {hwInterfaces : Pool HwInterface}
    {swInterfaces : Pool SwInterface} {passes : List Pass} {pass : Pass}
    (hrun : runAll (passOk cfg) (World.initial hwInterfaces swInterfaces)
      (passes ++ [pass]) = some w') :
    ∃ w, runAll (passOk cfg) (World.initial hwInterfaces swInterfaces) passes =
      some w ∧ InSync w ∧ passOk cfg w pass = some w' := by
  obtain ⟨w, hfirst, hlast⟩ := (runAll_append (passOk cfg)).mp hrun
  refine ⟨w, hfirst, InSync.run hwInterfaces swInterfaces hfirst, ?_⟩
  obtain ⟨next, hnext, hnil⟩ := Option.bind_eq_some_iff.mp hlast
  cases hnil
  exact hnext

/-- After every pass of every run in which all calls succeed, the plugin has
what the record says and the record has what the kernel's list says.  `passOk`
also asks that the pass returns; one that raises is left out. -/
theorem plugin_mirrors_kernel (cfg : Config) (hwInterfaces : Pool HwInterface)
    (swInterfaces : Pool SwInterface) (passes : List Pass) (pass : Pass)
    (w : World)
    (hrun : runAll (passOk cfg) (World.initial hwInterfaces swInterfaces)
      (passes ++ [pass]) = some w) :
    (∀ key, key ∈ w.installed.keys ↔ ∃ index sess,
      w.vpp.lm.sessions.elt? index = some sess ∧
        (sess.localTid, sess.localSid) = key) ∧
    (∀ key, key ∈ w.installed.keys ↔
      ∃ s ∈ pass.ksessions, s.hasIfname = true ∧ s.sessionKey = key) ∧
    (∀ index sess rec, w.vpp.lm.sessions.elt? index = some sess →
      w.installed.get? (sess.localTid, sess.localSid) = some rec →
      rec.swIfIndex = some sess.swIfIndex ∧
        rec.tunnelIndex = some sess.tunnelIndex) ∧
    (∀ pfx swIfIndex, (pfx, swIfIndex) ∈ w.vpp.fib ↔
      ∃ key rec p, w.installed.get? key = some rec ∧ p ∈ rec.routes ∧
        rec.swIfIndex = some swIfIndex ∧ pfx = p.decode) ∧
    (pass.syncExistingRoutes = true → ∀ key s rec,
      (wantSessions pass.ksessions).get? key = some s →
      w.installed.get? key = some rec →
      ∀ p, p ∈ rec.routes ↔ p ∈ s.fetchRoutes pass.pppRoutes) ∧
    (∀ index, (∃ t, w.vpp.lm.tunnels.elt? index = some t) ↔
      ∃ i sess, w.vpp.lm.sessions.elt? i = some sess ∧
        sess.tunnelIndex = index) := by
  obtain ⟨w₀, -, hsync, hpass⟩ := runAll_last hrun
  have hreconciled := passOk_reconciled hsync.mirror hpass
  have hmirror := hreconciled.mirror
  refine ⟨?_, ?_, ?_, ?_, ?_, ?_⟩
  · intro key
    rw [w.installed.mem_keys]
    constructor
    · rintro ⟨rec, hrec⟩
      obtain ⟨index, sess, hsess, hids, -⟩ := hmirror.live hrec
      exact ⟨index, sess, hsess, hids⟩
    · rintro ⟨index, sess, hsess, rfl⟩
      exact hmirror.recorded hsess
  · intro key
    rw [w.installed.mem_keys, hreconciled.installed]
    constructor
    · rintro ⟨s, hs⟩
      exact ⟨s, wantSessions_some hs⟩
    · rintro ⟨s, hmem, hifname, rfl⟩
      exact wantSessions_mem hmem hifname
  · intro index sess rec hsess hrec
    have hdescribes := hmirror.describes hsess hrec
    exact ⟨hdescribes.swIfIndex, hdescribes.tunnelIndex⟩
  · exact fun pfx swIfIndex => hmirror.fib (pfx, swIfIndex)
  · intro hflag key s rec hs hrec p
    rw [hreconciled.routes key s rec hs hrec, Pass.routesAfter]
    split
    · rfl
    · rw [if_pos hflag]
  · intro index
    constructor
    · rintro ⟨t, ht⟩
      exact hreconciled.tunnelsUsed hsync.tunnelsUsed index t ht
    · rintro ⟨i, sess, hsess, rfl⟩
      obtain ⟨t, ht, -⟩ := hmirror.counts.tunnel hsess
      exact ⟨t, ht⟩

def ksession (peerIp : U32) (localTid localSid peerTid peerSid : U16)
    (ifname : String) (routes : List IpPrefix) : KSession where
  peerIp := .v4 peerIp
  peerPort := 1701
  localTid := localTid
  localSid := localSid
  peerTid := peerTid
  peerSid := peerSid
  ifname := some ifname
  localIp := none
  localPort := none
  routes := some routes

def testConfig : Config where
  policies := Policies.lifo
  localIp := some (.v4 0x0a000001)
  localPort := 1701
  statePath := true
  setOrder := SetOrder.byDedup
  sortOrder := SetOrder.byDedup

def testPass (ksessions : List KSession) : Pass := ⟨ksessions, true, fun _ => []⟩

/-- Two sessions of one tunnel appear, one of them goes and the other takes its
prefix. -/
def addsThenRemoves : List Pass :=
  [testPass
    [ksession 0x0a000002 100 1000 200 2000 "ppp0" [IpPrefix.host 0x0ac80005],
     ksession 0x0a000002 100 1001 200 2001 "ppp1" [IpPrefix.host 0x0ac80006]]]

theorem plugin_mirrors_kernel_addsThenRemoves :
    let pass := testPass [ksession 0x0a000002 100 1001 200 2001 "ppp1"
      [IpPrefix.host 0x0ac80005]]
    ∃ w, runAll (passOk testConfig) (World.initial Pool.empty Pool.empty)
        (addsThenRemoves ++ [pass]) = some w ∧
      (∀ key, key ∈ w.installed.keys ↔ ∃ index sess,
        w.vpp.lm.sessions.elt? index = some sess ∧
          (sess.localTid, sess.localSid) = key) ∧
      (∀ key, key ∈ w.installed.keys ↔
        ∃ s ∈ pass.ksessions, s.hasIfname = true ∧ s.sessionKey = key) ∧
      (∀ index sess rec, w.vpp.lm.sessions.elt? index = some sess →
        w.installed.get? (sess.localTid, sess.localSid) = some rec →
        rec.swIfIndex = some sess.swIfIndex ∧
          rec.tunnelIndex = some sess.tunnelIndex) ∧
      (∀ pfx swIfIndex, (pfx, swIfIndex) ∈ w.vpp.fib ↔
        ∃ key rec p, w.installed.get? key = some rec ∧ p ∈ rec.routes ∧
          rec.swIfIndex = some swIfIndex ∧ pfx = p.decode) ∧
      (∀ key s rec, (wantSessions pass.ksessions).get? key = some s →
        w.installed.get? key = some rec →
        ∀ p, p ∈ rec.routes ↔ p ∈ s.fetchRoutes pass.pppRoutes) ∧
      (∀ index, (∃ t, w.vpp.lm.tunnels.elt? index = some t) ↔
        ∃ i sess, w.vpp.lm.sessions.elt? i = some sess ∧
          sess.tunnelIndex = index) := by
  intro pass
  have hrun : (runAll (passOk testConfig)
      (World.initial Pool.empty Pool.empty)
      (addsThenRemoves ++ [pass])).isSome = true := by
    decide +kernel
  obtain ⟨w, hw⟩ := Option.isSome_iff_exists.mp hrun
  obtain ⟨hlive, hwanted, hdescribes, hfib, hroutes, htunnels⟩ :=
    plugin_mirrors_kernel testConfig Pool.empty Pool.empty addsThenRemoves pass
      w hw
  exact ⟨w, hw, hlive, hwanted, hdescribes, hfib, hroutes rfl, htunnels⟩

end L2tvpp.Syncd
