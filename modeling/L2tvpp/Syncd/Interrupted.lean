import L2tvpp.Syncd.Resume

/-!
# Interrupted passes

A pass that starts from an exact record may be broken off at any call, before
or after the plugin has acted on it.  Wherever that happens, the plugin is in
a state that is resumable both from the record in memory and from the one in
the file.
-/

namespace L2tvpp.Syncd

open L2tvpp.Lib L2tvpp.Plugin

variable {cfg : Config} {pass : Pass} {w w' : World} {v v' : Vpp}

/-! ## Steps between half-done states -/

namespace Resumable

variable {records records' : Records} {key : SessionKey} {s : KSession}
  {swIfIndex : Nat}

/-- Tunnels may come, and go once no unwanted session is left. -/
theorem sameSessions (h : Resumable pass v records) (hstore : StoreInv v')
    (hinterface : interfaceOf v' = interfaceOf v) (hfib : v'.fib = v.fib)
    (hvictim : TunnelsKept v v' ∨ ∀ other,
      (wantSessions pass.ksessions).get? other = none →
      interfaceOf v other = none) : Resumable pass v' records where
  store := hstore
  routed := by
    rw [hinterface, hfib]
    exact h.routed
  named := by
    rw [hinterface, routesOver_congr hfib]
    exact h.named
  stale := by
    rw [hinterface, routesOver_congr hfib]
    exact h.stale
  apart := by
    rw [hinterface]
    exact h.apart
  victim := by
    intro key rec hstale hrec
    rw [hinterface]
    rcases hvictim with hkept | hnone
    · rcases h.victim key rec hstale hrec with hown | hnone
      · exact .inl (victim_kept hkept hown)
      · exact .inr hnone
    · exact .inr hnone

/-- Routes come or go over the interface of one session. -/
theorem overChanged (h : Resumable pass v records) (hsame : SameStore v v')
    (hlive : interfaceOf v key = some swIfIndex)
    (hother : ∀ other, other ≠ swIfIndex →
      routesOver v' other = routesOver v other)
    (hwanted : ∀ s rec, (wantSessions pass.ksessions).get? key = some s →
      records key = some rec → rec.swIfIndex = some swIfIndex →
      routesOver v' swIfIndex ∈ Set.uIcc (prefixSet rec.routes)
        (prefixSet (pass.routesAfter records (key, s))))
    (hstale : (wantSessions pass.ksessions).get? key = none →
      routesOver v' swIfIndex ⊆ routesOver v swIfIndex) :
    Resumable pass v' records where
  store := h.store.of_sameStore hsame
  routed := by
    rintro ⟨p, other⟩ hpath
    rw [interfaceOf_sameStore hsame]
    by_cases heq : other = swIfIndex
    · exact ⟨key, by rw [hlive, heq]⟩
    · have hmem : p ∈ routesOver v' other := hpath
      rw [hother other heq] at hmem
      exact h.routed (p, other) hmem
  named := by
    intro other s rec index hs hrec hindex
    rw [interfaceOf_sameStore hsame]
    obtain ⟨hlive', hbetween⟩ := h.named other s rec index hs hrec hindex
    refine ⟨hlive', ?_⟩
    by_cases heq : index = swIfIndex
    · subst heq
      cases interfaceOf_inj h.store hlive' hlive
      exact hwanted s rec hs hrec hindex
    · rw [hother index heq]
      exact hbetween
  stale := by
    intro other rec index hunwanted hrec hlive'
    rw [interfaceOf_sameStore hsame] at hlive'
    obtain ⟨hsw, hroutes⟩ := h.stale other rec index hunwanted hrec hlive'
    refine ⟨hsw, ?_⟩
    by_cases heq : index = swIfIndex
    · subst heq
      cases interfaceOf_inj h.store hlive' hlive
      exact (hstale hunwanted).trans hroutes
    · rw [hother index heq]
      exact hroutes
  apart := by
    rw [interfaceOf_sameStore hsame]
    exact h.apart
  victim := by
    rw [interfaceOf_sameStore hsame]
    intro other rec hunwanted hrec
    rcases h.victim other rec hunwanted hrec with hown | hnone
    · exact .inl (victim_kept (tunnelsKept_of_sameStore hsame) hown)
    · exact .inr hnone

/-- A wanted session comes that is not recorded yet, with any routes. -/
theorem sessionAdded (h : Resumable pass v records) (hstore : StoreInv v')
    (hs : (wantSessions pass.ksessions).get? key = some s)
    (hnone : records key = none) (hfree : interfaceOf v key = none)
    (hfresh : ∀ other, interfaceOf v other ≠ some swIfIndex)
    (hinterface : interfaceOf v' =
      Function.update (interfaceOf v) key (some swIfIndex))
    (hother : ∀ other, other ≠ swIfIndex →
      routesOver v' other = routesOver v other)
    (hkept : TunnelsKept v v')
    (hstale : ∀ stale rec, (wantSessions pass.ksessions).get? stale = none →
      records stale = some rec → rec.swIfIndex ≠ some swIfIndex) :
    Resumable pass v' records where
  store := hstore
  routed := by
    rintro ⟨p, other⟩ hpath
    by_cases heq : other = swIfIndex
    · exact ⟨key, by rw [hinterface, Function.update_self, heq]⟩
    · have hmem : p ∈ routesOver v' other := hpath
      rw [hother other heq] at hmem
      obtain ⟨owner, howner⟩ := h.routed (p, other) hmem
      refine ⟨owner, ?_⟩
      rw [hinterface, Function.update_of_ne, howner]
      rintro rfl
      rw [hfree] at howner
      contradiction
  named := by
    intro other s' rec index hs' hrec hindex
    have hne : other ≠ key := by
      rintro rfl
      rw [hnone] at hrec
      contradiction
    obtain ⟨hlive, hbetween⟩ := h.named other s' rec index hs' hrec hindex
    rw [hinterface, Function.update_of_ne hne]
    refine ⟨hlive, ?_⟩
    rw [hother]
    · exact hbetween
    · rintro rfl
      exact hfresh other hlive
  stale := by
    intro other rec index hunwanted hrec hlive
    have hne : other ≠ key := by
      rintro rfl
      rw [hnone] at hrec
      contradiction
    rw [hinterface, Function.update_of_ne hne] at hlive
    obtain ⟨hsw, hroutes⟩ := h.stale other rec index hunwanted hrec hlive
    refine ⟨hsw, ?_⟩
    rw [hother]
    · exact hroutes
    · rintro rfl
      exact hfresh other hlive
  apart := by
    intro stale rec index hunwanted hrec hindex other s' hs' hlive
    rw [hinterface, Function.update_apply] at hlive
    split at hlive
    · cases hlive
      exact hstale stale rec hunwanted hrec hindex
    · exact h.apart stale rec index hunwanted hrec hindex other s' hs' hlive
  victim := by
    intro stale rec hunwanted hrec
    rcases h.victim stale rec hunwanted hrec with hown | hgone
    · exact .inl (victim_kept hkept hown)
    · refine .inr ?_
      intro other hother'
      rw [hinterface, Function.update_of_ne]
      · exact hgone other hother'
      · rintro rfl
        rw [hs] at hother'
        contradiction

/-- A stale session goes after its routes. -/
theorem sessionDeleted (h : Resumable pass v records) (hstore : StoreInv v')
    (hunwanted : (wantSessions pass.ksessions).get? key = none)
    (hinterface : ∀ other, interfaceOf v' other =
      if other = key then none else interfaceOf v other)
    (hempty : ∀ index, interfaceOf v key = some index → routesOver v index = ∅)
    (hfib : v'.fib = v.fib) (hsame : SameTids v v') :
    Resumable pass v' records where
  store := hstore
  routed := by
    intro path hpath
    rw [hfib] at hpath
    obtain ⟨owner, howner⟩ := h.routed path hpath
    refine ⟨owner, ?_⟩
    rw [hinterface, if_neg, howner]
    rintro rfl
    have hmem : path.1 ∈ routesOver v path.2 := hpath
    rw [hempty path.2 howner] at hmem
    exact hmem
  named := by
    intro other s rec index hs hrec hindex
    have hne : other ≠ key := by
      rintro rfl
      rw [hunwanted] at hs
      contradiction
    rw [hinterface, if_neg hne, routesOver_congr hfib]
    exact h.named other s rec index hs hrec hindex
  stale := by
    intro other rec index hunwanted' hrec hlive
    rw [hinterface] at hlive
    split at hlive
    · contradiction
    · rw [routesOver_congr hfib]
      exact h.stale other rec index hunwanted' hrec hlive
  apart := by
    intro stale rec index hstale hrec hindex other s hs hlive
    rw [hinterface] at hlive
    split at hlive
    · contradiction
    · exact h.apart stale rec index hstale hrec hindex other s hs hlive
  victim := by
    intro stale rec hstale hrec
    rw [hsame.victim]
    rcases h.victim stale rec hstale hrec with hown | hgone
    · exact .inl hown
    · refine .inr ?_
      intro other hother
      rw [hinterface, hgone other hother, ite_self]

/-- The record of a wanted session is written when its routes are there. -/
theorem write (h : Resumable pass v records)
    (hs : (wantSessions pass.ksessions).get? key = some s) {rec : InstalledRec}
    (hroutes : ∀ pfx, pfx ∈ rec.routes ↔ pfx ∈ s.fetchRoutes pass.pppRoutes)
    (hnamed : ∀ index, rec.swIfIndex = some index →
      interfaceOf v key = some index ∧ routesOver v index = prefixSet rec.routes) :
    Resumable pass v (Function.update records key (some rec)) := by
  have hother : ∀ stale, (wantSessions pass.ksessions).get? stale = none →
      Function.update records key (some rec) stale = records stale := by
    intro stale hstale
    rw [Function.update_of_ne]
    rintro rfl
    rw [hs] at hstale
    contradiction
  refine ⟨h.store, h.routed, ?_, ?_, ?_, ?_⟩
  · intro other s' rec' index hs' hrec' hindex
    by_cases heq : other = key
    · subst heq
      rw [Function.update_self] at hrec'
      cases hrec'
      rw [hs] at hs'
      cases hs'
      obtain ⟨hlive, hover⟩ := hnamed index hindex
      refine ⟨hlive, ?_⟩
      have hafter : prefixSet (pass.routesAfter
          (Function.update records other (some rec)) (other, s)) =
          prefixSet rec.routes := by
        simp only [Pass.routesAfter, Function.update_self]
        split
        · exact (prefixSet_congr hroutes).symm
        · rfl
      rw [hafter, Set.uIcc_self, hover]
      exact Set.mem_singleton _
    · rw [Function.update_of_ne heq] at hrec'
      have hafter : pass.routesAfter (Function.update records key (some rec))
          (other, s') = pass.routesAfter records (other, s') := by
        simp only [Pass.routesAfter, Function.update_of_ne heq]
      rw [hafter]
      exact h.named other s' rec' index hs' hrec' hindex
  · intro stale rec' index hstale hrec'
    rw [hother stale hstale] at hrec'
    exact h.stale stale rec' index hstale hrec'
  · intro stale rec' index hstale hrec'
    rw [hother stale hstale] at hrec'
    exact h.apart stale rec' index hstale hrec'
  · intro stale rec' hstale hrec'
    rw [hother stale hstale] at hrec'
    exact h.victim stale rec' hstale hrec'

/-- Records may be forgotten. -/
theorem forget (h : Resumable pass v records)
    (hsub : ∀ key, records' key = none ∨ records' key = records key) :
    Resumable pass v records' := by
  have hold : ∀ {key rec}, records' key = some rec →
      records key = some rec ∧ records' key = records key := by
    intro key rec hrec
    rcases hsub key with hnone | hsame
    · rw [hnone] at hrec
      contradiction
    · exact ⟨hsame ▸ hrec, hsame⟩
  refine ⟨h.store, h.routed, ?_, ?_, ?_, ?_⟩
  · intro key s rec index hs hrec hindex
    obtain ⟨hrec', hsame⟩ := hold hrec
    have hafter : pass.routesAfter records' (key, s) =
        pass.routesAfter records (key, s) := by
      simp only [Pass.routesAfter, hsame]
    rw [hafter]
    exact h.named key s rec index hs hrec' hindex
  · exact fun key rec index hstale hrec => h.stale key rec index hstale
      (hold hrec).1
  · exact fun key rec index hstale hrec => h.apart key rec index hstale
      (hold hrec).1
  · exact fun key rec hstale hrec => h.victim key rec hstale (hold hrec).1

end Resumable

/-! ## Operations that are broken off -/

section Raised

variable {e : PyExc} {pppRoutes : PppRoutes} {s : KSession}
  {cache : TunnelsCache} {pfxs : List IpPrefix} {swIfIndex : Option Nat}
  {isAdd : Bool}

theorem forM_route_raised (hstore : StoreInv w.vpp)
    (h : exec (pfxs.forM fun pfx => route cfg pfx swIfIndex isAdd) w =
      (.error e, w')) :
    ∃ done, done ⊆ pfxs ∧ RoutesTried isAdd swIfIndex done w w' := by
  have hloop : Triple (RoutesTried isAdd swIfIndex [] w)
      (pfxs.forM fun pfx => route cfg pfx swIfIndex isAdd)
      (fun _ => RoutesTried isAdd swIfIndex pfxs w)
      fun m => ∃ done, done ⊆ pfxs ∧ RoutesTried isAdd swIfIndex done w m := by
    refine .forM (RoutesTried isAdd swIfIndex · w) ?_
    intro done pfx rest heq
    refine (callApi_triple (fun m hm => hm.logged hstore) ?_).bind
      fun _ => .ret fun _ hm => hm
    intro m hm
    refine ⟨⟨done, ?_, hm⟩, ⟨done ++ [pfx], ?_, hm.logged hstore⟩⟩
    · rw [heq]
      exact List.subset_append_left ..
    · rw [heq, show done ++ pfx :: rest = (done ++ [pfx]) ++ rest by simp]
      exact List.subset_append_left ..
  exact hloop.error (RoutesTried.nil w) h

theorem ensureTunnel_raised (hstore : StoreInv w.vpp)
    (h : exec (ensureTunnel cfg s cache) w = (.error e, w')) :
    w'.installed = w.installed ∧ SessionsKept w.vpp w'.vpp := by
  unfold ensureTunnel at h
  split at h
  · simp at h
  · split at h
    · cases h
      exact ⟨rfl, .refl hstore⟩
    · rename_i localIp localPort _
      rcases exec_bind_error.mp h with hcall | ⟨reply, m, -, hpure⟩
      · rcases callApi_error hcall with rfl | rfl
        · exact ⟨rfl, .refl hstore⟩
        · exact ⟨rfl, sessionsKept_tunnelCall hstore localIp localPort⟩
      · simp at hpure

/-- A session has come, with routes over its interface only. -/
structure PluginAdded (key : SessionKey) (swIfIndex : Nat) (v v' : Vpp) :
    Prop where
  store : StoreInv v'
  free : interfaceOf v key = none
  fresh : ∀ other, interfaceOf v other ≠ some swIfIndex
  interface : interfaceOf v' =
    Function.update (interfaceOf v) key (some swIfIndex)
  other : ∀ index, index ≠ swIfIndex → routesOver v' index = routesOver v index
  tunnels : TunnelsKept v v'

theorem SessionsKept.added {key : SessionKey} {index : Nat} {v'' : Vpp}
    (h : SessionsKept v v') (hadded : PluginAdded key index v' v'') :
    PluginAdded key index v v'' where
  store := hadded.store
  free := by
    rw [← h.interface]
    exact hadded.free
  fresh := by
    rw [← h.interface]
    exact hadded.fresh
  interface := by
    rw [← h.interface]
    exact hadded.interface
  other := by
    intro other hother
    rw [hadded.other other hother, routesOver_congr h.fib]
  tunnels := h.tunnels.trans hadded.tunnels

theorem PluginAdded.routes {key : SessionKey} {index : Nat} {v'' : Vpp}
    (h : PluginAdded key index v v')
    (hroutes : RoutesChanged isAdd pfxs index v' v'') :
    PluginAdded key index v v'' where
  store := h.store.of_sameStore hroutes.sameStore
  free := h.free
  fresh := h.fresh
  interface := by
    rw [interfaceOf_sameStore hroutes.sameStore]
    exact h.interface
  other := by
    intro other hother
    rw [hroutes.over_other hother, h.other other hother]
  tunnels := h.tunnels.trans hroutes.tunnelsKept

/-- The call for a session adds it or is rejected. -/
theorem sessionCall_cases (cfg : Config) {tunnelIndex : Option Nat}
    (hstore : StoreInv w.vpp)
    (htid : ∀ index t, tunnelIndex = some index →
      w.vpp.lm.tunnels.elt? index = some t → t.localTid = s.localTid) :
    ((handle cfg.policies w.vpp (s.sessionCall tunnelIndex)).1.index = none ∧
      (w.logged cfg (s.sessionCall tunnelIndex)).vpp = w.vpp) ∨
    ∃ index, (handle cfg.policies w.vpp
        (s.sessionCall tunnelIndex)).1.index = some index ∧
      PluginAdded s.sessionKey index w.vpp
        (w.logged cfg (s.sessionCall tunnelIndex)).vpp := by
  cases hok : (handle cfg.policies w.vpp
      (s.sessionCall tunnelIndex)).1.ok with
  | false => exact .inl ⟨(handle_not_ok hok).1, handle_rejected hok⟩
  | true =>
      obtain ⟨index, t, rfl, ht, hkey, hhandle⟩ := sessionAdd_accepted hok
      have heq := htid index t rfl ht
      rw [KSession.sessionCall, hhandle]
      refine .inr ⟨_, rfl, ?_⟩
      have hinterface : interfaceOf (w.vpp.sessionAdd cfg.policies index t
          s.localSid s.peerSid 0 0) = Function.update (interfaceOf w.vpp)
          (t.localTid, s.localSid)
          (some (w.vpp.swInterfaces.nextIndex cfg.policies.swInterfaces)) :=
        interfaceOf_sessionAdd hstore hkey
      have hfree : interfaceOf w.vpp (t.localTid, s.localSid) = none :=
        (lookup_none_iff hstore).mp hkey
      rw [heq] at hinterface hfree
      simp only [World.logged, hhandle]
      exact ⟨hstore.sessionAdd hkey, hfree, interfaceOf_ne_nextIndex hstore,
        hinterface, fun _ _ => rfl, tunnelsKept_sessionAdd⟩

theorem addSession_raised (hstore : StoreInv w.vpp)
    (hcache : CacheTid w.vpp cache)
    (h : exec (addSession cfg pppRoutes s cache) w = (.error e, w')) :
    w'.installed = w.installed ∧ (SessionsKept w.vpp w'.vpp ∨
      ∃ index, PluginAdded s.sessionKey index w.vpp w'.vpp) := by
  rcases exec_bind_error.mp h with hensure |
    ⟨⟨tunnelIndex, cache'⟩, middle, hensure, h⟩
  · obtain ⟨hinstalled, hkept⟩ := ensureTunnel_raised hstore hensure
    exact ⟨hinstalled, .inl hkept⟩
  obtain ⟨hinstalled, hkept⟩ := ensureTunnel_kept hstore hensure
  obtain ⟨hcache', hget, -⟩ := ensureTunnel_cacheTid hcache hensure
  have htid : ∀ index t, tunnelIndex = some index →
      middle.vpp.lm.tunnels.elt? index = some t →
      t.localTid = s.localTid := by
    rintro index t rfl ht
    obtain ⟨t', ht', htid⟩ := hcache' _ _ hget
    rw [ht] at ht'
    cases ht'
    exact htid
  have hcases := sessionCall_cases cfg hkept.store htid
  simp only [KSession.sessionCall] at hcases
  rcases exec_bind_error.mp h with hcall | ⟨reply, logged, hcall, h⟩
  · rcases callApi_error hcall with rfl | rfl
    · exact ⟨hinstalled, .inl hkept⟩
    · refine ⟨hinstalled, ?_⟩
      rcases hcases with ⟨-, hsame⟩ | ⟨index, -, hadded⟩
      · exact .inl (hsame ▸ hkept)
      · exact .inr ⟨index, hkept.added hadded⟩
  obtain ⟨rfl, rfl⟩ := callApi_ok hcall
  rcases exec_bind_error.mp h with hforM | ⟨_, routed, -, hwrite⟩
  · rcases hcases with ⟨hindex, hsame⟩ | ⟨index, hindex, hadded⟩
    · -- the session was rejected, and so are its routes
      obtain ⟨done, -, htried⟩ :=
        forM_route_raised (hsame ▸ hkept.store) hforM
      refine ⟨htried.installed.trans hinstalled, .inl ?_⟩
      rw [htried.dead (by simp [hindex])]
      exact hsame ▸ hkept
    · obtain ⟨done, -, htried⟩ := forM_route_raised hadded.store hforM
      refine ⟨htried.installed.trans hinstalled, .inr ⟨index, ?_⟩⟩
      refine hkept.added (hadded.routes (htried.live index s.sessionKey hindex ?_))
      rw [hadded.interface, Function.update_self]
  · rw [exec_get_bind, exec_bind, exec_setInstalled] at hwrite
    cases hwrite

theorem syncRoutes_raised {rec : InstalledRec} (hstore : StoreInv w.vpp)
    (hrec : w.installed.get? s.sessionKey = some rec)
    (h : exec (syncRoutes cfg pppRoutes s) w = (.error e, w')) :
    w'.installed = w.installed ∧ SameStore w.vpp w'.vpp ∧
    ∃ middle added deleted,
      added ⊆ setDiff (s.fetchRoutes pppRoutes) rec.routes ∧
      deleted ⊆ setDiff rec.routes (s.fetchRoutes pppRoutes) ∧
      RoutesTried true rec.swIfIndex added w middle ∧
      RoutesTried false rec.swIfIndex deleted middle w' := by
  simp only [syncRoutes, exec_get_bind, hrec] at h
  rcases exec_bind_error.mp h with hadd | ⟨_, added, hadd, h⟩
  · obtain ⟨done, hsub, htried⟩ := forM_route_raised hstore hadd
    exact ⟨htried.installed, htried.sameStore, w', done, [],
      fun _ hmem => cfg.setOrder.mem_list.mp (hsub hmem), List.nil_subset _,
      htried, .nil w'⟩
  have htried := forM_route_run hstore hadd
  rcases exec_bind_error.mp h with hdel | ⟨_, deleted, -, hwrite⟩
  · obtain ⟨done, hsub, htried'⟩ :=
      forM_route_raised (hstore.of_sameStore htried.sameStore) hdel
    exact ⟨htried'.installed.trans htried.installed,
      htried.sameStore.trans htried'.sameStore, added, _, done,
      fun _ hmem => cfg.setOrder.mem_list.mp hmem,
      fun _ hmem => cfg.setOrder.mem_list.mp (hsub hmem), htried, htried'⟩
  · split at hwrite
    · rw [exec_get_bind, exec_setInstalled] at hwrite
      cases hwrite
    · cases hwrite

theorem delSession_raised {key : SessionKey} {rec : InstalledRec}
    (hstore : StoreInv w.vpp) (hrec : w.installed.get? key = some rec)
    (h : exec (delSession cfg key) w = (.error e, w')) :
    w'.installed = w.installed ∧
    ((∃ deleted, deleted ⊆ rec.routes ∧
        RoutesTried false rec.swIfIndex deleted w w') ∨
      ∃ routed, RoutesTried false rec.swIfIndex rec.routes w routed ∧
        w' = routed.logged cfg (.sessionAddDel false rec.tunnelIndex
          rec.localSid rec.peerSid false false)) := by
  simp only [delSession, exec_get_bind, hrec] at h
  rcases exec_bind_error.mp h with hdel | ⟨_, routed, hdel, h⟩
  · obtain ⟨done, hsub, htried⟩ := forM_route_raised hstore hdel
    exact ⟨htried.installed, .inl ⟨done, hsub, htried⟩⟩
  have htried := forM_route_run hstore hdel
  rcases exec_bind_error.mp h with hcall | ⟨reply, m, -, hwrite⟩
  · rcases callApi_error hcall with rfl | rfl
    · exact ⟨htried.installed, .inl ⟨rec.routes, List.Subset.refl _, htried⟩⟩
    · exact ⟨htried.installed, .inr ⟨routed, htried, rfl⟩⟩
  · rw [exec_get_bind, exec_setInstalled] at hwrite
    cases hwrite

theorem SessionAdded.pluginAdded {routes : List IpPrefix}
    {cache' : TunnelsCache}
    (h : SessionAdded cfg s routes cache cache' w w') (hstore : StoreInv w.vpp)
    (hcache : CacheTid w.vpp cache) :
    PluginAdded s.sessionKey
      (w.vpp.swInterfaces.nextIndex cfg.policies.swInterfaces) w.vpp
      w'.vpp := by
  have hsession := h.added hstore hcache
  refine ⟨hsession.store, hsession.free, interfaceOf_ne_nextIndex hstore,
    hsession.interface, ?_, ?_⟩
  · intro index hindex
    ext p
    rw [mem_routesOver, hsession.fib, mem_routesOver]
    simp [hindex]
  · obtain ⟨htunnel, ht, -, -, hroutes, -⟩ := h
    exact htunnel.tunnelsKept.trans
      (tunnelsKept_sessionAdd.trans hroutes.tunnelsKept)

end Raised

/-! ## The first loop -/

theorem Mirror.resumable {records : Records} (h : Mirror v records) :
    Resumable pass v records where
  store := h.store
  routed := by
    intro path hpath
    obtain ⟨key, rec, pfx, hrec, -, hsw, -⟩ := (h.fib path).mp hpath
    obtain ⟨index, hindex, hlive⟩ := h.named hrec
    rw [hsw] at hindex
    cases hindex
    exact ⟨key, hlive⟩
  named := by
    intro key s rec index _ hrec hsw
    obtain ⟨index', hindex, hlive⟩ := h.named hrec
    rw [hsw] at hindex
    cases hindex
    refine ⟨hlive, ?_⟩
    have hover : routesOver v index = prefixSet rec.routes := by
      ext p
      exact h.fib_of_record hrec hsw
    rw [hover]
    exact Set.left_mem_uIcc
  stale := by
    intro key rec index _ hrec hlive
    obtain ⟨index', hsw, hlive'⟩ := h.named hrec
    rw [hlive] at hlive'
    cases hlive'
    refine ⟨hsw, ?_⟩
    intro p hp
    exact (h.fib_of_record hrec hsw).mp hp
  apart := by
    intro key rec index hunwanted hrec hsw other s hs hlive
    obtain ⟨index', hindex, hlive'⟩ := h.named hrec
    rw [hsw] at hindex
    cases hindex
    rw [interfaceOf_inj h.store hlive' hlive, hs] at hunwanted
    contradiction
  victim := by
    intro key rec _ hrec
    exact .inl (h.victim hrec (tunnelsKept_of_sameStore (SameStore.refl v)))

/-- Resumable from the record in memory and from the one of the start. -/
structure Halfway (pass : Pass) (w m : World) : Prop where
  file : Resumable pass m.vpp w.installed.get?
  memory : Resumable pass m.vpp m.installed.get?

/-- Neither a session nor a record has changed. -/
theorem Halfway.sameSessions {m m' : World} (h : Halfway pass w m)
    (hinstalled : m'.installed = m.installed) (hstore : StoreInv m'.vpp)
    (hinterface : interfaceOf m'.vpp = interfaceOf m.vpp)
    (hfib : m'.vpp.fib = m.vpp.fib)
    (hvictim : TunnelsKept m.vpp m'.vpp ∨ ∀ other,
      (wantSessions pass.ksessions).get? other = none →
      interfaceOf m.vpp other = none) : Halfway pass w m' where
  file := h.file.sameSessions hstore hinterface hfib hvictim
  memory := by
    rw [hinstalled]
    exact h.memory.sameSessions hstore hinterface hfib hvictim

/-- The state after some of the wanted sessions have been looked at, whether
they were accepted or not. -/
structure Reached (pass : Pass) (w : World)
    (done : List (SessionKey × KSession)) (cache : TunnelsCache)
    (m : World) : Prop extends Halfway pass w m where
  tunnels : TunnelsKept w.vpp m.vpp
  cacheTid : CacheTid m.vpp cache
  untouched : ∀ key, key ∉ done.map Prod.fst →
    interfaceOf m.vpp key = interfaceOf w.vpp key ∧
      m.installed.get? key = w.installed.get? key

theorem wantSessions_get {done rest : List (SessionKey × KSession)}
    {entry : SessionKey × KSession}
    (heq : (wantSessions pass.ksessions).items = done ++ entry :: rest) :
    (wantSessions pass.ksessions).get? entry.1 = some entry.2 := by
  rw [← Dict.mem_items, heq]
  simp

theorem unwanted_not_done {done rest : List (SessionKey × KSession)}
    {key : SessionKey}
    (heq : (wantSessions pass.ksessions).items = done ++ rest)
    (hunwanted : (wantSessions pass.ksessions).get? key = none) :
    key ∉ done.map Prod.fst := by
  rw [Dict.get?_eq_none, Dict.keys, heq, List.map_append] at hunwanted
  exact fun hmem => hunwanted (List.mem_append_left _ hmem)

namespace Reached

variable {done rest : List (SessionKey × KSession)}
  {cache cache' : TunnelsCache} {m m' : World} {entry : SessionKey × KSession}

theorem start (hmirror : Mirror w.vpp w.installed.get?) :
    Reached pass w [] (dumpedTunnels w.vpp) (w.logged cfg .tunnelDump) where
  file := hmirror.resumable
  memory := hmirror.resumable
  tunnels := tunnelsKept_of_sameStore (SameStore.refl _)
  cacheTid := (cacheSound_dumpedTunnels w.vpp).cacheTid
  untouched := fun _ _ => ⟨rfl, rfl⟩

/-- The records of stale sessions are those of the start and name their
interfaces. -/
theorem stale_named (h : Reached pass w done cache m)
    (hmirror : Mirror w.vpp w.installed.get?)
    (heq : (wantSessions pass.ksessions).items = done ++ rest)
    {key : SessionKey}
    (hunwanted : (wantSessions pass.ksessions).get? key = none) :
    m.installed.get? key = w.installed.get? key ∧ ∀ rec,
      w.installed.get? key = some rec → Named m.vpp key rec := by
  obtain ⟨hinterface, hinstalled⟩ :=
    h.untouched key (unwanted_not_done heq hunwanted)
  refine ⟨hinstalled, ?_⟩
  intro rec hrec
  obtain ⟨index, hsw, hlive⟩ := hmirror.named hrec
  exact ⟨index, hsw, hinterface.trans hlive⟩

/-- A session of the list comes while its record is not written yet. -/
theorem added (h : Reached pass w done cache m)
    (hmirror : Mirror w.vpp w.installed.get?)
    (heq : (wantSessions pass.ksessions).items = done ++ entry :: rest)
    (hnone : w.installed.get? entry.1 = none) {index : Nat}
    (hadded : PluginAdded entry.1 index m.vpp v) :
    Resumable pass v w.installed.get? ∧ Resumable pass v m.installed.get? := by
  obtain ⟨-, hnew⟩ := wantSessions_entry heq
  have hs := wantSessions_get heq
  have hapart : ∀ stale rec,
      (wantSessions pass.ksessions).get? stale = none →
      w.installed.get? stale = some rec → rec.swIfIndex ≠ some index := by
    intro stale rec hunwanted hrec hsw
    obtain ⟨index', hindex, hlive⟩ :=
      (h.stale_named hmirror heq hunwanted).2 rec hrec
    rw [hsw] at hindex
    cases hindex
    exact hadded.fresh stale hlive
  constructor
  · exact h.file.sessionAdded hadded.store hs hnone hadded.free hadded.fresh
      hadded.interface hadded.other hadded.tunnels hapart
  · refine h.memory.sessionAdded hadded.store hs ?_ hadded.free hadded.fresh
      hadded.interface hadded.other hadded.tunnels ?_
    · rw [(h.untouched entry.1 hnew).2, hnone]
    · intro stale rec hunwanted hrec
      rw [(h.stale_named hmirror heq hunwanted).1] at hrec
      exact hapart stale rec hunwanted hrec

/-- Routes of a kept session come and go on the way to the wanted ones. -/
theorem resynced (h : Reached pass w done cache m)
    (heq : (wantSessions pass.ksessions).items = done ++ entry :: rest)
    (hsync : pass.syncExistingRoutes = true) {rec : InstalledRec}
    (hrec : w.installed.get? entry.1 = some rec) {index : Nat}
    (hlive : interfaceOf m.vpp entry.1 = some index) {middle : Vpp}
    {added deleted : List IpPrefix}
    (hadded : added ⊆ setDiff (entry.2.fetchRoutes pass.pppRoutes) rec.routes)
    (hdeleted : deleted ⊆
      setDiff rec.routes (entry.2.fetchRoutes pass.pppRoutes))
    (hfirst : RoutesChanged true added index m.vpp middle)
    (hsecond : RoutesChanged false deleted index middle v) :
    Resumable pass v w.installed.get? ∧ Resumable pass v m.installed.get? := by
  obtain ⟨-, hnew⟩ := wantSessions_entry heq
  have hwanted := wantSessions_get heq
  have hrec' : m.installed.get? entry.1 = some rec := by
    rw [(h.untouched entry.1 hnew).2, hrec]
  have hover : routesOver v index =
      (routesOver m.vpp index ∪ prefixSet added) \ prefixSet deleted := by
    rw [hsecond.over_own, hfirst.over_own]
    rfl
  have hstep : ∀ {records : Records}, records entry.1 = some rec →
      Resumable pass m.vpp records → Resumable pass v records := by
    intro records hrecords hresumable
    refine hresumable.overChanged (hfirst.sameStore.trans hsecond.sameStore)
      hlive ?_ ?_ ?_
    · intro other hother
      rw [hsecond.over_other hother, hfirst.over_other hother]
    · intro s rec' hs hrec' hsw
      rw [hrecords] at hrec'
      cases hrec'
      obtain ⟨-, hbetween⟩ :=
        hresumable.named entry.1 s rec index hs hrecords hsw
      rw [hwanted] at hs
      cases hs
      simp only [Pass.routesAfter, hrecords, hsync, if_true] at hbetween ⊢
      rw [hover]
      refine mem_uIcc_of_changed hbetween ?_ ?_
      · rw [← prefixSet_setDiff]
        exact prefixSet_mono hadded
      · rw [← prefixSet_setDiff]
        exact prefixSet_mono hdeleted
    · intro hunwanted
      rw [hwanted] at hunwanted
      contradiction
  exact ⟨hstep hrec h.file, hstep hrec' h.memory⟩

theorem next (h : Reached pass w done cache m) (hhalf : Halfway pass w m')
    (hkept : TunnelsKept m.vpp m'.vpp) (htid : CacheTid m'.vpp cache')
    {rec : InstalledRec}
    (hinstalled : m'.installed.get? =
      Function.update m.installed.get? entry.1 (some rec))
    (hinterface : ∀ key, key ≠ entry.1 →
      interfaceOf m'.vpp key = interfaceOf m.vpp key) :
    Reached pass w (done ++ [entry]) cache' m' where
  toHalfway := hhalf
  tunnels := h.tunnels.trans hkept
  cacheTid := htid
  untouched := by
    intro key hkey
    obtain ⟨hkey, hne⟩ := untouched_append hkey
    rw [hinterface key hne, hinstalled, Function.update_of_ne hne]
    exact h.untouched key hkey

theorem halfway_added (h : Reached pass w done cache m)
    (hmirror : Mirror w.vpp w.installed.get?)
    (heq : (wantSessions pass.ksessions).items = done ++ entry :: rest)
    (hnone : m.installed.get? entry.1 = none)
    (hadded : SessionAdded cfg entry.2 (entry.2.fetchRoutes pass.pppRoutes)
      cache cache' m m') : Halfway pass w m' := by
  obtain ⟨hkey, hnew⟩ := wantSessions_entry heq
  have hsession := hadded.added h.file.store h.cacheTid
  have hplugin : PluginAdded entry.1
      (m.vpp.swInterfaces.nextIndex cfg.policies.swInterfaces) m.vpp
      m'.vpp := hkey ▸ hadded.pluginAdded h.file.store h.cacheTid
  obtain ⟨tunnelIndex, hinstalled⟩ := hsession.installed
  rw [(h.untouched entry.1 hnew).2] at hnone
  obtain ⟨hfile, hmemory⟩ := h.added hmirror heq hnone hplugin
  refine ⟨hfile, ?_⟩
  rw [hinstalled, ← hkey]
  refine hmemory.write (wantSessions_get heq) (fun _ => Iff.rfl) ?_
  intro index hindex
  cases hindex
  refine ⟨by rw [hplugin.interface, Function.update_self], ?_⟩
  ext p
  rw [mem_routesOver, hsession.fib]
  constructor
  · rintro (hold | ⟨pfx, hpfx, heq⟩)
    · obtain ⟨other, hother⟩ := h.file.routed _ hold
      exact absurd hother (hplugin.fresh other)
    · exact ⟨pfx, hpfx, congrArg Prod.fst heq⟩
  · rintro ⟨pfx, hpfx, rfl⟩
    exact .inr ⟨pfx, hpfx, rfl⟩

theorem halfway_rejected (h : Reached pass w done cache m)
    (heq : (wantSessions pass.ksessions).items = done ++ entry :: rest)
    (hrejected : RejectedSession entry.2 (entry.2.fetchRoutes pass.pppRoutes)
      m m') : Halfway pass w m' := by
  obtain ⟨hkey, -⟩ := wantSessions_entry heq
  have hkept := hrejected.toSessionsKept
  obtain ⟨tunnelIndex, hinstalled⟩ := hrejected.installed
  refine ⟨h.file.sameSessions hkept.store hkept.interface hkept.fib
    (.inl hkept.tunnels), ?_⟩
  rw [hinstalled, ← hkey]
  refine (h.memory.sameSessions hkept.store hkept.interface hkept.fib
    (.inl hkept.tunnels)).write (wantSessions_get heq) (fun _ => Iff.rfl) ?_
  intro index hindex
  contradiction

theorem halfway_synced (h : Reached pass w done cache m)
    (hmirror : Mirror w.vpp w.installed.get?)
    (heq : (wantSessions pass.ksessions).items = done ++ entry :: rest)
    (hsync : pass.syncExistingRoutes = true) {rec : InstalledRec}
    (hrec : m.installed.get? entry.1 = some rec)
    (hsynced : SyncedSession cfg entry.1 (entry.2.fetchRoutes pass.pppRoutes)
      rec m m') : Halfway pass w m' := by
  obtain ⟨-, hnew⟩ := wantSessions_entry heq
  obtain ⟨hsame, hrec'⟩ := h.untouched entry.1 hnew
  rw [hrec] at hrec'
  obtain ⟨index, hsw, hlive⟩ := hmirror.named hrec'.symm
  rw [← hsame] at hlive
  obtain ⟨middle, hfirst, hsecond⟩ := hsynced.live index entry.1 hsw hlive
  obtain ⟨hfile, hmemory⟩ := h.resynced heq hsync hrec'.symm hlive
    (fun _ hmem => cfg.setOrder.mem_list.mp hmem)
    (fun _ hmem => cfg.setOrder.mem_list.mp hmem) hfirst hsecond
  obtain ⟨routes, hroutes, hinstalled⟩ := hsynced.installed
  refine ⟨hfile, ?_⟩
  rw [hinstalled]
  refine hmemory.write (wantSessions_get heq) hroutes ?_
  intro index' hindex
  have hindex' : rec.swIfIndex = some index' := hindex
  rw [hsw] at hindex'
  cases hindex'
  rw [interfaceOf_sameStore hsynced.sameStore]
  refine ⟨hlive, ?_⟩
  obtain ⟨-, hbetween⟩ := h.memory.named entry.1 entry.2 rec index
    (wantSessions_get heq) hrec hsw
  simp only [Pass.routesAfter, hrec, hsync, if_true] at hbetween
  rw [hsecond.over_own, hfirst.over_own, prefixSet_congr hroutes,
    prefixSet_list, prefixSet_list, prefixSet_setDiff, prefixSet_setDiff]
  exact changed_eq_wanted hbetween

theorem halfway_tried (h : Reached pass w done cache m)
    (hmirror : Mirror w.vpp w.installed.get?)
    (heq : (wantSessions pass.ksessions).items = done ++ entry :: rest)
    (htried : EntryTried cfg pass entry cache cache' m m') :
    Halfway pass w m' ∧ TunnelsKept m.vpp m'.vpp := by
  cases htried with
  | added hnone hadded hopen =>
      exact ⟨h.halfway_added hmirror heq hnone hadded,
        (hadded.pluginAdded h.file.store h.cacheTid).tunnels⟩
  | rejected hnone hrejected =>
      exact ⟨h.halfway_rejected heq hrejected, hrejected.tunnels⟩
  | synced hsync hrec hcache hsynced =>
      exact ⟨h.halfway_synced hmirror heq hsync hrec hsynced,
        tunnelsKept_of_sameStore hsynced.sameStore⟩
  | kept hsync hrec hcache hw =>
      subst hw
      exact ⟨h.toHalfway, tunnelsKept_of_sameStore (SameStore.refl _)⟩

theorem halfway_raised {acc : Nat × TunnelsCache} {e : PyExc}
    (h : Reached pass w done acc.2 m)
    (hmirror : Mirror w.vpp w.installed.get?)
    (heq : (wantSessions pass.ksessions).items = done ++ entry :: rest)
    (hround : exec (reconcileSession cfg pass acc entry) m = (.error e, m')) :
    Halfway pass w m' := by
  obtain ⟨hkey, hnew⟩ := wantSessions_entry heq
  obtain ⟨hsame, hold⟩ := h.untouched entry.1 hnew
  rw [Syncd.reconcileSession, exec_get_bind] at hround
  split at hround
  · rename_i hnone
    rw [Option.isNone_iff_eq_none, hold] at hnone
    rcases exec_bind_error.mp hround with hadd | ⟨_, _, -, hpure⟩
    · obtain ⟨hinstalled, hkept | ⟨index, hadded⟩⟩ :=
        addSession_raised h.file.store h.cacheTid hadd
      · exact h.toHalfway.sameSessions hinstalled hkept.store hkept.interface
          hkept.fib (.inl hkept.tunnels)
      · rw [← hkey] at hadded
        obtain ⟨hfile, hmemory⟩ := h.added hmirror heq hnone hadded
        refine ⟨hfile, ?_⟩
        rw [hinstalled]
        exact hmemory
    · cases hpure
  · rename_i hsome
    rw [Option.isNone_iff_eq_none, hold] at hsome
    obtain ⟨rec, hrec⟩ := Option.ne_none_iff_exists'.mp hsome
    split at hround
    · rename_i hsync
      rcases exec_bind_error.mp hround with hraised | ⟨_, _, -, hpure⟩
      · have hrec' : m.installed.get? entry.2.sessionKey = some rec := by
          rw [← hkey, hold, hrec]
        obtain ⟨index, hsw, hlive⟩ := hmirror.named hrec
        rw [← hsame] at hlive
        obtain ⟨hinstalled, -, middle, added, deleted, hadded, hdeleted, hfirst,
          hsecond⟩ := syncRoutes_raised h.file.store hrec' hraised
        have hlive' : interfaceOf middle.vpp entry.1 = some index := by
          rw [interfaceOf_sameStore hfirst.sameStore, hlive]
        obtain ⟨hfile, hmemory⟩ := h.resynced heq hsync hrec hlive hadded
          hdeleted (hfirst.live index entry.1 hsw hlive)
          (hsecond.live index entry.1 hsw hlive')
        refine ⟨hfile, ?_⟩
        rw [hinstalled]
        exact hmemory
      · cases hpure
    · cases hround

/-- A round that returns reaches the next state, one that is broken off leaves
a half-done one. -/
theorem reconcileSession (hmirror : Mirror w.vpp w.installed.get?)
    (heq : (wantSessions pass.ksessions).items = done ++ entry :: rest)
    (acc : Nat × TunnelsCache) :
    Triple (Reached pass w done acc.2) (reconcileSession cfg pass acc entry)
      (fun acc' => Reached pass w (done ++ [entry]) acc'.2)
      (Halfway pass w) := by
  intro m hm
  obtain ⟨hkey, -⟩ := wantSessions_entry heq
  cases hround : exec (Syncd.reconcileSession cfg pass acc entry) m with
  | mk outcome m' =>
      cases outcome with
      | ok acc' =>
          obtain ⟨htid, htried⟩ := reconcileSession_tried hm.file.store
            hm.cacheTid hkey hround
          obtain ⟨-, ⟨rec, hinstalled⟩, hinterface⟩ :=
            htried.frame hm.file.store hm.cacheTid hkey
          obtain ⟨hhalf, hkept⟩ := hm.halfway_tried hmirror heq htried
          exact hm.next hhalf hkept htid hinstalled hinterface
      | error e => exact hm.halfway_raised hmirror heq hround

end Reached

/-! ## The second loop -/

/-- The stale records of the given ones and of the loop are the same, and each
finds its own session. -/
structure StaleOwn (pass : Pass) (w₁ : World) (records : Records) : Prop where
  same : ∀ key, (wantSessions pass.ksessions).get? key = none →
    w₁.installed.get? key = records key
  own : ∀ key rec, (wantSessions pass.ksessions).get? key = none →
    w₁.installed.get? key = some rec → rec.victim w₁.vpp = some key

section Removing

variable {records : Records} {w₁ m m' : World} {done : List SessionKey}
  {key : SessionKey}

/-- A session that is not stale, or whose turn has not come, is still there. -/
theorem StaleOwn.spared (h : StaleOwn pass w₁ records)
    (hremoved : Removed (wantSessions pass.ksessions) w₁ done m)
    (hkey : ∀ rec, key ∈ done → w₁.installed.get? key = some rec →
      (wantSessions pass.ksessions).get? key ≠ none) :
    interfaceOf m.vpp key = interfaceOf w₁.vpp key := by
  apply hremoved.spared
  intro stale hmem hstale rec hrec hvictim
  rw [h.own stale rec hstale hrec] at hvictim
  cases hvictim
  exact hkey rec hmem hrec hstale

theorem Resumable.removed (h : Resumable pass w₁.vpp records)
    (hown : StaleOwn pass w₁ records)
    (hremoved : Removed (wantSessions pass.ksessions) w₁ done m) :
    Resumable pass m.vpp records where
  store := hremoved.store
  routed := by
    rintro ⟨p, index⟩ hpath
    obtain ⟨owner, howner⟩ := h.routed _ (hremoved.fibShrunk hpath)
    by_cases hgone : ∃ rec, owner ∈ done ∧
        w₁.installed.get? owner = some rec ∧
        (wantSessions pass.ksessions).get? owner = none
    · -- the routes of a deleted session have been deleted before it
      obtain ⟨rec, hdone, hrec, hunwanted⟩ := hgone
      have hrec' := hrec
      rw [hown.same owner hunwanted] at hrec'
      obtain ⟨hsw, hroutes⟩ := h.stale owner rec index hunwanted hrec' howner
      obtain ⟨pfx, hpfx, rfl⟩ := hroutes (hremoved.fibShrunk hpath)
      refine absurd hpath (hremoved.fibTaken owner hdone hunwanted rec index
        hrec hsw (.inr ⟨howner, ?_⟩) pfx hpfx)
      intro other rec' hne hother hrec'' hvictim
      rw [hown.own other rec' hother hrec''] at hvictim
      exact hne (Option.some.inj hvictim)
    · refine ⟨owner, (hown.spared hremoved ?_).trans howner⟩
      intro rec hdone hrec hunwanted
      exact hgone ⟨rec, hdone, hrec, hunwanted⟩
  named := by
    intro other s rec index hs hrec hindex
    obtain ⟨hlive, hbetween⟩ := h.named other s rec index hs hrec hindex
    rw [hown.spared hremoved (by simp [hs])]
    refine ⟨hlive, ?_⟩
    have hover : routesOver m.vpp index = routesOver w₁.vpp index := by
      apply Set.Subset.antisymm
      · intro p hp
        exact hremoved.fibShrunk hp
      · intro p hp
        refine hremoved.fibSpared _ hp ?_
        intro stale _ hstale rec' hrec' hsw
        rw [hown.same stale hstale] at hrec'
        exact absurd hlive (h.apart stale rec' index hstale hrec' hsw other s hs)
    rw [hover]
    exact hbetween
  stale := by
    intro other rec index hunwanted hrec hlive
    obtain ⟨hsw, hroutes⟩ := h.stale other rec index hunwanted hrec
      (hremoved.shrunk other index hlive)
    refine ⟨hsw, ?_⟩
    intro p hp
    exact hroutes (hremoved.fibShrunk hp)
  apart := by
    intro stale rec index hunwanted hrec hsw other s hs hlive
    exact h.apart stale rec index hunwanted hrec hsw other s hs
      (hremoved.shrunk other index hlive)
  victim := by
    intro stale rec hunwanted hrec
    rw [hremoved.sameTids.victim]
    rcases h.victim stale rec hunwanted hrec with hvictim | hnone
    · exact .inl hvictim
    · refine .inr ?_
      intro other hother
      rw [Option.eq_none_iff_forall_ne_some]
      intro index hlive
      have hlive₁ := hremoved.shrunk other index hlive
      rw [hnone other hother] at hlive₁
      contradiction

/-- The record in memory after some keys have been looked at. -/
theorem Resumable.removed_memory (h : Resumable pass w₁.vpp w₁.installed.get?)
    (hown : StaleOwn pass w₁ w₁.installed.get?)
    (hremoved : Removed (wantSessions pass.ksessions) w₁ done m) :
    Resumable pass m.vpp m.installed.get? := by
  refine (h.removed hown hremoved).forget ?_
  intro key
  rw [hremoved.installed]
  split
  · exact .inl rfl
  · exact .inr rfl

/-- A delete that is broken off, from either record. -/
theorem Resumable.delSession_raised {rec : InstalledRec} {index : Nat}
    {e : PyExc} (h : Resumable pass m.vpp records)
    (hunwanted : (wantSessions pass.ksessions).get? key = none)
    (hrec : m.installed.get? key = some rec)
    (hrecords : records key = some rec)
    (hlive : interfaceOf m.vpp key = some index)
    (hvictim : rec.victim m.vpp = some key)
    (hraised : exec (delSession cfg key) m = (.error e, m')) :
    Resumable pass m'.vpp records := by
  obtain ⟨hsw, hroutes⟩ := h.stale key rec index hunwanted hrecords hlive
  have hstep : ∀ {deleted : List IpPrefix} {routed : World},
      RoutesTried false rec.swIfIndex deleted m routed →
      Resumable pass routed.vpp records ∧
        routesOver routed.vpp index =
          routesOver m.vpp index \ prefixSet deleted := by
    intro deleted routed htried
    have hchanged := htried.live index key hsw hlive
    refine ⟨h.overChanged htried.sameStore hlive
      (fun _ hother => hchanged.over_other hother) ?_ ?_, hchanged.over_own⟩
    · intro s _ hs
      rw [hunwanted] at hs
      contradiction
    · intro _
      rw [hchanged.over_own]
      exact Set.sdiff_subset
  obtain ⟨-, ⟨deleted, -, htried⟩ | ⟨routed, htried, rfl⟩⟩ :=
    Syncd.delSession_raised h.store hrec hraised
  · exact (hstep htried).1
  · obtain ⟨hresumable, hover⟩ := hstep htried
    obtain ⟨hstore', htids, hfib, hinterface⟩ :=
      handle_sessionDel (P := cfg.policies) hresumable.store rec
    have hsame := htried.sameStore
    rw [(sameTids_of_sameStore hsame).victim, hvictim] at hinterface
    refine hresumable.sessionDeleted hstore' hunwanted ?_ ?_ hfib htids
    · intro other
      refine (hinterface other).trans (if_congr ?_ rfl rfl)
      rw [Option.some.injEq]
      exact eq_comm
    · intro index' hindex
      rw [interfaceOf_sameStore hsame, hlive] at hindex
      cases hindex
      rw [hover, Set.sdiff_eq_empty]
      exact hroutes

end Removing

section Ending

variable {cache : TunnelsCache} {w₁ m : World} {done : List SessionKey}
  {key : SessionKey}

/-- What the second loop starts from. -/
theorem Reached.staleOwn
    (h : Reached pass w (wantSessions pass.ksessions).items cache w₁)
    (hmirror : Mirror w.vpp w.installed.get?) :
    StaleOwn pass w₁ w.installed.get? := by
  have hsame : ∀ key, (wantSessions pass.ksessions).get? key = none →
      w₁.installed.get? key = w.installed.get? key := fun key hunwanted =>
    (h.untouched key ((Dict.get?_eq_none _).mp hunwanted)).2
  refine ⟨hsame, ?_⟩
  intro key rec hunwanted hrec
  rw [hsame key hunwanted] at hrec
  exact hmirror.victim hrec h.tunnels

theorem Reached.removed
    (h : Reached pass w (wantSessions pass.ksessions).items cache w₁)
    (hmirror : Mirror w.vpp w.installed.get?)
    (hremoved : Removed (wantSessions pass.ksessions) w₁ done m) :
    Halfway pass w m := by
  have hown := h.staleOwn hmirror
  exact ⟨h.file.removed hown hremoved,
    h.memory.removed_memory ⟨fun _ _ => rfl, hown.own⟩ hremoved⟩

theorem Reached.delSession_raised
    (h : Reached pass w (wantSessions pass.ksessions).items cache w₁)
    (hmirror : Mirror w.vpp w.installed.get?) {rest : List SessionKey}
    (heq : w₁.installed.keys = done ++ key :: rest)
    (hunwanted : (wantSessions pass.ksessions).get? key = none)
    (hremoved : Removed (wantSessions pass.ksessions) w₁ done m) {e : PyExc}
    (hdel : exec (delSession cfg key) m = (.error e, w')) :
    Halfway pass w w' := by
  obtain ⟨hnew, rec, hrec⟩ := keys_entry heq
  have hown := h.staleOwn hmirror
  have hmemory : m.installed.get? key = some rec := by
    rw [hremoved.installed, if_neg (fun hmem => hnew hmem.1), hrec]
  have hfile : w.installed.get? key = some rec := by
    rw [← hown.same key hunwanted, hrec]
  obtain ⟨index, -, hlive⟩ := hmirror.named hfile
  have hlive' : interfaceOf m.vpp key = some index := by
    rw [hown.spared hremoved (fun _ hdone => absurd hdone hnew),
      (h.untouched key ((Dict.get?_eq_none _).mp hunwanted)).1, hlive]
  have hvictim : rec.victim m.vpp = some key := by
    rw [hremoved.sameTids.victim]
    exact hown.own key rec hunwanted hrec
  have hhalf := h.removed hmirror hremoved
  refine ⟨hhalf.file.delSession_raised hunwanted hmemory hfile hlive' hvictim
    hdel, ?_⟩
  rw [(Syncd.delSession_raised hremoved.store hmemory hdel).1]
  exact hhalf.memory.delSession_raised hunwanted hmemory hmemory hlive' hvictim
    hdel

theorem Reached.removeSession
    (h : Reached pass w (wantSessions pass.ksessions).items cache w₁)
    (hmirror : Mirror w.vpp w.installed.get?) {rest : List SessionKey}
    (heq : w₁.installed.keys = done ++ key :: rest) (removed : Nat) :
    Triple (Removed (wantSessions pass.ksessions) w₁ done)
      (removeSession cfg (wantSessions pass.ksessions) removed key)
      (fun _ => Removed (wantSessions pass.ksessions) w₁ (done ++ [key]))
      (Halfway pass w) := by
  intro m hm
  cases hround : exec (Syncd.removeSession cfg
      (wantSessions pass.ksessions) removed key) m with
  | mk outcome m' =>
      cases outcome with
      | ok removed' => exact hm.removeSession heq hround
      | error e =>
          rw [Syncd.removeSession] at hround
          split at hround
          · rename_i hgone
            rw [Option.isNone_iff_eq_none] at hgone
            rcases exec_bind_error.mp hround with hdel | ⟨_, _, -, hpure⟩
            · exact h.delSession_raised hmirror heq hgone hm hdel
            · cases hpure
          · cases hround

/-- After the second loop no unwanted session is left. -/
theorem Reached.unwanted_gone
    (h : Reached pass w (wantSessions pass.ksessions).items cache w₁)
    (hmirror : Mirror w.vpp w.installed.get?)
    (hremoved : Removed (wantSessions pass.ksessions) w₁ w₁.installed.keys m)
    (hunwanted : (wantSessions pass.ksessions).get? key = none) :
    interfaceOf m.vpp key = none := by
  have hown := h.staleOwn hmirror
  rw [Option.eq_none_iff_forall_ne_some]
  intro index hlive
  have hbefore := hremoved.shrunk key index hlive
  rw [(h.untouched key ((Dict.get?_eq_none _).mp hunwanted)).1] at hbefore
  cases hrec : w.installed.get? key with
  | none =>
      rw [hmirror.interfaceOf_none hrec] at hbefore
      contradiction
  | some rec =>
      rw [← hown.same key hunwanted] at hrec
      rw [hremoved.taken key ((Dict.mem_keys _).mpr ⟨rec, hrec⟩) hunwanted rec
        key hrec (hown.own key rec hunwanted hrec)] at hlive
      contradiction

theorem Reached.pruneTunnels
    (h : Reached pass w (wantSessions pass.ksessions).items cache w₁)
    (hmirror : Mirror w.vpp w.installed.get?) :
    Triple (Removed (wantSessions pass.ksessions) w₁ w₁.installed.keys)
      (pruneTunnels cfg) (fun _ _ => True) (Halfway pass w) := by
  intro m hm
  refine (pruneTunnels_triple m).conseq (fun _ hframe => hframe)
    (fun _ _ _ => trivial) ?_ m ⟨hm.store, rfl, rfl, rfl⟩
  intro m' hframe
  have hhalf := h.removed hmirror hm
  have hgone : ∀ other, (wantSessions pass.ksessions).get? other = none →
      interfaceOf m.vpp other = none :=
    fun other hunwanted => h.unwanted_gone hmirror hm hunwanted
  exact hhalf.sameSessions hframe.installed hframe.store hframe.interface
    hframe.fib (.inr hgone)

end Ending

/-- Wherever a pass is broken off, what it leaves is half done. -/
theorem reconcile_halfway (hmirror : Mirror w.vpp w.installed.get?) :
    Triple (fun now => now = w) (reconcile cfg pass) (fun _ _ => True)
      (Halfway pass w) := by
  have hstart : Halfway pass w w := ⟨hmirror.resumable, hmirror.resumable⟩
  have hcall : Triple (fun now => now = w) (callApi cfg .tunnelDump)
      (fun reply now => reply = (handle cfg.policies w.vpp .tunnelDump).1 ∧
        now = w.logged cfg .tunnelDump) (Halfway pass w) := by
    refine callApi_triple ?_ ?_
    · rintro now rfl
      exact ⟨rfl, rfl⟩
    · rintro now rfl
      exact ⟨hstart, hstart.file, hstart.memory⟩
  have hdump : Triple (fun now => now = w) (vppTunnels cfg)
      (Reached pass w []) (Halfway pass w) := by
    refine hcall.bind fun reply => .ret ?_
    rintro now ⟨rfl, rfl⟩
    exact Reached.start hmirror
  refine hdump.bind fun cache => ?_
  refine (Triple.foldlM (fun done acc => Reached pass w done acc.2)
    (fun done entry rest heq acc => Reached.reconcileSession hmirror heq acc)
    (0, cache)).bind fun acc => .read fun w₁ hreached => ?_
  have hloop : Triple (fun now => now = w₁)
      (w₁.installed.keys.foldlM
        (removeSession cfg (wantSessions pass.ksessions)) 0)
      (fun _ => Removed (wantSessions pass.ksessions) w₁ w₁.installed.keys)
      (Halfway pass w) := by
    refine (Triple.foldlM
      (fun done _ => Removed (wantSessions pass.ksessions) w₁ done)
      (fun done key rest heq removed =>
        hreached.removeSession hmirror heq removed) 0).conseq ?_
      (fun _ _ hm => hm) (fun _ hm => hm)
    rintro now rfl
    exact Removed.start hreached.file.store
  refine hloop.bind fun removed => ?_
  dsimp only
  split
  · exact (hreached.pruneTunnels hmirror).bind fun _ =>
      saveState_triple _ fun _ _ => trivial
  · exact saveState_triple _ fun _ _ => trivial

end L2tvpp.Syncd
