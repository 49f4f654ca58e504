import L2tvpp.Syncd.Restart

/-!
# Exactly when the daemon recovers

A collision between the state file and the list is never made good in the same
pass: what was not added stays away, and what a stale record has deleted is not
added again.
-/

namespace L2tvpp.Syncd

open L2tvpp.Lib L2tvpp.Plugin

variable {cfg : Config} {w w' : World} {v v' v'' : Vpp}

/-! ## Calls that add nothing -/

def ApiCall.adds : ApiCall → Bool
  | .sessionAddDel isAdd .. => isAdd
  | .routeAddDel isAdd .. => isAdd
  | _ => false

/-- The sessions and routes of the later state were there before. -/
structure Shrunk (v v' : Vpp) : Prop where
  session : ∀ {index : Nat} {sess : L2tvppSession},
    v'.lm.sessions.elt? index = some sess →
    ∃ csum, v.lm.sessions.elt? index =
      some { sess with encapIpCsum0 := csum }
  fib : v'.fib ⊆ v.fib

namespace Shrunk

theorem of_sessions (hsessions : v'.lm.sessions = v.lm.sessions)
    (hfib : v'.fib = v.fib) : Shrunk v v' where
  session := by
    intro index sess hsess
    rw [hsessions] at hsess
    exact ⟨sess.encapIpCsum0, hsess⟩
  fib := hfib.subset

theorem refl (v : Vpp) : Shrunk v v := of_sessions rfl rfl

theorem trans (h : Shrunk v v') (h' : Shrunk v' v'') : Shrunk v v'' where
  session := by
    intro index sess hsess
    obtain ⟨_, hsess'⟩ := h'.session hsess
    obtain ⟨csum, hsess''⟩ := h.session hsess'
    exact ⟨csum, hsess''⟩
  fib := h'.fib.trans h.fib

theorem live (h : Shrunk v v') {key : SessionKey}
    (hlive : SessionLive v' key) : SessionLive v key := by
  obtain ⟨index, sess, hsess, hids⟩ := hlive
  obtain ⟨csum, hsess'⟩ := h.session hsess
  exact ⟨index, _, hsess', hids⟩

theorem handle {P : Policies} {call : ApiCall} (hcall : call.adds = false) :
    Shrunk v (handle P v call).2 := by
  cases handleStep_handle P v call with
  | same hv' =>
      rw [hv']
      exact refl v
  | tunnelAdd hfind hv' =>
      rw [hv']
      exact of_sessions rfl rfl
  | tunnelDel hv' =>
      rw [hv']
      exact of_sessions rfl rfl
  | sessionAdd hcall' hkey hv' =>
      rw [hcall'] at hcall
      contradiction
  | sessionDel hcall' hkey hsess hv' =>
      rw [hv']
      constructor
      · intro other sess' hsess'
        rw [sessionDel_sessions] at hsess'
        split at hsess'
        · contradiction
        · exact ⟨sess'.encapIpCsum0, hsess'⟩
      · simp [Vpp.sessionDel, removeDelegates]
  | @route isAdd pfx swIfIndex hcall' hroute =>
      cases isAdd with
      | true =>
          rw [hcall'] at hcall
          contradiction
      | false =>
          constructor
          · intro other sess hsess
            exact (sameStore_l2tvppRouteAddDel hroute).session hsess
          · obtain ⟨-, hfib, -⟩ := l2tvppRouteAddDel_ok hroute
            rw [hfib, if_neg Bool.false_ne_true]
            exact Finset.erase_subset ..

/-! The second loop and the pruning add nothing. -/

theorem callApi {call : ApiCall} (hcall : call.adds = false) :
    Preserves (fun w => Shrunk v w.vpp) (callApi cfg call) := by
  intro w reply w' hexec hw
  rw [(callApi_ok hexec).2]
  exact hw.trans (handle hcall)

theorem delSession (key : SessionKey) :
    Preserves (fun w => Shrunk v w.vpp) (delSession cfg key) := by
  refine .read fun w => ?_
  split
  · exact .raise _
  · refine .bind (.forM (fun pfx => ?_) _) fun _ => ?_
    · exact .bind (callApi rfl) fun _ => .ret _
    · exact .bind (callApi rfl) fun _ => .read fun _ =>
        preserves_setInstalled _

theorem removeSession (want : Dict SessionKey KSession) (removed : Nat)
    (key : SessionKey) :
    Preserves (fun w => Shrunk v w.vpp)
      (removeSession cfg want removed key) := by
  unfold Syncd.removeSession
  split
  · exact .bind (delSession key) fun _ => .ret _
  · exact .ret _

theorem pruneTunnels :
    Preserves (fun w => Shrunk v w.vpp) (pruneTunnels cfg) := by
  refine .bind (callApi rfl) fun reply => ?_
  refine .bind (.bind (callApi rfl) fun _ => .ret _) fun tunnels => ?_
  refine .forM (fun entry => ?_) _
  split
  · exact .ret _
  · exact .bind (callApi rfl) fun _ => .ret _

end Shrunk

/-! ## A session that was not added -/

/-- Where the cache has an index, it is of a live tunnel with its tunnel id. -/
def CacheTid (v : Vpp) (cache : TunnelsCache) : Prop :=
  ∀ key index, cache.get? key = some (some index) →
    ∃ t, v.lm.tunnels.elt? index = some t ∧ t.localTid = key.2.2

theorem CacheSound.cacheTid {cache : TunnelsCache} (h : CacheSound v cache) :
    CacheTid v cache := by
  intro key index hget
  obtain ⟨_, t, hindex, ht, -, -, htid⟩ := h key _ hget
  cases hindex
  exact ⟨t, ht, htid⟩

theorem CacheTid.kept {cache : TunnelsCache} (h : CacheTid v cache)
    (hkept : TunnelsKept v v') : CacheTid v' cache := by
  intro key index hget
  obtain ⟨t, ht, htid⟩ := h key index hget
  obtain ⟨n, ht'⟩ := hkept index t ht
  exact ⟨_, ht', htid⟩

theorem sameStore_syncRoutes (pppRoutes : PppRoutes) (s : KSession) :
    Preserves (fun w => SameStore v w.vpp) (syncRoutes cfg pppRoutes s) := by
  refine .read fun w => ?_
  split
  · exact .raise _
  · refine (sameStore_routes _ _ true).bind fun _ => ?_
    refine (sameStore_routes _ _ false).bind fun _ => ?_
    split
    · exact .read fun _ => preserves_setInstalled _
    · exact .ret _

section NotAdded

variable {pppRoutes : PppRoutes} {s : KSession} {cache cache' : TunnelsCache}
  {tunnelIndex : Option Nat}

theorem ensureTunnel_cacheTid (hcache : CacheTid w.vpp cache)
    (h : exec (ensureTunnel cfg s cache) w = (.ok (tunnelIndex, cache'), w')) :
    CacheTid w'.vpp cache' ∧ cache'.get? s.tunnelKey = some tunnelIndex ∧
      w'.vpp.lm.sessions = w.vpp.lm.sessions ∧
      (tunnelIndex ≠ none → cache.get? s.tunnelKey = none →
        ip4Endpoints cfg s = true ∧
        l2tvppTunnelFind w.vpp.lm s.peerIp.decode s.peerPort s.localTid =
          none) := by
  rcases ensureTunnel_run h with ⟨hget, rfl, rfl⟩ |
    ⟨localIp, localPort, hget, hlocal, rfl, rfl, rfl⟩
  · refine ⟨hcache, hget, rfl, ?_⟩
    intro _ hnone
    rw [hget] at hnone
    contradiction
  · have hself : ∀ index : Option Nat,
        (cache.set s.tunnelKey index).get? s.tunnelKey = some index := by
      intro index
      rw [Dict.get?_set, if_pos rfl]
    cases hok : (handle cfg.policies w.vpp
        (s.tunnelCall localIp localPort)).1.ok with
    | false =>
        simp only [World.logged, handle_rejected hok,
          (handle_not_ok hok).1]
        refine ⟨?_, hself none, trivial, fun hne => absurd rfl hne⟩
        intro key index hentry
        rw [Dict.get?_set] at hentry
        split at hentry
        · cases hentry
        · exact hcache key index hentry
    | true =>
        obtain ⟨⟨hip, hpeer, hfind⟩, hhandle⟩ := tunnelAdd_accepted hok
        simp only [World.logged, KSession.tunnelCall, hhandle]
        refine ⟨?_, hself _, rfl, ?_⟩
        · intro key index hentry
          rw [Dict.get?_set] at hentry
          split at hentry
          · rename_i hkey
            subst hkey
            cases hentry
            exact ⟨_, Pool.elt?_get_nextIndex _ w.vpp.lm.tunnels _, rfl⟩
          · exact hcache.kept tunnelsKept_tunnelAdd key index hentry
        · intro _ _
          rw [ip4Endpoints, hlocal]
          exact ⟨by simp [hip, hpeer], hfind⟩

/-- A session that is there after `add_session` was there before or is the one
that was asked for, with a tunnel that could be added. -/
theorem addSession_live (hcache : CacheTid w.vpp cache)
    (h : exec (addSession cfg pppRoutes s cache) w = (.ok cache', w')) :
    CacheTid w'.vpp cache' ∧ ∀ key, SessionLive w'.vpp key →
      SessionLive w.vpp key ∨ key = s.sessionKey ∧
        (cache.get? s.tunnelKey = none → ip4Endpoints cfg s = true ∧
          l2tvppTunnelFind w.vpp.lm s.peerIp.decode s.peerPort s.localTid =
            none) := by
  obtain ⟨tunnelIndex, middle, swIfIndex, routed, hensure, -, hforM, rfl⟩ :=
    addSession_run h
  obtain ⟨hcache', hget, hsessions, hopen⟩ :=
    ensureTunnel_cacheTid hcache hensure
  have hrouted : SameStore
      (middle.logged cfg (s.sessionCall tunnelIndex)).vpp routed.vpp :=
    sameStore_routes _ _ true _ _ _ hforM (SameStore.refl _)
  have hbefore : ∀ key, SessionLive middle.vpp key →
      SessionLive w.vpp key := by
    rintro key ⟨index, sess, hsess, hids⟩
    rw [hsessions] at hsess
    exact ⟨index, sess, hsess, hids⟩
  cases hok : (handle cfg.policies middle.vpp
      (s.sessionCall tunnelIndex)).1.ok with
  | false =>
      simp only [World.logged, handle_rejected hok] at hrouted
      refine ⟨hcache'.kept (tunnelsKept_of_sameStore hrouted), ?_⟩
      intro key hlive
      exact .inl (hbefore key (hlive.sameStore hrouted.symm))
  | true =>
      obtain ⟨index, t, rfl, ht, -, hhandle⟩ := sessionAdd_accepted hok
      simp only [World.logged, KSession.sessionCall, hhandle] at hrouted
      refine ⟨hcache'.kept (tunnelsKept_sessionAdd.trans
        (tunnelsKept_of_sameStore hrouted)), ?_⟩
      intro key hlive
      obtain ⟨i, sess, hsess, rfl⟩ := hlive.sameStore hrouted.symm
      rw [sessionAdd_sessions] at hsess
      split at hsess
      · cases hsess
        obtain ⟨t', ht', htid⟩ := hcache' _ index hget
        rw [ht] at ht'
        cases ht'
        refine .inr ⟨?_, hopen (by simp)⟩
        exact Prod.ext htid rfl
      · exact .inl (hbefore _ ⟨i, sess, hsess, rfl⟩)

end NotAdded

structure Missing (key : SessionKey) (cache : TunnelsCache) (w : World) :
    Prop where
  absent : ¬ SessionLive w.vpp key
  cacheTid : CacheTid w.vpp cache

theorem Missing.reconcileSession {pass : Pass} {key : SessionKey}
    {entry : SessionKey × KSession} {acc acc' : Nat × TunnelsCache}
    (h : Missing key acc.2 w) (hkey : entry.1 = entry.2.sessionKey)
    (hother : entry.1 ≠ key ∨ ∃ rec, w.installed.get? entry.1 = some rec)
    (hround : exec (reconcileSession cfg pass acc entry) w = (.ok acc', w')) :
    Missing key acc'.2 w' := by
  rw [Syncd.reconcileSession, exec_get_bind] at hround
  split at hround
  · rename_i hnew
    obtain ⟨cache, added, hadd, hpure⟩ := exec_bind_ok.mp hround
    cases hpure
    obtain ⟨hcache, hlive⟩ := addSession_live h.cacheTid hadd
    refine ⟨?_, hcache⟩
    intro hkeyLive
    rcases hlive key hkeyLive with hold | ⟨heq, -⟩
    · exact h.absent hold
    · rcases hother with hne | ⟨rec, hrec⟩
      · exact hne (hkey.trans heq.symm)
      · simp [hrec] at hnew
  · have hsame : SameStore w.vpp w'.vpp ∧ acc' = acc := by
      split at hround
      · obtain ⟨_, synced, hsync, hpure⟩ := exec_bind_ok.mp hround
        cases hpure
        exact ⟨sameStore_syncRoutes _ _ _ _ _ hsync (SameStore.refl _), rfl⟩
      · cases hround
        exact ⟨SameStore.refl _, rfl⟩
    rw [hsame.2]
    exact ⟨fun hlive => h.absent (hlive.sameStore hsame.1.symm),
      h.cacheTid.kept (tunnelsKept_of_sameStore hsame.1)⟩

/-! ## The first loop -/

section Attempted

variable {pass : Pass} {stateFile : InstalledDict} {others : Nat}
  {done : List (SessionKey × KSession)} {cache : TunnelsCache}
  {entry : SessionKey × KSession}

theorem Recovering.addable {s : KSession}
    (h : Recovering pass stateFile others done cache w)
    (haddable : tunnelsAddable cfg (tunnelOpeners (done.map Prod.snd)) = true)
    (hopen : cache.get? s.tunnelKey = none → ip4Endpoints cfg s = true ∧
      l2tvppTunnelFind w.vpp.lm s.peerIp.decode s.peerPort s.localTid = none) :
    tunnelsAddable cfg (tunnelOpeners (done.map Prod.snd ++ [s])) = true := by
  rw [tunnelOpeners_append]
  split
  · exact haddable
  · rename_i hnew
    obtain ⟨hip4, hfind⟩ := hopen
      ((h.opened.cached s.tunnelKey).mpr (by simpa using hnew))
    rw [tunnelsAddable, Bool.and_eq_true, List.all_eq_true,
      decide_eq_true_eq] at haddable ⊢
    constructor
    · intro o ho
      rcases List.mem_append.mp ho with ho | ho
      · exact haddable.1 o ho
      · rw [List.mem_singleton.mp ho]
        exact hip4
    · rw [List.pairwise_append]
      refine ⟨haddable.2, List.pairwise_singleton .., ?_⟩
      intro o ho s' hs'
      rw [List.mem_singleton.mp hs', ← Bool.not_eq_true]
      intro hsame
      obtain ⟨index, hindex⟩ := List.mem_iff_getElem?.mp ho
      obtain ⟨hlt, -⟩ := List.getElem?_eq_some_iff.mp hindex
      obtain ⟨t, ht⟩ := h.opened.packed.live hlt
      obtain ⟨o', ho', hmatches⟩ := h.opened.opener ht
      rw [hindex] at ho'
      cases ho'
      obtain ⟨hpeer, hport, htid⟩ := (sameTunnel_iff hmatches).mp hsame
      exact l2tvppTunnelFind_none hfind ht ⟨htid, hport, hpeer⟩

theorem Recovering.absent (h : Recovering pass stateFile others done cache w)
    {key : SessionKey} (hnew : key ∉ done.map Prod.fst) :
    ¬ SessionLive w.vpp key := by
  rintro ⟨index, sess, hsess, rfl⟩
  obtain ⟨rec, hrec⟩ := h.mirror.recorded hsess
  rw [recovered, if_neg hnew] at hrec
  contradiction

/-- Either all has gone well so far, or some session is missing. -/
def Attempted (cfg : Config) (pass : Pass) (stateFile : InstalledDict)
    (others : Nat) (done : List (SessionKey × KSession)) (cache : TunnelsCache)
    (w : World) : Prop :=
  (Recovering pass stateFile others done cache w ∧
    (∀ key ∈ done.map Prod.fst, stateFile.get? key = none) ∧
    tunnelsAddable cfg (tunnelOpeners (done.map Prod.snd)) = true) ∨
  ∃ key ∈ done.map Prod.fst, Missing key cache w

theorem Attempted.step {acc acc' : Nat × TunnelsCache}
    (h : Attempted cfg pass stateFile others done acc.2 w)
    (hkey : entry.1 = entry.2.sessionKey) (hnew : entry.1 ∉ done.map Prod.fst)
    (hround : exec (reconcileSession cfg pass acc entry) w = (.ok acc', w')) :
    Attempted cfg pass stateFile others (done ++ [entry]) acc'.2 w' := by
  have hmem : entry.1 ∈ (done ++ [entry]).map Prod.fst := by simp
  rcases h with ⟨hrecovering, hfile, haddable⟩ | ⟨key, hdone, hmissing⟩
  · have hmissing : Missing entry.1 acc.2 w :=
      ⟨hrecovering.absent hnew, hrecovering.cacheSound.cacheTid⟩
    cases hentry : stateFile.get? entry.1 with
    | some rec =>
        -- the stale record makes the daemon skip the entry
        have hrec := (hrecovering.untouched _ hnew).trans hentry
        exact .inr ⟨entry.1, hmem,
          hmissing.reconcileSession hkey (.inr ⟨rec, hrec⟩) hround⟩
    | none =>
        by_cases hnext : tunnelsAddable cfg
            (tunnelOpeners (done.map Prod.snd ++ [entry.2])) = true
        · refine .inl ⟨hrecovering.step hkey hnew hentry hnext hround, ?_, ?_⟩
          · intro key hkey'
            rw [List.map_append, List.mem_append] at hkey'
            rcases hkey' with hkey' | hkey'
            · exact hfile key hkey'
            · rw [List.mem_singleton.mp hkey']
              exact hentry
          · rw [List.map_append]
            exact hnext
        · -- the plugin rejects the tunnel and with it the session
          have hnone := (hrecovering.untouched _ hnew).trans hentry
          rw [reconcileSession, exec_get_bind, if_pos (by simp [hnone])]
            at hround
          obtain ⟨cache', added, hadd, hpure⟩ := exec_bind_ok.mp hround
          cases hpure
          obtain ⟨hcache, hlive⟩ := addSession_live hmissing.cacheTid hadd
          refine .inr ⟨entry.1, hmem, ?_, hcache⟩
          intro hentryLive
          rcases hlive _ hentryLive with hold | ⟨-, hopen⟩
          · exact hmissing.absent hold
          · exact hnext (hrecovering.addable haddable hopen)
  · refine .inr ⟨key, ?_, hmissing.reconcileSession hkey (.inl ?_) hround⟩
    · rw [List.map_append]
      exact List.mem_append_left _ hdone
    · rintro rfl
      exact hnew hdone

theorem Attempted.run {acc : Nat × TunnelsCache}
    (h : Recovering pass stateFile others [] cache w)
    (hrun : exec ((wantSessions pass.ksessions).items.foldlM
      (reconcileSession cfg pass) (0, cache)) w = (.ok acc, w')) :
    Attempted cfg pass stateFile others (wantSessions pass.ksessions).items
      acc.2 w' := by
  refine exec_foldlM_invariant
    (fun done acc m => Attempted cfg pass stateFile others done acc.2 m) ?_
    (.inl ⟨h, by simp, rfl⟩) hrun
  intro done entry rest heq acc m acc' m' hm hround
  obtain ⟨hkey, hnew⟩ := wantSessions_entry heq
  exact hm.step hkey hnew hround

end Attempted

/-! ## The second loop -/

/-- What the delete for a record leaves behind: no session with the ids it
looks up, and none of its routes on a session. -/
structure Taken (v₁ : Vpp) (rec : InstalledRec) (v : Vpp) : Prop where
  session : ∀ {tunnelIndex : Nat} {t : L2tvppTunnel},
    rec.tunnelIndex = some tunnelIndex →
    v₁.lm.tunnels.elt? tunnelIndex = some t →
    ¬ SessionLive v (t.localTid, rec.localSid)
  routes : ∀ {index : Nat} {sess : L2tvppSession},
    v.lm.sessions.elt? index = some sess →
    rec.swIfIndex = some sess.swIfIndex → ∀ pfx ∈ rec.routes,
      (pfx.decode, sess.swIfIndex) ∉ v.fib

theorem Taken.shrunk {v₁ : Vpp} {rec : InstalledRec} (h : Taken v₁ rec v)
    (hshrunk : Shrunk v v') : Taken v₁ rec v' where
  session := fun htunnel ht hlive => h.session htunnel ht (hshrunk.live hlive)
  routes := by
    intro index sess hsess hsw pfx hpfx hmem
    obtain ⟨csum, hsess'⟩ := hshrunk.session hsess
    exact h.routes hsess' hsw pfx hpfx (hshrunk.fib hmem)

theorem forM_routeDel_gone {pfxs : List IpPrefix} {swIfIndex index : Nat}
    (hlive : w.vpp.lm.sessionIndexOf swIfIndex = some index)
    (h : exec (pfxs.forM fun pfx => route cfg pfx (some swIfIndex) false) w =
      (.ok (), w')) :
    ∀ pfx ∈ pfxs, (pfx.decode, swIfIndex) ∉ w'.vpp.fib := by
  refine (exec_forM_invariant (fun done m =>
    m.vpp.lm.sessionIndexOf swIfIndex = some index ∧
      ∀ pfx ∈ done, (pfx.decode, swIfIndex) ∉ m.vpp.fib) ?_
    ⟨hlive, by simp⟩ h).2
  rintro done p rest - m m' ⟨hlive, hgone⟩ hround
  obtain rfl := route_run hround
  have haccepts : (handle cfg.policies m.vpp
      (.routeAddDel false p (some swIfIndex))).1.ok = true :=
    routeAddDel_accepts hlive
  obtain ⟨_, heq, hroute⟩ := routeAddDel_accepted haccepts
  cases heq
  obtain ⟨-, hfib, -⟩ := l2tvppRouteAddDel_ok hroute
  rw [if_neg Bool.false_ne_true, IpPrefix.key_decode] at hfib
  refine ⟨((sameStore_l2tvppRouteAddDel hroute).sessionIndexOf _).trans hlive,
    ?_⟩
  intro pfx hpfx
  simp only [World.logged, hfib, Finset.mem_erase, not_and]
  intro hne
  rcases List.mem_append.mp hpfx with hpfx | hpfx
  · exact hgone pfx hpfx
  · rw [List.mem_singleton.mp hpfx] at hne
    exact absurd rfl hne

structure Deleting (want : Dict SessionKey KSession) (w₁ : World)
    (done : List SessionKey) (w : World) : Prop where
  shrunk : Shrunk w₁.vpp w.vpp
  store : StoreInv w.vpp
  tunnels : TunnelsKept w₁.vpp w.vpp
  untouched : ∀ key, key ∉ done →
    w.installed.get? key = w₁.installed.get? key
  taken : ∀ key ∈ done, want.get? key = none → ∀ rec,
    w₁.installed.get? key = some rec → Taken w₁.vpp rec w.vpp

theorem tunnelsKept_sessionDel {tunnelIndex index : Nat} {key : U64}
    {sess : L2tvppSession} :
    TunnelsKept v (v.sessionDel tunnelIndex key index sess) := by
  intro other t ht
  rw [sessionDel_tunnels, ht]
  split
  · exact ⟨_, rfl⟩
  · exact ⟨_, rfl⟩

theorem sessionDel_gone {tunnelIndex : Option Nat} {localSid peerSid : U16}
    {acfc pfc : Bool} (hstore : StoreInv v) :
    let v' := (handle cfg.policies v (.sessionAddDel false tunnelIndex localSid
      peerSid acfc pfc)).2
    StoreInv v' ∧ TunnelsKept v v' ∧
      ∀ index t, tunnelIndex = some index →
        v.lm.tunnels.elt? index = some t →
        ¬ SessionLive v' (t.localTid, localSid) := by
  intro v'
  cases hok : (handle cfg.policies v (.sessionAddDel false tunnelIndex localSid
      peerSid acfc pfc)).1.ok with
  | false =>
      have hv' : v' = v := handle_rejected hok
      rw [hv']
      refine ⟨hstore, tunnelsKept_of_sameStore (SameStore.refl v), ?_⟩
      rintro index t rfl ht ⟨i, sess, hsess, hids⟩
      have hfind := hstore.byKey.find hsess
      obtain ⟨htid, hsid⟩ := Prod.mk.inj hids
      rw [L2tvppSession.key, htid, hsid] at hfind
      rw [sessionDel_accepts ht hfind hsess] at hok
      contradiction
  | true =>
      obtain ⟨tunnel, t, i, sess, rfl, ht, hkey, hsess, hhandle⟩ :=
        sessionDel_accepted hok
      have hv' : v' = v.sessionDel tunnel
        (l2tvppSessionKey t.localTid localSid) i sess := hhandle
      rw [hv']
      refine ⟨hstore.sessionDel hkey hsess, tunnelsKept_sessionDel, ?_⟩
      rintro index t' heq ht' ⟨j, sess', hsess', hids⟩
      cases heq
      rw [ht] at ht'
      cases ht'
      rw [sessionDel_sessions] at hsess'
      split at hsess'
      · contradiction
      · rename_i hne
        have hfind := hstore.byKey.find hsess'
        obtain ⟨htid, hsid⟩ := Prod.mk.inj hids
        rw [L2tvppSession.key, htid, hsid, hkey] at hfind
        exact hne (Option.some.inj hfind).symm

section Deleting

variable {want : Dict SessionKey KSession} {w₁ : World}
  {done : List SessionKey} {key : SessionKey}

theorem Deleting.delSession (h : Deleting want w₁ done w)
    (hnew : key ∉ done)
    (hdel : exec (delSession cfg key) w = (.ok (), w')) :
    Deleting want w₁ (done ++ [key]) w' := by
  have hshrunk : Shrunk w.vpp w'.vpp :=
    Shrunk.delSession key _ _ _ hdel (Shrunk.refl _)
  obtain ⟨rec, routed, hrec, hforM, rfl⟩ := delSession_run hdel
  have hrouted : SameStore w.vpp routed.vpp :=
    sameStore_routes _ _ false _ _ _ hforM (SameStore.refl _)
  have hdeleted : Shrunk routed.vpp (handle cfg.policies routed.vpp
      (.sessionAddDel false rec.tunnelIndex rec.localSid rec.peerSid false
        false)).2 := Shrunk.handle rfl
  obtain ⟨hstore, htunnels, hgone⟩ :=
    sessionDel_gone (h.store.of_sameStore hrouted)
  have htaken : Taken w₁.vpp rec (handle cfg.policies routed.vpp
      (.sessionAddDel false rec.tunnelIndex rec.localSid rec.peerSid false
        false)).2 := by
    constructor
    · intro tunnelIndex t htunnel ht
      obtain ⟨n, ht'⟩ := h.tunnels tunnelIndex t ht
      rw [← hrouted.tunnels] at ht'
      have hnone := hgone tunnelIndex _ htunnel ht'
      exact hnone
    · intro index sess hsess hsw pfx hpfx hmem
      obtain ⟨_, hsess'⟩ := hdeleted.session hsess
      obtain ⟨_, hsess''⟩ := hrouted.session hsess'
      rw [hsw] at hforM
      exact forM_routeDel_gone (h.store.bySwIfIndex.find hsess'') hforM pfx
        hpfx (hdeleted.fib hmem)
  refine ⟨h.shrunk.trans hshrunk, hstore,
    (h.tunnels.trans (tunnelsKept_of_sameStore hrouted)).trans htunnels, ?_, ?_⟩
  · intro other hother
    rw [List.mem_append, not_or] at hother
    rw [Dict.get?_erase, if_neg (by simpa using hother.2),
      (forM_routeDel_run hforM).1]
    exact h.untouched other hother.1
  · intro other hother hgone' rec' hrec'
    rcases List.mem_append.mp hother with hother | hother
    · exact (h.taken other hother hgone' rec' hrec').shrunk hshrunk
    · rw [List.mem_singleton.mp hother, ← h.untouched key hnew, hrec] at hrec'
      cases hrec'
      exact htaken

theorem Deleting.run {removed : Nat} (hstore : StoreInv w₁.vpp)
    (hrun : exec (w₁.installed.keys.foldlM (removeSession cfg want) 0) w₁ =
      (.ok removed, w')) : Deleting want w₁ w₁.installed.keys w' := by
  refine exec_foldlM_invariant (fun done _ m => Deleting want w₁ done m) ?_
    ⟨Shrunk.refl _, hstore, tunnelsKept_of_sameStore (SameStore.refl _),
      fun _ _ => rfl, by simp⟩ hrun
  intro done key rest heq n m n' m' hm hround
  have hnew : key ∉ done := by
    have hnodup : w₁.installed.keys.Nodup := w₁.installed.nodup
    rw [heq, List.nodup_append] at hnodup
    exact fun hmem => hnodup.2.2 _ hmem _ List.mem_cons_self rfl
  rw [removeSession] at hround
  split at hround
  · obtain ⟨_, deleted, hdel, hpure⟩ := exec_bind_ok.mp hround
    cases hpure
    exact hm.delSession hnew hdel
  · rename_i hwanted
    cases hround
    refine ⟨hm.shrunk, hm.store, hm.tunnels, ?_, ?_⟩
    · intro other hother
      exact hm.untouched other fun hmem => hother (List.mem_append_left _ hmem)
    · intro other hother hgone
      rcases List.mem_append.mp hother with hother | hother
      · exact hm.taken other hother hgone
      · rw [List.mem_singleton.mp hother] at hgone
        simp [hgone] at hwanted

end Deleting

/-! ## The pass -/

section Recovered

variable {pass : Pass} {stateFile : InstalledDict} {others : Nat}
  {cache : TunnelsCache} {w₁ : World}

theorem Recovering.swIfIndex_eq {index i : Nat}
    {entry : SessionKey × KSession} {sess : L2tvppSession}
    (h : Recovering pass stateFile others
      (wantSessions pass.ksessions).items cache w₁)
    (hshrunk : Shrunk w₁.vpp v)
    (hentry : (wantSessions pass.ksessions).items[index]? = some entry)
    (hsess : v.lm.sessions.elt? i = some sess) (hids : ids sess = entry.1) :
    sess.swIfIndex = others + index := by
  obtain ⟨rec, hrec, hsw, -⟩ := h.recorded hentry
  obtain ⟨csum, hsess'⟩ := hshrunk.session hsess
  rw [← hids] at hrec
  have hdescribes := h.mirror.describes hsess' hrec
  rw [hdescribes.swIfIndex] at hsw
  exact Option.some.inj hsw

theorem Recovering.fib_subset {index : Nat} {entry : SessionKey × KSession}
    {pfx : IpPrefix}
    (h : Recovering pass stateFile others
      (wantSessions pass.ksessions).items cache w₁)
    (hentry : (wantSessions pass.ksessions).items[index]? = some entry)
    (hmem : (pfx.decode, others + index) ∈ w₁.vpp.fib) :
    pfx ∈ entry.2.fetchRoutes pass.pppRoutes := by
  obtain ⟨rec, hrec, hsw, hroutes⟩ := h.recorded hentry
  rw [h.mirror.fib_of_record hrec hsw] at hmem
  obtain ⟨p, hp, heq⟩ := hmem
  rw [IpPrefix.decode_inj.mp heq, ← hroutes]
  exact hp

theorem Recovered.wanted (h : Recovered cfg pass w) {key : SessionKey}
    (hkey : key ∈ (wantSessions pass.ksessions).keys) :
    SessionLive w.vpp key := by
  obtain ⟨s, hs⟩ := (Dict.mem_keys _).mp hkey
  obtain ⟨hmem, hifname, rfl⟩ := wantSessions_some hs
  obtain ⟨index, sess, hsess, hids, -⟩ := h.live s hmem hifname
  exact ⟨index, sess, hsess, hids⟩

/-- Where all wanted sessions are still there with their routes, a record whose
deletes have been made has spared them. -/
theorem Taken.spares {rec : InstalledRec} (h : Taken w₁.vpp rec w.vpp)
    (hadded : Recovering pass stateFile others
      (wantSessions pass.ksessions).items cache w₁)
    (hshrunk : Shrunk w₁.vpp w.vpp) (hrecovered : Recovered cfg pass w) :
    Spares pass others rec := by
  constructor
  · rw [sparesSessions, Option.all_eq_true]
    intro o ho
    obtain ⟨tunnelIndex, htunnel, hopener⟩ := Option.bind_eq_some_iff.mp ho
    rw [decide_eq_true_eq]
    intro hwanted
    obtain ⟨hlt, -⟩ := List.getElem?_eq_some_iff.mp hopener
    obtain ⟨t, ht⟩ := hadded.opened.packed.live hlt
    obtain ⟨o', ho', -, -, htid⟩ := hadded.opened.opener ht
    rw [hopener] at ho'
    cases ho'
    have hgone := h.session htunnel ht
    rw [htid] at hgone
    exact hgone (hrecovered.wanted hwanted)
  · rw [sparesRoutes, Option.all_eq_true]
    intro s hs
    obtain ⟨swIfIndex, hsw, hs⟩ := Option.bind_eq_some_iff.mp hs
    split at hs
    · rename_i hle
      rw [List.all_eq_true]
      intro pfx hpfx
      rw [decide_eq_true_eq]
      intro hroute
      rw [List.getElem?_map] at hs
      obtain ⟨entry, hentry, rfl⟩ := Option.map_eq_some_iff.mp hs
      obtain ⟨hmem, hifname, hkey⟩ := wantSessions_some
        (Dict.mem_items _ |>.mp (List.mem_of_getElem? hentry))
      obtain ⟨index, sess, hsess, hids, hroutes⟩ :=
        hrecovered.live _ hmem hifname
      have hindex := hadded.swIfIndex_eq hshrunk hentry hsess (hids.trans hkey)
      have heq : swIfIndex = sess.swIfIndex := by omega
      rw [heq] at hsw
      exact h.routes hsess hsw pfx hpfx (hroutes pfx hroute)
    · contradiction

theorem noCollision_of_recovered {hw : List HwInterface}
    {sw : List SwInterface} {result : Nat × Nat}
    (h : exec (reconcile cfg pass) (w.restart cfg hw sw) = (.ok result, w'))
    (hrecovered : Recovered cfg pass w') :
    noCollision cfg (loadState cfg w.stateFile) sw.length pass = true := by
  obtain ⟨acc, w₁, removed, w₂, w₃, hadding, hremoving, hprune, hvpp, -⟩ :=
    reconcile_run h
  have hsound := cacheSound_dumpedTunnels (w.restart cfg hw sw).vpp
  have hpruned : Shrunk w₂.vpp w'.vpp := by
    rw [hvpp]
    rcases hprune with ⟨-, rfl⟩ | ⟨-, hprune⟩
    · exact Shrunk.refl _
    · exact Shrunk.pruneTunnels _ _ _ hprune (Shrunk.refl _)
  have hremoved : Shrunk w₁.vpp w₂.vpp :=
    Preserves.foldlM (Shrunk.removeSession _) _ _ _ _ _ hremoving
      (Shrunk.refl _)
  have hshrunk := hremoved.trans hpruned
  rcases Attempted.run (Recovering.start hw sw hsound) hadding with
    ⟨hadded, hfile, haddable⟩ | ⟨key, hkey, hmissing⟩
  · have hdeleting := Deleting.run hadded.mirror.store hremoving
    simp only [noCollision, Bool.and_eq_true, List.all_eq_true,
      Option.isNone_iff_eq_none]
    refine ⟨⟨⟨haddable, ?_⟩, hfile⟩, ?_⟩
    · intro s hs
      rw [Bool.or_eq_true]
      cases hifname : s.hasIfname with
      | false => exact .inl rfl
      | true =>
          right
          obtain ⟨s', hs'⟩ := wantSessions_mem hs hifname
          rw [hs', Option.all_some, decide_eq_true_eq]
          intro pfx hpfx
          obtain ⟨i, sess, hsess, hids, hroutes⟩ :=
            hrecovered.live s hs hifname
          obtain ⟨index, hindex⟩ :=
            List.mem_iff_getElem?.mp (Dict.mem_items _ |>.mpr hs')
          have hroute := hshrunk.fib (hroutes pfx hpfx)
          rw [hadded.swIfIndex_eq hshrunk hindex hsess hids] at hroute
          exact hadded.fib_subset hindex hroute
    · rintro ⟨key, rec⟩ hitem
      have hrec := (Dict.mem_items _).mp hitem
      have hnot : key ∉ (wantSessions pass.ksessions).keys := by
        intro hkey
        rw [hfile key hkey] at hrec
        contradiction
      have hrec₁ := (hadded.untouched key hnot).trans hrec
      have htaken := hdeleting.taken key ((Dict.mem_keys _).mpr ⟨rec, hrec₁⟩)
        ((Dict.get?_eq_none _).mpr hnot) rec hrec₁
      have hspares := (htaken.shrunk hpruned).spares hadded hshrunk hrecovered
      exact ⟨hspares.sessions, hspares.routes⟩
  · exact absurd (hshrunk.live (hrecovered.wanted hkey)) hmissing.absent

end Recovered

/-! ## Runs -/

theorem loadState_run {hwInterfaces : Pool HwInterface}
    {swInterfaces : Pool SwInterface} {passes : List Pass}
    (hrun : runAll (passOk cfg) (World.initial hwInterfaces swInterfaces)
      passes = some w) :
    loadState cfg w.stateFile =
      if cfg.statePath then w.installed else Dict.empty := by
  refine runAll_invariant (passOk cfg) (fun w => loadState cfg w.stateFile =
    if cfg.statePath then w.installed else Dict.empty) ?_ rfl hrun
  intro w pass w' _ hpass
  obtain ⟨result, hexec, -⟩ := passOk_exec hpass
  obtain ⟨_, _, _, _, _, -, -, -, -, -, -, hsaved, -⟩ :=
    reconcile_run hexec
  unfold loadState
  split
  · rename_i hpath
    rw [hsaved hpath, Option.getD_some]
  · rfl

/-- After any run, a restart of VPP and of the daemon, a pass that returns
recovers exactly if what was installed before does not collide with the list:
a stale record of a wanted session makes the daemon skip it, and one of another
session deletes by indices that VPP has handed out again. -/
theorem recovered_iff_noCollision (cfg : Config)
    (hwInterfaces : Pool HwInterface) (swInterfaces : Pool SwInterface)
    (passes : List Pass) (w : World)
    (hrun : runAll (passOk cfg) (World.initial hwInterfaces swInterfaces)
      passes = some w)
    (hw : List HwInterface) (sw : List SwInterface) (pass : Pass)
    (result : Nat × Nat) (w' : World)
    (hpass : exec (reconcile cfg pass) (w.restart cfg hw sw) =
      (.ok result, w')) :
    Recovered cfg pass w' ↔
      noCollision cfg (if cfg.statePath then w.installed else Dict.empty)
        sw.length pass = true := by
  rw [← loadState_run hrun]
  constructor
  · exact noCollision_of_recovered hpass
  · exact fun hfree => recovered_of_noCollision hfree hpass

def oldSubscriber : KSession :=
  ksession 0x0a000002 100 1000 200 2000 "ppp0" [IpPrefix.host 0x0ac80005]

def newSubscriber : KSession :=
  ksession 0x0a000003 101 1001 201 2001 "ppp1" [IpPrefix.host 0x0ac80006]

theorem recovered_iff_noCollision_newSubscriber :
    ∃ w result w', runAll (passOk testConfig)
        (World.initial Pool.empty Pool.empty) [testPass [oldSubscriber]] =
        some w ∧
      exec (reconcile testConfig (testPass [newSubscriber]))
        (w.restart testConfig [] []) = (.ok result, w') ∧
      Recovered testConfig (testPass [newSubscriber]) w' := by
  have hrun : (runAll (passOk testConfig) (World.initial Pool.empty Pool.empty)
      [testPass [oldSubscriber]]).any (fun w =>
        (exec (reconcile testConfig (testPass [newSubscriber]))
          (w.restart testConfig [] [])).1.isOk &&
        noCollision testConfig w.installed 0 (testPass [newSubscriber])) =
      true := by
    decide +kernel
  obtain ⟨w, hw, htest⟩ := Option.any_eq_true _ _ |>.mp hrun
  rw [Bool.and_eq_true] at htest
  obtain ⟨hok, hfree⟩ := htest
  clear hrun
  cases hexec : exec (reconcile testConfig (testPass [newSubscriber]))
      (w.restart testConfig [] []) with
  | mk outcome w' =>
      rw [hexec] at hok
      cases outcome with
      | error e => exact absurd hok Bool.false_ne_true
      | ok result =>
          exact ⟨w, result, w', hw, hexec, (recovered_iff_noCollision
            testConfig Pool.empty Pool.empty _ w hw [] [] _ result w'
            hexec).mpr hfree⟩

/-- The daemon takes the subscriber for installed and adds nothing. -/
theorem notRecovered_oldSubscriber :
    ∃ w w', runAll (passOk testConfig) (World.initial Pool.empty Pool.empty)
        [testPass [oldSubscriber]] = some w ∧
      exec (reconcile testConfig (testPass [oldSubscriber]))
        (w.restart testConfig [] []) = (.ok (0, 0), w') ∧
      ¬ Recovered testConfig (testPass [oldSubscriber]) w' := by
  have hrun : (runAll (passOk testConfig) (World.initial Pool.empty Pool.empty)
      [testPass [oldSubscriber]]).any (fun w =>
        match exec (reconcile testConfig (testPass [oldSubscriber]))
          (w.restart testConfig [] []) with
        | (.ok (0, 0), w') => w'.vpp.lm.sessions.toList.isEmpty
        | _ => false) = true := by
    decide +kernel
  obtain ⟨w, hw, htest⟩ := Option.any_eq_true _ _ |>.mp hrun
  split at htest
  · rename_i w' hexec
    refine ⟨w, w', hw, hexec, ?_⟩
    intro hrecovered
    obtain ⟨index, sess, hsess, -⟩ :=
      hrecovered.live oldSubscriber (by simp [testPass]) rfl
    have hmem := (Pool.mem_toList _).mpr hsess
    rw [List.isEmpty_iff.mp htest] at hmem
    contradiction
  · contradiction

end L2tvpp.Syncd
