import L2tvpp.Syncd.Adopt

/-!
# Sessions that the record lacks

The daemon never adopts a session: one that is in the plugin and not in the
record is asked for again, and the rejected call leaves a record without an
interface.  A record of a session that is no longer wanted deletes by its
numbers, whatever they belong to by then.
-/

namespace L2tvpp.Syncd

open L2tvpp.Lib L2tvpp.Plugin

variable {cfg : Config} {pass : Pass} {w w' : World} {v v' : Vpp}

/-! ## The second loop -/

/-- The key under which the delete for a record looks a session up. -/
def InstalledRec.victim (rec : InstalledRec) (v : Vpp) : Option SessionKey :=
  (rec.tunnelIndex.bind v.lm.tunnels.elt?).map fun t =>
    (t.localTid, rec.localSid)

def SameTids (v v' : Vpp) : Prop :=
  ∀ index, (v'.lm.tunnels.elt? index).map L2tvppTunnel.localTid =
    (v.lm.tunnels.elt? index).map L2tvppTunnel.localTid

theorem SameTids.victim (h : SameTids v v') (rec : InstalledRec) :
    rec.victim v' = rec.victim v := by
  unfold InstalledRec.victim
  cases rec.tunnelIndex with
  | none => rfl
  | some index =>
      have hmap := congrArg (Option.map fun tid => (tid, rec.localSid))
        (h index)
      simp only [Option.map_map] at hmap
      exact hmap

theorem sameTids_of_sameStore (h : SameStore v v') : SameTids v v' := by
  intro index
  rw [h.tunnels]

/-- The delete takes the session it finds, and nothing if it finds none. -/
theorem handle_sessionDel {P : Policies} (hstore : StoreInv v)
    (rec : InstalledRec) :
    let v' := (handle P v (.sessionAddDel false rec.tunnelIndex rec.localSid
      rec.peerSid false false)).2
    StoreInv v' ∧ SameTids v v' ∧ v'.fib = v.fib ∧
      ∀ key, interfaceOf v' key =
        if rec.victim v = some key then none else interfaceOf v key := by
  intro v'
  cases hok : (handle P v (.sessionAddDel false rec.tunnelIndex rec.localSid
      rec.peerSid false false)).1.ok with
  | false =>
      have hv' : v' = v := handle_rejected hok
      rw [hv']
      refine ⟨hstore, fun _ => rfl, rfl, ?_⟩
      intro key
      split
      · rename_i hvictim
        obtain ⟨t, htunnel, rfl⟩ := Option.map_eq_some_iff.mp hvictim
        obtain ⟨index, hindex, ht⟩ := Option.bind_eq_some_iff.mp htunnel
        rw [← lookup_none_iff hstore, Option.eq_none_iff_forall_ne_some]
        intro i hfind
        obtain ⟨sess, hsess, -⟩ := hstore.byKey.some_iff.mp hfind
        rw [hindex, sessionDel_accepts ht hfind hsess] at hok
        contradiction
      · rfl
  | true =>
      obtain ⟨index, t, i, sess, hindex, ht, hkey, hsess, hhandle⟩ :=
        sessionDel_accepted hok
      have hv' : v' = v.sessionDel index
        (l2tvppSessionKey t.localTid rec.localSid) i sess := hhandle
      rw [hv']
      refine ⟨hstore.sessionDel hkey hsess, ?_, ?_, ?_⟩
      · intro other
        rw [sessionDel_tunnels]
        split
        · rw [Option.map_map]
          rfl
        · rfl
      · simp [Vpp.sessionDel, removeDelegates]
      · intro key
        have hvictim : rec.victim v = some (t.localTid, rec.localSid) := by
          simp [InstalledRec.victim, hindex, ht]
        rw [interfaceOf_sessionDel hstore hkey hsess, Function.update_apply]
        refine if_congr ?_ rfl rfl
        rw [hvictim, Option.some.injEq]
        exact eq_comm

structure DeletedSession (key : SessionKey) (rec : InstalledRec)
    (w w' : World) : Prop where
  store : StoreInv w'.vpp
  sameTids : SameTids w.vpp w'.vpp
  installed : w'.installed.get? = Function.update w.installed.get? key none
  interface : ∀ other, interfaceOf w'.vpp other =
    if rec.victim w.vpp = some other then none else interfaceOf w.vpp other
  live : ∀ swIfIndex other, rec.swIfIndex = some swIfIndex →
    interfaceOf w.vpp other = some swIfIndex → ∀ path, path ∈ w'.vpp.fib ↔
      path ∈ w.vpp.fib ∧
        ¬ ∃ pfx ∈ rec.routes, path = (pfx.decode, swIfIndex)
  dead : (∀ swIfIndex other, rec.swIfIndex = some swIfIndex →
    interfaceOf w.vpp other ≠ some swIfIndex) → w'.vpp.fib = w.vpp.fib

theorem delSession_deleted {key : SessionKey} {rec : InstalledRec}
    (hstore : StoreInv w.vpp) (hrec : w.installed.get? key = some rec)
    (h : exec (delSession cfg key) w = (.ok (), w')) :
    DeletedSession key rec w w' := by
  obtain ⟨_, routed, hrec', hforM, rfl⟩ := delSession_run h
  rw [hrec] at hrec'
  cases hrec'
  obtain ⟨hinstalled, hsame, hlive, hdead⟩ := forM_route_run hstore hforM
  obtain ⟨hstore', htids, hfib, hinterface⟩ :=
    handle_sessionDel (P := cfg.policies) (hstore.of_sameStore hsame) rec
  have hfirst := sameTids_of_sameStore hsame
  refine ⟨hstore', fun index => (htids index).trans (hfirst index), ?_, ?_, ?_,
    ?_⟩
  · rw [get?_erase_eq_update, hinstalled]
  · intro other
    rw [interfaceOf_sameStore hsame, hfirst.victim] at hinterface
    exact hinterface other
  · intro swIfIndex other hsw hother path
    change path ∈ (handle cfg.policies routed.vpp _).2.fib ↔ _
    rw [hfib, (hlive swIfIndex other hsw hother).fib path,
      if_neg Bool.false_ne_true]
  · intro hnone
    change (handle cfg.policies routed.vpp _).2.fib = _
    rw [hfib, hdead hnone]

namespace DeletedSession

variable {key : SessionKey} {rec : InstalledRec}

theorem shrunk (h : DeletedSession key rec w w') {other : SessionKey}
    {swIfIndex : Nat} (hlive : interfaceOf w'.vpp other = some swIfIndex) :
    interfaceOf w.vpp other = some swIfIndex := by
  rw [h.interface] at hlive
  split at hlive
  · contradiction
  · exact hlive

/-- The routes of the record go if its interface is a session's. -/
theorem mem_fib (h : DeletedSession key rec w w') {path : FibPrefix × Nat} :
    path ∈ w'.vpp.fib ↔ path ∈ w.vpp.fib ∧
      ¬ ((∃ other, interfaceOf w.vpp other = some path.2) ∧
        rec.swIfIndex = some path.2 ∧
        ∃ pfx ∈ rec.routes, path.1 = pfx.decode) := by
  by_cases hlive : ∃ swIfIndex other, rec.swIfIndex = some swIfIndex ∧
      interfaceOf w.vpp other = some swIfIndex
  · obtain ⟨swIfIndex, other, hsw, hother⟩ := hlive
    rw [h.live swIfIndex other hsw hother path]
    refine and_congr_right fun _ => not_congr ?_
    constructor
    · rintro ⟨pfx, hpfx, rfl⟩
      exact ⟨⟨other, hother⟩, hsw, pfx, hpfx, rfl⟩
    · rintro ⟨-, hpath, pfx, hpfx, heq⟩
      rw [hsw] at hpath
      cases hpath
      exact ⟨pfx, hpfx, Prod.ext heq rfl⟩
  · rw [h.dead fun swIfIndex other hsw hother =>
      hlive ⟨swIfIndex, other, hsw, hother⟩]
    constructor
    · intro hpath
      refine ⟨hpath, ?_⟩
      rintro ⟨⟨other, hother⟩, hsw, -⟩
      exact hlive ⟨path.2, other, hsw, hother⟩
    · exact fun hpath => hpath.1

end DeletedSession

theorem keys_entry {installed : InstalledDict}
    {done rest : List SessionKey} {key : SessionKey}
    (h : installed.keys = done ++ key :: rest) :
    key ∉ done ∧ ∃ rec, installed.get? key = some rec := by
  constructor
  · have hnodup : installed.keys.Nodup := installed.nodup
    rw [h, List.nodup_append] at hnodup
    exact fun hmem => hnodup.2.2 _ hmem _ List.mem_cons_self rfl
  · apply (Dict.mem_keys _).mp
    rw [h]
    simp

/-- The state after some keys of the record have been looked at.  A session is
gone if the delete for some stale record has found it; a route is gone if a
stale record has it on an interface that was a session's at that time. -/
structure Removed (want : Dict SessionKey KSession) (w₁ : World)
    (done : List SessionKey) (m : World) : Prop where
  store : StoreInv m.vpp
  sameTids : SameTids w₁.vpp m.vpp
  installed : ∀ key, m.installed.get? key =
    if key ∈ done ∧ want.get? key = none then none
    else w₁.installed.get? key
  shrunk : ∀ key swIfIndex, interfaceOf m.vpp key = some swIfIndex →
    interfaceOf w₁.vpp key = some swIfIndex
  taken : ∀ stale ∈ done, want.get? stale = none → ∀ rec key,
    w₁.installed.get? stale = some rec → rec.victim w₁.vpp = some key →
    interfaceOf m.vpp key = none
  spared : ∀ key, (∀ stale ∈ done, want.get? stale = none → ∀ rec,
      w₁.installed.get? stale = some rec → rec.victim w₁.vpp ≠ some key) →
    interfaceOf m.vpp key = interfaceOf w₁.vpp key
  fibShrunk : m.vpp.fib ⊆ w₁.vpp.fib
  fibSpared : ∀ path ∈ w₁.vpp.fib,
    (∀ stale ∈ done, want.get? stale = none → ∀ rec,
      w₁.installed.get? stale = some rec → rec.swIfIndex = some path.2 →
      ∀ pfx ∈ rec.routes, pfx.decode ≠ path.1) → path ∈ m.vpp.fib
  fibTaken : ∀ stale ∈ done, want.get? stale = none → ∀ rec swIfIndex,
    w₁.installed.get? stale = some rec → rec.swIfIndex = some swIfIndex →
    ((∃ key, interfaceOf m.vpp key = some swIfIndex) ∨
      interfaceOf w₁.vpp stale = some swIfIndex ∧
        ∀ other rec', other ≠ stale → want.get? other = none →
          w₁.installed.get? other = some rec' →
          rec'.victim w₁.vpp ≠ some stale) →
    ∀ pfx ∈ rec.routes, (pfx.decode, swIfIndex) ∉ m.vpp.fib

namespace Removed

variable {want : Dict SessionKey KSession} {w₁ m m' : World}
  {done : List SessionKey} {key : SessionKey}

theorem start (hstore : StoreInv w₁.vpp) : Removed want w₁ [] w₁ where
  store := hstore
  sameTids := fun _ => rfl
  installed := by simp
  shrunk := fun _ _ h => h
  taken := by simp
  spared := fun _ _ => rfl
  fibShrunk := Finset.Subset.refl _
  fibSpared := fun _ hmem _ => hmem
  fibTaken := by simp

theorem wanted (h : Removed want w₁ done m) {s : KSession}
    (hwanted : want.get? key = some s) : Removed want w₁ (done ++ [key]) m := by
  -- a stale key of the longer list is one of the shorter
  have hold : ∀ stale ∈ done ++ [key], want.get? stale = none →
      stale ∈ done := by
    intro stale hmem hstale
    rcases List.mem_append.mp hmem with hmem | hmem
    · exact hmem
    · rw [List.mem_singleton.mp hmem, hwanted] at hstale
      contradiction
  refine ⟨h.store, h.sameTids, ?_, h.shrunk, ?_, ?_, h.fibShrunk, ?_, ?_⟩
  · intro other
    rw [h.installed]
    refine if_congr ?_ rfl rfl
    constructor
    · rintro ⟨hmem, hstale⟩
      exact ⟨List.mem_append_left _ hmem, hstale⟩
    · rintro ⟨hmem, hstale⟩
      exact ⟨hold other hmem hstale, hstale⟩
  · intro stale hmem hstale
    exact h.taken stale (hold stale hmem hstale) hstale
  · intro other hnone
    exact h.spared other fun stale hmem =>
      hnone stale (List.mem_append_left _ hmem)
  · intro path hpath hnone
    exact h.fibSpared path hpath fun stale hmem =>
      hnone stale (List.mem_append_left _ hmem)
  · intro stale hmem hstale
    exact h.fibTaken stale (hold stale hmem hstale) hstale

theorem deleted (h : Removed want w₁ done m) {rec : InstalledRec}
    (hnew : key ∉ done) (hstale : want.get? key = none)
    (hrec : w₁.installed.get? key = some rec)
    (hdeleted : DeletedSession key rec m m') :
    Removed want w₁ (done ++ [key]) m' := by
  have hinterface := hdeleted.interface
  rw [h.sameTids.victim] at hinterface
  have hfib : m'.vpp.fib ⊆ m.vpp.fib := fun _ hpath =>
    (hdeleted.mem_fib.mp hpath).1
  refine ⟨hdeleted.store,
    fun index => (hdeleted.sameTids index).trans (h.sameTids index), ?_, ?_, ?_,
    ?_, hfib.trans h.fibShrunk, ?_, ?_⟩
  · intro other
    rw [hdeleted.installed, Function.update_apply]
    by_cases hother : other = key
    · subst hother
      simp [hstale]
    · rw [if_neg hother, h.installed]
      simp [hother]
  · intro other swIfIndex hother
    exact h.shrunk other swIfIndex (hdeleted.shrunk hother)
  · intro stale hmem hstale' rec' other hrec' hvictim'
    rw [hinterface]
    rcases List.mem_append.mp hmem with hmem | hmem
    · rw [h.taken stale hmem hstale' rec' other hrec' hvictim', ite_self]
    · rw [List.mem_singleton.mp hmem, hrec] at hrec'
      cases hrec'
      rw [if_pos hvictim']
  · intro other hnone
    rw [hinterface, if_neg (hnone key (by simp) hstale rec hrec)]
    exact h.spared other fun stale hmem =>
      hnone stale (List.mem_append_left _ hmem)
  · intro path hpath hnone
    have hbefore := h.fibSpared path hpath fun stale hmem =>
      hnone stale (List.mem_append_left _ hmem)
    refine hdeleted.mem_fib.mpr ⟨hbefore, ?_⟩
    rintro ⟨-, hsw, pfx, hpfx, heq⟩
    exact hnone key (by simp) hstale rec hrec hsw pfx hpfx heq.symm
  · intro stale hmem hstale' rec' swIfIndex hrec' hsw hlive pfx hpfx hpath
    rcases List.mem_append.mp hmem with hmem | hmem
    · refine h.fibTaken stale hmem hstale' rec' swIfIndex hrec' hsw ?_ pfx hpfx
        (hfib hpath)
      rcases hlive with ⟨other, hother⟩ | hown
      · exact .inl ⟨other, hdeleted.shrunk hother⟩
      · exact .inr hown
    · -- the session is still there when its own routes are deleted
      rw [List.mem_singleton.mp hmem] at hrec' hlive
      rw [hrec] at hrec'
      cases hrec'
      have hnow : ∃ other, interfaceOf m.vpp other = some swIfIndex := by
        rcases hlive with ⟨other, hother⟩ | ⟨hown, hothers⟩
        · exact ⟨other, hdeleted.shrunk hother⟩
        · refine ⟨key, ?_⟩
          rw [h.spared key, hown]
          intro other hother hstale'' rec'' hrec''
          refine hothers other rec'' ?_ hstale'' hrec''
          rintro rfl
          exact hnew hother
      exact (hdeleted.mem_fib.mp hpath).2 ⟨hnow, hsw, pfx, hpfx, rfl⟩

theorem removeSession (h : Removed want w₁ done m) {rest : List SessionKey}
    {removed removed' : Nat} (heq : w₁.installed.keys = done ++ key :: rest)
    (hround : exec (removeSession cfg want removed key) m =
      (.ok removed', m')) : Removed want w₁ (done ++ [key]) m' := by
  obtain ⟨hnew, rec, hrec⟩ := keys_entry heq
  rw [Syncd.removeSession] at hround
  split at hround
  · rename_i hgone
    obtain ⟨_, deleted, hdel, hpure⟩ := exec_bind_ok.mp hround
    cases hpure
    have hrec' : m.installed.get? key = some rec := by
      rw [h.installed, if_neg (fun hmem => hnew hmem.1), hrec]
    exact h.deleted hnew (Option.isNone_iff_eq_none.mp hgone) hrec
      (delSession_deleted h.store hrec' hdel)
  · rename_i hwanted
    cases hround
    rw [Option.isNone_iff_eq_none] at hwanted
    obtain ⟨s, hs⟩ := Option.ne_none_iff_exists'.mp hwanted
    exact h.wanted hs

theorem run {removed : Nat} (hstore : StoreInv w₁.vpp)
    (hrun : exec (w₁.installed.keys.foldlM (Syncd.removeSession cfg want) 0)
      w₁ = (.ok removed, w')) : Removed want w₁ w₁.installed.keys w' := by
  refine exec_foldlM_invariant (fun done _ m => Removed want w₁ done m) ?_
    (start hstore) hrun
  intro done key rest heq n m n' m' hm hround
  exact hm.removeSession heq hround

end Removed

/-! ## Pruning -/

/-- Nothing but tunnels has changed, and some of them may be gone. -/
structure TunnelsPruned (w m : World) : Prop where
  store : StoreInv m.vpp
  installed : m.installed = w.installed
  interface : interfaceOf m.vpp = interfaceOf w.vpp
  fib : m.vpp.fib = w.vpp.fib

theorem TunnelsPruned.deleted {m : World} {localIp : Option IpAddress}
    {peerIp : IpAddress} {localPort peerPort localTid peerTid : U16}
    (h : TunnelsPruned w m) :
    TunnelsPruned w (m.logged cfg (.tunnelAddDel false localIp peerIp localPort
      peerPort localTid peerTid)) := by
  cases hok : (handle cfg.policies m.vpp (.tunnelAddDel false localIp peerIp
      localPort peerPort localTid peerTid)).1.ok with
  | false =>
      simp only [World.logged, handle_rejected hok]
      exact ⟨h.store, h.installed, h.interface, h.fib⟩
  | true =>
      obtain ⟨index, t, -, -, hhandle⟩ := tunnelDel_accepted hok
      simp only [World.logged, hhandle]
      exact ⟨h.store.tunnelDel index, h.installed, h.interface, h.fib⟩

theorem pruneTunnels_triple (w : World) :
    Triple (TunnelsPruned w) (pruneTunnels cfg) (fun _ => TunnelsPruned w)
      (TunnelsPruned w) := by
  have hcall : ∀ call, (∀ m, TunnelsPruned w m →
      TunnelsPruned w (m.logged cfg call)) → Triple (TunnelsPruned w)
      (callApi cfg call) (fun _ => TunnelsPruned w) (TunnelsPruned w) :=
    fun call h => callApi_triple h fun m hm => ⟨hm, h m hm⟩
  have hsame : ∀ m, TunnelsPruned w m →
      ∀ call, (m.logged cfg call).vpp = m.vpp →
      TunnelsPruned w (m.logged cfg call) := by
    intro m hm call hvpp
    refine ⟨?_, hm.installed, ?_, ?_⟩ <;> rw [hvpp]
    · exact hm.store
    · exact hm.interface
    · exact hm.fib
  have hdump : Triple (TunnelsPruned w) (vppTunnels cfg)
      (fun _ => TunnelsPruned w) (TunnelsPruned w) :=
    (hcall .tunnelDump fun m hm => hsame m hm _ rfl).bind fun _ =>
      .ret fun _ hm => hm
  refine (hcall .sessionDump fun m hm => hsame m hm _ rfl).bind fun reply => ?_
  refine hdump.bind fun tunnels => ?_
  refine .forM (fun _ => TunnelsPruned w) fun _ entry _ _ => ?_
  split
  · exact .ret fun _ hm => hm
  · exact (hcall _ fun _ hm => hm.deleted).bind fun _ => .ret fun _ hm => hm

theorem pruneTunnels_frame (hstore : StoreInv w.vpp)
    (h : exec (pruneTunnels cfg) w = (.ok (), w')) : TunnelsPruned w w' :=
  (pruneTunnels_triple w).ok ⟨hstore, rfl, rfl, rfl⟩ h

/-! ## One pass over any plugin -/

theorem reconcile_adopted {result : Nat × Nat} (hstore : StoreInv w.vpp)
    (h : exec (reconcile cfg pass) w = (.ok result, w')) :
    ∃ cache w₁ w₂,
      ((Ready cfg w (wantSessions pass.ksessions).items ∧
          Adopting cfg pass w (wantSessions pass.ksessions).items cache w₁) ∨
        (¬ Ready cfg w (wantSessions pass.ksessions).items ∧
          ∃ entry ∈ (wantSessions pass.ksessions).items,
            Unnamed entry.1 cache w₁ ∧ ∀ rec,
              w.installed.get? entry.1 = some rec →
              ¬ Named w.vpp entry.1 rec)) ∧
      Removed (wantSessions pass.ksessions) w₁ w₁.installed.keys w₂ ∧
      StoreInv w'.vpp ∧ w'.installed = w₂.installed ∧
      interfaceOf w'.vpp = interfaceOf w₂.vpp ∧ w'.vpp.fib = w₂.vpp.fib := by
  obtain ⟨acc, w₁, removed, w₂, w₃, hadding, hremoving, hprune, hvpp,
    hinstalled, -⟩ := reconcile_run h
  have hadopting := adopting_run hstore hadding
  have hstore₁ : StoreInv w₁.vpp := by
    rcases hadopting with ⟨-, hadopting⟩ | ⟨-, entry, -, hunnamed, -⟩
    · exact hadopting.store
    · exact hunnamed.store
  have hremoved := Removed.run hstore₁ hremoving
  refine ⟨acc.2, w₁, w₂, hadopting, hremoved, ?_⟩
  rw [hvpp, hinstalled]
  rcases hprune with ⟨-, rfl⟩ | ⟨-, hprune⟩
  · exact ⟨hremoved.store, rfl, rfl, rfl⟩
  · obtain ⟨hstore', hinstalled', hinterface, hfib⟩ :=
      pruneTunnels_frame hremoved.store hprune
    exact ⟨hstore', hinstalled', hinterface, hfib⟩

theorem Removed.final {want : Dict SessionKey KSession} {w₁ w₂ : World}
    (h : Removed want w₁ w₁.installed.keys w₂) (key : SessionKey) :
    w₂.installed.get? key =
      if want.get? key = none then none else w₁.installed.get? key := by
  rw [h.installed]
  by_cases hgone : want.get? key = none
  · by_cases hmem : key ∈ w₁.installed.keys
    · simp [hgone, hmem]
    · simp [hgone, hmem, w₁.installed.get?_eq_none.mpr hmem]
  · simp [hgone]

/-! ## The condition -/

/-- A recorded session is where its record says; one that is not recorded is
not in the plugin. -/
def sessionReady (w : World) (entry : SessionKey × KSession) : Bool :=
  match w.installed.get? entry.1 with
  | none => (interfaceOf w.vpp entry.1).isNone
  | some rec => rec.swIfIndex.isSome &&
      decide (interfaceOf w.vpp entry.1 = rec.swIfIndex)

/-- The recorded routes that will stay are in the FIB. -/
def routesReady (pass : Pass) (w : World)
    (entry : SessionKey × KSession) : Bool :=
  (w.installed.get? entry.1).all fun rec =>
    rec.swIfIndex.all fun swIfIndex => rec.routes.all fun pfx =>
      decide (pfx ∉ pass.routesAfter w.installed.get? entry) ||
        decide ((pfx.decode, swIfIndex) ∈ w.vpp.fib)

/-- The local ids of the tunnels there are and of those the pass opens. -/
def tunnelTids (cfg : Config) (w : World)
    (entries : List (SessionKey × KSession)) : List (Nat × U16) :=
  (w.vpp.lm.tunnels.toList.map fun t => (t.1, t.2.localTid)) ++
    (openersOf w entries).zipIdx.map fun o =>
      (w.vpp.lm.tunnels.upcoming cfg.policies.tunnels o.2, o.1.localTid)

/-- The interfaces of the wanted sessions, those the pass adds included, and
the routes their records will have. -/
def wantedInterfaces (cfg : Config) (pass : Pass) (w : World)
    (entries : List (SessionKey × KSession)) : List (Nat × List IpPrefix) :=
  (entries.filterMap fun entry => (interfaceOf w.vpp entry.1).map
      (·, pass.routesAfter w.installed.get? entry)) ++
    (missing w.installed entries).zipIdx.map fun entry =>
      (w.vpp.swInterfaces.upcoming cfg.policies.swInterfaces entry.2,
        pass.routesAfter w.installed.get? entry.1)

/-- The deletes for a stale record take no wanted session and no route of
one. -/
def sparesWanted (cfg : Config) (pass : Pass) (w : World)
    (rec : InstalledRec) : Bool :=
  let want := wantSessions pass.ksessions
  (rec.tunnelIndex.all fun index => (tunnelTids cfg w want.items).all fun t =>
    decide (t.1 ≠ index) || (want.get? (t.2, rec.localSid)).isNone) &&
  (rec.swIfIndex.all fun swIfIndex =>
    (wantedInterfaces cfg pass w want.items).all fun interface =>
      decide (interface.1 ≠ swIfIndex) ||
        rec.routes.all fun pfx => decide (pfx ∉ interface.2))

def adoptable (cfg : Config) (pass : Pass) (w : World) : Bool :=
  let want := wantSessions pass.ksessions
  want.items.all (sessionReady w) &&
  tunnelsOpenable cfg w.vpp (openersOf w want.items) &&
  want.items.all (routesReady pass w) &&
  w.installed.items.all fun item =>
    (want.get? item.1).isSome || sparesWanted cfg pass w item.2

theorem sessionReady_iff {entry : SessionKey × KSession} :
    sessionReady w entry = true ↔
      (∀ rec, w.installed.get? entry.1 = some rec →
        Named w.vpp entry.1 rec) ∧
      (w.installed.get? entry.1 = none →
        interfaceOf w.vpp entry.1 = none) := by
  unfold sessionReady
  cases hrec : w.installed.get? entry.1 with
  | none => simp
  | some rec =>
      simp only [Bool.and_eq_true, decide_eq_true_eq, Option.some.injEq,
        reduceCtorEq, false_implies, and_true, forall_eq', Named,
        Option.isSome_iff_exists]
      constructor
      · rintro ⟨⟨swIfIndex, hsw⟩, hlive⟩
        exact ⟨swIfIndex, hsw, hlive.trans hsw⟩
      · rintro ⟨swIfIndex, hsw, hlive⟩
        exact ⟨⟨swIfIndex, hsw⟩, hlive.trans hsw.symm⟩

theorem ready_iff {entries : List (SessionKey × KSession)} :
    Ready cfg w entries ↔ entries.all (sessionReady w) = true ∧
      tunnelsOpenable cfg w.vpp (openersOf w entries) = true := by
  simp only [List.all_eq_true, sessionReady_iff]
  constructor
  · intro h
    exact ⟨fun entry hentry => ⟨h.named entry hentry, h.free entry hentry⟩,
      h.openable⟩
  · rintro ⟨hready, hopenable⟩
    exact ⟨fun entry hentry => (hready entry hentry).1,
      fun entry hentry => (hready entry hentry).2, hopenable⟩

section Predicted

variable {entries : List (SessionKey × KSession)} {cache : TunnelsCache}
  {w₁ : World}

theorem Adopting.mem_tunnelTids
    (h : Adopting cfg pass w entries cache w₁) {index : Nat} {tid : U16} :
    (index, tid) ∈ tunnelTids cfg w entries ↔
      ∃ t, w₁.vpp.lm.tunnels.elt? index = some t ∧ t.localTid = tid := by
  simp only [tunnelTids, List.mem_append, List.mem_map, Prod.mk.injEq,
    Prod.exists, Pool.mem_toList, List.mem_zipIdx_iff_getElem?]
  constructor
  · rintro (⟨_, t, ht, rfl, rfl⟩ | ⟨o, n, ho, rfl, rfl⟩)
    · obtain ⟨count, ht'⟩ := h.opened.old _ t ht
      exact ⟨_, ht', rfl⟩
    · obtain ⟨t, ht, -, -, htid⟩ := h.opened.new ho
      exact ⟨t, ht, htid⟩
  · rintro ⟨t, ht, rfl⟩
    rcases h.opened.origin ht with ⟨t₀, n, ht₀, rfl⟩ |
      ⟨n, o, ho, hindex, -, -, htid⟩
    · exact .inl ⟨index, t₀, ht₀, rfl, rfl⟩
    · exact .inr ⟨o, n, ho, hindex.symm, htid.symm⟩

theorem Adopting.interface_recorded
    (h : Adopting cfg pass w entries cache w₁) {key : SessionKey}
    {rec : InstalledRec} (hrec : w.installed.get? key = some rec) :
    interfaceOf w₁.vpp key = interfaceOf w.vpp key := by
  apply h.interface
  rintro entry hentry rfl
  rw [(mem_missing.mp hentry).2] at hrec
  contradiction

theorem Adopting.mem_wantedInterfaces
    (h : Adopting cfg pass w entries cache w₁) (hready : Ready cfg w entries)
    {swIfIndex : Nat} {routes : List IpPrefix} :
    (swIfIndex, routes) ∈ wantedInterfaces cfg pass w entries ↔
      ∃ entry ∈ entries, interfaceOf w₁.vpp entry.1 = some swIfIndex ∧
        pass.routesAfter w.installed.get? entry = routes := by
  simp only [wantedInterfaces, List.mem_append, List.mem_filterMap,
    List.mem_map, Option.map_eq_some_iff, Prod.mk.injEq,
    List.mem_zipIdx_iff_getElem?]
  constructor
  · rintro (⟨entry, hmem, _, hlive, rfl, rfl⟩ | ⟨⟨entry, n⟩, hn, rfl, rfl⟩)
    · cases hrec : w.installed.get? entry.1 with
      | none =>
          rw [hready.free _ hmem hrec] at hlive
          contradiction
      | some rec =>
          exact ⟨entry, hmem, (h.interface_recorded hrec).trans hlive, rfl⟩
    · exact ⟨entry, (mem_missing.mp (List.mem_of_getElem? hn)).1,
        h.numbered hn, rfl⟩
  · rintro ⟨entry, hmem, hlive, rfl⟩
    cases hrec : w.installed.get? entry.1 with
    | some rec =>
        exact .inl ⟨entry, hmem, swIfIndex,
          (h.interface_recorded hrec).symm.trans hlive, rfl, rfl⟩
    | none =>
        obtain ⟨n, hn⟩ := List.mem_iff_getElem?.mp
          (mem_missing.mpr ⟨hmem, hrec⟩)
        have hindex := h.numbered hn
        rw [hlive] at hindex
        exact .inr ⟨(entry, n), hn, (Option.some.inj hindex).symm, rfl⟩

/-- After the first loop, the delete for a record takes no wanted session and
none of the routes of one. -/
structure WantedSpared (pass : Pass) (w w₁ : World) (rec : InstalledRec) :
    Prop where
  session : ∀ key, rec.victim w₁.vpp = some key →
    (wantSessions pass.ksessions).get? key = none
  routes : ∀ swIfIndex, rec.swIfIndex = some swIfIndex →
    ∀ entry ∈ (wantSessions pass.ksessions).items,
      interfaceOf w₁.vpp entry.1 = some swIfIndex → ∀ pfx ∈ rec.routes,
        pfx ∉ pass.routesAfter w.installed.get? entry

theorem Adopting.sparesWanted_iff
    (h : Adopting cfg pass w (wantSessions pass.ksessions).items cache w₁)
    (hready : Ready cfg w (wantSessions pass.ksessions).items)
    {rec : InstalledRec} :
    sparesWanted cfg pass w rec = true ↔ WantedSpared pass w w₁ rec := by
  simp only [sparesWanted, Bool.and_eq_true, Option.all_eq_true,
    List.all_eq_true, Bool.or_eq_true, decide_eq_true_eq,
    Option.isNone_iff_eq_none]
  constructor
  · rintro ⟨hsession, hroutes⟩
    constructor
    · intro key hvictim
      obtain ⟨t, htunnel, rfl⟩ := Option.map_eq_some_iff.mp hvictim
      obtain ⟨index, hindex, ht⟩ := Option.bind_eq_some_iff.mp htunnel
      rcases hsession index hindex _ (h.mem_tunnelTids.mpr ⟨t, ht, rfl⟩) with
        hne | hnone
      · exact absurd rfl hne
      · exact hnone
    · intro swIfIndex hsw entry hentry hlive pfx hpfx
      rcases hroutes swIfIndex hsw _ ((h.mem_wantedInterfaces hready).mpr
        ⟨entry, hentry, hlive, rfl⟩) with hne | hall
      · exact absurd rfl hne
      · exact hall pfx hpfx
  · rintro ⟨hsession, hroutes⟩
    constructor
    · rintro index hindex ⟨other, tid⟩ hmem
      by_cases heq : other = index
      · subst heq
        obtain ⟨t, ht, rfl⟩ := h.mem_tunnelTids.mp hmem
        exact .inr (hsession _ (by
          simp [InstalledRec.victim, hindex, ht]))
      · exact .inl heq
    · rintro swIfIndex hsw ⟨other, routes⟩ hmem
      by_cases heq : other = swIfIndex
      · subst heq
        obtain ⟨entry, hentry, hlive, rfl⟩ :=
          (h.mem_wantedInterfaces hready).mp hmem
        exact .inr (hroutes _ hsw entry hentry hlive)
      · exact .inl heq

end Predicted

/-! ## The records after the pass -/

/-- Every record names the interface of the live session with its key, and its
routes lead there. -/
def RecordsLive (w : World) : Prop :=
  ∀ key rec, w.installed.get? key = some rec → ∃ index sess,
    w.vpp.lm.sessions.elt? index = some sess ∧
    (sess.localTid, sess.localSid) = key ∧
    rec.swIfIndex = some sess.swIfIndex ∧
    ∀ pfx ∈ rec.routes, (pfx.decode, sess.swIfIndex) ∈ w.vpp.fib

theorem recordsLive_iff (hstore : StoreInv w.vpp) :
    RecordsLive w ↔ ∀ key rec, w.installed.get? key = some rec →
      ∃ swIfIndex, rec.swIfIndex = some swIfIndex ∧
        interfaceOf w.vpp key = some swIfIndex ∧
        ∀ pfx ∈ rec.routes, (pfx.decode, swIfIndex) ∈ w.vpp.fib := by
  refine forall_congr' fun key => forall_congr' fun rec =>
    imp_congr_right fun _ => ?_
  constructor
  · rintro ⟨index, sess, hsess, rfl, hsw, hroutes⟩
    exact ⟨_, hsw, interfaceOf_live hstore hsess, hroutes⟩
  · rintro ⟨swIfIndex, hsw, hlive, hroutes⟩
    obtain ⟨index, sess, hsess, hids, rfl⟩ := (interfaceOf_some hstore).mp hlive
    exact ⟨index, sess, hsess, hids, hsw, hroutes⟩

section Kept

variable {entry : SessionKey × KSession}

theorem routesReady_iff {rec : InstalledRec} {swIfIndex : Nat}
    (hrec : w.installed.get? entry.1 = some rec)
    (hsw : rec.swIfIndex = some swIfIndex) :
    routesReady pass w entry = true ↔ ∀ pfx ∈ rec.routes,
      pfx ∈ pass.routesAfter w.installed.get? entry →
      (pfx.decode, swIfIndex) ∈ w.vpp.fib := by
  simp only [routesReady, hrec, hsw, Option.all_some, List.all_eq_true,
    Bool.or_eq_true, decide_eq_true_eq]
  refine forall_congr' fun pfx => imp_congr_right fun _ => ?_
  tauto

/-- The routes of a record that the loops of the pass leave alone. -/
theorem mem_routesAfter {pfx : IpPrefix}
    (h : pfx ∈ pass.routesAfter w.installed.get? entry) :
    pfx ∉ pass.routesDeleted w.installed.get? entry ∧
      (pfx ∈ pass.routesAdded w.installed.get? entry ∨
        ∃ rec, w.installed.get? entry.1 = some rec ∧ pfx ∈ rec.routes) := by
  unfold Pass.routesAfter at h
  unfold Pass.routesAdded Pass.routesDeleted
  cases hrec : w.installed.get? entry.1 with
  | none => simpa [hrec] using h
  | some rec =>
      simp only [hrec] at h
      cases hsync : pass.syncExistingRoutes with
      | false => simpa [hsync] using h
      | true =>
          simp only [hsync, if_true] at h
          simp only [if_true, mem_setDiff]
          by_cases hmem : pfx ∈ rec.routes
          · exact ⟨fun hdel => hdel.2 h, .inr ⟨rec, rfl, hmem⟩⟩
          · exact ⟨fun hdel => hdel.2 h, .inl ⟨h, hmem⟩⟩

theorem not_mem_routesAdded {rec : InstalledRec} {pfx : IpPrefix}
    (hrec : w.installed.get? entry.1 = some rec) (hpfx : pfx ∈ rec.routes) :
    pfx ∉ pass.routesAdded w.installed.get? entry := by
  simp only [Pass.routesAdded, hrec]
  split
  · rw [mem_setDiff]
    exact fun hadd => hadd.2 hpfx
  · simp

end Kept

theorem adoptable_iff : adoptable cfg pass w = true ↔
    Ready cfg w (wantSessions pass.ksessions).items ∧
    (∀ entry ∈ (wantSessions pass.ksessions).items,
      routesReady pass w entry = true) ∧
    ∀ key rec, w.installed.get? key = some rec →
      (wantSessions pass.ksessions).get? key = none →
      sparesWanted cfg pass w rec = true := by
  rw [ready_iff]
  simp only [adoptable, Bool.and_eq_true, List.all_eq_true, Bool.or_eq_true,
    Prod.forall, Dict.mem_items, and_assoc]
  refine and_congr_right fun _ => and_congr_right fun _ =>
    and_congr_right fun _ => ?_
  refine forall_congr' fun tid => forall_congr' fun sid =>
    forall_congr' fun rec => imp_congr_right fun _ => ?_
  cases (wantSessions pass.ksessions).get? (tid, sid) with
  | none => simp
  | some s => simp

section Pass

variable {cache : TunnelsCache} {w₁ w₂ : World}

theorem Adopting.records
    (h : Adopting cfg pass w (wantSessions pass.ksessions).items cache w₁)
    (hremoved : Removed (wantSessions pass.ksessions) w₁ w₁.installed.keys w₂)
    {key : SessionKey} {s : KSession}
    (hs : (wantSessions pass.ksessions).get? key = some s) :
    ∃ rec swIfIndex, w₂.installed.get? key = some rec ∧
      rec.swIfIndex = some swIfIndex ∧
      interfaceOf w₁.vpp key = some swIfIndex ∧
      (∀ pfx, pfx ∈ rec.routes ↔
        pfx ∈ pass.routesAfter w.installed.get? (key, s)) ∧
      ∀ p, (p, swIfIndex) ∈ w₁.vpp.fib ↔
        ((p, swIfIndex) ∈ w.vpp.fib ∨
          ∃ pfx ∈ pass.routesAdded w.installed.get? (key, s),
            p = pfx.decode) ∧
        ∀ pfx ∈ pass.routesDeleted w.installed.get? (key, s),
          p ≠ pfx.decode := by
  obtain ⟨rec, swIfIndex, hrec, hrest⟩ :=
    h.recorded (key, s) ((Dict.mem_items _).mpr hs)
  refine ⟨rec, swIfIndex, ?_, hrest⟩
  rw [hremoved.final, if_neg (by simp [hs]), hrec]

theorem Removed.wanted_of_some
    (h : Removed (wantSessions pass.ksessions) w₁ w₁.installed.keys w₂)
    {key : SessionKey} {rec : InstalledRec}
    (hrec : w₂.installed.get? key = some rec) :
    ∃ s, (wantSessions pass.ksessions).get? key = some s := by
  rw [h.final] at hrec
  split at hrec
  · contradiction
  · rename_i hwanted
    exact Option.ne_none_iff_exists'.mp hwanted

/-- A stale record of the loop is one of the start. -/
theorem Adopting.stale
    (h : Adopting cfg pass w (wantSessions pass.ksessions).items cache w₁)
    {key : SessionKey}
    (hstale : (wantSessions pass.ksessions).get? key = none) :
    w₁.installed.get? key = w.installed.get? key :=
  h.untouched key ((Dict.get?_eq_none _).mp hstale)

theorem recordsLive_of_adoptable {result : Nat × Nat}
    (hstore : StoreInv w.vpp) (hadoptable : adoptable cfg pass w = true)
    (h : exec (reconcile cfg pass) w = (.ok result, w')) : RecordsLive w' := by
  obtain ⟨hready, hroutes, hspares⟩ := adoptable_iff.mp hadoptable
  obtain ⟨cache, w₁, w₂, hloop, hremoved, hstore', hinstalled, hinterface,
    hfib⟩ := reconcile_adopted hstore h
  have hadopting : Adopting cfg pass w (wantSessions pass.ksessions).items
      cache w₁ := by
    rcases hloop with ⟨-, hadopting⟩ | ⟨hnot, -⟩
    · exact hadopting
    · exact absurd hready hnot
  have hspared : ∀ stale, (wantSessions pass.ksessions).get? stale = none →
      ∀ rec, w₁.installed.get? stale = some rec →
        WantedSpared pass w w₁ rec := by
    intro stale hstale rec hrec
    rw [hadopting.stale hstale] at hrec
    exact (hadopting.sparesWanted_iff hready).mp
      (hspares stale rec hrec hstale)
  rw [recordsLive_iff hstore', hinstalled, hinterface, hfib]
  intro key rec hrec
  obtain ⟨s, hs⟩ := hremoved.wanted_of_some hrec
  obtain ⟨rec', swIfIndex, hrec', hsw, hlive, hafter, hpaths⟩ :=
    hadopting.records hremoved hs
  rw [hrec] at hrec'
  cases hrec'
  have hitem := (Dict.mem_items _).mpr hs
  refine ⟨swIfIndex, hsw, ?_, ?_⟩
  · rw [hremoved.spared, hlive]
    intro stale _ hstale rec' hrec' hvictim
    rw [(hspared stale hstale rec' hrec').session key hvictim] at hs
    contradiction
  · intro pfx hpfx
    rw [hafter] at hpfx
    apply hremoved.fibSpared
    · rw [hpaths]
      obtain ⟨hdeleted, hadded | ⟨old, hold, hmem⟩⟩ := mem_routesAfter hpfx
      · refine ⟨.inr ⟨pfx, hadded, rfl⟩, ?_⟩
        intro other hother heq
        rw [IpPrefix.decode_inj.mp heq] at hdeleted
        exact hdeleted hother
      · obtain ⟨index, hindex, hlive'⟩ := hready.named _ hitem old hold
        rw [← hadopting.interface_recorded hold, hlive] at hlive'
        cases hlive'
        refine ⟨.inl ((routesReady_iff hold hindex).mp (hroutes _ hitem) pfx
          hmem hpfx), ?_⟩
        intro other hother heq
        rw [IpPrefix.decode_inj.mp heq] at hdeleted
        exact hdeleted hother
    · intro stale _ hstale rec' hrec' hsw' pfx' hpfx' heq
      rw [IpPrefix.decode_inj.mp heq] at hpfx'
      exact (hspared stale hstale rec' hrec').routes swIfIndex hsw' _ hitem
        hlive pfx hpfx' hpfx

/-- A wanted session is there at the end of the pass, with its routes. -/
structure Served (pass : Pass) (w w₁ w₂ : World) (key : SessionKey)
    (s : KSession) (swIfIndex : Nat) : Prop where
  loop : interfaceOf w₁.vpp key = some swIfIndex
  live : interfaceOf w₂.vpp key = some swIfIndex
  paths : ∀ p, (p, swIfIndex) ∈ w₁.vpp.fib → (p, swIfIndex) ∈ w.vpp.fib ∨
    ∃ pfx ∈ pass.routesAdded w.installed.get? (key, s), p = pfx.decode
  routes : ∀ pfx ∈ pass.routesAfter w.installed.get? (key, s),
    (pfx.decode, swIfIndex) ∈ w₂.vpp.fib

/-- A route that stays is not added, so it was there before. -/
theorem Served.routesReady {key : SessionKey} {s : KSession} {swIfIndex : Nat}
    (h : Served pass w w₁ w₂ key s swIfIndex)
    (hremoved : Removed (wantSessions pass.ksessions) w₁ w₁.installed.keys w₂)
    {rec : InstalledRec} (hrec : w.installed.get? key = some rec)
    (hsw : rec.swIfIndex = some swIfIndex) :
    routesReady pass w (key, s) = true := by
  refine (routesReady_iff hrec hsw).mpr ?_
  intro pfx hpfx hafter
  rcases h.paths _ (hremoved.fibShrunk (h.routes pfx hafter)) with
    hmem | ⟨other, hother, heq⟩
  · exact hmem
  · rw [← IpPrefix.decode_inj.mp heq] at hother
    exact absurd hother (not_mem_routesAdded hrec hpfx)

/-- What a stale record deletes is not there at the end. -/
theorem Removed.spares
    (h : Removed (wantSessions pass.ksessions) w₁ w₁.installed.keys w₂)
    (hserved : ∀ key s, (wantSessions pass.ksessions).get? key = some s →
      ∃ swIfIndex, Served pass w w₁ w₂ key s swIfIndex)
    {stale : SessionKey} {rec : InstalledRec}
    (hrec : w₁.installed.get? stale = some rec)
    (hstale : (wantSessions pass.ksessions).get? stale = none) :
    WantedSpared pass w w₁ rec := by
  have hdone : stale ∈ w₁.installed.keys := (Dict.mem_keys _).mpr ⟨rec, hrec⟩
  constructor
  · intro key hvictim
    rw [Option.eq_none_iff_forall_ne_some]
    intro s hs
    obtain ⟨swIfIndex, hsession⟩ := hserved key s hs
    have hlive := hsession.live
    rw [h.taken stale hdone hstale rec key hrec hvictim] at hlive
    contradiction
  · rintro swIfIndex hsw ⟨key, s⟩ hitem hlive pfx hpfx hafter
    obtain ⟨index, hsession⟩ := hserved key s ((Dict.mem_items _).mp hitem)
    rw [hsession.loop] at hlive
    cases hlive
    exact h.fibTaken stale hdone hstale rec _ hrec hsw
      (.inl ⟨key, hsession.live⟩) pfx hpfx (hsession.routes pfx hafter)

theorem adoptable_of_recordsLive {result : Nat × Nat}
    (hstore : StoreInv w.vpp)
    (h : exec (reconcile cfg pass) w = (.ok result, w'))
    (hrecords : RecordsLive w') : adoptable cfg pass w = true := by
  obtain ⟨cache, w₁, w₂, hloop, hremoved, hstore', hinstalled, hinterface,
    hfib⟩ := reconcile_adopted hstore h
  rw [recordsLive_iff hstore', hinstalled, hinterface, hfib] at hrecords
  rcases hloop with ⟨hready, hadopting⟩ | ⟨-, entry, hentry, hunnamed, -⟩
  · have hserved : ∀ key s, (wantSessions pass.ksessions).get? key = some s →
        ∃ swIfIndex, Served pass w w₁ w₂ key s swIfIndex := by
      intro key s hs
      obtain ⟨rec, swIfIndex, hrec, hsw, hlive, hafter, hpaths⟩ :=
        hadopting.records hremoved hs
      obtain ⟨index, hindex, hlive', hroutes⟩ := hrecords key rec hrec
      rw [hsw] at hindex
      cases hindex
      exact ⟨swIfIndex, hlive, hlive', fun p hp => ((hpaths p).mp hp).1,
        fun pfx hpfx => hroutes pfx ((hafter pfx).mpr hpfx)⟩
    rw [adoptable_iff]
    refine ⟨hready, ?_, ?_⟩
    · rintro ⟨key, s⟩ hitem
      cases hrec : w.installed.get? key with
      | none => simp [routesReady, hrec]
      | some rec =>
          obtain ⟨index, hsw, hnamed⟩ := hready.named _ hitem rec hrec
          obtain ⟨swIfIndex, hsession⟩ :=
            hserved key s ((Dict.mem_items _).mp hitem)
          have hlive := hsession.loop
          rw [hadopting.interface_recorded hrec, hnamed] at hlive
          cases hlive
          exact hsession.routesReady hremoved hrec hsw
    · intro stale rec hrec hstale
      rw [← hadopting.stale hstale] at hrec
      exact (hadopting.sparesWanted_iff hready).mpr
        (hremoved.spares hserved hrec hstale)
  · obtain ⟨rec, hrec, hnot⟩ := hunnamed.unnamed
    obtain ⟨swIfIndex, hsw, hlive, -⟩ := hrecords entry.1 rec (by
      rw [hremoved.final, if_neg, hrec]
      rw [(Dict.mem_items _).mp hentry]
      simp)
    exact absurd ⟨swIfIndex, hsw, hremoved.shrunk _ _ hlive⟩ hnot

end Pass

/-- Over every plugin and with every record, the records are right after a pass
that returns exactly if they are right before, no wanted session is there
without a record, the tunnels can be opened and the stale records hit no wanted
session. -/
theorem recordsLive_iff_adoptable (cfg : Config)
    (hwInterfaces : Pool HwInterface) (swInterfaces : Pool SwInterface)
    (calls : List Call) (w : World)
    (hplugin : w.vpp = runCalls cfg.policies hwInterfaces swInterfaces calls)
    (pass : Pass) (result : Nat × Nat) (w' : World)
    (hpass : exec (reconcile cfg pass) w = (.ok result, w')) :
    RecordsLive w' ↔ adoptable cfg pass w = true := by
  have hstore : StoreInv w.vpp := by
    rw [hplugin]
    exact StoreInv.runCalls ..
  constructor
  · exact adoptable_of_recordsLive hstore hpass
  · intro hadoptable
    exact recordsLive_of_adoptable hstore hadoptable hpass

/-- A session with its route, as another process has left it. -/
def foreignSession : List Call :=
  [.tunnelAddDel (Ip46.ofIp4 0x0a000001) (Ip46.ofIp4 0x0a000002) 1701 1701 100
    200 true,
   .sessionAddDel 0 1000 2000 0 0 true,
   .routeAddDel (IpPrefix.host 0x0ac80005).decode 0 true]

def besideForeign : World :=
  { World.initial Pool.empty Pool.empty with
    vpp := runCalls Policies.lifo Pool.empty Pool.empty foreignSession }

theorem recordsLive_iff_adoptable_besideForeign :
    ∃ result w', exec (reconcile testConfig (testPass [newSubscriber]))
        besideForeign = (.ok result, w') ∧ RecordsLive w' := by
  have htest : (exec (reconcile testConfig (testPass [newSubscriber]))
      besideForeign).1.isOk = true ∧
      adoptable testConfig (testPass [newSubscriber]) besideForeign = true := by
    decide +kernel
  obtain ⟨hok, hadoptable⟩ := htest
  cases hexec : exec (reconcile testConfig (testPass [newSubscriber]))
      besideForeign with
  | mk outcome w' =>
      rw [hexec] at hok
      cases outcome with
      | error e => exact absurd hok Bool.false_ne_true
      | ok result =>
          exact ⟨result, w', rfl, (recordsLive_iff_adoptable testConfig
            Pool.empty Pool.empty foreignSession besideForeign rfl _ result w'
            hexec).mpr hadoptable⟩

/-- The session of the list is there already: its record gets no interface. -/
theorem not_recordsLive_foreignSession :
    ∃ w', exec (reconcile testConfig (testPass [oldSubscriber]))
        besideForeign = (.ok (1, 0), w') ∧ ¬ RecordsLive w' := by
  have htest : (match exec (reconcile testConfig (testPass [oldSubscriber]))
      besideForeign with
      | (.ok (1, 0), w') => (w'.installed.get? (100, 1000)).any fun rec =>
          rec.swIfIndex.isNone
      | _ => false) = true := by
    decide +kernel
  split at htest
  · rename_i w' hexec
    refine ⟨w', hexec, ?_⟩
    intro hrecords
    obtain ⟨rec, hrec, hnone⟩ := Option.any_eq_true _ _ |>.mp htest
    obtain ⟨index, sess, -, -, hsw, -⟩ := hrecords _ rec hrec
    rw [hsw] at hnone
    contradiction
  · contradiction

end L2tvpp.Syncd
