import L2tvpp.Syncd.Healing
import L2tvpp.Syncd.Loop

/-!
# Routes and the daemon loop

A pass of the loop re-checks the routes of installed sessions only if its tick
is a multiple of `routeResyncEvery`, whatever has woken it.  Such a pass brings
the record of every session up to date, and the plugin's routes too if they are
on the way from the recorded to the current ones.
-/

namespace L2tvpp.Syncd

open L2tvpp.Lib L2tvpp.Plugin

variable {cfg : Config} {pass : Pass} {w w' : World}

/-! ## Passes of the loop -/

/-- What a pass of the loop finds: the kernel's list, or that it cannot be read,
the kernel's routes and the call that raises. -/
structure PassInput where
  kernel : Except PyExc (List KSession)
  pppRoutes : PppRoutes
  interrupt : Option Interrupt

/-- `except Exception` does not catch a `SystemExit`. -/
def PyExc.outcome : PyExc → PassOutcome
  | .systemExit => .exited
  | _ => .raised

def syncPass (cfg : Config) (syncExistingRoutes : Bool) (input : PassInput)
    (w : World) : PassOutcome × World :=
  match input.kernel with
  | .error e => (e.outcome, w)
  | .ok ksessions =>
      match exec (reconcile cfg ⟨ksessions, syncExistingRoutes,
        input.pppRoutes⟩) (w.startInterrupted input.interrupt) with
      | (.ok _, w') => (.returned, w')
      | (.error e, w') => (e.outcome, w')

theorem outcome_ne_returned (e : PyExc) : e.outcome ≠ .returned := by
  cases e <;> decide

theorem syncPass_returned {syncExistingRoutes : Bool} {input : PassInput}
    (h : syncPass cfg syncExistingRoutes input w = (.returned, w')) :
    ∃ ksessions result, input.kernel = .ok ksessions ∧
      exec (reconcile cfg ⟨ksessions, syncExistingRoutes, input.pppRoutes⟩)
        (w.startInterrupted input.interrupt) = (.ok result, w') := by
  unfold syncPass at h
  split at h
  · exact absurd (congrArg Prod.fst h) (outcome_ne_returned _)
  · rename_i ksessions hkernel
    split at h
    · rename_i result final hexec
      cases h
      exact ⟨ksessions, result, hkernel, hexec⟩
    · exact absurd (congrArg Prod.fst h) (outcome_ne_returned _)

/-! ## The store through any pass -/

theorem StoreInv.handle {P : Policies} {v : Vpp} {call : ApiCall}
    (h : StoreInv v) : StoreInv (handle P v call).2 := by
  cases handleStep_handle P v call with
  | same hv' =>
      rw [hv']
      exact h
  | tunnelAdd hfind hv' =>
      rw [hv']
      exact h.tunnelAdd hfind
  | tunnelDel hv' =>
      rw [hv']
      exact h.tunnelDel _
  | sessionAdd hcall hkey hv' =>
      rw [hv']
      exact h.sessionAdd hkey
  | sessionDel hcall hkey hsess hv' =>
      rw [hv']
      exact h.sessionDel hkey hsess
  | route hcall hroute =>
      exact h.of_sameStore (sameStore_l2tvppRouteAddDel hroute)

theorem storeInv_syncPass {syncExistingRoutes : Bool} {input : PassInput}
    (h : StoreInv w.vpp) :
    StoreInv (syncPass cfg syncExistingRoutes input w).2.vpp := by
  have hkeep : ∀ pass, Triple (fun m : World => StoreInv m.vpp)
      (reconcile cfg pass) (fun _ m => StoreInv m.vpp)
      fun m => StoreInv m.vpp := by
    intro pass
    have hsteps : StepsKeep cfg fun m : World => StoreInv m.vpp :=
      ⟨fun _ _ hm => StoreInv.handle hm, fun _ _ hm => hm⟩
    refine hsteps.reconcile ?_
    intro m hm
    cases cfg.statePath with
    | true => exact hm
    | false => exact hm
  have hstart : StoreInv (w.startInterrupted input.interrupt).vpp := h
  unfold syncPass
  split
  · exact h
  · split
    · rename_i hexec
      exact (hkeep _).ok hstart hexec
    · rename_i hexec
      exact (hkeep _).error hstart hexec

theorem Loop.storeInv_run {interval : Int} {d d' : Loop World}
    {events : List (Event PassInput)} (h : StoreInv d.sync.vpp)
    (hrun : runAll (Loop.step (syncPass cfg) interval) d events = some d') :
    StoreInv d'.sync.vpp := by
  refine runAll_invariant _ (fun d : Loop World => StoreInv d.sync.vpp) ?_ h
    hrun
  intro d event next hd hstep
  cases event with
  | passEnds input =>
      have hpass : StoreInv (syncPass cfg (syncsExistingRoutes d.tick) input
        d.sync).2.vpp := storeInv_syncPass hd
      simp only [Loop.step] at hstep
      split at hstep
      · split at hstep <;> cases hstep <;> exact hpass
      · contradiction
  | _ =>
      simp only [Loop.step] at hstep
      split at hstep <;> cases hstep <;> exact hd

/-! ## The first loop, whatever the replies -/

structure Tried (w : World) (done : List (SessionKey × KSession))
    (cache : TunnelsCache) (m : World) : Prop where
  store : StoreInv m.vpp
  cacheTid : CacheTid m.vpp cache
  untouched : ∀ key, key ∉ done.map Prod.fst →
    m.installed.get? key = w.installed.get? key

theorem tried_run {acc : Nat × TunnelsCache} {w₁ : World}
    (Inv : List (SessionKey × KSession) → World → Prop)
    (hstep : ∀ done entry, entry.1 ∉ done.map Prod.fst →
      entry.1 = entry.2.sessionKey →
      (wantSessions pass.ksessions).get? entry.1 = some entry.2 →
      ∀ cache cache' m m', Tried w done cache m → Inv done m →
        EntryTried cfg pass entry cache cache' m m' → Inv (done ++ [entry]) m')
    (hstore : StoreInv w.vpp) (hinit : Inv [] (w.logged cfg .tunnelDump))
    (hrun : exec ((wantSessions pass.ksessions).items.foldlM
      (reconcileSession cfg pass) (0, dumpedTunnels w.vpp))
      (w.logged cfg .tunnelDump) = (.ok acc, w₁)) :
    StoreInv w₁.vpp ∧ Inv (wantSessions pass.ksessions).items w₁ := by
  have hstart : Tried w [] (dumpedTunnels w.vpp) (w.logged cfg .tunnelDump) :=
    ⟨hstore, (cacheSound_dumpedTunnels w.vpp).cacheTid, fun _ _ => rfl⟩
  have hloop := exec_foldlM_invariant
    (fun done acc m => Tried w done acc.2 m ∧ Inv done m) ?_ ⟨hstart, hinit⟩
    hrun
  · exact ⟨hloop.1.store, hloop.2⟩
  intro done entry rest heq acc m acc' m' hinv hround
  obtain ⟨htried, hinv⟩ := hinv
  obtain ⟨hkey, hnew⟩ := wantSessions_entry heq
  have hget := (wantSessions pass.ksessions).mem_items.mp
    (heq ▸ List.mem_append_right done List.mem_cons_self)
  obtain ⟨htid, hentry⟩ :=
    reconcileSession_tried htried.store htried.cacheTid hkey hround
  obtain ⟨hstore', ⟨rec, hinstalled⟩, -⟩ :=
    hentry.frame htried.store htried.cacheTid hkey
  refine ⟨⟨hstore', htid, ?_⟩,
    hstep done entry hnew hkey hget _ _ _ _ htried hinv hentry⟩
  intro key hnot
  obtain ⟨hnot, hne⟩ := untouched_append hnot
  rw [hinstalled, Function.update_of_ne hne, htried.untouched key hnot]

/-! ## What is recorded -/

/-- The record of a wanted session after a pass. -/
def RecordedAs (pass : Pass) (w : World) (entry : SessionKey × KSession)
    (rec : InstalledRec) : Prop :=
  (∀ pfx, pfx ∈ rec.routes ↔ pfx ∈ pass.routesAfter w.installed.get? entry) ∧
    (pass.syncExistingRoutes = false → ∀ old,
      w.installed.get? entry.1 = some old → rec = old)

theorem EntryTried.recordedAs {entry : SessionKey × KSession}
    {cache cache' : TunnelsCache} {m m' : World}
    (h : EntryTried cfg pass entry cache cache' m m')
    (hstore : StoreInv m.vpp) (hcache : CacheTid m.vpp cache)
    (hkey : entry.1 = entry.2.sessionKey)
    (hold : m.installed.get? entry.1 = w.installed.get? entry.1) :
    ∃ rec, m'.installed.get? entry.1 = some rec ∧
      RecordedAs pass w entry rec := by
  cases h with
  | added hnew hadded hopen =>
      obtain ⟨tunnelIndex, hinstalled⟩ :=
        (hadded.added hstore hcache).installed
      rw [hold] at hnew
      refine ⟨_, by rw [hinstalled, ← hkey, Function.update_self], ?_, ?_⟩
      · intro pfx
        rw [Pass.routesAfter, hnew]
        rfl
      · intro _ old hrec
        rw [hnew] at hrec
        contradiction
  | rejected hnew hrejected =>
      obtain ⟨tunnelIndex, hinstalled⟩ := hrejected.installed
      rw [hold] at hnew
      refine ⟨_, by rw [hinstalled, ← hkey, Function.update_self], ?_, ?_⟩
      · intro pfx
        rw [Pass.routesAfter, hnew]
        rfl
      · intro _ old hrec
        rw [hnew] at hrec
        contradiction
  | synced hsync hrec hcache' hsynced =>
      obtain ⟨routes, hroutes, hinstalled⟩ := hsynced.installed
      rw [hold] at hrec
      refine ⟨_, by rw [hinstalled, Function.update_self], ?_, ?_⟩
      · intro pfx
        rw [Pass.routesAfter, hrec]
        simp only [hsync, if_true]
        exact hroutes pfx
      · intro hunsynced
        rw [hsync] at hunsynced
        contradiction
  | kept hsync hrec hcache' hw =>
      rename_i rec
      subst hw
      refine ⟨rec, hrec, ?_, ?_⟩
      · intro pfx
        rw [Pass.routesAfter, ← hold, hrec]
        simp only [hsync, Bool.false_eq_true, if_false]
      · intro _ old hrec'
        rw [← hold, hrec] at hrec'
        exact Option.some.inj hrec'

theorem reconcile_recorded {result : Nat × Nat} (hstore : StoreInv w.vpp)
    (hrun : exec (reconcile cfg pass) w = (.ok result, w'))
    {key : SessionKey} {s : KSession}
    (hs : (wantSessions pass.ksessions).get? key = some s) :
    ∃ rec, w'.installed.get? key = some rec ∧
      RecordedAs pass w (key, s) rec := by
  obtain ⟨acc, w₁, removed, w₂, w₃, hadding, hremoving, hprune, -, hinstalled,
    -⟩ := reconcile_run hrun
  obtain ⟨hstore₁, hrecorded⟩ := tried_run (fun done m => ∀ entry ∈ done,
    ∃ rec, m.installed.get? entry.1 = some rec ∧ RecordedAs pass w entry rec)
    (fun done entry hnew hkey _ cache cache' m m' htried hinv hentry => by
      intro other hother
      rcases List.mem_append.mp hother with hother | hother
      · obtain ⟨_, ⟨_, hupdate⟩, -⟩ :=
          hentry.frame htried.store htried.cacheTid hkey
        rw [hupdate, Function.update_of_ne (fst_ne_of_mem hnew hother)]
        exact hinv other hother
      · rw [List.mem_singleton.mp hother]
        exact hentry.recordedAs htried.store htried.cacheTid hkey
          (htried.untouched entry.1 hnew))
    hstore (by simp) hadding
  have hremoved := Removed.run hstore₁ hremoving
  have hfinal : w'.installed.get? key = w₁.installed.get? key := by
    have hlast : w₃.installed = w₂.installed := by
      rcases hprune with ⟨-, rfl⟩ | ⟨-, hprune⟩
      · rfl
      · exact (pruneTunnels_frame hremoved.store hprune).installed
    rw [hinstalled, hlast, hremoved.final, if_neg (by simp [hs])]
  rw [hfinal]
  exact hrecorded (key, s) ((wantSessions pass.ksessions).mem_items.mpr hs)

/-! ## What is installed -/

/-- The record of the session names its interface, and no other record does. -/
structure OwnInterface (w : World) (key : SessionKey) (swIfIndex : Nat) :
    Prop where
  named : ∃ rec, w.installed.get? key = some rec ∧
    rec.swIfIndex = some swIfIndex
  live : interfaceOf w.vpp key = some swIfIndex
  apart : ∀ other rec, w.installed.get? other = some rec →
    rec.swIfIndex = some swIfIndex → other = key

namespace OwnInterface

variable {key other : SessionKey} {swIfIndex : Nat} {m m' : World}

/-- Another record is written, without that interface. -/
theorem write (h : OwnInterface m key swIfIndex) {rec : InstalledRec}
    (hinstalled : m'.installed.get? =
      Function.update m.installed.get? other (some rec))
    (hne : other ≠ key) (hsw : rec.swIfIndex ≠ some swIfIndex)
    (hlive : interfaceOf m'.vpp key = interfaceOf m.vpp key) :
    OwnInterface m' key swIfIndex where
  named := by
    rw [hinstalled, Function.update_of_ne (Ne.symm hne)]
    exact h.named
  live := hlive.trans h.live
  apart := by
    intro third rec' hrec' hsw'
    rw [hinstalled, Function.update_apply] at hrec'
    split at hrec'
    · cases hrec'
      exact absurd hsw' hsw
    · exact h.apart third rec' hrec' hsw'

/-- A record keeps its interface. -/
theorem rewrite (h : OwnInterface m key swIfIndex) {old rec : InstalledRec}
    (hold : m.installed.get? other = some old)
    (hinstalled : m'.installed.get? =
      Function.update m.installed.get? other (some rec))
    (hsw : rec.swIfIndex = old.swIfIndex)
    (hlive : interfaceOf m'.vpp key = interfaceOf m.vpp key) :
    OwnInterface m' key swIfIndex where
  named := by
    obtain ⟨own, hown, hnamed⟩ := h.named
    rw [hinstalled, Function.update_apply]
    split
    · rename_i heq
      rw [heq, hold] at hown
      cases hown
      exact ⟨rec, rfl, hsw.trans hnamed⟩
    · exact ⟨own, hown, hnamed⟩
  live := hlive.trans h.live
  apart := by
    intro third rec' hrec' hsw'
    rw [hinstalled, Function.update_apply] at hrec'
    split at hrec'
    · rename_i heq
      cases hrec'
      rw [heq]
      exact h.apart other old hold (hsw.symm.trans hsw')
    · exact h.apart third rec' hrec' hsw'

end OwnInterface

/-- The routes of one session in the first loop of a pass that checks them. -/
structure SyncedOver (w : World) (key : SessionKey) (swIfIndex : Nat)
    (wantRoutes : List IpPrefix) (done : List (SessionKey × KSession))
    (m : World) : Prop where
  own : OwnInterface m key swIfIndex
  before : key ∉ done.map Prod.fst →
    routesOver m.vpp swIfIndex = routesOver w.vpp swIfIndex
  after : key ∈ done.map Prod.fst →
    routesOver m.vpp swIfIndex = prefixSet wantRoutes

section SyncedOver

variable {key : SessionKey} {swIfIndex : Nat} {wantRoutes : List IpPrefix}
  {done : List (SessionKey × KSession)} {entry : SessionKey × KSession}
  {m m' : World}

theorem SyncedOver.other (h : SyncedOver w key swIfIndex wantRoutes done m)
    (hne : entry.1 ≠ key) (hown : OwnInterface m' key swIfIndex)
    (hroutes : routesOver m'.vpp swIfIndex = routesOver m.vpp swIfIndex) :
    SyncedOver w key swIfIndex wantRoutes (done ++ [entry]) m' where
  own := hown
  before := by
    intro hnot
    rw [hroutes, h.before (untouched_append hnot).1]
  after := by
    intro hmem
    rw [List.map_append, List.mem_append] at hmem
    rcases hmem with hmem | hmem
    · rw [hroutes, h.after hmem]
    · exact absurd (List.mem_singleton.mp hmem).symm hne

theorem SyncedSession.over_other {other : SessionKey} {rec : InstalledRec}
    (h : SyncedSession cfg other wantRoutes rec m m')
    (hsw : rec.swIfIndex ≠ some swIfIndex) :
    routesOver m'.vpp swIfIndex = routesOver m.vpp swIfIndex := by
  by_cases hlive : ∃ index third, rec.swIfIndex = some index ∧
      interfaceOf m.vpp third = some index
  · obtain ⟨index, third, hindex, hthird⟩ := hlive
    obtain ⟨v, hadded, hdeleted⟩ := h.live index third hindex hthird
    have hne : swIfIndex ≠ index := by
      rintro rfl
      exact hsw hindex
    rw [hdeleted.over_other hne, hadded.over_other hne]
  · rw [h.dead fun index third hindex hthird =>
      hlive ⟨index, third, hindex, hthird⟩]

theorem SyncedSession.over_own {rec : InstalledRec}
    (h : SyncedSession cfg key wantRoutes rec m m')
    (hsw : rec.swIfIndex = some swIfIndex)
    (hlive : interfaceOf m.vpp key = some swIfIndex)
    (hbetween : routesOver m.vpp swIfIndex ∈
      Set.uIcc (prefixSet rec.routes) (prefixSet wantRoutes)) :
    routesOver m'.vpp swIfIndex = prefixSet wantRoutes := by
  obtain ⟨v, hadded, hdeleted⟩ := h.live swIfIndex key hsw hlive
  have hfirst := hadded.over_own
  have hsecond := hdeleted.over_own
  rw [prefixSet_list, prefixSet_setDiff, if_pos rfl] at hfirst
  rw [prefixSet_list, prefixSet_setDiff, if_neg Bool.false_ne_true, hfirst]
    at hsecond
  rw [hsecond]
  exact changed_eq_wanted hbetween

theorem SyncedOver.step {cache cache' : TunnelsCache} {rec : InstalledRec}
    (hsync : pass.syncExistingRoutes = true)
    (hrec : w.installed.get? key = some rec)
    (hbetween : routesOver w.vpp swIfIndex ∈
      Set.uIcc (prefixSet rec.routes) (prefixSet wantRoutes))
    (hwant : entry.1 = key →
      entry.2.fetchRoutes pass.pppRoutes = wantRoutes)
    (hnew : entry.1 ∉ done.map Prod.fst) (hkey : entry.1 = entry.2.sessionKey)
    (htried : Tried w done cache m)
    (h : SyncedOver w key swIfIndex wantRoutes done m)
    (hentry : EntryTried cfg pass entry cache cache' m m') :
    SyncedOver w key swIfIndex wantRoutes (done ++ [entry]) m' := by
  obtain ⟨own, hown, hnamed⟩ := h.own.named
  cases hentry with
  | added hnone hadded hopen =>
      have hne : entry.1 ≠ key := by
        rintro rfl
        rw [hown] at hnone
        contradiction
      have hsession := hadded.added htried.store htried.cacheTid
      obtain ⟨tunnelIndex, hinstalled⟩ := hsession.installed
      have hfresh : some swIfIndex ≠ some (m.vpp.swInterfaces.nextIndex
          cfg.policies.swInterfaces) := by
        rw [← h.own.live]
        exact interfaceOf_ne_nextIndex htried.store key
      refine h.other hne (h.own.write hinstalled (hkey ▸ hne)
        (Ne.symm hfresh) ?_) ?_
      · rw [hsession.interface, Function.update_of_ne (hkey ▸ hne.symm)]
      · ext p
        rw [mem_routesOver, hsession.fib, mem_routesOver]
        refine or_iff_left ?_
        rintro ⟨pfx, -, heq⟩
        exact hfresh (congrArg some (Prod.mk.inj heq).2)
  | rejected hnone hrejected =>
      have hne : entry.1 ≠ key := by
        rintro rfl
        rw [hown] at hnone
        contradiction
      obtain ⟨tunnelIndex, hinstalled⟩ := hrejected.installed
      refine h.other hne (h.own.write hinstalled (hkey ▸ hne) (by
        simp [KSession.record]) (congrFun hrejected.interface key)) ?_
      rw [routesOver_congr hrejected.fib]
  | @synced old _ hold hcache hsynced =>
      obtain ⟨routes, -, hinstalled⟩ := hsynced.installed
      have hown' : OwnInterface m' key swIfIndex :=
        h.own.rewrite hold hinstalled rfl
          (congrFun (interfaceOf_sameStore hsynced.sameStore) key)
      by_cases hne : entry.1 = key
      · -- its own turn: the record and the routes are as before the pass
        rw [hne] at hold hnew hsynced
        rw [hown] at hold
        cases hold
        rw [htried.untouched key hnew, hrec] at hown
        cases hown
        rw [hwant hne] at hsynced
        have hroutes := hsynced.over_own hnamed h.own.live (by
          rw [h.before hnew]
          exact hbetween)
        refine ⟨hown', fun hnot => ?_, fun _ => hroutes⟩
        exact absurd hne.symm (untouched_append hnot).2
      · refine h.other hne hown' (hsynced.over_other ?_)
        exact fun hsw => hne (h.own.apart entry.1 old hold hsw)
  | kept hunsynced =>
      rw [hsync] at hunsynced
      contradiction

end SyncedOver

theorem reconcile_routesOver {result : Nat × Nat} (hstore : StoreInv w.vpp)
    (hrun : exec (reconcile cfg pass) w = (.ok result, w'))
    (hsync : pass.syncExistingRoutes = true) {key : SessionKey}
    {s : KSession} {rec : InstalledRec} {swIfIndex : Nat}
    (hs : (wantSessions pass.ksessions).get? key = some s)
    (hrec : w.installed.get? key = some rec)
    (hown : OwnInterface w key swIfIndex)
    (hbetween : routesOver w.vpp swIfIndex ∈ Set.uIcc (prefixSet rec.routes)
      (prefixSet (s.fetchRoutes pass.pppRoutes))) :
    routesOver w'.vpp swIfIndex =
      prefixSet (s.fetchRoutes pass.pppRoutes) := by
  obtain ⟨acc, w₁, removed, w₂, w₃, hadding, hremoving, hprune, hvpp, -⟩ :=
    reconcile_run hrun
  obtain ⟨hstore₁, hsynced⟩ := tried_run
    (SyncedOver w key swIfIndex (s.fetchRoutes pass.pppRoutes))
    (fun done entry hnew hkey hget cache cache' m m' htried hinv hentry =>
      hinv.step hsync hrec hbetween (fun heq => by
        rw [heq, hs] at hget
        rw [Option.some.inj hget]) hnew hkey htried hentry)
    hstore ⟨⟨hown.named, hown.live, hown.apart⟩, fun _ => rfl, by simp⟩ hadding
  have hremoved := Removed.run hstore₁ hremoving
  have hloop : routesOver w₂.vpp swIfIndex = routesOver w₁.vpp swIfIndex := by
    ext p
    constructor
    · exact fun hp => hremoved.fibShrunk hp
    · intro hp
      refine hremoved.fibSpared (p, swIfIndex) hp ?_
      -- only the record of the session itself has its interface
      intro stale _ hgone rec' hrec' hsw
      rw [hsynced.own.apart stale rec' hrec' hsw, hs] at hgone
      contradiction
  have hlast : w₃.vpp.fib = w₂.vpp.fib := by
    rcases hprune with ⟨-, rfl⟩ | ⟨-, hprune⟩
    · rfl
    · exact (pruneTunnels_frame hremoved.store hprune).fib
  rw [hvpp, routesOver_congr hlast, hloop]
  exact hsynced.after ((wantSessions pass.ksessions).mem_keys.mpr ⟨s, hs⟩)

/-! ## After a SIGHUP -/

theorem Loop.step_returned {interval : Int} {d d' : Loop World}
    {input : PassInput}
    (h : Loop.step (syncPass cfg) interval d (.passEnds input) = some d')
    (hreturns : d'.tick = d.tick + 1) :
    syncPass cfg (syncsExistingRoutes d.tick) input d.sync =
      (.returned, d'.sync) := by
  simp only [Loop.step] at h
  split at h
  · split at h
    · rename_i houtcome
      cases h
      exact Prod.ext houtcome rfl
    · cases h
      simp at hreturns
    · cases h
      simp at hreturns
  · contradiction

/-- A pass that returns after a SIGHUP brings the routes of an installed session
up to date if its tick is one of those that check them, the plugin's if they
were between the recorded and the current ones; otherwise it leaves the record
of the session as it is. -/
theorem sighup_resyncs_on_tick (cfg : Config) (interval : Int)
    (hwInterfaces : Pool HwInterface) (swInterfaces : Pool SwInterface)
    (calls : List Call) (d₀ d d' : Loop World)
    (hplugin : d₀.sync.vpp =
      runCalls cfg.policies hwInterfaces swInterfaces calls)
    (before between : List (Event PassInput)) (input : PassInput)
    (hrun : runAll (Loop.step (syncPass cfg) interval) d₀
      (before ++ .hup :: between) = some d)
    (hpass : Loop.step (syncPass cfg) interval d (.passEnds input) = some d')
    (hreturns : d'.tick = d.tick + 1) :
    ∃ ksessions, input.kernel = .ok ksessions ∧
      ∀ key s rec, (wantSessions ksessions).get? key = some s →
        d.sync.installed.get? key = some rec →
        ∃ rec', d'.sync.installed.get? key = some rec' ∧
          (d.tick % routeResyncEvery = 0 →
            (∀ pfx, pfx ∈ rec'.routes ↔
              pfx ∈ s.fetchRoutes input.pppRoutes) ∧
            ∀ swIfIndex, OwnInterface d.sync key swIfIndex →
              routesOver d.sync.vpp swIfIndex ∈
                Set.uIcc (prefixSet rec.routes)
                  (prefixSet (s.fetchRoutes input.pppRoutes)) →
              routesOver d'.sync.vpp swIfIndex =
                prefixSet (s.fetchRoutes input.pppRoutes)) ∧
          (d.tick % routeResyncEvery ≠ 0 → rec' = rec) := by
  have hstore : StoreInv d.sync.vpp := by
    refine Loop.storeInv_run ?_ hrun
    rw [hplugin]
    exact StoreInv.runCalls ..
  obtain ⟨ksessions, result, hkernel, hexec⟩ :=
    syncPass_returned (Loop.step_returned hpass hreturns)
  have hstart : StoreInv (d.sync.startInterrupted input.interrupt).vpp := hstore
  refine ⟨ksessions, hkernel, ?_⟩
  intro key s rec hs hrec
  obtain ⟨rec', hrec', hroutes, hkept⟩ := reconcile_recorded hstart hexec hs
  refine ⟨rec', hrec', ?_, ?_⟩
  · intro htick
    have hsync : syncsExistingRoutes d.tick = true := beq_iff_eq.mpr htick
    constructor
    · intro pfx
      rw [hroutes pfx, Pass.routesAfter]
      split
      · rfl
      · rw [if_pos hsync]
    · intro swIfIndex hown hbetween
      exact reconcile_routesOver hstart hexec hsync hs hrec
        ⟨hown.named, hown.live, hown.apart⟩ hbetween
  · intro htick
    exact hkept (beq_eq_false_iff_ne.mpr htick) rec hrec

def kernelReads (ksessions : List KSession) (interrupt : Option Interrupt) :
    PassInput where
  kernel := .ok ksessions
  pppRoutes := fun _ => []
  interrupt := interrupt

def pppSession (localSid : U16) (routes : List IpPrefix) : KSession :=
  ksession 0x0a000002 100 localSid 200 2000 "ppp0" routes

def firstAddress : IpPrefix := IpPrefix.host 0x0ac80005

def secondAddress : IpPrefix := IpPrefix.host 0x0ac80006

def ended (input : PassInput) : List (Event PassInput) :=
  [.resetWake, .kernelSessions, .passEnds input]

/-- One pass has installed the session, and a SIGHUP has started the next. -/
def afterHup : Option (Loop World) :=
  runAll (Loop.step (syncPass testConfig) 30)
    (Loop.start (World.initial Pool.empty Pool.empty))
    (ended (kernelReads [pppSession 1000 [firstAddress]] none) ++
      .hup :: [.check, .resetWake, .kernelSessions])

def gainsAddress : PassInput :=
  kernelReads [pppSession 1000 [firstAddress, secondAddress]] none

/-- Two passes are broken off, the second one after it has added a route that
the kernel then takes back. -/
def afterBrokenOff : Option (Loop World) :=
  runAll (Loop.step (syncPass testConfig) 30)
    (Loop.start (World.initial Pool.empty Pool.empty))
    (ended (kernelReads [pppSession 1000 [firstAddress], pppSession 1001 []]
        (some ⟨4, false, .apiError⟩)) ++ [.hup, .check] ++
      ended (kernelReads [pppSession 1000 [firstAddress, secondAddress]]
        (some ⟨1, true, .apiError⟩)) ++
      .hup :: [.check, .resetWake, .kernelSessions])

/-- The daemon is started anew over what another process has left, with the
record of it. -/
def recordedForeign : World :=
  { World.initial Pool.empty Pool.empty with
    vpp := runCalls testConfig.policies Pool.empty Pool.empty foreignSession
    installed := Dict.empty.set (100, 1000)
      ((pppSession 1000 []).record (some 0) (some 0) [firstAddress]) }

theorem ownInterface_recordedForeign :
    OwnInterface recordedForeign (100, 1000) 0 where
  named := ⟨_, rfl, rfl⟩
  live := by decide +kernel
  apart := by
    intro other rec hrec _
    rw [recordedForeign, Dict.get?_set] at hrec
    split at hrec
    · assumption
    · contradiction

theorem routesOver_recordedForeign :
    routesOver recordedForeign.vpp 0 = prefixSet [firstAddress] := by
  have hfib : recordedForeign.vpp.fib = {(firstAddress.decode, 0)} := by
    decide +kernel
  ext p
  simp [mem_routesOver, hfib, prefixSet]

theorem sighup_resyncs_on_tick_recordedForeign :
    ∃ d', Loop.step (syncPass testConfig) 30
        ⟨.pass, false, 0, recordedForeign⟩ (.passEnds gainsAddress) = some d' ∧
      routesOver d'.sync.vpp 0 = prefixSet [firstAddress, secondAddress] := by
  have hrun : ∃ d' ∈ Loop.step (syncPass testConfig) 30
      ⟨.pass, false, 0, recordedForeign⟩ (.passEnds gainsAddress),
      d'.tick = 0 + 1 := by
    decide +kernel
  obtain ⟨d', hd', htick⟩ := hrun
  obtain ⟨ksessions, hkernel, hsynced⟩ := sighup_resyncs_on_tick testConfig 30
    Pool.empty Pool.empty foreignSession (Loop.start recordedForeign)
    ⟨.pass, false, 0, recordedForeign⟩ d' rfl [] [.resetWake, .kernelSessions]
    gainsAddress rfl hd' htick
  cases hkernel
  obtain ⟨rec', -, hrecorded, -⟩ := hsynced (100, 1000) _ _ rfl rfl
  refine ⟨d', hd', (hrecorded rfl).2 0 ownInterface_recordedForeign ?_⟩
  rw [routesOver_recordedForeign]
  exact Set.left_mem_uIcc

/-- On the second tick the pass leaves the routes as they are; and after passes
that were broken off it leaves a route behind. -/
theorem sighup_leaves_routes :
    (∃ d d' rec, afterHup = some d ∧
      Loop.step (syncPass testConfig) 30 d (.passEnds gainsAddress) = some d' ∧
      d'.tick = d.tick + 1 ∧ d.sync.installed.get? (100, 1000) = some rec ∧
      d'.sync.installed.get? (100, 1000) = some rec ∧
      secondAddress ∉ rec.routes) ∧
    ∃ d d' rec swIfIndex, afterBrokenOff = some d ∧
      Loop.step (syncPass testConfig) 30 d
        (.passEnds (kernelReads [pppSession 1000 [firstAddress]] none)) =
        some d' ∧
      d'.tick = d.tick + 1 ∧ d.tick % routeResyncEvery = 0 ∧
      d'.sync.installed.get? (100, 1000) = some rec ∧
      rec.routes = [firstAddress] ∧ rec.swIfIndex = some swIfIndex ∧
      (secondAddress.decode, swIfIndex) ∈ d'.sync.vpp.fib := by
  have hunchecked : ∃ d ∈ afterHup, ∃ d' ∈
      Loop.step (syncPass testConfig) 30 d (.passEnds gainsAddress),
      d'.tick = d.tick + 1 ∧ ∃ rec ∈ d.sync.installed.get? (100, 1000),
        d'.sync.installed.get? (100, 1000) = some rec ∧
        secondAddress ∉ rec.routes := by
    decide +kernel
  have hleft : ∃ d ∈ afterBrokenOff, ∃ d' ∈
      Loop.step (syncPass testConfig) 30 d
        (.passEnds (kernelReads [pppSession 1000 [firstAddress]] none)),
      d'.tick = d.tick + 1 ∧ d.tick % routeResyncEvery = 0 ∧
        ∃ rec ∈ d'.sync.installed.get? (100, 1000),
          rec.routes = [firstAddress] ∧ ∃ swIfIndex ∈ rec.swIfIndex,
            (secondAddress.decode, swIfIndex) ∈ d'.sync.vpp.fib := by
    decide +kernel
  constructor
  · obtain ⟨d, hd, d', hd', htick, rec, hrec, hrec', hnot⟩ := hunchecked
    exact ⟨d, d', rec, hd, hd', htick, hrec, hrec', hnot⟩
  · obtain ⟨d, hd, d', hd', htick, hsync, rec, hrec, hroutes, swIfIndex, hsw,
      hfib⟩ := hleft
    exact ⟨d, d', rec, swIfIndex, hd, hd', htick, hsync, hrec, hroutes, hsw,
      hfib⟩

end L2tvpp.Syncd
