import L2tvpp.Syncd.Adoption

/-!
# Passes that raise

An exception leaves the operations where they are: the calls made so far and
the writes to the record stay, the state file is as it was.  Without an
interrupt, a pass raises exactly if some session needs a tunnel for which there
is no local address.
-/

namespace L2tvpp.Syncd

open L2tvpp.Lib L2tvpp.Plugin

variable {cfg : Config} {pass : Pass} {w w' : World} {raised : World → Prop}

theorem exec_saveState : exec (saveState cfg) w = (.ok (),
    if cfg.statePath then { w with stateFile := some w.installed } else w) := by
  simp only [saveState, exec_get_bind]
  cases cfg.statePath <;> rfl

theorem saveState_triple {pre post : World → Prop} (result : Nat × Nat)
    (h : ∀ w, pre w → post
      (if cfg.statePath then { w with stateFile := some w.installed } else w)) :
    Triple pre (do saveState cfg; return result) (fun _ => post) raised := by
  intro w hw
  rw [exec_bind, exec_saveState]
  exact h w hw

/-! ## What every call and every write keeps -/

structure StepsKeep (cfg : Config) (I : World → Prop) : Prop where
  call : ∀ w call, I w → I (w.logged cfg call)
  record : ∀ (w : World) installed, I w → I { w with installed := installed }

namespace StepsKeep

variable {I : World → Prop} (h : StepsKeep cfg I)
include h

theorem callApi (call : ApiCall) :
    Triple I (callApi cfg call) (fun _ => I) I :=
  callApi_triple (fun w hw => h.call w call hw)
    fun w hw => ⟨hw, h.call w call hw⟩

theorem setInstalled (installed : InstalledDict) :
    Triple I (setInstalled installed) (fun _ => I) I :=
  fun w hw => h.record w installed hw

theorem vppTunnels : Triple I (vppTunnels cfg) (fun _ => I) I :=
  (h.callApi _).bind fun _ => .ret fun _ hw => hw

theorem ensureTunnel (s : KSession) (cache : TunnelsCache) :
    Triple I (ensureTunnel cfg s cache) (fun _ => I) I := by
  unfold Syncd.ensureTunnel
  split
  · exact .ret fun _ hw => hw
  · split
    · exact .raise fun _ hw => hw
    · exact (h.callApi _).bind fun _ => .ret fun _ hw => hw

theorem routes (pfxs : List IpPrefix) (swIfIndex : Option Nat)
    (isAdd : Bool) :
    Triple I (pfxs.forM fun pfx => route cfg pfx swIfIndex isAdd)
      (fun _ => I) I :=
  .forM (fun _ => I) fun _ _ _ _ => (h.callApi _).bind fun _ =>
    .ret fun _ hw => hw

theorem addSession (pppRoutes : PppRoutes) (s : KSession)
    (cache : TunnelsCache) :
    Triple I (addSession cfg pppRoutes s cache) (fun _ => I) I := by
  refine (h.ensureTunnel s cache).bind fun _ => ?_
  refine (h.callApi _).bind fun r => ?_
  refine (h.routes _ r.index true).bind fun _ => .readAny fun _ => ?_
  exact (h.setInstalled _).bind fun _ => .ret fun _ hw => hw

theorem syncRoutes (pppRoutes : PppRoutes) (s : KSession) :
    Triple I (syncRoutes cfg pppRoutes s) (fun _ => I) I := by
  refine .readAny fun w => ?_
  split
  · exact .raise fun _ hw => hw
  · rename_i rec _
    refine (h.routes _ rec.swIfIndex true).bind fun _ => ?_
    refine (h.routes _ rec.swIfIndex false).bind fun _ => ?_
    split
    · exact .readAny fun _ => h.setInstalled _
    · exact .ret fun _ hw => hw

theorem delSession (key : SessionKey) :
    Triple I (delSession cfg key) (fun _ => I) I := by
  refine .readAny fun w => ?_
  split
  · exact .raise fun _ hw => hw
  · rename_i rec _
    refine (h.routes _ rec.swIfIndex false).bind fun _ => ?_
    exact (h.callApi _).bind fun _ => .readAny fun _ => h.setInstalled _

theorem pruneTunnels : Triple I (pruneTunnels cfg) (fun _ => I) I := by
  refine (h.callApi _).bind fun reply => ?_
  refine h.vppTunnels.bind fun tunnels => ?_
  refine .forM (fun _ => I) fun _ entry _ _ => ?_
  split
  · exact .ret fun _ hw => hw
  · exact (h.callApi _).bind fun _ => .ret fun _ hw => hw

theorem reconcileSession (acc : Nat × TunnelsCache)
    (entry : SessionKey × KSession) :
    Triple I (reconcileSession cfg pass acc entry) (fun _ => I) I := by
  refine .readAny fun w => ?_
  split
  · exact (h.addSession _ _ _).bind fun _ => .ret fun _ hw => hw
  · split
    · exact (h.syncRoutes _ _).bind fun _ => .ret fun _ hw => hw
    · exact .ret fun _ hw => hw

theorem removeSession (want : Dict SessionKey KSession) (removed : Nat)
    (key : SessionKey) :
    Triple I (removeSession cfg want removed key) (fun _ => I) I := by
  unfold Syncd.removeSession
  split
  · exact (h.delSession key).bind fun _ => .ret fun _ hw => hw
  · exact .ret fun _ hw => hw

/-- The file is written last, so that a pass that raises has not written it. -/
theorem reconcile {post : World → Prop}
    (hsave : ∀ w, I w → post
      (if cfg.statePath then { w with stateFile := some w.installed } else w)) :
    Triple I (reconcile cfg pass) (fun _ => post) I := by
  refine h.vppTunnels.bind fun cache => ?_
  refine (Triple.foldlM (fun _ _ => I)
    (fun _ _ _ _ _ => h.reconcileSession _ _) _).bind fun acc => ?_
  refine .readAny fun w => ?_
  refine (Triple.foldlM (fun _ _ => I)
    (fun _ _ _ _ _ => h.removeSession _ _ _) _).bind fun removed => ?_
  split
  · exact h.pruneTunnels.bind fun _ => saveState_triple _ hsave
  · exact saveState_triple _ hsave

end StepsKeep

theorem stepsKeep_stateFile (file : Option InstalledDict) :
    StepsKeep cfg fun m => m.stateFile = file :=
  ⟨fun _ _ hm => hm, fun _ _ hm => hm⟩

theorem stateFile_of_raised {e : PyExc}
    (h : exec (reconcile cfg pass) w = (.error e, w')) :
    w'.stateFile = w.stateFile := by
  have hkeep : Triple (fun m => m.stateFile = w.stateFile)
      (reconcile cfg pass) (fun _ _ => True)
      fun m => m.stateFile = w.stateFile :=
    (stepsKeep_stateFile w.stateFile).reconcile fun _ _ => trivial
  exact hkeep.error rfl h

theorem stateFile_of_unsaved {result : Nat × Nat} (hpath : cfg.statePath = false)
    (h : exec (reconcile cfg pass) w = (.ok result, w')) :
    w'.stateFile = w.stateFile := by
  have hkeep : Triple (fun m => m.stateFile = w.stateFile)
      (reconcile cfg pass) (fun _ m => m.stateFile = w.stateFile)
      fun m => m.stateFile = w.stateFile := by
    refine (stepsKeep_stateFile w.stateFile).reconcile ?_
    intro m hm
    rw [hpath]
    exact hm
  exact hkeep.ok rfl h

/-! ## Operations without an interrupt -/

/-- No call raises, and the record is the given one. -/
structure Steady (installed : InstalledDict) (w : World) : Prop where
  interrupt : w.interrupt = none
  installed : w.installed = installed

section Steady

variable {installed : InstalledDict}

theorem callApi_steady (call : ApiCall) :
    Triple (Steady installed) (callApi cfg call) (fun _ => Steady installed)
      raised := by
  intro w hw
  simp only [callApi, exec_get_bind, hw.interrupt, exec_set_bind, exec_pure]
  exact ⟨hw.interrupt, hw.installed⟩

theorem routes_steady (pfxs : List IpPrefix) (swIfIndex : Option Nat)
    (isAdd : Bool) :
    Triple (Steady installed)
      (pfxs.forM fun pfx => route cfg pfx swIfIndex isAdd)
      (fun _ => Steady installed) raised :=
  .forM (fun _ => Steady installed) fun _ _ _ _ =>
    (callApi_steady _).bind fun _ => .ret fun _ hw => hw

/-- A write that starts from the record there is. -/
theorem write_steady (f : InstalledDict → InstalledDict) :
    Triple (Steady installed) (do setInstalled (f (← get).installed))
      (fun _ => Steady (f installed)) raised := by
  intro w hw
  rw [exec_get_bind, exec_setInstalled]
  exact ⟨hw.interrupt, congrArg f hw.installed⟩

/-- The tunnel raises exactly if it is not cached and has no local address. -/
theorem ensureTunnel_steady {s : KSession} {cache : TunnelsCache}
    (hraised : cache.get? s.tunnelKey = none →
      (localEndpoint cfg s).1 = none → ∀ m, raised m) :
    Triple (Steady installed) (ensureTunnel cfg s cache)
      (fun result m => Steady installed m ∧
        (cache.get? s.tunnelKey = none → (localEndpoint cfg s).1 ≠ none) ∧
        ∀ key, result.2.get? key = none ↔
          cache.get? key = none ∧ key ≠ s.tunnelKey) raised := by
  unfold ensureTunnel
  cases hcache : cache.get? s.tunnelKey with
  | some tunnelIndex =>
      refine .ret fun m hm => ⟨hm, by simp, ?_⟩
      intro key
      constructor
      · intro hkey
        refine ⟨hkey, ?_⟩
        rintro rfl
        rw [hcache] at hkey
        contradiction
      · exact fun h => h.1
  | none =>
      cases hlocal : localEndpoint cfg s with
      | mk localIp localPort =>
          cases localIp with
          | none => exact .raise fun m _ => hraised hcache (by rw [hlocal]) m
          | some localIp =>
              refine (callApi_steady _).bind fun r => .ret fun m hm => ?_
              refine ⟨hm, by simp, ?_⟩
              intro key
              rw [Dict.get?_set]
              by_cases hkey : key = s.tunnelKey
              · simp [hkey]
              · simp [hkey]

theorem addSession_steady {pppRoutes : PppRoutes} {s : KSession}
    {cache : TunnelsCache}
    (hraised : cache.get? s.tunnelKey = none →
      (localEndpoint cfg s).1 = none → ∀ m, raised m) :
    Triple (Steady installed) (addSession cfg pppRoutes s cache)
      (fun cache' m => (∃ rec, Steady (installed.set s.sessionKey rec) m) ∧
        (cache.get? s.tunnelKey = none → (localEndpoint cfg s).1 ≠ none) ∧
        ∀ key, cache'.get? key = none ↔
          cache.get? key = none ∧ key ≠ s.tunnelKey) raised := by
  refine (ensureTunnel_steady hraised).bind fun result => .fact fun hcache => ?_
  refine (callApi_steady _).bind fun r => ?_
  refine (routes_steady _ r.index true).bind fun _ => ?_
  intro m hm
  rw [exec_get_bind, exec_bind, exec_setInstalled]
  rw [hm.installed]
  exact ⟨⟨s.record r.index result.1 (s.fetchRoutes pppRoutes), hm.interrupt,
    rfl⟩, hcache⟩

theorem syncRoutes_steady {pppRoutes : PppRoutes} {s : KSession}
    {rec : InstalledRec} (hrec : installed.get? s.sessionKey = some rec) :
    Triple (Steady installed) (syncRoutes cfg pppRoutes s)
      (fun _ m => ∃ rec, Steady installed m ∨
        Steady (installed.set s.sessionKey rec) m) raised := by
  refine .read fun w hsteady => ?_
  rw [hsteady.installed, hrec]
  rintro now rfl
  refine Triple.bind (routes_steady _ rec.swIfIndex true) (fun _ => ?_) now
    hsteady
  refine (routes_steady _ rec.swIfIndex false).bind fun _ => ?_
  split
  · exact (write_steady (·.set s.sessionKey _)).conseq (fun _ hm => hm)
      (fun _ _ hm => ⟨_, .inr hm⟩) (fun _ hm => hm)
  · exact .ret fun _ hm => ⟨rec, .inl hm⟩

theorem delSession_steady {key : SessionKey} {rec : InstalledRec}
    (hrec : installed.get? key = some rec) :
    Triple (Steady installed) (delSession cfg key)
      (fun _ => Steady (installed.erase key)) raised := by
  refine .read fun w hsteady => ?_
  rw [hsteady.installed, hrec]
  rintro now rfl
  refine Triple.bind (routes_steady rec.routes rec.swIfIndex false)
    (fun _ => ?_) now hsteady
  exact (callApi_steady _).bind fun _ => write_steady (·.erase key)

theorem vppTunnels_steady :
    Triple (Steady installed) (vppTunnels cfg) (fun _ => Steady installed)
      raised :=
  (callApi_steady _).bind fun _ => .ret fun _ hw => hw

theorem pruneTunnels_steady :
    Triple (Steady installed) (pruneTunnels cfg) (fun _ => Steady installed)
      raised := by
  refine (callApi_steady _).bind fun reply => ?_
  refine vppTunnels_steady.bind fun tunnels => ?_
  refine .forM (fun _ => Steady installed) fun _ entry _ _ => ?_
  split
  · exact .ret fun _ hw => hw
  · exact (callApi_steady _).bind fun _ => .ret fun _ hw => hw

theorem pruneTunnels_returns :
    Triple (fun m => m.interrupt = none) (pruneTunnels cfg) (fun _ _ => True)
      raised := by
  intro m hm
  exact pruneTunnels_steady.conseq (fun _ h => h) (fun _ _ _ => trivial)
    (fun _ h => h) m ⟨hm, rfl⟩

end Steady

/-! ## The entries that raise -/

/-- The tunnels that are cached once some entries have been tried, and those of
the entries whose installation has raised. -/
def tryEntry (cfg : Config) (w : World)
    (tried : List TunnelKey × List (SessionKey × KSession))
    (entry : SessionKey × KSession) :
    List TunnelKey × List (SessionKey × KSession) :=
  if (w.installed.get? entry.1).isSome ∨ entry.2.tunnelKey ∈ tried.1 then tried
  else if (localEndpoint cfg entry.2).1.isNone then
    (tried.1, tried.2 ++ [entry])
  else (tried.1 ++ [entry.2.tunnelKey], tried.2)

def tryEntries (cfg : Config) (w : World)
    (entries : List (SessionKey × KSession)) :
    List TunnelKey × List (SessionKey × KSession) :=
  entries.foldl (tryEntry cfg w) ((dumpedTunnels w.vpp).keys, [])

/-- The missing sessions that need a tunnel for which no local address is known
and that no other session opens before. -/
def raising (cfg : Config) (w : World)
    (entries : List (SessionKey × KSession)) : List (SessionKey × KSession) :=
  (tryEntries cfg w entries).2

theorem tryEntries_snoc (entries : List (SessionKey × KSession))
    (entry : SessionKey × KSession) :
    tryEntries cfg w (entries ++ [entry]) =
      tryEntry cfg w (tryEntries cfg w entries) entry := by
  rw [tryEntries, List.foldl_append]
  rfl

theorem raising_extends (entries rest : List (SessionKey × KSession)) :
    raising cfg w entries <+: raising cfg w (entries ++ rest) := by
  induction rest generalizing entries with
  | nil => rw [List.append_nil]
  | cons entry rest ih =>
      rw [show entries ++ entry :: rest = (entries ++ [entry]) ++ rest by simp]
      refine List.IsPrefix.trans ?_ (ih _)
      rw [raising, raising, tryEntries_snoc, tryEntry]
      split
      · exact List.prefix_refl _
      · split
        · exact List.prefix_append ..
        · exact List.prefix_refl _

/-- The state after some entries have been tried and none has raised. -/
structure Trying (cfg : Config) (w : World)
    (done : List (SessionKey × KSession)) (cache : TunnelsCache)
    (m : World) : Prop where
  interrupt : m.interrupt = none
  quiet : raising cfg w done = []
  cached : ∀ key, cache.get? key = none ↔ key ∉ (tryEntries cfg w done).1
  untouched : ∀ key, key ∉ done.map Prod.fst →
    m.installed.get? key = w.installed.get? key

namespace Trying

variable {done rest : List (SessionKey × KSession)}
  {cache cache' : TunnelsCache} {m m' : World} {entry : SessionKey × KSession}

theorem untouched_snoc (h : Trying cfg w done cache m)
    (huntouched : ∀ key, key ≠ entry.1 →
      m'.installed.get? key = m.installed.get? key) (key : SessionKey)
    (hkey : key ∉ (done ++ [entry]).map Prod.fst) :
    m'.installed.get? key = w.installed.get? key := by
  obtain ⟨hkey, hne⟩ := untouched_append hkey
  rw [huntouched key hne]
  exact h.untouched key hkey

theorem kept (h : Trying cfg w done cache m) {rec : InstalledRec}
    (hrec : w.installed.get? entry.1 = some rec)
    (hinterrupt : m'.interrupt = none)
    (huntouched : ∀ key, key ≠ entry.1 →
      m'.installed.get? key = m.installed.get? key) :
    Trying cfg w (done ++ [entry]) cache m' := by
  have hsame : tryEntries cfg w (done ++ [entry]) = tryEntries cfg w done := by
    rw [tryEntries_snoc, tryEntry, if_pos (.inl (by simp [hrec]))]
  refine ⟨hinterrupt, ?_, ?_, h.untouched_snoc huntouched⟩
  · rw [raising, hsame]
    exact h.quiet
  · rw [hsame]
    exact h.cached

theorem added (h : Trying cfg w done cache m)
    (hnone : w.installed.get? entry.1 = none)
    (hopen : cache.get? entry.2.tunnelKey = none →
      (localEndpoint cfg entry.2).1 ≠ none)
    (hcache : ∀ key, cache'.get? key = none ↔
      cache.get? key = none ∧ key ≠ entry.2.tunnelKey)
    (hinterrupt : m'.interrupt = none)
    (huntouched : ∀ key, key ≠ entry.1 →
      m'.installed.get? key = m.installed.get? key) :
    Trying cfg w (done ++ [entry]) cache' m' := by
  cases hget : cache.get? entry.2.tunnelKey with
  | some index =>
      have hknown : entry.2.tunnelKey ∈ (tryEntries cfg w done).1 := by
        by_contra hnot
        rw [(h.cached _).mpr hnot] at hget
        contradiction
      have hsame : tryEntries cfg w (done ++ [entry]) =
          tryEntries cfg w done := by
        rw [tryEntries_snoc, tryEntry, if_pos (.inr hknown)]
      refine ⟨hinterrupt, ?_, ?_, h.untouched_snoc huntouched⟩
      · rw [raising, hsame]
        exact h.quiet
      · intro key
        rw [hcache, hsame, h.cached]
        refine ⟨fun hkey => hkey.1, fun hkey => ⟨hkey, ?_⟩⟩
        rintro rfl
        exact hkey hknown
  | none =>
      have hunknown := (h.cached _).mp hget
      have hnext : tryEntries cfg w (done ++ [entry]) =
          ((tryEntries cfg w done).1 ++ [entry.2.tunnelKey],
            (tryEntries cfg w done).2) := by
        rw [tryEntries_snoc, tryEntry, if_neg (by simp [hnone, hunknown]),
          if_neg (by simpa using hopen hget)]
      refine ⟨hinterrupt, ?_, ?_, h.untouched_snoc huntouched⟩
      · rw [raising, hnext]
        exact h.quiet
      · intro key
        rw [hcache, hnext, h.cached]
        simp

theorem raises (h : Trying cfg w done cache m)
    (hnone : w.installed.get? entry.1 = none)
    (hget : cache.get? entry.2.tunnelKey = none)
    (hlocal : (localEndpoint cfg entry.2).1 = none) :
    raising cfg w (done ++ entry :: rest) ≠ [] := by
  have hnext : raising cfg w (done ++ [entry]) =
      raising cfg w done ++ [entry] := by
    rw [raising, tryEntries_snoc, tryEntry,
      if_neg (by simp [hnone, (h.cached _).mp hget]), if_pos (by simp [hlocal])]
    rfl
  have hextends : raising cfg w (done ++ [entry]) <+:
      raising cfg w (done ++ [entry] ++ rest) := raising_extends _ _
  intro hquiet
  rw [show done ++ [entry] ++ rest = done ++ entry :: rest by simp, hquiet,
    hnext] at hextends
  simpa using hextends.length_le

end Trying

/-- A round raises exactly if its entry is one of those. -/
theorem reconcileSession_trying {done rest : List (SessionKey × KSession)}
    {entry : SessionKey × KSession} {acc : Nat × TunnelsCache}
    (heq : (wantSessions pass.ksessions).items = done ++ entry :: rest) :
    Triple (Trying cfg w done acc.2) (reconcileSession cfg pass acc entry)
      (fun acc' => Trying cfg w (done ++ [entry]) acc'.2)
      fun _ => raising cfg w (wantSessions pass.ksessions).items ≠ [] := by
  obtain ⟨hkey, hnew⟩ := wantSessions_entry heq
  refine .read fun m hm => ?_
  intro now hnow
  subst now
  have hold := hm.untouched entry.1 hnew
  have hsteady : Steady m.installed m := ⟨hm.interrupt, rfl⟩
  have hset : ∀ (rec : InstalledRec) (m' : World),
      Steady (m.installed.set entry.2.sessionKey rec) m' →
      ∀ key, key ≠ entry.1 → m'.installed.get? key = m.installed.get? key := by
    intro rec m' hm' key hne
    rw [hm'.installed, Dict.get?_set, if_neg (by rwa [← hkey])]
  cases hrec : m.installed.get? entry.1 with
  | none =>
      rw [hold] at hrec
      refine Triple.bind (addSession_steady ?_) (fun cache' => ?_) m hsteady
      · intro hcache hlocal _
        rw [heq]
        exact hm.raises hrec hcache hlocal
      · refine .ret ?_
        rintro m' ⟨⟨rec, hm'⟩, hopen, hcache⟩
        exact hm.added hrec hopen hcache hm'.interrupt (hset rec m' hm')
  | some rec =>
      rw [hkey] at hrec
      have hrec' := hrec
      rw [← hkey, hold] at hrec'
      cases hsync : pass.syncExistingRoutes with
      | false => exact hm.kept hrec' hm.interrupt fun _ _ => rfl
      | true =>
          refine Triple.bind (syncRoutes_steady hrec) (fun _ => ?_) m hsteady
          refine .ret ?_
          rintro m' ⟨new, hm' | hm'⟩
          · refine hm.kept hrec' hm'.interrupt fun key _ => ?_
            rw [hm'.installed]
          · exact hm.kept hrec' hm'.interrupt (hset new m' hm')

/-- The second loop raises nothing: each key is still in the record when its
turn comes. -/
theorem removing_steady {want : Dict SessionKey KSession} {m : World}
    (hinterrupt : m.interrupt = none) :
    Triple (fun now => now = m)
      (m.installed.keys.foldlM (removeSession cfg want) 0)
      (fun _ now => now.interrupt = none) raised := by
  have hloop : Triple
      (fun now => now.interrupt = none ∧ ∀ key, key ∉ ([] : List SessionKey) →
        now.installed.get? key = m.installed.get? key)
      (m.installed.keys.foldlM (removeSession cfg want) 0)
      (fun _ now => now.interrupt = none ∧ ∀ key, key ∉ m.installed.keys →
        now.installed.get? key = m.installed.get? key) raised := by
    refine .foldlM (fun done _ (now : World) => now.interrupt = none ∧
      ∀ key, key ∉ done → now.installed.get? key = m.installed.get? key) ?_ 0
    rintro done key rest heq removed now ⟨hquiet, hkept⟩
    obtain ⟨hnew, rec, hrec⟩ := keys_entry heq
    rw [← hkept key hnew] at hrec
    have hrest : ∀ other, other ∉ done ++ [key] → other ∉ done ∧ other ≠ key := by
      intro other hother
      simpa [not_or] using hother
    unfold removeSession
    cases hgone : (want.get? key).isNone with
    | false =>
        exact ⟨hquiet, fun other hother => hkept other (hrest other hother).1⟩
    | true =>
        refine Triple.bind (delSession_steady hrec)
          (fun _ => .ret fun now' hnow' => ?_) now ⟨hquiet, rfl⟩
        refine ⟨hnow'.interrupt, fun other hother => ?_⟩
        obtain ⟨hother, hne⟩ := hrest other hother
        rw [hnow'.installed, Dict.get?_erase, if_neg hne, hkept other hother]
  refine hloop.conseq ?_ (fun _ _ hnow => hnow.1) (fun _ h => h)
  rintro now rfl
  exact ⟨hinterrupt, fun _ _ => rfl⟩

theorem reconcile_trying (hinterrupt : w.interrupt = none) :
    Triple (fun now => now = w) (reconcile cfg pass)
      (fun _ _ => raising cfg w (wantSessions pass.ksessions).items = [])
      fun _ => raising cfg w (wantSessions pass.ksessions).items ≠ [] := by
  have hdump : Triple (fun now => now = w) (vppTunnels cfg)
      (Trying cfg w [])
      fun _ => raising cfg w (wantSessions pass.ksessions).items ≠ [] := by
    rintro now rfl
    rw [vppTunnels, exec_bind]
    simp only [callApi, exec_get_bind, hinterrupt, exec_set_bind, exec_pure]
    refine ⟨hinterrupt, rfl, ?_, fun _ _ => rfl⟩
    exact fun key => Dict.get?_eq_none (dumpedTunnels now.vpp)
  refine hdump.bind fun cache => ?_
  have hloop : Triple (Trying cfg w [] cache)
      ((wantSessions pass.ksessions).items.foldlM (reconcileSession cfg pass)
        (0, cache))
      (fun _ m => m.interrupt = none ∧
        raising cfg w (wantSessions pass.ksessions).items = [])
      fun _ => raising cfg w (wantSessions pass.ksessions).items ≠ [] := by
    refine (Triple.foldlM (fun done acc => Trying cfg w done acc.2) ?_
      (0, cache)).conseq (fun _ h => h)
      (fun _ _ hm => ⟨hm.interrupt, hm.quiet⟩) (fun _ h => h)
    exact fun done entry rest heq acc => reconcileSession_trying heq
  refine hloop.bind fun acc => .fact fun hquiet => .read fun m hm => ?_
  refine (removing_steady hm).bind fun removed => ?_
  dsimp only
  split
  · exact pruneTunnels_returns.bind fun _ =>
      saveState_triple _ fun _ _ => hquiet
  · exact saveState_triple _ fun _ _ => hquiet

/-- Without an interrupt, a pass returns exactly if no entry raises. -/
theorem reconcile_returns_iff (hinterrupt : w.interrupt = none) :
    (∃ result w', exec (reconcile cfg pass) w = (.ok result, w')) ↔
      raising cfg w (wantSessions pass.ksessions).items = [] := by
  constructor
  · rintro ⟨result, w', hexec⟩
    exact (reconcile_trying hinterrupt).ok rfl hexec
  · intro hquiet
    cases hexec : exec (reconcile cfg pass) w with
    | mk outcome w' =>
        cases outcome with
        | ok result => exact ⟨result, w', rfl⟩
        | error e =>
            exact absurd hquiet ((reconcile_trying hinterrupt).error rfl hexec)

end L2tvpp.Syncd
