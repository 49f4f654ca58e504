import L2tvpp.Syncd.Raising

/-!
# One bad session

A session without a local address raises in the middle of the pass.  From a
state in which the record is exact, the pass does what it is for exactly if
there is no such session and every tunnel can be opened; a bad session keeps
the sessions after it from being added, those that are gone from being removed
and the record from being saved.
-/

namespace L2tvpp.Syncd

open L2tvpp.Lib L2tvpp.Plugin

variable {cfg : Config} {pass : Pass} {w w' : World} {v v' : Vpp}

/-! ## What an exact record says -/

section Exact

variable {records : Records} {key : SessionKey} {rec : InstalledRec}

theorem Mirror.named (h : Mirror v records) (hrec : records key = some rec) :
    Named v key rec := by
  obtain ⟨index, sess, hsess, rfl, hdescribes⟩ := h.live hrec
  exact ⟨sess.swIfIndex, hdescribes.swIfIndex, interfaceOf_live h.store hsess⟩

theorem Mirror.interfaceOf_none (h : Mirror v records)
    (hnone : records key = none) : interfaceOf v key = none :=
  (lookup_none_iff h.store).mp (h.key_free hnone)

/-- The delete for a record finds the session of its own key. -/
theorem Mirror.victim (h : Mirror v records) (hrec : records key = some rec)
    (hkept : TunnelsKept v v') : rec.victim v' = some key := by
  obtain ⟨index, sess, hsess, rfl, hdescribes⟩ := h.live hrec
  obtain ⟨t, ht, htid⟩ := h.counts.tunnel hsess
  obtain ⟨n, ht'⟩ := hkept _ t ht
  simp only [InstalledRec.victim, hdescribes.tunnelIndex, Option.bind_some, ht',
    Option.map_some, hdescribes.localSid, htid, ids]

theorem Mirror.ready (h : Mirror w.vpp w.installed.get?)
    {entries : List (SessionKey × KSession)}
    (hopenable : tunnelsOpenable cfg w.vpp (openersOf w entries) = true) :
    Ready cfg w entries where
  named := fun _ _ _ hrec => h.named hrec
  free := fun _ _ hnone => h.interfaceOf_none hnone
  openable := hopenable

theorem Mirror.sparesWanted (h : Mirror w.vpp w.installed.get?)
    (hrec : w.installed.get? key = some rec)
    (hstale : (wantSessions pass.ksessions).get? key = none) :
    sparesWanted cfg pass w rec = true := by
  obtain ⟨index, sess, hsess, rfl, hdescribes⟩ := h.live hrec
  obtain ⟨t, ht, htid⟩ := h.counts.tunnel hsess
  obtain ⟨si, hsi⟩ := h.store.swInterface hsess
  simp only [Syncd.sparesWanted, hdescribes.tunnelIndex, hdescribes.swIfIndex,
    hdescribes.localSid, Option.all_some, Bool.and_eq_true, List.all_eq_true,
    Bool.or_eq_true, decide_eq_true_eq, Option.isNone_iff_eq_none, tunnelTids,
    wantedInterfaces, List.mem_append, List.mem_map, List.mem_filterMap,
    Option.map_eq_some_iff]
  constructor
  · rintro other (⟨⟨other, t'⟩, ht', rfl⟩ | ⟨o, -, rfl⟩)
    · by_cases heq : other = sess.tunnelIndex
      · rw [Pool.mem_toList, heq, ht] at ht'
        cases ht'
        right
        rw [htid]
        exact hstale
      · exact .inl heq
    · -- a tunnel that is yet to come has another index
      left
      intro heq
      have hfree := Pool.elt?_upcoming cfg.policies.tunnels w.vpp.lm.tunnels o.2
      dsimp only at heq
      rw [heq, ht] at hfree
      contradiction
  · rintro other (⟨entry, hentry, swIfIndex, hlive, rfl⟩ | ⟨entry, -, rfl⟩)
    · left
      rintro rfl
      have hkey := interfaceOf_inj h.store hlive (interfaceOf_live h.store hsess)
      have hget := (Dict.mem_items _).mp hentry
      rw [hkey, hstale] at hget
      contradiction
    · left
      intro heq
      have hfree := Pool.elt?_upcoming cfg.policies.swInterfaces
        w.vpp.swInterfaces entry.2
      dsimp only at heq
      rw [heq, hsi] at hfree
      contradiction

/-- From an exact record, a pass whose tunnels can be opened goes well. -/
theorem Mirror.adoptable (h : Mirror w.vpp w.installed.get?)
    (hopenable : tunnelsOpenable cfg w.vpp
      (openersOf w (wantSessions pass.ksessions).items) = true) :
    adoptable cfg pass w = true := by
  refine adoptable_iff.mpr ⟨h.ready hopenable, ?_,
    fun _ _ hrec hstale => h.sparesWanted hrec hstale⟩
  intro entry _
  cases hrec : w.installed.get? entry.1 with
  | none => simp [routesReady, hrec]
  | some rec =>
      obtain ⟨swIfIndex, hsw, -⟩ := h.named hrec
      rw [routesReady_iff hrec hsw]
      intro pfx hpfx _
      exact (h.fib_of_record hrec hsw).mpr ⟨pfx, hpfx, rfl⟩

end Exact

/-! ## What a pass leaves when a session raises -/

/-- All but the sessions that raise are installed, the stale ones are gone and
the record is saved. -/
structure OthersServed (cfg : Config) (pass : Pass) (w w' : World) : Prop where
  installs : ∀ key s, (wantSessions pass.ksessions).get? key = some s →
    w.installed.get? key = none →
    (key, s) ∉ raising cfg w (wantSessions pass.ksessions).items →
    ∃ index sess rec, w'.vpp.lm.sessions.elt? index = some sess ∧
      (sess.localTid, sess.localSid) = key ∧
      w'.installed.get? key = some rec ∧
      rec.swIfIndex = some sess.swIfIndex ∧
      ∀ pfx ∈ s.fetchRoutes pass.pppRoutes,
        (pfx.decode, sess.swIfIndex) ∈ w'.vpp.fib
  removes : ∀ key rec, w.installed.get? key = some rec →
    (wantSessions pass.ksessions).get? key = none →
    w'.installed.get? key = none ∧ ¬ ∃ index sess,
      w'.vpp.lm.sessions.elt? index = some sess ∧
        (sess.localTid, sess.localSid) = key
  persists : w'.stateFile = some w'.installed

theorem othersServed_of_openable {result : Nat × Nat}
    (hmirror : Mirror w.vpp w.installed.get?)
    (hopenable : tunnelsOpenable cfg w.vpp
      (openersOf w (wantSessions pass.ksessions).items) = true)
    (hpath : cfg.statePath = true)
    (h : exec (reconcile cfg pass) w = (.ok result, w')) :
    OthersServed cfg pass w w' := by
  have hrecords := recordsLive_of_adoptable hmirror.store
    (hmirror.adoptable hopenable) h
  obtain ⟨-, -, -, -, -, -, -, -, -, -, -, hsaved, -⟩ :=
    reconcile_run h
  obtain ⟨cache, w₁, w₂, hloop, hremoved, hstore', hinstalled, hinterface, -⟩ :=
    reconcile_adopted hmirror.store h
  have hadopting : Adopting cfg pass w (wantSessions pass.ksessions).items
      cache w₁ := by
    rcases hloop with ⟨-, hadopting⟩ | ⟨hnot, -⟩
    · exact hadopting
    · exact absurd (hmirror.ready hopenable) hnot
  refine ⟨?_, ?_, hsaved hpath⟩
  · intro key s hs hnone _
    obtain ⟨rec, swIfIndex, hrec, -, -, hafter, -⟩ :=
      hadopting.records hremoved hs
    rw [← hinstalled] at hrec
    obtain ⟨index, sess, hsess, hids, hsw, hroutes⟩ := hrecords key rec hrec
    refine ⟨index, sess, rec, hsess, hids, hrec, hsw, ?_⟩
    intro pfx hpfx
    refine hroutes pfx ((hafter pfx).mpr ?_)
    simp only [Pass.routesAfter, hnone]
    exact hpfx
  · intro key rec hrec hstale
    have hrec₁ := hrec
    rw [← hadopting.stale hstale] at hrec₁
    have hgone := hremoved.taken key ((Dict.mem_keys _).mpr ⟨rec, hrec₁⟩) hstale
      rec key hrec₁ (hmirror.victim hrec hadopting.opened.old)
    refine ⟨?_, ?_⟩
    · rw [hinstalled, hremoved.final, if_pos hstale]
    · change ¬ SessionLive w'.vpp key
      rw [sessionLive_iff hstore', not_not, hinterface]
      exact hgone

theorem openable_of_othersServed {result : Nat × Nat}
    (hmirror : Mirror w.vpp w.installed.get?)
    (hquiet : raising cfg w (wantSessions pass.ksessions).items = [])
    (h : exec (reconcile cfg pass) w = (.ok result, w'))
    (hserved : OthersServed cfg pass w w') :
    tunnelsOpenable cfg w.vpp
      (openersOf w (wantSessions pass.ksessions).items) = true := by
  obtain ⟨cache, w₁, w₂, hloop, hremoved, hstore', hinstalled, hinterface, -⟩ :=
    reconcile_adopted hmirror.store h
  rcases hloop with ⟨hready, -⟩ | ⟨-, entry, hentry, hunnamed, hbefore⟩
  · exact hready.openable
  · -- the entry that was left without an interface was missing before
    have hs := (Dict.mem_items _).mp hentry
    have hnone : w.installed.get? entry.1 = none := by
      rw [Option.eq_none_iff_forall_ne_some]
      exact fun rec hrec => hbefore rec hrec (hmirror.named hrec)
    obtain ⟨index, sess, rec, hsess, hids, hrec, hsw, -⟩ :=
      hserved.installs entry.1 entry.2 hs hnone (by simp [hquiet])
    obtain ⟨rec', hrec', hnot⟩ := hunnamed.unnamed
    rw [hinstalled, hremoved.final, if_neg (by simp [hs]), hrec'] at hrec
    cases hrec
    refine absurd ⟨sess.swIfIndex, hsw, hremoved.shrunk _ _ ?_⟩ hnot
    rw [← hinterface, ← hids]
    exact interfaceOf_live hstore' hsess

/-- The conditions for a pass that finds no file and leaves one. -/
theorem noneRaises_of_othersServed (hmirror : Mirror w.vpp w.installed.get?)
    (hinterrupt : w.interrupt = none) (hfile : w.stateFile = none)
    (hserved : OthersServed cfg pass w (exec (reconcile cfg pass) w).2) :
    cfg.statePath = true ∧
      raising cfg w (wantSessions pass.ksessions).items = [] ∧
      tunnelsOpenable cfg w.vpp
        (openersOf w (wantSessions pass.ksessions).items) = true := by
  cases hexec : exec (reconcile cfg pass) w with
  | mk outcome w' =>
      rw [hexec] at hserved
      have hpersists := hserved.persists
      cases outcome with
      | error e =>
          rw [stateFile_of_raised hexec, hfile] at hpersists
          contradiction
      | ok result =>
          have hquiet := (reconcile_trying hinterrupt).ok rfl hexec
          refine ⟨?_, hquiet,
            openable_of_othersServed hmirror hquiet hexec hserved⟩
          by_contra hpath
          rw [stateFile_of_unsaved (Bool.eq_false_of_not_eq_true hpath) hexec,
            hfile] at hpersists
          contradiction

/-- From every exact record and for every list, whatever the file held before:
the pass serves all sessions but those that raise exactly if none raises, every
tunnel can be opened and there is a file to write. -/
theorem othersServed_iff_noneRaises (cfg : Config) (w : World)
    (hmirror : Mirror w.vpp w.installed.get?) (hinterrupt : w.interrupt = none)
    (pass : Pass) :
    (∀ file, OthersServed cfg pass w (exec (reconcile cfg pass)
      { w.startPass with stateFile := file }).2) ↔
    cfg.statePath = true ∧
      raising cfg w (wantSessions pass.ksessions).items = [] ∧
      tunnelsOpenable cfg w.vpp
        (openersOf w (wantSessions pass.ksessions).items) = true := by
  constructor
  · intro hserved
    obtain ⟨hinstalls, hremoves, hpersists⟩ := hserved none
    exact noneRaises_of_othersServed (w := { w.startPass with stateFile := none })
      hmirror hinterrupt rfl ⟨hinstalls, hremoves, hpersists⟩
  · rintro ⟨hpath, hquiet, hopenable⟩ file
    obtain ⟨result, w', hexec⟩ := (reconcile_returns_iff
      (w := { w.startPass with stateFile := file }) hinterrupt).mpr hquiet
    obtain ⟨hinstalls, hremoves, hpersists⟩ := othersServed_of_openable
      (w := { w.startPass with stateFile := file }) hmirror hopenable hpath hexec
    rw [hexec]
    exact ⟨hinstalls, hremoves, hpersists⟩

theorem othersServed_iff_noneRaises_newSubscriber :
    ∃ w, runAll (passOk testConfig) (World.initial Pool.empty Pool.empty)
        [testPass [oldSubscriber]] = some w ∧
      ∀ file, OthersServed testConfig (testPass [newSubscriber]) w
        (exec (reconcile testConfig (testPass [newSubscriber]))
          { w.startPass with stateFile := file }).2 := by
  have hrun : (runAll (passOk testConfig) (World.initial Pool.empty Pool.empty)
      [testPass [oldSubscriber]]).any (fun w =>
        decide (w.interrupt = none) &&
        decide (raising testConfig w
          (wantSessions (testPass [newSubscriber]).ksessions).items = []) &&
        tunnelsOpenable testConfig w.vpp (openersOf w
          (wantSessions (testPass [newSubscriber]).ksessions).items)) =
      true := by
    decide +kernel
  obtain ⟨w, hw, htest⟩ := Option.any_eq_true _ _ |>.mp hrun
  simp only [Bool.and_eq_true, decide_eq_true_eq] at htest
  obtain ⟨⟨hinterrupt, hquiet⟩, hopenable⟩ := htest
  exact ⟨w, hw, (othersServed_iff_noneRaises testConfig w
    (InSync.run Pool.empty Pool.empty hw).mirror hinterrupt _).mpr
    ⟨rfl, hquiet, hopenable⟩⟩

/-- No fallback address: each session has to bring its own. -/
def noFallback : Config := { testConfig with localIp := none }

def withLocalIp : KSession :=
  { newSubscriber with localIp := some (.v4 0x0a000001) }

/-- The session without a local address comes first; the other one is not
installed and the record is not saved. -/
theorem not_othersServed_badFirst :
    Mirror (World.initial Pool.empty Pool.empty).vpp
        (World.initial Pool.empty Pool.empty).installed.get? ∧
      ¬ ∀ file, OthersServed noFallback
        (testPass [oldSubscriber, withLocalIp])
        (World.initial Pool.empty Pool.empty)
        (exec (reconcile noFallback (testPass [oldSubscriber, withLocalIp]))
          { (World.initial Pool.empty Pool.empty).startPass with
            stateFile := file }).2 := by
  refine ⟨Mirror.initial Pool.empty Pool.empty, ?_⟩
  intro hserved
  have htest : ((101, 1001), withLocalIp) ∉ raising noFallback
      (World.initial Pool.empty Pool.empty)
      (wantSessions [oldSubscriber, withLocalIp]).items ∧
      (wantSessions [oldSubscriber, withLocalIp]).get? (101, 1001) =
        some withLocalIp ∧
      (exec (reconcile noFallback (testPass [oldSubscriber, withLocalIp]))
        { (World.initial Pool.empty Pool.empty).startPass with
          stateFile := none }).2.vpp.lm.sessions.toList = [] := by
    decide +kernel
  obtain ⟨hgood, hwanted, hempty⟩ := htest
  obtain ⟨index, sess, rec, hsess, -⟩ :=
    (hserved none).installs _ _ hwanted rfl hgood
  have hmem := (Pool.mem_toList _).mpr hsess
  rw [hempty] at hmem
  contradiction

end L2tvpp.Syncd
