import L2tvpp.Syncd.Interrupted

/-!
# After an interrupted pass

The daemon tries again with the record it has in memory, or it is started anew
and reads the file.  Either way it takes every session of the plugin that the
record lacks for one that is still to be added; so the next pass heals the
plugin exactly if there is none, and if its own calls can be accepted.
-/

namespace L2tvpp.Syncd

open L2tvpp.Lib L2tvpp.Plugin

variable {cfg : Config} {pass : Pass} {w w' : World}

/-! ## The next pass -/

/-- The state in which a pass starts that may be broken off. -/
def World.startInterrupted (w : World) (interrupt : Option Interrupt) : World :=
  { w with calls := [], interrupt := interrupt }

inductive Resume where
  /-- The loop of `run_daemon` goes on with the same `Syncd`. -/
  | retry
  /-- A new process reads the state file. -/
  | restart
  deriving DecidableEq, Repr

/-- A pass that has raised does not count, so the next one checks the routes if
that one did; the first one of a process always does. -/
def Pass.resume (pass : Pass) : Resume → Pass
  | .retry => pass
  | .restart => { pass with syncExistingRoutes := true }

def World.resume (cfg : Config) (m : World) : Resume → World
  | .retry => { m with calls := [], interrupt := none }
  | .restart =>
      { m with
        installed := loadState cfg m.stateFile
        calls := []
        interrupt := none }

theorem Pass.resume_ksessions (resume : Resume) :
    (pass.resume resume).ksessions = pass.ksessions := by
  cases resume <;> rfl

/-- The plugin has what the record says, and the file has the record. -/
structure DaemonMirror (cfg : Config) (w : World) : Prop where
  mirror : Mirror w.vpp w.installed.get?
  saved : loadState cfg w.stateFile =
    if cfg.statePath then w.installed else Dict.empty

theorem DaemonMirror.run {hwInterfaces : Pool HwInterface}
    {swInterfaces : Pool SwInterface} {passes : List Pass}
    (hrun : runAll (passOk cfg) (World.initial hwInterfaces swInterfaces)
      passes = some w) : DaemonMirror cfg w :=
  ⟨(InSync.run hwInterfaces swInterfaces hrun).mirror, loadState_run hrun⟩

/-- A check of the routes does not need more than there is without one. -/
theorem Resumable.resync {v : Vpp} {records : Records}
    (h : Resumable pass v records) :
    Resumable { pass with syncExistingRoutes := true } v records where
  store := h.store
  routed := h.routed
  named := by
    intro key s rec index hs hrec hindex
    obtain ⟨hlive, hbetween⟩ := h.named key s rec index hs hrec hindex
    refine ⟨hlive, ?_⟩
    cases hsync : pass.syncExistingRoutes with
    | true =>
        simp only [Pass.routesAfter, hrec, hsync, if_true] at hbetween ⊢
        exact hbetween
    | false =>
        simp only [Pass.routesAfter, hrec, hsync, Bool.false_eq_true, if_false,
          Set.uIcc_self, Set.mem_singleton_iff] at hbetween
        rw [hbetween]
        exact Set.left_mem_uIcc
  stale := h.stale
  apart := h.apart
  victim := h.victim

/-- Both ways to go on start from a resumable state. -/
theorem DaemonMirror.resumable (hmirror : DaemonMirror cfg w) {e : PyExc}
    {m : World} {interrupt : Option Interrupt}
    (hraised : exec (reconcile cfg pass) (w.startInterrupted interrupt) =
      (.error e, m))
    (resume : Resume) :
    Resumable (pass.resume resume) (m.resume cfg resume).vpp
      (m.resume cfg resume).installed.get? := by
  have hstart : Mirror (w.startInterrupted interrupt).vpp
      (w.startInterrupted interrupt).installed.get? := hmirror.mirror
  have hhalf := (reconcile_halfway hstart).error rfl hraised
  cases resume with
  | retry => exact hhalf.memory
  | restart =>
      refine hhalf.file.resync.forget ?_
      intro key
      have hfile := stateFile_of_raised hraised
      have hload : loadState cfg m.stateFile =
          if cfg.statePath then w.installed else Dict.empty := by
        rw [hfile]
        exact hmirror.saved
      simp only [World.resume, hload]
      cases cfg.statePath with
      | false => exact .inl rfl
      | true => exact .inr rfl

/-- The pass returns and leaves exactly the wanted sessions. -/
def Heals (cfg : Config) (pass : Pass) (w : World) : Prop :=
  ∃ result w', exec (reconcile cfg pass) w = (.ok result, w') ∧ Healed pass w'

/-- From every exact record, over every list, wherever the pass is broken off
and whichever way the daemon goes on: the next pass heals the plugin exactly if
it does not raise, every session of the plugin is in the record it starts from
and what it asks for can be accepted. -/
theorem heals_iff_healable (cfg : Config) (w : World)
    (hmirror : DaemonMirror cfg w) (pass : Pass)
    (interrupt : Option Interrupt) (e : PyExc) (m : World)
    (hraised : exec (reconcile cfg pass) (w.startInterrupted interrupt) =
      (.error e, m))
    (resume : Resume) :
    Heals cfg (pass.resume resume) (m.resume cfg resume) ↔
      raising cfg (m.resume cfg resume) (wantSessions pass.ksessions).items =
        [] ∧
      healable cfg (pass.resume resume) (m.resume cfg resume) = true := by
  have hres := hmirror.resumable hraised resume
  have hinterrupt : (m.resume cfg resume).interrupt = none := by
    cases resume <;> rfl
  rw [healable_iff hres.store, ← pass.resume_ksessions resume,
    ← reconcile_returns_iff hinterrupt]
  constructor
  · rintro ⟨result, w', hexec, hhealed⟩
    exact ⟨⟨result, w', hexec⟩, healable_of_healed hres hexec hhealed⟩
  · rintro ⟨⟨result, w', hexec⟩, hhealable⟩
    exact ⟨result, w', hexec, healed_of_healable hres hhealable hexec⟩

/-- The delete of the old session is carried out and its reply is lost. -/
theorem heals_iff_healable_duringDelete :
    ∃ w m, runAll (passOk testConfig) (World.initial Pool.empty Pool.empty)
        [testPass [oldSubscriber]] = some w ∧
      exec (reconcile testConfig (testPass [newSubscriber]))
        (w.startInterrupted (some ⟨5, true, .apiError⟩)) =
        (.error .apiError, m) ∧
      Heals testConfig ((testPass [newSubscriber]).resume .retry)
        (m.resume testConfig .retry) := by
  have hrun : (runAll (passOk testConfig) (World.initial Pool.empty Pool.empty)
      [testPass [oldSubscriber]]).any (fun w =>
        match exec (reconcile testConfig (testPass [newSubscriber]))
          (w.startInterrupted (some ⟨5, true, .apiError⟩)) with
        | (.error .apiError, m) =>
            decide (raising testConfig (m.resume testConfig .retry)
              (wantSessions (testPass [newSubscriber]).ksessions).items = []) &&
            healable testConfig ((testPass [newSubscriber]).resume .retry)
              (m.resume testConfig .retry)
        | _ => false) = true := by
    decide +kernel
  obtain ⟨w, hw, htest⟩ := Option.any_eq_true _ _ |>.mp hrun
  clear hrun
  split at htest
  · rename_i m hexec
    rw [Bool.and_eq_true, decide_eq_true_eq] at htest
    exact ⟨w, m, hw, hexec, (heals_iff_healable testConfig w
      (DaemonMirror.run hw) (testPass [newSubscriber]) _ _ m hexec
      .retry).mpr htest⟩
  · contradiction

/-- The add of a session is carried out and its reply is lost: the daemon tries
to add the session again and records the rejected one. -/
theorem not_heals_afterSessionAdd :
    DaemonMirror testConfig (World.initial Pool.empty Pool.empty) ∧
    ∃ m, exec (reconcile testConfig (testPass [oldSubscriber]))
        ((World.initial Pool.empty Pool.empty).startInterrupted
          (some ⟨2, true, .apiError⟩)) = (.error .apiError, m) ∧
      ¬ Heals testConfig ((testPass [oldSubscriber]).resume .retry)
        (m.resume testConfig .retry) := by
  refine ⟨⟨Mirror.initial Pool.empty Pool.empty, rfl⟩, ?_⟩
  have htest : (match exec (reconcile testConfig (testPass [oldSubscriber]))
      ((World.initial Pool.empty Pool.empty).startInterrupted
        (some ⟨2, true, .apiError⟩)) with
      | (.error .apiError, m) =>
          match exec (reconcile testConfig
            ((testPass [oldSubscriber]).resume .retry))
            (m.resume testConfig .retry) with
          | (.ok _, w') => (w'.installed.get? (100, 1000)).any fun rec =>
              rec.swIfIndex.isNone
          | _ => false
      | _ => false) = true := by
    decide +kernel
  split at htest
  · rename_i m hexec
    refine ⟨m, hexec, ?_⟩
    rintro ⟨result, w', hnext, hhealed⟩
    rw [hnext] at htest
    obtain ⟨rec, hrec, hnone⟩ := Option.any_eq_true _ _ |>.mp htest
    obtain ⟨index, sess, -, -, hsw⟩ := hhealed.records _ rec hrec
    rw [hsw] at hnone
    contradiction
  · contradiction

end L2tvpp.Syncd
