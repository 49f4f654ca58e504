import L2tvpp.Lib.Run

/-!
# The daemon loop

`run_daemon` of `l2tvppd.py`, statement by statement, with a SIGHUP between any
two of them.  Python runs the handler between two bytecodes of the main thread,
and a `time.sleep` that it cuts into goes on for the rest of its second.  What a
pass does is left open here: it may return, raise or end the process.
-/

namespace L2tvpp.Syncd

open L2tvpp.Lib

inductive Pc where
  /-- `wake["now"] = False` is next. -/
  | reset
  /-- `kernel_sessions()` is next. -/
  | read
  /-- In `kernel_sessions` or in `reconcile`. -/
  | pass
  /-- The `for` is next, with this many rounds left. -/
  | check (left : Nat)
  /-- `time.sleep(1)` is next. -/
  | sleep (left : Nat)
  | sleeping (left : Nat)
  | stopped
  deriving DecidableEq, Repr

structure Loop (σ : Type) where
  pc : Pc
  wake : Bool
  tick : Nat
  sync : σ

inductive PassOutcome where
  | returned
  /-- An `Exception`, which the loop logs. -/
  | raised
  /-- `SystemExit`, which it does not catch. -/
  | exited
  deriving DecidableEq, Repr

/-- What happens next; `ι` is what a pass finds outside the daemon. -/
inductive Event (ι : Type) where
  | hup
  | term
  | resetWake
  | kernelSessions
  | passEnds (input : ι)
  | check
  | sleepStarts
  | sleepEnds

def routeResyncEvery : Nat := 6

def syncsExistingRoutes (tick : Nat) : Bool := tick % routeResyncEvery == 0

def Loop.start {σ : Type} (sync : σ) : Loop σ := ⟨.reset, false, 0, sync⟩

namespace Loop

variable {σ ι : Type} (pass : Bool → ι → σ → PassOutcome × σ) (interval : Int)

/-- A SIGTERM during a pass is an outcome of the pass. -/
def step (d : Loop σ) : Event ι → Option (Loop σ)
  | .hup =>
      match d.pc with
      | .stopped => none
      | _ => some { d with wake := true }
  | .term =>
      match d.pc with
      | .pass => none
      | _ => some { d with pc := .stopped }
  | .resetWake =>
      match d.pc with
      | .reset => some { d with wake := false, pc := .read }
      | _ => none
  | .kernelSessions =>
      match d.pc with
      | .read => some { d with pc := .pass }
      | _ => none
  | .passEnds input =>
      match d.pc with
      | .pass =>
          let (outcome, sync) := pass (syncsExistingRoutes d.tick) input d.sync
          match outcome with
          | .returned => some
              { d with
                pc := .check interval.toNat
                tick := d.tick + 1
                sync := sync }
          | .raised => some { d with pc := .check interval.toNat, sync := sync }
          | .exited => some { d with pc := .stopped, sync := sync }
      | _ => none
  | .check =>
      match d.pc with
      | .check 0 => some { d with pc := .reset }
      | .check (left + 1) =>
          some { d with pc := if d.wake then .reset else .sleep left }
      | _ => none
  | .sleepStarts =>
      match d.pc with
      | .sleep left => some { d with pc := .sleeping left }
      | _ => none
  | .sleepEnds =>
      match d.pc with
      | .sleeping left => some { d with pc := .check left }
      | _ => none

end Loop

/-! ## A signal is picked up -/

namespace Event

variable {ι : Type}

/-- `kernel_sessions()` starts. -/
def isRead : Event ι → Bool
  | .kernelSessions => true
  | _ => false

/-- A `time.sleep(1)` starts. -/
def isSleep : Event ι → Bool
  | .sleepStarts => true
  | _ => false

/-- The loop executes a statement. -/
def isOwn : Event ι → Bool
  | .hup => false
  | .term => false
  | _ => true

end Event

namespace Loop

variable {σ ι : Type} {pass : Bool → ι → σ → PassOutcome × σ} {interval : Int}
  {d d' : Loop σ} {event : Event ι}

/-- A signal is pending: the flag is set, or it has just been cleared for the
read that is next. -/
def Poked (d : Loop σ) : Prop :=
  d.wake = true ∨ d.pc = .reset ∨ d.pc = .read ∨ d.pc = .stopped

/-- How many sleeps may start before the next read. -/
def sleepsLeft (d : Loop σ) : Nat :=
  match d.pc with
  | .sleep _ => 1
  | _ => 0

/-- How many statements there may be before the next read. -/
def stepsLeft (d : Loop σ) : Nat :=
  match d.pc with
  | .sleep _ => 4
  | .sleeping _ => 3
  | .pass => 3
  | .check _ => 2
  | .reset => 1
  | _ => 0

/-- Once a signal is pending, a step other than the read keeps it pending and
comes closer to the read. -/
theorem Poked.step (h : d.Poked)
    (hstep : Loop.step pass interval d event = some d')
    (hread : event.isRead = false) :
    d'.Poked ∧
      d'.sleepsLeft + (if event.isSleep then 1 else 0) ≤ d.sleepsLeft ∧
      d'.stepsLeft + (if event.isOwn then 1 else 0) ≤ d.stepsLeft := by
  obtain ⟨pc, wake, tick, sync⟩ := d
  cases event with
  | hup =>
      cases pc <;> cases hstep <;>
        simp [Poked, sleepsLeft, stepsLeft, Event.isSleep, Event.isOwn]
  | term =>
      cases pc <;> cases hstep <;>
        simp [Poked, sleepsLeft, stepsLeft, Event.isSleep, Event.isOwn]
  | resetWake =>
      cases pc <;> cases hstep
      simp [Poked, sleepsLeft, stepsLeft, Event.isSleep, Event.isOwn]
  | kernelSessions => contradiction
  | passEnds input =>
      cases pc <;> try contradiction
      have hwake : wake = true := by simpa [Poked] using h
      simp only [Loop.step] at hstep
      split at hstep <;> cases hstep <;>
        simp [Poked, sleepsLeft, stepsLeft, Event.isSleep, Event.isOwn, hwake]
  | check =>
      cases pc <;> try contradiction
      rename_i left
      have hwake : wake = true := by simpa [Poked] using h
      cases left <;> cases hstep <;>
        simp [Poked, sleepsLeft, stepsLeft, Event.isSleep, Event.isOwn, hwake]
  | sleepStarts =>
      cases pc <;> cases hstep
      have hwake : wake = true := by simpa [Poked] using h
      simp [Poked, sleepsLeft, stepsLeft, Event.isSleep, Event.isOwn, hwake]
  | sleepEnds =>
      cases pc <;> cases hstep
      have hwake : wake = true := by simpa [Poked] using h
      simp [Poked, sleepsLeft, stepsLeft, Event.isSleep, Event.isOwn, hwake]

/-- The loop can always go on. -/
theorem exists_step (d : Loop σ) (hpc : d.pc ≠ .stopped) (h : Nonempty ι) :
    ∃ event : Event ι, event.isOwn = true ∧
      (Loop.step pass interval d event).isSome = true := by
  obtain ⟨pc, wake, tick, sync⟩ := d
  cases pc with
  | reset => exact ⟨.resetWake, rfl, rfl⟩
  | read => exact ⟨.kernelSessions, rfl, rfl⟩
  | pass =>
      obtain ⟨input⟩ := h
      refine ⟨.passEnds input, rfl, ?_⟩
      simp only [Loop.step]
      cases (pass (syncsExistingRoutes tick) input sync).1 <;> rfl
  | check left =>
      refine ⟨.check, rfl, ?_⟩
      cases left <;> rfl
  | sleep left => exact ⟨.sleepStarts, rfl, rfl⟩
  | sleeping left => exact ⟨.sleepEnds, rfl, rfl⟩
  | stopped => contradiction

end Loop

/-- From a SIGHUP to the next start of `kernel_sessions()` the loop starts at
most one sleep and executes at most four statements, and it is not stuck. -/
theorem sighup_picked_up {σ ι : Type} (pass : Bool → ι → σ → PassOutcome × σ)
    (interval : Int) (sync : σ) (before between : List (Event ι)) (d : Loop σ)
    (hrun : runAll (Loop.step pass interval) (Loop.start sync)
      (before ++ .hup :: between) = some d)
    (hbetween : ∀ event ∈ between, event.isRead = false) :
    between.countP Event.isSleep ≤ 1 ∧ between.countP Event.isOwn ≤ 4 ∧
      (d.pc = .stopped ∨ (Nonempty ι → ∃ event : Event ι,
        event.isOwn = true ∧
          (Loop.step pass interval d event).isSome = true)) := by
  obtain ⟨delivered, -, hlater⟩ :=
    (runAll_append (Loop.step pass interval)).mp hrun
  obtain ⟨woken, hhup, hlater⟩ := Option.bind_eq_some_iff.mp hlater
  have hpoked : woken.Poked := by
    simp only [Loop.step] at hhup
    split at hhup
    · contradiction
    · cases hhup
      exact .inl rfl
  have hsleeps := runAll_countP (Loop.step pass interval) Loop.Poked
    Event.isSleep Loop.sleepsLeft
    (fun d event hmem d' hd hstep =>
      have hnext := hd.step hstep (hbetween event hmem)
      ⟨hnext.1, hnext.2.1⟩) hpoked hlater
  have hsteps := runAll_countP (Loop.step pass interval) Loop.Poked
    Event.isOwn Loop.stepsLeft
    (fun d event hmem d' hd hstep =>
      have hnext := hd.step hstep (hbetween event hmem)
      ⟨hnext.1, hnext.2.2⟩) hpoked hlater
  have hone : woken.sleepsLeft ≤ 1 := by
    unfold Loop.sleepsLeft
    split <;> omega
  have hfour : woken.stepsLeft ≤ 4 := by
    unfold Loop.stepsLeft
    split <;> omega
  refine ⟨Nat.le_trans hsleeps hone, Nat.le_trans hsteps hfour, ?_⟩
  by_cases hpc : d.pc = .stopped
  · exact .inl hpc
  · exact .inr (d.exists_step hpc)

/-- The signal comes after the check and before the first of two sleeps. -/
theorem sighup_picked_up_beforeSleep :
    ∃ d : Loop Unit,
      runAll (Loop.step (fun _ (_ : Unit) sync => (.raised, sync)) 2)
        (Loop.start ())
        ([.resetWake, .kernelSessions, .passEnds (), .check] ++
          .hup :: [.sleepStarts, .sleepEnds, .check, .resetWake]) = some d ∧
      d.pc = .read ∧
      ([.sleepStarts, .sleepEnds, .check, .resetWake] :
        List (Event Unit)).countP Event.isSleep ≤ 1 :=
  ⟨_, rfl, rfl, (sighup_picked_up (fun _ (_ : Unit) sync => (.raised, sync)) 2
    () [.resetWake, .kernelSessions, .passEnds (), .check]
    [.sleepStarts, .sleepEnds, .check, .resetWake] _ rfl (by decide)).1⟩

end L2tvpp.Syncd
