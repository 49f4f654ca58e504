import Mathlib.Data.List.Forall2

/-!
# Runs of a state machine

The induction over a run is done here once: an invariant that every step keeps
holds after every run, and one that only the steps meeting a guard keep holds
after every run whose steps all meet it.
-/

namespace L2tvpp.Lib

variable {σ ι : Type}

section Total

variable (step : σ → ι → σ)

def run (state : σ) (inputs : List ι) : σ := inputs.foldl step state

/-- Every step of the run meets the guard in the state it starts from. -/
def Guarded (guard : σ → ι → Bool) : σ → List ι → Prop
  | _, [] => True
  | state, input :: inputs =>
      guard state input = true ∧ Guarded guard (step state input) inputs

instance (guard : σ → ι → Bool) :
    (state : σ) → (inputs : List ι) → Decidable (Guarded step guard state inputs)
  | _, [] => isTrue trivial
  | state, input :: inputs =>
      @instDecidableAnd _ _ _
        (instDecidableGuarded guard (step state input) inputs)

theorem guarded_append {guard : σ → ι → Bool} {state : σ}
    {first second : List ι} :
    Guarded step guard state (first ++ second) ↔
      Guarded step guard state first ∧
        Guarded step guard (run step state first) second := by
  induction first generalizing state with
  | nil => simp [Guarded, run]
  | cons input first ih =>
      simp only [List.cons_append, Guarded, ih, run, List.foldl_cons, and_assoc]

theorem run_invariant_of_guarded {guard : σ → ι → Bool} (Inv : σ → Prop)
    {state : σ} {inputs : List ι}
    (hstep : ∀ state, ∀ input ∈ inputs, guard state input = true →
      Inv state → Inv (step state input)) (hinit : Inv state)
    (hguard : Guarded step guard state inputs) :
    Inv (run step state inputs) := by
  induction inputs generalizing state with
  | nil => exact hinit
  | cons input inputs ih =>
      exact ih
        (fun state other hother =>
          hstep state other (List.mem_cons_of_mem input hother))
        (hstep state input List.mem_cons_self hguard.1 hinit) hguard.2

theorem run_invariant (Inv : σ → Prop)
    (hstep : ∀ state input, Inv state → Inv (step state input))
    {state : σ} (inputs : List ι) (hinit : Inv state) :
    Inv (run step state inputs) := by
  induction inputs generalizing state with
  | nil => exact hinit
  | cons input inputs ih => exact ih (hstep state input hinit)

end Total

/-! ## Runs with more state -/

section Projection

variable {τ : Type} {step : σ → ι → σ} {wide : τ → ι → τ} (project : τ → σ)
  (hproject : ∀ state input, project (wide state input) =
    step (project state) input)

include hproject

theorem project_run (state : τ) (inputs : List ι) :
    project (run wide state inputs) = run step (project state) inputs := by
  induction inputs generalizing state with
  | nil => rfl
  | cons input inputs ih =>
      have hrest := ih (wide state input)
      rw [hproject] at hrest
      exact hrest

theorem guarded_project {guard : σ → ι → Bool} {state : τ} {inputs : List ι}
    (h : Guarded step guard (project state) inputs) :
    Guarded wide (fun state input => guard (project state) input) state
      inputs := by
  induction inputs generalizing state with
  | nil => trivial
  | cons input inputs ih =>
      refine ⟨h.1, ih ?_⟩
      rw [hproject]
      exact h.2

end Projection

/-! ## Steps that may fail -/

section Partial

variable (step : σ → ι → Option σ)

/-- The state after all steps, if none of them fails. -/
def runAll : σ → List ι → Option σ
  | state, [] => some state
  | state, input :: inputs => (step state input).bind fun next =>
      runAll next inputs

def GuardedAll (guard : σ → ι → Bool) : σ → List ι → Prop
  | _, [] => True
  | state, input :: inputs => guard state input = true ∧
      ∀ next, step state input = some next → GuardedAll guard next inputs

instance (guard : σ → ι → Bool) :
    (state : σ) → (inputs : List ι) →
      Decidable (GuardedAll step guard state inputs)
  | _, [] => isTrue trivial
  | state, input :: inputs =>
      match h : step state input with
      | none => decidable_of_iff (guard state input = true) (by
          simp [GuardedAll, h])
      | some next =>
          have := instDecidableGuardedAll guard next inputs
          decidable_of_iff
            (guard state input = true ∧ GuardedAll step guard next inputs) (by
              simp [GuardedAll, h])

theorem runAll_append {state final : σ} {first second : List ι} :
    runAll step state (first ++ second) = some final ↔
      ∃ middle, runAll step state first = some middle ∧
        runAll step middle second = some final := by
  induction first generalizing state with
  | nil => simp [runAll]
  | cons input first ih =>
      simp only [List.cons_append, runAll, Option.bind_eq_some_iff, ih]
      constructor
      · rintro ⟨next, hnext, middle, hfirst, hsecond⟩
        exact ⟨middle, ⟨next, hnext, hfirst⟩, hsecond⟩
      · rintro ⟨middle, ⟨next, hnext, hfirst⟩, hsecond⟩
        exact ⟨next, hnext, middle, hfirst, hsecond⟩

theorem runAll_invariant_of_guarded {guard : σ → ι → Bool}
    (Inv : σ → Prop)
    (hstep : ∀ state input next, guard state input = true → Inv state →
      step state input = some next → Inv next)
    {state final : σ} {inputs : List ι} (hinit : Inv state)
    (hguard : GuardedAll step guard state inputs)
    (hrun : runAll step state inputs = some final) : Inv final := by
  induction inputs generalizing state with
  | nil =>
      cases hrun
      exact hinit
  | cons input inputs ih =>
      obtain ⟨next, hnext, hrest⟩ := Option.bind_eq_some_iff.mp hrun
      exact ih (hstep state input next hguard.1 hinit hnext)
        (hguard.2 next hnext) hrest

theorem runAll_invariant (Inv : σ → Prop)
    (hstep : ∀ state input next, Inv state → step state input = some next →
      Inv next)
    {state final : σ} {inputs : List ι} (hinit : Inv state)
    (hrun : runAll step state inputs = some final) : Inv final := by
  induction inputs generalizing state with
  | nil =>
      cases hrun
      exact hinit
  | cons input inputs ih =>
      obtain ⟨next, hnext, hrest⟩ := Option.bind_eq_some_iff.mp hrun
      exact ih (hstep state input next hinit hnext) hrest

/-- The steps of a kind are paid for by a rank that falls. -/
theorem runAll_countP (Inv : σ → Prop) (test : ι → Bool) (rank : σ → Nat)
    {state final : σ} {inputs : List ι}
    (hstep : ∀ state, ∀ input ∈ inputs, ∀ next, Inv state →
      step state input = some next →
      Inv next ∧ rank next + (if test input then 1 else 0) ≤ rank state)
    (hinit : Inv state) (hrun : runAll step state inputs = some final) :
    inputs.countP test ≤ rank state := by
  induction inputs generalizing state with
  | nil => exact Nat.zero_le _
  | cons input inputs ih =>
      obtain ⟨next, hnext, hrest⟩ := Option.bind_eq_some_iff.mp hrun
      obtain ⟨hinv, hpaid⟩ := hstep state input List.mem_cons_self next hinit
        hnext
      have hrank := ih
        (fun state other hother =>
          hstep state other (List.mem_cons_of_mem input hother)) hinv hrest
      rw [List.countP_cons]
      omega

end Partial

/-! ## Runs that are answered -/

section Answered

variable {ω τ : Type} (respond : σ → ι → ω × σ)

/-- What is asked and what is answered in a run, and the state after it. -/
def runAnswered : σ → List ι → List (ι × ω) × σ
  | state, [] => ([], state)
  | state, input :: inputs =>
      let (output, next) := respond state input
      let (trace, final) := runAnswered next inputs
      ((input, output) :: trace, final)

/-- The trace is one of the machine that allows these answers. -/
inductive Explains (allows : τ → ι → ω → τ → Prop) :
    τ → List (ι × ω) → τ → Prop
  | nil (state : τ) : Explains allows state [] state
  | cons {state next final : τ} {input : ι} {output : ω} {trace : List (ι × ω)}
      (head : allows state input output next)
      (tail : Explains allows next trace final) :
      Explains allows state ((input, output) :: trace) final

theorem Explains.append {allows : τ → ι → ω → τ → Prop} {state final : τ}
    {first second : List (ι × ω)}
    (h : Explains allows state (first ++ second) final) :
    ∃ middle, Explains allows state first middle ∧
      Explains allows middle second final := by
  induction first generalizing state with
  | nil => exact ⟨state, .nil state, h⟩
  | cons entry first ih =>
      cases h with
      | cons head tail =>
          obtain ⟨middle, hfirst, hsecond⟩ := ih tail
          exact ⟨middle, .cons head hfirst, hsecond⟩

/-- What every answer of a kind keeps, a trace of such answers keeps. -/
theorem Explains.invariant {allows : τ → ι → ω → τ → Prop} {state final : τ}
    {trace : List (ι × ω)} (h : Explains allows state trace final)
    (Inv : τ → Prop)
    (hstep : ∀ state next, ∀ entry ∈ trace,
      allows state entry.1 entry.2 next → Inv state → Inv next)
    (hinit : Inv state) : Inv final := by
  induction h with
  | nil state => exact hinit
  | cons head tail ih =>
      apply ih
      · intro state next entry hentry
        exact hstep state next entry (List.mem_cons_of_mem _ hentry)
      · exact hstep _ _ _ List.mem_cons_self head hinit

/-- An abstraction function under which every answer is allowed. -/
theorem explains_runAnswered {allows : τ → ι → ω → τ → Prop} (abstr : σ → τ)
    (Inv : σ → Prop)
    (hstep : ∀ state input, Inv state → Inv (respond state input).2 ∧
      allows (abstr state) input (respond state input).1
        (abstr (respond state input).2))
    {state : σ} (inputs : List ι) (hinit : Inv state) :
    Inv (runAnswered respond state inputs).2 ∧
      Explains allows (abstr state) (runAnswered respond state inputs).1
        (abstr (runAnswered respond state inputs).2) := by
  induction inputs generalizing state with
  | nil => exact ⟨hinit, .nil _⟩
  | cons input inputs ih =>
      obtain ⟨hinv, hallows⟩ := hstep state input hinit
      exact ⟨(ih hinv).1, .cons hallows (ih hinv).2⟩

end Answered

/-! ## Reading a list into a record -/

section Read

variable {ε α : Type} {step : σ → ι → Except ε σ}

/-- The last value that the list gives. -/
def lastOf (pick : ι → Option α) (inputs : List ι) : Option α :=
  (inputs.filterMap pick).getLast?

theorem lastOf_cons (pick : ι → Option α) (input : ι) (inputs : List ι) :
    lastOf pick (input :: inputs) = (lastOf pick inputs).or (pick input) := by
  rw [lastOf, lastOf, List.filterMap_cons]
  cases pick input with
  | none => simp
  | some value =>
      cases h : (inputs.filterMap pick).getLast? <;>
        simp [List.getLast?_cons, h]

/-- A field that is overwritten by some inputs and kept by the others holds the
last value given, or what it held before. -/
theorem foldlM_lastOf (field : σ → α) {p : ι → Option α}
    (hstep : ∀ state input next, step state input = .ok next →
      field next = (p input).getD (field state))
    {state final : σ} {inputs : List ι}
    (h : inputs.foldlM step state = .ok final) :
    field final = (lastOf p inputs).getD (field state) := by
  induction inputs generalizing state with
  | nil =>
      cases h
      rfl
  | cons input inputs ih =>
      rw [List.foldlM_cons] at h
      cases hnext : step state input with
      | error e =>
          rw [hnext] at h
          cases h
      | ok next =>
          rw [hnext] at h
          rw [ih h, hstep state input next hnext, lastOf, lastOf,
            List.filterMap_cons]
          cases p input with
          | none => rfl
          | some a =>
              rw [List.getLast?_cons]
              rfl

theorem foldlM_kept (field : σ → α)
    (hstep : ∀ state input next, step state input = .ok next →
      field next = field state)
    {state final : σ} {inputs : List ι}
    (h : inputs.foldlM step state = .ok final) : field final = field state := by
  have hlast := foldlM_lastOf field (p := fun _ => none) hstep h
  rw [hlast, lastOf, List.filterMap_eq_nil_iff.mpr fun _ _ => rfl]
  rfl

end Read

/-! ## Element by element -/

theorem getElem?_concat_eq_some {α : Type} {xs : List α} {last x : α} {n : Nat} :
    (xs ++ [last])[n]? = some x ↔
      xs[n]? = some x ∨ n = xs.length ∧ last = x := by
  rcases Nat.lt_trichotomy n xs.length with hlt | rfl | hgt
  · rw [List.getElem?_append_left hlt]
    simp [Nat.ne_of_lt hlt]
  · simp
  · rw [List.getElem?_eq_none (by simp; omega),
      List.getElem?_eq_none (Nat.le_of_lt hgt)]
    simp [Nat.ne_of_gt hgt]

theorem exists_of_forall₂ {α β : Type} {R : α → β → Prop} {xs : List α}
    {ys : List β} (h : List.Forall₂ R xs ys) {y : β} (hy : y ∈ ys) :
    ∃ x ∈ xs, R x y := by
  induction h with
  | nil => cases hy
  | cons hxy _ ih =>
      rcases List.mem_cons.mp hy with rfl | hmem
      · exact ⟨_, List.mem_cons_self, hxy⟩
      · obtain ⟨x, hx, hR⟩ := ih hmem
        exact ⟨x, List.mem_cons_of_mem _ hx, hR⟩

theorem exists_forall₂ {α β : Type} {R : α → β → Prop} {xs : List α}
    (h : ∀ x ∈ xs, ∃ y, R x y) : ∃ ys, List.Forall₂ R xs ys := by
  induction xs with
  | nil => exact ⟨[], .nil⟩
  | cons x xs ih =>
      obtain ⟨y, hy⟩ := h x List.mem_cons_self
      obtain ⟨ys, hys⟩ := ih fun other hother =>
        h other (List.mem_cons_of_mem x hother)
      exact ⟨y :: ys, .cons hy hys⟩

end L2tvpp.Lib
