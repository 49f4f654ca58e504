import Mathlib.Data.List.Basic

/-!
# Stateful programs with exceptions

A program of `ExceptT ε (StateM σ)` keeps the state it has reached when it
throws.  The rules take a run that returns apart: into its parts for a bind,
and into what every round keeps for a loop.
-/

namespace L2tvpp.Lib

abbrev Prog (ε σ α : Type) := ExceptT ε (StateM σ) α

variable {ε σ α β : Type}

def exec (prog : Prog ε σ α) (state : σ) : Except ε α × σ := prog.run.run state

@[simp] theorem exec_pure (a : α) (state : σ) :
    exec (pure a : Prog ε σ α) state = (.ok a, state) := rfl

@[simp] theorem exec_throw (e : ε) (state : σ) :
    exec (throw e : Prog ε σ α) state = (.error e, state) := rfl

@[simp] theorem exec_get (state : σ) :
    exec (get : Prog ε σ σ) state = (.ok state, state) := rfl

@[simp] theorem exec_set (new state : σ) :
    exec (set new : Prog ε σ PUnit) state = (.ok ⟨⟩, new) := rfl

theorem exec_bind (prog : Prog ε σ α) (next : α → Prog ε σ β) (state : σ) :
    exec (prog >>= next) state =
      match exec prog state with
      | (.ok a, middle) => exec (next a) middle
      | (.error e, middle) => (.error e, middle) := by
  cases h : exec prog state with
  | mk outcome middle =>
      unfold exec at h ⊢
      rw [ExceptT.run_bind, StateT.run_bind, h]
      cases outcome <;> rfl

theorem exec_bind_ok {prog : Prog ε σ α} {next : α → Prog ε σ β}
    {state final : σ} {b : β} :
    exec (prog >>= next) state = (.ok b, final) ↔
      ∃ a middle, exec prog state = (.ok a, middle) ∧
        exec (next a) middle = (.ok b, final) := by
  rw [exec_bind]
  cases h : exec prog state with
  | mk outcome middle =>
      cases outcome with
      | error e => simp
      | ok a =>
          constructor
          · intro hnext
            exact ⟨a, middle, rfl, hnext⟩
          · rintro ⟨a', middle', hprog, hnext⟩
            cases hprog
            exact hnext

theorem exec_bind_error {prog : Prog ε σ α} {next : α → Prog ε σ β}
    {state final : σ} {e : ε} :
    exec (prog >>= next) state = (.error e, final) ↔
      exec prog state = (.error e, final) ∨
      ∃ a middle, exec prog state = (.ok a, middle) ∧
        exec (next a) middle = (.error e, final) := by
  rw [exec_bind]
  cases h : exec prog state with
  | mk outcome middle =>
      cases outcome with
      | error e' => simp
      | ok a =>
          constructor
          · intro hnext
            exact .inr ⟨a, middle, rfl, hnext⟩
          · rintro (hprog | ⟨a', middle', hprog, hnext⟩)
            · cases hprog
            · cases hprog
              exact hnext

@[simp] theorem exec_get_bind (next : σ → Prog ε σ α) (state : σ) :
    exec (get >>= next) state = exec (next state) state := by
  rw [exec_bind, exec_get]

@[simp] theorem exec_set_bind (new state : σ)
    (next : PUnit → Prog ε σ α) :
    exec (set new >>= next) state = exec (next ⟨⟩) new := by
  rw [exec_bind, exec_set]

/-! ## Pre- and postconditions -/

/-- From a state that meets `pre`, a run that returns ends as `post` says and
one that throws ends in a state that meets `raised`. -/
def Triple (pre : σ → Prop) (prog : Prog ε σ α) (post : α → σ → Prop)
    (raised : σ → Prop) : Prop :=
  ∀ state, pre state →
    match exec prog state with
    | (.ok a, final) => post a final
    | (.error _, final) => raised final

namespace Triple

variable {pre : σ → Prop} {post : α → σ → Prop} {raised : σ → Prop}

theorem ok {prog : Prog ε σ α} (h : Triple pre prog post raised)
    {state final : σ} {a : α} (hpre : pre state)
    (hexec : exec prog state = (.ok a, final)) : post a final := by
  have hrun := h state hpre
  rw [hexec] at hrun
  exact hrun

theorem error {prog : Prog ε σ α} (h : Triple pre prog post raised)
    {state final : σ} {e : ε} (hpre : pre state)
    (hexec : exec prog state = (.error e, final)) : raised final := by
  have hrun := h state hpre
  rw [hexec] at hrun
  exact hrun

/-- Nothing is said of a run that throws. -/
theorem ofReturned {prog : Prog ε σ α}
    (h : ∀ state a final, pre state → exec prog state = (.ok a, final) →
      post a final) : Triple pre prog post fun _ => True := by
  intro state hpre
  cases hexec : exec prog state with
  | mk outcome final =>
      cases outcome with
      | error e => trivial
      | ok a => exact h state a final hpre hexec

theorem conseq {prog : Prog ε σ α} {pre' : σ → Prop} {post' : α → σ → Prop}
    {raised' : σ → Prop} (h : Triple pre prog post raised)
    (hpre : ∀ state, pre' state → pre state)
    (hpost : ∀ a state, post a state → post' a state)
    (hraised : ∀ state, raised state → raised' state) :
    Triple pre' prog post' raised' := by
  intro state hstate
  have hrun := h state (hpre state hstate)
  split at hrun
  · exact hpost _ _ hrun
  · exact hraised _ hrun

/-- A fact that does not depend on the state is a hypothesis. -/
theorem fact {prog : Prog ε σ α} {φ : Prop}
    (h : φ → Triple pre prog post raised) :
    Triple (fun state => pre state ∧ φ) prog post raised :=
  fun state hstate => h hstate.2 state hstate.1

theorem ret {a : α} (h : ∀ state, pre state → post a state) :
    Triple pre (pure a : Prog ε σ α) post raised := h

theorem raise {e : ε} (h : ∀ state, pre state → raised state) :
    Triple pre (throw e : Prog ε σ α) post raised := h

theorem bind {prog : Prog ε σ β} {next : β → Prog ε σ α}
    {middle : β → σ → Prop} (hprog : Triple pre prog middle raised)
    (hnext : ∀ b, Triple (middle b) (next b) post raised) :
    Triple pre (prog >>= next) post raised := by
  intro state hstate
  have hrun := hprog state hstate
  rw [exec_bind]
  split at hrun
  · exact hnext _ _ hrun
  · exact hrun

/-- What is read is the state there is. -/
theorem read {next : σ → Prog ε σ α}
    (h : ∀ state, pre state →
      Triple (fun now => now = state) (next state) post raised) :
    Triple pre (get >>= next) post raised := by
  intro state hstate
  rw [exec_get_bind]
  exact h state hstate state rfl

/-- The rule for a program that needs no more of the state than `pre`. -/
theorem readAny {next : σ → Prog ε σ α}
    (h : ∀ state, Triple pre (next state) post raised) :
    Triple pre (get >>= next) post raised := by
  intro state hstate
  rw [exec_get_bind]
  exact h state state hstate

theorem foldlM {body : β → α → Prog ε σ β} {xs : List α}
    (Inv : List α → β → σ → Prop)
    (hbody : ∀ done x rest, xs = done ++ x :: rest → ∀ b,
      Triple (Inv done b) (body b x) (Inv (done ++ [x])) raised) (b : β) :
    Triple (Inv [] b) (xs.foldlM body b) (Inv xs) raised := by
  suffices hfrom : ∀ (rest done : List α) (b : β), xs = done ++ rest →
      Triple (Inv done b) (rest.foldlM body b) (Inv xs) raised by
    exact hfrom xs [] b rfl
  intro rest
  induction rest with
  | nil =>
      intro done b heq
      rw [List.append_nil] at heq
      rw [heq]
      exact ret fun _ h => h
  | cons x rest ih =>
      intro done b heq
      rw [List.foldlM_cons]
      exact bind (hbody done x rest heq b)
        fun b' => ih (done ++ [x]) b' (by rw [heq]; simp)

theorem forM {body : α → Prog ε σ PUnit} {xs : List α}
    (Inv : List α → σ → Prop)
    (hbody : ∀ done x rest, xs = done ++ x :: rest →
      Triple (Inv done) (body x) (fun _ => Inv (done ++ [x])) raised) :
    Triple (Inv []) (xs.forM body) (fun _ => Inv xs) raised := by
  suffices hfrom : ∀ (rest done : List α), xs = done ++ rest →
      Triple (Inv done) (rest.forM body) (fun _ => Inv xs) raised by
    exact hfrom xs [] rfl
  intro rest
  induction rest with
  | nil =>
      intro done heq
      rw [List.append_nil] at heq
      rw [heq]
      exact ret fun _ h => h
  | cons x rest ih =>
      intro done heq
      exact bind (hbody done x rest heq)
        fun _ => ih (done ++ [x]) (by rw [heq]; simp)

end Triple

/-! ## Runs that return -/

/-- A fold keeps an invariant on what it has done so far. -/
theorem exec_foldlM_invariant {body : β → α → Prog ε σ β} {xs : List α}
    (Inv : List α → β → σ → Prop)
    (hbody : ∀ done x rest, xs = done ++ x :: rest →
      ∀ b state b' state', Inv done b state →
        exec (body b x) state = (.ok b', state') → Inv (done ++ [x]) b' state')
    {b b' : β} {state final : σ} (hinit : Inv [] b state)
    (hrun : exec (xs.foldlM body b) state = (.ok b', final)) :
    Inv xs b' final := by
  have hloop := Triple.foldlM Inv 
    (fun done x rest heq b => Triple.ofReturned fun state b' state' =>
      hbody done x rest heq b state b' state') b
  exact hloop.ok hinit hrun

theorem exec_forM_invariant {body : α → Prog ε σ PUnit} {xs : List α}
    (Inv : List α → σ → Prop)
    (hbody : ∀ done x rest, xs = done ++ x :: rest →
      ∀ state state', Inv done state →
        exec (body x) state = (.ok ⟨⟩, state') → Inv (done ++ [x]) state')
    {state final : σ} (hinit : Inv [] state)
    (hrun : exec (xs.forM body) state = (.ok ⟨⟩, final)) : Inv xs final := by
  have hloop := Triple.forM Inv 
    (fun done x rest heq => Triple.ofReturned fun state _ state' =>
      hbody done x rest heq state state')
  exact hloop.ok hinit hrun

/-- A fold none of whose rounds does anything. -/
theorem exec_foldlM_fixed {body : β → α → Prog ε σ β} {xs : List α} {b : β}
    {state : σ} (h : ∀ x ∈ xs, exec (body b x) state = (.ok b, state)) :
    exec (xs.foldlM body b) state = (.ok b, state) := by
  induction xs with
  | nil => rfl
  | cons x xs ih =>
      rw [List.foldlM_cons, exec_bind, h x List.mem_cons_self]
      exact ih fun y hy => h y (List.mem_cons_of_mem x hy)

/-! ## Preserved properties -/

/-- A run that returns keeps the property of the state. -/
def Preserves (I : σ → Prop) (prog : Prog ε σ α) : Prop :=
  ∀ state a final, exec prog state = (.ok a, final) → I state → I final

namespace Preserves

variable {I : σ → Prop}

theorem iff_triple {prog : Prog ε σ α} :
    Preserves I prog ↔ Triple I prog (fun _ => I) fun _ => True := by
  constructor
  · intro h
    exact .ofReturned fun state a final hstate hexec =>
      h state a final hexec hstate
  · intro h state a final hexec hstate
    exact h.ok hstate hexec

theorem ret (a : α) : Preserves I (pure a : Prog ε σ α) := by
  rw [iff_triple]
  apply Triple.ret
  intro state hstate
  exact hstate

theorem raise (e : ε) : Preserves I (throw e : Prog ε σ α) := by
  rw [iff_triple]
  apply Triple.raise
  intro state _
  trivial

theorem bind {prog : Prog ε σ α} {next : α → Prog ε σ β}
    (hprog : Preserves I prog) (hnext : ∀ a, Preserves I (next a)) :
    Preserves I (prog >>= next) := by
  simp only [iff_triple] at hprog hnext ⊢
  exact hprog.bind hnext

theorem read {next : σ → Prog ε σ α} (h : ∀ state, Preserves I (next state)) :
    Preserves I (get >>= next) := by
  simp only [iff_triple] at h ⊢
  exact Triple.readAny h

theorem foldlM {body : β → α → Prog ε σ β}
    (h : ∀ b x, Preserves I (body b x)) (xs : List α) (b : β) :
    Preserves I (xs.foldlM body b) := by
  simp only [iff_triple] at h ⊢
  apply Triple.foldlM fun _ _ => I
  intro done x rest _ b
  exact h b x

theorem forM {body : α → Prog ε σ PUnit} (h : ∀ x, Preserves I (body x))
    (xs : List α) : Preserves I (xs.forM body) := by
  simp only [iff_triple] at h ⊢
  apply Triple.forM fun _ => I
  intro done x rest _
  exact h x

end Preserves

end L2tvpp.Lib
