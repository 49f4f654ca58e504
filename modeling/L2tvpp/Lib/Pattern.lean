import Mathlib.Data.List.Infix
import Mathlib.Data.List.TakeWhile

/-!
# Sequential patterns

Regular expressions that are a sequence of literals and of repeated character
classes, matched the way a backtracking engine does: a repetition first takes
as many characters as it can and then gives them back one at a time.
-/

namespace L2tvpp.Lib

inductive PatternItem (α : Type) where
  | lit (text : List α)
  /-- Between `lo` and `hi` characters of a class, captured under `name`. -/
  | rep (name : Option String) (test : α → Bool) (lo : Nat) (hi : Option Nat)

abbrev Pattern (α : Type) := List (PatternItem α)

abbrev Captures (α : Type) := List (String × List α)

def Captures.group {α : Type} (captures : Captures α) (name : String) :
    List α :=
  (captures.lookup name).getD []

namespace Pattern

variable {α : Type}

/-- How many characters a repetition takes at first. -/
def reach (test : α → Bool) (hi : Option Nat) (input : List α) : Nat :=
  let run := (input.takeWhile test).length
  hi.elim run (min run)

def longestFirst (lo reach : Nat) : List Nat :=
  (List.range' lo (reach + 1 - lo)).reverse

def captured (name : Option String) (taken : List α)
    (captures : Captures α) : Captures α :=
  match name with
  | none => captures
  | some name => (name, taken) :: captures

theorem captured_none (taken : List α) :
    captured none taken = (id : Captures α → Captures α) := rfl

section Matching

variable [DecidableEq α]

/-- Match at the start of the input; what follows the match is free. -/
def matchStart : Pattern α → List α → Option (Captures α)
  | [], _ => some []
  | .lit text :: items, input =>
      if text <+: input then matchStart items (input.drop text.length) else none
  | .rep name test lo hi :: items, input =>
      (longestFirst lo (reach test hi input)).findSome? fun n =>
        (matchStart items (input.drop n)).map (captured name (input.take n))

/-- The first match, from the left. -/
def search (items : Pattern α) : List α → Option (Captures α)
  | [] => matchStart items []
  | c :: input => (matchStart items (c :: input)).or (search items input)

end Matching

/-! ## How far a repetition goes -/

theorem longestFirst_cons {lo reach : Nat} (h : lo ≤ reach) :
    ∃ counts, longestFirst lo reach = reach :: counts ∧
      ∀ n ∈ counts, n < reach := by
  obtain ⟨extra, rfl⟩ := Nat.exists_eq_add_of_le h
  refine ⟨(List.range' lo extra).reverse, ?_, ?_⟩
  · have hlen : lo + extra + 1 - lo = extra + 1 := by omega
    rw [longestFirst, hlen, List.range'_1_concat, List.reverse_concat]
  · intro n hn
    rw [List.mem_reverse, List.mem_range'_1] at hn
    exact hn.2

theorem longestFirst_eq_nil {lo reach : Nat} (h : reach < lo) :
    longestFirst lo reach = [] := by
  have hlen : reach + 1 - lo = 0 := by omega
  rw [longestFirst, hlen, List.range'_zero, List.reverse_nil]

theorem reach_none (test : α → Bool) (input : List α) :
    reach test none input = (input.takeWhile test).length := rfl

/-- The run ends where the class or the bound does. -/
theorem reach_append {test : α → Bool} {hi : Option Nat} {run tail : List α}
    (hrun : ∀ c ∈ run, test c = true)
    (hend : hi = some run.length ∨
      (∀ n ∈ hi, run.length ≤ n) ∧ ∀ c ∈ tail.head?, test c = false) :
    reach test hi (run ++ tail) = run.length := by
  simp only [reach, List.takeWhile_append_of_pos hrun, List.length_append]
  rcases hend with rfl | ⟨hle, htail⟩
  · simp
  · have htake : tail.takeWhile test = [] := by
      cases tail with
      | nil => rfl
      | cons c tail => simp [htail c rfl]
    cases hi with
    | none => simp [htake]
    | some n => simpa [htake] using Nat.min_eq_left (hle n rfl)

theorem take_length_takeWhile (test : α → Bool) (input : List α) :
    input.take (input.takeWhile test).length = input.takeWhile test :=
  (List.prefix_iff_eq_take.mp (List.takeWhile_prefix test)).symm

theorem drop_eq_append_dropWhile (test : α → Bool) {input : List α} {n : Nat}
    (h : n ≤ (input.takeWhile test).length) :
    input.drop n =
      (input.takeWhile test).drop n ++ input.dropWhile test := by
  rw [← List.drop_append_of_le_length h, List.takeWhile_append_dropWhile]

theorem drop_length_takeWhile (test : α → Bool) (input : List α) :
    input.drop (input.takeWhile test).length = input.dropWhile test := by
  rw [drop_eq_append_dropWhile test le_rfl, List.drop_length, List.nil_append]

/-- What is left after giving characters back starts with one of them. -/
theorem drop_eq_cons (test : α → Bool) {input : List α} {n : Nat}
    (h : n < (input.takeWhile test).length) :
    ∃ c rest, input.drop n = c :: rest ∧ test c = true := by
  rw [drop_eq_append_dropWhile test h.le, List.drop_eq_getElem_cons h]
  exact ⟨_, _, rfl, List.mem_takeWhile_imp (List.getElem_mem h)⟩

variable [DecidableEq α] {name : Option String} {test : α → Bool} {lo : Nat}
  {items : Pattern α} {captures : Captures α}

/-! ## Literals -/

@[simp] theorem matchStart_lit (text input : List α) (items : Pattern α) :
    matchStart (.lit text :: items) (text ++ input) =
      matchStart items input := by
  simp [matchStart]

theorem matchStart_lit_none {text input : List α} (items : Pattern α)
    (h : ¬ text <+: input) : matchStart (.lit text :: items) input = none := by
  simp [matchStart, h]

theorem matchStart_lit_cons {c d : α} {text input : List α}
    (items : Pattern α) (h : c ≠ d) :
    matchStart (.lit (c :: text) :: items) (d :: input) = none :=
  matchStart_lit_none items fun hpre => h (List.cons_prefix_cons.mp hpre).1

/-! ## Repetitions -/

theorem matchStart_rep_append {hi : Option Nat} {run tail : List α}
    (hrun : ∀ c ∈ run, test c = true) (hlo : lo ≤ run.length)
    (hend : hi = some run.length ∨
      (∀ n ∈ hi, run.length ≤ n) ∧ ∀ c ∈ tail.head?, test c = false)
    (hrest : matchStart items tail = some captures) :
    matchStart (.rep name test lo hi :: items) (run ++ tail) =
      some (captured name run captures) := by
  obtain ⟨counts, hcounts, -⟩ := longestFirst_cons hlo
  simp only [matchStart, reach_append hrun hend, hcounts, List.findSome?_cons,
    List.drop_left, List.take_left, hrest, Option.map_some]

theorem matchStart_rep_none (items : Pattern α) {input : List α}
    (h : (input.takeWhile test).length < lo) :
    matchStart (.rep name test lo none :: items) input = none := by
  rw [matchStart, reach_none, longestFirst_eq_nil h, List.findSome?_nil]

/-- Nothing is given back where what follows cannot start in the class. -/
theorem matchStart_rep_eq (input : List α)
    (hitems : ∀ c rest, test c = true → matchStart items (c :: rest) = none) :
    matchStart (.rep name test lo none :: items) input =
      if lo ≤ (input.takeWhile test).length then
        (matchStart items (input.dropWhile test)).map
          (captured name (input.takeWhile test))
      else none := by
  split
  · rename_i hlo
    obtain ⟨counts, hcounts, hless⟩ := longestFirst_cons hlo
    have hlater : counts.findSome? (fun n =>
        (matchStart items (input.drop n)).map
          (captured name (input.take n))) = none := by
      rw [List.findSome?_eq_none_iff]
      intro n hn
      obtain ⟨c, rest, hdrop, hc⟩ := drop_eq_cons test (hless n hn)
      rw [hdrop, hitems c rest hc, Option.map_none]
    rw [matchStart, reach_none, hcounts, List.findSome?_cons, hlater,
      take_length_takeWhile, drop_length_takeWhile]
    cases matchStart items (input.dropWhile test) with
    | none => rfl
    | some captures => rfl
  · rename_i hlo
    exact matchStart_rep_none items (Nat.lt_of_not_le hlo)

/-- A class that the following literal cannot start in is skipped whole. -/
theorem matchStart_skip {c : α} {text : List α} (items : Pattern α)
    (input : List α) (hc : test c = false) :
    matchStart (.rep none test 0 none :: .lit (c :: text) :: items) input =
      matchStart (.lit (c :: text) :: items) (input.dropWhile test) := by
  have hgiven : ∀ d rest, test d = true →
      matchStart (.lit (c :: text) :: items) (d :: rest) = none := by
    intro d rest hd
    apply matchStart_lit_cons
    rintro rfl
    rw [hc] at hd
    contradiction
  rw [matchStart_rep_eq input hgiven, if_pos (Nat.zero_le _), captured_none,
    Option.map_id_apply]

/-- At the end of a pattern a repetition keeps all it takes. -/
theorem matchStart_rep_last (input : List α) :
    matchStart [.rep name test lo none] input =
      if lo ≤ (input.takeWhile test).length then
        some (captured name (input.takeWhile test) [])
      else none := by
  split
  · rename_i hlo
    obtain ⟨counts, hcounts, -⟩ := longestFirst_cons hlo
    rw [matchStart, reach_none, hcounts, List.findSome?_cons, matchStart,
      take_length_takeWhile, Option.map_some]
  · rename_i hlo
    exact matchStart_rep_none [] (Nat.lt_of_not_le hlo)

/-! ## What a match says about its input -/

theorem isInfix_of_matchStart {input text : List α} (hitem : .lit text ∈ items)
    (h : matchStart items input = some captures) : text <:+: input := by
  induction items generalizing input captures with
  | nil => contradiction
  | cons item items ih =>
      cases item with
      | lit first =>
          rw [matchStart] at h
          split at h
          · rename_i hpre
            rcases List.mem_cons.mp hitem with heq | hmem
            · cases heq
              exact hpre.isInfix
            · exact (ih hmem h).trans (List.drop_suffix _ _).isInfix
          · contradiction
      | rep name test lo hi =>
          rw [matchStart] at h
          obtain ⟨n, -, hn⟩ := List.exists_of_findSome?_eq_some h
          obtain ⟨rest, hrest, -⟩ := Option.map_eq_some_iff.mp hn
          rcases List.mem_cons.mp hitem with heq | hmem
          · contradiction
          · exact (ih hmem hrest).trans (List.drop_suffix _ _).isInfix

theorem isInfix_of_search {input text : List α} (hitem : .lit text ∈ items)
    (h : search items input = some captures) : text <:+: input := by
  induction input with
  | nil => exact isInfix_of_matchStart hitem h
  | cons c input ih =>
      rcases Option.or_eq_some_iff.mp h with hfirst | ⟨-, hlater⟩
      · exact isInfix_of_matchStart hitem hfirst
      · exact (ih hlater).trans (List.suffix_cons c input).isInfix

/-- A search passes text in which the leading literal cannot start. -/
theorem search_append {c : α} {text input : List α}
    (htext : text.head? = some c) (skipped : List α) (hskip : c ∉ skipped)
    (h : matchStart (.lit text :: items) input = some captures) :
    search (.lit text :: items) (skipped ++ input) = some captures := by
  induction skipped with
  | nil =>
      cases input with
      | nil => exact h
      | cons d input => simp [search, h]
  | cons d skipped ih =>
      rw [List.mem_cons, not_or] at hskip
      obtain ⟨rest, rfl⟩ := List.head?_eq_some_iff.mp htext
      rw [List.cons_append, search, matchStart_lit_cons items hskip.1]
      exact ih hskip.2

end Pattern

end L2tvpp.Lib
