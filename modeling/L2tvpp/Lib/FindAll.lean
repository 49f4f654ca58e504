import L2tvpp.Lib.Pattern

/-!
# All matches in a text

The matches of a pattern from the left, each after the end of the last one.  A
match is a way to cut the text; a pattern whose repetitions end where what
follows them begins has only one, and the matcher finds it.
-/

namespace L2tvpp.Lib.Pattern

variable {α : Type}

section Matching

variable [DecidableEq α]

/-- A match at the start of the input, and what follows it. -/
def matchPrefix : Pattern α → List α → Option (Captures α × List α)
  | [], input => some ([], input)
  | .lit text :: items, input =>
      if text <+: input then matchPrefix items (input.drop text.length)
      else none
  | .rep name test lo hi :: items, input =>
      (longestFirst lo (reach test hi input)).findSome? fun n =>
        (matchPrefix items (input.drop n)).map fun found =>
          (captured name (input.take n) found.1, found.2)

def findAllFrom (items : Pattern α) : Nat → List α → List (Captures α)
  | 0, _ => []
  | fuel + 1, input =>
      match matchPrefix items input with
      | some (captures, rest) => captures :: findAllFrom items fuel rest
      | none =>
          match input with
          | [] => []
          | _ :: input => findAllFrom items fuel input

/-- For a pattern that does not match the empty text. -/
def findAll (items : Pattern α) (input : List α) : List (Captures α) :=
  findAllFrom items (input.length + 1) input

end Matching

/-! ## Ways to cut a text -/

inductive Matches : Pattern α → List α → Captures α → List α → Prop
  | nil (input : List α) : Matches [] input [] input
  | lit {text input rest : List α} {items : Pattern α} {captures : Captures α}
      (tail : Matches items input captures rest) :
      Matches (.lit text :: items) (text ++ input) captures rest
  | rep {name : Option String} {test : α → Bool} {lo : Nat} {hi : Option Nat}
      {items : Pattern α} {run input rest : List α} {captures : Captures α}
      (hrun : ∀ c ∈ run, test c = true) (hlo : lo ≤ run.length)
      (hhi : ∀ n ∈ hi, run.length ≤ n)
      (tail : Matches items input captures rest) :
      Matches (.rep name test lo hi :: items) (run ++ input)
        (captured name run captures) rest

section Invert

variable {items : Pattern α} {input rest : List α} {captures : Captures α}

theorem matches_nil_iff :
    Matches [] input captures rest ↔ captures = [] ∧ input = rest := by
  constructor
  · intro h
    cases h
    exact ⟨rfl, rfl⟩
  · rintro ⟨rfl, rfl⟩
    exact .nil input

theorem matches_lit_iff {text : List α} :
    Matches (.lit text :: items) input captures rest ↔
      ∃ tail, input = text ++ tail ∧ Matches items tail captures rest := by
  constructor
  · intro h
    cases h with
    | lit tail => exact ⟨_, rfl, tail⟩
  · rintro ⟨tail, rfl, h⟩
    exact .lit h

theorem matches_rep_iff {name : Option String} {test : α → Bool} {lo : Nat} :
    Matches (.rep name test lo none :: items) input captures rest ↔
      ∃ run tail found, input = run ++ tail ∧ (∀ c ∈ run, test c = true) ∧
        lo ≤ run.length ∧ Matches items tail found rest ∧
        captures = captured name run found := by
  constructor
  · intro h
    cases h with
    | rep hrun hlo hhi tail => exact ⟨_, _, _, rfl, hrun, hlo, tail, rfl⟩
  · rintro ⟨run, tail, found, rfl, hrun, hlo, h, rfl⟩
    exact .rep hrun hlo (by simp) h

end Invert

theorem mem_longestFirst {lo reach n : Nat} :
    n ∈ longestFirst lo reach ↔ lo ≤ n ∧ n ≤ reach := by
  rw [longestFirst, List.mem_reverse, List.mem_range'_1]
  omega

theorem le_reach_iff {test : α → Bool} {hi : Option Nat} {input : List α}
    {n : Nat} :
    n ≤ reach test hi input ↔
      n ≤ (input.takeWhile test).length ∧ ∀ m ∈ hi, n ≤ m := by
  cases hi with
  | none => simp [reach]
  | some m =>
      rw [reach, Option.elim_some, Nat.le_min]
      simp

section Sound

variable [DecidableEq α] {items : Pattern α} {input rest : List α}
  {captures : Captures α}

theorem matches_of_matchPrefix
    (h : matchPrefix items input = some (captures, rest)) :
    Matches items input captures rest := by
  induction items generalizing input captures with
  | nil =>
      cases h
      exact .nil _
  | cons item items ih =>
      cases item with
      | lit text =>
          rw [matchPrefix] at h
          split at h
          · rename_i hprefix
            obtain ⟨tail, rfl⟩ := hprefix
            rw [List.drop_left] at h
            exact .lit (ih h)
          · cases h
      | rep name test lo hi =>
          rw [matchPrefix] at h
          obtain ⟨n, hn, hfound⟩ := List.exists_of_findSome?_eq_some h
          obtain ⟨found, hmatch, heq⟩ := Option.map_eq_some_iff.mp hfound
          cases heq
          obtain ⟨hlo, hreach⟩ := mem_longestFirst.mp hn
          obtain ⟨hrun, hhi⟩ := le_reach_iff.mp hreach
          have hlength : (input.take n).length = n := by
            have hle := (List.takeWhile_sublist test (l := input)).length_le
            simp
            omega
          have htake : ∀ c ∈ input.take n, test c = true := by
            intro c hc
            have hsame : input.take n = (input.takeWhile test).take n := by
              have hparts : input.takeWhile test ++ input.dropWhile test =
                  input := List.takeWhile_append_dropWhile
              have htaken : (input.takeWhile test ++ input.dropWhile test).take
                  n = (input.takeWhile test).take n :=
                List.take_append_of_le_length hrun
              rwa [hparts] at htaken
            rw [hsame] at hc
            exact List.mem_takeWhile_imp (List.mem_of_mem_take hc)
          have hwhole : Matches (.rep name test lo hi :: items)
              (input.take n ++ input.drop n)
              (captured name (input.take n) found.1) found.2 := by
            apply Matches.rep htake
            · rwa [hlength]
            · rwa [hlength]
            · exact ih hmatch
          rwa [List.take_append_drop] at hwhole

/-- Where there is a way to cut the text, the matcher finds one. -/
theorem matchPrefix_isSome (h : Matches items input captures rest) :
    (matchPrefix items input).isSome := by
  induction h with
  | nil input => rfl
  | lit tail ih =>
      rw [matchPrefix, if_pos (List.prefix_append _ _), List.drop_left]
      exact ih
  | @rep name test lo hi items run input rest captures hrun hlo hhi tail ih =>
      obtain ⟨found, hfound⟩ := Option.isSome_iff_exists.mp ih
      rw [matchPrefix, List.findSome?_isSome_iff]
      refine ⟨run.length, mem_longestFirst.mpr ⟨hlo, ?_⟩, ?_⟩
      · apply le_reach_iff.mpr
        refine ⟨?_, hhi⟩
        rw [List.takeWhile_append_of_pos hrun]
        simp
      · simp [hfound]

end Sound

/-! ## One way only -/

/-- What the pattern matches starts with no character of the class. -/
def StartsOutside (test : α → Bool) : Pattern α → Prop
  | .lit (c :: _) :: _ => test c = false
  | .rep _ other (_ + 1) _ :: _ => ∀ c, other c = true → test c = false
  | _ => False

def Determined : Pattern α → Prop
  | [] => True
  | .lit _ :: items => Determined items
  | .rep _ test _ none :: items => StartsOutside test items ∧ Determined items
  | .rep _ _ _ (some _) :: _ => False

section Unique

variable {items : Pattern α} {input rest rest' : List α}
  {captures captures' : Captures α}

theorem Matches.head_outside {test : α → Bool}
    (h : Matches items input captures rest)
    (houtside : StartsOutside test items) :
    ∀ c ∈ input.head?, test c = false := by
  cases h with
  | nil => cases houtside
  | @lit text input rest items captures tail =>
      cases text with
      | nil => cases houtside
      | cons c text =>
          intro d hd
          cases hd
          exact houtside
  | @rep name other lo hi items run input rest captures hrun hlo hhi tail =>
      cases lo with
      | zero => cases houtside
      | succ lo =>
          obtain ⟨c, run, rfl⟩ := List.exists_cons_of_length_pos
            (Nat.lt_of_lt_of_le (Nat.succ_pos lo) hlo)
          intro d hd
          cases hd
          exact houtside c (hrun c List.mem_cons_self)

/-- A run of a class ends where the class does. -/
theorem run_unique {test : α → Bool} {run run' tail tail' : List α}
    (hrun : ∀ c ∈ run, test c = true) (hrun' : ∀ c ∈ run', test c = true)
    (htail : ∀ c ∈ tail.head?, test c = false)
    (htail' : ∀ c ∈ tail'.head?, test c = false)
    (h : run ++ tail = run' ++ tail') : run = run' ∧ tail = tail' := by
  have hstop : ∀ {tail : List α}, (∀ c ∈ tail.head?, test c = false) →
      tail.takeWhile test = [] := by
    intro tail htail
    cases tail with
    | nil => rfl
    | cons c tail => simp [htail c rfl]
  have htaken := congrArg (List.takeWhile test) h
  rw [List.takeWhile_append_of_pos hrun, List.takeWhile_append_of_pos hrun',
    hstop htail, hstop htail', List.append_nil, List.append_nil] at htaken
  subst htaken
  exact ⟨rfl, List.append_cancel_left h⟩

theorem Matches.unique (hdetermined : Determined items)
    (h : Matches items input captures rest)
    (h' : Matches items input captures' rest') :
    captures = captures' ∧ rest = rest' := by
  induction h generalizing captures' rest' with
  | nil input =>
      cases h'
      exact ⟨rfl, rfl⟩
  | @lit text input rest items captures tail ih =>
      generalize hinput : text ++ input = whole at h'
      cases h' with
      | lit tail' =>
          cases List.append_cancel_left hinput
          exact ih hdetermined tail'
  | @rep name test lo hi items run input rest captures hrun hlo hhi tail ih =>
      cases hi with
      | some n => cases hdetermined
      | none =>
          generalize hinput : run ++ input = whole at h'
          cases h' with
          | rep hrun' hlo' hhi' tail' =>
              obtain ⟨rfl, rfl⟩ := run_unique hrun hrun'
                (tail.head_outside hdetermined.1)
                (tail'.head_outside hdetermined.1) hinput
              obtain ⟨rfl, rfl⟩ := ih hdetermined.2 tail'
              exact ⟨rfl, rfl⟩

theorem matchPrefix_eq_some_iff [DecidableEq α]
    (hdetermined : Determined items) :
    matchPrefix items input = some (captures, rest) ↔
      Matches items input captures rest := by
  constructor
  · exact matches_of_matchPrefix
  · intro h
    obtain ⟨⟨found, after⟩, hfound⟩ :=
      Option.isSome_iff_exists.mp (matchPrefix_isSome h)
    obtain ⟨rfl, rfl⟩ := (matches_of_matchPrefix hfound).unique hdetermined h
    exact hfound

end Unique

/-! ## Every match is found -/

section All

variable [DecidableEq α] {items : Pattern α}

/-- No match begins inside another one, and none is empty. -/
def Separate (items : Pattern α) : Prop :=
  ∀ input captures rest, matchPrefix items input = some (captures, rest) →
    ∃ taken, taken ≠ [] ∧ input = taken ++ rest ∧
      ∀ before after, taken = before ++ after → before ≠ [] → after ≠ [] →
        matchPrefix items (after ++ rest) = none

theorem mem_findAllFrom (hseparate : Separate items) {fuel : Nat}
    {input : List α} (hfuel : input.length < fuel) {captures : Captures α} :
    captures ∈ findAllFrom items fuel input ↔
      ∃ before after rest, input = before ++ after ∧
        matchPrefix items after = some (captures, rest) := by
  induction fuel generalizing input with
  | zero => omega
  | succ fuel ih =>
      unfold findAllFrom
      cases hfirst : matchPrefix items input with
      | none =>
          cases input with
          | nil =>
              dsimp only
              constructor
              · intro h
                cases h
              · rintro ⟨before, after, rest, hinput, hmatch⟩
                obtain ⟨rfl, rfl⟩ := List.append_eq_nil_iff.mp hinput.symm
                rw [hfirst] at hmatch
                cases hmatch
          | cons c input =>
              dsimp only
              rw [ih (by simpa using hfuel)]
              constructor
              · rintro ⟨before, after, rest, rfl, hmatch⟩
                exact ⟨c :: before, after, rest, rfl, hmatch⟩
              · rintro ⟨before, after, rest, hinput, hmatch⟩
                cases before with
                | nil =>
                    rw [List.nil_append] at hinput
                    rw [← hinput, hfirst] at hmatch
                    cases hmatch
                | cons d before =>
                    cases hinput
                    exact ⟨before, after, rest, rfl, hmatch⟩
      | some found =>
          obtain ⟨first, following⟩ := found
          obtain ⟨taken, htaken, rfl, hinside⟩ := hseparate _ _ _ hfirst
          have hshorter : following.length < fuel := by
            have hpos := List.length_pos_iff.mpr htaken
            rw [List.length_append] at hfuel
            omega
          dsimp only
          rw [List.mem_cons, ih hshorter]
          constructor
          · rintro (rfl | ⟨before, after, rest, rfl, hmatch⟩)
            · exact ⟨[], _, following, rfl, hfirst⟩
            · exact ⟨taken ++ before, after, rest, by simp, hmatch⟩
          · rintro ⟨before, after, rest, hinput, hmatch⟩
            rcases List.append_eq_append_iff.mp hinput with
              ⟨more, rfl, hafter⟩ | ⟨more, hbefore, rfl⟩
            · exact .inr ⟨more, after, rest, hafter, hmatch⟩
            · by_cases hstart : before = []
              · subst hstart
                rw [List.nil_append] at hbefore
                rw [← hbefore, hfirst] at hmatch
                cases hmatch
                exact .inl rfl
              · by_cases hend : more = []
                · subst hend
                  exact .inr ⟨[], _, rest, rfl, hmatch⟩
                · rw [hinside before more hbefore hstart hend] at hmatch
                  cases hmatch

theorem mem_findAll (hseparate : Separate items) {input : List α}
    {captures : Captures α} :
    captures ∈ findAll items input ↔
      ∃ before after rest, input = before ++ after ∧
        matchPrefix items after = some (captures, rest) :=
  mem_findAllFrom hseparate (Nat.lt_succ_self _)

end All

end L2tvpp.Lib.Pattern
