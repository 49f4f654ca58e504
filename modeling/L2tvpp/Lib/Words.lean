import Mathlib.Data.List.DropRight
import L2tvpp.Lib.Text

/-!
# Words

A text cut at white space, and the stretch of it that a run of words comes from.
-/

namespace L2tvpp.Lib

def words (text : Text) : List Text := (text.splitOnP isSpace).filter (· ≠ [])

def Blank (text : Text) : Prop := ∀ c ∈ text, isSpace c = true

/-- The text is empty or begins with white space. -/
def WordEnds (text : Text) : Prop := ∀ c ∈ text.head?, isSpace c = true

theorem wordEnds_append {gap : Text} (hgap : Blank gap) (hne : gap ≠ [])
    (text : Text) : WordEnds (gap ++ text) := by
  obtain ⟨c, rest, rfl⟩ := List.exists_cons_of_ne_nil hne
  intro d hd
  cases hd
  exact hgap c List.mem_cons_self

theorem gap_ne_nil {gap word rest : Text} (hword : IsWord word)
    (hends : WordEnds (gap ++ (word ++ rest))) : gap ≠ [] := by
  rintro rfl
  obtain ⟨c, more, rfl⟩ := List.exists_cons_of_ne_nil hword.1
  have hspace := hends c rfl
  rw [hword.2 c List.mem_cons_self] at hspace
  cases hspace

@[simp] theorem words_nil : words [] = [] := by
  simp [words, List.splitOnP_nil]

theorem words_append_space (before : Text) {c : Char} (hc : isSpace c = true)
    (after : Text) :
    words (before ++ c :: after) = words before ++ words after := by
  rw [words, List.splitOnP_append_cons before after hc, List.filter_append]
  rfl

theorem words_cons_space {c : Char} (hc : isSpace c = true) (text : Text) :
    words (c :: text) = words text := by
  have h := words_append_space [] hc text
  rwa [words_nil, List.nil_append] at h

theorem words_blank_append {gap : Text} (hgap : Blank gap) (text : Text) :
    words (gap ++ text) = words text := by
  induction gap with
  | nil => rfl
  | cons c gap ih =>
      rw [List.cons_append, words_cons_space (hgap c List.mem_cons_self)]
      exact ih fun d hd => hgap d (List.mem_cons_of_mem c hd)

theorem words_isWord {word : Text} (hword : IsWord word) :
    words word = [word] := by
  rw [words, List.splitOnP_eq_singleton hword.2]
  simp [hword.1]

theorem words_isWord_append {word : Text} (hword : IsWord word) {text : Text}
    (hends : WordEnds text) : words (word ++ text) = word :: words text := by
  cases text with
  | nil => rw [List.append_nil, words_isWord hword, words_nil]
  | cons c text =>
      have hc := hends c rfl
      rw [words_append_space word hc, words_isWord hword, words_cons_space hc]
      rfl

/-- A text that ends in white space ends its last word. -/
theorem words_append {before : Text}
    (hends : ∀ c ∈ before.getLast?, isSpace c = true) (after : Text) :
    words (before ++ after) = words before ++ words after := by
  cases before using List.reverseRecOn with
  | nil => rw [words_nil, List.nil_append, List.nil_append]
  | append_singleton before c =>
      have hc : isSpace c = true := hends c (by simp)
      rw [List.append_assoc, List.singleton_append, words_append_space _ hc,
        words_append_space _ hc, words_nil, List.append_nil]

theorem space_before_rtakeWhile (text : Text) :
    ∀ c ∈ (text.rdropWhile fun c => !isSpace c).getLast?,
      isSpace c = true := by
  intro c hc
  have hne : (text.rdropWhile fun c => !isSpace c) ≠ [] := by
    intro hnil
    rw [hnil] at hc
    cases hc
  have hlast := List.rdropWhile_last_not (fun c => !isSpace c) text hne
  rw [List.getLast?_eq_some_getLast hne] at hc
  cases hc
  simpa using hlast

theorem wordEnds_dropWhile (text : Text) :
    WordEnds (text.dropWhile fun c => !isSpace c) := by
  intro c hc
  have hstop := List.head?_dropWhile_not (fun c => !isSpace c) text
  rw [Option.mem_def.mp hc] at hstop
  simpa using hstop

theorem words_eq_cons {text word : Text} {more : List Text} :
    words text = word :: more ↔
      ∃ gap rest, text = gap ++ (word ++ rest) ∧ Blank gap ∧ IsWord word ∧
        WordEnds rest ∧ words rest = more := by
  constructor
  · intro h
    have hcut := List.takeWhile_append_dropWhile (p := isSpace) (l := text)
    have hgap : Blank (text.takeWhile isSpace) :=
      fun c hc => List.mem_takeWhile_imp hc
    cases hbody : text.dropWhile isSpace with
    | nil =>
        rw [← hcut, hbody, words_blank_append hgap, words_nil] at h
        cases h
    | cons c body =>
        have hc : isSpace c = false := by
          have hstop := List.head?_dropWhile_not isSpace text
          rwa [hbody] at hstop
        let word' := (c :: body).takeWhile fun c => !isSpace c
        let rest := (c :: body).dropWhile fun c => !isSpace c
        have hword : IsWord word' := by
          refine ⟨by simp [word', hc], ?_⟩
          intro d hd
          simpa using List.mem_takeWhile_imp hd
        have hparts : word' ++ rest = c :: body :=
          List.takeWhile_append_dropWhile
        rw [← hcut, hbody, words_blank_append hgap, ← hparts,
          words_isWord_append hword (wordEnds_dropWhile _)] at h
        obtain ⟨hfirst, hmore⟩ := List.cons.inj h
        rw [← hfirst]
        refine ⟨_, rest, ?_, hgap, hword, wordEnds_dropWhile _, hmore⟩
        rw [hparts, ← hbody, hcut]
  · rintro ⟨gap, rest, rfl, hgap, hword, hends, rfl⟩
    rw [words_blank_append hgap, words_isWord_append hword hends]

/-- A run of words comes from a stretch of the text. -/
theorem words_eq_append {text : Text} {first second : List Text}
    (h : words text = first ++ second) :
    ∃ before after, text = before ++ after ∧ words before = first ∧
      words after = second := by
  induction first generalizing text with
  | nil => exact ⟨[], text, rfl, words_nil, h⟩
  | cons word first ih =>
      obtain ⟨gap, rest, rfl, hgap, hword, hends, hrest⟩ := words_eq_cons.mp h
      obtain ⟨before, after, rfl, rfl, hafter⟩ := ih hrest
      refine ⟨gap ++ (word ++ before), after, by simp, ?_, hafter⟩
      rw [words_blank_append hgap, words_isWord_append hword]
      intro c hc
      apply hends c
      cases before with
      | nil => cases hc
      | cons d before => exact hc

end L2tvpp.Lib
