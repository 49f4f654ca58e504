import Mathlib.Algebra.GroupWithZero.Nat
import Mathlib.Data.List.Basic

/-!
# Lines, decimal and hexadecimal numbers

Character classes, line splitting and number reading over Unicode text, with
the way numbers are printed.
-/

namespace L2tvpp.Lib

abbrev Text := List Char

def isSpace (c : Char) : Bool :=
  let n := c.toNat
  (0x09 ≤ n && n ≤ 0x0D) || (0x1C ≤ n && n ≤ 0x20) || n == 0x85 ||
    n == 0xA0 || n == 0x1680 || (0x2000 ≤ n && n ≤ 0x200A) || n == 0x2028 ||
    n == 0x2029 || n == 0x202F || n == 0x205F || n == 0x3000

def isLineBreak (c : Char) : Bool :=
  let n := c.toNat
  (0x0A ≤ n && n ≤ 0x0D) || (0x1C ≤ n && n ≤ 0x1E) || n == 0x85 ||
    n == 0x2028 || n == 0x2029

theorem isSpace_of_isLineBreak {c : Char} (h : isLineBreak c = true) :
    isSpace c = true := by
  simp only [isLineBreak, isSpace, Bool.or_eq_true, Bool.and_eq_true,
    decide_eq_true_eq, beq_iff_eq] at h ⊢
  omega

/-! ## Lines -/

/-- A text's lines without their ends; a carriage return and a line feed end
one line together. -/
def splitlines : Text → List Text
  | [] => []
  | '\r' :: '\n' :: rest => [] :: splitlines rest
  | c :: rest =>
      if isLineBreak c then [] :: splitlines rest
      else
        match splitlines rest with
        | [] => [[c]]
        | line :: lines => (c :: line) :: lines

def unlines (lines : List Text) : Text := lines.flatMap (· ++ ['\n'])

def OneLine (line : Text) : Prop := ∀ c ∈ line, isLineBreak c = false

instance (line : Text) : Decidable (OneLine line) :=
  List.decidableBAll (fun c => isLineBreak c = false) line

def IsWord (text : Text) : Prop :=
  text ≠ [] ∧ ∀ c ∈ text, isSpace c = false

instance (text : Text) : Decidable (IsWord text) :=
  @instDecidableAnd _ _ _
    (List.decidableBAll (fun c => isSpace c = false) text)

@[simp] theorem oneLine_append {line rest : Text} :
    OneLine (line ++ rest) ↔ OneLine line ∧ OneLine rest :=
  List.forall_mem_append

theorem oneLine_of_isSpace {line : Text}
    (h : ∀ c ∈ line, isSpace c = false) : OneLine line := by
  intro c hc
  by_contra hbreak
  rw [Bool.not_eq_false] at hbreak
  have hspace := h c hc
  rw [isSpace_of_isLineBreak hbreak] at hspace
  contradiction

theorem IsWord.oneLine {text : Text} (h : IsWord text) : OneLine text :=
  oneLine_of_isSpace h.2

/-- What starts with a word starts with no space. -/
theorem IsWord.head {word tail : Text} (h : IsWord word) :
    ∀ c ∈ (word ++ tail).head?, isSpace c = false := by
  obtain ⟨first, rest, rfl⟩ := List.exists_cons_of_ne_nil h.1
  intro c hc
  obtain rfl := Option.mem_some_iff.mp hc
  exact h.2 first List.mem_cons_self

theorem splitlines_cons {c : Char} (h : isLineBreak c = false) (rest : Text) :
    splitlines (c :: rest) =
      match splitlines rest with
      | [] => [[c]]
      | line :: lines => (c :: line) :: lines := by
  rw [splitlines, if_neg (by simp [h])]
  rintro tail rfl
  contradiction

theorem splitlines_line {line : Text} (h : OneLine line) (rest : Text) :
    splitlines (line ++ '\n' :: rest) = line :: splitlines rest := by
  induction line with
  | nil => simp [splitlines, isLineBreak]
  | cons c line ih =>
      have hrest := ih fun d hd => h d (List.mem_cons_of_mem c hd)
      rw [List.cons_append, splitlines_cons (h c List.mem_cons_self), hrest]

theorem splitlines_unlines {lines : List Text}
    (h : ∀ line ∈ lines, OneLine line) : splitlines (unlines lines) = lines := by
  induction lines with
  | nil => rfl
  | cons line lines ih =>
      have hcons : unlines (line :: lines) = line ++ '\n' :: unlines lines := by
        simp [unlines]
      rw [hcons, splitlines_line (h line List.mem_cons_self),
        ih fun other hother => h other (List.mem_cons_of_mem line hother)]

/-! ## Decimal numbers -/

/-- The zeros of the runs of ten decimal digits (general category Nd). -/
def decimalZeros : List Nat :=
  [0x30, 0x660, 0x6F0, 0x7C0, 0x966, 0x9E6, 0xA66, 0xAE6, 0xB66, 0xBE6, 0xC66,
    0xCE6, 0xD66, 0xDE6, 0xE50, 0xED0, 0xF20, 0x1040, 0x1090, 0x17E0, 0x1810,
    0x1946, 0x19D0, 0x1A80, 0x1A90, 0x1B50, 0x1BB0, 0x1C40, 0x1C50, 0xA620,
    0xA8D0, 0xA900, 0xA9D0, 0xA9F0, 0xAA50, 0xABF0, 0xFF10, 0x104A0, 0x10D30,
    0x11066, 0x110F0, 0x11136, 0x111D0, 0x112F0, 0x11450, 0x114D0, 0x11650,
    0x116C0, 0x11730, 0x118E0, 0x11950, 0x11C50, 0x11D50, 0x11DA0, 0x16A60,
    0x16AC0, 0x16B50, 0x1D7CE, 0x1D7D8, 0x1D7E2, 0x1D7EC, 0x1D7F6, 0x1E140,
    0x1E2F0, 0x1E950, 0x1FBF0]

def decimal? (c : Char) : Option Nat :=
  (decimalZeros.find? fun low => low ≤ c.toNat && c.toNat < low + 10).map
    (c.toNat - ·)

def isDecimal (c : Char) : Bool := (decimal? c).isSome

def intOfDecimal (text : Text) : Nat :=
  text.foldl (fun n c => 10 * n + (decimal? c).getD 0) 0

def decimalText (n : Nat) : Text := Nat.toDigits 10 n

theorem decimal?_of_isDigit {c : Char} (h : c.isDigit = true) :
    decimal? c = some (c.toNat - 48) := by
  have hrange : 48 ≤ c.toNat ∧ c.toNat ≤ 57 := Char.isDigit_iff_toNat.mp h
  have hc : 48 ≤ c.toNat ∧ c.toNat < 48 + 10 := by omega
  rw [decimal?, decimalZeros, List.find?_cons_of_pos (by simpa using hc)]
  rfl

theorem isDigit_decimalText {n : Nat} {c : Char} (h : c ∈ decimalText n) :
    c.isDigit = true :=
  Nat.isDigit_of_mem_toDigits (by decide) (by decide) h

theorem isDecimal_decimalText {n : Nat} {c : Char} (h : c ∈ decimalText n) :
    isDecimal c = true := by
  simp [isDecimal, decimal?_of_isDigit (isDigit_decimalText h)]

theorem decimalText_ne_nil (n : Nat) : decimalText n ≠ [] := Nat.toDigits_ne_nil

theorem intOfDecimal_decimalText (n : Nat) :
    intOfDecimal (decimalText n) = n := by
  have hfold : ∀ (digits : Text) (init : Nat),
      (∀ c ∈ digits, c.isDigit = true) →
      digits.foldl (fun n c => 10 * n + (decimal? c).getD 0) init =
        Nat.ofDigitChars 10 digits init := by
    intro digits init hdigits
    rw [Nat.ofDigitChars_eq_foldl]
    induction digits generalizing init with
    | nil => rfl
    | cons c digits ih =>
        rw [List.foldl_cons, List.foldl_cons,
          decimal?_of_isDigit (hdigits c List.mem_cons_self)]
        exact ih _ fun d hd => hdigits d (List.mem_cons_of_mem c hd)
  rw [intOfDecimal, hfold _ 0 fun c hc => isDigit_decimalText hc]
  exact Nat.ofDigitChars_ten_toDigits

/-! ## Hexadecimal numbers -/

def hex? (c : Char) : Option Nat :=
  let n := c.toNat
  if 48 ≤ n ∧ n ≤ 57 then some (n - 48)
  else if 65 ≤ n ∧ n ≤ 70 then some (n - 55)
  else if 97 ≤ n ∧ n ≤ 102 then some (n - 87)
  else none

def isHex (c : Char) : Bool := (hex? c).isSome

def intOfHex (text : Text) : Nat :=
  text.foldl (fun n c => 16 * n + (hex? c).getD 0) 0

def hexDigit (upper : Bool) (n : Nat) : Char :=
  if n < 10 then Char.ofNat (48 + n)
  else if upper then Char.ofNat (55 + n) else Char.ofNat (87 + n)

/-- The last `width` hexadecimal digits of a number; `upper` says of each
place, counted from the last, whether its digit is in upper case. -/
def hexText (upper : Nat → Bool) : Nat → Nat → Text
  | 0, _ => []
  | width + 1, n =>
      hexText (fun place => upper (place + 1)) width (n / 16) ++
        [hexDigit (upper 0) (n % 16)]

theorem hex?_hexDigit (upper : Bool) {n : Nat} (h : n < 16) :
    hex? (hexDigit upper n) = some n := by
  have hall : ∀ upper : Bool, ∀ n < 16, hex? (hexDigit upper n) = some n := by
    decide
  exact hall upper n h

@[simp] theorem length_hexText (upper : Nat → Bool) (width n : Nat) :
    (hexText upper width n).length = width := by
  induction width generalizing upper n with
  | zero => rfl
  | succ width ih => simp [hexText, ih]

theorem isHex_hexText {upper : Nat → Bool} {width n : Nat} {c : Char}
    (h : c ∈ hexText upper width n) : isHex c = true := by
  induction width generalizing upper n with
  | zero => contradiction
  | succ width ih =>
      rcases List.mem_append.mp h with hmem | hlast
      · exact ih hmem
      · rw [List.mem_singleton] at hlast
        rw [hlast, isHex, hex?_hexDigit _ (Nat.mod_lt n (by decide))]
        rfl

theorem isSpace_of_isHex {c : Char} (h : isHex c = true) :
    isSpace c = false := by
  by_contra hspace
  simp only [isSpace, Bool.not_eq_false, Bool.or_eq_true, Bool.and_eq_true,
    decide_eq_true_eq, beq_iff_eq] at hspace
  have hnone : hex? c = none := by
    rw [hex?, if_neg (by omega), if_neg (by omega), if_neg (by omega)]
  simp [isHex, hnone] at h

theorem isHex_decimalText {n : Nat} {c : Char} (h : c ∈ decimalText n) :
    isHex c = true := by
  have hrange : 48 ≤ c.toNat ∧ c.toNat ≤ 57 :=
    Char.isDigit_iff_toNat.mp (isDigit_decimalText h)
  rw [isHex, hex?, if_pos hrange]
  rfl

theorem isWord_decimalText (n : Nat) : IsWord (decimalText n) :=
  ⟨decimalText_ne_nil n,
    fun _ hc => isSpace_of_isHex (isHex_decimalText hc)⟩

theorem isWord_hexText (upper : Nat → Bool) (width n : Nat) :
    IsWord (hexText upper (width + 1) n) :=
  ⟨List.length_pos_iff.mp (by simp),
    fun _ hc => isSpace_of_isHex (isHex_hexText hc)⟩

theorem oneLine_decimalText (n : Nat) : OneLine (decimalText n) :=
  (isWord_decimalText n).oneLine

theorem oneLine_hexText (upper : Nat → Bool) (width n : Nat) :
    OneLine (hexText upper width n) :=
  oneLine_of_isSpace fun _ hc => isSpace_of_isHex (isHex_hexText hc)

theorem intOfHex_hexText (upper : Nat → Bool) (width n : Nat) :
    intOfHex (hexText upper width n) = n % 16 ^ width := by
  induction width generalizing upper n with
  | zero => simp [hexText, intOfHex, Nat.mod_one]
  | succ width ih =>
      have hlast := hex?_hexDigit (upper 0) (Nat.mod_lt n (by decide : 16 > 0))
      rw [intOfHex, hexText, List.foldl_append, List.foldl_cons, List.foldl_nil,
        hlast, Option.getD_some, ← intOfHex, ih, Nat.pow_succ', Nat.mod_mul]
      omega

end L2tvpp.Lib
