import L2tvpp.Lib.Bytes
import L2tvpp.Lib.Text

/-!
# Scanning text in C

`strtok`, and the unsigned conversion of `scanf`, over text in the C locale on
a machine with a 64-bit `unsigned long`.
-/

namespace L2tvpp.Lib

/-- `isspace` of the C locale. -/
def isSpaceC (c : Char) : Bool :=
  c == ' ' || (0x09 ≤ c.toNat && c.toNat ≤ 0x0D)

/-- The tokens that `strtok` finds: a run of delimiters counts as one, and
those at the ends are skipped. -/
def strtok (delimiter : Char) (text : Text) : List Text :=
  (text.splitOn delimiter).filter fun token => !token.isEmpty

theorem strtok_intercalate {delimiter : Char} {tokens : List Text}
    (h : ∀ token ∈ tokens, delimiter ∉ token ∧ token ≠ []) :
    strtok delimiter ([delimiter].intercalate tokens) = tokens := by
  by_cases hnil : tokens = []
  · subst hnil
    rfl
  · rw [strtok, List.splitOn_intercalate delimiter
      (fun token htoken => (h token htoken).1) hnil]
    refine List.filter_eq_self.mpr fun token htoken => ?_
    simpa using (h token htoken).2

/-- The value of a run of digits behind an optional sign.  A number that does
not fit is the largest one, whatever its sign; a minus sign negates modulo the
word size. -/
def strtoul (negative : Bool) (digits : Text) : U64 :=
  if 2 ^ 64 ≤ Nat.ofDigitChars 10 digits 0 then BitVec.allOnes 64
  else if negative then -BitVec.ofNat 64 (Nat.ofDigitChars 10 digits 0)
  else BitVec.ofNat 64 (Nat.ofDigitChars 10 digits 0)

/-- A minus sign, a plus sign or none, and the text behind it. -/
def scanSign : Text → Bool × Text
  | '-' :: rest => (true, rest)
  | '+' :: rest => (false, rest)
  | text => (false, text)

/-- The conversion `%u`: the number, cut to an `unsigned int`, and the rest. -/
def scanUnsigned (text : Text) : Option (U32 × Text) :=
  let (negative, text) := scanSign (text.dropWhile isSpaceC)
  let digits := text.takeWhile Char.isDigit
  if digits.isEmpty then none
  else some ((strtoul negative digits).setWidth 32, text.drop digits.length)

theorem not_isSpaceC_of_isDigit {c : Char} (h : c.isDigit = true) :
    isSpaceC c = false := by
  have hrange : 48 ≤ c.toNat ∧ c.toNat ≤ 57 := Char.isDigit_iff_toNat.mp h
  have hspace : c ≠ ' ' := by
    rintro rfl
    exact absurd hrange.1 (by decide)
  simp only [isSpaceC, beq_eq_false_iff_ne.mpr hspace, Bool.false_or,
    Bool.and_eq_false_iff, decide_eq_false_iff_not]
  omega

theorem scanSign_of_isDigit {c : Char} {text : Text} (h : c.isDigit = true) :
    scanSign (c :: text) = (false, c :: text) := by
  have hrange : 48 ≤ c.toNat ∧ c.toNat ≤ 57 := Char.isDigit_iff_toNat.mp h
  unfold scanSign
  split
  · rename_i rest heq
    cases heq
    exact absurd hrange.1 (by decide)
  · rename_i rest heq
    cases heq
    exact absurd hrange.1 (by decide)
  · rfl

/-- A printed number is read back, up to the first character that is not a
digit. -/
theorem scanUnsigned_decimalText (n : U32) {rest : Text}
    (hrest : ∀ c ∈ rest.head?, c.isDigit = false) :
    scanUnsigned (decimalText n.toNat ++ rest) = some (n, rest) := by
  have hlt : n.toNat < 2 ^ 32 := n.isLt
  have hdigits : (decimalText n.toNat ++ rest).takeWhile Char.isDigit =
      decimalText n.toNat := by
    have hend : rest.takeWhile Char.isDigit = [] := by
      cases rest with
      | nil => rfl
      | cons c rest => simp [hrest c rfl]
    rw [List.takeWhile_append_of_pos fun c hc => isDigit_decimalText hc, hend,
      List.append_nil]
  obtain ⟨c, digits, hcons⟩ :=
    List.exists_cons_of_ne_nil (decimalText_ne_nil n.toNat)
  have hc : c.isDigit = true := by
    refine isDigit_decimalText (n := n.toNat) ?_
    rw [hcons]
    exact List.mem_cons_self
  have hspace : (decimalText n.toNat ++ rest).dropWhile isSpaceC =
      decimalText n.toNat ++ rest := by
    rw [hcons, List.cons_append,
      List.dropWhile_cons_of_neg (by simp [not_isSpaceC_of_isDigit hc])]
  have hsign : scanSign (decimalText n.toNat ++ rest) =
      (false, decimalText n.toNat ++ rest) := by
    rw [hcons, List.cons_append]
    exact scanSign_of_isDigit hc
  have hvalue : Nat.ofDigitChars 10 (decimalText n.toNat) 0 = n.toNat :=
    Nat.ofDigitChars_ten_toDigits
  have hnumber : (strtoul false (decimalText n.toNat)).setWidth 32 = n := by
    rw [strtoul, hvalue, if_neg (by omega), if_neg (by simp)]
    apply BitVec.eq_of_toNat_eq
    rw [BitVec.toNat_setWidth, BitVec.toNat_ofNat]
    omega
  have hempty : (decimalText n.toNat).isEmpty = false := by
    rw [hcons]
    rfl
  simp only [scanUnsigned, hspace, hsign, hdigits, hempty, hnumber,
    Bool.false_eq_true, if_false, List.drop_left]

end L2tvpp.Lib
