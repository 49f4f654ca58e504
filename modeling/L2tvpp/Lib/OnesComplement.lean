import Mathlib.Algebra.BigOperators.Group.List.Basic
import L2tvpp.Lib.Bytes

/-!
# One's complement sums

The 16-bit words of an internet checksum are added with the carry taken back in
at the low end.  Such a sum is known from the plain sum: it is congruent to it
modulo `2 ^ 16 - 1`, and zero only when all words are.
-/

namespace L2tvpp.Lib

/-! ## Folding -/

/-- The 16-bit value that is left of a sum when no carry is. -/
def foldOnes (sum : Nat) : Nat := if sum = 0 then 0 else (sum - 1) % 65535 + 1

theorem foldOnes_le (sum : Nat) : foldOnes sum ≤ 65535 := by
  unfold foldOnes
  split <;> omega

theorem foldOnes_mod (sum : Nat) : foldOnes sum % 65535 = sum % 65535 := by
  unfold foldOnes
  split <;> omega

theorem foldOnes_eq_zero {sum : Nat} : foldOnes sum = 0 ↔ sum = 0 := by
  unfold foldOnes
  split <;> omega

theorem foldOnes_congr {sum sum' : Nat} (hmod : sum % 65535 = sum' % 65535)
    (hzero : sum = 0 ↔ sum' = 0) : foldOnes sum = foldOnes sum' := by
  unfold foldOnes
  split <;> split <;> omega

theorem foldOnes_of_le {sum : Nat} (h : sum ≤ 65535) : foldOnes sum = sum := by
  unfold foldOnes
  split <;> omega

theorem foldOnes_eq_max {sum : Nat} :
    foldOnes sum = 65535 ↔ sum % 65535 = 0 ∧ sum ≠ 0 := by
  unfold foldOnes
  split <;> omega

/-- One step of folding, for 16 bits and for 32. -/
theorem foldOnes_carry (sum : Nat) :
    foldOnes (sum % 65536 + sum / 65536) = foldOnes sum ∧
      foldOnes (sum % 4294967296 + sum / 4294967296) = foldOnes sum := by
  constructor <;> exact foldOnes_congr (by omega) (by omega)

/-- Take `word` out of the complement of a sum that does not count it: `update` is
what is left.  Only the two zeros can tell the result from the complement of the
whole sum. -/
theorem foldOnes_update {sum word update : Nat} (hsum : 0 < sum)
    (hmod : (update + word) % 65535 = (65535 - foldOnes sum) % 65535)
    (hzero : update = 0 ↔ 65535 - foldOnes sum = word) (hword : word ≤ 65535) :
    (sum + word + foldOnes update) % 65535 = 0 ∧
      (word ≠ 65535 → foldOnes update = 65535 - foldOnes (sum + word)) := by
  have hle := foldOnes_le sum
  have hle' := foldOnes_le update
  have hle'' := foldOnes_le (sum + word)
  have hsumMod := foldOnes_mod sum
  have hupdateMod := foldOnes_mod update
  have hwholeMod := foldOnes_mod (sum + word)
  have hupdateZero : foldOnes update = 0 ↔ update = 0 := foldOnes_eq_zero
  have hsumZero : foldOnes sum = 0 ↔ sum = 0 := foldOnes_eq_zero
  have hwholeZero : foldOnes (sum + word) = 0 ↔ sum + word = 0 :=
    foldOnes_eq_zero
  constructor <;> omega

/-! ## Sums of words -/

def onesAdd (sum word : U16) : U16 :=
  if sum.toNat + word.toNat < 65536 then sum + word else sum + word + 1

def onesSum (words : List U16) : U16 := words.foldl onesAdd 0

def wordSum (words : List U16) : Nat := (words.map BitVec.toNat).sum

@[simp] theorem wordSum_nil : wordSum [] = 0 := rfl

@[simp] theorem wordSum_cons (word : U16) (words : List U16) :
    wordSum (word :: words) = word.toNat + wordSum words := by
  simp [wordSum]

theorem wordSum_le (words : List U16) :
    wordSum words ≤ 65535 * words.length := by
  induction words with
  | nil => exact Nat.le_refl 0
  | cons word words ih =>
      have hword := word.isLt
      rw [wordSum_cons, List.length_cons]
      omega

theorem toNat_onesAdd (sum word : U16) :
    (onesAdd sum word).toNat = foldOnes (sum.toNat + word.toNat) := by
  have hsum := sum.isLt
  have hword := word.isLt
  unfold onesAdd
  split
  · rw [foldOnes_of_le (by omega)]
    bv_omega
  · rw [foldOnes, if_neg (by omega)]
    bv_omega

theorem toNat_foldl_onesAdd (words : List U16) (sum : U16) :
    (words.foldl onesAdd sum).toNat =
      foldOnes (sum.toNat + wordSum words) := by
  induction words generalizing sum with
  | nil =>
      have hsum := sum.isLt
      rw [wordSum_nil, foldOnes_of_le (by omega)]
      rfl
  | cons word words ih =>
      have hmod := foldOnes_mod (sum.toNat + word.toNat)
      have hzero : foldOnes (sum.toNat + word.toNat) = 0 ↔ _ :=
        foldOnes_eq_zero
      rw [List.foldl_cons, ih, toNat_onesAdd, wordSum_cons]
      exact foldOnes_congr (by omega) (by omega)

theorem onesSum_eq_max {words : List U16} :
    onesSum words = 0xffff ↔ wordSum words % 65535 = 0 ∧ wordSum words ≠ 0 := by
  have hsum : (onesSum words).toNat = foldOnes (wordSum words) := by
    rw [onesSum, toNat_foldl_onesAdd]
    exact congrArg foldOnes (Nat.zero_add _)
  rw [← foldOnes_eq_max, ← hsum]
  exact BitVec.toNat_inj.symm

/-! ## Byte order -/

def swap16 (word : U16) : U16 := word.extractLsb' 0 8 ++ word.extractLsb' 8 8

theorem toNat_swap16 (word : U16) :
    (swap16 word).toNat = word.toNat % 256 * 256 + word.toNat / 256 := by
  have hword := word.isLt
  rw [swap16, toNat_append_bytes]
  simp only [BitVec.extractLsb'_toNat, Nat.shiftRight_eq_div_pow]
  omega

theorem swap16_swap16 (word : U16) : swap16 (swap16 word) = word := by
  have hword := word.isLt
  rw [← BitVec.toNat_inj, toNat_swap16, toNat_swap16]
  omega

/-- Swapping the bytes of a word is a multiplication. -/
theorem swap16_mod (word : U16) :
    (swap16 word).toNat % 65535 = 256 * word.toNat % 65535 := by
  have hword := word.isLt
  rw [toNat_swap16]
  omega

theorem wordSum_map_swap16 (words : List U16) :
    wordSum (words.map swap16) % 65535 = 256 * wordSum words % 65535 ∧
      (wordSum (words.map swap16) = 0 ↔ wordSum words = 0) := by
  induction words with
  | nil => simp
  | cons word words ih =>
      obtain ⟨hmod, hzero⟩ := ih
      have hswap := toNat_swap16 word
      have hswapMod := swap16_mod word
      have hword := word.isLt
      rw [List.map_cons, wordSum_cons, wordSum_cons]
      constructor <;> omega

/-- The check of a sum does not depend on the byte order. -/
theorem onesSum_map_swap16 (words : List U16) :
    onesSum (words.map swap16) = 0xffff ↔ onesSum words = 0xffff := by
  obtain ⟨hmod, hzero⟩ := wordSum_map_swap16 words
  rw [onesSum_eq_max, onesSum_eq_max]
  omega

end L2tvpp.Lib
