import Mathlib.Data.Int.CardIntervalMod

/-!
# Turns

A cursor that counts up and is reduced modulo the number of places gives each
place its turn equally often, up to one.
-/

namespace L2tvpp.Lib

/-- The places of `rounds` rounds, from a cursor on. -/
def turns (places cursor rounds : Nat) : List Nat :=
  (List.range rounds).map fun round => (cursor + round) % places

theorem countP_range (p : Nat → Prop) [DecidablePred p] (n : Nat) :
    (List.range n).countP (fun i => decide (p i)) = Nat.count p n := by
  induction n with
  | zero => rfl
  | succ n ih =>
      rw [List.range_succ, List.countP_append, Nat.count_succ, ih]
      simp [List.countP_singleton]

theorem turn_eq_iff {places cursor place round : Nat} (hplace : place < places) :
    (cursor + round) % places = place ↔
      round ≡ place + (places - cursor % places) [MOD places] := by
  have hlt := Nat.mod_lt cursor (Nat.zero_lt_of_lt hplace)
  -- the cursor and what it lacks make up a whole number of rounds
  have hwhole : cursor + (places - cursor % places) ≡ 0 [MOD places] := by
    have hdiv := Nat.div_add_mod cursor places
    refine (Nat.modEq_zero_iff_dvd).mpr ⟨cursor / places + 1, ?_⟩
    rw [Nat.mul_add, Nat.mul_one]
    omega
  have hsum : cursor + (place + (places - cursor % places)) ≡ place
      [MOD places] := by
    have hplus := hwhole.add_right place
    rw [Nat.zero_add] at hplus
    rwa [← Nat.add_assoc, Nat.add_right_comm]
  constructor
  · intro h
    have hround : cursor + round ≡ place [MOD places] := by
      rw [Nat.ModEq, h, Nat.mod_eq_of_lt hplace]
    exact Nat.ModEq.add_left_cancel' cursor (hround.trans hsum.symm)
  · intro h
    have hround := (h.add_left cursor).trans hsum
    rwa [Nat.ModEq, Nat.mod_eq_of_lt hplace] at hround

/-- Every place has as many turns as every other one, or one more. -/
theorem turns_fair {places place : Nat} (hplace : place < places)
    (cursor rounds : Nat) :
    rounds / places ≤ (turns places cursor rounds).count place ∧
      (turns places cursor rounds).count place ≤ rounds / places + 1 := by
  have hcount : (turns places cursor rounds).count place =
      Nat.count (fun round =>
        round ≡ place + (places - cursor % places) [MOD places]) rounds := by
    rw [← countP_range, turns, List.count, List.countP_map]
    refine List.countP_congr fun round _ => ?_
    simp only [Function.comp, beq_iff_eq, decide_eq_true_eq]
    exact turn_eq_iff hplace
  rw [hcount, Nat.count_modEq_card _ (Nat.zero_lt_of_lt hplace)]
  split <;> omega

end L2tvpp.Lib
