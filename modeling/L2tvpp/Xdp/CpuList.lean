import L2tvpp.Lib.Scan

/-!
# The loader's cpu list

`parse_cpulist` writes the numbers of a list such as `1-3,5` into an array.  Its
inner loop counts with a 32-bit variable, and `c <= b` stays true for the
largest `b`: what ends every loop is the room left in the array.
-/

namespace L2tvpp.Xdp

open L2tvpp.Lib

/-! ## The program -/

inductive CpulistError where
  | badItem (tok : Text)
  | tooManyCpus
  deriving DecidableEq, Repr

/-- The array's entries written when the function returns, or when the process
exits in it. -/
structure Cpulist where
  exit : Option CpulistError
  cpus : List U32
  deriving DecidableEq, Repr

/-- `sscanf (tok, "%u-%u", &a, &b) == 2`. -/
def scanRange (tok : Text) : Option (U32 × U32) :=
  match scanUnsigned tok with
  | some (a, '-' :: rest) => (scanUnsigned rest).map fun b => (a, b.1)
  | _ => none

/-- The bounds of an item: a range, or one number for both. -/
def readItem (tok : Text) : Option (U32 × U32) :=
  match scanRange tok with
  | some range => some range
  | none => (scanUnsigned tok).map fun a => (a.1, a.1)

/-- `for (c = a; c <= b; c++)`; nothing without fuel. -/
def rangeLoop (max : Nat) (b : U32) : Nat → U32 → List U32 → Option Cpulist
  | 0, _, _ => none
  | fuel + 1, c, cpus =>
      if c ≤ b then
        if cpus.length ≥ max then some ⟨some .tooManyCpus, cpus⟩
        else rangeLoop max b fuel (c + 1) (cpus ++ [c])
      else some ⟨none, cpus⟩

/-- The loop over the tokens; each inner loop has the same fuel. -/
def itemsLoop (max fuel : Nat) : List Text → List U32 → Option Cpulist
  | [], cpus => some ⟨none, cpus⟩
  | tok :: toks, cpus =>
      match readItem tok with
      | none => some ⟨some (.badItem tok), cpus⟩
      | some (a, b) =>
          match rangeLoop max b fuel a cpus with
          | some ⟨none, cpus⟩ => itemsLoop max fuel toks cpus
          | stopped => stopped

def parseCpulist (fuel : Nat) (s : Text) (max : Nat) : Option Cpulist :=
  itemsLoop max fuel (strtok ',' s) []

/-! ## What a list says -/

/-- The numbers from `a` to `b`, in order. -/
def cpuRange (a b : U32) : List U32 :=
  (List.range' a.toNat (b.toNat + 1 - a.toNat)).map (BitVec.ofNat 32)

/-- The bounds of all items, if each of them can be read. -/
def cpuRanges (s : Text) : Option (List (U32 × U32)) :=
  (strtok ',' s).mapM readItem

def listedCpus (ranges : List (U32 × U32)) : List U32 :=
  ranges.flatMap fun range => cpuRange range.1 range.2

/-- A list of ranges, as a user writes it. -/
def printCpulist (ranges : List (U32 × U32)) : Text :=
  [','].intercalate (ranges.map fun range =>
    decimalText range.1.toNat ++ '-' :: decimalText range.2.toNat)

theorem readItem_printed (a b : U32) :
    readItem (decimalText a.toNat ++ '-' :: decimalText b.toNat) =
      some (a, b) := by
  have ha : scanUnsigned (decimalText a.toNat ++ '-' :: decimalText b.toNat) =
      some (a, '-' :: decimalText b.toNat) :=
    scanUnsigned_decimalText a (by simp)
  have hb : scanUnsigned (decimalText b.toNat ++ []) = some (b, []) :=
    scanUnsigned_decimalText b (by simp)
  rw [List.append_nil] at hb
  simp only [readItem, scanRange, ha, hb, Option.map_some]

/-- The items of a printed list are its ranges. -/
theorem cpuRanges_printed (ranges : List (U32 × U32)) :
    cpuRanges (printCpulist ranges) = some ranges := by
  have hdigits : ∀ n : Nat, ',' ∉ decimalText n := by
    intro n hcomma
    exact absurd (isDigit_decimalText hcomma) (by decide)
  rw [cpuRanges, printCpulist, strtok_intercalate, List.mapM_map]
  · simp only [Function.comp_def, readItem_printed]
    exact (List.mapM_pure (m := Option)).trans (by simp)
  · intro tok htok
    obtain ⟨range, -, rfl⟩ := List.mem_map.mp htok
    simp [hdigits]

theorem cpuRange_of_lt {a b : U32} (h : ¬ a ≤ b) : cpuRange a b = [] := by
  have hlt : b.toNat < a.toNat := Nat.lt_of_not_le h
  rw [cpuRange, Nat.sub_eq_zero_of_le hlt]
  rfl

theorem mem_cpuRange {a b cpu : U32} :
    cpu ∈ cpuRange a b ↔ a ≤ cpu ∧ cpu ≤ b := by
  have hcpu := cpu.isLt
  have hb := b.isLt
  rw [BitVec.le_def, BitVec.le_def, cpuRange, List.mem_map]
  constructor
  · rintro ⟨n, hn, rfl⟩
    rw [List.mem_range'_1] at hn
    rw [BitVec.toNat_ofNat, Nat.mod_eq_of_lt (by omega)]
    omega
  · intro h
    refine ⟨cpu.toNat, List.mem_range'_1.mpr (by omega), ?_⟩
    exact BitVec.eq_of_toNat_eq (by rw [BitVec.toNat_ofNat]; omega)

/-- Below the largest number the loop variable does not wrap. -/
theorem toNat_succ {c b : U32} (hle : c ≤ b) (hb : b ≠ BitVec.allOnes 32) :
    (c + 1).toNat = c.toNat + 1 := by
  have hlt := b.isLt
  have hle : c.toNat ≤ b.toNat := hle
  have hne : b.toNat ≠ 2 ^ 32 - 1 := by
    intro h
    exact hb (BitVec.eq_of_toNat_eq (h.trans BitVec.toNat_allOnes.symm))
  have hone : (1 : U32).toNat = 1 := rfl
  rw [BitVec.toNat_add, hone]
  omega

theorem cpuRange_cons {c b : U32} (hle : c ≤ b)
    (hb : b ≠ BitVec.allOnes 32) :
    cpuRange c b = c :: cpuRange (c + 1) b := by
  have hsucc := toNat_succ hle hb
  have hle : c.toNat ≤ b.toNat := hle
  have hcount : b.toNat + 1 - c.toNat = (b.toNat + 1 - (c.toNat + 1)) + 1 := by
    omega
  rw [cpuRange, cpuRange, hsucc, hcount, List.range'_succ, List.map_cons]
  simp

/-! ## The inner loop -/

section RangeLoop

variable {max fuel : Nat} {b c : U32} {cpus : List U32}

/-- Every round that does not leave the loop takes one of the places left. -/
theorem rangeLoop_stops (hlen : cpus.length ≤ max)
    (hfuel : max - cpus.length < fuel) :
    ∃ out, rangeLoop max b fuel c cpus = some out := by
  induction fuel generalizing c cpus with
  | zero => omega
  | succ fuel ih =>
      unfold rangeLoop
      split
      · split
        · exact ⟨_, rfl⟩
        · apply ih
          · rw [List.length_append, List.length_singleton]
            omega
          · rw [List.length_append, List.length_singleton]
            omega
      · exact ⟨_, rfl⟩

theorem rangeLoop_length {out : Cpulist} (hlen : cpus.length ≤ max)
    (h : rangeLoop max b fuel c cpus = some out) : out.cpus.length ≤ max := by
  induction fuel generalizing c cpus with
  | zero => cases h
  | succ fuel ih =>
      unfold rangeLoop at h
      split at h
      · split at h
        · cases h
          exact hlen
        · refine ih ?_ h
          rw [List.length_append, List.length_singleton]
          omega
      · cases h
        exact hlen

/-- A range to the largest number is never left by its own condition. -/
theorem rangeLoop_allOnes {out : Cpulist}
    (h : rangeLoop max (BitVec.allOnes 32) fuel c cpus = some out) :
    out.exit = some .tooManyCpus := by
  induction fuel generalizing c cpus with
  | zero => cases h
  | succ fuel ih =>
      have hle : c ≤ BitVec.allOnes 32 := by
        have hlt := c.isLt
        rw [BitVec.le_def, BitVec.toNat_allOnes]
        omega
      rw [rangeLoop, if_pos hle] at h
      split at h
      · cases h
        rfl
      · exact ih h

/-- Any other range is written, if there is room for it. -/
theorem rangeLoop_spec {out : Cpulist} (hlen : cpus.length ≤ max)
    (hb : c ≤ b → b ≠ BitVec.allOnes 32)
    (h : rangeLoop max b fuel c cpus = some out) :
    if cpus.length + (cpuRange c b).length ≤ max then
      out = ⟨none, cpus ++ cpuRange c b⟩
    else out.exit = some .tooManyCpus := by
  induction fuel generalizing c cpus with
  | zero => cases h
  | succ fuel ih =>
      unfold rangeLoop at h
      by_cases hle : c ≤ b
      · have hcons := cpuRange_cons hle (hb hle)
        rw [if_pos hle] at h
        split at h
        · rename_i hfull
          cases h
          rw [if_neg]
          rw [hcons, List.length_cons]
          omega
        · rename_i hroom
          have hsnoc : (cpus ++ [c]).length = cpus.length + 1 :=
            List.length_append
          have hnext := ih (by omega) (fun _ => hb hle) h
          rw [hsnoc, List.append_assoc, List.singleton_append, ← hcons]
            at hnext
          have hcount : (cpuRange c b).length =
              (cpuRange (c + 1) b).length + 1 := by
            rw [hcons, List.length_cons]
          rw [hcount, Nat.add_comm _ 1, ← Nat.add_assoc]
          exact hnext
      · rw [if_neg hle] at h
        cases h
        rw [cpuRange_of_lt hle, List.append_nil, List.length_nil,
          if_pos (by omega)]

end RangeLoop

/-! ## The whole list -/

/-- There is room for the range, and the loop variable does not wrap in it. -/
def RangeFits (room : Nat) (a b : U32) : Prop :=
  (a ≤ b → b ≠ BitVec.allOnes 32) ∧ (cpuRange a b).length ≤ room

def Fits (room : Nat) (ranges : List (U32 × U32)) : Prop :=
  (∀ range ∈ ranges, range.1 ≤ range.2 → range.2 ≠ BitVec.allOnes 32) ∧
    (listedCpus ranges).length ≤ room

theorem listedCpus_cons (a b : U32) (ranges : List (U32 × U32)) :
    listedCpus ((a, b) :: ranges) = cpuRange a b ++ listedCpus ranges := by
  rw [listedCpus, List.flatMap_cons]
  rfl

theorem fits_cons {room : Nat} {a b : U32} {ranges : List (U32 × U32)} :
    Fits room ((a, b) :: ranges) ↔
      RangeFits room a b ∧ Fits (room - (cpuRange a b).length) ranges := by
  unfold Fits RangeFits
  rw [List.forall_mem_cons, listedCpus_cons, List.length_append]
  constructor
  · rintro ⟨⟨hlast, hlasts⟩, hroom⟩
    exact ⟨⟨hlast, by omega⟩, hlasts, by omega⟩
  · rintro ⟨⟨hlast, hfirst⟩, hlasts, hrest⟩
    exact ⟨⟨hlast, hlasts⟩, by omega⟩

theorem mapM_cons_some {tok : Text} {toks : List Text}
    {ranges : List (U32 × U32)} :
    (tok :: toks).mapM readItem = some ranges ↔
      ∃ range rest, readItem tok = some range ∧
        toks.mapM readItem = some rest ∧ ranges = range :: rest := by
  rw [List.mapM_cons]
  cases readItem tok with
  | none => simp
  | some range =>
      cases toks.mapM readItem with
      | none => simp
      | some rest => simp [eq_comm]

section ItemsLoop

variable {max fuel : Nat} {toks : List Text} {cpus : List U32}

theorem rangeLoop_cases {a b : U32} {out : Cpulist}
    (hlen : cpus.length ≤ max)
    (h : rangeLoop max b fuel a cpus = some out) :
    (RangeFits (max - cpus.length) a b ∧
      out = ⟨none, cpus ++ cpuRange a b⟩) ∨
    (¬ RangeFits (max - cpus.length) a b ∧
      out.exit = some .tooManyCpus) := by
  by_cases hlast : a ≤ b → b ≠ BitVec.allOnes 32
  · have hspec := rangeLoop_spec hlen hlast h
    split at hspec
    · exact .inl ⟨⟨hlast, by omega⟩, hspec⟩
    · refine .inr ⟨fun hfits => ?_, hspec⟩
      have hroom := hfits.2
      omega
  · refine .inr ⟨fun hfits => hlast hfits.1, ?_⟩
    obtain ⟨-, hb⟩ := Classical.not_imp.mp hlast
    rw [not_not.mp hb] at h
    exact rangeLoop_allOnes h

theorem itemsLoop_stops (hfuel : max < fuel) (hlen : cpus.length ≤ max) :
    ∃ out, itemsLoop max fuel toks cpus = some out ∧
      out.cpus.length ≤ max := by
  induction toks generalizing cpus with
  | nil => exact ⟨_, rfl, hlen⟩
  | cons tok toks ih =>
      unfold itemsLoop
      split
      · exact ⟨_, rfl, hlen⟩
      · rename_i a b hitem
        have hroom : max - cpus.length < fuel := by omega
        obtain ⟨out, hout⟩ : ∃ out, rangeLoop max b fuel a cpus = some out :=
          rangeLoop_stops hlen hroom
        have hout_len := rangeLoop_length hlen hout
        rw [hout]
        split
        · rename_i cpus' heq
          cases heq
          exact ih hout_len
        · exact ⟨out, rfl, hout_len⟩

/-- A round writes the range of its item and goes on, or the loop is left with
an error because the item cannot be read or its range does not fit. -/
theorem itemsLoop_round {tok : Text} {out : Cpulist}
    (hlen : cpus.length ≤ max)
    (h : itemsLoop max fuel (tok :: toks) cpus = some out) :
    (∃ a b, readItem tok = some (a, b) ∧ RangeFits (max - cpus.length) a b ∧
      itemsLoop max fuel toks (cpus ++ cpuRange a b) = some out) ∨
    (out.exit ≠ none ∧ ∀ a b, readItem tok = some (a, b) →
      ¬ RangeFits (max - cpus.length) a b) := by
  unfold itemsLoop at h
  split at h
  · rename_i hbad
    cases h
    exact .inr ⟨Option.some_ne_none _, by simp [hbad]⟩
  · rename_i a b hitem
    cases hloop : rangeLoop max b fuel a cpus with
    | none =>
        rw [hloop] at h
        cases h
    | some written =>
        rw [hloop] at h
        rcases rangeLoop_cases hlen hloop with ⟨hfits, rfl⟩ | ⟨hfull, hexit⟩
        · exact .inl ⟨a, b, hitem, hfits, h⟩
        · obtain ⟨exit, cpus'⟩ := written
          dsimp only at hexit
          subst hexit
          cases h
          refine .inr ⟨Option.some_ne_none _, fun a' b' hitem' => ?_⟩
          rw [hitem] at hitem'
          cases hitem'
          exact hfull

/-- The loop is left normally exactly when every item can be read and fits, and
has then written them one after another. -/
theorem itemsLoop_spec {out : Cpulist} (hlen : cpus.length ≤ max)
    (h : itemsLoop max fuel toks cpus = some out) :
    (out.exit = none ↔ ∃ ranges, toks.mapM readItem = some ranges ∧
      Fits (max - cpus.length) ranges) ∧
    ∀ ranges, toks.mapM readItem = some ranges → out.exit = none →
      out.cpus = cpus ++ listedCpus ranges := by
  induction toks generalizing cpus with
  | nil =>
      cases h
      constructor
      · refine ⟨fun _ => ⟨[], rfl, ?_⟩, fun _ => rfl⟩
        exact ⟨by simp, Nat.zero_le _⟩
      · intro ranges hranges hexit
        cases hranges
        exact (List.append_nil cpus).symm
  | cons tok toks ih =>
      simp only [mapM_cons_some]
      rcases itemsLoop_round hlen h with
        ⟨a, b, hitem, hfits, h⟩ | ⟨hexit, hfull⟩
      · have hroom := hfits.2
        have hlen' : (cpus ++ cpuRange a b).length =
            cpus.length + (cpuRange a b).length := List.length_append
        obtain ⟨hreturns, hcpus⟩ := ih (by omega) h
        rw [hlen', ← Nat.sub_sub] at hreturns
        simp only [hitem, Option.some.injEq]
        constructor
        · rw [hreturns]
          constructor
          · rintro ⟨rest, hrest, hrestFits⟩
            exact ⟨_, ⟨(a, b), rest, rfl, hrest, rfl⟩,
              fits_cons.mpr ⟨hfits, hrestFits⟩⟩
          · rintro ⟨ranges, ⟨range, rest, rfl, hrest, rfl⟩, hall⟩
            exact ⟨rest, hrest, (fits_cons.mp hall).2⟩
        · rintro ranges ⟨range, rest, rfl, hrest, rfl⟩ hnone
          rw [hcpus rest hrest hnone, listedCpus_cons, List.append_assoc]
      · constructor
        · refine iff_of_false hexit ?_
          rintro ⟨ranges, ⟨⟨a, b⟩, rest, hitem, -, rfl⟩, hall⟩
          exact hfull a b hitem (fits_cons.mp hall).1
        · intro ranges hranges hnone
          exact absurd hnone hexit

end ItemsLoop

theorem mem_listedCpus {ranges : List (U32 × U32)} {cpu : U32} :
    cpu ∈ listedCpus ranges ↔
      ∃ range ∈ ranges, range.1 ≤ cpu ∧ cpu ≤ range.2 := by
  simp only [listedCpus, List.mem_flatMap, mem_cpuRange]

theorem parseCpulist_ok {s : Text} {max fuel : Nat} {cpus : List U32}
    (h : parseCpulist fuel s max = some ⟨none, cpus⟩) :
    ∃ ranges, cpuRanges s = some ranges ∧ Fits max ranges ∧
      cpus = listedCpus ranges := by
  obtain ⟨hreturns, hcpus⟩ := itemsLoop_spec (Nat.zero_le max) h
  obtain ⟨ranges, hranges, hfits⟩ := hreturns.mp rfl
  exact ⟨ranges, hranges, hfits, hcpus ranges hranges rfl⟩

/-- Every inner loop ends within `max + 1` rounds, whatever its bounds, and the
array never holds more than `max` entries.  The function returns exactly when
the items can be read and fit, and then the array lists them in order. -/
theorem parseCpulist_spec (s : Text) (max extra : Nat) :
    ∃ out, parseCpulist (max + 1 + extra) s max = some out ∧
      out.cpus.length ≤ max ∧
      (out.exit = none → ∃ ranges, cpuRanges s = some ranges ∧
        out.cpus = listedCpus ranges) ∧
      (out.exit = none ↔
        ∃ ranges, cpuRanges s = some ranges ∧ Fits max ranges) := by
  obtain ⟨out, hout, hlen⟩ : ∃ out,
      parseCpulist (max + 1 + extra) s max = some out ∧ out.cpus.length ≤ max :=
    itemsLoop_stops (by omega) (Nat.zero_le max)
  obtain ⟨hreturns, -⟩ := itemsLoop_spec (Nat.zero_le max) hout
  refine ⟨out, hout, hlen, ?_, hreturns⟩
  obtain ⟨exit, cpus⟩ := out
  rintro rfl
  obtain ⟨ranges, hranges, -, hcpus⟩ := parseCpulist_ok hout
  exact ⟨ranges, hranges, hcpus⟩

example : parseCpulist 5 "1-3,,5".toList 4 = some ⟨none, [1, 2, 3, 5]⟩ := by
  decide +kernel

end L2tvpp.Xdp
