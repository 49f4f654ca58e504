import Mathlib.Logic.Function.Basic
import L2tvpp.Xdp.CpuList
import L2tvpp.Xdp.Steer

/-!
# The loader

`main` reads the cpu list, checks that its cpus exist and fills the three maps
of the steering program.
-/

namespace L2tvpp.Xdp

open L2tvpp.Lib

/-! ## The program -/

def maxCpus : Nat := 256

inductive LoaderError where
  | cpulist (error : CpulistError)
  | noSuchCpu (cpu : U32) (possible : Int)
  | cpumapAdd (cpu : U32)
  deriving DecidableEq, Repr

/-- The validation loop; both sides of its comparison are signed. -/
def checkCpus (possible : Int) : List U32 → Except LoaderError Unit
  | [] => .ok ()
  | cpu :: cpus =>
      if cpu.toInt ≥ possible then .error (.noSuchCpu cpu possible)
      else checkCpus possible cpus

/-- The maps of a program just loaded: arrays are zero, the cpumap is empty. -/
def Maps.zero : Maps where
  cpuCount := some 0
  cpusAvailable idx := if idx.toNat < maxCpus then some 0 else none
  cpuMap _ := false

def updateCpuMap (maps : Maps) (cpu : U32) : Maps :=
  { maps with cpuMap := Function.update maps.cpuMap cpu true }

/-- Outside the array an update fails, which the loader does not look at. -/
def updateAvailable (maps : Maps) (idx cpu : U32) : Maps :=
  if idx.toNat < maxCpus then
    { maps with
      cpusAvailable := Function.update maps.cpusAvailable idx (some cpu) }
  else maps

section Load

-- the keys that the kernel takes into the cpumap
variable (accepts : U32 → Bool)

def fillCpus : Nat → List U32 → Maps → Except LoaderError Maps
  | _, [], maps => .ok maps
  | i, cpu :: cpus, maps =>
      if accepts cpu then
        fillCpus (i + 1) cpus
          (updateAvailable (updateCpuMap maps cpu) (BitVec.ofNat 32 i) cpu)
      else .error (.cpumapAdd cpu)

/-- From the argument of `-c` to the cpus and the filled maps. -/
def loadMaps (fuel : Nat) (possible : Int) (cpulist : Text) :
    Option (Except LoaderError (List U32 × Maps)) :=
  match parseCpulist fuel cpulist maxCpus with
  | none => none
  | some ⟨some error, _⟩ => some (.error (.cpulist error))
  | some ⟨none, cpus⟩ => some (do
      checkCpus possible cpus
      let maps ← fillCpus accepts 0 cpus Maps.zero
      pure (cpus, { maps with cpuCount := some (BitVec.ofNat 32 cpus.length) }))

end Load

/-! ## The validation -/

theorem checkCpus_ok {possible : Int} {cpus : List U32} :
    checkCpus possible cpus = .ok () ↔ ∀ cpu ∈ cpus, cpu.toInt < possible := by
  induction cpus with
  | nil => simp [checkCpus]
  | cons cpu cpus ih =>
      rw [List.forall_mem_cons, ← ih, checkCpus]
      split
      · rename_i hge
        simp only [reduceCtorEq, false_iff, not_and]
        omega
      · rename_i hlt
        exact ⟨fun h => ⟨by omega, h⟩, fun h => h.2⟩

/-- The signed comparison lets the upper half of the numbers through. -/
theorem toInt_lt_iff {cpu : U32} {possible : Nat} (h : possible < 2 ^ 31) :
    cpu.toInt < possible ↔ cpu.toNat < possible ∨ 2 ^ 31 ≤ cpu.toNat := by
  have hlt := cpu.isLt
  rw [BitVec.toInt_eq_toNat_cond]
  split <;> omega

/-- A list gets past the validation only with cpus that exist, unless it has
numbers from `2 ^ 31` on and none between the last cpu and these. -/
theorem checkCpus_sound_iff {s : Text} {fuel : Nat} {cpus : List U32}
    {possible : Nat} (hpossible : possible < 2 ^ 31)
    (hparse : parseCpulist fuel s maxCpus = some ⟨none, cpus⟩) :
    ∃ ranges, cpuRanges s = some ranges ∧
      ((checkCpus possible cpus = .ok () →
          ∀ cpu ∈ cpus, cpu.toNat < possible) ↔
        (∀ range ∈ ranges, range.1 ≤ range.2 → range.2.toNat < 2 ^ 31) ∨
        ∃ range ∈ ranges, range.1 ≤ range.2 ∧ possible ≤ range.2.toNat ∧
          range.1.toNat < 2 ^ 31) := by
  obtain ⟨ranges, hranges, -, rfl⟩ := parseCpulist_ok hparse
  refine ⟨ranges, hranges, ?_⟩
  simp only [checkCpus_ok, toInt_lt_iff hpossible, mem_listedCpus,
    BitVec.le_def]
  constructor
  · intro hsound
    by_contra hnot
    obtain ⟨hhigh, hnone⟩ := not_or.mp hnot
    have hpass : ∀ cpu : U32, (∃ range ∈ ranges,
        range.1.toNat ≤ cpu.toNat ∧ cpu.toNat ≤ range.2.toNat) →
        cpu.toNat < possible ∨ 2 ^ 31 ≤ cpu.toNat := by
      rintro cpu ⟨range, hmem, hfirst, hlast⟩
      by_contra hbetween
      exact hnone ⟨range, hmem, by omega, by omega, by omega⟩
    apply hhigh
    intro range hmem hle
    have hlast := hsound hpass range.2 ⟨range, hmem, hle, le_rfl⟩
    omega
  · rintro (hlow | ⟨range, hmem, hle, hlast, hfirst⟩) hpass
    · rintro cpu ⟨range, hmem, hfirst, hlast⟩
      have hmax := hlow range hmem (hfirst.trans hlast)
      rcases hpass cpu ⟨range, hmem, hfirst, hlast⟩ with hlt | hge
      · exact hlt
      · omega
    · -- the first listed number that no cpu has stops the loader
      have htoNat : (BitVec.ofNat 32 (max range.1.toNat possible)).toNat =
          max range.1.toNat possible := by
        rw [BitVec.toNat_ofNat, Nat.mod_eq_of_lt (by omega)]
      have hstop := hpass (BitVec.ofNat 32 (max range.1.toNat possible))
        ⟨range, hmem, by omega, by omega⟩
      omega

/-- `-c 1-3` on a machine with eight cpus. -/
theorem checkCpus_sound_iff_oneToThree :
    checkCpus 8 [1, 2, 3] = .ok () ∧
      ∀ cpu ∈ ([1, 2, 3] : List U32), cpu.toNat < 8 := by
  have hparse : parseCpulist 257 "1-3".toList maxCpus =
      some ⟨none, [1, 2, 3]⟩ := by decide +kernel
  obtain ⟨ranges, hranges, hsound⟩ :=
    checkCpus_sound_iff (show 8 < 2 ^ 31 by decide) hparse
  have heq : ranges = [(1, 3)] :=
    Option.some.inj (hranges.symm.trans (by decide +kernel))
  subst heq
  have hcheck : checkCpus 8 [1, 2, 3] = .ok () := by decide
  exact ⟨hcheck, hsound.mpr (.inl (by simp)) hcheck⟩

/-- `-c -2` names cpu 4294967294 and gets past the validation on a machine with
eight cpus. -/
theorem checkCpus_minusTwo :
    parseCpulist 257 "-2".toList maxCpus = some ⟨none, [0xfffffffe]⟩ ∧
      checkCpus 8 [0xfffffffe] = .ok () ∧
      ¬ (0xfffffffe : U32).toNat < 8 := by
  decide +kernel

/-! ## The maps -/

/-- The maps hold the first cpus of the list. -/
structure Filled (done : List U32) (maps : Maps) : Prop where
  available : ∀ k < done.length,
    maps.cpusAvailable (BitVec.ofNat 32 k) = done[k]?
  present : ∀ cpu, maps.cpuMap cpu = true ↔ cpu ∈ done

namespace Filled

variable {done cpus : List U32} {maps maps' : Maps} {accepts : U32 → Bool}

theorem zero : Filled [] Maps.zero where
  available k h := absurd h (Nat.not_lt_zero k)
  present cpu := by simp [Maps.zero]

theorem add (h : Filled done maps) (hlen : done.length < maxCpus)
    (cpu : U32) :
    Filled (done ++ [cpu]) (updateAvailable (updateCpuMap maps cpu)
      (BitVec.ofNat 32 done.length) cpu) := by
  have hmax : maxCpus < 2 ^ 32 := by decide
  have htoNat : ∀ k ≤ done.length, (BitVec.ofNat 32 k).toNat = k := by
    intro k hk
    rw [BitVec.toNat_ofNat, Nat.mod_eq_of_lt (by omega)]
  rw [updateAvailable, if_pos (by rw [htoNat _ le_rfl]; exact hlen)]
  constructor
  · intro k hk
    rw [List.length_append, List.length_singleton] at hk
    by_cases hlast : k = done.length
    · subst hlast
      rw [List.getElem?_concat_length]
      exact Function.update_self ..
    · have hne : BitVec.ofNat 32 k ≠ BitVec.ofNat 32 done.length := by
        intro heq
        have hnat := congrArg BitVec.toNat heq
        rw [htoNat k (by omega), htoNat _ le_rfl] at hnat
        exact hlast hnat
      rw [List.getElem?_append_left (by omega), ← h.available k (by omega)]
      exact Function.update_of_ne hne ..
  · intro other
    simp only [updateCpuMap, List.mem_append, List.mem_singleton]
    by_cases heq : other = cpu
    · simp [heq]
    · rw [Function.update_of_ne heq, h.present]
      simp [heq]

theorem fillCpus (h : Filled done maps)
    (hok : Xdp.fillCpus accepts done.length cpus maps = .ok maps')
    (hlen : done.length + cpus.length ≤ maxCpus) :
    Filled (done ++ cpus) maps' := by
  induction cpus generalizing done maps with
  | nil =>
      cases hok
      rw [List.append_nil]
      exact h
  | cons cpu cpus ih =>
      rw [List.length_cons] at hlen
      unfold Xdp.fillCpus at hok
      split at hok
      · have hsnoc : (done ++ [cpu]).length = done.length + 1 :=
          List.length_append
        rw [← hsnoc] at hok
        have hnext := ih (h.add (by omega) cpu) hok (by omega)
        rw [List.append_assoc] at hnext
        exact hnext
      · cases hok

end Filled

/-- What a loader that gets through has put into the maps. -/
theorem loadMaps_ok {accepts : U32 → Bool} {fuel : Nat} {possible : Int}
    {cpulist : Text} {cpus : List U32} {maps : Maps}
    (h : loadMaps accepts fuel possible cpulist = some (.ok (cpus, maps))) :
    cpus.length ≤ maxCpus ∧
      maps.cpuCount = some (BitVec.ofNat 32 cpus.length) ∧
      Filled cpus maps := by
  unfold loadMaps at h
  split at h
  · cases h
  · cases h
  · rename_i parsed hparse
    obtain ⟨-, -, h⟩ := ok_of_bind (Option.some.inj h)
    obtain ⟨filled, hfill, h⟩ := ok_of_bind h
    cases h
    have hlen : cpus.length ≤ maxCpus := by
      obtain ⟨ranges, -, hfits, rfl⟩ := parseCpulist_ok hparse
      exact hfits.2
    have hfilled := Filled.zero.fillCpus hfill (by simpa using hlen)
    exact ⟨hlen, rfl, hfilled.available, hfilled.present⟩

end L2tvpp.Xdp
