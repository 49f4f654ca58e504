import Mathlib.Data.List.Basic
import Mathlib.Data.List.Nodup
import Mathlib.Data.List.Perm.Subperm

/-!
# Index pools

A pool is a growable element array with a list of freed slots.  Taking an
element reuses a freed slot when there is one and otherwise appends; an append
to a full array moves all elements to a new, larger array.  Which freed slot is
reused and how much the array grows is left to a `PoolPolicy`, so that every
result below holds for each of them.
-/

namespace L2tvpp.Lib

/-- The choices a pool makes: the freed slot to reuse and the next capacity. -/
structure PoolPolicy where
  choose : List Nat → Nat
  grow : Nat → Nat
  choose_mem : ∀ {free : List Nat}, free ≠ [] → choose free ∈ free
  lt_grow : ∀ capacity, capacity < grow capacity

def PoolPolicy.lifo : PoolPolicy where
  choose free := free.headD 0
  grow capacity := 2 * capacity + 1
  choose_mem := by
    intro free h
    cases free with
    | nil => contradiction
    | cons index free => simp
  lt_grow := by
    intro capacity
    omega

/-- The address of a pool element: the array it lies in and its index there. -/
structure PoolAddr where
  array : Nat
  index : Nat
  deriving DecidableEq, Repr

structure Pool (α : Type) where
  elts : List (Option α)
  free : List Nat
  array : Nat
  capacity : Nat
  mem_free : ∀ index, index ∈ free ↔ elts[index]? = some none
  free_nodup : free.Nodup
  length_le : elts.length ≤ capacity

namespace Pool

variable {α : Type} (P : PoolPolicy) (pool : Pool α)

def empty : Pool α where
  elts := []
  free := []
  array := 0
  capacity := 0
  mem_free := by simp
  free_nodup := by simp
  length_le := by simp

def ofList (elements : List α) : Pool α where
  elts := elements.map some
  free := []
  array := 0
  capacity := elements.length
  mem_free := by simp
  free_nodup := by simp
  length_le := by simp

/-- The element at an index; `none` for a freed or out-of-range index. -/
def elt? (index : Nat) : Option α := pool.elts[index]?.join

def nextIndex : Nat :=
  if pool.free = [] then pool.elts.length else P.choose pool.free

/-- The next `get` has to move the elements to a larger array. -/
def grows : Bool :=
  decide (pool.free = []) && decide (pool.elts.length = pool.capacity)

theorem elt?_eq_some {index : Nat} {x : α} :
    pool.elt? index = some x ↔ pool.elts[index]? = some (some x) := by
  simp only [elt?]
  cases h : pool.elts[index]? with
  | none => simp
  | some slot => cases slot <;> simp

theorem choose_free (h : pool.free ≠ []) :
    pool.elts[P.choose pool.free]? = some none :=
  (pool.mem_free _).mp (P.choose_mem h)

@[simp] theorem elt?_nextIndex : pool.elt? (pool.nextIndex P) = none := by
  unfold nextIndex
  split
  · simp [elt?]
  · rename_i h
    simp [elt?, choose_free P pool h]

theorem mem_free_append (h : pool.free = []) (x : α) (index : Nat) :
    index ∈ [] ↔ (pool.elts ++ [some x])[index]? = some none := by
  have hfree := pool.mem_free index
  rw [h] at hfree
  rcases Nat.lt_trichotomy index pool.elts.length with hlt | heq | hgt
  · rw [List.getElem?_append_left hlt]
    exact hfree
  · subst heq
    simp
  · rw [List.getElem?_eq_none (by simp; omega)]
    simp

theorem length_append_le (h : pool.free = []) (x : α) :
    (pool.elts ++ [some x]).length ≤
      if pool.grows then P.grow pool.capacity else pool.capacity := by
  have hle := pool.length_le
  have hgrow := P.lt_grow pool.capacity
  by_cases hfull : pool.elts.length = pool.capacity
  · simp only [grows, h, hfull, decide_true, Bool.and_true, if_true,
      List.length_append, List.length_singleton]
    omega
  · simp only [grows, h, hfull, decide_true, decide_false, Bool.and_false,
      Bool.false_eq_true, if_false, List.length_append, List.length_singleton]
    omega

theorem mem_erase_choose (h : pool.free ≠ []) (x : α) (index : Nat) :
    index ∈ pool.free.erase (P.choose pool.free) ↔
      (pool.elts.set (P.choose pool.free) (some x))[index]? = some none := by
  rw [pool.free_nodup.mem_erase_iff, pool.mem_free, List.getElem?_set]
  by_cases heq : P.choose pool.free = index
  · subst heq
    have hlt := (List.getElem?_eq_some_iff.mp (choose_free P pool h)).1
    simp [hlt]
  · simp [heq, Ne.symm heq]

theorem length_set_le (index : Nat) (slot : Option α) :
    (pool.elts.set index slot).length ≤ pool.capacity := by
  simpa using pool.length_le

def get (x : α) : Pool α :=
  if h : pool.free = [] then
    { elts := pool.elts ++ [some x]
      free := []
      array := if pool.grows then pool.array + 1 else pool.array
      capacity := if pool.grows then P.grow pool.capacity else pool.capacity
      mem_free := mem_free_append pool h x
      free_nodup := List.nodup_nil
      length_le := length_append_le P pool h x }
  else
    { elts := pool.elts.set (P.choose pool.free) (some x)
      free := pool.free.erase (P.choose pool.free)
      array := pool.array
      capacity := pool.capacity
      mem_free := mem_erase_choose P pool h x
      free_nodup := pool.free_nodup.erase _
      length_le := length_set_le pool _ _ }

theorem elt?_get (x : α) (index : Nat) :
    (pool.get P x).elt? index =
      if index = pool.nextIndex P then some x else pool.elt? index := by
  by_cases h : pool.free = []
  · simp only [get, h, nextIndex, elt?, dite_true, if_true]
    rcases Nat.lt_trichotomy index pool.elts.length with hlt | heq | hgt
    · rw [List.getElem?_append_left hlt, if_neg (Nat.ne_of_lt hlt)]
    · subst heq
      simp
    · rw [List.getElem?_eq_none (by simp; omega),
        List.getElem?_eq_none (Nat.le_of_lt hgt), if_neg (Nat.ne_of_gt hgt)]
  · simp only [get, h, nextIndex, elt?, dite_false, if_false,
      List.getElem?_set]
    have hlt := (List.getElem?_eq_some_iff.mp (choose_free P pool h)).1
    by_cases heq : P.choose pool.free = index
    · subst heq
      simp [hlt]
    · simp [heq, Ne.symm heq]

@[simp] theorem elt?_get_nextIndex (x : α) :
    (pool.get P x).elt? (pool.nextIndex P) = some x := by
  simp [elt?_get]

theorem elt?_get_of_live (x : α) {index : Nat} {y : α}
    (h : pool.elt? index = some y) :
    (pool.get P x).elt? index = some y := by
  rw [elt?_get, if_neg, h]
  rintro rfl
  simp at h

/-- Free an element; a slot that is not live is left alone. -/
def put (index : Nat) : Pool α :=
  if h : (pool.elt? index).isSome then
    { elts := pool.elts.set index none
      free := index :: pool.free
      array := pool.array
      capacity := pool.capacity
      mem_free := by
        intro other
        obtain ⟨x, hx⟩ := Option.isSome_iff_exists.mp h
        have hlt := (List.getElem?_eq_some_iff.mp ((elt?_eq_some pool).mp hx)).1
        rw [List.mem_cons, pool.mem_free, List.getElem?_set]
        by_cases heq : index = other
        · subst heq
          simp [hlt]
        · simp [heq, Ne.symm heq]
      free_nodup := by
        obtain ⟨x, hx⟩ := Option.isSome_iff_exists.mp h
        refine List.nodup_cons.mpr ⟨?_, pool.free_nodup⟩
        rw [pool.mem_free, (elt?_eq_some pool).mp hx]
        simp
      length_le := length_set_le pool _ _ }
  else pool

theorem elt?_put (index other : Nat) :
    (pool.put index).elt? other =
      if other = index then none else pool.elt? other := by
  by_cases h : (pool.elt? index).isSome
  · rw [put, dif_pos h]
    simp only [elt?, List.getElem?_set]
    by_cases heq : index = other
    · subst heq
      by_cases hlt : index < pool.elts.length <;> simp [hlt]
    · simp [heq, Ne.symm heq]
  · rw [put, dif_neg h]
    by_cases heq : other = index
    · subst heq
      simpa using h
    · simp [heq]

def modify (index : Nat) (f : α → α) : Pool α where
  elts := pool.elts.modify index (Option.map f)
  free := pool.free
  array := pool.array
  capacity := pool.capacity
  mem_free := by
    intro other
    rw [pool.mem_free, List.getElem?_modify]
    by_cases heq : index = other
    · subst heq
      cases h : pool.elts[index]? with
      | none => simp
      | some slot => cases slot <;> simp
    · simp [heq]
  free_nodup := pool.free_nodup
  length_le := by simpa using pool.length_le

theorem elt?_modify (index : Nat) (f : α → α) (other : Nat) :
    (pool.modify index f).elt? other =
      if other = index then (pool.elt? other).map f else pool.elt? other := by
  simp only [modify, elt?, List.getElem?_modify]
  by_cases heq : index = other
  · subst heq
    cases h : pool.elts[index]? with
    | none => simp
    | some slot => cases slot <;> simp
  · simp [heq, Ne.symm heq]

@[simp] theorem elt?_empty (index : Nat) : (empty : Pool α).elt? index = none := by
  simp [empty, elt?]

/-! ## Fresh pools -/

/-- Nothing has been freed, so the indices are handed out in order. -/
structure Packed (length : Nat) : Prop where
  free : pool.free = []
  length : pool.elts.length = length

theorem packed_ofList (elements : List α) :
    (ofList elements).Packed elements.length :=
  ⟨rfl, by simp [ofList]⟩

theorem packed_empty : (empty : Pool α).Packed 0 := ⟨rfl, rfl⟩

variable {pool}

theorem Packed.live {length : Nat} (h : pool.Packed length) {index : Nat}
    (hindex : index < length) : ∃ x, pool.elt? index = some x := by
  rw [← h.length] at hindex
  cases hslot : pool.elts[index]? with
  | none =>
      rw [List.getElem?_eq_none_iff] at hslot
      omega
  | some slot =>
      cases slot with
      | none =>
          have hfree := (pool.mem_free index).mpr hslot
          rw [h.free] at hfree
          contradiction
      | some x => exact ⟨x, by simp [elt?, hslot]⟩

theorem Packed.nextIndex {length : Nat} (h : pool.Packed length) :
    pool.nextIndex P = length := by
  rw [Pool.nextIndex, if_pos h.free, h.length]

theorem Packed.get {length : Nat} (h : pool.Packed length) (x : α) :
    (pool.get P x).Packed (length + 1) := by
  rw [Pool.get, dif_pos h.free]
  exact ⟨rfl, by simp [h.length]⟩

theorem Packed.modify {length : Nat} (h : pool.Packed length) (index : Nat)
    (f : α → α) : (pool.modify index f).Packed length :=
  ⟨h.free, by simp [Pool.modify, h.length]⟩

variable (pool)

/-! ## The indices to come

Which indices the next elements get depends on the freed slots and the length
only, and not on the elements.
-/

def upcomingFrom : List Nat → Nat → Nat → Nat
  | free, length, 0 => if free = [] then length else P.choose free
  | free, length, n + 1 =>
      if free = [] then upcomingFrom [] (length + 1) n
      else upcomingFrom (free.erase (P.choose free)) length n

/-- The index of the element taken after `n` others. -/
def upcoming (n : Nat) : Nat := upcomingFrom P pool.free pool.elts.length n

theorem upcoming_zero : pool.upcoming P 0 = pool.nextIndex P := rfl

@[simp] theorem upcoming_get (x : α) (n : Nat) :
    (pool.get P x).upcoming P n = pool.upcoming P (n + 1) := by
  simp only [upcoming, upcomingFrom, get]
  by_cases hfree : pool.free = []
  · rw [dif_pos hfree, if_pos hfree]
    simp
  · rw [dif_neg hfree, if_neg hfree]
    simp

@[simp] theorem upcoming_modify (index : Nat) (f : α → α) (n : Nat) :
    (pool.modify index f).upcoming P n = pool.upcoming P n := by
  simp [upcoming, modify]

theorem upcomingFrom_fresh (free : List Nat) (length n : Nat) :
    upcomingFrom P free length n ∈ free ∨
      length ≤ upcomingFrom P free length n := by
  induction n generalizing free length with
  | zero =>
      rw [upcomingFrom]
      split
      · exact .inr (Nat.le_refl _)
      · rename_i hfree
        exact .inl (P.choose_mem hfree)
  | succ n ih =>
      rw [upcomingFrom]
      split
      · rename_i hfree
        rcases ih [] (length + 1) with hmem | hle
        · simp at hmem
        · exact .inr (by omega)
      · rcases ih (free.erase (P.choose free)) length with hmem | hle
        · exact .inl (List.mem_of_mem_erase hmem)
        · exact .inr hle

@[simp] theorem elt?_upcoming (n : Nat) :
    pool.elt? (pool.upcoming P n) = none := by
  rcases upcomingFrom_fresh P pool.free pool.elts.length n with hmem | hle
  · simp [elt?, upcoming, (pool.mem_free _).mp hmem]
  · simp [elt?, upcoming, List.getElem?_eq_none hle]

/-! ## Addresses -/

def addr (index : Nat) : PoolAddr := ⟨pool.array, index⟩

/-- Read through an address: only an address into the current array is live. -/
def deref (address : PoolAddr) : Option α :=
  if address.array = pool.array then pool.elt? address.index else none

@[simp] theorem deref_addr (index : Nat) :
    pool.deref (pool.addr index) = pool.elt? index := by
  simp [deref, addr]

@[simp] theorem addr_put (index other : Nat) :
    (pool.put index).addr other = pool.addr other := by
  unfold put
  split <;> rfl

theorem addr_get (x : α) (other : Nat) (h : pool.grows = false) :
    (pool.get P x).addr other = pool.addr other := by
  unfold get
  split <;> simp [addr, h]

/-! ## Iteration -/

def toList : List (Nat × α) :=
  pool.elts.zipIdx.filterMap fun slot => slot.1.map fun x => (slot.2, x)

theorem mem_toList {index : Nat} {x : α} :
    (index, x) ∈ pool.toList ↔ pool.elt? index = some x := by
  simp only [toList, List.mem_filterMap, Prod.exists, elt?_eq_some]
  constructor
  · rintro ⟨slot, i, hmem, hmap⟩
    obtain ⟨y, rfl, hy⟩ := Option.map_eq_some_iff.mp hmap
    obtain ⟨rfl, rfl⟩ := Prod.mk.inj hy
    exact List.mem_zipIdx_iff_getElem?.mp hmem
  · intro h
    exact ⟨some x, index, List.mem_zipIdx_iff_getElem?.mpr h, rfl⟩

theorem toList_sorted : pool.toList.Pairwise fun entry other =>
    entry.1 < other.1 := by
  have hindices : (pool.elts.zipIdx.map Prod.snd).Pairwise (· < ·) := by
    rw [List.zipIdx_map_snd]
    exact List.pairwise_lt_range'
  rw [toList, List.pairwise_filterMap]
  refine (List.pairwise_map.mp hindices).imp ?_
  intro slot slot' hlt entry hentry entry' hentry'
  obtain ⟨x, -, rfl⟩ := Option.map_eq_some_iff.mp hentry
  obtain ⟨x', -, rfl⟩ := Option.map_eq_some_iff.mp hentry'
  exact hlt

def find? (test : α → Bool) : Option (Nat × α) :=
  pool.toList.find? fun entry => test entry.2

theorem find?_some {test : α → Bool} {index : Nat} {x : α}
    (h : pool.find? test = some (index, x)) :
    pool.elt? index = some x ∧ test x = true := by
  refine ⟨(mem_toList pool).mp (List.mem_of_find?_eq_some h), ?_⟩
  simpa using List.find?_some h

theorem find?_none {test : α → Bool} (h : pool.find? test = none)
    {index : Nat} {x : α} (hx : pool.elt? index = some x) :
    test x = false := by
  have hall := List.find?_eq_none.mp h (index, x) ((mem_toList pool).mpr hx)
  simpa using hall

/-! ## Tables over a pool -/

section Indexes

variable {K : Type}

/-- The table maps the key of each live element to its index, and nothing
else. -/
def Indexes (key : α → K) (table : K → Option Nat) : Prop :=
  ∀ (k : K) (index : Nat), table k = some index ↔
    ∃ x, pool.elt? index = some x ∧ key x = k

variable {P} {pool} {key : α → K} {table table' : K → Option Nat}

theorem Indexes.some_iff (h : pool.Indexes key table) {k : K} {index : Nat} :
    table k = some index ↔ ∃ x, pool.elt? index = some x ∧ key x = k :=
  h k index

theorem Indexes.find (h : pool.Indexes key table) {index : Nat} {x : α}
    (hx : pool.elt? index = some x) : table (key x) = some index :=
  h.some_iff.mpr ⟨x, hx, rfl⟩

theorem Indexes.index_eq (h : pool.Indexes key table) {i j : Nat} {x y : α}
    (hx : pool.elt? i = some x) (hy : pool.elt? j = some y)
    (heq : key x = key y) : i = j := by
  have hleft := h.find hx
  rw [heq, h.find hy] at hleft
  exact (Option.some.inj hleft).symm

variable [DecidableEq K]

theorem Indexes.get (h : pool.Indexes key table) {x : α}
    (hnew : table (key x) = none)
    (htable : ∀ k, table' k =
      if k = key x then some (pool.nextIndex P) else table k) :
    (pool.get P x).Indexes key table' := by
  intro k index
  have hfree : table k ≠ some (pool.nextIndex P) := by
    intro hsome
    obtain ⟨y, hy, -⟩ := h.some_iff.mp hsome
    simp at hy
  rw [htable, elt?_get]
  by_cases hindex : index = pool.nextIndex P
  · subst hindex
    by_cases hk : k = key x
    · simp [hk]
    · simp [hk, hfree, Ne.symm hk]
  · rw [if_neg hindex]
    by_cases hk : k = key x
    · subst hk
      rw [if_pos rfl, ← h.some_iff, hnew]
      simp [Ne.symm hindex]
    · rw [if_neg hk, h.some_iff]

theorem Indexes.put (h : pool.Indexes key table) {i : Nat} {x : α}
    (hx : pool.elt? i = some x)
    (htable : ∀ k, table' k = if k = key x then none else table k) :
    (pool.put i).Indexes key table' := by
  intro k index
  rw [htable, elt?_put]
  by_cases hk : k = key x
  · subst hk
    rw [if_pos rfl]
    constructor
    · intro hnone
      contradiction
    · rintro ⟨y, hy, hkey⟩
      split at hy
      · contradiction
      · exact absurd (h.index_eq hy hx hkey) ‹_›
  · rw [if_neg hk, h.some_iff]
    constructor
    · rintro ⟨y, hy, rfl⟩
      refine ⟨y, ?_, rfl⟩
      rw [if_neg, hy]
      rintro rfl
      rw [hx] at hy
      cases hy
      exact hk rfl
    · rintro ⟨y, hy, rfl⟩
      split at hy
      · contradiction
      · exact ⟨y, hy, rfl⟩

end Indexes

/-! ## Counting -/

def count (test : α → Bool) : Nat := pool.elts.countP fun slot => slot.any test

theorem count_get (test : α → Bool) (x : α) :
    (pool.get P x).count test = pool.count test + if test x then 1 else 0 := by
  by_cases h : pool.free = []
  · simp only [get, h, dite_true, count, List.countP_append,
      List.countP_singleton, Option.any_some]
  · simp only [get, h, dite_false, count]
    have hslot := choose_free P pool h
    obtain ⟨hlt, hnone⟩ := List.getElem?_eq_some_iff.mp hslot
    rw [List.countP_set hlt, hnone]
    simp

theorem count_put (test : α → Bool) {index : Nat} {x : α}
    (h : pool.elt? index = some x) :
    (pool.put index).count test = pool.count test - if test x then 1 else 0 := by
  obtain ⟨hlt, hslot⟩ := List.getElem?_eq_some_iff.mp ((elt?_eq_some pool).mp h)
  simp only [put, h, Option.isSome_some, dite_true, count]
  rw [List.countP_set hlt, hslot]
  simp

theorem count_modify (test : α → Bool) (f : α → α) (index : Nat)
    (h : ∀ x, test (f x) = test x) :
    (pool.modify index f).count test = pool.count test := by
  have hslot : ∀ slot : Option α, (slot.map f).any test = slot.any test := by
    intro slot
    cases slot <;> simp [h]
  simp only [modify, count]
  induction pool.elts generalizing index with
  | nil => simp
  | cons slot slots ih =>
      cases index with
      | zero => simp [List.countP_cons, hslot]
      | succ index => simp [List.countP_cons, ih]

theorem count_pos {test : α → Bool} {index : Nat} {x : α}
    (hx : pool.elt? index = some x) (htest : test x = true) :
    0 < pool.count test := by
  obtain ⟨hlt, hslot⟩ := List.getElem?_eq_some_iff.mp ((elt?_eq_some pool).mp hx)
  rw [count, List.countP_pos_iff]
  refine ⟨pool.elts[index], List.getElem_mem hlt, ?_⟩
  rw [hslot]
  exact htest

theorem count_eq_zero {test : α → Bool} :
    pool.count test = 0 ↔
      ∀ index x, pool.elt? index = some x → test x = false := by
  constructor
  · intro hzero index x hx
    by_contra htest
    have hpos := count_pos pool hx (Bool.of_not_eq_false htest)
    omega
  · intro hall
    rw [count, List.countP_eq_zero]
    intro slot hslot
    obtain ⟨index, hlt, rfl⟩ := List.mem_iff_getElem.mp hslot
    cases hcase : pool.elts[index] with
    | none => simp
    | some x =>
        have hx : pool.elt? index = some x := by
          rw [elt?_eq_some, List.getElem?_eq_getElem hlt, hcase]
        simp [hall index x hx]

theorem count_le {test : α → Bool} {bound : Nat} (key : α → Nat)
    (hbound : ∀ x, key x < bound)
    (hkey : ∀ i j x y, pool.elt? i = some x → pool.elt? j = some y →
      test x = true → test y = true → key x = key y → i = j) :
    pool.count test ≤ bound := by
  let passing := pool.elts.filterMap fun slot => slot.filter test
  have hlength : passing.length = pool.count test := by
    rw [List.length_filterMap_eq_countP, count]
    congr 1
    funext slot
    cases slot with
    | none => rfl
    | some x => cases h : test x <;> simp [Option.filter, h]
  have hnodup : (passing.map key).Nodup := by
    rw [List.Nodup, List.pairwise_map, List.pairwise_filterMap,
      List.pairwise_iff_getElem]
    intro i j hi hj hij x hx y hy heq
    obtain ⟨hx, htestx⟩ := Option.filter_eq_some_iff.mp hx
    obtain ⟨hy, htesty⟩ := Option.filter_eq_some_iff.mp hy
    have hne := hkey i j x y
      ((elt?_eq_some pool).mpr (List.getElem?_eq_some_iff.mpr ⟨hi, hx⟩))
      ((elt?_eq_some pool).mpr (List.getElem?_eq_some_iff.mpr ⟨hj, hy⟩))
      htestx htesty heq
    omega
  have hsubset : passing.map key ⊆ List.range bound := by
    intro k hk
    obtain ⟨x, -, rfl⟩ := List.mem_map.mp hk
    exact List.mem_range.mpr (hbound x)
  have hle := (List.subperm_of_subset hnodup hsubset).length_le
  rw [List.length_map, List.length_range, hlength] at hle
  exact hle

/-! ## What comes and goes -/

section Changes

variable {pool}

/-- The element is in a slot of one of the pools that is free in the other. -/
def Changes (pool pool' : Pool α) (x : α) : Prop :=
  ∃ index, pool.elt? index = none ∧ pool'.elt? index = some x ∨
    pool.elt? index = some x ∧ pool'.elt? index = none

theorem not_changes {pool' : Pool α}
    (h : ∀ index, pool'.elt? index = none ↔ pool.elt? index = none) (x : α) :
    ¬ pool.Changes pool' x := by
  rintro ⟨index, ⟨hnone, hsome⟩ | ⟨hsome, hnone⟩⟩
  · rw [(h index).mpr hnone] at hsome
    cases hsome
  · rw [(h index).mp hnone] at hsome
    cases hsome

theorem not_changes_modify (index : Nat) (f : α → α) (x : α) :
    ¬ pool.Changes (pool.modify index f) x := by
  refine not_changes (fun other => ?_) x
  rw [elt?_modify]
  split <;> simp

theorem changes_get {x y : α} :
    pool.Changes (pool.get P x) y ↔ y = x := by
  constructor
  · rintro ⟨index, ⟨hnone, hsome⟩ | ⟨hsome, hnone⟩⟩
    · rw [elt?_get] at hsome
      split at hsome
      · exact (Option.some.inj hsome).symm
      · rw [hnone] at hsome
        cases hsome
    · rw [elt?_get_of_live P pool x hsome] at hnone
      cases hnone
  · rintro rfl
    exact ⟨pool.nextIndex P, .inl ⟨elt?_nextIndex P pool,
      elt?_get_nextIndex P pool y⟩⟩

theorem changes_put {index : Nat} {x : α} :
    pool.Changes (pool.put index) x ↔ pool.elt? index = some x := by
  constructor
  · rintro ⟨other, ⟨hnone, hsome⟩ | ⟨hsome, hnone⟩⟩
    · rw [elt?_put, hnone] at hsome
      split at hsome <;> cases hsome
    · rw [elt?_put] at hnone
      split at hnone
      · rename_i heq
        rw [← heq]
        exact hsome
      · rw [hsome] at hnone
        cases hnone
  · intro h
    refine ⟨index, .inr ⟨h, ?_⟩⟩
    rw [elt?_put, if_pos rfl]

end Changes

end Pool

end L2tvpp.Lib
