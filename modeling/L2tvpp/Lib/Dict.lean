import Mathlib.Data.List.Basic
import Mathlib.Data.List.Nodup

/-!
# Insertion-ordered dictionaries

A dictionary iterates over its items in the order in which their keys were
first set; setting a key again keeps its place.
-/

namespace L2tvpp.Lib

structure Dict (K V : Type) where
  items : List (K × V)
  nodup : (items.map Prod.fst).Nodup

namespace Dict

variable {K V : Type}

def empty : Dict K V := ⟨[], List.nodup_nil⟩

def keys (dict : Dict K V) : List K := dict.items.map Prod.fst

variable [DecidableEq K]

def lookupItems (key : K) : List (K × V) → Option V
  | [] => none
  | (other, value) :: items =>
      if other = key then some value else lookupItems key items

def get? (dict : Dict K V) (key : K) : Option V := lookupItems key dict.items

def setItems (key : K) (value : V) : List (K × V) → List (K × V)
  | [] => [(key, value)]
  | (other, old) :: items =>
      if other = key then (key, value) :: items
      else (other, old) :: setItems key value items

theorem setItems_keys (key : K) (value : V) (items : List (K × V)) :
    (setItems key value items).map Prod.fst =
      if key ∈ items.map Prod.fst then items.map Prod.fst
      else items.map Prod.fst ++ [key] := by
  induction items with
  | nil => simp [setItems]
  | cons item items ih =>
      obtain ⟨other, old⟩ := item
      simp only [setItems]
      by_cases h : other = key
      · subst h
        simp
      · have h' : key ≠ other := Ne.symm h
        by_cases hmem : key ∈ items.map Prod.fst
        · rw [if_pos hmem] at ih
          rw [if_neg h, List.map_cons, List.map_cons,
            if_pos (List.mem_cons_of_mem _ hmem), ih]
        · rw [if_neg hmem] at ih
          rw [if_neg h, List.map_cons, List.map_cons,
            if_neg (by simpa [h'] using hmem), ih, List.cons_append]

theorem setItems_new {key : K} {value : V} {items : List (K × V)}
    (h : key ∉ items.map Prod.fst) :
    setItems key value items = items ++ [(key, value)] := by
  induction items with
  | nil => rfl
  | cons item items ih =>
      obtain ⟨other, old⟩ := item
      rw [List.map_cons, List.mem_cons, not_or] at h
      rw [setItems, if_neg (Ne.symm h.1), ih h.2, List.cons_append]

def set (dict : Dict K V) (key : K) (value : V) : Dict K V where
  items := setItems key value dict.items
  nodup := by
    rw [setItems_keys]
    split
    · exact dict.nodup
    · rename_i h
      refine List.nodup_append.mpr ⟨dict.nodup, by simp, ?_⟩
      intro first hfirst second hsecond
      rw [List.mem_singleton] at hsecond
      subst hsecond
      rintro rfl
      exact h hfirst

def erase (dict : Dict K V) (key : K) : Dict K V where
  items := dict.items.filter fun item => decide (item.1 ≠ key)
  nodup := (List.filter_sublist.map Prod.fst).nodup dict.nodup

@[simp] theorem get?_empty (key : K) : (empty : Dict K V).get? key = none := rfl

theorem lookupItems_setItems (key other : K) (value : V)
    (items : List (K × V)) :
    lookupItems other (setItems key value items) =
      if other = key then some value else lookupItems other items := by
  induction items with
  | nil =>
      by_cases h : key = other
      · simp [setItems, lookupItems, h]
      · simp [setItems, lookupItems, h, Ne.symm h]
  | cons item items ih =>
      obtain ⟨first, old⟩ := item
      simp only [setItems]
      by_cases hfirst : first = key
      · subst hfirst
        rw [if_pos rfl]
        by_cases h : first = other
        · simp [lookupItems, h]
        · simp [lookupItems, h, Ne.symm h]
      · rw [if_neg hfirst]
        simp only [lookupItems, ih]
        by_cases h : first = other
        · subst h
          simp [hfirst]
        · simp [h]

theorem get?_set (dict : Dict K V) (key other : K) (value : V) :
    (dict.set key value).get? other =
      if other = key then some value else dict.get? other :=
  lookupItems_setItems key other value dict.items

theorem lookupItems_filter (key other : K) (items : List (K × V)) :
    lookupItems other (items.filter fun item => decide (item.1 ≠ key)) =
      if other = key then none else lookupItems other items := by
  induction items with
  | nil => simp [lookupItems]
  | cons item items ih =>
      obtain ⟨first, value⟩ := item
      by_cases hfirst : first = key
      · subst hfirst
        rw [List.filter_cons_of_neg (by simp), ih]
        by_cases h : other = first
        · simp [h]
        · simp [h, lookupItems, Ne.symm h]
      · rw [List.filter_cons_of_pos (by simpa using hfirst)]
        simp only [lookupItems, ih]
        by_cases h : first = other
        · subst h
          simp [hfirst]
        · simp [h]

theorem get?_erase (dict : Dict K V) (key other : K) :
    (dict.erase key).get? other =
      if other = key then none else dict.get? other :=
  lookupItems_filter key other dict.items

theorem mem_of_lookupItems {key : K} {value : V} {items : List (K × V)}
    (h : lookupItems key items = some value) : (key, value) ∈ items := by
  induction items with
  | nil => simp [lookupItems] at h
  | cons item items ih =>
      obtain ⟨first, old⟩ := item
      simp only [lookupItems] at h
      split at h
      · rename_i hfirst
        cases h
        subst hfirst
        exact List.mem_cons_self
      · exact List.mem_cons_of_mem _ (ih h)

theorem lookupItems_of_mem {key : K} {value : V} {items : List (K × V)}
    (hnodup : (items.map Prod.fst).Nodup) (h : (key, value) ∈ items) :
    lookupItems key items = some value := by
  induction items with
  | nil => simp at h
  | cons item items ih =>
      obtain ⟨first, old⟩ := item
      rw [List.map_cons, List.nodup_cons] at hnodup
      rcases List.mem_cons.mp h with heq | hmem
      · cases heq
        simp [lookupItems]
      · have hne : first ≠ key := by
          rintro rfl
          exact hnodup.1 (List.mem_map.mpr ⟨_, hmem, rfl⟩)
        simp [lookupItems, hne, ih hnodup.2 hmem]

theorem mem_items (dict : Dict K V) {key : K} {value : V} :
    (key, value) ∈ dict.items ↔ dict.get? key = some value :=
  ⟨lookupItems_of_mem dict.nodup, mem_of_lookupItems⟩

theorem mem_keys (dict : Dict K V) {key : K} :
    key ∈ dict.keys ↔ ∃ value, dict.get? key = some value := by
  simp only [keys, List.mem_map, Prod.exists]
  constructor
  · rintro ⟨_, value, hmem, rfl⟩
    exact ⟨value, dict.mem_items.mp hmem⟩
  · rintro ⟨value, h⟩
    exact ⟨key, value, dict.mem_items.mpr h, rfl⟩

theorem get?_eq_none (dict : Dict K V) {key : K} :
    dict.get? key = none ↔ key ∉ dict.keys := by
  rw [dict.mem_keys]
  cases dict.get? key <;> simp

section FoldSet

variable {α : Type} (key : α → K) (value : α → V)

/-- A dictionary filled from a list; later entries win. -/
def setAll (dict : Dict K V) (xs : List α) : Dict K V :=
  xs.foldl (fun dict x => dict.set (key x) (value x)) dict

theorem setAll_some {dict : Dict K V} {xs : List α} {k : K} {v : V}
    (h : (dict.setAll key value xs).get? k = some v) :
    (∃ x ∈ xs, key x = k ∧ value x = v) ∨ dict.get? k = some v := by
  induction xs generalizing dict with
  | nil => exact .inr h
  | cons x xs ih =>
      rcases ih h with ⟨y, hy, hkey, hvalue⟩ | hset
      · exact .inl ⟨y, List.mem_cons_of_mem x hy, hkey, hvalue⟩
      · rw [get?_set] at hset
        split at hset
        · rename_i hk
          cases hset
          exact .inl ⟨x, List.mem_cons_self, hk.symm, rfl⟩
        · exact .inr hset

theorem setAll_mem {dict : Dict K V} {xs : List α} {x : α} (hx : x ∈ xs) :
    ∃ y ∈ xs, key y = key x ∧
      (dict.setAll key value xs).get? (key x) = some (value y) := by
  have hkeep : ∀ (xs : List α) (dict : Dict K V) (k : K),
      (∃ y ∈ xs, key y = k ∧
        (dict.setAll key value xs).get? k = some (value y)) ∨
      (dict.setAll key value xs).get? k = dict.get? k := by
    intro xs
    induction xs with
    | nil => exact fun dict k => .inr rfl
    | cons z zs ih =>
        intro dict k
        rcases ih (dict.set (key z) (value z)) k with ⟨y, hy, hkey, hget⟩ | hget
        · exact .inl ⟨y, List.mem_cons_of_mem z hy, hkey, hget⟩
        · by_cases hk : k = key z
          · subst hk
            rw [get?_set, if_pos rfl] at hget
            exact .inl ⟨z, List.mem_cons_self, rfl, hget⟩
          · rw [get?_set, if_neg hk] at hget
            exact .inr hget
  induction xs generalizing dict with
  | nil => simp at hx
  | cons z zs ih =>
      rcases List.mem_cons.mp hx with rfl | hmem
      · rcases hkeep zs (dict.set (key x) (value x)) (key x) with
          ⟨y, hy, hkey, hget⟩ | hget
        · exact ⟨y, List.mem_cons_of_mem x hy, hkey, hget⟩
        · rw [get?_set, if_pos rfl] at hget
          exact ⟨x, List.mem_cons_self, rfl, hget⟩
      · obtain ⟨y, hy, hkey, hget⟩ := ih hmem
        exact ⟨y, List.mem_cons_of_mem z hy, hkey, hget⟩

end FoldSet

def modify (dict : Dict K V) (key : K) (f : V → V) : Dict K V :=
  match dict.get? key with
  | none => dict
  | some value => dict.set key (f value)

theorem get?_modify (dict : Dict K V) (key other : K) (f : V → V) :
    (dict.modify key f).get? other =
      if other = key then (dict.get? other).map f else dict.get? other := by
  unfold modify
  split
  · rename_i hnone
    by_cases h : other = key
    · subst h
      simp [hnone]
    · simp [h]
  · rename_i value hvalue
    rw [get?_set]
    by_cases h : other = key
    · subst h
      simp [hvalue]
    · simp [h]

omit [DecidableEq K] in
def map (dict : Dict K V) (f : K → V → V) : Dict K V where
  items := dict.items.map fun item => (item.1, f item.1 item.2)
  nodup := by
    rw [List.map_map]
    exact dict.nodup

theorem get?_map (dict : Dict K V) (f : K → V → V) (key : K) :
    (dict.map f).get? key = (dict.get? key).map (f key) := by
  obtain ⟨items, nodup⟩ := dict
  simp only [get?, map]
  induction items with
  | nil => rfl
  | cons item items ih =>
      obtain ⟨first, value⟩ := item
      simp only [List.map_cons, lookupItems]
      by_cases h : first = key
      · subst h
        simp
      · rw [if_neg h, if_neg h]
        exact ih (List.nodup_cons.mp nodup).2

end Dict

/-! ## Walks over items -/

section Walk

variable {K V : Type} {done : List (K × V)} {entry other : K × V} {key : K}

theorem fst_ne_of_mem (hnew : entry.1 ∉ done.map Prod.fst)
    (hmem : other ∈ done) : other.1 ≠ entry.1 := by
  intro heq
  exact hnew (heq ▸ List.mem_map_of_mem hmem)

theorem untouched_append (h : key ∉ (done ++ [entry]).map Prod.fst) :
    key ∉ done.map Prod.fst ∧ key ≠ entry.1 := by
  rw [List.map_append, List.mem_append, not_or] at h
  exact ⟨h.1, by simpa using h.2⟩

end Walk

end L2tvpp.Lib
