import Mathlib.Algebra.Ring.Nat
import Mathlib.Data.List.Dedup
import Mathlib.Data.List.Perm.Basic
import Mathlib.Logic.Function.Basic
import L2tvpp.Lib.Run

/-!
# Items handed over through queues

Producers offer items to queues, a queue that is full refuses them, and
consumers take from the front.  Whatever the interleaving, a queue hands over
what it has accepted, once, in the order in which it was offered.
-/

namespace L2tvpp.Lib

structure Queues (κ ι : Type) where
  waiting : κ → List ι
  /-- What was taken from any of the queues, oldest first. -/
  taken : List (κ × ι)
  refused : List (κ × ι)

inductive QueueEvent (κ ι : Type) where
  | offer (key : κ) (item : ι) (accept : Bool)
  | take (key : κ) (count : Nat)

namespace QueueEvent

variable {κ ι : Type}

def offered : QueueEvent κ ι → Option (κ × ι)
  | offer key item _ => some (key, item)
  | take .. => none

def accepted : QueueEvent κ ι → Option (κ × ι)
  | offer key item accept => if accept then some (key, item) else none
  | take .. => none

def refused : QueueEvent κ ι → Option (κ × ι)
  | offer key item accept => if accept then none else some (key, item)
  | take .. => none

theorem accepted_sublist (events : List (QueueEvent κ ι)) :
    (events.filterMap accepted).Sublist (events.filterMap offered) := by
  induction events with
  | nil => exact .slnil
  | cons event events ih =>
      cases event with
      | take key count => exact ih
      | offer key item accept =>
          cases accept with
          | true => exact ih.cons_cons (key, item)
          | false => exact ih.cons (key, item)

theorem accepted_refused_perm (events : List (QueueEvent κ ι)) :
    (events.filterMap accepted ++ events.filterMap refused).Perm
      (events.filterMap offered) := by
  induction events with
  | nil => exact .refl _
  | cons event events ih =>
      cases event with
      | take key count => exact ih
      | offer key item accept =>
          cases accept with
          | true => exact ih.cons (key, item)
          | false => exact List.perm_middle.trans (ih.cons (key, item))

end QueueEvent

/-- The items of one queue. -/
def itemsFor {κ ι : Type} [DecidableEq κ] (key : κ) (entries : List (κ × ι)) :
    List ι :=
  (entries.filter fun entry => entry.1 == key).map Prod.snd

section ItemsFor

variable {κ ι : Type} [DecidableEq κ]

@[simp] theorem itemsFor_nil (key : κ) :
    itemsFor key ([] : List (κ × ι)) = [] := rfl

@[simp] theorem itemsFor_append (key : κ) (first second : List (κ × ι)) :
    itemsFor key (first ++ second) =
      itemsFor key first ++ itemsFor key second := by
  simp [itemsFor]

theorem itemsFor_map (key other : κ) (items : List ι) :
    itemsFor key (items.map (Prod.mk other)) =
      if other = key then items else [] := by
  have hfst : ∀ entry ∈ items.map (Prod.mk other), entry.1 = other := by
    simp
  unfold itemsFor
  by_cases h : other = key
  · rw [if_pos h, List.filter_eq_self.mpr fun entry hentry => by
      simp [hfst entry hentry, h]]
    simp [Function.comp_def]
  · rw [if_neg h, List.filter_eq_nil_iff.mpr fun entry hentry => by
      simp [hfst entry hentry, h]]
    rfl

theorem mem_itemsFor {key : κ} {item : ι} {entries : List (κ × ι)} :
    item ∈ itemsFor key entries ↔ (key, item) ∈ entries := by
  simp [itemsFor]

theorem itemsFor_filter_ne (key other : κ) (entries : List (κ × ι)) :
    itemsFor key (entries.filter fun entry => !(entry.1 == other)) =
      if key = other then [] else itemsFor key entries := by
  unfold itemsFor
  rw [List.filter_filter]
  split
  · rename_i h
    subst h
    simp
  · rename_i h
    congr 1
    apply List.filter_congr
    intro entry _
    by_cases hkey : entry.1 = key
    · simp [hkey, h]
    · simp [hkey]

/-- Entries of a class that is all for one queue. -/
theorem filter_of_key {p : ι → Bool} {key : κ} {entries : List (κ × ι)}
    (h : ∀ entry ∈ entries, p entry.2 = true → entry.1 = key) :
    (itemsFor key entries).filter p = (entries.map Prod.snd).filter p := by
  induction entries with
  | nil => rfl
  | cons entry entries ih =>
      have hrest := ih fun other hother =>
        h other (List.mem_cons_of_mem entry hother)
      rw [← List.singleton_append, itemsFor_append, List.filter_append, hrest,
        List.map_append, List.filter_append]
      congr 1
      cases hp : p entry.2 with
      | false =>
          unfold itemsFor
          by_cases hkey : entry.1 = key <;> simp [hkey, hp]
      | true =>
          have hkey := h entry List.mem_cons_self hp
          simp [itemsFor, hkey, hp]

end ItemsFor

namespace Queues

variable {κ ι : Type} [DecidableEq κ]

def empty : Queues κ ι := ⟨fun _ => [], [], []⟩

def step (q : Queues κ ι) : QueueEvent κ ι → Queues κ ι
  | .offer key item accept =>
      if accept then
        { q with
          waiting := Function.update q.waiting key (q.waiting key ++ [item]) }
      else { q with refused := q.refused ++ [(key, item)] }
  | .take key count =>
      { q with
        waiting := Function.update q.waiting key
          ((q.waiting key).drop count)
        taken := q.taken ++ ((q.waiting key).take count).map (Prod.mk key) }

/-- What the queues hold after `events`. -/
structure Follows (q : Queues κ ι) (events : List (QueueEvent κ ι)) : Prop where
  fifo : ∀ key, itemsFor key q.taken ++ q.waiting key =
    itemsFor key (events.filterMap QueueEvent.accepted)
  refused : q.refused = events.filterMap QueueEvent.refused

theorem follows_empty : (empty : Queues κ ι).Follows [] := ⟨fun _ => rfl, rfl⟩

variable {q : Queues κ ι} {events : List (QueueEvent κ ι)}

theorem Follows.step (h : q.Follows events) (event : QueueEvent κ ι) :
    (q.step event).Follows (events ++ [event]) := by
  cases event with
  | take key count =>
      have hnothing : ([.take key count] : List (QueueEvent κ ι)).filterMap
          QueueEvent.accepted = [] := rfl
      refine ⟨fun other => ?_, ?_⟩
      · have hother := h.fifo other
        simp only [Queues.step, List.filterMap_append, itemsFor_append,
          itemsFor_map, ← hother, hnothing]
        by_cases hkey : key = other
        · subst hkey
          rw [if_pos rfl, Function.update_self, List.append_assoc,
            List.take_append_drop]
          simp
        · rw [if_neg hkey, Function.update_of_ne (Ne.symm hkey)]
          simp
      · rw [List.filterMap_append, ← h.refused]
        exact (List.append_nil _).symm
  | offer key item accept =>
      cases accept with
      | false =>
          refine ⟨fun other => ?_, ?_⟩
          · simpa [Queues.step, QueueEvent.accepted] using h.fifo other
          · simp [Queues.step, QueueEvent.refused, h.refused]
      | true =>
          refine ⟨fun other => ?_, ?_⟩
          · have hother := h.fifo other
            have hoffer : itemsFor other [(key, item)] =
                if key = other then [item] else [] :=
              itemsFor_map other key [item]
            have haccepted : [QueueEvent.offer key item true].filterMap
                QueueEvent.accepted = [(key, item)] := rfl
            rw [List.filterMap_append, itemsFor_append, haccepted, hoffer,
              ← hother]
            by_cases hkey : key = other
            · subst hkey
              simp [Queues.step]
            · simp [Queues.step, hkey, Function.update_of_ne (Ne.symm hkey)]
          · simpa [Queues.step, QueueEvent.refused] using h.refused

theorem Follows.run (h : q.Follows events) (more : List (QueueEvent κ ι)) :
    (run Queues.step q more).Follows (events ++ more) := by
  induction more generalizing q events with
  | nil =>
      rw [List.append_nil]
      exact h
  | cons event more ih =>
      rw [← List.singleton_append, ← List.append_assoc]
      exact ih (h.step event)

/-- The items of a class that always goes to one queue come out in the order in
which they were accepted. -/
theorem Follows.class_fifo (h : q.Follows events) {p : ι → Bool} {key : κ}
    (hkey : ∀ entry ∈ events.filterMap QueueEvent.offered,
      p entry.2 = true → entry.1 = key) :
    (q.taken.map Prod.snd).filter p ++ (q.waiting key).filter p =
      ((events.filterMap QueueEvent.accepted).map Prod.snd).filter p := by
  have haccepted : ∀ entry ∈ events.filterMap QueueEvent.accepted,
      p entry.2 = true → entry.1 = key := fun entry hentry =>
    hkey entry ((QueueEvent.accepted_sublist events).subset hentry)
  have htaken : ∀ entry ∈ q.taken, p entry.2 = true → entry.1 = key := by
    intro entry hentry
    refine haccepted entry (mem_itemsFor.mp ?_)
    rw [← h.fifo entry.1]
    exact List.mem_append_left _ (mem_itemsFor.mpr hentry)
  rw [← filter_of_key htaken, ← filter_of_key haccepted, ← h.fifo key,
    List.filter_append]

theorem Follows.class_order (h : q.Follows events) {p : ι → Bool} {key : κ}
    (hkey : ∀ entry ∈ events.filterMap QueueEvent.offered,
      p entry.2 = true → entry.1 = key) :
    ((q.taken.map Prod.snd).filter p ++ (q.waiting key).filter p).Sublist
      (((events.filterMap QueueEvent.offered).map Prod.snd).filter p) := by
  rw [h.class_fifo hkey]
  exact ((QueueEvent.accepted_sublist events).map Prod.snd).filter p

/-- Of a class that always goes to one queue, nothing is taken elsewhere. -/
theorem Follows.class_key (h : q.Follows events) {p : ι → Bool} {key : κ}
    (hkey : ∀ entry ∈ events.filterMap QueueEvent.offered,
      p entry.2 = true → entry.1 = key) {entry : κ × ι}
    (hentry : entry ∈ q.taken) (hp : p entry.2 = true) : entry.1 = key := by
  refine hkey entry ((QueueEvent.accepted_sublist events).subset
    (mem_itemsFor.mp ?_)) hp
  rw [← h.fifo entry.1]
  exact List.mem_append_left _ (mem_itemsFor.mpr hentry)

/-! ## Nothing is lost and nothing comes twice -/

theorem perm_of_itemsFor {first second : List (κ × ι)}
    (h : ∀ key, itemsFor key first = itemsFor key second) :
    first.Perm second := by
  -- by the length: the entries of one key are equal, and the others are fewer
  induction hlen : first.length using Nat.strongRecOn
    generalizing first second with
  | _ n ih =>
      cases first with
      | nil =>
          cases second with
          | nil => exact .refl _
          | cons entry second =>
              have hentry := h entry.1
              simp [itemsFor] at hentry
      | cons entry first =>
          let ofKey : κ × ι → Bool := fun other => other.1 == entry.1
          have hentries : ∀ entries : List (κ × ι), entries.filter ofKey =
              (itemsFor entry.1 entries).map (Prod.mk entry.1) := by
            intro entries
            rw [itemsFor, List.map_map]
            refine (List.map_id _).symm.trans (List.map_congr_left ?_)
            intro other hother
            have hkey := (List.mem_filter.mp hother).2
            rw [beq_iff_eq] at hkey
            exact Prod.ext hkey rfl
          have hsame : (entry :: first).filter ofKey = second.filter ofKey := by
            rw [hentries, hentries, h entry.1]
          have hrest : ((entry :: first).filter fun other => !ofKey other).Perm
              (second.filter fun other => !ofKey other) := by
            refine ih _ ?_ (fun key => ?_) rfl
            · rw [← hlen, List.filter_cons_of_neg (by simp [ofKey])]
              exact Nat.lt_succ_of_le (List.length_filter_le _ _)
            · rw [itemsFor_filter_ne, itemsFor_filter_ne, h key]
          refine (List.filter_append_perm ofKey _).symm.trans ?_
          rw [hsame]
          exact (hrest.append_left _).trans (List.filter_append_perm ofKey _)

theorem itemsFor_flatMap (f : κ → List ι) {keys : List κ} (hnodup : keys.Nodup)
    (hkeys : ∀ key, key ∉ keys → f key = []) (key : κ) :
    itemsFor key (keys.flatMap fun key => (f key).map (Prod.mk key)) =
      f key := by
  have hin : itemsFor key (keys.flatMap fun key => (f key).map (Prod.mk key)) =
      if key ∈ keys then f key else [] := by
    clear hkeys
    induction keys with
    | nil => rfl
    | cons other keys ih =>
        rw [List.nodup_cons] at hnodup
        rw [List.flatMap_cons, itemsFor_append, itemsFor_map, ih hnodup.2]
        by_cases hother : other = key
        · subst hother
          simp [hnodup.1]
        · simp [hother, Ne.symm hother]
  rw [hin]
  split
  · rfl
  · rename_i hnot
    exact (hkeys key hnot).symm

/-- Everything offered was taken, or refused, or is still waiting. -/
theorem Follows.conserved (h : q.Follows events) :
    ∃ waiting : List (κ × ι), (∀ key, itemsFor key waiting = q.waiting key) ∧
      (q.taken ++ waiting ++ q.refused).Perm
        (events.filterMap QueueEvent.offered) := by
  let accepted := events.filterMap QueueEvent.accepted
  let keys := (accepted.map Prod.fst).dedup
  have hempty : ∀ key, key ∉ keys → q.waiting key = [] := by
    intro key hkey
    have hnone : itemsFor key accepted = [] := by
      rw [itemsFor, List.filter_eq_nil_iff.mpr]
      · rfl
      · intro entry hentry hsame
        rw [beq_iff_eq] at hsame
        exact hkey (List.mem_dedup.mpr (List.mem_map.mpr ⟨entry, hentry, hsame⟩))
    exact (List.append_eq_nil_iff.mp ((h.fifo key).trans hnone)).2
  have hwaiting := itemsFor_flatMap q.waiting (List.nodup_dedup _) hempty
  refine ⟨_, hwaiting, ?_⟩
  have hperm : (q.taken ++ keys.flatMap fun key =>
      (q.waiting key).map (Prod.mk key)).Perm accepted := by
    apply perm_of_itemsFor
    intro key
    rw [itemsFor_append, hwaiting, h.fifo]
  rw [h.refused]
  exact (hperm.append_right _).trans (QueueEvent.accepted_refused_perm events)

end Queues

/-! ## Sums over the classes -/

theorem sum_map_add_nat {α : Type} (f g : α → Nat) (xs : List α) :
    (xs.map fun x => f x + g x).sum = (xs.map f).sum + (xs.map g).sum := by
  induction xs with
  | nil => rfl
  | cons x xs ih =>
      simp only [List.map_cons, List.sum_cons, ih]
      omega

theorem sum_range_ite (k n value : Nat) :
    ((List.range n).map fun other => if k = other then value else 0).sum =
      if k < n then value else 0 := by
  induction n with
  | zero => rfl
  | succ n ih =>
      rw [List.range_succ, List.map_append, List.sum_append_nat, ih]
      rcases Nat.lt_trichotomy k n with hlt | rfl | hgt
      · simp [hlt, Nat.ne_of_lt hlt, Nat.lt_succ_of_lt hlt]
      · simp
      · have hge : ¬ k < n + 1 := by omega
        simp [Nat.not_lt_of_gt hgt, Nat.ne_of_gt hgt, hge]

/-- What the items of all classes weigh together. -/
theorem sum_by_class {α : Type} (key : α → Nat) (p : α → Bool) (weight : α → Nat)
    {n : Nat} {xs : List α} (h : ∀ x ∈ xs, key x < n) :
    ((List.range n).map fun k =>
      ((xs.filter fun x => key x == k && p x).map weight).sum).sum =
      ((xs.filter p).map weight).sum := by
  induction xs with
  | nil =>
      induction n with
      | zero => rfl
      | succ n ih => simp [List.range_succ]
  | cons x xs ih =>
      rw [List.forall_mem_cons] at h
      have hcons : ∀ k,
          (((x :: xs).filter fun x => key x == k && p x).map weight).sum =
            (if key x = k then if p x then weight x else 0 else 0) +
              ((xs.filter fun x => key x == k && p x).map weight).sum := by
        intro k
        by_cases hkey : key x = k <;> cases hp : p x <;>
          simp [hkey, hp]
      simp only [hcons]
      rw [sum_map_add_nat, ih h.2, sum_range_ite, if_pos h.1]
      cases hp : p x <;> simp [hp]

end L2tvpp.Lib
