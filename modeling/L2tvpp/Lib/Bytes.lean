import Mathlib.Algebra.GroupWithZero.Nat
import Mathlib.Data.List.Basic

/-!
# Byte strings and checked reads

A buffer is a list of bytes.  Reads are big-endian and checked: a read of a
byte outside the buffer is a fault, so that a program whose run never faults
has only read inside its buffer.
-/

namespace L2tvpp.Lib

abbrev U8 := BitVec 8
abbrev U16 := BitVec 16
abbrev U32 := BitVec 32
abbrev U64 := BitVec 64

/-- Signed: read with `toInt`. -/
abbrev I16 := BitVec 16

inductive MemFault where
  | outOfBounds (offset : Nat)
  | freedElement (index : Nat)
  deriving DecidableEq, Repr

@[simp] theorem ok_bind {ε α β : Type} (a : α) (next : α → Except ε β) :
    (Except.ok a >>= next) = next a := rfl

theorem ok_of_bind {ε α β : Type} {prog : Except ε α} {next : α → Except ε β}
    {b : β} (h : (prog >>= next) = .ok b) :
    ∃ a, prog = .ok a ∧ next a = .ok b := by
  cases prog with
  | error fault => cases h
  | ok a => exact ⟨a, rfl, h⟩

theorem bind_eq_ok {ε α β : Type} {prog : Except ε α} {next : α → Except ε β}
    {b : β} :
    (prog >>= next) = .ok b ↔ ∃ a, prog = .ok a ∧ next a = .ok b := by
  refine ⟨ok_of_bind, ?_⟩
  rintro ⟨a, rfl, h⟩
  exact h

theorem ok_of_mapError {ε ε' α : Type} {prog : Except ε α} {f : ε → ε'}
    {a : α} (h : prog.mapError f = .ok a) : prog = .ok a := by
  cases prog with
  | error e => cases h
  | ok b =>
      cases h
      rfl

theorem error_of_mapError {ε ε' α : Type} {prog : Except ε α} {f : ε → ε'}
    {error : ε'} (h : prog.mapError f = .error error) :
    ∃ e, prog = .error e ∧ f e = error := by
  cases prog with
  | ok a => cases h
  | error e =>
      cases h
      exact ⟨e, rfl, rfl⟩

def be16 (value : U16) : List U8 :=
  [value.extractLsb' 8 8, value.extractLsb' 0 8]

def be32 (value : U32) : List U8 :=
  [value.extractLsb' 24 8, value.extractLsb' 16 8,
    value.extractLsb' 8 8, value.extractLsb' 0 8]

@[simp] theorem length_be16 (value : U16) : (be16 value).length = 2 := rfl

@[simp] theorem length_be32 (value : U32) : (be32 value).length = 4 := rfl

def readU8 (buffer : List U8) (offset : Nat) : Except MemFault U8 :=
  match buffer[offset]? with
  | some byte => .ok byte
  | none => .error (.outOfBounds offset)

def readU16 (buffer : List U8) (offset : Nat) : Except MemFault U16 := do
  let high ← readU8 buffer offset
  let low ← readU8 buffer (offset + 1)
  pure (high ++ low)

def readU32 (buffer : List U8) (offset : Nat) : Except MemFault U32 := do
  let high ← readU16 buffer offset
  let low ← readU16 buffer (offset + 2)
  pure (high ++ low)

def readBytes (buffer : List U8) : Nat → Nat → Except MemFault (List U8)
  | _, 0 => pure []
  | offset, count + 1 => do
      let byte ← readU8 buffer offset
      let bytes ← readBytes buffer (offset + 1) count
      pure (byte :: bytes)

/-! ## Programs that stay inside their buffer -/

section InBounds

variable {α β : Type}

/-- The program never ends in a read outside its buffer. -/
def InBounds (prog : Except MemFault α) : Prop :=
  ∀ offset, prog ≠ .error (.outOfBounds offset)

/-- The program stays inside its buffer and what it returns satisfies `Q`;
`freed` says whether it may end in an access to a freed element. -/
def SafeRun (freed : Prop) (prog : Except MemFault α) (Q : α → Prop) : Prop :=
  match prog with
  | .ok a => Q a
  | .error (.outOfBounds _) => False
  | .error (.freedElement _) => freed

namespace SafeRun

variable {freed : Prop} {Q : α → Prop} {R : β → Prop}

theorem inBounds {prog : Except MemFault α} (h : SafeRun True prog Q) :
    InBounds prog := by
  intro offset hfault
  rw [hfault] at h
  exact h

theorem post {prog : Except MemFault α} {a : α} (h : SafeRun freed prog Q)
    (ha : prog = .ok a) : Q a := by
  rw [ha] at h
  exact h

theorem returns {prog : Except MemFault α} (h : SafeRun False prog Q) :
    ∃ a, prog = .ok a ∧ Q a := by
  cases hprog : prog with
  | ok a => exact ⟨a, rfl, h.post hprog⟩
  | error fault =>
      rw [hprog] at h
      cases fault <;> exact h.elim

theorem ret {a : α} (h : Q a) : SafeRun freed (pure a) Q := h

theorem freedElement {index : Nat} (h : freed) :
    SafeRun freed (.error (.freedElement index)) Q := h

theorem bind {prog : Except MemFault α} {next : α → Except MemFault β}
    (hprog : SafeRun freed prog Q)
    (hnext : ∀ a, Q a → SafeRun freed (next a) R) :
    SafeRun freed (prog >>= next) R := by
  cases hcase : prog with
  | error fault =>
      rw [hcase] at hprog
      cases fault <;> exact hprog
  | ok a => exact hnext a (hprog.post hcase)

theorem ite {condition : Prop} [Decidable condition]
    {yes no : Except MemFault α} (hyes : condition → SafeRun freed yes Q)
    (hno : ¬ condition → SafeRun freed no Q) :
    SafeRun freed (if condition then yes else no) Q := by
  split
  · exact hyes ‹_›
  · exact hno ‹_›

theorem conseq {prog : Except MemFault α} {Q' : α → Prop}
    (h : SafeRun freed prog Q) (hpost : ∀ a, Q a → Q' a) :
    SafeRun freed prog Q' := by
  cases prog with
  | ok a => exact hpost a h
  | error fault => cases fault <;> exact h

end SafeRun

variable {freed : Prop}

theorem safeRun_readU8 {buffer : List U8} {offset : Nat}
    (h : offset < buffer.length) :
    SafeRun freed (readU8 buffer offset) fun _ => True := by
  simp only [readU8, List.getElem?_eq_getElem h]
  exact SafeRun.ret trivial

theorem safeRun_readU16 {buffer : List U8} {offset : Nat}
    (h : offset + 2 ≤ buffer.length) :
    SafeRun freed (readU16 buffer offset) fun _ => True :=
  SafeRun.bind (safeRun_readU8 (by omega)) fun _ _ =>
    SafeRun.bind (safeRun_readU8 (by omega)) fun _ _ => SafeRun.ret trivial

theorem safeRun_readU32 {buffer : List U8} {offset : Nat}
    (h : offset + 4 ≤ buffer.length) :
    SafeRun freed (readU32 buffer offset) fun _ => True :=
  SafeRun.bind (safeRun_readU16 (by omega)) fun _ _ =>
    SafeRun.bind (safeRun_readU16 (by omega)) fun _ _ => SafeRun.ret trivial

theorem safeRun_readBytes {buffer : List U8} {offset count : Nat}
    (h : offset + count ≤ buffer.length) :
    SafeRun freed (readBytes buffer offset count) fun _ => True := by
  induction count generalizing offset with
  | zero => exact SafeRun.ret trivial
  | succ count ih =>
      exact SafeRun.bind (safeRun_readU8 (by omega)) fun _ _ =>
        SafeRun.bind (ih (by omega)) fun _ _ => SafeRun.ret trivial

end InBounds

/-! ## Reading back what was written -/

theorem readU8_of_getElem? {buffer : List U8} {offset : Nat} {byte : U8}
    (h : buffer[offset]? = some byte) : readU8 buffer offset = .ok byte := by
  simp [readU8, h]

theorem bytes_append (value : U16) :
    value.extractLsb' 8 8 ++ value.extractLsb' 0 8 = value := by
  apply BitVec.eq_of_getLsbD_eq
  intro i hi
  rw [BitVec.getLsbD_append]
  by_cases h : i < 8
  · simp [h]
  · have hsub : 8 + (i - 8) = i := by omega
    have hlt : i - 8 < 8 := by omega
    simp [h, hsub, hlt]

theorem readU8_append_cons (front rest : List U8) (byte : U8)
    {offset : Nat} (h : offset = front.length) :
    readU8 (front ++ byte :: rest) offset = .ok byte := by
  subst h
  exact readU8_of_getElem? (by simp)

theorem readU16_append_be16 (front rest : List U8) (value : U16)
    {offset : Nat} (h : offset = front.length) :
    readU16 (front ++ (be16 value ++ rest)) offset = .ok value := by
  subst h
  have hhigh : readU8 (front ++ (be16 value ++ rest)) front.length =
      .ok (value.extractLsb' 8 8) := readU8_of_getElem? (by simp [be16])
  have hlow : readU8 (front ++ (be16 value ++ rest)) (front.length + 1) =
      .ok (value.extractLsb' 0 8) := readU8_of_getElem? (by simp [be16])
  simp only [readU16, hhigh, hlow]
  exact congrArg Except.ok (bytes_append value)

theorem readBytes_append (front bytes rest : List U8) {offset count : Nat}
    (hoffset : offset = front.length) (hcount : count = bytes.length) :
    readBytes (front ++ (bytes ++ rest)) offset count = .ok bytes := by
  subst hoffset hcount
  induction bytes generalizing front with
  | nil => rfl
  | cons byte bytes ih =>
      have hbyte : readU8 (front ++ (byte :: bytes ++ rest)) front.length =
          .ok byte := readU8_append_cons front (bytes ++ rest) byte rfl
      have hrest := ih (front ++ [byte])
      simp only [List.append_assoc, List.length_append, List.length_singleton]
        at hrest
      simp only [List.length_cons, readBytes, hbyte, ok_bind]
      rw [show front ++ (byte :: bytes ++ rest) =
        front ++ ([byte] ++ (bytes ++ rest)) from rfl, hrest]
      rfl

/-! ## Reading behind a front part -/

section Shift

variable (front rest : List U8)

theorem readU8_append_add {offset : Nat} (h : offset < rest.length) :
    readU8 (front ++ rest) (front.length + offset) = readU8 rest offset := by
  have hbyte : rest[offset]? = some rest[offset] :=
    List.getElem?_eq_getElem h
  rw [readU8_of_getElem? hbyte]
  apply readU8_of_getElem?
  rw [List.getElem?_append_right (by omega), Nat.add_sub_cancel_left]
  exact hbyte

theorem readU16_append_add {offset : Nat} (h : offset + 2 ≤ rest.length) :
    readU16 (front ++ rest) (front.length + offset) = readU16 rest offset := by
  simp only [readU16, Nat.add_assoc]
  rw [readU8_append_add front rest (by omega),
    readU8_append_add front rest (by omega)]

theorem readBytes_append_add {offset count : Nat}
    (h : offset + count ≤ rest.length) :
    readBytes (front ++ rest) (front.length + offset) count =
      readBytes rest offset count := by
  induction count generalizing offset with
  | zero => rfl
  | succ count ih =>
      simp only [readBytes, Nat.add_assoc]
      rw [readU8_append_add front rest (by omega), ih (by omega)]

end Shift

/-! ## Reading in a front part -/

section Front

variable {front buffer : List U8} (h : front <+: buffer)

include h

theorem readU8_of_front {offset : Nat} (hoffset : offset < front.length) :
    readU8 buffer offset = readU8 front offset := by
  obtain ⟨rest, rfl⟩ := h
  simp only [readU8, List.getElem?_append_left hoffset]

theorem readU16_of_front {offset : Nat} (hoffset : offset + 2 ≤ front.length) :
    readU16 buffer offset = readU16 front offset := by
  simp only [readU16, readU8_of_front h (show offset < front.length by omega),
    readU8_of_front h (show offset + 1 < front.length by omega)]

theorem readU32_of_front {offset : Nat} (hoffset : offset + 4 ≤ front.length) :
    readU32 buffer offset = readU32 front offset := by
  simp only [readU32,
    readU16_of_front h (show offset + 2 ≤ front.length by omega),
    readU16_of_front h (show offset + 2 + 2 ≤ front.length by omega)]

theorem readBytes_of_front {offset count : Nat}
    (hoffset : offset + count ≤ front.length) :
    readBytes buffer offset count = readBytes front offset count := by
  induction count generalizing offset with
  | zero => rfl
  | succ count ih =>
      simp only [readBytes,
        readU8_of_front h (show offset < front.length by omega),
        ih (show offset + 1 + count ≤ front.length by omega)]

end Front

theorem readU16_lt_length {buffer : List U8} {offset : Nat} {value : U16}
    (h : readU16 buffer offset = .ok value) : offset + 2 ≤ buffer.length := by
  obtain ⟨high, -, h⟩ := ok_of_bind h
  obtain ⟨low, hlow, -⟩ := ok_of_bind h
  by_contra hshort
  simp [readU8, List.getElem?_eq_none (show buffer.length ≤ offset + 1 by
    omega)] at hlow

theorem toNat_append_bytes (high low : U8) :
    (high ++ low).toNat = high.toNat * 256 + low.toNat := by
  rw [BitVec.toNat_append, ← Nat.shiftLeft_add_eq_or_of_lt low.isLt,
    Nat.shiftLeft_eq]

theorem be16_append (high low : U8) : be16 (high ++ low) = [high, low] := by
  simp only [be16, BitVec.extractLsb'_append_eq_left,
    BitVec.extractLsb'_append_eq_right]

theorem readU16_iff_take {buffer : List U8} {offset : Nat} {value : U16} :
    readU16 buffer offset = .ok value ↔
      (buffer.drop offset).take 2 = be16 value := by
  constructor
  · intro h
    have hlength := readU16_lt_length h
    simp only [readU16, readU8, List.getElem?_eq_getElem
      (show offset < buffer.length by omega), List.getElem?_eq_getElem
      (show offset + 1 < buffer.length by omega)] at h
    cases h
    rw [be16_append, List.drop_eq_getElem_cons (by omega),
      List.drop_eq_getElem_cons (by omega)]
    rfl
  · intro h
    have hlength := congrArg List.length h
    simp only [List.length_take, List.length_drop, length_be16] at hlength
    have hread := readU16_append_be16 (buffer.take offset)
      ((buffer.drop offset).drop 2) value
      (show offset = (buffer.take offset).length by simp; omega)
    rwa [← h, List.take_append_drop, List.take_append_drop] at hread

theorem readU16_drop {buffer : List U8} {distance offset : Nat} {value : U16} :
    readU16 (buffer.drop distance) offset = .ok value ↔
      readU16 buffer (distance + offset) = .ok value := by
  simp only [readU16_iff_take, List.drop_drop]

theorem drop_of_readU16 {buffer : List U8} {offset : Nat} {value : U16}
    (h : readU16 buffer offset = .ok value) :
    buffer.drop offset = be16 value ++ buffer.drop (offset + 2) := by
  rw [← readU16_iff_take.mp h, ← List.drop_drop, List.take_append_drop]

theorem drop_of_readU8 {buffer : List U8} {offset : Nat} {byte : U8}
    (h : readU8 buffer offset = .ok byte) :
    buffer.drop offset = byte :: buffer.drop (offset + 1) := by
  unfold readU8 at h
  split at h
  · rename_i found hfound
    cases h
    obtain ⟨hlt, rfl⟩ := List.getElem?_eq_some_iff.mp hfound
    exact List.drop_eq_getElem_cons hlt
  · contradiction

end L2tvpp.Lib
