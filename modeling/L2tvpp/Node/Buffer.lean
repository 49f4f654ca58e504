import L2tvpp.Plugin.State

/-!
# Packet buffers

The first buffer of a packet, as far as the plugin's nodes use it: its memory,
the window of it that is the current data, and the metadata the nodes read and
set.  The window's position is a signed 16-bit number, so an advance past 32767
does not arrive where it points.
-/

namespace L2tvpp.Node

open L2tvpp.Lib
open L2tvpp.Plugin

structure VlibBuffer where
  /-- The bytes of the data area, by their offset from `b->data`. -/
  mem : Int → U8
  currentData : I16
  currentLength : U16
  restLength : U32
  l2HdrOffset : I16
  l3HdrOffset : I16
  l4HdrOffset : I16
  swIfIndexRx : Nat
  swIfIndexTx : Option Nat
  adjIndexTx : Option AdjIndex

/-- The first buffer's contents: `current_length` bytes from `current_data`. -/
def VlibBuffer.current (b : VlibBuffer) : List U8 :=
  (List.range b.currentLength.toNat).map fun offset : Nat =>
    b.mem (b.currentData.toInt + offset)

@[simp] theorem VlibBuffer.length_current (b : VlibBuffer) :
    b.current.length = b.currentLength.toNat := by
  simp [VlibBuffer.current]

def bufferOf (bytes : List U8) : VlibBuffer :=
  ⟨fun offset => bytes.getD offset.toNat 0, 0, BitVec.ofNat 16 bytes.length, 0,
    0, 0, 0, 0, none, none⟩

theorem current_bufferOf {bytes : List U8} (h : bytes.length < 2 ^ 16) :
    (bufferOf bytes).current = bytes := by
  have hlength : (bufferOf bytes).currentLength.toNat = bytes.length :=
    (BitVec.toNat_ofNat ..).trans (Nat.mod_eq_of_lt h)
  apply List.ext_getElem
  · rw [VlibBuffer.length_current, hlength]
  · intro index hleft hright
    simp [VlibBuffer.current, bufferOf, hright]

def vlibBufferAdvance (b : VlibBuffer) (distance : Int) : VlibBuffer :=
  { b with
    currentData := b.currentData + BitVec.ofInt 16 distance
    currentLength := b.currentLength - BitVec.ofInt 16 distance }

def vlibBufferLengthInChain (b : VlibBuffer) : U32 :=
  b.currentLength.setWidth 32 + b.restLength

/-- The byte at `distance` has a position that `current_data` can hold. -/
def VlibBuffer.reaches (b : VlibBuffer) (distance : Nat) : Prop :=
  b.currentData.toInt + distance ≤ 32767

instance (b : VlibBuffer) (distance : Nat) : Decidable (b.reaches distance) :=
  inferInstanceAs (Decidable (_ ≤ _))

theorem VlibBuffer.reaches.mono {b : VlibBuffer} {near far : Nat}
    (h : b.reaches far) (hle : near ≤ far) : b.reaches near := by
  unfold VlibBuffer.reaches at h ⊢
  omega

theorem ofInt_toInt_sub (x y : I16) :
    BitVec.ofInt 16 (x.toInt - y.toInt) = x - y := by
  apply BitVec.eq_of_toInt_eq
  rw [BitVec.toInt_ofInt, BitVec.toInt_sub]

/-- An advance arrives where it points, if that is a position at all. -/
theorem toInt_vlibBufferAdvance_iff (b : VlibBuffer) {distance x : Nat}
    (h : distance < 2 ^ 16) :
    (vlibBufferAdvance b distance).currentData.toInt =
      b.currentData.toInt + x ↔ x = distance ∧ b.reaches distance := by
  have hlow := BitVec.le_toInt b.currentData
  have hsum : (vlibBufferAdvance b distance).currentData.toInt =
      (b.currentData.toInt + distance).bmod (2 ^ 16) := by
    simp only [vlibBufferAdvance, BitVec.toInt_add, BitVec.toInt_ofInt,
      Int.add_bmod_bmod]
  rw [hsum, VlibBuffer.reaches]
  constructor
  · intro hexact
    have hlt : (b.currentData.toInt + distance).bmod (2 ^ 16) <
        ((2 ^ 16 : Nat) + 1) / 2 := Int.bmod_lt (by decide)
    have hturns := Int.bmod_eq_self_sub_mul_bdiv
      (b.currentData.toInt + distance) (2 ^ 16)
    omega
  · rintro ⟨rfl, hreach⟩
    exact Int.bmod_eq_of_le (by omega) (by omega)

theorem toInt_vlibBufferAdvance (b : VlibBuffer) {distance : Nat}
    (h : distance < 2 ^ 16) :
    (vlibBufferAdvance b distance).currentData.toInt =
      b.currentData.toInt + distance ↔ b.reaches distance := by
  rw [toInt_vlibBufferAdvance_iff b h, eq_self, true_and]

theorem current_vlibBufferAdvance (b : VlibBuffer) {distance : Nat}
    (h : distance ≤ b.currentLength.toNat) (hreach : b.reaches distance) :
    (vlibBufferAdvance b distance).current = b.current.drop distance := by
  have hlt := b.currentLength.isLt
  have hlen : (b.currentLength - BitVec.ofInt 16 distance).toNat =
      b.currentLength.toNat - distance := by
    rw [BitVec.ofInt_natCast, BitVec.toNat_sub, BitVec.toNat_ofNat]
    omega
  have hdata := (toInt_vlibBufferAdvance b (h.trans_lt hlt)).mpr hreach
  apply List.ext_getElem
  · rw [VlibBuffer.length_current, List.length_drop,
      VlibBuffer.length_current]
    exact hlen
  · intro index hleft hright
    simp only [VlibBuffer.current, List.getElem_map, List.getElem_range,
      List.getElem_drop, hdata, Int.natCast_add, Int.add_assoc]
    rfl

end L2tvpp.Node
