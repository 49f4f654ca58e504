import L2tvpp.Plugin.Route
import L2tvpp.Node.FlowHandoff

/-!
# l2tvpp-encap-fastpath

A device-input feature on the uplink: plain IPv4 to a cached subscriber goes
straight to `ip4-midchain`, everything else to `ethernet-input` untouched.  The
end of the module collects what all packet walks of the plugin have in common:
they read inside the buffer and never advance past its end.
-/

namespace L2tvpp.Node

open L2tvpp.Lib
open L2tvpp.Plugin

/-- The destination of a plain IPv4 frame and the bytes of L2 to strip. -/
def l2tvppEncapPeekDst (buffer : List U8) (stop : Nat) :
    Except MemFault (Option (U32 × U16)) := do
  if 14 > stop then pure none
  else
    let type ← readU16 buffer 12
    if type = ethernetTypeVlan then pure none
    else if type ≠ ethernetTypeIp4 then pure none
    else if 14 + 20 > stop then pure none
    else
      let version ← readU8 buffer 14
      if version ≠ 0x45 then pure none
      else
        let fragment ← readU16 buffer (14 + 6)
        if ip4GetFragmentOffset fragment ≠ 0 ∨ ip4GetFragmentMore fragment ≠ 0
        then pure none
        else
          let dst ← readU32 buffer (14 + 16)
          pure (some (dst, 14))

inductive EncapFpNext where
  | ethernetInput
  | ip4Midchain
  deriving DecidableEq, Repr

structure EncapFpResult where
  buffer : VlibBuffer
  next : EncapFpNext
  dst : U32
  hit : Bool

/-- As `ip4-lookup` would deliver it: L2 stripped, the adjacency set. -/
def midchainBuffer (b : VlibBuffer) (l2Len : U16) (ai : AdjIndex) :
    VlibBuffer :=
  { vlibBufferAdvance b l2Len.toNat with adjIndexTx := some ai }

def l2tvppEncapFastpath (lm : L2tvppMain) (b : VlibBuffer) :
    Except MemFault EncapFpResult := do
  if !lm.encapAdjInit then pure ⟨b, .ethernetInput, 0, false⟩
  else
    match ← l2tvppEncapPeekDst b.current b.currentLength.toNat with
    | none => pure ⟨b, .ethernetInput, 0, false⟩
    | some (dst, l2Len) =>
        match lm.encapAdjByIp4.lookup (encapKey dst) with
        | none => pure ⟨b, .ethernetInput, dst, false⟩
        | some ai => pure ⟨midchainBuffer b l2Len ai, .ip4Midchain, dst, true⟩

variable {freed : Prop}

theorem safeRun_l2tvppEncapPeekDst {buffer : List U8} {stop : Nat}
    (h : stop ≤ buffer.length) :
    SafeRun freed (l2tvppEncapPeekDst buffer stop) fun result =>
      ∀ dst l2Len, result = some (dst, l2Len) → l2Len.toNat + 20 ≤ stop := by
  refine SafeRun.ite (fun _ => SafeRun.ret (by simp)) fun _ => ?_
  refine SafeRun.bind (safeRun_readU16 (by omega)) fun _ _ => ?_
  refine SafeRun.ite (fun _ => SafeRun.ret (by simp)) fun _ => ?_
  refine SafeRun.ite (fun _ => SafeRun.ret (by simp)) fun _ => ?_
  refine SafeRun.ite (fun _ => SafeRun.ret (by simp)) fun hfits => ?_
  refine SafeRun.bind (safeRun_readU8 (by omega)) fun _ _ => ?_
  refine SafeRun.ite (fun _ => SafeRun.ret (by simp)) fun _ => ?_
  refine SafeRun.bind (safeRun_readU16 (by omega)) fun _ _ => ?_
  refine SafeRun.ite (fun _ => SafeRun.ret (by simp)) fun _ => ?_
  refine SafeRun.bind (safeRun_readU32 (by omega)) fun dst _ => ?_
  refine SafeRun.ret fun dst' l2Len heq => ?_
  cases heq
  change 14 + 20 ≤ stop
  omega

theorem safeRun_l2tvppEncapFastpath (lm : L2tvppMain) (b : VlibBuffer) :
    SafeRun freed (l2tvppEncapFastpath lm b) fun result =>
      result.next = .ip4Midchain →
        ∃ l2Len ai, result.buffer = midchainBuffer b l2Len ai ∧
          l2Len.toNat ≤ b.currentLength.toNat := by
  refine SafeRun.ite (fun _ => SafeRun.ret (by simp)) fun _ => ?_
  refine SafeRun.bind (safeRun_l2tvppEncapPeekDst (by simp))
    fun peeked hpeeked => ?_
  cases peeked with
  | none => exact SafeRun.ret (by simp)
  | some entry =>
      obtain ⟨dst, l2Len⟩ := entry
      dsimp only
      split
      · exact SafeRun.ret (by simp)
      · rename_i ai _
        have hinside := hpeeked dst l2Len rfl
        exact SafeRun.ret fun _ => ⟨l2Len, ai, rfl, by omega⟩

theorem l2tvppEncapFastpath_midchain {lm : L2tvppMain} {b : VlibBuffer}
    {result : EncapFpResult} (h : l2tvppEncapFastpath lm b = .ok result)
    (hnext : result.next = .ip4Midchain) :
    ∃ l2Len ai, l2tvppEncapPeekDst b.current b.currentLength.toNat =
        .ok (some (result.dst, l2Len)) ∧
      result.buffer.adjIndexTx = some ai ∧
      lm.encapAdjByIp4.lookup (encapKey result.dst) = some ai := by
  unfold l2tvppEncapFastpath at h
  split at h
  · cases h
    cases hnext
  · cases hpeek : l2tvppEncapPeekDst b.current b.currentLength.toNat with
    | error fault =>
        rw [hpeek] at h
        cases h
    | ok peeked =>
        rw [hpeek] at h
        cases peeked with
        | none =>
            cases h
            cases hnext
        | some entry =>
            obtain ⟨dst, l2Len⟩ := entry
            change (match lm.encapAdjByIp4.lookup (encapKey dst) with
              | none => _
              | some ai => _) = _ at h
            split at h
            · cases h
              cases hnext
            · rename_i ai hai
              cases h
              exact ⟨l2Len, ai, rfl, rfl, hai⟩

/-! ## No walk leaves its buffer -/

/-- Every read of the four packet walks lies inside the first buffer, and no
advance of a buffer exceeds its current length. -/
theorem packetWalks_inBounds (lm : L2tvppMain) (b : VlibBuffer) :
    (InBounds (l2tvppInput lm b) ∧
      ∀ result, l2tvppInput lm b = .ok result → DecapInside b result) ∧
    (∀ nWorkers thisThread, InBounds (l2tvppHandoff nWorkers thisThread b)) ∧
    (∀ (crc32c : List U8 → U32) (fastpath wantHash : Bool),
      InBounds (l2tvppFlowClassify crc32c lm fastpath wantHash b) ∧
      ∀ c, l2tvppFlowClassify crc32c lm fastpath wantHash b = .ok c →
        c.kind = .fast → c.l2tpOffset.toNat ≤ b.currentLength.toNat) ∧
    (∀ (crc32c : List U8 → U32) (ifd : FlowHandoffIf) (thisThread : U16),
      InBounds (l2tvppFlowHandoff crc32c lm ifd thisThread b) ∧
      ∀ result, l2tvppFlowHandoff crc32c lm ifd thisThread b = .ok result →
        result.1.next = .l2tvppInput →
        ∃ arrived l2tpOffset, arrived.current = b.current ∧
          result.1.buffer = fastBuffer arrived l2tpOffset ∧
          l2tpOffset.toNat ≤ b.currentLength.toNat) ∧
    InBounds (l2tvppEncapPeekDst b.current b.currentLength.toNat) ∧
    (∀ result, l2tvppEncapFastpath lm b = .ok result →
      result.next = .ip4Midchain →
      ∃ l2Len ai, result.buffer = midchainBuffer b l2Len ai ∧
        l2Len.toNat ≤ b.currentLength.toNat) := by
  have hinput : SafeRun True (l2tvppInput lm b) (DecapInside b) :=
    safeRun_l2tvppInput b fun _ _ _ _ => trivial
  have hfast : SafeRun True (l2tvppEncapFastpath lm b) _ :=
    safeRun_l2tvppEncapFastpath lm b
  refine ⟨⟨hinput.inBounds, fun _ => hinput.post⟩, ?_, ?_, ?_, ?_,
    fun _ => hfast.post⟩
  · intro nWorkers thisThread
    exact (safeRun_l2tvppHandoff nWorkers thisThread b).inBounds
  · intro crc32c fastpath wantHash
    have hclassify : SafeRun True _ (FastInside b) :=
      safeRun_l2tvppFlowClassify crc32c lm fastpath wantHash b
    exact ⟨hclassify.inBounds, fun c hc => (hclassify.post hc).2⟩
  · intro crc32c ifd thisThread
    have hnode : SafeRun True _ _ :=
      safeRun_l2tvppFlowHandoff crc32c lm ifd thisThread b
    exact ⟨hnode.inBounds, fun _ => hnode.post⟩
  · exact (safeRun_l2tvppEncapPeekDst (by simp)).inBounds

end L2tvpp.Node
