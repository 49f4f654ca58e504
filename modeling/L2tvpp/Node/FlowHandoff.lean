import L2tvpp.Node.Input

/-!
# l2tvpp-flow-handoff

A device-input feature that classifies a frame from its Ethernet header on, and
picks the worker it goes to.  CRC-32C is a parameter: nothing depends on which
function of the flow key the hash is.
-/

namespace L2tvpp.Node

open L2tvpp.Lib
open L2tvpp.Plugin

def ethernetTypeIp4 : U16 := 0x0800
def ethernetTypeIp6 : U16 := 0x86dd
def ethernetTypeVlan : U16 := 0x8100
def ipProtocolTcp : U8 := 6
def ipProtocolUdp : U8 := 17
def l2tvppUdpPort : U16 := 1701

def ip4HeaderBytes (versionAndLength : U8) : Nat :=
  4 * (versionAndLength &&& 0xf).toNat

def ip4GetFragmentOffset (flagsAndOffset : U16) : U16 :=
  flagsAndOffset &&& 0x1fff

def ip4GetFragmentMore (flagsAndOffset : U16) : U16 :=
  flagsAndOffset &&& 0x2000

def ip4HeaderChecksumIsValid (header : List U8) : Bool :=
  (header.drop 10).take 2 == native16 (ip4HeaderChecksum header)

/-! ## The flow hash -/

section Hash

variable (crc32c : List U8 → U32)

/-- The bytes of a flow key; the fields not filled in are zero. -/
def l2tvppFlowKey (src dst ports : List U8) (proto : U8) : List U8 :=
  src ++ List.replicate (16 - src.length) 0 ++
    (dst ++ List.replicate (16 - dst.length) 0) ++
    (ports ++ List.replicate (4 - ports.length) 0) ++ [proto, 0, 0, 0]

/-- The ports count for TCP and UDP when they lie before `stop`. -/
def hashFlow (buffer : List U8) (src dst : List U8) (proto : U8)
    (l4 stop : Nat) : Except MemFault (Option U32) := do
  if (proto == ipProtocolUdp || proto == ipProtocolTcp) && l4 + 4 ≤ stop then
    let ports ← readBytes buffer l4 4
    pure (some (crc32c (l2tvppFlowKey src dst ports proto)))
  else pure (some (crc32c (l2tvppFlowKey src dst [] proto)))

def l2tvppHashIp (buffer : List U8) (p stop : Nat) :
    Except MemFault (Option U32) := do
  if p + 1 > stop then pure none
  else
    let first ← readU8 buffer p
    if first >>> 4 = 4 then
      if p + 20 > stop then pure none
      else
        let src ← readBytes buffer (p + 12) 4
        let dst ← readBytes buffer (p + 16) 4
        let proto ← readU8 buffer (p + 9)
        let fragment ← readU16 buffer (p + 6)
        -- only the first fragment carries ports
        let l4 :=
          if ip4GetFragmentOffset fragment ≠ 0 then stop
          else p + ip4HeaderBytes first
        hashFlow crc32c buffer src dst proto l4 stop
    else if first >>> 4 = 6 then
      if p + 40 > stop then pure none
      else
        let src ← readBytes buffer (p + 8) 16
        let dst ← readBytes buffer (p + 24) 16
        let proto ← readU8 buffer (p + 6)
        hashFlow crc32c buffer src dst proto (p + 40) stop
    else pure none

end Hash

/-! ## Classification -/

inductive FlowKind where
  | localThread
  | outer
  | inner
  | fast
  deriving DecidableEq, Repr

/-- The kind of a frame, its hash (zero if none was computed), the offset of
the L2TP header (zero unless `fast`) and the buffer with its header offsets. -/
structure Classified where
  kind : FlowKind
  hash : U32
  l2tpOffset : U16
  buffer : VlibBuffer

def l2tvppIsLocalIp4 (lm : L2tvppMain) (addr : U32) : Bool :=
  lm.localIp4s.any (· == addr)

/-- Everything `ip4-input`, `ip4-lookup` and `ip4-receive` would check of the
header at `p`. -/
def fastEligible (lm : L2tvppMain) (buffer : List U8) (p stop : Nat)
    (fastpath tagged : Bool) : Except MemFault Bool := do
  if !fastpath || tagged then pure false
  else
    let version ← readU8 buffer p
    if version ≠ 0x45 then pure false
    else
      let length ← readU16 buffer (p + 2)
      if length.toNat > stop - p || length.toNat < 34 then pure false
      else
        let header ← readBytes buffer p 20
        if !ip4HeaderChecksumIsValid header then pure false
        else
          let dst ← readU32 buffer (p + 16)
          pure (l2tvppIsLocalIp4 lm dst)

/-- What `ethernet-input` and `ip4-input` would have recorded. -/
def recordOffsets (b : VlibBuffer) (p udp : Nat) : VlibBuffer :=
  { b with
    l2HdrOffset := b.currentData
    l3HdrOffset := b.currentData + BitVec.ofNat 16 p
    l4HdrOffset := b.currentData + BitVec.ofNat 16 udp }

/-! The walk from the session id to the inner packet is written once more in
the classifier, and not shared with `l2tvpp-input`; nothing is its
`goto outer`. -/

def flowPppProtocol (buffer : List U8) (cur : Nat) :
    Except MemFault (Option Nat) := do
  let first ← readU8 buffer cur
  if first &&& 1 != 0 then
    if first ≠ pppProtoIp4.setWidth 8 ∧ first ≠ pppProtoIp6.setWidth 8 then
      pure none
    else pure (some (cur + 1))
  else
    let pp ← readU16 buffer cur
    if pp ≠ pppProtoIp4 ∧ pp ≠ pppProtoIp6 then pure none
    else pure (some (cur + 2))

def flowPpp (buffer : List U8) (cur stop : Nat) :
    Except MemFault (Option Nat) := do
  if cur + 4 > stop then pure none
  else
    let address ← readU8 buffer cur
    if address == 0xff then
      let control ← readU8 buffer (cur + 1)
      if control == 0x03 then flowPppProtocol buffer (cur + 2)
      else flowPppProtocol buffer cur
    else flowPppProtocol buffer cur

def flowWalk (buffer : List U8) (flags : U16) (cur stop : Nat) :
    Except MemFault (Option Nat) := do
  let cur := if hasFlag flags l2tvppHdrS then cur + 4 else cur
  if hasFlag flags l2tvppHdrO then
    if cur + 2 > stop then pure none
    else
      let size ← readU16 buffer cur
      flowPpp buffer (cur + (2 + size.toNat)) stop
  else flowPpp buffer cur stop

section Classify

variable (hashIp : List U8 → Nat → Nat → Except MemFault (Option U32))
  (lm : L2tvppMain) (fastpath wantHash : Bool)

/-- The end of the source's function: hash the outer header at `p`. -/
def classifyOuter (b : VlibBuffer) (p : Nat) (l2tpOffset : U16) :
    Except MemFault Classified := do
  if !wantHash then pure ⟨.outer, 0, l2tpOffset, b⟩
  else
    match ← hashIp b.current p b.currentLength.toNat with
    | some hash => pure ⟨.outer, hash, l2tpOffset, b⟩
    | none => pure ⟨.localThread, 0, l2tpOffset, b⟩

def classifyInner (b : VlibBuffer) (p l2tp : Nat) (flags : U16) (off : Nat)
    (fast : Bool) (l2tpOffset : U16) : Except MemFault Classified := do
  let stop := b.currentLength.toNat
  match ← flowWalk b.current flags (l2tp + off) stop with
  | none => classifyOuter hashIp wantHash b p l2tpOffset
  | some cur =>
      match ← hashIp b.current cur stop with
      | some hash =>
          pure ⟨if fast then .fast else .inner, hash, l2tpOffset, b⟩
      | none =>
          if fast then pure ⟨.fast, 0, l2tpOffset, b⟩
          else classifyOuter hashIp wantHash b p l2tpOffset

def classifyData (b : VlibBuffer) (p udp l2tp : Nat) (tagged : Bool)
    (flags : U16) (off : Nat) : Except MemFault Classified := do
  let fast ← fastEligible lm b.current p b.currentLength.toNat fastpath tagged
  let l2tpOffset : U16 := if fast then BitVec.ofNat 16 l2tp else 0
  let b := if fast then recordOffsets b p udp else b
  if !wantHash then pure ⟨if fast then .fast else .inner, 0, l2tpOffset, b⟩
  else classifyInner hashIp wantHash b p l2tp flags off fast l2tpOffset

def classifyIp4 (b : VlibBuffer) (p : Nat) (tagged : Bool) :
    Except MemFault Classified := do
  let buffer := b.current
  let stop := b.currentLength.toNat
  if p + 20 > stop then pure ⟨.localThread, 0, 0, b⟩
  else
    let proto ← readU8 buffer (p + 9)
    let fragment ← readU16 buffer (p + 6)
    if proto ≠ ipProtocolUdp ∨ ip4GetFragmentOffset fragment ≠ 0 ∨
        ip4GetFragmentMore fragment ≠ 0 then
      classifyOuter hashIp wantHash b p 0
    else
      let version ← readU8 buffer p
      let udp := p + ip4HeaderBytes version
      if udp + 8 > stop then classifyOuter hashIp wantHash b p 0
      else
        let dstPort ← readU16 buffer (udp + 2)
        let l2tp := udp + 8
        if dstPort ≠ l2tvppUdpPort ∨ l2tp + 6 > stop then
          classifyOuter hashIp wantHash b p 0
        else
          match ← l2tvppParseHdr buffer l2tp (stop - l2tp) with
          | .data flags _ _ off =>
              classifyData hashIp lm fastpath wantHash b p udp l2tp tagged
                flags off
          | .tooShort => classifyOuter hashIp wantHash b p 0
          -- control, or not version 2
          | _ => pure ⟨.localThread, 0, 0, b⟩

def classifyType (b : VlibBuffer) (type : U16) (p : Nat) (tagged : Bool) :
    Except MemFault Classified :=
  if type = ethernetTypeIp4 then
    classifyIp4 hashIp lm fastpath wantHash b p tagged
  else if type = ethernetTypeIp6 then classifyOuter hashIp wantHash b p 0
  else pure ⟨.localThread, 0, 0, b⟩

def classifyFrame (b : VlibBuffer) : Except MemFault Classified := do
  let stop := b.currentLength.toNat
  if 14 > stop then pure ⟨.localThread, 0, 0, b⟩
  else
    let type ← readU16 b.current 12
    if type = ethernetTypeVlan then
      if 18 > stop then pure ⟨.localThread, 0, 0, b⟩
      else
        let type ← readU16 b.current 16
        classifyType hashIp lm fastpath wantHash b type 18 true
    else classifyType hashIp lm fastpath wantHash b type 14 false

end Classify

def l2tvppFlowClassify (crc32c : List U8 → U32) (lm : L2tvppMain)
    (fastpath wantHash : Bool) (b : VlibBuffer) : Except MemFault Classified :=
  classifyFrame (l2tvppHashIp crc32c) lm fastpath wantHash b

/-! ## The node -/

structure FlowHandoffIf where
  workers : List U16
  rr : U32
  enabled : Bool
  fastpath : Bool
  spray : Bool
  deriving DecidableEq, Repr

inductive FlowNext where
  | ethernetInput
  | l2tvppInput
  deriving DecidableEq, Repr

structure FlowResult where
  buffer : VlibBuffer
  kind : FlowKind
  hash : U32
  thread : U16
  next : FlowNext

def isPow2 (n : Nat) : Bool := n &&& (n - 1) == 0

theorem isPow2_iff {n : Nat} (hpos : 0 < n) :
    isPow2 n = true ↔ n.isPowerOfTwo := by
  rw [isPow2, beq_iff_eq]
  exact Nat.and_sub_one_eq_zero_iff_isPowerOfTwo (Nat.ne_of_gt hpos)

def flowThread (ifd : FlowHandoffIf) (thisThread : U16) (kind : FlowKind)
    (hash : U32) : U16 × U32 :=
  let nw := ifd.workers.length
  if kind = .localThread ∨ nw = 0 then (thisThread, ifd.rr)
  else if ifd.spray then
    (ifd.workers.getD (ifd.rr.toNat % nw) 0, ifd.rr + 1)
  else if nw = 1 then (ifd.workers.getD 0 0, ifd.rr)
  else
    let index :=
      if isPow2 nw then hash.toNat &&& (nw - 1) else hash.toNat % nw
    (ifd.workers.getD index 0, ifd.rr)

def fastBuffer (b : VlibBuffer) (l2tpOffset : U16) : VlibBuffer :=
  { vlibBufferAdvance b l2tpOffset.toNat with swIfIndexTx := none }

def l2tvppFlowHandoff (crc32c : List U8 → U32) (lm : L2tvppMain)
    (ifd : FlowHandoffIf) (thisThread : U16) (b : VlibBuffer) :
    Except MemFault (FlowResult × FlowHandoffIf) := do
  let wantHash := !ifd.spray && decide (ifd.workers.length > 1)
  let c ← l2tvppFlowClassify crc32c lm ifd.fastpath wantHash b
  let (thread, rr) := flowThread ifd thisThread c.kind c.hash
  let result : FlowResult :=
    if c.kind = .fast then
      ⟨fastBuffer c.buffer c.l2tpOffset, c.kind, c.hash, thread, .l2tvppInput⟩
    else ⟨c.buffer, c.kind, c.hash, thread, .ethernetInput⟩
  pure (result, { ifd with rr := rr })

/-! ## Reads and advances -/

section Bounds

variable {freed : Prop} (crc32c : List U8 → U32)

theorem safeRun_hashFlow {buffer src dst : List U8} {proto : U8}
    {l4 stop : Nat} (h : stop ≤ buffer.length) :
    SafeRun freed (hashFlow crc32c buffer src dst proto l4 stop) fun _ => True := by
  refine SafeRun.ite (fun hports => ?_) fun _ => SafeRun.ret trivial
  simp only [Bool.and_eq_true, decide_eq_true_eq] at hports
  exact SafeRun.bind (safeRun_readBytes (by omega)) fun _ _ =>
    SafeRun.ret trivial

theorem safeRun_l2tvppHashIp {buffer : List U8} {p stop : Nat}
    (h : stop ≤ buffer.length) :
    SafeRun freed (l2tvppHashIp crc32c buffer p stop) fun _ => True := by
  refine SafeRun.ite (fun _ => SafeRun.ret trivial) fun _ => ?_
  refine SafeRun.bind (safeRun_readU8 (by omega)) fun first _ => ?_
  refine SafeRun.ite (fun _ => ?_) fun _ => ?_
  · refine SafeRun.ite (fun _ => SafeRun.ret trivial) fun hfits => ?_
    refine SafeRun.bind (safeRun_readBytes (by omega)) fun _ _ => ?_
    refine SafeRun.bind (safeRun_readBytes (by omega)) fun _ _ => ?_
    refine SafeRun.bind (safeRun_readU8 (by omega)) fun _ _ => ?_
    refine SafeRun.bind (safeRun_readU16 (by omega)) fun _ _ => ?_
    exact safeRun_hashFlow crc32c h
  · refine SafeRun.ite (fun _ => ?_) fun _ => SafeRun.ret trivial
    refine SafeRun.ite (fun _ => SafeRun.ret trivial) fun hfits => ?_
    refine SafeRun.bind (safeRun_readBytes (by omega)) fun _ _ => ?_
    refine SafeRun.bind (safeRun_readBytes (by omega)) fun _ _ => ?_
    refine SafeRun.bind (safeRun_readU8 (by omega)) fun _ _ => ?_
    exact safeRun_hashFlow crc32c h

theorem safeRun_fastEligible {lm : L2tvppMain} {buffer : List U8}
    {p stop : Nat} {fastpath tagged : Bool} (hp : p + 20 ≤ buffer.length) :
    SafeRun freed (fastEligible lm buffer p stop fastpath tagged)
      fun _ => True := by
  refine SafeRun.ite (fun _ => SafeRun.ret trivial) fun _ => ?_
  refine SafeRun.bind (safeRun_readU8 (by omega)) fun _ _ => ?_
  refine SafeRun.ite (fun _ => SafeRun.ret trivial) fun _ => ?_
  refine SafeRun.bind (safeRun_readU16 (by omega)) fun _ _ => ?_
  refine SafeRun.ite (fun _ => SafeRun.ret trivial) fun _ => ?_
  refine SafeRun.bind (safeRun_readBytes (by omega)) fun _ _ => ?_
  refine SafeRun.ite (fun _ => SafeRun.ret trivial) fun _ => ?_
  exact SafeRun.bind (safeRun_readU32 (by omega)) fun _ _ => SafeRun.ret trivial

theorem safeRun_flowPppProtocol {buffer : List U8} {cur : Nat}
    (h : cur + 2 ≤ buffer.length) :
    SafeRun freed (flowPppProtocol buffer cur) fun _ => True := by
  refine SafeRun.bind (safeRun_readU8 (by omega)) fun _ _ => ?_
  refine SafeRun.ite (fun _ => ?_) fun _ => ?_
  · exact SafeRun.ite (fun _ => SafeRun.ret trivial) fun _ => SafeRun.ret trivial
  · refine SafeRun.bind (safeRun_readU16 h) fun _ _ => ?_
    exact SafeRun.ite (fun _ => SafeRun.ret trivial) fun _ => SafeRun.ret trivial

theorem safeRun_flowPpp {buffer : List U8} {cur stop : Nat}
    (h : stop ≤ buffer.length) :
    SafeRun freed (flowPpp buffer cur stop) fun _ => True := by
  refine SafeRun.ite (fun _ => SafeRun.ret trivial) fun hfits => ?_
  refine SafeRun.bind (safeRun_readU8 (by omega)) fun _ _ => ?_
  refine SafeRun.ite (fun _ => ?_) fun _ => safeRun_flowPppProtocol (by omega)
  refine SafeRun.bind (safeRun_readU8 (by omega)) fun _ _ => ?_
  exact SafeRun.ite (fun _ => safeRun_flowPppProtocol (by omega))
    fun _ => safeRun_flowPppProtocol (by omega)

theorem safeRun_flowWalk {buffer : List U8} {flags : U16} {cur stop : Nat}
    (h : stop ≤ buffer.length) :
    SafeRun freed (flowWalk buffer flags cur stop) fun _ => True := by
  refine SafeRun.ite (fun _ => ?_) fun _ => safeRun_flowPpp h
  refine SafeRun.ite (fun _ => SafeRun.ret trivial) fun hfield => ?_
  exact SafeRun.bind (safeRun_readU16 (by omega)) fun _ _ => safeRun_flowPpp h

/-- The L2TP header of a fast frame lies inside the buffer, and classifying
does not move the buffer. -/
def FastInside (b : VlibBuffer) (c : Classified) : Prop :=
  c.buffer.current = b.current ∧
    (c.kind = .fast → c.l2tpOffset.toNat ≤ b.currentLength.toNat)

variable (lm : L2tvppMain) (fastpath wantHash : Bool)

theorem safeRun_classifyOuter (b : VlibBuffer) (p : Nat) (l2tpOffset : U16) :
    SafeRun freed (classifyOuter (l2tvppHashIp crc32c) wantHash b p l2tpOffset)
      (FastInside b) := by
  refine SafeRun.ite (fun _ => SafeRun.ret ⟨rfl, by simp⟩) fun _ => ?_
  refine SafeRun.bind (safeRun_l2tvppHashIp crc32c (by simp)) fun hash _ => ?_
  cases hash with
  | none => exact SafeRun.ret ⟨rfl, by simp⟩
  | some hash => exact SafeRun.ret ⟨rfl, by simp⟩

theorem safeRun_classifyInner (b : VlibBuffer) (p l2tp : Nat) (flags : U16)
    (off : Nat) (fast : Bool) {l2tpOffset : U16}
    (h : fast = true → l2tpOffset.toNat ≤ b.currentLength.toNat) :
    SafeRun freed (classifyInner (l2tvppHashIp crc32c) wantHash b p l2tp flags
      off fast l2tpOffset) (FastInside b) := by
  have houter : SafeRun freed _ (FastInside b) :=
    safeRun_classifyOuter crc32c wantHash b p l2tpOffset
  have hfast : ∀ hash, FastInside b
      ⟨if fast then .fast else .inner, hash, l2tpOffset, b⟩ := by
    intro hash
    refine ⟨rfl, ?_⟩
    cases hcase : fast with
    | false => simp
    | true => exact fun _ => h hcase
  refine SafeRun.bind (safeRun_flowWalk (by simp)) fun walked _ => ?_
  cases walked with
  | none => exact houter
  | some cur =>
      refine SafeRun.bind (safeRun_l2tvppHashIp crc32c (by simp))
        fun hash _ => ?_
      cases hash with
      | some hash => exact SafeRun.ret (hfast hash)
      | none =>
          refine SafeRun.ite (fun hyes => SafeRun.ret ?_) fun _ => houter
          have hzero := hfast 0
          rwa [if_pos hyes] at hzero

theorem safeRun_classifyData (b : VlibBuffer) (p udp l2tp : Nat)
    (tagged : Bool) (flags : U16) (off : Nat)
    (hp : p + 20 ≤ b.currentLength.toNat)
    (hl2tp : l2tp ≤ b.currentLength.toNat) :
    SafeRun freed
      (classifyData (l2tvppHashIp crc32c) lm fastpath wantHash b p udp l2tp
        tagged flags off)
      (FastInside b) := by
  refine SafeRun.bind (safeRun_fastEligible (by simpa using hp))
    fun fast _ => ?_
  have hlt := b.currentLength.isLt
  have hoffset : (BitVec.ofNat 16 l2tp).toNat = l2tp := by
    rw [BitVec.toNat_ofNat, Nat.mod_eq_of_lt (by omega)]
  cases fast with
  | false =>
      refine SafeRun.ite (fun _ => SafeRun.ret ⟨rfl, by simp⟩) fun _ => ?_
      exact safeRun_classifyInner crc32c wantHash b p l2tp flags off false
        (by simp)
  | true =>
      refine SafeRun.ite (fun _ => SafeRun.ret ⟨rfl, ?_⟩) fun _ => ?_
      · intro _
        exact hoffset.trans_le hl2tp
      · exact safeRun_classifyInner crc32c wantHash (recordOffsets b p udp) p
          l2tp flags off true fun _ => hoffset.trans_le hl2tp

theorem safeRun_classifyIp4 (b : VlibBuffer) (p : Nat) (tagged : Bool) :
    SafeRun freed (classifyIp4 (l2tvppHashIp crc32c) lm fastpath wantHash b p
      tagged) (FastInside b) := by
  have houter : SafeRun freed _ (FastInside b) :=
    safeRun_classifyOuter crc32c wantHash b p 0
  have hlen := b.length_current
  refine SafeRun.ite (fun _ => SafeRun.ret ⟨rfl, by simp⟩) fun hfits => ?_
  refine SafeRun.bind (safeRun_readU8 (by omega)) fun _ _ => ?_
  refine SafeRun.bind (safeRun_readU16 (by omega)) fun _ _ => ?_
  refine SafeRun.ite (fun _ => houter) fun _ => ?_
  refine SafeRun.bind (safeRun_readU8 (by omega)) fun version _ => ?_
  refine SafeRun.ite (fun _ => houter) fun hudp => ?_
  refine SafeRun.bind (safeRun_readU16 (by omega)) fun _ _ => ?_
  refine SafeRun.ite (fun _ => houter) fun hl2tp => ?_
  rw [not_or] at hl2tp
  refine SafeRun.bind (safeRun_l2tvppParseHdr (by omega)) fun hdr _ => ?_
  cases hdr with
  | data flags tid sid off =>
      exact safeRun_classifyData crc32c lm fastpath wantHash b p _ _ tagged
        flags off (by omega) (by omega)
  | tooShort => exact houter
  | notV2 => exact SafeRun.ret ⟨rfl, by simp⟩
  | control => exact SafeRun.ret ⟨rfl, by simp⟩

theorem safeRun_classifyType (b : VlibBuffer) (type : U16) (p : Nat)
    (tagged : Bool) :
    SafeRun freed (classifyType (l2tvppHashIp crc32c) lm fastpath wantHash b
      type p tagged) (FastInside b) := by
  refine SafeRun.ite (fun _ => ?_) fun _ => ?_
  · exact safeRun_classifyIp4 crc32c lm fastpath wantHash b p tagged
  · exact SafeRun.ite (fun _ => safeRun_classifyOuter crc32c wantHash b p 0)
      fun _ => SafeRun.ret ⟨rfl, by simp⟩

theorem safeRun_l2tvppFlowClassify (b : VlibBuffer) :
    SafeRun freed (l2tvppFlowClassify crc32c lm fastpath wantHash b)
      (FastInside b) := by
  have hlen := b.length_current
  refine SafeRun.ite (fun _ => SafeRun.ret ⟨rfl, by simp⟩) fun hfits => ?_
  refine SafeRun.bind (safeRun_readU16 (by omega)) fun type _ => ?_
  refine SafeRun.ite (fun _ => ?_) fun _ => ?_
  · refine SafeRun.ite (fun _ => SafeRun.ret ⟨rfl, by simp⟩) fun htag => ?_
    refine SafeRun.bind (safeRun_readU16 (by omega)) fun type _ => ?_
    exact safeRun_classifyType crc32c lm fastpath wantHash b type 18 true
  · exact safeRun_classifyType crc32c lm fastpath wantHash b type 14 false

theorem safeRun_l2tvppFlowHandoff (ifd : FlowHandoffIf) (thisThread : U16)
    (b : VlibBuffer) :
    SafeRun freed (l2tvppFlowHandoff crc32c lm ifd thisThread b) fun result =>
      result.1.next = .l2tvppInput →
        ∃ arrived l2tpOffset, arrived.current = b.current ∧
          result.1.buffer = fastBuffer arrived l2tpOffset ∧
          l2tpOffset.toNat ≤ b.currentLength.toNat := by
  refine SafeRun.bind
    (safeRun_l2tvppFlowClassify crc32c lm ifd.fastpath _ b) fun c hc => ?_
  refine SafeRun.ret ?_
  dsimp only
  split
  · rename_i hkind
    exact fun _ => ⟨c.buffer, c.l2tpOffset, hc.1, rfl, hc.2 hkind⟩
  · simp

end Bounds

end L2tvpp.Node
