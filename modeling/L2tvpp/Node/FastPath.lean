import L2tvpp.Plugin.Calls
import L2tvpp.Node.FlowHandoff

/-!
# The decapsulation fast path

A frame that the flow classifier marks as fast skips the nodes between the
driver and `l2tvpp-input`.  It arrives there as those nodes would have delivered
it, and a punt takes it back to its IPv4 header.
-/

namespace L2tvpp.Node

open L2tvpp.Lib
open L2tvpp.Plugin

/-! ## Fast frames -/

section Fast

variable {hashIp : List U8 → Nat → Nat → Except MemFault (Option U32)}
  {lm : L2tvppMain} {fastpath wantHash : Bool} {b : VlibBuffer} {c : Classified}

theorem classifyOuter_kind {p : Nat} {l2tpOffset : U16}
    (h : classifyOuter hashIp wantHash b p l2tpOffset = .ok c) :
    c.kind ≠ .fast := by
  unfold classifyOuter at h
  split at h
  · cases h
    simp
  · obtain ⟨hash, -, h⟩ := ok_of_bind h
    cases hash with
    | none =>
        cases h
        simp
    | some hash =>
        cases h
        simp

theorem classifyInner_fast {p l2tp off : Nat} {flags l2tpOffset : U16}
    {fast : Bool} (hfast : c.kind = .fast)
    (h : classifyInner hashIp wantHash b p l2tp flags off fast l2tpOffset =
      .ok c) :
    fast = true ∧ c.l2tpOffset = l2tpOffset ∧ c.buffer = b := by
  obtain ⟨walked, -, h⟩ := ok_of_bind h
  cases walked with
  | none => exact absurd hfast (classifyOuter_kind h)
  | some cur =>
      obtain ⟨hash, -, h⟩ := ok_of_bind h
      cases hash with
      | some hash =>
          cases h
          cases fast with
          | true => exact ⟨rfl, rfl, rfl⟩
          | false => cases hfast
      | none =>
          cases fast with
          | true =>
              cases h
              exact ⟨rfl, rfl, rfl⟩
          | false => exact absurd hfast (classifyOuter_kind h)

/-- A fast frame has no tag and no IP options. -/
theorem fastEligible_true {buffer : List U8} {p stop : Nat} {tagged : Bool}
    (h : fastEligible lm buffer p stop fastpath tagged = .ok true) :
    tagged = false ∧ readU8 buffer p = .ok 0x45 := by
  unfold fastEligible at h
  split at h
  · cases h
  · rename_i huntagged
    obtain ⟨version, hversion, h⟩ := ok_of_bind h
    split at h
    · cases h
    · rename_i hfive
      rw [not_not] at hfive
      refine ⟨?_, ?_⟩
      · cases tagged with
        | false => rfl
        | true => simp at huntagged
      · rw [hversion, hfive]

theorem classifyData_fast {p udp l2tp off : Nat} {tagged : Bool} {flags : U16}
    (hfast : c.kind = .fast)
    (h : classifyData hashIp lm fastpath wantHash b p udp l2tp tagged flags
      off = .ok c) :
    tagged = false ∧ readU8 b.current p = .ok 0x45 ∧
      c.l2tpOffset = BitVec.ofNat 16 l2tp ∧ c.buffer = recordOffsets b p udp := by
  obtain ⟨fast, heligible, h⟩ := ok_of_bind h
  have hresult : fast = true ∧
      c.l2tpOffset = (if fast then BitVec.ofNat 16 l2tp else 0) ∧
      c.buffer = (if fast then recordOffsets b p udp else b) := by
    dsimp only at h
    split at h
    · cases h
      cases fast with
      | true => exact ⟨rfl, rfl, rfl⟩
      | false => cases hfast
    · exact classifyInner_fast hfast h
  obtain ⟨rfl, hoffset, hbuffer⟩ := hresult
  obtain ⟨huntagged, hversion⟩ := fastEligible_true heligible
  exact ⟨huntagged, hversion, hoffset, hbuffer⟩

theorem classifyIp4_fast {p : Nat} {tagged : Bool} (hfast : c.kind = .fast)
    (h : classifyIp4 hashIp lm fastpath wantHash b p tagged = .ok c) :
    tagged = false ∧ readU8 b.current p = .ok 0x45 ∧
      p + 28 ≤ b.currentLength.toNat ∧
      c.l2tpOffset = BitVec.ofNat 16 (p + 28) ∧
      c.buffer = recordOffsets b p (p + 20) := by
  unfold classifyIp4 at h
  dsimp only at h
  split at h
  · cases h
    cases hfast
  · obtain ⟨proto, -, h⟩ := ok_of_bind h
    obtain ⟨fragment, -, h⟩ := ok_of_bind h
    split at h
    · exact absurd hfast (classifyOuter_kind h)
    · obtain ⟨version, hversion, h⟩ := ok_of_bind h
      split at h
      · exact absurd hfast (classifyOuter_kind h)
      · rename_i hudp
        obtain ⟨dstPort, -, h⟩ := ok_of_bind h
        split at h
        · exact absurd hfast (classifyOuter_kind h)
        · obtain ⟨hdr, -, h⟩ := ok_of_bind h
          cases hdr with
          | data flags tid sid off =>
              obtain ⟨huntagged, hfive, hoffset, hbuffer⟩ :=
                classifyData_fast hfast h
              rw [hversion] at hfive
              cases hfive
              have hheader : ip4HeaderBytes 0x45 = 20 := by decide
              rw [hheader] at hudp hoffset hbuffer
              exact ⟨huntagged, hversion, by omega, hoffset, hbuffer⟩
          | tooShort => exact absurd hfast (classifyOuter_kind h)
          | notV2 =>
              cases h
              cases hfast
          | control =>
              cases h
              cases hfast

theorem classifyType_fast {type : U16} {p : Nat} {tagged : Bool}
    (hfast : c.kind = .fast)
    (h : classifyType hashIp lm fastpath wantHash b type p tagged = .ok c) :
    type = ethernetTypeIp4 ∧
      classifyIp4 hashIp lm fastpath wantHash b p tagged = .ok c := by
  unfold classifyType at h
  split at h
  · rename_i hip4
    exact ⟨hip4, h⟩
  · split at h
    · exact absurd hfast (classifyOuter_kind h)
    · cases h
      cases hfast

/-- Only untagged IPv4 gets to the decision. -/
theorem classifyFrame_untagged (hfast : c.kind = .fast)
    (h : classifyFrame hashIp lm fastpath wantHash b = .ok c) :
    readU16 b.current 12 = .ok ethernetTypeIp4 ∧
      classifyIp4 hashIp lm fastpath wantHash b 14 false = .ok c := by
  unfold classifyFrame at h
  dsimp only at h
  split at h
  · cases h
    cases hfast
  · obtain ⟨type, htype, h⟩ := ok_of_bind h
    split at h
    · split at h
      · cases h
        cases hfast
      · obtain ⟨inner, -, h⟩ := ok_of_bind h
        obtain ⟨huntagged, -⟩ :=
          classifyIp4_fast hfast (classifyType_fast hfast h).2
        cases huntagged
    · obtain ⟨hip4, h⟩ := classifyType_fast hfast h
      rw [hip4] at htype
      exact ⟨htype, h⟩

theorem classifyFrame_fast (hfast : c.kind = .fast)
    (h : classifyFrame hashIp lm fastpath wantHash b = .ok c) :
    (∃ type, readU16 b.current 12 = .ok type ∧ type ≠ ethernetTypeVlan) ∧
      readU8 b.current 14 = .ok 0x45 ∧ 42 ≤ b.currentLength.toNat ∧
      c.l2tpOffset = 42 ∧ c.buffer = recordOffsets b 14 34 := by
  obtain ⟨htype, hip4⟩ := classifyFrame_untagged hfast h
  obtain ⟨-, hversion, hinside, hoffset, hbuffer⟩ := classifyIp4_fast hfast hip4
  exact ⟨⟨_, htype, by decide⟩, hversion, hinside, hoffset, hbuffer⟩

end Fast

/-! ## The slow path -/

/-- Where the IPv4 header of a frame starts. -/
def l3Start (frame : List U8) : Nat :=
  match readU16 frame 12 with
  | .ok type => if type = ethernetTypeVlan then 18 else 14
  | .error _ => 14

/-- Where the L2TP header starts: behind the IPv4 and the UDP header. -/
def l2tpStart (frame : List U8) : Nat :=
  match readU8 frame (l3Start frame) with
  | .ok version => l3Start frame + ip4HeaderBytes version + 8
  | .error _ => l3Start frame

/-- How `ethernet-input`, `ip4-input`, `ip4-lookup`, `ip4-receive` and
`udp-local` deliver the frame `b`: the headers stripped, the IPv4 header
recorded, no byte trimmed or changed. -/
structure SlowPath (b delivered : VlibBuffer) : Prop where
  inside : l2tpStart b.current ≤ b.currentLength.toNat
  mem : delivered.mem = b.mem
  currentData : delivered.currentData =
    b.currentData + BitVec.ofNat 16 (l2tpStart b.current)
  currentLength : delivered.currentLength =
    b.currentLength - BitVec.ofNat 16 (l2tpStart b.current)
  restLength : delivered.restLength = b.restLength
  l3HdrOffset : delivered.l3HdrOffset.toInt =
    b.currentData.toInt + l3Start b.current
  swIfIndexRx : delivered.swIfIndexRx = b.swIfIndexRx

/-- What `l2tvpp-input` decides for a packet, and the packet it passes on. -/
structure Outcome where
  next : InputNext
  error : InputError
  sessionIndex : Option Nat
  tid : U16
  sid : U16
  pppProto : U16
  bytes : List U8
  currentData : I16
  restLength : U32
  swIfIndexRx : Nat
  deriving DecidableEq

def InputResult.outcome (result : InputResult) : Outcome :=
  ⟨result.next, result.error, result.sessionIndex, result.tid, result.sid,
    result.pppProto, result.buffer.current, result.buffer.currentData,
    result.buffer.restLength, result.buffer.swIfIndexRx⟩

/-- The decapsulation reads nothing else of a buffer. -/
structure SameInput (b b' : VlibBuffer) : Prop where
  mem : b'.mem = b.mem
  currentData : b'.currentData = b.currentData
  currentLength : b'.currentLength = b.currentLength
  restLength : b'.restLength = b.restLength
  l3HdrOffset : b'.l3HdrOffset = b.l3HdrOffset
  swIfIndexRx : b'.swIfIndexRx = b.swIfIndexRx

section SameInput

variable {lm : L2tvppMain} {b b' : VlibBuffer} (h : SameInput b b')

include h

theorem SameInput.current : b'.current = b.current := by
  rw [VlibBuffer.current, h.mem, h.currentData, h.currentLength]
  rfl

theorem SameInput.advance (distance : Int) :
    SameInput (vlibBufferAdvance b distance) (vlibBufferAdvance b' distance) where
  mem := h.mem
  currentData := congrArg (· + BitVec.ofInt 16 distance) h.currentData
  currentLength := congrArg (· - BitVec.ofInt 16 distance) h.currentLength
  restLength := h.restLength
  l3HdrOffset := h.l3HdrOffset
  swIfIndexRx := h.swIfIndexRx

theorem SameInput.rewind :
    SameInput (l2tvppRewindToIp b) (l2tvppRewindToIp b') := by
  have hadvance := h.advance (b.l3HdrOffset.toInt - b.currentData.toInt)
  unfold l2tvppRewindToIp
  rw [h.l3HdrOffset, h.currentData]
  exact hadvance

theorem SameInput.decap (cur : Nat) (sess : L2tvppSession) :
    SameInput (decapBuffer b cur sess) (decapBuffer b' cur sess) :=
  { h.advance cur with swIfIndexRx := rfl }

omit h in
theorem outcome_eq {next : InputNext} {error : InputError}
    {sessionIndex : Option Nat} {tid sid pppProto : U16} {b b' : VlibBuffer}
    (h : SameInput b b') :
    InputResult.outcome ⟨b', next, error, sessionIndex, tid, sid, pppProto⟩ =
      InputResult.outcome ⟨b, next, error, sessionIndex, tid, sid,
        pppProto⟩ := by
  simp only [InputResult.outcome, h.current, h.currentData, h.restLength,
    h.swIfIndexRx]

theorem outcome_l2tvppInputPpp (flags tid sid : U16) (cur : Nat) :
    (l2tvppInputPpp lm b' flags tid sid cur).map InputResult.outcome =
      (l2tvppInputPpp lm b flags tid sid cur).map InputResult.outcome := by
  unfold l2tvppInputPpp
  rw [h.current]
  split
  · exact congrArg Except.ok (outcome_eq h.rewind)
  · rename_i index hindex
    cases pppHeader b.current cur with
    | error fault => exact Eq.refl (Except.error fault)
    | ok ppp =>
        simp only [ok_bind]
        split
        · exact congrArg Except.ok (outcome_eq h.rewind)
        · split
          · exact Eq.refl (Except.error (MemFault.freedElement index))
          · exact congrArg Except.ok (outcome_eq (h.decap _ _))

theorem outcome_l2tvppInput :
    (l2tvppInput lm b').map InputResult.outcome =
      (l2tvppInput lm b).map InputResult.outcome := by
  unfold l2tvppInput
  rw [h.current, h.currentLength]
  cases l2tvppParseHdr b.current 0 b.currentLength.toNat with
  | error fault => rfl
  | ok hdr =>
      cases hdr with
      | notV2 => exact congrArg Except.ok (outcome_eq h.rewind)
      | control => exact congrArg Except.ok (outcome_eq h.rewind)
      | tooShort => exact congrArg Except.ok (outcome_eq h)
      | data flags tid sid off =>
          simp only [ok_bind]
          cases skipSeqAndOffset b.current flags off b.currentLength.toNat with
          | error fault => rfl
          | ok walked =>
              cases walked with
              | none => exact congrArg Except.ok (outcome_eq h)
              | some cur => exact outcome_l2tvppInputPpp h flags tid sid cur

end SameInput

theorem pppNext_ne_punt {lm : L2tvppMain} {proto : U16} {next : InputNext}
    (h : pppNext lm proto = some next) : next ≠ .punt := by
  unfold pppNext at h
  split at h
  · cases h
    split <;> simp
  · split at h
    · cases h
      simp
    · cases h

/-- A punt rewinds the buffer it is given and changes nothing else. -/
theorem l2tvppInput_punt {lm : L2tvppMain} {b : VlibBuffer}
    {result : InputResult} (h : l2tvppInput lm b = .ok result)
    (hpunt : result.next = .punt) : result.buffer = l2tvppRewindToIp b := by
  obtain ⟨hdr, -, h⟩ := ok_of_bind h
  cases hdr with
  | notV2 =>
      cases h
      rfl
  | control =>
      cases h
      rfl
  | tooShort =>
      cases h
      cases hpunt
  | data flags tid sid off =>
      obtain ⟨walked, -, h⟩ := ok_of_bind h
      cases walked with
      | none =>
          cases h
          cases hpunt
      | some cur =>
          dsimp only at h
          unfold l2tvppInputPpp at h
          split at h
          · cases h
            rfl
          · obtain ⟨ppp, -, h⟩ := ok_of_bind h
            dsimp only at h
            split at h
            · cases h
              rfl
            · rename_i next hnext
              split at h
              · cases h
              · cases h
                exact absurd hpunt (pppNext_ne_punt hnext)

/-! ## Both paths -/

/-- The buffer starts at the IPv4 header of the frame `b` again, with every byte
behind it. -/
structure AtIpHeader (b punted : VlibBuffer) : Prop where
  currentData : punted.currentData.toInt =
    b.currentData.toInt + l3Start b.current
  currentLength : punted.currentLength.toNat =
    b.currentLength.toNat - l3Start b.current
  bytes : punted.current = b.current.drop (l3Start b.current)
  mem : punted.mem = b.mem
  restLength : punted.restLength = b.restLength
  swIfIndexRx : punted.swIfIndexRx = b.swIfIndexRx

theorem l3Start_le_l2tpStart (frame : List U8) :
    l3Start frame ≤ l2tpStart frame := by
  unfold l2tpStart
  split <;> omega

theorem SlowPath.reaches {b delivered : VlibBuffer} (h : SlowPath b delivered) :
    b.reaches (l3Start b.current) := by
  have hlt : delivered.l3HdrOffset.toInt < 2 ^ 15 := BitVec.toInt_lt
  have hoffset := h.l3HdrOffset
  unfold VlibBuffer.reaches
  omega

/-- The distance back wraps as the advance did. -/
theorem SlowPath.rewind {b delivered : VlibBuffer} (h : SlowPath b delivered) :
    SameInput
      { vlibBufferAdvance b (l3Start b.current) with
        l3HdrOffset := delivered.l3HdrOffset }
      (l2tvppRewindToIp delivered) := by
  have hoffset : delivered.l3HdrOffset =
      b.currentData + BitVec.ofNat 16 (l3Start b.current) := by
    rw [← BitVec.ofInt_toInt (x := delivered.l3HdrOffset), h.l3HdrOffset,
      BitVec.ofInt_add, BitVec.ofInt_toInt, BitVec.ofInt_natCast]
  refine ⟨h.mem, ?_, ?_, h.restLength, rfl, h.swIfIndexRx⟩
  · change delivered.currentData + BitVec.ofInt 16
      (delivered.l3HdrOffset.toInt - delivered.currentData.toInt) =
        b.currentData + BitVec.ofInt 16 (l3Start b.current)
    rw [ofInt_toInt_sub, hoffset, BitVec.ofInt_natCast]
    bv_omega
  · change delivered.currentLength - BitVec.ofInt 16
      (delivered.l3HdrOffset.toInt - delivered.currentData.toInt) =
        b.currentLength - BitVec.ofInt 16 (l3Start b.current)
    rw [ofInt_toInt_sub, hoffset, h.currentData, h.currentLength,
      BitVec.ofInt_natCast]
    bv_omega

theorem atIpHeader_rewind {b delivered : VlibBuffer}
    (h : SlowPath b delivered) : AtIpHeader b (l2tvppRewindToIp delivered) := by
  have hinside := (l3Start_le_l2tpStart b.current).trans h.inside
  have hadvance := h.rewind
  have hcurrent := current_vlibBufferAdvance b hinside h.reaches
  have hdata := (toInt_vlibBufferAdvance b
    (hinside.trans_lt b.currentLength.isLt)).mpr h.reaches
  refine ⟨?_, ?_, hadvance.current.trans hcurrent, hadvance.mem,
    hadvance.restLength, hadvance.swIfIndexRx⟩
  · rw [hadvance.currentData]
    exact hdata
  have hlength := congrArg List.length (hadvance.current.trans hcurrent)
  rwa [List.length_drop, VlibBuffer.length_current,
    VlibBuffer.length_current] at hlength

/-- The fast path delivers a frame as the slow path does. -/
theorem slowPath_fastBuffer {hashIp : List U8 → Nat → Nat →
      Except MemFault (Option U32)} {lm : L2tvppMain} {fastpath wantHash : Bool}
    {b : VlibBuffer} {c : Classified} (hfast : c.kind = .fast)
    (h : classifyFrame hashIp lm fastpath wantHash b = .ok c)
    (hreach : b.reaches (l3Start b.current)) :
    SlowPath b (fastBuffer c.buffer c.l2tpOffset) := by
  obtain ⟨⟨type, htype, huntagged⟩, hversion, hinside, hoffset, hbuffer⟩ :=
    classifyFrame_fast hfast h
  have hl3 : l3Start b.current = 14 := by
    rw [l3Start, htype]
    exact if_neg huntagged
  have hheader : ip4HeaderBytes 0x45 = 20 := by decide
  have hl2tp : l2tpStart b.current = 42 := by
    rw [l2tpStart, hl3, hversion]
    dsimp only
    rw [hheader]
  have hadvance := (toInt_vlibBufferAdvance b (by omega)).mpr hreach
  rw [hl3] at hadvance
  rw [hoffset, hbuffer]
  refine ⟨by omega, rfl, ?_, ?_, rfl, ?_, rfl⟩
  · rw [hl2tp]
    rfl
  · rw [hl2tp]
    rfl
  · rw [hl3]
    exact hadvance

theorem SlowPath.sameInput {b delivered delivered' : VlibBuffer}
    (h : SlowPath b delivered) (h' : SlowPath b delivered') :
    SameInput delivered delivered' where
  mem := h'.mem.trans h.mem.symm
  currentData := h'.currentData.trans h.currentData.symm
  currentLength := h'.currentLength.trans h.currentLength.symm
  restLength := h'.restLength.trans h.restLength.symm
  l3HdrOffset := BitVec.eq_of_toInt_eq
    (h'.l3HdrOffset.trans h.l3HdrOffset.symm)
  swIfIndexRx := h'.swIfIndexRx.trans h.swIfIndexRx.symm

/-- For a fast frame `l2tvpp-input` ends as it does for the frame delivered by
the slow path, and on either path a punt is back at the IPv4 header. -/
theorem fastPath_eq_slowPath (lm : L2tvppMain) {b delivered : VlibBuffer}
    (hslow : SlowPath b delivered) :
    (∀ result, l2tvppInput lm delivered = .ok result → result.next = .punt →
      AtIpHeader b result.buffer) ∧
    ∀ (crc32c : List U8 → U32) (lm' : L2tvppMain) (ifd : FlowHandoffIf)
      (thisThread : U16) (handed : FlowResult × FlowHandoffIf),
      l2tvppFlowHandoff crc32c lm' ifd thisThread b = .ok handed →
      handed.1.kind = .fast →
      handed.1.next = .l2tvppInput ∧
      (l2tvppInput lm handed.1.buffer).map InputResult.outcome =
        (l2tvppInput lm delivered).map InputResult.outcome ∧
      ∀ result, l2tvppInput lm handed.1.buffer = .ok result →
        result.next = .punt → AtIpHeader b result.buffer := by
  constructor
  · intro result hresult hpunt
    rw [l2tvppInput_punt hresult hpunt]
    exact atIpHeader_rewind hslow
  · intro crc32c lm' ifd thisThread handed hhanded hfast
    obtain ⟨c, hc, hhanded⟩ := ok_of_bind hhanded
    cases hhanded
    by_cases hkind : c.kind = .fast
    · have harrives := slowPath_fastBuffer hkind hc hslow.reaches
      simp only [if_pos hkind]
      refine ⟨trivial, outcome_l2tvppInput (hslow.sameInput harrives), ?_⟩
      intro result hresult hpunt
      rw [l2tvppInput_punt hresult hpunt]
      exact atIpHeader_rewind harrives
    · simp only [if_neg hkind] at hfast
      exact absurd hfast hkind

/-- A data message to a tunnel endpoint, of a session that does not exist. -/
def unknownSession : List U8 :=
  List.replicate 12 0 ++ be16 ethernetTypeIp4 ++
    [0x45, 0, 0, 38, 0, 0, 0, 0, 64, 17, 0x66, 0xc5, 10, 0, 0, 2, 10, 0, 0, 1] ++
    [0x06, 0xa5, 0x06, 0xa5, 0, 18, 0, 0] ++
    [0, 2, 0, 100, 0, 9, 0xff, 0x03, 0, 0x21]

def oneTunnel : List Call :=
  [.tunnelAddDel (Ip46.ofIp4 0x0a000001) (Ip46.ofIp4 0x0a000002) 1701 1701 100
    200 true]

theorem fastPath_eq_slowPath_unknownSession :
    let lm := (runCalls Policies.lifo Pool.empty Pool.empty oneTunnel).lm
    let ifd : FlowHandoffIf := ⟨[1], 0, true, true, false⟩
    ∃ handed result,
      l2tvppFlowHandoff (fun _ => 0) lm ifd 0 (bufferOf unknownSession) =
        .ok handed ∧ handed.1.kind = .fast ∧
      l2tvppInput lm handed.1.buffer = .ok result ∧ result.next = .punt ∧
      AtIpHeader (bufferOf unknownSession) result.buffer := by
  intro lm ifd
  let b := bufferOf unknownSession
  let delivered := { vlibBufferAdvance b 42 with l3HdrOffset := 14 }
  have hslow : SlowPath b delivered := by
    refine ⟨by decide, rfl, by decide, by decide, rfl, by decide, rfl⟩
  have hruns : (l2tvppFlowHandoff (fun _ => 0) lm ifd 0 b).toOption.any
      (fun handed => decide (handed.1.kind = .fast) &&
        (l2tvppInput lm handed.1.buffer).toOption.any
          fun result => decide (result.next = .punt)) = true := by decide
  cases hhanded : l2tvppFlowHandoff (fun _ => 0) lm ifd 0 b with
  | error fault =>
      rw [hhanded] at hruns
      exact absurd hruns Bool.false_ne_true
  | ok handed =>
      rw [hhanded] at hruns
      simp only [Except.toOption, Option.any_some, Bool.and_eq_true,
        decide_eq_true_eq] at hruns
      obtain ⟨hfast, hinput⟩ := hruns
      cases hresult : l2tvppInput lm handed.1.buffer with
      | error fault =>
          rw [hresult] at hinput
          exact absurd hinput Bool.false_ne_true
      | ok result =>
          rw [hresult] at hinput
          have hpunt : result.next = .punt := of_decide_eq_true hinput
          have hpaths := (fastPath_eq_slowPath lm hslow).2 (fun _ => 0) lm ifd 0
            handed hhanded hfast
          exact ⟨handed, result, rfl, hfast, hresult, hpunt,
            hpaths.2.2 result hresult hpunt⟩

end L2tvpp.Node
