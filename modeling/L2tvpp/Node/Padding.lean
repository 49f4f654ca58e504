import L2tvpp.Node.FastAdmission

/-!
# Bytes behind the datagram

The classifier and `l2tvpp-input` stop at the end of the buffer, not at the end
of the IPv4 datagram in it.  Where a header that they look for is not inside the
datagram, they take it from the padding of the link layer.
-/

namespace L2tvpp.Node

open L2tvpp.Lib
open L2tvpp.Plugin

/-! ## Which frames are taken for L2TP -/

/-- An unfragmented UDP datagram whose payload starts at `l2tp`. -/
structure UdpAt (frame : List U8) (l2tp : Nat) : Prop where
  complete : 34 ≤ frame.length
  udp : readU8 frame 23 = .ok ipProtocolUdp
  unfragmented : ∃ fragment, readU16 frame 20 = .ok fragment ∧
    ip4GetFragmentOffset fragment = 0 ∧ ip4GetFragmentMore fragment = 0
  start : ∃ version, readU8 frame 14 = .ok version ∧
    l2tp = 14 + ip4HeaderBytes version + 8

structure L2tpAt (frame : List U8) (l2tp : Nat) : Prop extends
    UdpAt frame l2tp where
  port : readU16 frame (l2tp - 6) = .ok l2tvppUdpPort
  inside : l2tp + 6 ≤ frame.length

theorem ip4HeaderBytes_le (version : U8) : ip4HeaderBytes version ≤ 60 := by
  have h : (version &&& 0xf).toNat ≤ 15 := by
    rw [BitVec.toNat_and]
    exact Nat.and_le_right
  unfold ip4HeaderBytes
  omega

theorem UdpAt.le {frame : List U8} {l2tp : Nat} (h : UdpAt frame l2tp) :
    22 ≤ l2tp ∧ l2tp ≤ 82 := by
  obtain ⟨version, -, rfl⟩ := h.start
  have hheader := ip4HeaderBytes_le version
  omega

/-- In 34 bytes there is room for a port only in the IPv4 header, where it would
be the length or the fragment offset. -/
theorem not_l2tpAt_short {frame : List U8} {l2tp : Nat}
    (h : L2tpAt frame l2tp) (hshort : l2tp + 6 ≤ 34)
    (hlength : readU16 frame 16 ≠ .ok l2tvppUdpPort) : False := by
  obtain ⟨version, -, hstart⟩ := h.start
  obtain ⟨fragment, hfragment, hoffset, -⟩ := h.unfragmented
  have hport := h.port
  unfold ip4HeaderBytes at hstart
  have hcases : l2tp - 6 = 16 ∨ l2tp - 6 = 20 := by omega
  rcases hcases with hoption | hoption
  · rw [hoption] at hport
    exact hlength hport
  · rw [hoption, hfragment, Except.ok.injEq] at hport
    rw [hport] at hoffset
    exact absurd hoffset (by decide)

theorem UdpAt.unique {frame : List U8} {l2tp l2tp' : Nat}
    (h : UdpAt frame l2tp) (h' : UdpAt frame l2tp') : l2tp = l2tp' := by
  obtain ⟨version, hversion, hstart⟩ := h.start
  obtain ⟨version', hversion', hstart'⟩ := h'.start
  rw [hversion] at hversion'
  cases hversion'
  rw [hstart, hstart']

theorem udpAt_of_front {front frame : List U8} (h : front <+: frame)
    (hfront : 34 ≤ front.length) {l2tp : Nat} :
    UdpAt frame l2tp ↔ UdpAt front l2tp := by
  constructor
  · rintro ⟨-, hudp, hfragment, hstart⟩
    rw [readU8_of_front h (by omega)] at hudp hstart
    rw [readU16_of_front h (by omega)] at hfragment
    exact ⟨hfront, hudp, hfragment, hstart⟩
  · rintro ⟨-, hudp, hfragment, hstart⟩
    refine ⟨hfront.trans h.length_le, ?_, ?_, ?_⟩
    · rwa [readU8_of_front h (by omega)]
    · rwa [readU16_of_front h (by omega)]
    · rwa [readU8_of_front h (by omega)]

theorem l2tvppParseHdr_ne_tooShort {buffer : List U8} {cur len : Nat}
    (h : 8 ≤ len) : l2tvppParseHdr buffer cur len ≠ .ok .tooShort := by
  intro hparse
  unfold l2tvppParseHdr at hparse
  rw [if_neg (by omega)] at hparse
  obtain ⟨flags, -, hparse⟩ := ok_of_bind hparse
  split at hparse
  · cases hparse
  · split at hparse
    · cases hparse
    · have hlong : (hasFlag flags l2tvppHdrL && decide (len < 8)) = false := by
        simp [h]
      rw [hlong] at hparse
      obtain ⟨tid, -, hparse⟩ := ok_of_bind hparse
      obtain ⟨sid, -, hparse⟩ := ok_of_bind hparse
      cases hparse

/-! ## The kind of a frame -/

section Kind

variable (crc32c : List U8 → U32) (lm : L2tvppMain) {b : VlibBuffer}

/-- What the classifier answers for the frame, with the fast path on and
without a hash. -/
def HasKind (b : VlibBuffer) (kind : FlowKind) : Prop :=
  ∃ c, l2tvppFlowClassify crc32c lm true false b = .ok c ∧ c.kind = kind

variable {crc32c lm}

theorem HasKind.unique {kind kind' : FlowKind} (h : HasKind crc32c lm b kind)
    (h' : HasKind crc32c lm b kind') : kind = kind' := by
  obtain ⟨c, hc, rfl⟩ := h
  obtain ⟨c', hc', rfl⟩ := h'
  rw [hc] at hc'
  cases hc'
  rfl

variable (crc32c lm) in
theorem exists_hasKind (b : VlibBuffer) : ∃ kind, HasKind crc32c lm b kind := by
  obtain ⟨c, hc, -⟩ := SafeRun.returns
    (safeRun_l2tvppFlowClassify crc32c lm true false b)
  exact ⟨c.kind, c, hc, rfl⟩

variable (crc32c lm) (htype : readU16 b.current 12 = .ok ethernetTypeIp4)

include htype

theorem l2tvppFlowClassify_ip4 :
    l2tvppFlowClassify crc32c lm true false b =
      classifyIp4 (l2tvppHashIp crc32c) lm true false b 14 false := by
  have hlen : b.currentLength.toNat = b.current.length := by simp
  have hlength := readU16_lt_length htype
  have hnovlan : ethernetTypeIp4 ≠ ethernetTypeVlan := by decide
  rw [l2tvppFlowClassify, classifyFrame]
  simp only [hlen, if_neg (show ¬ 14 > b.current.length by omega), htype,
    ok_bind, if_neg hnovlan, classifyType, if_true]

theorem hasKind_short (hshort : b.current.length < 34) :
    HasKind crc32c lm b .localThread := by
  have hlen : b.currentLength.toNat = b.current.length := by simp
  refine ⟨⟨.localThread, 0, 0, b⟩, ?_, rfl⟩
  rw [l2tvppFlowClassify_ip4 crc32c lm htype, classifyIp4]
  simp only [hlen, if_pos (show 14 + 20 > b.current.length by omega)]
  rfl

/-- A frame that is not taken for L2TP goes by its outer header. -/
theorem hasKind_outer (hlength : 34 ≤ b.current.length)
    (hother : ∀ l2tp, ¬ L2tpAt b.current l2tp) :
    HasKind crc32c lm b .outer := by
  have hlen : b.currentLength.toNat = b.current.length := by simp
  obtain ⟨c, hc, -⟩ := SafeRun.returns
    (safeRun_l2tvppFlowClassify crc32c lm true false b)
  refine ⟨c, hc, ?_⟩
  rw [l2tvppFlowClassify_ip4 crc32c lm htype] at hc
  unfold classifyIp4 at hc
  dsimp only at hc
  rw [hlen, if_neg (by omega)] at hc
  obtain ⟨proto, hproto, hc⟩ := ok_of_bind hc
  obtain ⟨fragment, hfragment, hc⟩ := ok_of_bind hc
  split at hc
  · cases hc
    rfl
  · rename_i hudp
    simp only [not_or, not_not] at hudp
    obtain ⟨version, hversion, hc⟩ := ok_of_bind hc
    split at hc
    · cases hc
      rfl
    · obtain ⟨port, hport, hc⟩ := ok_of_bind hc
      split at hc
      · cases hc
        rfl
      · rename_i hcandidate
        simp only [not_or, not_not] at hcandidate
        rw [hudp.1] at hproto
        rw [hcandidate.1] at hport
        refine absurd ?_ (hother (14 + ip4HeaderBytes version + 8))
        exact ⟨⟨hlength, hproto, ⟨fragment, hfragment, hudp.2⟩, version,
          hversion, rfl⟩, hport, by omega⟩

variable {l2tp : Nat} (hl2tp : L2tpAt b.current l2tp)

include hl2tp

/-- A frame that is taken for L2TP goes by its L2TP header. -/
theorem hasKind_l2tp {hdr : L2tvppHdr}
    (hparse : l2tvppParseHdr b.current l2tp (b.current.length - l2tp) =
      .ok hdr) :
    match hdr with
    | .data _ _ _ _ => HasKind crc32c lm b .inner ∨ HasKind crc32c lm b .fast
    | .tooShort => HasKind crc32c lm b .outer
    | _ => HasKind crc32c lm b .localThread := by
  have hlen : b.currentLength.toNat = b.current.length := by simp
  obtain ⟨⟨hcomplete, hudp, ⟨fragment, hfragment, hoffset, hmore⟩, version,
    hversion, hstart⟩, hport, hinside⟩ := hl2tp
  have hback : 14 + ip4HeaderBytes version = l2tp - 8 := by omega
  have hback' : l2tp - 8 + 8 = l2tp := by omega
  have hport' : l2tp - 8 + 2 = l2tp - 6 := by omega
  obtain ⟨c, hc, -⟩ := SafeRun.returns
    (safeRun_l2tvppFlowClassify crc32c lm true false b)
  have hrun := hc
  rw [l2tvppFlowClassify_ip4 crc32c lm htype, classifyIp4] at hrun
  simp only [hlen, if_neg (show ¬ 14 + 20 > b.current.length by omega), hudp,
    hfragment, hoffset, hmore, hversion, ok_bind, ne_eq, not_true_eq_false,
    or_self, if_false, hback, hback', hport', hport, false_or,
    if_neg (show ¬ l2tp > b.current.length by omega),
    if_neg (show ¬ l2tp + 6 > b.current.length by omega), hparse] at hrun
  cases hdr with
  | data flags tid sid off =>
      obtain ⟨fast, -, hrun⟩ := ok_of_bind hrun
      cases hrun
      cases fast with
      | false => exact .inl ⟨_, hc, rfl⟩
      | true => exact .inr ⟨_, hc, rfl⟩
  | tooShort =>
      cases hrun
      exact ⟨_, hc, rfl⟩
  | notV2 =>
      cases hrun
      exact ⟨_, hc, rfl⟩
  | control =>
      cases hrun
      exact ⟨_, hc, rfl⟩

theorem not_hasKind_outer (hlong : l2tp + 8 ≤ b.current.length) :
    ¬ HasKind crc32c lm b .outer := by
  intro houter
  obtain ⟨hdr, hparse, -⟩ := SafeRun.returns (safeRun_l2tvppParseHdr
    (show l2tp + (b.current.length - l2tp) ≤ b.current.length by omega))
  have hkind := hasKind_l2tp crc32c lm htype hl2tp hparse
  cases hdr with
  | data flags tid sid off =>
      rcases hkind with hkind | hkind <;> cases hkind.unique houter
  | tooShort =>
      exact absurd hparse (l2tvppParseHdr_ne_tooShort (by omega))
  | notV2 => cases hkind.unique houter
  | control => cases hkind.unique houter

end Kind

/-! ## Where PPP starts -/

/-- Where the PPP header of a message starts, whether or not it fits. -/
def pppStart (message : List U8) (flags : U16) (cur : Nat) : Option Nat :=
  let cur := if hasFlag flags l2tvppHdrS then cur + 4 else cur
  if hasFlag flags l2tvppHdrO then
    match readU16 message cur with
    | .ok size => some (cur + (2 + size.toNat))
    | .error _ => none
  else some cur

theorem skipSeqAndOffset_pppStart (message : List U8) (flags : U16)
    (cur : Nat) :
    skipSeqAndOffset message flags cur message.length =
      .ok ((pppStart message flags cur).filter
        (· + 4 ≤ message.length)) := by
  have hfits : ∀ start, pppFits start message.length =
      .ok ((some start).filter (· + 4 ≤ message.length)) := by
    intro start
    unfold pppFits
    by_cases h : start + 4 ≤ message.length
    · rw [if_neg (by omega), Option.filter_some_pos (by simpa using h)]
      rfl
    · rw [if_pos (by omega), Option.filter_some_neg (by simpa using h)]
      rfl
  unfold skipSeqAndOffset pppStart
  dsimp only
  generalize (if hasFlag flags l2tvppHdrS then cur + 4 else cur) = field
  split
  · split
    · rename_i hshort
      cases hsize : readU16 message field with
      | error fault => rfl
      | ok size =>
          have hlength := readU16_lt_length hsize
          omega
    · rename_i hlong
      obtain ⟨size, hsize, -⟩ := SafeRun.returns (safeRun_readU16
        (not_lt.mp hlong))
      rw [hsize, ok_bind]
      exact hfits _
  · exact hfits _

theorem pppStart_of_front {front message : List U8} (h : front <+: message)
    {flags : U16} {cur start : Nat}
    (hstart : pppStart front flags cur = some start) :
    pppStart message flags cur = some start := by
  unfold pppStart at hstart ⊢
  dsimp only at hstart ⊢
  split
  · rename_i hpad
    rw [if_pos hpad] at hstart
    cases hsize : readU16 front
        (if hasFlag flags l2tvppHdrS then cur + 4 else cur) with
    | error fault =>
        rw [hsize] at hstart
        cases hstart
    | ok size =>
        rw [hsize] at hstart
        rw [readU16_of_front h (readU16_lt_length hsize), hsize]
        exact hstart
  · rename_i hpad
    rwa [if_neg hpad] at hstart

theorem pppHeader_of_front {front message : List U8} (h : front <+: message)
    {cur : Nat} (hcur : cur + 4 ≤ front.length) :
    pppHeader message cur = pppHeader front cur := by
  have hcontrol : skipAddressControl message cur =
      skipAddressControl front cur := by
    simp only [skipAddressControl,
      readU8_of_front h (show cur < front.length by omega),
      readU8_of_front h (show cur + 1 < front.length by omega)]
  obtain ⟨next, hnext, hle⟩ := SafeRun.returns
    (safeRun_skipAddressControl (show cur + 2 ≤ front.length by omega))
  simp only [pppHeader, hcontrol, hnext, ok_bind, pppProtocol,
    readU8_of_front h (show next < front.length by omega),
    readU16_of_front h (show next + 2 ≤ front.length by omega)]

/-! ## What becomes of a fast frame -/

/-- The decision of `l2tvpp-input`, the session, and where the bytes that it
passes on start in the frame. -/
structure DecapOutcome where
  next : InputNext
  sessionIndex : Option Nat
  innerOffset : U16
  deriving DecidableEq

def decapOutcome (lm : L2tvppMain) (b : VlibBuffer) (c : Classified) :
    Except MemFault DecapOutcome :=
  (l2tvppInput lm (fastBuffer c.buffer c.l2tpOffset)).map fun result =>
    ⟨result.next, result.sessionIndex,
      result.buffer.currentData - b.currentData⟩

/-- The outcome for a message whose PPP header starts at `cur`. -/
def pppOutcome (lm : L2tvppMain) (message : List U8) (tid sid : U16)
    (cur : Nat) : Except MemFault DecapOutcome :=
  match lm.sessionByKey.lookup (l2tvppSessionKey tid sid) with
  | none => pure ⟨.punt, none, 14⟩
  | some index => do
      let (pppProto, inner) ← pppHeader message cur
      match pppNext lm pppProto with
      | none => pure ⟨.punt, some index, 14⟩
      | some next =>
          match lm.sessions.elt? index with
          | none => .error (.freedElement index)
          | some _ => pure ⟨next, some index, 42 + BitVec.ofNat 16 inner⟩

theorem pppOutcome_ne_drop (lm : L2tvppMain) (message : List U8)
    (tid sid : U16) (cur : Nat) (sessionIndex : Option Nat)
    (innerOffset : U16) :
    pppOutcome lm message tid sid cur ≠
      .ok ⟨.drop, sessionIndex, innerOffset⟩ := by
  intro h
  unfold pppOutcome at h
  split at h
  · cases h
  · obtain ⟨ppp, -, h⟩ := ok_of_bind h
    dsimp only at h
    split at h
    · cases h
    · rename_i next hnext
      split at h
      · cases h
      · cases h
        unfold pppNext at hnext
        split at hnext
        · cases hinner : lm.innerIp4NoChecksum <;>
            simp [hinner] at hnext
        · split at hnext <;> cases hnext

theorem pppOutcome_of_front {front message : List U8} (h : front <+: message)
    (lm : L2tvppMain) (tid sid : U16) {cur : Nat}
    (hcur : cur + 4 ≤ front.length) :
    pppOutcome lm message tid sid cur = pppOutcome lm front tid sid cur := by
  unfold pppOutcome
  rw [pppHeader_of_front h hcur]

theorem l2tvppInputPpp_outcome (lm : L2tvppMain) {b : VlibBuffer}
    {start : I16} (flags tid sid : U16) (cur : Nat)
    (hl2tp : b.currentData - start = 42)
    (hrewind : (l2tvppRewindToIp b).currentData - start = 14) :
    (l2tvppInputPpp lm b flags tid sid cur).map (fun result =>
        DecapOutcome.mk result.next result.sessionIndex
          (result.buffer.currentData - start)) =
      pppOutcome lm b.current tid sid cur := by
  unfold l2tvppInputPpp pppOutcome
  cases lm.sessionByKey.lookup (l2tvppSessionKey tid sid) with
  | none =>
      change Except.ok (DecapOutcome.mk _ _ _) = _
      rw [hrewind]
      rfl
  | some index =>
      dsimp only
      cases pppHeader b.current cur with
      | error fault => rfl
      | ok ppp =>
          simp only [ok_bind]
          cases pppNext lm ppp.1 with
          | none =>
              change Except.ok (DecapOutcome.mk _ _ _) = _
              rw [hrewind]
              rfl
          | some next =>
              dsimp only
              cases lm.sessions.elt? index with
              | none => rfl
              | some sess =>
                  have hinner : (decapBuffer b ppp.2 sess).currentData -
                      start = 42 + BitVec.ofNat 16 ppp.2 := by
                    change b.currentData + BitVec.ofInt 16 ppp.2 - start = _
                    rw [BitVec.ofInt_natCast, ← hl2tp]
                    bv_omega
                  change Except.ok (DecapOutcome.mk _ _ _) = _
                  rw [hinner]
                  rfl

theorem decapOutcome_fast {crc32c : List U8 → U32} {lm lm' : L2tvppMain}
    {wantHash : Bool} {b : VlibBuffer} {c : Classified}
    (hc : l2tvppFlowClassify crc32c lm true wantHash b = .ok c)
    (hfast : c.kind = .fast) (hreach : b.reaches 42) {flags tid sid : U16}
    {off : Nat} (hdata : l2tvppParseHdr b.current 42 (b.current.length - 42) =
      .ok (.data flags tid sid off)) :
    decapOutcome lm' b c =
      match (pppStart (b.current.drop 42) flags off).filter
        (· + 4 ≤ (b.current.drop 42).length) with
      | none => pure ⟨.drop, none, 42⟩
      | some cur => pppOutcome lm' (b.current.drop 42) tid sid cur := by
  obtain ⟨-, -, hinside, hoffset, hbuffer⟩ := classifyFrame_fast hfast hc
  let delivered := fastBuffer (recordOffsets b 14 34) 42
  have hcurrent : delivered.current = b.current.drop 42 :=
    current_vlibBufferAdvance b hinside hreach
  have hlength : delivered.currentLength.toNat =
      (b.current.drop 42).length := by
    rw [← hcurrent, VlibBuffer.length_current]
  have hparse : l2tvppParseHdr (b.current.drop 42) 0
      (b.current.drop 42).length = .ok (.data flags tid sid off) := by
    rw [l2tvppParseHdr_data_iff] at hdata ⊢
    simp only [readU16_drop, List.length_drop]
    simpa [Nat.add_assoc] using hdata
  have hdata' : delivered.currentData - b.currentData = 42 := by
    change b.currentData + 42 - b.currentData = 42
    bv_omega
  have hrewind : (l2tvppRewindToIp delivered).currentData - b.currentData =
      14 := by
    change delivered.currentData + BitVec.ofInt 16
      (delivered.l3HdrOffset.toInt - delivered.currentData.toInt) -
        b.currentData = 14
    rw [ofInt_toInt_sub]
    change b.currentData + 42 + (b.currentData + 14 - (b.currentData + 42)) -
      b.currentData = 14
    bv_omega
  unfold decapOutcome
  rw [hoffset, hbuffer]
  change (l2tvppInput lm' delivered).map _ = _
  unfold l2tvppInput
  rw [hcurrent, hlength, hparse, ok_bind]
  dsimp only
  rw [skipSeqAndOffset_pppStart, ok_bind]
  cases (pppStart (b.current.drop 42) flags off).filter
      (· + 4 ≤ (b.current.drop 42).length) with
  | none =>
      change Except.ok (DecapOutcome.mk _ _ (delivered.currentData - _)) = _
      rw [hdata']
      rfl
  | some cur =>
      rw [← hcurrent]
      exact l2tvppInputPpp_outcome lm' flags tid sid cur hdata' hrewind

/-! ## Headers inside the datagram -/

/-- The frame starts with the datagram (and its Ethernet header), and what is
behind it is padding. -/
structure Carries (datagram frame : List U8) : Prop where
  front : datagram <+: frame
  length : ∃ length, readU16 frame 16 = .ok length ∧
    datagram.length = 14 + length.toNat

theorem Carries.of_front {datagram frame frame' : List U8}
    (h : Carries datagram frame) (hinside : 18 ≤ datagram.length)
    (hfront : datagram <+: frame') : Carries datagram frame' := by
  obtain ⟨length, hlength, hdatagram⟩ := h.length
  refine ⟨hfront, length, ?_, hdatagram⟩
  rw [← hlength, readU16_of_front hfront hinside,
    readU16_of_front h.front hinside]

/-- No header that the fast path looks for is outside of the datagram. -/
structure HeadersInside (lm : L2tvppMain) (datagram : List U8) : Prop where
  ip : 34 ≤ datagram.length
  /-- unless the bytes of the port that are inside already rule out L2TP -/
  l2tp : ∀ l2tp, UdpAt datagram l2tp →
    (datagram.drop (l2tp - 6)).take 2 <+: be16 l2tvppUdpPort →
    l2tp + 6 ≤ datagram.length
  ids : ∀ l2tp flags, L2tpAt datagram l2tp →
    readU16 datagram l2tp = .ok flags → flags &&& l2tvppHdrVer = 2 →
    hasFlag flags l2tvppHdrT = false →
    l2tp + (idsOffset flags + 4) ≤ datagram.length
  /-- in the second case the offset pad is longer than any buffer -/
  ppp : OuterAccepted lm datagram → ∀ flags, readU16 datagram 42 = .ok flags →
    ∃ cur, pppStart (datagram.drop 42) flags (idsOffset flags + 4) = some cur ∧
      (42 + cur + 4 ≤ datagram.length ∨ 65535 < 42 + cur + 4)

section Inside

variable {lm : L2tvppMain} {datagram frame : List U8}

theorem l2tvppParseHdr_of_front (h : datagram <+: frame) {cur : Nat}
    {flags : U16} (hcur : cur + 6 ≤ datagram.length)
    (hflags : readU16 datagram cur = .ok flags)
    (hids : flags &&& l2tvppHdrVer = 2 → hasFlag flags l2tvppHdrT = false →
      cur + (idsOffset flags + 4) ≤ datagram.length) :
    l2tvppParseHdr frame cur (frame.length - cur) =
      l2tvppParseHdr datagram cur (datagram.length - cur) := by
  have hle := h.length_le
  unfold l2tvppParseHdr
  rw [if_neg (by omega), if_neg (by omega), hflags,
    readU16_of_front h (by omega), hflags]
  simp only [ok_bind]
  split
  · rfl
  · rename_i hversion
    split
    · rfl
    · rename_i hdata
      have hinside := hids (not_not.mp hversion) (by simpa using hdata)
      unfold idsOffset at hinside
      have hlong : ∀ len, idsOffset flags + 4 ≤ len →
          (hasFlag flags l2tvppHdrL && decide (len < 8)) = false := by
        intro len hlen
        unfold idsOffset at hlen
        cases hL : hasFlag flags l2tvppHdrL with
        | false => rfl
        | true => simpa [hL] using hlen
      rw [hlong _ (by unfold idsOffset; omega),
        hlong _ (by unfold idsOffset; omega), readU16_of_front h (by omega),
        readU16_of_front h (by omega)]

theorem L2tpAt.of_front (h : datagram <+: frame) {l2tp : Nat}
    (hl2tp : L2tpAt datagram l2tp) : L2tpAt frame l2tp where
  toUdpAt := (udpAt_of_front h hl2tp.complete).mpr hl2tp.toUdpAt
  port := by
    have hinside := hl2tp.inside
    have hle := hl2tp.toUdpAt.le
    rw [readU16_of_front h (by omega)]
    exact hl2tp.port
  inside := hl2tp.inside.trans h.length_le

/-- Only what is L2TP inside the datagram is taken for it. -/
theorem HeadersInside.l2tpAt (h : HeadersInside lm datagram)
    (hfront : datagram <+: frame) {l2tp : Nat} (hl2tp : L2tpAt frame l2tp) :
    L2tpAt datagram l2tp := by
  have hudp := (udpAt_of_front hfront h.ip).mp hl2tp.toUdpAt
  have hport : (datagram.drop (l2tp - 6)).take 2 <+: be16 l2tvppUdpPort := by
    rw [← readU16_iff_take.mp hl2tp.port]
    exact (hfront.drop _).take _
  have hinside := h.l2tp l2tp hudp hport
  have hle := hudp.le
  refine ⟨hudp, ?_, hinside⟩
  rw [← hl2tp.port, readU16_of_front hfront (by omega)]

theorem OuterAccepted.l2tpAt (h : OuterAccepted lm frame) :
    L2tpAt frame 42 := by
  obtain ⟨length, -, hmin, hmax⟩ := h.length
  exact ⟨⟨by omega, h.udp, h.unfragmented, 0x45, h.version, by decide⟩, h.port,
    by omega⟩

/-- The outer checks read nothing behind the datagram. -/
theorem outerAccepted_of_carries (h : Carries datagram frame)
    (hinside : 48 ≤ datagram.length)
    (hparse : l2tvppParseHdr frame 42 (frame.length - 42) =
      l2tvppParseHdr datagram 42 (datagram.length - 42)) :
    OuterAccepted lm frame ↔ OuterAccepted lm datagram := by
  obtain ⟨length, hlength, hdatagram⟩ := h.length
  have hle := h.front.length_le
  have hread : readU16 datagram 16 = .ok length := by
    rw [← hlength, readU16_of_front h.front (by omega)]
  have hrange : (34 ≤ length.toNat ∧ length.toNat ≤ frame.length - 14) ↔
      (34 ≤ length.toNat ∧ length.toNat ≤ datagram.length - 14) := by omega
  simp (disch := omega) only [outerAccepted_iff, readU16_of_front h.front,
    readU8_of_front h.front, readU32_of_front h.front,
    readBytes_of_front h.front, hparse, hread, Except.ok.injEq,
    exists_eq_left', hrange]

theorem HeadersInside.parse (h : HeadersInside lm datagram)
    (hfront : datagram <+: frame) {l2tp : Nat} (hl2tp : L2tpAt datagram l2tp) :
    l2tvppParseHdr frame l2tp (frame.length - l2tp) =
      l2tvppParseHdr datagram l2tp (datagram.length - l2tp) := by
  have hinside := hl2tp.inside
  obtain ⟨flags, hflags, -⟩ := SafeRun.returns (safeRun_readU16
    (show l2tp + 2 ≤ datagram.length by omega))
  exact l2tvppParseHdr_of_front hfront hinside hflags
    (h.ids l2tp flags hl2tp hflags)

theorem HeadersInside.outerAccepted (h : HeadersInside lm datagram)
    (hcarries : Carries datagram frame) :
    OuterAccepted lm frame ↔ OuterAccepted lm datagram := by
  have hiff : L2tpAt datagram 42 →
      (OuterAccepted lm frame ↔ OuterAccepted lm datagram) := fun hl2tp =>
    outerAccepted_of_carries hcarries hl2tp.inside
      (h.parse hcarries.front hl2tp)
  constructor
  · intro haccepted
    exact (hiff (h.l2tpAt hcarries.front haccepted.l2tpAt)).mp haccepted
  · intro haccepted
    exact (hiff haccepted.l2tpAt).mpr haccepted

end Inside

/-! ## Frames with the same datagram -/

section SameDecap

variable (crc32c : List U8 → U32) (lm lm' : L2tvppMain)

/-- The two frames are of one kind, and fast ones have one outcome. -/
def SameDecap (b b' : VlibBuffer) : Prop :=
  ∃ c c', l2tvppFlowClassify crc32c lm true false b = .ok c ∧
    l2tvppFlowClassify crc32c lm true false b' = .ok c' ∧ c'.kind = c.kind ∧
    (c.kind = .fast → decapOutcome lm' b' c' = decapOutcome lm' b c)

/-- The buffer has a frame with the datagram, where `current_data` can follow it
to the L2TP header. -/
structure Holds (datagram : List U8) (b : VlibBuffer) : Prop where
  carries : Carries datagram b.current
  reaches : b.reaches 42

variable {crc32c lm lm'} {b b' : VlibBuffer} {datagram : List U8}

theorem Holds.bufferOf {frame : List U8} (h : Carries datagram frame)
    (hlength : frame.length < 2 ^ 16) : Holds datagram (bufferOf frame) where
  carries := by rwa [current_bufferOf hlength]
  reaches := by
    change (0 : Int) + 42 ≤ 32767
    decide

theorem sameDecap_of_kind {kind : FlowKind} (hkind : kind ≠ .fast)
    (h : HasKind crc32c lm b kind) (h' : HasKind crc32c lm b' kind) :
    SameDecap crc32c lm lm' b b' := by
  obtain ⟨c, hc, rfl⟩ := h
  obtain ⟨c', hc', hsame⟩ := h'
  exact ⟨c, c', hc, hc', hsame, fun hfast => absurd hfast hkind⟩

/-- The datagram alone decides what becomes of a fast frame. -/
theorem HeadersInside.decapOutcome (h : HeadersInside lm datagram)
    (hholds : Holds datagram b)
    (haccepted : OuterAccepted lm datagram) {flags tid sid : U16} {off : Nat}
    (hdata : l2tvppParseHdr datagram 42 (datagram.length - 42) =
      .ok (.data flags tid sid off)) {cur : Nat}
    (hcur : pppStart (datagram.drop 42) flags off = some cur)
    (hfits : 42 + cur + 4 ≤ datagram.length ∨ 65535 < 42 + cur + 4)
    {c : Classified} (hc : l2tvppFlowClassify crc32c lm true false b = .ok c)
    (hfast : c.kind = .fast) :
    Node.decapOutcome lm' b c =
      if 42 + cur + 4 ≤ datagram.length then
        pppOutcome lm' (datagram.drop 42) tid sid cur
      else pure ⟨.drop, none, 42⟩ := by
  have hcarries := hholds.carries
  have hle := hcarries.front.length_le
  have hdrop := hcarries.front.drop 42
  have hmax : b.current.length < 2 ^ 16 := by
    rw [VlibBuffer.length_current]
    exact b.currentLength.isLt
  rw [← h.parse hcarries.front haccepted.l2tpAt] at hdata
  rw [decapOutcome_fast hc hfast hholds.reaches hdata,
    pppStart_of_front hdrop hcur]
  by_cases hinside : 42 + cur + 4 ≤ datagram.length
  · rw [if_pos hinside, Option.filter_some_pos (by
      simp only [List.length_drop, decide_eq_true_eq]
      omega)]
    exact pppOutcome_of_front hdrop lm' tid sid (by
      rw [List.length_drop]
      omega)
  · rw [if_neg hinside, Option.filter_some_neg (by
      rw [List.length_drop, decide_eq_false_iff_not]
      omega)]

theorem HeadersInside.sameDecap (h : HeadersInside lm datagram)
    (htype : readU16 datagram 12 = .ok ethernetTypeIp4)
    (hholds : Holds datagram b) (hholds' : Holds datagram b') :
    SameDecap crc32c lm lm' b b' := by
  have hb := hholds.carries
  have hb' := hholds'.carries
  have hlength := readU16_lt_length htype
  have htypeb := (readU16_of_front hb.front hlength).trans htype
  have htypeb' := (readU16_of_front hb'.front hlength).trans htype
  by_cases hcandidate : ∃ l2tp, L2tpAt datagram l2tp
  · obtain ⟨l2tp, hl2tp⟩ := hcandidate
    have hinside := hl2tp.inside
    obtain ⟨hdr, hparse, -⟩ := SafeRun.returns (safeRun_l2tvppParseHdr
      (show l2tp + (datagram.length - l2tp) ≤ datagram.length by omega))
    have hkind := hasKind_l2tp crc32c lm htypeb
      (hl2tp.of_front hb.front) ((h.parse hb.front hl2tp).trans hparse)
    have hkind' := hasKind_l2tp crc32c lm htypeb'
      (hl2tp.of_front hb'.front) ((h.parse hb'.front hl2tp).trans hparse)
    cases hdr with
    | notV2 => exact sameDecap_of_kind (by simp) hkind hkind'
    | control => exact sameDecap_of_kind (by simp) hkind hkind'
    | tooShort => exact sameDecap_of_kind (by simp) hkind hkind'
    | data flags tid sid off =>
        by_cases haccepted : OuterAccepted lm datagram
        · have h42 := hl2tp.toUdpAt.unique haccepted.l2tpAt.toUdpAt
          rw [h42] at hparse
          obtain ⟨-, -, -, hflags, -, -, hoff⟩ :=
            l2tvppParseHdr_data_iff.mp hparse
          obtain ⟨cur, hcur, hfits⟩ := h.ppp haccepted flags hflags
          rw [← hoff] at hcur
          obtain ⟨c, hc, hfast⟩ := (isFast_iff crc32c lm false b).mpr
            ⟨(h.outerAccepted hb).mpr haccepted, by simp⟩
          obtain ⟨c', hc', hfast'⟩ := (isFast_iff crc32c lm false b').mpr
            ⟨(h.outerAccepted hb').mpr haccepted, by simp⟩
          refine ⟨c, c', hc, hc', hfast'.trans hfast.symm, fun _ => ?_⟩
          rw [h.decapOutcome hholds haccepted hparse hcur hfits hc hfast,
            h.decapOutcome hholds' haccepted hparse hcur hfits hc' hfast']
        · have hslow : ∀ {b : VlibBuffer}, Carries datagram b.current →
              ¬ HasKind crc32c lm b .fast := fun hcarries hfast =>
            haccepted ((h.outerAccepted hcarries).mp
              ((isFast_iff crc32c lm false _).mp hfast).1)
          exact sameDecap_of_kind (by simp) (hkind.resolve_right (hslow hb))
            (hkind'.resolve_right (hslow hb'))
  · have hnone : ∀ {frame}, datagram <+: frame → ∀ l2tp,
        ¬ L2tpAt frame l2tp := fun hfront l2tp hl2tp =>
      hcandidate ⟨l2tp, h.l2tpAt hfront hl2tp⟩
    have hip := h.ip
    exact sameDecap_of_kind (by simp)
      (hasKind_outer crc32c lm htypeb (hip.trans hb.front.length_le)
        (hnone hb.front))
      (hasKind_outer crc32c lm htypeb' (hip.trans hb'.front.length_le)
        (hnone hb'.front))

/-! ### Padding that shows -/

/-- The datagram padded up to `stop` bytes. -/
def padded (datagram : List U8) (fill : Nat → U8) (stop : Nat) : List U8 :=
  datagram ++ (List.range' datagram.length (stop - datagram.length)).map fill

theorem prefix_padded (datagram : List U8) (fill : Nat → U8) (stop : Nat) :
    datagram <+: padded datagram fill stop :=
  List.prefix_append _ _

theorem length_padded (datagram : List U8) (fill : Nat → U8) {stop : Nat}
    (h : datagram.length ≤ stop) :
    (padded datagram fill stop).length = stop := by
  simp [padded]
  omega

theorem readU8_padded (datagram : List U8) (fill : Nat → U8) {stop offset : Nat}
    (h : datagram.length ≤ offset) (hoffset : offset < stop) :
    readU8 (padded datagram fill stop) offset = .ok (fill offset) := by
  apply readU8_of_getElem?
  rw [padded, List.getElem?_append_right h, List.getElem?_map,
    List.getElem?_range' (by omega)]
  simp
  congr 1
  omega

/-- Padding copied from a frame reads as that frame does. -/
theorem readU8_padded_frame {datagram frame : List U8}
    (hfront : datagram <+: frame) {stop offset : Nat} (hstop : offset < stop)
    (hoffset : offset < frame.length) :
    readU8 (padded datagram (fun offset => frame.getD offset 0) stop) offset =
      readU8 frame offset := by
  by_cases hinside : offset < datagram.length
  · rw [readU8_of_front (prefix_padded _ _ _) hinside,
      readU8_of_front hfront hinside]
  · rw [readU8_padded _ _ (by omega) hstop]
    symm
    apply readU8_of_getElem?
    simp [List.getElem?_eq_getElem hoffset]

/-- With zeros behind the datagram a PPP header whose place is not given inside
of it is found. -/
theorem pppStart_padded {flags : U16} {off : Nat} (hoff : off ≤ 8)
    (hnone : pppStart (datagram.drop 42) flags off = none) :
    ∃ cur, pppStart ((padded datagram (fun _ => 0) 65535).drop 42) flags off =
      some cur ∧ 42 + cur + 4 ≤ 65535 := by
  unfold pppStart at hnone ⊢
  dsimp only at hnone ⊢
  have hfield : (if hasFlag flags l2tvppHdrS then off + 4 else off) ≤ 12 := by
    split <;> omega
  generalize (if hasFlag flags l2tvppHdrS then off + 4 else off) = field at *
  split at hnone
  · rename_i hpad
    have hshort : datagram.length < 42 + field + 2 := by
      by_contra hlong
      obtain ⟨size, hsize, -⟩ := SafeRun.returns (safeRun_readU16
        (show field + 2 ≤ (datagram.drop 42).length by simp; omega))
      rw [hsize] at hnone
      cases hnone
    have hlow : readU8 (padded datagram (fun _ => 0) 65535) (42 + field + 1) =
        .ok 0 := readU8_padded _ _ (by omega) (by omega)
    obtain ⟨high, hhigh, -⟩ := SafeRun.returns (safeRun_readU8
      (show 42 + field < (padded datagram (fun _ => 0) 65535).length by
        rw [length_padded _ _ (by omega)]
        omega))
    have hsize : readU16 ((padded datagram (fun _ => 0) 65535).drop 42) field =
        .ok (high ++ (0 : U8)) := by
      rw [readU16_drop]
      simp only [readU16, hhigh, hlow]
      rfl
    have hbound : (high ++ (0 : U8)).toNat ≤ 65280 := by
      have hlt := high.isLt
      have hzero : (0 : U8).toNat = 0 := rfl
      rw [toNat_append_bytes]
      omega
    rw [if_pos hpad, hsize]
    exact ⟨_, rfl, by omega⟩
  · cases hnone

variable (hsame : ∀ b b' : VlibBuffer, Holds datagram b →
    Holds datagram b' → SameDecap crc32c lm lm' b b')
  {frame frame' : List U8}

include hsame

theorem hasKind_eq (hframe : Carries datagram frame)
    (hframe' : Carries datagram frame') (hlength : frame.length < 2 ^ 16)
    (hlength' : frame'.length < 2 ^ 16) {kind kind' : FlowKind}
    (hkind : HasKind crc32c lm (bufferOf frame) kind)
    (hkind' : HasKind crc32c lm (bufferOf frame') kind') : kind = kind' := by
  obtain ⟨c, c', hc, hc', heq, -⟩ := hsame _ _ (.bufferOf hframe hlength)
    (.bufferOf hframe' hlength')
  rw [hkind.unique ⟨c, hc, rfl⟩, hkind'.unique ⟨c', hc', rfl⟩, heq]

variable (htype : readU16 datagram 12 = .ok ethernetTypeIp4)

include htype

/-- Without a whole IPv4 header the padding decides whether there is one. -/
theorem thirtyFour_le_length (hcarries : Carries datagram b.current) :
    34 ≤ datagram.length := by
  by_contra hshort
  obtain ⟨length, hlength, hdatagram⟩ := hcarries.length
  have heighteen := readU16_lt_length hlength
  have hle := hcarries.front.length_le
  let fill : Nat → U8 := fun offset => b.current.getD offset 0
  have hread : ∀ {stop offset}, offset < stop → offset < 18 →
      readU8 (padded datagram fill stop) offset = readU8 b.current offset :=
    fun hstop hoffset => readU8_padded_frame hcarries.front hstop (by omega)
  have hpadded : ∀ {stop}, 18 ≤ stop →
      Carries datagram (padded datagram fill stop) := by
    intro stop hstop
    refine ⟨prefix_padded _ _ _, length, ?_, hdatagram⟩
    rw [← hlength]
    simp only [readU16, hread (show 16 < stop by omega) (by omega),
      hread (show 17 < stop by omega) (by omega)]
  have htypes : ∀ stop, readU16 (padded datagram fill stop) 12 =
      .ok ethernetTypeIp4 := fun stop => by
    rw [readU16_of_front (prefix_padded _ _ _) (readU16_lt_length htype), htype]
  have hshortLength := length_padded datagram fill
    (show datagram.length ≤ max 18 datagram.length by omega)
  have hlongLength := length_padded datagram fill
    (show datagram.length ≤ 34 by omega)
  have hshortCurrent := current_bufferOf
    (show (padded datagram fill (max 18 datagram.length)).length < 2 ^ 16 by
      omega)
  have hlongCurrent := current_bufferOf
    (show (padded datagram fill 34).length < 2 ^ 16 by omega)
  have hlocal := hasKind_short crc32c lm
    (b := bufferOf (padded datagram fill (max 18 datagram.length)))
    (by rw [hshortCurrent]; exact htypes _) (by rw [hshortCurrent]; omega)
  have houter := hasKind_outer crc32c lm
    (b := bufferOf (padded datagram fill 34))
    (by rw [hlongCurrent]; exact htypes _) (by rw [hlongCurrent]; omega)
    (by
      rw [hlongCurrent]
      intro l2tp hl2tp
      have hinside := hl2tp.inside
      rw [hlongLength] at hinside
      exact not_l2tpAt_short hl2tp hinside
        (fun hport => by
          obtain ⟨length', hlength', hdatagram'⟩ :=
            (hpadded (show 18 ≤ 34 by omega)).length
          rw [hport] at hlength'
          cases hlength'
          have hvalue : l2tvppUdpPort.toNat = 1701 := rfl
          omega))
  cases hasKind_eq hsame (hpadded (by omega)) (hpadded (by omega)) (by omega)
    (by omega) hlocal houter

/-- No padding turns a frame that goes by its outer header into one with a data
header. -/
theorem outer_padded (hself : Carries datagram datagram)
    (hip : 34 ≤ datagram.length) (fill : Nat → U8) {stop : Nat}
    (hstop : datagram.length ≤ stop) (hmax : stop < 2 ^ 16)
    (houter : HasKind crc32c lm (bufferOf datagram) .outer) {l2tp : Nat}
    (hl2tp : L2tpAt (padded datagram fill stop) l2tp) :
    stop < l2tp + 8 := by
  by_contra hlong
  have hlength := length_padded datagram fill hstop
  have hcurrent := current_bufferOf
    (show (padded datagram fill stop).length < 2 ^ 16 by omega)
  obtain ⟨kind, hkind⟩ := exists_hasKind crc32c lm
    (bufferOf (padded datagram fill stop))
  have hcarries : Carries datagram (padded datagram fill stop) :=
    hself.of_front (by omega) (prefix_padded _ _ _)
  have heq := hasKind_eq hsame hself hcarries (by omega) (by omega) houter hkind
  cases heq
  rw [← hcurrent] at hl2tp
  refine not_hasKind_outer crc32c lm ?_ hl2tp ?_ hkind
  · rw [hcurrent, readU16_of_front (prefix_padded _ _ _)
      (readU16_lt_length htype), htype]
  · rw [hcurrent]
    omega

theorem l2tp_inside (hself : Carries datagram datagram)
    (hip : 34 ≤ datagram.length) {l2tp : Nat} (hudp : UdpAt datagram l2tp)
    (hport : (datagram.drop (l2tp - 6)).take 2 <+: be16 l2tvppUdpPort) :
    l2tp + 6 ≤ datagram.length := by
  by_contra houtside
  have hrange := hudp.le
  let fill : Nat → U8 := fun offset => (be16 l2tvppUdpPort).getD
    (offset - (l2tp - 6)) 0
  have hbyte : ∀ index, index < 2 →
      readU8 (padded datagram fill 100) (l2tp - 6 + index) =
        .ok ((be16 l2tvppUdpPort).getD index 0) := by
    intro index hindex
    by_cases hinside : l2tp - 6 + index < datagram.length
    · rw [readU8_of_front (prefix_padded _ _ _) hinside]
      obtain ⟨rest, hrest⟩ := hport
      have htaken : (be16 l2tvppUdpPort)[index]? =
          datagram[l2tp - 6 + index]? := by
        rw [← hrest, List.getElem?_append_left (by simp; omega),
          List.getElem?_take_of_lt hindex, List.getElem?_drop]
      apply readU8_of_getElem?
      rw [← htaken, List.getD_eq_getElem?_getD,
        List.getElem?_eq_getElem
          (show index < (be16 l2tvppUdpPort).length from hindex)]
      rfl
    · rw [readU8_padded _ _ (by omega) (by omega)]
      simp only [fill, Nat.add_sub_cancel_left]
  have hl2tp : L2tpAt (padded datagram fill 100) l2tp := by
    refine ⟨(udpAt_of_front (prefix_padded _ _ _) hip).mpr hudp, ?_, ?_⟩
    · have hhigh := hbyte 0 (by omega)
      have hlow := hbyte 1 (by omega)
      simp only [Nat.add_zero] at hhigh
      simp only [readU16, hhigh, hlow]
      rfl
    · rw [length_padded _ _ (by omega)]
      omega
  have houter : HasKind crc32c lm (bufferOf datagram) .outer := by
    have hcurrent := current_bufferOf
      (show datagram.length < 2 ^ 16 by omega)
    refine hasKind_outer crc32c lm ?_ ?_ ?_
    · rw [hcurrent, htype]
    · rwa [hcurrent]
    · intro l2tp' hl2tp'
      rw [hcurrent] at hl2tp'
      have hinside := hl2tp'.inside
      rw [← hudp.unique hl2tp'.toUdpAt] at hinside
      omega
  have hcontra := outer_padded hsame htype hself hip fill
    (show datagram.length ≤ 100 by omega) (by omega) houter hl2tp
  omega

theorem ids_inside (hself : Carries datagram datagram)
    (hmax : datagram.length < 2 ^ 16) {l2tp : Nat} {flags : U16}
    (hl2tp : L2tpAt datagram l2tp)
    (hflags : readU16 datagram l2tp = .ok flags)
    (hversion : flags &&& l2tvppHdrVer = 2)
    (hdata : hasFlag flags l2tvppHdrT = false) :
    l2tp + (idsOffset flags + 4) ≤ datagram.length := by
  by_contra houtside
  have hinside := hl2tp.inside
  have hrange := hl2tp.toUdpAt.le
  have hL : hasFlag flags l2tvppHdrL = true := by
    by_contra hL
    simp only [idsOffset, hL] at houtside
    simp at houtside
    omega
  simp only [idsOffset, hL, if_true] at houtside
  have hparse : l2tvppParseHdr datagram l2tp (datagram.length - l2tp) =
      .ok .tooShort := by
    have hshort : (hasFlag flags l2tvppHdrL &&
        decide (datagram.length - l2tp < 8)) = true := by
      rw [hL, Bool.true_and, decide_eq_true_eq]
      omega
    unfold l2tvppParseHdr
    rw [if_neg (by omega), hflags, ok_bind, if_neg (not_not.mpr hversion),
      if_neg (by simp [hdata]), if_pos hshort]
    rfl
  have hcurrent := current_bufferOf hmax
  have houter : HasKind crc32c lm (bufferOf datagram) .outer := by
    rw [← hcurrent] at hl2tp hparse htype
    exact hasKind_l2tp crc32c lm htype hl2tp hparse
  have hcontra := outer_padded hsame htype hself hl2tp.complete (fun _ => 0)
    (show datagram.length ≤ l2tp + 8 by omega) (by omega) houter
    (hl2tp.of_front (prefix_padded _ _ _))
  omega

omit htype in
theorem ppp_inside (hself : Carries datagram datagram)
    (hmax : datagram.length < 2 ^ 16)
    (hids : ∀ l2tp flags, L2tpAt datagram l2tp →
      readU16 datagram l2tp = .ok flags → flags &&& l2tvppHdrVer = 2 →
      hasFlag flags l2tvppHdrT = false →
      l2tp + (idsOffset flags + 4) ≤ datagram.length)
    (haccepted : OuterAccepted lm datagram) {flags : U16}
    (hflags : readU16 datagram 42 = .ok flags) :
    ∃ cur, pppStart (datagram.drop 42) flags (idsOffset flags + 4) = some cur ∧
      (42 + cur + 4 ≤ datagram.length ∨ 65535 < 42 + cur + 4) := by
  by_contra houtside
  have hl2tp := haccepted.l2tpAt
  let frame := padded datagram (fun _ => 0) 65535
  have hfront : datagram <+: frame := prefix_padded _ _ _
  have hlength : frame.length = 65535 := length_padded _ _ (by omega)
  have hcarries : Carries datagram frame := by
    obtain ⟨length, hread, -⟩ := hself.length
    exact hself.of_front (readU16_lt_length hread) hfront
  have hparse : l2tvppParseHdr frame 42 (frame.length - 42) =
      l2tvppParseHdr datagram 42 (datagram.length - 42) :=
    l2tvppParseHdr_of_front hfront hl2tp.inside hflags
      (hids 42 flags hl2tp hflags)
  obtain ⟨flags', tid, sid, off, hdata⟩ := haccepted.data
  obtain ⟨-, -, -, hflags', -, -, hoff⟩ := l2tvppParseHdr_data_iff.mp hdata
  rw [hflags] at hflags'
  cases hflags'
  rw [← hoff] at houtside
  have hstart : ∃ cur, pppStart (frame.drop 42) flags off = some cur ∧
      42 + cur + 4 ≤ 65535 := by
    cases hcur : pppStart (datagram.drop 42) flags off with
    | none =>
        refine pppStart_padded ?_ hcur
        rw [hoff, idsOffset]
        split <;> omega
    | some cur =>
        refine ⟨cur, pppStart_of_front (hfront.drop 42) hcur, ?_⟩
        by_contra hlarge
        exact houtside ⟨cur, hcur, .inr (by omega)⟩
  obtain ⟨cur, hcur, hfits⟩ := hstart
  have hdropped : (pppStart (datagram.drop 42) flags off).filter
      (· + 4 ≤ (datagram.drop 42).length) = none := by
    rw [Option.filter_eq_none_iff]
    intro start hstart
    simp only [List.length_drop, decide_eq_true_eq]
    intro hinside
    exact houtside ⟨start, hstart, .inl (by omega)⟩
  have hcurrent := current_bufferOf hmax
  have hframe : frame.length < 2 ^ 16 := by omega
  have hcurrent' := current_bufferOf hframe
  have hholds := Holds.bufferOf hself hmax
  have hholds' := Holds.bufferOf hcarries hframe
  obtain ⟨c, c', hc, hc', hkind, houtcome⟩ := hsame _ _ hholds hholds'
  have hfast : c.kind = .fast := by
    obtain ⟨c'', hc'', hfast⟩ := (isFast_iff crc32c lm false _).mpr
      ⟨show OuterAccepted lm (bufferOf datagram).current by rwa [hcurrent],
        by simp⟩
    rw [hc] at hc''
    cases hc''
    exact hfast
  have hdata' := hparse.trans hdata
  have heq := houtcome hfast
  rw [← hcurrent] at hdata
  rw [← hcurrent'] at hdata'
  rw [decapOutcome_fast hc hfast hholds.reaches hdata,
    decapOutcome_fast hc' (hkind.trans hfast) hholds'.reaches hdata', hcurrent,
    hcurrent', hcur, hdropped, Option.filter_some_pos (by
      simp only [List.length_drop, hlength, decide_eq_true_eq]
      omega)] at heq
  exact pppOutcome_ne_drop _ _ _ _ _ _ _ heq

end SameDecap

/-- Padding never shows exactly when every header that is looked for is inside
of the datagram. -/
theorem sameDecap_iff_headersInside (crc32c : List U8 → U32)
    (lm lm' : L2tvppMain) {datagram : List U8} {carrier : VlibBuffer}
    (htype : readU16 datagram 12 = .ok ethernetTypeIp4)
    (hcarried : Carries datagram carrier.current) :
    (∀ b b' : VlibBuffer, Holds datagram b → Holds datagram b' →
      SameDecap crc32c lm lm' b b') ↔
      HeadersInside lm datagram := by
  constructor
  · intro hsame
    have hmax : datagram.length < 2 ^ 16 := by
      have hle := hcarried.front.length_le
      have hlt := carrier.currentLength.isLt
      rw [VlibBuffer.length_current] at hle
      omega
    have hip := thirtyFour_le_length hsame htype hcarried
    have hself : Carries datagram datagram :=
      hcarried.of_front (by omega) List.prefix_rfl
    have hids : ∀ l2tp flags, L2tpAt datagram l2tp →
        readU16 datagram l2tp = .ok flags → flags &&& l2tvppHdrVer = 2 →
        hasFlag flags l2tvppHdrT = false →
        l2tp + (idsOffset flags + 4) ≤ datagram.length :=
      fun l2tp flags => ids_inside hsame htype hself hmax
    refine ⟨hip, ?_, ?_, ?_⟩
    · intro l2tp hudp hport
      exact l2tp_inside hsame htype hself hip hudp hport
    · exact hids
    · intro haccepted flags hflags
      exact ppp_inside hsame hself hmax hids haccepted hflags
  · intro h b b' hb hb'
    exact h.sameDecap htype hb hb'

theorem sameDecap_iff_headersInside_lcpEchoRequest :
    let lm := (runCalls Policies.lifo Pool.empty Pool.empty oneTunnel).lm
    ∀ b b' : VlibBuffer, Holds lcpEchoRequest b → Holds lcpEchoRequest b' →
      SameDecap (fun _ => 0) lm lm b b' := by
  intro lm
  have hcurrent : (bufferOf lcpEchoRequest).current = lcpEchoRequest :=
    current_bufferOf (by decide)
  have hstart : ∀ l2tp, UdpAt lcpEchoRequest l2tp → l2tp = 42 := by
    intro l2tp h
    obtain ⟨version, hversion, hstart⟩ := h.start
    cases hversion
    exact hstart
  have hflags : ∀ flags, readU16 lcpEchoRequest 42 = .ok flags → flags = 2 := by
    intro flags h
    cases h
    rfl
  refine (sameDecap_iff_headersInside (fun _ => 0) lm lm (by decide)
    (show Carries lcpEchoRequest (bufferOf lcpEchoRequest).current by
      rw [hcurrent]
      exact ⟨List.prefix_rfl, 46, by decide, by decide⟩)).mpr ?_
  refine ⟨by decide, ?_, ?_, ?_⟩
  · intro l2tp hudp _
    rw [hstart l2tp hudp]
    decide
  · intro l2tp flags hl2tp hread _ _
    rw [hstart l2tp hl2tp.toUdpAt] at hread ⊢
    rw [hflags flags hread]
    decide
  · intro _ flags hread
    rw [hflags flags hread]
    exact ⟨6, by decide, .inl (by decide)⟩

instance (crc32c : List U8 → U32) (lm lm' : L2tvppMain) (b b' : VlibBuffer) :
    Decidable (SameDecap crc32c lm lm' b b') :=
  match h : l2tvppFlowClassify crc32c lm true false b,
      h' : l2tvppFlowClassify crc32c lm true false b' with
  | .ok c, .ok c' => decidable_of_iff (c'.kind = c.kind ∧ (c.kind = .fast →
      decapOutcome lm' b' c' = decapOutcome lm' b c))
      (by simp [SameDecap, h, h'])
  | .error _, _ => isFalse (by simp [SameDecap, h])
  | _, .error _ => isFalse (by simp [SameDecap, h'])

/-- A datagram that ends inside of the L2TP header: the length bit is set, and
the session id is missing. -/
def cutDatagram : List U8 :=
  List.replicate 12 0 ++ be16 ethernetTypeIp4 ++
    [0x45, 0, 0, 34, 0, 0, 0, 0, 64, 17, 0x66, 0xc9, 10, 0, 0, 2, 10, 0, 0, 1] ++
    [0x06, 0xa5, 0x06, 0xa5, 0, 14, 0, 0] ++ [0x40, 2, 0, 6, 0, 100]

def zeroPad : List U8 := List.replicate 12 0

/-- The id of a session, a PPP header and the start of an IPv4 packet. -/
def sessionPad : List U8 := [0, 7, 0xff, 0x03, 0, 0x21, 0x45, 0, 0, 20, 0, 0]

theorem sameDecap_cutDatagram :
    let lm := (runCalls Policies.lifo Pool.empty Pool.empty oneSession).lm
    Holds cutDatagram (bufferOf (cutDatagram ++ zeroPad)) ∧
      Holds cutDatagram (bufferOf (cutDatagram ++ sessionPad)) ∧
      ¬ SameDecap (fun _ => 0) lm lm (bufferOf (cutDatagram ++ zeroPad))
        (bufferOf (cutDatagram ++ sessionPad)) := by
  intro lm
  refine ⟨.bufferOf ⟨?_, 34, by decide, by decide⟩ (by decide),
    .bufferOf ⟨?_, 34, by decide, by decide⟩ (by decide), by decide⟩
  · exact List.prefix_append _ _
  · exact List.prefix_append _ _

end L2tvpp.Node
