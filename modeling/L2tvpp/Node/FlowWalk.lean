import L2tvpp.Node.Decap
import L2tvpp.Node.FlowHandoff

/-!
# The two walks over one header

The flow classifier looks at a frame from its Ethernet header on, `l2tvpp-input`
at the same bytes from the L2TP header on.  Their walks to the inner packet are
written separately; here they are shown to be the same walk.
-/

namespace L2tvpp.Node

open L2tvpp.Lib
open L2tvpp.Plugin

/-! ## Frames to udp/1701 -/

/-- An IPv4 header with any options. -/
structure Ip4Header where
  versionAndLength : U8
  tos : U8
  length : U16
  fragmentId : U16
  flagsAndOffset : U16
  ttl : U8
  protocol : U8
  checksum : U16
  src : U32
  dst : U32
  options : List U8
  version : versionAndLength >>> 4 = 4
  headerBytes : ip4HeaderBytes versionAndLength = 20 + options.length

/-- The header of a packet that is no fragment. -/
structure WholeIp4Header extends Ip4Header where
  notFragment : ip4GetFragmentOffset flagsAndOffset = 0
  notMore : ip4GetFragmentMore flagsAndOffset = 0

namespace Ip4Header

/-! The usual values: a header without options, of a whole packet. -/

theorem plain_version : (0x45 : U8) >>> 4 = 4 := by decide

theorem plain_headerBytes :
    ip4HeaderBytes 0x45 = 20 + ([] : List U8).length := by decide

theorem whole_offset : ip4GetFragmentOffset 0 = 0 := by decide

theorem whole_more : ip4GetFragmentMore 0 = 0 := by decide

variable (ip : Ip4Header)

def front : List U8 :=
  [ip.versionAndLength, ip.tos] ++ be16 ip.length ++ be16 ip.fragmentId ++
    be16 ip.flagsAndOffset ++ [ip.ttl, ip.protocol] ++ be16 ip.checksum

def encode : List U8 := ip.front ++ be32 ip.src ++ be32 ip.dst ++ ip.options

@[simp] theorem length_encode : ip.encode.length = 20 + ip.options.length := by
  simp [encode, front]
  omega

variable (rest : List U8)

theorem readU8_version : readU8 (ip.encode ++ rest) 0 =
    .ok ip.versionAndLength := rfl

theorem readU8_protocol : readU8 (ip.encode ++ rest) 9 = .ok ip.protocol := rfl

theorem readU16_flagsAndOffset :
    readU16 (ip.encode ++ rest) 6 = .ok ip.flagsAndOffset := by
  simp only [encode, front, List.append_assoc]
  rw [← List.append_assoc, ← List.append_assoc]
  exact readU16_append_be16 _ _ ip.flagsAndOffset rfl

theorem readBytes_src :
    readBytes (ip.encode ++ rest) 12 4 = .ok (be32 ip.src) := by
  simp only [encode, List.append_assoc]
  exact readBytes_append ip.front _ _ rfl rfl

theorem readBytes_dst :
    readBytes (ip.encode ++ rest) 16 4 = .ok (be32 ip.dst) := by
  simp only [encode, List.append_assoc]
  rw [← List.append_assoc]
  exact readBytes_append (ip.front ++ be32 ip.src) _ _ rfl rfl

end Ip4Header

/-- The type of an IPv4 frame, behind an 802.1Q tag if it has one. -/
def ip4Type (tag : Option U16) : List U8 :=
  match tag with
  | none => be16 ethernetTypeIp4
  | some tci => be16 ethernetTypeVlan ++ be16 tci ++ be16 ethernetTypeIp4

/-- The headers in front of the L2TP header: Ethernet, with or without one
802.1Q tag, IPv4 and UDP to port 1701. -/
structure OuterHeaders where
  addresses : List U8
  tag : Option U16
  ip : WholeIp4Header
  srcPort : U16
  udpLength : U16
  udpChecksum : U16
  length_addresses : addresses.length = 12
  udp : ip.protocol = ipProtocolUdp

namespace OuterHeaders

variable (outer : OuterHeaders)

def ethernet : List U8 := outer.addresses ++ ip4Type outer.tag

def udpHeader : List U8 :=
  be16 outer.srcPort ++ be16 l2tvppUdpPort ++ be16 outer.udpLength ++
    be16 outer.udpChecksum

def encode : List U8 := outer.ethernet ++ outer.ip.encode ++ outer.udpHeader

theorem length_encode :
    outer.encode.length = outer.ethernet.length +
      ip4HeaderBytes outer.ip.versionAndLength + 8 := by
  simp [encode, udpHeader, outer.ip.headerBytes]
  omega

theorem readU16_dstPort (rest : List U8) :
    readU16 (outer.udpHeader ++ rest) 2 = .ok l2tvppUdpPort := by
  simp only [udpHeader, List.append_assoc]
  exact readU16_append_be16 (be16 outer.srcPort) _ l2tvppUdpPort rfl

end OuterHeaders

/-! ## The classifier reaches the L2TP header -/

section Shift

variable (front d : List U8)

theorem l2tvppParseHdr_append {flags tid sid : U16} {off : Nat}
    (h : l2tvppParseHdr d 0 d.length = .ok (.data flags tid sid off)) :
    l2tvppParseHdr (front ++ d) front.length d.length =
      .ok (.data flags tid sid off) := by
  obtain ⟨hlen, hversion, hdata, hflags, htid, hsid, rfl⟩ :=
    l2tvppParseHdr_data_iff.mp h
  rw [Nat.zero_add] at htid hsid
  refine l2tvppParseHdr_data hlen hversion hdata ?_ ?_ ?_
  · rw [← hflags, ← readU16_append_add front d (by omega), Nat.add_zero]
  · rw [← htid]
    exact readU16_append_add front d (by omega)
  · rw [← hsid, Nat.add_assoc]
    exact readU16_append_add front d (by omega)

theorem flowPppProtocol_append {cur : Nat} (h : cur + 2 ≤ d.length) :
    flowPppProtocol (front ++ d) (front.length + cur) =
      (flowPppProtocol d cur).map (Option.map (front.length + ·)) := by
  unfold flowPppProtocol
  rw [readU8_append_add front d (by omega), readU16_append_add front d h]
  obtain ⟨first, hfirst, -⟩ :=
    (safeRun_readU8 (by omega) : SafeRun False (readU8 d cur) _).returns
  obtain ⟨pp, hpp, -⟩ :=
    (safeRun_readU16 h : SafeRun False (readU16 d cur) _).returns
  simp only [hfirst, hpp, ok_bind]
  repeat' split
  all_goals rfl

theorem flowPpp_append {cur : Nat} :
    flowPpp (front ++ d) (front.length + cur) (front.length + d.length) =
      (flowPpp d cur d.length).map (Option.map (front.length + ·)) := by
  unfold flowPpp
  by_cases hfits : cur + 4 > d.length
  · rw [if_pos hfits, if_pos (by omega)]
    rfl
  · rw [if_neg hfits, if_neg (by omega), Nat.add_assoc, Nat.add_assoc,
      readU8_append_add front d (by omega),
      readU8_append_add front d (by omega)]
    obtain ⟨address, haddress, -⟩ :=
      (safeRun_readU8 (by omega) : SafeRun False (readU8 d cur) _).returns
    obtain ⟨control, hcontrol, -⟩ :=
      (safeRun_readU8 (by omega) :
        SafeRun False (readU8 d (cur + 1)) _).returns
    simp only [haddress, hcontrol, ok_bind]
    split
    · split
      · exact flowPppProtocol_append front d (by omega)
      · exact flowPppProtocol_append front d (by omega)
    · exact flowPppProtocol_append front d (by omega)

theorem flowWalk_append {flags : U16} {cur : Nat} :
    flowWalk (front ++ d) flags (front.length + cur) (front ++ d).length =
      (flowWalk d flags cur d.length).map (Option.map (front.length + ·)) := by
  have hcur : (if hasFlag flags l2tvppHdrS then front.length + cur + 4
      else front.length + cur) =
      front.length + (if hasFlag flags l2tvppHdrS then cur + 4 else cur) := by
    split <;> omega
  simp only [flowWalk, hcur, List.length_append]
  generalize (if hasFlag flags l2tvppHdrS then cur + 4 else cur) = cur
  split
  · by_cases hfield : cur + 2 > d.length
    · rw [if_pos hfield, if_pos (by omega)]
      rfl
    · rw [if_neg hfield, if_neg (by omega),
        readU16_append_add front d (by omega)]
      obtain ⟨size, hsize, -⟩ :=
        (safeRun_readU16 (by omega) : SafeRun False (readU16 d cur) _).returns
      simp only [hsize, ok_bind, Nat.add_assoc]
      exact flowPpp_append front d
  · exact flowPpp_append front d

end Shift

section Reach

variable (hashIp : List U8 → Nat → Nat → Except MemFault (Option U32))
  (lm : L2tvppMain) (fastpath wantHash : Bool) {outer : OuterHeaders}
  {d : List U8} {b : VlibBuffer}

theorem classifyFrame_ethernet {addresses : List U8} (tag : Option U16)
    (haddresses : addresses.length = 12)
    (hb : b.current = addresses ++ ip4Type tag ++ d) :
    classifyFrame hashIp lm fastpath wantHash b =
      classifyIp4 hashIp lm fastpath wantHash b (addresses ++ ip4Type tag).length
        tag.isSome := by
  have hlen : b.currentLength.toNat = b.current.length := by simp
  have hsize : 12 + (ip4Type tag).length ≤ b.currentLength.toNat := by
    rw [hlen, hb, List.length_append, List.length_append]
    omega
  rw [List.append_assoc] at hb
  cases tag with
  | none =>
      have htype : ip4Type none = be16 ethernetTypeIp4 := rfl
      have hethernet : (addresses ++ ip4Type none).length = 14 := by
        simp [htype, haddresses]
      have hread : readU16 b.current 12 = .ok ethernetTypeIp4 := by
        rw [hb, htype]
        exact readU16_append_be16 _ _ ethernetTypeIp4 haddresses.symm
      rw [htype, length_be16] at hsize
      rw [classifyFrame, if_neg (by omega), hread, hethernet]
      rfl
  | some tci =>
      have htype : ip4Type (some tci) = be16 ethernetTypeVlan ++
          (be16 tci ++ be16 ethernetTypeIp4) := List.append_assoc ..
      have hethernet : (addresses ++ ip4Type (some tci)).length = 18 := by
        simp [htype, haddresses]
      have hvlan : readU16 b.current 12 = .ok ethernetTypeVlan := by
        rw [hb, htype, List.append_assoc]
        exact readU16_append_be16 _ _ ethernetTypeVlan haddresses.symm
      have hread : readU16 b.current 16 = .ok ethernetTypeIp4 := by
        have hinner := readU16_append_be16
          (addresses ++ be16 ethernetTypeVlan ++ be16 tci) d ethernetTypeIp4
          (show 16 = _ by simp [haddresses])
        rw [hb, htype]
        simpa only [List.append_assoc] using hinner
      simp only [htype, List.length_append, length_be16] at hsize
      rw [classifyFrame, if_neg (by omega), hvlan, hethernet]
      simp only [ok_bind, if_true, if_neg (show ¬ 18 > b.currentLength.toNat by
        omega), hread]
      rfl

theorem classifyFrame_ip4 (hb : b.current = outer.encode ++ d) :
    classifyFrame hashIp lm fastpath wantHash b =
      classifyIp4 hashIp lm fastpath wantHash b outer.ethernet.length
        outer.tag.isSome := by
  refine classifyFrame_ethernet hashIp lm fastpath wantHash outer.tag
    outer.length_addresses (d := outer.ip.encode ++ (outer.udpHeader ++ d)) ?_
  rw [hb]
  simp only [OuterHeaders.encode, OuterHeaders.ethernet, List.append_assoc]

theorem classifyIp4_data {flags tid sid : U16} {off : Nat} (tagged : Bool)
    (hb : b.current = outer.encode ++ d)
    (hparse : l2tvppParseHdr d 0 d.length = .ok (.data flags tid sid off)) :
    classifyIp4 hashIp lm fastpath wantHash b outer.ethernet.length tagged =
      classifyData hashIp lm fastpath wantHash b outer.ethernet.length
        (outer.ethernet.length + ip4HeaderBytes outer.ip.versionAndLength)
        outer.encode.length tagged flags off := by
  have hlen : b.currentLength.toNat = outer.encode.length + d.length := by
    rw [← List.length_append, ← hb, VlibBuffer.length_current]
  have hmin : 6 ≤ d.length := by
    obtain ⟨hlen, -⟩ := l2tvppParseHdr_data_iff.mp hparse
    unfold idsOffset at hlen
    split at hlen <;> omega
  have hheader := outer.ip.headerBytes
  have hencode := outer.length_encode
  have hip : b.current = outer.ethernet ++
      (outer.ip.encode ++ (outer.udpHeader ++ d)) := by
    rw [hb]
    simp only [OuterHeaders.encode, List.append_assoc]
  have hiplen : 20 ≤ (outer.ip.encode ++ (outer.udpHeader ++ d)).length := by
    rw [List.length_append, Ip4Header.length_encode]
    omega
  have hudp : b.current = (outer.ethernet ++ outer.ip.encode) ++
      (outer.udpHeader ++ d) := by
    rw [hip, List.append_assoc]
  have hproto : readU8 b.current (outer.ethernet.length + 9) =
      .ok ipProtocolUdp := by
    rw [hip, readU8_append_add _ _ (by omega), Ip4Header.readU8_protocol,
      outer.udp]
  have hfragment : readU16 b.current (outer.ethernet.length + 6) =
      .ok outer.ip.flagsAndOffset := by
    rw [hip, readU16_append_add _ _ (by omega)]
    exact outer.ip.readU16_flagsAndOffset _
  have hversion : readU8 b.current outer.ethernet.length =
      .ok outer.ip.versionAndLength := by
    have hread := readU8_append_add outer.ethernet
      (outer.ip.encode ++ (outer.udpHeader ++ d)) (show 0 < _ by omega)
    rw [hip]
    exact hread
  have hport : readU16 b.current (outer.ethernet.length +
      ip4HeaderBytes outer.ip.versionAndLength + 2) = .ok l2tvppUdpPort := by
    have hread := readU16_append_add (outer.ethernet ++ outer.ip.encode)
      (outer.udpHeader ++ d) (show 2 + 2 ≤ _ by
        simp [OuterHeaders.udpHeader]; omega)
    rw [List.length_append, Ip4Header.length_encode, ← hheader, ← hudp] at hread
    rw [hread]
    exact outer.readU16_dstPort d
  have hl2tp : l2tvppParseHdr b.current outer.encode.length
      (b.currentLength.toNat - outer.encode.length) =
      .ok (.data flags tid sid off) := by
    rw [hlen, Nat.add_sub_cancel_left, hb]
    exact l2tvppParseHdr_append outer.encode d hparse
  rw [hencode] at hl2tp hlen ⊢
  simp only [classifyIp4, hproto, hfragment, hversion, hport, ok_bind,
    outer.ip.notFragment, outer.ip.notMore, hl2tp]
  rw [if_neg (by omega), if_neg (by simp), if_neg (by omega), if_neg]
  rw [not_or]
  exact ⟨by simp, by omega⟩

/-- On a data frame the classifier only chooses between its results by the
inner walk; nothing before it depends on the hash. -/
theorem classifyFrame_data {flags tid sid : U16} {off : Nat}
    (hb : b.current = outer.encode ++ d)
    (hparse : l2tvppParseHdr d 0 d.length = .ok (.data flags tid sid off)) :
    ∃ fast b',
      b'.current = b.current ∧ b'.currentLength = b.currentLength ∧
      ∀ hashIp wantHash,
        classifyFrame hashIp lm fastpath wantHash b =
          if !wantHash then
            pure ⟨if fast then .fast else .inner, 0,
              if fast then BitVec.ofNat 16 outer.encode.length else 0, b'⟩
          else classifyInner hashIp wantHash b' outer.ethernet.length
            outer.encode.length flags off fast
            (if fast then BitVec.ofNat 16 outer.encode.length else 0) := by
  have hlen : outer.ethernet.length + 20 ≤ b.current.length := by
    rw [hb, List.length_append, outer.length_encode, outer.ip.headerBytes]
    omega
  obtain ⟨fast, hfast, -⟩ := (safeRun_fastEligible hlen : SafeRun False
    (fastEligible lm b.current outer.ethernet.length b.currentLength.toNat
      fastpath outer.tag.isSome) _).returns
  refine ⟨fast, if fast then recordOffsets b outer.ethernet.length
    (outer.ethernet.length + ip4HeaderBytes outer.ip.versionAndLength) else b,
    ?_, ?_, ?_⟩
  · cases fast <;> rfl
  · cases fast <;> rfl
  · intro hashIp wantHash
    rw [classifyFrame_ip4 hashIp lm fastpath wantHash hb,
      classifyIp4_data hashIp lm fastpath wantHash _ hb hparse, classifyData,
      hfast]
    rfl

end Reach

/-! ## The walk of the classifier is the walk of the input node -/

/-- Where the inner packet starts if the PPP protocol is one of IP. -/
def ipPacket (ppp : U16 × Nat) : Option Nat :=
  if ppp.1 ≠ pppProtoIp4 ∧ ppp.1 ≠ pppProtoIp6 then none else some ppp.2

theorem setWidth_eq_pppProto {first : U8} {proto : U16} (h : proto < 256) :
    first.setWidth 16 = proto ↔ first = proto.setWidth 8 := by
  have hlt := first.isLt
  have hproto : proto.toNat < 256 := h
  simp only [← BitVec.toNat_inj, BitVec.toNat_setWidth]
  omega

theorem flowPppProtocol_eq (buffer : List U8) (cur : Nat) :
    flowPppProtocol buffer cur = (pppProtocol buffer cur).map ipPacket := by
  unfold flowPppProtocol pppProtocol
  cases readU8 buffer cur with
  | error fault => rfl
  | ok first =>
      simp only [ok_bind]
      split
      · have hip4 : first.setWidth 16 = pppProtoIp4 ↔
            first = pppProtoIp4.setWidth 8 := setWidth_eq_pppProto (by decide)
        have hip6 : first.setWidth 16 = pppProtoIp6 ↔
            first = pppProtoIp6.setWidth 8 := setWidth_eq_pppProto (by decide)
        simp only [ne_eq, ← hip4, ← hip6]
        split
        · rename_i hother
          exact congrArg Except.ok (if_pos hother).symm
        · rename_i hip
          exact congrArg Except.ok (if_neg hip).symm
      · cases readU16 buffer cur with
        | error fault => rfl
        | ok pp =>
            simp only [ok_bind]
            split
            · rename_i hother
              exact congrArg Except.ok (if_pos hother).symm
            · rename_i hip
              exact congrArg Except.ok (if_neg hip).symm

theorem flowPpp_eq (buffer : List U8) (cur stop : Nat) :
    flowPpp buffer cur stop = (do
      match ← pppFits cur stop with
      | none => pure none
      | some cur => (pppHeader buffer cur).map ipPacket) := by
  unfold flowPpp pppFits
  by_cases hfits : cur + 4 > stop
  · simp only [if_pos hfits]
    rfl
  · simp only [if_neg hfits]
    change _ = (pppHeader buffer cur).map ipPacket
    unfold pppHeader skipAddressControl
    cases readU8 buffer cur with
    | error fault => rfl
    | ok address =>
        simp only [ok_bind]
        split
        · cases readU8 buffer (cur + 1) with
          | error fault => rfl
          | ok control =>
              simp only [ok_bind]
              split
              · exact flowPppProtocol_eq buffer (cur + 2)
              · exact flowPppProtocol_eq buffer cur
        · exact flowPppProtocol_eq buffer cur

theorem flowWalk_eq (buffer : List U8) (flags : U16) (cur stop : Nat) :
    flowWalk buffer flags cur stop = (do
      match ← skipSeqAndOffset buffer flags cur stop with
      | none => pure none
      | some cur => (pppHeader buffer cur).map ipPacket) := by
  unfold flowWalk skipSeqAndOffset
  dsimp only
  generalize (if hasFlag flags l2tvppHdrS then cur + 4 else cur) = cur
  split
  · split
    · rfl
    · cases readU16 buffer cur with
      | error fault => rfl
      | ok size => exact flowPpp_eq buffer _ stop
  · exact flowPpp_eq buffer cur stop

theorem flowWalk_framing (header : DataHeader) (addressControl compressed : Bool)
    {proto : U16} {payload : List U8}
    (hproto : proto = pppProtoIp4 ∨ proto = pppProtoIp6)
    (hlen : 4 ≤ (pppFraming addressControl compressed proto ++
      payload).length) :
    let message := header.encode ++
      (pppFraming addressControl compressed proto ++ payload)
    flowWalk message header.flags header.ids.length message.length =
      .ok (some (header.encode ++
        pppFraming addressControl compressed proto).length) := by
  intro message
  have hskip := header.skipSeqAndOffset_encode _ hlen
  have hppp := pppHeader_framing header.encode payload hproto addressControl
    compressed
  have hip : ∀ next, ipPacket (proto, next) = some next := by
    intro next
    unfold ipPacket
    rcases hproto with h | h <;> simp [h]
  rw [flowWalk_eq, hskip]
  simp only [message, ok_bind, hppp, Except.map, hip]

/-! ## The messages with an inner packet -/

/-- A legal encapsulation of an IP packet, which starts at `x`; four bytes of
PPP header and packet are there at least. -/
def Encapsulates (d : List U8) (x : Nat) : Prop :=
  ∃ (header : DataHeader) (addressControl compressed : Bool) (proto : U16)
    (payload : List U8),
    (proto = pppProtoIp4 ∨ proto = pppProtoIp6) ∧
    4 ≤ (pppFraming addressControl compressed proto ++ payload).length ∧
    d = header.encode ++
      (pppFraming addressControl compressed proto ++ payload) ∧
    x = (header.encode ++ pppFraming addressControl compressed proto).length

section Decode

variable {d : List U8}

theorem exists_ids {flags tid sid : U16} {off : Nat}
    (hparse : l2tvppParseHdr d 0 d.length = .ok (.data flags tid sid off)) :
    ∃ length, d = be16 flags ++
      ((if hasFlag flags l2tvppHdrL then be16 length else []) ++
        (be16 tid ++ be16 sid)) ++ d.drop off := by
  obtain ⟨hlen, -, -, hflags, htid, hsid, rfl⟩ :=
    l2tvppParseHdr_data_iff.mp hparse
  rw [Nat.zero_add] at htid hsid
  have hfirst := drop_of_readU16 hflags
  rw [List.drop_zero] at hfirst
  have hids := drop_of_readU16 htid
  rw [drop_of_readU16 hsid, Nat.add_assoc] at hids
  cases hL : hasFlag flags l2tvppHdrL with
  | false =>
      simp only [idsOffset, hL, Bool.false_eq_true, if_false] at hids ⊢
      refine ⟨0, ?_⟩
      rw [List.nil_append, List.append_assoc, List.append_assoc, ← hids]
      exact hfirst
  | true =>
      simp only [idsOffset, hL, if_true] at hids hlen ⊢
      obtain ⟨length, hlength, -⟩ := (safeRun_readU16 (by omega) :
        SafeRun False (readU16 d 2) _).returns
      refine ⟨length, ?_⟩
      rw [List.append_assoc, List.append_assoc, List.append_assoc, ← hids,
        ← drop_of_readU16 hlength]
      exact hfirst

theorem exists_sequence {flags : U16} {cur start : Nat}
    (hstart : start = if hasFlag flags l2tvppHdrS then cur + 4 else cur)
    (hinside : start ≤ d.length) :
    ∃ ns nr, d.drop cur =
      (if hasFlag flags l2tvppHdrS then be16 ns ++ be16 nr else []) ++
        d.drop start := by
  subst hstart
  cases hS : hasFlag flags l2tvppHdrS with
  | false => exact ⟨0, 0, rfl⟩
  | true =>
      rw [hS, if_pos rfl] at hinside
      obtain ⟨ns, hns, -⟩ := (safeRun_readU16 (by omega) :
        SafeRun False (readU16 d cur) _).returns
      obtain ⟨nr, hnr, -⟩ := (safeRun_readU16 (by omega) :
        SafeRun False (readU16 d (cur + 2)) _).returns
      refine ⟨ns, nr, ?_⟩
      rw [drop_of_readU16 hns, drop_of_readU16 hnr]
      exact (List.append_assoc ..).symm

theorem pppFits_eq_some {cur stop next : Nat}
    (h : pppFits cur stop = .ok (some next)) :
    next = cur ∧ cur + 4 ≤ stop := by
  unfold pppFits at h
  split at h
  · cases h
  · cases h
    exact ⟨rfl, by omega⟩

/-- The walk over sequence numbers and pad passes over the two fields. -/
theorem exists_fields {flags : U16} {off cur : Nat}
    (hskip : skipSeqAndOffset d flags off d.length = .ok (some cur)) :
    ∃ ns nr pad, pad.length < 65536 ∧ cur + 4 ≤ d.length ∧
      d.drop off =
        (if hasFlag flags l2tvppHdrS then be16 ns ++ be16 nr else []) ++
          ((if hasFlag flags l2tvppHdrO then
              be16 (BitVec.ofNat 16 pad.length) ++ pad else []) ++
            d.drop cur) := by
  unfold skipSeqAndOffset at hskip
  dsimp only at hskip
  obtain ⟨start, hstart⟩ : ∃ start,
    start = if hasFlag flags l2tvppHdrS then off + 4 else off := ⟨_, rfl⟩
  rw [← hstart] at hskip
  cases hO : hasFlag flags l2tvppHdrO with
  | false =>
      rw [hO, if_neg Bool.false_ne_true] at hskip
      obtain ⟨rfl, hfits⟩ := pppFits_eq_some hskip
      obtain ⟨ns, nr, hseq⟩ := exists_sequence (d := d) hstart (by omega)
      exact ⟨ns, nr, [], by decide, hfits, hseq⟩
  | true =>
      rw [hO, if_pos rfl] at hskip
      split at hskip
      · cases hskip
      · obtain ⟨size, hsize, hfield⟩ := ok_of_bind hskip
        obtain ⟨rfl, hfits⟩ := pppFits_eq_some hfield
        obtain ⟨ns, nr, hseq⟩ := exists_sequence (d := d) hstart (by omega)
        have hpad : ((d.drop (start + 2)).take size.toNat).length =
            size.toNat := by
          rw [List.length_take, List.length_drop]
          omega
        refine ⟨ns, nr, (d.drop (start + 2)).take size.toNat, ?_, hfits, ?_⟩
        · rw [hpad]
          exact size.isLt
        · have hbehind : d.drop (start + (2 + size.toNat)) =
              (d.drop (start + 2)).drop size.toNat := by
            rw [List.drop_drop, Nat.add_assoc]
          rw [hseq, hpad, BitVec.ofNat_toNat, BitVec.setWidth_eq,
            drop_of_readU16 hsize, if_pos rfl, List.append_assoc, hbehind,
            List.take_append_drop]

theorem exists_header {flags tid sid : U16} {off cur : Nat}
    (hparse : l2tvppParseHdr d 0 d.length = .ok (.data flags tid sid off))
    (hskip : skipSeqAndOffset d flags off d.length = .ok (some cur)) :
    ∃ header : DataHeader, header.encode.length = cur ∧
      d = header.encode ++ d.drop cur := by
  obtain ⟨-, hversion, hdata, -⟩ := l2tvppParseHdr_data_iff.mp hparse
  obtain ⟨length, hids⟩ := exists_ids hparse
  obtain ⟨ns, nr, pad, hpad, hfits, hfields⟩ := exists_fields hskip
  let header : DataHeader :=
    ⟨flags, length, tid, sid, ns, nr, pad, hdata, hversion, hpad⟩
  have hencode : d = header.encode ++ d.drop cur := by
    rw [hfields] at hids
    simpa only [header, DataHeader.encode, DataHeader.ids, DataHeader.sequence,
      DataHeader.offset, List.append_assoc] using hids
  refine ⟨header, ?_, hencode⟩
  have hlength := congrArg List.length hencode
  rw [List.length_append, List.length_drop] at hlength
  omega

theorem exists_addressControl {cur start : Nat}
    (hskip : skipAddressControl d cur = .ok start) :
    ∃ addressControl : Bool,
      d.drop cur = (if addressControl then [0xff, 0x03] else []) ++
        d.drop start ∧
      start = cur + (if addressControl then ([0xff, 0x03] : List U8)
        else []).length := by
  obtain ⟨address, haddress, hskip⟩ := ok_of_bind hskip
  split at hskip
  · rename_i hff
    obtain ⟨control, hread, hskip⟩ := ok_of_bind hskip
    cases hskip
    split
    · rename_i h03
      refine ⟨true, ?_, rfl⟩
      rw [drop_of_readU8 haddress, drop_of_readU8 hread, beq_iff_eq.mp hff,
        beq_iff_eq.mp h03]
      rfl
    · exact ⟨false, rfl, rfl⟩
  · cases hskip
    exact ⟨false, rfl, rfl⟩

theorem exists_framing {cur next : Nat} {proto : U16}
    (hppp : pppHeader d cur = .ok (proto, next)) :
    ∃ addressControl compressed,
      d.drop cur = pppFraming addressControl compressed proto ++ d.drop next ∧
      next = cur + (pppFraming addressControl compressed proto).length := by
  obtain ⟨start, hskip, hprotocol⟩ := ok_of_bind hppp
  obtain ⟨addressControl, hcontrol, hstart⟩ := exists_addressControl hskip
  obtain ⟨first, hfirst, hprotocol⟩ := ok_of_bind hprotocol
  split at hprotocol
  · cases hprotocol
    refine ⟨addressControl, true, ?_, ?_⟩
    · rw [hcontrol, drop_of_readU8 hfirst, pppFraming, if_pos rfl,
        BitVec.setWidth_setWidth_of_le _ (by decide), BitVec.setWidth_eq,
        List.append_assoc]
      rfl
    · rw [pppFraming, List.length_append, ← Nat.add_assoc, ← hstart]
      rfl
  · obtain ⟨value, hvalue, hprotocol⟩ := ok_of_bind hprotocol
    cases hprotocol
    refine ⟨addressControl, false, ?_, ?_⟩
    · rw [hcontrol, drop_of_readU16 hvalue, pppFraming, List.append_assoc]
      rfl
    · rw [pppFraming, List.length_append, ← Nat.add_assoc, ← hstart]
      rfl

/-- The walk ends at an IP packet exactly if the message is an encapsulation of
one. -/
theorem flowWalk_iff_encapsulates {flags tid sid : U16} {off : Nat}
    (hparse : l2tvppParseHdr d 0 d.length = .ok (.data flags tid sid off))
    (x : Nat) :
    flowWalk d flags off d.length = .ok (some x) ↔ Encapsulates d x := by
  constructor
  · intro hwalk
    rw [flowWalk_eq] at hwalk
    obtain ⟨walked, hskip, hwalk⟩ := ok_of_bind hwalk
    cases walked with
    | none => cases hwalk
    | some cur =>
        obtain ⟨header, hlength, hheader⟩ := exists_header hparse hskip
        have hsafe : SafeRun True (skipSeqAndOffset d flags off d.length) _ :=
          safeRun_skipSeqAndOffset le_rfl
        have hfits := hsafe.post hskip cur rfl
        obtain ⟨⟨proto, next⟩, hppp, -⟩ := (safeRun_pppHeader hfits :
          SafeRun False (pppHeader d cur) _).returns
        have hpacket : ipPacket (proto, next) = some x := by
          dsimp only at hwalk
          rw [hppp] at hwalk
          exact Except.ok.inj hwalk
        unfold ipPacket at hpacket
        split at hpacket
        · contradiction
        · rename_i hip
          cases hpacket
          obtain ⟨addressControl, compressed, hframing, hnext⟩ :=
            exists_framing hppp
          refine ⟨header, addressControl, compressed, proto, d.drop next,
            by tauto, ?_, ?_, ?_⟩
          · rw [← hframing, List.length_drop]
            omega
          · rw [← hframing]
            exact hheader
          · rw [List.length_append, hlength]
            exact hnext
  · rintro ⟨header, addressControl, compressed, proto, payload, hproto, hlen,
      rfl, rfl⟩
    have hids := header.l2tvppParseHdr_ids (header.sequence ++ header.offset ++
      (pppFraming addressControl compressed proto ++ payload))
    simp only [← List.append_assoc] at hids
    rw [DataHeader.encode] at hparse
    simp only [← List.append_assoc, hids, Except.ok.injEq,
      L2tvppHdr.data.injEq] at hparse
    obtain ⟨rfl, rfl, rfl, rfl⟩ := hparse
    exact flowWalk_framing header addressControl compressed hproto hlen

end Decode

/-! ## Where each node sees the inner packet -/

/-- The hash with another answer for the packet at `pos`. -/
def answered (hashIp : List U8 → Nat → Nat → Except MemFault (Option U32))
    (pos : Nat) (answer : Except MemFault (Option U32)) (buffer : List U8)
    (p stop : Nat) : Except MemFault (Option U32) :=
  if p = pos then answer else hashIp buffer p stop

/-- The classifier calls `l2tvpp_hash_ip` on the packet at `pos`: what it
returns depends on the answer. -/
def callsHashAt (crc32c : List U8 → U32) (lm : L2tvppMain) (fastpath : Bool)
    (b : VlibBuffer) (pos : Nat) : Prop :=
  ∃ answer, classifyFrame (answered (l2tvppHashIp crc32c) pos answer) lm
    fastpath true b ≠ l2tvppFlowClassify crc32c lm fastpath true b

/-- `l2tvpp-input` delivers the packet to an IP input node, from byte `x` on. -/
def decapsulatesAt (lm : L2tvppMain) (b : VlibBuffer) (x : Nat) : Prop :=
  ∃ result, l2tvppInput lm b = .ok result ∧
    (result.next = .ip4Input ∨ result.next = .ip4InputNcs ∨
      result.next = .ip6Input) ∧
    result.buffer.currentData.toInt = b.currentData.toInt + x ∧
    result.buffer.current = b.current.drop x

theorem pppNext_cases (lm : L2tvppMain) (proto : U16) :
    (pppNext lm proto = none ∧ ∀ next, ipPacket (proto, next) = none) ∨
    ∃ node, pppNext lm proto = some node ∧
      (node = .ip4Input ∨ node = .ip4InputNcs ∨ node = .ip6Input) ∧
      ∀ next, ipPacket (proto, next) = some next := by
  unfold pppNext ipPacket
  by_cases hip4 : proto = pppProtoIp4
  · refine .inr ⟨_, if_pos hip4, ?_, fun next => by simp [hip4]⟩
    cases lm.innerIp4NoChecksum <;> simp
  · by_cases hip6 : proto = pppProtoIp6
    · refine .inr ⟨.ip6Input, ?_, by simp, fun next => by simp [hip6]⟩
      rw [if_neg hip4, if_pos hip6]
    · refine .inl ⟨?_, fun next => if_pos ⟨hip4, hip6⟩⟩
      rw [if_neg hip4, if_neg hip6]

section Agree

variable {lm : L2tvppMain} {outer : OuterHeaders} {d : List U8}
  {flags tid sid : U16} {off : Nat}
  (hparse : l2tvppParseHdr d 0 d.length = .ok (.data flags tid sid off))

include hparse

theorem callsHashAt_iff_flowWalk {crc32c : List U8 → U32} {fastpath : Bool}
    {b : VlibBuffer} (hb : b.current = outer.encode ++ d) (x : Nat) :
    callsHashAt crc32c lm fastpath b (outer.encode.length + x) ↔
      flowWalk d flags off d.length = .ok (some x) := by
  obtain ⟨fast, b', hcurrent, hlength, hclassify⟩ :=
    classifyFrame_data lm fastpath hb hparse
  have hlen : b'.currentLength.toNat = (outer.encode ++ d).length := by
    rw [← hb, hlength, VlibBuffer.length_current]
  have hwalk : flowWalk b'.current flags (outer.encode.length + off)
      b'.currentLength.toNat = (flowWalk d flags off d.length).map
        (Option.map (outer.encode.length + ·)) := by
    rw [hcurrent, hb, hlen]
    exact flowWalk_append outer.encode d
  have houter : ∀ answer l2tpOffset,
      classifyOuter (answered (l2tvppHashIp crc32c) (outer.encode.length + x)
        answer) true b' outer.ethernet.length l2tpOffset =
      classifyOuter (l2tvppHashIp crc32c) true b' outer.ethernet.length
        l2tpOffset := by
    intro answer l2tpOffset
    have hbefore : outer.ethernet.length ≠ outer.encode.length + x := by
      rw [outer.length_encode]
      omega
    simp only [classifyOuter, answered, if_neg hbefore]
  obtain ⟨walked, hwalked, -⟩ := (safeRun_flowWalk le_rfl : SafeRun False
    (flowWalk d flags off d.length) _).returns
  rw [hwalked] at hwalk ⊢
  simp only [callsHashAt, l2tvppFlowClassify, hclassify, Bool.not_true,
    Bool.false_eq_true, if_false, classifyInner, hwalk, Except.map, ok_bind]
  cases walked with
  | none =>
      simp only [Option.map_none, houter]
      simp
  | some y =>
      simp only [Option.map_some, houter, Except.ok.injEq, Option.some.injEq]
      constructor
      · rintro ⟨answer, hdiffers⟩
        by_contra hne
        apply hdiffers
        have hother : outer.encode.length + y ≠ outer.encode.length + x := by
          omega
        simp only [answered, if_neg hother]
      · rintro rfl
        refine ⟨.error (.outOfBounds 0), ?_⟩
        have hreal : SafeRun False (l2tvppFlowClassify crc32c lm fastpath true b)
          _ := safeRun_l2tvppFlowClassify crc32c lm fastpath true b
        obtain ⟨c, hc, -⟩ := hreal.returns
        simp only [l2tvppFlowClassify, hclassify, Bool.not_true,
          Bool.false_eq_true, if_false, classifyInner, hwalk, Except.map,
          ok_bind, Option.map_some] at hc
        rw [hc]
        simp only [answered, if_true]
        intro h
        cases h

theorem decapsulatesAt_iff_flowWalk {b : VlibBuffer} {index : Nat}
    {sess : L2tvppSession} (hb : b.current = d)
    (hkey : lm.sessionByKey.lookup (l2tvppSessionKey tid sid) = some index)
    (hlive : lm.sessions.elt? index = some sess) (x : Nat) :
    decapsulatesAt lm b x ↔
      flowWalk d flags off d.length = .ok (some x) ∧ b.reaches x := by
  have hlen : b.currentLength.toNat = d.length := by
    rw [← hb, VlibBuffer.length_current]
  rw [flowWalk_eq]
  obtain ⟨walked, hwalked, hfits⟩ := (safeRun_skipSeqAndOffset le_rfl : SafeRun
    False (skipSeqAndOffset d flags off d.length) _).returns
  simp only [decapsulatesAt, l2tvppInput, hb, hlen, hparse, hwalked, ok_bind]
  cases walked with
  | none =>
      simp only [pure, Except.pure, Except.ok.injEq, exists_eq_left']
      simp
  | some cur =>
      obtain ⟨⟨proto, next⟩, hppp, hnext⟩ := (safeRun_pppHeader (hfits cur rfl) :
        SafeRun False (pppHeader d cur) _).returns
      have hcur := hfits cur rfl
      have hinside : next ≤ b.currentLength.toNat := by
        rw [hlen]
        exact hnext.trans hcur
      have hmax := hinside.trans_lt b.currentLength.isLt
      simp only [l2tvppInputPpp, hkey, hb, hppp, ok_bind, hlive, Except.map,
        Except.ok.injEq]
      rcases pppNext_cases lm proto with ⟨hnone, hpacket⟩ | ⟨node, hsome, hnode,
        hpacket⟩
      · simp only [hnone, hpacket next, pure, Except.pure, Except.ok.injEq,
          exists_eq_left']
        simp
      · simp only [hsome, hpacket next, pure, Except.pure, Except.ok.injEq,
          exists_eq_left', Option.some.injEq]
        constructor
        · rintro ⟨-, hdata, -⟩
          obtain ⟨rfl, hreach⟩ := (toInt_vlibBufferAdvance_iff b hmax).mp hdata
          exact ⟨rfl, hreach⟩
        · rintro ⟨rfl, hreach⟩
          have hadvance := current_vlibBufferAdvance b hinside hreach
          rw [hb] at hadvance
          exact ⟨hnode, (toInt_vlibBufferAdvance b hmax).mpr hreach, hadvance⟩

end Agree

/-- The classifier hashes the inner packet of an L2TP data message where
`l2tvpp-input`, on the same bytes and with a live session, decapsulates it,
exactly when the packet has a position that `current_data` can hold. -/
theorem callsHashAt_iff_decapsulatesAt (crc32c : List U8 → U32)
    (lm : L2tvppMain) (fastpath : Bool) {outer : OuterHeaders} {d : List U8}
    {frame b : VlibBuffer} {flags tid sid : U16} {off index : Nat}
    {sess : L2tvppSession} (hframe : frame.current = outer.encode ++ d)
    (hb : b.current = d)
    (hparse : l2tvppParseHdr d 0 d.length = .ok (.data flags tid sid off))
    (hkey : lm.sessionByKey.lookup (l2tvppSessionKey tid sid) = some index)
    (hlive : lm.sessions.elt? index = some sess) :
    (∀ x, callsHashAt crc32c lm fastpath frame (outer.encode.length + x) ↔
      decapsulatesAt lm b x) ↔
      ∀ x, Encapsulates d x → b.reaches x := by
  simp only [callsHashAt_iff_flowWalk hparse hframe,
    decapsulatesAt_iff_flowWalk hparse hb hkey hlive,
    flowWalk_iff_encapsulates hparse]
  exact forall_congr' fun x => iff_self_and

def lacHeaders : OuterHeaders :=
  ⟨List.replicate 12 0, none,
    ⟨⟨0x45, 0, 0, 0, 0x4000, 64, 17, 0, 0x0a000002, 0x0a000001, [],
      Ip4Header.plain_version, Ip4Header.plain_headerBytes⟩, by decide,
      by decide⟩,
    1701, 0, 0, by decide, rfl⟩

def lacMessage : List U8 :=
  fullHeader.encode ++ (pppFraming true false pppProtoIp4 ++ [0x45, 0, 0])

theorem callsHashAt_iff_decapsulatesAt_lacMessage :
    let lm := (runCalls Policies.lifo Pool.empty Pool.empty oneSession).lm
    (∀ x, callsHashAt (fun _ => 0) lm true
        (bufferOf (lacHeaders.encode ++ lacMessage))
        (lacHeaders.encode.length + x) ↔
      decapsulatesAt lm (bufferOf lacMessage) x) ∧
    decapsulatesAt lm (bufferOf lacMessage) 20 := by
  intro lm
  have hlive : lm.sessions.elt? 0 = some ⟨0, 100, 7, 8, 0, 0, 0, 0, 0⟩ := by
    decide
  have hkey : lm.sessionByKey.lookup (l2tvppSessionKey 100 7) = some 0 := by
    decide
  have hparse : l2tvppParseHdr lacMessage 0 lacMessage.length =
      .ok (.data 0x4a02 100 7 8) := by decide
  have hframe : (bufferOf (lacHeaders.encode ++ lacMessage)).current =
      lacHeaders.encode ++ lacMessage := by decide
  have hb : (bufferOf lacMessage).current = lacMessage := by decide
  have hreaches : ∀ x, Encapsulates lacMessage x →
      (bufferOf lacMessage).reaches x := by
    intro x hinner
    have hwalk := (flowWalk_iff_encapsulates hparse x).mpr hinner
    have hfound : flowWalk lacMessage 0x4a02 8 lacMessage.length =
        .ok (some 20) := by decide
    rw [hfound] at hwalk
    cases hwalk
    decide
  refine ⟨(callsHashAt_iff_decapsulatesAt _ _ true hframe hb hparse hkey
    hlive).mpr hreaches, ?_⟩
  exact (decapsulatesAt_iff_flowWalk hparse hb hkey hlive 20).mpr
    ⟨by decide, by decide⟩

/-- The classifier hashes the packet behind the pad, `l2tvpp-input` passes on
other bytes. -/
theorem callsHashAt_longMessage :
    let lm := (runCalls Policies.lifo Pool.empty Pool.empty oneSession).lm
    let frame := bufferOf (lacHeaders.encode ++ longMessage)
    let b := bufferOf longMessage
    frame.current = lacHeaders.encode ++ longMessage ∧
      b.current = longMessage ∧
      l2tvppParseHdr longMessage 0 longMessage.length =
        .ok (.data 0x0202 100 7 6) ∧
      lm.sessionByKey.lookup (l2tvppSessionKey 100 7) = some 0 ∧
      callsHashAt (fun _ => 0) lm true frame
        (lacHeaders.encode.length + 40012) ∧
      ¬ decapsulatesAt lm b 40012 := by
  intro lm frame b
  have hlive : lm.sessions.elt? 0 = some ⟨0, 100, 7, 8, 0, 0, 0, 0, 0⟩ := by
    decide
  have hkey : lm.sessionByKey.lookup (l2tvppSessionKey 100 7) = some 0 := by
    decide
  have hfront : (longPad.encode ++
      pppFraming true false pppProtoIp4).length = 40012 := by
    rw [List.length_append, length_longPad]
    rfl
  have hparse : l2tvppParseHdr longMessage 0 longMessage.length =
      .ok (.data 0x0202 100 7 6) := by
    have hids := longPad.l2tvppParseHdr_ids (longPad.sequence ++
      longPad.offset ++ (pppFraming true false pppProtoIp4 ++ [0x45, 0, 0]))
    simp only [← List.append_assoc] at hids
    simp only [longMessage, DataHeader.encode, ← List.append_assoc]
    exact hids
  have hinner : Encapsulates longMessage 40012 :=
    ⟨longPad, true, false, pppProtoIp4, [0x45, 0, 0], .inl rfl, by decide, rfl,
      hfront.symm⟩
  have hwalk := (flowWalk_iff_encapsulates hparse 40012).mpr hinner
  have hb : b.current = longMessage :=
    current_bufferOf (by rw [length_longMessage]; decide)
  have hheaders : lacHeaders.encode.length = 42 := by decide
  have hframe : frame.current = lacHeaders.encode ++ longMessage :=
    current_bufferOf (by
      rw [List.length_append, length_longMessage, hheaders]
      decide)
  refine ⟨hframe, hb, hparse, hkey,
    (callsHashAt_iff_flowWalk hparse hframe 40012).mpr hwalk, ?_⟩
  rw [decapsulatesAt_iff_flowWalk hparse hb hkey hlive]
  rintro ⟨-, hreach⟩
  exact absurd hreach (by decide)

end L2tvpp.Node
