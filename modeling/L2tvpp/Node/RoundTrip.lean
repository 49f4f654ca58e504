import L2tvpp.Lib.OnesComplement
import L2tvpp.Node.FlowAffinity

/-!
# What is encapsulated is decapsulated

The rewrite of a session's adjacency with the fixup applied, read back by the
header parser, by `l2tvpp-input` and by the flow classifier.
-/

namespace L2tvpp.Node

open L2tvpp.Lib
open L2tvpp.Plugin

/-! ## The packet after the fixup -/

section Packet

variable (t : L2tvppTunnel) (sess : L2tvppSession) (proto : U16)

/-- The outer IPv4 header of a packet of `len` bytes. -/
def encapIp4Header (len checksum : U16) : WholeIp4Header :=
  ⟨⟨0x45, 0, len, 0, 0, 64, ipProtocolUdp, checksum, t.localIp.ip4,
    t.peerIp.ip4, [], Ip4Header.plain_version, Ip4Header.plain_headerBytes⟩,
    Ip4Header.whole_offset, Ip4Header.whole_more⟩

def encapUdpHeader (len : U16) : List U8 :=
  be16 t.localPort ++ be16 t.peerPort ++ be16 (len - 20) ++ be16 0

def encapDataHeader : DataHeader :=
  ⟨2, 0, t.peerTid, sess.peerSid, 0, 0, [], DataHeader.plain_data,
    DataHeader.plain_version, DataHeader.noPad_lt⟩

def encapMessage (inner : List U8) : List U8 :=
  (encapDataHeader t sess).encode ++ (pppFraming true false proto ++ inner)

def encapPacket (len checksum : U16) (inner : List U8) : List U8 :=
  (encapIp4Header t len checksum).encode ++ encapUdpHeader t len ++
    encapMessage t sess proto inner

theorem encode_encapDataHeader :
    (encapDataHeader t sess).encode =
      be16 2 ++ be16 t.peerTid ++ be16 sess.peerSid := by
  have hlength : hasFlag 2 l2tvppHdrL = false := by decide
  have hsequence : hasFlag 2 l2tvppHdrS = false := by decide
  have hoffset : hasFlag 2 l2tvppHdrO = false := by decide
  simp only [encapDataHeader, DataHeader.encode, DataHeader.ids,
    DataHeader.sequence, DataHeader.offset, hlength, hsequence, hoffset,
    Bool.false_eq_true, if_false, List.nil_append, List.append_nil,
    List.append_assoc]

def encapRewrite : List U8 :=
  outerIp4Header t ++ outerUdpHeader t ++
    (be16 2 ++ be16 t.peerTid ++ be16 sess.peerSid) ++
    ([0xff, 0x03] ++ be16 proto)

variable {t sess proto}

/-- The three fields the fixup patches. -/
theorem patch_encapRewrite (len checksum : U16) (inner : List U8) :
    patch16 (patch16 (patch16 (encapRewrite t sess proto ++ inner) 2 (be16 len))
        10 (be16 checksum)) 24 (be16 (len - 20)) =
      encapPacket t sess proto len checksum inner := by
  have hzero : be16 0 = [0, 0] := rfl
  rw [encapPacket, encapMessage, encode_encapDataHeader]
  simp only [encapIp4Header, Ip4Header.encode, Ip4Header.front, hzero,
    encapUdpHeader, List.append_nil]
  rfl

/-- The checksum that the fixup makes of the cached one. -/
def fixupChecksum (csum0 len : U16) : U16 :=
  ipCsumFold (ipCsumUpdate (csum0.setWidth 64) 0 (swap16 len))

theorem l2tvppFixup_encapRewrite {v : Vpp} {midchain : Midchain}
    {fixed : L2tvppSession} (hfixed : midchain.session v = some fixed)
    (inner : List U8) :
    l2tvppFixup v midchain (encapRewrite t sess proto ++ inner) =
      .ok (encapPacket t sess proto (BitVec.ofNat 16 (38 + inner.length))
        (swap16 (fixupChecksum fixed.encapIpCsum0
          (BitVec.ofNat 16 (38 + inner.length)))) inner) := by
  have hlen : (encapRewrite t sess proto ++ inner).length =
      38 + inner.length := by
    rw [List.length_append]
    rfl
  rw [← patch_encapRewrite, swap16, be16_append]
  simp only [l2tvppFixup, hfixed, hlen]
  rfl

end Packet

def pppProtoOf (link : VnetLink) : U16 :=
  if link = .ip4 then pppProtoIp4 else pppProtoIp6

theorem l2tvppBuildRewriteI_encapRewrite (t : L2tvppTunnel)
    (sess : L2tvppSession) {link : VnetLink} (h : link = .ip4 ∨ link = .ip6) :
    l2tvppBuildRewriteI t sess link = some
      (encapRewrite t sess (pppProtoOf link),
        ip4HeaderChecksum (outerIp4Header t)) := by
  rcases h with rfl | rfl <;> rfl

/-! ## Reading it back -/

/-- The IP header at the front of the bytes is complete. -/
def ipHeaderComplete (bytes : List U8) : Prop :=
  ∃ first, readU8 bytes 0 = .ok first ∧
    (first >>> 4 = 4 ∧ 20 ≤ bytes.length ∨ first >>> 4 = 6 ∧ 40 ≤ bytes.length)

theorem hashFlow_some (crc32c : List U8 → U32) {buffer : List U8}
    (src dst : List U8) (proto : U8) (l4 : Nat) :
    ∃ hash, hashFlow crc32c buffer src dst proto l4 buffer.length =
      .ok (some hash) := by
  unfold hashFlow
  split
  · rename_i hports
    simp only [Bool.and_eq_true, decide_eq_true_eq] at hports
    obtain ⟨ports, hread, -⟩ := (safeRun_readBytes hports.2 : SafeRun False
      (readBytes buffer l4 4) _).returns
    rw [hread]
    exact ⟨_, rfl⟩
  · exact ⟨_, rfl⟩

theorem l2tvppHashIp_complete (crc32c : List U8 → U32) {bytes : List U8}
    (h : ipHeaderComplete bytes) :
    ∃ hash, l2tvppHashIp crc32c bytes 0 bytes.length = .ok (some hash) := by
  obtain ⟨first, hfirst, hversion⟩ := h
  have hbytes : ∀ offset count, offset + count ≤ bytes.length →
      ∃ read, readBytes bytes offset count = .ok read := by
    intro offset count hinside
    obtain ⟨read, hread, -⟩ := (safeRun_readBytes hinside : SafeRun False
      (readBytes bytes offset count) _).returns
    exact ⟨read, hread⟩
  have hbyte : ∀ offset, offset < bytes.length →
      ∃ read, readU8 bytes offset = .ok read := by
    intro offset hinside
    obtain ⟨read, hread, -⟩ := (safeRun_readU8 hinside : SafeRun False
      (readU8 bytes offset) _).returns
    exact ⟨read, hread⟩
  rcases hversion with ⟨hfour, hlen⟩ | ⟨hsix, hlen⟩
  · obtain ⟨src, hsrc⟩ := hbytes 12 4 (by omega)
    obtain ⟨dst, hdst⟩ := hbytes 16 4 (by omega)
    obtain ⟨proto, hproto⟩ := hbyte 9 (by omega)
    obtain ⟨fragment, hfragment, -⟩ := (safeRun_readU16 (by omega) :
      SafeRun False (readU16 bytes 6) _).returns
    simp only [l2tvppHashIp, Nat.zero_add, hfirst, hfour, hsrc, hdst, hproto,
      hfragment, ok_bind, if_true]
    rw [if_neg (by omega), if_neg (by omega)]
    exact hashFlow_some crc32c src dst proto _
  · obtain ⟨src, hsrc⟩ := hbytes 8 16 (by omega)
    obtain ⟨dst, hdst⟩ := hbytes 24 16 (by omega)
    obtain ⟨proto, hproto⟩ := hbyte 6 (by omega)
    have hnotFour : ¬ (6 : U8) = 4 := by decide
    simp only [l2tvppHashIp, Nat.zero_add, hfirst, hsix, hsrc, hdst, hproto,
      ok_bind, if_neg hnotFour, if_true]
    rw [if_neg (by omega), if_neg (by omega)]
    exact hashFlow_some crc32c src dst proto 40

/-- What a first buffer holds of some bytes whose front part it holds. -/
theorem eq_front_append {front inner current rest : List U8}
    (h : current ++ rest = front ++ inner)
    (hle : front.length ≤ current.length) :
    current = front ++ current.drop front.length ∧
      current.drop front.length ++ rest = inner := by
  have htake := congrArg (List.take front.length) h
  have hdrop := congrArg (List.drop front.length) h
  rw [List.take_append_of_le_length hle, List.take_left] at htake
  rw [List.drop_append_of_le_length hle, List.drop_left] at hdrop
  refine ⟨?_, hdrop⟩
  conv_lhs => rw [← List.take_append_drop front.length current, htake]

/-- The readers of `src/` agree on what `packet` carries: `inner`, for the
peer's ids, as a packet of the link type.  Behind a first buffer there may be
more of the packet, `rest`. -/
structure ReadsBack (t : L2tvppTunnel) (sess : L2tvppSession) (link : VnetLink)
    (inner packet : List U8) : Prop where
  ipLength : ∃ length, readU16 packet 2 = .ok length ∧
    length.toNat = packet.length
  udpLength : ∃ length, readU16 packet 24 = .ok length ∧
    length.toNat = packet.length - 20
  parsed : ∃ flags, l2tvppParseHdr (packet.drop 28) 0 (packet.drop 28).length =
      .ok (.data flags t.peerTid sess.peerSid 6) ∧
    hasFlag flags l2tvppHdrS = false ∧ hasFlag flags l2tvppHdrO = false
  decapsulated : ∀ (lm : L2tvppMain) (index : Nat) (live : L2tvppSession)
    (b : VlibBuffer) (rest : List U8),
    lm.sessionByKey.lookup (l2tvppSessionKey t.peerTid sess.peerSid) =
      some index →
    lm.sessions.elt? index = some live →
    b.current ++ rest = packet.drop 28 → 10 ≤ b.current.length →
    ∃ result, l2tvppInput lm b = .ok result ∧
      result.pppProto = (if link = .ip4 then 0x0021 else 0x0057) ∧
      result.next =
        (if link = .ip4 then
          if lm.innerIp4NoChecksum then .ip4InputNcs else .ip4Input
        else .ip6Input) ∧
      result.buffer = decapBuffer b 10 live ∧
      b.current.drop 10 ++ rest = inner ∧
      (b.reaches 10 → result.buffer.current ++ rest = inner)
  hashed : t.peerPort = 1701 → ∀ (crc32c : List U8 → U32) (lm : L2tvppMain)
    (fastpath : Bool) (addresses : List U8) (b : VlibBuffer) (rest : List U8),
    addresses.length = 12 →
    b.current ++ rest = addresses ++ be16 ethernetTypeIp4 ++ packet →
    ipHeaderComplete (b.current.drop 52) →
    ∃ c, l2tvppFlowClassify crc32c lm fastpath true b = .ok c ∧
      (c.kind = .fast ∨ c.kind = .inner) ∧
      b.current.drop 52 ++ rest = inner ∧
      l2tvppHashIp crc32c (b.current.drop 52) 0 (b.current.drop 52).length =
        .ok (some c.hash)

section Encapsulated

variable (t : L2tvppTunnel) (sess : L2tvppSession) (proto len checksum : U16)
  (inner : List U8)

theorem drop_encapPacket :
    (encapPacket t sess proto len checksum inner).drop 28 =
      encapMessage t sess proto inner :=
  List.drop_left' (by simp [encapIp4Header, encapUdpHeader])

theorem take_encapPacket :
    (encapPacket t sess proto len checksum inner).take 20 =
      (encapIp4Header t len checksum).encode := by
  rw [encapPacket, List.append_assoc]
  exact List.take_left' (Ip4Header.length_encode _)

theorem length_encapPacket :
    (encapPacket t sess proto len checksum inner).length =
      38 + inner.length := by
  simp [encapPacket, encapMessage, encode_encapDataHeader, encapIp4Header,
    encapUdpHeader, pppFraming]
  omega

theorem readU16_ipLength :
    readU16 (encapPacket t sess proto len checksum inner) 2 = .ok len := by
  simp only [encapPacket, encapIp4Header, Ip4Header.encode, Ip4Header.front,
    List.append_assoc]
  exact readU16_append_be16 [0x45, 0] _ len rfl

theorem readU16_udpLength :
    readU16 (encapPacket t sess proto len checksum inner) 24 =
      .ok (len - 20) := by
  have hread := readU16_append_be16 ((encapIp4Header t len checksum).encode ++
    be16 t.localPort ++ be16 t.peerPort)
    (be16 0 ++ encapMessage t sess proto inner) (len - 20)
    (show 24 = _ by simp [encapIp4Header])
  simpa only [encapPacket, encapUdpHeader, List.append_assoc] using hread

theorem l2tvppParseHdr_encapMessage :
    l2tvppParseHdr (encapMessage t sess proto inner) 0
        (encapMessage t sess proto inner).length =
      .ok (.data 2 t.peerTid sess.peerSid 6) := by
  have hparse := (encapDataHeader t sess).l2tvppParseHdr_ids
    ((encapDataHeader t sess).sequence ++ (encapDataHeader t sess).offset ++
      (pppFraming true false proto ++ inner))
  have hids : idsOffset 2 + 4 = 6 := by decide
  rw [DataHeader.length_ids] at hparse
  change _ = Except.ok (L2tvppHdr.data 2 t.peerTid sess.peerSid
    (idsOffset 2 + 4)) at hparse
  rw [hids] at hparse
  rw [encapMessage, DataHeader.encode, List.append_assoc]
  exact hparse

variable {t sess proto inner}

theorem l2tvppInput_encapMessage {lm : L2tvppMain} {index : Nat}
    {live : L2tvppSession} {b : VlibBuffer} {rest : List U8}
    (hproto : proto = pppProtoIp4 ∨ proto = pppProtoIp6)
    (hkey : lm.sessionByKey.lookup (l2tvppSessionKey t.peerTid sess.peerSid) =
      some index)
    (hlive : lm.sessions.elt? index = some live)
    (hb : b.current ++ rest = encapMessage t sess proto inner)
    (hlen : 10 ≤ b.current.length) :
    ∃ result, l2tvppInput lm b = .ok result ∧ result.pppProto = proto ∧
      result.next =
        (if proto = pppProtoIp4 then
          if lm.innerIp4NoChecksum then .ip4InputNcs else .ip4Input
        else .ip6Input) ∧
      result.buffer = decapBuffer b 10 live ∧
      b.current.drop 10 ++ rest = inner ∧
      (b.reaches 10 → result.buffer.current ++ rest = inner) := by
  have hfront : ((encapDataHeader t sess).encode ++
      pppFraming true false proto).length = 10 := by
    rw [encode_encapDataHeader]
    rfl
  rw [encapMessage, ← List.append_assoc] at hb
  obtain ⟨hcurrent, hinner⟩ := eq_front_append hb (by omega)
  rw [List.append_assoc] at hcurrent
  have hfits : 4 ≤ (pppFraming true false proto ++
      b.current.drop ((encapDataHeader t sess).encode ++
        pppFraming true false proto).length).length := by
    rw [List.length_append]
    exact Nat.le_add_right 4 _
  obtain ⟨result, hresult, hbuffer, hppp, hnext⟩ := l2tvppInput_framing
    (encapDataHeader t sess) true false hkey hlive hproto hfits hcurrent
  rw [← List.append_assoc] at hcurrent
  rw [hfront] at hbuffer hinner
  refine ⟨result, hresult, hppp, hnext, hbuffer, hinner, ?_⟩
  intro hreach
  have hpayload := current_decapBuffer hcurrent (by rwa [hfront]) live
  rw [hfront] at hpayload
  rw [hbuffer, hpayload]
  exact hinner

theorem l2tvppFlowClassify_encapPacket (crc32c : List U8 → U32)
    (lm : L2tvppMain) (fastpath : Bool) {addresses rest : List U8}
    {b : VlibBuffer} (hproto : proto = pppProtoIp4 ∨ proto = pppProtoIp6)
    (hport : t.peerPort = l2tvppUdpPort) (haddresses : addresses.length = 12)
    (hb : b.current ++ rest = addresses ++ be16 ethernetTypeIp4 ++
      encapPacket t sess proto len checksum inner)
    (hcomplete : ipHeaderComplete (b.current.drop 52)) :
    ∃ c, l2tvppFlowClassify crc32c lm fastpath true b = .ok c ∧
      (c.kind = .fast ∨ c.kind = .inner) ∧
      b.current.drop 52 ++ rest = inner ∧
      l2tvppHashIp crc32c (b.current.drop 52) 0 (b.current.drop 52).length =
        .ok (some c.hash) := by
  let outer : OuterHeaders := ⟨addresses, none, encapIp4Header t len checksum,
    t.localPort, len - 20, 0, haddresses, rfl⟩
  let front := outer.encode ++ ((encapDataHeader t sess).encode ++
    pppFraming true false proto)
  have hfront : front.length = 52 := by
    simp [front, outer, OuterHeaders.length_encode, OuterHeaders.ethernet,
      ip4Type, encapIp4Header, haddresses, ip4HeaderBytes,
      encode_encapDataHeader, pppFraming]
  have hpacket : addresses ++ be16 ethernetTypeIp4 ++
      encapPacket t sess proto len checksum inner = front ++ inner := by
    simp only [front, outer, OuterHeaders.encode, OuterHeaders.ethernet,
      ip4Type, OuterHeaders.udpHeader, encapPacket, encapMessage,
      encapUdpHeader, hport, List.append_assoc]
  have hlen : 52 ≤ b.current.length := by
    obtain ⟨first, -, hversion⟩ := hcomplete
    rw [List.length_drop] at hversion
    omega
  rw [hpacket] at hb
  obtain ⟨hcurrent, hinner⟩ := eq_front_append hb (by omega)
  rw [hfront] at hcurrent hinner
  obtain ⟨hash, hhash⟩ := l2tvppHashIp_complete crc32c hcomplete
  have hfits : 4 ≤ (pppFraming true false proto ++
      b.current.drop 52).length := by
    rw [List.length_append]
    exact Nat.le_add_right 4 _
  simp only [front, List.append_assoc] at hcurrent
  obtain ⟨c, hc, hkind, hchash⟩ := l2tvppFlowClassify_framing crc32c lm fastpath
    true outer (encapDataHeader t sess) true false hproto hfits hcurrent hhash
  refine ⟨c, hc, hkind, hinner, ?_⟩
  rw [hchash rfl]
  exact hhash

end Encapsulated

/-- What the plugin encapsulates is read back by the plugin. -/
theorem l2tvppFixup_readsBack (t : L2tvppTunnel) (sess : L2tvppSession)
    {link : VnetLink} (inner : List U8) {v : Vpp} {midchain : Midchain}
    {fixed : L2tvppSession} (hlink : link = .ip4 ∨ link = .ip6)
    (hfixed : midchain.session v = some fixed)
    (hlen : 38 + inner.length ≤ 65535) :
    ∃ rewrite checksum packet,
      l2tvppBuildRewriteI t sess link = some (rewrite, checksum) ∧
      l2tvppFixup v midchain (rewrite ++ inner) = .ok packet ∧
      packet.length = rewrite.length + inner.length ∧
      ReadsBack t sess link inner packet := by
  have hproto : pppProtoOf link = pppProtoIp4 ∨
      pppProtoOf link = pppProtoIp6 := by
    rcases hlink with rfl | rfl <;> simp [pppProtoOf]
  have hnext : ∀ lm : L2tvppMain,
      (if pppProtoOf link = pppProtoIp4 then
        if lm.innerIp4NoChecksum then InputNext.ip4InputNcs else .ip4Input
      else .ip6Input) =
      (if link = .ip4 then
        if lm.innerIp4NoChecksum then .ip4InputNcs else .ip4Input
      else .ip6Input) := by
    intro lm
    rcases hlink with rfl | rfl <;> rfl
  obtain ⟨checksum, hpacket⟩ : ∃ checksum, _ = Except.ok (encapPacket t sess
    (pppProtoOf link) (BitVec.ofNat 16 (38 + inner.length)) checksum inner) :=
    ⟨_, l2tvppFixup_encapRewrite hfixed inner⟩
  have hsize := length_encapPacket t sess (pppProtoOf link)
    (BitVec.ofNat 16 (38 + inner.length)) checksum inner
  have hlength : (BitVec.ofNat 16 (38 + inner.length)).toNat =
      38 + inner.length := by
    rw [BitVec.toNat_ofNat, Nat.mod_eq_of_lt (by omega)]
  have hdrop := drop_encapPacket t sess (pppProtoOf link)
    (BitVec.ofNat 16 (38 + inner.length)) checksum inner
  refine ⟨_, _, _, l2tvppBuildRewriteI_encapRewrite t sess hlink, hpacket,
    hsize, ?_, ?_, ?_, ?_, ?_⟩
  · exact ⟨_, readU16_ipLength t sess _ _ checksum inner, hlength.trans hsize.symm⟩
  · refine ⟨_, readU16_udpLength t sess _ _ checksum inner, ?_⟩
    rw [hsize, BitVec.toNat_sub, hlength]
    simp
    omega
  · rw [hdrop]
    exact ⟨2, l2tvppParseHdr_encapMessage t sess _ inner, by decide, by decide⟩
  · intro lm index live b rest hkey hlive hb hten
    rw [hdrop] at hb
    obtain ⟨result, hresult, hppp, hto, hinner⟩ :=
      l2tvppInput_encapMessage hproto hkey hlive hb hten
    exact ⟨result, hresult, hppp, hto.trans (hnext lm), hinner⟩
  · intro hport crc32c lm fastpath addresses b rest haddresses hb hcomplete
    exact l2tvppFlowClassify_encapPacket _ checksum crc32c lm fastpath hproto
      hport haddresses hb hcomplete

theorem l2tvppFixup_readsBack_oneSession :
    let v := runCalls Policies.lifo Pool.empty Pool.empty oneSession
    let t : L2tvppTunnel := ⟨Ip46.ofIp4 0x0a000001, Ip46.ofIp4 0x0a000002, 1701,
      1701, 100, 200, 1, 0⟩
    let sess : L2tvppSession := ⟨0, 100, 7, 8, 0, 0, 0, 0, 0⟩
    v.lm.tunnels.elt? 0 = some t ∧ v.lm.sessions.elt? 0 = some sess ∧
      ∃ rewrite checksum packet,
        l2tvppBuildRewriteI t sess .ip6 = some (rewrite, checksum) ∧
        l2tvppFixup v ⟨v.lm.sessions.addr 0, []⟩
          (rewrite ++ [0x60, 0, 0, 0]) = .ok packet ∧
        packet.length = rewrite.length + 4 ∧
        ReadsBack t sess .ip6 [0x60, 0, 0, 0] packet := by
  intro v t sess
  have ht : v.lm.tunnels.elt? 0 = some t := by decide
  have hsess : v.lm.sessions.elt? 0 = some sess := by decide
  have hfixed : Midchain.session v ⟨v.lm.sessions.addr 0, []⟩ = some sess := by
    rw [Midchain.session, Pool.deref_addr]
    exact hsess
  exact ⟨ht, hsess, l2tvppFixup_readsBack t sess [0x60, 0, 0, 0] (.inr rfl)
    hfixed (by decide)⟩

end L2tvpp.Node
