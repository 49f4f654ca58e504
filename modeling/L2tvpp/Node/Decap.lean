import L2tvpp.Plugin.Consistency
import L2tvpp.Node.Input

/-!
# What decapsulation does

`l2tvpp-input` finds exactly the live session of a packet, and it undoes every
legal RFC 2661 data encapsulation.
-/

namespace L2tvpp.Node

open L2tvpp.Lib
open L2tvpp.Plugin

/-! ## The session of a packet -/

theorem l2tvppInput_session {v : Vpp} (h : StoreInv v) {b : VlibBuffer}
    {flags tid sid : U16} {off cur : Nat}
    (hparse : l2tvppParseHdr b.current 0 b.currentLength.toNat =
      .ok (.data flags tid sid off))
    (hskip : skipSeqAndOffset b.current flags off b.currentLength.toNat =
      .ok (some cur)) :
    ∃ result, l2tvppInput v.lm b = .ok result ∧
      ∀ index, result.sessionIndex = some index ↔
        ∃ sess, v.lm.sessions.elt? index = some sess ∧
          sess.localTid = tid ∧ sess.localSid = sid := by
  have hcur : cur + 4 ≤ b.currentLength.toNat := by
    have hwalk : SafeRun True (skipSeqAndOffset b.current flags off
        b.currentLength.toNat) _ := safeRun_skipSeqAndOffset (by simp)
    exact hwalk.post hskip cur rfl
  have hppp : SafeRun False (l2tvppInputPpp v.lm b flags tid sid cur) _ :=
    safeRun_l2tvppInputPpp hcur h.not_freed
  obtain ⟨result, hresult, -, -, -, hsession⟩ := hppp.returns
  refine ⟨result, ?_, ?_⟩
  · simp only [l2tvppInput, hparse, hskip, ok_bind]
    exact hresult
  · intro index
    rw [hsession, h.byKey.some_iff]
    simp only [L2tvppSession.key, l2tvppSessionKey_inj]

/-- After any sequence of calls the tables agree with the pools, and a packet
that passes the length checks finds the live session with its ids. -/
theorem runCalls_consistent (P : Policies) (hwInterfaces : Pool HwInterface)
    (swInterfaces : Pool SwInterface) (calls : List Call) :
    let v := runCalls P hwInterfaces swInterfaces calls
    (∀ i j t t', v.lm.tunnels.elt? i = some t →
      v.lm.tunnels.elt? j = some t' → t.peerIp = t'.peerIp →
      t.peerPort = t'.peerPort → t.localTid = t'.localTid → i = j) ∧
    (∀ key index, v.lm.sessionByKey.lookup key = some index ↔
      ∃ sess, v.lm.sessions.elt? index = some sess ∧
        l2tvppSessionKey sess.localTid sess.localSid = key) ∧
    (∀ i j sess sess', v.lm.sessions.elt? i = some sess →
      v.lm.sessions.elt? j = some sess' → sess.localTid = sess'.localTid →
      sess.localSid = sess'.localSid → i = j) ∧
    (∀ swIfIndex index, v.lm.sessionIndexOf swIfIndex = some index ↔
      ∃ sess, v.lm.sessions.elt? index = some sess ∧
        sess.swIfIndex = swIfIndex) ∧
    (v.lm.localIp4s.Nodup ∧ ∀ index t, v.lm.tunnels.elt? index = some t →
      t.localIp.ip4 ∈ v.lm.localIp4s) ∧
    (∀ b flags tid sid off cur,
      l2tvppParseHdr b.current 0 b.currentLength.toNat =
        .ok (.data flags tid sid off) →
      skipSeqAndOffset b.current flags off b.currentLength.toNat =
        .ok (some cur) →
      ∃ result, l2tvppInput v.lm b = .ok result ∧
        ∀ index, result.sessionIndex = some index ↔
          ∃ sess, v.lm.sessions.elt? index = some sess ∧
            sess.localTid = tid ∧ sess.localSid = sid) := by
  intro v
  have hinv : StoreInv v := StoreInv.runCalls P hwInterfaces swInterfaces calls
  refine ⟨?_, hinv.byKey, ?_, hinv.bySwIfIndex, ⟨hinv.localIp4s_nodup, ?_⟩, ?_⟩
  · intro i j t t'
    exact hinv.tunnel_unique
  · intro i j sess sess' hi hj htid hsid
    apply hinv.byKey.index_eq hi hj
    simp only [L2tvppSession.key, htid, hsid]
  · intro index t
    exact hinv.localIp_mem
  · intro b flags tid sid off cur
    exact l2tvppInput_session hinv

/-! ## Legal encapsulations -/

/-- The fields of an RFC 2661 data header; those whose flag is clear are not
sent.  The flag bits other than T and the version are arbitrary. -/
structure DataHeader where
  flags : U16
  length : U16
  tid : U16
  sid : U16
  ns : U16
  nr : U16
  pad : List U8
  data : hasFlag flags l2tvppHdrT = false
  version : flags &&& l2tvppHdrVer = 2
  pad_lt : pad.length < 65536

namespace DataHeader

theorem plain_data : hasFlag 2 l2tvppHdrT = false := by decide

theorem plain_version : (2 : U16) &&& l2tvppHdrVer = 2 := by decide

theorem noPad_lt : ([] : List U8).length < 65536 := by decide

variable (header : DataHeader)

def ids : List U8 :=
  be16 header.flags ++
    ((if hasFlag header.flags l2tvppHdrL then be16 header.length else []) ++
      (be16 header.tid ++ be16 header.sid))

def sequence : List U8 :=
  if hasFlag header.flags l2tvppHdrS then be16 header.ns ++ be16 header.nr
  else []

def offset : List U8 :=
  if hasFlag header.flags l2tvppHdrO then
    be16 (BitVec.ofNat 16 header.pad.length) ++ header.pad
  else []

def encode : List U8 := header.ids ++ (header.sequence ++ header.offset)

theorem length_ids : header.ids.length = idsOffset header.flags + 4 := by
  unfold ids idsOffset
  split <;> simp

def idsFront : List U8 :=
  be16 header.flags ++
    (if hasFlag header.flags l2tvppHdrL then be16 header.length else [])

theorem length_idsFront :
    header.idsFront.length = idsOffset header.flags := by
  unfold idsFront idsOffset
  split <;> simp

theorem l2tvppParseHdr_ids (rest : List U8) :
    l2tvppParseHdr (header.ids ++ rest) 0 (header.ids ++ rest).length =
      .ok (.data header.flags header.tid header.sid header.ids.length) := by
  have hflags : readU16 (header.ids ++ rest) 0 = .ok header.flags := by
    simp only [ids, List.append_assoc]
    exact readU16_append_be16 [] _ header.flags rfl
  have htid := readU16_append_be16 header.idsFront (be16 header.sid ++ rest)
    header.tid header.length_idsFront.symm
  have hsid : readU16 (header.idsFront ++ be16 header.tid ++
      (be16 header.sid ++ rest)) (idsOffset header.flags + 2) =
      .ok header.sid :=
    readU16_append_be16 _ rest header.sid (by simp [length_idsFront])
  rw [header.length_ids]
  refine l2tvppParseHdr_data ?_ header.version header.data hflags ?_ ?_
  · simp [length_ids]
  · simpa [ids, idsFront, List.append_assoc] using htid
  · simpa [ids, idsFront, List.append_assoc] using hsid

theorem skipSeqAndOffset_encode (rest : List U8) (h : 4 ≤ rest.length) :
    skipSeqAndOffset (header.encode ++ rest) header.flags header.ids.length
        (header.encode ++ rest).length =
      .ok (some header.encode.length) := by
  have hcur : (if hasFlag header.flags l2tvppHdrS then header.ids.length + 4
      else header.ids.length) = (header.ids ++ header.sequence).length := by
    unfold sequence
    split <;> simp
  have hfits : pppFits header.encode.length (header.encode ++ rest).length =
      .ok (some header.encode.length) := by
    simp only [pppFits, List.length_append]
    rw [if_neg (by omega)]
    rfl
  simp only [skipSeqAndOffset, hcur]
  cases hO : hasFlag header.flags l2tvppHdrO with
  | false =>
      have hend : (header.ids ++ header.sequence).length =
          header.encode.length := by
        simp [encode, offset, hO]
      rw [hend]
      exact hfits
  | true =>
      have hsize : readU16 (header.encode ++ rest)
          (header.ids ++ header.sequence).length =
          .ok (BitVec.ofNat 16 header.pad.length) := by
        have hread := readU16_append_be16 (header.ids ++ header.sequence)
          (header.pad ++ rest) (BitVec.ofNat 16 header.pad.length) rfl
        simpa [encode, offset, hO] using hread
      have hpad : (BitVec.ofNat 16 header.pad.length).toNat =
          header.pad.length := by
        rw [BitVec.toNat_ofNat, Nat.mod_eq_of_lt header.pad_lt]
      have hend : (header.ids ++ header.sequence).length +
          (2 + header.pad.length) = header.encode.length := by
        simp [encode, offset, hO]
        omega
      have hinside : ¬ (header.ids ++ header.sequence).length + 2 >
          (header.encode ++ rest).length := by
        have hle : header.encode.length ≤ (header.encode ++ rest).length := by
          simp
        omega
      rw [if_pos rfl, if_neg hinside, hsize, ok_bind, hpad, hend]
      exact hfits

end DataHeader

/-- PPP framing: with or without `FF 03`, protocol in one byte or two. -/
def pppFraming (addressControl compressed : Bool) (proto : U16) : List U8 :=
  (if addressControl then [0xff, 0x03] else []) ++
    (if compressed then [proto.setWidth 8] else be16 proto)

theorem skipAddressControl_present (front rest : List U8) :
    skipAddressControl (front ++ (0xff :: 0x03 :: rest)) front.length =
      .ok (front.length + 2) := by
  have haddress := readU8_append_cons front (0x03 :: rest) 0xff rfl
  have hcontrol : readU8 (front ++ (0xff :: 0x03 :: rest))
      (front.length + 1) = .ok 0x03 := readU8_of_getElem? (by simp)
  simp only [skipAddressControl, haddress, hcontrol, ok_bind]
  rfl

theorem skipAddressControl_absent (front rest : List U8) {first : U8}
    (h : (first == 0xff) = false) :
    skipAddressControl (front ++ (first :: rest)) front.length =
      .ok front.length := by
  have haddress := readU8_append_cons front rest first rfl
  simp only [skipAddressControl, haddress, ok_bind, h]
  rfl

section Protocol

variable (front payload : List U8) {proto : U16}
  (hproto : proto = pppProtoIp4 ∨ proto = pppProtoIp6)

include hproto

theorem pppProtocol_compressed :
    pppProtocol (front ++ ([proto.setWidth 8] ++ payload)) front.length =
      .ok (proto, front.length + 1) := by
  have hfirst := readU8_append_cons front payload (proto.setWidth 8) rfl
  simp only [pppProtocol, List.singleton_append, hfirst, ok_bind]
  rcases hproto with rfl | rfl <;> rfl

theorem pppProtocol_full :
    pppProtocol (front ++ (be16 proto ++ payload)) front.length =
      .ok (proto, front.length + 2) := by
  have hfirst : readU8 (front ++ (be16 proto ++ payload)) front.length =
      .ok (proto.extractLsb' 8 8) := readU8_of_getElem? (by simp [be16])
  have hword := readU16_append_be16 front payload proto rfl
  simp only [pppProtocol, hfirst, hword, ok_bind]
  rcases hproto with rfl | rfl <;> rfl

theorem pppHeader_framing (addressControl compressed : Bool) :
    pppHeader (front ++ (pppFraming addressControl compressed proto ++ payload))
        front.length =
      .ok (proto,
        (front ++ pppFraming addressControl compressed proto).length) := by
  have hprotocol : ∀ front : List U8,
      pppProtocol (front ++ ((if compressed then [proto.setWidth 8]
        else be16 proto) ++ payload)) front.length =
      .ok (proto, (front ++ (if compressed then [proto.setWidth 8]
        else be16 proto)).length) := by
    intro front
    cases compressed with
    | false => simpa using pppProtocol_full front payload hproto
    | true => simpa using pppProtocol_compressed front payload hproto
  cases addressControl with
  | true =>
      have hpresent := hprotocol (front ++ [0xff, 0x03])
      simp only [pppHeader, pppFraming, if_true, List.cons_append,
        List.nil_append, skipAddressControl_present, ok_bind]
      simpa using hpresent
  | false =>
      have habsent := hprotocol front
      have hskip : skipAddressControl (front ++
          ((if compressed then [proto.setWidth 8] else be16 proto) ++
            payload)) front.length = .ok front.length := by
        rcases hproto with rfl | rfl <;> cases compressed <;>
          exact skipAddressControl_absent front _ rfl
      simp only [pppHeader, pppFraming, Bool.false_eq_true, if_false,
        List.nil_append, hskip, ok_bind]
      exact habsent

end Protocol

/-! ## Decapsulation undoes encapsulation -/

theorem current_decapBuffer {b : VlibBuffer} {front payload : List U8}
    (hb : b.current = front ++ payload) (hreach : b.reaches front.length)
    (sess : L2tvppSession) :
    (decapBuffer b front.length sess).current = payload := by
  have hinside : front.length ≤ b.currentLength.toNat := by
    rw [← VlibBuffer.length_current, hb, List.length_append]
    exact Nat.le_add_right ..
  have hadvance := current_vlibBufferAdvance b hinside hreach
  rw [hb, List.drop_left] at hadvance
  exact hadvance

theorem l2tvppInput_framing {lm : L2tvppMain} {index : Nat}
    {sess : L2tvppSession} (header : DataHeader)
    (addressControl compressed : Bool) {proto : U16} {payload : List U8}
    {b : VlibBuffer}
    (hkey : lm.sessionByKey.lookup (l2tvppSessionKey header.tid header.sid) =
      some index)
    (hlive : lm.sessions.elt? index = some sess)
    (hproto : proto = pppProtoIp4 ∨ proto = pppProtoIp6)
    (hlen : 4 ≤ (pppFraming addressControl compressed proto ++
      payload).length)
    (hb : b.current = header.encode ++
      (pppFraming addressControl compressed proto ++ payload)) :
    ∃ result, l2tvppInput lm b = .ok result ∧
      result.buffer = decapBuffer b (header.encode ++
        pppFraming addressControl compressed proto).length sess ∧
      result.pppProto = proto ∧
      result.next =
        (if proto = pppProtoIp4 then
          if lm.innerIp4NoChecksum then .ip4InputNcs else .ip4Input
        else .ip6Input) := by
  have hcurrent : b.currentLength.toNat = b.current.length := by simp
  have hparse : l2tvppParseHdr b.current 0 b.currentLength.toNat =
      .ok (.data header.flags header.tid header.sid header.ids.length) := by
    rw [hcurrent, hb, DataHeader.encode, List.append_assoc]
    exact header.l2tvppParseHdr_ids _
  have hskip : skipSeqAndOffset b.current header.flags header.ids.length
      b.currentLength.toNat = .ok (some header.encode.length) := by
    rw [hcurrent, hb]
    exact header.skipSeqAndOffset_encode _ hlen
  have hppp : pppHeader b.current header.encode.length = .ok (proto,
      (header.encode ++ pppFraming addressControl compressed proto).length) := by
    rw [hb]
    exact pppHeader_framing _ payload hproto addressControl compressed
  have hnext : pppNext lm proto = some
      (if proto = pppProtoIp4 then
        if lm.innerIp4NoChecksum then .ip4InputNcs else .ip4Input
      else .ip6Input) := by
    rcases hproto with rfl | rfl <;> rfl
  refine ⟨⟨_, _, decapError header.flags, some index, header.tid, header.sid,
    proto⟩, ?_, rfl, rfl, rfl⟩
  simp only [l2tvppInput, hparse, hskip, ok_bind, l2tvppInputPpp, hkey, hppp,
    hnext, hlive]
  rfl

/-- The buffer has been advanced by `front` bytes to the first byte of the
payload, and is data of the session. -/
structure Delivers (b : VlibBuffer) (sess : L2tvppSession) (front : Nat)
    (payload : List U8) (result : InputResult) : Prop where
  position : result.buffer.currentData.toInt = b.currentData.toInt + front
  payload : result.buffer.current = payload
  mem : result.buffer.mem = b.mem
  restLength : result.buffer.restLength = b.restLength
  swIfIndexRx : result.buffer.swIfIndexRx = sess.swIfIndex

/-- Any legal data packet of a live session is delivered at its first payload
byte, on the session's interface, to the input node of its protocol, exactly
when that byte has a position that `current_data` can hold. -/
theorem l2tvppInput_encode (P : Policies) (hwInterfaces : Pool HwInterface)
    (swInterfaces : Pool SwInterface) (calls : List Call) {index : Nat}
    {sess : L2tvppSession} (header : DataHeader)
    (addressControl compressed : Bool) {proto : U16} {payload : List U8}
    {b : VlibBuffer}
    (hlive : (runCalls P hwInterfaces swInterfaces calls).lm.sessions.elt?
      index = some sess)
    (htid : header.tid = sess.localTid) (hsid : header.sid = sess.localSid)
    (hproto : proto = pppProtoIp4 ∨ proto = pppProtoIp6)
    (hpayload : 3 ≤ payload.length)
    (hb : b.current = header.encode ++
      (pppFraming addressControl compressed proto ++ payload)) :
    let lm := (runCalls P hwInterfaces swInterfaces calls).lm
    let front := (header.encode ++
      pppFraming addressControl compressed proto).length
    (∃ result, l2tvppInput lm b = .ok result ∧
      Delivers b sess front payload result ∧
      result.next =
        (if proto = pppProtoIp4 then
          if lm.innerIp4NoChecksum then .ip4InputNcs else .ip4Input
        else .ip6Input)) ↔
      b.reaches front := by
  intro lm front
  have hinv : StoreInv (runCalls P hwInterfaces swInterfaces calls) :=
    StoreInv.runCalls P hwInterfaces swInterfaces calls
  have hkey : lm.sessionByKey.lookup
      (l2tvppSessionKey header.tid header.sid) = some index := by
    rw [htid, hsid]
    exact hinv.byKey.find hlive
  have hlen : 4 ≤ (pppFraming addressControl compressed proto ++
      payload).length := by
    have hframing : 1 ≤
        (pppFraming addressControl compressed proto).length := by
      cases addressControl <;> cases compressed <;> simp [pppFraming]
    rw [List.length_append]
    omega
  obtain ⟨result, hresult, hbuffer, -, hnext⟩ :=
    l2tvppInput_framing header addressControl compressed hkey hlive hproto hlen
      hb
  rw [← List.append_assoc] at hb
  have hmax : front < 2 ^ 16 := by
    have hlength := congrArg List.length hb
    rw [VlibBuffer.length_current, List.length_append] at hlength
    have hlt := b.currentLength.isLt
    omega
  constructor
  · rintro ⟨result', hresult', hdelivers, -⟩
    rw [hresult] at hresult'
    cases hresult'
    have hposition := hdelivers.position
    rw [hbuffer] at hposition
    exact (toInt_vlibBufferAdvance b hmax).mp hposition
  · intro hreach
    refine ⟨result, hresult, ⟨?_, ?_, ?_, ?_, ?_⟩, hnext⟩
    · rw [hbuffer]
      exact (toInt_vlibBufferAdvance b hmax).mpr hreach
    · rw [hbuffer]
      exact current_decapBuffer hb hreach sess
    · rw [hbuffer]
      rfl
    · rw [hbuffer]
      rfl
    · rw [hbuffer]
      rfl

def oneSession : List Call :=
  [.tunnelAddDel (Ip46.ofIp4 0x0a000001) (Ip46.ofIp4 0x0a000002) 1701 1701 100
    200 true,
   .sessionAddDel 0 7 8 0 0 true]

def fullHeader : DataHeader :=
  ⟨0x4a02, 20, 100, 7, 1, 2, [0xaa, 0xbb], by decide, by decide, by decide⟩

theorem l2tvppInput_encode_fullHeader :
    let lm := (runCalls Policies.lifo Pool.empty Pool.empty oneSession).lm
    let b := bufferOf (fullHeader.encode ++
      (pppFraming true false pppProtoIp4 ++ [0x45, 0, 0]))
    ∃ result, l2tvppInput lm b = .ok result ∧
      Delivers b ⟨0, 100, 7, 8, 0, 0, 0, 0, 0⟩ 20 [0x45, 0, 0] result ∧
      result.next = .ip4Input := by
  intro lm b
  have hlive : lm.sessions.elt? 0 = some ⟨0, 100, 7, 8, 0, 0, 0, 0, 0⟩ := by
    decide
  have hb : b.current = fullHeader.encode ++
      (pppFraming true false pppProtoIp4 ++ [0x45, 0, 0]) := by decide
  exact (l2tvppInput_encode Policies.lifo Pool.empty Pool.empty oneSession
    fullHeader true false hlive (by decide) (by decide) (.inl rfl)
    (by decide) hb).mpr (by decide)

/-- An offset size of 40000. -/
def longPad : DataHeader :=
  ⟨0x0202, 0, 100, 7, 0, 0, List.replicate 40000 0, by decide, by decide,
    List.length_replicate.trans_lt (by decide)⟩

def longMessage : List U8 :=
  longPad.encode ++ (pppFraming true false pppProtoIp4 ++ [0x45, 0, 0])

theorem length_longPad : longPad.encode.length = 40008 := by
  have hoffset : longPad.offset =
      be16 (BitVec.ofNat 16 longPad.pad.length) ++ longPad.pad := rfl
  simp only [DataHeader.encode, hoffset, List.length_append]
  rw [show longPad.pad.length = 40000 from List.length_replicate]
  rfl

theorem length_longMessage : longMessage.length = 40015 := by
  rw [longMessage, List.length_append, length_longPad]
  rfl

/-- The position of the payload wraps: the packet goes to `ip4-input` with other
bytes. -/
theorem l2tvppInput_encode_longPad :
    let lm := (runCalls Policies.lifo Pool.empty Pool.empty oneSession).lm
    lm.sessions.elt? 0 = some ⟨0, 100, 7, 8, 0, 0, 0, 0, 0⟩ ∧
    (bufferOf longMessage).current = longMessage ∧
    ∃ result, l2tvppInput lm (bufferOf longMessage) = .ok result ∧
      result.next = .ip4Input ∧
      result.buffer.currentData.toInt = -25524 ∧
      result.buffer.current = [2, 2, 2] ∧
      ¬ Delivers (bufferOf longMessage) ⟨0, 100, 7, 8, 0, 0, 0, 0, 0⟩ 40012
        [0x45, 0, 0] result := by
  intro lm
  have hlive : lm.sessions.elt? 0 = some ⟨0, 100, 7, 8, 0, 0, 0, 0, 0⟩ := by
    decide
  have hkey : lm.sessionByKey.lookup (l2tvppSessionKey 100 7) = some 0 := by
    decide
  have hb : (bufferOf longMessage).current = longMessage :=
    current_bufferOf (by rw [length_longMessage]; decide)
  obtain ⟨result, hresult, hbuffer, -, hnext⟩ := l2tvppInput_framing longPad true
    false hkey hlive (.inl rfl) (by decide) hb
  have hfront : (longPad.encode ++
      pppFraming true false pppProtoIp4).length = 40012 := by
    rw [List.length_append, length_longPad]
    rfl
  rw [hfront] at hbuffer
  have hdata : result.buffer.currentData.toInt = -25524 := by
    rw [hbuffer]
    decide
  have hcurrent : result.buffer.current = [2, 2, 2] := by
    have hlength : result.buffer.currentLength = 3 := by
      rw [hbuffer]
      change BitVec.ofNat 16 longMessage.length - BitVec.ofInt 16 40012 = 3
      rw [length_longMessage]
      decide
    rw [VlibBuffer.current, hdata, hlength, hbuffer]
    rfl
  refine ⟨hlive, hb, result, hresult, hnext, hdata, hcurrent, ?_⟩
  intro hdelivers
  have hpayload := hdelivers.payload
  rw [hcurrent] at hpayload
  exact absurd hpayload (by decide)

end L2tvpp.Node
