import L2tvpp.Node.FlowWalk

/-!
# Flow affinity

The worker that `l2tvpp-flow-handoff` picks for a data frame depends on nothing
but the flow of the inner packet.
-/

namespace L2tvpp.Node

open L2tvpp.Lib
open L2tvpp.Plugin

/-! ## Inner packets and their flow -/

structure Ip6Header where
  versionClassFlow : U32
  payloadLength : U16
  protocol : U8
  hopLimit : U8
  src : List U8
  dst : List U8
  version : versionClassFlow.extractLsb' 24 8 >>> 4 = 6
  length_src : src.length = 16
  length_dst : dst.length = 16

def Ip6Header.encode (ip : Ip6Header) : List U8 :=
  be32 ip.versionClassFlow ++ be16 ip.payloadLength ++
    [ip.protocol, ip.hopLimit] ++ ip.src ++ ip.dst

/-- An IP header and what follows it in the first buffer. -/
inductive InnerPacket where
  | ip4 (header : WholeIp4Header) (payload : List U8)
  | ip6 (header : Ip6Header) (payload : List U8)

structure FlowId where
  src : List U8
  dst : List U8
  protocol : U8
  ports : List U8
  deriving DecidableEq

def hasPorts (protocol : U8) : Bool :=
  protocol == ipProtocolUdp || protocol == ipProtocolTcp

def portsOf (protocol : U8) (payload : List U8) : List U8 :=
  if hasPorts protocol then payload.take 4 else []

namespace InnerPacket

def encode : InnerPacket → List U8
  | ip4 header payload => header.encode ++ payload
  | ip6 header payload => header.encode ++ payload

def flow : InnerPacket → FlowId
  | ip4 header payload => ⟨be32 header.src, be32 header.dst, header.protocol,
      portsOf header.protocol payload⟩
  | ip6 header payload => ⟨header.src, header.dst, header.protocol,
      portsOf header.protocol payload⟩

/-- The ports of a TCP or UDP packet lie in the first buffer. -/
def portsInside : InnerPacket → Prop
  | ip4 header payload => hasPorts header.protocol = true → 4 ≤ payload.length
  | ip6 header payload => hasPorts header.protocol = true → 4 ≤ payload.length

end InnerPacket

/-! ## The hash of an inner packet -/

section Hash

variable (crc32c : List U8 → U32)

theorem hashFlow_append (front d src dst : List U8) (proto : U8) (l4 : Nat) :
    hashFlow crc32c (front ++ d) src dst proto (front.length + l4)
        (front.length + d.length) =
      hashFlow crc32c d src dst proto l4 d.length := by
  unfold hashFlow
  have hcond : (front.length + l4 + 4 ≤ front.length + d.length) ↔
      l4 + 4 ≤ d.length := by omega
  simp only [hcond]
  split
  · rename_i hports
    simp only [Bool.and_eq_true, decide_eq_true_eq] at hports
    rw [readBytes_append_add front d hports.2]
  · rfl

theorem l2tvppHashIp_append (front d : List U8) :
    l2tvppHashIp crc32c (front ++ d) front.length (front ++ d).length =
      l2tvppHashIp crc32c d 0 d.length := by
  have hmore : ∀ count, front.length + count > front.length + d.length ↔
      count > d.length := fun count => by omega
  have hbytes : ∀ offset count, offset + count ≤ d.length →
      readBytes (front ++ d) (front.length + offset) count =
        readBytes d offset count := fun _ _ h => readBytes_append_add front d h
  unfold l2tvppHashIp
  simp only [List.length_append, Nat.zero_add, hmore]
  by_cases hempty : 1 > d.length
  · rw [if_pos hempty, if_pos hempty]
  · have hzero := readU8_append_add front d (show 0 < d.length by omega)
    rw [Nat.add_zero] at hzero
    rw [if_neg hempty, if_neg hempty, hzero]
    cases readU8 d 0 with
    | error fault => rfl
    | ok first =>
        simp only [ok_bind]
        by_cases hip4 : first >>> 4 = 4
        · rw [if_pos hip4, if_pos hip4]
          by_cases hfits : 20 > d.length
          · rw [if_pos hfits, if_pos hfits]
          · rw [if_neg hfits, if_neg hfits, hbytes 12 4 (by omega),
              hbytes 16 4 (by omega),
              readU8_append_add front d (show 9 < d.length by omega),
              readU16_append_add front d (show 6 + 2 ≤ d.length by omega)]
            refine bind_congr fun src => bind_congr fun dst =>
              bind_congr fun proto => bind_congr fun fragment => ?_
            rw [← hashFlow_append crc32c front d]
            congr 1
            split <;> rfl
        · rw [if_neg hip4, if_neg hip4]
          by_cases hip6 : first >>> 4 = 6
          · rw [if_pos hip6, if_pos hip6]
            by_cases hfits : 40 > d.length
            · rw [if_pos hfits, if_pos hfits]
            · rw [if_neg hfits, if_neg hfits, hbytes 8 16 (by omega),
                hbytes 24 16 (by omega),
                readU8_append_add front d (show 6 < d.length by omega)]
              refine bind_congr fun src => bind_congr fun dst =>
                bind_congr fun proto => ?_
              exact hashFlow_append crc32c front d src dst proto 40
          · rw [if_neg hip6, if_neg hip6]

/-- The bytes of the key that an inner packet's flow is hashed by. -/
def FlowId.key (flow : FlowId) : List U8 :=
  l2tvppFlowKey flow.src flow.dst flow.ports flow.protocol

theorem hashFlow_payload (header src dst payload : List U8) (proto : U8)
    (hports : hasPorts proto = true → 4 ≤ payload.length) :
    hashFlow crc32c (header ++ payload) src dst proto header.length
        (header ++ payload).length =
      .ok (some (crc32c (l2tvppFlowKey src dst (portsOf proto payload)
        proto))) := by
  have hfits : (header.length + 4 ≤ (header ++ payload).length) ↔
      4 ≤ payload.length := by
    rw [List.length_append]
    omega
  unfold hashFlow portsOf
  cases hproto : hasPorts proto with
  | false =>
      unfold hasPorts at hproto
      simp only [hproto, Bool.false_and, Bool.false_eq_true, if_false]
      rfl
  | true =>
      have hfour := hports hproto
      have htake : readBytes (header ++ payload) header.length 4 =
          .ok (payload.take 4) := by
        have hread := readBytes_append header (payload.take 4) (payload.drop 4)
          rfl (List.length_take_of_le hfour).symm
        rw [List.take_append_drop] at hread
        exact hread
      unfold hasPorts at hproto
      simp only [hproto, hfits, hfour, htake]
      rfl

/-- A packet of version 4 is hashed by the fields of its header. -/
theorem l2tvppHashIp_version4 {d src dst : List U8} {first proto : U8}
    {fragment : U16} (hlen : 20 ≤ d.length) (hfirst : readU8 d 0 = .ok first)
    (hversion : first >>> 4 = 4) (hsrc : readBytes d 12 4 = .ok src)
    (hdst : readBytes d 16 4 = .ok dst) (hproto : readU8 d 9 = .ok proto)
    (hfragment : readU16 d 6 = .ok fragment) :
    l2tvppHashIp crc32c d 0 d.length =
      hashFlow crc32c d src dst proto
        (if ip4GetFragmentOffset fragment ≠ 0 then d.length
          else ip4HeaderBytes first) d.length := by
  simp only [l2tvppHashIp, Nat.zero_add, hfirst, hsrc, hdst, hproto, hfragment,
    ok_bind, hversion]
  rw [if_neg (by omega), if_true, if_neg (by omega)]

theorem l2tvppHashIp_ip4 (header : WholeIp4Header) (payload : List U8)
    (hports : (InnerPacket.ip4 header payload).portsInside) :
    l2tvppHashIp crc32c (header.encode ++ payload) 0
        (header.encode ++ payload).length =
      .ok (some (crc32c (InnerPacket.ip4 header payload).flow.key)) := by
  have hlen : 20 ≤ (header.encode ++ payload).length := by
    rw [List.length_append, Ip4Header.length_encode]
    omega
  have hflow := hashFlow_payload crc32c header.encode (be32 header.src)
    (be32 header.dst) payload header.protocol hports
  rw [Ip4Header.length_encode, ← header.headerBytes] at hflow
  rw [l2tvppHashIp_version4 crc32c hlen (header.readU8_version _)
    header.version (header.readBytes_src _) (header.readBytes_dst _)
    (header.readU8_protocol _) (header.readU16_flagsAndOffset _),
    if_neg (not_not.mpr header.notFragment)]
  exact hflow

theorem l2tvppHashIp_ip6 (header : Ip6Header) (payload : List U8)
    (hports : (InnerPacket.ip6 header payload).portsInside) :
    l2tvppHashIp crc32c (header.encode ++ payload) 0
        (header.encode ++ payload).length =
      .ok (some (crc32c (InnerPacket.ip6 header payload).flow.key)) := by
  have hencode : header.encode.length = 40 := by
    simp [Ip6Header.encode, header.length_src, header.length_dst]
  have hlen : 40 ≤ (header.encode ++ payload).length := by
    rw [List.length_append]
    omega
  have hsrc : readBytes (header.encode ++ payload) 8 16 =
      .ok header.src := by
    rw [Ip6Header.encode, List.append_assoc, List.append_assoc]
    exact readBytes_append _ _ _ rfl header.length_src.symm
  have hdst : readBytes (header.encode ++ payload) 24 16 =
      .ok header.dst := by
    rw [Ip6Header.encode, List.append_assoc]
    refine readBytes_append _ _ _ ?_ header.length_dst.symm
    simp [header.length_src]
  have hfirst : readU8 (header.encode ++ payload) 0 =
      .ok (header.versionClassFlow.extractLsb' 24 8) := rfl
  have hproto : readU8 (header.encode ++ payload) 6 =
      .ok header.protocol := rfl
  have hflow := hashFlow_payload crc32c header.encode header.src
    header.dst payload header.protocol hports
  rw [hencode] at hflow
  simp only [l2tvppHashIp, Nat.zero_add, hfirst, hproto, hsrc, hdst, ok_bind,
    header.version]
  rw [if_neg (by omega), if_neg (by decide), if_true, if_neg (by omega)]
  exact hflow

theorem l2tvppHashIp_encode (inner : InnerPacket) (hports : inner.portsInside) :
    l2tvppHashIp crc32c inner.encode 0 inner.encode.length =
      .ok (some (crc32c inner.flow.key)) := by
  cases inner with
  | ip4 header payload => exact l2tvppHashIp_ip4 crc32c header payload hports
  | ip6 header payload => exact l2tvppHashIp_ip6 crc32c header payload hports

end Hash

/-! ## The classification of a data frame -/

theorem l2tvppFlowClassify_framing (crc32c : List U8 → U32) (lm : L2tvppMain)
    (fastpath wantHash : Bool) (outer : OuterHeaders) (header : DataHeader)
    (addressControl compressed : Bool) {proto : U16} {payload : List U8}
    {b : VlibBuffer} {hash : U32}
    (hproto : proto = pppProtoIp4 ∨ proto = pppProtoIp6)
    (hlen : 4 ≤ (pppFraming addressControl compressed proto ++
      payload).length)
    (hb : b.current = outer.encode ++ (header.encode ++
      (pppFraming addressControl compressed proto ++ payload)))
    (hhash : l2tvppHashIp crc32c payload 0 payload.length = .ok (some hash)) :
    ∃ c, l2tvppFlowClassify crc32c lm fastpath wantHash b = .ok c ∧
      (c.kind = .fast ∨ c.kind = .inner) ∧ (wantHash = true → c.hash = hash) := by
  have hwalk := flowWalk_framing header addressControl compressed hproto hlen
  have hparse : l2tvppParseHdr (header.encode ++
      (pppFraming addressControl compressed proto ++ payload)) 0
      (header.encode ++ (pppFraming addressControl compressed proto ++
        payload)).length =
      .ok (.data header.flags header.tid header.sid header.ids.length) := by
    rw [DataHeader.encode, List.append_assoc]
    exact header.l2tvppParseHdr_ids _
  obtain ⟨fast, b', hcurrent, hlength, hclassify⟩ :=
    classifyFrame_data lm fastpath hb hparse
  have hlen' : b'.currentLength.toNat = b'.current.length := by simp
  have hkind : ∀ hash l2tpOffset, (Classified.mk (if fast then .fast else .inner)
      hash l2tpOffset b').kind = .fast ∨ (Classified.mk
        (if fast then .fast else .inner) hash l2tpOffset b').kind = .inner := by
    intro hash l2tpOffset
    cases fast <;> simp
  rw [l2tvppFlowClassify, hclassify]
  cases wantHash with
  | false => exact ⟨_, rfl, hkind _ _, by simp⟩
  | true =>
      have hframe : flowWalk b'.current header.flags
          (outer.encode.length + header.ids.length) b'.currentLength.toNat =
          .ok (some (outer.encode.length + (header.encode ++
            pppFraming addressControl compressed proto).length)) := by
        rw [hlen', hcurrent, hb, flowWalk_append, hwalk]
        rfl
      have hinner : l2tvppHashIp crc32c b'.current (outer.encode.length +
            (header.encode ++ pppFraming addressControl compressed
              proto).length) b'.currentLength.toNat = .ok (some hash) := by
        rw [← hhash, ← l2tvppHashIp_append crc32c (outer.encode ++
          (header.encode ++ pppFraming addressControl compressed proto)) payload,
          hlen', hcurrent, hb]
        simp only [List.append_assoc, List.length_append]
      simp only [Bool.not_true, Bool.false_eq_true, if_false, classifyInner,
        hframe, hinner, ok_bind]
      exact ⟨_, rfl, hkind _ _, fun _ => rfl⟩

/-! ## The worker of a data frame -/

/-- A frame that carries an IP packet over L2TP, in any legal framing. -/
structure DataFrame where
  outer : OuterHeaders
  header : DataHeader
  addressControl : Bool
  compressed : Bool
  proto : U16
  inner : InnerPacket
  proto_ip : proto = pppProtoIp4 ∨ proto = pppProtoIp6
  portsInside : inner.portsInside

namespace DataFrame

variable (frame : DataFrame)

def message : List U8 :=
  frame.header.encode ++
    (pppFraming frame.addressControl frame.compressed frame.proto ++
      frame.inner.encode)

def encode : List U8 := frame.outer.encode ++ frame.message

theorem twenty_le_inner : 20 ≤ frame.inner.encode.length := by
  cases hinner : frame.inner with
  | ip4 header payload =>
      simp [InnerPacket.encode]
      omega
  | ip6 header payload =>
      simp [InnerPacket.encode, Ip6Header.encode, header.length_src]
      omega

/-- A data frame is classified as one, by the hash of its inner flow if one is
wanted. -/
theorem l2tvppFlowClassify_encode (crc32c : List U8 → U32) (lm : L2tvppMain)
    (fastpath wantHash : Bool) {b : VlibBuffer} (hb : b.current = frame.encode) :
    ∃ c, l2tvppFlowClassify crc32c lm fastpath wantHash b = .ok c ∧
      (c.kind = .fast ∨ c.kind = .inner) ∧
      (wantHash = true → c.hash = crc32c frame.inner.flow.key) := by
  have hmin := frame.twenty_le_inner
  refine l2tvppFlowClassify_framing crc32c lm fastpath wantHash frame.outer
    frame.header frame.addressControl frame.compressed frame.proto_ip ?_ hb
    (l2tvppHashIp_encode crc32c frame.inner frame.portsInside)
  rw [List.length_append]
  omega

end DataFrame

/-- The index into the workers that a hash selects. -/
def workerIndex (count : Nat) (hash : U32) : Nat :=
  if isPow2 count then hash.toNat &&& (count - 1) else hash.toNat % count

theorem workerIndex_lt {count : Nat} (h : 0 < count) (hash : U32) :
    workerIndex count hash < count := by
  unfold workerIndex
  split
  · have hle : hash.toNat &&& (count - 1) ≤ count - 1 := Nat.and_le_right
    omega
  · exact Nat.mod_lt _ h

/-- The worker of a hashed frame; one worker takes every frame. -/
def hashedWorker (workers : List U16) (hash : U32) : U16 :=
  if workers.length = 1 then workers.getD 0 0
  else workers.getD (workerIndex workers.length hash) 0

theorem getD_mem {workers : List U16} {index : Nat}
    (h : index < workers.length) : workers.getD index 0 ∈ workers := by
  rw [List.getD_eq_getElem?_getD, List.getElem?_eq_getElem h]
  exact List.getElem_mem h

theorem hashedWorker_mem {workers : List U16} (h : workers ≠ []) (hash : U32) :
    hashedWorker workers hash ∈ workers := by
  have hlen : 0 < workers.length := List.length_pos_iff.mpr h
  unfold hashedWorker
  split
  · exact getD_mem hlen
  · exact getD_mem (workerIndex_lt hlen hash)

theorem flowThread_hashed {ifd : FlowHandoffIf} {thisThread : U16}
    {kind : FlowKind} {hash : U32} (hspray : ifd.spray = false)
    (hworkers : ifd.workers ≠ []) (hkind : kind ≠ .localThread) :
    (flowThread ifd thisThread kind hash).1 = hashedWorker ifd.workers hash := by
  have hhashed : ¬ (kind = .localThread ∨ ifd.workers.length = 0) := by
    rw [List.length_eq_zero_iff, not_or]
    exact ⟨hkind, hworkers⟩
  unfold flowThread hashedWorker
  simp only [if_neg hhashed, hspray, Bool.false_eq_true, if_false]
  split <;> rfl

/-- A frame that the classifier hashes goes to the worker of its hash. -/
theorem l2tvppFlowHandoff_hashed {crc32c : List U8 → U32} {lm : L2tvppMain}
    {ifd : FlowHandoffIf} (thisThread : U16) {b : VlibBuffer} {hash : U32}
    (hspray : ifd.spray = false) (hworkers : ifd.workers ≠ [])
    (hclassify : ∀ wantHash, ∃ c,
      l2tvppFlowClassify crc32c lm ifd.fastpath wantHash b = .ok c ∧
        c.kind ≠ .localThread ∧ (wantHash = true → c.hash = hash)) :
    ∃ result, l2tvppFlowHandoff crc32c lm ifd thisThread b = .ok result ∧
      result.1.thread = hashedWorker ifd.workers hash := by
  obtain ⟨c, hc, hkind, hhash⟩ :=
    hclassify (!ifd.spray && decide (ifd.workers.length > 1))
  have hthread : (flowThread ifd thisThread c.kind c.hash).1 =
      hashedWorker ifd.workers hash := by
    rw [flowThread_hashed hspray hworkers hkind]
    by_cases hone : ifd.workers.length = 1
    · simp only [hashedWorker, if_pos hone]
    · have hlen := List.length_pos_iff.mpr hworkers
      rw [hhash]
      simp only [hspray, Bool.not_false, Bool.true_and, decide_eq_true_eq]
      omega
  simp only [l2tvppFlowHandoff, hc, ok_bind]
  refine ⟨_, rfl, ?_⟩
  dsimp only
  split <;> exact hthread

theorem l2tvppFlowHandoff_encode (crc32c : List U8 → U32) (lm : L2tvppMain)
    (ifd : FlowHandoffIf) (thisThread : U16) (frame : DataFrame)
    {b : VlibBuffer} (hspray : ifd.spray = false) (hworkers : ifd.workers ≠ [])
    (hb : b.current = frame.encode) :
    ∃ result, l2tvppFlowHandoff crc32c lm ifd thisThread b = .ok result ∧
      result.1.thread =
        hashedWorker ifd.workers (crc32c frame.inner.flow.key) := by
  refine l2tvppFlowHandoff_hashed thisThread hspray hworkers fun wantHash => ?_
  obtain ⟨c, hc, hkind, hhash⟩ := frame.l2tvppFlowClassify_encode crc32c lm
    ifd.fastpath wantHash hb
  refine ⟨c, hc, ?_, hhash⟩
  rcases hkind with hkind | hkind <;> simp [hkind]

/-- Two frames on an interface whose inner packets belong to one flow go to the
same worker of the interface, however each of them is encapsulated. -/
theorem l2tvppFlowHandoff_affinity (crc32c : List U8 → U32)
    (lm lm' : L2tvppMain) (ifd : FlowHandoffIf) (thisThread thisThread' : U16)
    (frame frame' : DataFrame) {b b' : VlibBuffer}
    (hspray : ifd.spray = false) (hworkers : ifd.workers ≠ [])
    (hb : b.current = frame.encode) (hb' : b'.current = frame'.encode)
    (hflow : frame.inner.flow = frame'.inner.flow) :
    ∃ result result',
      l2tvppFlowHandoff crc32c lm ifd thisThread b = .ok result ∧
      l2tvppFlowHandoff crc32c lm' ifd thisThread' b' = .ok result' ∧
      result.1.thread = result'.1.thread ∧
      result.1.thread ∈ ifd.workers := by
  obtain ⟨result, hresult, hthread⟩ := l2tvppFlowHandoff_encode crc32c lm ifd
    thisThread frame hspray hworkers hb
  obtain ⟨result', hresult', hthread'⟩ := l2tvppFlowHandoff_encode crc32c lm'
    ifd thisThread' frame' hspray hworkers hb'
  refine ⟨result, result', hresult, hresult', ?_, ?_⟩
  · rw [hthread, hthread', hflow]
  · rw [hthread]
    exact hashedWorker_mem hworkers _

def dnsQuery (tos ttl : U8) : InnerPacket :=
  .ip4 ⟨⟨0x45, tos, 28, 0, 0, ttl, 17, 0, 0x64400001, 0x08080808, [],
    Ip4Header.plain_version, Ip4Header.plain_headerBytes⟩,
    Ip4Header.whole_offset, Ip4Header.whole_more⟩
    [0xc0, 0, 0, 53, 0, 8, 0, 0]

def plainFrame : DataFrame :=
  ⟨lacHeaders, fullHeader, true, false, pppProtoIp4, dnsQuery 0 64, .inl rfl,
    fun _ => by decide⟩

def taggedHeaders : OuterHeaders :=
  ⟨List.replicate 12 1, some 100,
    ⟨⟨0x46, 0, 0, 0, 0, 63, 17, 0, 0x0a000003, 0x0a000001, [1, 1, 1, 0],
      by decide, by decide⟩, Ip4Header.whole_offset, Ip4Header.whole_more⟩,
    40000, 0, 0, by decide, rfl⟩

def taggedFrame : DataFrame :=
  ⟨taggedHeaders,
    ⟨0x0002, 0, 9, 9, 0, 0, [], DataHeader.plain_data,
      DataHeader.plain_version, DataHeader.noPad_lt⟩, false, true,
    pppProtoIp4, dnsQuery 8 3, .inl rfl, fun _ => by decide⟩

def byteSum (key : List U8) : U32 :=
  key.foldl (fun sum byte => sum + byte.setWidth 32) 0

theorem l2tvppFlowHandoff_affinity_taggedFrame :
    let lm := (runCalls Policies.lifo Pool.empty Pool.empty oneSession).lm
    let ifd : FlowHandoffIf := ⟨[1, 2, 3], 0, true, true, false⟩
    ∃ result result',
      l2tvppFlowHandoff byteSum lm ifd 0 (bufferOf plainFrame.encode) =
        .ok result ∧
      l2tvppFlowHandoff byteSum lm ifd 0 (bufferOf taggedFrame.encode) =
        .ok result' ∧
      result.1.thread = result'.1.thread ∧
      result.1.thread ∈ ifd.workers :=
  l2tvppFlowHandoff_affinity _ _ _ _ 0 0 plainFrame taggedFrame rfl (by simp)
    (by decide) (by decide) (by decide)

end L2tvpp.Node
