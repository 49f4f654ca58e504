import Mathlib.Data.List.GetD
import L2tvpp.Node.FlowAffinity

/-!
# Fragments of one datagram

The flow key of a TCP or UDP packet has its ports, but only the first fragment
of a datagram carries them.  So the first fragment and the others are hashed by
different keys, and may go to different workers.
-/

namespace L2tvpp.Node

open L2tvpp.Lib
open L2tvpp.Plugin

/-! ## Fragments -/

/-- An IPv4 packet: a fragment of a datagram, or a whole one. -/
structure Ip4Fragment extends Ip4Header where
  payload : List U8

structure SameDatagram (fragment fragment' : Ip4Fragment) : Prop where
  src : fragment.src = fragment'.src
  dst : fragment.dst = fragment'.dst
  protocol : fragment.protocol = fragment'.protocol
  fragmentId : fragment.fragmentId = fragment'.fragmentId

namespace Ip4Fragment

variable (fragment : Ip4Fragment)

def header : List U8 := fragment.toIp4Header.encode

def encode : List U8 := fragment.header ++ fragment.payload

/-- The first four bytes of a TCP or UDP packet; zeros if the fragment is not
the first one or too short. -/
def ports : List U8 :=
  if hasPorts fragment.protocol = true ∧
      ip4GetFragmentOffset fragment.flagsAndOffset = 0 ∧
      4 ≤ fragment.payload.length then fragment.payload.take 4
  else List.replicate 4 0

def key : List U8 :=
  l2tvppFlowKey (be32 fragment.src) (be32 fragment.dst) fragment.ports
    fragment.protocol

/-- A whole datagram for the L2TP port. -/
def ToL2tp : Prop :=
  fragment.protocol = ipProtocolUdp ∧
    ip4GetFragmentOffset fragment.flagsAndOffset = 0 ∧
    ip4GetFragmentMore fragment.flagsAndOffset = 0 ∧
    readU16 fragment.payload 2 = .ok l2tvppUdpPort

theorem length_header : fragment.header.length =
    ip4HeaderBytes fragment.versionAndLength := by
  rw [fragment.headerBytes]
  exact fragment.length_encode

theorem twenty_le : 20 ≤ fragment.encode.length := by
  have hheader := fragment.headerBytes
  rw [encode, List.length_append, length_header]
  omega

theorem length_ports : fragment.ports.length = 4 := by
  unfold ports
  split
  · rename_i hports
    exact List.length_take_of_le hports.2.2
  · rfl

/-- Fragments of one datagram have one key exactly if they have the same
ports. -/
theorem key_eq_iff {fragment fragment' : Ip4Fragment}
    (h : SameDatagram fragment fragment') :
    fragment.key = fragment'.key ↔ fragment.ports = fragment'.ports := by
  unfold key l2tvppFlowKey
  rw [h.src, h.dst, h.protocol, length_ports, length_ports]
  simp only [Nat.sub_self, List.replicate_zero, List.append_nil,
    List.append_cancel_right_eq, List.append_cancel_left_eq]

end Ip4Fragment

/-! ## The hash of a fragment -/

section Hash

variable (crc32c : List U8 → U32) (fragment : Ip4Fragment)

/-- Without ports the key has zeros in their place. -/
theorem hashFlow_noPorts {buffer src dst : List U8} {proto : U8} {l4 stop : Nat}
    (h : ¬ (hasPorts proto = true ∧ l4 + 4 ≤ stop)) :
    hashFlow crc32c buffer src dst proto l4 stop = .ok (some (crc32c
      (l2tvppFlowKey src dst (List.replicate 4 0) proto))) := by
  unfold hashFlow
  rw [if_neg (by simpa [hasPorts] using h)]
  rfl

theorem l2tvppHashIp_fragment :
    l2tvppHashIp crc32c fragment.encode 0 fragment.encode.length =
      .ok (some (crc32c fragment.key)) := by
  have hfits : ip4HeaderBytes fragment.versionAndLength + 4 ≤
      fragment.encode.length ↔ 4 ≤ fragment.payload.length := by
    rw [Ip4Fragment.encode, List.length_append, Ip4Fragment.length_header]
    omega
  rw [l2tvppHashIp_version4 crc32c fragment.twenty_le
    (fragment.readU8_version _) fragment.version (fragment.readBytes_src _)
    (fragment.readBytes_dst _) (fragment.readU8_protocol _)
    (fragment.readU16_flagsAndOffset _)]
  unfold Ip4Fragment.key Ip4Fragment.ports
  by_cases hoffset : ip4GetFragmentOffset fragment.flagsAndOffset = 0
  · rw [if_neg (not_not.mpr hoffset)]
    by_cases hports : hasPorts fragment.protocol = true ∧
        4 ≤ fragment.payload.length
    · obtain ⟨hproto, hfour⟩ := hports
      have hhash := hashFlow_payload crc32c fragment.header
        (be32 fragment.src) (be32 fragment.dst) fragment.payload
        fragment.protocol fun _ => hfour
      rw [Ip4Fragment.length_header, portsOf, if_pos hproto] at hhash
      rw [if_pos ⟨hproto, hoffset, hfour⟩]
      exact hhash
    · rw [hashFlow_noPorts crc32c (by rw [hfits]; exact hports), if_neg]
      exact fun h => hports ⟨h.1, h.2.2⟩
  · -- a later fragment: the layer 4 header would start at the end
    rw [if_pos hoffset, hashFlow_noPorts crc32c (by omega), if_neg]
    exact fun h => hoffset h.2.1

end Hash

/-! ## Frames that carry a fragment -/

/-- A fragment as the inner packet of L2TP data, or as outer traffic of its
own. -/
inductive FragmentFrame where
  | inner (outer : OuterHeaders) (header : DataHeader)
      (addressControl compressed : Bool) (fragment : Ip4Fragment)
  | plain (addresses : List U8) (tag : Option U16) (fragment : Ip4Fragment)
      (length_addresses : addresses.length = 12) (other : ¬ fragment.ToL2tp)

namespace FragmentFrame

def fragment : FragmentFrame → Ip4Fragment
  | inner _ _ _ _ fragment => fragment
  | plain _ _ fragment _ _ => fragment

def encode : FragmentFrame → List U8
  | inner outer header addressControl compressed fragment =>
      outer.encode ++ (header.encode ++
        (pppFraming addressControl compressed pppProtoIp4 ++ fragment.encode))
  | plain addresses tag fragment _ _ =>
      addresses ++ ip4Type tag ++ fragment.encode

end FragmentFrame

section Classify

variable {hashIp : List U8 → Nat → Nat → Except MemFault (Option U32)}
  {lm : L2tvppMain} {fastpath wantHash : Bool} {fragment : Ip4Fragment}
  {b : VlibBuffer} {front : List U8}

/-- Anything that is no whole datagram for the L2TP port is left to the outer
hash. -/
theorem classifyIp4_other (tagged : Bool)
    (hb : b.current = front ++ fragment.encode) (hother : ¬ fragment.ToL2tp) :
    classifyIp4 hashIp lm fastpath wantHash b front.length tagged =
      classifyOuter hashIp wantHash b front.length 0 := by
  have htwenty := fragment.twenty_le
  have hlen : b.currentLength.toNat =
      front.length + fragment.encode.length := by
    rw [← List.length_append, ← hb, VlibBuffer.length_current]
  have hproto : readU8 b.current (front.length + 9) =
      .ok fragment.protocol := by
    rw [hb, readU8_append_add _ _ (by omega)]
    exact fragment.readU8_protocol _
  have hfragment : readU16 b.current (front.length + 6) =
      .ok fragment.flagsAndOffset := by
    rw [hb, readU16_append_add _ _ (by omega)]
    exact fragment.readU16_flagsAndOffset _
  have hversion : readU8 b.current front.length =
      .ok fragment.versionAndLength := by
    have hread := readU8_append_add front fragment.encode (show 0 < _ by omega)
    rw [hb]
    exact hread
  simp only [classifyIp4, hproto, hfragment, hversion, ok_bind]
  rw [if_neg (by omega)]
  split
  · rfl
  · rename_i hwhole
    split
    · rfl
    · rename_i hudp
      have hpayload : b.current = (front ++ fragment.header) ++
          fragment.payload := by
        rw [hb, Ip4Fragment.encode, List.append_assoc]
      have hroom : 8 ≤ fragment.payload.length := by
        rw [hlen, Ip4Fragment.encode, List.length_append,
          fragment.length_header] at hudp
        omega
      have hport : readU16 b.current (front.length +
          ip4HeaderBytes fragment.versionAndLength + 2) =
          readU16 fragment.payload 2 := by
        rw [hpayload, ← fragment.length_header, ← List.length_append]
        exact readU16_append_add _ _ (by omega)
      obtain ⟨dstPort, hdstPort, -⟩ := (safeRun_readU16 (by omega) :
        SafeRun False (readU16 fragment.payload 2) _).returns
      rw [hport, hdstPort, ok_bind, if_pos]
      left
      rintro rfl
      simp only [not_or, not_not] at hwhole
      exact hother ⟨hwhole.1, hwhole.2.1, hwhole.2.2, hdstPort⟩

end Classify

/-- A frame with a fragment is hashed by the key of the fragment, in L2TP or
not. -/
theorem FragmentFrame.l2tvppFlowClassify_encode (crc32c : List U8 → U32)
    (lm : L2tvppMain) (fastpath wantHash : Bool) (frame : FragmentFrame)
    {b : VlibBuffer} (hb : b.current = frame.encode) :
    ∃ c, l2tvppFlowClassify crc32c lm fastpath wantHash b = .ok c ∧
      c.kind ≠ .localThread ∧
      (wantHash = true → c.hash = crc32c frame.fragment.key) := by
  cases frame with
  | inner outer header addressControl compressed fragment =>
      have htwenty := fragment.twenty_le
      obtain ⟨c, hc, hkind, hhash⟩ := l2tvppFlowClassify_framing crc32c lm
        fastpath wantHash outer header addressControl compressed (.inl rfl)
        (by rw [List.length_append]; omega) hb
        (l2tvppHashIp_fragment crc32c fragment)
      refine ⟨c, hc, ?_, hhash⟩
      rcases hkind with hkind | hkind <;> simp [hkind]
  | plain addresses tag fragment haddresses hother =>
      have hhash : l2tvppHashIp crc32c b.current
          (addresses ++ ip4Type tag).length b.currentLength.toNat =
          .ok (some (crc32c fragment.key)) := by
        rw [← VlibBuffer.length_current, hb]
        exact (l2tvppHashIp_append crc32c (addresses ++ ip4Type tag)
          fragment.encode).trans (l2tvppHashIp_fragment crc32c fragment)
      rw [l2tvppFlowClassify, classifyFrame_ethernet _ _ _ _ tag haddresses hb,
        classifyIp4_other _ hb hother, classifyOuter]
      cases wantHash with
      | false => exact ⟨_, rfl, by simp, by simp⟩
      | true =>
          simp only [Bool.not_true, Bool.false_eq_true, if_false, hhash,
            ok_bind]
          exact ⟨_, rfl, by simp, fun _ => rfl⟩

/-! ## The workers of two fragments -/

/-- Whatever the hash is, it selects the same worker. -/
def OneTarget (workers : List U16) : Prop :=
  ∀ hash hash', hashedWorker workers hash = hashedWorker workers hash'

theorem exists_workerIndex {index count : Nat} (h : index < count)
    (hmax : count ≤ 2 ^ 32) : ∃ hash, workerIndex count hash = index := by
  have htoNat : (BitVec.ofNat 32 index).toNat = index := by
    rw [BitVec.toNat_ofNat, Nat.mod_eq_of_lt (by omega)]
  refine ⟨BitVec.ofNat 32 index, ?_⟩
  rw [workerIndex, htoNat]
  split
  · rename_i hpow
    obtain ⟨k, rfl⟩ := (isPow2_iff (by omega)).mp hpow
    rw [Nat.and_two_pow_sub_one_eq_mod, Nat.mod_eq_of_lt h]
  · exact Nat.mod_eq_of_lt h

/-- A hash of 32 bits reaches every worker, so one target means one worker. -/
theorem oneTarget_iff {workers : List U16} (hmax : workers.length ≤ 2 ^ 32) :
    OneTarget workers ↔
      ∀ worker ∈ workers, ∀ worker' ∈ workers, worker = worker' := by
  have hreach : ∀ worker ∈ workers, ∃ hash,
      hashedWorker workers hash = worker := by
    intro worker hmem
    obtain ⟨index, hindex, rfl⟩ := List.mem_iff_getElem.mp hmem
    obtain ⟨hash, hhash⟩ := exists_workerIndex hindex hmax
    refine ⟨hash, ?_⟩
    unfold hashedWorker
    split
    · rename_i hone
      obtain rfl : index = 0 := by omega
      exact List.getD_eq_getElem ..
    · rw [hhash]
      exact List.getD_eq_getElem ..
  constructor
  · intro hone worker hmem worker' hmem'
    obtain ⟨hash, rfl⟩ := hreach worker hmem
    obtain ⟨hash', rfl⟩ := hreach worker' hmem'
    exact hone hash hash'
  · intro hsame hash hash'
    by_cases hnil : workers = []
    · subst hnil
      rfl
    · exact hsame _ (hashedWorker_mem hnil hash) _ (hashedWorker_mem hnil hash')

/-- Without workers a frame stays on its thread. -/
theorem FragmentFrame.l2tvppFlowHandoff_noWorkers (crc32c : List U8 → U32)
    (lm : L2tvppMain) {ifd : FlowHandoffIf} (thisThread : U16)
    (frame : FragmentFrame) {b : VlibBuffer} (hworkers : ifd.workers = [])
    (hb : b.current = frame.encode) :
    ∃ result, l2tvppFlowHandoff crc32c lm ifd thisThread b = .ok result ∧
      result.1.thread = thisThread := by
  obtain ⟨c, hc, -, -⟩ := frame.l2tvppFlowClassify_encode crc32c lm
    ifd.fastpath (!ifd.spray && decide (ifd.workers.length > 1)) hb
  have hthread : (flowThread ifd thisThread c.kind c.hash).1 = thisThread := by
    simp [flowThread, hworkers]
  simp only [l2tvppFlowHandoff, hc, ok_bind]
  refine ⟨_, rfl, ?_⟩
  dsimp only
  split <;> exact hthread

theorem FragmentFrame.l2tvppFlowHandoff_encode (crc32c : List U8 → U32)
    (lm : L2tvppMain) {ifd : FlowHandoffIf} (thisThread : U16)
    (frame : FragmentFrame) {b : VlibBuffer} (hspray : ifd.spray = false)
    (hworkers : ifd.workers ≠ []) (hb : b.current = frame.encode) :
    ∃ result, l2tvppFlowHandoff crc32c lm ifd thisThread b = .ok result ∧
      result.1.thread =
        hashedWorker ifd.workers (crc32c frame.fragment.key) :=
  l2tvppFlowHandoff_hashed thisThread hspray hworkers fun wantHash =>
    frame.l2tvppFlowClassify_encode crc32c lm ifd.fastpath wantHash hb

/-- Both frames get through the node and are sent to the same thread. -/
def SameThread (crc32c : List U8 → U32) (lm lm' : L2tvppMain)
    (ifd : FlowHandoffIf) (thisThread thisThread' : U16) (b b' : VlibBuffer) :
    Prop :=
  ∃ result result',
    l2tvppFlowHandoff crc32c lm ifd thisThread b = .ok result ∧
    l2tvppFlowHandoff crc32c lm' ifd thisThread' b' = .ok result' ∧
    result.1.thread = result'.1.thread

/-- Whatever the hash function is, two fragments of a datagram go to the same
thread exactly if they have the same ports in their keys or there is only one
worker to go to.  An interface without workers leaves each where it arrived. -/
theorem sameThread_iff (lm lm' : L2tvppMain) (ifd : FlowHandoffIf)
    (thisThread thisThread' : U16) (frame frame' : FragmentFrame)
    {b b' : VlibBuffer} (hspray : ifd.spray = false)
    (hb : b.current = frame.encode) (hb' : b'.current = frame'.encode)
    (hsame : SameDatagram frame.fragment frame'.fragment) :
    (∀ crc32c, SameThread crc32c lm lm' ifd thisThread thisThread' b b') ↔
      (ifd.workers = [] → thisThread = thisThread') ∧
      (frame.fragment.ports = frame'.fragment.ports ∨
        OneTarget ifd.workers) := by
  by_cases hworkers : ifd.workers = []
  · have hone : OneTarget ifd.workers := by
      rw [hworkers]
      exact fun _ _ => rfl
    have hthreads : ∀ crc32c,
        SameThread crc32c lm lm' ifd thisThread thisThread' b b' ↔
          thisThread = thisThread' := by
      intro crc32c
      obtain ⟨result, hresult, hthread⟩ :=
        frame.l2tvppFlowHandoff_noWorkers crc32c lm thisThread hworkers hb
      obtain ⟨result', hresult', hthread'⟩ :=
        frame'.l2tvppFlowHandoff_noWorkers crc32c lm' thisThread' hworkers hb'
      simp only [SameThread, hresult, hresult', Except.ok.injEq,
        exists_and_left, exists_eq_left', hthread, hthread']
    simp only [hthreads, hworkers, forall_const]
    exact ⟨fun h => ⟨h, .inr (by rwa [← hworkers])⟩, fun h => h.1⟩
  · have hthreads : ∀ crc32c,
        SameThread crc32c lm lm' ifd thisThread thisThread' b b' ↔
          hashedWorker ifd.workers (crc32c frame.fragment.key) =
            hashedWorker ifd.workers (crc32c frame'.fragment.key) := by
      intro crc32c
      obtain ⟨result, hresult, hthread⟩ := frame.l2tvppFlowHandoff_encode
        crc32c lm thisThread hspray hworkers hb
      obtain ⟨result', hresult', hthread'⟩ := frame'.l2tvppFlowHandoff_encode
        crc32c lm' thisThread' hspray hworkers hb'
      simp only [SameThread, hresult, hresult', Except.ok.injEq,
        exists_and_left, exists_eq_left', hthread, hthread']
    simp only [hthreads, ← Ip4Fragment.key_eq_iff hsame]
    constructor
    · intro hall
      refine ⟨fun hnil => absurd hnil hworkers, ?_⟩
      by_contra hnot
      obtain ⟨hkeys, htargets⟩ := not_or.mp hnot
      apply htargets
      intro hash hash'
      -- two keys may have any two hashes
      have hany := hall fun key =>
        if key = frame.fragment.key then hash else hash'
      rw [if_pos rfl, if_neg (Ne.symm hkeys)] at hany
      exact hany
    · rintro ⟨-, hkeys | hone⟩ crc32c
      · rw [hkeys]
      · exact hone _ _

/-! ## A datagram in two fragments -/

def crc32cBit (crc : U32) : U32 :=
  if crc &&& 1 = 1 then crc >>> 1 ^^^ 0x82f63b78 else crc >>> 1

def crc32cByte (crc : U32) (byte : U8) : U32 :=
  crc32cBit^[8] (crc ^^^ byte.setWidth 32)

/-- CRC-32C as the instruction computes it, from zero on. -/
def crc32cOf (bytes : List U8) : U32 := bytes.foldl crc32cByte 0

def udpFragment (flagsAndOffset : U16) (payload : List U8) : Ip4Fragment :=
  ⟨⟨0x45, 0, 36, 7, flagsAndOffset, 64, 17, 0, 0x64400001, 0x08080808, [],
    Ip4Header.plain_version, Ip4Header.plain_headerBytes⟩, payload⟩

def firstFragment : FragmentFrame :=
  .inner lacHeaders fullHeader true false (udpFragment 0x2000
    [0xc0, 4, 0, 53, 0, 24, 0, 0, 1, 2, 3, 4, 5, 6, 7, 8])

def lastFragment : FragmentFrame :=
  .inner lacHeaders fullHeader true false (udpFragment 2
    [9, 10, 11, 12, 13, 14, 15, 16])

/-- The first fragment of a UDP datagram with ports is hashed by them and the
last one is not: two workers get one each. -/
theorem sameThread_firstFragment :
    let lm := (runCalls Policies.lifo Pool.empty Pool.empty oneSession).lm
    let ifd : FlowHandoffIf := ⟨[1, 2], 0, true, false, false⟩
    SameDatagram firstFragment.fragment lastFragment.fragment ∧
      (bufferOf firstFragment.encode).current = firstFragment.encode ∧
      (bufferOf lastFragment.encode).current = lastFragment.encode ∧
      ¬ SameThread crc32cOf lm lm ifd 0 0 (bufferOf firstFragment.encode)
        (bufferOf lastFragment.encode) := by
  intro lm ifd
  refine ⟨⟨rfl, rfl, rfl, rfl⟩, current_bufferOf (by decide),
    current_bufferOf (by decide), ?_⟩
  rintro ⟨result, result', hresult, hresult', hthread⟩
  have hfirst : (l2tvppFlowHandoff crc32cOf lm ifd 0
      (bufferOf firstFragment.encode)).map (·.1.thread) = .ok 2 := by
    decide +kernel
  have hlast : (l2tvppFlowHandoff crc32cOf lm ifd 0
      (bufferOf lastFragment.encode)).map (·.1.thread) = .ok 1 := by
    decide +kernel
  rw [hresult] at hfirst
  rw [hresult'] at hlast
  have htwo : result.1.thread = 2 := Except.ok.inj hfirst
  have hone : result'.1.thread = 1 := Except.ok.inj hlast
  rw [hthread, hone] at htwo
  exact absurd htwo (by decide)

/-- A fragment in the middle of the datagram, on its own in a tagged frame. -/
def middleFragment : FragmentFrame :=
  .plain (List.replicate 12 1) (some 100) (udpFragment 0x2001
    [1, 2, 3, 4, 5, 6, 7, 8]) rfl fun h => by
      have hoffset := h.2.1
      revert hoffset
      decide

theorem sameThread_iff_middleFragment :
    SameDatagram middleFragment.fragment lastFragment.fragment ∧
      ∀ crc32c, SameThread crc32c L2tvppMain.init L2tvppMain.init
        ⟨[1, 2, 3], 0, true, true, false⟩ 0 1
        (bufferOf middleFragment.encode) (bufferOf lastFragment.encode) := by
  have hsame : SameDatagram middleFragment.fragment lastFragment.fragment :=
    ⟨rfl, rfl, rfl, rfl⟩
  have hthreads := sameThread_iff L2tvppMain.init L2tvppMain.init
    ⟨[1, 2, 3], 0, true, true, false⟩ 0 1 middleFragment lastFragment rfl
    (current_bufferOf (by decide)) (current_bufferOf (by decide)) hsame
  exact ⟨hsame, hthreads.mpr ⟨by simp, .inl (by decide)⟩⟩

end L2tvpp.Node
