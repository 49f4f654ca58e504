import L2tvpp.Node.FlowWalk
import L2tvpp.Node.FastPath

/-!
# Which frames the fast path takes

With one target worker the classifier marks a frame as fast by its outer header
alone.  With several it goes on to the inner packet, and when there is none it
forgets the mark: the outcome for a PPP control packet depends on the number of
workers.
-/

namespace L2tvpp.Node

open L2tvpp.Lib
open L2tvpp.Plugin

/-! ## The checks of the outer header -/

/-- The checks of the fast path: untagged IPv4 without options, not a fragment,
with a length in range, a valid checksum and a local destination, with an L2TP
data header behind the UDP one. -/
@[mk_iff]
structure OuterAccepted (lm : L2tvppMain) (frame : List U8) : Prop where
  untagged : readU16 frame 12 = .ok ethernetTypeIp4
  version : readU8 frame 14 = .ok 0x45
  length : ∃ length, readU16 frame 16 = .ok length ∧ 34 ≤ length.toNat ∧
    length.toNat ≤ frame.length - 14
  unfragmented : ∃ fragment, readU16 frame 20 = .ok fragment ∧
    ip4GetFragmentOffset fragment = 0 ∧ ip4GetFragmentMore fragment = 0
  udp : readU8 frame 23 = .ok ipProtocolUdp
  checksum : ∃ header, readBytes frame 14 20 = .ok header ∧
    ip4HeaderChecksumIsValid header = true
  destination : ∃ dst, readU32 frame 30 = .ok dst ∧
    l2tvppIsLocalIp4 lm dst = true
  port : readU16 frame 36 = .ok l2tvppUdpPort
  data : ∃ flags tid sid off, l2tvppParseHdr frame 42 (frame.length - 42) =
    .ok (.data flags tid sid off)

/-- The L2TP data message at `l2tp` has a PPP header inside the frame, and it is
one of IPv4 or IPv6. -/
def IpInside (frame : List U8) (l2tp : Nat) : Prop :=
  ∃ flags tid sid off cur proto next,
    l2tvppParseHdr frame l2tp (frame.length - l2tp) =
      .ok (.data flags tid sid off) ∧
    skipSeqAndOffset frame flags (l2tp + off) frame.length = .ok (some cur) ∧
    pppHeader frame cur = .ok (proto, next) ∧
    (proto = pppProtoIp4 ∨ proto = pppProtoIp6)

section Admission

variable {hashIp : List U8 → Nat → Nat → Except MemFault (Option U32)}
  {lm : L2tvppMain} {wantHash : Bool} {b : VlibBuffer} {c : Classified}

theorem fastEligible_iff {buffer : List U8} {p stop : Nat} {fast : Bool}
    (h : fastEligible lm buffer p stop true false = .ok fast) :
    fast = true ↔ readU8 buffer p = .ok 0x45 ∧
      (∃ length, readU16 buffer (p + 2) = .ok length ∧ 34 ≤ length.toNat ∧
        length.toNat ≤ stop - p) ∧
      (∃ header, readBytes buffer p 20 = .ok header ∧
        ip4HeaderChecksumIsValid header = true) ∧
      ∃ dst, readU32 buffer (p + 16) = .ok dst ∧
        l2tvppIsLocalIp4 lm dst = true := by
  unfold fastEligible at h
  rw [if_neg (by simp)] at h
  obtain ⟨version, hversion, h⟩ := ok_of_bind h
  split at h
  · rename_i hother
    cases h
    rw [hversion]
    constructor
    · intro hfast
      cases hfast
    · rintro ⟨hfive, -⟩
      exact absurd (Except.ok.inj hfive) hother
  · rename_i hfive
    obtain ⟨length, hlength, h⟩ := ok_of_bind h
    split at h
    · rename_i hrange
      cases h
      simp only [hlength, Except.ok.injEq, exists_eq_left', Bool.false_eq_true,
        false_iff]
      simp only [Bool.or_eq_true, decide_eq_true_eq] at hrange
      rintro ⟨-, hinside, -⟩
      omega
    · rename_i hrange
      obtain ⟨header, hheader, h⟩ := ok_of_bind h
      simp only [Bool.or_eq_true, decide_eq_true_eq, not_or] at hrange
      rw [not_not] at hfive
      split at h
      · rename_i hinvalid
        cases h
        simp only [Bool.not_eq_true'] at hinvalid
        simp [hheader, hinvalid]
      · rename_i hvalid
        obtain ⟨dst, hdst, h⟩ := ok_of_bind h
        cases h
        simp only [Bool.not_eq_true', Bool.not_eq_false] at hvalid
        simp only [hversion, hfive, hlength, hheader, hvalid, hdst,
          Except.ok.injEq, exists_eq_left', true_and]
        constructor
        · intro hlocal
          exact ⟨by omega, hlocal⟩
        · exact fun haccepted => haccepted.2

/-- The walk of the classifier finds an IP packet where the walk of
`l2tvpp-input` does. -/
theorem flowWalk_some_iff {buffer : List U8} {flags : U16} {cur stop : Nat} :
    (∃ next, flowWalk buffer flags cur stop = .ok (some next)) ↔
      ∃ start proto next,
        skipSeqAndOffset buffer flags cur stop = .ok (some start) ∧
        pppHeader buffer start = .ok (proto, next) ∧
        (proto = pppProtoIp4 ∨ proto = pppProtoIp6) := by
  rw [flowWalk_eq]
  constructor
  · rintro ⟨next, h⟩
    obtain ⟨walked, hwalked, h⟩ := ok_of_bind h
    cases walked with
    | none => cases h
    | some start =>
        dsimp only at h
        cases hppp : pppHeader buffer start with
        | error fault =>
            rw [hppp] at h
            cases h
        | ok ppp =>
            rw [hppp] at h
            refine ⟨start, ppp.1, ppp.2, hwalked, hppp, ?_⟩
            simp only [Except.map, Except.ok.injEq, ipPacket] at h
            by_contra hother
            rw [not_or] at hother
            rw [if_pos hother] at h
            cases h
  · rintro ⟨start, proto, next, hwalked, hppp, hproto⟩
    refine ⟨next, ?_⟩
    rw [hwalked]
    simp only [ok_bind, hppp, Except.map, ipPacket]
    rw [if_neg (by tauto)]

theorem classifyInner_kind {p l2tp off : Nat} {flags l2tpOffset : U16}
    {fast : Bool}
    (h : classifyInner hashIp wantHash b p l2tp flags off fast l2tpOffset =
      .ok c) :
    c.kind = .fast ↔ fast = true ∧ ∃ next,
      flowWalk b.current flags (l2tp + off) b.currentLength.toNat =
        .ok (some next) := by
  obtain ⟨walked, hwalked, hrest⟩ := ok_of_bind h
  rw [hwalked]
  constructor
  · intro hfast
    obtain ⟨hyes, -⟩ := classifyInner_fast hfast h
    refine ⟨hyes, ?_⟩
    cases walked with
    | none => exact absurd hfast (classifyOuter_kind hrest)
    | some next => exact ⟨next, rfl⟩
  · rintro ⟨rfl, next, hnext⟩
    cases hnext
    obtain ⟨hash, -, hhash⟩ := ok_of_bind hrest
    cases hash with
    | none =>
        cases hhash
        rfl
    | some hash =>
        cases hhash
        rfl

theorem classifyData_kind {p udp l2tp off : Nat} {flags : U16}
    (h : classifyData hashIp lm true wantHash b p udp l2tp false flags off =
      .ok c) :
    c.kind = .fast ↔
      fastEligible lm b.current p b.currentLength.toNat true false = .ok true ∧
      (wantHash = true → ∃ next, flowWalk b.current flags (l2tp + off)
        b.currentLength.toNat = .ok (some next)) := by
  obtain ⟨fast, heligible, h⟩ := ok_of_bind h
  have hcurrent : (if fast then recordOffsets b p udp else b).current =
      b.current := by
    cases fast <;> rfl
  have hlength : (if fast then recordOffsets b p udp else b).currentLength =
      b.currentLength := by
    cases fast <;> rfl
  rw [heligible, Except.ok.injEq]
  dsimp only at h
  cases wantHash with
  | false =>
      cases h
      cases fast <;> simp
  | true =>
      have hkind := classifyInner_kind h
      rw [hcurrent, hlength] at hkind
      rw [hkind]
      simp

/-- An accepted outer header leads to the fast decision. -/
theorem OuterAccepted.classifyFrame (h : OuterAccepted lm b.current)
    {flags tid sid : U16} {off : Nat}
    (hdata : l2tvppParseHdr b.current 42 (b.current.length - 42) =
      .ok (.data flags tid sid off)) :
    classifyFrame hashIp lm true wantHash b =
      classifyData hashIp lm true wantHash b 14 34 42 false flags off := by
  have hlen : b.currentLength.toNat = b.current.length := by simp
  obtain ⟨fragment, hfragment, hoffset, hmore⟩ := h.unfragmented
  obtain ⟨length, hlength, hmin, hmax⟩ := h.length
  have hheader : ip4HeaderBytes 0x45 = 20 := by decide
  have hnovlan : ethernetTypeIp4 ≠ ethernetTypeVlan := by decide
  rw [Node.classifyFrame]
  simp only [hlen, if_neg (show ¬ 14 > b.current.length by omega), h.untagged,
    ok_bind, if_neg hnovlan, classifyType, if_true, classifyIp4,
    if_neg (show ¬ 14 + 20 > b.current.length by omega), h.udp, hfragment,
    hoffset, hmore, h.version, hheader, ne_eq, not_true_eq_false, or_self,
    if_false, if_neg (show ¬ 14 + 20 + 8 > b.current.length by omega), h.port,
    false_or, if_neg (show ¬ 14 + 20 + 8 + 6 > b.current.length by omega),
    hdata]

theorem classifyIp4_accepted (hfast : c.kind = .fast)
    (htype : readU16 b.current 12 = .ok ethernetTypeIp4)
    (h : classifyIp4 hashIp lm true wantHash b 14 false = .ok c) :
    OuterAccepted lm b.current := by
  have hlen : b.currentLength.toNat = b.current.length := by simp
  obtain ⟨-, hfive, hinside, -⟩ := classifyIp4_fast hfast h
  have hheader : ip4HeaderBytes 0x45 = 20 := by decide
  unfold classifyIp4 at h
  dsimp only at h
  rw [if_neg (by omega)] at h
  obtain ⟨proto, hproto, h⟩ := ok_of_bind h
  obtain ⟨fragment, hfragment, h⟩ := ok_of_bind h
  split at h
  · exact absurd hfast (classifyOuter_kind h)
  · rename_i hcandidate
    simp only [not_or, not_not] at hcandidate
    obtain ⟨hudp, hoffset, hmore⟩ := hcandidate
    rw [hudp] at hproto
    rw [hfive, ok_bind, hheader, if_neg (by omega)] at h
    obtain ⟨dstPort, hport, h⟩ := ok_of_bind h
    split at h
    · exact absurd hfast (classifyOuter_kind h)
    · rename_i hl2tp
      rw [not_or, not_not] at hl2tp
      rw [hl2tp.1] at hport
      obtain ⟨hdr, hparse, h⟩ := ok_of_bind h
      cases hdr with
      | data flags tid sid off =>
          obtain ⟨heligible, -⟩ := (classifyData_kind h).mp hfast
          obtain ⟨-, hlength, hchecksum, hdst⟩ :=
            (fastEligible_iff heligible).mp rfl
          rw [hlen] at hlength hparse
          exact ⟨htype, hfive, hlength, ⟨fragment, hfragment, hoffset, hmore⟩,
            hproto, hchecksum, hdst, hport, flags, tid, sid, off, hparse⟩
      | tooShort => exact absurd hfast (classifyOuter_kind h)
      | notV2 =>
          cases h
          cases hfast
      | control =>
          cases h
          cases hfast

/-- With or without the hash, only frames with an accepted outer header are
marked; with it, also the inner packet counts. -/
theorem classifyFrame_kind
    (h : classifyFrame hashIp lm true wantHash b = .ok c) :
    c.kind = .fast ↔ OuterAccepted lm b.current ∧
      (wantHash = true → IpInside b.current 42) := by
  have hlen : b.currentLength.toNat = b.current.length := by simp
  have hdata : ∀ flags tid sid off, OuterAccepted lm b.current →
      l2tvppParseHdr b.current 42 (b.current.length - 42) =
        .ok (.data flags tid sid off) →
      (c.kind = .fast ↔ (wantHash = true → IpInside b.current 42)) := by
    intro flags tid sid off haccepted hparse
    rw [haccepted.classifyFrame hparse] at h
    obtain ⟨fast, heligible, -⟩ := ok_of_bind h
    have hyes : fast = true := (fastEligible_iff heligible).mpr
      ⟨haccepted.version, by rw [hlen]; exact haccepted.length,
        haccepted.checksum, haccepted.destination⟩
    rw [classifyData_kind h, heligible, hyes, hlen, flowWalk_some_iff]
    constructor
    · rintro ⟨-, hwalk⟩ hwant
      obtain ⟨cur, proto, next, hskip, hppp, hproto⟩ := hwalk hwant
      exact ⟨flags, tid, sid, off, cur, proto, next, hparse, hskip, hppp,
        hproto⟩
    · intro hinside
      refine ⟨rfl, ?_⟩
      intro hwant
      obtain ⟨flags', tid', sid', off', cur, proto, next, hparse', hskip, hppp,
        hproto⟩ := hinside hwant
      rw [hparse] at hparse'
      cases hparse'
      exact ⟨cur, proto, next, hskip, hppp, hproto⟩
  constructor
  · intro hfast
    obtain ⟨htype, hip4⟩ := classifyFrame_untagged hfast h
    have haccepted := classifyIp4_accepted hfast htype hip4
    obtain ⟨flags, tid, sid, off, hparse⟩ := haccepted.data
    exact ⟨haccepted, (hdata flags tid sid off haccepted hparse).mp hfast⟩
  · rintro ⟨haccepted, hinside⟩
    obtain ⟨flags, tid, sid, off, hparse⟩ := haccepted.data
    exact (hdata flags tid sid off haccepted hparse).mpr hinside

end Admission

/-! ## The number of workers -/

/-- With the fast path on, the classifier marks the frame as fast. -/
def IsFast (crc32c : List U8 → U32) (lm : L2tvppMain) (wantHash : Bool)
    (b : VlibBuffer) : Prop :=
  ∃ c, l2tvppFlowClassify crc32c lm true wantHash b = .ok c ∧ c.kind = .fast

instance (crc32c : List U8 → U32) (lm : L2tvppMain) (wantHash : Bool)
    (b : VlibBuffer) : Decidable (IsFast crc32c lm wantHash b) :=
  match h : l2tvppFlowClassify crc32c lm true wantHash b with
  | .ok c => decidable_of_iff (c.kind = .fast) (by simp [IsFast, h])
  | .error _ => isFalse (by simp [IsFast, h])

theorem isFast_iff (crc32c : List U8 → U32) (lm : L2tvppMain) (wantHash : Bool)
    (b : VlibBuffer) :
    IsFast crc32c lm wantHash b ↔ OuterAccepted lm b.current ∧
      (wantHash = true → IpInside b.current 42) := by
  obtain ⟨c, hc, -⟩ := SafeRun.returns
    (safeRun_l2tvppFlowClassify crc32c lm true wantHash b)
  rw [← classifyFrame_kind hc]
  constructor
  · rintro ⟨c', hc', hfast⟩
    rw [hc] at hc'
    cases hc'
    exact hfast
  · exact fun hfast => ⟨c, hc, hfast⟩

/-- Without the hash the outer header decides.  Asking for the hash changes
nothing exactly when an accepted header has an IP packet behind it. -/
theorem isFast_workers (crc32c : List U8 → U32) (lm : L2tvppMain)
    (b : VlibBuffer) :
    (IsFast crc32c lm false b ↔ OuterAccepted lm b.current) ∧
    ((IsFast crc32c lm false b ↔ IsFast crc32c lm true b) ↔
      (OuterAccepted lm b.current → IpInside b.current 42)) ∧
    ((IsFast crc32c lm true b ↔ OuterAccepted lm b.current) ↔
      (OuterAccepted lm b.current → IpInside b.current 42)) := by
  simp only [isFast_iff, Bool.false_eq_true, false_imp_iff, and_true,
    true_imp_iff]
  tauto

/-- An LCP echo request from the other end of `oneTunnel`. -/
def lcpEchoRequest : List U8 :=
  List.replicate 12 0 ++ be16 ethernetTypeIp4 ++
    [0x45, 0, 0, 46, 0, 0, 0, 0, 64, 17, 0x66, 0xbd, 10, 0, 0, 2, 10, 0, 0, 1] ++
    [0x06, 0xa5, 0x06, 0xa5, 0, 26, 0, 0] ++
    [0, 2, 0, 100, 0, 9, 0xff, 0x03, 0xc0, 0x21] ++ [9, 1, 0, 8, 0, 0, 0, 0]

theorem isFast_workers_lcpEchoRequest :
    let lm := (runCalls Policies.lifo Pool.empty Pool.empty oneTunnel).lm
    IsFast (fun _ => 0) lm false (bufferOf lcpEchoRequest) ∧
      ¬ IsFast (fun _ => 0) lm true (bufferOf lcpEchoRequest) := by
  decide

end L2tvpp.Node
