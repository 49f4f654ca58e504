import L2tvpp.Node.FlowWalk

/-!
# The XDP steering program

`l2tp_steer` runs in the driver, in front of the kernel's L2TP code, and spreads
data packets over cores by tunnel and session id.  Its parser is its own; on a
UDP payload it agrees with the plugin's, and so does its hash.
-/

namespace L2tvpp.Xdp

open L2tvpp.Lib
open L2tvpp.Node

/-! ## The program -/

def ethPIp : U16 := 0x0800
def ethPIpv6 : U16 := 0x86dd
def ethP8021q : U16 := 0x8100
def ethP8021ad : U16 := 0x88a8
def ipprotoUdp : U8 := 17
def l2tpUdpPort : U16 := 1701
def l2tpHdrT : U16 := 0x8000
def l2tpHdrL : U16 := 0x4000
def l2tpHdrVer : U16 := 0x000f

inductive Stat where
  | passOther
  | passCtrl
  | redirect
  | redirectFail
  deriving DecidableEq, Repr

/-- How the program ends before its redirect: the frame is passed on and a
counter goes up, or it read outside the frame. -/
inductive Stop where
  | pass (stat : Stat)
  | fault (fault : MemFault)
  deriving DecidableEq, Repr

def load8 (frame : List U8) (offset : Nat) : Except Stop U8 :=
  (readU8 frame offset).mapError .fault

def load16 (frame : List U8) (offset : Nat) : Except Stop U16 :=
  (readU16 frame offset).mapError .fault

def pass {α : Type} (stat : Stat) : Except Stop α := .error (.pass stat)

/-- One round of the unrolled loop over VLAN tags. -/
def skipVlan (frame : List U8) (proto : U16) (cur : Nat) :
    Except Stop (U16 × Nat) :=
  if proto = ethP8021q ∨ proto = ethP8021ad then
    if cur + 4 > frame.length then pass .passOther
    else do
      let proto ← load16 frame (cur + 2)
      pure (proto, cur + 4)
  else pure (proto, cur)

/-- The outer IP header: its layer 4 protocol, and where that starts. -/
def ipHeader (frame : List U8) (proto : U16) (cur : Nat) :
    Except Stop (U8 × Nat) :=
  if proto = ethPIp then
    if cur + 20 > frame.length then pass .passOther
    else do
      let versionAndLength ← load8 frame cur
      let ihl := (versionAndLength &&& 0xf).toNat
      if ihl < 5 then pass .passOther
      else
        let fragment ← load16 frame (cur + 6)
        if fragment &&& 0x1fff ≠ 0 then pass .passOther
        else
          let protocol ← load8 frame (cur + 9)
          pure (protocol, cur + ihl * 4)
  else if proto = ethPIpv6 then
    if cur + 40 > frame.length then pass .passOther
    else do
      let nexthdr ← load8 frame (cur + 6)
      pure (nexthdr, cur + 40)
  else pass .passOther

/-- From the Ethernet header to the payload of a UDP datagram to port 1701. -/
def udpPayload (frame : List U8) : Except Stop Nat :=
  if 14 > frame.length then pass .passOther
  else do
    let proto ← load16 frame 12
    let (proto, cur) ← skipVlan frame proto 14
    let (proto, cur) ← skipVlan frame proto cur
    let (l4proto, cur) ← ipHeader frame proto cur
    if l4proto ≠ ipprotoUdp then pass .passOther
    else if cur + 8 > frame.length then pass .passOther
    else
      let dest ← load16 frame (cur + 2)
      if dest ≠ l2tpUdpPort then pass .passOther
      else pure (cur + 8)

/-- The ids of the L2TP data header at `cur`. -/
def l2tpIds (frame : List U8) (cur : Nat) : Except Stop (U16 × U16) :=
  if cur + 2 > frame.length then pass .passOther
  else do
    let flags ← load16 frame cur
    if flags &&& l2tpHdrVer ≠ 2 then pass .passOther
    else if flags &&& l2tpHdrT ≠ 0 then pass .passCtrl
    else
      let idp := if flags &&& l2tpHdrL ≠ 0 then cur + 2 + 2 else cur + 2
      if idp + 4 > frame.length then pass .passOther
      else
        let tunnelId ← load16 frame idp
        let sessionId ← load16 frame (idp + 2)
        pure (tunnelId, sessionId)

/-- Everything in front of the hash. -/
def parseIds (frame : List U8) : Except Stop (U16 × U16) := do
  let cur ← udpPayload frame
  l2tpIds frame cur

def steerHash (tunnelId sessionId : U16) : U32 :=
  let h : U32 :=
    (tunnelId.setWidth 32 <<< 16 ||| sessionId.setWidth 32) * 0x9E3779B1
  h ^^^ (h >>> 16)

def steerIndex (tunnelId sessionId : U16) (n : U32) : U32 :=
  steerHash tunnelId sessionId % n

structure Maps where
  cpuCount : Option U32
  cpusAvailable : U32 → Option U32
  /-- The keys for which `bpf_redirect_map` returns `XDP_REDIRECT`. -/
  cpuMap : U32 → Bool

/-- The cpu that the frame is redirected to. -/
def l2tpSteer (maps : Maps) (frame : List U8) : Except Stop U32 := do
  let (tunnelId, sessionId) ← parseIds frame
  match maps.cpuCount with
  | none => pass .redirectFail
  | some n =>
      if n = 0 then pass .redirectFail
      else
        match maps.cpusAvailable (steerIndex tunnelId sessionId n) with
        | none => pass .redirectFail
        | some cpu => if maps.cpuMap cpu then pure cpu else pass .redirectFail

/-! ## The ids it finds -/

theorem load16_ok {frame : List U8} {offset : Nat} {value : U16} :
    load16 frame offset = .ok value ↔ readU16 frame offset = .ok value := by
  unfold load16
  cases readU16 frame offset <;> simp [Except.mapError]

theorem hasFlag_iff {flags flag : U16} :
    hasFlag flags flag = true ↔ flags &&& flag ≠ 0 := by
  simp [hasFlag]

theorem l2tpIds_ok_iff {frame : List U8} {cur : Nat} {tid sid : U16} :
    l2tpIds frame cur = .ok (tid, sid) ↔
      ∃ flags, readU16 frame cur = .ok flags ∧ flags &&& l2tvppHdrVer = 2 ∧
        hasFlag flags l2tvppHdrT = false ∧
        cur + idsOffset flags + 4 ≤ frame.length ∧
        readU16 frame (cur + idsOffset flags) = .ok tid ∧
        readU16 frame (cur + idsOffset flags + 2) = .ok sid := by
  have hidp : ∀ flags : U16,
      (if flags &&& l2tpHdrL ≠ 0 then cur + 2 + 2 else cur + 2) =
        cur + idsOffset flags := by
    intro flags
    unfold idsOffset
    simp only [hasFlag_iff]
    change (if flags &&& l2tvppHdrL ≠ 0 then cur + 2 + 2 else cur + 2) = _
    split <;> rfl
  constructor
  · intro h
    unfold l2tpIds at h
    split at h
    · cases h
    · obtain ⟨flags, hflags, h⟩ := ok_of_bind h
      split at h
      · cases h
      · rename_i hversion
        split at h
        · cases h
        · rename_i hdata
          dsimp only at h
          rw [hidp] at h
          split at h
          · cases h
          · rename_i hids
            obtain ⟨tid', htid, h⟩ := ok_of_bind h
            obtain ⟨sid', hsid, h⟩ := ok_of_bind h
            cases h
            refine ⟨flags, load16_ok.mp hflags, not_not.mp hversion, ?_,
              by omega, load16_ok.mp htid, load16_ok.mp hsid⟩
            rw [← Bool.not_eq_true, hasFlag_iff]
            exact hdata
  · rintro ⟨flags, hflags, hversion, hdata, hids, htid, hsid⟩
    have hT : ¬ flags &&& l2tpHdrT ≠ 0 := by
      rw [← Bool.not_eq_true, hasFlag_iff] at hdata
      exact hdata
    have hversion' : ¬ flags &&& l2tpHdrVer ≠ 2 := not_not.mpr hversion
    have hmin : 2 ≤ idsOffset flags := by
      unfold idsOffset
      split <;> omega
    unfold l2tpIds
    rw [if_neg (by omega), load16_ok.mpr hflags, ok_bind, if_neg hversion',
      if_neg hT]
    dsimp only
    rw [hidp, if_neg (by omega), load16_ok.mpr htid, load16_ok.mpr hsid]
    rfl

/-- On the bytes from the L2TP header on, both parsers accept the same data
headers and find the same ids. -/
theorem l2tpIds_append (front d : List U8) (tid sid : U16) :
    l2tpIds (front ++ d) front.length = .ok (tid, sid) ↔
      ∃ flags off, l2tvppParseHdr d 0 d.length =
        .ok (.data flags tid sid off) := by
  simp only [l2tpIds_ok_iff, l2tvppParseHdr_data_iff, List.length_append]
  constructor
  · rintro ⟨flags, hflags, hversion, hdata, hids, htid, hsid⟩
    have hlen : idsOffset flags + 4 ≤ d.length := by omega
    refine ⟨flags, idsOffset flags + 4, hlen, hversion, hdata, ?_, ?_, ?_, rfl⟩
    · rw [← hflags, ← readU16_append_add front d (by omega), Nat.add_zero]
    · rw [← htid, Nat.zero_add, readU16_append_add front d (by omega)]
    · rw [← hsid, Nat.zero_add, Nat.add_assoc,
        readU16_append_add front d (by omega)]
  · rintro ⟨flags, off, hlen, hversion, hdata, hflags, htid, hsid, -⟩
    rw [Nat.zero_add] at htid hsid
    refine ⟨flags, ?_, hversion, hdata, by omega, ?_, ?_⟩
    · rw [← hflags, ← readU16_append_add front d (by omega), Nat.add_zero]
    · rw [← htid, readU16_append_add front d (by omega)]
    · rw [← hsid, Nat.add_assoc, readU16_append_add front d (by omega)]

theorem udpPayload_le {frame : List U8} {cur : Nat}
    (h : udpPayload frame = .ok cur) : cur ≤ frame.length := by
  unfold udpPayload at h
  split at h
  · cases h
  · obtain ⟨proto, -, h⟩ := ok_of_bind h
    obtain ⟨⟨proto, cur⟩, -, h⟩ := ok_of_bind h
    obtain ⟨⟨proto, cur⟩, -, h⟩ := ok_of_bind h
    obtain ⟨⟨l4proto, cur⟩, -, h⟩ := ok_of_bind h
    dsimp only at h
    split at h
    · cases h
    · split at h
      · cases h
      · rename_i hfits
        obtain ⟨dest, -, h⟩ := ok_of_bind h
        split at h
        · cases h
        · cases h
          omega

theorem steerIndex_eq_handoffWorker (tid sid : U16) {n : U32}
    (hpos : 1 ≤ n.toNat) (hmax : n.toNat ≤ 65534) :
    ((steerIndex tid sid n).toNat : Int) =
      (l2tvppHandoffWorker tid sid n).toNat - 1 := by
  have hworker : l2tvppHandoffWorker tid sid n =
      (1 + steerIndex tid sid n).setWidth 16 := rfl
  have hlt : (steerIndex tid sid n).toNat < n.toNat := by
    rw [steerIndex, BitVec.toNat_umod]
    exact Nat.mod_lt _ hpos
  rw [hworker, BitVec.toNat_setWidth, BitVec.toNat_add]
  simp
  omega

/-- The steering program hashes a frame to udp/1701 exactly when the plugin
takes its payload for L2TP data, by the same ids, and spreads it alike. -/
theorem l2tpSteer_agrees {frame d : List U8} {cur : Nat}
    (hpayload : udpPayload frame = .ok cur) (hd : d = frame.drop cur) :
    (∀ tid sid, parseIds frame = .ok (tid, sid) ↔
      ∃ flags off, l2tvppParseHdr d 0 d.length =
        .ok (.data flags tid sid off)) ∧
    ∀ (tid sid : U16) (n : U32), 1 ≤ n.toNat → n.toNat ≤ 65534 →
      ((steerIndex tid sid n).toNat : Int) =
        (l2tvppHandoffWorker tid sid n).toNat - 1 := by
  refine ⟨?_, fun tid sid n => steerIndex_eq_handoffWorker tid sid⟩
  intro tid sid
  have hids := l2tpIds_append (frame.take cur) d tid sid
  rw [hd, List.take_append_drop,
    List.length_take_of_le (udpPayload_le hpayload)] at hids
  rw [parseIds, hpayload, ok_bind, hids, hd]

theorem l2tpSteer_agrees_lacMessage :
    parseIds (lacHeaders.encode ++ lacMessage) = .ok (100, 7) ∧
      ∃ flags off, l2tvppParseHdr lacMessage 0 lacMessage.length =
        .ok (.data flags 100 7 off) := by
  have hpayload : udpPayload (lacHeaders.encode ++ lacMessage) = .ok 42 := by
    decide
  have hids : parseIds (lacHeaders.encode ++ lacMessage) = .ok (100, 7) := by
    decide
  have hagrees := l2tpSteer_agrees hpayload
    (show lacMessage = (lacHeaders.encode ++ lacMessage).drop 42 by decide)
  exact ⟨hids, (hagrees.1 100 7).mp hids⟩

end L2tvpp.Xdp
