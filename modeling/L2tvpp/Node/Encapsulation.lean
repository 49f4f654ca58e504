import L2tvpp.Plugin.Stacking
import L2tvpp.Node.Checksum
import L2tvpp.Node.Delivery
import L2tvpp.Node.EncapCache

/-!
# From the uplink to the tunnel

`ip4-midchain` gets the frames that the fast path takes.  It is not in `src/`:
what the plugin counts on is that it decrements the TTL, puts the rewrite of the
adjacency in front and applies the fixup.  When the adjacency is stacked on its
session, that is a packet from the session's tunnel, and a peer that has a
session with the ids in it gets the inner packet out.
-/

namespace L2tvpp.Node

open L2tvpp.Lib
open L2tvpp.Plugin

/-! ## ip4-midchain -/

def ip4Ttl (packet : List U8) : U8 := packet.getD 8 0

/-- The TTL is one less and the header checksum has been updated. -/
structure TtlDecremented (packet packet' : List U8) : Prop where
  ttl : ip4Ttl packet' = ip4Ttl packet - 1
  checksum : ip4HeaderChecksumIsValid (packet.take 20) = true →
    ip4HeaderChecksumIsValid (packet'.take 20) = true
  length : packet'.length = packet.length
  same : ∀ offset, offset ≠ 8 → offset ≠ 10 → offset ≠ 11 →
    packet'[offset]? = packet[offset]?

/-- The node of VPP: what it passes on for a buffer, `rest` being in further
buffers of its chain, and whether the packet is within the MTU of the
adjacency. -/
structure Ip4Midchain where
  send : Vpp → VlibBuffer → List U8 → Except MemFault (Option (List U8))
  withinMtu : Vpp → VlibBuffer → List U8 → Bool

/-- A packet whose TTL is not used up and that is within the MTU is passed on
with the TTL decremented, the rewrite in front and the fixup applied; one whose
TTL is used up is not. -/
structure Ip4Midchain.Forwards (node : Ip4Midchain) : Prop where
  forwards : ∀ (v : Vpp) (b : VlibBuffer) (rest : List U8) (m : Midchain),
    b.adjIndexTx.bind v.midchain = some m → 20 ≤ b.current.length →
    1 < ip4Ttl (b.current ++ rest) → node.withinMtu v b rest = true →
    ∃ inner, TtlDecremented (b.current ++ rest) inner ∧
      node.send v b rest = some <$> l2tvppFixup v m (m.rewrite ++ inner)
  expires : ∀ (v : Vpp) (b : VlibBuffer) (rest : List U8),
    20 ≤ b.current.length → ip4Ttl (b.current ++ rest) ≤ 1 →
    node.send v b rest = .ok none

/-! ## A node that forwards -/

/-- The checksum goes up as the TTL goes down, with the carry taken back in. -/
def ttlChecksum (checksum : U16) : U16 :=
  if checksum < 0xfffe then checksum + 1 else checksum + 2

def decrementTtl (packet : List U8) : List U8 :=
  let checksum : U16 := packet.getD 11 0 ++ packet.getD 10 0
  patch16 (packet.set 8 (ip4Ttl packet - 1)) 10
    (native16 (ttlChecksum checksum))

theorem wordSum_nativeWords_set (bytes : List U8) (index : Nat) (byte : U8)
    (h : 2 * index + 1 < bytes.length) :
    wordSum (nativeWords (bytes.set (2 * index) byte)) +
        (bytes.getD (2 * index) 0).toNat =
      wordSum (nativeWords bytes) + byte.toNat := by
  induction index generalizing bytes with
  | zero =>
      obtain _ | ⟨low, _ | ⟨high, rest⟩⟩ := bytes
      · contradiction
      · exact absurd h (by simp)
      simp only [Nat.mul_zero, List.set_cons_zero, List.getD_cons_zero,
        nativeWords, wordSum_cons, toNat_append_bytes]
      omega
  | succ index ih =>
      obtain _ | ⟨low, _ | ⟨high, rest⟩⟩ := bytes
      · contradiction
      · exact absurd h (by simp)
      have hrest := ih rest (by simp only [List.length_cons] at h; omega)
      change wordSum (nativeWords (low :: high ::
        rest.set (2 * index) byte)) + (rest.getD (2 * index) 0).toNat = _
      simp only [nativeWords, wordSum_cons]
      omega

theorem toNat_ttlChecksum {sum : Nat} (h : 1 < sum) {checksum : U16}
    (hchecksum : checksum.toNat = 65535 - foldOnes sum) :
    (ttlChecksum checksum).toNat = 65535 - foldOnes (sum - 1) := by
  unfold foldOnes at hchecksum ⊢
  rw [if_neg (by omega)] at hchecksum
  rw [if_neg (by omega)]
  unfold ttlChecksum
  split
  · rename_i hlow
    have hlow' : checksum.toNat < 65534 := hlow
    rw [BitVec.toNat_add]
    change (_ + 1) % 65536 = _
    omega
  · rename_i hhigh
    have hhigh' : ¬ checksum.toNat < 65534 := hhigh
    rw [BitVec.toNat_add]
    change (_ + 2) % 65536 = _
    omega

theorem checksumWords_decrementTtl (header : List U8) :
    checksumWords (decrementTtl header) = nativeWords
      (((header.set 10 0).set 11 0).set (2 * 4) (ip4Ttl header - 1)) := by
  have hten : (8 : Nat) ≠ 10 := by decide
  have heleven : (8 : Nat) ≠ 11 := by decide
  have hlast : (11 : Nat) ≠ 10 := by decide
  rw [checksumWords, decrementTtl]
  dsimp only [native16, patch16]
  rw [List.set_comm _ _ hlast, List.set_set, List.set_set,
    List.set_comm _ _ hten, List.set_comm _ _ heleven]

theorem ip4HeaderChecksum_decrementTtl {header : List U8}
    (hlen : header.length = 20) (httl : 1 < ip4Ttl header) :
    ip4HeaderChecksum (decrementTtl header) =
      ttlChecksum (ip4HeaderChecksum header) := by
  have hcleared : ((header.set 10 0).set 11 0).length = 20 := by
    rw [List.length_set, List.length_set, hlen]
  have hbyte : ((header.set 10 0).set 11 0).getD (2 * 4) 0 =
      ip4Ttl header := by
    simp [ip4Ttl, List.getD_eq_getElem?_getD]
  have hdown := wordSum_nativeWords_set _ 4 (ip4Ttl header - 1)
    (by rw [hcleared]; decide)
  have hout := wordSum_nativeWords_set _ 4 0 (by rw [hcleared]; decide)
  rw [hbyte] at hdown hout
  have hone : (ip4Ttl header - 1).toNat = (ip4Ttl header).toNat - 1 := by
    bv_omega
  have htwo : 1 < (ip4Ttl header).toNat := httl
  have hzero : (0 : U8).toNat = 0 := rfl
  have hlen' : (decrementTtl header).length = 20 := by
    simp [decrementTtl, patch16, native16, hlen]
  have hnew := toNat_ip4HeaderChecksum
    (show (decrementTtl header).length ≤ 65535 by omega)
  have hold := toNat_ip4HeaderChecksum (show header.length ≤ 65535 by omega)
  rw [checksumWords_decrementTtl] at hnew
  rw [checksumWords] at hold
  have hgone : wordSum (nativeWords (((header.set 10 0).set 11 0).set (2 * 4)
      (ip4Ttl header - 1))) =
        wordSum (nativeWords ((header.set 10 0).set 11 0)) - 1 := by
    omega
  apply BitVec.eq_of_toNat_eq
  rw [hnew, hgone]
  exact (toNat_ttlChecksum (by omega) hold).symm

theorem take_decrementTtl (packet : List U8) :
    (decrementTtl packet).take 20 = decrementTtl (packet.take 20) := by
  simp [decrementTtl, patch16, native16, ip4Ttl, List.take_set,
    List.getD_eq_getElem?_getD]

/-- The checksum field as the machine loads it. -/
theorem native16_checksumField {header : List U8} (hlen : header.length = 20) :
    native16 (header.getD 11 0 ++ header.getD 10 0) =
      (header.drop 10).take 2 := by
  have hlow : header.getD 10 0 = header[10] := by simp [hlen]
  have hhigh : header.getD 11 0 = header[11] := by simp [hlen]
  rw [native16, BitVec.extractLsb'_append_eq_left,
    BitVec.extractLsb'_append_eq_right, hlow, hhigh,
    List.drop_eq_getElem_cons (by omega), List.drop_eq_getElem_cons (by omega)]
  rfl

theorem native16_inj {word word' : U16} (h : native16 word = native16 word') :
    word = word' := by
  obtain ⟨hlow, hhigh⟩ := List.cons_eq_cons.mp h
  rw [← bytes_append word, ← bytes_append word', hlow,
    (List.cons_eq_cons.mp hhigh).1]

theorem ttlDecremented_decrementTtl {packet : List U8}
    (hlen : 20 ≤ packet.length) (httl : 1 < ip4Ttl packet) :
    TtlDecremented packet (decrementTtl packet) where
  ttl := by
    have hlt : 8 < packet.length := by omega
    simp [ip4Ttl, decrementTtl, patch16, native16, List.getD_eq_getElem?_getD,
      hlt]
  checksum := by
    intro hvalid
    have hheader : (packet.take 20).length = 20 := by
      rw [List.length_take]
      omega
    have hlen' : (decrementTtl (packet.take 20)).length = 20 := by
      simp [decrementTtl, patch16, native16, hlen]
    have httl' : 1 < ip4Ttl (packet.take 20) := by
      rwa [ip4Ttl, List.getD_eq_getElem?_getD, List.getElem?_take_of_lt
        (by decide), ← List.getD_eq_getElem?_getD]
    have hfield : native16 _ = native16 _ :=
      (native16_checksumField hheader).trans (beq_iff_eq.mp hvalid)
    rw [take_decrementTtl, ip4HeaderChecksumIsValid, beq_iff_eq,
      ← native16_checksumField hlen',
      ip4HeaderChecksum_decrementTtl hheader httl', ← native16_inj hfield]
    apply congrArg native16
    have hlow : 10 < (packet.take 20).length := by omega
    have hhigh : 11 < (packet.take 20).length := by omega
    simp only [decrementTtl, patch16, native16, List.getD_eq_getElem?_getD,
      List.getElem?_set, List.length_set, hlow, hhigh]
    exact bytes_append _
  length := by
    simp [decrementTtl, patch16, native16]
  same := by
    intro offset hottl hlow hhigh
    simp [decrementTtl, patch16, native16, List.getElem?_set_ne, Ne.symm hottl,
      Ne.symm hlow, Ne.symm hhigh]

/-- On an adjacency of a given MTU. -/
def testMidchain (mtu : Nat) : Ip4Midchain where
  send v b rest :=
    let packet := b.current ++ rest
    if ip4Ttl packet ≤ 1 ∨ mtu < packet.length then .ok none
    else
      match b.adjIndexTx.bind v.midchain with
      | none => .ok none
      | some m => some <$> l2tvppFixup v m (m.rewrite ++ decrementTtl packet)
  withinMtu _ b rest := (b.current ++ rest).length ≤ mtu

theorem forwards_testMidchain (mtu : Nat) : (testMidchain mtu).Forwards where
  forwards := by
    intro v b rest m hm htwenty httl hmtu
    have hlen : 20 ≤ (b.current ++ rest).length := by
      rw [List.length_append]
      omega
    refine ⟨_, ttlDecremented_decrementTtl hlen httl, ?_⟩
    have hwithin : (b.current ++ rest).length ≤ mtu := of_decide_eq_true hmtu
    have hpass : ¬ (ip4Ttl (b.current ++ rest) ≤ 1 ∨
        mtu < (b.current ++ rest).length) := by
      rintro (hexpired | hlong)
      · exact absurd httl (BitVec.not_lt.mpr hexpired)
      · omega
    simp only [testMidchain, if_neg hpass, hm]
  expires := by
    intro v b rest _ httl
    exact if_pos (.inl httl)

/-- The packet goes from the tunnel's local end to its peer, with the peer's
ids, and a peer that runs the same code receives `inner` on the session of those
ids. -/
structure Sent (t : L2tvppTunnel) (sess : L2tvppSession) (link : VnetLink)
    (inner packet : List U8) : Prop where
  bytes : ∃ checksum, packet = encapPacket t sess (pppProtoOf link)
    (BitVec.ofNat 16 packet.length) checksum inner
  length : packet.length = 38 + inner.length
  checksum : packet.length ≤ 65534 →
    ip4HeaderChecksumIsValid (packet.take 20) = true
  received : ∀ (peer : Vpp) (index : Nat) (live : L2tvppSession)
    (b : VlibBuffer) (rest : List U8), StoreInv peer →
    peer.lm.sessions.elt? index = some live →
    live.localTid = t.peerTid → live.localSid = sess.peerSid →
    b.current ++ rest = packet.drop 28 → 10 ≤ b.current.length →
    b.reaches 10 → ∃ result, l2tvppInput peer.lm b = .ok result ∧
      result.receivedOn live.swIfIndex = true ∧
      result.buffer.current ++ rest = inner

section Sent

variable {t : L2tvppTunnel} {sess : L2tvppSession} {link : VnetLink}
  {inner : List U8}

theorem pppProtoOf_ip (link : VnetLink) :
    pppProtoOf link = pppProtoIp4 ∨ pppProtoOf link = pppProtoIp6 := by
  unfold pppProtoOf
  split
  · exact .inl rfl
  · exact .inr rfl

theorem received_encapMessage {proto : U16} {peer : Vpp} {index : Nat}
    {live : L2tvppSession} {b : VlibBuffer} {rest : List U8}
    (hproto : proto = pppProtoIp4 ∨ proto = pppProtoIp6) (hpeer : StoreInv peer)
    (hlive : peer.lm.sessions.elt? index = some live)
    (htid : live.localTid = t.peerTid) (hsid : live.localSid = sess.peerSid)
    (hb : b.current ++ rest = encapMessage t sess proto inner)
    (hten : 10 ≤ b.current.length) (hreach : b.reaches 10) :
    ∃ result, l2tvppInput peer.lm b = .ok result ∧
      result.receivedOn live.swIfIndex = true ∧
      result.buffer.current ++ rest = inner := by
  have hkey := hpeer.byKey.find hlive
  rw [L2tvppSession.key, htid, hsid] at hkey
  obtain ⟨result, hresult, -, hnext, hbuffer, -, hinner⟩ :=
    l2tvppInput_encapMessage hproto hkey hlive hb hten
  refine ⟨result, hresult, ?_, hinner hreach⟩
  have hpassed : pppNext peer.lm proto = some result.next := by
    rw [hnext]
    rcases hproto with rfl | rfl <;> rfl
  obtain ⟨hpunt, hdrop⟩ := pppNext_some hpassed
  simp [InputResult.receivedOn, InputResult.decapsulated, hpunt, hdrop, hbuffer,
    decapBuffer]

theorem sent_encapPacket {csum0 : U16}
    (hcsum : csum0 = ip4HeaderChecksum (outerIp4Header t)) :
    Sent t sess link inner (encapPacket t sess (pppProtoOf link)
      (BitVec.ofNat 16 (38 + inner.length)) (swap16 (fixupChecksum csum0
        (BitVec.ofNat 16 (38 + inner.length)))) inner) where
  bytes := by
    rw [length_encapPacket]
    exact ⟨_, rfl⟩
  length := length_encapPacket ..
  checksum := by
    intro hbelow
    rw [length_encapPacket] at hbelow
    rw [take_encapPacket, hcsum, outerIp4Header_encode]
    exact (fixup_valid t (ofNat_ne_max hbelow)).2
  received := by
    intro peer index live b rest hpeer hlive htid hsid hb hten hreach
    rw [drop_encapPacket] at hb
    exact received_encapMessage (pppProtoOf_ip link) hpeer hlive htid hsid hb
      hten hreach

end Sent

/-! ## The adjacency of a session -/

/-- A buffer on an adjacency of a session leaves through the session's tunnel,
whatever has become of the sessions and tunnels since the adjacency was made. -/
theorem midchain_sent {v : Vpp} (h : ChainInv v) {node : Ip4Midchain}
    (hnode : node.Forwards) {ai : AdjIndex} {adj : IpAdjacency} {index : Nat}
    {sess : L2tvppSession}
    (hadj : v.adjacencies.get? ai = some adj) (hip : ai.link.isIp = true)
    (hsess : v.lm.sessions.elt? index = some sess)
    (hsw : sess.swIfIndex = ai.swIfIndex) :
    ∃ t, v.lm.tunnels.elt? sess.tunnelIndex = some t ∧
      ∀ (b : VlibBuffer) (rest : List U8), b.adjIndexTx = some ai →
        20 ≤ b.current.length → 1 < ip4Ttl (b.current ++ rest) →
        node.withinMtu v b rest = true →
        ∃ inner packet, TtlDecremented (b.current ++ rest) inner ∧
          node.send v b rest = .ok (some packet) ∧
          Sent t sess ai.link inner packet := by
  have hindex : v.lm.sessionIndexOf ai.swIfIndex = some index := by
    rw [← hsw]
    exact h.store.bySwIfIndex.find hsess
  obtain ⟨sess', t, rewrite, hcarries⟩ := h.stacked ai adj index hadj hip hindex
  have hsess' := hcarries.session
  rw [hsess] at hsess'
  cases hsess'
  have hlink : ai.link = .ip4 ∨ ai.link = .ip6 := by
    cases hlink : ai.link <;> simp_all [VnetLink.isIp]
  have hbuilt := hcarries.built
  rw [l2tvppBuildRewriteI_encapRewrite t sess hlink, Option.some.injEq,
    Prod.mk.injEq] at hbuilt
  refine ⟨t, hcarries.tunnel, ?_⟩
  intro b rest htx htwenty httl hmtu
  have hmidchain : v.midchain ai =
      some ⟨v.lm.sessions.addr index, rewrite⟩ := by
    rw [Vpp.midchain, hadj]
    exact hcarries.midchain
  have hfixed : Midchain.session v ⟨v.lm.sessions.addr index, rewrite⟩ =
      some sess := by
    rw [Midchain.session, Pool.deref_addr, hsess]
  have htx' : b.adjIndexTx.bind v.midchain =
      some ⟨v.lm.sessions.addr index, rewrite⟩ := by
    rw [htx]
    exact hmidchain
  obtain ⟨inner, hinner, hsend⟩ :=
    hnode.forwards v b rest _ htx' htwenty httl hmtu
  have hfixup : l2tvppFixup v ⟨v.lm.sessions.addr index, rewrite⟩
      (encapRewrite t sess (pppProtoOf ai.link) ++ inner) = _ :=
    l2tvppFixup_encapRewrite hfixed inner
  rw [hbuilt.1] at hfixup
  rw [hfixup] at hsend
  exact ⟨inner, _, hinner, hsend, sent_encapPacket hbuilt.2.symm⟩

/-! ## The cache is switched on -/

/-- The first route call for a host switches the cache on, so it has no entry
before. -/
def CacheOn (v : Vpp) : Prop :=
  ∀ ip4 ai, v.lm.encapAdjByIp4.lookup (encapKey ip4) = some ai →
    v.lm.encapAdjInit = true

def SameCache (lm lm' : L2tvppMain) : Prop :=
  lm'.encapAdjByIp4 = lm.encapAdjByIp4 ∧ lm'.encapAdjInit = lm.encapAdjInit

theorem CacheOn.of_sameCache {v v' : Vpp} (h : CacheOn v)
    (hsame : SameCache v.lm v'.lm) : CacheOn v' := by
  intro ip4 ai hai
  rw [hsame.1] at hai
  rw [hsame.2]
  exact h ip4 ai hai

theorem adjUnlock_lm (v : Vpp) (ai : AdjIndex) (owner : LockOwner) :
    (adjUnlock v ai owner).lm = v.lm := by
  unfold adjUnlock
  split
  · rfl
  · dsimp only
    split <;> rfl

theorem sameCache_updateAdj (v : Vpp) (ai : AdjIndex) :
    SameCache v.lm (l2tvppUpdateAdj v ai).lm := by
  rcases l2tvppUpdateAdj_cases v ai with
    h | ⟨si, sess, t, rewrite, csum, -, -, -, -, h⟩
  · rw [h]
    exact ⟨rfl, rfl⟩
  · rw [h]
    exact ⟨rfl, rfl⟩

theorem sameCache_adjNbrAddOrLock (v : Vpp) (ai : AdjIndex)
    (owner : LockOwner) : SameCache v.lm (adjNbrAddOrLock v ai owner).lm := by
  unfold adjNbrAddOrLock
  split
  · exact ⟨rfl, rfl⟩
  · exact sameCache_updateAdj _ ai

theorem CacheOn.routeAddDel {v v' : Vpp} (h : CacheOn v) {pfx : FibPrefix}
    {swIfIndex : Nat} {isAdd : Bool}
    (hroute : l2tvppRouteAddDel v pfx swIfIndex isAdd = .ok v') :
    CacheOn v' := by
  unfold l2tvppRouteAddDel at hroute
  split at hroute
  · contradiction
  · cases hroute
    unfold l2tvppEncapAdjAddDel
    split
    · split
      · exact fun _ _ _ => rfl
      · unfold l2tvppEncapAdjDel
        dsimp only
        split
        · exact fun _ _ _ => rfl
        · intro _ _ _
          rw [adjUnlock_lm]
          rfl
    · exact h

theorem cacheOn_step (P : Policies) {v : Vpp} {call : Call} (h : CacheOn v) :
    CacheOn (step P v call) := by
  cases call with
  | tunnelAddDel localIp peerIp localPort peerPort localTid peerTid isAdd =>
      simp only [step]
      split
      · exact h
      · rename_i out v' hok
        rcases l2tvppTunnelAddDel_ok hok with
          ⟨-, -, -, -, -, rfl⟩ | ⟨-, -, index, t, -, -, rfl⟩
        · exact h
        · exact h
  | sessionAddDel tunnelIndex localSid peerSid acfc pfc isAdd =>
      simp only [step]
      split
      · exact h
      · rename_i out v' hok
        obtain ⟨t, -, ⟨-, -, -, rfl⟩ | ⟨-, -, index, sess, -, -, rfl⟩⟩ :=
          l2tvppSessionAddDel_ok hok
        · exact h
        · apply h.of_sameCache
          rw [sessionDel_lm]
          exact ⟨rfl, rfl⟩
  | routeAddDel pfx swIfIndex isAdd =>
      simp only [step]
      split
      · exact h
      · rename_i v' hok
        exact h.routeAddDel hok
  | adjAdd ai => exact h.of_sameCache (sameCache_adjNbrAddOrLock v ai .other)
  | adjUpdate ai => exact h.of_sameCache (sameCache_updateAdj v ai)
  | adjRelease ai =>
      apply h.of_sameCache
      simp only [step, adjUnlock_lm]
      exact ⟨rfl, rfl⟩
  | interfaceAdd => exact h
  | interfaceDel hwIfIndex =>
      simp only [step]
      split
      · exact h
      · apply h.of_sameCache
        rw [vnetDeleteHwInterface_lm]
        exact ⟨rfl, rfl⟩
  | innerChecksum noChecksum => exact h

theorem CacheOn.runCalls (P : Policies) (hwInterfaces : Pool HwInterface)
    (swInterfaces : Pool SwInterface) (calls : List Call) :
    CacheOn (runCalls P hwInterfaces swInterfaces calls) := by
  refine run_invariant (step P) CacheOn (fun _ _ h => cacheOn_step P h) calls ?_
  intro ip4 ai hai
  contradiction

theorem l2Len_le_of_peek {b : VlibBuffer} {dst : U32} {l2Len : U16}
    (hpeek : l2tvppEncapPeekDst b.current b.currentLength.toNat =
      .ok (some (dst, l2Len))) : l2Len.toNat + 20 ≤ b.current.length := by
  have hwalk : SafeRun True (l2tvppEncapPeekDst b.current
      b.currentLength.toNat) _ := safeRun_l2tvppEncapPeekDst (by simp)
  have hinside := hwalk.post hpeek dst l2Len rfl
  rwa [← b.length_current] at hinside

/-- What the fast path makes of a plain frame. -/
theorem l2tvppEncapFastpath_peeked {v : Vpp} (hon : CacheOn v) {b : VlibBuffer}
    {dst : U32} {l2Len : U16}
    (hpeek : l2tvppEncapPeekDst b.current b.currentLength.toNat =
      .ok (some (dst, l2Len))) :
    ∃ result, l2tvppEncapFastpath v.lm b = .ok result ∧
      ((v.lm.encapAdjByIp4.lookup (encapKey dst) = none ∧
        result.next = .ethernetInput ∧ result.buffer = b) ∨
      ∃ ai, v.lm.encapAdjByIp4.lookup (encapKey dst) = some ai ∧
        result.next = .ip4Midchain ∧
        result.buffer = midchainBuffer b l2Len ai) := by
  cases hlookup : v.lm.encapAdjByIp4.lookup (encapKey dst) with
  | none =>
      unfold l2tvppEncapFastpath
      split
      · exact ⟨_, rfl, .inl ⟨rfl, rfl, rfl⟩⟩
      · simp only [hpeek, ok_bind, hlookup]
        exact ⟨_, rfl, .inl ⟨trivial, rfl, rfl⟩⟩
  | some ai =>
      have hinit := hon dst ai hlookup
      unfold l2tvppEncapFastpath
      rw [if_neg (by simp [hinit]), hpeek, ok_bind]
      simp only [hlookup]
      exact ⟨_, rfl, .inr ⟨ai, rfl, rfl, rfl⟩⟩

end L2tvpp.Node
