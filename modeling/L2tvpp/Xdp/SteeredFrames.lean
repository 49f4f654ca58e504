import L2tvpp.Xdp.Loader

/-!
# The frames that are steered

A frame is steered if it is Ethernet with at most two tags, plain IPv4 or IPv6,
UDP to port 1701 and an L2TPv2 data header.  What the loader has put into the
maps decides where it goes.
-/

namespace L2tvpp.Xdp

open L2tvpp.Lib
open L2tvpp.Node

/-! ## The layout of a frame -/

def IsVlan (proto : U16) : Prop := proto = ethP8021q ∨ proto = ethP8021ad

instance (proto : U16) : Decidable (IsVlan proto) :=
  inferInstanceAs (Decidable (_ ∨ _))

/-- A tag: its protocol id and its control information. -/
def vlanTag (tag : U16 × U16) : List U8 := be16 tag.1 ++ be16 tag.2

/-- An IPv4 header with its options, of a first fragment that carries UDP. -/
structure IsIp4Udp (ip : List U8) : Prop where
  ihl : ∃ first, readU8 ip 0 = .ok first ∧
    ip.length = (first &&& 0xf).toNat * 4
  five : 20 ≤ ip.length
  fragment : ∃ fragment, readU16 ip 6 = .ok fragment ∧ fragment &&& 0x1fff = 0
  protocol : readU8 ip 9 = .ok ipprotoUdp

structure IsIp6Udp (ip : List U8) : Prop where
  length : ip.length = 40
  nexthdr : readU8 ip 6 = .ok ipprotoUdp

structure IsUdp1701 (udp : List U8) : Prop where
  length : udp.length = 8
  dest : readU16 udp 2 = .ok l2tpUdpPort

/-- The headers in front of a UDP payload for port 1701. -/
structure SteeredHeaders where
  addresses : List U8
  tags : List (U16 × U16)
  type : U16
  ip : List U8
  udp : List U8
  length_addresses : addresses.length = 12
  tags_le : tags.length ≤ 2
  tpid : ∀ tag ∈ tags, IsVlan tag.1
  ipUdp : type = ethPIp ∧ IsIp4Udp ip ∨ type = ethPIpv6 ∧ IsIp6Udp ip
  udp1701 : IsUdp1701 udp

def SteeredHeaders.encode (headers : SteeredHeaders) : List U8 :=
  headers.addresses ++ (headers.tags.flatMap vlanTag ++ (be16 headers.type ++
    (headers.ip ++ headers.udp)))

/-- The frame is L2TPv2 data of the session: its headers, a data header up to
its ids and anything behind these. -/
def Carries (frame : List U8) (tid sid : U16) : Prop :=
  ∃ (headers : SteeredHeaders) (header : DataHeader) (rest : List U8),
    frame = headers.encode ++ (header.ids ++ rest) ∧
      header.tid = tid ∧ header.sid = sid

/-! ## Reading at the front -/

theorem readU16_zero_iff {buffer : List U8} {value : U16} :
    readU16 buffer 0 = .ok value ↔ ∃ rest, buffer = be16 value ++ rest := by
  rw [readU16_iff_take, List.drop_zero]
  constructor
  · intro h
    exact ⟨buffer.drop 2, by rw [← h, List.take_append_drop]⟩
  · rintro ⟨rest, rfl⟩
    rfl

theorem readU16_of_length {front d : List U8} {offset : Nat} {value : U16}
    (h : front.length = offset) :
    readU16 (front ++ d) offset = .ok value ↔
      ∃ rest, d = be16 value ++ rest := by
  subst h
  rw [readU16_iff_take, List.drop_left, ← List.drop_zero (l := d),
    ← readU16_iff_take, readU16_zero_iff, List.drop_zero]

theorem load16_append (front d : List U8) {offset : Nat} {value : U16}
    (h : offset + 2 ≤ d.length) :
    load16 (front ++ d) (front.length + offset) = .ok value ↔
      readU16 d offset = .ok value := by
  rw [load16_ok, readU16_append_add front d h]

theorem load8_ok {frame : List U8} {offset : Nat} {value : U8} :
    load8 frame offset = .ok value ↔ readU8 frame offset = .ok value := by
  unfold load8
  cases readU8 frame offset <;> simp [Except.mapError]

theorem load8_append (front d : List U8) {offset : Nat} {value : U8}
    (h : offset < d.length) :
    load8 (front ++ d) (front.length + offset) = .ok value ↔
      readU8 d offset = .ok value := by
  rw [load8_ok, readU8_append_add front d h]

section Front

variable {front ip d : List U8} (hfront : ip <+: d)

include hfront

theorem load8_front {offset : Nat} {value : U8} (h : offset < ip.length) :
    load8 (front ++ d) (front.length + offset) = .ok value ↔
      readU8 ip offset = .ok value := by
  rw [load8_append front d (h.trans_le hfront.length_le),
    readU8_of_front hfront h]

theorem load16_front {offset : Nat} {value : U16}
    (h : offset + 2 ≤ ip.length) :
    load16 (front ++ d) (front.length + offset) = .ok value ↔
      readU16 ip offset = .ok value := by
  rw [load16_append front d (h.trans hfront.length_le),
    readU16_of_front hfront h]

end Front

/-! ## The tags -/

theorem skipVlan_vlan {front d : List U8} {proto proto' : U16} {cur : Nat}
    (hvlan : IsVlan proto) :
    skipVlan (front ++ d) proto front.length = .ok (proto', cur) ↔
      ∃ tci rest, d = be16 tci ++ (be16 proto' ++ rest) ∧
        cur = front.length + 4 := by
  rw [skipVlan, if_pos (show proto = ethP8021q ∨ proto = ethP8021ad from hvlan),
    List.length_append]
  constructor
  · intro h
    split at h
    · cases h
    · rename_i hfits
      obtain ⟨next, hnext, h⟩ := ok_of_bind h
      cases h
      rw [load16_append front d (by omega)] at hnext
      obtain ⟨tci, htci, -⟩ :=
        (safeRun_readU16 (by omega) : SafeRun False (readU16 d 0) _).returns
      obtain ⟨tail, rfl⟩ := readU16_zero_iff.mp htci
      have hproto : readU16 tail 0 = .ok proto' := by
        rw [← readU16_append_add (be16 tci) tail (by simp at hfits ⊢; omega)]
        exact hnext
      obtain ⟨rest, rfl⟩ := readU16_zero_iff.mp hproto
      exact ⟨tci, rest, rfl, rfl⟩
  · rintro ⟨tci, rest, rfl, rfl⟩
    have hread : load16 (front ++ (be16 tci ++ (be16 proto' ++ rest)))
        (front.length + 2) = .ok proto' := by
      rw [load16_append front _ (by simp; omega)]
      exact readU16_append_be16 (be16 tci) rest proto' rfl
    rw [if_neg (by simp; omega), hread]
    rfl

theorem skipVlan_other {frame : List U8} {proto : U16} {cur : Nat}
    (hother : ¬ IsVlan proto) :
    skipVlan frame proto cur = .ok (proto, cur) := if_neg hother

/-- The unrolled loop over the tags, with any number of rounds. -/
def vlanRounds (frame : List U8) : Nat → U16 → Nat → Except Stop (U16 × Nat)
  | 0, proto, cur => pure (proto, cur)
  | n + 1, proto, cur => do
      let (proto, cur) ← skipVlan frame proto cur
      vlanRounds frame n proto cur

theorem be16_append_inj {value value' : U16} {rest rest' : List U8} :
    be16 value ++ rest = be16 value' ++ rest' ↔
      value = value' ∧ rest = rest' := by
  constructor
  · intro h
    have hread := readU16_append_be16 [] rest value rfl
    have hread' := readU16_append_be16 [] rest' value' rfl
    rw [List.nil_append, h] at hread
    rw [List.nil_append, hread] at hread'
    exact ⟨Except.ok.inj hread', (List.append_inj h rfl).2⟩
  · rintro ⟨rfl, rfl⟩
    rfl

theorem tagged_cons {tag : U16 × U16} {tags : List (U16 × U16)}
    {d : List U8} :
    (tag :: tags).flatMap vlanTag ++ d =
      be16 tag.1 ++ (be16 tag.2 ++ (tags.flatMap vlanTag ++ d)) := by
  rw [List.flatMap_cons, vlanTag]
  simp only [List.append_assoc]

/-- What follows the tags starts with a protocol id, as each tag does. -/
theorem exists_be16_tagged (tags : List (U16 × U16)) (type : U16)
    (rest : List U8) :
    ∃ proto d, tags.flatMap vlanTag ++ (be16 type ++ rest) =
      be16 proto ++ d := by
  cases tags with
  | nil => exact ⟨type, rest, rfl⟩
  | cons tag tags => exact ⟨_, _, tagged_cons⟩

theorem tags_eq_nil {proto type : U16} {tags : List (U16 × U16)}
    {d rest : List U8} (hother : ¬ IsVlan proto)
    (htags : be16 proto ++ d = tags.flatMap vlanTag ++ (be16 type ++ rest))
    (htpid : ∀ tag ∈ tags, IsVlan tag.1) : tags = [] ∧ type = proto := by
  cases tags with
  | nil => exact ⟨rfl, (be16_append_inj.mp htags).1.symm⟩
  | cons tag tags =>
      rw [tagged_cons] at htags
      obtain ⟨rfl, -⟩ := be16_append_inj.mp htags
      exact absurd (htpid tag List.mem_cons_self) hother

/-- A round skips a tag, and the frame is read on behind it. -/
theorem vlanRounds_vlan {front d : List U8} {proto type : U16} {n cur : Nat}
    (hvlan : IsVlan proto) :
    vlanRounds (front ++ d) (n + 1) proto front.length = .ok (type, cur) ↔
      ∃ tci next rest, d = be16 tci ++ (be16 next ++ rest) ∧
        vlanRounds ((front ++ (be16 tci ++ be16 next)) ++ rest) n next
          (front ++ (be16 tci ++ be16 next)).length = .ok (type, cur) := by
  have hframe : ∀ (tci next : U16) (rest : List U8),
      front ++ (be16 tci ++ (be16 next ++ rest)) =
        (front ++ (be16 tci ++ be16 next)) ++ rest := by
    intro tci next rest
    simp only [List.append_assoc]
  have hlength : ∀ tci next : U16, (front ++ (be16 tci ++ be16 next)).length =
      front.length + 4 := by
    intro tci next
    simp
  rw [vlanRounds, bind_eq_ok]
  constructor
  · rintro ⟨⟨next, cur'⟩, hskip, h⟩
    obtain ⟨tci, rest, rfl, rfl⟩ := (skipVlan_vlan hvlan).mp hskip
    refine ⟨tci, next, rest, rfl, ?_⟩
    rw [← hframe, hlength]
    exact h
  · rintro ⟨tci, next, rest, rfl, h⟩
    rw [← hframe, hlength] at h
    exact ⟨_, (skipVlan_vlan hvlan).mpr ⟨tci, rest, rfl, rfl⟩, h⟩

theorem vlanRounds_other {frame : List U8} {proto : U16} {n cur : Nat}
    (hother : ¬ IsVlan proto) :
    vlanRounds frame (n + 1) proto cur = vlanRounds frame n proto cur := by
  rw [vlanRounds, skipVlan_other hother, ok_bind]

/-- The rounds skip as many tags as they find, and stop early only in front of
another protocol. -/
theorem vlanRounds_iff {n : Nat} {front d : List U8} {proto type : U16}
    {cur : Nat} :
    vlanRounds (front ++ d) n proto front.length = .ok (type, cur) ↔
      ∃ (tags : List (U16 × U16)) (rest : List U8),
        be16 proto ++ d = tags.flatMap vlanTag ++ (be16 type ++ rest) ∧
        cur = front.length + 4 * tags.length ∧ tags.length ≤ n ∧
        (∀ tag ∈ tags, IsVlan tag.1) ∧ (tags.length < n → ¬ IsVlan type) := by
  induction n generalizing front d proto cur with
  | zero =>
      constructor
      · intro h
        cases h
        exact ⟨[], d, rfl, by simp, by simp, by simp, by simp⟩
      · rintro ⟨tags, rest, htags, rfl, hlen, -, -⟩
        obtain rfl := List.length_eq_zero_iff.mp (Nat.le_zero.mp hlen)
        obtain ⟨rfl, rfl⟩ := be16_append_inj.mp htags
        rfl
  | succ n ih =>
      by_cases hvlan : IsVlan proto
      · rw [vlanRounds_vlan hvlan]
        simp only [ih]
        simp only [List.length_append, length_be16]
        constructor
        · rintro ⟨tci, next, rest, rfl, tags, rest', htags, rfl, hlen, htpid,
            hlast⟩
          refine ⟨(proto, tci) :: tags, rest', ?_, ?_, ?_, ?_, ?_⟩
          · rw [tagged_cons, htags]
          · rw [List.length_cons]
            omega
          · rw [List.length_cons]
            omega
          · exact List.forall_mem_cons.mpr ⟨hvlan, htpid⟩
          · intro hlt
            rw [List.length_cons] at hlt
            exact hlast (by omega)
        · rintro ⟨tags, rest, htags, rfl, hlen, htpid, hlast⟩
          cases tags with
          | nil =>
              obtain ⟨rfl, -⟩ := be16_append_inj.mp htags
              exact absurd hvlan (hlast (Nat.succ_pos n))
          | cons tag tags =>
              rw [tagged_cons] at htags
              obtain ⟨rfl, rfl⟩ := be16_append_inj.mp htags
              rw [List.length_cons] at hlen hlast ⊢
              obtain ⟨next, rest', heq⟩ := exists_be16_tagged tags type rest
              refine ⟨tag.2, next, rest', by rw [heq], tags, rest, heq.symm,
                by omega, by omega, ?_, ?_⟩
              · exact (List.forall_mem_cons.mp htpid).2
              · intro hlt
                exact hlast (by omega)
      · rw [vlanRounds_other hvlan, ih]
        constructor
        · rintro ⟨tags, rest, htags, hcur, hlen, htpid, hlast⟩
          obtain ⟨-, rfl⟩ := tags_eq_nil hvlan htags htpid
          exact ⟨tags, rest, htags, hcur, by omega, htpid, fun _ => hvlan⟩
        · rintro ⟨tags, rest, htags, hcur, hlen, htpid, hlast⟩
          obtain ⟨rfl, rfl⟩ := tags_eq_nil hvlan htags htpid
          exact ⟨[], rest, htags, hcur, by simp, htpid, fun _ => hvlan⟩

/-! ## The outer header -/

section IpHeader

variable {front d : List U8} {cur : Nat}

theorem ipHeader_ip4 :
    (ipHeader (front ++ d) ethPIp front.length = .ok (ipprotoUdp, cur) ∧
      cur ≤ (front ++ d).length) ↔
      ∃ ip rest, d = ip ++ rest ∧ cur = front.length + ip.length ∧
        IsIp4Udp ip := by
  rw [ipHeader, if_pos rfl, List.length_append]
  constructor
  · rintro ⟨h, hcur⟩
    split at h
    · cases h
    · obtain ⟨first, hfirst, h⟩ := ok_of_bind h
      dsimp only at h
      split at h
      · cases h
      · obtain ⟨fragment, hfragment, h⟩ := ok_of_bind h
        split at h
        · cases h
        · rename_i hzero
          obtain ⟨protocol, hprotocol, h⟩ := ok_of_bind h
          cases h
          have hcount : (first &&& 0xf).toNat * 4 ≤ d.length := by omega
          have hlength : (d.take ((first &&& 0xf).toNat * 4)).length =
              (first &&& 0xf).toNat * 4 := List.length_take_of_le hcount
          have hfront := List.take_prefix ((first &&& 0xf).toNat * 4) d
          refine ⟨d.take ((first &&& 0xf).toNat * 4), _,
            (List.take_append_drop _ d).symm, by rw [hlength], ?_, ?_, ?_, ?_⟩
          · exact ⟨first, (load8_front hfront (by omega)).mp hfirst, hlength⟩
          · omega
          · exact ⟨fragment, (load16_front hfront (by omega)).mp hfragment,
              not_not.mp hzero⟩
          · exact (load8_front hfront (by omega)).mp hprotocol
  · rintro ⟨ip, rest, rfl, rfl, hip⟩
    obtain ⟨first, hfirst, hihl⟩ := hip.ihl
    obtain ⟨fragment, hfragment, hzero⟩ := hip.fragment
    have hfive := hip.five
    have hlength : (ip ++ rest).length = ip.length + rest.length :=
      List.length_append
    have hfront : ip <+: ip ++ rest := List.prefix_append ip rest
    have hread : load8 (front ++ (ip ++ rest)) front.length = .ok first :=
      (load8_front hfront (by omega)).mpr hfirst
    have hreadFragment : load16 (front ++ (ip ++ rest)) (front.length + 6) =
        .ok fragment := (load16_front hfront (by omega)).mpr hfragment
    have hreadProtocol : load8 (front ++ (ip ++ rest)) (front.length + 9) =
        .ok ipprotoUdp := (load8_front hfront (by omega)).mpr hip.protocol
    rw [if_neg (by omega), hread, ok_bind, if_neg (by omega), hreadFragment,
      ok_bind, if_neg (not_not.mpr hzero), hreadProtocol, ok_bind, ← hihl]
    exact ⟨rfl, by omega⟩

theorem ipHeader_ip6 :
    (ipHeader (front ++ d) ethPIpv6 front.length = .ok (ipprotoUdp, cur) ∧
      cur ≤ (front ++ d).length) ↔
      ∃ ip rest, d = ip ++ rest ∧ cur = front.length + ip.length ∧
        IsIp6Udp ip := by
  rw [ipHeader, if_neg (by decide), if_pos rfl, List.length_append]
  constructor
  · rintro ⟨h, hcur⟩
    split at h
    · cases h
    · obtain ⟨nexthdr, hnexthdr, h⟩ := ok_of_bind h
      cases h
      have hcount : 40 ≤ d.length := by omega
      have hlength : (d.take 40).length = 40 := List.length_take_of_le hcount
      refine ⟨d.take 40, _, (List.take_append_drop _ d).symm, by rw [hlength],
        hlength, ?_⟩
      exact (load8_front (List.take_prefix 40 d) (by omega)).mp hnexthdr
  · rintro ⟨ip, rest, rfl, rfl, hip⟩
    have hforty := hip.length
    have hlength : (ip ++ rest).length = ip.length + rest.length :=
      List.length_append
    have hfront : ip <+: ip ++ rest := List.prefix_append ip rest
    have hread : load8 (front ++ (ip ++ rest)) (front.length + 6) =
        .ok ipprotoUdp := (load8_front hfront (by omega)).mpr hip.nexthdr
    rw [if_neg (by omega), hread, ok_bind, hforty]
    exact ⟨rfl, by omega⟩

/-- What `ipHeader` accepts, of either family. -/
theorem ipHeader_iff {type : U16} :
    (ipHeader (front ++ d) type front.length = .ok (ipprotoUdp, cur) ∧
      cur ≤ (front ++ d).length) ↔
      ∃ ip rest, d = ip ++ rest ∧ cur = front.length + ip.length ∧
        (type = ethPIp ∧ IsIp4Udp ip ∨ type = ethPIpv6 ∧ IsIp6Udp ip) := by
  by_cases hip4 : type = ethPIp
  · subst hip4
    have hother : ethPIp ≠ ethPIpv6 := by decide
    simp only [ipHeader_ip4, true_and, hother, false_and, or_false]
  · by_cases hip6 : type = ethPIpv6
    · subst hip6
      simp only [ipHeader_ip6, true_and, hip4, false_and, false_or]
    · rw [ipHeader, if_neg hip4, if_neg hip6]
      simp [pass, hip4, hip6]

end IpHeader

/-! ## The whole parse -/

theorem length_tagged (tags : List (U16 × U16)) :
    (tags.flatMap vlanTag).length = 4 * tags.length := by
  induction tags with
  | nil => rfl
  | cons tag tags ih =>
      rw [List.flatMap_cons, List.length_append, ih, List.length_cons]
      simp [vlanTag]
      omega

theorem vlanRounds_two {frame : List U8} {proto : U16} {cur : Nat}
    {out : U16 × Nat} :
    vlanRounds frame 2 proto cur = .ok out ↔
      ∃ mid, skipVlan frame proto cur = .ok mid ∧
        skipVlan frame mid.1 mid.2 = .ok out := by
  simp only [vlanRounds, bind_eq_ok]
  constructor
  · rintro ⟨mid, hfirst, last, hsecond, hlast⟩
    cases hlast
    exact ⟨mid, hfirst, hsecond⟩
  · rintro ⟨mid, hfirst, hsecond⟩
    exact ⟨mid, hfirst, out, hsecond, rfl⟩

theorem load16_of_length {front d : List U8} {offset : Nat} {value : U16}
    (h : front.length = offset) :
    load16 (front ++ d) offset = .ok value ↔
      ∃ rest, d = be16 value ++ rest := by
  rw [load16_ok, readU16_of_length h]

/-- The steps of `udpPayload` on a frame that it accepts. -/
theorem udpPayload_ok {frame : List U8} {cur : Nat} :
    udpPayload frame = .ok cur ↔
      ∃ proto type ipStart udpStart, 14 ≤ frame.length ∧
        load16 frame 12 = .ok proto ∧
        vlanRounds frame 2 proto 14 = .ok (type, ipStart) ∧
        ipHeader frame type ipStart = .ok (ipprotoUdp, udpStart) ∧
        udpStart + 8 ≤ frame.length ∧
        load16 frame (udpStart + 2) = .ok l2tpUdpPort ∧
        cur = udpStart + 8 := by
  constructor
  · intro h
    unfold udpPayload at h
    split at h
    · cases h
    · obtain ⟨proto, hproto, h⟩ := ok_of_bind h
      obtain ⟨mid, hfirst, h⟩ := ok_of_bind h
      obtain ⟨⟨type, ipStart⟩, hsecond, h⟩ := ok_of_bind h
      obtain ⟨⟨l4proto, udpStart⟩, hip, h⟩ := ok_of_bind h
      dsimp only at h hip
      split at h
      · cases h
      · rename_i hudp
        obtain rfl := not_not.mp hudp
        split at h
        · cases h
        · obtain ⟨dest, hdest, h⟩ := ok_of_bind h
          split at h
          · cases h
          · rename_i hport
            obtain rfl := not_not.mp hport
            cases h
            exact ⟨proto, type, ipStart, udpStart, by omega, hproto,
              vlanRounds_two.mpr ⟨mid, hfirst, hsecond⟩, hip, by omega, hdest,
              rfl⟩
  · rintro ⟨proto, type, ipStart, udpStart, hfits, hproto, hrounds, hip, hroom,
      hdest, rfl⟩
    obtain ⟨⟨mid, midStart⟩, hfirst, hsecond⟩ := vlanRounds_two.mp hrounds
    rw [udpPayload, if_neg (by omega), hproto, ok_bind, hfirst, ok_bind]
    dsimp only at hsecond ⊢
    rw [hsecond, ok_bind]
    dsimp only
    rw [hip, ok_bind]
    dsimp only
    rw [if_neg (by simp), if_neg (by omega), hdest]
    rfl

/-- The Ethernet header and its tags. -/
theorem ethernet_iff {frame : List U8} {type : U16} {cur : Nat} :
    (∃ proto, 14 ≤ frame.length ∧ load16 frame 12 = .ok proto ∧
      vlanRounds frame 2 proto 14 = .ok (type, cur)) ↔
      ∃ (addresses : List U8) (tags : List (U16 × U16)) (d : List U8),
        frame = (addresses ++ (tags.flatMap vlanTag ++ be16 type)) ++ d ∧
        addresses.length = 12 ∧ tags.length ≤ 2 ∧
        (∀ tag ∈ tags, IsVlan tag.1) ∧ (tags.length < 2 → ¬ IsVlan type) ∧
        cur = (addresses ++ (tags.flatMap vlanTag ++ be16 type)).length := by
  have hlength : ∀ {addresses : List U8} {proto : U16},
      addresses.length = 12 → 14 = (addresses ++ be16 proto).length := by
    intro addresses proto haddresses
    rw [List.length_append, haddresses, length_be16]
  constructor
  · rintro ⟨proto, hfits, hproto, hrounds⟩
    obtain ⟨addresses, behind, rfl, haddresses⟩ : ∃ addresses behind,
        frame = addresses ++ behind ∧ addresses.length = 12 :=
      ⟨frame.take 12, frame.drop 12, (List.take_append_drop 12 frame).symm,
        List.length_take_of_le (by omega)⟩
    obtain ⟨d, rfl⟩ := (load16_of_length haddresses).mp hproto
    rw [← List.append_assoc, hlength haddresses, vlanRounds_iff] at hrounds
    obtain ⟨tags, rest, htags, rfl, hlen, htpid, hlast⟩ := hrounds
    refine ⟨addresses, tags, rest, ?_, haddresses, hlen, htpid, hlast, ?_⟩
    · rw [htags]
      simp only [List.append_assoc]
    · simp only [List.length_append, length_tagged, length_be16]
      omega
  · rintro ⟨addresses, tags, d, rfl, haddresses, hlen, htpid, hlast, rfl⟩
    obtain ⟨proto, rest, htags⟩ := exists_be16_tagged tags type d
    have hframe : (addresses ++ (tags.flatMap vlanTag ++ be16 type)) ++ d =
        addresses ++ (be16 proto ++ rest) := by
      rw [← htags]
      simp only [List.append_assoc]
    rw [hframe]
    refine ⟨proto, ?_, (load16_of_length haddresses).mpr ⟨rest, rfl⟩, ?_⟩
    · simp only [List.length_append, length_be16]
      omega
    · rw [← List.append_assoc, hlength haddresses, vlanRounds_iff]
      refine ⟨tags, d, htags.symm, ?_, hlen, htpid, hlast⟩
      simp only [List.length_append, length_tagged, length_be16]
      omega

theorem udp_iff {front d : List U8} :
    (front.length + 8 ≤ (front ++ d).length ∧
      load16 (front ++ d) (front.length + 2) = .ok l2tpUdpPort) ↔
      ∃ udp rest, d = udp ++ rest ∧ IsUdp1701 udp := by
  rw [List.length_append]
  constructor
  · rintro ⟨hroom, hdest⟩
    have hlength : (d.take 8).length = 8 := List.length_take_of_le (by omega)
    exact ⟨d.take 8, _, (List.take_append_drop 8 d).symm, hlength,
      (load16_front (List.take_prefix 8 d) (by omega)).mp hdest⟩
  · rintro ⟨udp, rest, rfl, hudp⟩
    have height := hudp.length
    have hlength : (udp ++ rest).length = udp.length + rest.length :=
      List.length_append
    exact ⟨by omega, (load16_front (List.prefix_append udp rest)
      (by omega)).mpr hudp.dest⟩

theorem udpPayload_iff {frame : List U8} {cur : Nat} :
    udpPayload frame = .ok cur ↔
      ∃ (headers : SteeredHeaders) (d : List U8),
        frame = headers.encode ++ d ∧ cur = headers.encode.length := by
  rw [udpPayload_ok]
  constructor
  · rintro ⟨proto, type, ipStart, udpStart, hfits, hproto, hrounds, hip, hroom,
      hdest, rfl⟩
    obtain ⟨addresses, tags, d, rfl, haddresses, htags, htpid, -, rfl⟩ :=
      ethernet_iff.mp ⟨proto, hfits, hproto, hrounds⟩
    obtain ⟨ip, d, rfl, rfl, hipUdp⟩ :=
      ipHeader_iff.mp ⟨hip, Nat.le_of_add_right_le hroom⟩
    generalize hethernet :
      addresses ++ (tags.flatMap vlanTag ++ be16 type) = ethernet at *
    rw [← List.length_append, ← List.append_assoc] at hroom hdest
    obtain ⟨udp, d, rfl, hudp⟩ := udp_iff.mp ⟨hroom, hdest⟩
    subst hethernet
    refine ⟨⟨addresses, tags, type, ip, udp, haddresses, htags, htpid, hipUdp,
      hudp⟩, d, ?_, ?_⟩
    · simp only [SteeredHeaders.encode, List.append_assoc]
    · have height := hudp.length
      simp only [SteeredHeaders.encode, List.length_append]
      omega
  · rintro ⟨headers, d, rfl, rfl⟩
    have hother : ¬ IsVlan headers.type := by
      rcases headers.ipUdp with ⟨htype, -⟩ | ⟨htype, -⟩
      · rw [htype]
        decide
      · rw [htype]
        decide
    have hframe : headers.encode ++ d =
        (headers.addresses ++ (headers.tags.flatMap vlanTag ++
          be16 headers.type)) ++ (headers.ip ++ (headers.udp ++ d)) := by
      simp only [SteeredHeaders.encode, List.append_assoc]
    obtain ⟨proto, hfits, hproto, hrounds⟩ := ethernet_iff.mpr
      ⟨_, _, _, hframe, headers.length_addresses, headers.tags_le,
        headers.tpid, fun _ => hother, rfl⟩
    rw [hframe] at hfits hproto hrounds ⊢
    have hlength : headers.encode.length = (headers.addresses ++
        (headers.tags.flatMap vlanTag ++ be16 headers.type)).length +
          headers.ip.length + 8 := by
      have height := headers.udp1701.length
      simp only [SteeredHeaders.encode, List.length_append]
      omega
    generalize headers.addresses ++ (headers.tags.flatMap vlanTag ++
      be16 headers.type) = ethernet at *
    obtain ⟨hip, -⟩ := ipHeader_iff.mpr ⟨_, _, rfl, rfl, headers.ipUdp⟩
    obtain ⟨hroom, hdest⟩ := udp_iff.mpr ⟨_, d, rfl, headers.udp1701⟩
    refine ⟨proto, headers.type, _, _, hfits, hproto, hrounds, hip, ?_, ?_,
      hlength⟩
    · rw [← List.length_append, ← List.append_assoc]
      exact hroom
    · rw [← List.length_append, ← List.append_assoc]
      exact hdest

/-- A data header up to its ids, at the front of a message. -/
theorem l2tpIds_iff {front d : List U8} {tid sid : U16} :
    l2tpIds (front ++ d) front.length = .ok (tid, sid) ↔
      ∃ (header : DataHeader) (rest : List U8), d = header.ids ++ rest ∧
        header.tid = tid ∧ header.sid = sid := by
  rw [l2tpIds_append]
  constructor
  · rintro ⟨flags, off, hparse⟩
    obtain ⟨hlen, hversion, hdata, hflags, htid, hsid, -⟩ :=
      l2tvppParseHdr_data_iff.mp hparse
    rw [Nat.zero_add] at htid hsid
    obtain ⟨d, rfl⟩ := readU16_zero_iff.mp hflags
    obtain ⟨lengthField, length, d, rfl, hoffset, hfield⟩ :
        ∃ (lengthField : List U8) (length : U16) (rest : List U8),
          d = lengthField ++ rest ∧
          (be16 flags ++ lengthField).length = idsOffset flags ∧
          lengthField =
            if hasFlag flags l2tvppHdrL then be16 length else [] := by
      unfold idsOffset at hlen ⊢
      cases hL : hasFlag flags l2tvppHdrL with
      | false => exact ⟨[], 0, d, rfl, rfl, rfl⟩
      | true =>
          rw [hL, List.length_append, length_be16] at hlen
          simp only [if_true] at hlen
          obtain ⟨length, hlength, -⟩ :=
            (safeRun_readU16 (by omega) : SafeRun False (readU16 d 0) _).returns
          obtain ⟨rest, rfl⟩ := readU16_zero_iff.mp hlength
          exact ⟨be16 length, length, rest, rfl, rfl, rfl⟩
    rw [← List.append_assoc] at htid hsid
    obtain ⟨d, rfl⟩ := (readU16_of_length hoffset).mp htid
    rw [← List.append_assoc] at hsid
    obtain ⟨d, rfl⟩ := (readU16_of_length
      (by rw [List.length_append, hoffset, length_be16])).mp hsid
    refine ⟨⟨flags, length, tid, sid, 0, 0, [], hdata, hversion, by simp⟩, d,
      ?_, rfl, rfl⟩
    simp only [DataHeader.ids, ← hfield, List.append_assoc]
  · rintro ⟨header, rest, rfl, rfl, rfl⟩
    exact ⟨_, _, header.l2tvppParseHdr_ids rest⟩

theorem parseIds_iff {frame : List U8} {tid sid : U16} :
    parseIds frame = .ok (tid, sid) ↔ Carries frame tid sid := by
  unfold Carries
  constructor
  · intro h
    obtain ⟨cur, hcur, h⟩ := ok_of_bind h
    obtain ⟨headers, d, rfl, rfl⟩ := udpPayload_iff.mp hcur
    obtain ⟨header, rest, rfl, htid, hsid⟩ := l2tpIds_iff.mp h
    exact ⟨headers, header, rest, rfl, htid, hsid⟩
  · rintro ⟨headers, header, rest, rfl, htid, hsid⟩
    rw [parseIds, udpPayload_iff.mpr ⟨headers, _, rfl, rfl⟩, ok_bind]
    exact l2tpIds_iff.mpr ⟨header, rest, rfl, htid, hsid⟩

/-! ## The program never reads outside the frame -/

/-- A run that ends before its redirect passes the frame on. -/
def Passes {α : Type} (prog : Except Stop α) : Prop :=
  ∀ stop, prog = .error stop → ∃ stat, stop = .pass stat

namespace Passes

variable {α β : Type} {frame : List U8}

theorem pass (stat : Stat) : Passes (Xdp.pass stat : Except Stop α) := by
  rintro stop ⟨⟩
  exact ⟨stat, rfl⟩

theorem ret (a : α) : Passes (pure a : Except Stop α) := by
  rintro stop ⟨⟩

theorem bind {prog : Except Stop α} {next : α → Except Stop β}
    (h : Passes prog) (hnext : ∀ a, Passes (next a)) :
    Passes (prog >>= next) := by
  cases prog with
  | error stop =>
      rintro stop' ⟨⟩
      exact h stop rfl
  | ok a => exact hnext a

theorem ite {condition : Prop} [Decidable condition]
    {prog other : Except Stop α} (h : condition → Passes prog)
    (hother : ¬ condition → Passes other) :
    Passes (if condition then prog else other) := by
  split
  · exact h ‹_›
  · exact hother ‹_›

theorem load8 {offset : Nat} (h : offset < frame.length) :
    Passes (Xdp.load8 frame offset) := by
  obtain ⟨value, hvalue, -⟩ :=
    (safeRun_readU8 h : SafeRun False (readU8 frame offset) _).returns
  rw [load8_ok.mpr hvalue]
  exact ret value

theorem load16 {offset : Nat} (h : offset + 2 ≤ frame.length) :
    Passes (Xdp.load16 frame offset) := by
  obtain ⟨value, hvalue, -⟩ :=
    (safeRun_readU16 h : SafeRun False (readU16 frame offset) _).returns
  rw [load16_ok.mpr hvalue]
  exact ret value

theorem skipVlan (proto : U16) (cur : Nat) :
    Passes (Xdp.skipVlan frame proto cur) := by
  refine ite (fun _ => ite (fun _ => pass _) fun hfits => ?_) fun _ => ret _
  exact bind (load16 (by omega)) fun _ => ret _

theorem ipHeader (proto : U16) (cur : Nat) :
    Passes (Xdp.ipHeader frame proto cur) := by
  refine ite (fun _ => ite (fun _ => pass _) fun hfits => ?_) fun _ => ?_
  · refine bind (load8 (by omega)) fun _ => ite (fun _ => pass _) fun _ => ?_
    refine bind (load16 (by omega)) fun _ => ite (fun _ => pass _) fun _ => ?_
    exact bind (load8 (by omega)) fun _ => ret _
  · refine ite (fun _ => ite (fun _ => pass _) fun hfits => ?_) fun _ => pass _
    exact bind (load8 (by omega)) fun _ => ret _

theorem udpPayload : Passes (Xdp.udpPayload frame) := by
  refine ite (fun _ => pass _) fun _ => ?_
  refine bind (load16 (by omega)) fun _ => ?_
  refine bind (skipVlan _ _) fun _ => bind (skipVlan _ _) fun _ => ?_
  refine bind (ipHeader _ _) fun _ => ?_
  refine ite (fun _ => pass _) fun _ => ite (fun _ => pass _) fun _ => ?_
  exact bind (load16 (by omega)) fun _ => ite (fun _ => pass _) fun _ => ret _

theorem l2tpIds (cur : Nat) : Passes (Xdp.l2tpIds frame cur) := by
  refine ite (fun _ => pass _) fun _ => ?_
  refine bind (load16 (by omega)) fun _ => ?_
  refine ite (fun _ => pass _) fun _ => ite (fun _ => pass _) fun _ => ?_
  refine ite (fun _ => pass _) fun _ => ?_
  refine bind (load16 (by omega)) fun _ => bind (load16 (by omega)) fun _ => ?_
  exact ret _

theorem parseIds : Passes (Xdp.parseIds frame) :=
  bind udpPayload l2tpIds

theorem l2tpSteer (maps : Maps) : Passes (Xdp.l2tpSteer maps frame) := by
  refine bind parseIds fun ids => ?_
  dsimp only
  split
  · exact pass _
  · refine ite (fun _ => pass _) fun _ => ?_
    split
    · exact pass _
    · exact ite (fun _ => ret _) fun _ => pass _

end Passes

/-! ## With the maps of the loader -/

section Loaded

variable {accepts : U32 → Bool} {fuel : Nat} {possible : Int} {cpulist : Text}
  {cpus : List U32} {maps : Maps}

/-- With an empty list the count stays zero. -/
theorem l2tpSteer_empty
    (hload : loadMaps accepts fuel possible cpulist = some (.ok ([], maps)))
    (frame : List U8) : ∃ stat, l2tpSteer maps frame = .error (.pass stat) := by
  obtain ⟨-, hcount, -⟩ := loadMaps_ok hload
  cases hsteer : l2tpSteer maps frame with
  | error stop =>
      obtain ⟨stat, rfl⟩ := Passes.l2tpSteer maps stop hsteer
      exact ⟨stat, rfl⟩
  | ok cpu =>
      obtain ⟨⟨tid, sid⟩, -, hcpu⟩ := ok_of_bind hsteer
      rw [hcount] at hcpu
      cases hcpu

/-- A frame of a session goes to the cpu at the index of the session. -/
theorem l2tpSteer_carries
    (hload : loadMaps accepts fuel possible cpulist = some (.ok (cpus, maps)))
    (hne : cpus ≠ []) (tid sid : U16) :
    ∃ cpu ∈ cpus, maps.cpuMap cpu = true ∧
      ∀ frame, Carries frame tid sid → l2tpSteer maps frame = .ok cpu := by
  obtain ⟨hlen, hcount, hfilled⟩ := loadMaps_ok hload
  have hpos : 0 < cpus.length := List.length_pos_iff.mpr hne
  have hcpus : (BitVec.ofNat 32 cpus.length).toNat = cpus.length := by
    have hmax : maxCpus < 2 ^ 32 := by decide
    rw [BitVec.toNat_ofNat, Nat.mod_eq_of_lt (by omega)]
  have hsome : BitVec.ofNat 32 cpus.length ≠ 0 := by
    intro hzero
    rw [hzero] at hcpus
    exact hpos.ne hcpus
  -- the index stays below the count, whatever the hash is
  have hindex : (steerIndex tid sid (BitVec.ofNat 32 cpus.length)).toNat <
      cpus.length := by
    rw [steerIndex, BitVec.toNat_umod, hcpus]
    exact Nat.mod_lt _ hpos
  have havailable := hfilled.available _ hindex
  rw [BitVec.ofNat_toNat, BitVec.setWidth_eq, List.getElem?_eq_getElem hindex]
    at havailable
  have hmem := List.getElem_mem hindex
  have hpresent := (hfilled.present _).mpr hmem
  refine ⟨_, hmem, hpresent, fun frame hcarries => ?_⟩
  rw [l2tpSteer, parseIds_iff.mpr hcarries, ok_bind]
  dsimp only
  rw [hcount]
  dsimp only
  rw [if_neg hsome, havailable]
  dsimp only
  rw [if_pos hpresent]
  rfl

/-- Exactly the data packets are redirected, each to a cpu of the list and all
of a session to the same one; with an empty list nothing is. -/
theorem l2tpSteer_loaded
    (hload : loadMaps accepts fuel possible cpulist =
      some (.ok (cpus, maps))) :
    (cpus = [] →
      ∀ frame, ∃ stat, l2tpSteer maps frame = .error (.pass stat)) ∧
    (cpus ≠ [] → ∀ frame,
      ((∃ cpu, l2tpSteer maps frame = .ok cpu) ↔
        ∃ tid sid, Carries frame tid sid) ∧
      ((¬ ∃ tid sid, Carries frame tid sid) →
        ∃ stat, l2tpSteer maps frame = .error (.pass stat)) ∧
      (∀ cpu, l2tpSteer maps frame = .ok cpu →
        cpu ∈ cpus ∧ maps.cpuMap cpu = true) ∧
      ∀ frame' tid sid, Carries frame tid sid → Carries frame' tid sid →
        l2tpSteer maps frame = l2tpSteer maps frame') := by
  refine ⟨?_, fun hne frame => ⟨⟨?_, ?_⟩, ?_, ?_, ?_⟩⟩
  · rintro rfl
    exact l2tpSteer_empty hload
  · rintro ⟨cpu, hsteer⟩
    obtain ⟨⟨tid, sid⟩, hids, -⟩ := ok_of_bind hsteer
    exact ⟨tid, sid, parseIds_iff.mp hids⟩
  · rintro ⟨tid, sid, hcarries⟩
    obtain ⟨cpu, -, -, hsteer⟩ := l2tpSteer_carries hload hne tid sid
    exact ⟨cpu, hsteer frame hcarries⟩
  · intro hother
    cases hsteer : l2tpSteer maps frame with
    | error stop =>
        obtain ⟨stat, rfl⟩ := Passes.l2tpSteer maps stop hsteer
        exact ⟨stat, rfl⟩
    | ok cpu =>
        obtain ⟨⟨tid, sid⟩, hids, -⟩ := ok_of_bind hsteer
        exact absurd ⟨tid, sid, parseIds_iff.mp hids⟩ hother
  · intro cpu hsteer
    obtain ⟨⟨tid, sid⟩, hids, -⟩ := ok_of_bind hsteer
    obtain ⟨cpu', hmem, hpresent, hsteer'⟩ :=
      l2tpSteer_carries hload hne tid sid
    rw [hsteer' frame (parseIds_iff.mp hids)] at hsteer
    cases hsteer
    exact ⟨hmem, hpresent⟩
  · intro frame' tid sid hcarries hcarries'
    obtain ⟨cpu, -, -, hsteer⟩ := l2tpSteer_carries hload hne tid sid
    rw [hsteer frame hcarries, hsteer frame' hcarries']

end Loaded

/-- `-c 1-3` on eight cpus, and a frame of an access concentrator. -/
theorem l2tpSteer_loaded_oneToThree :
    ∃ maps, loadMaps (fun _ => true) 257 8 "1-3".toList =
        some (.ok ([1, 2, 3], maps)) ∧
      ∃ cpu ∈ ([1, 2, 3] : List U32), maps.cpuMap cpu = true ∧
        l2tpSteer maps (lacHeaders.encode ++ lacMessage) = .ok cpu := by
  have hparse : parseCpulist 257 "1-3".toList maxCpus =
      some ⟨none, [1, 2, 3]⟩ := by decide +kernel
  obtain ⟨maps, hload⟩ : ∃ maps, loadMaps (fun _ => true) 257 8 "1-3".toList =
      some (.ok ([1, 2, 3], maps)) := by
    rw [loadMaps, hparse]
    exact ⟨_, rfl⟩
  have hcarries : Carries (lacHeaders.encode ++ lacMessage) 100 7 :=
    parseIds_iff.mp (by decide)
  obtain ⟨hredirects, -, htarget, -⟩ := (l2tpSteer_loaded hload).2 (by simp)
    (lacHeaders.encode ++ lacMessage)
  obtain ⟨cpu, hcpu⟩ := hredirects.mpr ⟨100, 7, hcarries⟩
  exact ⟨maps, hload, cpu, (htarget cpu hcpu).1, (htarget cpu hcpu).2, hcpu⟩

end L2tvpp.Xdp
