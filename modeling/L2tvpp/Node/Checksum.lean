import L2tvpp.Lib.OnesComplement
import L2tvpp.Node.RoundTrip

/-!
# The checksum of the outer header

The rewrite caches the checksum of the outer header without its length, and the
fixup takes the length out of it.  The result passes the check of a receiver,
and it is the one that summing the whole header again gives.
-/

namespace L2tvpp.Node

open L2tvpp.Lib
open L2tvpp.Plugin

/-! ## Folding and updating -/

theorem toNat_carry16 (sum : U64) :
    ((sum &&& (0xffff : U64)) + (sum >>> 16)).toNat =
      sum.toNat % 65536 + sum.toNat / 65536 := by
  have hsum := sum.isLt
  have hlow : (sum &&& (0xffff : U64)).toNat = sum.toNat % 65536 := by
    rw [BitVec.toNat_and]
    exact Nat.and_two_pow_sub_one_eq_mod sum.toNat 16
  rw [BitVec.toNat_add, hlow, BitVec.toNat_ushiftRight,
    Nat.shiftRight_eq_div_pow]
  omega

theorem toNat_carry32 (sum : U64) :
    ((sum &&& (0xffffffff : U64)) + (sum >>> 32)).toNat =
      sum.toNat % 4294967296 + sum.toNat / 4294967296 := by
  have hsum := sum.isLt
  have hlow : (sum &&& (0xffffffff : U64)).toNat = sum.toNat % 4294967296 := by
    rw [BitVec.toNat_and]
    exact Nat.and_two_pow_sub_one_eq_mod sum.toNat 32
  rw [BitVec.toNat_add, hlow, BitVec.toNat_ushiftRight,
    Nat.shiftRight_eq_div_pow]
  omega

/-- Four steps are enough for 64 bits. -/
theorem toNat_ipCsumFold (sum : U64) :
    (ipCsumFold sum).toNat = foldOnes sum.toNat := by
  have hsum := sum.isLt
  let first := (sum &&& (0xffffffff : U64)) + (sum >>> 32)
  let second := (first &&& (0xffff : U64)) + (first >>> 16)
  let third := (second &&& (0xffff : U64)) + (second >>> 16)
  let fourth := (third &&& (0xffff : U64)) + (third >>> 16)
  have hfirst : first.toNat = _ := toNat_carry32 sum
  have hsecond : second.toNat = _ := toNat_carry16 first
  have hthird : third.toNat = _ := toNat_carry16 second
  have hfourth : fourth.toNat = _ := toNat_carry16 third
  have hle : fourth.toNat ≤ 65535 := by omega
  calc (ipCsumFold sum).toNat = fourth.toNat := by
        change (fourth.setWidth 16).toNat = _
        rw [BitVec.toNat_setWidth]
        omega
    _ = foldOnes fourth.toNat := (foldOnes_of_le hle).symm
    _ = foldOnes third.toNat := by rw [hfourth, (foldOnes_carry _).1]
    _ = foldOnes second.toNat := by rw [hthird, (foldOnes_carry _).1]
    _ = foldOnes first.toNat := by rw [hsecond, (foldOnes_carry _).1]
    _ = foldOnes sum.toNat := by rw [hfirst, (foldOnes_carry _).2]

/-- Taking a word out of a checksum, the borrow included. -/
theorem ipCsumUpdate_mod (sum word : U16) :
    ((ipCsumUpdate (sum.setWidth 64) 0 word).toNat + word.toNat) % 65535 =
        sum.toNat % 65535 ∧
      ((ipCsumUpdate (sum.setWidth 64) 0 word).toNat = 0 ↔ sum = word) := by
  have hsum := sum.isLt
  have hword := word.isLt
  have hwide : (sum.setWidth 64).toNat = sum.toNat := by
    rw [BitVec.toNat_setWidth]
    omega
  have hwide' : (word.setWidth 64).toNat = word.toNat := by
    rw [BitVec.toNat_setWidth]
    omega
  have hold : ipCsumSubEven (sum.setWidth 64) ((0 : U16).setWidth 64) =
      sum.setWidth 64 := by
    simp [ipCsumSubEven]
  unfold ipCsumUpdate
  rw [hold]
  unfold ipCsumAddEven
  dsimp only
  rw [← BitVec.toNat_inj]
  by_cases hborrow : sum.toNat < word.toNat
  · have hnext : (sum.setWidth 64 - word.setWidth 64).toNat =
        2 ^ 64 + sum.toNat - word.toNat := by
      rw [BitVec.toNat_sub, hwide, hwide']
      omega
    rw [if_pos (by rw [BitVec.lt_def, hnext, hwide]; omega)]
    have hresult : (sum.setWidth 64 - word.setWidth 64 - 1).toNat =
        2 ^ 64 + sum.toNat - word.toNat - 1 := by
      rw [BitVec.toNat_sub, hnext]
      change (2 ^ 64 - 1 + _) % 2 ^ 64 = _
      omega
    rw [hresult]
    constructor <;> omega
  · have hnext : (sum.setWidth 64 - word.setWidth 64).toNat =
        sum.toNat - word.toNat := by
      rw [BitVec.toNat_sub, hwide, hwide']
      omega
    rw [if_neg (by rw [BitVec.lt_def, hnext, hwide]; omega), hnext]
    constructor <;> omega

/-! ## The words of a header -/

/-- The 16-bit words of a header, in network order. -/
def networkWords : List U8 → List U16
  | high :: low :: rest => (high ++ low) :: networkWords rest
  | _ => []

theorem nativeWords_eq : ∀ bytes : List U8,
    nativeWords bytes = (networkWords bytes).map swap16
  | [] => rfl
  | [_] => rfl
  | first :: second :: rest => by
      have hswap : swap16 (first ++ second) = second ++ first := by
        rw [swap16, BitVec.extractLsb'_append_eq_left,
          BitVec.extractLsb'_append_eq_right]
      rw [nativeWords, networkWords, List.map_cons, hswap, nativeWords_eq rest]

theorem toNat_foldl_add (words : List U16) (sum : U64)
    (h : sum.toNat + wordSum words < 2 ^ 64) :
    ((words.map fun word => word.setWidth 64).foldl (· + ·) sum).toNat =
      sum.toNat + wordSum words := by
  induction words generalizing sum with
  | nil => rfl
  | cons word words ih =>
      rw [wordSum_cons] at h ⊢
      have hnext : (sum + word.setWidth 64).toNat = sum.toNat + word.toNat := by
        rw [BitVec.toNat_add, BitVec.toNat_setWidth]
        omega
      rw [List.map_cons, List.foldl_cons, ih _ (by omega), hnext]
      omega

theorem length_nativeWords : ∀ bytes : List U8,
    (nativeWords bytes).length = bytes.length / 2
  | [] => rfl
  | [_] => by simp [nativeWords]
  | _ :: _ :: rest => by
      rw [nativeWords, List.length_cons, List.length_cons, List.length_cons,
        length_nativeWords rest]
      omega

/-- The words that the checksum of a header is summed over. -/
def checksumWords (header : List U8) : List U16 :=
  nativeWords ((header.set 10 0).set 11 0)

theorem toNat_ip4HeaderChecksum {header : List U8}
    (h : header.length ≤ 65535) :
    (ip4HeaderChecksum header).toNat =
      65535 - foldOnes (wordSum (checksumWords header)) := by
  have hlength : (checksumWords header).length = header.length / 2 := by
    rw [checksumWords, length_nativeWords, List.length_set, List.length_set]
  have hbound := wordSum_le (checksumWords header)
  have hfolded := toNat_foldl_add (checksumWords header) 0 (by
    change 0 + _ < _
    omega)
  unfold ip4HeaderChecksum
  dsimp only
  rw [BitVec.toNat_not, toNat_ipCsumFold, ← checksumWords, hfolded]
  change 65535 - foldOnes (0 + _) = _
  rw [Nat.zero_add]

section Header

variable (t : L2tvppTunnel)

/-- The words that are the same for every packet of a tunnel. -/
def constantWords : List U16 :=
  nativeWords ([0x45, 0] ++ [64, ipProtocolUdp] ++ be32 t.localIp.ip4 ++
    be32 t.peerIp.ip4)

theorem wordSum_encapIp4Header (len checksum : U16) :
    wordSum (nativeWords (encapIp4Header t len checksum).encode) =
      wordSum (constantWords t) + (swap16 len).toNat +
        (swap16 checksum).toNat := by
  have hzero : ((0 : U16).extractLsb' 0 8 ++
      (0 : U16).extractLsb' 8 8).toNat = 0 := by decide
  simp only [encapIp4Header, Ip4Header.encode, Ip4Header.front, constantWords,
    be16, be32, List.cons_append, List.nil_append, nativeWords, wordSum_cons,
    wordSum_nil, swap16, hzero]
  omega

theorem wordSum_constantWords :
    0 < wordSum (constantWords t) ∧ wordSum (constantWords t) < 2 ^ 20 := by
  have hfirst : ((0 : U8) ++ (0x45 : U8)).toNat = 0x45 := by decide
  simp only [constantWords, be32, List.cons_append, List.nil_append, nativeWords,
    wordSum_cons, wordSum_nil, hfirst]
  constructor <;> omega

theorem toNat_ip4HeaderChecksum_encap (len checksum : U16) :
    (ip4HeaderChecksum (encapIp4Header t len checksum).encode).toNat =
      65535 - foldOnes (wordSum (constantWords t) + (swap16 len).toNat) := by
  have hbytes : be16 0 = [0, 0] := rfl
  have hcleared : ((encapIp4Header t len checksum).encode.set 10 0).set 11 0 =
      (encapIp4Header t len 0).encode := by
    simp only [encapIp4Header, Ip4Header.encode, Ip4Header.front, hbytes]
    rfl
  have hzero : (swap16 0).toNat = 0 := by decide
  have hlength : (encapIp4Header t len checksum).encode.length ≤ 65535 := by
    rw [Ip4Header.length_encode]
    exact Nat.le_of_ble_eq_true rfl
  rw [toNat_ip4HeaderChecksum hlength, checksumWords, hcleared,
    wordSum_encapIp4Header t len 0, hzero, Nat.add_zero]

/-- The checksum of the fixup sums up with the header, and it is the one of the
whole header. -/
theorem fixupChecksum_spec (len checksum : U16) :
    let fixed := fixupChecksum
      (ip4HeaderChecksum (encapIp4Header t 0 0).encode) len
    (wordSum (constantWords t) + (swap16 len).toNat + fixed.toNat) % 65535 = 0 ∧
      (len ≠ 0xffff → fixed =
        ip4HeaderChecksum (encapIp4Header t len checksum).encode) := by
  intro fixed
  have hcached := toNat_ip4HeaderChecksum_encap t 0 0
  have hwhole := toNat_ip4HeaderChecksum_encap t len checksum
  have hzero : (swap16 0).toNat = 0 := by decide
  rw [hzero, Nat.add_zero] at hcached
  obtain ⟨hupdate, hequal⟩ := ipCsumUpdate_mod
    (ip4HeaderChecksum (encapIp4Header t 0 0).encode) (swap16 len)
  have hfixed : fixed.toNat = _ := toNat_ipCsumFold _
  have hlen := (swap16 len).isLt
  rw [← BitVec.toNat_inj, hcached] at hequal
  rw [hcached] at hupdate
  obtain ⟨hsums, hsame⟩ := foldOnes_update (wordSum_constantWords t).1 hupdate
    hequal (by omega)
  rw [← hfixed] at hsums hsame
  refine ⟨hsums, fun hmax => ?_⟩
  have hswapped := toNat_swap16 len
  have hlen' := len.isLt
  have hmax' : len.toNat ≠ 65535 := fun h => hmax (BitVec.toNat_inj.mp h)
  rw [← BitVec.toNat_inj, hwhole]
  exact hsame (by omega)

theorem outerIp4Header_encode :
    outerIp4Header t = (encapIp4Header t 0 0).encode := by
  have hbytes : be16 0 = [0, 0] := rfl
  simp only [encapIp4Header, Ip4Header.encode, Ip4Header.front, hbytes,
    List.append_nil]
  rfl

theorem ofNat_ne_max {length : Nat} (h : length ≤ 65534) :
    (BitVec.ofNat 16 length : U16) ≠ 0xffff := by
  intro heq
  have htoNat := congrArg BitVec.toNat heq
  rw [BitVec.toNat_ofNat] at htoNat
  change _ = 65535 at htoNat
  omega

/-- The header after the fixup passes the check of a receiver, unless its length
is the largest there is. -/
theorem fixup_valid {len : U16} (hlen : len ≠ 0xffff) :
    let header := (encapIp4Header t len (swap16 (fixupChecksum
      (ip4HeaderChecksum (encapIp4Header t 0 0).encode) len))).encode
    (header.drop 10).take 2 = native16 (ip4HeaderChecksum header) ∧
      ip4HeaderChecksumIsValid header = true := by
  intro header
  obtain ⟨-, hsame⟩ := fixupChecksum_spec t len (swap16 (fixupChecksum
    (ip4HeaderChecksum (encapIp4Header t 0 0).encode) len))
  have hfield : (header.drop 10).take 2 = native16 (fixupChecksum
      (ip4HeaderChecksum (encapIp4Header t 0 0).encode) len) :=
    be16_append _ _
  rw [hsame hlen] at hfield
  refine ⟨hfield, ?_⟩
  rw [ip4HeaderChecksumIsValid, hfield]
  exact beq_self_eq_true _

end Header

theorem l2tvppBuildRewriteI_some {t : L2tvppTunnel} {sess : L2tvppSession}
    {link : VnetLink} {rewrite : List U8} {csum0 : U16}
    (h : l2tvppBuildRewriteI t sess link = some (rewrite, csum0)) :
    ∃ proto, rewrite = encapRewrite t sess proto ∧
      csum0 = ip4HeaderChecksum (encapIp4Header t 0 0).encode := by
  have hlink : link = .ip4 ∨ link = .ip6 := by
    cases link <;> simp_all [l2tvppBuildRewriteI]
  rw [l2tvppBuildRewriteI_encapRewrite t sess hlink,
    outerIp4Header_encode] at h
  cases h
  exact ⟨_, rfl, rfl⟩

/-- For every tunnel, session and payload the outer header sums up, and up to a
total length of 65534 its checksum is the one that summing it again gives, the
one that the fast path compares with. -/
theorem l2tvppFixup_checksum (t : L2tvppTunnel) (sess : L2tvppSession)
    {link : VnetLink} {rewrite : List U8} {csum0 : U16}
    (hbuild : l2tvppBuildRewriteI t sess link = some (rewrite, csum0))
    {v : Vpp} {midchain : Midchain} {fixed : L2tvppSession}
    (hfixed : midchain.session v = some fixed)
    (hcached : fixed.encapIpCsum0 = csum0) (inner : List U8)
    (hmax : (rewrite ++ inner).length ≤ 65535) :
    ∃ packet, l2tvppFixup v midchain (rewrite ++ inner) = .ok packet ∧
      packet.length = (rewrite ++ inner).length ∧ 38 ≤ packet.length ∧
      readU16 packet 2 = .ok (BitVec.ofNat 16 packet.length) ∧
      onesSum (networkWords (packet.take 20)) = 0xffff ∧
      (packet.length ≤ 65534 →
        (packet.drop 10).take 2 =
          native16 (ip4HeaderChecksum (packet.take 20)) ∧
        ip4HeaderChecksumIsValid (packet.take 20) = true) := by
  obtain ⟨proto, rfl, rfl⟩ := l2tvppBuildRewriteI_some hbuild
  let len : U16 := BitVec.ofNat 16 (38 + inner.length)
  let checksum := fixupChecksum fixed.encapIpCsum0 len
  let header := encapIp4Header t len (swap16 checksum)
  have hsize := length_encapPacket t sess proto len (swap16 checksum) inner
  have hrewrite : (encapRewrite t sess proto ++ inner).length =
      38 + inner.length := by
    rw [List.length_append]
    rfl
  have htake : (encapPacket t sess proto len (swap16 checksum) inner).take 20 =
      header.encode := take_encapPacket ..
  obtain ⟨hsums, -⟩ := fixupChecksum_spec t len (swap16 checksum)
  rw [← hcached] at hsums
  refine ⟨_, l2tvppFixup_encapRewrite hfixed inner, ?_, ?_, ?_, ?_, ?_⟩
  · rw [hsize, hrewrite]
  · rw [hsize]
    omega
  · rw [readU16_ipLength, hsize]
  · have hwords := wordSum_encapIp4Header t len (swap16 checksum)
    have hpositive := wordSum_constantWords t
    rw [swap16_swap16] at hwords
    rw [htake, ← onesSum_map_swap16, ← nativeWords_eq, onesSum_eq_max]
    constructor
    · rw [hwords]
      exact hsums
    · rw [hwords]
      omega
  · intro hbelow
    rw [hsize] at hbelow
    have hvalid := fixup_valid t (ofNat_ne_max hbelow)
    rw [← hcached] at hvalid
    rw [htake]
    exact hvalid

theorem l2tvppFixup_checksum_oneSession :
    let ai : AdjIndex := ⟨.ip4, .ip4, Ip46.ofIp4 0, 0⟩
    let v := adjNbrAddOrLock
      (runCalls Policies.lifo Pool.empty Pool.empty oneSession) ai .plugin
    let t : L2tvppTunnel := ⟨Ip46.ofIp4 0x0a000001, Ip46.ofIp4 0x0a000002, 1701,
      1701, 100, 200, 1, 0⟩
    let sess : L2tvppSession := ⟨0, 100, 7, 8, 0, 0, 0, 0, 0⟩
    ∃ rewrite csum0 packet,
      l2tvppBuildRewriteI t sess .ip4 = some (rewrite, csum0) ∧
      l2tvppFixup v ⟨v.lm.sessions.addr 0, rewrite⟩ (rewrite ++ [0x45, 0]) =
        .ok packet ∧
      onesSum (networkWords (packet.take 20)) = 0xffff ∧
      ip4HeaderChecksumIsValid (packet.take 20) = true := by
  intro ai v t sess
  have hbuild := l2tvppBuildRewriteI_encapRewrite t sess (.inl rfl)
  have hsess : v.lm.sessions.elt? 0 = some { sess with
      encapIpCsum0 := ip4HeaderChecksum (outerIp4Header t) } := by decide
  have hfixed : Midchain.session v
      ⟨v.lm.sessions.addr 0, encapRewrite t sess pppProtoIp4⟩ = some { sess with
        encapIpCsum0 := ip4HeaderChecksum (outerIp4Header t) } := by
    rw [Midchain.session, Pool.deref_addr]
    exact hsess
  obtain ⟨packet, hpacket, hlength, -, -, hsum, hvalid⟩ :=
    l2tvppFixup_checksum t sess hbuild hfixed rfl [0x45, 0] (by decide)
  refine ⟨_, _, packet, hbuild, hpacket, hsum, (hvalid ?_).2⟩
  rw [hlength]
  decide

end L2tvpp.Node
