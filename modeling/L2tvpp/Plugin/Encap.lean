import L2tvpp.Plugin.Store

/-!
# Encapsulation

The midchain adjacency of a session interface carries a constant rewrite (IPv4,
UDP, L2TP and PPP headers) and the address of the session record, through which
the per-packet fixup reads the cached header checksum.
-/

namespace L2tvpp.Plugin

open L2tvpp.Lib

/-! ## Checksums

VPP sums the network-order header with native loads, here little-endian ones.
-/

/-- A 16-bit value as it lies in memory on the machine. -/
def native16 (value : U16) : List U8 :=
  [value.extractLsb' 0 8, value.extractLsb' 8 8]

def nativeWords : List U8 → List U16
  | low :: high :: rest => (high ++ low) :: nativeWords rest
  | _ => []

def ipCsumFold (sum : U64) : U16 :=
  let sum := (sum &&& 0xffffffff) + (sum >>> 32)
  let sum := (sum &&& 0xffff) + (sum >>> 16)
  let sum := (sum &&& 0xffff) + (sum >>> 16)
  let sum := (sum &&& 0xffff) + (sum >>> 16)
  sum.setWidth 16

/-- `ip_csum_sub_even`: take a word out, with end-around carry. -/
def ipCsumSubEven (sum word : U64) : U64 :=
  let next := sum + word
  if next < sum then next + 1 else next

/-- `ip_csum_add_even`: put a word in, with end-around borrow. -/
def ipCsumAddEven (sum word : U64) : U64 :=
  let next := sum - word
  if sum < next then next - 1 else next

def ipCsumUpdate (sum : U64) (old new : U16) : U64 :=
  ipCsumAddEven (ipCsumSubEven sum (old.setWidth 64)) (new.setWidth 64)

/-- `ip4_header_checksum` of a header without options; the checksum field
itself counts as zero. -/
def ip4HeaderChecksum (header : List U8) : U16 :=
  let words := nativeWords ((header.set 10 0).set 11 0)
  ~~~ ipCsumFold ((words.map fun word => word.setWidth 64).foldl (· + ·) 0)

/-! ## The rewrite -/

def pppProtoIp4 : U16 := 0x0021
def pppProtoIp6 : U16 := 0x0057

def outerIp4Header (t : L2tvppTunnel) : List U8 :=
  [0x45, 0, 0, 0, 0, 0, 0, 0, 64, 17, 0, 0] ++
    be32 t.localIp.ip4 ++ be32 t.peerIp.ip4

def outerUdpHeader (t : L2tvppTunnel) : List U8 :=
  be16 t.localPort ++ be16 t.peerPort ++ [0, 0, 0, 0]

/-- The rewrite and the new `encap_ip_csum0`; nothing for other link types. -/
def l2tvppBuildRewriteI (t : L2tvppTunnel) (sess : L2tvppSession)
    (link : VnetLink) : Option (List U8 × U16) :=
  let build (proto : U16) : List U8 × U16 :=
    (outerIp4Header t ++ outerUdpHeader t ++
      (be16 2 ++ be16 t.peerTid ++ be16 sess.peerSid) ++
      ([0xff, 0x03] ++ be16 proto),
     ip4HeaderChecksum (outerIp4Header t))
  match link with
  | .ip4 => some (build pppProtoIp4)
  | .ip6 => some (build pppProtoIp6)
  | _ => none

/-- The session a fixup sees through the address stored in its adjacency. -/
def Midchain.session (v : Vpp) (midchain : Midchain) : Option L2tvppSession :=
  v.lm.sessions.deref midchain.fixupData

def patch16 (packet : List U8) (offset : Nat) : List U8 → List U8
  | [first, second] => (packet.set offset first).set (offset + 1) second
  | _ => packet

def l2tvppFixup (v : Vpp) (midchain : Midchain) (packet : List U8) :
    Except MemFault (List U8) :=
  match midchain.session v with
  | none => .error (.freedElement midchain.fixupData.index)
  | some sess =>
      let len : U16 := BitVec.ofNat 16 packet.length
      -- the length field as the machine loads it
      let iplen : U16 := len.extractLsb' 0 8 ++ len.extractLsb' 8 8
      let sum := ipCsumUpdate (sess.encapIpCsum0.setWidth 64) 0 iplen
      let packet := patch16 packet 2 (be16 len)
      let packet := patch16 packet 10 (native16 (ipCsumFold sum))
      .ok (patch16 packet 24 (be16 (len - 20)))

/-! ## Adjacencies -/

def l2tvppUpdateAdj (v : Vpp) (ai : AdjIndex) : Vpp :=
  match v.lm.sessionIndexOf ai.swIfIndex with
  | none => v
  | some si =>
      match v.lm.sessions.elt? si with
      | none => v
      | some sess =>
          match v.lm.tunnels.elt? sess.tunnelIndex with
          -- a freed tunnel slot; reading it is undefined in the source
          | none => v
          | some t =>
              match l2tvppBuildRewriteI t sess ai.link with
              | none => v
              | some (rewrite, csum) =>
                  { v with
                    lm := { v.lm with
                      sessions := v.lm.sessions.modify si fun sess =>
                        { sess with encapIpCsum0 := csum } }
                    adjacencies := v.adjacencies.modify ai fun adj =>
                      { adj with
                        midchain := some ⟨v.lm.sessions.addr si, rewrite⟩
                        delegate := some ⟨t.encapFibIndex,
                          FibPrefix.host t.peerIp.ip4⟩ } }

inductive LockOwner where
  | plugin
  | other
  deriving DecidableEq, Repr

def IpAdjacency.lock (adj : IpAdjacency) : LockOwner → IpAdjacency
  | .plugin => { adj with pluginLocks := adj.pluginLocks + 1 }
  | .other => { adj with otherLocks := adj.otherLocks + 1 }

def IpAdjacency.unlock (adj : IpAdjacency) : LockOwner → IpAdjacency
  | .plugin => { adj with pluginLocks := adj.pluginLocks - 1 }
  | .other => { adj with otherLocks := adj.otherLocks - 1 }

def Vpp.setAdjacencies (v : Vpp) (adjacencies : Dict AdjIndex IpAdjacency) :
    Vpp :=
  { v with adjacencies := adjacencies }

def adjNbrAddOrLock (v : Vpp) (ai : AdjIndex) (owner : LockOwner) : Vpp :=
  match v.adjacencies.get? ai with
  | some adj => v.setAdjacencies (v.adjacencies.set ai (adj.lock owner))
  | none =>
      let adj := IpAdjacency.lock ⟨0, 0, none, none⟩ owner
      l2tvppUpdateAdj (v.setAdjacencies (v.adjacencies.set ai adj)) ai

/-- `adj_unlock`: the last lock frees the adjacency. -/
def adjUnlock (v : Vpp) (ai : AdjIndex) (owner : LockOwner) : Vpp :=
  match v.adjacencies.get? ai with
  | none => v
  | some adj =>
      let adj := adj.unlock owner
      if adj.pluginLocks = 0 ∧ adj.otherLocks = 0 then
        v.setAdjacencies (v.adjacencies.erase ai)
      else v.setAdjacencies (v.adjacencies.set ai adj)

end L2tvpp.Plugin
