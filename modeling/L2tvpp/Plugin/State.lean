import Mathlib.Data.List.AList
import Mathlib.Data.Finset.Basic
import L2tvpp.Lib.Bytes
import L2tvpp.Lib.Dict
import L2tvpp.Lib.Pool

/-!
# The plugin's object model

The tunnels, sessions and tables of `l2tvpp.h`, and the VPP objects the plugin
creates and looks at: interfaces, neighbour adjacencies and the plugin's own
source in the FIB.  The value `~0` of an index is `none`.
-/

namespace L2tvpp.Plugin

open L2tvpp.Lib

/-! ## Addresses and prefixes -/

/-- `ip46_address_t`: an IPv4 address lies in the last four of 16 bytes. -/
structure Ip46 where
  pad : BitVec 96
  ip4 : U32
  deriving DecidableEq, Repr

def Ip46.isIp4 (address : Ip46) : Bool := address.pad == 0

def Ip46.ofIp4 (ip4 : U32) : Ip46 := ⟨0, ip4⟩

inductive FibProtocol where
  | ip4
  | ip6
  | mpls
  deriving DecidableEq, Repr

inductive VnetLink where
  | ip4
  | ip6
  | mpls
  | ethernet
  | arp
  | nsh
  deriving DecidableEq, Repr

structure FibPrefix where
  proto : FibProtocol
  addr : Ip46
  len : U16
  deriving DecidableEq, Repr

def FibPrefix.host (ip4 : U32) : FibPrefix := ⟨.ip4, Ip46.ofIp4 ip4, 32⟩

/-- What the FIB finds an entry by: an IPv4 table reads `fp_addr.ip4` only. -/
def FibPrefix.key (pfx : FibPrefix) : FibPrefix :=
  match pfx.proto with
  | .ip4 => { pfx with addr := Ip46.ofIp4 pfx.addr.ip4 }
  | _ => pfx

/-! ## Interfaces and adjacencies -/

structure HwInterface where
  devInstance : Nat
  swIfIndex : Nat
  linkUp : Bool
  deriving DecidableEq, Repr

structure SwInterface where
  adminUp : Bool
  ip4Enabled : Bool
  ip6Enabled : Bool
  tunnelOutput : Bool
  deriving DecidableEq, Repr

/--
A neighbour adjacency, named by what `adj_nbr_add_or_lock` looks it up by: two
calls with the same arguments give the same adjacency.
-/
structure AdjIndex where
  proto : FibProtocol
  link : VnetLink
  nh : Ip46
  swIfIndex : Nat
  deriving DecidableEq, Repr

structure Midchain where
  fixupData : PoolAddr
  rewrite : List U8
  deriving DecidableEq, Repr

/-- The midchain delegate stacks an adjacency on the FIB entry of the peer. -/
structure MidchainDelegate where
  fibIndex : U32
  peer : FibPrefix
  deriving DecidableEq, Repr

structure IpAdjacency where
  pluginLocks : Nat
  otherLocks : Nat
  midchain : Option Midchain
  delegate : Option MidchainDelegate
  deriving DecidableEq, Repr

/-! ## Tunnels and sessions -/

structure L2tvppTunnel where
  localIp : Ip46
  peerIp : Ip46
  localPort : U16
  peerPort : U16
  localTid : U16
  peerTid : U16
  nSessions : U32
  encapFibIndex : U32
  deriving DecidableEq, Repr

structure L2tvppSession where
  tunnelIndex : Nat
  localTid : U16
  localSid : U16
  peerSid : U16
  acfc : U8
  pfc : U8
  swIfIndex : Nat
  hwIfIndex : Nat
  encapIpCsum0 : U16
  deriving DecidableEq, Repr

/-- The decap lookup key: the tunnel id and the session id packed in a word. -/
def l2tvppSessionKey (localTid localSid : U16) : U64 :=
  (localTid.setWidth 64 <<< 16) ||| localSid.setWidth 64

theorem l2tvppSessionKey_toNat (localTid localSid : U16) :
    (l2tvppSessionKey localTid localSid).toNat =
      localTid.toNat * 65536 + localSid.toNat := by
  have htid := localTid.isLt
  have hsid := localSid.isLt
  have hshift : (localTid.setWidth 64 <<< 16).toNat =
      localTid.toNat * 65536 := by
    simp [BitVec.toNat_shiftLeft, Nat.shiftLeft_eq]
    omega
  have hor := Nat.two_pow_add_eq_or_of_lt hsid localTid.toNat
  rw [l2tvppSessionKey, BitVec.toNat_or, hshift, BitVec.toNat_setWidth,
    Nat.mod_eq_of_lt (by omega), Nat.mul_comm]
  exact hor.symm

theorem l2tvppSessionKey_inj {tid tid' sid sid' : U16} :
    l2tvppSessionKey tid sid = l2tvppSessionKey tid' sid' ↔
      tid = tid' ∧ sid = sid' := by
  constructor
  · intro h
    have hnat := congrArg BitVec.toNat h
    rw [l2tvppSessionKey_toNat, l2tvppSessionKey_toNat] at hnat
    have hsid := sid.isLt
    have hsid' := sid'.isLt
    constructor
    · apply BitVec.eq_of_toNat_eq
      omega
    · apply BitVec.eq_of_toNat_eq
      omega
  · rintro ⟨rfl, rfl⟩
    rfl

abbrev Bihash (V : Type) := AList fun _ : U64 => V

/-- `l2tvpp_main_t`, less the handoff settings. -/
structure L2tvppMain where
  tunnels : Pool L2tvppTunnel
  sessions : Pool L2tvppSession
  sessionByKey : Bihash Nat
  sessionIndexBySwIfIndex : List (Option Nat)
  localIp4s : List U32
  innerIp4NoChecksum : Bool
  encapAdjByIp4 : Bihash AdjIndex
  encapAdjCount : U32
  encapAdjInit : Bool

def L2tvppMain.init : L2tvppMain where
  tunnels := Pool.empty
  sessions := Pool.empty
  sessionByKey := ∅
  sessionIndexBySwIfIndex := []
  localIp4s := []
  innerIp4NoChecksum := false
  encapAdjByIp4 := ∅
  encapAdjCount := 0
  encapAdjInit := false

structure Vpp where
  lm : L2tvppMain
  hwInterfaces : Pool HwInterface
  swInterfaces : Pool SwInterface
  adjacencies : Dict AdjIndex IpAdjacency
  /-- The paths of the plugin's FIB source: prefix and interface. -/
  fib : Finset (FibPrefix × Nat)

def Vpp.initial (hwInterfaces : Pool HwInterface)
    (swInterfaces : Pool SwInterface) : Vpp where
  lm := L2tvppMain.init
  hwInterfaces := hwInterfaces
  swInterfaces := swInterfaces
  adjacencies := Dict.empty
  fib := ∅

/-- How VPP picks the indices of the four pools the plugin takes from. -/
structure Policies where
  tunnels : PoolPolicy
  sessions : PoolPolicy
  hwInterfaces : PoolPolicy
  swInterfaces : PoolPolicy

def Policies.lifo : Policies :=
  ⟨PoolPolicy.lifo, PoolPolicy.lifo, PoolPolicy.lifo, PoolPolicy.lifo⟩

inductive VnetApiError where
  | unimplemented
  | tunnelExist
  | noSuchEntry
  | instanceInUse
  | entryAlreadyExists
  | invalidSwIfIndex
  deriving DecidableEq, Repr

end L2tvpp.Plugin
