import L2tvpp.Plugin.RefCount

/-!
# The binary API

The messages of `l2tvpp.api` as `vpp_papi` presents them to the daemon and the
handlers of `l2tvpp_api.c`.  A rejected call changes nothing and is answered
with a return value and the index `~0`, which is `none`.
-/

namespace L2tvpp.Syncd

open L2tvpp.Lib L2tvpp.Plugin

/-! ## Addresses and prefixes -/

inductive IpAddress where
  | v4 (address : U32)
  | v6 (address : BitVec 128)
  deriving DecidableEq, Repr

namespace IpAddress

def decode : IpAddress → Ip46
  | .v4 address => Ip46.ofIp4 address
  | .v6 address => ⟨address.extractLsb' 32 96, address.extractLsb' 0 32⟩

/-- `ip_address_encode` with `IP46_TYPE_ANY`. -/
def encode (ip : Ip46) : IpAddress :=
  if ip.isIp4 then .v4 ip.ip4 else .v6 (ip.pad ++ ip.ip4)

theorem decode_encode (ip : Ip46) : (encode ip).decode = ip := by
  obtain ⟨pad, ip4⟩ := ip
  unfold encode
  split
  · rename_i h
    simp only [Ip46.isIp4, beq_iff_eq] at h
    rw [h]
    rfl
  · simp only [decode, Ip46.mk.injEq]
    exact ⟨BitVec.extractLsb'_append_eq_left, BitVec.extractLsb'_append_eq_right⟩

/-- The part of an address below a prefix length. -/
def hostBits : IpAddress → U8 → Nat
  | .v4 address, len => address.toNat % 2 ^ (32 - len.toNat)
  | .v6 address, len => address.toNat % 2 ^ (128 - len.toNat)

end IpAddress

/-- A prefix as the kernel prints it, without host bits. -/
structure IpPrefix where
  address : IpAddress
  len : U8
  canonical : address.hostBits len = 0
  deriving DecidableEq, Repr

namespace IpPrefix

def decode (pfx : IpPrefix) : FibPrefix where
  proto := match pfx.address with
    | .v4 _ => .ip4
    | .v6 _ => .ip6
  addr := pfx.address.decode
  len := pfx.len.setWidth 16

def host (ip4 : U32) : IpPrefix where
  address := .v4 ip4
  len := 32
  canonical := by simp [IpAddress.hostBits, Nat.mod_one]

theorem decode_inj {pfx pfx' : IpPrefix} :
    pfx.decode = pfx'.decode ↔ pfx = pfx' := by
  constructor
  · intro h
    obtain ⟨address, len, canonical⟩ := pfx
    obtain ⟨address', len', canonical'⟩ := pfx'
    simp only [decode, FibPrefix.mk.injEq] at h
    obtain ⟨hproto, haddr, hlen⟩ := h
    have hlen : len = len' := by
      have hnat := congrArg BitVec.toNat hlen
      have hlt := len.isLt
      have hlt' := len'.isLt
      simp only [BitVec.toNat_setWidth] at hnat
      apply BitVec.eq_of_toNat_eq
      omega
    have haddress : address = address' := by
      cases address with
      | v4 ip4 =>
          cases address' with
          | v4 ip4' =>
              simp only [IpAddress.decode, Ip46.ofIp4, Ip46.mk.injEq] at haddr
              rw [haddr.2]
          | v6 ip6' => contradiction
      | v6 ip6 =>
          cases address' with
          | v4 ip4' => contradiction
          | v6 ip6' =>
              simp only [IpAddress.decode, Ip46.mk.injEq] at haddr
              have hsplit : ∀ x : BitVec (96 + 32),
                  x.extractLsb' 32 96 ++ x.extractLsb' 0 32 = x :=
                fun _ => BitVec.extractLsb'_append_extractLsb'
              rw [← hsplit ip6, ← hsplit ip6', haddr.1, haddr.2]
    subst hlen
    subst haddress
    rfl
  · rintro rfl
    rfl

@[simp] theorem key_decode (pfx : IpPrefix) : pfx.decode.key = pfx.decode := by
  obtain ⟨address, len, canonical⟩ := pfx
  cases address <;> rfl

theorem isHost4_decode {pfx : IpPrefix} {ip4 : U32} :
    (pfx.decode.isHost4 = true ∧ ip4 = pfx.decode.addr.ip4) ↔
      pfx = host ip4 := by
  constructor
  · rintro ⟨hhost, rfl⟩
    rw [← decode_inj, ← key_decode pfx, FibPrefix.key_of_isHost4 hhost]
    rfl
  · rintro rfl
    exact ⟨rfl, rfl⟩

end IpPrefix

/-! ## Messages -/

/-- `None` for an address is packed as zeroes. -/
def packAddress (address : Option IpAddress) : Ip46 :=
  match address with
  | none => Ip46.ofIp4 0
  | some address => address.decode

inductive ApiCall where
  | tunnelAddDel (isAdd : Bool) (localIp : Option IpAddress)
      (peerIp : IpAddress) (localPort peerPort localTid peerTid : U16)
  | sessionAddDel (isAdd : Bool) (tunnelIndex : Option Nat)
      (localSid peerSid : U16) (acfc pfc : Bool)
  | routeAddDel (isAdd : Bool) (pfx : IpPrefix) (swIfIndex : Option Nat)
  | tunnelDump
  | sessionDump
  deriving DecidableEq, Repr

structure TunnelDetails where
  tunnelIndex : Nat
  localIp : IpAddress
  peerIp : IpAddress
  localPort : U16
  peerPort : U16
  localTid : U16
  peerTid : U16
  nSessions : U32
  deriving DecidableEq, Repr

structure SessionDetails where
  swIfIndex : Nat
  tunnelIndex : Nat
  localSid : U16
  peerSid : U16
  acfc : U8
  pfc : U8
  deriving DecidableEq, Repr

inductive ApiReply where
  | addDel (retval : Option VnetApiError) (index : Option Nat)
  | tunnels (details : List TunnelDetails)
  | sessions (details : List SessionDetails)
  deriving DecidableEq, Repr

namespace ApiReply

def ok : ApiReply → Bool
  | .addDel retval _ => retval.isNone
  | _ => true

def index : ApiReply → Option Nat
  | .addDel _ index => index
  | _ => none

def tunnelDetails : ApiReply → List TunnelDetails
  | .tunnels details => details
  | _ => []

def sessionDetails : ApiReply → List SessionDetails
  | .sessions details => details
  | _ => []

end ApiReply

/-! ## The handlers -/

def sendTunnelDetails (tunnelIndex : Nat) (t : L2tvppTunnel) : TunnelDetails where
  tunnelIndex := tunnelIndex
  localIp := IpAddress.encode t.localIp
  peerIp := IpAddress.encode t.peerIp
  localPort := t.localPort
  peerPort := t.peerPort
  localTid := t.localTid
  peerTid := t.peerTid
  nSessions := t.nSessions

def sendSessionDetails (sess : L2tvppSession) : SessionDetails where
  swIfIndex := sess.swIfIndex
  tunnelIndex := sess.tunnelIndex
  localSid := sess.localSid
  peerSid := sess.peerSid
  acfc := sess.acfc
  pfc := sess.pfc

def apiBool (flag : Bool) : U8 := if flag then 1 else 0

/-- An add or delete handler: the index `~0` stands unless the call sets it. -/
def replyAddDel (v : Vpp) : Except VnetApiError (Option Nat × Vpp) →
    ApiReply × Vpp
  | .error e => (.addDel (some e) none, v)
  | .ok (index, v') => (.addDel none index, v')

def handle (P : Policies) (v : Vpp) : ApiCall → ApiReply × Vpp
  | .tunnelAddDel isAdd localIp peerIp localPort peerPort localTid peerTid =>
      replyAddDel v (l2tvppTunnelAddDel P v (packAddress localIp) peerIp.decode
        localPort peerPort localTid peerTid isAdd)
  | .sessionAddDel isAdd tunnelIndex localSid peerSid acfc pfc =>
      replyAddDel v (match tunnelIndex with
        -- `~0` is a free index of every pool
        | none => .error .noSuchEntry
        | some tunnelIndex => l2tvppSessionAddDel P v tunnelIndex localSid
            peerSid (apiBool acfc) (apiBool pfc) isAdd)
  | .routeAddDel isAdd pfx swIfIndex =>
      replyAddDel v (match swIfIndex with
        | none => .error .invalidSwIfIndex
        | some swIfIndex =>
            (l2tvppRouteAddDel v pfx.decode swIfIndex isAdd).map (none, ·))
  | .tunnelDump =>
      (.tunnels (v.lm.tunnels.toList.map fun entry =>
        sendTunnelDetails entry.1 entry.2), v)
  | .sessionDump =>
      (.sessions (v.lm.sessions.toList.map fun entry =>
        sendSessionDetails entry.2), v)

/-! ## What an accepted call does -/

section Accepted

variable {P : Policies} {v : Vpp}

theorem replyAddDel_ok {result : Except VnetApiError (Option Nat × Vpp)}
    (h : (replyAddDel v result).1.ok = true) :
    ∃ index v', result = .ok (index, v') := by
  cases result with
  | error e => simp [replyAddDel, ApiReply.ok] at h
  | ok out => exact ⟨out.1, out.2, rfl⟩

theorem handle_not_ok {call : ApiCall} (h : (handle P v call).1.ok = false) :
    (handle P v call).1.index = none ∧ (handle P v call).2 = v := by
  have hreply : ∀ result : Except VnetApiError (Option Nat × Vpp),
      (replyAddDel v result).1.ok = false →
      (replyAddDel v result).1.index = none ∧ (replyAddDel v result).2 = v := by
    intro result hresult
    cases result with
    | error e => exact ⟨rfl, rfl⟩
    | ok out => simp [replyAddDel, ApiReply.ok] at hresult
  cases call with
  | tunnelAddDel => exact hreply _ h
  | sessionAddDel => exact hreply _ h
  | routeAddDel => exact hreply _ h
  | tunnelDump => exact ⟨rfl, rfl⟩
  | sessionDump => exact ⟨rfl, rfl⟩

theorem handle_rejected {call : ApiCall}
    (h : (handle P v call).1.ok = false) : (handle P v call).2 = v :=
  (handle_not_ok h).2

theorem tunnelAdd_accepted {localIp : Option IpAddress} {peerIp : IpAddress}
    {localPort peerPort localTid peerTid : U16}
    (h : (handle P v (.tunnelAddDel true localIp peerIp localPort peerPort
      localTid peerTid)).1.ok = true) :
    ((packAddress localIp).isIp4 = true ∧ peerIp.decode.isIp4 = true ∧
      l2tvppTunnelFind v.lm peerIp.decode peerPort localTid = none) ∧
    handle P v (.tunnelAddDel true localIp peerIp localPort peerPort localTid
      peerTid) =
      (.addDel none (some (v.lm.tunnels.nextIndex P.tunnels)),
        v.tunnelAdd P (packAddress localIp) peerIp.decode localPort peerPort
          localTid peerTid) := by
  simp only [handle] at h ⊢
  obtain ⟨index, v', hresult⟩ := replyAddDel_ok h
  rcases l2tvppTunnelAddDel_ok hresult with
    ⟨-, hlocal, hpeer, hfind, rfl, rfl⟩ | ⟨hfalse, -⟩
  · rw [hresult]
    exact ⟨⟨hlocal, hpeer, hfind⟩, rfl⟩
  · contradiction

theorem tunnelDel_accepted {localIp : Option IpAddress} {peerIp : IpAddress}
    {localPort peerPort localTid peerTid : U16}
    (h : (handle P v (.tunnelAddDel false localIp peerIp localPort peerPort
      localTid peerTid)).1.ok = true) :
    ∃ index t, l2tvppTunnelFind v.lm peerIp.decode peerPort localTid =
        some (index, t) ∧ t.nSessions = 0 ∧
      (handle P v (.tunnelAddDel false localIp peerIp localPort peerPort
        localTid peerTid)).2 = v.tunnelDel index := by
  simp only [handle] at h ⊢
  obtain ⟨out, v', hresult⟩ := replyAddDel_ok h
  rcases l2tvppTunnelAddDel_ok hresult with
    ⟨hfalse, -⟩ | ⟨-, -, index, t, hfind, hzero, rfl⟩
  · contradiction
  · rw [hresult]
    exact ⟨index, t, hfind, hzero, rfl⟩

theorem sessionAdd_accepted {tunnelIndex : Option Nat}
    {localSid peerSid : U16} {acfc pfc : Bool}
    (h : (handle P v (.sessionAddDel true tunnelIndex localSid peerSid acfc
      pfc)).1.ok = true) :
    ∃ index t, tunnelIndex = some index ∧
      v.lm.tunnels.elt? index = some t ∧
      v.lm.sessionByKey.lookup (l2tvppSessionKey t.localTid localSid) = none ∧
      handle P v (.sessionAddDel true tunnelIndex localSid peerSid acfc pfc) =
        (.addDel none (some (v.swInterfaces.nextIndex P.swInterfaces)),
          v.sessionAdd P index t localSid peerSid (apiBool acfc)
            (apiBool pfc)) := by
  simp only [handle] at h ⊢
  obtain ⟨out, v', hresult⟩ := replyAddDel_ok h
  cases tunnelIndex with
  | none => contradiction
  | some index =>
      obtain ⟨t, ht, ⟨-, hkey, rfl, rfl⟩ | ⟨hfalse, -⟩⟩ :=
        l2tvppSessionAddDel_ok hresult
      · rw [hresult]
        exact ⟨index, t, rfl, ht, hkey, rfl⟩
      · contradiction

theorem sessionDel_accepted {tunnelIndex : Option Nat}
    {localSid peerSid : U16} {acfc pfc : Bool}
    (h : (handle P v (.sessionAddDel false tunnelIndex localSid peerSid acfc
      pfc)).1.ok = true) :
    ∃ tunnel t index sess, tunnelIndex = some tunnel ∧
      v.lm.tunnels.elt? tunnel = some t ∧
      v.lm.sessionByKey.lookup (l2tvppSessionKey t.localTid localSid) =
        some index ∧
      v.lm.sessions.elt? index = some sess ∧
      (handle P v (.sessionAddDel false tunnelIndex localSid peerSid acfc
        pfc)).2 = v.sessionDel tunnel (l2tvppSessionKey t.localTid localSid)
          index sess := by
  simp only [handle] at h ⊢
  obtain ⟨out, v', hresult⟩ := replyAddDel_ok h
  cases tunnelIndex with
  | none => contradiction
  | some tunnel =>
      obtain ⟨t, ht, ⟨hfalse, -⟩ |
        ⟨-, -, index, sess, hkey, hsess, rfl⟩⟩ := l2tvppSessionAddDel_ok hresult
      · contradiction
      · rw [hresult]
        exact ⟨tunnel, t, index, sess, rfl, ht, hkey, hsess, rfl⟩

theorem routeAddDel_accepted {isAdd : Bool} {pfx : IpPrefix}
    {swIfIndex : Option Nat}
    (h : (handle P v (.routeAddDel isAdd pfx swIfIndex)).1.ok = true) :
    ∃ index, swIfIndex = some index ∧
      l2tvppRouteAddDel v pfx.decode index isAdd =
        .ok (handle P v (.routeAddDel isAdd pfx swIfIndex)).2 := by
  simp only [handle] at h ⊢
  obtain ⟨out, v', hresult⟩ := replyAddDel_ok h
  cases swIfIndex with
  | none => contradiction
  | some index =>
      cases hroute : l2tvppRouteAddDel v pfx.decode index isAdd with
      | error e =>
          simp only [hroute] at hresult
          contradiction
      | ok next =>
          refine ⟨index, rfl, ?_⟩
          simp only [hroute]
          rfl

/-- Everything a call can do to the plugin.  A call that is refused or that only
reads leaves it alone. -/
inductive HandleStep (P : Policies) (v : Vpp) (call : ApiCall) (v' : Vpp) : Prop
  | same (hv' : v' = v)
  | tunnelAdd {localIp peerIp : Ip46}
      {localPort peerPort localTid peerTid : U16}
      (hfind : l2tvppTunnelFind v.lm peerIp peerPort localTid = none)
      (hv' : v' = v.tunnelAdd P localIp peerIp localPort peerPort localTid
        peerTid)
  | tunnelDel {index : Nat} (hv' : v' = v.tunnelDel index)
  | sessionAdd {tunnelIndex : Nat} {t : L2tvppTunnel} {localSid peerSid : U16}
      {acfc pfc : Bool}
      (hcall : call = .sessionAddDel true (some tunnelIndex) localSid peerSid
        acfc pfc)
      (hkey : v.lm.sessionByKey.lookup
        (l2tvppSessionKey t.localTid localSid) = none)
      (hv' : v' = v.sessionAdd P tunnelIndex t localSid peerSid (apiBool acfc)
        (apiBool pfc))
  | sessionDel {tunnelIndex index : Nat} {t : L2tvppTunnel}
      {sess : L2tvppSession} {localSid peerSid : U16} {acfc pfc : Bool}
      (hcall : call = .sessionAddDel false (some tunnelIndex) localSid peerSid
        acfc pfc)
      (hkey : v.lm.sessionByKey.lookup
        (l2tvppSessionKey t.localTid localSid) = some index)
      (hsess : v.lm.sessions.elt? index = some sess)
      (hv' : v' = v.sessionDel tunnelIndex
        (l2tvppSessionKey t.localTid localSid) index sess)
  | route {isAdd : Bool} {pfx : IpPrefix} {swIfIndex : Nat}
      (hcall : call = .routeAddDel isAdd pfx (some swIfIndex))
      (hroute : l2tvppRouteAddDel v pfx.decode swIfIndex isAdd = .ok v')

theorem handleStep_handle (P : Policies) (v : Vpp) (call : ApiCall) :
    HandleStep P v call (handle P v call).2 := by
  cases hok : (handle P v call).1.ok with
  | false => exact .same (handle_rejected hok)
  | true =>
      cases call with
      | tunnelAddDel isAdd localIp peerIp localPort peerPort localTid peerTid =>
          cases isAdd with
          | true =>
              obtain ⟨⟨-, -, hfind⟩, hhandle⟩ := tunnelAdd_accepted hok
              exact .tunnelAdd hfind (congrArg Prod.snd hhandle)
          | false =>
              obtain ⟨index, t, -, -, hhandle⟩ := tunnelDel_accepted hok
              exact .tunnelDel hhandle
      | sessionAddDel isAdd tunnelIndex localSid peerSid acfc pfc =>
          cases isAdd with
          | true =>
              obtain ⟨index, t, rfl, -, hkey, hhandle⟩ := sessionAdd_accepted hok
              exact .sessionAdd rfl hkey (congrArg Prod.snd hhandle)
          | false =>
              obtain ⟨tunnel, t, index, sess, rfl, -, hkey, hsess, hhandle⟩ :=
                sessionDel_accepted hok
              exact .sessionDel rfl hkey hsess hhandle
      | routeAddDel isAdd pfx swIfIndex =>
          obtain ⟨index, rfl, hroute⟩ := routeAddDel_accepted hok
          exact .route rfl hroute
      | tunnelDump => exact .same rfl
      | sessionDump => exact .same rfl

/-! Which calls are accepted: -/

theorem tunnelAdd_accepts {localIp : Option IpAddress} {peerIp : IpAddress}
    {localPort peerPort localTid peerTid : U16}
    (hlocal : (packAddress localIp).isIp4 = true)
    (hpeer : peerIp.decode.isIp4 = true)
    (hfind : l2tvppTunnelFind v.lm peerIp.decode peerPort localTid = none) :
    (handle P v (.tunnelAddDel true localIp peerIp localPort peerPort localTid
      peerTid)).1.ok = true := by
  simp [handle, l2tvppTunnelAddDel, hlocal, hpeer, hfind, replyAddDel,
    ApiReply.ok]

theorem sessionAdd_accepts {tunnelIndex : Nat} {t : L2tvppTunnel}
    {localSid peerSid : U16} {acfc pfc : Bool}
    (ht : v.lm.tunnels.elt? tunnelIndex = some t)
    (hkey : v.lm.sessionByKey.lookup
      (l2tvppSessionKey t.localTid localSid) = none) :
    (handle P v (.sessionAddDel true (some tunnelIndex) localSid peerSid acfc
      pfc)).1.ok = true := by
  simp [handle, l2tvppSessionAddDel, ht, hkey, replyAddDel, ApiReply.ok]

theorem sessionDel_accepts {tunnelIndex index : Nat} {t : L2tvppTunnel}
    {sess : L2tvppSession} {localSid peerSid : U16} {acfc pfc : Bool}
    (ht : v.lm.tunnels.elt? tunnelIndex = some t)
    (hkey : v.lm.sessionByKey.lookup
      (l2tvppSessionKey t.localTid localSid) = some index)
    (hsess : v.lm.sessions.elt? index = some sess) :
    (handle P v (.sessionAddDel false (some tunnelIndex) localSid peerSid acfc
      pfc)).1.ok = true := by
  simp [handle, l2tvppSessionAddDel, ht, hkey, hsess, replyAddDel, ApiReply.ok]

theorem routeAddDel_accepts {isAdd : Bool} {pfx : IpPrefix}
    {swIfIndex index : Nat}
    (h : v.lm.sessionIndexOf swIfIndex = some index) :
    (handle P v (.routeAddDel isAdd pfx (some swIfIndex))).1.ok = true := by
  simp [handle, l2tvppRouteAddDel, h, Except.map, replyAddDel, ApiReply.ok]

end Accepted

end L2tvpp.Syncd
