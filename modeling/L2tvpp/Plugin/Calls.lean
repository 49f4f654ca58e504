import L2tvpp.Lib.Run
import L2tvpp.Plugin.Route

/-!
# Sequences of calls

One step of VPP as the plugin sees it: a tunnel, session or route call, or
something the rest of VPP does to adjacencies and to interfaces of its own.
-/

namespace L2tvpp.Plugin

open L2tvpp.Lib

inductive Call where
  | tunnelAddDel (localIp peerIp : Ip46)
      (localPort peerPort localTid peerTid : U16) (isAdd : Bool)
  | sessionAddDel (tunnelIndex : Nat) (localSid peerSid : U16)
      (acfc pfc : U8) (isAdd : Bool)
  | routeAddDel (pfx : FibPrefix) (swIfIndex : Nat) (isAdd : Bool)
  /-- The FIB or a neighbour entry takes a lock, creating the adjacency. -/
  | adjAdd (ai : AdjIndex)
  | adjUpdate (ai : AdjIndex)
  | adjRelease (ai : AdjIndex)
  /-- An interface that is not the plugin's comes or goes. -/
  | interfaceAdd
  | interfaceDel (hwIfIndex : Nat)
  | innerChecksum (noChecksum : Bool)
  deriving DecidableEq, Repr

/-- An interface of the plugin is only deleted by the plugin. -/
def Vpp.ownsInterface (v : Vpp) (hwIfIndex : Nat) : Bool :=
  v.lm.sessions.toList.any fun entry =>
    entry.2.hwIfIndex == hwIfIndex ||
      some entry.2.swIfIndex ==
        (v.hwInterfaces.elt? hwIfIndex).map HwInterface.swIfIndex

def Vpp.interfaceAdd (P : Policies) (v : Vpp) : Vpp :=
  { v with
    hwInterfaces := v.hwInterfaces.get P.hwInterfaces
      ⟨0, v.swInterfaces.nextIndex P.swInterfaces, false⟩
    swInterfaces := v.swInterfaces.get P.swInterfaces
      ⟨false, false, false, false⟩ }

/-- A rejected call changes nothing. -/
def step (P : Policies) (v : Vpp) : Call → Vpp
  | .tunnelAddDel localIp peerIp localPort peerPort localTid peerTid isAdd =>
      match l2tvppTunnelAddDel P v localIp peerIp localPort peerPort localTid
        peerTid isAdd with
      | .error _ => v
      | .ok (_, v') => v'
  | .sessionAddDel tunnelIndex localSid peerSid acfc pfc isAdd =>
      match l2tvppSessionAddDel P v tunnelIndex localSid peerSid acfc pfc
        isAdd with
      | .error _ => v
      | .ok (_, v') => v'
  | .routeAddDel pfx swIfIndex isAdd =>
      match l2tvppRouteAddDel v pfx swIfIndex isAdd with
      | .error _ => v
      | .ok v' => v'
  | .adjAdd ai => adjNbrAddOrLock v ai .other
  | .adjUpdate ai => l2tvppUpdateAdj v ai
  | .adjRelease ai => adjUnlock v ai .other
  | .interfaceAdd => v.interfaceAdd P
  | .interfaceDel hwIfIndex =>
      if v.ownsInterface hwIfIndex then v else vnetDeleteHwInterface v hwIfIndex
  | .innerChecksum noChecksum =>
      v.setLm { v.lm with innerIp4NoChecksum := noChecksum }

/-- Everything a step can do to the store. -/
inductive StoreStep (P : Policies) (v : Vpp) : Call → Vpp → Prop
  | same {call : Call} {v' : Vpp} (h : SameStore v v') : StoreStep P v call v'
  | tunnelAdd {localIp peerIp : Ip46}
      {localPort peerPort localTid peerTid : U16}
      (hfind : l2tvppTunnelFind v.lm peerIp peerPort localTid = none) :
      StoreStep P v
        (.tunnelAddDel localIp peerIp localPort peerPort localTid peerTid true)
        (v.tunnelAdd P localIp peerIp localPort peerPort localTid peerTid)
  | tunnelDel {localIp peerIp : Ip46}
      {localPort peerPort localTid peerTid : U16} {index : Nat}
      {t : L2tvppTunnel}
      (hfind : l2tvppTunnelFind v.lm peerIp peerPort localTid =
        some (index, t))
      (hzero : t.nSessions = 0) :
      StoreStep P v
        (.tunnelAddDel localIp peerIp localPort peerPort localTid peerTid false)
        (v.tunnelDel index)
  | sessionAdd {tunnelIndex : Nat} {localSid peerSid : U16} {acfc pfc : U8}
      {t : L2tvppTunnel} (ht : v.lm.tunnels.elt? tunnelIndex = some t)
      (hkey : v.lm.sessionByKey.lookup
        (l2tvppSessionKey t.localTid localSid) = none) :
      StoreStep P v
        (.sessionAddDel tunnelIndex localSid peerSid acfc pfc true)
        (v.sessionAdd P tunnelIndex t localSid peerSid acfc pfc)
  | sessionDel {tunnelIndex : Nat} {localSid peerSid : U16} {acfc pfc : U8}
      {t : L2tvppTunnel} {index : Nat} {sess : L2tvppSession}
      (ht : v.lm.tunnels.elt? tunnelIndex = some t)
      (hkey : v.lm.sessionByKey.lookup
        (l2tvppSessionKey t.localTid localSid) = some index)
      (hsess : v.lm.sessions.elt? index = some sess) :
      StoreStep P v
        (.sessionAddDel tunnelIndex localSid peerSid acfc pfc false)
        (v.sessionDel tunnelIndex (l2tvppSessionKey t.localTid localSid)
          index sess)
  | interfaceAdd : StoreStep P v .interfaceAdd (v.interfaceAdd P)
  | interfaceDel {hwIfIndex : Nat} (h : v.ownsInterface hwIfIndex = false) :
      StoreStep P v (.interfaceDel hwIfIndex)
        (vnetDeleteHwInterface v hwIfIndex)

theorem storeStep_step (P : Policies) (v : Vpp) (call : Call) :
    StoreStep P v call (step P v call) := by
  cases call with
  | tunnelAddDel localIp peerIp localPort peerPort localTid peerTid isAdd =>
      simp only [step]
      split
      · exact .same (SameStore.refl v)
      · rename_i out v' h
        rcases l2tvppTunnelAddDel_ok h with
          ⟨rfl, -, -, hfind, -, rfl⟩ | ⟨rfl, -, index, t, hfind, hzero, rfl⟩
        · exact .tunnelAdd hfind
        · exact .tunnelDel hfind hzero
  | sessionAddDel tunnelIndex localSid peerSid acfc pfc isAdd =>
      simp only [step]
      split
      · exact .same (SameStore.refl v)
      · rename_i out v' h
        obtain ⟨t, ht, ⟨rfl, hkey, -, rfl⟩ |
          ⟨rfl, -, index, sess, hkey, hsess, rfl⟩⟩ := l2tvppSessionAddDel_ok h
        · exact .sessionAdd ht hkey
        · exact .sessionDel ht hkey hsess
  | routeAddDel pfx swIfIndex isAdd =>
      simp only [step]
      split
      · exact .same (SameStore.refl v)
      · rename_i v' h
        exact .same (sameStore_l2tvppRouteAddDel h)
  | adjAdd ai => exact .same (sameStore_adjNbrAddOrLock v ai .other)
  | adjUpdate ai => exact .same (sameStore_l2tvppUpdateAdj v ai)
  | adjRelease ai => exact .same (sameStore_adjUnlock v ai .other)
  | interfaceAdd => exact .interfaceAdd
  | interfaceDel hwIfIndex =>
      simp only [step]
      split
      · exact .same (SameStore.refl v)
      · rename_i h
        exact .interfaceDel (Bool.eq_false_of_not_eq_true h)
  | innerChecksum noChecksum =>
      exact .same ⟨rfl, rfl, rfl, rfl, rfl, rfl, fun _ => rfl, fun _ _ => rfl⟩

def runCalls (P : Policies) (hwInterfaces : Pool HwInterface)
    (swInterfaces : Pool SwInterface) (calls : List Call) : Vpp :=
  run (step P) (Vpp.initial hwInterfaces swInterfaces) calls

end L2tvpp.Plugin
