import L2tvpp.Plugin.State

/-!
# Tunnels and sessions

`l2tvpp_tunnel_add_del` and `l2tvpp_session_add_del`.  Every error return of the
source comes before the first write, so an error carries no state.
-/

namespace L2tvpp.Plugin

open L2tvpp.Lib

/-! ## Vectors indexed by interface -/

/-- `vec_validate_init_empty`: make `index` valid, filling up with `~0`. -/
def vecValidateInitEmpty (vec : List (Option Nat)) (index : Nat) :
    List (Option Nat) :=
  vec ++ List.replicate (index + 1 - vec.length) none

theorem vecValidateInitEmpty_join (vec : List (Option Nat))
    (index other : Nat) :
    (vecValidateInitEmpty vec index)[other]?.join = vec[other]?.join := by
  simp only [vecValidateInitEmpty, List.getElem?_append]
  split
  · rfl
  · rename_i h
    rw [List.getElem?_eq_none (by omega : vec.length ≤ other),
      List.getElem?_replicate]
    split <;> rfl

theorem set_validated_join (vec : List (Option Nat)) (index other : Nat)
    (value : Option Nat) :
    ((vecValidateInitEmpty vec index).set index value)[other]?.join =
      if other = index then value else vec[other]?.join := by
  have hlt : index < (vecValidateInitEmpty vec index).length := by
    simp only [vecValidateInitEmpty, List.length_append,
      List.length_replicate]
    omega
  rw [List.getElem?_set]
  by_cases h : index = other
  · subst h
    simp [hlt]
  · rw [if_neg h, vecValidateInitEmpty_join, if_neg (Ne.symm h)]

theorem set_none_join (vec : List (Option Nat)) (index other : Nat) :
    (vec.set index none)[other]?.join =
      if other = index then none else vec[other]?.join := by
  rw [List.getElem?_set]
  by_cases h : index = other
  · subst h
    by_cases hlt : index < vec.length <;> simp [hlt]
  · simp [h, Ne.symm h]

namespace L2tvppMain

def sessionIndexOf (lm : L2tvppMain) (swIfIndex : Nat) : Option Nat :=
  lm.sessionIndexBySwIfIndex[swIfIndex]?.join

end L2tvppMain

/-! ## Tunnels -/

def l2tvppTunnelFind (lm : L2tvppMain) (peerIp : Ip46) (peerPort localTid : U16) :
    Option (Nat × L2tvppTunnel) :=
  lm.tunnels.find? fun t =>
    t.localTid == localTid && t.peerPort == peerPort && t.peerIp == peerIp

def addLocalIp4 (localIp4s : List U32) (ip4 : U32) : List U32 :=
  if ip4 ∈ localIp4s then localIp4s else localIp4s ++ [ip4]

def Vpp.tunnelAdd (P : Policies) (v : Vpp) (localIp peerIp : Ip46)
    (localPort peerPort localTid peerTid : U16) : Vpp :=
  { v with lm := { v.lm with
      tunnels := v.lm.tunnels.get P.tunnels
        { localIp := localIp
          peerIp := peerIp
          localPort := localPort
          peerPort := peerPort
          localTid := localTid
          peerTid := peerTid
          nSessions := 0
          encapFibIndex := 0 }
      localIp4s := addLocalIp4 v.lm.localIp4s localIp.ip4 } }

def Vpp.tunnelDel (v : Vpp) (index : Nat) : Vpp :=
  { v with lm := { v.lm with tunnels := v.lm.tunnels.put index } }

/-- The index written to `*tunnel_indexp`, if any, and the new state. -/
def l2tvppTunnelAddDel (P : Policies) (v : Vpp) (localIp peerIp : Ip46)
    (localPort peerPort localTid peerTid : U16) (isAdd : Bool) :
    Except VnetApiError (Option Nat × Vpp) :=
  if !localIp.isIp4 || !peerIp.isIp4 then .error .unimplemented
  else
    match l2tvppTunnelFind v.lm peerIp peerPort localTid, isAdd with
    | some _, true => .error .tunnelExist
    | none, true =>
        .ok (some (v.lm.tunnels.nextIndex P.tunnels),
          v.tunnelAdd P localIp peerIp localPort peerPort localTid peerTid)
    | none, false => .error .noSuchEntry
    | some (index, t), false =>
        if t.nSessions ≠ 0 then .error .instanceInUse
        else .ok (none, v.tunnelDel index)

/-! ## Sessions -/

def vnetDeleteHwInterface (v : Vpp) (hwIfIndex : Nat) : Vpp :=
  match v.hwInterfaces.elt? hwIfIndex with
  | none => v
  | some hi =>
      { v with
        hwInterfaces := v.hwInterfaces.put hwIfIndex
        swInterfaces := v.swInterfaces.put hi.swIfIndex }

/-- `l2tvpp_adj_remove_delegate` on every IPv4 and IPv6 adjacency of an
interface; the adjacencies themselves stay while someone holds a lock. -/
def removeDelegates (v : Vpp) (swIfIndex : Nat) : Vpp :=
  { v with adjacencies := v.adjacencies.map fun ai adj =>
      if ai.swIfIndex = swIfIndex ∧ (ai.proto = .ip4 ∨ ai.proto = .ip6) then
        { adj with delegate := none }
      else adj }

def Vpp.newSession (P : Policies) (v : Vpp) (tunnelIndex : Nat)
    (t : L2tvppTunnel) (localSid peerSid : U16) (acfc pfc : U8) :
    L2tvppSession :=
  { tunnelIndex := tunnelIndex
    localTid := t.localTid
    localSid := localSid
    peerSid := peerSid
    acfc := acfc
    pfc := pfc
    swIfIndex := v.swInterfaces.nextIndex P.swInterfaces
    hwIfIndex := v.hwInterfaces.nextIndex P.hwInterfaces
    encapIpCsum0 := 0 }

def Vpp.sessionAdd (P : Policies) (v : Vpp) (tunnelIndex : Nat)
    (t : L2tvppTunnel) (localSid peerSid : U16) (acfc pfc : U8) : Vpp :=
  let sess := v.newSession P tunnelIndex t localSid peerSid acfc pfc
  let index := v.lm.sessions.nextIndex P.sessions
  { v with
    lm := { v.lm with
      sessions := v.lm.sessions.get P.sessions sess
      sessionIndexBySwIfIndex :=
        (vecValidateInitEmpty v.lm.sessionIndexBySwIfIndex
          sess.swIfIndex).set sess.swIfIndex (some index)
      sessionByKey :=
        v.lm.sessionByKey.insert (l2tvppSessionKey t.localTid localSid) index
      tunnels := v.lm.tunnels.modify tunnelIndex fun t =>
        { t with nSessions := t.nSessions + 1 } }
    hwInterfaces := v.hwInterfaces.get P.hwInterfaces
      ⟨index, sess.swIfIndex, true⟩
    swInterfaces := v.swInterfaces.get P.swInterfaces ⟨true, true, true, true⟩ }

/-- The counter that goes down is the one of the tunnel named in the request. -/
def Vpp.sessionDel (v : Vpp) (tunnelIndex : Nat) (key : U64) (index : Nat)
    (sess : L2tvppSession) : Vpp :=
  let v := removeDelegates v sess.swIfIndex
  let v := vnetDeleteHwInterface v sess.hwIfIndex
  { v with lm := { v.lm with
      sessions := v.lm.sessions.put index
      sessionIndexBySwIfIndex :=
        v.lm.sessionIndexBySwIfIndex.set sess.swIfIndex none
      sessionByKey := v.lm.sessionByKey.erase key
      tunnels := v.lm.tunnels.modify tunnelIndex fun t =>
        { t with nSessions := t.nSessions - 1 } } }

def l2tvppSessionAddDel (P : Policies) (v : Vpp) (tunnelIndex : Nat)
    (localSid peerSid : U16) (acfc pfc : U8) (isAdd : Bool) :
    Except VnetApiError (Option Nat × Vpp) :=
  match v.lm.tunnels.elt? tunnelIndex with
  | none => .error .noSuchEntry
  | some t =>
      let key := l2tvppSessionKey t.localTid localSid
      match v.lm.sessionByKey.lookup key, isAdd with
      | some _, true => .error .entryAlreadyExists
      | none, true =>
          .ok (some (v.swInterfaces.nextIndex P.swInterfaces),
            v.sessionAdd P tunnelIndex t localSid peerSid acfc pfc)
      | none, false => .error .noSuchEntry
      | some index, false =>
          match v.lm.sessions.elt? index with
          -- a key of a freed slot; no reachable state has one
          | none => .error .noSuchEntry
          | some sess => .ok (none, v.sessionDel tunnelIndex key index sess)

/-! ## What an accepted call does -/

section Inversion

variable {P : Policies} {v v' : Vpp} {out : Option Nat}

theorem l2tvppTunnelFind_some {lm : L2tvppMain} {peerIp : Ip46}
    {peerPort localTid : U16} {index : Nat} {t : L2tvppTunnel}
    (h : l2tvppTunnelFind lm peerIp peerPort localTid = some (index, t)) :
    lm.tunnels.elt? index = some t ∧ t.localTid = localTid ∧
      t.peerPort = peerPort ∧ t.peerIp = peerIp := by
  obtain ⟨hlive, htest⟩ := lm.tunnels.find?_some h
  simp only [Bool.and_eq_true, beq_iff_eq] at htest
  exact ⟨hlive, htest.1.1, htest.1.2, htest.2⟩

theorem l2tvppTunnelFind_none {lm : L2tvppMain} {peerIp : Ip46}
    {peerPort localTid : U16}
    (h : l2tvppTunnelFind lm peerIp peerPort localTid = none)
    {index : Nat} {t : L2tvppTunnel} (hlive : lm.tunnels.elt? index = some t) :
    ¬ (t.localTid = localTid ∧ t.peerPort = peerPort ∧ t.peerIp = peerIp) := by
  have htest := lm.tunnels.find?_none h hlive
  rintro ⟨rfl, rfl, rfl⟩
  simp at htest

theorem l2tvppTunnelAddDel_ok {localIp peerIp : Ip46}
    {localPort peerPort localTid peerTid : U16} {isAdd : Bool}
    (h : l2tvppTunnelAddDel P v localIp peerIp localPort peerPort localTid
      peerTid isAdd = .ok (out, v')) :
    (isAdd = true ∧ localIp.isIp4 = true ∧ peerIp.isIp4 = true ∧
      l2tvppTunnelFind v.lm peerIp peerPort localTid = none ∧
      out = some (v.lm.tunnels.nextIndex P.tunnels) ∧
      v' = v.tunnelAdd P localIp peerIp localPort peerPort localTid peerTid) ∨
    (isAdd = false ∧ out = none ∧ ∃ index t,
      l2tvppTunnelFind v.lm peerIp peerPort localTid = some (index, t) ∧
      t.nSessions = 0 ∧ v' = v.tunnelDel index) := by
  unfold l2tvppTunnelAddDel at h
  split at h
  · contradiction
  · rename_i hip
    simp only [Bool.or_eq_true, Bool.not_eq_true', not_or,
      Bool.not_eq_false] at hip
    split at h
    · contradiction
    · rename_i hfind
      cases h
      exact .inl ⟨rfl, hip.1, hip.2, hfind, rfl, rfl⟩
    · contradiction
    · rename_i index t hfind
      split at h
      · contradiction
      · rename_i hzero
        cases h
        exact .inr ⟨rfl, rfl, index, t, hfind, not_not.mp hzero, rfl⟩

theorem l2tvppSessionAddDel_ok {tunnelIndex : Nat} {localSid peerSid : U16}
    {acfc pfc : U8} {isAdd : Bool}
    (h : l2tvppSessionAddDel P v tunnelIndex localSid peerSid acfc pfc isAdd =
      .ok (out, v')) :
    ∃ t, v.lm.tunnels.elt? tunnelIndex = some t ∧
      ((isAdd = true ∧
        v.lm.sessionByKey.lookup (l2tvppSessionKey t.localTid localSid) = none ∧
        out = some (v.swInterfaces.nextIndex P.swInterfaces) ∧
        v' = v.sessionAdd P tunnelIndex t localSid peerSid acfc pfc) ∨
      (isAdd = false ∧ out = none ∧ ∃ index sess,
        v.lm.sessionByKey.lookup (l2tvppSessionKey t.localTid localSid) =
          some index ∧
        v.lm.sessions.elt? index = some sess ∧
        v' = v.sessionDel tunnelIndex (l2tvppSessionKey t.localTid localSid)
          index sess)) := by
  unfold l2tvppSessionAddDel at h
  split at h
  · contradiction
  · rename_i t ht
    refine ⟨t, ht, ?_⟩
    dsimp only at h
    split at h
    · contradiction
    · rename_i hkey
      cases h
      exact .inl ⟨rfl, hkey, rfl, rfl⟩
    · contradiction
    · rename_i index hkey
      split at h
      · contradiction
      · rename_i sess hsess
        cases h
        exact .inr ⟨rfl, rfl, index, sess, hkey, hsess, rfl⟩

end Inversion

/-! ## The new states, field by field -/

section Fields

variable (P : Policies) (v : Vpp)

@[simp] theorem vnetDeleteHwInterface_lm (hwIfIndex : Nat) :
    (vnetDeleteHwInterface v hwIfIndex).lm = v.lm := by
  unfold vnetDeleteHwInterface
  split <;> rfl

@[simp] theorem vnetDeleteHwInterface_fib (hwIfIndex : Nat) :
    (vnetDeleteHwInterface v hwIfIndex).fib = v.fib := by
  unfold vnetDeleteHwInterface
  split <;> rfl

@[simp] theorem vnetDeleteHwInterface_adjacencies (hwIfIndex : Nat) :
    (vnetDeleteHwInterface v hwIfIndex).adjacencies = v.adjacencies := by
  unfold vnetDeleteHwInterface
  split <;> rfl

variable (tunnelIndex : Nat) (t : L2tvppTunnel) (localSid peerSid : U16)
  (acfc pfc : U8)

theorem sessionAdd_sessions (index : Nat) :
    (v.sessionAdd P tunnelIndex t localSid peerSid acfc pfc).lm.sessions.elt?
        index =
      if index = v.lm.sessions.nextIndex P.sessions then
        some (v.newSession P tunnelIndex t localSid peerSid acfc pfc)
      else v.lm.sessions.elt? index :=
  Pool.elt?_get P.sessions v.lm.sessions _ index

theorem sessionAdd_tunnels (index : Nat) :
    (v.sessionAdd P tunnelIndex t localSid peerSid acfc pfc).lm.tunnels.elt?
        index =
      if index = tunnelIndex then
        (v.lm.tunnels.elt? index).map fun t =>
          { t with nSessions := t.nSessions + 1 }
      else v.lm.tunnels.elt? index :=
  Pool.elt?_modify v.lm.tunnels tunnelIndex _ index

theorem sessionAdd_lookup (key : U64) :
    (v.sessionAdd P tunnelIndex t localSid peerSid acfc
        pfc).lm.sessionByKey.lookup key =
      if key = l2tvppSessionKey t.localTid localSid then
        some (v.lm.sessions.nextIndex P.sessions)
      else v.lm.sessionByKey.lookup key := by
  simp only [Vpp.sessionAdd]
  split
  · rename_i h
    rw [h, AList.lookup_insert]
  · rename_i h
    rw [AList.lookup_insert_ne h]

theorem sessionAdd_sessionIndexOf (swIfIndex : Nat) :
    (v.sessionAdd P tunnelIndex t localSid peerSid acfc
        pfc).lm.sessionIndexOf swIfIndex =
      if swIfIndex = v.swInterfaces.nextIndex P.swInterfaces then
        some (v.lm.sessions.nextIndex P.sessions)
      else v.lm.sessionIndexOf swIfIndex :=
  set_validated_join v.lm.sessionIndexBySwIfIndex _ swIfIndex _

variable (key : U64) (index : Nat) (sess : L2tvppSession)

theorem sessionDel_lm :
    (v.sessionDel tunnelIndex key index sess).lm =
      { v.lm with
        sessions := v.lm.sessions.put index
        sessionIndexBySwIfIndex :=
          v.lm.sessionIndexBySwIfIndex.set sess.swIfIndex none
        sessionByKey := v.lm.sessionByKey.erase key
        tunnels := v.lm.tunnels.modify tunnelIndex fun t =>
          { t with nSessions := t.nSessions - 1 } } := by
  simp [Vpp.sessionDel, removeDelegates]

theorem sessionDel_sessions (other : Nat) :
    (v.sessionDel tunnelIndex key index sess).lm.sessions.elt? other =
      if other = index then none else v.lm.sessions.elt? other := by
  rw [sessionDel_lm]
  exact Pool.elt?_put v.lm.sessions index other

theorem sessionDel_tunnels (other : Nat) :
    (v.sessionDel tunnelIndex key index sess).lm.tunnels.elt? other =
      if other = tunnelIndex then
        (v.lm.tunnels.elt? other).map fun t =>
          { t with nSessions := t.nSessions - 1 }
      else v.lm.tunnels.elt? other := by
  rw [sessionDel_lm]
  exact Pool.elt?_modify v.lm.tunnels tunnelIndex _ other

theorem sessionDel_lookup (other : U64) :
    (v.sessionDel tunnelIndex key index sess).lm.sessionByKey.lookup other =
      if other = key then none else v.lm.sessionByKey.lookup other := by
  rw [sessionDel_lm]
  split
  · rename_i h
    rw [h, AList.lookup_erase]
  · rename_i h
    rw [AList.lookup_erase_ne h]

theorem sessionDel_sessionIndexOf (swIfIndex : Nat) :
    (v.sessionDel tunnelIndex key index sess).lm.sessionIndexOf swIfIndex =
      if swIfIndex = sess.swIfIndex then none
      else v.lm.sessionIndexOf swIfIndex := by
  rw [sessionDel_lm]
  exact set_none_join v.lm.sessionIndexBySwIfIndex sess.swIfIndex swIfIndex

theorem sessionDel_hwInterfaces {hi : HwInterface}
    (h : v.hwInterfaces.elt? sess.hwIfIndex = some hi) (other : Nat) :
    (v.sessionDel tunnelIndex key index sess).hwInterfaces.elt? other =
      if other = sess.hwIfIndex then none else v.hwInterfaces.elt? other := by
  simp only [Vpp.sessionDel, vnetDeleteHwInterface, removeDelegates, h]
  exact Pool.elt?_put v.hwInterfaces sess.hwIfIndex other

theorem sessionDel_swInterfaces {hi : HwInterface}
    (h : v.hwInterfaces.elt? sess.hwIfIndex = some hi) (other : Nat) :
    (v.sessionDel tunnelIndex key index sess).swInterfaces.elt? other =
      if other = hi.swIfIndex then none else v.swInterfaces.elt? other := by
  simp only [Vpp.sessionDel, vnetDeleteHwInterface, removeDelegates, h]
  exact Pool.elt?_put v.swInterfaces hi.swIfIndex other

end Fields

end L2tvpp.Plugin
