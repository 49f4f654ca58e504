import Mathlib.Logic.Function.Basic
import L2tvpp.Plugin.Consistency

/-!
# The tables a client sees

Seen through its return values and dumps, the plugin is a table of tunnels by
index and a table of sessions by interface.  Slots are used again, and the pools,
the hash and the vector behind the tables are not visible.
-/

namespace L2tvpp.Plugin

open L2tvpp.Lib

/-! ## Requests and answers -/

/-- The fields of `l2tvpp_tunnel_details`. -/
structure TunnelRow where
  tunnelIndex : Nat
  localIp : Ip46
  peerIp : Ip46
  localPort : U16
  peerPort : U16
  localTid : U16
  peerTid : U16
  nSessions : U32
  deriving DecidableEq, Repr

/-- The fields of `l2tvpp_session_details` that do not count packets. -/
structure SessionRow where
  swIfIndex : Nat
  tunnelIndex : Nat
  localSid : U16
  peerSid : U16
  acfc : U8
  pfc : U8
  deriving DecidableEq, Repr

/-- A dump asks for one index or, with `~0`, for all. -/
inductive Request where
  | call (call : Call)
  | tunnelDump (ti : Option Nat)
  | sessionDump (swIfIndex : Option Nat)
  deriving DecidableEq, Repr

inductive Answer where
  | retval (result : Except VnetApiError (Option Nat))
  | tunnels (rows : List TunnelRow)
  | sessions (rows : List SessionRow)
  deriving DecidableEq, Repr

def L2tvppTunnel.row (t : L2tvppTunnel) (index : Nat) : TunnelRow where
  tunnelIndex := index
  localIp := t.localIp
  peerIp := t.peerIp
  localPort := t.localPort
  peerPort := t.peerPort
  localTid := t.localTid
  peerTid := t.peerTid
  nSessions := t.nSessions

def L2tvppSession.row (sess : L2tvppSession) : SessionRow where
  swIfIndex := sess.swIfIndex
  tunnelIndex := sess.tunnelIndex
  localSid := sess.localSid
  peerSid := sess.peerSid
  acfc := sess.acfc
  pfc := sess.pfc

def tunnelDump (lm : L2tvppMain) : Option Nat → List TunnelRow
  | none => lm.tunnels.toList.map fun entry => entry.2.row entry.1
  | some ti => ((lm.tunnels.elt? ti).map fun t => t.row ti).toList

def sessionDump (lm : L2tvppMain) (swIfIndex : Option Nat) : List SessionRow :=
  (lm.sessions.toList.filter fun entry =>
      swIfIndex == none || some entry.2.swIfIndex == swIfIndex).map fun entry =>
    entry.2.row

/-- Not a call of the plugin's own operations. -/
def Call.ofVpp : Call → Bool
  | tunnelAddDel .. | sessionAddDel .. | routeAddDel .. => false
  | _ => true

/-- What a call returns, and the index that it hands out. -/
def retval (P : Policies) (v : Vpp) : Call → Except VnetApiError (Option Nat)
  | .tunnelAddDel localIp peerIp localPort peerPort localTid peerTid isAdd =>
      (l2tvppTunnelAddDel P v localIp peerIp localPort peerPort localTid peerTid
        isAdd).map Prod.fst
  | .sessionAddDel tunnelIndex localSid peerSid acfc pfc isAdd =>
      (l2tvppSessionAddDel P v tunnelIndex localSid peerSid acfc pfc
        isAdd).map Prod.fst
  | .routeAddDel pfx swIfIndex isAdd =>
      (l2tvppRouteAddDel v pfx swIfIndex isAdd).map fun _ => none
  | _ => .ok none

def respond (P : Policies) (v : Vpp) : Request → Answer × Vpp
  | .call call => (.retval (retval P v call), step P v call)
  | .tunnelDump ti => (.tunnels (tunnelDump v.lm ti), v)
  | .sessionDump swIfIndex => (.sessions (sessionDump v.lm swIfIndex), v)

/-! ## The tables -/

/-- Tunnels by index and sessions by interface.  A session keeps the tunnel id
that it was added with. -/
structure Tables where
  tunnels : Nat → Option TunnelRow
  sessions : Nat → Option (U16 × SessionRow)

namespace Tables

def empty : Tables := ⟨fun _ => none, fun _ => none⟩

structure TunnelTo (t : Tables) (peerIp : Ip46) (peerPort localTid : U16)
    (row : TunnelRow) : Prop where
  found : t.tunnels row.tunnelIndex = some row
  localTid : row.localTid = localTid
  peerPort : row.peerPort = peerPort
  peerIp : row.peerIp = peerIp

structure SessionOf (t : Tables) (localTid localSid : U16) (row : SessionRow) :
    Prop where
  found : t.sessions row.swIfIndex = some (localTid, row)
  localSid : row.localSid = localSid

def setTunnel (t : Tables) (index : Nat) (row : Option TunnelRow) : Tables :=
  { t with tunnels := Function.update t.tunnels index row }

def setSession (t : Tables) (swIfIndex : Nat)
    (row : Option (U16 × SessionRow)) : Tables :=
  { t with sessions := Function.update t.sessions swIfIndex row }

/-- Which answers a client may get, and what they make of the tables.  Only the
indices handed out are the plugin's choice. -/
inductive Answers (t : Tables) : Request → Answer → Tables → Prop
  | notIp4 {localIp peerIp : Ip46}
      {localPort peerPort localTid peerTid : U16} {isAdd : Bool}
      (hip : ¬ (localIp.isIp4 = true ∧ peerIp.isIp4 = true)) :
      Answers t (.call (.tunnelAddDel localIp peerIp localPort peerPort
        localTid peerTid isAdd)) (.retval (.error .unimplemented)) t
  | tunnelExist {localIp peerIp : Ip46}
      {localPort peerPort localTid peerTid : U16} {row : TunnelRow}
      (hlocal : localIp.isIp4 = true) (hpeer : peerIp.isIp4 = true)
      (hrow : t.TunnelTo peerIp peerPort localTid row) :
      Answers t (.call (.tunnelAddDel localIp peerIp localPort peerPort
        localTid peerTid true)) (.retval (.error .tunnelExist)) t
  | tunnelAdd {localIp peerIp : Ip46}
      {localPort peerPort localTid peerTid : U16} {index : Nat}
      (hlocal : localIp.isIp4 = true) (hpeer : peerIp.isIp4 = true)
      (hnew : ∀ row, ¬ t.TunnelTo peerIp peerPort localTid row)
      (hfree : t.tunnels index = none) :
      Answers t (.call (.tunnelAddDel localIp peerIp localPort peerPort
        localTid peerTid true)) (.retval (.ok (some index)))
        (t.setTunnel index (some ⟨index, localIp, peerIp, localPort, peerPort,
          localTid, peerTid, 0⟩))
  | noTunnel {localIp peerIp : Ip46}
      {localPort peerPort localTid peerTid : U16}
      (hlocal : localIp.isIp4 = true) (hpeer : peerIp.isIp4 = true)
      (hnone : ∀ row, ¬ t.TunnelTo peerIp peerPort localTid row) :
      Answers t (.call (.tunnelAddDel localIp peerIp localPort peerPort
        localTid peerTid false)) (.retval (.error .noSuchEntry)) t
  | inUse {localIp peerIp : Ip46}
      {localPort peerPort localTid peerTid : U16} {row : TunnelRow}
      (hlocal : localIp.isIp4 = true) (hpeer : peerIp.isIp4 = true)
      (hrow : t.TunnelTo peerIp peerPort localTid row)
      (huse : row.nSessions ≠ 0) :
      Answers t (.call (.tunnelAddDel localIp peerIp localPort peerPort
        localTid peerTid false)) (.retval (.error .instanceInUse)) t
  | tunnelDel {localIp peerIp : Ip46}
      {localPort peerPort localTid peerTid : U16} {row : TunnelRow}
      (hlocal : localIp.isIp4 = true) (hpeer : peerIp.isIp4 = true)
      (hrow : t.TunnelTo peerIp peerPort localTid row)
      (hzero : row.nSessions = 0) :
      Answers t (.call (.tunnelAddDel localIp peerIp localPort peerPort
        localTid peerTid false)) (.retval (.ok none))
        (t.setTunnel row.tunnelIndex none)
  | sessionNoTunnel {tunnelIndex : Nat} {localSid peerSid : U16}
      {acfc pfc : U8} {isAdd : Bool} (hnone : t.tunnels tunnelIndex = none) :
      Answers t (.call (.sessionAddDel tunnelIndex localSid peerSid acfc pfc
        isAdd)) (.retval (.error .noSuchEntry)) t
  | sessionExists {tunnelIndex : Nat} {localSid peerSid : U16}
      {acfc pfc : U8} {tunnel : TunnelRow} {row : SessionRow}
      (htunnel : t.tunnels tunnelIndex = some tunnel)
      (hrow : t.SessionOf tunnel.localTid localSid row) :
      Answers t (.call (.sessionAddDel tunnelIndex localSid peerSid acfc pfc
        true)) (.retval (.error .entryAlreadyExists)) t
  | sessionAdd {tunnelIndex : Nat} {localSid peerSid : U16} {acfc pfc : U8}
      {tunnel : TunnelRow} {swIfIndex : Nat}
      (htunnel : t.tunnels tunnelIndex = some tunnel)
      (hnew : ∀ row, ¬ t.SessionOf tunnel.localTid localSid row)
      (hfree : t.sessions swIfIndex = none) :
      Answers t (.call (.sessionAddDel tunnelIndex localSid peerSid acfc pfc
        true)) (.retval (.ok (some swIfIndex)))
        ((t.setSession swIfIndex (some (tunnel.localTid,
          ⟨swIfIndex, tunnelIndex, localSid, peerSid, acfc, pfc⟩))).setTunnel
            tunnelIndex
            (some { tunnel with nSessions := tunnel.nSessions + 1 }))
  | noSession {tunnelIndex : Nat} {localSid peerSid : U16} {acfc pfc : U8}
      {tunnel : TunnelRow} (htunnel : t.tunnels tunnelIndex = some tunnel)
      (hnone : ∀ row, ¬ t.SessionOf tunnel.localTid localSid row) :
      Answers t (.call (.sessionAddDel tunnelIndex localSid peerSid acfc pfc
        false)) (.retval (.error .noSuchEntry)) t
  /-- The count that goes down is that of the tunnel in the request. -/
  | sessionDel {tunnelIndex : Nat} {localSid peerSid : U16} {acfc pfc : U8}
      {tunnel : TunnelRow} {row : SessionRow}
      (htunnel : t.tunnels tunnelIndex = some tunnel)
      (hrow : t.SessionOf tunnel.localTid localSid row) :
      Answers t (.call (.sessionAddDel tunnelIndex localSid peerSid acfc pfc
        false)) (.retval (.ok none))
        ((t.setSession row.swIfIndex none).setTunnel tunnelIndex
          (some { tunnel with nSessions := tunnel.nSessions - 1 }))
  | routeNoSession {pfx : FibPrefix} {swIfIndex : Nat} {isAdd : Bool}
      (hnone : t.sessions swIfIndex = none) :
      Answers t (.call (.routeAddDel pfx swIfIndex isAdd))
        (.retval (.error .invalidSwIfIndex)) t
  | route {pfx : FibPrefix} {swIfIndex : Nat} {isAdd : Bool}
      {row : U16 × SessionRow} (hrow : t.sessions swIfIndex = some row) :
      Answers t (.call (.routeAddDel pfx swIfIndex isAdd)) (.retval (.ok none)) t
  | other {call : Call} (hother : call.ofVpp = true) :
      Answers t (.call call) (.retval (.ok none)) t
  | tunnelDump {ti : Option Nat} {rows : List TunnelRow}
      (hsorted : rows.Pairwise fun row row' => row.tunnelIndex < row'.tunnelIndex)
      (hrows : ∀ row, row ∈ rows ↔ t.tunnels row.tunnelIndex = some row ∧
        (ti = none ∨ ti = some row.tunnelIndex)) :
      Answers t (.tunnelDump ti) (.tunnels rows) t
  | sessionDump {swIfIndex : Option Nat} {rows : List SessionRow}
      (hnodup : rows.Nodup)
      (hrows : ∀ row, row ∈ rows ↔
        (∃ localTid, t.sessions row.swIfIndex = some (localTid, row)) ∧
        (swIfIndex = none ∨ swIfIndex = some row.swIfIndex)) :
      Answers t (.sessionDump swIfIndex) (.sessions rows) t

end Tables

/-! ## The tables behind the pools -/

def Vpp.tables (v : Vpp) : Tables where
  tunnels index := (v.lm.tunnels.elt? index).map fun t => t.row index
  sessions swIfIndex := (v.lm.sessionIndexOf swIfIndex).bind fun index =>
    (v.lm.sessions.elt? index).map fun sess => (sess.localTid, sess.row)

section Reading

variable {v : Vpp}

theorem tables_tunnels_eq_some {index : Nat} {row : TunnelRow} :
    v.tables.tunnels index = some row ↔
      ∃ t, v.lm.tunnels.elt? index = some t ∧ t.row index = row :=
  Option.map_eq_some_iff

theorem tunnelTo_of_find {peerIp : Ip46} {peerPort localTid : U16} {index : Nat}
    {t : L2tvppTunnel}
    (h : l2tvppTunnelFind v.lm peerIp peerPort localTid = some (index, t)) :
    v.tables.TunnelTo peerIp peerPort localTid (t.row index) := by
  obtain ⟨hlive, htid, hport, hip⟩ := l2tvppTunnelFind_some h
  exact ⟨tables_tunnels_eq_some.mpr ⟨t, hlive, rfl⟩, htid, hport, hip⟩

theorem not_tunnelTo {peerIp : Ip46} {peerPort localTid : U16}
    (h : l2tvppTunnelFind v.lm peerIp peerPort localTid = none)
    (row : TunnelRow) : ¬ v.tables.TunnelTo peerIp peerPort localTid row := by
  intro hrow
  obtain ⟨t, ht, heq⟩ := tables_tunnels_eq_some.mp hrow.found
  have htid := hrow.localTid
  have hport := hrow.peerPort
  have hip := hrow.peerIp
  rw [← heq] at htid hport hip
  exact l2tvppTunnelFind_none h ht ⟨htid, hport, hip⟩

theorem tables_sessions_eq_none {swIfIndex : Nat}
    (h : v.lm.sessionIndexOf swIfIndex = none) :
    v.tables.sessions swIfIndex = none := by
  simp only [Vpp.tables, h, Option.bind_none]

variable (hinv : StoreInv v)

include hinv

theorem tables_sessions_eq_some {swIfIndex : Nat} {localTid : U16}
    {row : SessionRow} :
    v.tables.sessions swIfIndex = some (localTid, row) ↔
      ∃ index sess, v.lm.sessions.elt? index = some sess ∧
        sess.swIfIndex = swIfIndex ∧ sess.localTid = localTid ∧
        sess.row = row := by
  simp only [Vpp.tables, Option.bind_eq_some_iff, Option.map_eq_some_iff,
    Prod.mk.injEq, hinv.bySwIfIndex.some_iff]
  constructor
  · rintro ⟨index, ⟨sess, hsess, hsw⟩, sess', hsess', htid, hrow⟩
    rw [hsess] at hsess'
    cases hsess'
    exact ⟨index, sess, hsess, hsw, htid, hrow⟩
  · rintro ⟨index, sess, hsess, hsw, htid, hrow⟩
    exact ⟨index, ⟨sess, hsess, hsw⟩, sess, hsess, htid, hrow⟩

theorem sessionOf_of_lookup {localTid localSid : U16} {index : Nat}
    {sess : L2tvppSession}
    (hkey : v.lm.sessionByKey.lookup (l2tvppSessionKey localTid localSid) =
      some index)
    (hsess : v.lm.sessions.elt? index = some sess) :
    v.tables.SessionOf localTid localSid sess.row := by
  obtain ⟨sess', hsess', hids⟩ := hinv.byKey.some_iff.mp hkey
  rw [hsess] at hsess'
  cases hsess'
  obtain ⟨htid, hsid⟩ := l2tvppSessionKey_inj.mp hids
  exact ⟨(tables_sessions_eq_some hinv).mpr
    ⟨index, sess, hsess, rfl, htid, rfl⟩, hsid⟩

theorem not_sessionOf {localTid localSid : U16}
    (hkey : v.lm.sessionByKey.lookup (l2tvppSessionKey localTid localSid) =
      none) (row : SessionRow) :
    ¬ v.tables.SessionOf localTid localSid row := by
  intro hrow
  obtain ⟨index, sess, hsess, -, htid, heq⟩ :=
    (tables_sessions_eq_some hinv).mp hrow.found
  have hsid := hrow.localSid
  rw [← heq] at hsid
  have hfind := hinv.byKey.find hsess
  rw [L2tvppSession.key, htid, show sess.localSid = localSid from hsid, hkey]
    at hfind
  contradiction

end Reading

/-! ## What the operations make of the tables -/

section Writing

variable {P : Policies} {v v' : Vpp}

theorem tables_of_lm (h : v'.lm = v.lm) : v'.tables = v.tables := by
  simp only [Vpp.tables, h]

theorem tables_sameStore (h : SameStore v v') : v'.tables = v.tables := by
  have hsessions : ∀ index,
      (v'.lm.sessions.elt? index).map (fun sess => (sess.localTid, sess.row)) =
        (v.lm.sessions.elt? index).map fun sess =>
          (sess.localTid, sess.row) := by
    intro index
    have hmap := congrArg
      (Option.map fun sess : L2tvppSession => (sess.localTid, sess.row))
      (h.sessions index)
    rw [Option.map_map, Option.map_map] at hmap
    exact hmap
  simp only [Vpp.tables, h.tunnels, funext h.sessionIndexOf, hsessions]

theorem tables_tunnelAdd (localIp peerIp : Ip46)
    (localPort peerPort localTid peerTid : U16) :
    (v.tunnelAdd P localIp peerIp localPort peerPort localTid peerTid).tables =
      v.tables.setTunnel (v.lm.tunnels.nextIndex P.tunnels)
        (some ⟨v.lm.tunnels.nextIndex P.tunnels, localIp, peerIp, localPort,
          peerPort, localTid, peerTid, 0⟩) := by
  have htunnels : (v.tunnelAdd P localIp peerIp localPort peerPort localTid
        peerTid).tables.tunnels =
      Function.update v.tables.tunnels (v.lm.tunnels.nextIndex P.tunnels)
        (some ⟨v.lm.tunnels.nextIndex P.tunnels, localIp, peerIp, localPort,
          peerPort, localTid, peerTid, 0⟩) := by
    funext index
    rw [Function.update_apply]
    simp only [Vpp.tables, Vpp.tunnelAdd, Pool.elt?_get]
    split
    · rename_i h
      rw [h]
      rfl
    · rfl
  exact congrArg₂ Tables.mk htunnels rfl

theorem tables_tunnelDel (index : Nat) :
    (v.tunnelDel index).tables = v.tables.setTunnel index none := by
  have htunnels : (v.tunnelDel index).tables.tunnels =
      Function.update v.tables.tunnels index none := by
    funext other
    rw [Function.update_apply]
    simp only [Vpp.tables, Vpp.tunnelDel, Pool.elt?_put]
    split <;> rfl
  exact congrArg₂ Tables.mk htunnels rfl

theorem tables_tunnels_modify {tunnels : Pool L2tvppTunnel} {tunnelIndex : Nat}
    {t : L2tvppTunnel} (f : L2tvppTunnel → L2tvppTunnel)
    (ht : tunnels.elt? tunnelIndex = some t) :
    (fun index => ((tunnels.modify tunnelIndex f).elt? index).map
        fun t => t.row index) =
      Function.update (fun index => (tunnels.elt? index).map
        fun t => t.row index) tunnelIndex (some ((f t).row tunnelIndex)) := by
  funext index
  rw [Function.update_apply, Pool.elt?_modify]
  split
  · rename_i h
    rw [h, ht]
    rfl
  · rfl

variable (hinv : StoreInv v)

include hinv

theorem tables_sessionAdd {tunnelIndex : Nat} {t : L2tvppTunnel}
    {localSid peerSid : U16} {acfc pfc : U8}
    (ht : v.lm.tunnels.elt? tunnelIndex = some t) :
    (v.sessionAdd P tunnelIndex t localSid peerSid acfc pfc).tables =
      (v.tables.setSession (v.swInterfaces.nextIndex P.swInterfaces)
        (some (t.localTid, ⟨v.swInterfaces.nextIndex P.swInterfaces,
          tunnelIndex, localSid, peerSid, acfc, pfc⟩))).setTunnel tunnelIndex
        (some { t.row tunnelIndex with nSessions := t.nSessions + 1 }) := by
  rw [Tables.setTunnel, Tables.setSession]
  have htunnels := tables_tunnels_modify
    (fun t => { t with nSessions := t.nSessions + 1 }) ht
  have hsessions : (v.sessionAdd P tunnelIndex t localSid peerSid acfc
        pfc).tables.sessions =
      Function.update v.tables.sessions
        (v.swInterfaces.nextIndex P.swInterfaces)
        (some (t.localTid, ⟨v.swInterfaces.nextIndex P.swInterfaces,
          tunnelIndex, localSid, peerSid, acfc, pfc⟩)) := by
    funext swIfIndex
    rw [Function.update_apply]
    simp only [Vpp.tables, sessionAdd_sessionIndexOf]
    split
    · rw [Option.bind_some, sessionAdd_sessions, if_pos rfl]
      rfl
    · cases hold : v.lm.sessionIndexOf swIfIndex with
      | none => rfl
      | some index =>
          obtain ⟨sess, hsess, -⟩ := hinv.bySwIfIndex.some_iff.mp hold
          rw [Option.bind_some, Option.bind_some, hsess, sessionAdd_sessions,
            if_neg, hsess]
          rintro rfl
          simp at hsess
  exact congrArg₂ Tables.mk htunnels hsessions

theorem tables_sessionDel {tunnelIndex index : Nat} {t : L2tvppTunnel}
    {sess : L2tvppSession} {key : U64}
    (ht : v.lm.tunnels.elt? tunnelIndex = some t)
    (hsess : v.lm.sessions.elt? index = some sess) :
    (v.sessionDel tunnelIndex key index sess).tables =
      (v.tables.setSession sess.swIfIndex none).setTunnel tunnelIndex
        (some { t.row tunnelIndex with nSessions := t.nSessions - 1 }) := by
  rw [Tables.setTunnel, Tables.setSession]
  have htunnels : (v.sessionDel tunnelIndex key index sess).tables.tunnels =
      Function.update v.tables.tunnels tunnelIndex
        (some { t.row tunnelIndex with nSessions := t.nSessions - 1 }) := by
    have hmodify := tables_tunnels_modify
      (fun t => { t with nSessions := t.nSessions - 1 }) ht
    simp only [Vpp.tables, sessionDel_lm]
    exact hmodify
  have hsessions : (v.sessionDel tunnelIndex key index sess).tables.sessions =
      Function.update v.tables.sessions sess.swIfIndex none := by
    funext swIfIndex
    rw [Function.update_apply]
    simp only [Vpp.tables, sessionDel_sessionIndexOf]
    split
    · rfl
    · rename_i hne
      cases hold : v.lm.sessionIndexOf swIfIndex with
      | none => rfl
      | some other =>
          obtain ⟨sess', hsess', hsw⟩ := hinv.bySwIfIndex.some_iff.mp hold
          rw [Option.bind_some, Option.bind_some, sessionDel_sessions, if_neg]
          rintro rfl
          rw [hsess] at hsess'
          cases hsess'
          exact hne hsw.symm
  exact congrArg₂ Tables.mk htunnels hsessions

end Writing

/-! ## Every answer is allowed -/

section Allowed

variable {P : Policies} {v : Vpp}

theorem answers_tunnelAddDel (localIp peerIp : Ip46)
    (localPort peerPort localTid peerTid : U16) (isAdd : Bool) :
    let call := Call.tunnelAddDel localIp peerIp localPort peerPort localTid
      peerTid isAdd
    v.tables.Answers (.call call) (.retval (retval P v call))
      (step P v call).tables := by
  intro call
  simp only [call, retval, step, l2tvppTunnelAddDel]
  by_cases hip : (!localIp.isIp4 || !peerIp.isIp4) = true
  · rw [if_pos hip]
    apply Tables.Answers.notIp4
    rintro ⟨hlocal, hpeer⟩
    simp [hlocal, hpeer] at hip
  · rw [if_neg hip]
    simp only [Bool.or_eq_true, Bool.not_eq_true', not_or,
      Bool.not_eq_false] at hip
    obtain ⟨hlocal, hpeer⟩ := hip
    cases hfind : l2tvppTunnelFind v.lm peerIp peerPort localTid with
    | none =>
        cases isAdd with
        | true =>
            simp only [tables_tunnelAdd]
            apply Tables.Answers.tunnelAdd hlocal hpeer (not_tunnelTo hfind)
            simp [Vpp.tables]
        | false => exact .noTunnel hlocal hpeer (not_tunnelTo hfind)
    | some entry =>
        obtain ⟨index, t⟩ := entry
        have hrow := tunnelTo_of_find hfind
        cases isAdd with
        | true => exact .tunnelExist hlocal hpeer hrow
        | false =>
            dsimp only
            split
            · rename_i huse
              exact .inUse hlocal hpeer hrow huse
            · rename_i hzero
              simp only [tables_tunnelDel]
              exact .tunnelDel hlocal hpeer hrow (not_not.mp hzero)

variable (hinv : StoreInv v)

include hinv

theorem answers_sessionAddDel (tunnelIndex : Nat) (localSid peerSid : U16)
    (acfc pfc : U8) (isAdd : Bool) :
    let call := Call.sessionAddDel tunnelIndex localSid peerSid acfc pfc isAdd
    v.tables.Answers (.call call) (.retval (retval P v call))
      (step P v call).tables := by
  intro call
  simp only [call, retval, step, l2tvppSessionAddDel]
  cases ht : v.lm.tunnels.elt? tunnelIndex with
  | none =>
      apply Tables.Answers.sessionNoTunnel
      simp [Vpp.tables, ht]
  | some t =>
      have htunnel : v.tables.tunnels tunnelIndex = some (t.row tunnelIndex) :=
        tables_tunnels_eq_some.mpr ⟨t, ht, rfl⟩
      dsimp only
      cases hkey : v.lm.sessionByKey.lookup
          (l2tvppSessionKey t.localTid localSid) with
      | none =>
          have hnone := not_sessionOf hinv hkey
          cases isAdd with
          | true =>
              simp only [tables_sessionAdd hinv ht]
              refine .sessionAdd htunnel hnone (tables_sessions_eq_none ?_)
              rw [Option.eq_none_iff_forall_ne_some]
              intro index hindex
              obtain ⟨sess, hsess, hsw⟩ := hinv.bySwIfIndex.some_iff.mp hindex
              exact hinv.nextIndex_fresh hsess hsw
          | false => exact .noSession htunnel hnone
      | some index =>
          cases hsess : v.lm.sessions.elt? index with
          | none => exact (hinv.not_freed _ index hkey hsess).elim
          | some sess =>
              have hrow := sessionOf_of_lookup hinv hkey hsess
              cases isAdd with
              | true => exact .sessionExists htunnel hrow
              | false =>
                  simp only [hsess, tables_sessionDel hinv ht hsess]
                  exact .sessionDel htunnel hrow

theorem answers_routeAddDel (pfx : FibPrefix) (swIfIndex : Nat) (isAdd : Bool) :
    let call := Call.routeAddDel pfx swIfIndex isAdd
    v.tables.Answers (.call call) (.retval (retval P v call))
      (step P v call).tables := by
  intro call
  simp only [call, retval, step]
  cases hindex : v.lm.sessionIndexOf swIfIndex with
  | none =>
      simp only [l2tvppRouteAddDel, hindex]
      exact .routeNoSession (tables_sessions_eq_none hindex)
  | some index =>
      obtain ⟨sess, hsess, hsw⟩ := hinv.bySwIfIndex.some_iff.mp hindex
      have hrow := (tables_sessions_eq_some hinv).mpr
        ⟨index, sess, hsess, hsw, rfl, rfl⟩
      cases hresult : l2tvppRouteAddDel v pfx swIfIndex isAdd with
      | error e => simp [l2tvppRouteAddDel, hindex] at hresult
      | ok v' =>
          dsimp only
          rw [tables_sameStore (sameStore_l2tvppRouteAddDel hresult)]
          exact .route hrow

omit hinv in
theorem answers_other {call : Call} (hother : call.ofVpp = true) :
    v.tables.Answers (.call call) (.retval (retval P v call))
      (step P v call).tables := by
  have hretval : retval P v call = .ok none := by
    cases call with
    | tunnelAddDel => cases hother
    | sessionAddDel => cases hother
    | routeAddDel => cases hother
    | _ => rfl
  have htables : (step P v call).tables = v.tables := by
    have hstep := storeStep_step P v call
    generalize step P v call = v' at hstep ⊢
    cases hstep with
    | same h => exact tables_sameStore h
    | tunnelAdd => cases hother
    | tunnelDel => cases hother
    | sessionAdd => cases hother
    | sessionDel => cases hother
    | interfaceAdd => rfl
    | interfaceDel => exact tables_of_lm (vnetDeleteHwInterface_lm v _)
  rw [hretval, htables]
  exact .other hother

omit hinv in
theorem answers_tunnelDump (ti : Option Nat) :
    v.tables.Answers (.tunnelDump ti) (.tunnels (tunnelDump v.lm ti))
      v.tables := by
  cases ti with
  | none =>
      apply Tables.Answers.tunnelDump
      · exact List.pairwise_map.mpr v.lm.tunnels.toList_sorted
      · intro row
        simp only [tunnelDump, List.mem_map, Prod.exists, Pool.mem_toList,
          true_or, and_true, tables_tunnels_eq_some]
        constructor
        · rintro ⟨index, t, ht, rfl⟩
          exact ⟨t, ht, rfl⟩
        · rintro ⟨t, ht, hrow⟩
          exact ⟨row.tunnelIndex, t, ht, hrow⟩
  | some ti =>
      apply Tables.Answers.tunnelDump
      · cases ht : v.lm.tunnels.elt? ti <;> simp [tunnelDump, ht]
      · intro row
        simp only [tunnelDump, Option.mem_toList, Option.map_eq_some_iff,
          tables_tunnels_eq_some, reduceCtorEq, false_or, Option.some.injEq]
        constructor
        · rintro ⟨t, ht, rfl⟩
          exact ⟨⟨t, ht, rfl⟩, rfl⟩
        · rintro ⟨⟨t, ht, hrow⟩, rfl⟩
          exact ⟨t, ht, hrow⟩

theorem answers_sessionDump (swIfIndex : Option Nat) :
    v.tables.Answers (.sessionDump swIfIndex)
      (.sessions (sessionDump v.lm swIfIndex)) v.tables := by
  apply Tables.Answers.sessionDump
  · have hsorted := v.lm.sessions.toList_sorted.filter fun entry =>
      swIfIndex == none || some entry.2.swIfIndex == swIfIndex
    rw [sessionDump, List.Nodup, List.pairwise_map]
    refine hsorted.imp_of_mem ?_
    rintro ⟨i, sess⟩ ⟨j, sess'⟩ hi hj hlt hrow
    have hsess := (Pool.mem_toList _).mp (List.mem_filter.mp hi).1
    have hsess' := (Pool.mem_toList _).mp (List.mem_filter.mp hj).1
    have hsw : sess.swIfIndex = sess'.swIfIndex :=
      congrArg SessionRow.swIfIndex hrow
    exact Nat.ne_of_lt hlt (hinv.bySwIfIndex.index_eq hsess hsess' hsw)
  · intro row
    simp only [sessionDump, List.mem_map, List.mem_filter, Prod.exists,
      Pool.mem_toList, Bool.or_eq_true, beq_iff_eq,
      tables_sessions_eq_some hinv]
    constructor
    · rintro ⟨index, sess, ⟨hsess, hasked⟩, rfl⟩
      exact ⟨⟨sess.localTid, index, sess, hsess, rfl, rfl, rfl⟩,
        hasked.imp id Eq.symm⟩
    · rintro ⟨⟨localTid, index, sess, hsess, -, -, rfl⟩, hasked⟩
      exact ⟨index, sess, ⟨hsess, hasked.imp id Eq.symm⟩, rfl⟩

theorem answers_respond (request : Request) :
    v.tables.Answers request (respond P v request).1
      (respond P v request).2.tables := by
  cases request with
  | tunnelDump ti => exact answers_tunnelDump ti
  | sessionDump swIfIndex => exact answers_sessionDump hinv swIfIndex
  | call c =>
      cases c with
      | tunnelAddDel localIp peerIp localPort peerPort localTid peerTid isAdd =>
          exact answers_tunnelAddDel ..
      | sessionAddDel tunnelIndex localSid peerSid acfc pfc isAdd =>
          exact answers_sessionAddDel hinv ..
      | routeAddDel pfx swIfIndex isAdd => exact answers_routeAddDel hinv ..
      | adjAdd ai => exact answers_other rfl
      | adjUpdate ai => exact answers_other rfl
      | adjRelease ai => exact answers_other rfl
      | interfaceAdd => exact answers_other rfl
      | interfaceDel hwIfIndex => exact answers_other rfl
      | innerChecksum noChecksum => exact answers_other rfl

end Allowed

theorem follows_runAnswered (P : Policies) (hwInterfaces : Pool HwInterface)
    (swInterfaces : Pool SwInterface) (requests : List Request) :
    let run := runAnswered (respond P) (Vpp.initial hwInterfaces swInterfaces)
      requests
    StoreInv run.2 ∧
      Explains Tables.Answers Tables.empty run.1 run.2.tables := by
  have hinit : (Vpp.initial hwInterfaces swInterfaces).tables =
      Tables.empty := by
    simp [Vpp.tables, Vpp.initial, L2tvppMain.init, Tables.empty,
      L2tvppMain.sessionIndexOf]
  rw [← hinit]
  refine explains_runAnswered (respond P) Vpp.tables StoreInv ?_ requests
    (StoreInv.initial hwInterfaces swInterfaces)
  intro v request hinv
  refine ⟨?_, answers_respond hinv request⟩
  cases request with
  | call c => exact hinv.storeStep (storeStep_step P v c)
  | tunnelDump ti => exact hinv
  | sessionDump swIfIndex => exact hinv

/-- In every run, of calls by any clients with routes, adjacencies and foreign
interfaces in between, what the plugin returns and dumps is what the two tables
give: which calls are refused and why, that an index handed out was free, and
that a dump shows each tunnel and each session once, as it was asked for. -/
theorem tables_explain (P : Policies) (hwInterfaces : Pool HwInterface)
    (swInterfaces : Pool SwInterface) (requests : List Request) :
    let run := runAnswered (respond P) (Vpp.initial hwInterfaces swInterfaces)
      requests
    Explains Tables.Answers Tables.empty run.1 run.2.tables :=
  (follows_runAnswered P hwInterfaces swInterfaces requests).2

/-! ## A session stays as it was added -/

def Answer.accepted : Answer → Bool
  | retval (.ok _) => true
  | retval (.error _) => false
  | tunnels _ => true
  | sessions _ => true

/-- The id of the session that is to be deleted. -/
def Request.deletedSid? : Request → Option U16
  | call (.sessionAddDel _ localSid _ _ _ isAdd) =>
      if isAdd then none else some localSid
  | _ => none

/-- An accepted delete of a session with the session id. -/
def deletesSession (localSid : U16) (entry : Request × Answer) : Bool :=
  entry.1.deletedSid? == some localSid && entry.2.accepted

theorem Tables.Answers.session_kept {t t' : Tables} {request : Request}
    {answer : Answer} (h : t.Answers request answer t') {swIfIndex : Nat}
    {localTid : U16} {row : SessionRow}
    (hrow : t.sessions swIfIndex = some (localTid, row))
    (hkept : deletesSession row.localSid (request, answer) = false) :
    t'.sessions swIfIndex = some (localTid, row) := by
  cases h with
  | sessionAdd htunnel hnew hfree =>
      change Function.update t.sessions _ _ swIfIndex = _
      rw [Function.update_of_ne, hrow]
      rintro rfl
      rw [hrow] at hfree
      contradiction
  | sessionDel htunnel hdeleted =>
      change Function.update t.sessions _ _ swIfIndex = _
      rw [Function.update_of_ne, hrow]
      intro heq
      have hfound := hdeleted.found
      rw [← heq, hrow] at hfound
      cases hfound
      simp [deletesSession, Request.deletedSid?, Answer.accepted,
        hdeleted.localSid] at hkept
  | _ => exact hrow

theorem sessionDump_eq_singleton {v : Vpp} (hinv : StoreInv v) {swIfIndex : Nat}
    {localTid : U16} {row : SessionRow}
    (hrow : v.tables.sessions swIfIndex = some (localTid, row))
    (hsw : row.swIfIndex = swIfIndex) :
    sessionDump v.lm (some swIfIndex) = [row] := by
  have hdump := answers_sessionDump hinv (some swIfIndex)
  cases hdump with
  | sessionDump hnodup hrows =>
      apply List.perm_singleton.mp
      apply (List.perm_ext_iff_of_nodup hnodup (List.nodup_singleton row)).mpr
      intro other
      rw [hrows, List.mem_singleton]
      constructor
      · rintro ⟨⟨otherTid, hother⟩, hasked⟩
        have heq : other.swIfIndex = swIfIndex := by
          simpa [eq_comm] using hasked
        rw [heq, hrow] at hother
        cases hother
        rfl
      · rintro rfl
        rw [hsw]
        exact ⟨⟨localTid, hrow⟩, .inr rfl⟩

/-- From the call that added it to its deletion, a session keeps its interface,
which no other session gets, and a dump shows it as it was asked for. -/
theorem sessionDump_kept (P : Policies) (hwInterfaces : Pool HwInterface)
    (swInterfaces : Pool SwInterface) {requests : List Request}
    {before after : List (Request × Answer)} {tunnelIndex swIfIndex : Nat}
    {localSid peerSid : U16} {acfc pfc : U8}
    (htrace : (runAnswered (respond P)
        (Vpp.initial hwInterfaces swInterfaces) requests).1 =
      before ++ (.call (.sessionAddDel tunnelIndex localSid peerSid acfc pfc
        true), .retval (.ok (some swIfIndex))) :: after)
    (hkept : ∀ entry ∈ after, deletesSession localSid entry = false) :
    sessionDump (runAnswered (respond P)
        (Vpp.initial hwInterfaces swInterfaces) requests).2.lm
        (some swIfIndex) =
      [⟨swIfIndex, tunnelIndex, localSid, peerSid, acfc, pfc⟩] := by
  obtain ⟨hinv, hexplains⟩ :=
    follows_runAnswered P hwInterfaces swInterfaces requests
  rw [htrace] at hexplains
  obtain ⟨t, -, hrest⟩ := hexplains.append
  cases hrest with
  | cons hadd hafter =>
      cases hadd with
      | sessionAdd htunnel hnew hfree =>
          rename_i tunnel
          let row : SessionRow :=
            ⟨swIfIndex, tunnelIndex, localSid, peerSid, acfc, pfc⟩
          have hrow := hafter.invariant
            (fun t => t.sessions swIfIndex = some (tunnel.localTid, row))
            (fun t t' entry hentry hallows hrow =>
              hallows.session_kept hrow (hkept entry hentry))
            (Function.update_self ..)
          exact sessionDump_eq_singleton hinv hrow rfl

/-- Two sessions, one of them deleted again, and a foreign interface. -/
def twoSessionRequests : List Request :=
  [.call (.tunnelAddDel (Ip46.ofIp4 0x0a000001) (Ip46.ofIp4 0x0a000002) 1701
      1701 100 200 true),
    .call (.sessionAddDel 0 9 10 0 0 true),
    .call (.sessionAddDel 0 7 8 1 0 true),
    .call (.sessionAddDel 0 9 10 0 0 false),
    .call .interfaceAdd, .sessionDump none]

theorem sessionDump_kept_twoSessionRequests :
    sessionDump (runAnswered (respond Policies.lifo)
        (Vpp.initial Pool.empty Pool.empty) twoSessionRequests).2.lm (some 1) =
      [⟨1, 0, 7, 8, 1, 0⟩] := by
  have htrace : (runAnswered (respond Policies.lifo)
        (Vpp.initial Pool.empty Pool.empty) twoSessionRequests).1 =
      (twoSessionRequests.take 2).zip
          [.retval (.ok (some 0)), .retval (.ok (some 0))] ++
        (.call (.sessionAddDel 0 7 8 1 0 true), .retval (.ok (some 1))) ::
          (twoSessionRequests.drop 3).zip
            [.retval (.ok none), .retval (.ok none),
              .sessions [⟨1, 0, 7, 8, 1, 0⟩]] := by
    decide +kernel
  exact sessionDump_kept Policies.lifo Pool.empty Pool.empty htrace
    (by decide +kernel)

end L2tvpp.Plugin
