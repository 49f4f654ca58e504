import Mathlib.Logic.Function.Basic
import L2tvpp.Plugin.Consistency

/-!
# The command line

`l2tvpp tunnel`, `l2tvpp session` and `l2tvpp route`.  Each reads its line word
by word into 32-bit variables, in which `~0` stands for a number that is not
given, and passes these to a function with 16-bit parameters.
-/

namespace L2tvpp.Plugin

open L2tvpp.Lib

/-! ## The commands -/

inductive CliError where
  | unknownInput
  | required (text : String)
  | returned (function : String) (rv : VnetApiError)
  deriving DecidableEq, Repr

def notGiven : U32 := 0xffffffff

/-- What the three commands have in common.  An empty line does nothing. -/
def cliCommand {W L α : Type} (read : L → W → Except CliError L) (init : L)
    (complete : L → Bool) (text function : String)
    (call : L → Except VnetApiError α) (nothing : α) (words : List W) :
    Except CliError α :=
  if words.isEmpty then .ok nothing
  else do
    let line ← words.foldlM read init
    if complete line then (call line).mapError (.returned function)
    else .error (.required text)

inductive TunnelNumber where
  | localPort
  | peerPort
  | localTid
  | peerTid
  deriving DecidableEq, Repr

/-- What one round of the loop of `l2tvpp_tunnel_cli` finds. -/
inductive TunnelWord where
  | del
  | localIp (ip4 : U32)
  | peerIp (ip4 : U32)
  | number (field : TunnelNumber) (n : U32)
  | unknown
  deriving DecidableEq, Repr

structure TunnelLine where
  localIp : Ip46
  peerIp : Ip46
  numbers : TunnelNumber → U32
  isAdd : Bool

namespace TunnelLine

def init : TunnelLine where
  localIp := Ip46.ofIp4 0
  peerIp := Ip46.ofIp4 0
  numbers
    | .localPort => 1701
    | .peerPort => 1701
    | .localTid => notGiven
    | .peerTid => notGiven
  isAdd := true

def read (line : TunnelLine) : TunnelWord → Except CliError TunnelLine
  | .del => .ok { line with isAdd := false }
  | .localIp ip4 =>
      .ok { line with localIp := { line.localIp with ip4 := ip4 } }
  | .peerIp ip4 => .ok { line with peerIp := { line.peerIp with ip4 := ip4 } }
  | .number field n =>
      .ok { line with numbers := Function.update line.numbers field n }
  | .unknown => .error .unknownInput

def complete (line : TunnelLine) : Bool :=
  line.numbers .localTid != notGiven &&
    (!line.isAdd || line.numbers .peerTid != notGiven)

/-- A number as the 16-bit parameter it is passed for. -/
def param (line : TunnelLine) (field : TunnelNumber) : U16 :=
  (line.numbers field).setWidth 16

end TunnelLine

/-- The index that the command prints, if any, and the new state. -/
def l2tvppTunnelCli (P : Policies) (v : Vpp) :
    List TunnelWord → Except CliError (Option Nat × Vpp) :=
  cliCommand TunnelLine.read TunnelLine.init TunnelLine.complete
    "local-tid and peer-tid required" "l2tvpp_tunnel_add_del"
    (fun line => l2tvppTunnelAddDel P v line.localIp line.peerIp
      (line.param .localPort) (line.param .peerPort) (line.param .localTid)
      (line.param .peerTid) line.isAdd)
    (none, v)

inductive SessionNumber where
  | localSid
  | peerSid
  deriving DecidableEq, Repr

inductive SessionWord where
  | del
  | tunnel (index : U32)
  | number (field : SessionNumber) (n : U32)
  | acfc
  | pfc
  | unknown
  deriving DecidableEq, Repr

structure SessionLine where
  tunnelIndex : U32
  numbers : SessionNumber → U32
  isAdd : Bool
  acfc : U8
  pfc : U8

namespace SessionLine

def init : SessionLine where
  tunnelIndex := notGiven
  numbers _ := notGiven
  isAdd := true
  acfc := 0
  pfc := 0

def read (line : SessionLine) : SessionWord → Except CliError SessionLine
  | .del => .ok { line with isAdd := false }
  | .tunnel index => .ok { line with tunnelIndex := index }
  | .number field n =>
      .ok { line with numbers := Function.update line.numbers field n }
  | .acfc => .ok { line with acfc := 1 }
  | .pfc => .ok { line with pfc := 1 }
  | .unknown => .error .unknownInput

def complete (line : SessionLine) : Bool :=
  line.tunnelIndex != notGiven && line.numbers .localSid != notGiven &&
    (!line.isAdd || line.numbers .peerSid != notGiven)

def param (line : SessionLine) (field : SessionNumber) : U16 :=
  (line.numbers field).setWidth 16

end SessionLine

def l2tvppSessionCli (P : Policies) (v : Vpp) :
    List SessionWord → Except CliError (Option Nat × Vpp) :=
  cliCommand SessionLine.read SessionLine.init SessionLine.complete
    "tunnel, local-sid and peer-sid required" "l2tvpp_session_add_del"
    (fun line => l2tvppSessionAddDel P v line.tunnelIndex.toNat
      (line.param .localSid) (line.param .peerSid) line.acfc line.pfc
      line.isAdd)
    (none, v)

inductive RouteWord where
  | del
  | ip4Prefix (ip4 : U32) (plen : U32)
  | ip6Prefix (ip6 : Ip46) (plen : U32)
  | interface (swIfIndex : U32)
  | unknown
  deriving DecidableEq, Repr

structure RouteLine where
  pfx : FibPrefix
  swIfIndex : U32
  plen : U32
  isAdd : Bool

namespace RouteLine

def init : RouteLine where
  pfx := ⟨.ip4, Ip46.ofIp4 0, 0⟩
  swIfIndex := notGiven
  plen := notGiven
  isAdd := true

/-- An IPv4 address goes into the last four bytes of the prefix only. -/
def read (line : RouteLine) : RouteWord → Except CliError RouteLine
  | .del => .ok { line with isAdd := false }
  | .ip4Prefix ip4 plen =>
      .ok { line with
        pfx := { line.pfx with
          proto := .ip4
          addr := { line.pfx.addr with ip4 := ip4 } }
        plen := plen }
  | .ip6Prefix ip6 plen =>
      .ok { line with
        pfx := { line.pfx with proto := .ip6, addr := ip6 }
        plen := plen }
  | .interface swIfIndex => .ok { line with swIfIndex := swIfIndex }
  | .unknown => .error .unknownInput

def complete (line : RouteLine) : Bool :=
  line.plen != notGiven && line.swIfIndex != notGiven

/-- `fp_len` has 16 bits. -/
def fibPrefix (line : RouteLine) : FibPrefix :=
  { line.pfx with len := line.plen.setWidth 16 }

end RouteLine

def l2tvppRouteCli (v : Vpp) : List RouteWord → Except CliError Vpp :=
  cliCommand RouteLine.read RouteLine.init RouteLine.complete
    "prefix and session interface required" "l2tvpp_route_add_del"
    (fun line => l2tvppRouteAddDel v line.fibPrefix line.swIfIndex.toNat
      line.isAdd) v

inductive CliCommand where
  | tunnel (words : List TunnelWord)
  | session (words : List SessionWord)
  | route (words : List RouteWord)
  deriving DecidableEq, Repr

namespace CliCommand

def run (P : Policies) (v : Vpp) :
    CliCommand → Except CliError (Option Nat × Vpp)
  | tunnel words => l2tvppTunnelCli P v words
  | session words => l2tvppSessionCli P v words
  | route words => (l2tvppRouteCli v words).map fun v' => (none, v')

/-- The state after the command; one that is refused changes nothing. -/
def after (P : Policies) (v : Vpp) (command : CliCommand) : Vpp :=
  match command.run P v with
  | .error _ => v
  | .ok (_, v') => v'

end CliCommand

/-! ## What a command stores -/

def TunnelWord.number? (field : TunnelNumber) : TunnelWord → Option U32
  | .number other n => if other = field then some n else none
  | _ => none

def SessionWord.number? (field : SessionNumber) : SessionWord → Option U32
  | .number other n => if other = field then some n else none
  | _ => none

def RouteWord.plen? : RouteWord → Option U32
  | .ip4Prefix _ plen => some plen
  | .ip6Prefix _ plen => some plen
  | _ => none

def L2tvppTunnel.number (t : L2tvppTunnel) : TunnelNumber → U16
  | .localPort => t.localPort
  | .peerPort => t.peerPort
  | .localTid => t.localTid
  | .peerTid => t.peerTid

def L2tvppSession.number (sess : L2tvppSession) : SessionNumber → U16
  | .localSid => sess.localSid
  | .peerSid => sess.peerSid

/-- The longest prefix of a family. -/
def FibProtocol.maxLen : FibProtocol → Nat
  | .ip4 => 32
  | .ip6 => 128
  | .mpls => 0

inductive PluginObject where
  | tunnel (t : L2tvppTunnel)
  | session (sess : L2tvppSession)
  | path (pfx : FibPrefix) (swIfIndex : Nat)
  /-- An entry of the encap cache. -/
  | encapAdj (ip4 : U32) (ai : AdjIndex)

/-- The object is there in one of the states only: it is created or deleted. -/
def Vpp.Changes (v v' : Vpp) : PluginObject → Prop
  | .tunnel t => v.lm.tunnels.Changes v'.lm.tunnels t
  | .session sess => v.lm.sessions.Changes v'.lm.sessions sess
  | .path pfx swIfIndex =>
      ¬ ((pfx, swIfIndex) ∈ v'.fib ↔ (pfx, swIfIndex) ∈ v.fib)
  | .encapAdj ip4 ai =>
      ¬ (v'.lm.encapAdjByIp4.lookup (encapKey ip4) = some ai ↔
        v.lm.encapAdjByIp4.lookup (encapKey ip4) = some ai)

namespace CliCommand

/-- The object has the numbers that were typed last, as they were typed. -/
def Typed : CliCommand → PluginObject → Prop
  | tunnel words, .tunnel t => ∀ field n,
      lastOf (TunnelWord.number? field) words = some n →
        (t.number field).toNat = n.toNat
  | session words, .session sess => ∀ field n,
      lastOf (SessionWord.number? field) words = some n →
        (sess.number field).toNat = n.toNat
  | route words, .path pfx _ =>
      lastOf RouteWord.plen? words = some (pfx.len.setWidth 32) ∧
        pfx.len.toNat ≤ pfx.proto.maxLen
  -- the entries are for /32s
  | route words, .encapAdj _ _ => lastOf RouteWord.plen? words = some 32
  | _, _ => False

/-- The command returns an error and changes nothing, or what it creates or
deletes is what was typed. -/
def StoresTyped (P : Policies) (v : Vpp) (command : CliCommand) : Prop :=
  ((∃ error, command.run P v = .error error) ∧ command.after P v = v) ∨
    ∀ object, v.Changes (command.after P v) object → command.Typed object

end CliCommand

/-! ## When that is so -/

/-- The numbers by which `l2tvpp_tunnel_add_del` finds a tunnel. -/
def TunnelNumber.isKey : TunnelNumber → Bool
  | .peerPort => true
  | .localTid => true
  | _ => false

/-- A tunnel is only created from 16-bit numbers, and only deleted by 16-bit
numbers, and the other numbers that were typed are those of the tunnel. -/
def TunnelFits (v : Vpp) (words : List TunnelWord) : Prop :=
  ∀ line, words.foldlM TunnelLine.read TunnelLine.init = .ok line →
    line.complete = true → ∀ field n,
    lastOf (TunnelWord.number? field) words = some n →
    match l2tvppTunnelFind v.lm line.peerIp (line.param .peerPort)
        (line.param .localTid), line.isAdd with
    | none, true => n.toNat < 2 ^ 16
    | some (_, t), false => t.nSessions = 0 →
        if field.isKey then n.toNat < 2 ^ 16
        else n.toNat = (t.number field).toNat
    | _, _ => True

def SessionFits (v : Vpp) (words : List SessionWord) : Prop :=
  ∀ line t, words.foldlM SessionLine.read SessionLine.init = .ok line →
    line.complete = true →
    v.lm.tunnels.elt? line.tunnelIndex.toNat = some t → ∀ field n,
    lastOf (SessionWord.number? field) words = some n →
    match v.lm.sessionByKey.lookup (l2tvppSessionKey t.localTid
        (line.param .localSid)), line.isAdd with
    | none, true => n.toNat < 2 ^ 16
    | some index, false => ∀ sess, v.lm.sessions.elt? index = some sess →
        if field = .localSid then n.toNat < 2 ^ 16
        else n.toNat = sess.peerSid.toNat
    | _, _ => True

/-- An accepted line puts a path into the FIB or takes it out. -/
def RouteLine.movesPath (v : Vpp) (line : RouteLine) : Prop :=
  (line.fibPrefix.key, line.swIfIndex.toNat) ∈ v.fib ↔ line.isAdd = false

/-- An accepted line makes an entry of the encap cache, or deletes one. -/
def RouteLine.movesEntry (v : Vpp) (line : RouteLine) : Prop :=
  line.fibPrefix.isHost4 = true ∧
    v.lm.encapAdjByIp4.lookup (encapKey line.pfx.addr.ip4) ≠
      if line.isAdd then
        some (subscriberAdj line.pfx.addr.ip4 line.swIfIndex.toNat)
      else none

/-- A path or a cache entry is only created or deleted with a prefix length that
its family has. -/
def RouteFits (v : Vpp) (words : List RouteWord) : Prop :=
  ∀ line, words.foldlM RouteLine.read RouteLine.init = .ok line →
    line.complete = true →
    v.lm.sessionIndexOf line.swIfIndex.toNat ≠ none →
    line.movesPath v ∨ line.movesEntry v →
    line.plen.toNat ≤ line.pfx.proto.maxLen

def CliCommand.Fits (v : Vpp) : CliCommand → Prop
  | .tunnel words => TunnelFits v words
  | .session words => SessionFits v words
  | .route words => RouteFits v words

/-! ## The lines -/

section Command

variable {W L α : Type} {read : L → W → Except CliError L} {init : L}
  {complete : L → Bool} {text function : String}
  {call : L → Except VnetApiError α} {nothing : α} {words : List W}

theorem cliCommand_ok {out : α}
    (h : cliCommand read init complete text function call nothing words =
      .ok out) :
    out = nothing ∨ ∃ line, words.foldlM read init = .ok line ∧
      complete line = true ∧ call line = .ok out := by
  unfold cliCommand at h
  split at h
  · cases h
    exact .inl rfl
  · obtain ⟨line, hline, h⟩ := ok_of_bind h
    split at h
    · rename_i hcomplete
      exact .inr ⟨line, hline, hcomplete, ok_of_mapError h⟩
    · cases h

theorem cliCommand_of_ok {line : L} {out : α} (hinit : complete init = false)
    (hline : words.foldlM read init = .ok line)
    (hcomplete : complete line = true) (h : call line = .ok out) :
    cliCommand read init complete text function call nothing words =
      .ok out := by
  cases words with
  | nil =>
      cases hline
      rw [hinit] at hcomplete
      cases hcomplete
  | cons word words =>
      rw [cliCommand, if_neg (by simp), hline, ok_bind, if_pos hcomplete, h]
      rfl

/-- What holds of nothing done holds after a command if it holds after the
call of every complete line. -/
theorem forall_cliCommand {p : α → Prop} (hinit : complete init = false)
    (hnothing : p nothing) :
    (∀ out, cliCommand read init complete text function call nothing words =
        .ok out → p out) ↔
      ∀ line, words.foldlM read init = .ok line → complete line = true →
        ∀ out, call line = .ok out → p out := by
  constructor
  · intro h line hline hcomplete out hcall
    exact h out (cliCommand_of_ok hinit hline hcomplete hcall)
  · intro h out hrun
    rcases cliCommand_ok hrun with rfl | ⟨line, hline, hcomplete, hcall⟩
    · exact hnothing
    · exact h line hline hcomplete out hcall

end Command

/-- A number that is read is that of its own field only. -/
theorem update_number {Field : Type} [DecidableEq Field] (numbers : Field → U32)
    (given field : Field) (n : U32) :
    Function.update numbers given n field =
      (if given = field then some n else none).getD (numbers field) := by
  by_cases heq : given = field
  · subst heq
    simp
  · simp [heq, Ne.symm heq]

theorem TunnelLine.numbers_eq {words : List TunnelWord} {line : TunnelLine}
    (h : words.foldlM read init = .ok line) (field : TunnelNumber) :
    line.numbers field =
      (lastOf (TunnelWord.number? field) words).getD (init.numbers field) := by
  refine foldlM_lastOf (fun line => line.numbers field) ?_ h
  intro line word next hnext
  cases word with
  | number other n =>
      cases hnext
      exact update_number line.numbers other field n
  | unknown => cases hnext
  | _ =>
      cases hnext
      rfl

/-- Only the IPv4 parts of the addresses are written. -/
theorem TunnelLine.isIp4 {words : List TunnelWord} {line : TunnelLine}
    (h : words.foldlM read init = .ok line) :
    line.localIp.isIp4 = true ∧ line.peerIp.isIp4 = true := by
  refine foldlM_kept
    (fun line => line.localIp.isIp4 = true ∧ line.peerIp.isIp4 = true) ?_ h ▸
    ⟨rfl, rfl⟩
  intro line word next hnext
  cases word <;> cases hnext <;> rfl

theorem SessionLine.numbers_eq {words : List SessionWord} {line : SessionLine}
    (h : words.foldlM read init = .ok line) (field : SessionNumber) :
    line.numbers field =
      (lastOf (SessionWord.number? field) words).getD notGiven := by
  refine foldlM_lastOf (fun line => line.numbers field) ?_ h
  intro line word next hnext
  cases word with
  | number other n =>
      cases hnext
      exact update_number line.numbers other field n
  | unknown => cases hnext
  | _ =>
      cases hnext
      rfl

theorem RouteLine.plen_eq {words : List RouteWord} {line : RouteLine}
    (h : words.foldlM read init = .ok line) :
    line.plen = (lastOf RouteWord.plen? words).getD notGiven := by
  refine foldlM_lastOf RouteLine.plen ?_ h
  intro line word next hnext
  cases word <;> cases hnext <;> rfl

/-- A number keeps its value as a 16-bit parameter if it has 16 bits. -/
theorem setWidth_16_iff {n : U32} :
    (n.setWidth 16).toNat = n.toNat ↔ n.toNat < 2 ^ 16 := by
  rw [BitVec.toNat_setWidth]
  omega

/-! ## The one object that a call changes -/

section Changes

variable {P : Policies} {v v' : Vpp} {object : PluginObject}

theorem tunnelAdd_changes {localIp peerIp : Ip46}
    {localPort peerPort localTid peerTid : U16} :
    v.Changes (v.tunnelAdd P localIp peerIp localPort peerPort localTid peerTid)
        object ↔
      object = .tunnel ⟨localIp, peerIp, localPort, peerPort, localTid, peerTid,
        0, 0⟩ := by
  cases object with
  | tunnel t =>
      rw [PluginObject.tunnel.injEq]
      exact Pool.changes_get P.tunnels
  | session sess =>
      exact iff_of_false (Pool.not_changes (fun _ => Iff.rfl) sess) (by simp)
  | path pfx swIfIndex => simp [Vpp.Changes, Vpp.tunnelAdd]
  | encapAdj ip4 ai => simp [Vpp.Changes, Vpp.tunnelAdd]

theorem tunnelDel_changes {index : Nat} {t : L2tvppTunnel}
    (ht : v.lm.tunnels.elt? index = some t) :
    v.Changes (v.tunnelDel index) object ↔ object = .tunnel t := by
  cases object with
  | tunnel other =>
      rw [PluginObject.tunnel.injEq, Vpp.Changes, Vpp.tunnelDel,
        Pool.changes_put, ht, Option.some.injEq, eq_comm]
  | session sess =>
      exact iff_of_false (Pool.not_changes (fun _ => Iff.rfl) sess) (by simp)
  | path pfx swIfIndex => simp [Vpp.Changes, Vpp.tunnelDel]
  | encapAdj ip4 ai => simp [Vpp.Changes, Vpp.tunnelDel]

theorem sessionAdd_changes {tunnelIndex : Nat} {t : L2tvppTunnel}
    {localSid peerSid : U16} {acfc pfc : U8} :
    v.Changes (v.sessionAdd P tunnelIndex t localSid peerSid acfc pfc) object ↔
      object =
        .session (v.newSession P tunnelIndex t localSid peerSid acfc pfc) := by
  cases object with
  | tunnel other =>
      exact iff_of_false (Pool.not_changes_modify tunnelIndex _ other) (by simp)
  | session sess =>
      rw [PluginObject.session.injEq]
      exact Pool.changes_get P.sessions
  | path pfx swIfIndex => simp [Vpp.Changes, Vpp.sessionAdd]
  | encapAdj ip4 ai => simp [Vpp.Changes, Vpp.sessionAdd]

theorem sessionDel_changes {tunnelIndex index : Nat} {key : U64}
    {sess : L2tvppSession} (hsess : v.lm.sessions.elt? index = some sess) :
    v.Changes (v.sessionDel tunnelIndex key index sess) object ↔
      object = .session sess := by
  cases object with
  | tunnel other =>
      rw [Vpp.Changes, sessionDel_lm]
      exact iff_of_false (Pool.not_changes_modify tunnelIndex _ other) (by simp)
  | session other =>
      rw [PluginObject.session.injEq, Vpp.Changes, sessionDel_lm,
        Pool.changes_put, hsess, Option.some.injEq, eq_comm]
  | path pfx swIfIndex => simp [Vpp.Changes, Vpp.sessionDel, removeDelegates]
  | encapAdj ip4 ai => simp [Vpp.Changes, sessionDel_lm]

/-- What a route command changes: its path, and the cache entry of its host. -/
def RouteChange (v : Vpp) (pfx : FibPrefix) (swIfIndex : Nat) (isAdd : Bool) :
    PluginObject → Prop
  | .path other otherIndex => (other, otherIndex) = (pfx.key, swIfIndex) ∧
      ((pfx.key, swIfIndex) ∈ v.fib ↔ isAdd = false)
  | .encapAdj ip4 ai =>
      ¬ (cacheAfter v pfx swIfIndex isAdd ip4 = some ai ↔
        v.lm.encapAdjByIp4.lookup (encapKey ip4) = some ai)
  | _ => False

theorem l2tvppRouteAddDel_changes {pfx : FibPrefix} {swIfIndex : Nat}
    {isAdd : Bool} (h : l2tvppRouteAddDel v pfx swIfIndex isAdd = .ok v') :
    v.Changes v' object ↔ RouteChange v pfx swIfIndex isAdd object := by
  have hsame := sameStore_l2tvppRouteAddDel h
  obtain ⟨-, hfib, hcache⟩ := l2tvppRouteAddDel_ok h
  cases object with
  | tunnel t =>
      rw [Vpp.Changes, hsame.tunnels]
      exact iff_of_false (Pool.not_changes (fun _ => Iff.rfl) t) not_false
  | session sess =>
      have hnone : ∀ index, v'.lm.sessions.elt? index = none ↔
          v.lm.sessions.elt? index = none := by
        intro index
        rw [← Option.map_eq_none_iff, hsame.sessions, Option.map_eq_none_iff]
      exact iff_of_false (Pool.not_changes hnone sess) not_false
  | path other otherIndex =>
      rw [Vpp.Changes, hfib, RouteChange]
      generalize (other, otherIndex) = path
      generalize (pfx.key, swIfIndex) = target
      cases isAdd with
      | true =>
          by_cases heq : path = target
          · subst heq
            simp
          · simp [heq]
      | false =>
          by_cases heq : path = target
          · subst heq
            simp
          · simp [heq]
  | encapAdj ip4 ai => rw [Vpp.Changes, hcache, RouteChange]

end Changes

theorem not_changes_self (v : Vpp) (object : PluginObject) :
    ¬ v.Changes v object := by
  cases object with
  | tunnel t => exact Pool.not_changes (fun _ => Iff.rfl) t
  | session sess => exact Pool.not_changes (fun _ => Iff.rfl) sess
  | path pfx swIfIndex => exact not_not.mpr Iff.rfl
  | encapAdj ip4 ai => exact not_not.mpr Iff.rfl

/-! ## Exactly when what was typed is stored -/

section Exact

variable {P : Policies} {v : Vpp}

theorem storesTyped_iff_ok {command : CliCommand} :
    command.StoresTyped P v ↔
      ∀ result, command.run P v = .ok result →
        ∀ object, v.Changes result.2 object → command.Typed object := by
  unfold CliCommand.StoresTyped CliCommand.after
  cases hrun : command.run P v with
  | error e => simp
  | ok result => simp

theorem TunnelLine.number_param {words : List TunnelWord} {line : TunnelLine}
    (hline : words.foldlM read init = .ok line) {field : TunnelNumber} {n : U32}
    (hn : lastOf (TunnelWord.number? field) words = some n) :
    (line.param field).toNat = n.toNat ↔ n.toNat < 2 ^ 16 := by
  rw [param, numbers_eq hline, hn]
  exact setWidth_16_iff

theorem SessionLine.number_param {words : List SessionWord}
    {line : SessionLine} (hline : words.foldlM read init = .ok line)
    {field : SessionNumber} {n : U32}
    (hn : lastOf (SessionWord.number? field) words = some n) :
    (line.param field).toNat = n.toNat ↔ n.toNat < 2 ^ 16 := by
  rw [param, numbers_eq hline, hn]
  exact setWidth_16_iff

/-- A tunnel that is found has the numbers it was looked for by. -/
theorem l2tvppTunnelFind_number {line : TunnelLine} {index : Nat}
    {t : L2tvppTunnel}
    (h : l2tvppTunnelFind v.lm line.peerIp (line.param .peerPort)
      (line.param .localTid) = some (index, t)) {field : TunnelNumber}
    (hkey : field.isKey = true) : t.number field = line.param field := by
  obtain ⟨-, htid, hport, -⟩ := l2tvppTunnelFind_some h
  cases field with
  | peerPort => exact hport
  | localTid => exact htid
  | localPort => cases hkey
  | peerTid => cases hkey

theorem tunnel_storesTyped {words : List TunnelWord} :
    (CliCommand.tunnel words).StoresTyped P v ↔ TunnelFits v words := by
  refine storesTyped_iff_ok.trans ((forall_cliCommand rfl
    fun object h => absurd h (not_changes_self v object)).trans ?_)
  refine forall_congr' fun line => forall_congr' fun hline =>
    imp_congr_right fun _ => ?_
  obtain ⟨hlocal, hpeer⟩ := TunnelLine.isIp4 hline
  simp only [l2tvppTunnelAddDel, hlocal, hpeer, Bool.not_true, Bool.or_self,
    Bool.false_eq_true, if_false]
  cases hfind : l2tvppTunnelFind v.lm line.peerIp (line.param .peerPort)
      (line.param .localTid) with
  | none =>
      cases line.isAdd with
      | false => simp
      | true =>
          simp only [Except.ok.injEq, forall_eq', tunnelAdd_changes, forall_eq]
          refine forall_congr' fun field => forall_congr' fun n =>
            forall_congr' fun hn => ?_
          rw [← TunnelLine.number_param hline hn]
          cases field <;> rfl
  | some found =>
      obtain ⟨index, t⟩ := found
      obtain ⟨ht, -⟩ := l2tvppTunnelFind_some hfind
      cases line.isAdd with
      | true => simp
      | false =>
          by_cases hzero : t.nSessions = 0
          · simp only [hzero, ne_eq, not_true_eq_false, if_false,
              Except.ok.injEq, forall_eq', tunnelDel_changes ht, forall_eq,
              forall_const]
            refine forall_congr' fun field => forall_congr' fun n =>
              forall_congr' fun hn => ?_
            rw [← TunnelLine.number_param hline hn]
            split
            · rw [l2tvppTunnelFind_number hfind ‹_›]
            · exact eq_comm
          · have hne : t.nSessions ≠ 0 := hzero
            simp only [hne, if_true, reduceCtorEq, false_implies, forall_const,
              ne_eq, not_false_eq_true, implies_true]

/-- The session that a key leads to has the id it was looked for by. -/
theorem localSid_of_lookup (hinv : StoreInv v) {localTid localSid : U16}
    {index : Nat} {sess : L2tvppSession}
    (hkey : v.lm.sessionByKey.lookup (l2tvppSessionKey localTid localSid) =
      some index)
    (hsess : v.lm.sessions.elt? index = some sess) :
    sess.localSid = localSid := by
  obtain ⟨other, hother, hkeys⟩ := hinv.byKey.some_iff.mp hkey
  rw [hsess] at hother
  cases hother
  exact (l2tvppSessionKey_inj.mp hkeys).2

theorem session_storesTyped (hinv : StoreInv v) {words : List SessionWord} :
    (CliCommand.session words).StoresTyped P v ↔ SessionFits v words := by
  refine storesTyped_iff_ok.trans ((forall_cliCommand rfl
    fun object h => absurd h (not_changes_self v object)).trans ?_)
  refine forall_congr' fun line => Iff.trans ?_ forall_comm
  refine Iff.trans ?_ (forall_congr' fun _ => forall_comm)
  refine forall_congr' fun hline => forall_congr' fun _ => ?_
  simp only [l2tvppSessionAddDel]
  cases v.lm.tunnels.elt? line.tunnelIndex.toNat with
  | none => simp
  | some t =>
      simp only [Option.some.injEq, forall_eq']
      cases hkey : v.lm.sessionByKey.lookup (l2tvppSessionKey t.localTid
          (line.param .localSid)) with
      | none =>
          cases line.isAdd with
          | false => simp
          | true =>
              simp only [Except.ok.injEq, forall_eq', sessionAdd_changes,
                forall_eq]
              refine forall_congr' fun field => forall_congr' fun n =>
                forall_congr' fun hn => ?_
              rw [← SessionLine.number_param hline hn]
              cases field <;> rfl
      | some index =>
          cases line.isAdd with
          | true => simp
          | false =>
              cases hsess : v.lm.sessions.elt? index with
              | none => simp [hsess]
              | some sess =>
                  simp only [hsess, Except.ok.injEq, Option.some.injEq,
                    forall_eq', sessionDel_changes hsess, forall_eq]
                  refine forall_congr' fun field => forall_congr' fun n =>
                    forall_congr' fun hn => ?_
                  rw [← SessionLine.number_param hline hn]
                  cases field with
                  | localSid =>
                      rw [if_pos rfl, ← localSid_of_lookup hinv hkey hsess]
                      rfl
                  | peerSid =>
                      rw [if_neg (by decide)]
                      exact eq_comm

theorem FibPrefix.key_len (pfx : FibPrefix) : pfx.key.len = pfx.len := by
  unfold key
  split <;> rfl

theorem FibPrefix.key_proto (pfx : FibPrefix) : pfx.key.proto = pfx.proto := by
  unfold key
  split <;> rfl

theorem FibProtocol.maxLen_lt (proto : FibProtocol) :
    proto.maxLen < 2 ^ 16 := by
  cases proto <;> decide

theorem RouteLine.lastOf_plen {words : List RouteWord} {line : RouteLine}
    (hline : words.foldlM read init = .ok line)
    (hcomplete : line.complete = true) :
    lastOf RouteWord.plen? words = some line.plen := by
  have hplen := plen_eq hline
  cases hcase : lastOf RouteWord.plen? words with
  | none =>
      rw [hcase] at hplen
      rw [complete, hplen] at hcomplete
      cases hcomplete
  | some plen =>
      rw [hcase] at hplen
      rw [hplen]
      rfl

theorem RouteLine.typed_path_iff {words : List RouteWord} {line : RouteLine}
    (hline : words.foldlM read init = .ok line)
    (hcomplete : line.complete = true) (swIfIndex : Nat) :
    (CliCommand.route words).Typed (.path line.fibPrefix.key swIfIndex) ↔
      line.plen.toNat ≤ line.pfx.proto.maxLen := by
  have hlast := lastOf_plen hline hcomplete
  have hmax := line.pfx.proto.maxLen_lt
  have hwidth : line.plen = (line.plen.setWidth 16).setWidth 32 ↔
      line.plen.toNat < 2 ^ 16 := by
    rw [← BitVec.toNat_inj, BitVec.toNat_setWidth, BitVec.toNat_setWidth]
    omega
  rw [CliCommand.Typed, FibPrefix.key_len, FibPrefix.key_proto, hlast,
    Option.some.injEq, fibPrefix, hwidth, BitVec.toNat_setWidth]
  dsimp only
  omega

/-- A length that is 32 in 16 bits is 32, unless IPv4 has no such length. -/
theorem RouteLine.typed_encapAdj_iff {words : List RouteWord} {line : RouteLine}
    (hline : words.foldlM read init = .ok line)
    (hcomplete : line.complete = true) (hhost : line.fibPrefix.isHost4 = true)
    (ip4 : U32) (ai : AdjIndex) :
    (CliCommand.route words).Typed (.encapAdj ip4 ai) ↔
      line.plen.toNat ≤ line.pfx.proto.maxLen := by
  rw [FibPrefix.isHost4, Bool.and_eq_true, beq_iff_eq, beq_iff_eq] at hhost
  obtain ⟨hproto, hlen⟩ := hhost
  have hproto' : line.pfx.proto = .ip4 := hproto
  have hlen' : line.plen.toNat % 2 ^ 16 = 32 := by
    rw [← BitVec.toNat_setWidth]
    exact congrArg BitVec.toNat hlen
  rw [CliCommand.Typed, lastOf_plen hline hcomplete, Option.some.injEq,
    ← BitVec.toNat_inj, hproto', FibProtocol.maxLen]
  change line.plen.toNat = 32 ↔ _
  omega

theorem RouteLine.movesEntry_iff {line : RouteLine} :
    line.movesEntry v ↔ ∃ ip4 ai, RouteChange v line.fibPrefix
      line.swIfIndex.toNat line.isAdd (.encapAdj ip4 ai) := by
  have haddr : line.fibPrefix.addr = line.pfx.addr := rfl
  unfold movesEntry
  simp only [RouteChange, cacheAfter, haddr]
  constructor
  · rintro ⟨hhost, hne⟩
    by_contra hnone
    push Not at hnone
    have hentry := hnone line.pfx.addr.ip4
    rw [if_pos ⟨hhost, rfl⟩] at hentry
    exact hne (Option.ext hentry).symm
  · rintro ⟨ip4, ai, hchange⟩
    split at hchange
    · rename_i hcond
      obtain ⟨hhost, rfl⟩ := hcond
      refine ⟨hhost, fun heq => hchange ?_⟩
      rw [heq]
    · exact absurd Iff.rfl hchange

theorem route_storesTyped {words : List RouteWord} :
    (CliCommand.route words).StoresTyped P v ↔ RouteFits v words := by
  have hrun : (CliCommand.route words).StoresTyped P v ↔
      ∀ v', l2tvppRouteCli v words = .ok v' →
        ∀ object, v.Changes v' object →
          (CliCommand.route words).Typed object := by
    rw [storesTyped_iff_ok, CliCommand.run]
    cases l2tvppRouteCli v words <;> simp [Except.map]
  refine hrun.trans ((forall_cliCommand rfl
    fun object h => absurd h (not_changes_self v object)).trans ?_)
  refine forall_congr' fun line => forall_congr' fun hline =>
    forall_congr' fun hcomplete => ?_
  constructor
  · intro hstores hindex hchanges
    obtain ⟨index, hindex⟩ := Option.ne_none_iff_exists'.mp hindex
    obtain ⟨v', hcall⟩ : ∃ v', l2tvppRouteAddDel v line.fibPrefix
        line.swIfIndex.toNat line.isAdd = .ok v' := by
      rw [l2tvppRouteAddDel, hindex]
      exact ⟨_, rfl⟩
    have htyped := fun object hchange => hstores v' hcall object
      ((l2tvppRouteAddDel_changes hcall).mpr hchange)
    rcases hchanges with hpath | hentry
    · exact (RouteLine.typed_path_iff hline hcomplete _).mp
        (htyped (.path line.fibPrefix.key line.swIfIndex.toNat) ⟨rfl, hpath⟩)
    · obtain ⟨ip4, ai, hchange⟩ := RouteLine.movesEntry_iff.mp hentry
      exact (RouteLine.typed_encapAdj_iff hline hcomplete hentry.1 ip4 ai).mp
        (htyped _ hchange)
  · intro hfits v' hcall object hchange
    obtain ⟨⟨index, hindex⟩, -, -⟩ := l2tvppRouteAddDel_ok hcall
    have hfits' := hfits (by rw [hindex]; exact Option.some_ne_none index)
    have hmoved := (l2tvppRouteAddDel_changes hcall).mp hchange
    cases object with
    | tunnel t => exact hmoved.elim
    | session sess => exact hmoved.elim
    | path other otherIndex =>
        obtain ⟨heq, hpath⟩ := hmoved
        cases heq
        exact (RouteLine.typed_path_iff hline hcomplete _).mpr
          (hfits' (.inl hpath))
    | encapAdj ip4 ai =>
        have hentry := RouteLine.movesEntry_iff.mpr ⟨ip4, ai, hmoved⟩
        exact (RouteLine.typed_encapAdj_iff hline hcomplete hentry.1 ip4 ai).mpr
          (hfits' (.inr hentry))

end Exact

end L2tvpp.Plugin
