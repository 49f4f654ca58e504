import L2tvpp.Lib.Prog
import L2tvpp.Lib.Run
import L2tvpp.Syncd.Api

/-!
# The sync daemon

`Syncd` of `l2tvppd.py`: it mirrors the kernel's sessions into the plugin and
keeps a record of what it has installed.  A Python set is a list whose order
does not count; iterating over one and sorting one go through a `SetOrder`, so
that nothing below depends on the order Python picks.
-/

namespace L2tvpp.Syncd

open L2tvpp.Lib L2tvpp.Plugin

/-! ## Kernel sessions -/

structure KSession where
  peerIp : IpAddress
  peerPort : U16
  localTid : U16
  localSid : U16
  peerTid : U16
  peerSid : U16
  ifname : Option String
  /-- Set by `merge_tunnel_endpoints` when `ip l2tp show tunnel` knows it. -/
  localIp : Option IpAddress
  localPort : Option U16
  routes : Option (List IpPrefix)
  deriving DecidableEq, Repr

abbrev SessionKey := U16 × U16

instance : LawfulBEq SessionKey := inferInstance

abbrev TunnelKey := IpAddress × U16 × U16

namespace KSession

def tunnelKey (s : KSession) : TunnelKey := (s.peerIp, s.peerPort, s.localTid)

def sessionKey (s : KSession) : SessionKey := (s.localTid, s.localSid)

def hasIfname (s : KSession) : Bool := s.ifname.any fun ifname => ifname != ""

end KSession

/-! ## The daemon's state -/

structure InstalledRec where
  swIfIndex : Option Nat
  tunnelIndex : Option Nat
  localSid : U16
  peerSid : U16
  tunnelKey : TunnelKey
  routes : List IpPrefix
  deriving DecidableEq, Repr

abbrev InstalledDict := Dict SessionKey InstalledRec

structure SetOrder where
  list : List IpPrefix → List IpPrefix
  mem_list : ∀ {pfxs : List IpPrefix} {pfx : IpPrefix},
    pfx ∈ list pfxs ↔ pfx ∈ pfxs
  nodup : ∀ pfxs : List IpPrefix, (list pfxs).Nodup

def SetOrder.byDedup : SetOrder where
  list := List.dedup
  mem_list := List.mem_dedup
  nodup := List.nodup_dedup

/-- The arguments of `Syncd`, how the plugin picks indices and in which order
Python goes through sets. -/
structure Config where
  policies : Policies
  localIp : Option IpAddress
  localPort : U16
  statePath : Bool
  setOrder : SetOrder
  sortOrder : SetOrder

inductive PyExc where
  | runtimeError
  | keyError
  /-- `vpp_papi` raises, or the client is disconnected. -/
  | apiError
  | systemExit
  deriving DecidableEq, Repr

/-- The call with this number raises, before or after the plugin has acted. -/
structure Interrupt where
  call : Nat
  applied : Bool
  exc : PyExc
  deriving DecidableEq, Repr

structure ApiEvent where
  before : Vpp
  call : ApiCall
  reply : ApiReply

structure World where
  vpp : Vpp
  installed : InstalledDict
  stateFile : Option InstalledDict
  /-- The calls of the current pass, oldest first. -/
  calls : List ApiEvent
  interrupt : Option Interrupt

abbrev SyncM := Prog PyExc World

def World.allOk (w : World) : Bool := w.calls.all fun event => event.reply.ok

def World.logged (cfg : Config) (w : World) (call : ApiCall) : World :=
  { w with
    vpp := (handle cfg.policies w.vpp call).2
    calls := w.calls ++ [⟨w.vpp, call, (handle cfg.policies w.vpp call).1⟩] }

def callApi (cfg : Config) (call : ApiCall) : SyncM ApiReply := do
  let w ← get
  match w.interrupt with
  | some interrupt =>
      if w.calls.length = interrupt.call then
        if interrupt.applied then set (w.logged cfg call)
        throw interrupt.exc
      else
        set (w.logged cfg call)
        return (handle cfg.policies w.vpp call).1
  | none =>
      set (w.logged cfg call)
      return (handle cfg.policies w.vpp call).1

def setInstalled (installed : InstalledDict) : SyncM Unit := do
  set { ← get with installed := installed }

/-! ## The state file -/

def loadState (cfg : Config) (stateFile : Option InstalledDict) :
    InstalledDict :=
  if cfg.statePath then stateFile.getD Dict.empty else Dict.empty

def saveState (cfg : Config) : SyncM Unit := do
  let w ← get
  if cfg.statePath then
    set { w with stateFile := some w.installed }

/-! ## Mutations -/

abbrev TunnelsCache := Dict TunnelKey (Option Nat)

/-- Several tunnels with one key leave the last one's index. -/
def vppTunnels (cfg : Config) : SyncM TunnelsCache := do
  let reply ← callApi cfg .tunnelDump
  return Dict.empty.setAll (fun t => (t.peerIp, t.peerPort, t.localTid))
    (fun t => some t.tunnelIndex) reply.tunnelDetails

def localEndpoint (cfg : Config) (s : KSession) : Option IpAddress × U16 :=
  (s.localIp.or cfg.localIp,
    match s.localPort with
    | none => cfg.localPort
    | some port => if port = 0 then cfg.localPort else port)

def ensureTunnel (cfg : Config) (s : KSession) (cache : TunnelsCache) :
    SyncM (Option Nat × TunnelsCache) :=
  match cache.get? s.tunnelKey with
  | some tunnelIndex => return (tunnelIndex, cache)
  | none =>
      match localEndpoint cfg s with
      | (none, _) => throw .runtimeError
      | (some localIp, localPort) => do
          let r ← callApi cfg (.tunnelAddDel true (some localIp) s.peerIp
            localPort s.peerPort s.localTid s.peerTid)
          return (r.index, cache.set s.tunnelKey r.index)

def route (cfg : Config) (pfx : IpPrefix) (swIfIndex : Option Nat)
    (isAdd : Bool) : SyncM Unit := do
  let _ ← callApi cfg (.routeAddDel isAdd pfx swIfIndex)

abbrev PppRoutes := String → List IpPrefix

/-- `s["routes"]` once it has been fetched. -/
def KSession.fetchRoutes (s : KSession) (pppRoutes : PppRoutes) :
    List IpPrefix :=
  match s.routes with
  | some routes => routes
  | none => if s.hasIfname then pppRoutes (s.ifname.getD "") else []

def addSession (cfg : Config) (pppRoutes : PppRoutes) (s : KSession)
    (cache : TunnelsCache) : SyncM TunnelsCache := do
  let routes := s.fetchRoutes pppRoutes
  let (tunnelIndex, cache) ← ensureTunnel cfg s cache
  let r ← callApi cfg (.sessionAddDel true tunnelIndex s.localSid s.peerSid
    false false)
  routes.forM fun pfx => route cfg pfx r.index true
  setInstalled ((← get).installed.set s.sessionKey
    { swIfIndex := r.index
      tunnelIndex := tunnelIndex
      localSid := s.localSid
      peerSid := s.peerSid
      tunnelKey := s.tunnelKey
      routes := routes })
  return cache

def setDiff (first second : List IpPrefix) : List IpPrefix :=
  first.filter fun pfx => decide (pfx ∉ second)

def syncRoutes (cfg : Config) (pppRoutes : PppRoutes) (s : KSession) :
    SyncM Unit := do
  match (← get).installed.get? s.sessionKey with
  | none => throw .keyError
  | some rec =>
      let haveRoutes := rec.routes
      let wantRoutes := s.fetchRoutes pppRoutes
      (cfg.setOrder.list (setDiff wantRoutes haveRoutes)).forM fun pfx =>
        route cfg pfx rec.swIfIndex true
      (cfg.setOrder.list (setDiff haveRoutes wantRoutes)).forM fun pfx =>
        route cfg pfx rec.swIfIndex false
      if ¬ (haveRoutes ⊆ wantRoutes ∧ wantRoutes ⊆ haveRoutes) then
        setInstalled ((← get).installed.set s.sessionKey
          { rec with routes := cfg.sortOrder.list wantRoutes })

def delSession (cfg : Config) (key : SessionKey) : SyncM Unit := do
  match (← get).installed.get? key with
  | none => throw .keyError
  | some rec =>
      rec.routes.forM fun pfx => route cfg pfx rec.swIfIndex false
      let _ ← callApi cfg (.sessionAddDel false rec.tunnelIndex rec.localSid
        rec.peerSid false false)
      setInstalled ((← get).installed.erase key)

def pruneTunnels (cfg : Config) : SyncM Unit := do
  let reply ← callApi cfg .sessionDump
  let live := reply.sessionDetails.map fun s => some s.tunnelIndex
  let tunnels ← vppTunnels cfg
  tunnels.items.forM fun entry =>
    if entry.2 ∈ live then return
    else do
      let _ ← callApi cfg (.tunnelAddDel false cfg.localIp entry.1.1
        cfg.localPort entry.1.2.1 entry.1.2.2 0)

/-! ## The reconcile pass -/

/-- The arguments of one pass and what the kernel answers during it. -/
structure Pass where
  ksessions : List KSession
  syncExistingRoutes : Bool
  pppRoutes : PppRoutes

/-- A later entry with the same key replaces an earlier one in its place. -/
def wantSessions (ksessions : List KSession) : Dict SessionKey KSession :=
  Dict.empty.setAll KSession.sessionKey id
    (ksessions.filter KSession.hasIfname)

/-- One round of the first loop: the number of sessions added so far and the
tunnels cache. -/
def reconcileSession (cfg : Config) (pass : Pass) (acc : Nat × TunnelsCache)
    (entry : SessionKey × KSession) : SyncM (Nat × TunnelsCache) := do
  if ((← get).installed.get? entry.1).isNone then
    let cache ← addSession cfg pass.pppRoutes entry.2 acc.2
    return (acc.1 + 1, cache)
  else
    if pass.syncExistingRoutes then syncRoutes cfg pass.pppRoutes entry.2
    return acc

def removeSession (cfg : Config) (want : Dict SessionKey KSession)
    (removed : Nat) (key : SessionKey) : SyncM Nat := do
  if (want.get? key).isNone then
    delSession cfg key
    return removed + 1
  else return removed

def reconcile (cfg : Config) (pass : Pass) : SyncM (Nat × Nat) := do
  let want := wantSessions pass.ksessions
  let tunnelsCache ← vppTunnels cfg
  let (added, _) ←
    want.items.foldlM (reconcileSession cfg pass) (0, tunnelsCache)
  let removed ← (← get).installed.keys.foldlM (removeSession cfg want) 0
  if removed ≠ 0 then pruneTunnels cfg
  saveState cfg
  return (added, removed)

/-! ## Runs -/

def World.startPass (w : World) : World := { w with calls := [] }

/-- The state after a pass that returns and whose calls all succeed. -/
def passOk (cfg : Config) (w : World) (pass : Pass) : Option World :=
  match exec (reconcile cfg pass) w.startPass with
  | (.ok _, w') => if w'.allOk then some w' else none
  | (.error _, _) => none

def World.initial (hwInterfaces : Pool HwInterface)
    (swInterfaces : Pool SwInterface) : World where
  vpp := Vpp.initial hwInterfaces swInterfaces
  installed := Dict.empty
  stateFile := none
  calls := []
  interrupt := none

end L2tvpp.Syncd
