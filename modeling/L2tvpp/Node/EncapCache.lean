import L2tvpp.Plugin.Consistency
import L2tvpp.Node.EncapFastpath

/-!
# The encap cache against the FIB

The cache that `l2tvpp-encap-fastpath` forwards by is a second copy of the
subscriber routes.  It agrees with them as long as no session is deleted while
the cache still has an entry on its interface: the delete path does not look at
the cache.
-/

namespace L2tvpp.Node

open L2tvpp.Lib
open L2tvpp.Plugin

/-! ## Locks of the plugin -/

def PluginLocked (v : Vpp) (ai : AdjIndex) : Prop :=
  ∃ adj, v.adjacencies.get? ai = some adj ∧ 0 < adj.pluginLocks

section Locks

variable {v : Vpp} {ai other : AdjIndex}

theorem pluginLocked_updateAdj (h : PluginLocked v other) :
    PluginLocked (l2tvppUpdateAdj v ai) other := by
  obtain ⟨adj, hadj, hpos⟩ := h
  rcases l2tvppUpdateAdj_cases v ai with
    heq | ⟨si, sess, t, rewrite, csum, -, -, -, -, heq⟩
  · rw [heq]
    exact ⟨adj, hadj, hpos⟩
  · rw [heq, PluginLocked, Dict.get?_modify, hadj]
    split
    · exact ⟨_, rfl, hpos⟩
    · exact ⟨_, rfl, hpos⟩

theorem pluginLocked_set {adj : IpAdjacency} (h : PluginLocked v other)
    (hle : ∀ old, v.adjacencies.get? ai = some old →
      old.pluginLocks ≤ adj.pluginLocks) :
    PluginLocked (v.setAdjacencies (v.adjacencies.set ai adj)) other := by
  obtain ⟨old, hold, hpos⟩ := h
  rw [PluginLocked, Vpp.setAdjacencies, Dict.get?_set]
  split
  · rename_i heq
    subst heq
    exact ⟨adj, rfl, hpos.trans_le (hle old hold)⟩
  · exact ⟨old, hold, hpos⟩

theorem pluginLocked_adjNbrAddOrLock {owner : LockOwner}
    (h : PluginLocked v other) :
    PluginLocked (adjNbrAddOrLock v ai owner) other := by
  unfold adjNbrAddOrLock
  split
  · rename_i adj hadj
    apply pluginLocked_set h
    intro old hold
    rw [hadj] at hold
    cases hold
    cases owner <;> simp [IpAdjacency.lock]
  · rename_i hnone
    apply pluginLocked_updateAdj
    apply pluginLocked_set h
    intro old hold
    rw [hnone] at hold
    contradiction

theorem pluginLocked_self : PluginLocked (adjNbrAddOrLock v ai .plugin) ai := by
  unfold adjNbrAddOrLock
  split
  · refine ⟨_, by rw [Vpp.setAdjacencies, Dict.get?_set, if_pos rfl], ?_⟩
    simp [IpAdjacency.lock]
  · apply pluginLocked_updateAdj
    refine ⟨_, by rw [Vpp.setAdjacencies, Dict.get?_set, if_pos rfl], ?_⟩
    simp [IpAdjacency.lock]

theorem pluginLocked_adjUnlock {owner : LockOwner} (h : PluginLocked v other)
    (howner : owner = .plugin → other ≠ ai) :
    PluginLocked (adjUnlock v ai owner) other := by
  unfold adjUnlock
  split
  · exact h
  · rename_i adj hadj
    obtain ⟨old, hold, hpos⟩ := h
    dsimp only
    by_cases heq : other = ai
    · subst heq
      rw [hadj] at hold
      cases hold
      cases owner with
      | plugin => exact absurd rfl (howner rfl)
      | other =>
          rw [if_neg (by simp [IpAdjacency.unlock]; omega)]
          refine ⟨_, by rw [Vpp.setAdjacencies, Dict.get?_set, if_pos rfl], ?_⟩
          exact hpos
    · refine ⟨old, ?_, hpos⟩
      split
      · rw [Vpp.setAdjacencies, Dict.get?_erase, if_neg heq, hold]
      · rw [Vpp.setAdjacencies, Dict.get?_set, if_neg heq, hold]

end Locks

/-! ## The invariant -/

/-- Every entry is the neighbour adjacency of its address on the interface of a
live session, and the address is routed to that interface. -/
def CacheFresh (v : Vpp) : Prop :=
  ∀ ip4 ai, v.lm.encapAdjByIp4.lookup (encapKey ip4) = some ai →
    ai = subscriberAdj ip4 ai.swIfIndex ∧
    (FibPrefix.host ip4, ai.swIfIndex) ∈ v.fib ∧
    (∃ index, v.lm.sessionIndexOf ai.swIfIndex = some index) ∧
    PluginLocked v ai

/-- Steps that leave cache and routes alone and take no session away. -/
structure CacheKept (v v' : Vpp) : Prop where
  routes : SameRoutes v v'
  session : ∀ {swIfIndex index : Nat},
    v.lm.sessionIndexOf swIfIndex = some index →
    ∃ index', v'.lm.sessionIndexOf swIfIndex = some index'
  locked : ∀ {ai : AdjIndex}, PluginLocked v ai → PluginLocked v' ai

namespace CacheFresh

variable {P : Policies} {v v' : Vpp}

theorem of_kept (h : CacheFresh v) (hkept : CacheKept v v') :
    CacheFresh v' := by
  intro ip4 ai hai
  rw [hkept.routes.1] at hai
  obtain ⟨hshape, hroute, ⟨index, hindex⟩, hlocked⟩ := h ip4 ai hai
  rw [hkept.routes.2]
  exact ⟨hshape, hroute, hkept.session hindex, hkept.locked hlocked⟩

theorem adjNbrAddOrLock (h : CacheFresh v) (ai : AdjIndex)
    (owner : LockOwner) : CacheFresh (adjNbrAddOrLock v ai owner) := by
  refine h.of_kept ⟨sameRoutes_adjNbrAddOrLock v ai owner, ?_, ?_⟩
  · intro swIfIndex index hindex
    exact ⟨index, by
      rw [(sameStore_adjNbrAddOrLock v ai owner).sessionIndexOf, hindex]⟩
  · exact pluginLocked_adjNbrAddOrLock

theorem updateAdj (h : CacheFresh v) (ai : AdjIndex) :
    CacheFresh (l2tvppUpdateAdj v ai) := by
  refine h.of_kept ⟨sameRoutes_l2tvppUpdateAdj v ai, ?_, ?_⟩
  · intro swIfIndex index hindex
    exact ⟨index, by
      rw [(sameStore_l2tvppUpdateAdj v ai).sessionIndexOf, hindex]⟩
  · exact pluginLocked_updateAdj

theorem adjRelease (h : CacheFresh v) (ai : AdjIndex) :
    CacheFresh (adjUnlock v ai .other) := by
  refine h.of_kept ⟨sameRoutes_adjUnlock v ai .other, ?_, ?_⟩
  · intro swIfIndex index hindex
    exact ⟨index, by
      rw [(sameStore_adjUnlock v ai .other).sessionIndexOf, hindex]⟩
  · exact fun hlocked => pluginLocked_adjUnlock hlocked (by simp)

theorem sessionAdd (h : CacheFresh v) {tunnelIndex : Nat} {t : L2tvppTunnel}
    {localSid peerSid : U16} {acfc pfc : U8} :
    CacheFresh (v.sessionAdd P tunnelIndex t localSid peerSid acfc pfc) := by
  refine h.of_kept ⟨⟨rfl, rfl⟩, ?_, fun hlocked => hlocked⟩
  intro swIfIndex index hindex
  rw [sessionAdd_sessionIndexOf]
  split
  · exact ⟨_, rfl⟩
  · exact ⟨index, hindex⟩

/-- A session delete keeps the cache fresh when no entry is on its interface:
the entries' own interfaces keep their sessions. -/
theorem sessionDel (h : CacheFresh v) {tunnelIndex : Nat} {key : U64}
    {index : Nat} {sess : L2tvppSession}
    (hwithdrawn : ∀ ip4 ai,
      v.lm.encapAdjByIp4.lookup (encapKey ip4) = some ai →
      ai.swIfIndex ≠ sess.swIfIndex) :
    CacheFresh (v.sessionDel tunnelIndex key index sess) := by
  intro ip4 ai hai
  have hai' : v.lm.encapAdjByIp4.lookup (encapKey ip4) = some ai := by
    rw [sessionDel_lm] at hai
    exact hai
  obtain ⟨hshape, hroute, ⟨si, hsi⟩, adj, hadj, hpos⟩ := h ip4 ai hai'
  refine ⟨hshape, ?_, ⟨si, ?_⟩, ?_⟩
  · simpa [Vpp.sessionDel, removeDelegates] using hroute
  · rw [sessionDel_sessionIndexOf, if_neg (hwithdrawn ip4 ai hai'), hsi]
  · simp only [PluginLocked, Vpp.sessionDel, removeDelegates,
      vnetDeleteHwInterface_adjacencies, Dict.get?_map, hadj]
    refine ⟨_, rfl, ?_⟩
    split <;> exact hpos

theorem locked_encapAdjAddDel {pfx : FibPrefix} {swIfIndex : Nat}
    {isAdd : Bool} {ai : AdjIndex} (hlocked : PluginLocked v ai)
    (hshape : ∀ ip4 ai,
      v.lm.encapAdjByIp4.lookup (encapKey ip4) = some ai →
      ai = subscriberAdj ip4 ai.swIfIndex)
    (hother : isAdd = false → pfx.isHost4 = true →
      ∀ s, ai ≠ subscriberAdj pfx.addr.ip4 s) :
    PluginLocked (l2tvppEncapAdjAddDel v pfx swIfIndex isAdd) ai := by
  unfold l2tvppEncapAdjAddDel
  split
  · rename_i hhost
    cases isAdd with
    | true =>
        have hkept : PluginLocked (Plugin.adjNbrAddOrLock v
            (subscriberAdj pfx.addr.ip4 swIfIndex) .plugin) ai :=
          pluginLocked_adjNbrAddOrLock hlocked
        exact hkept
    | false =>
        rw [if_neg (by simp)]
        unfold l2tvppEncapAdjDel
        dsimp only
        split
        · exact hlocked
        · rename_i cached hcached
          apply pluginLocked_adjUnlock
          · exact hlocked
          · rintro - rfl
            exact hother rfl hhost _ (hshape _ ai hcached)
  · exact hlocked

theorem routeAddDel (h : CacheFresh v) {pfx : FibPrefix} {swIfIndex : Nat}
    {isAdd : Bool} (hroute : l2tvppRouteAddDel v pfx swIfIndex isAdd = .ok v') :
    CacheFresh v' := by
  obtain ⟨⟨si, hsi⟩, hfib, hcache⟩ := l2tvppRouteAddDel_ok hroute
  have hsame := sameStore_l2tvppRouteAddDel hroute
  have hv' : v' = l2tvppEncapAdjAddDel
      { v with fib := if isAdd then insert (pfx.key, swIfIndex) v.fib
                      else v.fib.erase (pfx.key, swIfIndex) }
      pfx swIfIndex isAdd := by
    rw [l2tvppRouteAddDel, hsi] at hroute
    exact (Except.ok.inj hroute).symm
  have hshape : ∀ ip4 ai,
      v.lm.encapAdjByIp4.lookup (encapKey ip4) = some ai →
      ai = subscriberAdj ip4 ai.swIfIndex := fun ip4 ai hai => (h ip4 ai hai).1
  intro ip4 ai hai
  rw [hcache, cacheAfter] at hai
  rw [hsame.sessionIndexOf]
  split at hai
  · -- the entry of the prefix itself
    rename_i hpfx
    obtain ⟨hhost, rfl⟩ := hpfx
    cases isAdd with
    | false => contradiction
    | true =>
        cases hai
        refine ⟨rfl, ?_, ⟨si, hsi⟩, ?_⟩
        · rw [hfib, FibPrefix.key_of_isHost4 hhost]
          exact Finset.mem_insert_self _ _
        · rw [hv', l2tvppEncapAdjAddDel, if_pos hhost]
          have hself : PluginLocked (Plugin.adjNbrAddOrLock
              { v with fib := insert (pfx.key, swIfIndex) v.fib }
              (subscriberAdj pfx.addr.ip4 swIfIndex) .plugin)
              (subscriberAdj pfx.addr.ip4 swIfIndex) := pluginLocked_self
          exact hself
  · rename_i hpfx
    obtain ⟨hown, hold, hsession, hlocked⟩ := h ip4 ai hai
    refine ⟨hown, ?_, hsession, ?_⟩
    · rw [hfib]
      cases isAdd with
      | true => exact Finset.mem_insert_of_mem hold
      | false =>
          refine Finset.mem_erase.mpr ⟨?_, hold⟩
          intro heq
          obtain ⟨hkey, -⟩ := Prod.mk.inj heq
          exact hpfx (FibPrefix.eq_of_key_eq_host hkey)
    · rw [hv']
      refine locked_encapAdjAddDel hlocked hshape ?_
      intro _ hhost s heq
      rw [hown] at heq
      have hip4 : ip4 = pfx.addr.ip4 := congrArg (fun ai => ai.nh.ip4) heq
      exact hpfx ⟨hhost, hip4⟩

end CacheFresh

/-! ## Whole runs -/

/-- A session delete that finds a session comes after the routes on its
interface have been withdrawn from the cache. -/
def withdrawnBeforeDelete (v : Vpp) : Call → Bool
  | .sessionAddDel tunnelIndex localSid _ _ _ false =>
      match v.lm.tunnels.elt? tunnelIndex with
      | none => true
      | some t =>
          match v.lm.sessionByKey.lookup
            (l2tvppSessionKey t.localTid localSid) with
          | none => true
          | some index =>
              match v.lm.sessions.elt? index with
              | none => true
              | some sess =>
                  v.lm.encapAdjByIp4.entries.all fun entry =>
                    entry.2.swIfIndex != sess.swIfIndex
  | _ => true

theorem cacheFresh_step (P : Policies) {v : Vpp} {call : Call}
    (h : CacheFresh v) (hguard : withdrawnBeforeDelete v call = true) :
    CacheFresh (step P v call) := by
  cases call with
  | tunnelAddDel localIp peerIp localPort peerPort localTid peerTid isAdd =>
      simp only [step]
      split
      · exact h
      · rename_i out v' hok
        rcases l2tvppTunnelAddDel_ok hok with
          ⟨-, -, -, -, -, rfl⟩ | ⟨-, -, index, t, -, -, rfl⟩
        · exact h
        · exact h
  | sessionAddDel tunnelIndex localSid peerSid acfc pfc isAdd =>
      simp only [step]
      split
      · exact h
      · rename_i out v' hok
        obtain ⟨t, ht, ⟨-, -, -, rfl⟩ |
          ⟨rfl, -, index, sess, hkey, hsess, rfl⟩⟩ := l2tvppSessionAddDel_ok hok
        · exact h.sessionAdd
        · simp only [withdrawnBeforeDelete, ht, hkey, hsess,
            List.all_eq_true, bne_iff_ne] at hguard
          apply h.sessionDel
          intro ip4 ai hai
          exact hguard ⟨encapKey ip4, ai⟩ (AList.mem_lookup_iff.mp hai)
  | routeAddDel pfx swIfIndex isAdd =>
      simp only [step]
      split
      · exact h
      · rename_i v' hok
        exact h.routeAddDel hok
  | adjAdd ai => exact h.adjNbrAddOrLock ai .other
  | adjUpdate ai => exact h.updateAdj ai
  | adjRelease ai => exact h.adjRelease ai
  | interfaceAdd => exact h
  | interfaceDel hwIfIndex =>
      simp only [step]
      split
      · exact h
      · refine h.of_kept ⟨?_, ?_, ?_⟩
        · simp [SameRoutes]
        · intro swIfIndex index hindex
          exact ⟨index, by rw [vnetDeleteHwInterface_lm, hindex]⟩
        · simp [PluginLocked]
  | innerChecksum noChecksum => exact h

/-- In every run whose session deletes come after the withdrawal of their
routes, a frame the fast path sends to an adjacency is routed to the interface
of that adjacency, and the interface is that of a live session. -/
theorem encapFastpath_not_stale (P : Policies)
    (hwInterfaces : Pool HwInterface) (swInterfaces : Pool SwInterface)
    (calls : List Call)
    (hguard : Guarded (step P) withdrawnBeforeDelete
      (Vpp.initial hwInterfaces swInterfaces) calls) :
    let v := runCalls P hwInterfaces swInterfaces calls
    ∀ b result, l2tvppEncapFastpath v.lm b = .ok result →
      result.next = .ip4Midchain →
      ∃ dst l2Len swIfIndex,
        l2tvppEncapPeekDst b.current b.currentLength.toNat =
          .ok (some (dst, l2Len)) ∧
        result.buffer.adjIndexTx = some (subscriberAdj dst swIfIndex) ∧
        (∃ adj, v.adjacencies.get? (subscriberAdj dst swIfIndex) =
          some adj) ∧
        (∃ index sess, v.lm.sessions.elt? index = some sess ∧
          sess.swIfIndex = swIfIndex) ∧
        (FibPrefix.host dst, swIfIndex) ∈ v.fib := by
  intro v b result hresult hnext
  obtain ⟨hstore, hfresh⟩ : StoreInv v ∧ CacheFresh v := by
    refine run_invariant_of_guarded (step P)
      (fun v => StoreInv v ∧ CacheFresh v) ?_ ?_ hguard
    · intro v call _ hcall h
      exact ⟨h.1.storeStep (storeStep_step P v call),
        cacheFresh_step P h.2 hcall⟩
    · refine ⟨StoreInv.initial hwInterfaces swInterfaces, ?_⟩
      intro ip4 ai hai
      contradiction
  obtain ⟨l2Len, ai, hpeek, htx, hai⟩ :=
    l2tvppEncapFastpath_midchain hresult hnext
  obtain ⟨hshape, hroute, ⟨index, hindex⟩, adj, hadj, -⟩ :=
    hfresh result.dst ai hai
  rw [hshape] at htx hadj
  exact ⟨result.dst, l2Len, ai.swIfIndex, hpeek, htx, ⟨adj, hadj⟩,
    ⟨index, hstore.bySwIfIndex.some_iff.mp hindex⟩, hroute⟩

def oneSubscriber : List Call :=
  [.tunnelAddDel (Ip46.ofIp4 0x0a000001) (Ip46.ofIp4 0x0a000002) 1701 1701 100
    200 true,
   .sessionAddDel 0 7 8 0 0 true,
   .routeAddDel (FibPrefix.host 0x0a010001) 0 true]

def subscriberFrame : VlibBuffer :=
  bufferOf [0, 0, 0, 0, 0, 1, 0, 0, 0, 0, 0, 2, 0x08, 0x00, 0x45, 0, 0, 20, 0, 0,
    0, 0, 64, 17, 0, 0, 192, 0, 2, 1, 10, 1, 0, 1]

/-- The route is withdrawn, the session goes, and another one gets its interface
and its address. -/
def reusedInterface : List Call :=
  oneSubscriber ++
    [.routeAddDel (FibPrefix.host 0x0a010001) 0 false,
     .sessionAddDel 0 7 8 0 0 false,
     .sessionAddDel 0 9 10 0 0 true,
     .routeAddDel (FibPrefix.host 0x0a010001) 0 true]

theorem encapFastpath_not_stale_reusedInterface :
    let v := runCalls Policies.lifo Pool.empty Pool.empty reusedInterface
    ∃ result dst l2Len swIfIndex,
      l2tvppEncapFastpath v.lm subscriberFrame = .ok result ∧
      l2tvppEncapPeekDst subscriberFrame.current
        subscriberFrame.currentLength.toNat = .ok (some (dst, l2Len)) ∧
      result.buffer.adjIndexTx = some (subscriberAdj dst swIfIndex) ∧
      (∃ adj, v.adjacencies.get? (subscriberAdj dst swIfIndex) = some adj) ∧
      (∃ index sess, v.lm.sessions.elt? index = some sess ∧
        sess.swIfIndex = swIfIndex) ∧
      (FibPrefix.host dst, swIfIndex) ∈ v.fib := by
  intro v
  have hresult : l2tvppEncapFastpath v.lm subscriberFrame =
      .ok ⟨midchainBuffer subscriberFrame 14 (subscriberAdj 0x0a010001 0),
        .ip4Midchain, 0x0a010001, true⟩ := rfl
  obtain ⟨dst, l2Len, swIfIndex, hleads⟩ :=
    encapFastpath_not_stale Policies.lifo Pool.empty Pool.empty reusedInterface
      (by decide) subscriberFrame _ hresult rfl
  exact ⟨_, dst, l2Len, swIfIndex, hresult, hleads⟩

/-- The session goes without its route being withdrawn; frames to the
subscriber still go to the adjacency on the deleted interface. -/
theorem encapFastpath_stale_after_delete :
    let v := runCalls Policies.lifo Pool.empty Pool.empty
      (oneSubscriber ++ [.sessionAddDel 0 7 8 0 0 false])
    ∃ result, l2tvppEncapFastpath v.lm subscriberFrame = .ok result ∧
      result.next = .ip4Midchain ∧
      result.buffer.adjIndexTx = some (subscriberAdj 0x0a010001 0) ∧
      ¬ ∃ index sess, v.lm.sessions.elt? index = some sess ∧
        sess.swIfIndex = 0 := by
  intro v
  have hresult : l2tvppEncapFastpath v.lm subscriberFrame =
      .ok ⟨midchainBuffer subscriberFrame 14 (subscriberAdj 0x0a010001 0),
        .ip4Midchain, 0x0a010001, true⟩ := rfl
  refine ⟨_, hresult, rfl, rfl, ?_⟩
  rintro ⟨index, sess, hsess, -⟩
  have hmem := (Pool.mem_toList v.lm.sessions).mpr hsess
  have hempty : v.lm.sessions.toList = [] := by decide
  rw [hempty] at hmem
  contradiction

end L2tvpp.Node
