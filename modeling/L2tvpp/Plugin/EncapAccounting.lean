import L2tvpp.Plugin.Calls

/-!
# Accounts of the encap cache

Every entry of the cache is counted once and holds one lock of the plugin on its
adjacency.  Adding a host route whose address is in the cache already breaks
both: the entry is replaced, and neither is its lock released nor does the
counter know.
-/

namespace L2tvpp.Plugin

open L2tvpp.Lib

/-! ## The locks the plugin takes and releases -/

/-- The adjacencies on which a call makes the plugin call
`adj_nbr_add_or_lock`. -/
def lockCalls (v : Vpp) : Call → List AdjIndex
  | .routeAddDel pfx swIfIndex true =>
      match v.lm.sessionIndexOf swIfIndex with
      | none => []
      | some _ =>
          if pfx.isHost4 then [subscriberAdj pfx.addr.ip4 swIfIndex] else []
  | _ => []

/-- Those on which it makes the plugin call `adj_unlock`. -/
def unlockCalls (v : Vpp) : Call → List AdjIndex
  | .routeAddDel pfx swIfIndex false =>
      match v.lm.sessionIndexOf swIfIndex with
      | none => []
      | some _ =>
          if pfx.isHost4 then
            (v.lm.encapAdjByIp4.lookup (encapKey pfx.addr.ip4)).toList
          else []
  | _ => []

/-- A state with a record of all those calls. -/
structure Audit where
  vpp : Vpp
  locked : AdjIndex → Nat
  unlocked : AdjIndex → Nat

def Audit.initial (v : Vpp) : Audit := ⟨v, fun _ => 0, fun _ => 0⟩

def auditStep (P : Policies) (audit : Audit) (call : Call) : Audit where
  vpp := step P audit.vpp call
  locked ai := audit.locked ai + (lockCalls audit.vpp call).count ai
  unlocked ai := audit.unlocked ai + (unlockCalls audit.vpp call).count ai

def Vpp.pluginLocks (v : Vpp) (ai : AdjIndex) : Nat :=
  (v.adjacencies.get? ai).elim 0 IpAdjacency.pluginLocks

section Locks

variable (v : Vpp) (ai other : AdjIndex)

theorem pluginLocks_set (adj : IpAdjacency) :
    (v.setAdjacencies (v.adjacencies.set ai adj)).pluginLocks other =
      if other = ai then adj.pluginLocks else v.pluginLocks other := by
  simp only [Vpp.pluginLocks, Vpp.setAdjacencies, Dict.get?_set]
  by_cases heq : other = ai
  · simp [heq]
  · simp [heq]

theorem pluginLocks_updateAdj :
    (l2tvppUpdateAdj v ai).pluginLocks other = v.pluginLocks other := by
  rcases l2tvppUpdateAdj_cases v ai with
    h | ⟨si, sess, t, rewrite, csum, -, -, -, -, h⟩
  · rw [h]
  · rw [h]
    simp only [Vpp.pluginLocks, Dict.get?_modify]
    by_cases heq : other = ai
    · rw [if_pos heq]
      cases v.adjacencies.get? other <;> rfl
    · rw [if_neg heq]

theorem pluginLocks_adjNbrAddOrLock (owner : LockOwner) :
    (adjNbrAddOrLock v ai owner).pluginLocks other =
      v.pluginLocks other +
        (if owner = .plugin ∧ other = ai then 1 else 0) := by
  unfold adjNbrAddOrLock
  split
  · rename_i adj hadj
    rw [pluginLocks_set]
    split
    · rename_i heq
      subst heq
      simp only [Vpp.pluginLocks, hadj]
      cases owner <;> simp [IpAdjacency.lock]
    · rename_i hne
      simp [hne]
  · rename_i hnone
    dsimp only
    rw [pluginLocks_updateAdj, pluginLocks_set]
    split
    · rename_i heq
      subst heq
      simp only [Vpp.pluginLocks, hnone]
      cases owner <;> simp [IpAdjacency.lock]
    · rename_i hne
      simp [hne]

theorem pluginLocks_adjUnlock (owner : LockOwner) :
    (adjUnlock v ai owner).pluginLocks other =
      v.pluginLocks other -
        (if owner = .plugin ∧ other = ai then 1 else 0) := by
  unfold adjUnlock
  split
  · rename_i hnone
    by_cases heq : other = ai
    · subst heq
      simp [Vpp.pluginLocks, hnone]
    · simp [heq]
  · rename_i adj hadj
    dsimp only
    by_cases heq : other = ai
    · subst heq
      have hunlock : (adj.unlock owner).pluginLocks = v.pluginLocks other -
          (if owner = .plugin ∧ other = other then 1 else 0) := by
        simp only [Vpp.pluginLocks, hadj]
        cases owner <;> simp [IpAdjacency.unlock]
      split
      · rename_i hfree
        rw [← hunlock, hfree.1]
        simp [Vpp.pluginLocks, Vpp.setAdjacencies, Dict.get?_erase]
      · rw [pluginLocks_set, if_pos rfl, hunlock]
    · split
      · simp [Vpp.pluginLocks, Vpp.setAdjacencies, Dict.get?_erase, heq]
      · rw [pluginLocks_set, if_neg heq]
        simp [heq]

end Locks

/-! ## What a step does to the accounts -/

structure AccountsKept (v v' : Vpp) : Prop where
  cache : v'.lm.encapAdjByIp4 = v.lm.encapAdjByIp4
  count : v'.lm.encapAdjCount = v.lm.encapAdjCount
  locks : ∀ ai, v'.pluginLocks ai = v.pluginLocks ai

theorem AccountsKept.refl (v : Vpp) : AccountsKept v v :=
  ⟨rfl, rfl, fun _ => rfl⟩

/-- Everything a call can do to the cache, its counter and the locks. -/
inductive AccountStep (v : Vpp) (call : Call) (v' : Vpp) : Prop
  | kept (hkept : AccountsKept v v') (hlock : lockCalls v call = [])
      (hunlock : unlockCalls v call = [])
  | added {ip4 : U32} {swIfIndex : Nat}
      (hcache : v'.lm.encapAdjByIp4 = v.lm.encapAdjByIp4.insert (encapKey ip4)
        (subscriberAdj ip4 swIfIndex))
      (hcount : v'.lm.encapAdjCount = v.lm.encapAdjCount + 1)
      (hlocks : ∀ ai, v'.pluginLocks ai = v.pluginLocks ai +
        (if ai = subscriberAdj ip4 swIfIndex then 1 else 0))
      (hcall : ∃ pfx, call = .routeAddDel pfx swIfIndex true ∧
        pfx.isHost4 = true ∧ pfx.addr.ip4 = ip4 ∧
        ∃ index, v.lm.sessionIndexOf swIfIndex = some index)
      (hlock : lockCalls v call = [subscriberAdj ip4 swIfIndex])
      (hunlock : unlockCalls v call = [])
  | removed {ip4 : U32} {cached : AdjIndex}
      (hlookup : v.lm.encapAdjByIp4.lookup (encapKey ip4) = some cached)
      (hcache : v'.lm.encapAdjByIp4 = v.lm.encapAdjByIp4.erase (encapKey ip4))
      (hcount : v'.lm.encapAdjCount =
        if v.lm.encapAdjCount ≠ 0 then v.lm.encapAdjCount - 1
        else v.lm.encapAdjCount)
      (hlocks : ∀ ai, v'.pluginLocks ai = v.pluginLocks ai -
        (if ai = cached then 1 else 0))
      (hlock : lockCalls v call = []) (hunlock : unlockCalls v call = [cached])

theorem accountsKept_updateAdj (v : Vpp) (ai : AdjIndex) :
    AccountsKept v (l2tvppUpdateAdj v ai) := by
  refine ⟨(sameRoutes_l2tvppUpdateAdj v ai).1, ?_,
    fun other => pluginLocks_updateAdj v ai other⟩
  rcases l2tvppUpdateAdj_cases v ai with
    h | ⟨si, sess, t, rewrite, csum, -, -, -, -, h⟩
  · rw [h]
  · rw [h]

theorem encapAdjCount_adjNbrAddOrLock (v : Vpp) (ai : AdjIndex)
    (owner : LockOwner) :
    (adjNbrAddOrLock v ai owner).lm.encapAdjCount = v.lm.encapAdjCount := by
  unfold adjNbrAddOrLock
  split
  · rfl
  · exact (accountsKept_updateAdj _ ai).count

theorem encapAdjCount_adjUnlock (v : Vpp) (ai : AdjIndex) (owner : LockOwner) :
    (adjUnlock v ai owner).lm.encapAdjCount = v.lm.encapAdjCount := by
  unfold adjUnlock
  split
  · rfl
  · dsimp only
    split <;> rfl

theorem accountStep_routeAddDel {v v' : Vpp} {pfx : FibPrefix} {swIfIndex : Nat}
    {isAdd : Bool} (h : l2tvppRouteAddDel v pfx swIfIndex isAdd = .ok v') :
    AccountStep v (.routeAddDel pfx swIfIndex isAdd) v' := by
  unfold l2tvppRouteAddDel at h
  split at h
  · cases h
  · rename_i index hindex
    cases h
    unfold l2tvppEncapAdjAddDel
    cases hhost : pfx.isHost4 with
    | false =>
        rw [if_neg (by simp)]
        refine .kept ⟨rfl, rfl, fun _ => rfl⟩ ?_ ?_
        · cases isAdd <;> simp [lockCalls, hindex, hhost]
        · cases isAdd <;> simp [unlockCalls, hindex, hhost]
    | true =>
        rw [if_pos rfl]
        cases isAdd with
        | true =>
            rw [if_pos rfl]
            refine .added ?_ ?_ ?_ ⟨pfx, rfl, hhost, rfl, index, hindex⟩ ?_ rfl
            · exact congrArg (AList.insert (encapKey pfx.addr.ip4) _)
                (sameRoutes_adjNbrAddOrLock _ _ .plugin).1
            · exact congrArg (· + 1) (encapAdjCount_adjNbrAddOrLock _ _ .plugin)
            · intro ai
              have hlocks := pluginLocks_adjNbrAddOrLock { v with
                fib := insert (pfx.key, swIfIndex) v.fib }
                (subscriberAdj pfx.addr.ip4 swIfIndex) ai .plugin
              simp only [true_and] at hlocks
              exact hlocks
            · simp [lockCalls, hindex, hhost]
        | false =>
            rw [if_neg (by simp)]
            unfold l2tvppEncapAdjDel
            dsimp only
            split
            · rename_i hnone
              refine .kept ⟨rfl, rfl, fun _ => rfl⟩ rfl ?_
              simp [unlockCalls, hindex, hhost, hnone]
            · rename_i cached hcached
              refine .removed hcached (sameRoutes_adjUnlock _ _ .plugin).1
                (encapAdjCount_adjUnlock _ _ .plugin) ?_ rfl ?_
              · intro ai
                rw [pluginLocks_adjUnlock]
                simp only [true_and]
                rfl
              · simp [unlockCalls, hindex, hhost, hcached]

theorem accountStep_step (P : Policies) (v : Vpp) (call : Call) :
    AccountStep v call (step P v call) := by
  cases call with
  | routeAddDel pfx swIfIndex isAdd =>
      simp only [step]
      split
      · rename_i error herror
        have hnone : v.lm.sessionIndexOf swIfIndex = none := by
          unfold l2tvppRouteAddDel at herror
          split at herror
          · assumption
          · cases herror
        refine .kept (AccountsKept.refl v) ?_ ?_
        · cases isAdd <;> simp [lockCalls, hnone]
        · cases isAdd <;> simp [unlockCalls, hnone]
      · rename_i v' hok
        exact accountStep_routeAddDel hok
  | tunnelAddDel localIp peerIp localPort peerPort localTid peerTid isAdd =>
      refine .kept ?_ rfl rfl
      simp only [step]
      split
      · exact AccountsKept.refl v
      · rename_i out v' hok
        rcases l2tvppTunnelAddDel_ok hok with
          ⟨-, -, -, -, -, rfl⟩ | ⟨-, -, index, t, -, -, rfl⟩
        · exact ⟨rfl, rfl, fun _ => rfl⟩
        · exact ⟨rfl, rfl, fun _ => rfl⟩
  | sessionAddDel tunnelIndex localSid peerSid acfc pfc isAdd =>
      refine .kept ?_ rfl rfl
      simp only [step]
      split
      · exact AccountsKept.refl v
      · rename_i out v' hok
        obtain ⟨t, -, ⟨-, -, -, rfl⟩ | ⟨-, -, index, sess, -, -, rfl⟩⟩ :=
          l2tvppSessionAddDel_ok hok
        · exact ⟨rfl, rfl, fun _ => rfl⟩
        · refine ⟨?_, ?_, ?_⟩
          · rw [sessionDel_lm]
          · rw [sessionDel_lm]
          · intro ai
            simp only [Vpp.pluginLocks, Vpp.sessionDel, removeDelegates,
              vnetDeleteHwInterface_adjacencies, Dict.get?_map]
            cases v.adjacencies.get? ai with
            | none => rfl
            | some adj =>
                simp only [Option.map_some, Option.elim_some]
                split <;> rfl
  | adjAdd ai =>
      refine .kept ⟨(sameRoutes_adjNbrAddOrLock v ai .other).1,
        encapAdjCount_adjNbrAddOrLock v ai .other, ?_⟩ rfl rfl
      intro other
      simp [step, pluginLocks_adjNbrAddOrLock]
  | adjUpdate ai => exact .kept (accountsKept_updateAdj v ai) rfl rfl
  | adjRelease ai =>
      refine .kept ⟨(sameRoutes_adjUnlock v ai .other).1,
        encapAdjCount_adjUnlock v ai .other, ?_⟩ rfl rfl
      intro other
      simp [step, pluginLocks_adjUnlock]
  | interfaceAdd => exact .kept ⟨rfl, rfl, fun _ => rfl⟩ rfl rfl
  | interfaceDel hwIfIndex =>
      refine .kept ?_ rfl rfl
      simp only [step]
      split
      · exact AccountsKept.refl v
      · exact ⟨by simp, by simp, by simp [Vpp.pluginLocks]⟩
  | innerChecksum noChecksum => exact .kept ⟨rfl, rfl, fun _ => rfl⟩ rfl rfl

/-! ## The accounts -/

/-- How many entries of the cache point to an adjacency. -/
def Vpp.cachedOn (v : Vpp) (ai : AdjIndex) : Nat :=
  v.lm.encapAdjByIp4.entries.countP fun entry => entry.2 == ai

/-- The counter is the number of entries, and every entry holds one of the locks
that the plugin has taken and not released. -/
structure AccountsExact (audit : Audit) : Prop where
  count : audit.vpp.lm.encapAdjCount.toNat =
    audit.vpp.lm.encapAdjByIp4.entries.length
  balance : ∀ ai, (audit.locked ai : Int) - audit.unlocked ai =
    audit.vpp.cachedOn ai
  held : ∀ ai, audit.vpp.pluginLocks ai = audit.vpp.cachedOn ai

/-- An accepted route for an IPv4 host is for an address that is not in the
cache, and does not bring the cache to `2 ^ 32` entries. -/
def newHostRoute (v : Vpp) : Call → Bool
  | .routeAddDel pfx swIfIndex true =>
      match v.lm.sessionIndexOf swIfIndex with
      | none => true
      | some _ =>
          !pfx.isHost4 ||
            ((v.lm.encapAdjByIp4.lookup (encapKey pfx.addr.ip4)).isNone &&
              decide (v.lm.encapAdjByIp4.entries.length + 1 < 2 ^ 32))
  | _ => true

section Entries

variable {table : Bihash AdjIndex} {key : U64} {value : AdjIndex}

/-- The entry that an erase takes away, and what is left. -/
theorem entries_erase (h : table.lookup key = some value) :
    ∃ before after, table.entries = before ++ ⟨key, value⟩ :: after ∧
      (table.erase key).entries = before ++ after := by
  have hmem : key ∈ table.entries.keys := by
    have hkey : key ∈ table := AList.lookup_isSome.mp (by rw [h]; rfl)
    exact hkey
  obtain ⟨found, before, after, hbefore, hentries, herase⟩ :=
    List.exists_of_kerase hmem
  have hfound : found = value := by
    have hentry : (⟨key, found⟩ : (_ : U64) × AdjIndex) ∈ table.entries := by
      rw [hentries]
      simp
    have hlookup := AList.mem_lookup_iff.mpr hentry
    rw [h] at hlookup
    exact (Option.some.inj hlookup).symm
  subst hfound
  exact ⟨before, after, hentries, herase⟩

end Entries

theorem beq_count (cached ai : AdjIndex) :
    (if (cached == ai) = true then 1 else 0) = if ai = cached then 1 else 0 := by
  by_cases h : ai = cached
  · simp [h]
  · simp [h, Ne.symm h]

theorem accountsExact_step (P : Policies) {audit : Audit} {call : Call}
    (h : AccountsExact audit) (hguard : newHostRoute audit.vpp call = true) :
    AccountsExact (auditStep P audit call) := by
  cases accountStep_step P audit.vpp call with
  | kept hkept hlock hunlock =>
      have hcached : ∀ ai, (step P audit.vpp call).cachedOn ai =
          audit.vpp.cachedOn ai := by
        intro ai
        simp only [Vpp.cachedOn, hkept.cache]
      refine ⟨?_, ?_, ?_⟩
      · simp only [auditStep, hkept.count, hkept.cache, h.count]
      · intro ai
        simp only [auditStep, hlock, hunlock, List.count_nil, hcached,
          Nat.add_zero, h.balance]
      · intro ai
        simp only [auditStep, hkept.locks, hcached, h.held]
  | @added ip4 swIfIndex hcache hcount hlocks hcall hlock hunlock =>
      obtain ⟨pfx, rfl, hhost, rfl, index, hindex⟩ := hcall
      simp only [newHostRoute, hindex, hhost, Bool.not_true, Bool.false_or,
        Bool.and_eq_true, Option.isNone_iff_eq_none, decide_eq_true_eq] at hguard
      obtain ⟨hnew, hroom⟩ := hguard
      have hentries := AList.entries_insert_of_notMem
        (AList.lookup_eq_none.mp hnew)
        (b := subscriberAdj pfx.addr.ip4 swIfIndex)
      rw [← hcache] at hentries
      have hcached : ∀ ai, (step P audit.vpp (.routeAddDel pfx swIfIndex
          true)).cachedOn ai = audit.vpp.cachedOn ai +
            (if ai = subscriberAdj pfx.addr.ip4 swIfIndex then 1 else 0) := by
        intro ai
        simp only [Vpp.cachedOn, hentries, List.countP_cons, beq_count]
      refine ⟨?_, ?_, ?_⟩
      · simp only [auditStep, hcount, hentries, List.length_cons,
          BitVec.toNat_add, h.count]
        exact Nat.mod_eq_of_lt hroom
      · intro ai
        have hbalance := h.balance ai
        simp only [auditStep, hlock, hunlock, List.count_nil, hcached,
          List.count_singleton, beq_count]
        omega
      · intro ai
        simp only [auditStep, hlocks, hcached, h.held]
  | @removed ip4 cached hlookup hcache hcount hlocks hlock hunlock =>
      obtain ⟨before, after, hentries, herased⟩ := entries_erase hlookup
      rw [← hcache] at herased
      have hcached : ∀ ai, audit.vpp.cachedOn ai =
          (step P audit.vpp call).cachedOn ai +
            (if ai = cached then 1 else 0) := by
        intro ai
        simp only [Vpp.cachedOn, hentries, herased, List.countP_append,
          List.countP_cons, beq_count, Nat.add_assoc]
      have hlen : audit.vpp.lm.encapAdjByIp4.entries.length =
          (step P audit.vpp call).lm.encapAdjByIp4.entries.length + 1 := by
        rw [hentries, herased]
        simp
        omega
      have hcountNat := h.count
      refine ⟨?_, ?_, ?_⟩
      · have hpos : audit.vpp.lm.encapAdjCount ≠ 0 := by
          intro hzero
          rw [hzero] at hcountNat
          simp at hcountNat
          omega
        simp only [auditStep, hcount, if_pos hpos]
        bv_omega
      · intro ai
        have hbalance := h.balance ai
        rw [hcached] at hbalance
        simp only [auditStep, hlock, hunlock, List.count_nil,
          List.count_singleton, beq_count]
        omega
      · intro ai
        simp only [auditStep, hlocks]
        rw [h.held, hcached]
        omega

/-- In every run in which each accepted IPv4 host route is for an address that
is not in the cache yet, the accounts of the cache are exact. -/
theorem accountsExact_of_newHostRoutes (P : Policies)
    (hwInterfaces : Pool HwInterface) (swInterfaces : Pool SwInterface)
    (calls : List Call)
    (hguard : Guarded (step P) newHostRoute
      (Vpp.initial hwInterfaces swInterfaces) calls) :
    let audit := run (auditStep P)
      (Audit.initial (Vpp.initial hwInterfaces swInterfaces)) calls
    audit.vpp = runCalls P hwInterfaces swInterfaces calls ∧
      AccountsExact audit := by
  have hvpp : ∀ audit call, (auditStep P audit call).vpp =
      step P audit.vpp call := fun _ _ => rfl
  refine ⟨project_run Audit.vpp hvpp _ calls, ?_⟩
  refine run_invariant_of_guarded (auditStep P) AccountsExact ?_ ?_
    (guarded_project Audit.vpp hvpp hguard)
  · intro audit call _ hcall h
    exact accountsExact_step P h hcall
  · exact ⟨rfl, fun _ => rfl, fun _ => rfl⟩

/-- A subscriber's route, on the interface of a session. -/
def cachedSubscriber : List Call :=
  [.tunnelAddDel (Ip46.ofIp4 0x0a000001) (Ip46.ofIp4 0x0a000002) 1701 1701 100
    200 true,
   .sessionAddDel 0 7 8 0 0 true,
   .routeAddDel (FibPrefix.host 0x0a010001) 0 true]

theorem accountsExact_of_newHostRoutes_replaced :
    let calls := cachedSubscriber ++
      [.routeAddDel (FibPrefix.host 0x0a010001) 0 false,
       .routeAddDel (FibPrefix.host 0x0a010001) 0 true]
    let audit := run (auditStep Policies.lifo)
      (Audit.initial (Vpp.initial Pool.empty Pool.empty)) calls
    audit.locked (subscriberAdj 0x0a010001 0) = 2 ∧ AccountsExact audit := by
  intro calls audit
  have hguard : Guarded (step Policies.lifo) newHostRoute
      (Vpp.initial Pool.empty Pool.empty) calls := by decide
  exact ⟨by decide, (accountsExact_of_newHostRoutes Policies.lifo Pool.empty
    Pool.empty calls hguard).2⟩

/-- The same route is added twice and then deleted: the cache is empty, but the
counter is not zero and one lock is never released. -/
theorem accounts_wrong_addedTwice :
    let audit := run (auditStep Policies.lifo)
      (Audit.initial (Vpp.initial Pool.empty Pool.empty))
      (cachedSubscriber ++ [.routeAddDel (FibPrefix.host 0x0a010001) 0 true,
        .routeAddDel (FibPrefix.host 0x0a010001) 0 false])
    audit.vpp.lm.encapAdjByIp4.entries.length = 0 ∧
      audit.vpp.lm.encapAdjCount = 1 ∧
      audit.locked (subscriberAdj 0x0a010001 0) = 2 ∧
      audit.unlocked (subscriberAdj 0x0a010001 0) = 1 ∧
      ¬ AccountsExact audit := by
  intro audit
  have hcount : audit.vpp.lm.encapAdjCount = 1 := by decide
  have hentries : audit.vpp.lm.encapAdjByIp4.entries.length = 0 := by decide
  refine ⟨hentries, hcount, by decide, by decide, ?_⟩
  intro h
  have hexact := h.count
  rw [hcount, hentries] at hexact
  exact absurd hexact (by decide)

end L2tvpp.Plugin
