import L2tvpp.Plugin.Encap

/-!
# Subscriber routes

`l2tvpp_route_add_del` installs a path under the plugin's own FIB source and
keeps the encap cache, which maps a subscriber address to the adjacency of its
session, in step with it.
-/

namespace L2tvpp.Plugin

open L2tvpp.Lib

def encapKey (ip4 : U32) : U64 := ip4.setWidth 64

theorem encapKey_inj {ip4 ip4' : U32} :
    encapKey ip4 = encapKey ip4' ↔ ip4 = ip4' := by
  constructor
  · intro h
    have hnat := congrArg BitVec.toNat h
    simp only [encapKey, BitVec.toNat_setWidth] at hnat
    have hlt := ip4.isLt
    have hlt' := ip4'.isLt
    apply BitVec.eq_of_toNat_eq
    omega
  · rintro rfl
    rfl

/-- The neighbour adjacency that `ip4-lookup` resolves a subscriber to. -/
def subscriberAdj (ip4 : U32) (swIfIndex : Nat) : AdjIndex :=
  ⟨.ip4, .ip4, Ip46.ofIp4 ip4, swIfIndex⟩

/-- The cache takes IPv4 host prefixes only. -/
def FibPrefix.isHost4 (pfx : FibPrefix) : Bool :=
  pfx.proto == .ip4 && pfx.len == 32

theorem FibPrefix.key_of_isHost4 {pfx : FibPrefix} (h : pfx.isHost4 = true) :
    pfx.key = FibPrefix.host pfx.addr.ip4 := by
  obtain ⟨proto, addr, len⟩ := pfx
  simp only [isHost4, Bool.and_eq_true, beq_iff_eq] at h
  obtain ⟨rfl, rfl⟩ := h
  rfl

theorem FibPrefix.eq_of_key_eq_host {pfx : FibPrefix} {ip4 : U32}
    (h : FibPrefix.host ip4 = pfx.key) :
    pfx.isHost4 = true ∧ ip4 = pfx.addr.ip4 := by
  obtain ⟨proto, addr, len⟩ := pfx
  cases proto <;> simp_all [key, host, isHost4, Ip46.ofIp4]

def Vpp.setLm (v : Vpp) (lm : L2tvppMain) : Vpp := { v with lm := lm }

def l2tvppEncapAdjAdd (v : Vpp) (ip4 : U32) (swIfIndex : Nat) : Vpp :=
  let ai := subscriberAdj ip4 swIfIndex
  let v := adjNbrAddOrLock v ai .plugin
  v.setLm { v.lm with
    encapAdjInit := true
    encapAdjByIp4 := v.lm.encapAdjByIp4.insert (encapKey ip4) ai
    -- an add that replaces an entry also returns success
    encapAdjCount := v.lm.encapAdjCount + 1 }

/-- The entry goes whichever interface it points to. -/
def l2tvppEncapAdjDel (v : Vpp) (ip4 : U32) : Vpp :=
  let lm := { v.lm with encapAdjInit := true }
  match lm.encapAdjByIp4.lookup (encapKey ip4) with
  | none => v.setLm lm
  | some ai =>
      let v := v.setLm { lm with
        encapAdjByIp4 := lm.encapAdjByIp4.erase (encapKey ip4)
        encapAdjCount :=
          if lm.encapAdjCount ≠ 0 then lm.encapAdjCount - 1
          else lm.encapAdjCount }
      adjUnlock v ai .plugin

def l2tvppEncapAdjAddDel (v : Vpp) (pfx : FibPrefix) (swIfIndex : Nat)
    (isAdd : Bool) : Vpp :=
  if pfx.isHost4 then
    if isAdd then l2tvppEncapAdjAdd v pfx.addr.ip4 swIfIndex
    else l2tvppEncapAdjDel v pfx.addr.ip4
  else v

def l2tvppRouteAddDel (v : Vpp) (pfx : FibPrefix) (swIfIndex : Nat)
    (isAdd : Bool) : Except VnetApiError Vpp :=
  match v.lm.sessionIndexOf swIfIndex with
  | none => .error .invalidSwIfIndex
  | some _ =>
      let fib :=
        if isAdd then insert (pfx.key, swIfIndex) v.fib
        else v.fib.erase (pfx.key, swIfIndex)
      .ok (l2tvppEncapAdjAddDel { v with fib := fib } pfx swIfIndex isAdd)

/-! ## What the operations leave alone -/

/-- Two states with the same tunnels, sessions, tables and interfaces; only the
cached checksums of sessions may differ. -/
structure SameStore (v v' : Vpp) : Prop where
  tunnels : v'.lm.tunnels = v.lm.tunnels
  sessionByKey : v'.lm.sessionByKey = v.lm.sessionByKey
  sessionIndexBySwIfIndex :
    v'.lm.sessionIndexBySwIfIndex = v.lm.sessionIndexBySwIfIndex
  localIp4s : v'.lm.localIp4s = v.lm.localIp4s
  hwInterfaces : v'.hwInterfaces = v.hwInterfaces
  swInterfaces : v'.swInterfaces = v.swInterfaces
  sessions : ∀ index,
    (v'.lm.sessions.elt? index).map ({ · with encapIpCsum0 := 0 }) =
      (v.lm.sessions.elt? index).map ({ · with encapIpCsum0 := 0 })
  count : ∀ test : L2tvppSession → Bool,
    (∀ sess csum, test { sess with encapIpCsum0 := csum } = test sess) →
    v'.lm.sessions.count test = v.lm.sessions.count test

namespace SameStore

variable {v v' v'' : Vpp}

theorem refl (v : Vpp) : SameStore v v :=
  ⟨rfl, rfl, rfl, rfl, rfl, rfl, fun _ => rfl, fun _ _ => rfl⟩

theorem trans (h : SameStore v v') (h' : SameStore v' v'') :
    SameStore v v'' where
  tunnels := h'.tunnels.trans h.tunnels
  sessionByKey := h'.sessionByKey.trans h.sessionByKey
  sessionIndexBySwIfIndex :=
    h'.sessionIndexBySwIfIndex.trans h.sessionIndexBySwIfIndex
  localIp4s := h'.localIp4s.trans h.localIp4s
  hwInterfaces := h'.hwInterfaces.trans h.hwInterfaces
  swInterfaces := h'.swInterfaces.trans h.swInterfaces
  sessions index := (h'.sessions index).trans (h.sessions index)
  count test htest := (h'.count test htest).trans (h.count test htest)

theorem symm (h : SameStore v v') : SameStore v' v where
  tunnels := h.tunnels.symm
  sessionByKey := h.sessionByKey.symm
  sessionIndexBySwIfIndex := h.sessionIndexBySwIfIndex.symm
  localIp4s := h.localIp4s.symm
  hwInterfaces := h.hwInterfaces.symm
  swInterfaces := h.swInterfaces.symm
  sessions index := (h.sessions index).symm
  count test htest := (h.count test htest).symm

theorem session (h : SameStore v v') {index : Nat} {sess : L2tvppSession}
    (hsess : v'.lm.sessions.elt? index = some sess) :
    ∃ csum, v.lm.sessions.elt? index =
      some { sess with encapIpCsum0 := csum } := by
  have heq := h.sessions index
  rw [hsess, Option.map_some] at heq
  obtain ⟨sess', hsess', hfields⟩ := Option.map_eq_some_iff.mp heq.symm
  refine ⟨sess'.encapIpCsum0, ?_⟩
  rw [hsess']
  cases sess
  cases sess'
  simp only [L2tvppSession.mk.injEq] at hfields
  simp [hfields]

theorem sessionIndexOf (h : SameStore v v') (swIfIndex : Nat) :
    v'.lm.sessionIndexOf swIfIndex = v.lm.sessionIndexOf swIfIndex := by
  simp only [L2tvppMain.sessionIndexOf, h.sessionIndexBySwIfIndex]

theorem indexes (h : SameStore v v') {K : Type}
    {key : L2tvppSession → K} {table : K → Option Nat}
    (hkey : ∀ sess csum, key { sess with encapIpCsum0 := csum } = key sess)
    (hindexes : v.lm.sessions.Indexes key table) :
    v'.lm.sessions.Indexes key table := by
  intro k index
  rw [hindexes.some_iff]
  constructor
  · rintro ⟨sess, hsess, rfl⟩
    obtain ⟨csum, hsess'⟩ := h.symm.session hsess
    exact ⟨_, hsess', hkey sess csum⟩
  · rintro ⟨sess, hsess, rfl⟩
    obtain ⟨csum, hsess'⟩ := h.session hsess
    exact ⟨_, hsess', hkey sess csum⟩

end SameStore

section Frame

variable (v : Vpp)

theorem sameStore_setAdjacencies (adjacencies : Dict AdjIndex IpAdjacency) :
    SameStore v (v.setAdjacencies adjacencies) :=
  ⟨rfl, rfl, rfl, rfl, rfl, rfl, fun _ => rfl, fun _ _ => rfl⟩

/-- What `l2tvpp_update_adj` does: nothing, or a new checksum for the session
of the interface and a new midchain for the adjacency. -/
theorem l2tvppUpdateAdj_cases (ai : AdjIndex) :
    l2tvppUpdateAdj v ai = v ∨
    ∃ si sess t rewrite csum,
      v.lm.sessionIndexOf ai.swIfIndex = some si ∧
      v.lm.sessions.elt? si = some sess ∧
      v.lm.tunnels.elt? sess.tunnelIndex = some t ∧
      l2tvppBuildRewriteI t sess ai.link = some (rewrite, csum) ∧
      l2tvppUpdateAdj v ai =
        { v with
          lm := { v.lm with
            sessions := v.lm.sessions.modify si fun sess =>
              { sess with encapIpCsum0 := csum } }
          adjacencies := v.adjacencies.modify ai fun adj =>
            { adj with
              midchain := some ⟨v.lm.sessions.addr si, rewrite⟩
              delegate := some ⟨t.encapFibIndex,
                FibPrefix.host t.peerIp.ip4⟩ } } := by
  unfold l2tvppUpdateAdj
  split
  · exact .inl rfl
  · rename_i si hsi
    split
    · exact .inl rfl
    · rename_i sess hsess
      split
      · exact .inl rfl
      · rename_i t ht
        split
        · exact .inl rfl
        · rename_i rewrite csum hrewrite
          exact .inr ⟨si, sess, t, rewrite, csum, hsi, hsess, ht, hrewrite, rfl⟩

theorem sameStore_l2tvppUpdateAdj (ai : AdjIndex) :
    SameStore v (l2tvppUpdateAdj v ai) := by
  rcases l2tvppUpdateAdj_cases v ai with
    h | ⟨si, sess, t, rewrite, csum, -, -, -, -, h⟩
  · rw [h]
    exact SameStore.refl v
  · rw [h]
    refine ⟨rfl, rfl, rfl, rfl, rfl, rfl, ?_, ?_⟩
    · intro index
      simp only [Pool.elt?_modify]
      split
      · cases v.lm.sessions.elt? index <;> rfl
      · rfl
    · intro test htest
      exact Pool.count_modify _ test _ si fun sess => htest sess csum

theorem sameStore_adjNbrAddOrLock (ai : AdjIndex) (owner : LockOwner) :
    SameStore v (adjNbrAddOrLock v ai owner) := by
  unfold adjNbrAddOrLock
  split
  · exact sameStore_setAdjacencies v _
  · exact (sameStore_setAdjacencies v _).trans
      (sameStore_l2tvppUpdateAdj _ ai)

theorem sameStore_adjUnlock (ai : AdjIndex) (owner : LockOwner) :
    SameStore v (adjUnlock v ai owner) := by
  unfold adjUnlock
  split
  · exact SameStore.refl v
  · dsimp only
    split <;> exact sameStore_setAdjacencies v _

theorem sameStore_l2tvppEncapAdjAddDel (pfx : FibPrefix) (swIfIndex : Nat)
    (isAdd : Bool) :
    SameStore v (l2tvppEncapAdjAddDel v pfx swIfIndex isAdd) := by
  unfold l2tvppEncapAdjAddDel
  split
  · split
    · have h := sameStore_adjNbrAddOrLock v
        (subscriberAdj pfx.addr.ip4 swIfIndex) .plugin
      exact h.trans ⟨rfl, rfl, rfl, rfl, rfl, rfl, fun _ => rfl, fun _ _ => rfl⟩
    · unfold l2tvppEncapAdjDel
      dsimp only
      split
      · exact ⟨rfl, rfl, rfl, rfl, rfl, rfl, fun _ => rfl, fun _ _ => rfl⟩
      · refine SameStore.trans ?_ (sameStore_adjUnlock _ _ _)
        exact ⟨rfl, rfl, rfl, rfl, rfl, rfl, fun _ => rfl, fun _ _ => rfl⟩
  · exact SameStore.refl v

variable {v}

theorem sameStore_l2tvppRouteAddDel {v' : Vpp} {pfx : FibPrefix}
    {swIfIndex : Nat} {isAdd : Bool}
    (h : l2tvppRouteAddDel v pfx swIfIndex isAdd = .ok v') :
    SameStore v v' := by
  unfold l2tvppRouteAddDel at h
  split at h
  · contradiction
  · cases h
    refine SameStore.trans ?_ (sameStore_l2tvppEncapAdjAddDel _ _ _ _)
    exact ⟨rfl, rfl, rfl, rfl, rfl, rfl, fun _ => rfl, fun _ _ => rfl⟩

end Frame

/-! ## What a route call does to the cache and to the FIB -/

section Cache

variable (v : Vpp)

def SameRoutes (v v' : Vpp) : Prop :=
  v'.lm.encapAdjByIp4 = v.lm.encapAdjByIp4 ∧ v'.fib = v.fib

theorem sameRoutes_l2tvppUpdateAdj (ai : AdjIndex) :
    SameRoutes v (l2tvppUpdateAdj v ai) := by
  rcases l2tvppUpdateAdj_cases v ai with
    h | ⟨si, sess, t, rewrite, csum, -, -, -, -, h⟩
  · rw [h]
    exact ⟨rfl, rfl⟩
  · rw [h]
    exact ⟨rfl, rfl⟩

theorem sameRoutes_adjNbrAddOrLock (ai : AdjIndex) (owner : LockOwner) :
    SameRoutes v (adjNbrAddOrLock v ai owner) := by
  unfold adjNbrAddOrLock
  split
  · exact ⟨rfl, rfl⟩
  · exact sameRoutes_l2tvppUpdateAdj _ ai

theorem sameRoutes_adjUnlock (ai : AdjIndex) (owner : LockOwner) :
    SameRoutes v (adjUnlock v ai owner) := by
  unfold adjUnlock
  split
  · exact ⟨rfl, rfl⟩
  · dsimp only
    split <;> exact ⟨rfl, rfl⟩

theorem l2tvppEncapAdjAdd_lookup (ip4 other : U32) (swIfIndex : Nat) :
    (l2tvppEncapAdjAdd v ip4 swIfIndex).lm.encapAdjByIp4.lookup
        (encapKey other) =
      if other = ip4 then some (subscriberAdj ip4 swIfIndex)
      else v.lm.encapAdjByIp4.lookup (encapKey other) := by
  have hsame := sameRoutes_adjNbrAddOrLock v (subscriberAdj ip4 swIfIndex)
    .plugin
  simp only [l2tvppEncapAdjAdd, Vpp.setLm, hsame.1]
  split
  · rename_i h
    rw [h, AList.lookup_insert]
  · rename_i h
    rw [AList.lookup_insert_ne]
    exact fun heq => h (encapKey_inj.mp heq)

theorem l2tvppEncapAdjDel_lookup (ip4 other : U32) :
    (l2tvppEncapAdjDel v ip4).lm.encapAdjByIp4.lookup (encapKey other) =
      if other = ip4 then none
      else v.lm.encapAdjByIp4.lookup (encapKey other) := by
  unfold l2tvppEncapAdjDel
  dsimp only
  split
  · rename_i hnone
    simp only [Vpp.setLm]
    split
    · rename_i h
      rw [h]
      exact hnone
    · rfl
  · rename_i ai hai
    rw [(sameRoutes_adjUnlock _ ai .plugin).1]
    simp only [Vpp.setLm]
    split
    · rename_i h
      rw [h, AList.lookup_erase]
    · rename_i h
      rw [AList.lookup_erase_ne]
      exact fun heq => h (encapKey_inj.mp heq)

theorem l2tvppEncapAdjAddDel_fib (pfx : FibPrefix) (swIfIndex : Nat)
    (isAdd : Bool) :
    (l2tvppEncapAdjAddDel v pfx swIfIndex isAdd).fib = v.fib := by
  unfold l2tvppEncapAdjAddDel
  split
  · split
    · exact (sameRoutes_adjNbrAddOrLock v _ .plugin).2
    · unfold l2tvppEncapAdjDel
      dsimp only
      split
      · rfl
      · exact (sameRoutes_adjUnlock _ _ .plugin).2
  · rfl

def cacheAfter (v : Vpp) (pfx : FibPrefix) (swIfIndex : Nat) (isAdd : Bool)
    (ip4 : U32) : Option AdjIndex :=
  if pfx.isHost4 = true ∧ ip4 = pfx.addr.ip4 then
    if isAdd then some (subscriberAdj ip4 swIfIndex) else none
  else v.lm.encapAdjByIp4.lookup (encapKey ip4)

variable {v}

theorem l2tvppRouteAddDel_ok {v' : Vpp} {pfx : FibPrefix} {swIfIndex : Nat}
    {isAdd : Bool} (h : l2tvppRouteAddDel v pfx swIfIndex isAdd = .ok v') :
    (∃ index, v.lm.sessionIndexOf swIfIndex = some index) ∧
    v'.fib = (if isAdd then insert (pfx.key, swIfIndex) v.fib
      else v.fib.erase (pfx.key, swIfIndex)) ∧
    ∀ ip4, v'.lm.encapAdjByIp4.lookup (encapKey ip4) =
      cacheAfter v pfx swIfIndex isAdd ip4 := by
  unfold l2tvppRouteAddDel at h
  split at h
  · contradiction
  · rename_i index hindex
    cases h
    refine ⟨⟨index, hindex⟩, l2tvppEncapAdjAddDel_fib _ _ _ _, ?_⟩
    intro ip4
    unfold l2tvppEncapAdjAddDel cacheAfter
    cases hhost : pfx.isHost4 with
    | false => simp
    | true =>
        cases isAdd with
        | true =>
            simp only [if_true, true_and, l2tvppEncapAdjAdd_lookup]
            split
            · rename_i heq
              rw [heq]
            · rfl
        | false => simp [l2tvppEncapAdjDel_lookup]

end Cache

end L2tvpp.Plugin
