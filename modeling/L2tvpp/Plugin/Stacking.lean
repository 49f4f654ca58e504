import L2tvpp.Plugin.Fixup
import L2tvpp.Plugin.RefCount

/-!
# What the adjacencies of a session carry

`l2tvpp_update_adj` runs when an adjacency is created.  It writes the rewrite of
the session's tunnel, the address of the session and the tunnel's peer to stack
on, and nothing refreshes them when the session or the tunnel changes.  They
stay those of the live session up to a session add that moves the pool or that
gets an interface index with adjacencies left on it.
-/

namespace L2tvpp.Plugin

open L2tvpp.Lib

def VnetLink.isIp : VnetLink → Bool
  | .ip4 => true
  | .ip6 => true
  | _ => false

/-- The adjacency has what `l2tvpp_update_adj` would write into it now. -/
structure Carries (lm : L2tvppMain) (link : VnetLink) (adj : IpAdjacency)
    (si : Nat) (sess : L2tvppSession) (t : L2tvppTunnel)
    (rewrite : List U8) : Prop where
  session : lm.sessions.elt? si = some sess
  tunnel : lm.tunnels.elt? sess.tunnelIndex = some t
  built : l2tvppBuildRewriteI t sess link = some (rewrite, sess.encapIpCsum0)
  midchain : adj.midchain = some ⟨lm.sessions.addr si, rewrite⟩
  delegate : adj.delegate =
    some ⟨t.encapFibIndex, FibPrefix.host t.peerIp.ip4⟩

def StackedAt (v : Vpp) (ai : AdjIndex) : Prop :=
  ∀ adj si, v.adjacencies.get? ai = some adj → ai.link.isIp = true →
    v.lm.sessionIndexOf ai.swIfIndex = some si →
    ∃ sess t rewrite, Carries v.lm ai.link adj si sess t rewrite

/-- Every IP adjacency on the interface of a session is that session's. -/
def Stacked (v : Vpp) : Prop := ∀ ai, StackedAt v ai

/-! ## The rewrite -/

theorem l2tvppBuildRewriteI_nSessions {t : L2tvppTunnel} {sess : L2tvppSession}
    {link : VnetLink} {n : U32} :
    l2tvppBuildRewriteI { t with nSessions := n } sess link =
      l2tvppBuildRewriteI t sess link := by
  cases link <;> rfl

theorem l2tvppBuildRewriteI_csum {t : L2tvppTunnel} {sess : L2tvppSession}
    {link : VnetLink} {csum : U16} :
    l2tvppBuildRewriteI t { sess with encapIpCsum0 := csum } link =
      l2tvppBuildRewriteI t sess link := by
  cases link <;> rfl

theorem l2tvppBuildRewriteI_isIp (t : L2tvppTunnel) (sess : L2tvppSession)
    {link : VnetLink} (h : link.isIp = true) :
    ∃ rewrite csum, l2tvppBuildRewriteI t sess link = some (rewrite, csum) := by
  cases link with
  | ip4 => exact ⟨_, _, rfl⟩
  | ip6 => exact ⟨_, _, rfl⟩
  | mpls => contradiction
  | ethernet => contradiction
  | arp => contradiction
  | nsh => contradiction

theorem Carries.kept {lm lm' : L2tvppMain} {link : VnetLink}
    {adj : IpAdjacency} {si : Nat} {sess : L2tvppSession} {t : L2tvppTunnel}
    {rewrite : List U8} {n : U32} (h : Carries lm link adj si sess t rewrite)
    (hsess : lm'.sessions.elt? si = some sess)
    (ht : lm'.tunnels.elt? sess.tunnelIndex = some { t with nSessions := n })
    (haddr : lm'.sessions.addr si = lm.sessions.addr si) :
    Carries lm' link adj si sess { t with nSessions := n } rewrite where
  session := hsess
  tunnel := ht
  built := l2tvppBuildRewriteI_nSessions.trans h.built
  midchain := by
    rw [haddr]
    exact h.midchain
  delegate := h.delegate

/-! ## Steps that leave sessions and chains alone -/

structure SameChains (v v' : Vpp) : Prop where
  sessions : v'.lm.sessions = v.lm.sessions
  tunnels : v'.lm.tunnels = v.lm.tunnels
  sessionIndexBySwIfIndex :
    v'.lm.sessionIndexBySwIfIndex = v.lm.sessionIndexBySwIfIndex
  adjacencies : ∀ {ai : AdjIndex} {adj' : IpAdjacency},
    v'.adjacencies.get? ai = some adj' → ∃ adj,
      v.adjacencies.get? ai = some adj ∧ adj'.midchain = adj.midchain ∧
      adj'.delegate = adj.delegate

namespace SameChains

variable {v v' : Vpp}

theorem of_eq (hsessions : v'.lm.sessions = v.lm.sessions)
    (htunnels : v'.lm.tunnels = v.lm.tunnels)
    (hindex : v'.lm.sessionIndexBySwIfIndex = v.lm.sessionIndexBySwIfIndex)
    (hadjacencies : v'.adjacencies = v.adjacencies) : SameChains v v' where
  sessions := hsessions
  tunnels := htunnels
  sessionIndexBySwIfIndex := hindex
  adjacencies := by
    intro ai adj' hadj'
    rw [hadjacencies] at hadj'
    exact ⟨adj', hadj', rfl, rfl⟩

theorem set {ai : AdjIndex} {adj adj' : IpAdjacency}
    (hadj : v.adjacencies.get? ai = some adj)
    (hmidchain : adj'.midchain = adj.midchain)
    (hdelegate : adj'.delegate = adj.delegate) :
    SameChains v (v.setAdjacencies (v.adjacencies.set ai adj')) where
  sessions := rfl
  tunnels := rfl
  sessionIndexBySwIfIndex := rfl
  adjacencies := by
    intro other adj'' hother
    simp only [Vpp.setAdjacencies, Dict.get?_set] at hother
    split at hother
    · rename_i heq
      cases hother
      exact ⟨adj, heq ▸ hadj, hmidchain, hdelegate⟩
    · exact ⟨adj'', hother, rfl, rfl⟩

theorem erase (ai : AdjIndex) :
    SameChains v (v.setAdjacencies (v.adjacencies.erase ai)) where
  sessions := rfl
  tunnels := rfl
  sessionIndexBySwIfIndex := rfl
  adjacencies := by
    intro other adj' hother
    simp only [Vpp.setAdjacencies, Dict.get?_erase] at hother
    split at hother
    · contradiction
    · exact ⟨adj', hother, rfl, rfl⟩

theorem adjUnlock (ai : AdjIndex) (owner : LockOwner) :
    SameChains v (adjUnlock v ai owner) := by
  unfold Plugin.adjUnlock
  split
  · exact .of_eq rfl rfl rfl rfl
  · rename_i adj hadj
    dsimp only
    split
    · exact .erase ai
    · exact .set hadj (by cases owner <;> rfl) (by cases owner <;> rfl)

end SameChains

theorem StackedAt.of_sameChains {v v' : Vpp} {ai : AdjIndex}
    (h : StackedAt v ai) (hsame : SameChains v v') : StackedAt v' ai := by
  intro adj' si hadj' hip hsi
  obtain ⟨adj, hadj, hmidchain, hdelegate⟩ := hsame.adjacencies hadj'
  rw [L2tvppMain.sessionIndexOf, hsame.sessionIndexBySwIfIndex] at hsi
  obtain ⟨sess, t, rewrite, hcarries⟩ := h adj si hadj hip hsi
  refine ⟨sess, t, rewrite, ?_, ?_, hcarries.built, ?_, ?_⟩
  · rw [hsame.sessions]
    exact hcarries.session
  · rw [hsame.tunnels]
    exact hcarries.tunnel
  · rw [hmidchain, hsame.sessions]
    exact hcarries.midchain
  · rw [hdelegate]
    exact hcarries.delegate

section Update

variable {v : Vpp} {ai : AdjIndex}

/-- The adjacency that is updated, whatever it had before. -/
theorem stackedAt_updateAdj (hstore : StoreInv v) (hcount : CountExact v) :
    StackedAt (l2tvppUpdateAdj v ai) ai := by
  intro adj si hadj hip hsi
  rw [(sameStore_l2tvppUpdateAdj v ai).sessionIndexOf] at hsi
  obtain ⟨sess, hsess, -⟩ := hstore.bySwIfIndex.some_iff.mp hsi
  obtain ⟨t, ht, -⟩ := hcount.tunnel hsess
  obtain ⟨rewrite, csum, hbuilt⟩ := l2tvppBuildRewriteI_isIp t sess hip
  simp only [l2tvppUpdateAdj, hsi, hsess, ht, hbuilt, Dict.get?_modify, if_true]
    at hadj ⊢
  obtain ⟨old, -, rfl⟩ := Option.map_eq_some_iff.mp hadj
  refine ⟨{ sess with encapIpCsum0 := csum }, t, rewrite, ?_, ht,
    l2tvppBuildRewriteI_csum.trans hbuilt, rfl, rfl⟩
  rw [Pool.elt?_modify, if_pos rfl, hsess]
  rfl

/-- The other adjacencies of the session find the checksum they were built
with. -/
theorem StackedAt.updateAdj {other : AdjIndex} (h : StackedAt v other)
    (hother : other ≠ ai) : StackedAt (l2tvppUpdateAdj v ai) other := by
  rcases l2tvppUpdateAdj_cases v ai with
    heq | ⟨si, sess, t, rewrite, csum, hsi, hsess, ht, hbuilt, heq⟩
  · rw [heq]
    exact h
  · rw [heq]
    intro adj i hadj hip hi
    simp only [Dict.get?_modify, if_neg hother] at hadj
    obtain ⟨sess', t', rewrite', hcarries⟩ := h adj i hadj hip hi
    refine ⟨sess', t', rewrite', ?_, hcarries.tunnel, hcarries.built,
      hcarries.midchain, hcarries.delegate⟩
    rw [Pool.elt?_modify]
    split
    · rename_i hsame
      have hsess' := hcarries.session
      rw [hsame, hsess] at hsess'
      cases hsess'
      have ht' := hcarries.tunnel
      rw [ht] at ht'
      cases ht'
      have hcsum := (FixupFresh.csum_of_rewrite hbuilt).trans
        (FixupFresh.csum_of_rewrite hcarries.built).symm
      rw [hsame, hsess, hcsum]
      rfl
    · exact hcarries.session

end Update

namespace Stacked

variable {P : Policies} {v v' : Vpp}

theorem of_sameChains (h : Stacked v) (hsame : SameChains v v') : Stacked v' :=
  fun ai => (h ai).of_sameChains hsame

theorem updateAdj (hstore : StoreInv v) (hcount : CountExact v) {ai : AdjIndex}
    (h : ∀ other, other ≠ ai → StackedAt v other) :
    Stacked (l2tvppUpdateAdj v ai) := by
  intro other
  by_cases hother : other = ai
  · subst hother
    exact stackedAt_updateAdj hstore hcount
  · exact (h other hother).updateAdj hother

theorem adjNbrAddOrLock (hstore : StoreInv v) (hcount : CountExact v)
    (h : Stacked v) (ai : AdjIndex) (owner : LockOwner) :
    Stacked (adjNbrAddOrLock v ai owner) := by
  unfold Plugin.adjNbrAddOrLock
  split
  · rename_i adj hadj
    exact h.of_sameChains (.set hadj (by cases owner <;> rfl)
      (by cases owner <;> rfl))
  · have hsame := sameStore_setAdjacencies v (v.adjacencies.set ai
      (IpAdjacency.lock ⟨0, 0, none, none⟩ owner))
    apply updateAdj (hstore.of_sameStore hsame) (hcount.of_sameStore hsame)
    intro other hother adj si hadj hip hsi
    simp only [Vpp.setAdjacencies, Dict.get?_set, if_neg hother] at hadj
    exact h other adj si hadj hip hsi

theorem encapAdjAddDel (hstore : StoreInv v) (hcount : CountExact v)
    (h : Stacked v) (pfx : FibPrefix) (swIfIndex : Nat) (isAdd : Bool) :
    Stacked (l2tvppEncapAdjAddDel v pfx swIfIndex isAdd) := by
  unfold l2tvppEncapAdjAddDel
  split
  · split
    · have hlocked := adjNbrAddOrLock hstore hcount h
        (subscriberAdj pfx.addr.ip4 swIfIndex) .plugin
      exact hlocked.of_sameChains (.of_eq rfl rfl rfl rfl)
    · unfold l2tvppEncapAdjDel
      dsimp only
      split
      · exact h.of_sameChains (.of_eq rfl rfl rfl rfl)
      · refine of_sameChains ?_ (.adjUnlock _ .plugin)
        exact h.of_sameChains (.of_eq rfl rfl rfl rfl)
  · exact h

theorem routeAddDel (hstore : StoreInv v) (hcount : CountExact v)
    (h : Stacked v) {pfx : FibPrefix} {swIfIndex : Nat} {isAdd : Bool}
    (hroute : l2tvppRouteAddDel v pfx swIfIndex isAdd = .ok v') :
    Stacked v' := by
  unfold l2tvppRouteAddDel at hroute
  split at hroute
  · contradiction
  · cases hroute
    have hsame : ∀ fib, SameStore v { v with fib := fib } :=
      fun fib => ⟨rfl, rfl, rfl, rfl, rfl, rfl, fun _ => rfl, fun _ _ => rfl⟩
    apply encapAdjAddDel (hstore.of_sameStore (hsame _))
      (hcount.of_sameStore (hsame _))
    exact h.of_sameChains (.of_eq rfl rfl rfl rfl)

/-! ## Tunnels and sessions -/

theorem tunnelAdd (h : Stacked v) {localIp peerIp : Ip46}
    {localPort peerPort localTid peerTid : U16} :
    Stacked
      (v.tunnelAdd P localIp peerIp localPort peerPort localTid peerTid) := by
  intro ai adj si hadj hip hsi
  obtain ⟨sess, t, rewrite, hcarries⟩ := h ai adj si hadj hip hsi
  exact ⟨sess, _, rewrite, hcarries.kept hcarries.session
    (Pool.elt?_get_of_live P.tunnels v.lm.tunnels _ hcarries.tunnel) rfl⟩

/-- A tunnel without sessions is in no adjacency. -/
theorem tunnelDel (hcount : CountExact v) (h : Stacked v) {index : Nat}
    {t : L2tvppTunnel} (ht : v.lm.tunnels.elt? index = some t)
    (hzero : t.nSessions = 0) : Stacked (v.tunnelDel index) := by
  intro ai adj si hadj hip hsi
  obtain ⟨sess, t', rewrite, hcarries⟩ := h ai adj si hadj hip hsi
  have hother := hcount.no_session ht hzero hcarries.session
  refine ⟨sess, _, rewrite, hcarries.kept hcarries.session (n := t'.nSessions)
    ?_ rfl⟩
  simp only [Vpp.tunnelDel, Pool.elt?_put]
  rw [if_neg hother, hcarries.tunnel]

theorem sessionAdd (h : Stacked v) {tunnelIndex : Nat} {t : L2tvppTunnel}
    {localSid peerSid : U16} {acfc pfc : U8}
    (hgrows : ∀ ai adj, v.adjacencies.get? ai = some adj →
      ai.link.isIp = true → v.lm.sessions.grows = false ∨
        v.lm.sessionIndexOf ai.swIfIndex = none)
    (hleft : ∀ ai adj, v.adjacencies.get? ai = some adj →
      ai.link.isIp = true →
      ai.swIfIndex ≠ v.swInterfaces.nextIndex P.swInterfaces) :
    Stacked (v.sessionAdd P tunnelIndex t localSid peerSid acfc pfc) := by
  intro ai adj si hadj hip hsi
  have hadj' : v.adjacencies.get? ai = some adj := hadj
  rw [sessionAdd_sessionIndexOf, if_neg (hleft ai adj hadj' hip)] at hsi
  obtain ⟨sess, t', rewrite, hcarries⟩ := h ai adj si hadj' hip hsi
  have hstay : v.lm.sessions.grows = false := by
    rcases hgrows ai adj hadj' hip with hstay | hnone
    · exact hstay
    · rw [hsi] at hnone
      contradiction
  obtain ⟨n, ht⟩ : ∃ n, (v.sessionAdd P tunnelIndex t localSid peerSid acfc
      pfc).lm.tunnels.elt? sess.tunnelIndex =
        some { t' with nSessions := n } := by
    rw [sessionAdd_tunnels, hcarries.tunnel]
    split
    · exact ⟨_, rfl⟩
    · exact ⟨t'.nSessions, rfl⟩
  exact ⟨sess, _, rewrite, hcarries.kept
    (Pool.elt?_get_of_live P.sessions v.lm.sessions _ hcarries.session) ht
    (Pool.addr_get P.sessions v.lm.sessions _ si hstay)⟩

/-- The delegates that go are those on the interface of the session. -/
theorem sessionDel (hstore : StoreInv v) (h : Stacked v) {tunnelIndex : Nat}
    {key : U64} {index : Nat} {sess : L2tvppSession}
    (hsess : v.lm.sessions.elt? index = some sess) :
    Stacked (v.sessionDel tunnelIndex key index sess) := by
  intro ai adj si hadj hip hsi
  rw [sessionDel_sessionIndexOf] at hsi
  split at hsi
  · contradiction
  · rename_i hsw
    have hadj' : v.adjacencies.get? ai = some adj := by
      simp only [Vpp.sessionDel, removeDelegates,
        vnetDeleteHwInterface_adjacencies, Dict.get?_map] at hadj
      obtain ⟨old, hold, heq⟩ := Option.map_eq_some_iff.mp hadj
      rw [if_neg (fun hboth => hsw hboth.1)] at heq
      rw [hold, heq]
    obtain ⟨sess', t, rewrite, hcarries⟩ := h ai adj si hadj' hip hsi
    have hne : si ≠ index := by
      rintro rfl
      obtain ⟨owner, howner, heq⟩ := hstore.bySwIfIndex.some_iff.mp hsi
      rw [hsess] at howner
      cases howner
      exact hsw heq.symm
    obtain ⟨n, ht⟩ : ∃ n, (v.sessionDel tunnelIndex key index
        sess).lm.tunnels.elt? sess'.tunnelIndex =
          some { t with nSessions := n } := by
      rw [sessionDel_tunnels, hcarries.tunnel]
      split
      · exact ⟨_, rfl⟩
      · exact ⟨t.nSessions, rfl⟩
    refine ⟨sess', _, rewrite, hcarries.kept ?_ ht ?_⟩
    · rw [sessionDel_sessions, if_neg hne, hcarries.session]
    · rw [sessionDel_lm, Pool.addr_put]

end Stacked

/-! ## Whole runs -/

/-- When a session add is accepted, no IP adjacency is left on the interface
index it gets, and if it moves the pool, none is on the interface of a live
session. -/
def keepsAdjacencies (P : Policies) (v : Vpp) : Call → Bool
  | .sessionAddDel tunnelIndex localSid _ _ _ true =>
      !v.acceptsSession tunnelIndex localSid ||
        v.adjacencies.items.all fun entry =>
          !entry.1.link.isIp ||
            ((!v.lm.sessions.grows ||
              (v.lm.sessionIndexOf entry.1.swIfIndex).isNone) &&
            entry.1.swIfIndex != v.swInterfaces.nextIndex P.swInterfaces)
  | _ => true

theorem keepsAdjacencies_sessionAdd {P : Policies} {v : Vpp} {tunnelIndex : Nat}
    {localSid peerSid : U16} {acfc pfc : U8} {t : L2tvppTunnel}
    (hguard : keepsAdjacencies P v
      (.sessionAddDel tunnelIndex localSid peerSid acfc pfc true) = true)
    (ht : v.lm.tunnels.elt? tunnelIndex = some t)
    (hkey : v.lm.sessionByKey.lookup
      (l2tvppSessionKey t.localTid localSid) = none)
    {ai : AdjIndex} {adj : IpAdjacency}
    (hadj : v.adjacencies.get? ai = some adj) (hip : ai.link.isIp = true) :
    (v.lm.sessions.grows = false ∨
      v.lm.sessionIndexOf ai.swIfIndex = none) ∧
    ai.swIfIndex ≠ v.swInterfaces.nextIndex P.swInterfaces := by
  simp only [keepsAdjacencies, Vpp.acceptsSession, ht, hkey, Option.isNone_none,
    Bool.not_true, Bool.false_or, List.all_eq_true] at hguard
  have hentry := hguard (ai, adj) (v.adjacencies.mem_items.mpr hadj)
  simpa [hip] using hentry

/-- What the adjacencies rest on. -/
structure ChainInv (v : Vpp) : Prop where
  store : StoreInv v
  counts : CountExact v
  stacked : Stacked v

theorem ChainInv.initial (hwInterfaces : Pool HwInterface)
    (swInterfaces : Pool SwInterface) :
    ChainInv (Vpp.initial hwInterfaces swInterfaces) where
  store := StoreInv.initial hwInterfaces swInterfaces
  counts := CountExact.initial hwInterfaces swInterfaces
  stacked := by
    intro ai adj si hadj
    contradiction

theorem stacked_step (P : Policies) {v : Vpp} {call : Call} (h : ChainInv v)
    (hguard : keepsAdjacencies P v call = true) : Stacked (step P v call) := by
  obtain ⟨hstore, hcount, hstacked⟩ := h
  cases call with
  | tunnelAddDel localIp peerIp localPort peerPort localTid peerTid isAdd =>
      simp only [step]
      split
      · exact hstacked
      · rename_i out v' hok
        rcases l2tvppTunnelAddDel_ok hok with
          ⟨-, -, -, -, -, rfl⟩ | ⟨-, -, index, t, hfind, hzero, rfl⟩
        · exact hstacked.tunnelAdd
        · exact hstacked.tunnelDel hcount (l2tvppTunnelFind_some hfind).1 hzero
  | sessionAddDel tunnelIndex localSid peerSid acfc pfc isAdd =>
      simp only [step]
      split
      · exact hstacked
      · rename_i out v' hok
        obtain ⟨t, ht, ⟨rfl, hkey, -, rfl⟩ |
          ⟨-, -, index, sess, -, hsess, rfl⟩⟩ := l2tvppSessionAddDel_ok hok
        · exact hstacked.sessionAdd
            (fun ai adj hadj hip =>
              (keepsAdjacencies_sessionAdd hguard ht hkey hadj hip).1)
            (fun ai adj hadj hip =>
              (keepsAdjacencies_sessionAdd hguard ht hkey hadj hip).2)
        · exact hstacked.sessionDel hstore hsess
  | routeAddDel pfx swIfIndex isAdd =>
      simp only [step]
      split
      · exact hstacked
      · rename_i v' hok
        exact hstacked.routeAddDel hstore hcount hok
  | adjAdd ai => exact hstacked.adjNbrAddOrLock hstore hcount ai .other
  | adjUpdate ai => exact .updateAdj hstore hcount fun other _ => hstacked other
  | adjRelease ai => exact hstacked.of_sameChains (.adjUnlock ai .other)
  | interfaceAdd => exact hstacked.of_sameChains (.of_eq rfl rfl rfl rfl)
  | interfaceDel hwIfIndex =>
      simp only [step]
      split
      · exact hstacked
      · exact hstacked.of_sameChains (.of_eq (by simp) (by simp) (by simp)
          (by simp))
  | innerChecksum noChecksum =>
      exact hstacked.of_sameChains (.of_eq rfl rfl rfl rfl)

theorem chainInv_run (P : Policies) {v : Vpp} {calls : List Call}
    (h : ChainInv v) (hnames : Guarded (step P) namesOwnTunnel v calls)
    (hguard : Guarded (step P) (keepsAdjacencies P) v calls) :
    ChainInv (run (step P) v calls) := by
  induction calls generalizing v with
  | nil => exact h
  | cons call calls ih =>
      have hstep := storeStep_step P v call
      refine ih ⟨h.store.storeStep hstep, ?_, ?_⟩ hnames.2 hguard.2
      · exact CountExact.storeStep h.store h.counts hnames.1 hstep
      · exact stacked_step P h hguard.1

end L2tvpp.Plugin
