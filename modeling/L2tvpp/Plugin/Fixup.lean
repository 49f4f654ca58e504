import L2tvpp.Plugin.Consistency

/-!
# The fixup and its session

A midchain adjacency keeps the address of a session record.  The address stays
right until a session add has to move the session pool, and until an interface
index is given to a new session while adjacencies of the old one are still
there.  Up to such an add, every fixup reads the session of its interface, and
finds the checksum of that session's outer header in it.
-/

namespace L2tvpp.Plugin

open L2tvpp.Lib

def Vpp.midchain (v : Vpp) (ai : AdjIndex) : Option Midchain :=
  (v.adjacencies.get? ai).bind IpAdjacency.midchain

/-- Every midchain adjacency on the interface of a session points at it, and
the session caches the checksum of its tunnel's header. -/
def FixupFresh (v : Vpp) : Prop :=
  ∀ ai m si, v.midchain ai = some m →
    v.lm.sessionIndexOf ai.swIfIndex = some si →
    m.fixupData = v.lm.sessions.addr si ∧
    ∃ sess t, v.lm.sessions.elt? si = some sess ∧
      v.lm.tunnels.elt? sess.tunnelIndex = some t ∧
      sess.encapIpCsum0 = ip4HeaderChecksum (outerIp4Header t)

/-! ## Steps that leave sessions and midchains alone -/

structure Quiet (v v' : Vpp) : Prop where
  sessions : v'.lm.sessions = v.lm.sessions
  tunnels : v'.lm.tunnels = v.lm.tunnels
  sessionIndexBySwIfIndex :
    v'.lm.sessionIndexBySwIfIndex = v.lm.sessionIndexBySwIfIndex
  midchain : ∀ {ai : AdjIndex} {m : Midchain},
    v'.midchain ai = some m → v.midchain ai = some m

namespace Quiet

variable {v : Vpp}

theorem set {ai : AdjIndex} {adj : IpAdjacency}
    (h : ∀ m, adj.midchain = some m → v.midchain ai = some m) :
    Quiet v (v.setAdjacencies (v.adjacencies.set ai adj)) where
  sessions := rfl
  tunnels := rfl
  sessionIndexBySwIfIndex := rfl
  midchain := by
    intro other m hm
    simp only [Vpp.midchain, Vpp.setAdjacencies, Dict.get?_set] at hm
    split at hm
    · rename_i heq
      subst heq
      exact h m hm
    · exact hm

theorem erase (ai : AdjIndex) :
    Quiet v (v.setAdjacencies (v.adjacencies.erase ai)) where
  sessions := rfl
  tunnels := rfl
  sessionIndexBySwIfIndex := rfl
  midchain := by
    intro other m hm
    simp only [Vpp.midchain, Vpp.setAdjacencies, Dict.get?_erase] at hm
    split at hm
    · contradiction
    · exact hm

theorem adjUnlock (ai : AdjIndex) (owner : LockOwner) :
    Quiet v (adjUnlock v ai owner) := by
  unfold Plugin.adjUnlock
  split
  · exact ⟨rfl, rfl, rfl, fun h => h⟩
  · rename_i adj hadj
    dsimp only
    split
    · exact Quiet.erase ai
    · apply Quiet.set
      intro m hm
      rw [Vpp.midchain, hadj]
      cases owner <;> exact hm

theorem vnetDeleteHwInterface (hwIfIndex : Nat) :
    Quiet v (vnetDeleteHwInterface v hwIfIndex) := by
  unfold Plugin.vnetDeleteHwInterface
  split <;> exact ⟨rfl, rfl, rfl, fun h => h⟩

end Quiet

namespace FixupFresh

variable {P : Policies} {v v' : Vpp}

theorem of_quiet (h : FixupFresh v) (hquiet : Quiet v v') : FixupFresh v' := by
  intro ai m si hm hsi
  rw [L2tvppMain.sessionIndexOf, hquiet.sessionIndexBySwIfIndex] at hsi
  rw [hquiet.sessions, hquiet.tunnels]
  exact h ai m si (hquiet.midchain hm) hsi

/-! ## Adjacencies -/

theorem csum_of_rewrite {t : L2tvppTunnel} {sess : L2tvppSession}
    {link : VnetLink} {rewrite : List U8} {csum : U16}
    (h : l2tvppBuildRewriteI t sess link = some (rewrite, csum)) :
    csum = ip4HeaderChecksum (outerIp4Header t) := by
  cases link <;> simp_all [l2tvppBuildRewriteI]

theorem updateAdj (h : FixupFresh v) (ai : AdjIndex) :
    FixupFresh (l2tvppUpdateAdj v ai) := by
  rcases l2tvppUpdateAdj_cases v ai with
    heq | ⟨si, sess, t, rewrite, csum, hsi, hsess, ht, hrewrite, heq⟩
  · rw [heq]
    exact h
  · rw [heq]
    have hcsum := csum_of_rewrite hrewrite
    -- the session of the interface has its checksum refreshed
    have hupdated : (v.lm.sessions.modify si fun sess =>
        { sess with encapIpCsum0 := csum }).elt? si =
        some { sess with encapIpCsum0 := csum } := by
      simp [Pool.elt?_modify, hsess]
    intro other m i hm hi
    have hi' : v.lm.sessionIndexOf other.swIfIndex = some i := hi
    by_cases hother : other = ai
    · subst hother
      rw [hsi] at hi'
      cases hi'
      have hadj : m.fixupData = v.lm.sessions.addr si := by
        simp only [Vpp.midchain, Dict.get?_modify, if_true] at hm
        cases hget : v.adjacencies.get? other with
        | none => simp [hget] at hm
        | some adj =>
            simp only [hget, Option.map_some, Option.bind_some,
              Option.some.injEq] at hm
            rw [← hm]
      exact ⟨hadj, _, t, hupdated, ht, hcsum⟩
    · have hold : v.midchain other = some m := by
        simpa [Vpp.midchain, Dict.get?_modify, hother] using hm
      obtain ⟨haddr, sess', t', hsess', ht', hcsum'⟩ := h other m i hold hi'
      by_cases hsame : i = si
      · subst hsame
        exact ⟨haddr, _, t, hupdated, ht, hcsum⟩
      · refine ⟨haddr, sess', t', ?_, ht', hcsum'⟩
        rw [Pool.elt?_modify, if_neg hsame, hsess']

theorem adjNbrAddOrLock (h : FixupFresh v) (ai : AdjIndex)
    (owner : LockOwner) : FixupFresh (adjNbrAddOrLock v ai owner) := by
  unfold Plugin.adjNbrAddOrLock
  split
  · rename_i adj hadj
    apply h.of_quiet
    apply Quiet.set
    intro m hm
    rw [Vpp.midchain, hadj]
    cases owner <;> exact hm
  · apply updateAdj
    apply h.of_quiet
    apply Quiet.set
    intro m hm
    cases owner <;> contradiction

theorem encapAdjAddDel (h : FixupFresh v) (pfx : FibPrefix) (swIfIndex : Nat)
    (isAdd : Bool) :
    FixupFresh (l2tvppEncapAdjAddDel v pfx swIfIndex isAdd) := by
  unfold l2tvppEncapAdjAddDel
  split
  · split
    · have hlocked := h.adjNbrAddOrLock (subscriberAdj pfx.addr.ip4 swIfIndex)
        .plugin
      exact hlocked.of_quiet ⟨rfl, rfl, rfl, fun hm => hm⟩
    · unfold l2tvppEncapAdjDel
      dsimp only
      split
      · exact h.of_quiet ⟨rfl, rfl, rfl, fun hm => hm⟩
      · refine of_quiet ?_ (Quiet.adjUnlock _ .plugin)
        exact h.of_quiet ⟨rfl, rfl, rfl, fun hm => hm⟩
  · exact h

theorem routeAddDel (h : FixupFresh v) {pfx : FibPrefix} {swIfIndex : Nat}
    {isAdd : Bool} (hroute : l2tvppRouteAddDel v pfx swIfIndex isAdd = .ok v') :
    FixupFresh v' := by
  unfold l2tvppRouteAddDel at hroute
  split at hroute
  · contradiction
  · cases hroute
    apply encapAdjAddDel
    exact h.of_quiet ⟨rfl, rfl, rfl, fun hm => hm⟩

/-! ## Tunnels and sessions -/

theorem tunnelAdd (h : FixupFresh v) {localIp peerIp : Ip46}
    {localPort peerPort localTid peerTid : U16} :
    FixupFresh
      (v.tunnelAdd P localIp peerIp localPort peerPort localTid peerTid) := by
  intro ai m si hm hsi
  obtain ⟨haddr, sess, t, hsess, ht, hcsum⟩ := h ai m si hm hsi
  exact ⟨haddr, sess, t, hsess,
    Pool.elt?_get_of_live P.tunnels v.lm.tunnels _ ht, hcsum⟩

theorem checksum_modify {tunnels : Pool L2tvppTunnel} {tunnelIndex index : Nat}
    {t : L2tvppTunnel} {f : L2tvppTunnel → L2tvppTunnel}
    (ht : tunnels.elt? index = some t)
    (hf : ∀ t, outerIp4Header (f t) = outerIp4Header t) :
    ∃ t', (tunnels.modify tunnelIndex f).elt? index = some t' ∧
      outerIp4Header t' = outerIp4Header t := by
  rw [Pool.elt?_modify, ht]
  split
  · exact ⟨f t, rfl, hf t⟩
  · exact ⟨t, rfl, rfl⟩

theorem sessionAdd (h : FixupFresh v) {tunnelIndex : Nat}
    {t : L2tvppTunnel} {localSid peerSid : U16} {acfc pfc : U8}
    (hgrows : ∀ ai m, v.midchain ai = some m →
      v.lm.sessions.grows = false ∨
        v.lm.sessionIndexOf ai.swIfIndex = none)
    (hleft : ∀ ai m, v.midchain ai = some m →
      ai.swIfIndex ≠ v.swInterfaces.nextIndex P.swInterfaces) :
    FixupFresh (v.sessionAdd P tunnelIndex t localSid peerSid acfc pfc) := by
  intro ai m si hm hsi
  have hm' : v.midchain ai = some m := hm
  rw [sessionAdd_sessionIndexOf, if_neg (hleft ai m hm')] at hsi
  obtain ⟨haddr, sess, t', hsess, ht', hcsum⟩ := h ai m si hm' hsi
  have hstay : v.lm.sessions.grows = false := by
    rcases hgrows ai m hm' with hstay | hnone
    · exact hstay
    · rw [hsi] at hnone
      contradiction
  obtain ⟨t'', ht'', hheader⟩ : ∃ t'',
      (v.sessionAdd P tunnelIndex t localSid peerSid acfc
        pfc).lm.tunnels.elt? sess.tunnelIndex = some t'' ∧
      outerIp4Header t'' = outerIp4Header t' :=
    checksum_modify ht' fun _ => rfl
  refine ⟨?_, sess, t'', ?_, ht'', ?_⟩
  · rw [haddr]
    exact (Pool.addr_get P.sessions v.lm.sessions _ si hstay).symm
  · exact Pool.elt?_get_of_live P.sessions v.lm.sessions _ hsess
  · rw [hcsum, hheader]

theorem sessionDel (hstore : StoreInv v) (h : FixupFresh v)
    {tunnelIndex : Nat} {key : U64} {index : Nat} {sess : L2tvppSession}
    (hsess : v.lm.sessions.elt? index = some sess) :
    FixupFresh (v.sessionDel tunnelIndex key index sess) := by
  intro ai m si hm hsi
  have hm' : v.midchain ai = some m := by
    simp only [Vpp.midchain, Vpp.sessionDel, removeDelegates,
      vnetDeleteHwInterface_adjacencies, Dict.get?_map] at hm
    rw [Vpp.midchain, ← hm]
    cases v.adjacencies.get? ai with
    | none => rfl
    | some adj =>
        simp only [Option.map_some, Option.bind_some]
        split <;> rfl
  rw [sessionDel_sessionIndexOf] at hsi
  split at hsi
  · contradiction
  · rename_i hsw
    obtain ⟨haddr, sess', t, hsess', ht, hcsum⟩ := h ai m si hm' hsi
    have hne : si ≠ index := by
      rintro rfl
      obtain ⟨owner, howner, heq⟩ := hstore.bySwIfIndex.some_iff.mp hsi
      rw [hsess] at howner
      cases howner
      exact hsw heq.symm
    obtain ⟨t', ht', hheader⟩ : ∃ t',
        (v.sessionDel tunnelIndex key index sess).lm.tunnels.elt?
          sess'.tunnelIndex = some t' ∧
        outerIp4Header t' = outerIp4Header t := by
      rw [sessionDel_lm]
      exact checksum_modify ht fun _ => rfl
    refine ⟨?_, sess', t', ?_, ht', ?_⟩
    · rw [sessionDel_lm, haddr, Pool.addr_put]
    · rw [sessionDel_sessions, if_neg hne, hsess']
    · rw [hcsum, hheader]

end FixupFresh

/-! ## Whole runs -/

def Call.isTunnelDel : Call → Bool
  | .tunnelAddDel _ _ _ _ _ _ isAdd => !isAdd
  | _ => false

def Vpp.acceptsSession (v : Vpp) (tunnelIndex : Nat) (localSid : U16) : Bool :=
  match v.lm.tunnels.elt? tunnelIndex with
  | none => false
  | some t =>
      (v.lm.sessionByKey.lookup
        (l2tvppSessionKey t.localTid localSid)).isNone

/-- When a session add is accepted, no midchain adjacency is left on the
interface index it gets, and if it moves the pool, none is on the interface of
a live session either. -/
def keepsFixups (P : Policies) (v : Vpp) : Call → Bool
  | .sessionAddDel tunnelIndex localSid _ _ _ true =>
      !v.acceptsSession tunnelIndex localSid ||
        v.adjacencies.items.all fun entry =>
          entry.2.midchain.isNone ||
            ((!v.lm.sessions.grows ||
              (v.lm.sessionIndexOf entry.1.swIfIndex).isNone) &&
            entry.1.swIfIndex != v.swInterfaces.nextIndex P.swInterfaces)
  | _ => true

theorem keepsFixups_sessionAdd {P : Policies} {v : Vpp} {tunnelIndex : Nat}
    {localSid peerSid : U16} {acfc pfc : U8} {t : L2tvppTunnel}
    (hguard : keepsFixups P v
      (.sessionAddDel tunnelIndex localSid peerSid acfc pfc true) = true)
    (ht : v.lm.tunnels.elt? tunnelIndex = some t)
    (hkey : v.lm.sessionByKey.lookup
      (l2tvppSessionKey t.localTid localSid) = none)
    {ai : AdjIndex} {m : Midchain} (hm : v.midchain ai = some m) :
    (v.lm.sessions.grows = false ∨
      v.lm.sessionIndexOf ai.swIfIndex = none) ∧
    ai.swIfIndex ≠ v.swInterfaces.nextIndex P.swInterfaces := by
  obtain ⟨adj, hadj, hmid⟩ := Option.bind_eq_some_iff.mp hm
  simp only [keepsFixups, Vpp.acceptsSession, ht, hkey, Option.isNone_none,
    Bool.not_true, Bool.false_or, List.all_eq_true] at hguard
  have hentry := hguard (ai, adj) (v.adjacencies.mem_items.mpr hadj)
  simpa [hmid] using hentry

theorem fixupFresh_step (P : Policies) {v : Vpp} {call : Call}
    (hstore : StoreInv v) (h : FixupFresh v)
    (hdel : call.isTunnelDel = false) (hguard : keepsFixups P v call = true) :
    FixupFresh (step P v call) := by
  cases call with
  | tunnelAddDel localIp peerIp localPort peerPort localTid peerTid isAdd =>
      simp only [step]
      split
      · exact h
      · rename_i out v' hok
        rcases l2tvppTunnelAddDel_ok hok with
          ⟨-, -, -, -, -, rfl⟩ | ⟨rfl, -⟩
        · exact h.tunnelAdd
        · contradiction
  | sessionAddDel tunnelIndex localSid peerSid acfc pfc isAdd =>
      simp only [step]
      split
      · exact h
      · rename_i out v' hok
        obtain ⟨t, ht, ⟨rfl, hkey, -, rfl⟩ |
          ⟨-, -, index, sess, -, hsess, rfl⟩⟩ := l2tvppSessionAddDel_ok hok
        · exact h.sessionAdd
            (fun ai m hm => (keepsFixups_sessionAdd hguard ht hkey hm).1)
            (fun ai m hm => (keepsFixups_sessionAdd hguard ht hkey hm).2)
        · exact FixupFresh.sessionDel hstore h hsess
  | routeAddDel pfx swIfIndex isAdd =>
      simp only [step]
      split
      · exact h
      · rename_i v' hok
        exact h.routeAddDel hok
  | adjAdd ai => exact h.adjNbrAddOrLock ai .other
  | adjUpdate ai => exact h.updateAdj ai
  | adjRelease ai => exact h.of_quiet (Quiet.adjUnlock ai .other)
  | interfaceAdd => exact h.of_quiet ⟨rfl, rfl, rfl, fun hm => hm⟩
  | interfaceDel hwIfIndex =>
      simp only [step]
      split
      · exact h
      · exact h.of_quiet (Quiet.vnetDeleteHwInterface hwIfIndex)
  | innerChecksum noChecksum =>
      exact h.of_quiet ⟨rfl, rfl, rfl, fun hm => hm⟩

/-- As long as every session add keeps the fixups, each fixup reads the live
session of its interface and the checksum of that session's header. -/
theorem fixup_reads_own_session (P : Policies)
    (hwInterfaces : Pool HwInterface) (swInterfaces : Pool SwInterface)
    (calls : List Call)
    (hcalls : (calls.all fun call => !call.isTunnelDel) = true)
    (hguard : Guarded (step P) (keepsFixups P)
      (Vpp.initial hwInterfaces swInterfaces) calls) :
    let v := runCalls P hwInterfaces swInterfaces calls
    ∀ ai adj m index sess, v.adjacencies.get? ai = some adj →
      adj.midchain = some m → v.lm.sessions.elt? index = some sess →
      sess.swIfIndex = ai.swIfIndex →
      m.fixupData = v.lm.sessions.addr index ∧ m.session v = some sess ∧
      ∃ t, v.lm.tunnels.elt? sess.tunnelIndex = some t ∧
        sess.encapIpCsum0 = ip4HeaderChecksum (outerIp4Header t) := by
  intro v
  obtain ⟨hstore, hfresh⟩ : StoreInv v ∧ FixupFresh v := by
    refine run_invariant_of_guarded (step P)
      (fun v => StoreInv v ∧ FixupFresh v) ?_ ?_ hguard
    · intro v call hcall hkeeps h
      have hdel := List.all_eq_true.mp hcalls call hcall
      rw [Bool.not_eq_true'] at hdel
      exact ⟨h.1.storeStep (storeStep_step P v call),
        fixupFresh_step P h.1 h.2 hdel hkeeps⟩
    · refine ⟨StoreInv.initial hwInterfaces swInterfaces, ?_⟩
      intro ai m si hm
      contradiction
  intro ai adj m index sess hadj hmid hsess hsw
  have hm : v.midchain ai = some m := by
    rw [Vpp.midchain, hadj]
    exact hmid
  have hindex : v.lm.sessionIndexOf ai.swIfIndex = some index := by
    rw [← hsw]
    exact hstore.bySwIfIndex.find hsess
  obtain ⟨haddr, sess', t, hsess', ht, hcsum⟩ := hfresh ai m index hm hindex
  rw [hsess] at hsess'
  cases hsess'
  refine ⟨haddr, ?_, t, ht, hcsum⟩
  rw [Midchain.session, haddr, Pool.deref_addr, hsess]

def addSession (localSid : U16) : Call := .sessionAddDel 0 localSid 8 0 0 true

def oneTunnel : Call :=
  .tunnelAddDel (Ip46.ofIp4 0x0a000001) (Ip46.ofIp4 0x0a000002) 1701 1701 100
    200 true

def firstAdj : AdjIndex := subscriberAdj 0x0a010001 0

theorem fixup_reads_own_session_third :
    let v := runCalls Policies.lifo Pool.empty Pool.empty
      [oneTunnel, addSession 1, addSession 2, .adjAdd firstAdj, addSession 3]
    ∀ ai adj m index sess, v.adjacencies.get? ai = some adj →
      adj.midchain = some m → v.lm.sessions.elt? index = some sess →
      sess.swIfIndex = ai.swIfIndex →
      m.fixupData = v.lm.sessions.addr index ∧ m.session v = some sess ∧
      ∃ t, v.lm.tunnels.elt? sess.tunnelIndex = some t ∧
        sess.encapIpCsum0 = ip4HeaderChecksum (outerIp4Header t) :=
  fixup_reads_own_session Policies.lifo Pool.empty Pool.empty
    [oneTunnel, addSession 1, addSession 2, .adjAdd firstAdj, addSession 3]
    (by decide) (by decide)

/-- The second add moves the pool; the fixup of the first session's adjacency
then reads freed memory. -/
theorem fixup_stale_after_growth :
    let v := runCalls Policies.lifo Pool.empty Pool.empty
      [oneTunnel, addSession 1, .adjAdd firstAdj, addSession 2]
    ∃ adj m sess, v.adjacencies.get? firstAdj = some adj ∧
      adj.midchain = some m ∧ v.lm.sessions.elt? 0 = some sess ∧
      sess.swIfIndex = firstAdj.swIfIndex ∧
      m.fixupData ≠ v.lm.sessions.addr 0 ∧ m.session v = none ∧
      ∀ packet, l2tvppFixup v m packet = .error (.freedElement 0) := by
  intro v
  have hmid : (v.midchain firstAdj).map Midchain.fixupData = some ⟨1, 0⟩ := by
    decide
  have hsession : (v.lm.sessions.elt? 0).map L2tvppSession.swIfIndex =
      some 0 := by decide
  have hfreed : v.lm.sessions.deref ⟨1, 0⟩ = none := by decide
  obtain ⟨m, hm, hdata⟩ := Option.map_eq_some_iff.mp hmid
  obtain ⟨adj, hadj, hadjm⟩ := Option.bind_eq_some_iff.mp hm
  obtain ⟨sess, hsess, hsw⟩ := Option.map_eq_some_iff.mp hsession
  have hnone : m.session v = none := by
    rw [Midchain.session, hdata, hfreed]
  refine ⟨adj, m, sess, hadj, hadjm, hsess, hsw, ?_, hnone, ?_⟩
  · rw [hdata]
    decide
  · intro packet
    rw [l2tvppFixup, hnone, hdata]

end L2tvpp.Plugin
