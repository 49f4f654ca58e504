import Mathlib.Logic.Function.Basic
import L2tvpp.Syncd.Daemon

/-!
# The mirror relation

What the daemon's record says about the plugin, and what each accepted call
does to it.  The records are a function from keys, so that the relation can
also be stated between two writes of the daemon, when the plugin is already
ahead of the record.
-/

namespace L2tvpp.Syncd

open L2tvpp.Lib L2tvpp.Plugin

abbrev Records := SessionKey → Option InstalledRec

def ids (sess : L2tvppSession) : SessionKey := (sess.localTid, sess.localSid)

theorem key_eq_iff {sess sess' : L2tvppSession} :
    sess.key = sess'.key ↔ ids sess = ids sess' := by
  simp only [L2tvppSession.key, l2tvppSessionKey_inj, ids, Prod.mk.injEq]

structure Describes (rec : InstalledRec) (sess : L2tvppSession) : Prop where
  swIfIndex : rec.swIfIndex = some sess.swIfIndex
  tunnelIndex : rec.tunnelIndex = some sess.tunnelIndex
  localSid : rec.localSid = sess.localSid

/-- The (prefix, interface) routes of the records. -/
def Routed (records : Records) (path : FibPrefix × Nat) : Prop :=
  ∃ key rec pfx, records key = some rec ∧ pfx ∈ rec.routes ∧
    rec.swIfIndex = some path.2 ∧ path.1 = pfx.decode

structure Mirror (v : Vpp) (records : Records) : Prop where
  store : StoreInv v
  counts : CountExact v
  live : ∀ {key : SessionKey} {rec : InstalledRec}, records key = some rec →
    ∃ index sess, v.lm.sessions.elt? index = some sess ∧ ids sess = key ∧
      Describes rec sess
  recorded : ∀ {index : Nat} {sess : L2tvppSession},
    v.lm.sessions.elt? index = some sess →
    ∃ rec, records (ids sess) = some rec
  fib : ∀ path, path ∈ v.fib ↔ Routed records path

namespace Mirror

variable {P : Policies} {v v' : Vpp} {records : Records}

theorem initial (hwInterfaces : Pool HwInterface)
    (swInterfaces : Pool SwInterface) :
    Mirror (Vpp.initial hwInterfaces swInterfaces) fun _ => none where
  store := StoreInv.initial hwInterfaces swInterfaces
  counts := CountExact.initial hwInterfaces swInterfaces
  live := by
    intro key rec hrec
    contradiction
  recorded := by
    intro index sess hsess
    simp [Vpp.initial, L2tvppMain.init] at hsess
  fib := by simp [Vpp.initial, Routed]

/-- The session of a record is the live session with its key. -/
theorem describes (h : Mirror v records) {index : Nat} {sess : L2tvppSession}
    (hsess : v.lm.sessions.elt? index = some sess) {rec : InstalledRec}
    (hrec : records (ids sess) = some rec) : Describes rec sess := by
  obtain ⟨index', sess', hsess', hids, hdescribes⟩ := h.live hrec
  have hindex := h.store.byKey.index_eq hsess' hsess (key_eq_iff.mpr hids)
  rw [hindex, hsess] at hsess'
  cases hsess'
  exact hdescribes

theorem key_eq_of_swIfIndex (h : Mirror v records) {key key' : SessionKey}
    {rec rec' : InstalledRec} (hrec : records key = some rec)
    (hrec' : records key' = some rec') (hsw : rec.swIfIndex = rec'.swIfIndex) :
    key = key' := by
  obtain ⟨index, sess, hsess, rfl, hdescribes⟩ := h.live hrec
  obtain ⟨index', sess', hsess', rfl, hdescribes'⟩ := h.live hrec'
  rw [hdescribes.swIfIndex, hdescribes'.swIfIndex] at hsw
  have hindex := h.store.bySwIfIndex.index_eq hsess hsess' (Option.some.inj hsw)
  rw [hindex, hsess'] at hsess
  cases hsess
  rfl

theorem not_recorded (h : Mirror v records) {tid sid : U16}
    (hkey : v.lm.sessionByKey.lookup (l2tvppSessionKey tid sid) = none) :
    records (tid, sid) = none := by
  rw [Option.eq_none_iff_forall_ne_some]
  intro rec hrec
  obtain ⟨index, sess, hsess, hids, -⟩ := h.live hrec
  obtain ⟨rfl, rfl⟩ := Prod.mk.inj hids
  have hfind := h.store.byKey.find hsess
  rw [L2tvppSession.key, hkey] at hfind
  contradiction

/-! ## Calls that leave the sessions alone -/

theorem of_lm_sessions (h : Mirror v records) (hstore : StoreInv v')
    (hcounts : CountExact v') (hsessions : v'.lm.sessions = v.lm.sessions)
    (hfib : v'.fib = v.fib) : Mirror v' records where
  store := hstore
  counts := hcounts
  live := by
    rw [hsessions]
    exact h.live
  recorded := by
    rw [hsessions]
    exact h.recorded
  fib := by
    rw [hfib]
    exact h.fib

theorem tunnelAdd (h : Mirror v records) {localIp peerIp : Ip46}
    {localPort peerPort localTid peerTid : U16}
    (hfind : l2tvppTunnelFind v.lm peerIp peerPort localTid = none) :
    Mirror (v.tunnelAdd P localIp peerIp localPort peerPort localTid peerTid)
      records :=
  h.of_lm_sessions (h.store.tunnelAdd hfind) h.counts.tunnelAdd rfl rfl

theorem tunnelDel (h : Mirror v records) {index : Nat} {t : L2tvppTunnel}
    (ht : v.lm.tunnels.elt? index = some t) (hzero : t.nSessions = 0) :
    Mirror (v.tunnelDel index) records :=
  h.of_lm_sessions (h.store.tunnelDel index) (h.counts.tunnelDel ht hzero) rfl
    rfl

/-! ## Sessions -/

theorem sessionAdd (h : Mirror v records) {tunnelIndex : Nat}
    {t : L2tvppTunnel} {localSid peerSid : U16} {acfc pfc : U8}
    {rec : InstalledRec} (ht : v.lm.tunnels.elt? tunnelIndex = some t)
    (hkey : v.lm.sessionByKey.lookup
      (l2tvppSessionKey t.localTid localSid) = none)
    (hrec : Describes rec
      (v.newSession P tunnelIndex t localSid peerSid acfc pfc))
    (hroutes : rec.routes = []) :
    Mirror (v.sessionAdd P tunnelIndex t localSid peerSid acfc pfc)
      (Function.update records (t.localTid, localSid) (some rec)) where
  store := h.store.sessionAdd hkey
  counts := CountExact.sessionAdd h.store h.counts ht
  live := by
    intro key rec' hrec'
    rw [Function.update_apply] at hrec'
    split at hrec'
    · rename_i hnew
      cases hrec'
      refine ⟨v.lm.sessions.nextIndex P.sessions,
        v.newSession P tunnelIndex t localSid peerSid acfc pfc, ?_, hnew.symm,
        hrec⟩
      rw [sessionAdd_sessions, if_pos rfl]
    · obtain ⟨index, sess, hsess, hids, hdescribes⟩ := h.live hrec'
      exact ⟨index, sess, Pool.elt?_get_of_live P.sessions _ _ hsess, hids,
        hdescribes⟩
  recorded := by
    intro index sess hsess
    rw [Function.update_apply]
    split
    · exact ⟨rec, rfl⟩
    · rename_i hne
      rw [sessionAdd_sessions] at hsess
      split at hsess
      · cases hsess
        exact absurd rfl hne
      · exact h.recorded hsess
  fib := by
    have hfree := h.not_recorded hkey
    intro path
    rw [show (v.sessionAdd P tunnelIndex t localSid peerSid acfc pfc).fib =
      v.fib from rfl, h.fib]
    constructor
    · rintro ⟨key, rec', pfx, hrec', hpath⟩
      refine ⟨key, rec', pfx, ?_, hpath⟩
      rw [Function.update_of_ne, hrec']
      rintro rfl
      rw [hfree] at hrec'
      contradiction
    · rintro ⟨key, rec', pfx, hrec', hpath⟩
      rw [Function.update_apply] at hrec'
      split at hrec'
      · cases hrec'
        rw [hroutes] at hpath
        simp at hpath
      · exact ⟨key, rec', pfx, hrec', hpath⟩

theorem sessionDel (h : Mirror v records) {index : Nat} {sess : L2tvppSession}
    (hsess : v.lm.sessions.elt? index = some sess) {rec : InstalledRec}
    (hrec : records (ids sess) = some rec) (hroutes : rec.routes = []) :
    Mirror (v.sessionDel sess.tunnelIndex sess.key index sess)
      (Function.update records (ids sess) none) where
  store := h.store.sessionDel (h.store.byKey.find hsess) hsess
  counts := h.counts.sessionDel hsess
  live := by
    intro key rec' hrec'
    rw [Function.update_apply] at hrec'
    split at hrec'
    · contradiction
    · rename_i hne
      obtain ⟨index', sess', hsess', hids, hdescribes⟩ := h.live hrec'
      refine ⟨index', sess', ?_, hids, hdescribes⟩
      rw [sessionDel_sessions, if_neg, hsess']
      rintro rfl
      rw [hsess] at hsess'
      cases hsess'
      exact hne hids.symm
  recorded := by
    intro index' sess' hsess'
    rw [sessionDel_sessions] at hsess'
    split at hsess'
    · contradiction
    · rename_i hne
      rw [Function.update_of_ne]
      · exact h.recorded hsess'
      · intro hids
        exact hne (h.store.byKey.index_eq hsess' hsess (key_eq_iff.mpr hids))
  fib := by
    intro path
    rw [show (v.sessionDel sess.tunnelIndex sess.key index sess).fib = v.fib by
      simp [Vpp.sessionDel, removeDelegates], h.fib]
    constructor
    · rintro ⟨key, rec', pfx, hrec', hmem, hpath⟩
      refine ⟨key, rec', pfx, ?_, hmem, hpath⟩
      rw [Function.update_of_ne, hrec']
      rintro rfl
      rw [hrec] at hrec'
      cases hrec'
      rw [hroutes] at hmem
      simp at hmem
    · rintro ⟨key, rec', pfx, hrec', hpath⟩
      rw [Function.update_apply] at hrec'
      split at hrec'
      · contradiction
      · exact ⟨key, rec', pfx, hrec', hpath⟩

end Mirror

/-! ## Routes -/

def cachedAdj (v : Vpp) (ip4 : U32) : Option AdjIndex :=
  v.lm.encapAdjByIp4.lookup (encapKey ip4)

/-- A loop of accepted route calls for one interface. -/
structure RoutesChanged (isAdd : Bool) (pfxs : List IpPrefix)
    (swIfIndex : Nat) (v v' : Vpp) : Prop where
  sameStore : SameStore v v'
  fib : ∀ path, path ∈ v'.fib ↔
    if isAdd then
      path ∈ v.fib ∨ ∃ pfx ∈ pfxs, path = (pfx.decode, swIfIndex)
    else path ∈ v.fib ∧ ¬ ∃ pfx ∈ pfxs, path = (pfx.decode, swIfIndex)
  cache : ∀ ip4, cachedAdj v' ip4 =
    if IpPrefix.host ip4 ∈ pfxs then
      if isAdd then some (subscriberAdj ip4 swIfIndex) else none
    else cachedAdj v ip4

namespace RoutesChanged

variable {isAdd : Bool} {pfxs : List IpPrefix} {swIfIndex : Nat}
  {v v' v'' : Vpp}

theorem nil (v : Vpp) : RoutesChanged isAdd [] swIfIndex v v where
  sameStore := SameStore.refl v
  fib := by
    intro path
    cases isAdd <;> simp
  cache := by simp

theorem snoc (h : RoutesChanged isAdd pfxs swIfIndex v v') {pfx : IpPrefix}
    (hroute : l2tvppRouteAddDel v' pfx.decode swIfIndex isAdd = .ok v'') :
    RoutesChanged isAdd (pfxs ++ [pfx]) swIfIndex v v'' := by
  obtain ⟨-, hfib, hcache⟩ := l2tvppRouteAddDel_ok hroute
  refine ⟨h.sameStore.trans (sameStore_l2tvppRouteAddDel hroute), ?_, ?_⟩
  · intro path
    rw [hfib, IpPrefix.key_decode]
    have hbefore := h.fib path
    cases isAdd with
    | true =>
        simp only [if_true, Finset.mem_insert] at hbefore ⊢
        rw [hbefore]
        constructor
        · rintro (rfl | hmem | ⟨other, hother, rfl⟩)
          · exact .inr ⟨pfx, by simp, rfl⟩
          · exact .inl hmem
          · exact .inr ⟨other, by simp [hother], rfl⟩
        · rintro (hmem | ⟨other, hother, rfl⟩)
          · exact .inr (.inl hmem)
          · rcases List.mem_append.mp hother with hother | hother
            · exact .inr (.inr ⟨other, hother, rfl⟩)
            · rw [List.mem_singleton.mp hother]
              exact .inl rfl
    | false =>
        simp only [Bool.false_eq_true, if_false, Finset.mem_erase]
          at hbefore ⊢
        rw [hbefore]
        constructor
        · rintro ⟨hne, hmem, hnot⟩
          refine ⟨hmem, ?_⟩
          rintro ⟨other, hother, rfl⟩
          rcases List.mem_append.mp hother with hother | hother
          · exact hnot ⟨other, hother, rfl⟩
          · exact hne (by rw [List.mem_singleton.mp hother])
        · rintro ⟨hmem, hnot⟩
          refine ⟨?_, hmem, ?_⟩
          · rintro rfl
            exact hnot ⟨pfx, by simp, rfl⟩
          · rintro ⟨other, hother, rfl⟩
            exact hnot ⟨other, by simp [hother], rfl⟩
  · intro ip4
    rw [cachedAdj, hcache ip4, cacheAfter]
    simp only [IpPrefix.isHost4_decode, List.mem_append, List.mem_singleton]
    by_cases hpfx : pfx = IpPrefix.host ip4
    · simp [hpfx]
    · rw [if_neg hpfx]
      simp only [Ne.symm hpfx, or_false]
      exact h.cache ip4

end RoutesChanged

namespace Mirror

variable {v v' : Vpp} {records : Records}

theorem fib_of_record (h : Mirror v records) {key : SessionKey}
    {rec : InstalledRec} (hrec : records key = some rec) {pfx : FibPrefix}
    {swIfIndex : Nat} (hsw : rec.swIfIndex = some swIfIndex) :
    (pfx, swIfIndex) ∈ v.fib ↔ ∃ p ∈ rec.routes, pfx = p.decode := by
  rw [h.fib]
  constructor
  · rintro ⟨key', rec', p, hrec', hmem, hsw', heq⟩
    have hkey := h.key_eq_of_swIfIndex hrec' hrec (hsw'.trans hsw.symm)
    rw [hkey, hrec] at hrec'
    cases hrec'
    exact ⟨p, hmem, heq⟩
  · rintro ⟨p, hmem, rfl⟩
    exact ⟨key, rec, p, hrec, hmem, hsw, rfl⟩

/-- With another list of routes in one record, the routes over its interface are
those of the list. -/
theorem routed_update_own (h : Mirror v records) {key : SessionKey}
    {rec : InstalledRec} (hrec : records key = some rec) {pfx : FibPrefix}
    {swIfIndex : Nat} (hsw : rec.swIfIndex = some swIfIndex)
    {routes : List IpPrefix} :
    Routed (Function.update records key (some { rec with routes := routes }))
      (pfx, swIfIndex) ↔ ∃ p ∈ routes, pfx = p.decode := by
  constructor
  · rintro ⟨key', rec', p, hrec', hmem, hsw', rfl⟩
    rw [Function.update_apply] at hrec'
    split at hrec'
    · cases hrec'
      exact ⟨p, hmem, rfl⟩
    · rename_i hne
      exact absurd
        (h.key_eq_of_swIfIndex hrec' hrec (hsw'.trans hsw.symm)) hne
  · rintro ⟨p, hmem, rfl⟩
    exact ⟨key, _, p, Function.update_self .., hmem, hsw, rfl⟩

theorem routed_update_other {key : SessionKey} {rec : InstalledRec}
    (hrec : records key = some rec) {pfx : FibPrefix} {swIfIndex other : Nat}
    (hsw : rec.swIfIndex = some swIfIndex) (hother : other ≠ swIfIndex)
    {routes : List IpPrefix} :
    Routed (Function.update records key (some { rec with routes := routes }))
      (pfx, other) ↔ Routed records (pfx, other) := by
  constructor
  · rintro ⟨key', rec', p, hrec', hmem, hsw', heq⟩
    rw [Function.update_apply] at hrec'
    split at hrec'
    · cases hrec'
      rw [hsw] at hsw'
      exact absurd (Option.some.inj hsw').symm hother
    · exact ⟨key', rec', p, hrec', hmem, hsw', heq⟩
  · rintro ⟨key', rec', p, hrec', hmem, hsw', heq⟩
    refine ⟨key', rec', p, ?_, hmem, hsw', heq⟩
    rw [Function.update_of_ne, hrec']
    rintro rfl
    rw [hrec] at hrec'
    cases hrec'
    rw [hsw] at hsw'
    exact hother (Option.some.inj hsw').symm

theorem routes (h : Mirror v records) {isAdd : Bool} {pfxs : List IpPrefix}
    {swIfIndex : Nat} (hchanged : RoutesChanged isAdd pfxs swIfIndex v v')
    {key : SessionKey} {rec : InstalledRec} (hrec : records key = some rec)
    (hsw : rec.swIfIndex = some swIfIndex) {routes : List IpPrefix}
    (hroutes : ∀ pfx, pfx ∈ routes ↔
      if isAdd then pfx ∈ rec.routes ∨ pfx ∈ pfxs
      else pfx ∈ rec.routes ∧ pfx ∉ pfxs) :
    Mirror v' (Function.update records key
      (some { rec with routes := routes })) where
  store := h.store.of_sameStore hchanged.sameStore
  counts := h.counts.of_sameStore hchanged.sameStore
  live := by
    intro key' rec' hrec'
    have hold : ∃ old, records key' = some old ∧
        rec'.swIfIndex = old.swIfIndex ∧ rec'.tunnelIndex = old.tunnelIndex ∧
        rec'.localSid = old.localSid := by
      rw [Function.update_apply] at hrec'
      split at hrec'
      · rename_i heq
        cases hrec'
        exact ⟨rec, heq ▸ hrec, rfl, rfl, rfl⟩
      · exact ⟨rec', hrec', rfl, rfl, rfl⟩
    obtain ⟨old, hold, hsw', htunnel, hsid⟩ := hold
    obtain ⟨index, sess, hsess, hids, hdescribes⟩ := h.live hold
    obtain ⟨csum, hsess'⟩ := hchanged.sameStore.symm.session hsess
    exact ⟨index, _, hsess', hids, hsw'.trans hdescribes.swIfIndex,
      htunnel.trans hdescribes.tunnelIndex, hsid.trans hdescribes.localSid⟩
  recorded := by
    intro index sess hsess
    obtain ⟨csum, hsess'⟩ := hchanged.sameStore.session hsess
    obtain ⟨old, hold⟩ := h.recorded hsess'
    rw [Function.update_apply]
    split
    · exact ⟨_, rfl⟩
    · exact ⟨old, hold⟩
  fib := by
    rintro ⟨pfx, other⟩
    have hfib := hchanged.fib (pfx, other)
    by_cases hother : other = swIfIndex
    · subst hother
      rw [hfib, h.fib_of_record hrec hsw, h.routed_update_own hrec hsw]
      cases isAdd with
      | true =>
          simp only [if_true] at hroutes ⊢
          constructor
          · rintro (⟨p, hmem, rfl⟩ | ⟨p, hmem, heq⟩)
            · exact ⟨p, (hroutes p).mpr (.inl hmem), rfl⟩
            · exact ⟨p, (hroutes p).mpr (.inr hmem), congrArg Prod.fst heq⟩
          · rintro ⟨p, hmem, rfl⟩
            rcases (hroutes p).mp hmem with hmem | hmem
            · exact .inl ⟨p, hmem, rfl⟩
            · exact .inr ⟨p, hmem, rfl⟩
      | false =>
          simp only [Bool.false_eq_true, if_false] at hroutes ⊢
          constructor
          · rintro ⟨⟨p, hmem, rfl⟩, hnot⟩
            exact ⟨p, (hroutes p).mpr
              ⟨hmem, fun hmem' => hnot ⟨p, hmem', rfl⟩⟩, rfl⟩
          · rintro ⟨p, hmem, rfl⟩
            obtain ⟨hmem, hnot⟩ := (hroutes p).mp hmem
            refine ⟨⟨p, hmem, rfl⟩, ?_⟩
            rintro ⟨p', hmem', heq⟩
            rw [IpPrefix.decode_inj.mp (congrArg Prod.fst heq)] at hnot
            exact hnot hmem'
    · -- a route over another interface is neither added nor removed
      have hkept : (pfx, other) ∈ v'.fib ↔ (pfx, other) ∈ v.fib := by
        rw [hfib]
        cases isAdd <;> simp [hother]
      rw [hkept, h.fib, routed_update_other hrec hsw hother]

end Mirror

end L2tvpp.Syncd
