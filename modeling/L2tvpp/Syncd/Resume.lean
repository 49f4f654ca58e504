import Mathlib.Data.Set.BooleanAlgebra
import Mathlib.Order.ConditionallyCompleteLattice.Basic
import Mathlib.Order.Interval.Set.UnorderedInterval
import L2tvpp.Syncd.BadSession

/-!
# A pass from a half-done state

A state is resumable if what the plugin has lies between what the record says
and what is wanted: a wanted session has no more and no less than the routes
that one of the two or both of them have, a stale one may have lost some of
its routes or all of itself.  A pass that starts there ends with exactly the
wanted sessions under a condition that is also necessary.
-/

namespace L2tvpp.Syncd

open L2tvpp.Lib L2tvpp.Plugin

variable {cfg : Config} {pass : Pass} {w w' : World} {v v' : Vpp}

/-! ## The routes over one interface -/

def routesOver (v : Vpp) (swIfIndex : Nat) : Set FibPrefix :=
  {p | (p, swIfIndex) ∈ v.fib}

def prefixSet (pfxs : List IpPrefix) : Set FibPrefix :=
  {p | ∃ pfx ∈ pfxs, p = pfx.decode}

theorem mem_routesOver {p : FibPrefix} {swIfIndex : Nat} :
    p ∈ routesOver v swIfIndex ↔ (p, swIfIndex) ∈ v.fib := Iff.rfl

theorem routesOver_congr (h : v'.fib = v.fib) :
    routesOver v' = routesOver v := by
  unfold routesOver
  rw [h]

@[simp] theorem decode_mem_prefixSet {pfxs : List IpPrefix} {pfx : IpPrefix} :
    pfx.decode ∈ prefixSet pfxs ↔ pfx ∈ pfxs := by
  constructor
  · rintro ⟨other, hother, heq⟩
    rw [IpPrefix.decode_inj.mp heq]
    exact hother
  · exact fun hpfx => ⟨pfx, hpfx, rfl⟩

theorem prefixSet_congr {pfxs pfxs' : List IpPrefix}
    (h : ∀ pfx, pfx ∈ pfxs ↔ pfx ∈ pfxs') :
    prefixSet pfxs = prefixSet pfxs' := by
  ext p
  simp only [prefixSet, Set.mem_ofPred_eq, h]

theorem prefixSet_list (order : SetOrder) (pfxs : List IpPrefix) :
    prefixSet (order.list pfxs) = prefixSet pfxs :=
  prefixSet_congr fun _ => order.mem_list

theorem prefixSet_mono {pfxs pfxs' : List IpPrefix} (h : pfxs ⊆ pfxs') :
    prefixSet pfxs ⊆ prefixSet pfxs' := by
  rintro p ⟨pfx, hpfx, rfl⟩
  exact ⟨pfx, h hpfx, rfl⟩

theorem prefixSet_setDiff (first second : List IpPrefix) :
    prefixSet (setDiff first second) = prefixSet first \ prefixSet second := by
  ext p
  constructor
  · rintro ⟨pfx, hpfx, rfl⟩
    rw [mem_setDiff] at hpfx
    exact ⟨⟨pfx, hpfx.1, rfl⟩, by simpa using hpfx.2⟩
  · rintro ⟨⟨pfx, hpfx, rfl⟩, hnot⟩
    exact ⟨pfx, mem_setDiff.mpr ⟨hpfx, by simpa using hnot⟩, rfl⟩

/-- The routes of a session on the way from the recorded to the wanted ones. -/
theorem mem_uIcc_of_changed {α : Type} {recorded wanted current added deleted :
    Set α} (hcurrent : current ∈ Set.uIcc recorded wanted)
    (hadded : added ⊆ wanted \ recorded)
    (hdeleted : deleted ⊆ recorded \ wanted) :
    (current ∪ added) \ deleted ∈ Set.uIcc recorded wanted := by
  obtain ⟨hlower, hupper⟩ := hcurrent
  constructor
  · rintro p ⟨hp, hp'⟩
    exact ⟨.inl (hlower ⟨hp, hp'⟩), fun hdel => (hdeleted hdel).2 hp'⟩
  · rintro p ⟨hp | hp, -⟩
    · exact hupper hp
    · exact .inr (hadded hp).1

theorem changed_eq_wanted {α : Type} {recorded wanted current : Set α}
    (hcurrent : current ∈ Set.uIcc recorded wanted) :
    (current ∪ wanted \ recorded) \ (recorded \ wanted) = wanted := by
  obtain ⟨hlower, hupper⟩ := hcurrent
  ext p
  constructor
  · rintro ⟨hp | hp, hnot⟩
    · by_contra hout
      rcases hupper hp with hin | hin
      · exact hnot ⟨hin, hout⟩
      · exact hout hin
    · exact hp.1
  · intro hp
    refine ⟨?_, fun hdel => hdel.2 hp⟩
    by_cases hin : p ∈ recorded
    · exact .inl (hlower ⟨hin, hp⟩)
    · exact .inr ⟨hp, hin⟩

section Changed

variable {isAdd : Bool} {pfxs : List IpPrefix} {swIfIndex : Nat}

theorem RoutesChanged.over_own
    (h : RoutesChanged isAdd pfxs swIfIndex v v') :
    routesOver v' swIfIndex =
      if isAdd then routesOver v swIfIndex ∪ prefixSet pfxs
      else routesOver v swIfIndex \ prefixSet pfxs := by
  ext p
  rw [mem_routesOver, h.fib]
  cases isAdd <;> simp [prefixSet, routesOver]

theorem RoutesChanged.over_other
    (h : RoutesChanged isAdd pfxs swIfIndex v v') {other : Nat}
    (hother : other ≠ swIfIndex) :
    routesOver v' other = routesOver v other := by
  ext p
  rw [mem_routesOver, h.fib]
  cases isAdd <;> simp [routesOver, hother]

end Changed

/-! ## Half-done states -/

structure Resumable (pass : Pass) (v : Vpp) (records : Records) : Prop where
  store : StoreInv v
  routed : ∀ path ∈ v.fib, ∃ key, interfaceOf v key = some path.2
  named : ∀ key s rec swIfIndex,
    (wantSessions pass.ksessions).get? key = some s →
    records key = some rec → rec.swIfIndex = some swIfIndex →
    interfaceOf v key = some swIfIndex ∧
      routesOver v swIfIndex ∈ Set.uIcc (prefixSet rec.routes)
        (prefixSet (pass.routesAfter records (key, s)))
  stale : ∀ key rec swIfIndex,
    (wantSessions pass.ksessions).get? key = none →
    records key = some rec → interfaceOf v key = some swIfIndex →
    rec.swIfIndex = some swIfIndex ∧
      routesOver v swIfIndex ⊆ prefixSet rec.routes
  apart : ∀ key rec swIfIndex,
    (wantSessions pass.ksessions).get? key = none →
    records key = some rec → rec.swIfIndex = some swIfIndex →
    ∀ other s, (wantSessions pass.ksessions).get? other = some s →
      interfaceOf v other ≠ some swIfIndex
  victim : ∀ key rec, (wantSessions pass.ksessions).get? key = none →
    records key = some rec → rec.victim v = some key ∨
      ∀ other, (wantSessions pass.ksessions).get? other = none →
        interfaceOf v other = none

/-! ## The condition -/

/-- Every session of the plugin is recorded, the records of wanted sessions
have an interface and, if the routes are not checked again, the wanted routes,
the tunnels can be opened and the deletes for stale records hit no wanted
session. -/
def healable (cfg : Config) (pass : Pass) (w : World) : Bool :=
  let want := wantSessions pass.ksessions
  (w.vpp.lm.sessions.toList.all fun item =>
    (w.installed.get? (ids item.2)).isSome) &&
  (want.items.all fun entry => (w.installed.get? entry.1).all fun rec =>
    rec.swIfIndex.isSome && (pass.syncExistingRoutes ||
      decide (rec.routes ⊆ entry.2.fetchRoutes pass.pppRoutes ∧
        entry.2.fetchRoutes pass.pppRoutes ⊆ rec.routes))) &&
  tunnelsOpenable cfg w.vpp (openersOf w want.items) &&
  w.installed.items.all fun item =>
    (want.get? item.1).isSome || sparesWanted cfg pass w item.2

structure Healable (cfg : Config) (pass : Pass) (w : World) : Prop where
  known : ∀ key, interfaceOf w.vpp key ≠ none → w.installed.get? key ≠ none
  interface : ∀ key s rec, (wantSessions pass.ksessions).get? key = some s →
    w.installed.get? key = some rec → rec.swIfIndex ≠ none
  routes : ∀ key s rec, (wantSessions pass.ksessions).get? key = some s →
    w.installed.get? key = some rec → pass.syncExistingRoutes = false →
    ∀ pfx, pfx ∈ rec.routes ↔ pfx ∈ s.fetchRoutes pass.pppRoutes
  openable : tunnelsOpenable cfg w.vpp
    (openersOf w (wantSessions pass.ksessions).items) = true
  spares : ∀ key rec, w.installed.get? key = some rec →
    (wantSessions pass.ksessions).get? key = none →
    sparesWanted cfg pass w rec = true

theorem healable_iff (hstore : StoreInv w.vpp) :
    healable cfg pass w = true ↔ Healable cfg pass w := by
  simp only [healable, Bool.and_eq_true, List.all_eq_true, Option.all_eq_true,
    Bool.or_eq_true, decide_eq_true_eq, Prod.forall, Dict.mem_items,
    Pool.mem_toList, Option.isSome_iff_ne_none]
  constructor
  · rintro ⟨⟨⟨hknown, hrecords⟩, hopenable⟩, hspares⟩
    refine ⟨?_, ?_, ?_, hopenable, ?_⟩
    · intro key hlive
      obtain ⟨index, sess, hsess, rfl⟩ := (sessionLive_iff hstore).mpr hlive
      exact hknown index sess hsess
    · intro key s rec hs hrec
      exact (hrecords key.1 key.2 s hs rec hrec).1
    · intro key s rec hs hrec hsync pfx
      rcases (hrecords key.1 key.2 s hs rec hrec).2 with hyes | ⟨hsub, hsup⟩
      · rw [hsync] at hyes
        contradiction
      · exact ⟨fun hpfx => hsub hpfx, fun hpfx => hsup hpfx⟩
    · intro key rec hrec hstale
      rcases hspares key.1 key.2 rec hrec with hwanted | hspare
      · exact absurd hstale hwanted
      · exact hspare
  · intro h
    refine ⟨⟨⟨?_, ?_⟩, h.openable⟩, ?_⟩
    · intro index sess hsess
      refine h.known (ids sess) ?_
      rw [interfaceOf_live hstore hsess]
      simp
    · intro tid sid s hs rec hrec
      refine ⟨h.interface _ s rec hs hrec, ?_⟩
      cases hsync : pass.syncExistingRoutes with
      | true => exact .inl rfl
      | false =>
          exact .inr ⟨fun pfx => (h.routes _ s rec hs hrec hsync pfx).mp,
            fun pfx => (h.routes _ s rec hs hrec hsync pfx).mpr⟩
    · intro tid sid rec hrec
      cases hs : (wantSessions pass.ksessions).get? (tid, sid) with
      | none => exact .inr (h.spares _ rec hrec hs)
      | some s => exact .inl (by simp)

/-! ## What the pass is for -/

/-- The plugin's sessions and routes are exactly the wanted ones, and every
record names the interface of its session. -/
structure Healed (pass : Pass) (w : World) : Prop where
  sessions : ∀ key, (∃ index sess, w.vpp.lm.sessions.elt? index = some sess ∧
      (sess.localTid, sess.localSid) = key) ↔
    ∃ s, (wantSessions pass.ksessions).get? key = some s
  routes : ∀ path, path ∈ w.vpp.fib ↔ ∃ index sess s pfx,
    w.vpp.lm.sessions.elt? index = some sess ∧
    (wantSessions pass.ksessions).get? (sess.localTid, sess.localSid) =
      some s ∧ pfx ∈ s.fetchRoutes pass.pppRoutes ∧
    path = (pfx.decode, sess.swIfIndex)
  records : ∀ key rec, w.installed.get? key = some rec → ∃ index sess,
    w.vpp.lm.sessions.elt? index = some sess ∧
    (sess.localTid, sess.localSid) = key ∧
    rec.swIfIndex = some sess.swIfIndex

theorem healed_iff (hstore : StoreInv w.vpp) : Healed pass w ↔
    (∀ key, interfaceOf w.vpp key ≠ none ↔
      (wantSessions pass.ksessions).get? key ≠ none) ∧
    (∀ swIfIndex p, p ∈ routesOver w.vpp swIfIndex ↔ ∃ key s,
      (wantSessions pass.ksessions).get? key = some s ∧
      interfaceOf w.vpp key = some swIfIndex ∧
      p ∈ prefixSet (s.fetchRoutes pass.pppRoutes)) ∧
    ∀ key rec, w.installed.get? key = some rec → Named w.vpp key rec := by
  constructor
  · intro h
    refine ⟨?_, ?_, ?_⟩
    · intro key
      rw [← sessionLive_iff hstore, Option.ne_none_iff_exists']
      exact h.sessions key
    · intro swIfIndex p
      rw [mem_routesOver, h.routes]
      constructor
      · rintro ⟨index, sess, s, pfx, hsess, hs, hpfx, heq⟩
        cases heq
        exact ⟨_, s, hs, interfaceOf_live hstore hsess, pfx, hpfx, rfl⟩
      · rintro ⟨key, s, hs, hlive, pfx, hpfx, rfl⟩
        obtain ⟨index, sess, hsess, rfl, rfl⟩ :=
          (interfaceOf_some hstore).mp hlive
        exact ⟨index, sess, s, pfx, hsess, hs, hpfx, rfl⟩
    · intro key rec hrec
      obtain ⟨index, sess, hsess, rfl, hsw⟩ := h.records key rec hrec
      exact ⟨_, hsw, interfaceOf_live hstore hsess⟩
  · rintro ⟨hsessions, hroutes, hrecords⟩
    refine ⟨?_, ?_, ?_⟩
    · intro key
      rw [← Option.ne_none_iff_exists', ← hsessions key,
        ← sessionLive_iff hstore]
      rfl
    · rintro ⟨p, swIfIndex⟩
      rw [← mem_routesOver, hroutes]
      constructor
      · rintro ⟨key, s, hs, hlive, pfx, hpfx, rfl⟩
        obtain ⟨index, sess, hsess, rfl, rfl⟩ :=
          (interfaceOf_some hstore).mp hlive
        exact ⟨index, sess, s, pfx, hsess, hs, hpfx, rfl⟩
      · rintro ⟨index, sess, s, pfx, hsess, hs, hpfx, heq⟩
        cases heq
        exact ⟨_, s, hs, interfaceOf_live hstore hsess, pfx, hpfx, rfl⟩
    · intro key rec hrec
      obtain ⟨swIfIndex, hsw, hlive⟩ := hrecords key rec hrec
      obtain ⟨index, sess, hsess, hids, rfl⟩ :=
        (interfaceOf_some hstore).mp hlive
      exact ⟨index, sess, hsess, hids, hsw⟩

/-! ## The condition is enough -/

theorem victim_kept {rec : InstalledRec} {key : SessionKey}
    (hkept : TunnelsKept v v') (h : rec.victim v = some key) :
    rec.victim v' = some key := by
  obtain ⟨t, htunnel, rfl⟩ := Option.map_eq_some_iff.mp h
  obtain ⟨index, hindex, ht⟩ := Option.bind_eq_some_iff.mp htunnel
  obtain ⟨n, ht'⟩ := hkept index t ht
  simp [InstalledRec.victim, hindex, ht']

/-- The pass leaves the records with the wanted routes. -/
theorem mem_routesAfter_iff {key : SessionKey} {s : KSession}
    (h : ∀ rec, w.installed.get? key = some rec →
      pass.syncExistingRoutes = false →
      ∀ pfx, pfx ∈ rec.routes ↔ pfx ∈ s.fetchRoutes pass.pppRoutes)
    (pfx : IpPrefix) :
    pfx ∈ pass.routesAfter w.installed.get? (key, s) ↔
      pfx ∈ s.fetchRoutes pass.pppRoutes := by
  unfold Pass.routesAfter
  cases hrec : w.installed.get? key with
  | none => rfl
  | some rec =>
      cases hsync : pass.syncExistingRoutes with
      | true => rfl
      | false => exact h rec hrec hsync pfx

theorem Healable.routesAfter (h : Healable cfg pass w) {key : SessionKey}
    {s : KSession} (hs : (wantSessions pass.ksessions).get? key = some s)
    (pfx : IpPrefix) :
    pfx ∈ pass.routesAfter w.installed.get? (key, s) ↔
      pfx ∈ s.fetchRoutes pass.pppRoutes :=
  mem_routesAfter_iff (fun rec => h.routes key s rec hs) pfx

theorem mem_fetchRoutes_of_added {records : Records}
    {entry : SessionKey × KSession} {pfx : IpPrefix}
    (h : pfx ∈ pass.routesAdded records entry) :
    pfx ∈ entry.2.fetchRoutes pass.pppRoutes := by
  unfold Pass.routesAdded at h
  split at h
  · exact h
  · split at h
    · exact (mem_setDiff.mp h).1
    · simp at h

theorem Adopting.interface_unwanted {cache : TunnelsCache} {w₁ : World}
    (h : Adopting cfg pass w (wantSessions pass.ksessions).items cache w₁)
    {key : SessionKey}
    (hunwanted : (wantSessions pass.ksessions).get? key = none) :
    interfaceOf w₁.vpp key = interfaceOf w.vpp key := by
  apply h.interface
  rintro entry hentry rfl
  have hs := (Dict.mem_items _).mp (mem_missing.mp hentry).1
  rw [hunwanted] at hs
  contradiction

namespace Resumable

theorem ready (hres : Resumable pass w.vpp w.installed.get?)
    (h : Healable cfg pass w) :
    Ready cfg w (wantSessions pass.ksessions).items where
  named := by
    rintro ⟨key, s⟩ hentry rec hrec
    have hs := (Dict.mem_items _).mp hentry
    obtain ⟨swIfIndex, hsw⟩ :=
      Option.ne_none_iff_exists'.mp (h.interface key s rec hs hrec)
    exact ⟨swIfIndex, hsw, (hres.named key s rec swIfIndex hs hrec hsw).1⟩
  free := by
    intro entry _ hnone
    by_contra hlive
    exact h.known entry.1 hlive hnone
  openable := h.openable

theorem adoptable (hres : Resumable pass w.vpp w.installed.get?)
    (h : Healable cfg pass w) : adoptable cfg pass w = true := by
  refine adoptable_iff.mpr ⟨hres.ready h, ?_, h.spares⟩
  rintro ⟨key, s⟩ hentry
  have hs := (Dict.mem_items _).mp hentry
  cases hrec : w.installed.get? key with
  | none => simp [routesReady, hrec]
  | some rec =>
      obtain ⟨swIfIndex, hsw⟩ :=
        Option.ne_none_iff_exists'.mp (h.interface key s rec hs hrec)
      obtain ⟨-, hbetween, -⟩ := hres.named key s rec swIfIndex hs hrec hsw
      rw [routesReady_iff hrec hsw]
      intro pfx hpfx hafter
      exact hbetween ⟨decode_mem_prefixSet.mpr hpfx,
        decode_mem_prefixSet.mpr hafter⟩

variable {cache : TunnelsCache} {w₁ w₂ : World}

/-- An unwanted session is taken by the delete for its own record. -/
theorem unwanted_gone (hres : Resumable pass w.vpp w.installed.get?)
    (h : Healable cfg pass w)
    (hadopting : Adopting cfg pass w (wantSessions pass.ksessions).items
      cache w₁)
    (hremoved : Removed (wantSessions pass.ksessions) w₁ w₁.installed.keys w₂)
    {key : SessionKey}
    (hunwanted : (wantSessions pass.ksessions).get? key = none) :
    interfaceOf w₂.vpp key = none := by
  rw [Option.eq_none_iff_forall_ne_some]
  intro swIfIndex hlive
  have hlive₁ := hremoved.shrunk key swIfIndex hlive
  rw [hadopting.interface_unwanted hunwanted] at hlive₁
  obtain ⟨rec, hrec⟩ := Option.ne_none_iff_exists'.mp
    (h.known key (by simp [hlive₁]))
  rcases hres.victim key rec hunwanted hrec with hvictim | hnone
  · rw [← hadopting.stale hunwanted] at hrec
    rw [hremoved.taken key ((Dict.mem_keys _).mpr ⟨rec, hrec⟩) hunwanted rec key
      hrec (victim_kept hadopting.opened.old hvictim)] at hlive
    contradiction
  · rw [hnone key hunwanted] at hlive₁
    contradiction

/-- What was over an interface that the pass hands out is nothing. -/
theorem over_new (hres : Resumable pass w.vpp w.installed.get?)
    (hadopting : Adopting cfg pass w (wantSessions pass.ksessions).items
      cache w₁) {entry : SessionKey × KSession} {swIfIndex : Nat}
    (hentry : entry ∈ (wantSessions pass.ksessions).items)
    (hnone : w.installed.get? entry.1 = none)
    (hlive : interfaceOf w₁.vpp entry.1 = some swIfIndex) (p : FibPrefix) :
    (p, swIfIndex) ∉ w.vpp.fib := by
  intro hpath
  obtain ⟨n, hn⟩ := List.mem_iff_getElem?.mp
    (mem_missing.mpr ⟨hentry, hnone⟩)
  rw [hadopting.numbered hn] at hlive
  cases hlive
  obtain ⟨key, hkey⟩ := hres.routed _ hpath
  obtain ⟨index, sess, hsess, -, hsw⟩ := (interfaceOf_some hres.store).mp hkey
  obtain ⟨si, hsi⟩ := hres.store.swInterface hsess
  rw [hsw, Pool.elt?_upcoming] at hsi
  contradiction

/-- The routes over a wanted session's interface after the first loop. -/
theorem over_wanted (hres : Resumable pass w.vpp w.installed.get?)
    (h : Healable cfg pass w)
    (hadopting : Adopting cfg pass w (wantSessions pass.ksessions).items
      cache w₁) {key : SessionKey} {s : KSession} {swIfIndex : Nat}
    (hs : (wantSessions pass.ksessions).get? key = some s)
    (hlive : interfaceOf w₁.vpp key = some swIfIndex) :
    routesOver w₁.vpp swIfIndex ⊆ prefixSet (s.fetchRoutes pass.pppRoutes) := by
  have hentry := (Dict.mem_items _).mpr hs
  obtain ⟨_, _, -, -, hlive', -, hfib⟩ := hadopting.recorded _ hentry
  rw [hlive] at hlive'
  cases hlive'
  intro p hp
  obtain ⟨hfrom, hdeleted⟩ := (hfib p).mp hp
  rcases hfrom with hold | ⟨pfx, hadded, rfl⟩
  · cases hrec : w.installed.get? key with
    | none => exact absurd hold (hres.over_new hadopting hentry hrec hlive p)
    | some rec =>
        obtain ⟨index, hsw, hindex⟩ := (hres.ready h).named _ hentry rec hrec
        rw [← hadopting.interface_recorded hrec, hlive] at hindex
        cases hindex
        obtain ⟨-, -, hupper⟩ := hres.named key s rec swIfIndex hs hrec hsw
        rcases hupper hold with ⟨pfx, hpfx, rfl⟩ | ⟨pfx, hpfx, rfl⟩
        · -- a recorded route that is not wanted would have been deleted
          by_contra hnot
          rw [decode_mem_prefixSet] at hnot
          refine hdeleted pfx ?_ rfl
          simp only [Pass.routesDeleted, hrec]
          cases hsync : pass.syncExistingRoutes with
          | true => exact mem_setDiff.mpr ⟨hpfx, hnot⟩
          | false =>
              exact absurd ((h.routes key s rec hs hrec hsync pfx).mp hpfx) hnot
        · exact ⟨pfx, (h.routesAfter hs pfx).mp hpfx, rfl⟩
  · exact ⟨pfx, mem_fetchRoutes_of_added hadded, rfl⟩

/-- A route that is left at the end is one of a wanted session. -/
theorem route_wanted (hres : Resumable pass w.vpp w.installed.get?)
    (h : Healable cfg pass w)
    (hadopting : Adopting cfg pass w (wantSessions pass.ksessions).items
      cache w₁)
    (hremoved : Removed (wantSessions pass.ksessions) w₁ w₁.installed.keys w₂)
    {p : FibPrefix} {swIfIndex : Nat} (hpath : (p, swIfIndex) ∈ w₂.vpp.fib) :
    ∃ key s, (wantSessions pass.ksessions).get? key = some s ∧
      interfaceOf w₁.vpp key = some swIfIndex ∧
      p ∈ prefixSet (s.fetchRoutes pass.pppRoutes) := by
  have hpath₁ := hremoved.fibShrunk hpath
  by_cases hown : ∃ entry ∈ (wantSessions pass.ksessions).items,
      interfaceOf w₁.vpp entry.1 = some swIfIndex
  · obtain ⟨⟨key, s⟩, hentry, hlive⟩ := hown
    have hs := (Dict.mem_items _).mp hentry
    exact ⟨key, s, hs, hlive, hres.over_wanted h hadopting hs hlive hpath₁⟩
  · -- the route was there before, routesOver a session that is no longer wanted
    simp only [not_exists, not_and] at hown
    rw [hadopting.others swIfIndex hown] at hpath₁
    obtain ⟨key, hlive⟩ := hres.routed _ hpath₁
    obtain ⟨rec, hrec⟩ := Option.ne_none_iff_exists'.mp
      (h.known key (by simp [hlive]))
    have hlive₁ := (hadopting.interface_recorded hrec).trans hlive
    have hstale : (wantSessions pass.ksessions).get? key = none := by
      rw [Option.eq_none_iff_forall_ne_some]
      exact fun s hs => hown _ ((Dict.mem_items _).mpr hs) hlive₁
    obtain ⟨hsw, hroutes⟩ := hres.stale key rec swIfIndex hstale hrec hlive
    obtain ⟨pfx, hpfx, rfl⟩ := hroutes hpath₁
    rw [← hadopting.stale hstale] at hrec
    refine absurd hpath (hremoved.fibTaken key
      ((Dict.mem_keys _).mpr ⟨rec, hrec⟩) hstale rec swIfIndex hrec hsw
      (.inr ⟨hlive₁, ?_⟩) pfx hpfx)
    intro other rec' hne hstale' hrec' hvictim
    rw [hadopting.stale hstale'] at hrec'
    rcases hres.victim other rec' hstale' hrec' with hown' | hnone
    · rw [victim_kept hadopting.opened.old hown'] at hvictim
      exact hne (Option.some.inj hvictim)
    · rw [hnone key hstale] at hlive
      contradiction

end Resumable

theorem healed_of_healable {result : Nat × Nat}
    (hres : Resumable pass w.vpp w.installed.get?) (h : Healable cfg pass w)
    (hexec : exec (reconcile cfg pass) w = (.ok result, w')) :
    Healed pass w' := by
  have hrecords := recordsLive_of_adoptable hres.store (hres.adoptable h) hexec
  obtain ⟨cache, w₁, w₂, hloop, hremoved, hstore', hinstalled, hinterface,
    hfib⟩ := reconcile_adopted hres.store hexec
  have hadopting : Adopting cfg pass w (wantSessions pass.ksessions).items
      cache w₁ := by
    rcases hloop with ⟨-, hadopting⟩ | ⟨hnot, -⟩
    · exact hadopting
    · exact absurd (hres.ready h) hnot
  rw [recordsLive_iff hstore', hinstalled, hinterface, hfib] at hrecords
  -- every wanted session is there, with the wanted routes
  have hwanted : ∀ key s, (wantSessions pass.ksessions).get? key = some s →
      ∃ swIfIndex, interfaceOf w₂.vpp key = some swIfIndex ∧
        interfaceOf w₁.vpp key = some swIfIndex ∧
        ∀ pfx ∈ s.fetchRoutes pass.pppRoutes,
          (pfx.decode, swIfIndex) ∈ w₂.vpp.fib := by
    intro key s hs
    obtain ⟨rec, swIfIndex, hrec, hsw, hlive₁, hafter, -⟩ :=
      hadopting.records hremoved hs
    obtain ⟨index, hindex, hlive₂, hroutes⟩ := hrecords key rec hrec
    rw [hsw] at hindex
    cases hindex
    refine ⟨swIfIndex, hlive₂, hlive₁, ?_⟩
    intro pfx hpfx
    exact hroutes pfx ((hafter pfx).mpr ((h.routesAfter hs pfx).mpr hpfx))
  rw [healed_iff hstore', hinterface, hinstalled]
  refine ⟨?_, ?_, ?_⟩
  · intro key
    constructor
    · intro hlive hunwanted
      exact hlive (hres.unwanted_gone h hadopting hremoved hunwanted)
    · intro hs
      obtain ⟨s, hs⟩ := Option.ne_none_iff_exists'.mp hs
      obtain ⟨swIfIndex, hlive, -⟩ := hwanted key s hs
      simp [hlive]
  · intro swIfIndex p
    rw [mem_routesOver, hfib]
    constructor
    · intro hpath
      obtain ⟨key, s, hs, hlive₁, hp⟩ :=
        hres.route_wanted h hadopting hremoved hpath
      obtain ⟨index, hlive₂, hlive, -⟩ := hwanted key s hs
      rw [hlive₁] at hlive
      cases hlive
      exact ⟨key, s, hs, hlive₂, hp⟩
    · rintro ⟨key, s, hs, hlive, pfx, hpfx, rfl⟩
      obtain ⟨index, hlive₂, -, hroutes⟩ := hwanted key s hs
      rw [hlive] at hlive₂
      cases hlive₂
      exact hroutes pfx hpfx
  · intro key rec hrec
    obtain ⟨swIfIndex, hsw, hlive, -⟩ := hrecords key rec hrec
    refine ⟨swIfIndex, hsw, ?_⟩
    rw [hinterface]
    exact hlive

/-! ## The condition is necessary -/

section Necessary

variable {cache : TunnelsCache} {w₁ w₂ : World}

/-- An unwanted session without a record outlasts the pass. -/
theorem Resumable.unwanted_known
    (hres : Resumable pass w.vpp w.installed.get?)
    (hadopting : Adopting cfg pass w (wantSessions pass.ksessions).items
      cache w₁)
    (hremoved : Removed (wantSessions pass.ksessions) w₁ w₁.installed.keys w₂)
    {key : SessionKey}
    (hunwanted : (wantSessions pass.ksessions).get? key = none)
    (hlive : interfaceOf w.vpp key ≠ none)
    (hgone : interfaceOf w₂.vpp key = none) : w.installed.get? key ≠ none := by
  intro hnone
  have hspared := hremoved.spared key
  rw [hgone, hadopting.interface_unwanted hunwanted] at hspared
  refine hlive (hspared ?_).symm
  intro stale _ hstale rec hrec hvictim
  rw [hadopting.stale hstale] at hrec
  rcases hres.victim stale rec hstale hrec with hown | hno
  · rw [victim_kept hadopting.opened.old hown] at hvictim
    cases hvictim
    rw [hnone] at hrec
    contradiction
  · exact hlive (hno key hunwanted)

/-- Without a check of the routes, those of a kept session are the recorded
ones to the end. -/
theorem Resumable.routes_kept
    (hres : Resumable pass w.vpp w.installed.get?)
    (hadopting : Adopting cfg pass w (wantSessions pass.ksessions).items
      cache w₁)
    (hremoved : Removed (wantSessions pass.ksessions) w₁ w₁.installed.keys w₂)
    (hsync : pass.syncExistingRoutes = false) {key : SessionKey} {s : KSession}
    {rec : InstalledRec} {swIfIndex : Nat}
    (hs : (wantSessions pass.ksessions).get? key = some s)
    (hrec : w.installed.get? key = some rec)
    (hsw : rec.swIfIndex = some swIfIndex) :
    routesOver w₂.vpp swIfIndex = prefixSet rec.routes := by
  obtain ⟨hlive, hbetween⟩ := hres.named key s rec swIfIndex hs hrec hsw
  have hentry := (Dict.mem_items _).mpr hs
  have hsame : routesOver w.vpp swIfIndex = prefixSet rec.routes := by
    simp only [Pass.routesAfter, hrec, hsync, Bool.false_eq_true, if_false,
      Set.uIcc_self, Set.mem_singleton_iff] at hbetween
    exact hbetween
  have hkept : routesOver w₁.vpp swIfIndex = routesOver w.vpp swIfIndex := by
    obtain ⟨_, _, -, -, hlive', -, hfib⟩ := hadopting.recorded _ hentry
    rw [hadopting.interface_recorded hrec, hlive] at hlive'
    cases hlive'
    ext p
    rw [mem_routesOver, hfib]
    simp [Pass.routesAdded, Pass.routesDeleted, hrec, hsync, routesOver]
  rw [← hsame, ← hkept]
  apply Set.Subset.antisymm
  · intro p hp
    exact hremoved.fibShrunk hp
  · intro p hp
    refine hremoved.fibSpared _ hp ?_
    intro stale _ hstale rec' hrec' hsw'
    rw [hadopting.stale hstale] at hrec'
    exact absurd hlive (hres.apart stale rec' swIfIndex hstale hrec' hsw' key s
      hs)

variable {result : Nat × Nat}

/-- At the end, a session that was kept without a check has the wanted routes. -/
theorem Healed.routes_kept (hhealed : Healed pass w')
    (hres : Resumable pass w.vpp w.installed.get?) (hstore' : StoreInv w'.vpp)
    (hready : Ready cfg w (wantSessions pass.ksessions).items)
    (hadopting : Adopting cfg pass w (wantSessions pass.ksessions).items
      cache w₁)
    (hremoved : Removed (wantSessions pass.ksessions) w₁ w₁.installed.keys w₂)
    (hinterface : interfaceOf w'.vpp = interfaceOf w₂.vpp)
    (hfib : w'.vpp.fib = w₂.vpp.fib)
    (hsync : pass.syncExistingRoutes = false) {key : SessionKey} {s : KSession}
    {rec : InstalledRec}
    (hs : (wantSessions pass.ksessions).get? key = some s)
    (hrec : w.installed.get? key = some rec) (pfx : IpPrefix) :
    pfx ∈ rec.routes ↔ pfx ∈ s.fetchRoutes pass.pppRoutes := by
  obtain ⟨hsessions, hroutes, -⟩ := (healed_iff hstore').mp hhealed
  obtain ⟨swIfIndex, hsw, hlive⟩ :=
    hready.named _ ((Dict.mem_items _).mpr hs) rec hrec
  have hlive' : interfaceOf w'.vpp key = some swIfIndex := by
    obtain ⟨index, hindex⟩ := Option.ne_none_iff_exists'.mp
      ((hsessions key).mpr (by simp [hs]))
    rw [hinterface] at hindex
    have hindex₁ := hremoved.shrunk key index hindex
    rw [hadopting.interface_recorded hrec, hlive] at hindex₁
    rw [hinterface, hindex, hindex₁]
  have hover := hres.routes_kept hadopting hremoved hsync hs hrec hsw
  rw [← decode_mem_prefixSet, ← hover, mem_routesOver, ← hfib, ← mem_routesOver,
    hroutes]
  constructor
  · rintro ⟨other, s', hs', hother, hmem⟩
    rw [interfaceOf_inj hstore' hother hlive', hs] at hs'
    cases hs'
    exact decode_mem_prefixSet.mp hmem
  · intro hpfx
    exact ⟨key, s, hs, hlive', decode_mem_prefixSet.mpr hpfx⟩

theorem Healed.recordsLive (hhealed : Healed pass w')
    (hstore' : StoreInv w'.vpp)
    (hadopting : Adopting cfg pass w (wantSessions pass.ksessions).items
      cache w₁)
    (hremoved : Removed (wantSessions pass.ksessions) w₁ w₁.installed.keys w₂)
    (hinstalled : w'.installed = w₂.installed)
    (hkept : ∀ key s rec, (wantSessions pass.ksessions).get? key = some s →
      w.installed.get? key = some rec → pass.syncExistingRoutes = false →
      ∀ pfx, pfx ∈ rec.routes ↔ pfx ∈ s.fetchRoutes pass.pppRoutes) :
    RecordsLive w' := by
  obtain ⟨-, hroutes, hrecords⟩ := (healed_iff hstore').mp hhealed
  rw [recordsLive_iff hstore']
  intro key rec hrec
  obtain ⟨swIfIndex, hsw, hlive⟩ := hrecords key rec hrec
  refine ⟨swIfIndex, hsw, hlive, ?_⟩
  intro pfx hpfx
  rw [hinstalled] at hrec
  obtain ⟨s, hs⟩ := hremoved.wanted_of_some hrec
  obtain ⟨rec', _, hrec', -, -, hafter, -⟩ := hadopting.records hremoved hs
  rw [hrec] at hrec'
  cases hrec'
  rw [hafter, mem_routesAfter_iff fun rec => hkept key s rec hs] at hpfx
  exact (hroutes swIfIndex _).mpr
    ⟨key, s, hs, hlive, decode_mem_prefixSet.mpr hpfx⟩

theorem healable_of_healed (hres : Resumable pass w.vpp w.installed.get?)
    (hexec : exec (reconcile cfg pass) w = (.ok result, w'))
    (hhealed : Healed pass w') : Healable cfg pass w := by
  obtain ⟨cache, w₁, w₂, hloop, hremoved, hstore', hinstalled, hinterface,
    hfib⟩ := reconcile_adopted hres.store hexec
  obtain ⟨hsessions, -, hrecords⟩ := (healed_iff hstore').mp hhealed
  rcases hloop with ⟨hready, hadopting⟩ | ⟨-, entry, hentry, hunnamed, -⟩
  · have hkept : ∀ key s rec, (wantSessions pass.ksessions).get? key = some s →
        w.installed.get? key = some rec → pass.syncExistingRoutes = false →
        ∀ pfx, pfx ∈ rec.routes ↔ pfx ∈ s.fetchRoutes pass.pppRoutes :=
      fun key s rec hs hrec hsync => hhealed.routes_kept hres hstore' hready
        hadopting hremoved hinterface hfib hsync hs hrec
    have hlive := hhealed.recordsLive hstore' hadopting hremoved hinstalled hkept
    refine ⟨?_, ?_, hkept, hready.openable,
      (adoptable_iff.mp (adoptable_of_recordsLive hres.store hexec hlive)).2.2⟩
    · intro key hlive
      cases hs : (wantSessions pass.ksessions).get? key with
      | none =>
          refine hres.unwanted_known hadopting hremoved hs hlive ?_
          by_contra hleft
          rw [← hinterface] at hleft
          exact (hsessions key).mp hleft hs
      | some s =>
          intro hnone
          have hentry := (Dict.mem_items _).mpr hs
          exact hlive (hready.free (key, s) hentry hnone)
    · intro key s rec hs hrec
      obtain ⟨swIfIndex, hsw, -⟩ :=
        hready.named _ ((Dict.mem_items _).mpr hs) rec hrec
      simp [hsw]
  · -- the record of a rejected session is still there at the end
    obtain ⟨rec, hrec, hnot⟩ := hunnamed.unnamed
    obtain ⟨swIfIndex, hsw, hlive⟩ := hrecords entry.1 rec (by
      rw [hinstalled, hremoved.final, if_neg, hrec]
      rw [(Dict.mem_items _).mp hentry]
      simp)
    rw [hinterface] at hlive
    exact absurd ⟨swIfIndex, hsw, hremoved.shrunk _ _ hlive⟩ hnot

end Necessary

end L2tvpp.Syncd
