import L2tvpp.Syncd.Reconcile

/-!
# The encap cache through a pass

The cache has one entry for an address, the last route call decides, and a
delete takes the entry away whichever interface it points to.  A pass adds
before it deletes, so a subscriber address that moves to another session loses
its entry unless its old session is still there and comes first.
-/

namespace L2tvpp.Syncd

open L2tvpp.Lib L2tvpp.Plugin

variable {cfg : Config} {w w' : World}

/-- Every address that exactly one installed session has is in the cache, with
the neighbour adjacency on the interface of that session. -/
def CacheFilled (w : World) : Prop :=
  ∀ key rec ip4 swIfIndex, w.installed.get? key = some rec →
    IpPrefix.host ip4 ∈ rec.routes → rec.swIfIndex = some swIfIndex →
    (∀ key' rec', w.installed.get? key' = some rec' →
      IpPrefix.host ip4 ∈ rec'.routes → key' = key) →
    cachedAdj w.vpp ip4 = some (subscriberAdj ip4 swIfIndex)

def hadRoute (records : Records) (key : SessionKey) (pfx : IpPrefix) : Bool :=
  (records key).any fun rec => decide (pfx ∈ rec.routes)

/-- A session that has lost the prefix to `key` is still wanted and comes
before it in the list, and `key` did not have the prefix yet. -/
def takesOver (w : World) (want : List SessionKey) (key : SessionKey)
    (pfx : IpPrefix) : Bool :=
  w.installed.keys.all fun other =>
    decide (other = key) || !hadRoute w.installed.get? other pfx ||
      (!hadRoute w.installed.get? key pfx && decide (other ∈ want) &&
        decide (want.idxOf other < want.idxOf key))

/-- Every address that exactly one session has after the pass is taken over
in the right order. -/
def keepsCache (w : World) (pass : Pass) : Bool :=
  let want := wantSessions pass.ksessions
  want.items.all fun entry =>
    (pass.routesAfter w.installed.get? entry).all fun pfx =>
      !pfx.decode.isHost4 ||
      (want.items.any fun other => decide (other.1 ≠ entry.1) &&
        decide (pfx ∈ pass.routesAfter w.installed.get? other)) ||
      takesOver w want.keys entry.1 pfx

/-! ## What one entry does to the cache -/

/-- The entry for an address after a session that had or had not its prefix
has or has not got it. -/
def cacheMove (had has : Bool) (adj old : Option AdjIndex) : Option AdjIndex :=
  match had, has with
  | false, true => adj
  | true, false => none
  | _, _ => old

theorem EntryReconciled.cachedAdj {pass : Pass}
    {entry : SessionKey × KSession} {cache cache' : TunnelsCache}
    (h : EntryReconciled cfg pass entry cache cache' w w')
    (hkey : entry.1 = entry.2.sessionKey)
    (hmirror : Mirror w.vpp w.installed.get?) :
    ∃ rec swIfIndex, w'.installed.get? entry.1 = some rec ∧
      rec.swIfIndex = some swIfIndex ∧
      ∀ ip4, cachedAdj w'.vpp ip4 =
        cacheMove (hadRoute w.installed.get? entry.1 (IpPrefix.host ip4))
          (decide (IpPrefix.host ip4 ∈
            pass.routesAfter w.installed.get? entry))
          (some (subscriberAdj ip4 swIfIndex)) (cachedAdj w.vpp ip4) := by
  cases h with
  | added hnew hadded =>
      obtain ⟨htunnel, ht, hfree, hsw, hroutes, hinstalled⟩ := hadded
      rename_i index swIfIndex t v
      refine ⟨entry.2.record (some swIfIndex) (some index)
        (entry.2.fetchRoutes pass.pppRoutes), swIfIndex, ?_, rfl, ?_⟩
      · rw [hinstalled, hkey, Dict.get?_set, if_pos rfl]
      · intro ip4
        have hold : Syncd.cachedAdj v ip4 = Syncd.cachedAdj w.vpp ip4 := by
          cases htunnel with
          | cached hcache => rfl
          | added hcache hlocal hfind => rfl
        rw [hroutes.cache, Pass.routesAfter, hadRoute, hnew, ← hold]
        by_cases hmem :
            IpPrefix.host ip4 ∈ entry.2.fetchRoutes pass.pppRoutes
        · simp [cacheMove, hmem]
        · simp only [hmem, if_false, Option.any_none, decide_false, cacheMove]
          rfl
  | synced hsync hcache hsynced =>
      rw [← hkey] at hsynced
      obtain ⟨hrec, hvpp, hroutes, hinstalled⟩ := hsynced
      rename_i rec routes
      obtain ⟨index, sess, hsess, hids, hdescribes⟩ := hmirror.live hrec
      obtain ⟨v, hadded, hdeleted⟩ := hvpp _ hdescribes.swIfIndex
      refine ⟨{ rec with routes := routes }, _, ?_, hdescribes.swIfIndex, ?_⟩
      · rw [hinstalled, Function.update_self]
      · intro ip4
        rw [hdeleted.cache, hadded.cache, Pass.routesAfter, hadRoute, hrec]
        simp only [cfg.setOrder.mem_list, mem_setDiff, hsync, if_true,
          Option.any_some]
        by_cases hhad : IpPrefix.host ip4 ∈ rec.routes <;>
          by_cases hhas :
              IpPrefix.host ip4 ∈ entry.2.fetchRoutes pass.pppRoutes <;>
          simp [cacheMove, hhad, hhas]
  | kept hsync hrec hcache hw =>
      rename_i rec
      subst hw
      obtain ⟨index, sess, hsess, hids, hdescribes⟩ := hmirror.live hrec
      refine ⟨rec, _, hrec, hdescribes.swIfIndex, ?_⟩
      intro ip4
      rw [Pass.routesAfter, hadRoute, hrec]
      simp only [hsync, Option.any_some, Bool.false_eq_true, if_false]
      by_cases hhad : IpPrefix.host ip4 ∈ rec.routes <;>
        simp [cacheMove, hhad]

theorem SessionDeleted.cachedAdj {key : SessionKey}
    (h : SessionDeleted key w w') (hmirror : Mirror w.vpp w.installed.get?)
    {ip4 : U32}
    (hhad : hadRoute w.installed.get? key (IpPrefix.host ip4) = false) :
    cachedAdj w'.vpp ip4 = cachedAdj w.vpp ip4 := by
  obtain ⟨rec, swIfIndex, v, index, sess, hrec, hroutes, -, -, -, hvpp⟩ :=
    h.own hmirror
  simp only [hadRoute, hrec, Option.any_some, decide_eq_false_iff_not] at hhad
  have hcache := hroutes.cache ip4
  rw [if_neg hhad] at hcache
  rw [hvpp, ← hcache, Syncd.cachedAdj, sessionDel_lm]
  rfl

/-! ## The condition -/

theorem mem_keys_of_hadRoute {key : SessionKey} {pfx : IpPrefix}
    (h : hadRoute w.installed.get? key pfx = true) :
    key ∈ w.installed.keys := by
  rw [w.installed.mem_keys]
  cases hrec : w.installed.get? key with
  | none => simp [hadRoute, hrec] at h
  | some rec => exact ⟨rec, rfl⟩

theorem takesOver_spec {want : List SessionKey} {key : SessionKey}
    {pfx : IpPrefix} (h : takesOver w want key pfx = true)
    {other : SessionKey} (hother : other ≠ key)
    (hhad : hadRoute w.installed.get? other pfx = true) :
    hadRoute w.installed.get? key pfx = false ∧ other ∈ want ∧
      want.idxOf other < want.idxOf key := by
  have hall := List.all_eq_true.mp h other (mem_keys_of_hadRoute hhad)
  simp only [hother, hhad, decide_false, Bool.not_true, Bool.or_false,
    Bool.false_or, Bool.and_eq_true, Bool.not_eq_true', decide_eq_true_eq]
    at hall
  exact ⟨hall.1.1, hall.1.2, hall.2⟩

theorem keepsCache_spec {pass : Pass} (h : keepsCache w pass = true)
    {entry : SessionKey × KSession}
    (hentry : entry ∈ (wantSessions pass.ksessions).items) {ip4 : U32}
    (hmem : IpPrefix.host ip4 ∈ pass.routesAfter w.installed.get? entry)
    (hothers : ∀ other ∈ (wantSessions pass.ksessions).items,
      other.1 ≠ entry.1 →
      IpPrefix.host ip4 ∉ pass.routesAfter w.installed.get? other) :
    takesOver w (wantSessions pass.ksessions).keys entry.1
      (IpPrefix.host ip4) = true := by
  have hall := List.all_eq_true.mp (List.all_eq_true.mp h entry hentry) _ hmem
  rw [Bool.or_eq_true, Bool.or_eq_true] at hall
  rcases hall with (hhost | hany) | htakes
  · contradiction
  · obtain ⟨other, hother, htest⟩ := List.any_eq_true.mp hany
    simp only [Bool.and_eq_true, decide_eq_true_eq] at htest
    exact absurd htest.2 (hothers other hother htest.1)
  · exact htakes

/-- After the pass only `key` has the address, which it takes over in order. -/
structure SoleOwner (w : World) (pass : Pass) (key : SessionKey)
    (ip4 : U32) : Prop where
  takes : takesOver w (wantSessions pass.ksessions).keys key
    (IpPrefix.host ip4) = true
  others : ∀ other ∈ (wantSessions pass.ksessions).items, other.1 ≠ key →
    IpPrefix.host ip4 ∉ pass.routesAfter w.installed.get? other
  has : ∀ other ∈ (wantSessions pass.ksessions).items, other.1 = key →
    IpPrefix.host ip4 ∈ pass.routesAfter w.installed.get? other

theorem Reconciled.soleOwner {pass : Pass} {key : SessionKey} {ip4 : U32}
    {rec : InstalledRec} (h : Reconciled pass w w')
    (hguard : keepsCache w pass = true)
    (hrec : w'.installed.get? key = some rec)
    (hmem : IpPrefix.host ip4 ∈ rec.routes)
    (hunique : ∀ other rec', w'.installed.get? other = some rec' →
      IpPrefix.host ip4 ∈ rec'.routes → other = key) :
    SoleOwner w pass key ip4 := by
  obtain ⟨s, hs⟩ := (h.installed key).mp ⟨rec, hrec⟩
  have hitem := (wantSessions pass.ksessions).mem_items.mpr hs
  have hroutes : ∀ other ∈ (wantSessions pass.ksessions).items, ∃ rec',
      w'.installed.get? other.1 = some rec' ∧ ∀ pfx, pfx ∈ rec'.routes ↔
        pfx ∈ pass.routesAfter w.installed.get? other := by
    intro other hother
    have hget := (wantSessions pass.ksessions).mem_items.mp hother
    obtain ⟨rec', hrec'⟩ := (h.installed other.1).mpr ⟨_, hget⟩
    exact ⟨rec', hrec', h.routes _ _ _ hget hrec'⟩
  have hothers : ∀ other ∈ (wantSessions pass.ksessions).items,
      other.1 ≠ key →
      IpPrefix.host ip4 ∉ pass.routesAfter w.installed.get? other := by
    intro other hother hne hmem'
    obtain ⟨rec', hrec', hsame⟩ := hroutes other hother
    exact hne (hunique other.1 rec' hrec' ((hsame _).mpr hmem'))
  have hhas : ∀ other ∈ (wantSessions pass.ksessions).items, other.1 = key →
      IpPrefix.host ip4 ∈ pass.routesAfter w.installed.get? other := by
    intro other hother heq
    obtain ⟨rec', hrec', hsame⟩ := hroutes other hother
    rw [heq, hrec] at hrec'
    cases hrec'
    exact (hsame _).mp hmem
  exact ⟨keepsCache_spec hguard hitem (hhas _ hitem rfl) hothers, hothers,
    hhas⟩

/-- An owner that had the address already was its only one, so the cache has
the entry. -/
theorem SoleOwner.cached {pass : Pass} {key : SessionKey} {ip4 : U32}
    {swIfIndex : Nat} (h : SoleOwner w pass key ip4) (hfilled : CacheFilled w)
    (hhad : hadRoute w.installed.get? key (IpPrefix.host ip4) = true)
    (hsw : ∀ old, w.installed.get? key = some old →
      old.swIfIndex = some swIfIndex) :
    cachedAdj w.vpp ip4 = some (subscriberAdj ip4 swIfIndex) := by
  obtain ⟨old, hold, hmem⟩ : ∃ old, w.installed.get? key = some old ∧
      IpPrefix.host ip4 ∈ old.routes := by
    simpa [hadRoute, Option.any_eq_true] using hhad
  refine hfilled key old ip4 swIfIndex hold hmem (hsw old hold) ?_
  intro other rec hrec hmem'
  by_contra hne
  have hhad' : hadRoute w.installed.get? other (IpPrefix.host ip4) = true := by
    simp [hadRoute, hrec, hmem']
  have hfalse := (takesOver_spec h.takes hne hhad').1
  rw [hhad] at hfalse
  contradiction

/-! ## The loops -/

/-- Where the entry for an address of `key` stands in the first loop. -/
structure Follows (w : World) (key : SessionKey) (ip4 : U32)
    (done : List (SessionKey × KSession)) (m : World) : Prop where
  after : key ∈ done.map Prod.fst → ∀ rec swIfIndex,
    m.installed.get? key = some rec → rec.swIfIndex = some swIfIndex →
    cachedAdj m.vpp ip4 = some (subscriberAdj ip4 swIfIndex)
  before : key ∉ done.map Prod.fst →
    hadRoute w.installed.get? key (IpPrefix.host ip4) = true →
    cachedAdj m.vpp ip4 = cachedAdj w.vpp ip4

theorem idxOf_lt_of_split {done : List SessionKey} (rest : List SessionKey)
    {key other : SessionKey} (hkey : key ∈ done) (hother : other ∉ done) :
    (done ++ other :: rest).idxOf key <
      (done ++ other :: rest).idxOf other := by
  rw [List.idxOf_append_of_mem hkey, List.idxOf_append_of_notMem hother]
  have hlt := List.idxOf_lt_length_of_mem hkey
  omega

section Follows

variable {pass : Pass} {key : SessionKey} {ip4 : U32}
  {done rest : List (SessionKey × KSession)} {entry : SessionKey × KSession}
  {cache cache' : TunnelsCache} {m m' : World}

/-- What an entry does to the cache, in terms of the state before the pass. -/
theorem Adding.cachedAdj (h : Adding pass w done cache m)
    (hkey : entry.1 = entry.2.sessionKey) (hnew : entry.1 ∉ done.map Prod.fst)
    (hentry : EntryReconciled cfg pass entry cache cache' m m') :
    ∃ rec swIfIndex, m'.installed.get? entry.1 = some rec ∧
      rec.swIfIndex = some swIfIndex ∧
      ∀ ip4, cachedAdj m'.vpp ip4 =
        cacheMove (hadRoute w.installed.get? entry.1 (IpPrefix.host ip4))
          (decide (IpPrefix.host ip4 ∈
            pass.routesAfter w.installed.get? entry))
          (some (subscriberAdj ip4 swIfIndex)) (cachedAdj m.vpp ip4) := by
  obtain ⟨rec, swIfIndex, hrec, hsw, hcache⟩ := hentry.cachedAdj hkey h.mirror
  have hold := h.untouched _ hnew
  refine ⟨rec, swIfIndex, hrec, hsw, ?_⟩
  intro ip4
  rw [hcache ip4, hadRoute, hadRoute, Pass.routesAfter, Pass.routesAfter, hold]

theorem Follows.own (h : Follows w key ip4 done m)
    (howner : SoleOwner w pass key ip4) (hfilled : CacheFilled w)
    (hnew : key ∉ done.map Prod.fst) {rec : InstalledRec} {swIfIndex : Nat}
    (hrec : m'.installed.get? key = some rec)
    (hsw : rec.swIfIndex = some swIfIndex)
    (hsame : ∀ old, w.installed.get? key = some old →
      rec.swIfIndex = old.swIfIndex)
    (hmove : cachedAdj m'.vpp ip4 =
      cacheMove (hadRoute w.installed.get? key (IpPrefix.host ip4)) true
        (some (subscriberAdj ip4 swIfIndex)) (cachedAdj m.vpp ip4))
    (hkey : entry.1 = key) : Follows w key ip4 (done ++ [entry]) m' := by
  refine ⟨?_, fun hnot => absurd (by simp [hkey]) hnot⟩
  intro _ rec' swIfIndex' hrec' hsw'
  rw [hrec] at hrec'
  cases hrec'
  rw [hsw] at hsw'
  cases hsw'
  cases hhad : hadRoute w.installed.get? key (IpPrefix.host ip4) with
  | false =>
      rw [hhad] at hmove
      exact hmove
  | true =>
      -- the address stays with its session, so the entry is the old one
      rw [hhad] at hmove
      change cachedAdj m'.vpp ip4 = cachedAdj m.vpp ip4 at hmove
      rw [hmove, h.before hnew hhad]
      exact howner.cached hfilled hhad fun old hold =>
        (hsame old hold).symm.trans hsw

theorem Follows.other {adj : Option AdjIndex} (h : Follows w key ip4 done m)
    (howner : SoleOwner w pass key ip4)
    (heq : (wantSessions pass.ksessions).items = done ++ entry :: rest)
    (hne : entry.1 ≠ key) (hnew : entry.1 ∉ done.map Prod.fst)
    (hsame : m'.installed.get? key = m.installed.get? key)
    (hmove : cachedAdj m'.vpp ip4 =
      cacheMove (hadRoute w.installed.get? entry.1 (IpPrefix.host ip4)) false
        adj (cachedAdj m.vpp ip4)) :
    Follows w key ip4 (done ++ [entry]) m' := by
  have hdone : key ∈ (done ++ [entry]).map Prod.fst ↔
      key ∈ done.map Prod.fst := by
    simp [Ne.symm hne]
  cases hhad : hadRoute w.installed.get? entry.1 (IpPrefix.host ip4) with
  | false =>
      rw [hhad] at hmove
      change cachedAdj m'.vpp ip4 = cachedAdj m.vpp ip4 at hmove
      refine ⟨?_, ?_⟩
      · intro hmem rec' swIfIndex' hrec' hsw'
        rw [hsame] at hrec'
        rw [hmove]
        exact h.after (hdone.mp hmem) rec' swIfIndex' hrec' hsw'
      · intro hmem hhad'
        rw [hmove]
        exact h.before (fun hmem' => hmem (hdone.mpr hmem')) hhad'
  | true =>
      -- the old holder comes first: `key` has not been looked at yet
      obtain ⟨hnot, -, hlt⟩ := takesOver_spec howner.takes hne hhad
      refine ⟨?_, ?_⟩
      · intro hmem
        have hgt := idxOf_lt_of_split (rest.map Prod.fst) (hdone.mp hmem) hnew
        rw [show (wantSessions pass.ksessions).keys =
          done.map Prod.fst ++ entry.1 :: rest.map Prod.fst by
            rw [Dict.keys, heq]; simp] at hlt
        omega
      · intro _ hhad'
        rw [hnot] at hhad'
        contradiction

theorem Follows.step (hfilled : CacheFilled w)
    (howner : SoleOwner w pass key ip4)
    (heq : (wantSessions pass.ksessions).items = done ++ entry :: rest)
    (hkey : entry.1 = entry.2.sessionKey) (hnew : entry.1 ∉ done.map Prod.fst)
    (hadding : Adding pass w done cache m)
    (hentry : EntryReconciled cfg pass entry cache cache' m m')
    (hadding' : Adding pass w (done ++ [entry]) cache' m')
    (h : Follows w key ip4 done m) :
    Follows w key ip4 (done ++ [entry]) m' := by
  have hitem : entry ∈ (wantSessions pass.ksessions).items := by
    rw [heq]
    simp
  obtain ⟨rec, swIfIndex, hrec, hsw, hcache⟩ :=
    hadding.cachedAdj hkey hnew hentry
  have hmove := hcache ip4
  by_cases hown : entry.1 = key
  · rw [decide_eq_true (howner.has entry hitem hown)] at hmove
    obtain ⟨rec', hrec', hsame, -⟩ := hadding'.done entry (by simp)
    rw [hrec] at hrec'
    cases hrec'
    rw [hown] at hrec hnew hmove hsame
    exact h.own howner hfilled hnew hrec hsw hsame hmove hown
  · rw [decide_eq_false (howner.others entry hitem hown)] at hmove
    obtain ⟨_, hinstalled⟩ := hentry.installed hkey
    refine h.other howner heq hown hnew ?_ hmove
    rw [hinstalled, Function.update_of_ne (Ne.symm hown)]

end Follows

theorem passOk_cacheFilled {pass : Pass} (hsync : InSync w)
    (hfilled : CacheFilled w) (hguard : keepsCache w pass = true)
    (h : passOk cfg w pass = some w') : CacheFilled w' := by
  intro key rec ip4 swIfIndex hrec hmem hsw hunique
  have hreconciled := passOk_reconciled hsync.mirror h
  have howner := hreconciled.soleOwner hguard hrec hmem hunique
  obtain ⟨s, hs⟩ := (hreconciled.installed key).mp ⟨rec, hrec⟩
  have hitem := (wantSessions pass.ksessions).mem_items.mpr hs
  obtain ⟨cache, acc, w₁, removed, w₂, w₃, hsound, hadding, hok₁, hremoving,
    hok₂, hprune, hvpp, hinstalled⟩ := passOk_ok h
  obtain ⟨hadded, hfollows⟩ := adding_run (Follows w key ip4)
    (fun done entry rest heq hkey hnew _ _ _ _ hadd hfollow hentry hadd' =>
      hfollow.step hfilled howner heq hkey hnew hadd hentry hadd')
    hsync.mirror hsound ⟨by simp, fun _ _ => rfl⟩ hadding hok₁
  -- a session that goes did not have the address
  have hgone : ∀ other, (wantSessions pass.ksessions).get? other = none →
      hadRoute w₁.installed.get? other (IpPrefix.host ip4) = false := by
    intro other hnone
    have hnot : other ∉ (wantSessions pass.ksessions).keys :=
      (wantSessions pass.ksessions).get?_eq_none.mp hnone
    have hne : other ≠ key := by
      rintro rfl
      rw [hs] at hnone
      contradiction
    rw [hadRoute, hadded.untouched other hnot]
    by_contra hhad
    exact hnot (takesOver_spec howner.takes hne (Bool.of_not_eq_false hhad)).2.1
  obtain ⟨hremoved, hcache⟩ := removing_run
    (fun _ m => cachedAdj m.vpp ip4 = cachedAdj w₁.vpp ip4)
    (fun _ other _ _ _ m m' hremoving' hinv hnone hdeleted => by
      have hrec' := hremoving'.installed other
      rw [← hinv]
      refine hdeleted.cachedAdj hremoving'.mirror ?_
      have hhad := hgone other hnone
      rw [hadRoute] at hhad ⊢
      rw [hrec']
      split
      · rfl
      · exact hhad)
    (fun _ _ _ hinv => hinv) hadded.mirror rfl hremoving hok₂
  have hkept : w₃.installed = w₂.installed ∧
      cachedAdj w₃.vpp ip4 = cachedAdj w₂.vpp ip4 := by
    rcases hprune with ⟨-, rfl⟩ | ⟨-, hrun, hok₃⟩
    · exact ⟨rfl, rfl⟩
    · obtain ⟨hsame, hpruned, -⟩ := pruneTunnels_ok hrun hok₃
      exact ⟨hsame, by rw [cachedAdj, cachedAdj, hpruned.frame.2.2.2]⟩
  rw [hinstalled, hkept.1, hremoved.records, hs, if_neg (by simp)] at hrec
  rw [hvpp, hkept.2, hcache]
  exact hfollows.after (List.mem_map_of_mem hitem) rec swIfIndex hrec hsw

/-! ## Runs -/

theorem CacheFilled.initial (hwInterfaces : Pool HwInterface)
    (swInterfaces : Pool SwInterface) :
    CacheFilled (World.initial hwInterfaces swInterfaces) := by
  intro key rec ip4 swIfIndex hrec
  simp [World.initial] at hrec

theorem syncFilled_run (hwInterfaces : Pool HwInterface)
    (swInterfaces : Pool SwInterface) {passes : List Pass} {w : World}
    (hguard : GuardedAll (passOk cfg) keepsCache
      (World.initial hwInterfaces swInterfaces) passes)
    (hrun : runAll (passOk cfg) (World.initial hwInterfaces swInterfaces)
      passes = some w) : InSync w ∧ CacheFilled w := by
  refine runAll_invariant_of_guarded (passOk cfg)
    (fun w => InSync w ∧ CacheFilled w) ?_ ?_ hguard hrun
  · intro _ _ _ hkeeps h hpass
    exact ⟨h.1.pass hpass, passOk_cacheFilled h.1 h.2 hkeeps hpass⟩
  · exact ⟨InSync.initial hwInterfaces swInterfaces,
      CacheFilled.initial hwInterfaces swInterfaces⟩

theorem cacheFilled_of_keepsCache (cfg : Config)
    (hwInterfaces : Pool HwInterface) (swInterfaces : Pool SwInterface)
    (passes : List Pass) (w : World)
    (hguard : GuardedAll (passOk cfg) keepsCache
      (World.initial hwInterfaces swInterfaces) passes)
    (hrun : runAll (passOk cfg) (World.initial hwInterfaces swInterfaces)
      passes = some w) : CacheFilled w := by
  have hinv := syncFilled_run hwInterfaces swInterfaces hguard hrun
  exact hinv.2

def firstSubscriber (routes : List IpPrefix) : KSession :=
  ksession 0x0a000002 100 1000 200 2000 "ppp0" routes

def secondSubscriber (routes : List IpPrefix) : KSession :=
  ksession 0x0a000002 100 1001 200 2001 "ppp1" routes

def oldSessionStays : List Pass :=
  [testPass [firstSubscriber [IpPrefix.host 0x0ac80005]],
   testPass [firstSubscriber [], secondSubscriber [IpPrefix.host 0x0ac80005]]]

theorem cacheFilled_of_keepsCache_oldSessionStays :
    ∃ w, runAll (passOk testConfig) (World.initial Pool.empty Pool.empty)
        oldSessionStays = some w ∧ CacheFilled w := by
  have hrun : (runAll (passOk testConfig) (World.initial Pool.empty Pool.empty)
      oldSessionStays).isSome = true := by
    decide +kernel
  obtain ⟨w, hw⟩ := Option.isSome_iff_exists.mp hrun
  exact ⟨w, hw, cacheFilled_of_keepsCache testConfig Pool.empty Pool.empty _ w
    (by decide +kernel) hw⟩

def oldSessionGone : List Pass :=
  [testPass [firstSubscriber [IpPrefix.host 0x0ac80005]],
   testPass [secondSubscriber [IpPrefix.host 0x0ac80005]]]

/-- The delete for the old session comes after the add for the new one and
takes the entry away. -/
theorem cacheEntry_lost_oldSessionGone :
    ∃ w, runAll (passOk testConfig) (World.initial Pool.empty Pool.empty)
        oldSessionGone = some w ∧
      w.installed.items = [((100, 1001), (secondSubscriber []).record (some 1)
        (some 0) [IpPrefix.host 0x0ac80005])] ∧
      cachedAdj w.vpp 0x0ac80005 = none ∧ ¬ CacheFilled w := by
  have hrun : ((runAll (passOk testConfig)
      (World.initial Pool.empty Pool.empty) oldSessionGone).any fun w =>
        decide (w.installed.items = [((100, 1001), (secondSubscriber []).record
          (some 1) (some 0) [IpPrefix.host 0x0ac80005])]) &&
        decide (cachedAdj w.vpp 0x0ac80005 = none)) = true := by
    decide +kernel
  obtain ⟨w, hw, hfinal⟩ := (Option.any_eq_true _ _).mp hrun
  rw [Bool.and_eq_true, decide_eq_true_eq, decide_eq_true_eq] at hfinal
  obtain ⟨hitems, hcache⟩ := hfinal
  refine ⟨w, hw, hitems, hcache, ?_⟩
  intro hfilled
  have hget : w.installed.get? (100, 1001) = some ((secondSubscriber []).record
      (some 1) (some 0) [IpPrefix.host 0x0ac80005]) := by
    rw [← w.installed.mem_items, hitems]
    exact List.mem_cons_self
  have honly : ∀ key rec, w.installed.get? key = some rec →
      IpPrefix.host 0x0ac80005 ∈ rec.routes → key = (100, 1001) := by
    intro key rec hrec _
    rw [← w.installed.mem_items, hitems, List.mem_singleton] at hrec
    exact congrArg Prod.fst hrec
  have hentry := hfilled (100, 1001) _ 0x0ac80005 1 hget List.mem_cons_self rfl
    honly
  exact Option.some_ne_none _ (hentry.symm.trans hcache)

end L2tvpp.Syncd
