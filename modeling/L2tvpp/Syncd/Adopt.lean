import L2tvpp.Syncd.Interfaces

/-!
# The first loop over any plugin

The plugin may have sessions, tunnels and routes that the daemon does not know
of, and the record may name what is not there.  `Ready` is what the first loop
needs so that every wanted session ends up with a record of its interface;
without it some record names none, and no later call makes that good.
-/

namespace L2tvpp.Syncd

open L2tvpp.Lib L2tvpp.Plugin

variable {cfg : Config} {pass : Pass} {w w' : World} {v v' : Vpp}

/-! ## Missing sessions and the tunnels they open -/

def missing (installed : InstalledDict)
    (entries : List (SessionKey × KSession)) : List (SessionKey × KSession) :=
  entries.filter fun entry => (installed.get? entry.1).isNone

theorem missing_append (installed : InstalledDict)
    (entries entries' : List (SessionKey × KSession)) :
    missing installed (entries ++ entries') =
      missing installed entries ++ missing installed entries' :=
  List.filter_append ..

theorem mem_missing {installed : InstalledDict}
    {entries : List (SessionKey × KSession)} {entry : SessionKey × KSession} :
    entry ∈ missing installed entries ↔
      entry ∈ entries ∧ installed.get? entry.1 = none := by
  simp [missing]

theorem missing_singleton {installed : InstalledDict}
    {entry : SessionKey × KSession} (h : installed.get? entry.1 = none) :
    missing installed [entry] = [entry] := by
  simp [missing, h]

/-- The missing entries that open a tunnel: the first one for each tunnel key
that the dump has not. -/
def openersOf (w : World) (entries : List (SessionKey × KSession)) :
    List KSession :=
  tunnelOpeners (((missing w.installed entries).map Prod.snd).filter fun s =>
    ((dumpedTunnels w.vpp).get? s.tunnelKey).isNone)

def tunnelsOpenable (cfg : Config) (v : Vpp) (openers : List KSession) : Bool :=
  tunnelsAddable cfg openers && openers.all fun o =>
    (l2tvppTunnelFind v.lm o.peerIp.decode o.peerPort o.localTid).isNone

theorem tunnelsOpenable_mono {openers openers' : List KSession}
    (h : tunnelsOpenable cfg v openers' = true)
    (hfirst : openers <+: openers') : tunnelsOpenable cfg v openers = true := by
  rw [tunnelsOpenable, Bool.and_eq_true, List.all_eq_true] at h ⊢
  exact ⟨tunnelsAddable_mono h.1 hfirst, fun o ho => h.2 o (hfirst.subset ho)⟩

theorem tunnelsOpenable_snoc {openers : List KSession} {s : KSession} :
    tunnelsOpenable cfg v (openers ++ [s]) = true ↔
      tunnelsOpenable cfg v openers = true ∧ ip4Endpoints cfg s = true ∧
        l2tvppTunnelFind v.lm s.peerIp.decode s.peerPort s.localTid = none ∧
        ∀ o ∈ openers, sameTunnel o s = false := by
  simp only [tunnelsOpenable, tunnelsAddable, List.all_append, List.all_cons,
    List.all_nil, Bool.and_true, Bool.and_eq_true, decide_eq_true_eq,
    List.pairwise_append, List.pairwise_singleton, List.mem_singleton,
    forall_eq, true_and, Option.isNone_iff_eq_none]
  tauto

theorem openersOf_append_kept {entries : List (SessionKey × KSession)}
    {entry : SessionKey × KSession} {rec : InstalledRec}
    (hrec : w.installed.get? entry.1 = some rec) :
    openersOf w (entries ++ [entry]) = openersOf w entries := by
  simp [openersOf, missing, hrec]

theorem openersOf_append_known {entries : List (SessionKey × KSession)}
    {entry : SessionKey × KSession} {index : Option Nat}
    (hcache : (dumpedTunnels w.vpp).get? entry.2.tunnelKey = some index) :
    openersOf w (entries ++ [entry]) = openersOf w entries := by
  rw [openersOf, missing_append, List.map_append, List.filter_append]
  cases hrec : w.installed.get? entry.1 with
  | none => simp [openersOf, missing, hrec, hcache]
  | some rec => simp [openersOf, missing, hrec]

theorem openersOf_append_new {entries : List (SessionKey × KSession)}
    {entry : SessionKey × KSession}
    (hrec : w.installed.get? entry.1 = none)
    (hcache : (dumpedTunnels w.vpp).get? entry.2.tunnelKey = none) :
    openersOf w (entries ++ [entry]) =
      if (openersOf w entries).any fun o =>
        decide (o.tunnelKey = entry.2.tunnelKey) then openersOf w entries
      else openersOf w entries ++ [entry.2] := by
  rw [openersOf, missing_append, List.map_append, List.filter_append]
  rw [missing_singleton hrec, show ([entry].map Prod.snd).filter (fun s =>
    ((dumpedTunnels w.vpp).get? s.tunnelKey).isNone) = [entry.2] by
      simp [hcache]]
  exact tunnelOpeners_append ..

theorem openersOf_extends (entries rest : List (SessionKey × KSession)) :
    openersOf w entries <+: openersOf w (entries ++ rest) := by
  rw [openersOf, openersOf, missing_append, List.map_append,
    List.filter_append]
  exact tunnelOpeners_extends ..

/-! ## What the first loop needs -/

/-- The record of a key names the interface of the session with that key. -/
def Named (v : Vpp) (key : SessionKey) (rec : InstalledRec) : Prop :=
  ∃ swIfIndex, rec.swIfIndex = some swIfIndex ∧
    interfaceOf v key = some swIfIndex

structure Ready (cfg : Config) (w : World)
    (entries : List (SessionKey × KSession)) : Prop where
  named : ∀ entry ∈ entries, ∀ rec, w.installed.get? entry.1 = some rec →
    Named w.vpp entry.1 rec
  free : ∀ entry ∈ entries, w.installed.get? entry.1 = none →
    interfaceOf w.vpp entry.1 = none
  openable : tunnelsOpenable cfg w.vpp (openersOf w entries) = true

namespace Ready

variable {entries rest : List (SessionKey × KSession)}
  {entry : SessionKey × KSession}

theorem nil (cfg : Config) (w : World) : Ready cfg w [] where
  named := by simp
  free := by simp
  openable := rfl

theorem mono (h : Ready cfg w (entries ++ rest)) : Ready cfg w entries where
  named := fun entry hentry => h.named entry (List.mem_append_left _ hentry)
  free := fun entry hentry => h.free entry (List.mem_append_left _ hentry)
  openable := tunnelsOpenable_mono h.openable (openersOf_extends entries rest)

theorem kept (h : Ready cfg w entries) {rec : InstalledRec}
    (hrec : w.installed.get? entry.1 = some rec)
    (hnamed : Named w.vpp entry.1 rec) : Ready cfg w (entries ++ [entry]) where
  named := by
    intro other hother rec' hrec'
    rcases List.mem_append.mp hother with hother | hother
    · exact h.named other hother rec' hrec'
    · rw [List.mem_singleton.mp hother] at hrec' ⊢
      rw [hrec] at hrec'
      cases hrec'
      exact hnamed
  free := by
    intro other hother hnone
    rcases List.mem_append.mp hother with hother | hother
    · exact h.free other hother hnone
    · rw [List.mem_singleton.mp hother, hrec] at hnone
      contradiction
  openable := by
    rw [openersOf_append_kept hrec]
    exact h.openable

theorem new (h : Ready cfg w entries)
    (hrec : w.installed.get? entry.1 = none)
    (hfree : interfaceOf w.vpp entry.1 = none)
    (hopenable : tunnelsOpenable cfg w.vpp
      (openersOf w (entries ++ [entry])) = true) :
    Ready cfg w (entries ++ [entry]) where
  named := by
    intro other hother rec' hrec'
    rcases List.mem_append.mp hother with hother | hother
    · exact h.named other hother rec' hrec'
    · rw [List.mem_singleton.mp hother, hrec] at hrec'
      contradiction
  free := by
    intro other hother hnone
    rcases List.mem_append.mp hother with hother | hother
    · exact h.free other hother hnone
    · rw [List.mem_singleton.mp hother]
      exact hfree
  openable := hopenable

end Ready

theorem SessionAdded.cacheSound {s : KSession} {routes : List IpPrefix}
    {cache cache' : TunnelsCache}
    (h : SessionAdded cfg s routes cache cache' w w')
    (hsound : CacheSound w.vpp cache) : CacheSound w'.vpp cache' := by
  obtain ⟨htunnel, ht, hkey, rfl, hroutes, hinstalled⟩ := h
  exact (htunnel.cacheSound hsound).1.kept
    (tunnelsKept_sessionAdd.trans hroutes.tunnelsKept)

/-! ## Tunnels opened since the start of the pass -/

structure OpenedSince (cfg : Config) (v₀ : Vpp) (openers : List KSession)
    (cache : TunnelsCache) (v : Vpp) : Prop where
  upcoming : ∀ n, v.lm.tunnels.upcoming cfg.policies.tunnels n =
    v₀.lm.tunnels.upcoming cfg.policies.tunnels (openers.length + n)
  cached : ∀ key, cache.get? key = none ↔
    (dumpedTunnels v₀).get? key = none ∧ ∀ o ∈ openers, o.tunnelKey ≠ key
  endpoint : ∀ o ∈ openers, (localEndpoint cfg o).1 ≠ none
  old : TunnelsKept v₀ v
  new : ∀ {n : Nat} {o : KSession}, openers[n]? = some o →
    ∃ t, v.lm.tunnels.elt? (v₀.lm.tunnels.upcoming cfg.policies.tunnels n) =
      some t ∧ MatchesTunnel o t
  origin : ∀ {index : Nat} {t : L2tvppTunnel},
    v.lm.tunnels.elt? index = some t →
    (∃ t₀ n, v₀.lm.tunnels.elt? index = some t₀ ∧
      t = { t₀ with nSessions := n }) ∨
    ∃ n o, openers[n]? = some o ∧
      index = v₀.lm.tunnels.upcoming cfg.policies.tunnels n ∧ MatchesTunnel o t

namespace OpenedSince

variable {v₀ : Vpp} {openers : List KSession} {cache cache' : TunnelsCache}
  {s : KSession}

theorem start (cfg : Config) (v : Vpp) :
    OpenedSince cfg v [] (dumpedTunnels v) v where
  upcoming := by simp
  cached := by simp
  endpoint := by simp
  old := tunnelsKept_of_sameStore (SameStore.refl v)
  new := by simp
  origin := fun ht => .inl ⟨_, _, ht, rfl⟩

theorem of_tunnels (h : OpenedSince cfg v₀ openers cache v)
    (htunnels : v'.lm.tunnels = v.lm.tunnels) :
    OpenedSince cfg v₀ openers cache v' where
  upcoming := by
    rw [htunnels]
    exact h.upcoming
  cached := h.cached
  endpoint := h.endpoint
  old := by
    intro index t ht
    rw [htunnels]
    exact h.old index t ht
  new := by
    rw [htunnels]
    exact h.new
  origin := by
    rw [htunnels]
    exact h.origin

theorem sessionAdd {tunnelIndex : Nat} {t : L2tvppTunnel}
    {localSid peerSid : U16} {acfc pfc : U8}
    (h : OpenedSince cfg v₀ openers cache v) :
    OpenedSince cfg v₀ openers cache (v.sessionAdd cfg.policies tunnelIndex t
      localSid peerSid acfc pfc) where
  upcoming := by
    intro n
    change (v.lm.tunnels.modify tunnelIndex _).upcoming _ n = _
    rw [Pool.upcoming_modify]
    exact h.upcoming n
  cached := h.cached
  endpoint := h.endpoint
  old := h.old.trans tunnelsKept_sessionAdd
  new := by
    intro n o ho
    obtain ⟨t', ht', hmatches⟩ := h.new ho
    obtain ⟨count, hkept⟩ := tunnelsKept_sessionAdd _ _ ht'
    exact ⟨_, hkept, hmatches⟩
  origin := by
    intro index t' ht'
    have hbefore : ∃ old count, v.lm.tunnels.elt? index = some old ∧
        t' = { old with nSessions := count } := by
      rw [sessionAdd_tunnels] at ht'
      split at ht'
      · obtain ⟨old, hold, rfl⟩ := Option.map_eq_some_iff.mp ht'
        exact ⟨old, _, hold, rfl⟩
      · exact ⟨t', _, ht', rfl⟩
    obtain ⟨old, count, hold, rfl⟩ := hbefore
    rcases h.origin hold with ⟨t₀, n, ht₀, rfl⟩ | ⟨n, o, ho, hindex, hmatches⟩
    · exact .inl ⟨t₀, count, ht₀, rfl⟩
    · exact .inr ⟨n, o, ho, hindex, hmatches⟩

theorem find_none_iff (h : OpenedSince cfg v₀ openers cache v) :
    l2tvppTunnelFind v.lm s.peerIp.decode s.peerPort s.localTid = none ↔
      l2tvppTunnelFind v₀.lm s.peerIp.decode s.peerPort s.localTid = none ∧
        ∀ o ∈ openers, sameTunnel o s = false := by
  constructor
  · intro hfind
    constructor
    · rw [Option.eq_none_iff_forall_ne_some]
      rintro ⟨index, t⟩ hold
      obtain ⟨ht, htid, hport, hpeer⟩ := l2tvppTunnelFind_some hold
      obtain ⟨n, ht'⟩ := h.old index t ht
      exact l2tvppTunnelFind_none hfind ht' ⟨htid, hport, hpeer⟩
    · intro o ho
      obtain ⟨n, hn⟩ := List.mem_iff_getElem?.mp ho
      obtain ⟨t, ht, hmatches⟩ := h.new hn
      rw [← Bool.not_eq_true]
      intro hsame
      obtain ⟨hpeer, hport, htid⟩ := (sameTunnel_iff hmatches).mp hsame
      exact l2tvppTunnelFind_none hfind ht ⟨htid, hport, hpeer⟩
  · rintro ⟨hold, hopeners⟩
    rw [Option.eq_none_iff_forall_ne_some]
    rintro ⟨index, t⟩ hfind
    obtain ⟨ht, htid, hport, hpeer⟩ := l2tvppTunnelFind_some hfind
    rcases h.origin ht with ⟨t₀, n, ht₀, rfl⟩ | ⟨n, o, ho, -, hmatches⟩
    · exact l2tvppTunnelFind_none hold ht₀ ⟨htid, hport, hpeer⟩
    · have hsame := (sameTunnel_iff hmatches).mpr ⟨hpeer, hport, htid⟩
      rw [hopeners o (List.mem_of_getElem? ho)] at hsame
      contradiction

theorem added {localIp : IpAddress} {localPort : U16}
    (h : OpenedSince cfg v₀ openers cache v)
    (hlocal : localEndpoint cfg s = (some localIp, localPort)) :
    OpenedSince cfg v₀ (openers ++ [s])
      (cache.set s.tunnelKey
        (some (v.lm.tunnels.nextIndex cfg.policies.tunnels)))
      (v.tunnelAdd cfg.policies localIp.decode s.peerIp.decode localPort
        s.peerPort s.localTid s.peerTid) where
  upcoming := by
    intro n
    change (v.lm.tunnels.get _ _).upcoming _ n = _
    rw [Pool.upcoming_get, h.upcoming, List.length_append,
      List.length_singleton]
    congr 1
    omega
  cached := by
    intro key
    rw [Dict.get?_set]
    simp only [List.mem_append, List.mem_singleton]
    split
    · rename_i hkey
      subst hkey
      simp
    · rename_i hkey
      rw [h.cached]
      constructor
      · rintro ⟨hdump, hall⟩
        refine ⟨hdump, ?_⟩
        rintro o (ho | rfl)
        · exact hall o ho
        · exact Ne.symm hkey
      · rintro ⟨hdump, hall⟩
        exact ⟨hdump, fun o ho => hall o (.inl ho)⟩
  endpoint := by
    intro o ho
    rcases List.mem_append.mp ho with ho | ho
    · exact h.endpoint o ho
    · rw [List.mem_singleton.mp ho, hlocal]
      simp
  old := h.old.trans tunnelsKept_tunnelAdd
  new := by
    intro n o ho
    rcases getElem?_concat_eq_some.mp ho with ho | ⟨rfl, rfl⟩
    · obtain ⟨t, ht, hmatches⟩ := h.new ho
      exact ⟨t, Pool.elt?_get_of_live _ v.lm.tunnels _ ht, hmatches⟩
    · have hindex := h.upcoming 0
      rw [Pool.upcoming_zero, Nat.add_zero] at hindex
      rw [← hindex]
      exact ⟨_, Pool.elt?_get_nextIndex _ v.lm.tunnels _, rfl, rfl, rfl⟩
  origin := by
    intro index t ht
    simp only [Vpp.tunnelAdd, Pool.elt?_get] at ht
    split at ht
    · rename_i hindex
      cases ht
      have hnext := h.upcoming 0
      rw [Pool.upcoming_zero, ← hindex] at hnext
      exact .inr ⟨openers.length, s, by simp, hnext, rfl, rfl, rfl⟩
    · rcases h.origin ht with hold | ⟨n, o, ho, hindex, hmatches⟩
      · exact .inl hold
      · obtain ⟨hlt, -⟩ := List.getElem?_eq_some_iff.mp ho
        refine .inr ⟨n, o, ?_, hindex, hmatches⟩
        rw [List.getElem?_append_left hlt]
        exact ho

variable {entries : List (SessionKey × KSession)}
  {entry : SessionKey × KSession}

theorem openersOf_cached {index : Option Nat}
    (h : OpenedSince cfg w.vpp (openersOf w entries) cache v)
    (hmissing : w.installed.get? entry.1 = none)
    (hget : cache.get? entry.2.tunnelKey = some index) :
    openersOf w (entries ++ [entry]) = openersOf w entries := by
  cases hdump : (dumpedTunnels w.vpp).get? entry.2.tunnelKey with
  | some index => exact openersOf_append_known hdump
  | none =>
      rw [openersOf_append_new hmissing hdump, if_pos]
      by_contra hnone
      simp only [List.any_eq_true, decide_eq_true_eq, not_exists,
        not_and] at hnone
      rw [(h.cached entry.2.tunnelKey).mpr ⟨hdump, hnone⟩] at hget
      contradiction

theorem openersOf_uncached
    (h : OpenedSince cfg w.vpp (openersOf w entries) cache v)
    (hmissing : w.installed.get? entry.1 = none)
    (hget : cache.get? entry.2.tunnelKey = none) :
    openersOf w (entries ++ [entry]) = openersOf w entries ++ [entry.2] := by
  obtain ⟨hdump, hnew⟩ := (h.cached entry.2.tunnelKey).mp hget
  rw [openersOf_append_new hmissing hdump, if_neg (by simpa using hnew)]

theorem ensured {tunnelIndex : Option Nat}
    (h : OpenedSince cfg w.vpp (openersOf w entries) cache v)
    (hmissing : w.installed.get? entry.1 = none)
    (hensured : TunnelEnsured cfg entry.2 cache v tunnelIndex cache' v') :
    OpenedSince cfg w.vpp (openersOf w (entries ++ [entry])) cache' v' := by
  cases hensured with
  | cached hget =>
      rw [h.openersOf_cached hmissing hget]
      exact h
  | added hget hlocal hfind =>
      rw [h.openersOf_uncached hmissing hget]
      exact h.added hlocal

/-- The plugin accepts the tunnel exactly if it can be opened from the start of
the pass. -/
theorem openable_iff
    (h : OpenedSince cfg w.vpp (openersOf w entries) cache v)
    (hmissing : w.installed.get? entry.1 = none)
    (hready : tunnelsOpenable cfg w.vpp (openersOf w entries) = true) :
    tunnelsOpenable cfg w.vpp (openersOf w (entries ++ [entry])) = true ↔
      (cache.get? entry.2.tunnelKey = none → ip4Endpoints cfg entry.2 = true ∧
        l2tvppTunnelFind v.lm entry.2.peerIp.decode entry.2.peerPort
          entry.2.localTid = none) := by
  cases hget : cache.get? entry.2.tunnelKey with
  | some index =>
      rw [h.openersOf_cached hmissing hget]
      simp [hready]
  | none =>
      rw [h.openersOf_uncached hmissing hget, tunnelsOpenable_snoc,
        h.find_none_iff]
      simp only [hready, true_and, forall_const]

end OpenedSince

/-! ## The first loop -/

def Pass.routesAdded (pass : Pass) (records : Records)
    (entry : SessionKey × KSession) : List IpPrefix :=
  match records entry.1 with
  | none => entry.2.fetchRoutes pass.pppRoutes
  | some rec =>
      if pass.syncExistingRoutes then
        setDiff (entry.2.fetchRoutes pass.pppRoutes) rec.routes
      else []

def Pass.routesDeleted (pass : Pass) (records : Records)
    (entry : SessionKey × KSession) : List IpPrefix :=
  match records entry.1 with
  | none => []
  | some rec =>
      if pass.syncExistingRoutes then
        setDiff rec.routes (entry.2.fetchRoutes pass.pppRoutes)
      else []

/-- The state after some of the wanted sessions have been looked at, when all
has gone well. -/
structure Adopting (cfg : Config) (pass : Pass) (w : World)
    (done : List (SessionKey × KSession)) (cache : TunnelsCache)
    (m : World) : Prop where
  store : StoreInv m.vpp
  cacheSound : CacheSound m.vpp cache
  opened : OpenedSince cfg w.vpp (openersOf w done) cache m.vpp
  upcoming : ∀ n, m.vpp.swInterfaces.upcoming cfg.policies.swInterfaces n =
    w.vpp.swInterfaces.upcoming cfg.policies.swInterfaces
      ((missing w.installed done).length + n)
  untouched : ∀ key, key ∉ done.map Prod.fst →
    m.installed.get? key = w.installed.get? key
  interface : ∀ key, (∀ entry ∈ missing w.installed done, entry.1 ≠ key) →
    interfaceOf m.vpp key = interfaceOf w.vpp key
  numbered : ∀ {n : Nat} {entry : SessionKey × KSession},
    (missing w.installed done)[n]? = some entry →
    interfaceOf m.vpp entry.1 =
      some (w.vpp.swInterfaces.upcoming cfg.policies.swInterfaces n)
  recorded : ∀ entry ∈ done, ∃ rec swIfIndex,
    m.installed.get? entry.1 = some rec ∧ rec.swIfIndex = some swIfIndex ∧
    interfaceOf m.vpp entry.1 = some swIfIndex ∧
    (∀ pfx, pfx ∈ rec.routes ↔
      pfx ∈ pass.routesAfter w.installed.get? entry) ∧
    ∀ p, (p, swIfIndex) ∈ m.vpp.fib ↔
      ((p, swIfIndex) ∈ w.vpp.fib ∨
        ∃ pfx ∈ pass.routesAdded w.installed.get? entry, p = pfx.decode) ∧
      ∀ pfx ∈ pass.routesDeleted w.installed.get? entry, p ≠ pfx.decode
  others : ∀ swIfIndex,
    (∀ entry ∈ done, interfaceOf m.vpp entry.1 ≠ some swIfIndex) →
    ∀ p, (p, swIfIndex) ∈ m.vpp.fib ↔ (p, swIfIndex) ∈ w.vpp.fib

namespace Adopting

variable {done : List (SessionKey × KSession)} {cache cache' : TunnelsCache}
  {m m' : World} {entry : SessionKey × KSession}

theorem start (hstore : StoreInv w.vpp) :
    Adopting cfg pass w [] (dumpedTunnels w.vpp)
      (w.logged cfg .tunnelDump) where
  store := hstore
  cacheSound := cacheSound_dumpedTunnels w.vpp
  opened := OpenedSince.start cfg w.vpp
  upcoming := by
    intro n
    simp only [missing, List.filter_nil, List.length_nil, Nat.zero_add]
    rfl
  untouched := fun _ _ => rfl
  interface := fun _ _ => rfl
  numbered := by simp [missing]
  recorded := by simp
  others := fun _ _ _ => Iff.rfl

theorem record (h : Adopting cfg pass w done cache m) {rec : InstalledRec}
    {swIfIndex : Nat} (hnew : entry.1 ∉ done.map Prod.fst)
    (hstore : StoreInv m'.vpp) (hsound : CacheSound m'.vpp cache')
    (hopened : OpenedSince cfg w.vpp (openersOf w (done ++ [entry])) cache'
      m'.vpp)
    (hupcoming : ∀ n,
      m'.vpp.swInterfaces.upcoming cfg.policies.swInterfaces n =
        w.vpp.swInterfaces.upcoming cfg.policies.swInterfaces
          ((missing w.installed (done ++ [entry])).length + n))
    (hinstalled : m'.installed.get? =
      Function.update m.installed.get? entry.1 (some rec))
    (hrec : rec.swIfIndex = some swIfIndex)
    (hinterface : interfaceOf m'.vpp =
      Function.update (interfaceOf m.vpp) entry.1 (some swIfIndex))
    (hown : ∀ key, key ≠ entry.1 → interfaceOf m.vpp key ≠ some swIfIndex)
    (hfresh : w.installed.get? entry.1 = none →
      swIfIndex = w.vpp.swInterfaces.upcoming cfg.policies.swInterfaces
        (missing w.installed done).length)
    (hkept : w.installed.get? entry.1 ≠ none →
      interfaceOf w.vpp entry.1 = some swIfIndex)
    (hroutes : ∀ pfx, pfx ∈ rec.routes ↔
      pfx ∈ pass.routesAfter w.installed.get? entry)
    (hfib : ∀ p, (p, swIfIndex) ∈ m'.vpp.fib ↔
      ((p, swIfIndex) ∈ m.vpp.fib ∨
        ∃ pfx ∈ pass.routesAdded w.installed.get? entry, p = pfx.decode) ∧
      ∀ pfx ∈ pass.routesDeleted w.installed.get? entry, p ≠ pfx.decode)
    (hother : ∀ p other, other ≠ swIfIndex →
      ((p, other) ∈ m'.vpp.fib ↔ (p, other) ∈ m.vpp.fib)) :
    Adopting cfg pass w (done ++ [entry]) cache' m' where
  store := hstore
  cacheSound := hsound
  opened := hopened
  upcoming := hupcoming
  untouched := by
    intro key hkey
    obtain ⟨hkey, hne⟩ := untouched_append hkey
    rw [hinstalled, Function.update_of_ne hne]
    exact h.untouched key hkey
  interface := by
    intro key hkey
    rw [missing_append] at hkey
    rw [hinterface, Function.update_apply]
    split
    · rename_i heq
      subst heq
      refine (hkept ?_).symm
      intro hnone
      exact hkey entry (List.mem_append_right _ (by simp [missing, hnone])) rfl
    · exact h.interface key fun other hmem =>
        hkey other (List.mem_append_left _ hmem)
  numbered := by
    intro n other hentry
    have hold : (missing w.installed done)[n]? = some other →
        interfaceOf m'.vpp other.1 =
          some (w.vpp.swInterfaces.upcoming cfg.policies.swInterfaces n) := by
      intro hentry
      obtain ⟨hmem, -⟩ := mem_missing.mp (List.mem_of_getElem? hentry)
      rw [hinterface, Function.update_of_ne (fst_ne_of_mem hnew hmem)]
      exact h.numbered hentry
    rw [missing_append] at hentry
    cases hnone : w.installed.get? entry.1 with
    | some old =>
        refine hold ?_
        rw [← hentry]
        simp [missing, hnone]
    | none =>
        rw [missing_singleton hnone] at hentry
        rcases getElem?_concat_eq_some.mp hentry with hentry | ⟨rfl, rfl⟩
        · exact hold hentry
        · rw [hinterface, Function.update_self, hfresh hnone]
  recorded := by
    have hnotDone : ∀ other ∈ done,
        interfaceOf m.vpp other.1 ≠ some swIfIndex := by
      intro other hmem
      exact hown _ (fst_ne_of_mem hnew hmem)
    intro other hmem
    rcases List.mem_append.mp hmem with hmem | hmem
    · obtain ⟨rec', index, hrec', hsw, hlive, hroutes', hfib'⟩ :=
        h.recorded other hmem
      have hne := fst_ne_of_mem hnew hmem
      refine ⟨rec', index, ?_, hsw, ?_, hroutes', ?_⟩
      · rw [hinstalled, Function.update_of_ne hne, hrec']
      · rw [hinterface, Function.update_of_ne hne, hlive]
      · intro p
        rw [hother p index, hfib' p]
        rintro rfl
        exact hown _ hne hlive
    · rw [List.mem_singleton.mp hmem]
      refine ⟨rec, swIfIndex, ?_, hrec, ?_, hroutes, ?_⟩
      · rw [hinstalled, Function.update_self]
      · rw [hinterface, Function.update_self]
      · intro p
        rw [hfib p, h.others swIfIndex hnotDone]
  others := by
    intro index hindex' p
    have hne : index ≠ swIfIndex := by
      rintro rfl
      refine hindex' entry (by simp) ?_
      rw [hinterface, Function.update_self]
    rw [hother p index hne]
    refine h.others index ?_ p
    intro other hmem
    have hbefore := hindex' other (List.mem_append_left _ hmem)
    rw [hinterface, Function.update_of_ne (fst_ne_of_mem hnew hmem)] at hbefore
    exact hbefore

theorem interface_new (h : Adopting cfg pass w done cache m)
    (hnew : entry.1 ∉ done.map Prod.fst) :
    interfaceOf m.vpp entry.1 = interfaceOf w.vpp entry.1 := by
  apply h.interface
  intro other hmem
  exact fst_ne_of_mem hnew (mem_missing.mp hmem).1

theorem added (h : Adopting cfg pass w done cache m)
    (hkey : entry.1 = entry.2.sessionKey) (hnew : entry.1 ∉ done.map Prod.fst)
    (hmissing : w.installed.get? entry.1 = none)
    (hadded : SessionAdded cfg entry.2 (entry.2.fetchRoutes pass.pppRoutes)
      cache cache' m m') :
    Adopting cfg pass w (done ++ [entry]) cache' m' := by
  have hsession := hadded.added h.store h.cacheSound.cacheTid
  obtain ⟨tunnelIndex, hinstalled⟩ := hsession.installed
  have hnext := h.upcoming 0
  rw [Pool.upcoming_zero, Nat.add_zero] at hnext
  have hinterface := hsession.interface
  rw [← hkey] at hinstalled hinterface
  refine h.record hnew hsession.store (hadded.cacheSound h.cacheSound) ?_ ?_
    hinstalled rfl hinterface ?_ (fun _ => hnext)
    (fun hsome => absurd hmissing hsome) ?_ ?_ ?_
  · obtain ⟨htunnel, ht, -, -, hroutes, -⟩ := hadded
    exact (h.opened.ensured hmissing htunnel).sessionAdd.of_tunnels
      hroutes.sameStore.tunnels
  · intro n
    rw [hsession.upcoming, h.upcoming, missing_append,
      missing_singleton hmissing, List.length_append, List.length_singleton]
    congr 1
    omega
  · -- the new interface is not one of a live session
    intro key _
    exact interfaceOf_ne_nextIndex h.store key
  · intro pfx
    rw [Pass.routesAfter, hmissing]
    rfl
  · intro p
    rw [hsession.fib, Pass.routesAdded, Pass.routesDeleted, hmissing]
    simp
  · intro p other hother
    rw [hsession.fib]
    simp [hother]

/-- A session that stays, with the routes that were added and deleted. -/
theorem kept (h : Adopting cfg pass w done cache m) {rec rec' : InstalledRec}
    {swIfIndex : Nat} {added deleted : List IpPrefix} {v : Vpp}
    (hnew : entry.1 ∉ done.map Prod.fst)
    (hrec : w.installed.get? entry.1 = some rec)
    (hsw : rec.swIfIndex = some swIfIndex)
    (hlive : interfaceOf w.vpp entry.1 = some swIfIndex)
    (hinstalled : m'.installed.get? =
      Function.update m.installed.get? entry.1 (some rec'))
    (hsw' : rec'.swIfIndex = rec.swIfIndex)
    (hroutes : ∀ pfx, pfx ∈ rec'.routes ↔
      pfx ∈ pass.routesAfter w.installed.get? entry)
    (hadded : ∀ pfx, pfx ∈ added ↔
      pfx ∈ pass.routesAdded w.installed.get? entry)
    (hdeleted : ∀ pfx, pfx ∈ deleted ↔
      pfx ∈ pass.routesDeleted w.installed.get? entry)
    (hfirst : RoutesChanged true added swIfIndex m.vpp v)
    (hsecond : RoutesChanged false deleted swIfIndex v m'.vpp) :
    Adopting cfg pass w (done ++ [entry]) cache m' := by
  have hsame := hfirst.sameStore.trans hsecond.sameStore
  have hlive' := (h.interface_new hnew).trans hlive
  have hmissing : missing w.installed (done ++ [entry]) =
      missing w.installed done := by
    simp [missing, hrec]
  refine h.record hnew (h.store.of_sameStore hsame)
    (h.cacheSound.kept (tunnelsKept_of_sameStore hsame)) ?_ ?_ hinstalled
    (hsw'.trans hsw) ?_ ?_ (by simp [hrec]) (fun _ => hlive) hroutes ?_ ?_
  · rw [openersOf_append_kept hrec]
    exact h.opened.of_tunnels hsame.tunnels
  · intro n
    rw [hsame.swInterfaces, hmissing]
    exact h.upcoming n
  · rw [interfaceOf_sameStore hsame]
    exact (Function.update_eq_self_iff.mpr hlive'.symm).symm
  · intro key hne hkey
    exact hne (interfaceOf_inj h.store hkey hlive')
  · intro p
    simp only [hsecond.fib, Bool.false_eq_true, if_false, hfirst.fib, if_true,
      Prod.mk.injEq, and_true, not_exists, not_and, hadded, hdeleted]
  · intro p other hother
    simp [hsecond.fib, hfirst.fib, hother]

theorem synced (h : Adopting cfg pass w done cache m) {rec : InstalledRec}
    (hnew : entry.1 ∉ done.map Prod.fst)
    (hsync : pass.syncExistingRoutes = true)
    (hrec : w.installed.get? entry.1 = some rec)
    (hnamed : Named w.vpp entry.1 rec)
    (hsynced : SyncedSession cfg entry.1 (entry.2.fetchRoutes pass.pppRoutes)
      rec m m') : Adopting cfg pass w (done ++ [entry]) cache m' := by
  obtain ⟨swIfIndex, hsw, hlive⟩ := hnamed
  obtain ⟨v, hfirst, hsecond⟩ := hsynced.live swIfIndex entry.1 hsw
    ((h.interface_new hnew).trans hlive)
  obtain ⟨routes, hroutes, hinstalled⟩ := hsynced.installed
  refine h.kept hnew hrec hsw hlive hinstalled rfl ?_ ?_ ?_ hfirst hsecond
  · intro pfx
    simp only [Pass.routesAfter, hrec, hsync, if_true]
    exact hroutes pfx
  · intro pfx
    simp only [Pass.routesAdded, hrec, hsync, if_true, cfg.setOrder.mem_list]
  · intro pfx
    simp only [Pass.routesDeleted, hrec, hsync, if_true, cfg.setOrder.mem_list]

theorem unsynced (h : Adopting cfg pass w done cache m) {rec : InstalledRec}
    (hnew : entry.1 ∉ done.map Prod.fst)
    (hsync : pass.syncExistingRoutes = false)
    (hrec : w.installed.get? entry.1 = some rec)
    (hnamed : Named w.vpp entry.1 rec) :
    Adopting cfg pass w (done ++ [entry]) cache m := by
  obtain ⟨swIfIndex, hsw, hlive⟩ := hnamed
  have hself : m.installed.get? =
      Function.update m.installed.get? entry.1 (some rec) := by
    rw [← hrec, ← h.untouched entry.1 hnew, Function.update_eq_self]
  refine h.kept hnew hrec hsw hlive hself rfl ?_ ?_ ?_ (RoutesChanged.nil _)
    (RoutesChanged.nil _)
  · intro pfx
    simp only [Pass.routesAfter, hrec, hsync, Bool.false_eq_true, if_false]
  · intro pfx
    simp only [Pass.routesAdded, hrec, hsync, Bool.false_eq_true, if_false]
  · intro pfx
    simp only [Pass.routesDeleted, hrec, hsync, Bool.false_eq_true, if_false]

end Adopting

/-! ## A record that names no session -/

structure Unnamed (key : SessionKey) (cache : TunnelsCache) (w : World) :
    Prop where
  store : StoreInv w.vpp
  cacheTid : CacheTid w.vpp cache
  unnamed : ∃ rec, w.installed.get? key = some rec ∧ ¬ Named w.vpp key rec

section Attempted

variable {done : List (SessionKey × KSession)}
  {entry : SessionKey × KSession} {acc acc' : Nat × TunnelsCache} {m m' : World}

theorem Unnamed.reconcileSession {key : SessionKey} (h : Unnamed key acc.2 m)
    (hkey : entry.1 = entry.2.sessionKey) (hother : key ≠ entry.1)
    (hround : exec (reconcileSession cfg pass acc entry) m = (.ok acc', m')) :
    Unnamed key acc'.2 m' := by
  obtain ⟨htid, htried⟩ :=
    reconcileSession_tried h.store h.cacheTid hkey hround
  obtain ⟨hstore, ⟨_, hinstalled⟩, hsame⟩ :=
    htried.frame h.store h.cacheTid hkey
  obtain ⟨rec, hrec, hnot⟩ := h.unnamed
  refine ⟨hstore, htid, rec, ?_, ?_⟩
  · rw [hinstalled, Function.update_of_ne hother, hrec]
  · rintro ⟨swIfIndex, hsw, hlive⟩
    rw [hsame key hother] at hlive
    exact hnot ⟨swIfIndex, hsw, hlive⟩

/-- An entry that is not ready leaves a record that names no session. -/
theorem Adopting.unnamed (h : Adopting cfg pass w done acc.2 m)
    (hready : Ready cfg w done)
    (hnot : ¬ Ready cfg w (done ++ [entry]))
    (hkey : entry.1 = entry.2.sessionKey) (hnew : entry.1 ∉ done.map Prod.fst)
    (hround : exec (reconcileSession cfg pass acc entry) m = (.ok acc', m')) :
    Unnamed entry.1 acc'.2 m' ∧ ∀ rec,
      w.installed.get? entry.1 = some rec → ¬ Named w.vpp entry.1 rec := by
  obtain ⟨htid, htried⟩ :=
    reconcileSession_tried h.store h.cacheSound.cacheTid hkey hround
  obtain ⟨hstore, -⟩ := htried.frame h.store h.cacheSound.cacheTid hkey
  have hold := h.untouched entry.1 hnew
  have hinterface := h.interface_new hnew
  refine ⟨⟨hstore, htid, ?_⟩, fun rec hrec hnamed =>
    hnot (hready.kept hrec hnamed)⟩
  cases htried with
  | added hnone hadded hopen =>
      rw [hold] at hnone
      have hfree := (hadded.added h.store h.cacheSound.cacheTid).free
      rw [← hkey, hinterface] at hfree
      exact absurd (hready.new hnone hfree
        ((h.opened.openable_iff hnone hready.openable).mpr hopen)) hnot
  | rejected hnone hrejected =>
      obtain ⟨tunnelIndex, hinstalled⟩ := hrejected.installed
      refine ⟨_, by rw [hinstalled, ← hkey, Function.update_self], ?_⟩
      rintro ⟨swIfIndex, hsw, -⟩
      contradiction
  | synced hsync hrec hcache hsynced =>
      rename_i rec
      obtain ⟨routes, -, hinstalled⟩ := hsynced.installed
      refine ⟨_, by rw [hinstalled, Function.update_self], ?_⟩
      rintro ⟨swIfIndex, hsw, hlive⟩
      rw [interfaceOf_sameStore hsynced.sameStore, hinterface] at hlive
      rw [hold] at hrec
      exact hnot (hready.kept hrec ⟨swIfIndex, hsw, hlive⟩)
  | kept hsync hrec hcache hw =>
      rename_i rec
      subst hw
      refine ⟨rec, hrec, ?_⟩
      rintro ⟨swIfIndex, hsw, hlive⟩
      rw [hinterface] at hlive
      rw [hold] at hrec
      exact hnot (hready.kept hrec ⟨swIfIndex, hsw, hlive⟩)

theorem Adopting.reconcileSession (h : Adopting cfg pass w done acc.2 m)
    (hready : Ready cfg w (done ++ [entry]))
    (hkey : entry.1 = entry.2.sessionKey) (hnew : entry.1 ∉ done.map Prod.fst)
    (hround : exec (reconcileSession cfg pass acc entry) m = (.ok acc', m')) :
    Adopting cfg pass w (done ++ [entry]) acc'.2 m' := by
  obtain ⟨-, htried⟩ :=
    reconcileSession_tried h.store h.cacheSound.cacheTid hkey hround
  have hold := h.untouched entry.1 hnew
  cases htried with
  | added hnone hadded hopen =>
      rw [hold] at hnone
      exact h.added hkey hnew hnone hadded
  | rejected hnone hrejected =>
      -- the plugin has no reason to reject the session
      rw [Syncd.reconcileSession, exec_get_bind, if_pos (by simp [hnone])]
        at hround
      obtain ⟨cache', added, hadd, hpure⟩ := exec_bind_ok.mp hround
      cases hpure
      rw [hold] at hnone
      refine h.added hkey hnew hnone
        (addSession_added h.store h.cacheSound ?_ ?_ hadd)
      · rw [← hkey, h.interface_new hnew]
        exact hready.free entry (by simp) hnone
      · exact (h.opened.openable_iff hnone hready.mono.openable).mp
          hready.openable
  | synced hsync hrec hcache hsynced =>
      rw [hcache]
      rw [hold] at hrec
      exact h.synced hnew hsync hrec (hready.named entry (by simp) _ hrec)
        hsynced
  | kept hsync hrec hcache hw =>
      rw [hcache, hw]
      rw [hold] at hrec
      exact h.unsynced hnew hsync hrec (hready.named entry (by simp) _ hrec)

/-- The whole loop: all sessions are adopted, or one is left unnamed. -/
theorem adopting_run (hstore : StoreInv w.vpp)
    (hrun : exec ((wantSessions pass.ksessions).items.foldlM
      (reconcileSession cfg pass) (0, dumpedTunnels w.vpp))
      (w.logged cfg .tunnelDump) = (.ok acc, w')) :
    (Ready cfg w (wantSessions pass.ksessions).items ∧
      Adopting cfg pass w (wantSessions pass.ksessions).items acc.2 w') ∨
    (¬ Ready cfg w (wantSessions pass.ksessions).items ∧
      ∃ entry ∈ (wantSessions pass.ksessions).items,
        Unnamed entry.1 acc.2 w' ∧ ∀ rec,
          w.installed.get? entry.1 = some rec → ¬ Named w.vpp entry.1 rec) := by
  refine exec_foldlM_invariant (fun done acc m =>
    (Ready cfg w done ∧ Adopting cfg pass w done acc.2 m) ∨
    (¬ Ready cfg w done ∧ ∃ entry ∈ done, Unnamed entry.1 acc.2 m ∧ ∀ rec,
      w.installed.get? entry.1 = some rec → ¬ Named w.vpp entry.1 rec)) ?_
    (.inl ⟨Ready.nil cfg w, Adopting.start hstore⟩) hrun
  intro done entry rest heq acc m acc' m' hinv hround
  obtain ⟨hkey, hnew⟩ := wantSessions_entry heq
  rcases hinv with ⟨hready, hadopting⟩ |
    ⟨hnot, other, hother, hunnamed, hbefore⟩
  · by_cases hnext : Ready cfg w (done ++ [entry])
    · exact .inl ⟨hnext, hadopting.reconcileSession hnext hkey hnew hround⟩
    · exact .inr ⟨hnext, entry, by simp,
        hadopting.unnamed hready hnext hkey hnew hround⟩
  · refine .inr ⟨fun hready => hnot hready.mono, other,
      List.mem_append_left _ hother, ?_, hbefore⟩
    exact hunnamed.reconcileSession hkey (fst_ne_of_mem hnew hother) hround

end Attempted

end L2tvpp.Syncd
