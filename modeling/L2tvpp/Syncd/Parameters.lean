import L2tvpp.Syncd.Reconcile

/-!
# Encapsulation parameters

What the plugin writes into the headers of a session comes from the session
and its tunnel, which a pass creates but never updates: it compares sessions by
their local ids and tunnels by peer and local tunnel id.
-/

namespace L2tvpp.Syncd

open L2tvpp.Lib L2tvpp.Plugin

variable {cfg : Config} {w w' : World}

structure TunnelParams where
  localIp : Ip46
  localPort : U16
  peerIp : Ip46
  peerPort : U16
  peerTid : U16
  deriving DecidableEq, Repr

structure EncapParams where
  peerSid : U16
  tunnel : TunnelParams
  deriving DecidableEq, Repr

def tunnelParams (t : L2tvppTunnel) : TunnelParams where
  localIp := t.localIp
  localPort := t.localPort
  peerIp := t.peerIp
  peerPort := t.peerPort
  peerTid := t.peerTid

def encapParams (v : Vpp) (key : SessionKey) : Option EncapParams := do
  let index ← v.lm.sessionByKey.lookup (l2tvppSessionKey key.1 key.2)
  let sess ← v.lm.sessions.elt? index
  let t ← v.lm.tunnels.elt? sess.tunnelIndex
  return ⟨sess.peerSid, tunnelParams t⟩

/-- The parameters the kernel has for a session, if it has a local endpoint. -/
def KSession.tunnelParams (cfg : Config) (s : KSession) :
    Option TunnelParams :=
  (localEndpoint cfg s).1.map fun localIp =>
    { localIp := localIp.decode
      localPort := (localEndpoint cfg s).2
      peerIp := s.peerIp.decode
      peerPort := s.peerPort
      peerTid := s.peerTid }

def KSession.encapParams (cfg : Config) (s : KSession) : Option EncapParams :=
  (s.tunnelParams cfg).map fun tunnel => ⟨s.peerSid, tunnel⟩

/-- The list agrees with itself and with the sessions and tunnels that the
plugin has already. -/
def upToDate (cfg : Config) (w : World) (pass : Pass) : Bool :=
  let ksessions := pass.ksessions.filter KSession.hasIfname
  ksessions.all fun s =>
    (s.tunnelParams cfg).isSome &&
    (ksessions.all fun s' =>
      (decide (s'.sessionKey ≠ s.sessionKey) ||
        decide (s'.encapParams cfg = s.encapParams cfg)) &&
      (!sameTunnel s s' ||
        decide (s'.tunnelParams cfg = s.tunnelParams cfg))) &&
    ((encapParams w.vpp s.sessionKey).all fun params =>
      decide (s.encapParams cfg = some params)) &&
    ((l2tvppTunnelFind w.vpp.lm s.peerIp.decode s.peerPort s.localTid).all
      fun found => decide (s.tunnelParams cfg = some (tunnelParams found.2)))

/-! ## Parameters that stay -/

def HasParams (v : Vpp) (key : SessionKey) (params : EncapParams) : Prop :=
  ∃ index sess t, v.lm.sessions.elt? index = some sess ∧ ids sess = key ∧
    v.lm.tunnels.elt? sess.tunnelIndex = some t ∧
    params = ⟨sess.peerSid, tunnelParams t⟩

theorem encapParams_eq_some {v : Vpp} (hstore : StoreInv v) {key : SessionKey}
    {params : EncapParams} :
    encapParams v key = some params ↔ HasParams v key params := by
  constructor
  · intro h
    obtain ⟨index, hindex, h⟩ := Option.bind_eq_some_iff.mp h
    obtain ⟨sess, hsess, h⟩ := Option.bind_eq_some_iff.mp h
    obtain ⟨t, ht, h⟩ := Option.bind_eq_some_iff.mp h
    cases h
    obtain ⟨sess', hsess', hkey⟩ := hstore.byKey.some_iff.mp hindex
    rw [hsess] at hsess'
    cases hsess'
    obtain ⟨htid, hsid⟩ := l2tvppSessionKey_inj.mp hkey
    exact ⟨index, sess, t, hsess, Prod.ext htid hsid, ht, rfl⟩
  · rintro ⟨index, sess, t, hsess, rfl, ht, rfl⟩
    have hfind := hstore.byKey.find hsess
    rw [L2tvppSession.key] at hfind
    simp only [encapParams, ids, hfind, hsess, ht, Option.bind_eq_bind,
      Option.bind_some]
    rfl

theorem HasParams.unique {v : Vpp} (hstore : StoreInv v) {key : SessionKey}
    {params params' : EncapParams} (h : HasParams v key params)
    (h' : HasParams v key params') : params = params' := by
  rw [← encapParams_eq_some hstore] at h h'
  exact Option.some.inj (h.symm.trans h')

theorem HasParams.kept {v v' : Vpp} {key : SessionKey} {params : EncapParams}
    (h : HasParams v key params)
    (hsessions : ∀ index sess, v.lm.sessions.elt? index = some sess →
      ids sess = key →
      ∃ csum, v'.lm.sessions.elt? index =
        some { sess with encapIpCsum0 := csum })
    (htunnels : ∀ i sess t, v.lm.sessions.elt? i = some sess →
      v.lm.tunnels.elt? sess.tunnelIndex = some t →
      ∃ n, v'.lm.tunnels.elt? sess.tunnelIndex =
        some { t with nSessions := n }) : HasParams v' key params := by
  obtain ⟨index, sess, t, hsess, hids, ht, rfl⟩ := h
  obtain ⟨csum, hsess'⟩ := hsessions index sess hsess hids
  obtain ⟨n, ht'⟩ := htunnels index sess t hsess ht
  exact ⟨index, _, _, hsess', hids, ht', rfl⟩

section Operations

variable {v v' : Vpp} {key : SessionKey} {params : EncapParams}

theorem HasParams.routes {isAdd : Bool} {pfxs : List IpPrefix}
    {swIfIndex : Nat} (hroutes : RoutesChanged isAdd pfxs swIfIndex v v')
    (h : HasParams v key params) : HasParams v' key params :=
  h.kept (fun _ _ hsess _ => hroutes.sameStore.symm.session hsess)
    fun _ _ t _ ht => hroutes.tunnelsKept _ t ht

theorem HasParams.tunnelEnsured {s : KSession} {cache cache' : TunnelsCache}
    {tunnelIndex : Option Nat}
    (htunnel : TunnelEnsured cfg s cache v tunnelIndex cache' v')
    (h : HasParams v key params) : HasParams v' key params := by
  refine h.kept ?_ fun _ _ t _ ht => htunnel.tunnelsKept _ t ht
  intro index sess hsess _
  cases htunnel with
  | cached hcache => exact ⟨sess.encapIpCsum0, hsess⟩
  | added hcache hlocal hfind => exact ⟨sess.encapIpCsum0, hsess⟩

theorem HasParams.sessionAdd {P : Policies} {tunnelIndex : Nat}
    {t : L2tvppTunnel} {localSid peerSid : U16} {acfc pfc : U8}
    (h : HasParams v key params) :
    HasParams (v.sessionAdd P tunnelIndex t localSid peerSid acfc pfc) key
      params := by
  refine h.kept ?_ fun _ _ t' _ ht' => tunnelsKept_sessionAdd _ t' ht'
  intro index sess hsess _
  exact ⟨sess.encapIpCsum0, Pool.elt?_get_of_live _ v.lm.sessions _ hsess⟩

theorem HasParams.sessionDel {index : Nat} {sess : L2tvppSession}
    (hsess : v.lm.sessions.elt? index = some sess) (hne : ids sess ≠ key)
    (h : HasParams v key params) :
    HasParams (v.sessionDel sess.tunnelIndex sess.key index sess) key
      params := by
  refine h.kept ?_ ?_
  · intro index' sess' hsess' hids
    refine ⟨sess'.encapIpCsum0, ?_⟩
    rw [sessionDel_sessions, if_neg, hsess']
    rintro rfl
    rw [hsess] at hsess'
    cases hsess'
    exact hne hids
  · intro _ _ t _ ht
    rw [sessionDel_tunnels, ht]
    split
    · exact ⟨_, rfl⟩
    · exact ⟨_, rfl⟩

theorem HasParams.pruned {records : Records} (hpruned : Pruned v v')
    (hmirror : Mirror v records) (h : HasParams v key params) :
    HasParams v' key params := by
  induction hpruned with
  | refl => exact h
  | tunnelDel hpruned ht hzero ih =>
      refine ih.kept (fun _ sess hsess _ => ⟨sess.encapIpCsum0, hsess⟩) ?_
      intro i sess t' hsess ht'
      have hne := (hpruned.mirror hmirror).counts.no_session ht hzero hsess
      refine ⟨t'.nSessions, ?_⟩
      simp only [Vpp.tunnelDel, Pool.elt?_put]
      rw [if_neg hne, ht']

end Operations

/-! ## One entry of the list -/

section Entry

variable {pass : Pass} {entry : SessionKey × KSession}
  {cache cache' : TunnelsCache} {s : KSession} {routes : List IpPrefix}

theorem EntryReconciled.tunnelsKept
    (h : EntryReconciled cfg pass entry cache cache' w w')
    (hmirror : Mirror w.vpp w.installed.get?) :
    TunnelsKept w.vpp w'.vpp := by
  cases h with
  | added hnew hadded =>
      obtain ⟨htunnel, ht, hfree, hsw, hroutes, hinstalled⟩ := hadded
      exact htunnel.tunnelsKept.trans
        (tunnelsKept_sessionAdd.trans hroutes.tunnelsKept)
  | synced hsync hcache hsynced => exact (hsynced.mirror hmirror).2.1
  | kept hsync hrec hcache hw =>
      rw [hw]
      exact fun _ t ht => ⟨t.nSessions, ht⟩

theorem EntryReconciled.hasParams
    (h : EntryReconciled cfg pass entry cache cache' w w')
    (hmirror : Mirror w.vpp w.installed.get?) {key : SessionKey}
    {params : EncapParams} (hparams : HasParams w.vpp key params) :
    HasParams w'.vpp key params := by
  cases h with
  | added hnew hadded =>
      obtain ⟨htunnel, ht, hfree, hsw, hroutes, hinstalled⟩ := hadded
      exact ((hparams.tunnelEnsured htunnel).sessionAdd).routes hroutes
  | synced hsync hcache hsynced =>
      obtain ⟨hrec, hvpp, hroutes, hinstalled⟩ := hsynced
      obtain ⟨index, sess, hsess, hids, hdescribes⟩ := hmirror.live hrec
      obtain ⟨v, hadded, hdeleted⟩ := hvpp _ hdescribes.swIfIndex
      exact (hparams.routes hadded).routes hdeleted
  | kept hsync hrec hcache hw =>
      rw [hw]
      exact hparams

theorem EntryReconciled.tunnel
    (h : EntryReconciled cfg pass entry cache cache' w w')
    (hmirror : Mirror w.vpp w.installed.get?) {index : Nat} {t : L2tvppTunnel}
    (ht : w'.vpp.lm.tunnels.elt? index = some t) :
    (∃ n, w.vpp.lm.tunnels.elt? index = some { t with nSessions := n }) ∨
    (entry.2.tunnelParams cfg = some (tunnelParams t) ∧
      t.localTid = entry.2.localTid) := by
  cases h with
  | added hnew hadded =>
      obtain ⟨htunnel, ht', hfree, hsw, hroutes, hinstalled⟩ := hadded
      rename_i index' swIfIndex t' v
      rw [hroutes.sameStore.tunnels] at ht
      obtain ⟨n, hbefore⟩ := StoreInv.tunnels_modify ht fun _ => ⟨_, rfl⟩
      cases htunnel with
      | cached hcache => exact .inl ⟨n, hbefore⟩
      | added hcache hlocal hfind =>
          simp only [Vpp.tunnelAdd, Pool.elt?_get] at hbefore
          split at hbefore
          · simp only [Option.some.injEq, L2tvppTunnel.mk.injEq] at hbefore
            obtain ⟨hip, hpeer, hport, hpeerPort, htid, hpeerTid, -⟩ := hbefore
            refine .inr ⟨?_, htid.symm⟩
            simp only [KSession.tunnelParams, hlocal, Option.map_some,
              tunnelParams, ← hip, ← hpeer, ← hport, ← hpeerPort, ← hpeerTid]
          · exact .inl ⟨n, hbefore⟩
  | synced hsync hcache hsynced =>
      obtain ⟨hrec, hvpp, hroutes, hinstalled⟩ := hsynced
      obtain ⟨i, sess, hsess, hids, hdescribes⟩ := hmirror.live hrec
      obtain ⟨v, hadded, hdeleted⟩ := hvpp _ hdescribes.swIfIndex
      rw [hdeleted.sameStore.tunnels, hadded.sameStore.tunnels] at ht
      exact .inl ⟨t.nSessions, ht⟩
  | kept hsync hrec hcache hw =>
      rw [hw] at ht
      exact .inl ⟨t.nSessions, ht⟩

theorem SessionAdded.hasParams
    (h : SessionAdded cfg s routes cache cache' w w')
    (hsound : CacheSound w.vpp cache) :
    ∃ index t, w'.vpp.lm.tunnels.elt? index = some t ∧ MatchesTunnel s t ∧
      HasParams w'.vpp s.sessionKey ⟨s.peerSid, tunnelParams t⟩ := by
  obtain ⟨htunnel, ht, hfree, hsw, hroutes, hinstalled⟩ := h
  rename_i index swIfIndex t v
  obtain ⟨hsound', hcached⟩ := htunnel.cacheSound hsound
  obtain ⟨index', t', heq, ht', hpeer, hport, htid⟩ := hsound' _ _ hcached
  cases heq
  rw [ht] at ht'
  cases ht'
  have hkept : TunnelsKept v (v.sessionAdd cfg.policies index t s.localSid
    s.peerSid 0 0) := tunnelsKept_sessionAdd
  obtain ⟨n, hlive⟩ := hkept index t ht
  obtain ⟨n', hlive'⟩ := hroutes.tunnelsKept index _ hlive
  refine ⟨index, _, hlive', ⟨hpeer, hport, htid⟩, ?_⟩
  have hparams : HasParams (v.sessionAdd cfg.policies index t s.localSid
      s.peerSid 0 0) s.sessionKey ⟨s.peerSid, tunnelParams t⟩ :=
    ⟨_, _, _, Pool.elt?_get_nextIndex _ v.lm.sessions _, Prod.ext htid rfl,
      hlive, rfl⟩
  exact hparams.routes hroutes

end Entry

theorem SessionDeleted.hasParams {key key' : SessionKey}
    (h : SessionDeleted key' w w') (hmirror : Mirror w.vpp w.installed.get?)
    (hne : key' ≠ key) {params : EncapParams}
    (hparams : HasParams w.vpp key params) : HasParams w'.vpp key params := by
  obtain ⟨rec, swIfIndex, v, index, sess, hrec, hroutes, -, hsess, rfl, hvpp⟩ :=
    h.own hmirror
  rw [hvpp]
  exact (hparams.routes hroutes).sessionDel hsess hne

/-! ## The condition, in parts -/

structure Agrees (cfg : Config) (w : World) (ksessions : List KSession)
    (s : KSession) : Prop where
  endpoint : (s.tunnelParams cfg).isSome = true
  session : ∀ s' ∈ ksessions, s'.hasIfname = true →
    s'.sessionKey = s.sessionKey → s'.encapParams cfg = s.encapParams cfg
  tunnel : ∀ s' ∈ ksessions, s'.hasIfname = true → sameTunnel s s' = true →
    s'.tunnelParams cfg = s.tunnelParams cfg
  installed : ∀ params, encapParams w.vpp s.sessionKey = some params →
    s.encapParams cfg = some params
  existing : ∀ found, l2tvppTunnelFind w.vpp.lm s.peerIp.decode s.peerPort
    s.localTid = some found →
    s.tunnelParams cfg = some (tunnelParams found.2)

theorem upToDate_iff {pass : Pass} :
    upToDate cfg w pass = true ↔ ∀ s ∈ pass.ksessions, s.hasIfname = true →
      Agrees cfg w pass.ksessions s := by
  simp only [upToDate, List.all_eq_true, List.mem_filter, Bool.and_eq_true,
    Bool.or_eq_true, decide_eq_true_eq, Option.all_eq_true, Bool.not_eq_true',
    and_imp]
  constructor
  · intro h s hmem hifname
    obtain ⟨⟨⟨hendpoint, hlist⟩, hinstalled⟩, hexisting⟩ := h s hmem hifname
    refine ⟨hendpoint, ?_, ?_, hinstalled, hexisting⟩
    · intro s' hmem' hifname' hkey
      exact (hlist s' hmem' hifname').1.resolve_left (not_not.mpr hkey)
    · intro s' hmem' hifname' hsame
      refine (hlist s' hmem' hifname').2.resolve_left ?_
      rw [hsame]
      simp
  · intro h s hmem hifname
    have hagrees := h s hmem hifname
    refine ⟨⟨⟨hagrees.endpoint, ?_⟩, hagrees.installed⟩, hagrees.existing⟩
    intro s' hmem' hifname'
    constructor
    · by_cases hkey : s'.sessionKey = s.sessionKey
      · exact .inr (hagrees.session s' hmem' hifname' hkey)
      · exact .inl hkey
    · cases hsame : sameTunnel s s' with
      | false => exact .inl rfl
      | true => exact .inr (hagrees.tunnel s' hmem' hifname' hsame)

theorem matchesTunnel_of_params {s : KSession} {t : L2tvppTunnel}
    (hparams : s.tunnelParams cfg = some (tunnelParams t))
    (htid : t.localTid = s.localTid) : MatchesTunnel s t := by
  obtain ⟨localIp, -, heq⟩ := Option.map_eq_some_iff.mp hparams
  exact ⟨congrArg TunnelParams.peerIp heq.symm,
    congrArg TunnelParams.peerPort heq.symm, htid⟩

/-! ## The pass -/

structure KeepsParams (w m : World) : Prop where
  tunnels : TunnelsKept w.vpp m.vpp
  sessions : ∀ {key : SessionKey} {params : EncapParams},
    HasParams w.vpp key params → HasParams m.vpp key params

/-- The tunnels and the new sessions have the kernel's parameters. -/
structure Refreshing (cfg : Config) (pass : Pass) (w : World)
    (done : List (SessionKey × KSession)) (m : World) : Prop where
  tunnels : ∀ s ∈ pass.ksessions, s.hasIfname = true → ∀ index t,
    m.vpp.lm.tunnels.elt? index = some t → MatchesTunnel s t →
    s.tunnelParams cfg = some (tunnelParams t)
  sessions : ∀ entry ∈ done, w.installed.get? entry.1 = none →
    ∃ params, entry.2.encapParams cfg = some params ∧
      HasParams m.vpp entry.1 params

theorem Refreshing.start {pass : Pass} (hstore : StoreInv w.vpp)
    (hdate : upToDate cfg w pass = true) {m : World} (hvpp : m.vpp = w.vpp) :
    Refreshing cfg pass w [] m where
  tunnels := by
    intro s hmem hifname index t ht hmatch
    rw [hvpp] at ht
    have hagrees := upToDate_iff.mp hdate s hmem hifname
    cases hfind : l2tvppTunnelFind w.vpp.lm s.peerIp.decode s.peerPort
        s.localTid with
    | none =>
        exact absurd ⟨hmatch.2.2, hmatch.2.1, hmatch.1⟩
          (l2tvppTunnelFind_none hfind ht)
    | some found =>
        obtain ⟨hlive, htid, hport, hpeer⟩ := l2tvppTunnelFind_some hfind
        have hindex := MatchesTunnel.index_eq hstore hlive ht
          ⟨hpeer, hport, htid⟩ hmatch
        rw [hindex, ht] at hlive
        rw [hagrees.existing found hfind, ← Option.some.inj hlive]
  sessions := by simp

theorem Refreshing.step {pass : Pass} {done : List (SessionKey × KSession)}
    {entry : SessionKey × KSession} {cache cache' : TunnelsCache}
    {m m' : World} (hdate : upToDate cfg w pass = true)
    (hkey : entry.1 = entry.2.sessionKey) (hnew : entry.1 ∉ done.map Prod.fst)
    (hmem : entry.2 ∈ pass.ksessions) (hifname : entry.2.hasIfname = true)
    (hadding : Adding pass w done cache m)
    (hentry : EntryReconciled cfg pass entry cache cache' m m')
    (h : Refreshing cfg pass w done m) :
    Refreshing cfg pass w (done ++ [entry]) m' := by
  have htunnels : ∀ s ∈ pass.ksessions, s.hasIfname = true → ∀ index t,
      m'.vpp.lm.tunnels.elt? index = some t → MatchesTunnel s t →
      s.tunnelParams cfg = some (tunnelParams t) := by
    intro s hmem' hifname' index t ht hmatch
    rcases hentry.tunnel hadding.mirror ht with ⟨n, ht'⟩ | ⟨hparams, htid⟩
    · have hold := h.tunnels s hmem' hifname' index _ ht'
      exact hold hmatch
    · have hagrees := upToDate_iff.mp hdate entry.2 hmem hifname
      have hsame := (sameTunnel_iff (matchesTunnel_of_params hparams htid)).mpr
        hmatch
      rw [hagrees.tunnel s hmem' hifname' hsame, hparams]
  refine ⟨htunnels, ?_⟩
  intro other hother hnone
  rcases List.mem_append.mp hother with hother | hother
  · obtain ⟨params, hparams, hhas⟩ := h.sessions other hother hnone
    exact ⟨params, hparams, hentry.hasParams hadding.mirror hhas⟩
  · rw [List.mem_singleton.mp hother] at hnone ⊢
    have hold := hadding.untouched _ hnew
    cases hentry with
    | added _ hadded =>
        obtain ⟨index, t, ht, hmatch, hhas⟩ :=
          hadded.hasParams hadding.cacheSound
        refine ⟨_, ?_, hkey ▸ hhas⟩
        rw [KSession.encapParams, htunnels _ hmem hifname index t ht hmatch]
        rfl
    | synced hsync hcache hsynced =>
        obtain ⟨hrec, -, -, -⟩ := hsynced
        rw [← hkey, hold, hnone] at hrec
        contradiction
    | kept hsync hrec hcache hw =>
        rw [hold, hnone] at hrec
        contradiction

theorem Mirror.hasParams {v : Vpp} {records : Records}
    (h : Mirror v records) {key : SessionKey} {rec : InstalledRec}
    (hrec : records key = some rec) : ∃ params, HasParams v key params := by
  obtain ⟨index, sess, hsess, hids, -⟩ := h.live hrec
  obtain ⟨t, ht, -⟩ := h.counts.tunnel hsess
  exact ⟨_, index, sess, t, hsess, hids, ht, rfl⟩

theorem HasParams.tunnel {v : Vpp} {records : Records} (h : Mirror v records)
    {s : KSession} {params : EncapParams}
    (hparams : HasParams v s.sessionKey params)
    (hs : s.encapParams cfg = some params) :
    ∃ index t, v.lm.tunnels.elt? index = some t ∧ MatchesTunnel s t ∧
      s.tunnelParams cfg = some (tunnelParams t) := by
  obtain ⟨index, sess, t, hsess, hids, ht, rfl⟩ := hparams
  obtain ⟨tunnel, htunnel, heq⟩ := Option.map_eq_some_iff.mp hs
  rw [show tunnel = tunnelParams t from congrArg EncapParams.tunnel heq]
    at htunnel
  obtain ⟨t', ht', htid⟩ := h.counts.tunnel hsess
  rw [ht] at ht'
  cases ht'
  exact ⟨_, t, ht, matchesTunnel_of_params htunnel
    (htid.trans (congrArg Prod.fst hids)), htunnel⟩

/-- The parameters after the first loop are those at the end of the pass. -/
theorem passOk_params {pass : Pass} (hsync : InSync w)
    (h : passOk cfg w pass = some w') :
    ∃ w₁, Mirror w₁.vpp w₁.installed.get? ∧ KeepsParams w w₁ ∧
      (upToDate cfg w pass = true →
        Refreshing cfg pass w (wantSessions pass.ksessions).items w₁) ∧
      ∀ key s, (wantSessions pass.ksessions).get? key = some s →
        ∃ params, HasParams w₁.vpp key params ∧
          HasParams w'.vpp key params := by
  obtain ⟨cache, acc, w₁, removed, w₂, w₃, hsound, hadding, hok₁, hremoving,
    hok₂, hprune, hvpp, hinstalled⟩ := passOk_ok h
  obtain ⟨hadded, hkeeps, hrefreshing⟩ := adding_run
    (fun done m => KeepsParams w m ∧
      (upToDate cfg w pass = true → Refreshing cfg pass w done m))
    (fun done entry rest heq hkey hnew _ _ _ _ hadd hinv hentry _ => by
      have hget := (wantSessions pass.ksessions).mem_items.mp
        (heq ▸ List.mem_append_right done List.mem_cons_self)
      obtain ⟨hmem, hifname, -⟩ := wantSessions_some hget
      refine ⟨⟨hinv.1.tunnels.trans (hentry.tunnelsKept hadd.mirror),
        fun hhas => hentry.hasParams hadd.mirror (hinv.1.sessions hhas)⟩, ?_⟩
      intro hdate
      exact (hinv.2 hdate).step hdate hkey hnew hmem hifname hadd hentry)
    hsync.mirror hsound
    ⟨⟨fun _ t ht => ⟨t.nSessions, ht⟩, id⟩,
      fun hdate => Refreshing.start hsync.mirror.store hdate rfl⟩ hadding hok₁
  refine ⟨w₁, hadded.mirror, hkeeps, hrefreshing, ?_⟩
  intro key s hs
  obtain ⟨rec, hrec, -⟩ := hadded.done _
    ((wantSessions pass.ksessions).mem_items.mpr hs)
  obtain ⟨params, hparams⟩ := hadded.mirror.hasParams hrec
  refine ⟨params, hparams, ?_⟩
  obtain ⟨hremoved, hkept⟩ := removing_run
    (fun _ m => HasParams m.vpp key params)
    (fun _ other _ _ _ _ _ hremoving' hinv hnone hdeleted =>
      hdeleted.hasParams hremoving'.mirror (by
        rintro rfl
        rw [hs] at hnone
        contradiction) hinv)
    (fun _ _ _ hinv => hinv) hadded.mirror hparams hremoving hok₂
  rw [hvpp]
  rcases hprune with ⟨-, rfl⟩ | ⟨-, hrun, hok₃⟩
  · exact hkept
  · obtain ⟨-, hpruned, -⟩ := pruneTunnels_ok hrun hok₃
    exact hkept.pruned hpruned hremoved.mirror

/-- Parameters that are current after the pass agreed with the list and with
the plugin before it: nothing in the pass makes up for a difference. -/
theorem agrees_of_current {pass : Pass} (hsync : InSync w)
    (hpass : passOk cfg w pass = some w')
    (hcurrent : ∀ s ∈ pass.ksessions, s.hasIfname = true →
      ∃ params, s.encapParams cfg = some params ∧
        encapParams w'.vpp s.sessionKey = some params)
    {s : KSession} (hmem : s ∈ pass.ksessions) (hifname : s.hasIfname = true) :
    Agrees cfg w pass.ksessions s := by
  have hmirror' := (hsync.pass hpass).mirror
  obtain ⟨w₁, hmirror₁, hkeeps, -, hfinal⟩ := passOk_params hsync hpass
  obtain ⟨params, hs, hplugin⟩ := hcurrent s hmem hifname
  have hparams' := (encapParams_eq_some hmirror'.store).mp hplugin
  -- the session had its parameters when the first loop was over
  have hparams₁ : HasParams w₁.vpp s.sessionKey params := by
    obtain ⟨s', hs'⟩ := wantSessions_mem hmem hifname
    obtain ⟨q, hq, hq'⟩ := hfinal _ s' hs'
    rw [HasParams.unique hmirror'.store hparams' hq']
    exact hq
  constructor
  · obtain ⟨tunnel, htunnel, -⟩ := Option.map_eq_some_iff.mp hs
    rw [htunnel]
    rfl
  · intro s' hmem' hifname' hkey
    obtain ⟨q, hq, hplugin'⟩ := hcurrent s' hmem' hifname'
    rw [hkey, hplugin] at hplugin'
    rw [hs, hq, hplugin']
  · intro s' hmem' hifname' hsame
    obtain ⟨q, hq, hplugin'⟩ := hcurrent s' hmem' hifname'
    obtain ⟨i, t, ht, hmatch, htunnel⟩ := hparams'.tunnel hmirror' hs
    obtain ⟨j, t', ht', hmatch', htunnel'⟩ :=
      ((encapParams_eq_some hmirror'.store).mp hplugin').tunnel hmirror' hq
    have hindex := MatchesTunnel.index_eq hmirror'.store ht ht'
      ((sameTunnel_iff hmatch).mp hsame) hmatch'
    rw [hindex, ht'] at ht
    rw [htunnel, htunnel', Option.some.inj ht]
  · intro old hold
    rw [encapParams_eq_some hsync.mirror.store] at hold
    rw [hs, HasParams.unique hmirror₁.store (hkeeps.sessions hold) hparams₁]
  · intro found hfind
    obtain ⟨hlive, htid, hport, hpeer⟩ := l2tvppTunnelFind_some hfind
    obtain ⟨n, hlive₁⟩ := hkeeps.tunnels _ _ hlive
    obtain ⟨j, t, ht, hmatch, htunnel⟩ := hparams₁.tunnel hmirror₁ hs
    have hindex := MatchesTunnel.index_eq hmirror₁.store hlive₁ ht
      ⟨hpeer, hport, htid⟩ hmatch
    rw [hindex, ht] at hlive₁
    rw [htunnel, Option.some.inj hlive₁]
    rfl

theorem current_of_upToDate {pass : Pass} (hsync : InSync w)
    (hpass : passOk cfg w pass = some w') (hdate : upToDate cfg w pass = true)
    {s : KSession} (hmem : s ∈ pass.ksessions) (hifname : s.hasIfname = true) :
    ∃ params, s.encapParams cfg = some params ∧
      encapParams w'.vpp s.sessionKey = some params := by
  have hmirror' := (hsync.pass hpass).mirror
  obtain ⟨w₁, hmirror₁, hkeeps, hrefreshing, hfinal⟩ :=
    passOk_params hsync hpass
  obtain ⟨s', hs'⟩ := wantSessions_mem hmem hifname
  obtain ⟨hmem', hifname', hkey⟩ := wantSessions_some hs'
  have hagrees := upToDate_iff.mp hdate s' hmem' hifname'
  obtain ⟨params, hparams, hparams'⟩ := hfinal _ s' hs'
  refine ⟨params, ?_, (encapParams_eq_some hmirror'.store).mpr hparams'⟩
  rw [hagrees.session s hmem hifname hkey.symm]
  cases hrec : w.installed.get? s.sessionKey with
  | some rec =>
      obtain ⟨old, hold⟩ := hsync.mirror.hasParams hrec
      rw [HasParams.unique hmirror₁.store hparams (hkeeps.sessions hold)]
      rw [← hkey] at hold
      exact hagrees.installed old
        ((encapParams_eq_some hsync.mirror.store).mpr hold)
  | none =>
      obtain ⟨new, hnew, hhas⟩ := (hrefreshing hdate).sessions _
        ((wantSessions pass.ksessions).mem_items.mpr hs') hrec
      rw [HasParams.unique hmirror₁.store hparams hhas]
      exact hnew

/-! ## Runs -/

/-- After the last pass of every run in which all calls succeed, the plugin has
the kernel's parameters for every session of the list exactly if the list
agreed with itself and with what the plugin had before that pass. -/
theorem encapParams_current_iff (cfg : Config)
    (hwInterfaces : Pool HwInterface) (swInterfaces : Pool SwInterface)
    (passes : List Pass) (pass : Pass) (w w' : World)
    (hrun : runAll (passOk cfg) (World.initial hwInterfaces swInterfaces)
      passes = some w)
    (hpass : passOk cfg w pass = some w') :
    (∀ s ∈ pass.ksessions, s.hasIfname = true →
      ∃ params, s.encapParams cfg = some params ∧
        encapParams w'.vpp s.sessionKey = some params) ↔
    upToDate cfg w pass = true := by
  have hsync := InSync.run hwInterfaces swInterfaces hrun
  constructor
  · intro hcurrent
    rw [upToDate_iff]
    intro s hmem hifname
    exact agrees_of_current hsync hpass hcurrent hmem hifname
  · intro hdate s hmem hifname
    exact current_of_upToDate hsync hpass hdate hmem hifname

/-- A session, and the same list again with a second session on its tunnel. -/
def oneSession : Pass :=
  testPass [ksession 0x0a000002 100 1000 200 2000 "ppp0" []]

def secondOnTunnel : Pass :=
  testPass [ksession 0x0a000002 100 1000 200 2000 "ppp0" [],
    ksession 0x0a000002 100 1001 200 2001 "ppp1" []]

theorem encapParams_current_iff_secondOnTunnel :
    ∃ w w', runAll (passOk testConfig) (World.initial Pool.empty Pool.empty)
        [oneSession] = some w ∧ passOk testConfig w secondOnTunnel = some w' ∧
      ∀ s ∈ secondOnTunnel.ksessions, s.hasIfname = true →
        ∃ params, s.encapParams testConfig = some params ∧
          encapParams w'.vpp s.sessionKey = some params := by
  have hrun : ((runAll (passOk testConfig)
      (World.initial Pool.empty Pool.empty) [oneSession]).any fun w =>
        upToDate testConfig w secondOnTunnel &&
          (passOk testConfig w secondOnTunnel).isSome) = true := by
    decide +kernel
  obtain ⟨w, hw, hpass⟩ := (Option.any_eq_true _ _).mp hrun
  rw [Bool.and_eq_true] at hpass
  obtain ⟨w', hw'⟩ := Option.isSome_iff_exists.mp hpass.2
  exact ⟨w, w', hw, hw', (encapParams_current_iff testConfig Pool.empty
    Pool.empty _ secondOnTunnel w w' hw hw').mpr hpass.1⟩

def reestablished : Pass :=
  testPass [ksession 0x0a000002 100 1000 200 2500 "ppp0" []]

theorem encapParams_stale_reestablished :
    ∃ w, runAll (passOk testConfig) (World.initial Pool.empty Pool.empty)
        [oneSession, reestablished] = some w ∧
      (encapParams w.vpp (100, 1000)).map EncapParams.peerSid = some 2000 ∧
      ¬ (∀ s ∈ reestablished.ksessions, s.hasIfname = true →
        ∃ params, s.encapParams testConfig = some params ∧
          encapParams w.vpp s.sessionKey = some params) := by
  have hrun : ((runAll (passOk testConfig)
      (World.initial Pool.empty Pool.empty)
      [oneSession, reestablished]).any fun w =>
        decide ((encapParams w.vpp (100, 1000)).map EncapParams.peerSid =
          some 2000)) = true := by
    decide +kernel
  obtain ⟨w, hw, hstale⟩ := (Option.any_eq_true _ _).mp hrun
  rw [decide_eq_true_eq] at hstale
  refine ⟨w, hw, hstale, ?_⟩
  intro hcurrent
  obtain ⟨params, hs, hplugin⟩ := hcurrent _ List.mem_cons_self rfl
  have hold := congrArg (Option.map EncapParams.peerSid) (hs.trans hplugin.symm)
  have hkey : (ksession 0x0a000002 100 1000 200 2500 "ppp0" []).sessionKey =
      (100, 1000) := rfl
  rw [hkey, hstale] at hold
  contradiction

end L2tvpp.Syncd
