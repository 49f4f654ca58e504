import L2tvpp.Node.Encapsulation
import L2tvpp.Syncd.Parameters
import L2tvpp.Syncd.SubscriberCache
import L2tvpp.Syncd.Subscribers

/-!
# The subscribers' packets

The other direction: what the daemon's passes make of the packets for the
subscribers.  The daemon withdraws the routes of a session before it deletes
it, and names the session's own tunnel, so the encap cache is never stale
between any two of its calls.
-/

namespace L2tvpp.Syncd

open L2tvpp.Lib L2tvpp.Plugin L2tvpp.Node

variable {cfg : Config} {pass : Pass} {w w' : World}

/-! ## The calls of a pass -/

/-- The call came while the cache was fresh, and a session delete names the
session's own tunnel. -/
structure Proper (event : ApiEvent) : Prop where
  fresh : CacheFresh event.before
  names : ∀ call ∈ event.call.toCall?, namesOwnTunnel event.before call = true

structure Orderly (w : World) : Prop where
  fresh : CacheFresh w.vpp
  calls : ∀ event ∈ w.calls, Proper event

/-- A call other than a session delete meets the guards. -/
theorem guards_of_not_sessionDel {v : Vpp} {call : ApiCall}
    (h : call.isSessionDel = false) :
    ∀ c ∈ call.toCall?, namesOwnTunnel v c = true ∧
      withdrawnBeforeDelete v c = true := by
  intro c hc
  cases call with
  | tunnelAddDel isAdd localIp peerIp localPort peerPort localTid peerTid =>
      cases hc
      exact ⟨rfl, rfl⟩
  | sessionAddDel isAdd tunnelIndex localSid peerSid acfc pfc =>
      cases isAdd with
      | false => contradiction
      | true =>
          cases tunnelIndex with
          | none => cases hc
          | some tunnelIndex =>
              cases hc
              exact ⟨rfl, rfl⟩
  | routeAddDel isAdd pfx swIfIndex =>
      cases swIfIndex with
      | none => cases hc
      | some swIfIndex =>
          cases hc
          exact ⟨rfl, rfl⟩
  | tunnelDump => cases hc
  | sessionDump => cases hc

theorem Orderly.logged (h : Orderly w) {call : ApiCall}
    (hcall : call.isSessionDel = false) : Orderly (w.logged cfg call) := by
  have hguards := guards_of_not_sessionDel (v := w.vpp) hcall
  constructor
  · change CacheFresh (handle cfg.policies w.vpp call).2
    rw [handle_eq_run]
    cases hc : call.toCall? with
    | none => exact h.fresh
    | some c => exact cacheFresh_step cfg.policies h.fresh (hguards c hc).2
  · intro event hevent
    rcases List.mem_append.mp hevent with hold | hnew
    · exact h.calls event hold
    · rw [List.mem_singleton.mp hnew]
      exact ⟨h.fresh, fun c hc => (hguards c hc).1⟩

theorem callsKeep_orderly :
    CallsKeep cfg fun w => w.allOk = true → Orderly w where
  call := by
    intro w call hcall h hok
    rw [allOk_logged] at hok
    exact (h hok.1).logged hcall
  record := by
    intro w installed h hok
    obtain ⟨hfresh, hcalls⟩ := h hok
    exact ⟨hfresh, hcalls⟩

/-- The delete that a record asks for deletes the session it describes. -/
theorem sessionDel_described {v : Vpp} (hstore : StoreInv v)
    (hcounts : CountExact v) {rec : InstalledRec} {index : Nat}
    {sess : L2tvppSession} (hdescribes : Describes rec sess)
    (hsess : v.lm.sessions.elt? index = some sess)
    (hok : (handle cfg.policies v (.sessionAddDel false rec.tunnelIndex
      rec.localSid rec.peerSid false false)).1.ok = true) :
    (∃ key, (handle cfg.policies v (.sessionAddDel false rec.tunnelIndex
      rec.localSid rec.peerSid false false)).2 =
        v.sessionDel sess.tunnelIndex key index sess) ∧
    ∀ call ∈ (ApiCall.sessionAddDel false rec.tunnelIndex rec.localSid
      rec.peerSid false false).toCall?, namesOwnTunnel v call = true := by
  obtain ⟨t, ht, htid⟩ := hcounts.tunnel hsess
  have hkey := hstore.byKey.find hsess
  rw [L2tvppSession.key, ← htid] at hkey
  rw [hdescribes.tunnelIndex, hdescribes.localSid] at hok ⊢
  constructor
  · obtain ⟨tunnel, t', index', sess', htunnel, ht', hkey', hsess', hhandle⟩ :=
      sessionDel_accepted hok
    cases htunnel
    rw [ht] at ht'
    cases ht'
    rw [hkey] at hkey'
    cases hkey'
    rw [hsess] at hsess'
    cases hsess'
    exact ⟨_, hhandle⟩
  · intro call hcall
    cases hcall
    simp only [namesOwnTunnel, ht, hkey, hsess, beq_self_eq_true]

/-- The routes of the session have been withdrawn, and the record knows its
tunnel. -/
theorem Orderly.delSession (h : w.allOk = true → Orderly w)
    (hmirror : Mirror w.vpp w.installed.get?) {key : SessionKey}
    (hrun : exec (delSession cfg key) w = (.ok (), w')) :
    w'.allOk = true → Orderly w' := by
  intro hok
  obtain ⟨rec, routed, hrec, hforM, rfl⟩ := delSession_run hrun
  have hlogged : (routed.logged cfg (.sessionAddDel false rec.tunnelIndex
    rec.localSid rec.peerSid false false)).allOk = true := hok
  rw [allOk_logged] at hlogged
  obtain ⟨hfresh, hcalls⟩ :=
    callsKeep_orderly.routes rec.routes rec.swIfIndex false w _ routed hforM h
      hlogged.1
  obtain ⟨index, sess, hsess, rfl, hdescribes⟩ := hmirror.live hrec
  have hchanged := (forM_route_ok hforM hlogged.1).2 _ hdescribes.swIfIndex
  have hnone : ∀ pfx, pfx ∈ ([] : List IpPrefix) ↔
      pfx ∈ rec.routes ∧ pfx ∉ rec.routes := by
    simp
  have hmiddle := hmirror.routes hchanged hrec hdescribes.swIfIndex hnone
  obtain ⟨csum, hlive⟩ := hchanged.sameStore.symm.session hsess
  have hlikewise : Describes rec { sess with encapIpCsum0 := csum } :=
    ⟨hdescribes.swIfIndex, hdescribes.tunnelIndex, hdescribes.localSid⟩
  obtain ⟨⟨key', hhandle⟩, hnames⟩ := sessionDel_described hmiddle.store
    hmiddle.counts hlikewise hlive hlogged.2
  constructor
  · change CacheFresh (handle cfg.policies routed.vpp _).2
    rw [hhandle]
    apply hfresh.sessionDel
    intro ip4 ai hai heq
    -- an entry left on the interface would be a route of the record
    obtain ⟨-, hroute, -⟩ := hfresh ip4 ai hai
    obtain ⟨key, rec', pfx, hrec', hpfx, hsw, -⟩ := (hmiddle.fib _).mp hroute
    have hown := hmiddle.key_eq_of_swIfIndex hrec' (Function.update_self ..)
      (hsw.trans ((congrArg some heq).trans hdescribes.swIfIndex.symm))
    rw [hown, Function.update_self] at hrec'
    cases hrec'
    cases hpfx
  · intro event hevent
    rcases List.mem_append.mp hevent with hold | hnew
    · exact hcalls event hold
    · rw [List.mem_singleton.mp hnew]
      exact ⟨hfresh, hnames⟩

theorem passOk_orderly (hmirror : Mirror w.vpp w.installed.get?)
    (hfresh : CacheFresh w.vpp) (h : passOk cfg w pass = some w') :
    Orderly w' := by
  obtain ⟨result, hexec, hok⟩ := passOk_exec h
  obtain ⟨acc, w₁, removed, w₂, w₃, hadding, hok₁, hremoving, hok₂, hprune,
    hvpp, -, hcalls, -⟩ := reconcile_ok hexec hok
  have hstart : (w.startPass.logged cfg .tunnelDump).allOk = true →
      Orderly (w.startPass.logged cfg .tunnelDump) := by
    apply callsKeep_orderly.call w.startPass .tunnelDump rfl
    intro _
    refine ⟨hfresh, ?_⟩
    intro event hevent
    cases hevent
  obtain ⟨hadded, horderly₁⟩ := adding_exec
    (fun _ _ m => m.allOk = true → Orderly m)
    (fun _ entry _ _ _ _ acc m _ m' _ hinv hround _ =>
      callsKeep_orderly.reconcileSession pass acc entry m _ m' hround hinv)
    hmirror (cacheSound_dumpedTunnels _) hstart hadding hok₁
  obtain ⟨-, horderly₂⟩ := removing_exec
    (fun _ _ m => m.allOk = true → Orderly m)
    (fun _ _ _ _ _ m _ m' hremoving' hinv hround _ => by
      rcases removeSession_run hround with ⟨-, -, hdel⟩ | ⟨-, -, -, rfl⟩
      · exact Orderly.delSession hinv hremoving'.mirror hdel
      · exact hinv)
    hadded.mirror horderly₁ hremoving hok₂
  have horderly₃ : Orderly w₃ := by
    rcases hprune with ⟨-, rfl⟩ | ⟨-, hrun, hok₃⟩
    · exact horderly₂ hok₂
    · exact callsKeep_orderly.pruneTunnels w₂ _ w₃ hrun horderly₂ hok₃
  refine ⟨?_, ?_⟩
  · rw [hvpp]
    exact horderly₃.fresh
  · rw [hcalls]
    exact horderly₃.calls

/-! ## Runs of passes -/

theorem Called.guarded {start : Vpp} {guard : Vpp → Call → Bool}
    (h : Called cfg start w)
    (hguard : ∀ event ∈ w.calls, ∀ call ∈ event.call.toCall?,
      guard event.before call = true) :
    Guarded (step cfg.policies) guard start (controlCalls w.calls) := by
  suffices hprefix : ∀ done, done <+: w.calls →
      Guarded (step cfg.policies) guard start (controlCalls done) by
    exact hprefix w.calls List.prefix_rfl
  intro done
  induction done using List.reverseRecOn with
  | nil => exact fun _ => trivial
  | append_singleton done event ih =>
      rintro ⟨rest, hrest⟩
      rw [List.append_assoc] at hrest
      rw [controlCalls, List.filterMap_append, guarded_append, ← controlCalls,
        ← h.before hrest.symm]
      refine ⟨ih ⟨event :: rest, hrest⟩, ?_⟩
      have hmem : event ∈ w.calls := by
        rw [← hrest]
        exact List.mem_append_right _ List.mem_cons_self
      cases hcall : event.call.toCall? with
      | none => simp [hcall, Guarded]
      | some call => simp [hcall, Guarded, hguard event hmem call hcall]

/-- What every run of passes keeps. -/
structure InOrder (w : World) : Prop where
  sync : InSync w
  fresh : CacheFresh w.vpp

theorem InOrder.initial (hwInterfaces : Pool HwInterface)
    (swInterfaces : Pool SwInterface) :
    InOrder (World.initial hwInterfaces swInterfaces) where
  sync := InSync.initial hwInterfaces swInterfaces
  fresh := by
    intro ip4 ai hai
    contradiction

theorem InOrder.after_pass (h : InOrder w)
    (hpass : passOk cfg w pass = some w') : InOrder w' :=
  ⟨h.sync.pass hpass, (passOk_orderly h.sync.mirror h.fresh hpass).fresh⟩

theorem InOrder.run (hwInterfaces : Pool HwInterface)
    (swInterfaces : Pool SwInterface) {passes : List Pass}
    (h : runAll (passOk cfg) (World.initial hwInterfaces swInterfaces) passes =
      some w) : InOrder w :=
  runAll_invariant (passOk cfg) InOrder
    (fun _ _ _ h hpass => h.after_pass hpass)
    (InOrder.initial hwInterfaces swInterfaces) h

theorem passes_nameOwnTunnel {passes : List Pass} (h : InOrder w)
    (hrun : runAll (passOk cfg) w passes = some w') :
    Guarded (step cfg.policies) namesOwnTunnel w.vpp
      (passesCalls cfg w passes) := by
  induction passes generalizing w with
  | nil => trivial
  | cons pass passes ih =>
      obtain ⟨next, hnext, hrest⟩ := Option.bind_eq_some_iff.mp hrun
      have hcalled := passOk_called hnext
      have horderly := passOk_orderly h.sync.mirror h.fresh hnext
      have hpasses : passesCalls cfg w (pass :: passes) =
          controlCalls next.calls ++ passesCalls cfg next passes := by
        rw [passesCalls, hnext]
      rw [hpasses, guarded_append, ← hcalled.vpp]
      refine ⟨?_, ih (h.after_pass hnext) hrest⟩
      exact hcalled.guarded fun event hevent =>
        (horderly.calls event hevent).names

theorem passes_chainInv {passes : List Pass}
    (hwInterfaces : Pool HwInterface) (swInterfaces : Pool SwInterface)
    (hrun : runAll (passOk cfg) (World.initial hwInterfaces swInterfaces)
      passes = some w)
    (hkeeps : Guarded (step cfg.policies) (keepsAdjacencies cfg.policies)
      (Vpp.initial hwInterfaces swInterfaces)
      (passesCalls cfg (World.initial hwInterfaces swInterfaces) passes)) :
    ChainInv w.vpp := by
  rw [vpp_of_passes hrun]
  exact chainInv_run cfg.policies (ChainInv.initial hwInterfaces swInterfaces)
    (passes_nameOwnTunnel (InOrder.initial hwInterfaces swInterfaces) hrun)
    hkeeps

theorem passes_cacheOn {passes : List Pass} (hwInterfaces : Pool HwInterface)
    (swInterfaces : Pool SwInterface)
    (hrun : runAll (passOk cfg) (World.initial hwInterfaces swInterfaces)
      passes = some w) : CacheOn w.vpp := by
  rw [vpp_of_passes hrun]
  exact CacheOn.runCalls cfg.policies hwInterfaces swInterfaces _

/-! ## What a cache entry is -/

/-- An entry of the cache belongs to an installed session with that address. -/
theorem InOrder.cached (h : InOrder w) {ip4 : U32} {ai : AdjIndex}
    (hai : cachedAdj w.vpp ip4 = some ai) :
    ∃ key rec index sess adj, w.installed.get? key = some rec ∧
      IpPrefix.host ip4 ∈ rec.routes ∧
      w.vpp.lm.sessions.elt? index = some sess ∧ ids sess = key ∧
      sess.swIfIndex = ai.swIfIndex ∧ ai.link = .ip4 ∧
      w.vpp.adjacencies.get? ai = some adj := by
  obtain ⟨hshape, hroute, -, adj, hadj, -⟩ := h.fresh ip4 ai hai
  obtain ⟨key, rec, pfx, hrec, hpfx, hsw, heq⟩ :=
    (h.sync.mirror.fib _).mp hroute
  obtain ⟨index, sess, hsess, hids, hdescribes⟩ := h.sync.mirror.live hrec
  change (IpPrefix.host ip4).decode = pfx.decode at heq
  have hhost : pfx = IpPrefix.host ip4 := (IpPrefix.decode_inj.mp heq).symm
  rw [hdescribes.swIfIndex] at hsw
  refine ⟨key, rec, index, sess, adj, hrec, hhost ▸ hpfx, hsess, hids,
    Option.some.inj hsw, ?_, hadj⟩
  rw [hshape]
  rfl

/-! ## From the kernel's list to the packets -/

section Reached

variable {w₀ : World} {node : Ip4Midchain}

/-- With the routes synced, a recorded route is one of the kernel's. -/
theorem Reconciled.routes_synced (h : Reconciled pass w₀ w)
    (hsync : pass.syncExistingRoutes = true) {key : SessionKey} {s : KSession}
    {rec : InstalledRec}
    (hs : (wantSessions pass.ksessions).get? key = some s)
    (hrec : w.installed.get? key = some rec) {pfx : IpPrefix} :
    pfx ∈ rec.routes ↔ pfx ∈ s.fetchRoutes pass.pppRoutes := by
  rw [h.routes key s rec hs hrec, Pass.routesAfter]
  split
  · rfl
  · rw [if_pos hsync]

/-- The only session with an address has the cache entry of the address. -/
theorem CacheFilled.sole (hfilled : CacheFilled w)
    (hreconciled : Reconciled pass w₀ w)
    (hsync : pass.syncExistingRoutes = true) {key : SessionKey} {s : KSession}
    {ip4 : U32} (hs : (wantSessions pass.ksessions).get? key = some s)
    (hip4 : IpPrefix.host ip4 ∈ s.fetchRoutes pass.pppRoutes)
    (hsole : ∀ key' s', (wantSessions pass.ksessions).get? key' = some s' →
      IpPrefix.host ip4 ∈ s'.fetchRoutes pass.pppRoutes → key' = key) :
    ∃ ai, cachedAdj w.vpp ip4 = some ai := by
  obtain ⟨rec, hrec⟩ := (hreconciled.installed key).mpr ⟨s, hs⟩
  obtain ⟨index, sess, -, -, hdescribes⟩ := hreconciled.mirror.live hrec
  have hmem := (hreconciled.routes_synced hsync hs hrec).mpr hip4
  refine ⟨_, hfilled key rec ip4 sess.swIfIndex hrec hmem
    hdescribes.swIfIndex ?_⟩
  intro key' rec' hrec' hmem
  obtain ⟨s', hs'⟩ := (hreconciled.installed key').mp ⟨rec', hrec'⟩
  exact hsole key' s' hs' ((hreconciled.routes_synced hsync hs' hrec').mp hmem)

/-- The live session of a list entry has the kernel's parameters. -/
theorem current_session (hsync : InSync w₀)
    (hpass : passOk cfg w₀ pass = some w)
    (hdate : upToDate cfg w₀ pass = true) {s : KSession} {index : Nat}
    {sess : L2tvppSession} {t : L2tvppTunnel}
    (hs : (wantSessions pass.ksessions).get? (ids sess) = some s)
    (hsess : w.vpp.lm.sessions.elt? index = some sess)
    (ht : w.vpp.lm.tunnels.elt? sess.tunnelIndex = some t) :
    s.encapParams cfg = some ⟨sess.peerSid, tunnelParams t⟩ := by
  have hstore := (hsync.pass hpass).mirror.store
  obtain ⟨hmem, hifname, hkey⟩ := wantSessions_some hs
  obtain ⟨params, hparams, hplugin⟩ :=
    current_of_upToDate hsync hpass hdate hmem hifname
  have hhas := (encapParams_eq_some hstore).mp hplugin
  have hlive : HasParams w.vpp s.sessionKey ⟨sess.peerSid, tunnelParams t⟩ :=
    ⟨index, sess, t, hsess, hkey.symm, ht, rfl⟩
  rw [hparams, hhas.unique hstore hlive]

/-- A frame on the cache entry of its address goes out for a session of the list
that has the address. -/
theorem cached_sent (hnode : node.Forwards) (h : InOrder w₀)
    (hpass : passOk cfg w₀ pass = some w)
    (hchain : ChainInv w.vpp) (hsync : pass.syncExistingRoutes = true)
    (hdate : upToDate cfg w₀ pass = true) {ip4 : U32} {ai : AdjIndex}
    (hai : cachedAdj w.vpp ip4 = some ai) :
    ∃ key s t sess, (wantSessions pass.ksessions).get? key = some s ∧
      IpPrefix.host ip4 ∈ s.fetchRoutes pass.pppRoutes ∧
      s.encapParams cfg = some ⟨sess.peerSid, tunnelParams t⟩ ∧
      ∀ (b : VlibBuffer) (rest : List U8), b.adjIndexTx = some ai →
        20 ≤ b.current.length → 1 < ip4Ttl (b.current ++ rest) →
        node.withinMtu w.vpp b rest = true →
        ∃ inner packet, TtlDecremented (b.current ++ rest) inner ∧
          node.send w.vpp b rest = .ok (some packet) ∧
          Sent t sess .ip4 inner packet := by
  have hreconciled := passOk_reconciled h.sync.mirror hpass
  obtain ⟨key, rec, index, sess, adj, hrec, hmem, hsess, rfl, hsw, hlink,
    hadj⟩ := (h.after_pass hpass).cached hai
  obtain ⟨s, hs⟩ := (hreconciled.installed _).mp ⟨rec, hrec⟩
  obtain ⟨t, ht, hsent⟩ := midchain_sent hchain hnode hadj
    (by rw [hlink]; rfl) hsess hsw
  rw [hlink] at hsent
  exact ⟨_, s, t, sess, hs, (hreconciled.routes_synced hsync hs hrec).mp hmem,
    current_session h.sync hpass hdate hs hsess ht, hsent⟩

/-- After a pass, what the fast path takes for a subscriber is sent into the
tunnel of a session that has the address in the kernel's list, with the kernel's
endpoints and ids and the TTL decremented, or not at all when the TTL is used
up; for an address of exactly one session it takes every frame. -/
theorem subscribers_reached (cfg : Config) (hwInterfaces : Pool HwInterface)
    (swInterfaces : Pool SwInterface) {passes : List Pass} {pass : Pass}
    {w₀ w : World} {node : Ip4Midchain} (hnode : node.Forwards)
    (hrun : runAll (passOk cfg) (World.initial hwInterfaces swInterfaces)
      passes = some w₀)
    (hpass : passOk cfg w₀ pass = some w)
    (hsync : pass.syncExistingRoutes = true)
    (hdate : upToDate cfg w₀ pass = true)
    (hcache : GuardedAll (passOk cfg) keepsCache
      (World.initial hwInterfaces swInterfaces) (passes ++ [pass]))
    (hkeeps : Guarded (step cfg.policies) (keepsAdjacencies cfg.policies)
      (Vpp.initial hwInterfaces swInterfaces)
      (passesCalls cfg (World.initial hwInterfaces swInterfaces)
        (passes ++ [pass])))
    {b : VlibBuffer} {rest : List U8} {dst : U32} {l2Len : U16}
    (hpeek : l2tvppEncapPeekDst b.current b.currentLength.toNat =
      .ok (some (dst, l2Len)))
    (hreach : b.reaches l2Len.toNat) :
    ∃ result, l2tvppEncapFastpath w.vpp.lm b = .ok result ∧
      (∀ key s, (wantSessions pass.ksessions).get? key = some s →
        IpPrefix.host dst ∈ s.fetchRoutes pass.pppRoutes →
        (∀ key' s', (wantSessions pass.ksessions).get? key' = some s' →
          IpPrefix.host dst ∈ s'.fetchRoutes pass.pppRoutes → key' = key) →
        result.next = .ip4Midchain) ∧
      (result.next = .ip4Midchain →
        ip4Ttl (b.current.drop l2Len.toNat ++ rest) ≤ 1 →
        node.send w.vpp result.buffer rest = .ok none) ∧
      (result.next = .ip4Midchain →
        1 < ip4Ttl (b.current.drop l2Len.toNat ++ rest) →
        node.withinMtu w.vpp result.buffer rest = true →
        ∃ key s t sess inner packet,
          (wantSessions pass.ksessions).get? key = some s ∧
          IpPrefix.host dst ∈ s.fetchRoutes pass.pppRoutes ∧
          s.encapParams cfg = some ⟨sess.peerSid, tunnelParams t⟩ ∧
          TtlDecremented (b.current.drop l2Len.toNat ++ rest) inner ∧
          node.send w.vpp result.buffer rest = .ok (some packet) ∧
          Sent t sess .ip4 inner packet) := by
  have hall : runAll (passOk cfg) (World.initial hwInterfaces swInterfaces)
      (passes ++ [pass]) = some w := by
    rw [runAll_append]
    exact ⟨w₀, hrun, by simp [runAll, hpass]⟩
  have hbefore := InOrder.run hwInterfaces swInterfaces hrun
  have hchain := passes_chainInv hwInterfaces swInterfaces hall hkeeps
  have hreconciled := passOk_reconciled hbefore.sync.mirror hpass
  obtain ⟨-, hfilled⟩ := syncFilled_run hwInterfaces swInterfaces hcache hall
  have hon := passes_cacheOn hwInterfaces swInterfaces hall
  obtain ⟨result, hresult, hcases⟩ := l2tvppEncapFastpath_peeked hon hpeek
  obtain ⟨hlookup, hnext, -⟩ | ⟨ai, hlookup, hnext, hbuffer⟩ := hcases
  · have hnot : result.next ≠ .ip4Midchain := by
      rw [hnext]
      decide
    refine ⟨result, hresult, ?_, fun h => absurd h hnot, fun h => absurd h hnot⟩
    intro key s hs hip4 hsole
    obtain ⟨ai, hai⟩ := hfilled.sole hreconciled hsync hs hip4 hsole
    rw [cachedAdj, hlookup] at hai
    contradiction
  · have hpeeked := l2Len_le_of_peek hpeek
    have hinner : result.buffer.current = b.current.drop l2Len.toNat := by
      rw [hbuffer]
      rw [b.length_current] at hpeeked
      exact current_vlibBufferAdvance b (by omega) hreach
    have htwenty : 20 ≤ result.buffer.current.length := by
      rw [hinner, List.length_drop]
      omega
    rw [← hinner]
    refine ⟨result, hresult, fun _ _ _ _ _ => hnext, ?_, ?_⟩
    · intro _ httl
      exact hnode.expires w.vpp result.buffer rest htwenty httl
    · intro _ httl hmtu
      obtain ⟨key, s, t, sess, hs, hmem, hparams, hsent⟩ :=
        cached_sent hnode hbefore hpass hchain hsync hdate hlookup
      obtain ⟨inner, packet, hdown, hpacket, hsent⟩ := hsent result.buffer rest
        (by rw [hbuffer]; rfl) htwenty httl hmtu
      exact ⟨key, s, t, sess, inner, packet, hs, hmem, hparams, hdown, hpacket,
        hsent⟩

/-- The subscriber gets an address while the session is up. -/
def addressed : Pass :=
  testPass [subscriber (some "ppp0") [IpPrefix.host 0x0ac80005]]

def frameTo (dst : U32) : VlibBuffer :=
  bufferOf (List.replicate 12 0 ++ be16 ethernetTypeIp4 ++
    [0x45, 0, 0, 20, 0, 0, 0, 0, 64, 17, 0, 0, 192, 0, 2, 1] ++ be32 dst)

theorem subscribers_reached_addressed :
    ∃ w₀ w result, runAll (passOk testConfig)
        (World.initial Pool.empty Pool.empty)
        [testPass [subscriber (some "ppp0") []]] = some w₀ ∧
      passOk testConfig w₀ addressed = some w ∧
      l2tvppEncapFastpath w.vpp.lm (frameTo 0x0ac80005) = .ok result ∧
      ∃ s t sess inner packet, s ∈ addressed.ksessions ∧
        s.encapParams testConfig = some ⟨sess.peerSid, tunnelParams t⟩ ∧
        TtlDecremented ((frameTo 0x0ac80005).current.drop 14 ++ []) inner ∧
        (testMidchain 9000).send w.vpp result.buffer [] = .ok (some packet) ∧
        Sent t sess .ip4 inner packet := by
  have hrun : ((runAll (passOk testConfig)
      (World.initial Pool.empty Pool.empty)
      [testPass [subscriber (some "ppp0") []]]).any fun w₀ =>
        upToDate testConfig w₀ addressed &&
          (passOk testConfig w₀ addressed).isSome) = true := by
    decide +kernel
  obtain ⟨w₀, hw₀, hpass⟩ := (Option.any_eq_true _ _).mp hrun
  rw [Bool.and_eq_true] at hpass
  obtain ⟨w, hw⟩ := Option.isSome_iff_exists.mp hpass.2
  have hitems : (wantSessions addressed.ksessions).items = [((100, 1000),
      subscriber (some "ppp0") [IpPrefix.host 0x0ac80005])] := by
    decide
  have hpeek : l2tvppEncapPeekDst (frameTo 0x0ac80005).current
      (frameTo 0x0ac80005).currentLength.toNat =
        .ok (some (0x0ac80005, 14)) := by
    decide
  obtain ⟨result, hresult, hsole, -, hsent⟩ := subscribers_reached testConfig
    Pool.empty Pool.empty (forwards_testMidchain 9000) hw₀ hw rfl hpass.1
    (by decide +kernel) (by decide +kernel) hpeek (by decide)
  have hnext := hsole (100, 1000) _
    ((wantSessions addressed.ksessions).mem_items.mp
      (hitems ▸ List.mem_cons_self)) List.mem_cons_self (by
        intro key s hs _
        rw [← (wantSessions addressed.ksessions).mem_items, hitems,
          List.mem_singleton] at hs
        exact congrArg Prod.fst hs)
  have hmtu : (testMidchain 9000).withinMtu w.vpp result.buffer [] = true := by
    have hfast : SafeRun True (l2tvppEncapFastpath w.vpp.lm
        (frameTo 0x0ac80005)) _ := safeRun_l2tvppEncapFastpath _ _
    obtain ⟨l2Len, ai, hbuffer, hinside⟩ := hfast.post hresult hnext
    have hsize : (frameTo 0x0ac80005).currentLength.toNat = 34 := by decide
    apply decide_eq_true
    rw [List.append_nil, VlibBuffer.length_current, hbuffer]
    change ((frameTo 0x0ac80005).currentLength -
      BitVec.ofInt 16 l2Len.toNat).toNat ≤ 9000
    rw [BitVec.ofInt_natCast, BitVec.toNat_sub, BitVec.toNat_ofNat]
    omega
  obtain ⟨key, s, t, sess, inner, packet, hs, -, hparams, hdown, hpacket,
    hpacketSent⟩ := hsent hnext (by decide) hmtu
  exact ⟨w₀, w, result, hw₀, hw, hresult, s, t, sess, inner, packet,
    (wantSessions_some hs).1, hparams, hdown, hpacket, hpacketSent⟩

end Reached

end L2tvpp.Syncd
