import L2tvpp.Node.Delivery
import L2tvpp.Syncd.Effects

/-!
# The daemon beside the workers

The daemon makes its calls while the workers forward.  A pass is not one step
for them: packets are handed off and decapsulated between any two of its calls,
and some wait in a queue from before the pass until after it.
-/

namespace L2tvpp.Syncd

open L2tvpp.Lib L2tvpp.Plugin L2tvpp.Node

/-! ## The calls of a run of passes -/

/-- The plugin's operation behind an API call; a dump has none, and with the
index `~0` there is none. -/
def ApiCall.toCall? : ApiCall → Option Call
  | .tunnelAddDel isAdd localIp peerIp localPort peerPort localTid peerTid =>
      some (.tunnelAddDel (packAddress localIp) peerIp.decode localPort peerPort
        localTid peerTid isAdd)
  | .sessionAddDel isAdd tunnelIndex localSid peerSid acfc pfc =>
      tunnelIndex.map fun tunnelIndex => .sessionAddDel tunnelIndex localSid
        peerSid (apiBool acfc) (apiBool pfc) isAdd
  | .routeAddDel isAdd pfx swIfIndex =>
      swIfIndex.map fun swIfIndex => .routeAddDel pfx.decode swIfIndex isAdd
  | .tunnelDump => none
  | .sessionDump => none

def controlCalls (calls : List ApiEvent) : List Call :=
  calls.filterMap fun event => event.call.toCall?

theorem handle_eq_run (P : Policies) (v : Vpp) (call : ApiCall) :
    (handle P v call).2 = run (step P) v call.toCall?.toList := by
  cases call with
  | tunnelAddDel isAdd localIp peerIp localPort peerPort localTid peerTid =>
      simp only [handle, ApiCall.toCall?, Option.toList_some, run,
        List.foldl_cons, List.foldl_nil, step]
      cases l2tvppTunnelAddDel P v (packAddress localIp) peerIp.decode localPort
        peerPort localTid peerTid isAdd <;> rfl
  | sessionAddDel isAdd tunnelIndex localSid peerSid acfc pfc =>
      cases tunnelIndex with
      | none => rfl
      | some tunnelIndex =>
          simp only [handle, ApiCall.toCall?, Option.map_some,
            Option.toList_some, run, List.foldl_cons, List.foldl_nil, step]
          cases l2tvppSessionAddDel P v tunnelIndex localSid peerSid
            (apiBool acfc) (apiBool pfc) isAdd <;> rfl
  | routeAddDel isAdd pfx swIfIndex =>
      cases swIfIndex with
      | none => rfl
      | some swIfIndex =>
          simp only [handle, ApiCall.toCall?, Option.map_some,
            Option.toList_some, run, List.foldl_cons, List.foldl_nil, step]
          cases l2tvppRouteAddDel v pfx.decode swIfIndex isAdd <;> rfl
  | tunnelDump => rfl
  | sessionDump => rfl

theorem run_append {σ ι : Type} (step : σ → ι → σ) (state : σ)
    (first second : List ι) :
    run step state (first ++ second) = run step (run step state first) second :=
  List.foldl_append

/-- The plugin has come about by the calls of the pass, and each call found what
the calls before it had left. -/
structure Called (cfg : Config) (start : Vpp) (w : World) : Prop where
  vpp : w.vpp = run (step cfg.policies) start (controlCalls w.calls)
  before : ∀ {done rest : List ApiEvent} {event : ApiEvent},
    w.calls = done ++ event :: rest →
    event.before = run (step cfg.policies) start (controlCalls done)

variable {cfg : Config} {pass : Pass} {w w' : World}

theorem stepsKeep_called (start : Vpp) :
    StepsKeep cfg (Called cfg start) where
  call := by
    intro w call h
    constructor
    · simp only [World.logged, controlCalls, List.filterMap_append,
        List.filterMap_cons, List.filterMap_nil]
      rw [run_append, ← controlCalls, ← h.vpp, handle_eq_run]
      cases call.toCall? <;> rfl
    · intro done rest event hcalls
      rcases List.eq_nil_or_concat rest with rfl | ⟨rest, last, rfl⟩
      · obtain ⟨rfl, hlast⟩ := List.append_inj' hcalls rfl
        cases hlast
        exact h.vpp
      · rw [List.concat_eq_append, ← List.cons_append, ← List.append_assoc]
          at hcalls
        exact h.before (List.append_inj' hcalls rfl).1
  record := fun _ _ h => ⟨h.vpp, h.before⟩

theorem passOk_called (h : passOk cfg w pass = some w') :
    Called cfg w.vpp w' := by
  obtain ⟨result, hexec, -⟩ := passOk_exec h
  have hkeep : Triple (Called cfg w.vpp) (reconcile cfg pass)
      (fun _ => Called cfg w.vpp) (Called cfg w.vpp) := by
    refine (stepsKeep_called w.vpp).reconcile ?_
    intro m hm
    split
    · exact ⟨hm.vpp, hm.before⟩
    · exact hm
  have hstart : Called cfg w.vpp w.startPass := by
    refine ⟨rfl, ?_⟩
    intro done rest event hcalls
    simp [World.startPass] at hcalls
  exact hkeep.ok hstart hexec

/-- The calls of passes that succeed, one after the other. -/
def passesCalls (cfg : Config) : World → List Pass → List Call
  | _, [] => []
  | w, pass :: passes =>
      match passOk cfg w pass with
      | none => []
      | some w' => controlCalls w'.calls ++ passesCalls cfg w' passes

theorem vpp_of_passes {passes : List Pass}
    (h : runAll (passOk cfg) w passes = some w') :
    w'.vpp = run (step cfg.policies) w.vpp (passesCalls cfg w passes) := by
  induction passes generalizing w with
  | nil =>
      cases h
      rfl
  | cons pass passes ih =>
      obtain ⟨next, hnext, hrest⟩ := Option.bind_eq_some_iff.mp h
      have hpasses : passesCalls cfg w (pass :: passes) =
          controlCalls next.calls ++ passesCalls cfg next passes := by
        rw [passesCalls, hnext]
      rw [hpasses, run_append, ← (passOk_called hnext).vpp]
      exact ih hrest

/-! ## A session in the middle of a pass -/

def HoldsInterface (v : Vpp) (key : SessionKey) (swIfIndex : Nat) : Prop :=
  ∃ index sess, v.lm.sessions.elt? index = some sess ∧ ids sess = key ∧
    sess.swIfIndex = swIfIndex

theorem session_of_toCall {v : Vpp} {call : ApiCall} {reply : ApiReply}
    {tunnelIndex : Nat} {localSid peerSid : U16} {acfc pfc : U8} {isAdd : Bool}
    (h : call.toCall? =
      some (.sessionAddDel tunnelIndex localSid peerSid acfc pfc isAdd)) :
    ApiEvent.session ⟨v, call, reply⟩ =
      (v.lm.tunnels.elt? tunnelIndex).map fun t => (t.localTid, localSid) := by
  cases call with
  | tunnelAddDel => cases h
  | sessionAddDel isAdd tunnel sid peer acfc' pfc' =>
      cases tunnel with
      | none => cases h
      | some tunnel =>
          cases h
          rfl
  | routeAddDel isAdd pfx swIfIndex =>
      cases swIfIndex with
      | none => cases h
      | some swIfIndex => cases h
  | tunnelDump => cases h
  | sessionDump => cases h

/-- A call about another session. -/
theorem HoldsInterface.handle {P : Policies} {event : ApiEvent}
    {key : SessionKey} {swIfIndex : Nat} (hinv : StoreInv event.before)
    (h : HoldsInterface event.before key swIfIndex)
    (hother : event.session ≠ some key) :
    HoldsInterface (handle P event.before event.call).2 key swIfIndex := by
  obtain ⟨v, call, reply⟩ := event
  dsimp only at hinv h ⊢
  rw [handle_eq_run]
  cases hcall : call.toCall? with
  | none => exact h
  | some c =>
      change HoldsInterface (step P v c) key swIfIndex
      obtain ⟨index, sess, hsess, hids, hsw⟩ := h
      have hstep := storeStep_step P v c
      generalize step P v c = v' at hstep
      cases hstep with
      | same hsame =>
          obtain ⟨csum, hsess'⟩ := hsame.symm.session hsess
          exact ⟨index, _, hsess', hids, hsw⟩
      | tunnelAdd => exact ⟨index, sess, hsess, hids, hsw⟩
      | tunnelDel => exact ⟨index, sess, hsess, hids, hsw⟩
      | sessionAdd =>
          exact ⟨index, sess,
            Pool.elt?_get_of_live P.sessions v.lm.sessions _ hsess, hids, hsw⟩
      | sessionDel ht hkey hdeleted =>
          refine ⟨index, sess, ?_, hids, hsw⟩
          rw [sessionDel_sessions, if_neg, hsess]
          rintro rfl
          obtain ⟨sess', hsess', hown⟩ := hinv.byKey.some_iff.mp hkey
          rw [hsess] at hsess'
          cases hsess'
          rw [L2tvppSession.key, l2tvppSessionKey_inj] at hown
          rw [session_of_toCall hcall, ht, ← hids, ids, hown.1, hown.2] at hother
          exact hother rfl
      | interfaceAdd => exact ⟨index, sess, hsess, hids, hsw⟩
      | interfaceDel =>
          refine ⟨index, sess, ?_, hids, hsw⟩
          rw [vnetDeleteHwInterface_lm]
          exact hsess

theorem storeInv_run {P : Policies} {v : Vpp} (h : StoreInv v)
    (calls : List Call) : StoreInv (run (step P) v calls) :=
  run_invariant (step P) StoreInv
    (fun v call h => h.storeStep (storeStep_step P v call)) calls h

/-- At every moment of a pass that does not touch the session. -/
theorem Called.holdsInterface {start : Vpp} (hcalled : Called cfg start w)
    (hinv : StoreInv start) {key : SessionKey} {swIfIndex : Nat}
    (h : HoldsInterface start key swIfIndex)
    (hother : ∀ event ∈ w.calls, event.session ≠ some key)
    {done : List ApiEvent} (hdone : done <+: w.calls) :
    HoldsInterface (run (step cfg.policies) start (controlCalls done)) key
      swIfIndex := by
  induction done using List.reverseRecOn with
  | nil => exact h
  | append_singleton done event ih =>
      obtain ⟨rest, hrest⟩ := hdone
      rw [List.append_assoc] at hrest
      have hbefore := hcalled.before hrest.symm
      have hheld := ih ⟨event :: rest, hrest⟩
      rw [← hbefore] at hheld
      have hmem : event ∈ w.calls := by
        rw [← hrest]
        exact List.mem_append_right _ List.mem_cons_self
      have hnext := hheld.handle (P := cfg.policies)
        (hbefore ▸ storeInv_run hinv _) (hother event hmem)
      rw [handle_eq_run, hbefore] at hnext
      rw [controlCalls, List.filterMap_append, run_append, ← controlCalls]
      cases hcall : event.call.toCall? with
      | none =>
          rw [hcall] at hnext
          simpa [hcall] using hnext
      | some c =>
          rw [hcall] at hnext
          simpa [hcall] using hnext

/-! ## The workers during a pass and after it -/

section Workers

variable {hwInterfaces : Pool HwInterface} {swInterfaces : Pool SwInterface}
  (nWorkers : U32) {passes : List Pass} {before : List WorkerEvent}

/-- The workers up to a moment between two passes, and what they process from
there on. -/
theorem workers_between (hrun : runAll (passOk cfg)
      (World.initial hwInterfaces swInterfaces) passes = some w)
    (hbefore : before.filterMap WorkerEvent.call? =
      passesCalls cfg (World.initial hwInterfaces swInterfaces) passes)
    (more : List WorkerEvent) :
    ∃ g₀ g, runWorkers cfg.policies nWorkers hwInterfaces swInterfaces before =
        .ok g₀ ∧
      runWorkers cfg.policies nWorkers hwInterfaces swInterfaces
        (before ++ more) = .ok g ∧
      ∀ e ∈ g.processed.drop g₀.processed.length,
        (∃ calls, calls <+: more.filterMap WorkerEvent.call? ∧
          e.vpp = run (step cfg.policies) w.vpp calls) ∧
        ∀ i, e.receivedOn i = true ↔
          ∃ index sess, e.vpp.lm.sessions.elt? index = some sess ∧
            sess.swIfIndex = i ∧
            carriesIp sess.localTid sess.localSid e.buffer = true := by
  obtain ⟨g₀, hg₀, hfollows₀⟩ := runWorkers_follows cfg.policies nWorkers
    hwInterfaces swInterfaces before
  obtain ⟨g, added, hg, hfollows, hadded, hlater⟩ := hfollows₀.during more
  have hvpp : g₀.vpp = w.vpp := by
    rw [hfollows₀.vpp, hbefore, vpp_of_passes hrun]
    rfl
  refine ⟨g₀, g, hg₀, ?_, ?_⟩
  · unfold runWorkers at hg₀ ⊢
    rw [List.foldlM_append, hg₀]
    exact hg
  · intro e he
    rw [hadded, List.drop_left] at he
    obtain ⟨calls, hcalls, heq⟩ := hlater e he
    rw [hvpp] at heq
    refine ⟨⟨calls, hcalls, heq⟩, hfollows.receivedOn_iff ?_⟩
    rw [hadded]
    exact List.mem_append_right _ he

/-- A pass does not disturb the sessions it keeps: wherever in the pass a packet
of such a session is processed, also one that was handed off before the pass,
it is received on the interface in the record, and no packet of another. -/
theorem pass_undisturbed (cfg : Config) (nWorkers : U32)
    (hwInterfaces : Pool HwInterface) (swInterfaces : Pool SwInterface)
    {passes : List Pass} {pass : Pass} {w w' : World}
    (hrun : runAll (passOk cfg) (World.initial hwInterfaces swInterfaces)
      passes = some w)
    (hpass : passOk cfg w pass = some w') (before during : List WorkerEvent)
    (hbefore : before.filterMap WorkerEvent.call? =
      passesCalls cfg (World.initial hwInterfaces swInterfaces) passes)
    (hduring : during.filterMap WorkerEvent.call? <+: controlCalls w'.calls) :
    ∃ g₀ g, runWorkers cfg.policies nWorkers hwInterfaces swInterfaces before =
        .ok g₀ ∧
      runWorkers cfg.policies nWorkers hwInterfaces swInterfaces
        (before ++ during) = .ok g ∧
      ∀ key rec, w.installed.get? key = some rec →
        (∃ s, (wantSessions pass.ksessions).get? key = some s) →
        ∀ e ∈ g.processed.drop g₀.processed.length,
        ∀ i, rec.swIfIndex = some i →
          e.receivedOn i = carriesIp key.1 key.2 e.buffer := by
  have hmirror := (InSync.run hwInterfaces swInterfaces hrun).mirror
  have hcalled := passOk_called hpass
  obtain ⟨result, hexec, hok⟩ := passOk_exec hpass
  obtain ⟨g₀, g, hg₀, hg, hprocessed⟩ :=
    workers_between nWorkers hrun hbefore during
  refine ⟨g₀, g, hg₀, hg, ?_⟩
  rintro key rec hrec ⟨s, hs⟩ e he i hi
  obtain ⟨⟨calls, hcalls, hvpp⟩, hreceived⟩ := hprocessed e he
  obtain ⟨index, sess, t, csum, n, hsess, hids, ht, hpasses, -⟩ :=
    (reconcile_sessionKept hmirror hexec hok hrec hs).session
  obtain ⟨done, hdone, hprefix⟩ :=
    List.prefix_filterMap_iff.mp (hcalls.trans hduring)
  have hsw : sess.swIfIndex = i := by
    have hrecorded := (hmirror.describes hsess (hids ▸ hrec)).swIfIndex
    rw [hi] at hrecorded
    exact (Option.some.inj hrecorded).symm
  have hheld := hcalled.holdsInterface hmirror.store
    ⟨index, sess, hsess, hids, hsw⟩ (fun event hevent =>
      (hpasses event hevent).1) hdone
  have hinv : StoreInv e.vpp := by
    rw [hvpp]
    exact storeInv_run hmirror.store calls
  rw [controlCalls, ← hprefix, ← hvpp] at hheld
  obtain ⟨index', sess', hsess', rfl, hsw'⟩ := hheld
  rw [Bool.eq_iff_iff, hreceived]
  constructor
  · rintro ⟨other, sess'', hsess'', hsw'', hcarries⟩
    have hindex := hinv.bySwIfIndex.index_eq hsess'' hsess'
      (hsw''.trans hsw'.symm)
    rw [hindex, hsess'] at hsess''
    cases hsess''
    exact hcarries
  · intro hcarries
    exact ⟨index', sess', hsess', hsw', hcarries⟩

/-- The calls of a run of passes, then frames. -/
def forwarding (passes : List Pass) (frames : List WorkerEvent) :
    List WorkerEvent :=
  (passesCalls testConfig (World.initial Pool.empty Pool.empty) passes).map
    .call ++ frames

theorem filterMap_call (calls : List Call) (frames : List WorkerEvent) :
    (calls.map WorkerEvent.call ++ frames).filterMap WorkerEvent.call? =
      calls ++ frames.filterMap WorkerEvent.call? := by
  rw [List.filterMap_append, List.filterMap_map]
  congr 1
  exact List.filterMap_some

def subscribing : List Pass :=
  [testPass [subscriber (some "ppp0") [IpPrefix.host 0x0ac80005]]]

def subscriberData (sid : U16) : VlibBuffer :=
  bufferOf [0, 2, 0, 100, sid.extractLsb' 8 8, sid.extractLsb' 0 8, 0xff, 3, 0,
    0x21, 0x45]

/-- The packet waits in its queue when the pass begins. -/
theorem pass_undisturbed_readdressed :
    let before := forwarding subscribing
      [.handoff 1 [subscriberData 1000] fun _ => true]
    ∃ w w' g₀ g, subscribed = some w ∧
      passOk testConfig w readdressed = some w' ∧
      runWorkers testConfig.policies 2 Pool.empty Pool.empty before = .ok g₀ ∧
      runWorkers testConfig.policies 2 Pool.empty Pool.empty
        (before ++ (((controlCalls w'.calls).take 1).map .call ++
          [.input 1 8, .input 2 8])) = .ok g ∧
      ∀ e ∈ g.processed.drop g₀.processed.length,
        ∀ rec, w.installed.get? (100, 1000) = some rec →
        ∀ i, rec.swIfIndex = some i →
          e.receivedOn i = carriesIp 100 1000 e.buffer := by
  intro before
  have hrun : ∃ w ∈ subscribed,
      (passOk testConfig w readdressed).isSome = true := by
    decide +kernel
  obtain ⟨w, hw, hpass⟩ := hrun
  obtain ⟨w', hpass⟩ := Option.isSome_iff_exists.mp hpass
  have hpasses : runAll (passOk testConfig)
      (World.initial Pool.empty Pool.empty) subscribing = some w :=
    (Option.bind_fun_some _).trans hw
  have hbefore : before.filterMap WorkerEvent.call? = passesCalls testConfig
      (World.initial Pool.empty Pool.empty) subscribing :=
    (filterMap_call _ _).trans (List.append_nil _)
  have hduring : (((controlCalls w'.calls).take 1).map WorkerEvent.call ++
      [WorkerEvent.input 1 8, WorkerEvent.input 2 8]).filterMap WorkerEvent.call? <+:
        controlCalls w'.calls := by
    rw [filterMap_call]
    exact (List.append_nil _).symm ▸ List.take_prefix 1 _
  obtain ⟨g₀, g, hg₀, hg, hprocessed⟩ := pass_undisturbed testConfig 2
    Pool.empty Pool.empty hpasses hpass before _ hbefore hduring
  refine ⟨w, w', g₀, g, hw, hpass, hg₀, hg, ?_⟩
  intro e he rec hrec
  exact hprocessed (100, 1000) rec hrec ⟨_, rfl⟩ e he

/-- After a pass, of all L2TP data that the workers process, also of what was
handed off before, the IP packets of the sessions in the kernel's list come in,
each on the interface in the daemon's record, and nothing else does. -/
theorem subscribers_served (cfg : Config) (nWorkers : U32)
    (hwInterfaces : Pool HwInterface) (swInterfaces : Pool SwInterface)
    {passes : List Pass} {pass : Pass} {w : World}
    (hrun : runAll (passOk cfg) (World.initial hwInterfaces swInterfaces)
      (passes ++ [pass]) = some w) (before after : List WorkerEvent)
    (hbefore : before.filterMap WorkerEvent.call? =
      passesCalls cfg (World.initial hwInterfaces swInterfaces)
        (passes ++ [pass]))
    (hafter : after.filterMap WorkerEvent.call? = []) :
    ∃ g₀ g, runWorkers cfg.policies nWorkers hwInterfaces swInterfaces before =
        .ok g₀ ∧
      runWorkers cfg.policies nWorkers hwInterfaces swInterfaces
        (before ++ after) = .ok g ∧
      ∀ e ∈ g.processed.drop g₀.processed.length,
        (∀ i, e.receivedOn i = true ↔
          ∃ key rec, w.installed.get? key = some rec ∧
            rec.swIfIndex = some i ∧
            carriesIp key.1 key.2 e.buffer = true) ∧
        ((∃ i, e.receivedOn i = true) ↔
          ∃ s ∈ pass.ksessions, s.hasIfname = true ∧
            carriesIp s.localTid s.localSid e.buffer = true) := by
  obtain ⟨w₀, -, hsync, hpass⟩ := runAll_last hrun
  have hreconciled := passOk_reconciled hsync.mirror hpass
  have hmirror := hreconciled.mirror
  obtain ⟨g₀, g, hg₀, hg, hprocessed⟩ :=
    workers_between nWorkers hrun hbefore after
  refine ⟨g₀, g, hg₀, hg, ?_⟩
  intro e he
  obtain ⟨⟨calls, hcalls, hvpp⟩, hreceived⟩ := hprocessed e he
  rw [hafter, List.prefix_nil] at hcalls
  subst hcalls
  change e.vpp = w.vpp at hvpp
  rw [hvpp] at hreceived
  have hrecord : ∀ i, e.receivedOn i = true ↔
      ∃ key rec, w.installed.get? key = some rec ∧ rec.swIfIndex = some i ∧
        carriesIp key.1 key.2 e.buffer = true := by
    intro i
    rw [hreceived]
    constructor
    · rintro ⟨index, sess, hsess, rfl, hcarries⟩
      obtain ⟨rec, hrec⟩ := hmirror.recorded hsess
      exact ⟨ids sess, rec, hrec, (hmirror.describes hsess hrec).swIfIndex,
        hcarries⟩
    · rintro ⟨key, rec, hrec, hi, hcarries⟩
      obtain ⟨index, sess, hsess, rfl, hdescribes⟩ := hmirror.live hrec
      rw [hdescribes.swIfIndex] at hi
      exact ⟨index, sess, hsess, Option.some.inj hi, hcarries⟩
  refine ⟨hrecord, ?_⟩
  simp only [hrecord]
  constructor
  · rintro ⟨i, key, rec, hrec, -, hcarries⟩
    obtain ⟨s, hs⟩ := (hreconciled.installed key).mp ⟨rec, hrec⟩
    obtain ⟨hmem, hifname, rfl⟩ := wantSessions_some hs
    exact ⟨s, hmem, hifname, hcarries⟩
  · rintro ⟨s, hmem, hifname, hcarries⟩
    obtain ⟨s', hs'⟩ := wantSessions_mem hmem hifname
    obtain ⟨rec, hrec⟩ := (hreconciled.installed s.sessionKey).mpr ⟨s', hs'⟩
    obtain ⟨index, sess, -, -, hdescribes⟩ := hmirror.live hrec
    exact ⟨sess.swIfIndex, s.sessionKey, rec, hrec, hdescribes.swIfIndex,
      hcarries⟩

def lastLeft : Pass := testPass [ksession 0x0a000002 100 1001 200 2001 "ppp1" []]

/-- A packet of the session that is left and one of the session that is gone. -/
theorem subscribers_served_lastLeft :
    let before := forwarding (addsThenRemoves ++ [lastLeft]) []
    ∃ w g₀ g, runAll (passOk testConfig) (World.initial Pool.empty Pool.empty)
        (addsThenRemoves ++ [lastLeft]) = some w ∧
      runWorkers testConfig.policies 2 Pool.empty Pool.empty before = .ok g₀ ∧
      runWorkers testConfig.policies 2 Pool.empty Pool.empty (before ++
          [.handoff 1 [subscriberData 1000, subscriberData 1001] fun _ => true,
            .input 1 8, .input 2 8]) = .ok g ∧
      ∀ e ∈ g.processed.drop g₀.processed.length,
        (∃ i, e.receivedOn i = true) ↔ carriesIp 100 1001 e.buffer = true := by
  intro before
  have hrun : (runAll (passOk testConfig)
      (World.initial Pool.empty Pool.empty)
      (addsThenRemoves ++ [lastLeft])).isSome = true := by
    decide +kernel
  obtain ⟨w, hw⟩ := Option.isSome_iff_exists.mp hrun
  have hbefore : before.filterMap WorkerEvent.call? = passesCalls testConfig
      (World.initial Pool.empty Pool.empty) (addsThenRemoves ++ [lastLeft]) :=
    (filterMap_call _ _).trans (List.append_nil _)
  obtain ⟨g₀, g, hg₀, hg, hprocessed⟩ := subscribers_served testConfig 2
    Pool.empty Pool.empty hw before
    [.handoff 1 [subscriberData 1000, subscriberData 1001] fun _ => true,
      .input 1 8, .input 2 8] hbefore rfl
  refine ⟨w, g₀, g, hw, hg₀, hg, ?_⟩
  intro e he
  rw [(hprocessed e he).2]
  constructor
  · rintro ⟨s, hs, -, hcarries⟩
    cases List.mem_singleton.mp hs
    exact hcarries
  · intro hcarries
    exact ⟨_, List.mem_singleton.mpr rfl, rfl, hcarries⟩

end Workers

end L2tvpp.Syncd
