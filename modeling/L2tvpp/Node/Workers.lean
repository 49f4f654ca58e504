import L2tvpp.Lib.Queues
import L2tvpp.Node.InputFrame

/-!
# The session handoff between threads

`l2tvpp-handoff` spreads the packets of its frames over the queues of the
worker threads, and on each thread `l2tvpp-input` runs over what comes out of
its queue.  Calls of the control plane come in between.
-/

namespace L2tvpp.Node

open L2tvpp.Lib
open L2tvpp.Plugin

/-! ## The graph -/

def vlibFrameSize : Nat := 256

def l2tvppHandoffNode (nWorkers : U32) (thisThread : U16)
    (frame : List VlibBuffer) : Except MemFault (List U16) :=
  frame.mapM (l2tvppHandoff nWorkers thisThread)

/-- One packet that came out of a queue, as `l2tvpp-input` left it, and the
state of the plugin at that time. -/
structure Processed where
  thread : U16
  buffer : VlibBuffer
  vpp : Vpp
  enqueued : Enqueued

/-- The queues hold the buffers by the thread that they are for. -/
structure WorkerGraph where
  vpp : Vpp
  queues : Queues U16 VlibBuffer
  /-- "congestion drop" of `l2tvpp-handoff`. -/
  congestion : U64
  rx : U16 → RxCounters
  errors : U16 → InputError → U64
  processed : List Processed
  /-- How many packets had been processed when an interface was created; no
  variable of the code. -/
  since : Nat → Nat

/-- What happens next: a call, a frame at `l2tvpp-handoff` on a thread, where
`hasRoom` tells which queues have room, or a frame of what waits for a thread. -/
inductive WorkerEvent where
  | call (call : Call)
  | handoff (thisThread : U16) (frame : List VlibBuffer) (hasRoom : U16 → Bool)
  | input (thread : U16) (count : Nat)

/-- `vlib_buffer_enqueue_to_thread` drops what finds its queue full, and returns
the number of the others. -/
def vlibBufferEnqueueToThread (queues : Queues U16 VlibBuffer)
    (frame : List VlibBuffer) (threads : List U16) (hasRoom : U16 → Bool) :
    Queues U16 VlibBuffer × Nat :=
  (run Queues.step queues
      ((frame.zip threads).map fun entry =>
        .offer entry.2 entry.1 (hasRoom entry.2)),
    threads.countP hasRoom)

/-- The interface comes into being, and `vnet_create_sw_interface` zeroes its
counters. -/
def createsInterface (v v' : Vpp) (i : Nat) : Bool :=
  (v.swInterfaces.elt? i).isNone && (v'.swInterfaces.elt? i).isSome

section Step

variable (P : Policies) (nWorkers : U32)

def workerStep (g : WorkerGraph) : WorkerEvent → Except MemFault WorkerGraph
  | .call call =>
      let vpp := step P g.vpp call
      pure { g with
        vpp := vpp
        rx := fun thread i =>
          if createsInterface g.vpp vpp i then ⟨0, 0⟩ else g.rx thread i
        since := fun i =>
          if createsInterface g.vpp vpp i then g.processed.length
          else g.since i }
  | .handoff thisThread frame hasRoom => do
      let threads ← l2tvppHandoffNode nWorkers thisThread frame
      let (queues, nEnq) :=
        vlibBufferEnqueueToThread g.queues frame threads hasRoom
      pure { g with
        queues := queues
        congestion :=
          if nEnq < frame.length then
            g.congestion + BitVec.ofNat 64 (frame.length - nEnq)
          else g.congestion }
  | .input thread count => do
      let count := min count vlibFrameSize
      let frame := (g.queues.waiting thread).take count
      let out ← l2tvppInputNode g.vpp.lm (g.rx thread) (g.errors thread) frame
      pure { g with
        queues := g.queues.step (.take thread count)
        rx := Function.update g.rx thread out.rx
        errors := Function.update g.errors thread out.errors
        processed := g.processed ++ (frame.zip out.enqueued).map fun entry =>
          ⟨thread, entry.1, g.vpp, entry.2⟩ }

def WorkerGraph.initial (hwInterfaces : Pool HwInterface)
    (swInterfaces : Pool SwInterface) : WorkerGraph where
  vpp := Vpp.initial hwInterfaces swInterfaces
  queues := Queues.empty
  congestion := 0
  rx _ _ := ⟨0, 0⟩
  errors _ _ := 0
  processed := []
  since _ := 0

def runWorkers (hwInterfaces : Pool HwInterface)
    (swInterfaces : Pool SwInterface) (events : List WorkerEvent) :
    Except MemFault WorkerGraph :=
  events.foldlM (workerStep P nWorkers)
    (WorkerGraph.initial hwInterfaces swInterfaces)

end Step

/-! ## What a run is compared with -/

namespace WorkerEvent

def call? : WorkerEvent → Option Call
  | call c => some c
  | _ => none

/-- The buffers that arrive with an event. -/
def arrivals : WorkerEvent → List VlibBuffer
  | handoff _ frame _ => frame
  | _ => []

end WorkerEvent

/-- The packet is data of the session with these ids. -/
def hasIds (tid sid : U16) (b : VlibBuffer) : Bool :=
  match l2tvppParseHdr b.current 0 b.currentLength.toNat with
  | .ok (.data _ tid' sid' _) => tid' == tid && sid' == sid
  | .ok .tooShort | .ok .notV2 | .ok .control | .error _ => false

theorem hasIds_iff {tid sid : U16} {b : VlibBuffer} :
    hasIds tid sid b = true ↔ ∃ flags off,
      l2tvppParseHdr b.current 0 b.currentLength.toNat =
        .ok (.data flags tid sid off) := by
  unfold hasIds
  cases l2tvppParseHdr b.current 0 b.currentLength.toNat with
  | error fault => simp
  | ok hdr =>
      cases hdr with
      | data flags tid' sid' off =>
          simp only [Bool.and_eq_true, beq_iff_eq]
          constructor
          · rintro ⟨rfl, rfl⟩
            exact ⟨flags, off, rfl⟩
          · rintro ⟨flags', off', h'⟩
            cases h'
            exact ⟨rfl, rfl⟩
      | tooShort => simp
      | notV2 => simp
      | control => simp

/-- The thread that `l2tvpp-handoff` picks; it always picks one. -/
def handoffThread (nWorkers : U32) (thisThread : U16) (b : VlibBuffer) : U16 :=
  match l2tvppHandoff nWorkers thisThread b with
  | .ok thread => thread
  | .error _ => thisThread

section Threads

variable (nWorkers : U32) (thisThread : U16)

theorem l2tvppHandoff_eq (b : VlibBuffer) :
    l2tvppHandoff nWorkers thisThread b =
      .ok (handoffThread nWorkers thisThread b) := by
  obtain ⟨thread, hthread, -⟩ := SafeRun.returns
    (safeRun_l2tvppHandoff nWorkers thisThread b)
  rw [handoffThread, hthread]

theorem l2tvppHandoffNode_eq (frame : List VlibBuffer) :
    l2tvppHandoffNode nWorkers thisThread frame =
      .ok (frame.map (handoffThread nWorkers thisThread)) := by
  induction frame with
  | nil => rfl
  | cons b frame ih =>
      unfold l2tvppHandoffNode at ih ⊢
      rw [List.mapM_cons, l2tvppHandoff_eq, ih]
      rfl

variable {nWorkers} in
/-- The worker of a data packet follows from its ids. -/
theorem handoffThread_of_hasIds {tid sid : U16} {b : VlibBuffer}
    (hworkers : nWorkers ≠ 0) (h : hasIds tid sid b = true) :
    handoffThread nWorkers thisThread b =
      l2tvppHandoffWorker tid sid nWorkers := by
  obtain ⟨flags, off, hparse⟩ := hasIds_iff.mp h
  simp only [handoffThread, l2tvppHandoff, if_neg hworkers, hparse, ok_bind]
  rfl

end Threads

/-- What an event does to the queues. -/
def WorkerEvent.queueEvents (nWorkers : U32) :
    WorkerEvent → List (QueueEvent U16 VlibBuffer)
  | .call _ => []
  | .handoff thisThread frame hasRoom => frame.map fun b =>
      let thread := handoffThread nWorkers thisThread b
      .offer thread b (hasRoom thread)
  | .input thread count => [.take thread (min count vlibFrameSize)]

theorem offered_handoff (nWorkers : U32) (events : List WorkerEvent) :
    ((events.flatMap (WorkerEvent.queueEvents nWorkers)).filterMap
      QueueEvent.offered).map Prod.snd =
      events.flatMap WorkerEvent.arrivals := by
  induction events with
  | nil => rfl
  | cons event events ih =>
      rw [List.flatMap_cons, List.filterMap_append, List.map_append, ih,
        List.flatMap_cons]
      congr 1
      cases event with
      | call c => rfl
      | input thread count => rfl
      | handoff thisThread frame hasRoom =>
          simp [WorkerEvent.queueEvents, WorkerEvent.arrivals,
            List.filterMap_map, Function.comp_def, QueueEvent.offered]

theorem offered_hasIds {nWorkers : U32} (hworkers : nWorkers ≠ 0)
    (tid sid : U16) (events : List WorkerEvent) :
    ∀ entry ∈ (events.flatMap (WorkerEvent.queueEvents nWorkers)).filterMap
        QueueEvent.offered,
      hasIds tid sid entry.2 = true →
        entry.1 = l2tvppHandoffWorker tid sid nWorkers := by
  intro entry hentry hids
  obtain ⟨queueEvent, hmem, hoffered⟩ := List.mem_filterMap.mp hentry
  obtain ⟨event, -, hevent⟩ := List.mem_flatMap.mp hmem
  cases event with
  | call c => cases hevent
  | input thread count =>
      rw [List.mem_singleton.mp hevent] at hoffered
      cases hoffered
  | handoff thisThread frame hasRoom =>
      obtain ⟨b, -, rfl⟩ := List.mem_map.mp hevent
      cases hoffered
      exact handoffThread_of_hasIds thisThread hworkers hids

/-! ## One event -/

/-- What the run of the graph so far is to what has happened. -/
structure GraphFollows (P : Policies) (nWorkers : U32)
    (hwInterfaces : Pool HwInterface) (swInterfaces : Pool SwInterface)
    (g : WorkerGraph) (events : List WorkerEvent) : Prop where
  vpp : g.vpp = runCalls P hwInterfaces swInterfaces
    (events.filterMap WorkerEvent.call?)
  queues : g.queues.Follows (events.flatMap (WorkerEvent.queueEvents nWorkers))
  taken : g.processed.map (fun e => (e.thread, e.buffer)) = g.queues.taken
  congestion : g.congestion = BitVec.ofNat 64 g.queues.refused.length
  processed : ∀ e ∈ g.processed, ∃ calls result,
    calls <+: events.filterMap WorkerEvent.call? ∧
    e.vpp = runCalls P hwInterfaces swInterfaces calls ∧
    l2tvppInput e.vpp.lm e.buffer = .ok result ∧ e.enqueued = result.enqueue

section Input

variable {v : Vpp} (hinv : StoreInv v)

include hinv

theorem l2tvppInput_returns (frame : List VlibBuffer) :
    ∃ results, List.Forall₂ (fun b result => l2tvppInput v.lm b = .ok result)
      frame results := by
  refine exists_forall₂ fun b _ => ?_
  obtain ⟨result, hresult, -⟩ :=
    SafeRun.returns (safeRun_l2tvppInput b hinv.not_freed)
  exact ⟨result, hresult⟩

/-- `l2tvpp-input` over a frame returns. -/
theorem l2tvppInputNode_returns (rx : RxCounters) (errors : InputError → U64)
    (frame : List VlibBuffer) :
    ∃ results loop,
      List.Forall₂ (fun b result => l2tvppInput v.lm b = .ok result) frame
        results ∧
      loop = results.foldl InputLoop.account
        ⟨fun _ => 0, InputStats.empty, rx, []⟩ ∧
      l2tvppInputNode v.lm rx errors frame = .ok (loop.finish errors) := by
  obtain ⟨results, hresults⟩ := l2tvppInput_returns hinv frame
  refine ⟨results, _, hresults, rfl, ?_⟩
  rw [l2tvppInputNode, foldlM_account hresults]
  rfl

end Input

theorem foldl_account_enqueued (s : InputLoop) (results : List InputResult) :
    (results.foldl InputLoop.account s).enqueued =
      s.enqueued ++ results.map InputResult.enqueue := by
  induction results generalizing s with
  | nil => simp
  | cons result results ih =>
      rw [List.foldl_cons, ih]
      simp [InputLoop.account]

section Graph

variable {P : Policies} {nWorkers : U32} {hwInterfaces : Pool HwInterface}
  {swInterfaces : Pool SwInterface} {g : WorkerGraph}
  {events : List WorkerEvent}

theorem GraphFollows.initial :
    GraphFollows P nWorkers hwInterfaces swInterfaces
      (WorkerGraph.initial hwInterfaces swInterfaces) [] where
  vpp := rfl
  queues := Queues.follows_empty
  taken := rfl
  congestion := rfl
  processed _ h := by cases h

variable (h : GraphFollows P nWorkers hwInterfaces swInterfaces g events)

include h

theorem GraphFollows.store : StoreInv g.vpp := by
  rw [h.vpp]
  exact StoreInv.runCalls P hwInterfaces swInterfaces _

theorem GraphFollows.earlier (event : WorkerEvent) :
    ∀ e ∈ g.processed, ∃ calls result,
      calls <+: (events ++ [event]).filterMap WorkerEvent.call? ∧
      e.vpp = runCalls P hwInterfaces swInterfaces calls ∧
      l2tvppInput e.vpp.lm e.buffer = .ok result ∧
      e.enqueued = result.enqueue := by
  intro e he
  obtain ⟨calls, result, hcalls, hrest⟩ := h.processed e he
  refine ⟨calls, result, ?_, hrest⟩
  rw [List.filterMap_append]
  exact hcalls.trans (List.prefix_append _ _)

theorem GraphFollows.call (c : Call) :
    ∃ g', workerStep P nWorkers g (.call c) = .ok g' ∧
      GraphFollows P nWorkers hwInterfaces swInterfaces g'
        (events ++ [.call c]) := by
  refine ⟨_, rfl, ?_, ?_, h.taken, h.congestion, h.earlier _⟩
  · rw [List.filterMap_append]
    change Plugin.step P g.vpp c = run (Plugin.step P) _ (_ ++ [c])
    rw [run, List.foldl_append, h.vpp]
    rfl
  · simpa [WorkerEvent.queueEvents] using h.queues

omit h in
/-- Of what is offered, that which finds no room is refused. -/
theorem run_offers (queues : Queues U16 VlibBuffer) (frame : List VlibBuffer)
    (thread : VlibBuffer → U16) (hasRoom : U16 → Bool) :
    (run Queues.step queues (frame.map fun b =>
        .offer (thread b) b (hasRoom (thread b)))).taken = queues.taken ∧
    (run Queues.step queues (frame.map fun b =>
        .offer (thread b) b (hasRoom (thread b)))).refused.length =
      queues.refused.length +
        (frame.length - (frame.map thread).countP hasRoom) := by
  induction frame generalizing queues with
  | nil => exact ⟨rfl, rfl⟩
  | cons b frame ih =>
      have hle : (frame.map thread).countP hasRoom ≤ frame.length := by
        simpa using List.countP_le_length (p := hasRoom) (l := frame.map thread)
      obtain ⟨htaken, hrefused⟩ := ih
        (queues.step (.offer (thread b) b (hasRoom (thread b))))
      rw [List.map_cons, List.map_cons, List.countP_cons, List.length_cons]
      refine ⟨htaken.trans ?_, hrefused.trans ?_⟩
      · unfold Queues.step
        dsimp only
        split <;> rfl
      · unfold Queues.step
        cases hroom : hasRoom (thread b) with
        | true =>
            simp only [if_true]
            omega
        | false =>
            simp only [Bool.false_eq_true, if_false, List.length_append,
              List.length_cons, List.length_nil]
            omega

omit h in
theorem workerStep_handoff (P : Policies) (nWorkers : U32) (g : WorkerGraph)
    (thisThread : U16) (frame : List VlibBuffer) (hasRoom : U16 → Bool) :
    workerStep P nWorkers g (.handoff thisThread frame hasRoom) = .ok { g with
      queues := run Queues.step g.queues
        ((WorkerEvent.handoff thisThread frame hasRoom).queueEvents nWorkers)
      congestion := g.congestion + BitVec.ofNat 64 (frame.length -
        (frame.map (handoffThread nWorkers thisThread)).countP hasRoom) } := by
  have hoffers : (frame.zip (frame.map
        (handoffThread nWorkers thisThread))).map (fun entry =>
        QueueEvent.offer entry.2 entry.1 (hasRoom entry.2)) =
      (WorkerEvent.handoff thisThread frame hasRoom).queueEvents nWorkers := by
    induction frame with
    | nil => rfl
    | cons b frame ih =>
        rw [List.map_cons, List.zip_cons_cons, List.map_cons, ih]
        rfl
  have hcongestion : (if (frame.map (handoffThread nWorkers thisThread)).countP
        hasRoom < frame.length then
      g.congestion + BitVec.ofNat 64 (frame.length -
        (frame.map (handoffThread nWorkers thisThread)).countP hasRoom)
      else g.congestion) = g.congestion + BitVec.ofNat 64 (frame.length -
        (frame.map (handoffThread nWorkers thisThread)).countP hasRoom) := by
    split
    · rfl
    · rename_i hall
      rw [Nat.sub_eq_zero_of_le (Nat.le_of_not_lt hall)]
      simp
  simp only [workerStep, l2tvppHandoffNode_eq, ok_bind,
    vlibBufferEnqueueToThread, hoffers]
  exact congrArg (fun congestion => Except.ok { g with
    queues := run Queues.step g.queues
      ((WorkerEvent.handoff thisThread frame hasRoom).queueEvents nWorkers)
    congestion := congestion }) hcongestion

theorem GraphFollows.handoff (thisThread : U16) (frame : List VlibBuffer)
    (hasRoom : U16 → Bool) :
    ∃ g', workerStep P nWorkers g (.handoff thisThread frame hasRoom) = .ok g' ∧
      GraphFollows P nWorkers hwInterfaces swInterfaces g'
        (events ++ [.handoff thisThread frame hasRoom]) := by
  obtain ⟨htaken, hrefused⟩ := run_offers g.queues frame
    (handoffThread nWorkers thisThread) hasRoom
  refine ⟨_, workerStep_handoff P nWorkers g thisThread frame hasRoom, ?_, ?_,
    h.taken.trans htaken.symm, ?_, h.earlier _⟩
  · rw [List.filterMap_append]
    exact h.vpp.trans (congrArg _ (List.append_nil _).symm)
  · rw [List.flatMap_append, List.flatMap_cons, List.flatMap_nil,
      List.append_nil]
    exact h.queues.run _
  · refine Eq.trans ?_ (congrArg (BitVec.ofNat 64) hrefused).symm
    rw [BitVec.ofNat_add, ← h.congestion]

theorem GraphFollows.input (thread : U16) (count : Nat) :
    ∃ g', workerStep P nWorkers g (.input thread count) = .ok g' ∧
      GraphFollows P nWorkers hwInterfaces swInterfaces g'
        (events ++ [.input thread count]) := by
  let frame := (g.queues.waiting thread).take (min count vlibFrameSize)
  obtain ⟨results, loop, hresults, hloop, hnode⟩ := l2tvppInputNode_returns
    h.store (g.rx thread) (g.errors thread) frame
  have henqueued : loop.enqueued = results.map InputResult.enqueue := by
    rw [hloop, foldl_account_enqueued]
    rfl
  have hzip : (frame.zip loop.enqueued).map Prod.fst = frame := by
    rw [List.map_fst_zip]
    rw [henqueued, List.length_map, hresults.length_eq]
  refine ⟨_, by
    simp only [workerStep]
    rw [hnode, ok_bind]
    rfl, ?_, ?_, ?_, ?_, ?_⟩
  · rw [List.filterMap_append]
    exact h.vpp.trans (congrArg _ (List.append_nil _).symm)
  · rw [List.flatMap_append, List.flatMap_cons, List.flatMap_nil,
      List.append_nil]
    exact h.queues.step (.take thread (min count vlibFrameSize))
  · rw [List.map_append, h.taken, List.map_map]
    change _ = g.queues.taken ++ frame.map (Prod.mk thread)
    congr 1
    conv_rhs => rw [← hzip]
    rw [List.map_map]
    rfl
  · exact h.congestion
  · intro e he
    rcases List.mem_append.mp he with hold | hnew
    · exact h.earlier _ e hold
    · obtain ⟨entry, hentry, rfl⟩ := List.mem_map.mp hnew
      change entry ∈ frame.zip loop.enqueued at hentry
      rw [henqueued, List.zip_map_right] at hentry
      obtain ⟨pair, hpair, rfl⟩ := List.mem_map.mp hentry
      refine ⟨events.filterMap WorkerEvent.call?, pair.2, ?_, h.vpp,
        (List.forall₂_iff_zip.mp hresults).2 hpair, rfl⟩
      rw [List.filterMap_append]
      exact List.prefix_append _ _

theorem GraphFollows.step (event : WorkerEvent) :
    ∃ g', workerStep P nWorkers g event = .ok g' ∧
      GraphFollows P nWorkers hwInterfaces swInterfaces g'
        (events ++ [event]) := by
  cases event with
  | call c => exact h.call c
  | handoff thisThread frame hasRoom => exact h.handoff thisThread frame hasRoom
  | input thread count => exact h.input thread count

theorem GraphFollows.run (more : List WorkerEvent) :
    ∃ g', more.foldlM (workerStep P nWorkers) g = .ok g' ∧
      GraphFollows P nWorkers hwInterfaces swInterfaces g'
        (events ++ more) := by
  induction more generalizing g events with
  | nil =>
      rw [List.append_nil]
      exact ⟨g, rfl, h⟩
  | cons event more ih =>
      obtain ⟨g', hg', hfollows⟩ := h.step event
      obtain ⟨g'', hg'', hrest⟩ := ih hfollows
      refine ⟨g'', ?_, ?_⟩
      · rw [List.foldlM_cons, hg']
        exact hg''
      · rw [← List.singleton_append, ← List.append_assoc]
        exact hrest

end Graph

/-! ## Sessions stay in order -/

section Run

variable (P : Policies) (nWorkers : U32) (hwInterfaces : Pool HwInterface)
  (swInterfaces : Pool SwInterface)

theorem runWorkers_follows (events : List WorkerEvent) :
    ∃ g, runWorkers P nWorkers hwInterfaces swInterfaces events = .ok g ∧
      GraphFollows P nWorkers hwInterfaces swInterfaces g events :=
  GraphFollows.initial.run events

/-- In every run, with frames on any threads, queues of any depth and calls in
between, the packets of a session are processed on one worker, in the order in
which they arrived; every packet is processed once, or still waits, or was
dropped as congestion and counted. -/
theorem sessionHandoff_ordered (hworkers : nWorkers ≠ 0)
    (events : List WorkerEvent) :
    ∃ g, runWorkers P nWorkers hwInterfaces swInterfaces events = .ok g ∧
      (∀ tid sid,
        let worker := l2tvppHandoffWorker tid sid nWorkers
        (∀ e ∈ g.processed, hasIds tid sid e.buffer = true →
          e.thread = worker) ∧
        ((g.processed.map Processed.buffer).filter (hasIds tid sid) ++
          (g.queues.waiting worker).filter (hasIds tid sid)).Sublist
            ((events.flatMap WorkerEvent.arrivals).filter (hasIds tid sid))) ∧
      (∃ waiting : List (U16 × VlibBuffer),
        (∀ thread, itemsFor thread waiting = g.queues.waiting thread) ∧
        (g.processed.map Processed.buffer ++ waiting.map Prod.snd ++
          g.queues.refused.map Prod.snd).Perm
            (events.flatMap WorkerEvent.arrivals)) ∧
      g.congestion = BitVec.ofNat 64 g.queues.refused.length := by
  obtain ⟨g, hg, hfollows⟩ :=
    runWorkers_follows P nWorkers hwInterfaces swInterfaces events
  have hbuffers : g.processed.map Processed.buffer =
      g.queues.taken.map Prod.snd := by
    rw [← hfollows.taken, List.map_map]
    rfl
  refine ⟨g, hg, ?_, ?_, hfollows.congestion⟩
  · intro tid sid worker
    have hkey := offered_hasIds hworkers tid sid events
    constructor
    · intro e he hids
      have htaken : (e.thread, e.buffer) ∈ g.queues.taken := by
        rw [← hfollows.taken]
        exact List.mem_map.mpr ⟨e, he, rfl⟩
      exact hfollows.queues.class_key hkey htaken hids
    · rw [hbuffers, ← offered_handoff nWorkers events]
      exact hfollows.queues.class_order hkey
  · obtain ⟨waiting, hwaiting, hperm⟩ := hfollows.queues.conserved
    refine ⟨waiting, hwaiting, ?_⟩
    rw [hbuffers, ← offered_handoff nWorkers events, ← List.map_append,
      ← List.map_append]
    exact hperm.map Prod.snd

/-- Data of two sessions, on two receiving threads; one queue is full. -/
def twoSessions : List WorkerEvent :=
  let data (sid : U8) := bufferOf [0, 2, 0, 100, 0, sid, 0xff, 3, 0, 0x21, 0x45]
  (oneSession.map .call) ++
    [.handoff 1 [data 7, data 9, data 7] fun _ => true,
      .input 1 1, .handoff 2 [data 9, data 7] (· == 1), .input 1 8, .input 2 8]

theorem sessionHandoff_ordered_twoSessions :
    ∃ g, runWorkers Policies.lifo 2 Pool.empty Pool.empty twoSessions = .ok g ∧
      ((g.processed.map Processed.buffer).filter (hasIds 100 7)).Sublist
        ((twoSessions.flatMap WorkerEvent.arrivals).filter (hasIds 100 7)) := by
  obtain ⟨g, hg, hordered, -⟩ := sessionHandoff_ordered Policies.lifo 2
    Pool.empty Pool.empty (by decide) twoSessions
  exact ⟨g, hg, (List.sublist_append_left _ _).trans (hordered 100 7).2⟩

end Run

/-! ## Packets in flight while sessions come and go -/

/-- The packet went on as received on the interface `i`. -/
def Processed.receivedOn (i : Nat) (e : Processed) : Bool :=
  e.enqueued.next != .punt && e.enqueued.next != .drop &&
    e.enqueued.buffer.swIfIndexRx == i

theorem receivedOn_enqueue {e : Processed} {result : InputResult}
    (h : e.enqueued = result.enqueue) (i : Nat) :
    e.receivedOn i = result.receivedOn i := by
  rw [Processed.receivedOn, h]
  rfl

/-- A packet that is decapsulated has the ids of the session it goes to. -/
theorem decapsulated_hasIds {v : Vpp} (hinv : StoreInv v) {b : VlibBuffer}
    {result : InputResult} (h : l2tvppInput v.lm b = .ok result)
    (hdecap : result.decapsulated = true) :
    ∃ index sess, v.lm.sessions.elt? index = some sess ∧
      result.buffer.swIfIndexRx = sess.swIfIndex ∧
      hasIds sess.localTid sess.localSid b = true := by
  obtain ⟨index, sess, cur, hindex, hsess, hbuffer, -⟩ :=
    l2tvppInput_decapsulated h hdecap
  refine ⟨index, sess, hsess, by rw [hbuffer]; rfl, ?_⟩
  obtain ⟨hdr, hparse, hrest⟩ := ok_of_bind h
  cases hdr with
  | notV2 =>
      cases hrest
      cases hdecap
  | control =>
      cases hrest
      cases hdecap
  | tooShort =>
      cases hrest
      cases hdecap
  | data flags tid sid off =>
      obtain ⟨walked, hskip, -⟩ := ok_of_bind hrest
      cases walked with
      | none =>
          simp only [hskip, ok_bind] at hrest
          cases hrest
          cases hdecap
      | some cur =>
          obtain ⟨result', hresult', hsession⟩ :=
            l2tvppInput_session hinv hparse hskip
          rw [h] at hresult'
          cases hresult'
          obtain ⟨sess', hsess', htid, hsid⟩ := (hsession index).mp hindex
          rw [hsess] at hsess'
          cases hsess'
          rw [htid, hsid]
          exact hasIds_iff.mpr ⟨flags, off, hparse⟩

/-- Whatever is called while a packet waits in a queue, it is received on the
interface of the session that has its ids when it is processed, and on no
interface when there is none. -/
theorem sessionHandoff_attributes (P : Policies) (nWorkers : U32)
    (hwInterfaces : Pool HwInterface) (swInterfaces : Pool SwInterface)
    (events : List WorkerEvent) :
    ∃ g, runWorkers P nWorkers hwInterfaces swInterfaces events = .ok g ∧
      ∀ e ∈ g.processed, ∃ calls,
        calls <+: events.filterMap WorkerEvent.call? ∧
        e.vpp = runCalls P hwInterfaces swInterfaces calls ∧
        (∀ i, e.receivedOn i = true → ∃ index sess,
          e.vpp.lm.sessions.elt? index = some sess ∧ sess.swIfIndex = i ∧
          hasIds sess.localTid sess.localSid e.buffer = true) ∧
        ∀ tid sid, hasIds tid sid e.buffer = true →
          (∀ index sess, e.vpp.lm.sessions.elt? index = some sess →
            ¬ (sess.localTid = tid ∧ sess.localSid = sid)) →
          e.enqueued.next = .punt ∨ e.enqueued.next = .drop := by
  obtain ⟨g, hg, hfollows⟩ :=
    runWorkers_follows P nWorkers hwInterfaces swInterfaces events
  refine ⟨g, hg, fun e he => ?_⟩
  obtain ⟨calls, result, hcalls, hvpp, hresult, henqueued⟩ :=
    hfollows.processed e he
  have hinv : StoreInv e.vpp := by
    rw [hvpp]
    exact StoreInv.runCalls P hwInterfaces swInterfaces calls
  refine ⟨calls, hcalls, hvpp, ?_, ?_⟩
  · intro i hi
    rw [receivedOn_enqueue henqueued, InputResult.receivedOn, Bool.and_eq_true,
      beq_iff_eq] at hi
    obtain ⟨index, sess, hsess, hswIfIndex, hids⟩ :=
      decapsulated_hasIds hinv hresult hi.1
    exact ⟨index, sess, hsess, hswIfIndex.symm.trans hi.2, hids⟩
  · intro tid sid hids hgone
    cases hdecap : result.decapsulated with
    | false =>
        rw [henqueued]
        change result.next = .punt ∨ result.next = .drop
        simpa [InputResult.decapsulated, or_iff_not_imp_left] using hdecap
    | true =>
        obtain ⟨index, sess, hsess, -, hids'⟩ :=
          decapsulated_hasIds hinv hresult hdecap
        obtain ⟨flags, off, hparse⟩ := hasIds_iff.mp hids
        obtain ⟨flags', off', hparse'⟩ := hasIds_iff.mp hids'
        rw [hparse] at hparse'
        cases hparse'
        exact absurd ⟨rfl, rfl⟩ (hgone index sess hsess)

end L2tvpp.Node
