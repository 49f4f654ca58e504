import Mathlib.Algebra.Order.BigOperators.Group.List
import Mathlib.Algebra.Order.Ring.Nat
import L2tvpp.Node.Workers

/-!
# What a session dump counts

The receive counters of an interface over runs of the worker graph, summed over
the threads as `send_session_details` does.  Interface indices and session ids
are used again, and packets wait in queues while sessions come and go.
-/

namespace L2tvpp.Node

open L2tvpp.Lib
open L2tvpp.Plugin

/-! ## The counters of a thread -/

def Processed.bytes (e : Processed) : Nat :=
  (vlibBufferLengthInChain e.enqueued.buffer).toNat

def Processed.decapsulated (e : Processed) : Bool :=
  e.enqueued.next != .punt && e.enqueued.next != .drop

/-- What has been processed since the interface was created. -/
def WorkerGraph.recent (g : WorkerGraph) (i : Nat) : List Processed :=
  g.processed.drop (g.since i)

/-- The packets processed on a thread and received on an interface. -/
def receivedAt (thread : U16) (i : Nat) (processed : List Processed) :
    List Processed :=
  processed.filter fun e => e.thread == thread && e.receivedOn i

def counterOf (processed : List Processed) : VlibCounter :=
  ⟨BitVec.ofNat 64 processed.length,
    BitVec.ofNat 64 (processed.map Processed.bytes).sum⟩

/-- The counters of each thread are what was received on it. -/
structure RxCounted (g : WorkerGraph) : Prop where
  since_le : ∀ i, g.since i ≤ g.processed.length
  rx : ∀ thread i, g.rx thread i = counterOf (receivedAt thread i (g.recent i))

/-- The counters after a frame. -/
theorem l2tvppInputNode_rx {v : Vpp} (hinv : StoreInv v) (rx : RxCounters)
    (errors : InputError → U64) {frame : List VlibBuffer}
    (hlength : frame.length < 2 ^ 32) (hbytes : frameBytes frame < 2 ^ 32) :
    ∃ results out,
      List.Forall₂ (fun b result => l2tvppInput v.lm b = .ok result) frame
        results ∧
      l2tvppInputNode v.lm rx errors frame = .ok out ∧
      out.enqueued = results.map InputResult.enqueue ∧
      ∀ i, out.rx i =
        (rx i).add (BitVec.ofNat 64 (results.countP (InputResult.receivedOn i)))
          (BitVec.ofNat 64 (bytesWhere (InputResult.receivedOn i) results)) := by
  obtain ⟨results, loop, hresults, hloop, hnode⟩ :=
    l2tvppInputNode_returns hinv rx errors frame
  have haccounted : Accounted rx results loop := by
    rw [hloop]
    refine (Accounted.initial rx).foldl results ?_
      ((bytesWhere_le hresults).trans_lt hbytes)
    simpa [← hresults.length_eq] using hlength
  exact ⟨results, _, hresults, hnode, haccounted.enqueued, haccounted.received⟩

def packetBytes (b : VlibBuffer) : Nat :=
  b.currentLength.toNat + b.restLength.toNat

theorem frameBytes_lt {frame : List VlibBuffer}
    (hlength : frame.length ≤ vlibFrameSize)
    (hbytes : ∀ b ∈ frame, packetBytes b < 2 ^ 24) :
    frameBytes frame < 2 ^ 32 := by
  have hsum : frameBytes frame ≤ frame.length * (2 ^ 24 - 1) := by
    unfold frameBytes
    have hsum := List.sum_le_card_nsmul (frame.map fun b =>
      b.currentLength.toNat + b.restLength.toNat) (2 ^ 24 - 1) fun n hn => by
        obtain ⟨b, hb, rfl⟩ := List.mem_map.mp hn
        exact Nat.le_sub_one_of_lt (hbytes b hb)
    rwa [List.length_map, nsmul_eq_mul] at hsum
  have hsize : vlibFrameSize = 256 := rfl
  omega

section Received

variable {P : Policies} {nWorkers : U32} {hwInterfaces : Pool HwInterface}
  {swInterfaces : Pool SwInterface} {g : WorkerGraph}
  {events : List WorkerEvent}

/-- What waits has arrived. -/
theorem GraphFollows.waiting_arrived
    (h : GraphFollows P nWorkers hwInterfaces swInterfaces g events)
    {thread : U16} {b : VlibBuffer} (hb : b ∈ g.queues.waiting thread) :
    b ∈ events.flatMap WorkerEvent.arrivals := by
  rw [← offered_handoff nWorkers events]
  refine List.mem_map.mpr ⟨(thread, b), ?_, rfl⟩
  refine (QueueEvent.accepted_sublist _).subset (mem_itemsFor.mp ?_)
  rw [← h.queues.fifo thread]
  exact List.mem_append_right _ hb

/-- The entries that a frame on a thread adds. -/
theorem receivedAt_frame (thread other : U16) (v : Vpp) (i : Nat)
    {frame : List VlibBuffer} {results : List InputResult}
    (hlength : frame.length = results.length) :
    let entries := (frame.zip (results.map InputResult.enqueue)).map
      fun entry => (⟨thread, entry.1, v, entry.2⟩ : Processed)
    (receivedAt other i entries).length =
        (if thread = other then results.countP (InputResult.receivedOn i)
          else 0) ∧
      ((receivedAt other i entries).map Processed.bytes).sum =
        (if thread = other then bytesWhere (InputResult.receivedOn i) results
          else 0) := by
  intro entries
  have hreceived : receivedAt other i entries =
      if thread = other then
        ((frame.zip results).filter fun entry => entry.2.receivedOn i).map
          fun entry => ⟨thread, entry.1, v, entry.2.enqueue⟩
      else [] := by
    unfold receivedAt
    simp only [entries, List.zip_map_right, List.map_map, List.filter_map]
    split
    · rename_i hthread
      congr 1
      apply List.filter_congr
      intro entry _
      simp only [Function.comp, hthread, beq_self_eq_true, Bool.true_and]
      rfl
    · rename_i hthread
      rw [List.filter_eq_nil_iff.mpr]
      · rfl
      · intro entry _
        simp [hthread]
  have hsnd : (frame.zip results).map Prod.snd = results :=
    List.map_snd_zip (Nat.le_of_eq hlength.symm)
  have hfilter : ((frame.zip results).filter fun entry =>
      entry.2.receivedOn i).map Prod.snd =
        results.filter (InputResult.receivedOn i) := by
    conv_rhs => rw [← hsnd, List.filter_map]
    rfl
  rw [hreceived]
  split
  · rw [List.length_map, List.map_map, List.countP_eq_length_filter, ← hfilter,
      List.length_map, bytesWhere, ← hfilter, List.map_map]
    exact ⟨rfl, rfl⟩
  · exact ⟨rfl, rfl⟩

theorem receivedAt_append (thread : U16) (i : Nat)
    (first second : List Processed) :
    receivedAt thread i (first ++ second) =
      receivedAt thread i first ++ receivedAt thread i second :=
  List.filter_append _ _

theorem counterOf_append (first second : List Processed) :
    counterOf (first ++ second) = (counterOf first).add
      (BitVec.ofNat 64 second.length)
      (BitVec.ofNat 64 (second.map Processed.bytes).sum) := by
  simp [counterOf, VlibCounter.add, BitVec.ofNat_add]

theorem RxCounted.call (hrx : RxCounted g) (c : Call) {g' : WorkerGraph}
    (hg' : workerStep P nWorkers g (.call c) = .ok g') : RxCounted g' := by
  cases hg'
  refine ⟨?_, ?_⟩
  · intro i
    dsimp only
    split
    · exact Nat.le_refl _
    · exact hrx.since_le i
  · intro thread i
    unfold WorkerGraph.recent
    dsimp only
    split
    · rw [List.drop_length]
      rfl
    · exact hrx.rx thread i

/-- What one frame of `l2tvpp-input` on a thread does. -/
theorem workerStep_input
    (h : GraphFollows P nWorkers hwInterfaces swInterfaces g events)
    (hbytes : ∀ b ∈ events.flatMap WorkerEvent.arrivals, packetBytes b < 2 ^ 24)
    {thread : U16} {count : Nat} {g' : WorkerGraph}
    (hg' : workerStep P nWorkers g (.input thread count) = .ok g') :
    ∃ (frame : List VlibBuffer) (results : List InputResult) (rx : RxCounters)
      (queues : Queues U16 VlibBuffer) (errors : U16 → InputError → U64),
      frame.length = results.length ∧
      (∀ i, rx i = (g.rx thread i).add
        (BitVec.ofNat 64 (results.countP (InputResult.receivedOn i)))
        (BitVec.ofNat 64 (bytesWhere (InputResult.receivedOn i) results))) ∧
      g' = { g with
        queues := queues
        rx := Function.update g.rx thread rx
        errors := errors
        processed := g.processed ++
          (frame.zip (results.map InputResult.enqueue)).map fun entry =>
            ⟨thread, entry.1, g.vpp, entry.2⟩ } := by
  let frame := (g.queues.waiting thread).take (min count vlibFrameSize)
  have hlength : frame.length ≤ vlibFrameSize :=
    (List.length_take_le _ _).trans (Nat.min_le_right _ _)
  have hframe : frameBytes frame < 2 ^ 32 :=
    frameBytes_lt hlength fun b hb =>
      hbytes b (h.waiting_arrived (List.mem_of_mem_take hb))
  obtain ⟨results, out, hresults, hout, henqueued, hreceived⟩ :=
    l2tvppInputNode_rx h.store (g.rx thread) (g.errors thread)
      (hlength.trans_lt (by decide)) hframe
  refine ⟨frame, results, out.rx,
    g.queues.step (.take thread (min count vlibFrameSize)),
    Function.update g.errors thread out.errors, hresults.length_eq, hreceived,
    ?_⟩
  simp only [workerStep] at hg'
  rw [hout, ok_bind, henqueued] at hg'
  cases hg'
  rfl

theorem RxCounted.step (hrx : RxCounted g)
    (h : GraphFollows P nWorkers hwInterfaces swInterfaces g events)
    (hbytes : ∀ b ∈ events.flatMap WorkerEvent.arrivals, packetBytes b < 2 ^ 24)
    {event : WorkerEvent} {g' : WorkerGraph}
    (hg' : workerStep P nWorkers g event = .ok g') : RxCounted g' := by
  cases event with
  | call c => exact hrx.call c hg'
  | handoff thisThread frame hasRoom =>
      rw [workerStep_handoff] at hg'
      cases hg'
      exact ⟨hrx.since_le, hrx.rx⟩
  | input thread count =>
      obtain ⟨frame, results, rx, queues, errors, hsame, hreceived, rfl⟩ :=
        workerStep_input h hbytes hg'
      refine ⟨fun i => (hrx.since_le i).trans (by simp), ?_⟩
      intro other i
      obtain ⟨hcount, hsum⟩ :=
        receivedAt_frame thread other g.vpp i hsame
      simp only [WorkerGraph.recent]
      rw [List.drop_append_of_le_length (hrx.since_le i), receivedAt_append,
        counterOf_append, hcount, hsum, ← WorkerGraph.recent, ← hrx.rx]
      by_cases hthread : thread = other
      · subst hthread
        rw [Function.update_self, if_pos rfl, if_pos rfl, hreceived]
      · rw [Function.update_of_ne (Ne.symm hthread), if_neg hthread,
          if_neg hthread]
        simp [VlibCounter.add]

/-! ## The session behind an interface -/

/-- The session is there, with its interface and its ids. -/
def HasSession (v : Vpp) (sess : L2tvppSession) : Prop :=
  ∃ index sess', v.lm.sessions.elt? index = some sess' ∧
    sess'.swIfIndex = sess.swIfIndex ∧ sess'.localTid = sess.localTid ∧
    sess'.localSid = sess.localSid

/-- A session that a call leaves behind was there before, or its interface was
created by the call. -/
theorem hasSession_before {v : Vpp} (c : Call) {index : Nat}
    {sess : L2tvppSession}
    (hsess : (Plugin.step P v c).lm.sessions.elt? index = some sess) :
    createsInterface v (Plugin.step P v c) sess.swIfIndex = true ∨
      HasSession v sess := by
  have hstep := storeStep_step P v c
  revert hsess hstep
  generalize Plugin.step P v c = v'
  intro hsess hstep
  have hkept : v.lm.sessions.elt? index = some sess → HasSession v sess :=
    fun h => ⟨index, sess, h, rfl, rfl, rfl⟩
  cases hstep with
  | same h =>
      obtain ⟨csum, hsess'⟩ := h.session hsess
      exact .inr ⟨index, _, hsess', rfl, rfl, rfl⟩
  | tunnelAdd => exact .inr (hkept hsess)
  | tunnelDel => exact .inr (hkept hsess)
  | sessionAdd ht hkey =>
      rw [sessionAdd_sessions] at hsess
      split at hsess
      · cases hsess
        left
        simp [createsInterface, Vpp.newSession, Vpp.sessionAdd]
      · exact .inr (hkept hsess)
  | sessionDel ht hkey hold =>
      rw [sessionDel_sessions] at hsess
      split at hsess
      · contradiction
      · exact .inr (hkept hsess)
  | interfaceAdd => exact .inr (hkept hsess)
  | interfaceDel h =>
      rw [vnetDeleteHwInterface_lm] at hsess
      exact .inr (hkept hsess)

/-- An event on a thread that VPP has: the main thread or a worker. -/
def WorkerEvent.threadExists (nWorkers : U32) : WorkerEvent → Bool
  | input thread _ => decide (thread.toNat ≤ nWorkers.toNat)
  | _ => true

structure RxFollows (nWorkers : U32) (g : WorkerGraph) : Prop where
  counted : RxCounted g
  threads : ∀ e ∈ g.processed, e.thread.toNat ≤ nWorkers.toNat
  sessions : ∀ {index : Nat} {sess : L2tvppSession},
    g.vpp.lm.sessions.elt? index = some sess →
    ∀ e ∈ g.recent sess.swIfIndex, HasSession e.vpp sess

theorem RxFollows.call (hrx : RxFollows nWorkers g) (c : Call)
    {g' : WorkerGraph} (hg' : workerStep P nWorkers g (.call c) = .ok g') :
    RxFollows nWorkers g' := by
  have hcounted := hrx.counted.call c hg'
  cases hg'
  refine ⟨hcounted, hrx.threads, ?_⟩
  intro index sess hsess e he
  unfold WorkerGraph.recent at he
  dsimp only at hsess he
  split at he
  · rw [List.drop_length] at he
    contradiction
  · rename_i hcreates
    rcases hasSession_before c hsess with hnew | ⟨old, sess', hold, hsw, hids⟩
    · exact absurd hnew hcreates
    · rw [← hsw] at he
      obtain ⟨before, sess'', hbefore, hsw', hids'⟩ := hrx.sessions hold e he
      exact ⟨before, sess'', hbefore, hsw'.trans hsw,
        hids'.1.trans hids.1, hids'.2.trans hids.2⟩

theorem RxFollows.input (hrx : RxFollows nWorkers g)
    (h : GraphFollows P nWorkers hwInterfaces swInterfaces g events)
    (hbytes : ∀ b ∈ events.flatMap WorkerEvent.arrivals, packetBytes b < 2 ^ 24)
    {thread : U16} {count : Nat} (hthread : thread.toNat ≤ nWorkers.toNat)
    {g' : WorkerGraph}
    (hg' : workerStep P nWorkers g (.input thread count) = .ok g') :
    RxFollows nWorkers g' := by
  have hcounted := hrx.counted.step h hbytes hg'
  obtain ⟨frame, results, rx, queues, errors, -, -, rfl⟩ :=
    workerStep_input h hbytes hg'
  refine ⟨hcounted, ?_, ?_⟩
  · intro e he
    rcases List.mem_append.mp he with hold | hnew
    · exact hrx.threads e hold
    · obtain ⟨entry, -, rfl⟩ := List.mem_map.mp hnew
      exact hthread
  · intro index sess hsess e he
    unfold WorkerGraph.recent at he
    rw [List.drop_append_of_le_length (hrx.counted.since_le _)] at he
    rcases List.mem_append.mp he with hold | hnew
    · exact hrx.sessions hsess e hold
    · obtain ⟨entry, -, rfl⟩ := List.mem_map.mp hnew
      exact ⟨index, sess, hsess, rfl, rfl, rfl⟩

theorem RxFollows.step (hrx : RxFollows nWorkers g)
    (h : GraphFollows P nWorkers hwInterfaces swInterfaces g events)
    (hbytes : ∀ b ∈ events.flatMap WorkerEvent.arrivals, packetBytes b < 2 ^ 24)
    {event : WorkerEvent} (hthread : event.threadExists nWorkers = true)
    {g' : WorkerGraph} (hg' : workerStep P nWorkers g event = .ok g') :
    RxFollows nWorkers g' := by
  cases event with
  | call c => exact hrx.call c hg'
  | handoff thisThread frame hasRoom =>
      have hcounted := hrx.counted.step h hbytes hg'
      rw [workerStep_handoff] at hg'
      cases hg'
      exact ⟨hcounted, hrx.threads, hrx.sessions⟩
  | input thread count =>
      exact hrx.input h hbytes (of_decide_eq_true hthread) hg'

theorem RxFollows.run (hrx : RxFollows nWorkers g)
    (h : GraphFollows P nWorkers hwInterfaces swInterfaces g events)
    {more : List WorkerEvent}
    (hbytes : ∀ b ∈ (events ++ more).flatMap WorkerEvent.arrivals,
      packetBytes b < 2 ^ 24)
    (hthreads : ∀ event ∈ more, event.threadExists nWorkers = true) :
    ∃ g', more.foldlM (workerStep P nWorkers) g = .ok g' ∧
      GraphFollows P nWorkers hwInterfaces swInterfaces g' (events ++ more) ∧
      RxFollows nWorkers g' := by
  induction more generalizing g events with
  | nil =>
      rw [List.append_nil]
      exact ⟨g, rfl, h, hrx⟩
  | cons event more ih =>
      rw [List.forall_mem_cons] at hthreads
      obtain ⟨g', hg', hfollows⟩ := h.step event
      have hearlier : ∀ b ∈ events.flatMap WorkerEvent.arrivals,
          packetBytes b < 2 ^ 24 := by
        intro b hb
        apply hbytes b
        rw [List.flatMap_append]
        exact List.mem_append_left _ hb
      have hstep := hrx.step h hearlier hthreads.1 hg'
      rw [List.append_cons] at hbytes ⊢
      obtain ⟨g'', hg'', hrest⟩ := ih hstep hfollows hbytes hthreads.2
      refine ⟨g'', ?_, hrest⟩
      rw [List.foldlM_cons, hg']
      exact hg''

end Received

theorem RxFollows.initial (nWorkers : U32) (hwInterfaces : Pool HwInterface)
    (swInterfaces : Pool SwInterface) :
    RxFollows nWorkers (WorkerGraph.initial hwInterfaces swInterfaces) where
  counted := ⟨fun _ => Nat.le_refl _, fun _ _ => rfl⟩
  threads e he := by cases he
  sessions _ e he := by simp [WorkerGraph.recent, WorkerGraph.initial] at he

/-! ## The threads together -/

/-- `vlib_get_combined_counter`. -/
def vlibGetCombinedCounter (nThreads : Nat) (rx : U16 → RxCounters) (i : Nat) :
    VlibCounter :=
  ((List.range nThreads).map fun thread => rx (BitVec.ofNat 16 thread) i).foldl
    (fun (result counter : VlibCounter) =>
      result.add counter.packets counter.bytes) ⟨0, 0⟩

theorem foldl_add_counterOf (received : List (List Processed))
    (packets bytes : Nat) :
    (received.map counterOf).foldl
        (fun (result counter : VlibCounter) =>
          result.add counter.packets counter.bytes)
        ⟨BitVec.ofNat 64 packets, BitVec.ofNat 64 bytes⟩ =
      ⟨BitVec.ofNat 64 (packets + (received.map List.length).sum),
        BitVec.ofNat 64 (bytes +
          (received.map fun entries => (entries.map Processed.bytes).sum).sum)⟩
    := by
  induction received generalizing packets bytes with
  | nil => rfl
  | cons entries received ih =>
      rw [List.map_cons, List.foldl_cons, counterOf, VlibCounter.add]
      dsimp only
      rw [← BitVec.ofNat_add, ← BitVec.ofNat_add, ih]
      simp only [List.map_cons, List.sum_cons, Nat.add_assoc]

section Combined

variable {nWorkers : U32} {g : WorkerGraph}

/-- All that was received on an interface since it was created. -/
theorem RxFollows.combined (hrx : RxFollows nWorkers g)
    (hworkers : nWorkers.toNat < 2 ^ 16) (i : Nat) :
    vlibGetCombinedCounter (nWorkers.toNat + 1) g.rx i =
      counterOf ((g.recent i).filter (Processed.receivedOn i)) := by
  have hkey : ∀ e ∈ g.recent i, e.thread.toNat < nWorkers.toNat + 1 := by
    intro e he
    exact Nat.lt_succ_of_le (hrx.threads e (List.mem_of_mem_drop he))
  have hclass : ∀ k ∈ List.range (nWorkers.toNat + 1),
      receivedAt (BitVec.ofNat 16 k) i (g.recent i) =
        (g.recent i).filter fun e => e.thread.toNat == k && e.receivedOn i := by
    intro k hk
    have hk := List.mem_range.mp hk
    apply List.filter_congr
    intro e _
    congr 1
    rw [Bool.eq_iff_iff, beq_iff_eq, beq_iff_eq, ← BitVec.toNat_inj,
      BitVec.toNat_ofNat, Nat.mod_eq_of_lt (by omega)]
  have hmap : (List.range (nWorkers.toNat + 1)).map (fun thread =>
        g.rx (BitVec.ofNat 16 thread) i) =
      ((List.range (nWorkers.toNat + 1)).map fun k =>
        (g.recent i).filter fun e =>
          e.thread.toNat == k && e.receivedOn i).map counterOf := by
    rw [List.map_map]
    apply List.map_congr_left
    intro k hk
    rw [hrx.counted.rx, hclass k hk]
    rfl
  have hpackets := sum_by_class (fun e : Processed => e.thread.toNat)
    (Processed.receivedOn i) (fun _ => 1) hkey
  have hbytes := sum_by_class (fun e : Processed => e.thread.toNat)
    (Processed.receivedOn i) Processed.bytes hkey
  simp only [List.map_const', List.sum_replicate_nat, Nat.mul_one] at hpackets
  rw [vlibGetCombinedCounter, hmap]
  refine (foldl_add_counterOf _ 0 0).trans ?_
  rw [List.map_map, List.map_map, counterOf]
  simp only [Function.comp_def, Nat.zero_add, hpackets, hbytes]

/-- What is received on the interface of a session is what is decapsulated
with its ids. -/
theorem receivedOn_iff {e : Processed} {sess : L2tvppSession}
    (hinv : StoreInv e.vpp) (hhas : HasSession e.vpp sess)
    {result : InputResult} (hresult : l2tvppInput e.vpp.lm e.buffer = .ok result)
    (henqueued : e.enqueued = result.enqueue) :
    e.receivedOn sess.swIfIndex =
      (e.decapsulated && hasIds sess.localTid sess.localSid e.buffer) := by
  obtain ⟨index, sess', hsess', hsw, htid, hsid⟩ := hhas
  have hdecapsulated : e.decapsulated = result.decapsulated := by
    rw [Processed.decapsulated, henqueued]
    rfl
  rw [receivedOn_enqueue henqueued, hdecapsulated, InputResult.receivedOn]
  cases hdecap : result.decapsulated with
  | false => rfl
  | true =>
      obtain ⟨other, sess'', hsess'', hrx, hids⟩ :=
        decapsulated_hasIds hinv hresult hdecap
      rw [Bool.true_and, Bool.true_and, Bool.eq_iff_iff, beq_iff_eq, hrx, ← hsw]
      constructor
      · intro heq
        have hindex := hinv.bySwIfIndex.index_eq hsess'' hsess' heq
        rw [hindex, hsess'] at hsess''
        cases hsess''
        rwa [htid, hsid] at hids
      · intro hown
        obtain ⟨flags, off, hparse⟩ := hasIds_iff.mp hids
        obtain ⟨flags', off', hparse'⟩ := hasIds_iff.mp hown
        rw [hparse] at hparse'
        injection hparse' with hdata
        injection hdata with _ htid' hsid'
        have hindex := hinv.byKey.index_eq hsess'' hsess' (by
          rw [L2tvppSession.key, L2tvppSession.key, htid, hsid, htid', hsid'])
        rw [hindex, hsess'] at hsess''
        cases hsess''
        rfl

end Combined

/-! ## The dump -/

structure SessionDetails where
  swIfIndex : Nat
  tunnelIndex : Nat
  localSid : U16
  peerSid : U16
  acfc : U8
  pfc : U8
  rx : VlibCounter
  tx : VlibCounter
  deriving DecidableEq, Repr

def sendSessionDetails (rx tx : VlibCounter) (s : L2tvppSession) :
    SessionDetails where
  swIfIndex := s.swIfIndex
  tunnelIndex := s.tunnelIndex
  localSid := s.localSid
  peerSid := s.peerSid
  acfc := s.acfc
  pfc := s.pfc
  rx := rx
  tx := tx

/-- `vl_api_l2tvpp_session_dump_t_handler`, for one interface or for all.  The
transmit counters are not the decapsulation's. -/
def sessionDump (nWorkers : U32) (g : WorkerGraph) (tx : Nat → VlibCounter)
    (swIfIndex : Option Nat) : List SessionDetails :=
  (g.vpp.lm.sessions.toList.filter fun entry =>
      swIfIndex == none || some entry.2.swIfIndex == swIfIndex).map fun entry =>
    sendSessionDetails
      (vlibGetCombinedCounter (nWorkers.toNat + 1) g.rx entry.2.swIfIndex)
      (tx entry.2.swIfIndex) entry.2

/-- Interface indices, and so their counters, are used again by later sessions,
while packets wait in queues; still, in every run, the receive counters of a
dumped session are the packets and bytes decapsulated with its ids since it was
added, and of no other session. -/
theorem sessionDump_counts (P : Policies) {nWorkers : U32}
    (hworkers : nWorkers.toNat < 2 ^ 16) (hwInterfaces : Pool HwInterface)
    (swInterfaces : Pool SwInterface) (events : List WorkerEvent)
    (hbytes : ∀ b ∈ events.flatMap WorkerEvent.arrivals, packetBytes b < 2 ^ 24)
    (hthreads : ∀ event ∈ events, event.threadExists nWorkers = true) :
    ∃ g, runWorkers P nWorkers hwInterfaces swInterfaces events = .ok g ∧
      ∀ tx swIfIndex, ∀ d ∈ sessionDump nWorkers g tx swIfIndex,
        ∃ index sess, g.vpp.lm.sessions.elt? index = some sess ∧
          d = sendSessionDetails
            (counterOf ((g.recent sess.swIfIndex).filter fun e =>
              e.decapsulated && hasIds sess.localTid sess.localSid e.buffer))
            (tx sess.swIfIndex) sess := by
  obtain ⟨g, hg, hfollows, hrx⟩ := (RxFollows.initial nWorkers hwInterfaces
    swInterfaces).run (GraphFollows.initial (P := P)) hbytes hthreads
  rw [List.nil_append] at hfollows
  refine ⟨g, hg, ?_⟩
  intro tx swIfIndex d hd
  obtain ⟨⟨index, sess⟩, hentry, rfl⟩ := List.mem_map.mp hd
  have hsess := (Pool.mem_toList _).mp (List.mem_filter.mp hentry).1
  refine ⟨index, sess, hsess, ?_⟩
  rw [hrx.combined hworkers]
  congr 2
  apply List.filter_congr
  intro e he
  obtain ⟨calls, result, -, hvpp, hresult, henqueued⟩ :=
    hfollows.processed e (List.mem_of_mem_drop he)
  have hinv : StoreInv e.vpp := by
    rw [hvpp]
    exact StoreInv.runCalls P hwInterfaces swInterfaces calls
  exact receivedOn_iff hinv (hrx.sessions hsess e he) hresult henqueued

theorem sessionDump_counts_twoSessions :
    ∃ g, runWorkers Policies.lifo 2 Pool.empty Pool.empty twoSessions = .ok g ∧
      ∀ d ∈ sessionDump 2 g (fun _ => ⟨0, 0⟩) none,
        ∃ index sess, g.vpp.lm.sessions.elt? index = some sess ∧
          d = sendSessionDetails
            (counterOf ((g.recent sess.swIfIndex).filter fun e =>
              e.decapsulated && hasIds sess.localTid sess.localSid e.buffer))
            ⟨0, 0⟩ sess := by
  have hbytes : ∀ b ∈ twoSessions.flatMap WorkerEvent.arrivals,
      packetBytes b < 2 ^ 24 := by
    decide +kernel
  have hthreads : ∀ event ∈ twoSessions,
      event.threadExists 2 = true := by
    simp [twoSessions, oneSession, WorkerEvent.threadExists]
  obtain ⟨g, hg, hdump⟩ := sessionDump_counts Policies.lifo (by decide)
    Pool.empty Pool.empty twoSessions hbytes hthreads
  exact ⟨g, hg, hdump (fun _ => ⟨0, 0⟩) none⟩

end L2tvpp.Node
