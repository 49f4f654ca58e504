import L2tvpp.Lib.Queues
import L2tvpp.Node.FlowFrame

/-!
# Flows stay in order

`l2tvpp-flow-handoff` sends a buffer to `ethernet-input` or `l2tvpp-input`, by
the next frame of its own thread or through the frame queue of another one.
Where a buffer goes in at one end it comes out at the other in the same order.
-/

namespace L2tvpp.Node

open L2tvpp.Lib
open L2tvpp.Plugin

/-! ## The graph -/

/-- Where a buffer waits for the node that comes next. -/
structure FlowPort where
  thread : U16
  next : FlowNext
  /-- In a frame queue, and not in the next frame of the same thread. -/
  handedOff : Bool
  deriving DecidableEq, Repr

/-- The thread that received a buffer, its index, and what was decided. -/
abbrev FlowItem := U16 × Nat × FlowResult

def FlowItem.port (item : FlowItem) : FlowPort :=
  ⟨item.2.2.thread, item.2.2.next, item.2.2.thread != item.1⟩

structure FlowGraph where
  ifData : List FlowHandoffIf
  queues : Queues FlowPort FlowItem
  /-- "congestion drop" of `l2tvpp-flow-handoff`. -/
  congestion : U64

/-- What comes while the settings of the interfaces stay as they are. -/
inductive FlowGraphEvent where
  | frame (lm : L2tvppMain) (thisThread : U16)
      (frame : List (Nat × VlibBuffer)) (hasRoom : FlowPort → Bool)
  | dispatch (port : FlowPort) (count : Nat)

def FlowGraphEvent.arrivals : FlowGraphEvent → List (U16 × Nat × VlibBuffer)
  | frame _ thisThread entries _ => entries.map (Prod.mk thisThread)
  | dispatch .. => []

/-- The buffers of one output set, for the port that the node names. -/
def offersTo (port : Nat × FlowResult → FlowPort) (thisThread : U16)
    (hasRoom : FlowPort → Bool) (sent : List (Nat × FlowResult)) :
    List (QueueEvent FlowPort FlowItem) :=
  sent.map fun entry =>
    .offer (port entry) (thisThread, entry) (hasRoom (port entry))

def localPort (thisThread : U16) (entry : Nat × FlowResult) : FlowPort :=
  ⟨thisThread, entry.2.next, false⟩

def ethernetPort (entry : Nat × FlowResult) : FlowPort :=
  ⟨entry.2.thread, .ethernetInput, true⟩

def l2tpPort (entry : Nat × FlowResult) : FlowPort :=
  ⟨entry.2.thread, .l2tvppInput, true⟩

/-- The end of the node: one call for each output set. -/
def enqueueEvents (thisThread : U16) (out : FlowLoop)
    (hasRoom : FlowPort → Bool) : List (QueueEvent FlowPort FlowItem) :=
  offersTo (localPort thisThread) thisThread (fun _ => true) out.locals ++
    offersTo ethernetPort thisThread hasRoom out.eth ++
    offersTo l2tpPort thisThread hasRoom out.l2tp

def flowGraphStep (crc32c : List U8 → U32) (g : FlowGraph) :
    FlowGraphEvent → Except MemFault FlowGraph
  | .frame lm thisThread frame hasRoom => do
      let out ← l2tvppFlowHandoffNode crc32c lm thisThread g.ifData frame
      let ethEnq := out.eth.countP fun entry => hasRoom (ethernetPort entry)
      let l2tpEnq := out.l2tp.countP fun entry => hasRoom (l2tpPort entry)
      pure {
        ifData := out.ifData
        queues := run Queues.step g.queues (enqueueEvents thisThread out hasRoom)
        congestion := g.congestion +
          BitVec.ofNat 64 (out.eth.length - ethEnq) +
          BitVec.ofNat 64 (out.l2tp.length - l2tpEnq) }
  | .dispatch port count =>
      pure { g with queues := g.queues.step (.take port count) }

def runFlows (crc32c : List U8 → U32) (ifData : List FlowHandoffIf)
    (events : List FlowGraphEvent) : Except MemFault FlowGraph :=
  events.foldlM (flowGraphStep crc32c) ⟨ifData, Queues.empty, 0⟩

/-! ## One frame -/

/-- A frame buffer by buffer, with the cursors as each one finds them. -/
inductive FlowRun (crc32c : List U8 → U32) (lm : L2tvppMain)
    (thisThread : U16) : List FlowHandoffIf → List (Nat × VlibBuffer) →
      List (Nat × FlowResult) → List FlowHandoffIf → Prop
  | nil {ifData : List FlowHandoffIf} :
      FlowRun crc32c lm thisThread ifData [] [] ifData
  | cons {ifData out : List FlowHandoffIf} {ifd moved : FlowHandoffIf}
      {entry : Nat × VlibBuffer} {result : FlowResult}
      {frame : List (Nat × VlibBuffer)} {sent : List (Nat × FlowResult)}
      (hifd : ifData[entry.2.swIfIndexRx]? = some ifd)
      (hresult : l2tvppFlowHandoff crc32c lm ifd thisThread entry.2 =
        .ok (result, moved))
      (hrest : FlowRun crc32c lm thisThread
        (ifData.set entry.2.swIfIndexRx moved) frame sent out) :
      FlowRun crc32c lm thisThread ifData (entry :: frame)
        ((entry.1, result) :: sent) out

section Frame

variable {crc32c : List U8 → U32} {lm : L2tvppMain} {thisThread : U16}

variable (crc32c lm thisThread) in
theorem foldlM_flowRun (frame : List (Nat × VlibBuffer)) (s : FlowLoop)
    (hframe : ∀ entry ∈ frame, entry.2.swIfIndexRx < s.ifData.length) :
    ∃ sent out,
      frame.foldlM (flowHandoffStep crc32c lm thisThread) s = .ok out ∧
      FlowRun crc32c lm thisThread s.ifData frame sent out.ifData ∧
      out.locals = s.locals ++ sent.filter (staysLocal thisThread) ∧
      out.eth = s.eth ++ sent.filter (goesToEthernet thisThread) ∧
      out.l2tp = s.l2tp ++ sent.filter (goesToL2tp thisThread) := by
  induction frame generalizing s with
  | nil => exact ⟨[], s, rfl, .nil, by simp, by simp, by simp⟩
  | cons entry frame ih =>
      obtain ⟨ifd, hifd⟩ : ∃ ifd, s.ifData[entry.2.swIfIndexRx]? = some ifd :=
        ⟨_, List.getElem?_eq_getElem (hframe entry List.mem_cons_self)⟩
      obtain ⟨⟨result, moved⟩, hresult, -⟩ := SafeRun.returns
        (safeRun_l2tvppFlowHandoff crc32c lm ifd thisThread entry.2)
      obtain ⟨hifData, hlocals, heth, hl2tp⟩ := place_spec thisThread
        { s with ifData := s.ifData.set entry.2.swIfIndexRx moved }
        entry.1 result
      obtain ⟨sent, out, hout, hrun, hlocals', heth', hl2tp'⟩ :=
        ih (FlowLoop.place
          { s with ifData := s.ifData.set entry.2.swIfIndexRx moved }
          thisThread entry.1 result) (by
            intro other hother
            rw [hifData, List.length_set]
            exact hframe other (List.mem_cons_of_mem entry hother))
      rw [hifData] at hrun
      refine ⟨(entry.1, result) :: sent, out, ?_, .cons hifd hresult hrun,
        ?_, ?_, ?_⟩
      · rw [List.foldlM_cons, flowHandoffStep, hifd]
        dsimp only
        rw [hresult]
        exact hout
      · rw [hlocals', hlocals, List.append_assoc, ← List.filter_append]
        rfl
      · rw [heth', heth, List.append_assoc, ← List.filter_append]
        rfl
      · rw [hl2tp', hl2tp, List.append_assoc, ← List.filter_append]
        rfl

theorem l2tvppFlowHandoff_next {ifd moved : FlowHandoffIf} {b : VlibBuffer}
    {result : FlowResult}
    (h : l2tvppFlowHandoff crc32c lm ifd thisThread b = .ok (result, moved)) :
    result.next =
      if result.kind = .fast then .l2tvppInput else .ethernetInput := by
  obtain ⟨c, -, h⟩ := ok_of_bind h
  cases h
  cases hkind : c.kind <;> simp

/-- What was decided for a buffer, from the settings of its interface. -/
def FlowSent (crc32c : List U8 → U32) (ifData : List FlowHandoffIf)
    (arrival : U16 × Nat × VlibBuffer) (item : FlowItem) : Prop :=
  item.1 = arrival.1 ∧ item.2.1 = arrival.2.1 ∧
    ∃ lm ifd ifd' moved, ifData[arrival.2.2.swIfIndexRx]? = some ifd ∧
      ifd'.settings = ifd.settings ∧
      l2tvppFlowHandoff crc32c lm ifd' arrival.1 arrival.2.2 =
        .ok (item.2.2, moved)

theorem FlowRun.sent {ifData found out : List FlowHandoffIf}
    {frame : List (Nat × VlibBuffer)} {sent : List (Nat × FlowResult)}
    (h : FlowRun crc32c lm thisThread found frame sent out)
    (hfound : found.map FlowHandoffIf.settings =
      ifData.map FlowHandoffIf.settings) :
    out.map FlowHandoffIf.settings = ifData.map FlowHandoffIf.settings ∧
      List.Forall₂ (FlowSent crc32c ifData)
        (frame.map (Prod.mk thisThread)) (sent.map (Prod.mk thisThread)) := by
  induction h with
  | nil => exact ⟨hfound, .nil⟩
  | @cons found out ifd moved entry result frame sent hifd hresult hrest ih =>
      obtain ⟨ifd', hifd', hsettings⟩ := getElem?_of_settings hfound.symm hifd
      have hmoved := (l2tvppFlowHandoff_decided hifd' hsettings.symm hresult).2
      obtain ⟨hout, hsent⟩ := ih (settings_set hfound hifd' hmoved)
      exact ⟨hout, .cons ⟨rfl, rfl, lm, ifd', ifd, moved, hifd',
        hsettings.symm, hresult⟩ hsent⟩

end Frame

/-! ## The ports of a frame -/

section Ports

variable {thisThread : U16} {sent : List (Nat × FlowResult)}

/-- The buffers that go to one port. -/
def sentTo (port : FlowPort) (items : List FlowItem) : List FlowItem :=
  items.filter fun item => item.port == port

/-- An output set is made up of ports. -/
theorem sentTo_filter {items : List FlowItem} {p : FlowItem → Bool}
    {ofPort : FlowPort → Bool} (hp : ∀ item ∈ items, p item = ofPort item.port)
    (port : FlowPort) :
    sentTo port (items.filter p) =
      if ofPort port then sentTo port items else [] := by
  unfold sentTo
  rw [List.filter_filter]
  split
  · rename_i hport
    apply List.filter_congr
    intro item hitem
    rw [hp item hitem]
    cases hsame : item.port == port with
    | false => rfl
    | true =>
        rw [beq_iff_eq] at hsame
        rw [hsame, hport]
        rfl
  · rename_i hport
    rw [List.filter_eq_nil_iff]
    intro item hitem hboth
    rw [Bool.and_eq_true, beq_iff_eq, hp item hitem] at hboth
    rw [hboth.1] at hboth
    exact hport hboth.2

theorem goesTo_eq (item : FlowItem)
    (hnext : item.2.2.next =
      if item.2.2.kind = .fast then .l2tvppInput else .ethernetInput) :
    staysLocal item.1 item.2 = !item.port.handedOff ∧
      goesToEthernet item.1 item.2 =
        (item.port.handedOff && item.port.next == .ethernetInput) ∧
      goesToL2tp item.1 item.2 =
        (item.port.handedOff && item.port.next == .l2tvppInput) := by
  have hkind : (item.port.next == .ethernetInput) = (item.2.2.kind != .fast) ∧
      (item.port.next == .l2tvppInput) = (item.2.2.kind == .fast) := by
    unfold FlowItem.port
    dsimp only
    rw [hnext]
    cases item.2.2.kind <;> exact ⟨rfl, rfl⟩
  rw [hkind.1, hkind.2]
  exact ⟨(Bool.not_not _).symm, rfl, rfl⟩

/-- The node names the port of each buffer. -/
theorem named_port {entry : Nat × FlowResult}
    (hnext : entry.2.next =
      if entry.2.kind = .fast then .l2tvppInput else .ethernetInput) :
    (staysLocal thisThread entry = true →
      localPort thisThread entry = FlowItem.port (thisThread, entry)) ∧
    (goesToEthernet thisThread entry = true →
      ethernetPort entry = FlowItem.port (thisThread, entry)) ∧
    (goesToL2tp thisThread entry = true →
      l2tpPort entry = FlowItem.port (thisThread, entry)) := by
  refine ⟨fun hstays => ?_, fun hgoes => ?_, fun hgoes => ?_⟩
  · have hthread : entry.2.thread = thisThread := beq_iff_eq.mp hstays
    simp [localPort, FlowItem.port, hthread]
  · obtain ⟨hthread, hslow⟩ := Bool.and_eq_true_iff.mp hgoes
    rw [if_neg (bne_iff_ne.mp hslow)] at hnext
    simp only [ethernetPort, FlowItem.port, hnext, hthread]
  · obtain ⟨hthread, hfast⟩ := Bool.and_eq_true_iff.mp hgoes
    rw [if_pos (beq_iff_eq.mp hfast)] at hnext
    simp only [l2tpPort, FlowItem.port, hnext, hthread]

theorem offered_offersTo (port : Nat × FlowResult → FlowPort)
    (hasRoom : FlowPort → Bool) (entries : List (Nat × FlowResult)) :
    (offersTo port thisThread hasRoom entries).filterMap QueueEvent.offered =
      entries.map fun entry => (port entry, (thisThread, entry)) := by
  unfold offersTo
  rw [List.filterMap_map]
  exact congrFun List.filterMap_eq_map _

theorem length_refused_offersTo (port : Nat × FlowResult → FlowPort)
    (hasRoom : FlowPort → Bool) (entries : List (Nat × FlowResult)) :
    ((offersTo port thisThread hasRoom entries).filterMap
      QueueEvent.refused).length =
      entries.length - entries.countP fun entry => hasRoom (port entry) := by
  induction entries with
  | nil => rfl
  | cons entry entries ih =>
      have hle : (entries.countP fun entry => hasRoom (port entry)) ≤
          entries.length := List.countP_le_length
      unfold offersTo at ih ⊢
      rw [List.map_cons, List.filterMap_cons, List.countP_cons,
        List.length_cons]
      cases hroom : hasRoom (port entry) with
      | true =>
          simp only [QueueEvent.refused, if_true, ih]
          omega
      | false =>
          simp only [QueueEvent.refused, Bool.false_eq_true, if_false,
            List.length_cons, ih]
          omega

theorem length_refused_enqueueEvents (out : FlowLoop)
    (hasRoom : FlowPort → Bool) :
    ((enqueueEvents thisThread out hasRoom).filterMap
      QueueEvent.refused).length =
      (out.eth.length - out.eth.countP fun entry =>
        hasRoom (ethernetPort entry)) +
      (out.l2tp.length - out.l2tp.countP fun entry =>
        hasRoom (l2tpPort entry)) := by
  simp only [enqueueEvents, List.filterMap_append, List.length_append,
    length_refused_offersTo, List.countP_true, Nat.sub_self, Nat.zero_add]

/-- The end of the node, by the buffers in their order of arrival. -/
structure Enqueues (thisThread : U16) (sent : List (Nat × FlowResult))
    (events : List (QueueEvent FlowPort FlowItem)) : Prop where
  key : ∀ entry ∈ events.filterMap QueueEvent.offered,
    entry.1 = entry.2.port
  order : ∀ port, sentTo port ((events.filterMap QueueEvent.offered).map
    Prod.snd) = sentTo port (sent.map (Prod.mk thisThread))
  perm : ((events.filterMap QueueEvent.offered).map Prod.snd).Perm
    (sent.map (Prod.mk thisThread))

theorem enqueueEvents_spec {out : FlowLoop} (hasRoom : FlowPort → Bool)
    (hnext : ∀ entry ∈ sent, entry.2.next =
      if entry.2.kind = .fast then .l2tvppInput else .ethernetInput)
    (hlocals : out.locals = sent.filter (staysLocal thisThread))
    (heth : out.eth = sent.filter (goesToEthernet thisThread))
    (hl2tp : out.l2tp = sent.filter (goesToL2tp thisThread)) :
    Enqueues thisThread sent (enqueueEvents thisThread out hasRoom) := by
  have hset : ∀ (p : Nat × FlowResult → Bool), (sent.filter p).map
      (Prod.mk thisThread) =
        (sent.map (Prod.mk thisThread)).filter fun item => p item.2 := by
    intro p
    rw [List.filter_map]
    rfl
  have hgoes : ∀ entry ∈ sent, _ := fun entry hentry =>
    goesTo_eq (thisThread, entry) (hnext entry hentry)
  have hoffered : ((enqueueEvents thisThread out hasRoom).filterMap
      QueueEvent.offered).map Prod.snd =
      (sent.map (Prod.mk thisThread)).filter
          (fun item => staysLocal thisThread item.2) ++
        (sent.map (Prod.mk thisThread)).filter
          (fun item => goesToEthernet thisThread item.2) ++
        (sent.map (Prod.mk thisThread)).filter
          (fun item => goesToL2tp thisThread item.2) := by
    simp only [enqueueEvents, List.filterMap_append, List.map_append,
      offered_offersTo, List.map_map, hlocals, heth, hl2tp, ← hset]
    rfl
  refine ⟨?_, ?_, ?_⟩
  · intro entry hentry
    simp only [enqueueEvents, List.filterMap_append, offered_offersTo,
      List.mem_append, List.mem_map, hlocals, heth, hl2tp,
      List.mem_filter] at hentry
    rcases hentry with (⟨e, ⟨he, hp⟩, rfl⟩ | ⟨e, ⟨he, hp⟩, rfl⟩) |
      ⟨e, ⟨he, hp⟩, rfl⟩
    · exact (named_port (hnext e he)).1 hp
    · exact (named_port (hnext e he)).2.1 hp
    · exact (named_port (hnext e he)).2.2 hp
  · intro port
    rw [hoffered]
    have happend : ∀ first second : List FlowItem, sentTo port (first ++ second) =
        sentTo port first ++ sentTo port second := fun _ _ =>
      List.filter_append _ _
    have hitems : ∀ (ofPort : FlowPort → Bool) {p : Nat × FlowResult → Bool},
        (∀ entry ∈ sent,
          p entry = ofPort (FlowItem.port (thisThread, entry))) →
        sentTo port ((sent.map (Prod.mk thisThread)).filter
          fun item => p item.2) =
        if ofPort port then sentTo port (sent.map (Prod.mk thisThread))
        else [] := by
      intro ofPort p hp
      apply sentTo_filter
      intro item hitem
      obtain ⟨entry, hentry, rfl⟩ := List.mem_map.mp hitem
      exact hp entry hentry
    rw [happend, happend, hitems (fun port => !port.handedOff)
        fun e he => (hgoes e he).1,
      hitems (fun port => port.handedOff && port.next == .ethernetInput)
        fun e he => (hgoes e he).2.1,
      hitems (fun port => port.handedOff && port.next == .l2tvppInput)
        fun e he => (hgoes e he).2.2]
    obtain ⟨thread, next, handedOff⟩ := port
    cases handedOff <;> cases next <;> simp
  · rw [hoffered, ← hset, ← hset, ← hset, ← List.map_append, ← List.map_append,
      List.append_assoc]
    exact (perm_parts thisThread sent).map _

end Ports

/-! ## A run -/

/-- What the graph is to the buffers that have arrived and what was decided for
them. -/
structure FlowFollows (crc32c : List U8 → U32) (ifData : List FlowHandoffIf)
    (g : FlowGraph) (arrived : List (U16 × Nat × VlibBuffer))
    (sent : List FlowItem) : Prop where
  settings : g.ifData.map FlowHandoffIf.settings =
    ifData.map FlowHandoffIf.settings
  decided : List.Forall₂ (FlowSent crc32c ifData) arrived sent
  queues : ∃ events, g.queues.Follows events ∧
    (∀ entry ∈ events.filterMap QueueEvent.offered, entry.1 = entry.2.port) ∧
    (∀ port, sentTo port ((events.filterMap QueueEvent.offered).map
      Prod.snd) = sentTo port sent) ∧
    ((events.filterMap QueueEvent.offered).map Prod.snd).Perm sent
  congestion : g.congestion = BitVec.ofNat 64 g.queues.refused.length

def FlowGraphEvent.Inside (ifData : List FlowHandoffIf) :
    FlowGraphEvent → Prop
  | frame _ _ entries _ => ∀ entry ∈ entries,
      entry.2.swIfIndexRx < ifData.length
  | dispatch .. => True

instance (ifData : List FlowHandoffIf) :
    DecidablePred (FlowGraphEvent.Inside ifData)
  | .frame _ _ entries _ => inferInstanceAs (Decidable
      (∀ entry ∈ entries, entry.2.swIfIndexRx < ifData.length))
  | .dispatch .. => isTrue trivial

section Run

variable {crc32c : List U8 → U32} {ifData : List FlowHandoffIf}
  {g : FlowGraph} {arrived : List (U16 × Nat × VlibBuffer)}
  {sent : List FlowItem}

theorem FlowRun.next {lm : L2tvppMain} {thisThread : U16}
    {found out : List FlowHandoffIf} {frame : List (Nat × VlibBuffer)}
    {results : List (Nat × FlowResult)}
    (h : FlowRun crc32c lm thisThread found frame results out) :
    ∀ entry ∈ results, entry.2.next =
      if entry.2.kind = .fast then .l2tvppInput else .ethernetInput := by
  induction h with
  | nil => simp
  | cons hifd hresult hrest ih =>
      intro entry hentry
      rcases List.mem_cons.mp hentry with rfl | hmem
      · exact l2tvppFlowHandoff_next hresult
      · exact ih entry hmem

theorem FlowFollows.dispatch (h : FlowFollows crc32c ifData g arrived sent)
    (port : FlowPort) (count : Nat) :
    FlowFollows crc32c ifData
      { g with queues := g.queues.step (.take port count) } arrived sent := by
  obtain ⟨events, hfollows, hkey, horder, hperm⟩ := h.queues
  have hnothing : ([.take port count] : List (QueueEvent FlowPort
      FlowItem)).filterMap QueueEvent.offered = [] := rfl
  refine ⟨h.settings, h.decided, ⟨events ++ [.take port count],
    hfollows.step (.take port count), ?_, ?_, ?_⟩, h.congestion⟩
  · simpa [hnothing] using hkey
  · simpa [hnothing] using horder
  · simpa [hnothing] using hperm

theorem FlowFollows.frame (h : FlowFollows crc32c ifData g arrived sent)
    (lm : L2tvppMain) (thisThread : U16) (frame : List (Nat × VlibBuffer))
    (hasRoom : FlowPort → Bool)
    (hframe : ∀ entry ∈ frame, entry.2.swIfIndexRx < ifData.length) :
    ∃ g', ∃ results : List (Nat × FlowResult),
      flowGraphStep crc32c g (.frame lm thisThread frame hasRoom) = .ok g' ∧
      FlowFollows crc32c ifData g'
        (arrived ++ frame.map (Prod.mk thisThread))
        (sent ++ results.map (Prod.mk thisThread)) := by
  have hlength : g.ifData.length = ifData.length := by
    simpa using congrArg List.length h.settings
  obtain ⟨results, out, hout, hrun, hlocals, heth, hl2tp⟩ :=
    foldlM_flowRun crc32c lm thisThread frame ⟨g.ifData, [], [], []⟩
      (by rwa [hlength])
  have hspec := enqueueEvents_spec hasRoom hrun.next hlocals heth hl2tp
  obtain ⟨hsettings, hsent⟩ := hrun.sent h.settings
  obtain ⟨events, hfollows, hkey, horder, hperm⟩ := h.queues
  have hnode : l2tvppFlowHandoffNode crc32c lm thisThread g.ifData frame =
      .ok out := hout
  refine ⟨_, results, by
    simp only [flowGraphStep]
    rw [hnode, ok_bind]
    rfl, hsettings, List.rel_append h.decided hsent, ⟨_, hfollows.run _, ?_, ?_,
      ?_⟩, ?_⟩
  · intro entry hentry
    rw [List.filterMap_append, List.mem_append] at hentry
    exact hentry.elim (hkey entry) (hspec.key entry)
  · intro port
    rw [List.filterMap_append, List.map_append, sentTo, List.filter_append,
      sentTo, List.filter_append]
    exact congrArg₂ _ (horder port) (hspec.order port)
  · rw [List.filterMap_append, List.map_append]
    exact hperm.append hspec.perm
  · change g.congestion + _ + _ = _
    rw [(hfollows.run _).refused, List.filterMap_append, List.length_append,
      ← hfollows.refused, length_refused_enqueueEvents, BitVec.ofNat_add,
      BitVec.ofNat_add, ← h.congestion, BitVec.add_assoc]

theorem FlowFollows.step (h : FlowFollows crc32c ifData g arrived sent)
    {event : FlowGraphEvent} (hinside : event.Inside ifData) :
    ∃ g' more, flowGraphStep crc32c g event = .ok g' ∧
      FlowFollows crc32c ifData g' (arrived ++ event.arrivals)
        (sent ++ more) := by
  cases event with
  | dispatch port count =>
      refine ⟨_, [], rfl, ?_⟩
      rw [List.append_nil, FlowGraphEvent.arrivals, List.append_nil]
      exact h.dispatch port count
  | frame lm thisThread frame hasRoom =>
      obtain ⟨g', results, hg', hfollows⟩ :=
        h.frame lm thisThread frame hasRoom hinside
      exact ⟨g', _, hg', hfollows⟩

theorem FlowFollows.run (h : FlowFollows crc32c ifData g arrived sent)
    (events : List FlowGraphEvent)
    (hinside : ∀ event ∈ events, event.Inside ifData) :
    ∃ g' more, events.foldlM (flowGraphStep crc32c) g = .ok g' ∧
      FlowFollows crc32c ifData g'
        (arrived ++ events.flatMap FlowGraphEvent.arrivals) (sent ++ more) := by
  induction events generalizing g arrived sent with
  | nil =>
      refine ⟨g, [], rfl, ?_⟩
      simpa using h
  | cons event events ih =>
      obtain ⟨g', more, hg', hfollows⟩ :=
        h.step (hinside event List.mem_cons_self)
      obtain ⟨g'', rest, hg'', hrest⟩ := ih hfollows fun other hother =>
        hinside other (List.mem_cons_of_mem event hother)
      refine ⟨g'', more ++ rest, ?_, ?_⟩
      · rw [List.foldlM_cons, hg']
        exact hg''
      · rw [List.flatMap_cons, ← List.append_assoc, ← List.append_assoc]
        exact hrest

variable (crc32c ifData) in
theorem FlowFollows.initial :
    FlowFollows crc32c ifData ⟨ifData, Queues.empty, 0⟩ [] [] where
  settings := rfl
  decided := .nil
  queues := ⟨[], Queues.follows_empty, by simp, fun _ => rfl, .refl _⟩
  congestion := rfl

/-- A data frame of a flow, received by a thread on an interface. -/
def CarriesFlow (rx : U16) (swIfIndex : Nat) (flow : FlowId)
    (arrival : U16 × Nat × VlibBuffer) : Prop :=
  arrival.1 = rx ∧ arrival.2.2.swIfIndexRx = swIfIndex ∧
    ∃ frame : DataFrame, arrival.2.2.current = frame.encode ∧
      frame.inner.flow = flow

/-- The thread of a flow. -/
def flowWorker (crc32c : List U8 → U32) (ifd : FlowHandoffIf) (rx : U16)
    (flow : FlowId) : U16 :=
  if ifd.workers = [] then rx
  else hashedWorker ifd.workers (crc32c flow.key)

theorem FlowSent.thread {rx : U16} {swIfIndex : Nat} {flow : FlowId}
    {arrival : U16 × Nat × VlibBuffer} {item : FlowItem} {ifd : FlowHandoffIf}
    (h : FlowSent crc32c ifData arrival item)
    (hcarries : CarriesFlow rx swIfIndex flow arrival)
    (hifd : ifData[swIfIndex]? = some ifd) (hspray : ifd.spray = false) :
    item.1 = rx ∧ item.2.2.thread = flowWorker crc32c ifd rx flow ∧
      item.2.2.next =
        if item.2.2.kind = .fast then .l2tvppInput else .ethernetInput := by
  obtain ⟨hrx, hbi, lm, ifd', found, moved, hifd', hsettings, hresult⟩ := h
  obtain ⟨rfl, rfl, frame, hcurrent, rfl⟩ := hcarries
  rw [hifd] at hifd'
  cases hifd'
  obtain ⟨hworkers, -, hspray'⟩ := settings_inj hsettings
  refine ⟨hrx, ?_, l2tvppFlowHandoff_next hresult⟩
  unfold flowWorker
  split
  · rename_i hempty
    obtain ⟨ifd', c, hifd', -, -, -, -, -, hstays, -⟩ :=
      (l2tvppFlowHandoff_decided hifd hsettings hresult).1.decision
    rw [hifd] at hifd'
    cases hifd'
    exact hstays (.inr hempty)
  · rename_i hsome
    obtain ⟨result, hresult', hthread⟩ := l2tvppFlowHandoff_encode crc32c lm
      found arrival.1 frame (hspray'.trans hspray) (hworkers ▸ hsome) hcurrent
    rw [hresult] at hresult'
    cases hresult'
    rw [hthread, hworkers]

end Run

/-- Two frames of one flow with one of another between them. -/
def interleavedFlows : List FlowGraphEvent :=
  let lm := (runCalls Policies.lifo Pool.empty Pool.empty oneSession).lm
  [.frame lm 1 [(5, bufferOf plainFrame.encode), (6, bufferOf [0]),
      (7, bufferOf taggedFrame.encode)] fun _ => true,
    .dispatch ⟨2, .ethernetInput, true⟩ 8]

end L2tvpp.Node
