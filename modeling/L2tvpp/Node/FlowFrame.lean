import L2tvpp.Node.FlowAffinity
import L2tvpp.Node.HandoffControl

/-!
# A frame through l2tvpp-flow-handoff

The loop of the node sorts the buffers of a frame into three sets: those that
stay on this thread, and those for the queues to `ethernet-input` and to
`l2tvpp-input` of another one.
-/

namespace L2tvpp.Node

open L2tvpp.Lib
open L2tvpp.Plugin

/-! ## The loop -/

/-- The settings of the interfaces, whose cursors move, and the three output
sets: a buffer index, and what was decided for the buffer. -/
structure FlowLoop where
  ifData : List FlowHandoffIf
  locals : List (Nat × FlowResult)
  eth : List (Nat × FlowResult)
  l2tp : List (Nat × FlowResult)

def FlowLoop.place (s : FlowLoop) (thisThread : U16) (bi : Nat)
    (result : FlowResult) : FlowLoop :=
  if result.kind = .fast then
    if result.thread = thisThread then
      { s with locals := s.locals ++ [(bi, result)] }
    else { s with l2tp := s.l2tp ++ [(bi, result)] }
  else if result.thread = thisThread then
    { s with locals := s.locals ++ [(bi, result)] }
  else { s with eth := s.eth ++ [(bi, result)] }

section Node

variable (crc32c : List U8 → U32) (lm : L2tvppMain) (thisThread : U16)

def flowHandoffStep (s : FlowLoop) (entry : Nat × VlibBuffer) :
    Except MemFault FlowLoop := do
  match s.ifData[entry.2.swIfIndexRx]? with
  | none => .error (.outOfBounds entry.2.swIfIndexRx)
  | some ifd =>
      let (result, ifd) ← l2tvppFlowHandoff crc32c lm ifd thisThread entry.2
      pure (FlowLoop.place
        { s with ifData := s.ifData.set entry.2.swIfIndexRx ifd } thisThread
        entry.1 result)

def l2tvppFlowHandoffNode (ifData : List FlowHandoffIf)
    (frame : List (Nat × VlibBuffer)) : Except MemFault FlowLoop :=
  frame.foldlM (flowHandoffStep crc32c lm thisThread) ⟨ifData, [], [], []⟩

end Node

/-! ## One buffer -/

section Buffer

variable {hashIp : List U8 → Nat → Nat → Except MemFault (Option U32)}
  {lm : L2tvppMain} {fastpath wantHash : Bool} {b : VlibBuffer} {c : Classified}

/-- Classifying records header offsets at most. -/
def OffsetsRecorded (b b' : VlibBuffer) : Prop :=
  b' = b ∨ ∃ p udp, b' = recordOffsets b p udp

theorem classifyOuter_buffer {p : Nat} {l2tpOffset : U16}
    (h : classifyOuter hashIp wantHash b p l2tpOffset = .ok c) :
    c.buffer = b := by
  unfold classifyOuter at h
  split at h
  · cases h
    rfl
  · obtain ⟨hash, -, h⟩ := ok_of_bind h
    cases hash with
    | none =>
        cases h
        rfl
    | some hash =>
        cases h
        rfl

theorem classifyInner_buffer {p l2tp off : Nat} {flags l2tpOffset : U16}
    {fast : Bool}
    (h : classifyInner hashIp wantHash b p l2tp flags off fast l2tpOffset =
      .ok c) : c.buffer = b := by
  obtain ⟨walked, -, h⟩ := ok_of_bind h
  cases walked with
  | none => exact classifyOuter_buffer h
  | some cur =>
      obtain ⟨hash, -, h⟩ := ok_of_bind h
      cases hash with
      | some hash =>
          cases h
          rfl
      | none =>
          cases fast with
          | true =>
              cases h
              rfl
          | false => exact classifyOuter_buffer h

theorem classifyData_buffer {p udp l2tp off : Nat} {tagged : Bool}
    {flags : U16}
    (h : classifyData hashIp lm fastpath wantHash b p udp l2tp tagged flags
      off = .ok c) : OffsetsRecorded b c.buffer := by
  obtain ⟨fast, -, h⟩ := ok_of_bind h
  have hbuffer : c.buffer = if fast then recordOffsets b p udp else b := by
    dsimp only at h
    split at h
    · cases h
      rfl
    · exact classifyInner_buffer h
  rw [hbuffer]
  cases fast with
  | false => exact .inl rfl
  | true => exact .inr ⟨p, udp, rfl⟩

theorem classifyIp4_buffer {p : Nat} {tagged : Bool}
    (h : classifyIp4 hashIp lm fastpath wantHash b p tagged = .ok c) :
    OffsetsRecorded b c.buffer := by
  unfold classifyIp4 at h
  dsimp only at h
  split at h
  · cases h
    exact .inl rfl
  · obtain ⟨proto, -, h⟩ := ok_of_bind h
    obtain ⟨fragment, -, h⟩ := ok_of_bind h
    split at h
    · exact .inl (classifyOuter_buffer h)
    · obtain ⟨version, -, h⟩ := ok_of_bind h
      split at h
      · exact .inl (classifyOuter_buffer h)
      · obtain ⟨dstPort, -, h⟩ := ok_of_bind h
        split at h
        · exact .inl (classifyOuter_buffer h)
        · obtain ⟨hdr, -, h⟩ := ok_of_bind h
          cases hdr with
          | data flags tid sid off => exact classifyData_buffer h
          | tooShort => exact .inl (classifyOuter_buffer h)
          | notV2 =>
              cases h
              exact .inl rfl
          | control =>
              cases h
              exact .inl rfl

theorem classifyType_buffer {type : U16} {p : Nat} {tagged : Bool}
    (h : classifyType hashIp lm fastpath wantHash b type p tagged = .ok c) :
    OffsetsRecorded b c.buffer := by
  unfold classifyType at h
  split at h
  · exact classifyIp4_buffer h
  · split at h
    · exact .inl (classifyOuter_buffer h)
    · cases h
      exact .inl rfl

theorem classifyFrame_buffer
    (h : classifyFrame hashIp lm fastpath wantHash b = .ok c) :
    OffsetsRecorded b c.buffer := by
  unfold classifyFrame at h
  dsimp only at h
  split at h
  · cases h
    exact .inl rfl
  · obtain ⟨type, -, h⟩ := ok_of_bind h
    split at h
    · split at h
      · cases h
        exact .inl rfl
      · obtain ⟨inner, -, h⟩ := ok_of_bind h
        exact classifyType_buffer h
    · exact classifyType_buffer h

theorem OffsetsRecorded.window {b' : VlibBuffer} (h : OffsetsRecorded b b') :
    b'.currentData = b.currentData ∧ b'.currentLength = b.currentLength := by
  rcases h with rfl | ⟨p, udp, rfl⟩
  · exact ⟨rfl, rfl⟩
  · exact ⟨rfl, rfl⟩

end Buffer

/-- A worker of the interface, or this thread. -/
theorem flowThread_cases (ifd : FlowHandoffIf) (thisThread : U16)
    (kind : FlowKind) (hash : U32) :
    ((kind = .localThread ∨ ifd.workers = []) →
      (flowThread ifd thisThread kind hash).1 = thisThread) ∧
    (¬ (kind = .localThread ∨ ifd.workers = []) →
      (flowThread ifd thisThread kind hash).1 ∈ ifd.workers) := by
  unfold flowThread
  dsimp only
  rw [← List.length_eq_zero_iff]
  constructor
  · intro hstays
    rw [if_pos hstays]
  · intro hmoves
    have hlen : 0 < ifd.workers.length := by
      rw [not_or] at hmoves
      omega
    rw [if_neg hmoves]
    split
    · exact getD_mem (Nat.mod_lt _ hlen)
    · split
      · exact getD_mem hlen
      · exact getD_mem (workerIndex_lt hlen hash)

/-! ## A frame -/

def FlowHandoffIf.wantHash (ifd : FlowHandoffIf) : Bool :=
  !ifd.spray && decide (ifd.workers.length > 1)

/-- The settings of an interface without its cursor. -/
def FlowHandoffIf.settings (ifd : FlowHandoffIf) : FlowHandoffIf :=
  { ifd with rr := 0 }

theorem settings_inj {ifd ifd' : FlowHandoffIf}
    (h : ifd'.settings = ifd.settings) :
    ifd'.workers = ifd.workers ∧ ifd'.fastpath = ifd.fastpath ∧
      ifd'.spray = ifd.spray := by
  simp only [FlowHandoffIf.settings, FlowHandoffIf.mk.injEq] at h
  exact ⟨h.1, h.2.2.2.1, h.2.2.2.2⟩

/-- What is decided for a buffer from an interface with the settings `ifData`. -/
structure Decided (crc32c : List U8 → U32) (lm : L2tvppMain)
    (thisThread : U16) (ifData : List FlowHandoffIf)
    (entry : Nat × VlibBuffer) (sent : Nat × FlowResult) : Prop where
  bi : sent.1 = entry.1
  decision : ∃ ifd c, ifData[entry.2.swIfIndexRx]? = some ifd ∧
    l2tvppFlowClassify crc32c lm ifd.fastpath ifd.wantHash entry.2 = .ok c ∧
    sent.2.kind = c.kind ∧
    (sent.2.next = .l2tvppInput ↔ c.kind = .fast) ∧
    (c.kind = .fast →
      sent.2.buffer.currentData = entry.2.currentData + c.l2tpOffset ∧
      sent.2.buffer.currentLength = entry.2.currentLength - c.l2tpOffset) ∧
    (c.kind ≠ .fast →
      sent.2.buffer.currentData = entry.2.currentData ∧
      sent.2.buffer.currentLength = entry.2.currentLength) ∧
    (c.kind = .localThread ∨ ifd.workers = [] →
      sent.2.thread = thisThread) ∧
    (sent.2.thread ≠ thisThread → sent.2.thread ∈ ifd.workers)

section Frame

variable {crc32c : List U8 → U32} {lm : L2tvppMain} {thisThread : U16}

theorem l2tvppFlowHandoff_decided {ifData : List FlowHandoffIf}
    {ifd ifd' moved : FlowHandoffIf} {entry : Nat × VlibBuffer}
    {result : FlowResult}
    (hifd : ifData[entry.2.swIfIndexRx]? = some ifd)
    (hsettings : ifd'.settings = ifd.settings)
    (h : l2tvppFlowHandoff crc32c lm ifd' thisThread entry.2 =
      .ok (result, moved)) :
    Decided crc32c lm thisThread ifData entry (entry.1, result) ∧
      moved.settings = ifd.settings := by
  obtain ⟨hworkers, hfastpath, hspray⟩ := settings_inj hsettings
  obtain ⟨c, hc, h⟩ := ok_of_bind h
  have hwindow := (classifyFrame_buffer hc).window
  have hthread := flowThread_cases ifd' thisThread c.kind c.hash
  rw [hworkers] at hthread
  rw [hfastpath, hspray, hworkers] at hc
  cases h
  refine ⟨⟨rfl, ifd, c, hifd, hc, ?_⟩, hsettings⟩
  have hremote : (flowThread ifd' thisThread c.kind c.hash).1 ≠ thisThread →
      (flowThread ifd' thisThread c.kind c.hash).1 ∈ ifd.workers := by
    intro hremote
    exact hthread.2 fun hstays => hremote (hthread.1 hstays)
  by_cases hfast : c.kind = .fast
  · have hdistance : BitVec.ofInt 16 (c.l2tpOffset.toNat : Int) =
        c.l2tpOffset := by
      rw [BitVec.ofInt_natCast, BitVec.ofNat_toNat, BitVec.setWidth_eq]
    simp only [if_pos hfast]
    refine ⟨trivial, by simp [hfast], ?_, fun hslow => absurd hfast hslow,
      hthread.1, hremote⟩
    intro _
    rw [fastBuffer, vlibBufferAdvance, hdistance, hwindow.1, hwindow.2]
    exact ⟨rfl, rfl⟩
  · simp only [if_neg hfast]
    exact ⟨trivial, by simp [hfast], fun hyes => absurd hyes hfast,
      fun _ => hwindow, hthread.1, hremote⟩

/-- The buffers that stay on this thread, and those for the two queues. -/
def staysLocal (thisThread : U16) (sent : Nat × FlowResult) : Bool :=
  sent.2.thread == thisThread

def goesToEthernet (thisThread : U16) (sent : Nat × FlowResult) : Bool :=
  sent.2.thread != thisThread && sent.2.kind != .fast

def goesToL2tp (thisThread : U16) (sent : Nat × FlowResult) : Bool :=
  sent.2.thread != thisThread && sent.2.kind == .fast

variable (thisThread) in
theorem place_spec (s : FlowLoop) (bi : Nat) (result : FlowResult) :
    (s.place thisThread bi result).ifData = s.ifData ∧
    (s.place thisThread bi result).locals =
      s.locals ++ [(bi, result)].filter (staysLocal thisThread) ∧
    (s.place thisThread bi result).eth =
      s.eth ++ [(bi, result)].filter (goesToEthernet thisThread) ∧
    (s.place thisThread bi result).l2tp =
      s.l2tp ++ [(bi, result)].filter (goesToL2tp thisThread) := by
  unfold FlowLoop.place
  by_cases hfast : result.kind = .fast <;>
    by_cases hthread : result.thread = thisThread <;>
      simp [List.filter_cons, hfast, hthread, staysLocal, goesToEthernet,
        goesToL2tp]

theorem getElem?_of_settings {ifData moved : List FlowHandoffIf}
    (h : moved.map FlowHandoffIf.settings = ifData.map FlowHandoffIf.settings)
    {i : Nat} {ifd : FlowHandoffIf} (hifd : ifData[i]? = some ifd) :
    ∃ ifd', moved[i]? = some ifd' ∧ ifd'.settings = ifd.settings := by
  have hi := congrArg (·[i]?) h
  simp only [List.getElem?_map, hifd, Option.map_some,
    Option.map_eq_some_iff] at hi
  exact hi

theorem settings_set {ifData moved : List FlowHandoffIf}
    (h : moved.map FlowHandoffIf.settings = ifData.map FlowHandoffIf.settings)
    {i : Nat} {ifd ifd' : FlowHandoffIf} (hifd : ifData[i]? = some ifd)
    (hifd' : ifd'.settings = ifd.settings) :
    (moved.set i ifd').map FlowHandoffIf.settings =
      ifData.map FlowHandoffIf.settings := by
  rw [List.map_set, h]
  apply List.ext_getElem?
  intro j
  rw [List.getElem?_set]
  split
  · rename_i hij
    subst hij
    have hlt : i < (ifData.map FlowHandoffIf.settings).length := by
      rw [List.length_map]
      exact (List.getElem?_eq_some_iff.mp hifd).1
    rw [if_pos hlt, List.getElem?_map, hifd, hifd']
    rfl
  · rfl

/-- Every buffer is in exactly one of the sets. -/
theorem perm_parts (thisThread : U16) (sent : List (Nat × FlowResult)) :
    (sent.filter (staysLocal thisThread) ++
      (sent.filter (goesToEthernet thisThread) ++
        sent.filter (goesToL2tp thisThread))).Perm sent := by
  let remote := sent.filter fun sent => !staysLocal thisThread sent
  have heth : sent.filter (goesToEthernet thisThread) =
      remote.filter fun sent => sent.2.kind != .fast := by
    rw [List.filter_filter]
    apply List.filter_congr
    intro entry _
    exact Bool.and_comm _ _
  have hl2tp : sent.filter (goesToL2tp thisThread) =
      remote.filter fun sent => !(sent.2.kind != .fast) := by
    rw [List.filter_filter]
    apply List.filter_congr
    intro entry _
    simp only [goesToL2tp, staysLocal, bne, Bool.not_not, Bool.and_comm]
  rw [heth, hl2tp]
  exact ((List.filter_append_perm _ remote).append_left _).trans
    (List.filter_append_perm _ sent)

variable (crc32c lm thisThread) in
/-- The loop over a frame: the settings stay, every buffer is decided on, and the
three sets are the buffers that belong to them, in their order. -/
theorem foldlM_flowHandoffStep {ifData : List FlowHandoffIf}
    (frame : List (Nat × VlibBuffer))
    (hframe : ∀ entry ∈ frame, entry.2.swIfIndexRx < ifData.length)
    {s : FlowLoop} (hs : s.ifData.map FlowHandoffIf.settings =
      ifData.map FlowHandoffIf.settings) :
    ∃ sent out,
      frame.foldlM (flowHandoffStep crc32c lm thisThread) s = .ok out ∧
      List.Forall₂ (Decided crc32c lm thisThread ifData) frame sent ∧
      out.ifData.map FlowHandoffIf.settings =
        ifData.map FlowHandoffIf.settings ∧
      out.locals = s.locals ++ sent.filter (staysLocal thisThread) ∧
      out.eth = s.eth ++ sent.filter (goesToEthernet thisThread) ∧
      out.l2tp = s.l2tp ++ sent.filter (goesToL2tp thisThread) := by
  induction frame generalizing s with
  | nil => exact ⟨[], s, rfl, .nil, hs, by simp, by simp, by simp⟩
  | cons entry frame ih =>
      have hinside := hframe entry List.mem_cons_self
      obtain ⟨ifd, hifd⟩ : ∃ ifd, ifData[entry.2.swIfIndexRx]? = some ifd :=
        ⟨_, List.getElem?_eq_getElem hinside⟩
      obtain ⟨ifd', hifd', hsettings⟩ :=
        getElem?_of_settings hs hifd
      obtain ⟨⟨result, moved⟩, hresult, -⟩ := SafeRun.returns
        (safeRun_l2tvppFlowHandoff crc32c lm ifd' thisThread entry.2)
      obtain ⟨hdecided, hmoved⟩ :=
        l2tvppFlowHandoff_decided hifd hsettings hresult
      obtain ⟨hifData, hlocals, heth, hl2tp⟩ := place_spec thisThread
        { s with ifData := s.ifData.set entry.2.swIfIndexRx moved }
        entry.1 result
      obtain ⟨sent, out, hout, hsent, hkept, hlocals', heth', hl2tp'⟩ :=
        ih (fun other hother => hframe other (List.mem_cons_of_mem entry hother))
          (s := FlowLoop.place
            { s with ifData := s.ifData.set entry.2.swIfIndexRx moved }
            thisThread entry.1 result) (by
              rw [hifData]
              exact settings_set hs hifd hmoved)
      refine ⟨(entry.1, result) :: sent, out, ?_, .cons hdecided hsent, hkept,
        ?_, ?_, ?_⟩
      · rw [List.foldlM_cons, flowHandoffStep, hifd']
        dsimp only
        rw [hresult]
        exact hout
      · rw [hlocals', hlocals, List.append_assoc, ← List.filter_append]
        rfl
      · rw [heth', heth, List.append_assoc, ← List.filter_append]
        rfl
      · rw [hl2tp', hl2tp, List.append_assoc, ← List.filter_append]
        rfl

end Frame

/-! ## The settings of a run -/

inductive FlowEvent where
  | command (command : HandoffCommand)
  | frame (lm : L2tvppMain) (thisThread : U16)
      (frame : List (Nat × VlibBuffer))

/-- A frame only moves the cursors of the interfaces. -/
def flowEvent (crc32c : List U8 → U32) (threads : Threads) (hm : HandoffMain) :
    FlowEvent → HandoffMain
  | .command command => handoffStep threads hm command
  | .frame lm thisThread frame =>
      match l2tvppFlowHandoffNode crc32c lm thisThread hm.ifData frame with
      | .ok s => { hm with ifData := s.ifData }
      | .error _ => hm

def WorkersInRange (threads : Threads) (ifData : List FlowHandoffIf) : Prop :=
  ∀ ifd ∈ ifData, ∀ worker ∈ ifd.workers,
    1 ≤ worker.toNat ∧ worker.toNat ≤ threads.nWorkers.toNat

section Settings

variable {crc32c : List U8 → U32} {threads : Threads} {hm : HandoffMain}

theorem workers_configuredIf (hthreads : threads.nWorkers.toNat < 2 ^ 16)
    {workersBitmap : Option Nat} {fastpath spray enable : Bool}
    (h : enable = true → workersBitmap.all (workersExist threads) = true)
    {worker : U16}
    (hmem : worker ∈
      (configuredIf workersBitmap fastpath spray enable).workers) :
    1 ≤ worker.toNat ∧ worker.toNat ≤ threads.nWorkers.toNat := by
  cases enable with
  | false => cases hmem
  | true =>
      cases workersBitmap with
      | none => cases hmem
      | some bitmap =>
          have hexist : workersExist threads bitmap = true := h rfl
          unfold workersExist bitmapLastSet at hexist
          split at hexist
          · cases hexist
          · rename_i last hlast
            split at hlast
            · cases hlast
            · cases hlast
              rw [decide_eq_true_eq] at hexist
              obtain ⟨i, hi, rfl⟩ := List.mem_map.mp hmem
              have hbit := List.mem_range.mp (List.mem_filter.mp hi).1
              rw [BitVec.toNat_ofNat, Nat.mod_eq_of_lt (by omega)]
              omega

/-- The settings after an accepted command. -/
theorem flowHandoff_ifData {swIfIndex : Nat} {workersBitmap : Option Nat}
    {fastpath spray enable : Bool} {hm' : HandoffMain}
    (h : l2tvppFlowHandoffEnableDisable threads hm swIfIndex workersBitmap
      fastpath spray enable = .ok hm') :
    (enable = true → workersBitmap.all (workersExist threads) = true) ∧
    (hm'.ifData = validateIf hm.ifData swIfIndex ∨
      hm'.ifData = (validateIf hm.ifData swIfIndex).set swIfIndex
        (configuredIf workersBitmap fastpath spray enable)) := by
  obtain ⟨hifData, -, -, -⟩ := ethernetQueueMade_kept threads hm
  unfold l2tvppFlowHandoffEnableDisable at h
  split at h
  · split at h
    · cases h
    · rename_i hvalid
      refine ⟨fun henable => ?_, ?_⟩
      · rw [henable] at hvalid
        simpa using hvalid
      · simp only [hifData] at h
        split at h
        · cases h
          exact .inl rfl
        · refine .inr ?_
          cases enable with
          | false =>
              rw [if_neg (by simp)] at h
              cases h
              rfl
          | true =>
              rw [if_pos rfl, l2tvppSetHandoff_zero] at h
              cases h
              rfl
  · cases h

theorem WorkersInRange.validateIf {ifData : List FlowHandoffIf}
    (h : WorkersInRange threads ifData) (swIfIndex : Nat) :
    WorkersInRange threads (validateIf ifData swIfIndex) := by
  intro ifd hifd worker hworker
  rcases List.mem_append.mp hifd with hold | hnew
  · exact h ifd hold worker hworker
  · rw [(List.mem_replicate.mp hnew).2] at hworker
    cases hworker

theorem workersInRange_handoffStep (hthreads : threads.nWorkers.toNat < 2 ^ 16)
    (h : WorkersInRange threads hm.ifData) (command : HandoffCommand) :
    WorkersInRange threads (handoffStep threads hm command).ifData ∧
      hm.ifData.length ≤ (handoffStep threads hm command).ifData.length := by
  cases command with
  | handoffDefault =>
      simp only [handoffStep, l2tvppHandoffDefault]
      split
      · exact ⟨h, Nat.le_refl _⟩
      · exact ⟨h, Nat.le_refl _⟩
  | setHandoff enable =>
      simp only [handoffStep, l2tvppSetHandoff]
      split
      · exact ⟨h, Nat.le_refl _⟩
      · exact ⟨h, Nat.le_refl _⟩
  | flowHandoff swIfIndex workersBitmap fastpath spray enable =>
      simp only [handoffStep]
      split
      · exact ⟨h, Nat.le_refl _⟩
      · rename_i hm' hok
        obtain ⟨hexist, hifData⟩ := flowHandoff_ifData hok
        have hlength : hm.ifData.length ≤
            (validateIf hm.ifData swIfIndex).length := by
          simp [validateIf]
        rcases hifData with hifData | hifData
        · rw [hifData]
          exact ⟨h.validateIf swIfIndex, hlength⟩
        · rw [hifData, List.length_set]
          refine ⟨?_, hlength⟩
          intro ifd hifd worker hworker
          rcases List.mem_or_eq_of_mem_set hifd with hold | rfl
          · exact h.validateIf swIfIndex ifd hold worker hworker
          · exact workers_configuredIf hthreads hexist hworker

theorem settings_flowHandoffStep {lm : L2tvppMain} {thisThread : U16}
    {s s' : FlowLoop} {entry : Nat × VlibBuffer}
    (h : flowHandoffStep crc32c lm thisThread s entry = .ok s') :
    s'.ifData.map FlowHandoffIf.settings =
      s.ifData.map FlowHandoffIf.settings := by
  unfold flowHandoffStep at h
  split at h
  · cases h
  · rename_i ifd hifd
    obtain ⟨⟨result, moved⟩, hresult, h⟩ := ok_of_bind h
    cases h
    rw [(place_spec thisThread _ _ _).1]
    exact settings_set rfl hifd
      (l2tvppFlowHandoff_decided hifd rfl hresult).2

/-- Frames change no setting. -/
theorem settings_foldlM {lm : L2tvppMain} {thisThread : U16}
    (frame : List (Nat × VlibBuffer)) {s s' : FlowLoop}
    (h : frame.foldlM (flowHandoffStep crc32c lm thisThread) s = .ok s') :
    s'.ifData.map FlowHandoffIf.settings =
      s.ifData.map FlowHandoffIf.settings := by
  induction frame generalizing s with
  | nil =>
      cases h
      rfl
  | cons entry frame ih =>
      rw [List.foldlM_cons] at h
      obtain ⟨next, hnext, h⟩ := ok_of_bind h
      exact (ih h).trans (settings_flowHandoffStep hnext)

theorem WorkersInRange.of_settings {ifData moved : List FlowHandoffIf}
    (h : WorkersInRange threads ifData)
    (hmoved : moved.map FlowHandoffIf.settings =
      ifData.map FlowHandoffIf.settings) : WorkersInRange threads moved := by
  intro ifd hifd worker hworker
  obtain ⟨i, hi⟩ := List.mem_iff_getElem?.mp hifd
  obtain ⟨ifd', hifd', hsettings⟩ := getElem?_of_settings hmoved.symm hi
  rw [← (settings_inj hsettings).1] at hworker
  exact h ifd' (List.mem_of_getElem? hifd') worker hworker

variable (crc32c)

/-- One event of a run. -/
theorem workersInRange_flowEvent (hthreads : threads.nWorkers.toNat < 2 ^ 16)
    (h : WorkersInRange threads hm.ifData) (event : FlowEvent) :
    WorkersInRange threads (flowEvent crc32c threads hm event).ifData ∧
      hm.ifData.length ≤
        (flowEvent crc32c threads hm event).ifData.length := by
  cases event with
  | command command => exact workersInRange_handoffStep hthreads h command
  | frame lm thisThread frame =>
      simp only [flowEvent]
      split
      · rename_i s hs
        have hsettings := settings_foldlM frame hs
        have hlength := congrArg List.length hsettings
        simp only [List.length_map] at hlength
        exact ⟨h.of_settings hsettings, hlength.symm.le⟩
      · exact ⟨h, Nat.le_refl _⟩

/-- A run. -/
theorem workersInRange_run (hthreads : threads.nWorkers.toNat < 2 ^ 16)
    (h : WorkersInRange threads hm.ifData) (events : List FlowEvent) :
    WorkersInRange threads
        (run (flowEvent crc32c threads) hm events).ifData ∧
      hm.ifData.length ≤
        (run (flowEvent crc32c threads) hm events).ifData.length := by
  induction events generalizing hm with
  | nil => exact ⟨h, Nat.le_refl _⟩
  | cons event events ih =>
      have hstep := workersInRange_flowEvent crc32c hthreads h event
      have hrest := ih hstep.1
      exact ⟨hrest.1, hstep.2.trans hrest.2⟩

end Settings

/-- The run has a command for the interface that was accepted. -/
def Accepted (crc32c : List U8 → U32) (threads : Threads)
    (handoffQueueNelts : U32) (events : List FlowEvent) (swIfIndex : Nat) :
    Prop :=
  ∃ before workersBitmap fastpath spray enable after hm',
    events = before ++ .command
      (.flowHandoff swIfIndex workersBitmap fastpath spray enable) :: after ∧
    l2tvppFlowHandoffEnableDisable threads
      (run (flowEvent crc32c threads) (HandoffMain.init handoffQueueNelts)
        before) swIfIndex workersBitmap fastpath spray enable = .ok hm'

theorem workersInRange_init (crc32c : List U8 → U32) {threads : Threads}
    (hthreads : threads.nWorkers.toNat < 2 ^ 16) (handoffQueueNelts : U32)
    (events : List FlowEvent) :
    WorkersInRange threads (run (flowEvent crc32c threads)
      (HandoffMain.init handoffQueueNelts) events).ifData := by
  refine (workersInRange_run crc32c hthreads ?_ events).1
  intro ifd hifd
  cases hifd

theorem Accepted.lt_length {crc32c : List U8 → U32} {threads : Threads}
    (hthreads : threads.nWorkers.toNat < 2 ^ 16) {handoffQueueNelts : U32}
    {events : List FlowEvent} {swIfIndex : Nat}
    (h : Accepted crc32c threads handoffQueueNelts events swIfIndex) :
    swIfIndex < (run (flowEvent crc32c threads)
      (HandoffMain.init handoffQueueNelts) events).ifData.length := by
  obtain ⟨before, workersBitmap, fastpath, spray, enable, after, hm', rfl,
    hok⟩ := h
  have hstep : run (flowEvent crc32c threads)
      (HandoffMain.init handoffQueueNelts) (before ++ [.command
        (.flowHandoff swIfIndex workersBitmap fastpath spray enable)]) =
      hm' := by
    unfold run at hok ⊢
    simp only [List.foldl_append, List.foldl_cons, List.foldl_nil, flowEvent,
      handoffStep, hok]
  have hvalid : swIfIndex < hm'.ifData.length := by
    obtain ⟨-, hifData⟩ := flowHandoff_ifData hok
    rcases hifData with hifData | hifData
    · rw [hifData]
      simp [validateIf]
      omega
    · rw [hifData]
      simp [validateIf]
      omega
  have hrange := workersInRange_init crc32c hthreads handoffQueueNelts
    (before ++ [.command
      (.flowHandoff swIfIndex workersBitmap fastpath spray enable)])
  rw [hstep] at hrange
  have hrest := (workersInRange_run crc32c hthreads hrange after).2
  rw [← hstep, run, run, ← List.foldl_append, List.append_assoc] at hrest
  rw [← hstep] at hvalid
  exact lt_of_lt_of_le hvalid hrest

/-- In every run and for every frame from configured interfaces the three sets
are the frame in parts, each in its order; only fast buffers go to
`l2tvpp-input`, and only workers get buffers. -/
theorem l2tvppFlowHandoffNode_partition (crc32c : List U8 → U32)
    {threads : Threads} (hthreads : threads.nWorkers.toNat < 2 ^ 16)
    (handoffQueueNelts : U32) (events : List FlowEvent) (lm : L2tvppMain)
    (thisThread : U16) {frame : List (Nat × VlibBuffer)}
    (hframe : ∀ entry ∈ frame, Accepted crc32c threads handoffQueueNelts events
      entry.2.swIfIndexRx) :
    let hm := run (flowEvent crc32c threads)
      (HandoffMain.init handoffQueueNelts) events
    ∃ sent out,
      l2tvppFlowHandoffNode crc32c lm thisThread hm.ifData frame = .ok out ∧
      List.Forall₂ (Decided crc32c lm thisThread hm.ifData) frame sent ∧
      out.locals = sent.filter (staysLocal thisThread) ∧
      out.eth = sent.filter (goesToEthernet thisThread) ∧
      out.l2tp = sent.filter (goesToL2tp thisThread) ∧
      (out.locals.map Prod.fst).Sublist (frame.map Prod.fst) ∧
      (out.eth.map Prod.fst).Sublist (frame.map Prod.fst) ∧
      (out.l2tp.map Prod.fst).Sublist (frame.map Prod.fst) ∧
      ((out.locals ++ (out.eth ++ out.l2tp)).map Prod.fst).Perm
        (frame.map Prod.fst) ∧
      ∀ entry ∈ out.eth ++ out.l2tp, entry.2.thread ≠ thisThread ∧
        1 ≤ entry.2.thread.toNat ∧
        entry.2.thread.toNat ≤ threads.nWorkers.toNat := by
  intro hm
  have hrange : WorkersInRange threads hm.ifData :=
    workersInRange_init crc32c hthreads handoffQueueNelts events
  obtain ⟨sent, out, hout, hsent, -, hlocals, heth, hl2tp⟩ :=
    foldlM_flowHandoffStep crc32c lm thisThread frame
      (fun entry hentry => (hframe entry hentry).lt_length hthreads)
      (s := ⟨hm.ifData, [], [], []⟩) rfl
  have hindices : sent.map Prod.fst = frame.map Prod.fst := by
    clear hlocals heth hl2tp hout hframe
    induction hsent with
    | nil => rfl
    | cons hdecided _ ih => rw [List.map_cons, List.map_cons, ih, hdecided.bi]
  have hpart : ∀ p : Nat × FlowResult → Bool,
      ((sent.filter p).map Prod.fst).Sublist (frame.map Prod.fst) := by
    intro p
    rw [← hindices]
    exact List.filter_sublist.map _
  rw [List.nil_append] at hlocals heth hl2tp
  refine ⟨sent, out, hout, hsent, hlocals, heth, hl2tp, ?_, ?_, ?_, ?_, ?_⟩
  · rw [hlocals]
    exact hpart _
  · rw [heth]
    exact hpart _
  · rw [hl2tp]
    exact hpart _
  · rw [hlocals, heth, hl2tp, ← hindices]
    exact (perm_parts thisThread sent).map _
  · intro entry hentry
    have hremote : entry ∈ sent ∧ entry.2.thread ≠ thisThread := by
      rw [heth, hl2tp] at hentry
      rcases List.mem_append.mp hentry with hmem | hmem
      · have hboth := List.mem_filter.mp hmem
        simp only [goesToEthernet, Bool.and_eq_true, bne_iff_ne] at hboth
        exact ⟨hboth.1, hboth.2.1⟩
      · have hboth := List.mem_filter.mp hmem
        simp only [goesToL2tp, Bool.and_eq_true, bne_iff_ne] at hboth
        exact ⟨hboth.1, hboth.2.1⟩
    obtain ⟨source, -, hdecided⟩ := exists_of_forall₂ hsent hremote.1
    obtain ⟨ifd, c, hifd, -, -, -, -, -, -, hworker⟩ := hdecided.decision
    exact ⟨hremote.2, hrange ifd (List.mem_of_getElem? hifd) _
      (hworker hremote.2)⟩

/-- A truncated frame and one of a DNS query, both from the interface that
`flowHandoffOn` configures. -/
def twoBuffers : List (Nat × VlibBuffer) :=
  [(7, { bufferOf [0, 1, 2] with swIfIndexRx := 1 }),
   (5, { bufferOf plainFrame.encode with swIfIndexRx := 1 })]

theorem l2tvppFlowHandoffNode_partition_twoBuffers :
    let hm := run (flowEvent byteSum threeWorkers) (HandoffMain.init 64)
      (flowHandoffOn.map .command)
    ∃ out, l2tvppFlowHandoffNode byteSum (L2tvppMain.init) 0 hm.ifData
        twoBuffers = .ok out ∧
      ((out.locals ++ (out.eth ++ out.l2tp)).map Prod.fst).Perm [7, 5] := by
  intro hm
  have haccepted : Accepted byteSum threeWorkers 64 (flowHandoffOn.map .command)
      1 := by
    exact ⟨[.command .handoffDefault], some 6, true, false, true, [], _, rfl,
      rfl⟩
  have hframe : ∀ entry ∈ twoBuffers, Accepted byteSum threeWorkers 64
      (flowHandoffOn.map .command) entry.2.swIfIndexRx := by
    intro entry hentry
    simp only [twoBuffers, List.mem_cons, List.not_mem_nil, or_false] at hentry
    rcases hentry with rfl | rfl <;> exact haccepted
  obtain ⟨sent, out, hout, -, -, -, -, -, -, -, hperm, -⟩ :=
    l2tvppFlowHandoffNode_partition byteSum
      (show threeWorkers.nWorkers.toNat < 2 ^ 16 by decide) 64
      (flowHandoffOn.map .command) L2tvppMain.init 0 hframe
  exact ⟨out, hout, hperm⟩

end L2tvpp.Node
