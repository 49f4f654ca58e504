import L2tvpp.Lib.RoundRobin
import L2tvpp.Node.FlowOrder

/-!
# Spraying is fair

With `spray` the buffers of an interface take turns over its workers, whatever
flow they belong to and whatever comes from other interfaces in between.  The
cursor has no lock: an interface whose frames come on several threads can lose
turns.  Here each interface is received on one thread.
-/

namespace L2tvpp.Node

open L2tvpp.Lib
open L2tvpp.Plugin

/-- A frame, the thread that received it, and the plugin at that time; the
buffers are from interfaces of that thread. -/
structure ReceivedFrame (rxThread : Nat → U16) where
  lm : L2tvppMain
  thread : U16
  buffers : List (Nat × VlibBuffer)
  polled : ∀ entry ∈ buffers, rxThread entry.2.swIfIndexRx = thread

section Frames

variable (crc32c : List U8 → U32) {rxThread : Nat → U16}

/-- One frame after those that were decided on before.  No other thread moves
the cursors that it reads. -/
def framesStep (s : List FlowHandoffIf × List (Nat × FlowResult))
    (received : ReceivedFrame rxThread) :
    Except MemFault (List FlowHandoffIf × List (Nat × FlowResult)) := do
  let out ← l2tvppFlowHandoffNode crc32c received.lm received.thread s.1
    received.buffers
  pure (out.ifData, s.2 ++ (out.locals ++ (out.eth ++ out.l2tp)))

def runFrames (ifData : List FlowHandoffIf)
    (frames : List (ReceivedFrame rxThread)) :
    Except MemFault (List FlowHandoffIf × List (Nat × FlowResult)) :=
  frames.foldlM (framesStep crc32c) (ifData, [])

end Frames

/-- The buffers of an interface that took a turn. -/
def tookTurn (swIfIndex : Nat) (sent : Nat × FlowResult) : Bool :=
  sent.2.buffer.swIfIndexRx == swIfIndex && sent.2.kind != .localThread

/-- The worker of a turn; the cursor is a 32-bit number. -/
def turnWorker (ifd : FlowHandoffIf) (turn : Nat) : U16 :=
  ifd.workers.getD
    ((ifd.rr + BitVec.ofNat 32 turn).toNat % ifd.workers.length) 0

/-- After `count` turns. -/
def FlowHandoffIf.advance (ifd : FlowHandoffIf) (count : Nat) : FlowHandoffIf :=
  { ifd with rr := ifd.rr + BitVec.ofNat 32 count }

section Turns

variable {crc32c : List U8 → U32} {lm : L2tvppMain} {thisThread : U16}

theorem l2tvppFlowHandoff_swIfIndex {ifd moved : FlowHandoffIf}
    {b : VlibBuffer} {result : FlowResult}
    (h : l2tvppFlowHandoff crc32c lm ifd thisThread b = .ok (result, moved)) :
    result.buffer.swIfIndexRx = b.swIfIndexRx := by
  obtain ⟨c, hc, h⟩ := ok_of_bind h
  have hbuffer : c.buffer.swIfIndexRx = b.swIfIndexRx := by
    rcases classifyFrame_buffer hc with hsame | ⟨p, udp, hrecorded⟩
    · rw [hsame]
    · rw [hrecorded]
      rfl
  cases h
  dsimp only
  split
  · exact hbuffer
  · exact hbuffer

theorem flowThread_turn {ifd : FlowHandoffIf} (hspray : ifd.spray = true)
    (hworkers : ifd.workers ≠ []) (turn : Nat) (kind : FlowKind) (hash : U32) :
    flowThread (ifd.advance turn) thisThread kind hash =
      if kind = .localThread then (thisThread, (ifd.advance turn).rr)
      else (turnWorker ifd turn, (ifd.advance (turn + 1)).rr) := by
  have hlength : ¬ (ifd.advance turn).workers.length = 0 :=
    fun hzero => hworkers (List.length_eq_zero_iff.mp hzero)
  have hnext : (ifd.advance turn).rr + 1 = (ifd.advance (turn + 1)).rr := by
    simp only [FlowHandoffIf.advance]
    rw [BitVec.ofNat_add, BitVec.add_assoc]
    rfl
  unfold flowThread
  by_cases hlocal : kind = .localThread
  · rw [if_pos (.inl hlocal), if_pos hlocal]
  · rw [if_neg (not_or.mpr ⟨hlocal, hlength⟩), if_neg hlocal, hnext]
    exact if_pos hspray

/-- A buffer of a spraying interface takes the next turn, unless it stays. -/
theorem l2tvppFlowHandoff_turn {ifd moved : FlowHandoffIf} {b : VlibBuffer}
    {result : FlowResult} (hspray : ifd.spray = true)
    (hworkers : ifd.workers ≠ []) (turn : Nat)
    (h : l2tvppFlowHandoff crc32c lm (ifd.advance turn) thisThread b =
      .ok (result, moved)) :
    if result.kind = .localThread then moved = ifd.advance turn
    else result.thread = turnWorker ifd turn ∧
      moved = ifd.advance (turn + 1) := by
  obtain ⟨c, -, h⟩ := ok_of_bind h
  simp only [flowThread_turn hspray hworkers] at h
  by_cases hlocal : c.kind = .localThread
  · simp only [hlocal] at h
    cases h
    rfl
  · simp only [if_neg hlocal] at h
    by_cases hfast : c.kind = .fast
    · simp only [if_pos hfast] at h
      cases h
      rw [if_neg hlocal]
      exact ⟨rfl, rfl⟩
    · simp only [if_neg hfast] at h
      cases h
      rw [if_neg hlocal]
      exact ⟨rfl, rfl⟩

/-- The turns of an interface in a list of buffers, from `before` on. -/
structure TurnsTaken (ifd : FlowHandoffIf) (swIfIndex before : Nat)
    (sent : List (Nat × FlowResult)) (out : List FlowHandoffIf) : Prop where
  threads : (sent.filter (tookTurn swIfIndex)).map (fun e => e.2.thread) =
    (List.range (sent.countP (tookTurn swIfIndex))).map fun turn =>
      turnWorker ifd (before + turn)
  cursor : out[swIfIndex]? =
    some (ifd.advance (before + sent.countP (tookTurn swIfIndex)))

theorem FlowRun.turns {found out : List FlowHandoffIf}
    {frame : List (Nat × VlibBuffer)} {sent : List (Nat × FlowResult)}
    {ifd : FlowHandoffIf} {swIfIndex before : Nat}
    (h : FlowRun crc32c lm thisThread found frame sent out)
    (hspray : ifd.spray = true) (hworkers : ifd.workers ≠ [])
    (hfound : found[swIfIndex]? = some (ifd.advance before)) :
    TurnsTaken ifd swIfIndex before sent out := by
  induction h generalizing before with
  | nil => exact ⟨rfl, hfound⟩
  | @cons found out ifd' moved entry result frame sent hifd hresult hrest ih =>
      have hswIfIndex := l2tvppFlowHandoff_swIfIndex hresult
      by_cases hrx : entry.2.swIfIndexRx = swIfIndex
      · rw [hrx, hfound] at hifd
        cases hifd
        have hlt : swIfIndex < found.length :=
          (List.getElem?_eq_some_iff.mp hfound).1
        have hturn := l2tvppFlowHandoff_turn hspray hworkers before hresult
        by_cases hlocal : result.kind = .localThread
        · rw [if_pos hlocal] at hturn
          have hkept : (found.set entry.2.swIfIndexRx moved)[swIfIndex]? =
              some (ifd.advance before) := by
            rw [hrx, List.getElem?_set_self hlt, hturn]
          obtain ⟨hthreads, hcursor⟩ := ih hkept
          have hno : tookTurn swIfIndex (entry.1, result) = false := by
            simp [tookTurn, hlocal]
          refine ⟨?_, ?_⟩
          · rw [List.filter_cons_of_neg (by simp [hno]),
              List.countP_cons_of_neg (by simp [hno])]
            exact hthreads
          · rw [List.countP_cons_of_neg (by simp [hno])]
            exact hcursor
        · rw [if_neg hlocal] at hturn
          have hmoved : (found.set entry.2.swIfIndexRx moved)[swIfIndex]? =
              some (ifd.advance (before + 1)) := by
            rw [hrx, List.getElem?_set_self hlt, hturn.2]
          obtain ⟨hthreads, hcursor⟩ := ih hmoved
          have hyes : tookTurn swIfIndex (entry.1, result) = true := by
            simp [tookTurn, hlocal, hswIfIndex, hrx]
          refine ⟨?_, ?_⟩
          · rw [List.filter_cons_of_pos hyes, List.countP_cons_of_pos hyes,
              List.map_cons, hthreads, hturn.1, List.range_succ_eq_map,
              List.map_cons, List.map_map]
            simp [Function.comp_def, Nat.add_comm, Nat.add_left_comm]
          · rw [List.countP_cons_of_pos hyes, hcursor]
            congr 2
            omega
      · have hkept : (found.set entry.2.swIfIndexRx moved)[swIfIndex]? =
            some (ifd.advance before) := by
          rw [List.getElem?_set_ne hrx, hfound]
        obtain ⟨hthreads, hcursor⟩ := ih hkept
        have hno : tookTurn swIfIndex (entry.1, result) = false := by
          simp [tookTurn, hswIfIndex, hrx]
        refine ⟨?_, ?_⟩
        · rw [List.filter_cons_of_neg (by simp [hno]),
            List.countP_cons_of_neg (by simp [hno])]
          exact hthreads
        · rw [List.countP_cons_of_neg (by simp [hno])]
          exact hcursor

/-- The turns of one list of buffers and then of another. -/
theorem TurnsTaken.append {ifd : FlowHandoffIf} {swIfIndex before : Nat}
    {sent more : List (Nat × FlowResult)} {found out : List FlowHandoffIf}
    (h : TurnsTaken ifd swIfIndex before sent found)
    (hmore : TurnsTaken ifd swIfIndex
      (before + sent.countP (tookTurn swIfIndex)) more out) :
    TurnsTaken ifd swIfIndex before (sent ++ more) out := by
  refine ⟨?_, ?_⟩
  · rw [List.filter_append, List.map_append, h.threads, hmore.threads,
      List.countP_append, List.range_add, List.map_append, List.map_map]
    simp [Function.comp_def, Nat.add_assoc]
  · rw [List.countP_append, ← Nat.add_assoc]
    exact hmore.cursor

end Turns

/-! ## Any number of frames -/

section Run

variable {crc32c : List U8 → U32} {ifd : FlowHandoffIf} {swIfIndex : Nat}
  {rxThread : Nat → U16}

variable (crc32c) in
/-- The node's decisions, frame by frame, are those of the buffers in their order
of arrival. -/
theorem framesStep_spec (s : List FlowHandoffIf × List (Nat × FlowResult))
    (received : ReceivedFrame rxThread)
    (hframe : ∀ entry ∈ received.buffers, entry.2.swIfIndexRx < s.1.length) :
    ∃ s' sent, framesStep crc32c s received = .ok s' ∧
      FlowRun crc32c received.lm received.thread s.1 received.buffers sent
        s'.1 ∧
      s'.2.Perm (s.2 ++ sent) := by
  obtain ⟨sent, out, hout, hrun, hlocals, heth, hl2tp⟩ :=
    foldlM_flowRun crc32c received.lm received.thread received.buffers
      ⟨s.1, [], [], []⟩ hframe
  have hnode : l2tvppFlowHandoffNode crc32c received.lm received.thread s.1
      received.buffers = .ok out := hout
  refine ⟨_, sent, by
    simp only [framesStep]
    rw [hnode]
    rfl, hrun, List.Perm.append_left _ ?_⟩
  rw [hlocals, heth, hl2tp]
  exact perm_parts received.thread sent

variable (crc32c) in
theorem runFrames_turns (hspray : ifd.spray = true)
    (hworkers : ifd.workers ≠ []) (frames : List (ReceivedFrame rxThread))
    {s : List FlowHandoffIf × List (Nat × FlowResult)} {before : Nat}
    (hinside : ∀ received ∈ frames, ∀ entry ∈ received.buffers,
      entry.2.swIfIndexRx < s.1.length)
    (hfound : s.1[swIfIndex]? = some (ifd.advance before)) :
    ∃ s' sent, frames.foldlM (framesStep crc32c) s = .ok s' ∧
      TurnsTaken ifd swIfIndex before sent s'.1 ∧
      s'.2.Perm (s.2 ++ sent) ∧
      sent.length =
        (frames.flatMap fun received => received.buffers).length := by
  induction frames generalizing s before with
  | nil => exact ⟨s, [], rfl, ⟨rfl, hfound⟩, by simp, rfl⟩
  | cons received frames ih =>
      obtain ⟨middle, first, hmiddle, hrun, hperm⟩ :=
        framesStep_spec crc32c s received
          (hinside received List.mem_cons_self)
      obtain ⟨hsettings, hsent⟩ : middle.1.map FlowHandoffIf.settings =
          s.1.map FlowHandoffIf.settings ∧ _ := hrun.sent rfl
      have hlength : middle.1.length = s.1.length := by
        simpa using congrArg List.length hsettings
      have hturns := hrun.turns hspray hworkers hfound
      obtain ⟨s', rest, hs', hturns', hperm', hlength'⟩ := ih (s := middle)
        (fun other hother => by
          rw [hlength]
          exact hinside other (List.mem_cons_of_mem received hother))
        hturns.cursor
      refine ⟨s', first ++ rest, ?_, hturns.append hturns', ?_, ?_⟩
      · rw [List.foldlM_cons, hmiddle]
        exact hs'
      · rw [← List.append_assoc]
        exact hperm'.trans (hperm.append_right rest)
      · have hfirst := hsent.length_eq
        simp only [List.length_map] at hfirst
        rw [List.length_append, List.flatMap_cons, List.length_append, hlength',
          hfirst]

/-- The cursor does not wrap, or wraps at a whole number of rounds. -/
def CursorHolds (ifd : FlowHandoffIf) (rounds : Nat) : Prop :=
  ifd.rr.toNat + rounds ≤ 2 ^ 32 ∨ ifd.workers.length ∣ 2 ^ 32

theorem turnWorker_eq {rounds turn : Nat} (h : CursorHolds ifd rounds)
    (hturn : turn < rounds) :
    turnWorker ifd turn = ifd.workers.getD
      ((ifd.rr.toNat + turn) % ifd.workers.length) 0 := by
  have hcursor : (ifd.rr + BitVec.ofNat 32 turn).toNat %
      ifd.workers.length = (ifd.rr.toNat + turn) % ifd.workers.length := by
    rw [BitVec.toNat_add, BitVec.toNat_ofNat, Nat.add_mod_mod]
    rcases h with hbelow | hdvd
    · rw [Nat.mod_eq_of_lt
        (show ifd.rr.toNat + turn < 2 ^ 32 by omega)]
    · exact Nat.mod_mod_of_dvd _ hdvd
  rw [turnWorker, hcursor]

/-- Among distinct workers, each one has its own turns. -/
theorem count_turnWorker (hnodup : ifd.workers.Nodup) {rounds place : Nat}
    (h : CursorHolds ifd rounds) (hplace : place < ifd.workers.length) :
    ((List.range rounds).map (turnWorker ifd)).count ifd.workers[place] =
      (turns ifd.workers.length ifd.rr.toNat rounds).count place := by
  have hpos := Nat.zero_lt_of_lt hplace
  rw [turns, List.count, List.countP_map, List.count, List.countP_map]
  refine List.countP_congr fun turn hturn => ?_
  have hlt := Nat.mod_lt (ifd.rr.toNat + turn) hpos
  simp only [Function.comp, beq_iff_eq]
  rw [turnWorker_eq h (List.mem_range.mp hturn), List.getD_eq_getElem _ _ hlt]
  exact hnodup.getElem_inj_iff

end Run

end L2tvpp.Node
