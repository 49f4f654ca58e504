import Mathlib.Algebra.BigOperators.Group.List.Basic
import L2tvpp.Lib.Run
import L2tvpp.Node.Decap

/-!
# A frame through l2tvpp-input

The loop of the node around its per-packet body: the next node and the error of
every buffer, the counters of the node, and the receive counters of the session
interfaces, which are added up over a run of packets of one session.
-/

namespace L2tvpp.Node

open L2tvpp.Lib
open L2tvpp.Plugin

/-! ## The loop -/

structure VlibCounter where
  packets : U64
  bytes : U64
  deriving DecidableEq, Repr

def VlibCounter.add (counter : VlibCounter) (packets bytes : U64) :
    VlibCounter :=
  ⟨counter.packets + packets, counter.bytes + bytes⟩

/-- The combined counters of the interfaces, on one thread. -/
abbrev RxCounters := Nat → VlibCounter

def vlibIncrementCombinedCounter (rx : RxCounters) (swIfIndex : Nat)
    (nPackets nBytes : U32) : RxCounters :=
  Function.update rx swIfIndex
    ((rx swIfIndex).add (nPackets.setWidth 64) (nBytes.setWidth 64))

/-- The packets and bytes that are not in the counters yet. -/
structure InputStats where
  swIfIndex : Nat
  nPackets : U32
  nBytes : U32

def InputStats.empty : InputStats := ⟨0xffffffff, 0, 0⟩

def InputStats.flush (stats : InputStats) (rx : RxCounters) : RxCounters :=
  if stats.nPackets ≠ 0 then
    vlibIncrementCombinedCounter rx stats.swIfIndex stats.nPackets stats.nBytes
  else rx

def InputStats.credit (stats : InputStats) (rx : RxCounters) (swIfIndex : Nat)
    (len : U32) : InputStats × RxCounters :=
  if swIfIndex = stats.swIfIndex then
    ({ stats with nPackets := stats.nPackets + 1, nBytes := stats.nBytes + len },
      rx)
  else (⟨swIfIndex, 1, len⟩, stats.flush rx)

/-- What a packet leaves the node with; only the error of a dropped one is
set. -/
structure Enqueued where
  buffer : VlibBuffer
  next : InputNext
  error : Option InputError

structure InputLoop where
  counts : InputError → U32
  stats : InputStats
  rx : RxCounters
  enqueued : List Enqueued

def InputResult.decapsulated (result : InputResult) : Bool :=
  result.next != .punt && result.next != .drop

def InputResult.enqueue (result : InputResult) : Enqueued :=
  ⟨result.buffer, result.next,
    if result.next = .drop then some result.error else none⟩

def InputLoop.account (s : InputLoop) (result : InputResult) : InputLoop :=
  let credited :=
    if result.decapsulated then
      s.stats.credit s.rx result.buffer.swIfIndexRx
        (vlibBufferLengthInChain result.buffer)
    else (s.stats, s.rx)
  { counts :=
      if result.next = .drop then s.counts
      else Function.update s.counts result.error (s.counts result.error + 1)
    stats := credited.1
    rx := credited.2
    enqueued := s.enqueued ++ [result.enqueue] }

/-- What the node leaves behind; `errors` are its own counters. -/
structure InputFrame where
  enqueued : List Enqueued
  counts : InputError → U32
  rx : RxCounters
  errors : InputError → U64

/-- The end of the frame: the last run of packets and the node's counters. -/
def InputLoop.finish (s : InputLoop) (errors : InputError → U64) : InputFrame :=
  { enqueued := s.enqueued
    counts := s.counts
    rx := s.stats.flush s.rx
    errors := fun error =>
      if s.counts error ≠ 0 then errors error + (s.counts error).setWidth 64
      else errors error }

def l2tvppInputNode (lm : L2tvppMain) (rx : RxCounters)
    (errors : InputError → U64) (frame : List VlibBuffer) :
    Except MemFault InputFrame := do
  let s ← frame.foldlM
    (fun s b => do
      let result ← l2tvppInput lm b
      pure (s.account result))
    (⟨fun _ => 0, InputStats.empty, rx, []⟩ : InputLoop)
  pure (s.finish errors)

/-! ## Batches -/

section Batch

variable {stats : InputStats} (rx : RxCounters)

/-- Nothing is kept of an interface without a packet. -/
def InputStats.Clean (stats : InputStats) : Prop :=
  stats.nPackets = 0 → stats.nBytes = 0

theorem flush_apply (h : stats.Clean) (i : Nat) :
    stats.flush rx i =
      if i = stats.swIfIndex then
        (rx i).add (stats.nPackets.setWidth 64) (stats.nBytes.setWidth 64)
      else rx i := by
  unfold InputStats.flush
  by_cases hempty : stats.nPackets = 0
  · rw [if_neg (not_not.mpr hempty), hempty, h hempty]
    simp [VlibCounter.add]
  · rw [if_pos hempty, vlibIncrementCombinedCounter]
    by_cases hi : i = stats.swIfIndex
    · subst hi
      simp
    · simp [hi]

theorem credit_clean (swIfIndex : Nat) (len : U32)
    (hpackets : stats.nPackets.toNat + 1 < 2 ^ 32) :
    (stats.credit rx swIfIndex len).1.Clean := by
  unfold InputStats.credit
  split
  · intro hzero
    bv_omega
  · intro hone
    cases hone

/-- Crediting a packet, as the counters will have it. -/
theorem flush_credit (h : stats.Clean) (swIfIndex : Nat) (len : U32)
    (hpackets : stats.nPackets.toNat + 1 < 2 ^ 32)
    (hbytes : stats.nBytes.toNat + len.toNat < 2 ^ 32) (i : Nat) :
    let credited := stats.credit rx swIfIndex len
    credited.1.flush credited.2 i =
      if i = swIfIndex then (stats.flush rx i).add 1 (len.setWidth 64)
      else stats.flush rx i := by
  intro credited
  have hclean : credited.1.Clean := credit_clean rx swIfIndex len hpackets
  rw [flush_apply _ hclean]
  by_cases hsame : swIfIndex = stats.swIfIndex
  · have hcredited : credited = ({ stats with
        nPackets := stats.nPackets + 1, nBytes := stats.nBytes + len }, rx) :=
      if_pos hsame
    rw [flush_apply _ h, hcredited, hsame]
    by_cases hi : i = stats.swIfIndex
    · have hpacket : (stats.nPackets + 1).setWidth 64 =
          stats.nPackets.setWidth 64 + 1 := by bv_omega
      have hlen : (stats.nBytes + len).setWidth 64 =
          stats.nBytes.setWidth 64 + len.setWidth 64 := by bv_omega
      simp only [if_pos hi, VlibCounter.add, hpacket, hlen, BitVec.add_assoc]
    · simp only [if_neg hi]
  · have hcredited : credited = (⟨swIfIndex, 1, len⟩, stats.flush rx) :=
      if_neg hsame
    rw [hcredited]
    rfl

theorem credit_le (swIfIndex : Nat) (len : U32)
    (hpackets : stats.nPackets.toNat + 1 < 2 ^ 32) :
    (stats.credit rx swIfIndex len).1.nPackets.toNat ≤
        stats.nPackets.toNat + 1 ∧
      (stats.credit rx swIfIndex len).1.nBytes.toNat ≤
        stats.nBytes.toNat + len.toNat := by
  unfold InputStats.credit
  split
  · constructor <;> bv_omega
  · constructor <;> bv_omega

end Batch

/-! ## Counting packet by packet -/

def InputResult.bytes (result : InputResult) : Nat :=
  (vlibBufferLengthInChain result.buffer).toNat

/-- The packets of the counter `error`. -/
def InputResult.countedAs (error : InputError) (result : InputResult) : Bool :=
  result.next != .drop && result.error == error

/-- The packets decapsulated to the interface `i`. -/
def InputResult.receivedOn (i : Nat) (result : InputResult) : Bool :=
  result.decapsulated && result.buffer.swIfIndexRx == i

/-- The bytes of the packets that satisfy `p`. -/
def bytesWhere (p : InputResult → Bool) (results : List InputResult) : Nat :=
  ((results.filter p).map InputResult.bytes).sum

/-- The loop after `results` agrees with counting them one by one. -/
structure Accounted (rx : RxCounters) (results : List InputResult)
    (s : InputLoop) : Prop where
  enqueued : s.enqueued = results.map InputResult.enqueue
  counts : ∀ error, (s.counts error).toNat =
    results.countP (InputResult.countedAs error)
  clean : s.stats.Clean
  packets : s.stats.nPackets.toNat ≤ results.length
  bytes : s.stats.nBytes.toNat ≤ bytesWhere InputResult.decapsulated results
  received : ∀ i, s.stats.flush s.rx i =
    (rx i).add (BitVec.ofNat 64 (results.countP (InputResult.receivedOn i)))
      (BitVec.ofNat 64 (bytesWhere (InputResult.receivedOn i) results))

theorem Accounted.initial (rx : RxCounters) :
    Accounted rx [] ⟨fun _ => 0, InputStats.empty, rx, []⟩ where
  enqueued := rfl
  counts _ := rfl
  clean _ := rfl
  packets := Nat.zero_le _
  bytes := Nat.zero_le _
  received i := by
    simp [InputStats.flush, InputStats.empty, bytesWhere, VlibCounter.add]

theorem bytesWhere_append (p : InputResult → Bool) (results : List InputResult)
    (result : InputResult) :
    bytesWhere p (results ++ [result]) =
      bytesWhere p results + if p result then result.bytes else 0 := by
  unfold bytesWhere
  by_cases h : p result <;> simp [h]

theorem countP_append_singleton (p : InputResult → Bool)
    (results : List InputResult) (result : InputResult) :
    (results ++ [result]).countP p =
      results.countP p + if p result then 1 else 0 := by
  by_cases h : p result <;> simp [h]

section Step

variable {rx : RxCounters} {results : List InputResult} {s : InputLoop}
  (h : Accounted rx results s) (result : InputResult)
  (hlength : results.length + 1 < 2 ^ 32)

include h hlength

theorem Accounted.counts_account (error : InputError) :
    ((s.account result).counts error).toNat =
      (results ++ [result]).countP (InputResult.countedAs error) := by
  have hcount := h.counts error
  have hle : results.countP (InputResult.countedAs error) ≤ results.length :=
    List.countP_le_length
  rw [countP_append_singleton, InputLoop.account]
  dsimp only
  by_cases hdrop : result.next = .drop
  · rw [if_pos hdrop, hcount]
    simp [InputResult.countedAs, hdrop]
  · rw [if_neg hdrop]
    by_cases herror : result.error = error
    · subst herror
      rw [Function.update_self]
      simp only [InputResult.countedAs, hdrop, bne_iff_ne, ne_eq,
        not_false_eq_true, beq_self_eq_true, Bool.and_true, if_true]
      bv_omega
    · rw [Function.update_of_ne (Ne.symm herror), hcount]
      simp [InputResult.countedAs, herror]

/-- One packet. -/
theorem Accounted.account
    (hbytes : bytesWhere InputResult.decapsulated (results ++ [result]) <
      2 ^ 32) :
    Accounted rx (results ++ [result]) (s.account result) := by
  have hpackets := h.packets
  have hkept := h.bytes
  rw [bytesWhere_append] at hbytes
  have henqueued : (s.account result).enqueued =
      (results ++ [result]).map InputResult.enqueue := by
    rw [List.map_append, ← h.enqueued]
    rfl
  have hcounts := h.counts_account result hlength
  have hlast : (results ++ [result]).length = results.length + 1 := by simp
  cases hdecap : result.decapsulated with
  | false =>
      have hstats : (s.account result).stats = s.stats := by
        simp [InputLoop.account, hdecap]
      have hrx : (s.account result).rx = s.rx := by
        simp [InputLoop.account, hdecap]
      refine ⟨henqueued, hcounts, ?_, ?_, ?_, ?_⟩
      · rw [hstats]
        exact h.clean
      · rw [hstats]
        omega
      · rw [hstats, bytesWhere_append]
        omega
      · intro i
        rw [hstats, hrx, h.received i, countP_append_singleton,
          bytesWhere_append]
        simp [InputResult.receivedOn, hdecap]
  | true =>
      rw [hdecap, if_pos rfl] at hbytes
      have hcredited : ((s.account result).stats, (s.account result).rx) =
          s.stats.credit s.rx result.buffer.swIfIndexRx
            (vlibBufferLengthInChain result.buffer) := by
        simp [InputLoop.account, hdecap]
      have hstats := congrArg Prod.fst hcredited
      have hrx := congrArg Prod.snd hcredited
      dsimp only at hstats hrx
      have hone : s.stats.nPackets.toNat + 1 < 2 ^ 32 := by omega
      obtain ⟨hpackets', hbytes'⟩ := credit_le s.rx
        result.buffer.swIfIndexRx (vlibBufferLengthInChain result.buffer) hone
      refine ⟨henqueued, hcounts, ?_, ?_, ?_, ?_⟩
      · rw [hstats]
        exact credit_clean _ _ _ hone
      · rw [hstats]
        omega
      · rw [hstats, bytesWhere_append, hdecap, if_pos rfl]
        exact hbytes'.trans (Nat.add_le_add_right hkept _)
      · intro i
        have hflush := flush_credit s.rx h.clean
          result.buffer.swIfIndexRx (vlibBufferLengthInChain result.buffer) hone
          ((Nat.add_le_add_right hkept _).trans_lt hbytes) i
        rw [hstats, hrx, hflush, h.received i, countP_append_singleton,
          bytesWhere_append]
        by_cases hi : i = result.buffer.swIfIndexRx
        · have hreceived : result.receivedOn i = true := by
            simp [InputResult.receivedOn, hdecap, hi]
          rw [if_pos hi, hreceived, if_pos rfl, if_pos rfl]
          simp only [VlibCounter.add, BitVec.ofNat_add, BitVec.add_assoc,
            InputResult.bytes, BitVec.ofNat_toNat]
          rfl
        · have hreceived : result.receivedOn i = false := by
            simp [InputResult.receivedOn, Ne.symm hi]
          rw [if_neg hi, hreceived]
          rfl

end Step

/-- All packets of a frame. -/
theorem Accounted.foldl {rx : RxCounters} {results : List InputResult}
    {s : InputLoop} (h : Accounted rx results s) (rest : List InputResult)
    (hlength : (results ++ rest).length < 2 ^ 32)
    (hbytes : bytesWhere InputResult.decapsulated (results ++ rest) < 2 ^ 32) :
    Accounted rx (results ++ rest) (rest.foldl InputLoop.account s) := by
  induction rest generalizing results s with
  | nil =>
      rw [List.append_nil]
      exact h
  | cons result rest ih =>
      have hsplit : results ++ result :: rest = results ++ [result] ++ rest := by
        simp
      rw [hsplit] at hlength hbytes ⊢
      refine ih (h.account result ?_ ?_) hlength hbytes
      · simp only [List.length_append, List.length_cons, List.length_nil]
          at hlength
        omega
      · refine lt_of_le_of_lt ?_ hbytes
        simp only [bytesWhere, List.filter_append, List.map_append,
          List.sum_append]
        omega

/-! ## What a decapsulated packet has -/

/-- The packet was decapsulated to the live session whose interface is `i`. -/
def InputResult.decapsulatedTo (lm : L2tvppMain) (i : Nat)
    (result : InputResult) : Bool :=
  result.decapsulated &&
    (result.sessionIndex.bind lm.sessions.elt?).any (·.swIfIndex == i)

theorem l2tvppInput_decapsulated {lm : L2tvppMain} {b : VlibBuffer}
    {result : InputResult} (h : l2tvppInput lm b = .ok result)
    (hdecap : result.decapsulated = true) :
    ∃ index sess cur, result.sessionIndex = some index ∧
      lm.sessions.elt? index = some sess ∧
      result.buffer = decapBuffer b cur sess ∧
      cur ≤ b.currentLength.toNat := by
  obtain ⟨hdr, -, h⟩ := ok_of_bind h
  cases hdr with
  | notV2 =>
      cases h
      cases hdecap
  | control =>
      cases h
      cases hdecap
  | tooShort =>
      cases h
      cases hdecap
  | data flags tid sid off =>
      obtain ⟨walked, hwalked, h⟩ := ok_of_bind h
      cases walked with
      | none =>
          cases h
          cases hdecap
      | some cur =>
          have hwalk : SafeRun True (skipSeqAndOffset b.current flags off
              b.currentLength.toNat) _ := safeRun_skipSeqAndOffset (by simp)
          have hcur := hwalk.post hwalked cur rfl
          dsimp only at h
          unfold l2tvppInputPpp at h
          split at h
          · cases h
            cases hdecap
          · rename_i index hindex
            obtain ⟨ppp, hppp, h⟩ := ok_of_bind h
            have hheader : SafeRun True (pppHeader b.current cur) _ :=
              safeRun_pppHeader (by simpa using hcur)
            have hinside := hheader.post hppp
            dsimp only at h
            split at h
            · cases h
              cases hdecap
            · split at h
              · cases h
              · rename_i sess hsess
                cases h
                exact ⟨index, sess, ppp.2, rfl, hsess, rfl, by omega⟩

section Results

variable {lm : L2tvppMain} {b : VlibBuffer} {result : InputResult}
  (h : l2tvppInput lm b = .ok result)

include h

theorem decapsulatedTo_eq (i : Nat) :
    result.decapsulatedTo lm i = result.receivedOn i := by
  unfold InputResult.decapsulatedTo InputResult.receivedOn
  cases hdecap : result.decapsulated with
  | false => rfl
  | true =>
      obtain ⟨index, sess, cur, hindex, hsess, hbuffer, -⟩ :=
        l2tvppInput_decapsulated h hdecap
      rw [hindex, hbuffer]
      simp [hsess, decapBuffer]

/-- A decapsulated packet is shorter than what came in. -/
theorem bytes_le (hdecap : result.decapsulated = true) :
    result.bytes ≤ b.currentLength.toNat + b.restLength.toNat := by
  obtain ⟨index, sess, cur, -, -, hbuffer, hcur⟩ :=
    l2tvppInput_decapsulated h hdecap
  have hlength : (b.currentLength - BitVec.ofInt 16 cur).toNat =
      b.currentLength.toNat - cur := by
    have hlt := b.currentLength.isLt
    rw [BitVec.ofInt_natCast, BitVec.toNat_sub, BitVec.toNat_ofNat]
    omega
  have hchain : result.bytes =
      ((b.currentLength - BitVec.ofInt 16 cur).setWidth 32 +
        b.restLength).toNat := by
    rw [InputResult.bytes, hbuffer]
    rfl
  rw [hchain, BitVec.toNat_add, BitVec.toNat_setWidth, hlength]
  exact (Nat.mod_le _ _).trans (by omega)

end Results

/-- The bytes of a frame, chained buffers included. -/
def frameBytes (frame : List VlibBuffer) : Nat :=
  (frame.map fun b => b.currentLength.toNat + b.restLength.toNat).sum

def inputErrors : List InputError :=
  [.decap, .decapSeq, .decapOff, .puntControl, .puntNoSession, .puntPppProto,
    .puntUnsupported, .tooShort]

/-- Every packet is dropped, or in exactly one of the counters. -/
theorem sum_countedAs (results : List InputResult) :
    (inputErrors.map fun error =>
        results.countP (InputResult.countedAs error)).sum +
      results.countP (·.next == .drop) = results.length := by
  induction results with
  | nil => rfl
  | cons result results ih =>
      have hone : (inputErrors.map fun error =>
            if result.countedAs error then 1 else 0).sum +
          (if result.next == .drop then 1 else 0) = 1 := by
        by_cases hdrop : result.next = .drop
        · simp [InputResult.countedAs, hdrop, inputErrors]
        · cases herror : result.error <;>
            simp [InputResult.countedAs, hdrop, herror, inputErrors]
      simp only [List.countP_cons, List.length_cons, List.sum_map_add] at hone ⊢
      omega

section Frame

variable {lm : L2tvppMain} {frame : List VlibBuffer}
  {results : List InputResult}
  (h : List.Forall₂ (fun b result => l2tvppInput lm b = .ok result) frame
    results)

include h

theorem foldlM_account (s : InputLoop) :
    frame.foldlM
      (fun s b => do
        let result ← l2tvppInput lm b
        pure (s.account result)) s =
      .ok (results.foldl InputLoop.account s) := by
  induction h generalizing s with
  | nil => rfl
  | cons hresult _ ih =>
      rw [List.foldlM_cons, hresult]
      exact ih _

theorem bytesWhere_le :
    bytesWhere InputResult.decapsulated results ≤ frameBytes frame := by
  induction h with
  | nil => exact Nat.le_refl 0
  | @cons b result frame results hresult _ ih =>
      have hle := bytes_le hresult
      unfold bytesWhere frameBytes at ih ⊢
      cases hdecap : result.decapsulated with
      | false =>
          rw [List.filter_cons_of_neg (by simp [hdecap])]
          simp only [List.map_cons, List.sum_cons]
          omega
      | true =>
          have hone := hle hdecap
          rw [List.filter_cons_of_pos hdecap]
          simp only [List.map_cons, List.sum_cons]
          omega

theorem decapsulatedTo_congr (i : Nat) :
    ∀ result ∈ results,
      result.decapsulatedTo lm i = result.receivedOn i := by
  intro result hmem
  obtain ⟨b, -, hresult⟩ := exists_of_forall₂ h hmem
  exact decapsulatedTo_eq hresult i

end Frame

/-- Every packet of a frame gets one next node, is dropped with its error set or
counted once, and is credited to the interface of its session. -/
theorem l2tvppInputNode_accounts (P : Policies)
    (hwInterfaces : Pool HwInterface) (swInterfaces : Pool SwInterface)
    (calls : List Call) (rx : RxCounters) (errors : InputError → U64)
    {frame : List VlibBuffer} (hlength : frame.length < 2 ^ 32)
    (hbytes : frameBytes frame < 2 ^ 32) :
    let lm := (runCalls P hwInterfaces swInterfaces calls).lm
    ∃ results out,
      List.Forall₂ (fun b result => l2tvppInput lm b = .ok result) frame
        results ∧
      l2tvppInputNode lm rx errors frame = .ok out ∧
      out.enqueued = results.map InputResult.enqueue ∧
      (∀ result ∈ results,
        if result.next = .drop then result.enqueue.error = some result.error
        else ∃! error, result.countedAs error = true) ∧
      (∀ error, (out.counts error).toNat =
        results.countP (InputResult.countedAs error)) ∧
      (inputErrors.map fun error => (out.counts error).toNat).sum +
        results.countP (·.next == .drop) = frame.length ∧
      (∀ error, out.errors error =
        errors error + (out.counts error).setWidth 64) ∧
      ∀ i, out.rx i =
        (rx i).add
          (BitVec.ofNat 64 (results.countP (InputResult.decapsulatedTo lm i)))
          (BitVec.ofNat 64
            (bytesWhere (InputResult.decapsulatedTo lm i) results)) := by
  intro lm
  have hinv : StoreInv (runCalls P hwInterfaces swInterfaces calls) :=
    StoreInv.runCalls P hwInterfaces swInterfaces calls
  obtain ⟨results, hresults⟩ : ∃ results, List.Forall₂
      (fun b result => l2tvppInput lm b = .ok result) frame results := by
    have hreturns : ∀ b, ∃ result, l2tvppInput lm b = .ok result := by
      intro b
      obtain ⟨result, hresult, -⟩ := SafeRun.returns
        (safeRun_l2tvppInput b hinv.not_freed)
      exact ⟨result, hresult⟩
    choose resultOf hresultOf using hreturns
    refine ⟨frame.map resultOf, ?_⟩
    rw [List.forall₂_map_right_iff, List.forall₂_same]
    exact fun b _ => hresultOf b
  have hsame := hresults.length_eq
  let loop := results.foldl InputLoop.account
    ⟨fun _ => 0, InputStats.empty, rx, []⟩
  have haccounted : Accounted rx results loop :=
    (Accounted.initial rx).foldl results (by simpa [← hsame] using hlength)
      ((bytesWhere_le hresults).trans_lt hbytes)
  have hnode : l2tvppInputNode lm rx errors frame =
      .ok (loop.finish errors) := by
    rw [l2tvppInputNode, foldlM_account hresults]
    rfl
  have hcounts : ∀ error, ((loop.finish errors).counts error).toNat =
      results.countP (InputResult.countedAs error) := haccounted.counts
  refine ⟨results, loop.finish errors, hresults, hnode, haccounted.enqueued, ?_,
    hcounts, ?_, ?_, ?_⟩
  · intro result _
    split
    · rename_i hdrop
      exact if_pos hdrop
    · rename_i hforwarded
      refine ⟨result.error, by simp [InputResult.countedAs, hforwarded], ?_⟩
      intro error herror
      simp only [InputResult.countedAs, Bool.and_eq_true, beq_iff_eq] at herror
      exact herror.2.symm
  · simp only [hcounts]
    rw [sum_countedAs, hsame]
  · intro error
    dsimp only [InputLoop.finish]
    split
    · rfl
    · rename_i hzero
      rw [not_not.mp hzero]
      simp
  · intro i
    have hcongr := decapsulatedTo_congr hresults i
    have hcount : results.countP (InputResult.decapsulatedTo lm i) =
        results.countP (InputResult.receivedOn i) :=
      List.countP_congr fun result hmem => by rw [hcongr result hmem]
    have hbytes' : bytesWhere (InputResult.decapsulatedTo lm i) results =
        bytesWhere (InputResult.receivedOn i) results := by
      unfold bytesWhere
      rw [List.filter_congr hcongr]
    rw [hcount, hbytes']
    exact haccounted.received i

/-- Two packets of a session with a control message and a truncated one in
between. -/
def mixedFrame : List VlibBuffer :=
  let data := bufferOf (fullHeader.encode ++
    (pppFraming true false pppProtoIp4 ++ [0x45, 0, 0]))
  [data, bufferOf [0xc8, 2, 0, 12, 0, 100, 0, 0, 0, 1, 0, 1], bufferOf [0, 2],
    data]

theorem l2tvppInputNode_accounts_mixedFrame :
    let lm := (runCalls Policies.lifo Pool.empty Pool.empty oneSession).lm
    ∃ results out,
      List.Forall₂ (fun b result => l2tvppInput lm b = .ok result) mixedFrame
        results ∧
      l2tvppInputNode lm (fun _ => ⟨0, 0⟩) (fun _ => 0) mixedFrame = .ok out ∧
      (inputErrors.map fun error => (out.counts error).toNat).sum +
        results.countP (·.next == .drop) = 4 := by
  intro lm
  obtain ⟨results, out, hresults, hout, -, -, -, hsum, -⟩ :=
    l2tvppInputNode_accounts Policies.lifo Pool.empty Pool.empty oneSession
      (fun _ => ⟨0, 0⟩) (fun _ => 0) (show mixedFrame.length < 2 ^ 32 by decide)
      (by decide)
  exact ⟨results, out, hresults, hout, hsum⟩

end L2tvpp.Node
