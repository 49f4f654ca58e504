import L2tvpp.Plugin.Store
import L2tvpp.Node.Header

/-!
# l2tvpp-input and l2tvpp-handoff

The per-packet body of the decapsulation node, and the worker that the handoff
node picks for a packet.
-/

namespace L2tvpp.Node

open L2tvpp.Lib
open L2tvpp.Plugin

/-! ## Decapsulation -/

inductive InputNext where
  | ip4Input
  | ip4InputNcs
  | ip6Input
  | punt
  | drop
  deriving DecidableEq, Repr

inductive InputError where
  | decap
  | decapSeq
  | decapOff
  | puntControl
  | puntNoSession
  | puntPppProto
  | puntUnsupported
  | tooShort
  deriving DecidableEq, Repr

/-- What the body leaves behind for one packet: the buffer, its next node, the
counter, and the fields of the trace record. -/
structure InputResult where
  buffer : VlibBuffer
  next : InputNext
  error : InputError
  sessionIndex : Option Nat
  tid : U16
  sid : U16
  pppProto : U16

def l2tvppRewindToIp (b : VlibBuffer) : VlibBuffer :=
  vlibBufferAdvance b (b.l3HdrOffset.toInt - b.currentData.toInt)

/-- The counter of a decapsulated packet; the offset bit is looked at last. -/
def decapError (flags : U16) : InputError :=
  if hasFlag flags l2tvppHdrO then .decapOff
  else if hasFlag flags l2tvppHdrS then .decapSeq
  else .decap

def pppNext (lm : L2tvppMain) (pppProto : U16) : Option InputNext :=
  if pppProto = pppProtoIp4 then
    some (if lm.innerIp4NoChecksum then .ip4InputNcs else .ip4Input)
  else if pppProto = pppProtoIp6 then some .ip6Input
  else none

def decapBuffer (b : VlibBuffer) (cur : Nat) (sess : L2tvppSession) :
    VlibBuffer :=
  { vlibBufferAdvance b cur with
    swIfIndexRx := sess.swIfIndex
    swIfIndexTx := none }

def l2tvppInputPpp (lm : L2tvppMain) (b : VlibBuffer) (flags tid sid : U16)
    (cur : Nat) : Except MemFault InputResult :=
  match lm.sessionByKey.lookup (l2tvppSessionKey tid sid) with
  | none => pure ⟨l2tvppRewindToIp b, .punt, .puntNoSession, none, tid, sid, 0⟩
  | some index => do
      let (pppProto, cur) ← pppHeader b.current cur
      match pppNext lm pppProto with
      | none =>
          pure ⟨l2tvppRewindToIp b, .punt, .puntPppProto, some index, tid, sid,
            pppProto⟩
      | some next =>
          match lm.sessions.elt? index with
          | none => .error (.freedElement index)
          | some sess =>
              pure ⟨decapBuffer b cur sess, next, decapError flags, some index,
                tid, sid, pppProto⟩

def l2tvppInput (lm : L2tvppMain) (b : VlibBuffer) :
    Except MemFault InputResult := do
  match ← l2tvppParseHdr b.current 0 b.currentLength.toNat with
  | .notV2 =>
      pure ⟨l2tvppRewindToIp b, .punt, .puntUnsupported, none, 0, 0, 0⟩
  | .control => pure ⟨l2tvppRewindToIp b, .punt, .puntControl, none, 0, 0, 0⟩
  | .tooShort => pure ⟨b, .drop, .tooShort, none, 0, 0, 0⟩
  | .data flags tid sid off =>
      match ← skipSeqAndOffset b.current flags off b.currentLength.toNat with
      | none => pure ⟨b, .drop, .tooShort, none, tid, sid, 0⟩
      | some cur => l2tvppInputPpp lm b flags tid sid cur

/-! ## Handoff -/

/-- Workers are the threads `1, ..., nWorkers`. -/
def l2tvppHandoffWorker (tid sid : U16) (nWorkers : U32) : U16 :=
  let h : U32 := (tid.setWidth 32 <<< 16 ||| sid.setWidth 32) * 0x9E3779B1
  let h := h ^^^ (h >>> 16)
  (1 + h % nWorkers).setWidth 16

def l2tvppHandoff (nWorkers : U32) (thisThread : U16) (b : VlibBuffer) :
    Except MemFault U16 := do
  if nWorkers = 0 then pure thisThread
  else
    match ← l2tvppParseHdr b.current 0 b.currentLength.toNat with
    | .data _ tid sid _ => pure (l2tvppHandoffWorker tid sid nWorkers)
    | _ => pure thisThread

/-! ## Reads and advances -/

section Bounds

variable {freed : Prop}

def DecapInside (b : VlibBuffer) (result : InputResult) : Prop :=
  result.next ≠ .punt ∧ result.next ≠ .drop →
    ∃ advance sess, result.buffer = decapBuffer b advance sess ∧
      advance ≤ b.currentLength.toNat

theorem safeRun_l2tvppInputPpp {lm : L2tvppMain} {b : VlibBuffer}
    {flags tid sid : U16} {cur : Nat} (h : cur + 4 ≤ b.currentLength.toNat)
    (hfreed : ∀ key index, lm.sessionByKey.lookup key = some index →
      lm.sessions.elt? index = none → freed) :
    SafeRun freed (l2tvppInputPpp lm b flags tid sid cur) fun result =>
      DecapInside b result ∧ result.tid = tid ∧ result.sid = sid ∧
        result.sessionIndex =
          lm.sessionByKey.lookup (l2tvppSessionKey tid sid) := by
  unfold l2tvppInputPpp
  split
  · rename_i hnone
    exact SafeRun.ret ⟨by simp [DecapInside], rfl, rfl, hnone.symm⟩
  · rename_i index hindex
    have hlen : cur + 4 ≤ b.current.length := by simpa using h
    refine SafeRun.bind (safeRun_pppHeader hlen) fun ppp hppp => ?_
    dsimp only
    split
    · exact SafeRun.ret ⟨by simp [DecapInside], rfl, rfl, hindex.symm⟩
    · split
      · rename_i hnone
        exact SafeRun.freedElement (hfreed _ index hindex hnone)
      · refine SafeRun.ret ⟨fun _ => ?_, rfl, rfl, hindex.symm⟩
        exact ⟨ppp.2, _, rfl, by omega⟩

theorem safeRun_l2tvppInput {lm : L2tvppMain} (b : VlibBuffer)
    (hfreed : ∀ key index, lm.sessionByKey.lookup key = some index →
      lm.sessions.elt? index = none → freed) :
    SafeRun freed (l2tvppInput lm b) (DecapInside b) := by
  refine SafeRun.bind (safeRun_l2tvppParseHdr (by simp)) fun hdr _ => ?_
  cases hdr with
  | notV2 => exact SafeRun.ret (by simp [DecapInside])
  | control => exact SafeRun.ret (by simp [DecapInside])
  | tooShort => exact SafeRun.ret (by simp [DecapInside])
  | data flags tid sid off =>
      refine SafeRun.bind (safeRun_skipSeqAndOffset (by simp))
        fun walked hwalked => ?_
      cases walked with
      | none => exact SafeRun.ret (by simp [DecapInside])
      | some cur =>
          exact (safeRun_l2tvppInputPpp (hwalked cur rfl) hfreed).conseq
            fun _ h => h.1

theorem safeRun_l2tvppHandoff (nWorkers : U32) (thisThread : U16)
    (b : VlibBuffer) :
    SafeRun freed (l2tvppHandoff nWorkers thisThread b) fun _ => True := by
  refine SafeRun.ite (fun _ => SafeRun.ret trivial) fun _ => ?_
  refine SafeRun.bind (safeRun_l2tvppParseHdr (by simp)) fun hdr _ => ?_
  cases hdr <;> exact SafeRun.ret trivial

end Bounds

end L2tvpp.Node
