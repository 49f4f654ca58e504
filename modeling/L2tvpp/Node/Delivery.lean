import L2tvpp.Node.Workers

/-!
# The interface a packet comes in on

What `l2tvpp-input` needs of a packet, apart from the sessions, and from which
of the sessions there are at the moment a packet is processed follows where it
is received.
-/

namespace L2tvpp.Node

open L2tvpp.Lib
open L2tvpp.Plugin

/-! ## What a packet asks for -/

/-- The ids of L2TP data with IPv4 or IPv6 inside. -/
def ipData (b : VlibBuffer) : Except MemFault (Option (U16 × U16)) := do
  match ← l2tvppParseHdr b.current 0 b.currentLength.toNat with
  | .notV2 => pure none
  | .control => pure none
  | .tooShort => pure none
  | .data flags tid sid off =>
      match ← skipSeqAndOffset b.current flags off b.currentLength.toNat with
      | none => pure none
      | some cur => do
          let (pppProto, _) ← pppHeader b.current cur
          pure (if pppProto = pppProtoIp4 ∨ pppProto = pppProtoIp6 then
            some (tid, sid) else none)

def carriesIp (tid sid : U16) (b : VlibBuffer) : Bool :=
  match ipData b with
  | .ok (some ids) => ids == (tid, sid)
  | .ok none => false
  | .error _ => false

theorem carriesIp_iff {tid sid : U16} {b : VlibBuffer} :
    carriesIp tid sid b = true ↔ ipData b = .ok (some (tid, sid)) := by
  unfold carriesIp
  cases ipData b with
  | error fault => simp
  | ok ids =>
      cases ids with
      | none => simp
      | some ids => simp

theorem pppNext_eq_none {lm : L2tvppMain} {pppProto : U16} :
    pppNext lm pppProto = none ↔
      ¬ (pppProto = pppProtoIp4 ∨ pppProto = pppProtoIp6) := by
  unfold pppNext
  by_cases h4 : pppProto = pppProtoIp4
  · simp [h4]
  · by_cases h6 : pppProto = pppProtoIp6
    · have hne : pppProtoIp6 ≠ pppProtoIp4 := by decide
      simp [h6, hne]
    · simp [h4, h6]

theorem pppNext_some {lm : L2tvppMain} {pppProto : U16} {next : InputNext}
    (h : pppNext lm pppProto = some next) : next ≠ .punt ∧ next ≠ .drop := by
  unfold pppNext at h
  split at h
  · split at h
    · cases h
      exact ⟨by decide, by decide⟩
    · cases h
      exact ⟨by decide, by decide⟩
  · split at h
    · cases h
      exact ⟨by decide, by decide⟩
    · cases h

/-! ## Where it is received -/

section Delivery

variable {v : Vpp} (hinv : StoreInv v) {b : VlibBuffer} {result : InputResult}

include hinv

theorem receivedOn_ppp {flags tid sid : U16} {cur : Nat} {ppp : U16 × Nat}
    (hppp : pppHeader b.current cur = .ok ppp)
    (h : l2tvppInputPpp v.lm b flags tid sid cur = .ok result) (i : Nat) :
    result.receivedOn i = true ↔
      (ppp.1 = pppProtoIp4 ∨ ppp.1 = pppProtoIp6) ∧
      ∃ index sess, v.lm.sessions.elt? index = some sess ∧
        sess.swIfIndex = i ∧ sess.localTid = tid ∧ sess.localSid = sid := by
  have hlive : ∀ index, v.lm.sessionByKey.lookup (l2tvppSessionKey tid sid) =
      some index ↔ ∃ sess, v.lm.sessions.elt? index = some sess ∧
        sess.localTid = tid ∧ sess.localSid = sid := by
    intro index
    rw [hinv.byKey.some_iff]
    simp only [L2tvppSession.key, l2tvppSessionKey_inj]
  unfold l2tvppInputPpp at h
  cases hkey : v.lm.sessionByKey.lookup (l2tvppSessionKey tid sid) with
  | none =>
      rw [hkey] at h
      cases h
      constructor
      · intro hpunt
        cases hpunt
      · rintro ⟨-, index, sess, hsess, -, hids⟩
        rw [(hlive index).mpr ⟨sess, hsess, hids⟩] at hkey
        contradiction
  | some index =>
      obtain ⟨sess, hsess, hids⟩ := (hlive index).mp hkey
      simp only [hkey, hppp, ok_bind] at h
      cases hnext : pppNext v.lm ppp.1 with
      | none =>
          simp only [hnext] at h
          cases h
          constructor
          · intro hpunt
            cases hpunt
          · rintro ⟨hip, -⟩
            exact absurd hip (pppNext_eq_none.mp hnext)
      | some next =>
          have hip : ppp.1 = pppProtoIp4 ∨ ppp.1 = pppProtoIp6 := by
            by_contra hother
            rw [pppNext_eq_none.mpr hother] at hnext
            contradiction
          simp only [hnext, hsess] at h
          cases h
          obtain ⟨hpunt, hdrop⟩ := pppNext_some hnext
          simp only [InputResult.receivedOn, InputResult.decapsulated,
            decapBuffer, bne_iff_ne, ne_eq, hpunt, hdrop, not_false_eq_true,
            Bool.and_eq_true, and_self, true_and, beq_iff_eq, hip]
          constructor
          · intro hsw
            exact ⟨index, sess, hsess, hsw, hids⟩
          · rintro ⟨other, sess', hsess', hsw, hids'⟩
            have hother := (hlive other).mpr ⟨sess', hsess', hids'⟩
            rw [hkey] at hother
            cases hother
            rw [hsess] at hsess'
            cases hsess'
            exact hsw

theorem receivedOn_iff_carriesIp (h : l2tvppInput v.lm b = .ok result)
    (i : Nat) :
    result.receivedOn i = true ↔
      ∃ index sess, v.lm.sessions.elt? index = some sess ∧
        sess.swIfIndex = i ∧
        carriesIp sess.localTid sess.localSid b = true := by
  have hnone : ipData b = .ok none → result.receivedOn i = false →
      (result.receivedOn i = true ↔
        ∃ index sess, v.lm.sessions.elt? index = some sess ∧
          sess.swIfIndex = i ∧
          carriesIp sess.localTid sess.localSid b = true) := by
    intro hip hnot
    simp [hnot, carriesIp, hip]
  obtain ⟨hdr, hparse, h⟩ := ok_of_bind h
  cases hdr with
  | notV2 =>
      apply hnone
      · rw [ipData, hparse]
        rfl
      · cases h
        rfl
  | control =>
      apply hnone
      · rw [ipData, hparse]
        rfl
      · cases h
        rfl
  | tooShort =>
      apply hnone
      · rw [ipData, hparse]
        rfl
      · cases h
        rfl
  | data flags tid sid off =>
      obtain ⟨walked, hskip, h⟩ := ok_of_bind h
      cases walked with
      | none =>
          apply hnone
          · simp only [ipData, hparse, hskip, ok_bind]
            rfl
          · cases h
            rfl
      | some cur =>
          have hwalk : SafeRun True (skipSeqAndOffset b.current flags off
              b.currentLength.toNat) _ := safeRun_skipSeqAndOffset (by simp)
          have hcur := hwalk.post hskip cur rfl
          have hheader : SafeRun False (pppHeader b.current cur) _ :=
            safeRun_pppHeader (by simpa using hcur)
          obtain ⟨ppp, hppp, -⟩ := hheader.returns
          have hdata : ipData b = .ok (if ppp.1 = pppProtoIp4 ∨
              ppp.1 = pppProtoIp6 then some (tid, sid) else none) := by
            simp only [ipData, hparse, hskip, hppp, ok_bind]
            rfl
          rw [receivedOn_ppp hinv hppp h]
          simp only [carriesIp_iff, hdata]
          by_cases hip : ppp.1 = pppProtoIp4 ∨ ppp.1 = pppProtoIp6
          · rw [if_pos hip]
            simp only [hip, true_and, Except.ok.injEq, Option.some.injEq,
              Prod.mk.injEq, eq_comm (a := tid), eq_comm (a := sid)]
          · simp [hip]

end Delivery

/-! ## Packets processed from some moment on -/

section During

variable {P : Policies} {nWorkers : U32} {hwInterfaces : Pool HwInterface}
  {swInterfaces : Pool SwInterface} {g : WorkerGraph}
  {events : List WorkerEvent}

/-- What one event adds to the processed packets. -/
theorem workerStep_processed {event : WorkerEvent} {g' : WorkerGraph}
    (h : workerStep P nWorkers g event = .ok g') :
    ∃ added, g'.processed = g.processed ++ added ∧
      (∀ e ∈ added, e.vpp = g.vpp) ∧
      g'.vpp = run (Plugin.step P) g.vpp (event.call?.toList) := by
  cases event with
  | call c =>
      cases h
      refine ⟨[], (List.append_nil _).symm, ?_, rfl⟩
      intro e he
      cases he
  | handoff thisThread frame hasRoom =>
      rw [workerStep_handoff] at h
      cases h
      refine ⟨[], (List.append_nil _).symm, ?_, rfl⟩
      intro e he
      cases he
  | input thread count =>
      obtain ⟨out, -, h⟩ := ok_of_bind h
      cases h
      refine ⟨_, rfl, ?_, rfl⟩
      intro e he
      obtain ⟨entry, -, rfl⟩ := List.mem_map.mp he
      rfl

/-- The packets that are processed from a state on meet the calls from there
on. -/
theorem GraphFollows.during
    (h : GraphFollows P nWorkers hwInterfaces swInterfaces g events)
    (more : List WorkerEvent) :
    ∃ g' added, more.foldlM (workerStep P nWorkers) g = .ok g' ∧
      GraphFollows P nWorkers hwInterfaces swInterfaces g' (events ++ more) ∧
      g'.processed = g.processed ++ added ∧
      ∀ e ∈ added, ∃ calls, calls <+: more.filterMap WorkerEvent.call? ∧
        e.vpp = Lib.run (Plugin.step P) g.vpp calls := by
  induction more generalizing g events with
  | nil =>
      rw [List.append_nil]
      refine ⟨g, [], rfl, h, (List.append_nil _).symm, ?_⟩
      intro e he
      cases he
  | cons event more ih =>
      obtain ⟨g₁, hg₁, hfollows⟩ := h.step event
      obtain ⟨first, hfirst, hnow, hvpp⟩ := workerStep_processed hg₁
      obtain ⟨g₂, added, hg₂, hrest, hadded, hlater⟩ := ih hfollows
      have hcalls : (event :: more).filterMap WorkerEvent.call? =
          event.call?.toList ++ more.filterMap WorkerEvent.call? := by
        cases event <;> rfl
      rw [hcalls]
      refine ⟨g₂, first ++ added, ?_, ?_, ?_, ?_⟩
      · rw [List.foldlM_cons, hg₁]
        exact hg₂
      · rw [← List.singleton_append, ← List.append_assoc]
        exact hrest
      · rw [hadded, hfirst, List.append_assoc]
      · intro e he
        rcases List.mem_append.mp he with hold | hnew
        · exact ⟨[], List.nil_prefix, hnow e hold⟩
        · obtain ⟨calls, hprefix, heq⟩ := hlater e hnew
          refine ⟨event.call?.toList ++ calls, ?_, ?_⟩
          · exact (List.prefix_append_right_inj _).mpr hprefix
          · rw [heq, hvpp, Lib.run, Lib.run, Lib.run, List.foldl_append]

/-- Where a processed packet is received, from the sessions at that time. -/
theorem GraphFollows.receivedOn_iff
    (h : GraphFollows P nWorkers hwInterfaces swInterfaces g events)
    {e : Processed} (he : e ∈ g.processed) (i : Nat) :
    e.receivedOn i = true ↔
      ∃ index sess, e.vpp.lm.sessions.elt? index = some sess ∧
        sess.swIfIndex = i ∧
        carriesIp sess.localTid sess.localSid e.buffer = true := by
  obtain ⟨calls, result, -, hvpp, hresult, henqueued⟩ := h.processed e he
  have hinv : StoreInv e.vpp := by
    rw [hvpp]
    exact StoreInv.runCalls P hwInterfaces swInterfaces calls
  rw [receivedOn_enqueue henqueued]
  exact receivedOn_iff_carriesIp hinv hresult i

end During

end L2tvpp.Node
