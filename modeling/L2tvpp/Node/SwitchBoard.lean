import L2tvpp.Node.FastPath
import L2tvpp.Node.Switches

/-!
# The board of switches

To the operator the switches are a board: a setting for each hardware interface,
a mark for each uplink, and two switches for all of them.  What the commands
answer and show, and what becomes of a packet, is what the board gives.
-/

namespace L2tvpp.Node

open L2tvpp.Lib
open L2tvpp.Plugin

/-! ## The board -/

/-- What a packet can be sent by. -/
structure FlowSetting.Legal (threads : Threads) (setting : FlowSetting) :
    Prop where
  increasing : setting.workers.Pairwise (· < ·)
  exist : ∀ worker ∈ setting.workers,
    1 ≤ worker.toNat ∧ worker.toNat ≤ threads.nWorkers.toNat
  target : setting.workers ≠ [] ∨ setting.fastpath = true
  sprayed : setting.spray = true → 2 ≤ setting.workers.length

structure SwitchBoard where
  flow : Nat → Option FlowSetting
  encap : Nat → Bool
  session : Bool
  noChecksum : Bool

def SwitchBoard.started (threads : Threads) : SwitchBoard where
  flow _ := none
  encap _ := false
  session := threads.nWorkers > 1
  noChecksum := false

/-- What is decided for a buffer follows the setting of its interface. -/
structure FollowsSetting (b : SwitchBoard) (thisThread : U16)
    (entry : Nat × VlibBuffer) (sent : Nat × FlowResult) : Prop where
  bi : sent.1 = entry.1
  setting : ∃ setting, b.flow entry.2.swIfIndexRx = some setting ∧
    (sent.2.thread ≠ thisThread → sent.2.thread ∈ setting.workers) ∧
    (sent.2.next = .l2tvppInput → setting.fastpath = true)

section Board

variable (threads : Threads)

/-- The reasons to refuse a line of `l2tvpp flow-handoff`. -/
inductive FlowRefused : Option (List FlowWord) → SwitchError → Prop
  | missingArguments : FlowRefused none .missingArguments
  | unknownInput {words : List FlowWord} (h : .unknown ∈ words) :
      FlowRefused (some words) .unknownInput
  | interfaceRequired {words : List FlowWord}
      (h : (FlowLine.typed words).swIfIndex = none) :
      FlowRefused (some words) .interfaceRequired
  | targetRequired {words : List FlowWord}
      (hon : (FlowLine.typed words).enable = true)
      (hbitmap : (FlowLine.typed words).bitmap = none)
      (hfastpath : (FlowLine.typed words).fastpath = false) :
      FlowRefused (some words) .targetRequired
  | sprayNeedsWorkers {words : List FlowWord}
      (hspray : (FlowLine.typed words).spray = true)
      (hcount : clibBitmapCountSetBits (FlowLine.typed words).bitmap < 2) :
      FlowRefused (some words) .sprayNeedsWorkers
  | notHardware {words : List FlowWord} {swIfIndex : Nat}
      (hinterface : (FlowLine.typed words).swIfIndex = some swIfIndex)
      (hhardware : threads.swInterface swIfIndex ≠ some .hardware) :
      FlowRefused (some words) .notHardware
  | invalidWorkers {words : List FlowWord} {bitmap : Nat}
      (hon : (FlowLine.typed words).enable = true)
      (hbitmap : (FlowLine.typed words).bitmap = some bitmap)
      (hworker : bitmap = 0 ∨
        ∃ i, bitmap.testBit i = true ∧ threads.nWorkers.toNat ≤ i) :
      FlowRefused (some words) (.invalidWorkers threads.nWorkers)

inductive EncapRefused : Option (List EncapWord) → SwitchError → Prop
  | noLine : EncapRefused none .interfaceRequired
  | unknownInput {words : List EncapWord} (h : .unknown ∈ words) :
      EncapRefused (some words) .unknownInput
  | interfaceRequired {words : List EncapWord}
      (h : (EncapLine.typed words).swIfIndex = none) :
      EncapRefused (some words) .interfaceRequired
  | notHardware {words : List EncapWord} {swIfIndex : Nat}
      (hinterface : (EncapLine.typed words).swIfIndex = some swIfIndex)
      (hhardware : threads.swInterface swIfIndex ≠ some .hardware) :
      EncapRefused (some words) .notHardware

namespace SwitchBoard

/-- Which answers an operator may get, and what they make of the board. -/
inductive Answers (b : SwitchBoard) :
    SwitchRequest → SwitchAnswer → SwitchBoard → Prop
  | flowOn {words : List FlowWord} {swIfIndex : Nat}
      (hread : .unknown ∉ words)
      (hon : (FlowLine.typed words).enable = true)
      (hinterface : (FlowLine.typed words).swIfIndex = some swIfIndex)
      (hhardware : threads.swInterface swIfIndex = some .hardware)
      (hlegal : (FlowLine.typed words).setting.Legal threads) :
      Answers b (.flowHandoff (some words)) .done
        { b with
          flow := Function.update b.flow swIfIndex
            (some (FlowLine.typed words).setting)
          session := false }
  | flowOff {words : List FlowWord} {swIfIndex : Nat}
      (hread : .unknown ∉ words)
      (hoff : (FlowLine.typed words).enable = false)
      (hinterface : (FlowLine.typed words).swIfIndex = some swIfIndex)
      (hhardware : threads.swInterface swIfIndex = some .hardware)
      (hsprayed : (FlowLine.typed words).spray = true →
        2 ≤ (FlowLine.typed words).setting.workers.length) :
      Answers b (.flowHandoff (some words)) .done
        { b with flow := Function.update b.flow swIfIndex none }
  | flowRefused {words : Option (List FlowWord)} {error : SwitchError}
      (h : FlowRefused threads words error) :
      Answers b (.flowHandoff words) (.refused error) b
  | encapSwitched {words : List EncapWord} {swIfIndex : Nat}
      (hread : .unknown ∉ words)
      (hinterface : (EncapLine.typed words).swIfIndex = some swIfIndex)
      (hhardware : threads.swInterface swIfIndex = some .hardware) :
      Answers b (.encapFastpath (some words)) .done
        { b with
          encap := Function.update b.encap swIfIndex
            (EncapLine.typed words).enable }
  | encapRefused {words : Option (List EncapWord)} {error : SwitchError}
      (h : EncapRefused threads words error) :
      Answers b (.encapFastpath words) (.refused error) b
  | handoff {words : Option (List OnOffWord)} {on : Bool}
      (hread : .unknown ∉ words.getD [])
      (hon : on = (lastOf OnOffWord.value? (words.getD [])).getD b.session) :
      Answers b (.handoff words) (.handoff on threads.nWorkers)
        { b with session := on }
  | handoffRefused {words : Option (List OnOffWord)}
      (h : .unknown ∈ words.getD []) :
      Answers b (.handoff words) (.refused .unknownInput) b
  | innerChecksum {words : Option (List OnOffWord)} {on : Bool}
      (hread : .unknown ∉ words.getD [])
      (hon : on =
        (lastOf OnOffWord.value? (words.getD [])).getD (!b.noChecksum)) :
      Answers b (.innerChecksum words) (.innerChecksum on)
        { b with noChecksum := !on }
  /-- The words before the unknown one have taken effect. -/
  | innerChecksumRefused {read unread : List OnOffWord} {on : Bool}
      (hread : .unknown ∉ read)
      (hon : on = (lastOf OnOffWord.value? read).getD (!b.noChecksum)) :
      Answers b (.innerChecksum (some (read ++ .unknown :: unread)))
        (.refused .unknownInput) { b with noChecksum := !on }
  | setHandoff {enable : U8} :
      Answers b (.setHandoff enable) .done { b with session := enable != 0 }
  | showFlowHandoff {lm : L2tvppMain} {rows : List (Nat × FlowSetting)}
      (hsorted : rows.Pairwise fun row row' => row.1 < row'.1)
      (hrows : ∀ row, row ∈ rows ↔ b.flow row.1 = some row.2) :
      Answers b (.showFlowHandoff lm)
        (.flow rows (!b.noChecksum) lm.localIp4s.length) b
  | showEncapFastpath {lm : L2tvppMain} {interfaces : List Nat}
      (hsorted : interfaces.Pairwise (· < ·))
      (hinterfaces : ∀ swIfIndex, swIfIndex ∈ interfaces ↔
        b.encap swIfIndex = true) :
      Answers b (.showEncapFastpath lm) (.encap interfaces lm.encapAdjCount) b
  | frame {lm : L2tvppMain} {thisThread : U16}
      {frame : List (Nat × VlibBuffer)}
      {out : Except MemFault (List (Nat × FlowResult))}
      (hout : (∀ entry ∈ frame, b.flow entry.2.swIfIndexRx ≠ none) →
        ∃ sent decided, out = .ok sent ∧ sent.Perm decided ∧
          List.Forall₂ (FollowsSetting b thisThread) frame decided) :
      Answers b (.frame lm thisThread frame) (.sent out) b

end SwitchBoard

end Board

def Switches.board (s : Switches) : SwitchBoard where
  flow swIfIndex := (s.handoff.ifData.getD swIfIndex emptyIf).shown
  encap swIfIndex := s.encapEnabled.testBit swIfIndex
  session := s.handoff.handoffEnabled
  noChecksum := s.innerIp4NoChecksum

/-! ## Legal settings -/

section Legal

variable {threads : Threads} (hthreads : threads.nWorkers.toNat < 2 ^ 16)
include hthreads

theorem toNat_thread {bitmap i : Nat}
    (h : workersExist threads bitmap = true) (hi : i ∈ bitmapBits bitmap) :
    (BitVec.ofNat 16 (1 + i)).toNat = 1 + i ∧
      1 + i ≤ threads.nWorkers.toNat := by
  have hlt := (workersExist_iff.mp h).2 i (mem_bitmapBits.mp hi)
  rw [BitVec.toNat_ofNat, Nat.mod_eq_of_lt (by omega)]
  exact ⟨rfl, by omega⟩

theorem threadsOf_sorted {bitmap : Nat}
    (h : workersExist threads bitmap = true) :
    (threadsOf bitmap).Pairwise (· < ·) := by
  rw [threadsOf, List.pairwise_map]
  apply (bitmapBits_sorted bitmap).imp_of_mem
  intro i j hi hj hlt
  rw [BitVec.lt_def, (toNat_thread hthreads h hi).1,
    (toNat_thread hthreads h hj).1]
  omega

theorem FlowLine.setting_legal {line : FlowLine}
    (hworkers : line.bitmap.all (workersExist threads) = true)
    (htarget : line.bitmap = none → line.fastpath = true)
    (hsprayed : line.spray = true → 2 ≤ line.setting.workers.length) :
    line.setting.Legal threads := by
  refine ⟨?_, ?_, ?_, hsprayed⟩
  · unfold FlowLine.setting
    cases hbitmap : line.bitmap with
    | none => exact .nil
    | some bitmap =>
        rw [hbitmap] at hworkers
        exact threadsOf_sorted hthreads hworkers
  · intro worker hworker
    unfold FlowLine.setting at hworker
    cases hbitmap : line.bitmap with
    | none => simp [hbitmap] at hworker
    | some bitmap =>
        rw [hbitmap] at hworkers hworker
        obtain ⟨i, hi, rfl⟩ := List.mem_map.mp hworker
        obtain ⟨heq, hle⟩ := toNat_thread hthreads hworkers hi
        omega
  · cases hbitmap : line.bitmap with
    | none => exact .inr (htarget hbitmap)
    | some bitmap =>
        rw [hbitmap] at hworkers
        apply Or.inl
        intro hempty
        have hlast := Nat.testBit_log2 (workersExist_iff.mp hworkers).1
        simp [FlowLine.setting, hbitmap, threadsOf] at hempty
        rw [← mem_bitmapBits, hempty] at hlast
        cases hlast

end Legal

/-! ## The flow handoff -/

section Flow

variable {threads : Threads} {hm : HandoffMain} {swIfIndex : Nat}
  {workersBitmap : Option Nat} {fastpath spray enable : Bool}

theorem board_of_handoff {s : Switches} {hm : HandoffMain}
    (h : l2tvppFlowHandoffEnableDisable threads s.handoff swIfIndex
      workersBitmap fastpath spray enable = .ok hm) :
    ({ s with handoff := hm } : Switches).board =
      { s.board with
        flow := Function.update s.board.flow swIfIndex
          (configuredIf workersBitmap fastpath spray enable).shown
        session := !enable && s.board.session } := by
  obtain ⟨-, -, hshown⟩ := flowHandoff_shown h
  obtain ⟨-, -, henabled, -⟩ := flowHandoff_ok h
  simp only [Switches.board, henabled, SwitchBoard.mk.injEq, and_true]
  funext i
  rw [hshown, Function.update_apply]

theorem l2tvppFlowHandoffCli_error {words : Option (List FlowWord)}
    {error : SwitchError}
    (h : l2tvppFlowHandoffCli threads hm words = .error error) :
    FlowRefused threads words error := by
  cases words with
  | none =>
      cases h
      exact .missingArguments
  | some ws =>
      rw [l2tvppFlowHandoffCli, FlowLine.read_typed] at h
      split at h
      · rename_i hread
        cases h
        exact .unknownInput hread
      · dsimp only [bind, Except.bind] at h
        split at h
        · rename_i hinterface
          cases h
          exact .interfaceRequired hinterface
        · rename_i swIfIndex hinterface
          split at h
          · rename_i htarget
            cases h
            simp only [Bool.and_eq_true, Option.isNone_iff_eq_none,
              Bool.not_eq_true'] at htarget
            obtain ⟨⟨hon, hbitmap⟩, hfastpath⟩ := htarget
            exact .targetRequired hon hbitmap hfastpath
          · split at h
            · rename_i hspray
              cases h
              simp only [Bool.and_eq_true, decide_eq_true_eq] at hspray
              exact .sprayNeedsWorkers hspray.1 hspray.2
            · obtain ⟨e, he, rfl⟩ := error_of_mapError h
              rcases flowHandoff_error he with ⟨rfl, hhardware⟩ |
                ⟨rfl, hon, hworkers⟩
              · exact .notHardware hinterface hhardware
              · cases hbitmap : (FlowLine.typed ws).bitmap with
                | none =>
                    rw [hbitmap] at hworkers
                    cases hworkers
                | some bitmap =>
                    rw [hbitmap] at hworkers
                    exact .invalidWorkers hon hbitmap
                      (not_workersExist hworkers)

end Flow

/-! ## Frames -/

section Frame

variable {hashIp : List U8 → Nat → Nat → Except MemFault (Option U32)}
  {lm : L2tvppMain} {fastpath wantHash : Bool} {b : VlibBuffer} {c : Classified}

theorem classifyData_fastpath {p udp l2tp off : Nat} {tagged : Bool}
    {flags : U16} (hfast : c.kind = .fast)
    (h : classifyData hashIp lm fastpath wantHash b p udp l2tp tagged flags
      off = .ok c) : fastpath = true := by
  by_contra hoff
  rw [Bool.not_eq_true] at hoff
  subst hoff
  have hslow : fastEligible lm b.current p b.currentLength.toNat false tagged =
      .ok false := rfl
  rw [classifyData, hslow, ok_bind] at h
  dsimp only at h
  split at h
  · cases h
    cases hfast
  · cases (classifyInner_fast hfast h).1

theorem classifyIp4_fastpath {p : Nat} {tagged : Bool} (hfast : c.kind = .fast)
    (h : classifyIp4 hashIp lm fastpath wantHash b p tagged = .ok c) :
    fastpath = true := by
  unfold classifyIp4 at h
  dsimp only at h
  split at h
  · cases h
    cases hfast
  · obtain ⟨proto, -, h⟩ := ok_of_bind h
    obtain ⟨fragment, -, h⟩ := ok_of_bind h
    split at h
    · exact absurd hfast (classifyOuter_kind h)
    · obtain ⟨version, -, h⟩ := ok_of_bind h
      split at h
      · exact absurd hfast (classifyOuter_kind h)
      · obtain ⟨dstPort, -, h⟩ := ok_of_bind h
        split at h
        · exact absurd hfast (classifyOuter_kind h)
        · obtain ⟨hdr, -, h⟩ := ok_of_bind h
          cases hdr with
          | data flags tid sid off => exact classifyData_fastpath hfast h
          | tooShort => exact absurd hfast (classifyOuter_kind h)
          | notV2 =>
              cases h
              cases hfast
          | control =>
              cases h
              cases hfast

end Frame

theorem followsSetting_of_decided {crc32c : List U8 → U32} {lm : L2tvppMain}
    {thisThread : U16} {s : Switches} {entry : Nat × VlibBuffer}
    {sent : Nat × FlowResult}
    (h : Decided crc32c lm thisThread s.handoff.ifData entry sent)
    (hon : s.board.flow entry.2.swIfIndexRx ≠ none) :
    FollowsSetting s.board thisThread entry sent := by
  obtain ⟨hbi, ifd, c, hifd, hc, -, hnext, -, -, -, hworker⟩ := h
  have hflow : s.board.flow entry.2.swIfIndexRx = ifd.shown := by
    simp [Switches.board, hifd]
  rw [hflow, FlowHandoffIf.shown] at hon
  split at hon
  · rename_i henabled
    refine ⟨hbi, _, by rw [hflow, FlowHandoffIf.shown, if_pos henabled],
      hworker, ?_⟩
    intro hfast
    have hkind := hnext.mp hfast
    exact classifyIp4_fastpath hkind (classifyFrame_untagged hkind hc).2
  · exact absurd rfl hon

/-- A frame from interfaces on the board. -/
theorem flowHandoffNode_follows (crc32c : List U8 → U32) (lm : L2tvppMain)
    (thisThread : U16) {s : Switches} {frame : List (Nat × VlibBuffer)}
    (hon : ∀ entry ∈ frame, s.board.flow entry.2.swIfIndexRx ≠ none) :
    ∃ out decided,
      l2tvppFlowHandoffNode crc32c lm thisThread s.handoff.ifData frame =
        .ok out ∧
      (out.locals ++ (out.eth ++ out.l2tp)).Perm decided ∧
      List.Forall₂ (FollowsSetting s.board thisThread) frame decided := by
  have hinside : ∀ entry ∈ frame,
      entry.2.swIfIndexRx < s.handoff.ifData.length := by
    intro entry hentry
    obtain ⟨setting, hsetting⟩ :=
      Option.ne_none_iff_exists'.mp (hon entry hentry)
    exact lt_length_of_shown hsetting
  obtain ⟨sent, out, hout, hsent, -, hlocals, heth, hl2tp⟩ :=
    foldlM_flowHandoffStep crc32c lm thisThread frame hinside
      (s := ⟨s.handoff.ifData, [], [], []⟩) rfl
  refine ⟨out, sent, hout, ?_, ?_⟩
  · rw [hlocals, heth, hl2tp]
    exact perm_parts thisThread sent
  · apply List.forall₂_iff_zip.mpr
    refine ⟨hsent.length_eq, ?_⟩
    intro entry decided hmem
    exact followsSetting_of_decided (List.forall₂_iff_zip.mp hsent |>.2 hmem)
      (hon entry (List.of_mem_zip hmem).1)

/-! ## The answers -/

section Answers

variable {threads : Threads} {s : Switches} (crc32c : List U8 → U32)

theorem answers_flowHandoff (hthreads : threads.nWorkers.toNat < 2 ^ 16)
    (words : Option (List FlowWord)) :
    s.board.Answers threads (.flowHandoff words)
      (switchRespond crc32c threads s (.flowHandoff words)).1
      (switchRespond crc32c threads s (.flowHandoff words)).2.board := by
  simp only [switchRespond]
  cases h : l2tvppFlowHandoffCli threads s.handoff words with
  | error error => exact .flowRefused (l2tvppFlowHandoffCli_error h)
  | ok hm =>
      obtain ⟨ws, swIfIndex, rfl, hread, hinterface, htarget, hsprayed,
        hok⟩ := l2tvppFlowHandoffCli_ok h
      obtain ⟨hhardware, hworkers, -⟩ := flowHandoff_shown hok
      have hboard := board_of_handoff hok
      rw [shown_configuredIf] at hboard
      simp only [Except.map, Switches.answer, hboard]
      cases hon : (FlowLine.typed ws).enable with
      | false => exact .flowOff hread hon hinterface hhardware hsprayed
      | true =>
          exact .flowOn hread hon hinterface hhardware
            (FlowLine.setting_legal hthreads (hworkers hon) (htarget hon)
              hsprayed)

theorem board_of_encapFastpath {swIfIndex : Nat} {enable : Bool}
    {s' : Switches}
    (h : l2tvppEncapFastpathEnableDisable threads s swIfIndex enable = .ok s') :
    threads.swInterface swIfIndex = some .hardware ∧
      s'.board =
        { s.board with
          encap := Function.update s.board.encap swIfIndex enable } := by
  unfold l2tvppEncapFastpathEnableDisable at h
  split at h
  · rename_i hhardware
    refine ⟨hhardware, ?_⟩
    split at h
    · rename_i hsame
      cases h
      simp only [Switches.board, ← hsame, Function.update_eq_self]
    · cases h
      simp only [Switches.board, SwitchBoard.mk.injEq, and_true, true_and]
      funext i
      rw [testBit_clibBitmapSet, Function.update_apply]
  · cases h

theorem answers_encapFastpath (words : Option (List EncapWord)) :
    s.board.Answers threads (.encapFastpath words)
      (switchRespond crc32c threads s (.encapFastpath words)).1
      (switchRespond crc32c threads s (.encapFastpath words)).2.board := by
  simp only [switchRespond]
  cases words with
  | none => exact .encapRefused .noLine
  | some words =>
      simp only [l2tvppEncapFastpathCli, EncapLine.read_typed]
      by_cases hread : .unknown ∈ words
      · simp only [if_pos hread]
        exact .encapRefused (.unknownInput hread)
      · simp only [if_neg hread, bind, Except.bind]
        cases hinterface : (EncapLine.typed words).swIfIndex with
        | none => exact .encapRefused (.interfaceRequired hinterface)
        | some swIfIndex =>
            dsimp only
            cases h : l2tvppEncapFastpathEnableDisable threads s swIfIndex
                (EncapLine.typed words).enable with
            | ok s' =>
                obtain ⟨hhardware, hboard⟩ := board_of_encapFastpath h
                simp only [Except.mapError, Switches.answer, hboard]
                exact .encapSwitched hread hinterface hhardware
            | error error =>
                obtain ⟨rfl, hhardware⟩ := encapFastpath_error h
                exact .encapRefused (.notHardware hinterface hhardware)

theorem board_of_setHandoff (enable : U8) :
    ({ s with handoff := l2tvppSetHandoff s.handoff enable } : Switches).board =
      { s.board with session := enable != 0 } := by
  obtain ⟨hsession, hifData⟩ := session_setHandoff s.handoff enable
  simp only [Switches.board, hsession, hifData]

theorem answers_handoff (words : Option (List OnOffWord)) :
    s.board.Answers threads (.handoff words)
      (switchRespond crc32c threads s (.handoff words)).1
      (switchRespond crc32c threads s (.handoff words)).2.board := by
  have hcli : l2tvppHandoffCli s.handoff words =
      (words.getD []).foldlM readOnOff none >>= fun seen =>
        .ok (seen.elim s.handoff fun enable =>
          l2tvppSetHandoff s.handoff (if enable then 1 else 0)) := by
    cases words with
    | none => rfl
    | some words => 
        simp only [l2tvppHandoffCli, Option.getD_some]
        congr 1
        funext seen
        cases seen <;> rfl
  simp only [switchRespond, hcli, foldlM_readOnOff]
  by_cases hread : .unknown ∈ words.getD []
  · simp only [if_pos hread]
    exact .handoffRefused hread
  · simp only [if_neg hread, Option.or_none, bind, Except.bind]
    cases hlast : lastOf OnOffWord.value? (words.getD []) with
    | none => exact .handoff hread (by rw [hlast]; rfl)
    | some on =>
        simp only [Option.elim_some, board_of_setHandoff,
          (session_setHandoff s.handoff _).1]
        apply SwitchBoard.Answers.handoff hread
        rw [hlast]
        cases on <;> rfl

theorem answers_innerChecksum (words : Option (List OnOffWord)) :
    s.board.Answers threads (.innerChecksum words)
      (switchRespond crc32c threads s (.innerChecksum words)).1
      (switchRespond crc32c threads s (.innerChecksum words)).2.board := by
  by_cases hread : .unknown ∈ words.getD []
  · obtain ⟨read, unread, hwords, hnot⟩ := List.eq_append_cons_of_mem hread
    cases words with
    | none => cases hread
    | some words =>
        have hwords : words = read ++ .unknown :: unread := hwords
        subst hwords
        have hall := innerChecksumWords_read hnot (.unknown :: unread)
          s.innerIp4NoChecksum
        simp only [switchRespond, l2tvppInnerChecksumCli, Option.getD_some,
          hall, l2tvppInnerChecksumWords]
        exact .innerChecksumRefused hnot rfl
  · have hall := innerChecksumWords_read hread [] s.innerIp4NoChecksum
    rw [List.append_nil] at hall
    simp only [switchRespond, l2tvppInnerChecksumCli, hall,
      l2tvppInnerChecksumWords, Bool.not_not]
    exact .innerChecksum hread rfl

theorem answers_showFlowHandoff (lm : L2tvppMain) :
    s.board.Answers threads (.showFlowHandoff lm)
      (switchRespond crc32c threads s (.showFlowHandoff lm)).1 s.board := by
  apply SwitchBoard.Answers.showFlowHandoff
  · rw [l2tvppShowFlowHandoffCli, List.pairwise_filterMap]
    apply List.pairwise_lt_range.imp
    intro i j hlt row hrow row' hrow'
    simp only [Option.map_eq_some_iff] at hrow hrow'
    obtain ⟨setting, -, rfl⟩ := hrow
    obtain ⟨setting', -, rfl⟩ := hrow'
    exact hlt
  · rintro ⟨swIfIndex, setting⟩
    simp only [l2tvppShowFlowHandoffCli, List.mem_filterMap, List.mem_range,
      Option.map_eq_some_iff, Prod.mk.injEq]
    constructor
    · rintro ⟨i, -, other, hother, rfl, rfl⟩
      exact hother
    · intro hshown
      exact ⟨swIfIndex, lt_length_of_shown hshown, setting, hshown, rfl,
        rfl⟩

theorem answers_showEncapFastpath (lm : L2tvppMain) :
    s.board.Answers threads (.showEncapFastpath lm)
      (switchRespond crc32c threads s (.showEncapFastpath lm)).1 s.board :=
  .showEncapFastpath (bitmapBits_sorted s.encapEnabled) fun _ => mem_bitmapBits

theorem board_of_moved {moved : List FlowHandoffIf}
    (h : moved.map FlowHandoffIf.settings =
      s.handoff.ifData.map FlowHandoffIf.settings) :
    ({ s with
      handoff := { s.handoff with ifData := moved } } : Switches).board =
      s.board := by
  simp only [Switches.board, SwitchBoard.mk.injEq, and_true]
  funext i
  exact shown_of_settings h i

theorem answers_frame (lm : L2tvppMain) (thisThread : U16)
    (frame : List (Nat × VlibBuffer)) :
    s.board.Answers threads (.frame lm thisThread frame)
      (switchRespond crc32c threads s (.frame lm thisThread frame)).1
      (switchRespond crc32c threads s
        (.frame lm thisThread frame)).2.board := by
  simp only [switchRespond]
  cases hout : l2tvppFlowHandoffNode crc32c
      { lm with innerIp4NoChecksum := s.innerIp4NoChecksum } thisThread
      s.handoff.ifData frame with
  | error fault =>
      apply SwitchBoard.Answers.frame
      intro hon
      obtain ⟨out, -, hok, -⟩ := flowHandoffNode_follows crc32c
        { lm with innerIp4NoChecksum := s.innerIp4NoChecksum } thisThread hon
      rw [hout] at hok
      cases hok
  | ok out =>
      rw [board_of_moved (settings_foldlM frame hout)]
      apply SwitchBoard.Answers.frame
      intro hon
      obtain ⟨out', decided, hok, hperm, hfollows⟩ :=
        flowHandoffNode_follows crc32c
          { lm with innerIp4NoChecksum := s.innerIp4NoChecksum } thisThread hon
      rw [hout] at hok
      cases hok
      exact ⟨_, decided, rfl, hperm, hfollows⟩

theorem answers_switchRespond (hthreads : threads.nWorkers.toNat < 2 ^ 16)
    (request : SwitchRequest) :
    s.board.Answers threads request (switchRespond crc32c threads s request).1
      (switchRespond crc32c threads s request).2.board := by
  cases request with
  | flowHandoff words => exact answers_flowHandoff crc32c hthreads words
  | encapFastpath words => exact answers_encapFastpath crc32c words
  | handoff words => exact answers_handoff crc32c words
  | innerChecksum words => exact answers_innerChecksum crc32c words
  | setHandoff enable =>
      simp only [switchRespond, board_of_setHandoff]
      exact .setHandoff
  | showFlowHandoff lm => exact answers_showFlowHandoff crc32c lm
  | showEncapFastpath lm => exact answers_showEncapFastpath crc32c lm
  | frame lm thisThread frame => exact answers_frame crc32c lm thisThread frame

end Answers

/-! ## Whole runs -/

/-- What the rest of VPP was told agrees with what is stored. -/
structure SwitchesInv (s : Switches) : Prop where
  feature : ∀ i, s.handoff.feature i = s.handoff.flowEnabled i
  registered : s.handoff.udpNode =
    if s.handoff.handoffEnabled then .l2tvppHandoff else .l2tvppInput
  encap : ∀ i, s.encapFeature i = s.encapEnabled.testBit i

theorem SwitchesInv.board_flow {s : Switches} (h : SwitchesInv s) (i : Nat) :
    s.handoff.feature i = (s.board.flow i).isSome := by
  rw [h.feature]
  exact (shown_isSome _).symm

section Invariant

variable {threads : Threads} {s : Switches}

theorem SwitchesInv.flowHandoff (h : SwitchesInv s) {swIfIndex : Nat}
    {workersBitmap : Option Nat} {fastpath spray enable : Bool}
    {hm : HandoffMain}
    (hok : l2tvppFlowHandoffEnableDisable threads s.handoff swIfIndex
      workersBitmap fastpath spray enable = .ok hm) :
    SwitchesInv { s with handoff := hm } := by
  obtain ⟨hflow, hfeature, henabled, hnode⟩ := flowHandoff_ok hok
  refine ⟨?_, ?_, h.encap⟩
  · intro i
    simp only [hfeature, hflow, h.feature]
    by_cases hchanged : i = swIfIndex ∧ s.handoff.flowEnabled i ≠ enable
    · rw [if_pos hchanged, if_pos hchanged.1]
    · rw [if_neg hchanged]
      simp only [not_and, not_not] at hchanged
      split
      · rename_i heq
        exact hchanged heq
      · rfl
  · simp only [hnode, henabled, h.registered]
    cases enable <;> cases s.handoff.handoffEnabled <;> rfl

theorem SwitchesInv.setHandoff (h : SwitchesInv s) (enable : U8) :
    SwitchesInv { s with handoff := l2tvppSetHandoff s.handoff enable } := by
  simp only [l2tvppSetHandoff]
  split
  · exact h
  · exact ⟨h.feature, rfl, h.encap⟩

theorem SwitchesInv.encapFastpath (h : SwitchesInv s) {swIfIndex : Nat}
    {enable : Bool} {s' : Switches}
    (hok : l2tvppEncapFastpathEnableDisable threads s swIfIndex enable =
      .ok s') : SwitchesInv s' := by
  unfold l2tvppEncapFastpathEnableDisable at hok
  split at hok
  · split at hok
    · cases hok
      exact h
    · cases hok
      refine ⟨h.feature, h.registered, ?_⟩
      intro i
      simp only [testBit_clibBitmapSet, Function.update_apply, h.encap]
  · cases hok

theorem SwitchesInv.switchRespond (h : SwitchesInv s) (crc32c : List U8 → U32)
    (request : SwitchRequest) :
    SwitchesInv (switchRespond crc32c threads s request).2 := by
  cases request with
  | flowHandoff words =>
      simp only [Node.switchRespond]
      cases hcli : l2tvppFlowHandoffCli threads s.handoff words with
      | error error => exact h
      | ok hm =>
          obtain ⟨ws, swIfIndex, -, -, -, -, -, hok⟩ :=
            l2tvppFlowHandoffCli_ok hcli
          exact h.flowHandoff hok
  | encapFastpath words =>
      simp only [Node.switchRespond]
      cases hcli : l2tvppEncapFastpathCli threads s words with
      | error error => exact h
      | ok s' =>
          obtain ⟨swIfIndex, enable, hok⟩ := l2tvppEncapFastpathCli_ok hcli
          exact h.encapFastpath hok
  | handoff words =>
      simp only [Node.switchRespond]
      cases hcli : l2tvppHandoffCli s.handoff words with
      | error error => exact h
      | ok hm =>
          rcases l2tvppHandoffCli_ok hcli with rfl | ⟨enable, rfl⟩
          · exact h
          · exact h.setHandoff enable
  | innerChecksum words =>
      simp only [Node.switchRespond]
      split
      · exact ⟨h.feature, h.registered, h.encap⟩
      · exact ⟨h.feature, h.registered, h.encap⟩
  | setHandoff enable => exact h.setHandoff enable
  | showFlowHandoff lm => exact h
  | showEncapFastpath lm => exact h
  | frame lm thisThread frame =>
      simp only [Node.switchRespond]
      split
      · rename_i out hout
        refine ⟨?_, h.registered, h.encap⟩
        intro i
        have hshown := shown_of_settings (settings_foldlM frame hout) i
        rw [h.feature, HandoffMain.flowEnabled, HandoffMain.flowEnabled,
          ← shown_isSome, ← shown_isSome, hshown]
      · exact h

end Invariant

/-- A board that only has legal settings of hardware interfaces. -/
def SwitchBoard.Legal (threads : Threads) (b : SwitchBoard) : Prop :=
  ∀ swIfIndex setting, b.flow swIfIndex = some setting →
    threads.swInterface swIfIndex = some .hardware ∧ setting.Legal threads

theorem SwitchBoard.Answers.legal {threads : Threads} {b b' : SwitchBoard}
    {request : SwitchRequest} {answer : SwitchAnswer}
    (h : b.Answers threads request answer b') (hlegal : b.Legal threads) :
    b'.Legal threads := by
  cases h with
  | flowOn hread hon hinterface hhardware hsetting =>
      intro i setting hflow
      simp only [Function.update_apply] at hflow
      split at hflow
      · rename_i heq
        cases hflow
        rw [heq]
        exact ⟨hhardware, hsetting⟩
      · exact hlegal i setting hflow
  | flowOff hread hoff hinterface hhardware hsprayed =>
      intro i setting hflow
      simp only [Function.update_apply] at hflow
      split at hflow
      · cases hflow
      · exact hlegal i setting hflow
  | _ => exact hlegal

theorem board_started (threads : Threads) (handoffQueueNelts : U32) :
    (Switches.started threads handoffQueueNelts).board =
      SwitchBoard.started threads ∧
    SwitchesInv (Switches.started threads handoffQueueNelts) := by
  have hencap : (fun i => Nat.testBit 0 i) = fun _ => false := by simp
  simp only [Switches.started, l2tvppHandoffDefault, Switches.board,
    SwitchBoard.started, hencap]
  split
  · rename_i hworkers
    rw [decide_eq_true hworkers]
    exact ⟨rfl, fun i => rfl, rfl, fun i => by simp⟩
  · rename_i hworkers
    rw [decide_eq_false hworkers]
    exact ⟨rfl, fun i => rfl, rfl, fun i => by simp⟩

/-- In every run of commands, API messages and frames, what is answered, shown
and done to packets is what the board gives.  Every setting on it names
different workers that exist, and two of them where it sprays; the features and
the registration of udp/1701 agree with it. -/
theorem switchBoard_explains (crc32c : List U8 → U32) (threads : Threads)
    (hthreads : threads.nWorkers.toNat < 2 ^ 16) (handoffQueueNelts : U32)
    (requests : List SwitchRequest) :
    let run := runAnswered (switchRespond crc32c threads)
      (Switches.started threads handoffQueueNelts) requests
    Explains (SwitchBoard.Answers threads) (SwitchBoard.started threads) run.1
        run.2.board ∧
      run.2.board.Legal threads ∧
      (∀ swIfIndex,
        run.2.handoff.feature swIfIndex =
          (run.2.board.flow swIfIndex).isSome ∧
        run.2.encapFeature swIfIndex = run.2.board.encap swIfIndex) ∧
      run.2.handoff.udpNode =
        if run.2.board.session then .l2tvppHandoff else .l2tvppInput := by
  intro run
  obtain ⟨hboard, hinit⟩ := board_started threads handoffQueueNelts
  obtain ⟨hinv, hexplains⟩ := explains_runAnswered
    (switchRespond crc32c threads) Switches.board SwitchesInv
    (fun s request h => ⟨h.switchRespond crc32c request,
      answers_switchRespond crc32c hthreads request⟩) requests hinit
  rw [hboard] at hexplains
  refine ⟨hexplains, ?_, ?_, hinv.registered⟩
  · apply hexplains.invariant (SwitchBoard.Legal threads)
    · intro b b' entry _ hanswers hlegal
      exact hanswers.legal hlegal
    · intro i setting hflow
      cases hflow
  · intro i
    exact ⟨hinv.board_flow i, hinv.encap i⟩

def sprayOn : List SwitchRequest :=
  [.flowHandoff (some [.spray, .interface 1, .fastpath]),
    .flowHandoff (some [.spray, .workers (some 5), .interface 1]),
    .encapFastpath (some [.interface 2]),
    .innerChecksum (some [.off, .unknown])]

theorem switchBoard_explains_sprayOn :
    let run := runAnswered (switchRespond (fun _ => 0) threeWorkers)
      (Switches.started threeWorkers 64) sprayOn
    run.2.board.flow 1 = some ⟨[1, 3], false, true⟩ ∧
      run.2.handoff.feature 1 = true ∧ run.2.encapFeature 2 = true ∧
      run.2.handoff.udpNode = .l2tvppInput := by
  intro run
  obtain ⟨-, -, hfeatures, hnode⟩ := switchBoard_explains (fun _ => 0)
    threeWorkers (by decide) 64 sprayOn
  have hflow : run.2.board.flow 1 = some ⟨[1, 3], false, true⟩ := by decide
  have hencap : run.2.board.encap 2 = true := by decide
  have hsession : run.2.board.session = false := by decide
  refine ⟨hflow, ?_, ?_, ?_⟩
  · rw [(hfeatures 1).1, hflow]
    rfl
  · rw [(hfeatures 2).2, hencap]
  · rw [hnode, hsession]
    rfl

end L2tvpp.Node
