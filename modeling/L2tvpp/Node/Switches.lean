import L2tvpp.Node.FlowFrame

/-!
# The switches of the fast paths

`l2tvpp flow-handoff`, `l2tvpp encap-fastpath`, `l2tvpp handoff` and
`l2tvpp inner-checksum`, and the commands that show what these have set.
-/

namespace L2tvpp.Node

open L2tvpp.Lib
open L2tvpp.Plugin

/-! ## Lines -/

inductive SwitchError where
  | missingArguments
  | unknownInput
  | interfaceRequired
  | targetRequired
  | sprayNeedsWorkers
  | notHardware
  | invalidWorkers (nWorkers : U32)
  deriving DecidableEq, Repr

/-- What one round of the loop of `l2tvpp_flow_handoff_cli` finds. -/
inductive FlowWord where
  | disable
  | workers (bitmap : Option Nat)
  | fastpath
  | spray
  | interface (swIfIndex : Nat)
  | unknown
  deriving DecidableEq, Repr

structure FlowLine where
  swIfIndex : Option Nat
  bitmap : Option Nat
  enable : Bool
  fastpath : Bool
  spray : Bool
  deriving DecidableEq, Repr

namespace FlowLine

def init : FlowLine := ⟨none, none, true, false, false⟩

def read (line : FlowLine) : FlowWord → Except SwitchError FlowLine
  | .disable => .ok { line with enable := false }
  | .workers bitmap => .ok { line with bitmap := bitmap }
  | .fastpath => .ok { line with fastpath := true }
  | .spray => .ok { line with spray := true }
  | .interface swIfIndex => .ok { line with swIfIndex := some swIfIndex }
  | .unknown => .error .unknownInput

end FlowLine

inductive EncapWord where
  | disable
  | interface (swIfIndex : Nat)
  | unknown
  deriving DecidableEq, Repr

structure EncapLine where
  swIfIndex : Option Nat
  enable : Bool
  deriving DecidableEq, Repr

namespace EncapLine

def init : EncapLine := ⟨none, true⟩

def read (line : EncapLine) : EncapWord → Except SwitchError EncapLine
  | .disable => .ok { line with enable := false }
  | .interface swIfIndex => .ok { line with swIfIndex := some swIfIndex }
  | .unknown => .error .unknownInput

end EncapLine

inductive OnOffWord where
  | on
  | off
  | unknown
  deriving DecidableEq, Repr

/-! ## The commands -/

def threadsOf (bitmap : Nat) : List U16 :=
  (bitmapBits bitmap).map fun i => BitVec.ofNat 16 (1 + i)

def clibBitmapCountSetBits (bitmap : Option Nat) : Nat :=
  (bitmap.elim [] bitmapBits).length

def clibBitmapSet (bitmap i : Nat) (value : Bool) : Nat :=
  if bitmap.testBit i = value then bitmap else bitmap ^^^ 2 ^ i

def SwitchError.ofHandoff (threads : Threads) : HandoffError → SwitchError
  | .invalidSwIfIndex => .notHardware
  | .invalidWorker => .invalidWorkers threads.nWorkers

/-- The switches, and which interfaces have `l2tvpp-encap-fastpath` on their
`device-input` arc. -/
structure Switches where
  handoff : HandoffMain
  encapEnabled : Nat
  encapFeature : Nat → Bool
  innerIp4NoChecksum : Bool

section Commands

variable (threads : Threads)

/-- No words where there is no line to read. -/
def l2tvppFlowHandoffCli (hm : HandoffMain) :
    Option (List FlowWord) → Except SwitchError HandoffMain
  | none => .error .missingArguments
  | some words => do
      let line ← words.foldlM FlowLine.read FlowLine.init
      match line.swIfIndex with
      | none => .error .interfaceRequired
      | some swIfIndex =>
          if line.enable && line.bitmap.isNone && !line.fastpath then
            .error .targetRequired
          else if line.spray && clibBitmapCountSetBits line.bitmap < 2 then
            .error .sprayNeedsWorkers
          else
            (l2tvppFlowHandoffEnableDisable threads hm swIfIndex line.bitmap
              line.fastpath line.spray line.enable).mapError
                (.ofHandoff threads)

def l2tvppEncapFastpathEnableDisable (s : Switches) (swIfIndex : Nat)
    (enable : Bool) : Except HandoffError Switches :=
  match threads.swInterface swIfIndex with
  | some .hardware =>
      if s.encapEnabled.testBit swIfIndex = enable then .ok s
      else .ok { s with
        encapEnabled := clibBitmapSet s.encapEnabled swIfIndex enable
        encapFeature := Function.update s.encapFeature swIfIndex enable }
  | _ => .error .invalidSwIfIndex

def l2tvppEncapFastpathCli (s : Switches) :
    Option (List EncapWord) → Except SwitchError Switches
  | none => .error .interfaceRequired
  | some words => do
      let line ← words.foldlM EncapLine.read EncapLine.init
      match line.swIfIndex with
      | none => .error .interfaceRequired
      | some swIfIndex =>
          (l2tvppEncapFastpathEnableDisable threads s swIfIndex
            line.enable).mapError (.ofHandoff threads)

/-- The last word counts. -/
def readOnOff : Option Bool → OnOffWord → Except SwitchError (Option Bool)
  | _, .on => .ok (some true)
  | _, .off => .ok (some false)
  | _, .unknown => .error .unknownInput

/-- A line without a word only shows the state. -/
def l2tvppHandoffCli (hm : HandoffMain) :
    Option (List OnOffWord) → Except SwitchError HandoffMain
  | none => .ok hm
  | some words => do
      match ← words.foldlM readOnOff none with
      | none => .ok hm
      | some enable => .ok (l2tvppSetHandoff hm (if enable then 1 else 0))

/-- Each word takes effect as it is read. -/
def l2tvppInnerChecksumWords :
    List OnOffWord → Bool → Except SwitchError Unit × Bool
  | [], noChecksum => (.ok (), noChecksum)
  | .on :: words, _ => l2tvppInnerChecksumWords words false
  | .off :: words, _ => l2tvppInnerChecksumWords words true
  | .unknown :: _, noChecksum => (.error .unknownInput, noChecksum)

def l2tvppInnerChecksumCli (words : Option (List OnOffWord))
    (noChecksum : Bool) : Except SwitchError Unit × Bool :=
  l2tvppInnerChecksumWords (words.getD []) noChecksum

end Commands

/-! ## What is shown -/

/-- A line of `show l2tvpp flow-handoff`. -/
structure FlowSetting where
  workers : List U16
  fastpath : Bool
  spray : Bool
  deriving DecidableEq, Repr

def FlowHandoffIf.shown (ifd : FlowHandoffIf) : Option FlowSetting :=
  if ifd.enabled then some ⟨ifd.workers, ifd.fastpath, ifd.spray⟩ else none

def l2tvppShowFlowHandoffCli (ifData : List FlowHandoffIf) :
    List (Nat × FlowSetting) :=
  (List.range ifData.length).filterMap fun swIfIndex =>
    (ifData.getD swIfIndex emptyIf).shown.map (Prod.mk swIfIndex)

def l2tvppShowEncapFastpathCli (s : Switches) : List Nat :=
  bitmapBits s.encapEnabled

inductive SwitchRequest where
  | flowHandoff (words : Option (List FlowWord))
  | encapFastpath (words : Option (List EncapWord))
  | handoff (words : Option (List OnOffWord))
  | innerChecksum (words : Option (List OnOffWord))
  /-- The API message. -/
  | setHandoff (enable : U8)
  | showFlowHandoff (lm : L2tvppMain)
  | showEncapFastpath (lm : L2tvppMain)
  /-- A frame for `l2tvpp-flow-handoff`. -/
  | frame (lm : L2tvppMain) (thisThread : U16)
      (frame : List (Nat × VlibBuffer))

inductive SwitchAnswer where
  | done
  | refused (error : SwitchError)
  | handoff (on : Bool) (nWorkers : U32)
  | innerChecksum (on : Bool)
  | flow (rows : List (Nat × FlowSetting)) (innerChecksum : Bool)
      (localIp4s : Nat)
  | encap (interfaces : List Nat) (encapAdjCount : U32)
  /-- What the node enqueues. -/
  | sent (out : Except MemFault (List (Nat × FlowResult)))

section Respond

variable (crc32c : List U8 → U32) (threads : Threads)

/-- A refused command leaves the state as it is. -/
def Switches.answer (s : Switches) :
    Except SwitchError Switches → SwitchAnswer × Switches
  | .ok s' => (.done, s')
  | .error error => (.refused error, s)

def switchRespond (s : Switches) : SwitchRequest → SwitchAnswer × Switches
  | .flowHandoff words =>
      s.answer ((l2tvppFlowHandoffCli threads s.handoff words).map fun hm =>
        { s with handoff := hm })
  | .encapFastpath words => s.answer (l2tvppEncapFastpathCli threads s words)
  | .handoff words =>
      match l2tvppHandoffCli s.handoff words with
      | .ok hm =>
          (.handoff hm.handoffEnabled threads.nWorkers,
            { s with handoff := hm })
      | .error error => (.refused error, s)
  | .innerChecksum words =>
      match l2tvppInnerChecksumCli words s.innerIp4NoChecksum with
      | (.ok (), noChecksum) =>
          (.innerChecksum (!noChecksum),
            { s with innerIp4NoChecksum := noChecksum })
      | (.error error, noChecksum) =>
          (.refused error, { s with innerIp4NoChecksum := noChecksum })
  | .setHandoff enable =>
      (.done, { s with handoff := l2tvppSetHandoff s.handoff enable })
  | .showFlowHandoff lm =>
      (.flow (l2tvppShowFlowHandoffCli s.handoff.ifData)
        (!s.innerIp4NoChecksum) lm.localIp4s.length, s)
  | .showEncapFastpath lm =>
      (.encap (l2tvppShowEncapFastpathCli s) lm.encapAdjCount, s)
  | .frame lm thisThread frame =>
      match l2tvppFlowHandoffNode crc32c
        { lm with innerIp4NoChecksum := s.innerIp4NoChecksum } thisThread
        s.handoff.ifData frame with
      | .ok out =>
          (.sent (.ok (out.locals ++ (out.eth ++ out.l2tp))),
            { s with handoff := { s.handoff with ifData := out.ifData } })
      | .error fault => (.sent (.error fault), s)

end Respond

/-- VPP as it enters its main loop. -/
def Switches.started (threads : Threads) (handoffQueueNelts : U32) :
    Switches where
  handoff := l2tvppHandoffDefault threads (HandoffMain.init handoffQueueNelts)
  encapEnabled := 0
  encapFeature _ := false
  innerIp4NoChecksum := false

/-! ## Reading a line -/

namespace FlowWord

def interface? : FlowWord → Option Nat
  | .interface swIfIndex => some swIfIndex
  | _ => none

def workers? : FlowWord → Option (Option Nat)
  | .workers bitmap => some bitmap
  | _ => none

end FlowWord

def EncapWord.interface? : EncapWord → Option Nat
  | .interface swIfIndex => some swIfIndex
  | _ => none

def OnOffWord.value? : OnOffWord → Option Bool
  | .on => some true
  | .off => some false
  | .unknown => none

/-- What a line says, whatever the order of its words. -/
def FlowLine.typed (words : List FlowWord) : FlowLine where
  swIfIndex := lastOf FlowWord.interface? words
  bitmap := (lastOf FlowWord.workers? words).getD none
  enable := !words.contains .disable
  fastpath := words.contains .fastpath
  spray := words.contains .spray

def EncapLine.typed (words : List EncapWord) : EncapLine where
  swIfIndex := lastOf EncapWord.interface? words
  enable := !words.contains .disable

def FlowLine.setting (line : FlowLine) : FlowSetting where
  workers := line.bitmap.elim [] threadsOf
  fastpath := line.fastpath
  spray := line.spray

theorem FlowLine.foldlM_read (words : List FlowWord) (line : FlowLine) :
    words.foldlM FlowLine.read line =
      if .unknown ∈ words then .error .unknownInput
      else .ok {
        swIfIndex := (lastOf FlowWord.interface? words).or line.swIfIndex
        bitmap := (lastOf FlowWord.workers? words).getD line.bitmap
        enable := line.enable && !words.contains .disable
        fastpath := line.fastpath || words.contains .fastpath
        spray := line.spray || words.contains .spray } := by
  induction words generalizing line with
  | nil => simp [lastOf, pure, Except.pure]
  | cons word words ih =>
      rw [List.foldlM_cons, lastOf_cons, lastOf_cons]
      cases word <;>
        simp [FlowLine.read, ih, FlowWord.interface?, FlowWord.workers?,
          bind, Except.bind]

theorem FlowLine.read_typed (words : List FlowWord) :
    words.foldlM FlowLine.read FlowLine.init =
      if .unknown ∈ words then .error .unknownInput
      else .ok (typed words) := by
  rw [foldlM_read]
  simp [init, typed]

theorem EncapLine.foldlM_read (words : List EncapWord) (line : EncapLine) :
    words.foldlM EncapLine.read line =
      if .unknown ∈ words then .error .unknownInput
      else .ok {
        swIfIndex := (lastOf EncapWord.interface? words).or line.swIfIndex
        enable := line.enable && !words.contains .disable } := by
  induction words generalizing line with
  | nil => simp [lastOf, pure, Except.pure]
  | cons word words ih =>
      rw [List.foldlM_cons, lastOf_cons]
      cases word <;>
        simp [EncapLine.read, ih, EncapWord.interface?, bind, Except.bind]

theorem EncapLine.read_typed (words : List EncapWord) :
    words.foldlM EncapLine.read EncapLine.init =
      if .unknown ∈ words then .error .unknownInput
      else .ok (typed words) := by
  rw [foldlM_read]
  simp [init, typed]

theorem foldlM_readOnOff (words : List OnOffWord) (seen : Option Bool) :
    words.foldlM readOnOff seen =
      if .unknown ∈ words then .error .unknownInput
      else .ok ((lastOf OnOffWord.value? words).or seen) := by
  induction words generalizing seen with
  | nil => simp [lastOf, pure, Except.pure]
  | cons word words ih =>
      rw [List.foldlM_cons, lastOf_cons]
      cases word <;>
        simp [readOnOff, ih, OnOffWord.value?, bind, Except.bind]

theorem innerChecksumWords_read {words : List OnOffWord}
    (h : .unknown ∉ words) (unread : List OnOffWord) (noChecksum : Bool) :
    l2tvppInnerChecksumWords (words ++ unread) noChecksum =
      l2tvppInnerChecksumWords unread
        (!(lastOf OnOffWord.value? words).getD (!noChecksum)) := by
  induction words generalizing noChecksum with
  | nil => simp [lastOf]
  | cons word words ih =>
      simp only [List.mem_cons, not_or] at h
      rw [lastOf_cons, List.cons_append]
      cases word with
      | on => simp [l2tvppInnerChecksumWords, ih h.2, OnOffWord.value?]
      | off => simp [l2tvppInnerChecksumWords, ih h.2, OnOffWord.value?]
      | unknown => simp at h

/-! ## Bitmaps -/

theorem testBit_clibBitmapSet (bitmap i j : Nat) (value : Bool) :
    (clibBitmapSet bitmap i value).testBit j =
      if j = i then value else bitmap.testBit j := by
  unfold clibBitmapSet
  by_cases heq : j = i
  · subst heq
    split
    · rename_i hsame
      simpa using hsame
    · rename_i hchanged
      cases value <;> simp_all [Nat.testBit_two_pow_self]
  · rw [if_neg heq]
    split
    · rfl
    · simp [Nat.testBit_two_pow_of_ne (Ne.symm heq)]

theorem mem_bitmapBits {bitmap i : Nat} :
    i ∈ bitmapBits bitmap ↔ bitmap.testBit i = true := by
  simp only [bitmapBits, List.mem_filter, List.mem_range, and_iff_right_iff_imp]
  intro h
  have hge := Nat.ge_two_pow_of_testBit h
  have hne : bitmap ≠ 0 := by
    rintro rfl
    simp at h
  exact Nat.lt_succ_of_le ((Nat.le_log2 hne).mpr hge)

theorem bitmapBits_sorted (bitmap : Nat) :
    (bitmapBits bitmap).Pairwise (· < ·) :=
  List.pairwise_lt_range.filter _

theorem workersExist_iff {threads : Threads} {bitmap : Nat} :
    workersExist threads bitmap = true ↔ bitmap ≠ 0 ∧
      ∀ i, bitmap.testBit i = true → i < threads.nWorkers.toNat := by
  by_cases hzero : bitmap = 0
  · simp [workersExist, bitmapLastSet, hzero]
  · have hlast : workersExist threads bitmap = true ↔
        bitmap.log2 < threads.nWorkers.toNat := by
      simp [workersExist, bitmapLastSet, hzero]
    rw [hlast]
    constructor
    · intro hlt
      refine ⟨hzero, ?_⟩
      intro i hi
      exact lt_of_le_of_lt
        ((Nat.le_log2 hzero).mpr (Nat.ge_two_pow_of_testBit hi)) hlt
    · rintro ⟨-, hall⟩
      exact hall _ (Nat.testBit_log2 hzero)

theorem not_workersExist {threads : Threads} {bitmap : Nat}
    (h : workersExist threads bitmap = false) :
    bitmap = 0 ∨
      ∃ i, bitmap.testBit i = true ∧ threads.nWorkers.toNat ≤ i := by
  by_contra hnot
  simp only [not_or, not_exists, not_and, Nat.not_le] at hnot
  have hexist := workersExist_iff.mpr hnot
  rw [h] at hexist
  cases hexist

/-! ## What is shown of an interface -/

theorem shown_isSome (ifd : FlowHandoffIf) :
    ifd.shown.isSome = ifd.enabled := by
  unfold FlowHandoffIf.shown
  cases ifd.enabled <;> rfl

theorem lt_length_of_shown {ifData : List FlowHandoffIf} {swIfIndex : Nat}
    {setting : FlowSetting}
    (h : (ifData.getD swIfIndex emptyIf).shown = some setting) :
    swIfIndex < ifData.length := by
  by_contra hge
  rw [List.getD_eq_default _ _ (Nat.le_of_not_lt hge)] at h
  cases h

theorem shown_of_settings {ifData moved : List FlowHandoffIf}
    (h : moved.map FlowHandoffIf.settings = ifData.map FlowHandoffIf.settings)
    (i : Nat) :
    (moved.getD i emptyIf).shown = (ifData.getD i emptyIf).shown := by
  have hshown : ∀ ifds : List FlowHandoffIf,
      ((ifds.map FlowHandoffIf.settings).getD i emptyIf).shown =
        (ifds.getD i emptyIf).shown := by
    intro ifds
    rw [List.getD_eq_getElem?_getD, List.getD_eq_getElem?_getD,
      List.getElem?_map]
    cases ifds[i]? with
    | none => rfl
    | some ifd => rfl
  rw [← hshown, h, hshown]

theorem FlowLine.length_setting (line : FlowLine) :
    line.setting.workers.length = clibBitmapCountSetBits line.bitmap := by
  unfold FlowLine.setting clibBitmapCountSetBits
  cases line.bitmap with
  | none => rfl
  | some bitmap => exact List.length_map _

theorem shown_configuredIf (line : FlowLine) :
    (configuredIf line.bitmap line.fastpath line.spray line.enable).shown =
      if line.enable then some line.setting else none := by
  cases henable : line.enable with
  | false => rfl
  | true =>
      unfold FlowLine.setting
      cases hbitmap : line.bitmap with
      | none => rfl
      | some bitmap => rfl

/-! ## What the commands do -/

section Flow

variable {threads : Threads} {hm hm' : HandoffMain} {swIfIndex : Nat}
  {workersBitmap : Option Nat} {fastpath spray enable : Bool}

/-- An accepted call stores the settings, unless there is nothing to disable. -/
theorem flowHandoff_stored
    (h : l2tvppFlowHandoffEnableDisable threads hm swIfIndex workersBitmap
      fastpath spray enable = .ok hm') :
    (hm.flowEnabled swIfIndex = false ∧ enable = false ∧
      hm'.ifData = validateIf hm.ifData swIfIndex) ∨
    hm'.ifData = (validateIf hm.ifData swIfIndex).set swIfIndex
      (configuredIf workersBitmap fastpath spray enable) := by
  obtain ⟨hifData, -, -, -⟩ := ethernetQueueMade_kept threads hm
  unfold l2tvppFlowHandoffEnableDisable at h
  split at h
  · split at h
    · cases h
    · simp only [hifData, flowEnabled_validate] at h
      split at h
      · rename_i hoff
        cases h
        obtain ⟨hsame, hdisable⟩ := hoff
        have henable : enable = false := by simpa using hdisable
        exact .inl ⟨hsame.trans henable, henable, rfl⟩
      · apply Or.inr
        cases enable with
        | false =>
            rw [if_neg (by simp)] at h
            cases h
            rfl
        | true =>
            rw [if_pos rfl, l2tvppSetHandoff_zero] at h
            cases h
            rfl
  · cases h

/-- An accepted call. -/
theorem flowHandoff_shown
    (h : l2tvppFlowHandoffEnableDisable threads hm swIfIndex workersBitmap
      fastpath spray enable = .ok hm') :
    threads.swInterface swIfIndex = some .hardware ∧
    (enable = true → workersBitmap.all (workersExist threads) = true) ∧
    ∀ i, (hm'.ifData.getD i emptyIf).shown =
      if i = swIfIndex then
        (configuredIf workersBitmap fastpath spray enable).shown
      else (hm.ifData.getD i emptyIf).shown := by
  refine ⟨?_, (flowHandoff_ifData h).1, ?_⟩
  · unfold l2tvppFlowHandoffEnableDisable at h
    split at h
    · assumption
    · cases h
  · intro i
    rcases flowHandoff_stored h with ⟨hoff, rfl, hifData⟩ | hifData
    · rw [hifData, flowEnabled_validate]
      split
      · rename_i heq
        subst heq
        have hoff : (hm.ifData.getD i emptyIf).enabled = false := hoff
        rw [FlowHandoffIf.shown, hoff]
        rfl
      · rfl
    · rw [hifData, getD_set]
      split <;> rfl

theorem flowHandoff_error {error : HandoffError}
    (h : l2tvppFlowHandoffEnableDisable threads hm swIfIndex workersBitmap
      fastpath spray enable = .error error) :
    (error = .invalidSwIfIndex ∧
      threads.swInterface swIfIndex ≠ some .hardware) ∨
    (error = .invalidWorker ∧ enable = true ∧
      workersBitmap.all (workersExist threads) = false) := by
  unfold l2tvppFlowHandoffEnableDisable at h
  split at h
  · split at h
    · rename_i hinvalid
      cases h
      rw [Bool.and_eq_true, Bool.not_eq_true'] at hinvalid
      exact .inr ⟨rfl, hinvalid⟩
    · dsimp only at h
      split at h <;> cases h
  · rename_i hhardware
    cases h
    exact .inl ⟨rfl, hhardware⟩

theorem l2tvppFlowHandoffCli_ok {words : Option (List FlowWord)}
    (h : l2tvppFlowHandoffCli threads hm words = .ok hm') :
    ∃ ws swIfIndex, words = some ws ∧ .unknown ∉ ws ∧
      (FlowLine.typed ws).swIfIndex = some swIfIndex ∧
      ((FlowLine.typed ws).enable = true →
        (FlowLine.typed ws).bitmap = none →
          (FlowLine.typed ws).fastpath = true) ∧
      ((FlowLine.typed ws).spray = true →
        2 ≤ (FlowLine.typed ws).setting.workers.length) ∧
      l2tvppFlowHandoffEnableDisable threads hm swIfIndex
        (FlowLine.typed ws).bitmap (FlowLine.typed ws).fastpath
        (FlowLine.typed ws).spray (FlowLine.typed ws).enable = .ok hm' := by
  cases words with
  | none => cases h
  | some ws =>
      obtain ⟨line, hline, h⟩ := ok_of_bind h
      rw [FlowLine.read_typed] at hline
      split at hline
      · cases hline
      · rename_i hread
        cases hline
        split at h
        · cases h
        · rename_i swIfIndex hinterface
          split at h
          · cases h
          · split at h
            · cases h
            · rename_i htarget hspray
              refine ⟨ws, swIfIndex, rfl, hread, hinterface, ?_, ?_,
                ok_of_mapError h⟩
              · intro hon hbitmap
                simpa [hon, hbitmap] using htarget
              · intro hon
                rw [FlowLine.length_setting]
                rw [hon, Bool.true_and, decide_eq_true_eq] at hspray
                exact Nat.le_of_not_lt hspray

end Flow

section Other

variable {threads : Threads} {s s' : Switches}

theorem session_setHandoff (hm : HandoffMain) (enable : U8) :
    (l2tvppSetHandoff hm enable).handoffEnabled = (enable != 0) ∧
      (l2tvppSetHandoff hm enable).ifData = hm.ifData := by
  simp only [l2tvppSetHandoff]
  split
  · rename_i hsame
    exact ⟨hsame.symm, rfl⟩
  · exact ⟨rfl, rfl⟩

theorem encapFastpath_error {swIfIndex : Nat} {enable : Bool}
    {error : HandoffError}
    (h : l2tvppEncapFastpathEnableDisable threads s swIfIndex enable =
      .error error) :
    error = .invalidSwIfIndex ∧
      threads.swInterface swIfIndex ≠ some .hardware := by
  unfold l2tvppEncapFastpathEnableDisable at h
  split at h
  · split at h <;> cases h
  · rename_i hhardware
    cases h
    exact ⟨rfl, hhardware⟩

theorem l2tvppEncapFastpathCli_ok {words : Option (List EncapWord)}
    {s' : Switches} (h : l2tvppEncapFastpathCli threads s words = .ok s') :
    ∃ swIfIndex enable,
      l2tvppEncapFastpathEnableDisable threads s swIfIndex enable = .ok s' := by
  cases words with
  | none => cases h
  | some words =>
      obtain ⟨line, -, h⟩ := ok_of_bind h
      split at h
      · cases h
      · exact ⟨_, _, ok_of_mapError h⟩

theorem l2tvppHandoffCli_ok {words : Option (List OnOffWord)}
    {hm hm' : HandoffMain} (h : l2tvppHandoffCli hm words = .ok hm') :
    hm' = hm ∨ ∃ enable, hm' = l2tvppSetHandoff hm enable := by
  cases words with
  | none =>
      cases h
      exact .inl rfl
  | some words =>
      obtain ⟨seen, -, h⟩ := ok_of_bind h
      cases seen with
      | none =>
          cases h
          exact .inl rfl
      | some enable =>
          cases h
          exact .inr ⟨_, rfl⟩

end Other

end L2tvpp.Node
