import Mathlib.Data.List.GetD
import L2tvpp.Lib.Run
import L2tvpp.Node.FlowHandoff

/-!
# Switching the handoffs

The session handoff is a matter of which node udp/1701 is registered to, the
flow handoff of a feature on each interface.  Enabling the second switches the
first off; nothing keeps the first off afterwards.
-/

namespace L2tvpp.Node

open L2tvpp.Lib
open L2tvpp.Plugin

/-! ## The settings -/

/-- The nodes of the plugin that udp/1701 is registered to. -/
inductive UdpNode where
  | l2tvppInput
  | l2tvppHandoff
  deriving DecidableEq, Repr

inductive SwInterfaceType where
  | hardware
  | sub
  | p2p
  | pipe
  deriving DecidableEq, Repr

inductive HandoffError where
  | invalidSwIfIndex
  | invalidWorker
  deriving DecidableEq, Repr

/-- What the handoff commands find in VPP. -/
structure Threads where
  nWorkers : U32
  nThreads : U32
  /-- Nothing for a free index. -/
  swInterface : Nat → Option SwInterfaceType

/-- The settings of both handoffs, and the depths of the queues made so far. -/
structure HandoffMain where
  handoffEnabled : Bool
  udpNode : UdpNode
  handoffQueueNelts : U32
  inputQueue : Option U32
  ethernetQueue : Option U32
  ifData : List FlowHandoffIf
  /-- The interfaces whose `device-input` arc has `l2tvpp-flow-handoff`. -/
  feature : Nat → Bool

def l2tvppHandoffQueueNeltsDefault : U32 := 64

/-- After `l2tvpp_init` and `l2tvpp_config`. -/
def HandoffMain.init (handoffQueueNelts : U32) : HandoffMain where
  handoffEnabled := false
  udpNode := .l2tvppInput
  handoffQueueNelts := handoffQueueNelts
  inputQueue := none
  ethernetQueue := none
  ifData := []
  feature _ := false

section Control

variable (threads : Threads)

def maxLog2 (n : U32) : Nat :=
  if n.toNat > 2 ^ n.toNat.log2 then n.toNat.log2 + 1 else n.toNat.log2

/-- The depth, made legal, and stored for the next call. -/
def l2tvppHandoffQueueNelts (hm : HandoffMain) : U32 × HandoffMain :=
  let minNelts := 8 + 1 + threads.nThreads
  let n := if hm.handoffQueueNelts < minNelts then minNelts
    else hm.handoffQueueNelts
  -- the machine takes a shift count modulo 32
  let n := if isPow2 n.toNat then n else 1 <<< (maxLog2 n % 32)
  (n, { hm with handoffQueueNelts := n })

def l2tvppSetHandoff (hm : HandoffMain) (enable : U8) : HandoffMain :=
  let enable := enable != 0
  if enable = hm.handoffEnabled then hm
  else { hm with
    udpNode := if enable then .l2tvppHandoff else .l2tvppInput
    handoffEnabled := enable }

def l2tvppHandoffDefault (hm : HandoffMain) : HandoffMain :=
  let (nelts, hm) := l2tvppHandoffQueueNelts threads hm
  let hm := { hm with inputQueue := some nelts }
  if threads.nWorkers > 1 then
    { hm with udpNode := .l2tvppHandoff, handoffEnabled := true }
  else hm

/-- The last set bit; none for an empty bitmap, where the source has `~0`. -/
def bitmapLastSet (bitmap : Nat) : Option Nat :=
  if bitmap = 0 then none else some bitmap.log2

def bitmapBits (bitmap : Nat) : List Nat :=
  (List.range (bitmap.log2 + 1)).filter fun i => bitmap.testBit i

/-- A list of workers is valid when its last worker exists. -/
def workersExist (bitmap : Nat) : Bool :=
  match bitmapLastSet bitmap with
  | none => false
  | some last => last < threads.nWorkers.toNat

def emptyIf : FlowHandoffIf := ⟨[], 0, false, false, false⟩

/-- `vec_validate`: the new elements are zero. -/
def validateIf (ifData : List FlowHandoffIf) (swIfIndex : Nat) :
    List FlowHandoffIf :=
  ifData ++ List.replicate (swIfIndex + 1 - ifData.length) emptyIf

def configuredIf (workersBitmap : Option Nat) (fastpath spray enable : Bool) :
    FlowHandoffIf where
  workers :=
    -- workers are the threads from 1 on
    if enable then
      (workersBitmap.elim [] bitmapBits).map fun i => BitVec.ofNat 16 (1 + i)
    else []
  rr := 0
  enabled := enable
  fastpath := enable && fastpath
  spray := enable && spray

/-- The queue to `ethernet-input` is made by the first command that needs it. -/
def ethernetQueueMade (hm : HandoffMain) : HandoffMain :=
  match hm.ethernetQueue with
  | some _ => hm
  | none =>
      let (nelts, hm) := l2tvppHandoffQueueNelts threads hm
      { hm with ethernetQueue := some nelts }

def l2tvppFlowHandoffEnableDisable (hm : HandoffMain) (swIfIndex : Nat)
    (workersBitmap : Option Nat) (fastpath spray enable : Bool) :
    Except HandoffError HandoffMain :=
  match threads.swInterface swIfIndex with
  | some .hardware =>
      if enable && !workersBitmap.all (workersExist threads) then
        .error .invalidWorker
      else
        let hm := ethernetQueueMade threads hm
        let hm := { hm with ifData := validateIf hm.ifData swIfIndex }
        let ifd := hm.ifData.getD swIfIndex emptyIf
        if ifd.enabled = enable ∧ !enable then .ok hm
        else
          let hm := { hm with
            ifData := hm.ifData.set swIfIndex
              (configuredIf workersBitmap fastpath spray enable)
            feature :=
              if ifd.enabled ≠ enable then
                Function.update hm.feature swIfIndex enable
              else hm.feature }
          -- never hand a packet off twice
          .ok (if enable then l2tvppSetHandoff hm 0 else hm)
  | _ => .error .invalidSwIfIndex

end Control

/-! ## Commands -/

inductive HandoffCommand where
  | handoffDefault
  | setHandoff (enable : U8)
  | flowHandoff (swIfIndex : Nat) (workersBitmap : Option Nat)
      (fastpath spray enable : Bool)
  deriving DecidableEq, Repr

/-- A rejected command changes nothing. -/
def handoffStep (threads : Threads) (hm : HandoffMain) :
    HandoffCommand → HandoffMain
  | .handoffDefault => l2tvppHandoffDefault threads hm
  | .setHandoff enable => l2tvppSetHandoff hm enable
  | .flowHandoff swIfIndex workersBitmap fastpath spray enable =>
      match l2tvppFlowHandoffEnableDisable threads hm swIfIndex workersBitmap
        fastpath spray enable with
      | .error _ => hm
      | .ok hm' => hm'

def HandoffMain.flowEnabled (hm : HandoffMain) (swIfIndex : Nat) : Bool :=
  (hm.ifData.getD swIfIndex emptyIf).enabled

inductive GraphNode where
  | flowHandoff
  | handoff
  | input
  deriving DecidableEq, Repr

/-- The plugin's nodes on the way of an L2TP data packet received on an
interface; `fast` if the flow classifier takes it for the fast path. -/
def l2tpPath (hm : HandoffMain) (swIfIndex : Nat) (fast : Bool) :
    List GraphNode :=
  (if hm.feature swIfIndex then [.flowHandoff] else []) ++
    (if hm.feature swIfIndex && fast then [.input]
    else
      match hm.udpNode with
      | .l2tvppInput => [.input]
      | .l2tvppHandoff => [.handoff, .input])

/-! ## The two handoffs exclude each other -/

/-- The feature is on where the flow handoff is, the registration follows
`handoff_enabled`, and not both handoffs are on. -/
structure HandoffInv (hm : HandoffMain) : Prop where
  feature : ∀ i, hm.feature i = hm.flowEnabled i
  registered : hm.udpNode =
    if hm.handoffEnabled then .l2tvppHandoff else .l2tvppInput
  exclusive : ∀ i, hm.flowEnabled i = true → hm.handoffEnabled = false

section Invariant

variable {threads : Threads} {hm : HandoffMain}

theorem flowEnabled_validate (ifData : List FlowHandoffIf) (swIfIndex i : Nat) :
    (validateIf ifData swIfIndex).getD i emptyIf = ifData.getD i emptyIf := by
  unfold validateIf
  rcases Nat.lt_or_ge i ifData.length with hlt | hge
  · exact List.getD_append _ _ _ _ hlt
  · rw [List.getD_append_right _ _ _ _ hge, List.getD_eq_default _ _ hge,
      List.getD_eq_getElem?_getD]
    exact List.getElem?_getD_replicate_default_eq _ _ _

theorem getD_set (ifData : List FlowHandoffIf) {swIfIndex : Nat}
    (ifd : FlowHandoffIf) (i : Nat) :
    ((validateIf ifData swIfIndex).set swIfIndex ifd).getD i emptyIf =
      if i = swIfIndex then ifd else ifData.getD i emptyIf := by
  have hlen : swIfIndex < (validateIf ifData swIfIndex).length := by
    simp [validateIf]
    omega
  rw [← flowEnabled_validate ifData swIfIndex i, List.getD_eq_getElem?_getD,
    List.getD_eq_getElem?_getD]
  by_cases h : i = swIfIndex
  · subst h
    rw [List.getElem?_set_self hlen, if_pos rfl]
    rfl
  · rw [List.getElem?_set_ne (Ne.symm h), if_neg h]

theorem ethernetQueueMade_kept (threads : Threads) (hm : HandoffMain) :
    (ethernetQueueMade threads hm).ifData = hm.ifData ∧
      (ethernetQueueMade threads hm).feature = hm.feature ∧
      (ethernetQueueMade threads hm).handoffEnabled = hm.handoffEnabled ∧
      (ethernetQueueMade threads hm).udpNode = hm.udpNode := by
  unfold ethernetQueueMade
  split
  · exact ⟨rfl, rfl, rfl, rfl⟩
  · exact ⟨rfl, rfl, rfl, rfl⟩

theorem l2tvppSetHandoff_zero (hm : HandoffMain) :
    l2tvppSetHandoff hm 0 =
      { hm with
        udpNode := if hm.handoffEnabled = true then .l2tvppInput else hm.udpNode
        handoffEnabled := false } := by
  obtain ⟨handoffEnabled, udpNode, nelts, inputQueue, ethernetQueue, ifData,
    feature⟩ := hm
  cases handoffEnabled <;> rfl

theorem flowEnabled_configured (hm : HandoffMain) (swIfIndex i : Nat)
    (workersBitmap : Option Nat) (fastpath spray enable : Bool) :
    (((validateIf hm.ifData swIfIndex).set swIfIndex
      (configuredIf workersBitmap fastpath spray enable)).getD i
        emptyIf).enabled =
      if i = swIfIndex then enable else hm.flowEnabled i := by
  rw [getD_set]
  split
  · rfl
  · rfl

/-- The feature is switched only where the state changes. -/
theorem feature_switched (hm : HandoffMain) (swIfIndex i : Nat)
    (enable : Bool) :
    (if hm.flowEnabled swIfIndex ≠ enable then
      Function.update hm.feature swIfIndex enable else hm.feature) i =
      if i = swIfIndex ∧ hm.flowEnabled i ≠ enable then enable
      else hm.feature i := by
  by_cases heq : i = swIfIndex
  · subst heq
    by_cases hne : hm.flowEnabled i ≠ enable
    · simp [hne]
    · simp [hne]
  · split
    · simp [heq]
    · simp [heq]

/-- Everything an accepted command does to the two handoffs. -/
theorem flowHandoff_ok {swIfIndex : Nat} {workersBitmap : Option Nat}
    {fastpath spray enable : Bool} {hm' : HandoffMain}
    (h : l2tvppFlowHandoffEnableDisable threads hm swIfIndex workersBitmap
      fastpath spray enable = .ok hm') :
    (∀ i, hm'.flowEnabled i =
      if i = swIfIndex then enable else hm.flowEnabled i) ∧
    (∀ i, hm'.feature i =
      if i = swIfIndex ∧ hm.flowEnabled i ≠ enable then enable
      else hm.feature i) ∧
    hm'.handoffEnabled = (!enable && hm.handoffEnabled) ∧
    hm'.udpNode =
      (if enable = true ∧ hm.handoffEnabled = true then .l2tvppInput
      else hm.udpNode) := by
  unfold l2tvppFlowHandoffEnableDisable at h
  split at h
  · split at h
    · cases h
    · obtain ⟨hifData, hfeature, henabled, hnode⟩ :=
        ethernetQueueMade_kept threads hm
      simp only [hifData, flowEnabled_validate] at h
      have hold : (hm.ifData.getD swIfIndex emptyIf).enabled =
          hm.flowEnabled swIfIndex := rfl
      rw [hold] at h
      split at h
      · -- disabled already
        rename_i hsame
        obtain ⟨hsame, hoff⟩ := hsame
        have henable : enable = false := by simpa using hoff
        subst henable
        cases h
        refine ⟨?_, ?_, ?_, ?_⟩
        · intro i
          simp only [HandoffMain.flowEnabled, flowEnabled_validate]
          split
          · rename_i heq
            rw [heq]
            exact hsame
          · rfl
        · intro i
          rw [if_neg]
          · exact congrFun hfeature i
          · rintro ⟨rfl, hne⟩
            exact hne hsame
        · simpa using henabled
        · simpa using hnode
      · have hset := flowEnabled_configured hm swIfIndex
        cases enable with
        | false =>
            rw [if_neg (by simp)] at h
            cases h
            refine ⟨fun i => hset i .., ?_, by simpa using henabled,
              by simpa using hnode⟩
            intro i
            simp only [hfeature]
            exact feature_switched hm swIfIndex i false
        | true =>
            rw [if_pos rfl, l2tvppSetHandoff_zero] at h
            cases h
            refine ⟨fun i => hset i .., ?_, rfl, ?_⟩
            · intro i
              simp only [hfeature]
              exact feature_switched hm swIfIndex i true
            · simp only [henabled, hnode, true_and]
  · cases h

theorem HandoffInv.flowHandoff (h : HandoffInv hm) {swIfIndex : Nat}
    {workersBitmap : Option Nat} {fastpath spray enable : Bool}
    {hm' : HandoffMain}
    (hok : l2tvppFlowHandoffEnableDisable threads hm swIfIndex workersBitmap
      fastpath spray enable = .ok hm') : HandoffInv hm' := by
  obtain ⟨hflow, hfeature, henabled, hnode⟩ := flowHandoff_ok hok
  refine ⟨?_, ?_, ?_⟩
  · intro i
    rw [hflow, hfeature]
    by_cases heq : i = swIfIndex
    · by_cases hne : hm.flowEnabled i ≠ enable
      · rw [if_pos ⟨heq, hne⟩, if_pos heq]
      · rw [if_neg (fun hboth => hne hboth.2), if_pos heq, h.feature]
        exact not_not.mp hne
    · rw [if_neg (fun hboth => heq hboth.1), if_neg heq, h.feature]
  · rw [hnode, henabled, h.registered]
    cases enable <;> cases hm.handoffEnabled <;> rfl
  · intro i hi
    rw [hflow] at hi
    rw [henabled]
    cases enable with
    | true => rfl
    | false =>
        split at hi
        · cases hi
        · exact h.exclusive i hi

/-- The session handoff is not switched on while a flow handoff is enabled. -/
def sessionHandoffAlone (threads : Threads) (hm : HandoffMain) :
    HandoffCommand → Bool
  | .handoffDefault =>
      threads.nWorkers ≤ 1 || hm.ifData.all fun ifd => !ifd.enabled
  | .setHandoff enable =>
      enable == 0 || hm.ifData.all fun ifd => !ifd.enabled
  | .flowHandoff .. => true

theorem flowEnabled_of_all (h : (hm.ifData.all fun ifd => !ifd.enabled) = true)
    (i : Nat) : hm.flowEnabled i = false := by
  unfold HandoffMain.flowEnabled
  rw [List.getD_eq_getElem?_getD]
  cases hi : hm.ifData[i]? with
  | none => rfl
  | some ifd =>
      have hall := List.all_eq_true.mp h ifd (List.mem_of_getElem? hi)
      simpa using hall

theorem handoffInv_step {command : HandoffCommand} (h : HandoffInv hm)
    (hguard : sessionHandoffAlone threads hm command = true) :
    HandoffInv (handoffStep threads hm command) := by
  cases command with
  | handoffDefault =>
      simp only [sessionHandoffAlone, Bool.or_eq_true, decide_eq_true_eq]
        at hguard
      simp only [handoffStep, l2tvppHandoffDefault]
      split
      · rename_i hworkers
        have hoff := flowEnabled_of_all
          (hguard.resolve_left (by simpa using hworkers))
        refine ⟨h.feature, rfl, ?_⟩
        intro i hi
        exact absurd (show hm.flowEnabled i = true from hi) (by simp [hoff i])
      · exact ⟨h.feature, h.registered, h.exclusive⟩
  | setHandoff enable =>
      simp only [sessionHandoffAlone, Bool.or_eq_true, beq_iff_eq] at hguard
      simp only [handoffStep, l2tvppSetHandoff]
      split
      · exact h
      · refine ⟨h.feature, rfl, ?_⟩
        intro i hi
        rcases hguard with rfl | hoff
        · rfl
        · exact absurd (show hm.flowEnabled i = true from hi)
            (by simp [flowEnabled_of_all hoff i])
  | flowHandoff swIfIndex workersBitmap fastpath spray enable =>
      simp only [handoffStep]
      split
      · exact h
      · rename_i hm' hok
        exact h.flowHandoff hok

end Invariant

/-- In every run in which the session handoff is never switched on while a flow
handoff is enabled, the session handoff is off whenever a flow handoff is on, and
no packet meets both. -/
theorem handoffs_exclusive (threads : Threads) (handoffQueueNelts : U32)
    (commands : List HandoffCommand)
    (hguard : Guarded (handoffStep threads) (sessionHandoffAlone threads)
      (HandoffMain.init handoffQueueNelts) commands) :
    let hm := run (handoffStep threads) (HandoffMain.init handoffQueueNelts)
      commands
    (∀ swIfIndex, hm.flowEnabled swIfIndex = true →
      hm.handoffEnabled = false ∧ hm.udpNode = .l2tvppInput) ∧
    ∀ swIfIndex fast,
      ¬ (.flowHandoff ∈ l2tpPath hm swIfIndex fast ∧
        .handoff ∈ l2tpPath hm swIfIndex fast) := by
  intro hm
  have hinv : HandoffInv hm := by
    refine run_invariant_of_guarded (handoffStep threads) HandoffInv ?_ ?_ hguard
    · intro hm command _ hcommand h
      exact handoffInv_step h hcommand
    · exact ⟨fun _ => rfl, rfl, fun _ _ => rfl⟩
  have hoff : ∀ swIfIndex, hm.flowEnabled swIfIndex = true →
      hm.handoffEnabled = false ∧ hm.udpNode = .l2tvppInput := by
    intro swIfIndex hon
    have hdisabled := hinv.exclusive swIfIndex hon
    refine ⟨hdisabled, ?_⟩
    rw [hinv.registered, hdisabled]
    rfl
  refine ⟨hoff, ?_⟩
  rintro swIfIndex fast ⟨hflow, hhandoff⟩
  cases hfeature : hm.feature swIfIndex with
  | false =>
      rw [l2tpPath, hfeature] at hflow
      cases hnode : hm.udpNode <;> simp [hnode] at hflow
  | true =>
      have hon := hinv.feature swIfIndex
      rw [hfeature] at hon
      rw [l2tpPath, (hoff swIfIndex hon.symm).2] at hhandoff
      cases fast <;> simp [hfeature] at hhandoff

def threeWorkers : Threads := ⟨3, 3, fun _ => some .hardware⟩

def flowHandoffOn : List HandoffCommand :=
  [.handoffDefault, .flowHandoff 1 (some 6) true false true]

theorem handoffs_exclusive_flowHandoffOn :
    let hm := run (handoffStep threeWorkers) (HandoffMain.init 64) flowHandoffOn
    hm.flowEnabled 1 = true ∧ hm.handoffEnabled = false ∧
      hm.udpNode = .l2tvppInput := by
  intro hm
  have hon : hm.flowEnabled 1 = true := by decide
  exact ⟨hon, (handoffs_exclusive threeWorkers 64 flowHandoffOn
    (by decide)).1 1 hon⟩

/-- `l2tvpp handoff on` after the flow handoff was enabled: a packet is handed
off twice. -/
theorem handoffs_both_on :
    let hm := run (handoffStep threeWorkers) (HandoffMain.init 64)
      (flowHandoffOn ++ [.setHandoff 1])
    hm.flowEnabled 1 = true ∧ hm.handoffEnabled = true ∧
      hm.udpNode = .l2tvppHandoff ∧
      l2tpPath hm 1 false = [.flowHandoff, .handoff, .input] := by
  decide

end L2tvpp.Node
