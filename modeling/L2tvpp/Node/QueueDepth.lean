import L2tvpp.Node.HandoffControl

/-!
# The depth of the handoff queues

`startup.conf` says how many frames a handoff queue holds for each target.
`l2tvpp_handoff_queue_nelts` makes the number legal for VPP and stores it, and
the two queues ask for it at different times.
-/

namespace L2tvpp.Node

open L2tvpp.Lib

/-! ## startup.conf -/

/-- What one round of the loop of `l2tvpp_config` finds. -/
inductive ConfigItem where
  | handoffQueueNelts (n : U32)
  | unknown
  deriving DecidableEq, Repr

inductive ConfigError where
  | zeroNelts
  | unknownInput
  deriving DecidableEq, Repr

def configItem (hm : HandoffMain) :
    ConfigItem → Except ConfigError HandoffMain
  | .handoffQueueNelts n =>
      if n = 0 then .error .zeroNelts
      else .ok { hm with handoffQueueNelts := n }
  | .unknown => .error .unknownInput

def l2tvppConfig (hm : HandoffMain) (items : List ConfigItem) :
    Except ConfigError HandoffMain :=
  items.foldlM configItem hm

def ConfigItem.nelts? : ConfigItem → Option U32
  | .handoffQueueNelts n => some n
  | .unknown => none

/-- The last depth that a list of items gives, if any. -/
def configuredNelts (items : List ConfigItem) : U32 :=
  (items.filterMap ConfigItem.nelts?).getLastD l2tvppHandoffQueueNeltsDefault

section Config

variable {items : List ConfigItem} {hm hm' : HandoffMain}

theorem configItem_ok {item : ConfigItem} (h : configItem hm item = .ok hm') :
    hm' = { hm with
      handoffQueueNelts := item.nelts?.getD hm.handoffQueueNelts } := by
  cases item with
  | unknown => cases h
  | handoffQueueNelts n =>
      simp only [configItem] at h
      split at h
      · cases h
      · cases h
        rfl

theorem l2tvppConfig_nelts
    (h : l2tvppConfig (HandoffMain.init l2tvppHandoffQueueNeltsDefault) items =
      .ok hm) : hm.handoffQueueNelts = configuredNelts items := by
  rw [configuredNelts, List.getLastD_eq_getLast?]
  refine foldlM_lastOf HandoffMain.handoffQueueNelts ?_ h
  intro hm item hm' hitem
  rw [configItem_ok hitem]

/-- The queues are made after `startup.conf` is read. -/
theorem l2tvppConfig_queues (h : l2tvppConfig hm items = .ok hm') :
    hm'.inputQueue = hm.inputQueue ∧ hm'.ethernetQueue = hm.ethernetQueue := by
  have hkept := foldlM_kept (fun hm => (hm.inputQueue, hm.ethernetQueue)) ?_ h
  · exact Prod.mk.inj hkept
  · intro hm item hm' hitem
    rw [configItem_ok hitem]

end Config

/-! ## Rounding up -/

theorem le_two_pow_maxLog2 (n : U32) : n.toNat ≤ 2 ^ maxLog2 n := by
  have hlt : n.toNat < 2 ^ (n.toNat.log2 + 1) := Nat.lt_log2_self
  unfold maxLog2
  split
  · exact hlt.le
  · omega

theorem maxLog2_le {n : U32} {k : Nat} (hpos : 0 < n.toNat)
    (h : n.toNat ≤ 2 ^ k) : maxLog2 n ≤ k := by
  have hlog := Nat.log2_self_le (Nat.ne_of_gt hpos)
  unfold maxLog2
  split
  · rename_i hgt
    exact (Nat.pow_lt_pow_iff_right (by decide)).mp (hgt.trans_le h)
  · exact (Nat.pow_le_pow_iff_right (by decide)).mp (hlog.trans h)

/-- The source's rounding: a power of two stays, anything else goes up. -/
def roundPow2 (n : U32) : U32 :=
  if isPow2 n.toNat then n else 1 <<< (maxLog2 n % 32)

theorem toNat_one_shiftLeft {k : Nat} (h : k < 32) :
    ((1 <<< k : Nat) : U32).toNat = 2 ^ k := by
  have hlt : 2 ^ k < 2 ^ 32 := Nat.pow_lt_pow_right (by decide) h
  rw [BitVec.natCast_eq_ofNat, BitVec.toNat_ofNat, Nat.shiftLeft_eq,
    Nat.one_mul, Nat.mod_eq_of_lt hlt]

theorem roundPow2_spec {n : U32} (hpos : 0 < n.toNat)
    (hmax : n.toNat ≤ 2 ^ 31) :
    (roundPow2 n).toNat.isPowerOfTwo ∧ n.toNat ≤ (roundPow2 n).toNat := by
  unfold roundPow2
  split
  · rename_i hpow
    exact ⟨(isPow2_iff hpos).mp hpow, le_rfl⟩
  · have hlog : maxLog2 n < 32 := by
      have hle := maxLog2_le hpos hmax
      omega
    rw [Nat.mod_eq_of_lt hlog, toNat_one_shiftLeft hlog]
    exact ⟨⟨_, rfl⟩, le_two_pow_maxLog2 n⟩

theorem roundPow2_of_isPowerOfTwo {n : U32} (h : n.toNat.isPowerOfTwo) :
    roundPow2 n = n :=
  if_pos ((isPow2_iff (Nat.pos_of_isPowerOfTwo h)).mpr h)

/-- Above `2 ^ 31` the shift count reaches the word size. -/
theorem roundPow2_of_gt {n : U32} (h : 2 ^ 31 < n.toNat) :
    roundPow2 n = 1 := by
  have hlt : n.toNat < 2 ^ 32 := n.isLt
  have hnot : ¬ isPow2 n.toNat = true := by
    rw [isPow2_iff (by omega)]
    rintro ⟨k, hk⟩
    rw [hk] at h hlt
    have hlow := (Nat.pow_lt_pow_iff_right (by decide)).mp h
    have hhigh := (Nat.pow_lt_pow_iff_right (by decide)).mp hlt
    omega
  have hlog : maxLog2 n = 32 := by
    refine le_antisymm (maxLog2_le (by omega) hlt.le) ?_
    have hle := le_two_pow_maxLog2 n
    exact (Nat.pow_lt_pow_iff_right (by decide)).mp (h.trans_le hle)
  rw [roundPow2, if_neg hnot, hlog]
  rfl

/-! ## The depth -/

section Depth

variable (threads : Threads)

/-- The least depth that `vlib_frame_queue_alloc` takes. -/
def minNelts : U32 := 8 + 1 + threads.nThreads

theorem queueNelts_eq (hm : HandoffMain) :
    l2tvppHandoffQueueNelts threads hm =
      let n := roundPow2 (if hm.handoffQueueNelts < minNelts threads
        then minNelts threads else hm.handoffQueueNelts)
      (n, { hm with handoffQueueNelts := n }) := rfl

variable {threads} (hthreads : 9 + threads.nThreads.toNat < 2 ^ 31)

include hthreads

theorem toNat_minNelts :
    (minNelts threads).toNat = 9 + threads.nThreads.toNat := by
  have hadd : (minNelts threads).toNat =
      (9 + threads.nThreads.toNat) % 2 ^ 32 := BitVec.toNat_add ..
  rw [hadd, Nat.mod_eq_of_lt (by omega)]

theorem queueNelts_legal {hm : HandoffMain}
    (hmax : hm.handoffQueueNelts.toNat ≤ 2 ^ 31) :
    let depth := (l2tvppHandoffQueueNelts threads hm).1
    depth.toNat.isPowerOfTwo ∧ 9 + threads.nThreads.toNat ≤ depth.toNat ∧
      hm.handoffQueueNelts.toNat ≤ depth.toNat := by
  have hmin := toNat_minNelts hthreads
  simp only [queueNelts_eq]
  split
  · rename_i hlow
    have hround := roundPow2_spec (n := minNelts threads) (by omega) (by omega)
    have hlow : hm.handoffQueueNelts.toNat < (minNelts threads).toNat := hlow
    exact ⟨hround.1, by omega, by omega⟩
  · rename_i hlow
    have hlow : ¬ hm.handoffQueueNelts.toNat < (minNelts threads).toNat := hlow
    have hround := roundPow2_spec (n := hm.handoffQueueNelts) (by omega) hmax
    exact ⟨hround.1, by omega, hround.2⟩

/-- From the least depth on only the rounding is left. -/
theorem queueNelts_of_le {hm : HandoffMain}
    (hle : 9 + threads.nThreads.toNat ≤ hm.handoffQueueNelts.toNat) :
    (l2tvppHandoffQueueNelts threads hm).1 =
      roundPow2 hm.handoffQueueNelts := by
  have hmin := toNat_minNelts hthreads
  have hnot : ¬ hm.handoffQueueNelts < minNelts threads := by
    intro hlt
    have hlt : hm.handoffQueueNelts.toNat < (minNelts threads).toNat := hlt
    omega
  simp only [queueNelts_eq, if_neg hnot]

/-- A legal depth is returned as it is. -/
theorem queueNelts_of_legal {hm : HandoffMain}
    (hpow : hm.handoffQueueNelts.toNat.isPowerOfTwo)
    (hle : 9 + threads.nThreads.toNat ≤ hm.handoffQueueNelts.toNat) :
    (l2tvppHandoffQueueNelts threads hm).1 = hm.handoffQueueNelts := by
  rw [queueNelts_of_le hthreads hle]
  exact roundPow2_of_isPowerOfTwo hpow

theorem queueNelts_of_gt {hm : HandoffMain}
    (hgt : 2 ^ 31 < hm.handoffQueueNelts.toNat) :
    (l2tvppHandoffQueueNelts threads hm).1 = 1 := by
  rw [queueNelts_of_le hthreads (by omega)]
  exact roundPow2_of_gt hgt

end Depth

/-! ## Both queues -/

/-- A caller that asks in `hm` is given `depth`, and no queue was made with
another one. -/
structure DepthInv (threads : Threads) (depth : U32) (hm : HandoffMain) :
    Prop where
  asked : (l2tvppHandoffQueueNelts threads hm).1 = depth
  inputQueue : ∀ n, hm.inputQueue = some n → n = depth
  ethernetQueue : ∀ n, hm.ethernetQueue = some n → n = depth

namespace DepthInv

variable {threads : Threads} {depth : U32} {hm : HandoffMain}

/-- The depth in `hm` is asked for only through its configured value. -/
theorem of_kept (h : DepthInv threads depth hm) {hm' : HandoffMain}
    (hnelts : hm'.handoffQueueNelts = hm.handoffQueueNelts)
    (hinput : hm'.inputQueue = hm.inputQueue)
    (hethernet : hm'.ethernetQueue = hm.ethernetQueue) :
    DepthInv threads depth hm' where
  asked := by
    rw [← h.asked, queueNelts_eq, queueNelts_eq, hnelts]
  inputQueue := by
    rw [hinput]
    exact h.inputQueue
  ethernetQueue := by
    rw [hethernet]
    exact h.ethernetQueue

theorem setHandoff (h : DepthInv threads depth hm) (enable : U8) :
    DepthInv threads depth (l2tvppSetHandoff hm enable) := by
  unfold l2tvppSetHandoff
  dsimp only
  split
  · exact h
  · exact h.of_kept rfl rfl rfl

variable (hthreads : 9 + threads.nThreads.toNat < 2 ^ 31)
  (hpow : depth.toNat.isPowerOfTwo)
  (hle : 9 + threads.nThreads.toNat ≤ depth.toNat)

include hthreads hpow hle

/-- What a caller is given is stored, and given to the next one. -/
theorem queueNelts (h : DepthInv threads depth hm) :
    DepthInv threads depth (l2tvppHandoffQueueNelts threads hm).2 where
  asked := by
    have hstored : (l2tvppHandoffQueueNelts threads hm).2.handoffQueueNelts =
        depth := h.asked
    rw [queueNelts_of_legal hthreads (by rw [hstored]; exact hpow)
      (by rw [hstored]; exact hle), hstored]
  inputQueue := h.inputQueue
  ethernetQueue := h.ethernetQueue

theorem handoffDefault (h : DepthInv threads depth hm) :
    DepthInv threads depth (l2tvppHandoffDefault threads hm) := by
  have hasked := h.asked
  have hmade : DepthInv threads depth
      { (l2tvppHandoffQueueNelts threads hm).2 with
        inputQueue := some (l2tvppHandoffQueueNelts threads hm).1 } := by
    refine ⟨(h.queueNelts hthreads hpow hle).asked, ?_, h.ethernetQueue⟩
    intro n hn
    cases hn
    exact hasked
  unfold l2tvppHandoffDefault
  dsimp only
  split
  · exact hmade.of_kept rfl rfl rfl
  · exact hmade

theorem ethernetQueueMade (h : DepthInv threads depth hm) :
    DepthInv threads depth (Node.ethernetQueueMade threads hm) := by
  unfold Node.ethernetQueueMade
  split
  · exact h
  · refine ⟨(h.queueNelts hthreads hpow hle).asked, h.inputQueue, ?_⟩
    intro n hn
    cases hn
    exact h.asked

theorem flowHandoff (h : DepthInv threads depth hm) {swIfIndex : Nat}
    {workersBitmap : Option Nat} {fastpath spray enable : Bool}
    {hm' : HandoffMain}
    (hok : l2tvppFlowHandoffEnableDisable threads hm swIfIndex workersBitmap
      fastpath spray enable = .ok hm') :
    DepthInv threads depth hm' := by
  have hmade := h.ethernetQueueMade hthreads hpow hle
  unfold l2tvppFlowHandoffEnableDisable at hok
  split at hok
  · split at hok
    · cases hok
    · dsimp only at hok
      split at hok
      · cases hok
        exact hmade.of_kept rfl rfl rfl
      · cases hok
        split
        · refine DepthInv.setHandoff ?_ 0
          exact hmade.of_kept rfl rfl rfl
        · exact hmade.of_kept rfl rfl rfl
  · cases hok

theorem handoffStep (h : DepthInv threads depth hm)
    (command : HandoffCommand) :
    DepthInv threads depth (Node.handoffStep threads hm command) := by
  cases command with
  | handoffDefault => exact h.handoffDefault hthreads hpow hle
  | setHandoff enable => exact h.setHandoff enable
  | flowHandoff swIfIndex workersBitmap fastpath spray enable =>
      unfold Node.handoffStep
      dsimp only
      split
      · exact h
      · rename_i hm' hok
        exact h.flowHandoff hthreads hpow hle hok

end DepthInv

/-- What the queues need of the configured depth: the first caller is given a
legal depth, which is stored and given to every later caller. -/
structure LegalDepth (threads : Threads) (hm : HandoffMain) : Prop where
  isPowerOfTwo : (l2tvppHandoffQueueNelts threads hm).1.toNat.isPowerOfTwo
  nThreads_le : 9 + threads.nThreads.toNat ≤
    (l2tvppHandoffQueueNelts threads hm).1.toNat
  nelts_le : hm.handoffQueueNelts.toNat ≤ 2 ^ 31 →
    hm.handoffQueueNelts.toNat ≤ (l2tvppHandoffQueueNelts threads hm).1.toNat
  stored : (l2tvppHandoffQueueNelts threads hm).2.handoffQueueNelts =
    (l2tvppHandoffQueueNelts threads hm).1
  again : (l2tvppHandoffQueueNelts threads
    (l2tvppHandoffQueueNelts threads hm).2).1 =
      (l2tvppHandoffQueueNelts threads hm).1
  later : ∀ commands, DepthInv threads (l2tvppHandoffQueueNelts threads hm).1
    (run (handoffStep threads) hm commands)

theorem legalDepth_of_le {threads : Threads} {hm : HandoffMain}
    (hthreads : 9 + threads.nThreads.toNat < 2 ^ 31)
    (hnone : hm.inputQueue = none ∧ hm.ethernetQueue = none)
    (hmax : hm.handoffQueueNelts.toNat ≤ 2 ^ 31) : LegalDepth threads hm := by
  obtain ⟨hpow, hle, hnelts⟩ := queueNelts_legal hthreads hmax
  have hinv : DepthInv threads (l2tvppHandoffQueueNelts threads hm).1 hm :=
    ⟨rfl, by simp [hnone.1], by simp [hnone.2]⟩
  refine ⟨hpow, hle, fun _ => hnelts, rfl,
    (hinv.queueNelts hthreads hpow hle).asked, fun commands => ?_⟩
  exact run_invariant (handoffStep threads) _
    (fun hm command h => h.handoffStep hthreads hpow hle command) commands hinv

/-- After every `startup.conf` that is accepted, and in every run after it, the
queues get one legal depth if and only if the configured one is at most
`2 ^ 31`. -/
theorem legalDepth_iff {threads : Threads} {items : List ConfigItem}
    {hm : HandoffMain}
    (hconfig : l2tvppConfig (HandoffMain.init l2tvppHandoffQueueNeltsDefault)
      items = .ok hm)
    (hthreads : 9 + threads.nThreads.toNat < 2 ^ 31) :
    LegalDepth threads hm ↔ (configuredNelts items).toNat ≤ 2 ^ 31 := by
  rw [← l2tvppConfig_nelts hconfig]
  constructor
  · intro h
    by_contra hgt
    have hle := h.nThreads_le
    rw [queueNelts_of_gt hthreads (by omega)] at hle
    have hone : (1 : U32).toNat = 1 := rfl
    omega
  · exact legalDepth_of_le hthreads (l2tvppConfig_queues hconfig)

theorem legalDepth_iff_hundred :
    LegalDepth threeWorkers (HandoffMain.init 100) ∧
      (configuredNelts [.handoffQueueNelts 100]).toNat ≤ 2 ^ 31 := by
  have hle : (configuredNelts [.handoffQueueNelts 100]).toNat ≤ 2 ^ 31 := by
    decide
  have hconfig : l2tvppConfig
      (HandoffMain.init l2tvppHandoffQueueNeltsDefault)
      [.handoffQueueNelts 100] = .ok (HandoffMain.init 100) := rfl
  have hthreads : 9 + threeWorkers.nThreads.toNat < 2 ^ 31 := by decide
  exact ⟨(legalDepth_iff hconfig hthreads).mpr hle, hle⟩

/-- A depth of `2 ^ 31 + 1` is accepted and becomes 1, which the next caller is
not given again. -/
theorem queueDepth_wraps :
    let hm := HandoffMain.init 0x80000001
    let first := l2tvppHandoffQueueNelts threeWorkers hm
    l2tvppConfig (HandoffMain.init l2tvppHandoffQueueNeltsDefault)
        [.handoffQueueNelts 0x80000001] = .ok hm ∧
      first.1 = 1 ∧ first.2.handoffQueueNelts = 1 ∧
      (l2tvppHandoffQueueNelts threeWorkers first.2).1 = 16 ∧
      ¬ LegalDepth threeWorkers hm := by
  have hfirst : (l2tvppHandoffQueueNelts threeWorkers
      (HandoffMain.init 0x80000001)).1 = 1 := by decide +kernel
  refine ⟨rfl, hfirst, hfirst, by decide +kernel, fun h => ?_⟩
  have hle := h.nThreads_le
  rw [hfirst] at hle
  exact absurd hle (by decide)

end L2tvpp.Node
