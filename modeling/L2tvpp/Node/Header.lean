import L2tvpp.Plugin.Encap
import L2tvpp.Node.Buffer

/-!
# The L2TP and PPP headers

`l2tvpp_parse_hdr`, which `l2tvpp-input`, `l2tvpp-handoff` and the flow
classifier share, and the two walks that follow it: over the sequence numbers
and the offset pad, and over the PPP header.  Offsets count from the start of
the buffer's current data.
-/

namespace L2tvpp.Node

open L2tvpp.Lib
open L2tvpp.Plugin

def l2tvppHdrT : U16 := 0x8000
def l2tvppHdrL : U16 := 0x4000
def l2tvppHdrS : U16 := 0x0800
def l2tvppHdrO : U16 := 0x0200
def l2tvppHdrVer : U16 := 0x000F

def hasFlag (flags flag : U16) : Bool := flags &&& flag != 0

inductive L2tvppHdr where
  | data (flags tid sid : U16) (off : Nat)
  | tooShort
  | notV2
  | control
  deriving DecidableEq, Repr

/-- `l2tvpp_parse_hdr` on the `len` bytes at `cur`. -/
def l2tvppParseHdr (buffer : List U8) (cur len : Nat) :
    Except MemFault L2tvppHdr := do
  if len < 6 then pure .tooShort
  else
    let flags ← readU16 buffer cur
    if flags &&& l2tvppHdrVer ≠ 2 then pure .notV2
    -- control messages always carry S, so T is tested first
    else if hasFlag flags l2tvppHdrT then pure .control
    else if hasFlag flags l2tvppHdrL && len < 8 then pure .tooShort
    else
      let o := if hasFlag flags l2tvppHdrL then 4 else 2
      let tid ← readU16 buffer (cur + o)
      let sid ← readU16 buffer (cur + o + 2)
      pure (.data flags tid sid (o + 4))

def pppFits (cur stop : Nat) : Except MemFault (Option Nat) :=
  pure (if cur + 4 > stop then none else some cur)

/-- The walk over `[Ns Nr]` and `[offset size, pad]`: where the PPP header
starts, or nothing when it does not fit before `stop`. -/
def skipSeqAndOffset (buffer : List U8) (flags : U16) (cur stop : Nat) :
    Except MemFault (Option Nat) := do
  let cur := if hasFlag flags l2tvppHdrS then cur + 4 else cur
  if hasFlag flags l2tvppHdrO then
    if cur + 2 > stop then pure none
    else
      let size ← readU16 buffer cur
      pppFits (cur + (2 + size.toNat)) stop
  else pppFits cur stop

/-- Skip `FF 03`; the second byte is read only after the first matched. -/
def skipAddressControl (buffer : List U8) (cur : Nat) :
    Except MemFault Nat := do
  let address ← readU8 buffer cur
  if address == 0xff then
    let control ← readU8 buffer (cur + 1)
    pure (if control == 0x03 then cur + 2 else cur)
  else pure cur

/-- The PPP protocol and the offset behind it: an odd first byte is a whole
protocol number. -/
def pppProtocol (buffer : List U8) (cur : Nat) :
    Except MemFault (U16 × Nat) := do
  let first ← readU8 buffer cur
  if first &&& 1 != 0 then pure (first.setWidth 16, cur + 1)
  else
    let proto ← readU16 buffer cur
    pure (proto, cur + 2)

def pppHeader (buffer : List U8) (cur : Nat) :
    Except MemFault (U16 × Nat) := do
  let cur ← skipAddressControl buffer cur
  pppProtocol buffer cur

/-! ## When the header is one of data -/

def idsOffset (flags : U16) : Nat := if hasFlag flags l2tvppHdrL then 4 else 2

theorem l2tvppParseHdr_data {buffer : List U8} {cur len : Nat}
    {flags tid sid : U16} (hlen : idsOffset flags + 4 ≤ len)
    (hversion : flags &&& l2tvppHdrVer = 2)
    (hdata : hasFlag flags l2tvppHdrT = false)
    (hflags : readU16 buffer cur = .ok flags)
    (htid : readU16 buffer (cur + idsOffset flags) = .ok tid)
    (hsid : readU16 buffer (cur + idsOffset flags + 2) = .ok sid) :
    l2tvppParseHdr buffer cur len =
      .ok (.data flags tid sid (idsOffset flags + 4)) := by
  have hmin : 2 ≤ idsOffset flags := by
    unfold idsOffset
    split <;> omega
  have hshort : (hasFlag flags l2tvppHdrL && decide (len < 8)) = false := by
    cases hL : hasFlag flags l2tvppHdrL with
    | false => rfl
    | true =>
        simp only [idsOffset, hL] at hlen
        simpa using hlen
  unfold idsOffset at htid hsid
  simp only [l2tvppParseHdr, if_neg (by omega : ¬ len < 6), hflags, ok_bind,
    hversion, hdata, hshort, htid, hsid]
  rfl

/-- A data header is one that is complete, of version 2 and without the T
bit. -/
theorem l2tvppParseHdr_data_iff {buffer : List U8} {cur len off : Nat}
    {flags tid sid : U16} :
    l2tvppParseHdr buffer cur len = .ok (.data flags tid sid off) ↔
      idsOffset flags + 4 ≤ len ∧ flags &&& l2tvppHdrVer = 2 ∧
      hasFlag flags l2tvppHdrT = false ∧ readU16 buffer cur = .ok flags ∧
      readU16 buffer (cur + idsOffset flags) = .ok tid ∧
      readU16 buffer (cur + idsOffset flags + 2) = .ok sid ∧
      off = idsOffset flags + 4 := by
  constructor
  · intro h
    unfold l2tvppParseHdr at h
    split at h
    · cases h
    · rename_i hlen
      obtain ⟨flags', hflags, h⟩ := ok_of_bind h
      split at h
      · cases h
      · rename_i hversion
        split at h
        · cases h
        · rename_i hdata
          split at h
          · cases h
          · rename_i hshort
            obtain ⟨tid', htid, h⟩ := ok_of_bind h
            obtain ⟨sid', hsid, h⟩ := ok_of_bind h
            cases h
            refine ⟨?_, not_not.mp hversion, by simpa using hdata, hflags, htid,
              hsid, rfl⟩
            cases hL : hasFlag flags l2tvppHdrL with
            | false =>
                simp only [idsOffset, hL, Bool.false_eq_true, if_false]
                omega
            | true =>
                simp only [hL, Bool.true_and, decide_eq_true_eq] at hshort
                simp only [idsOffset, hL, if_true]
                omega
  · rintro ⟨hlen, hversion, hdata, hflags, htid, hsid, rfl⟩
    exact l2tvppParseHdr_data hlen hversion hdata hflags htid hsid

/-! ## Reads stay inside the buffer -/

section Bounds

variable {freed : Prop} {buffer : List U8}

theorem safeRun_l2tvppParseHdr {cur len : Nat}
    (h : cur + len ≤ buffer.length) :
    SafeRun freed (l2tvppParseHdr buffer cur len) fun _ => True := by
  unfold l2tvppParseHdr
  refine SafeRun.ite (fun _ => SafeRun.ret trivial) fun hlen => ?_
  refine SafeRun.bind (safeRun_readU16 (by omega)) fun flags _ => ?_
  refine SafeRun.ite (fun _ => SafeRun.ret trivial) fun _ => ?_
  refine SafeRun.ite (fun _ => SafeRun.ret trivial) fun _ => ?_
  refine SafeRun.ite (fun _ => SafeRun.ret trivial) fun hshort => ?_
  have hids : cur + (if hasFlag flags l2tvppHdrL then 4 else 2) + 4 ≤
      buffer.length := by
    cases hL : hasFlag flags l2tvppHdrL
    · simp
      omega
    · simp [hL] at hshort
      simp
      omega
  exact SafeRun.bind (safeRun_readU16 (by omega)) fun _ _ =>
    SafeRun.bind (safeRun_readU16 (by omega)) fun _ _ => SafeRun.ret trivial

theorem safeRun_pppFits {cur stop : Nat} :
    SafeRun freed (pppFits cur stop) fun result =>
      ∀ next, result = some next → next + 4 ≤ stop := by
  refine SafeRun.ret fun next hnext => ?_
  split at hnext
  · contradiction
  · cases hnext
    omega

theorem safeRun_skipSeqAndOffset {flags : U16} {cur stop : Nat}
    (h : stop ≤ buffer.length) :
    SafeRun freed (skipSeqAndOffset buffer flags cur stop) fun result =>
      ∀ next, result = some next → next + 4 ≤ stop := by
  unfold skipSeqAndOffset
  refine SafeRun.ite (fun _ => ?_) fun _ => safeRun_pppFits
  refine SafeRun.ite (fun _ => SafeRun.ret (by simp)) fun hfield => ?_
  exact SafeRun.bind (safeRun_readU16 (by omega)) fun _ _ => safeRun_pppFits

theorem safeRun_skipAddressControl {cur : Nat}
    (h : cur + 2 ≤ buffer.length) :
    SafeRun freed (skipAddressControl buffer cur) fun next => next ≤ cur + 2 := by
  refine SafeRun.bind (safeRun_readU8 (by omega)) fun _ _ => ?_
  refine SafeRun.ite (fun _ => ?_) fun _ => SafeRun.ret (by omega)
  refine SafeRun.bind (safeRun_readU8 (by omega)) fun _ _ => SafeRun.ret ?_
  split <;> omega

theorem safeRun_pppHeader {cur : Nat} (h : cur + 4 ≤ buffer.length) :
    SafeRun freed (pppHeader buffer cur) fun result => result.2 ≤ cur + 4 := by
  refine SafeRun.bind (safeRun_skipAddressControl (by omega))
    fun next hnext => ?_
  refine SafeRun.bind (safeRun_readU8 (by omega)) fun _ _ => ?_
  refine SafeRun.ite (fun _ => SafeRun.ret (by dsimp only; omega)) fun _ => ?_
  exact SafeRun.bind (safeRun_readU16 (by omega)) fun _ _ =>
    SafeRun.ret (by dsimp only; omega)

end Bounds

end L2tvpp.Node
