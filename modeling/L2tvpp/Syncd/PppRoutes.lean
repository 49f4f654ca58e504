import Mathlib.Data.List.Dedup
import Mathlib.Data.List.Sort
import L2tvpp.Lib.FindAll
import L2tvpp.Lib.Words
import L2tvpp.Syncd.KernelText

/-!
# The routes of a subscriber

What the daemon reads from `ip addr` and `ip route`: the peer addresses of an
interface, and the prefixes that are routed to it.
-/

namespace L2tvpp.Syncd

open L2tvpp.Lib Pattern

/-! ## Peers -/

/-- An address with its peer, as `ip addr` prints it. -/
structure PeerFormat where
  family : Text
  ownName : Option String
  ownTest : Char → Bool
  peerName : String
  peerTest : Char → Bool
  plen : Text

def PeerFormat.re (f : PeerFormat) : Pattern Char :=
  [.lit f.family, spaces, .rep f.ownName f.ownTest 1 none, spaces,
    .lit "peer".toList, spaces, .rep (some f.peerName) f.peerTest 1 none,
    .lit f.plen]

def isIp4Char (c : Char) : Bool := c.isDigit || c == '.'

def isIp6Char (c : Char) : Bool := isHex c || c == ':'

def inet : PeerFormat where
  family := "inet".toList
  ownName := none
  ownTest c := !isSpace c
  peerName := "1"
  peerTest := isIp4Char
  plen := "/32".toList

def inet6 : PeerFormat where
  family := "inet6".toList
  ownName := some "1"
  ownTest := isIp6Char
  peerName := "2"
  peerTest := isIp6Char
  plen := "/128".toList

def PeerFormat.peers (f : PeerFormat) (out : Text) : List Text :=
  (findAll f.re out).map fun m => m.group f.peerName

/-! ## Routes -/

inductive RouteError where
  | indexError
  deriving DecidableEq, Repr

def startsWith (start text : Text) : Bool := start.isPrefixOf text

def isLinkLocal (peer : Text) : Bool :=
  startsWith "fe80".toList (peer.map Char.toLower)

def isDelegated (pfx : Text) : Bool :=
  pfx.contains '/' &&
    !(startsWith "fe80".toList pfx || startsWith "169.254".toList pfx)

/-- `line.split()[0]`, if it is a delegated prefix. -/
def routeOfLine (line : Text) : Except RouteError (List Text) :=
  match words line with
  | [] => .error .indexError
  | pfx :: _ => .ok (if isDelegated pfx then [pfx] else [])

/-- By code points. -/
def textLe : Text → Text → Bool
  | [], _ => true
  | _ :: _, [] => false
  | c :: a, d :: b => c.toNat < d.toNat || (c == d && textLe a b)

def sortedSet (routes : List Text) : List Text :=
  routes.dedup.insertionSort fun a b => textLe a b = true

/-- The arguments are what the two commands print. -/
def pppRoutes (addr route : Text) : Except RouteError (List Text) := do
  let peers := (inet.peers addr).map fun peer => peer ++ "/32".toList
  let peers6 := ((inet6.peers addr).filter fun peer => !isLinkLocal peer).map
    fun peer => peer ++ "/128".toList
  let delegated ← (splitlines route).mapM routeOfLine
  pure (sortedSet (peers ++ peers6 ++ delegated.flatten))

/-! ## A match is a window of words -/

section Format

variable {f : PeerFormat}

structure PeerFormat.WellFormed (f : PeerFormat) : Prop where
  family : IsWord f.family
  familyHead : ∀ c ∈ f.family.head?,
    f.peerTest c = false ∧ c ∉ f.plen ∧ c ∉ "peer".toList
  names : f.ownName ≠ some f.peerName
  ownTest : ∀ c, f.ownTest c = true → isSpace c = false
  peerTest : ∀ c, f.peerTest c = true → isSpace c = false
  peerWord : f.peerTest 'p' = false
  plen : IsWord f.plen
  plenHead : ∀ c ∈ f.plen.head?, f.peerTest c = false

/-- What the pattern takes, and what follows it. -/
def PeerFormat.shape (f : PeerFormat) (gap own gap' gap'' peer rest : Text) :
    Text :=
  f.family ++ (gap ++ (own ++ (gap' ++ ("peer".toList ++
    (gap'' ++ (peer ++ (f.plen ++ rest)))))))

def IsGap (gap : Text) : Prop := gap ≠ [] ∧ Blank gap

structure PeerFormat.Cut (f : PeerFormat) (gap own gap' gap'' peer : Text) :
    Prop where
  gap : IsGap gap
  own : own ≠ [] ∧ ∀ c ∈ own, f.ownTest c = true
  gap' : IsGap gap'
  gap'' : IsGap gap''
  peer : peer ≠ [] ∧ ∀ c ∈ peer, f.peerTest c = true

theorem determined_re (hf : f.WellFormed) : Determined f.re := by
  obtain ⟨c, plen, hplen⟩ := List.exists_cons_of_ne_nil hf.plen.1
  have hother : ∀ {test : Char → Bool},
      (∀ c, test c = true → isSpace c = false) →
      ∀ c, isSpace c = true → test c = false := by
    intro test htest c hc
    by_contra hyes
    rw [Bool.not_eq_false] at hyes
    rw [htest c hyes] at hc
    cases hc
  refine ⟨hf.ownTest, hother hf.ownTest, ?_, hf.peerTest, ?_, trivial⟩
  · change isSpace 'p' = false
    decide
  · rw [hplen]
    exact hf.plenHead c (by rw [hplen]; rfl)

theorem one_le_length {text : Text} : 1 ≤ text.length ↔ text ≠ [] :=
  List.length_pos_iff

theorem matches_re_iff {text rest : Text} {captures : Captures Char} :
    Matches f.re text captures rest ↔
      ∃ gap own gap' gap'' peer, f.Cut gap own gap' gap'' peer ∧
        text = f.shape gap own gap' gap'' peer rest ∧
        captures = captured f.ownName own [(f.peerName, peer)] := by
  simp only [PeerFormat.re, spaces, matches_lit_iff, matches_rep_iff,
    matches_nil_iff, one_le_length, captured_none, id_eq]
  constructor
  · rintro ⟨_, rfl, gap, _, _, rfl, hgap, hgapne, ⟨own, _, _, rfl, hown, hownne,
      ⟨gap', _, _, rfl, hgap', hgapne', ⟨_, rfl, gap'', _, _, rfl, hgap'',
      hgapne'', ⟨peer, _, _, rfl, hpeer, hpeerne, ⟨_, rfl, rfl, rfl⟩, rfl⟩,
      rfl⟩, rfl⟩, rfl⟩, rfl⟩
    exact ⟨gap, own, gap', gap'', peer,
      ⟨⟨hgapne, hgap⟩, ⟨hownne, hown⟩, ⟨hgapne', hgap'⟩, ⟨hgapne'', hgap''⟩,
        ⟨hpeerne, hpeer⟩⟩, rfl, rfl⟩
  · rintro ⟨gap, own, gap', gap'', peer, hcut, rfl, rfl⟩
    exact ⟨_, rfl, gap, _, _, rfl, hcut.gap.2, hcut.gap.1, ⟨own, _, _, rfl,
      hcut.own.2, hcut.own.1, ⟨gap', _, _, rfl, hcut.gap'.2, hcut.gap'.1,
      ⟨_, rfl, gap'', _, _, rfl, hcut.gap''.2, hcut.gap''.1, ⟨peer, _, _, rfl,
      hcut.peer.2, hcut.peer.1, ⟨_, rfl, rfl, rfl⟩, rfl⟩, rfl⟩, rfl⟩, rfl⟩, rfl⟩

theorem words_shape (hf : f.WellFormed) {gap own gap' gap'' peer rest : Text}
    (hcut : f.Cut gap own gap' gap'' peer) {before : Text}
    (hbefore : ∀ c ∈ before, isSpace c = false) :
    words (before ++ f.shape gap own gap' gap'' peer rest) =
      (before ++ f.family) :: own :: "peer".toList ::
        words (peer ++ (f.plen ++ rest)) := by
  have hkey : IsWord (before ++ f.family) := by
    refine ⟨by simp [hf.family.1], ?_⟩
    exact List.forall_mem_append.mpr ⟨hbefore, hf.family.2⟩
  have hown : IsWord own :=
    ⟨hcut.own.1, fun c hc => hf.ownTest c (hcut.own.2 c hc)⟩
  have hpeer : IsWord "peer".toList := by decide
  rw [PeerFormat.shape, ← List.append_assoc,
    words_isWord_append hkey (wordEnds_append hcut.gap.2 hcut.gap.1 _),
    words_blank_append hcut.gap.2,
    words_isWord_append hown (wordEnds_append hcut.gap'.2 hcut.gap'.1 _),
    words_blank_append hcut.gap'.2,
    words_isWord_append hpeer (wordEnds_append hcut.gap''.2 hcut.gap''.1 _),
    words_blank_append hcut.gap''.2]

theorem words_shape_start (hf : f.WellFormed)
    {gap own gap' gap'' peer rest : Text}
    (hcut : f.Cut gap own gap' gap'' peer) :
    words (f.shape gap own gap' gap'' peer rest) =
      f.family :: own :: "peer".toList :: words (peer ++ (f.plen ++ rest)) :=
  words_shape hf hcut (List.forall_mem_nil _)

/-- The peer and its length begin a word. -/
theorem words_peer (hf : f.WellFormed) {peer : Text}
    (hpeer : peer ≠ [] ∧ ∀ c ∈ peer, f.peerTest c = true) (rest : Text) :
    ∃ shown more, words (peer ++ (f.plen ++ rest)) = shown :: more ∧
      peer ++ f.plen <+: shown := by
  have hcut : rest.takeWhile (fun c => !isSpace c) ++
      rest.dropWhile (fun c => !isSpace c) = rest :=
    List.takeWhile_append_dropWhile
  have hshown : IsWord (peer ++ f.plen ++
      rest.takeWhile fun c => !isSpace c) := by
    refine ⟨by simp [hpeer.1], ?_⟩
    simp only [List.forall_mem_append]
    refine ⟨⟨fun c hc => hf.peerTest c (hpeer.2 c hc), hf.plen.2⟩, ?_⟩
    intro c hc
    simpa using List.mem_takeWhile_imp hc
  refine ⟨peer ++ f.plen ++ rest.takeWhile fun c => !isSpace c,
    words (rest.dropWhile fun c => !isSpace c), ?_, List.prefix_append _ _⟩
  rw [← hcut, ← List.append_assoc, ← List.append_assoc,
    words_isWord_append hshown (wordEnds_dropWhile rest), hcut]

/-- Somewhere in the words stands the family, an address, `peer`, and the peer
with its length. -/
def PeerFormat.Shows (f : PeerFormat) (ws : List Text) (peer : Text) : Prop :=
  ∃ before key own shown after,
    ws = before ++ key :: own :: "peer".toList :: shown :: after ∧
    f.family <:+ key ∧ (∀ c ∈ own, f.ownTest c = true) ∧
    (peer ≠ [] ∧ ∀ c ∈ peer, f.peerTest c = true) ∧ peer ++ f.plen <+: shown

theorem shows_of_shape (hf : f.WellFormed)
    {before gap own gap' gap'' peer rest : Text}
    (hcut : f.Cut gap own gap' gap'' peer) :
    f.Shows (words (before ++ f.shape gap own gap' gap'' peer rest)) peer := by
  let start := before.rdropWhile fun c => !isSpace c
  let stem := before.rtakeWhile fun c => !isSpace c
  have hbefore : start ++ stem = before :=
    List.rdropWhile_append_rtakeWhile ..
  have hstart := space_before_rtakeWhile before
  have hstem : ∀ c ∈ stem, isSpace c = false := by
    intro c hc
    simpa using List.mem_rtakeWhile_imp hc
  obtain ⟨shown, more, hwords, hprefix⟩ := words_peer hf hcut.peer rest
  refine ⟨words start, stem ++ f.family, own, shown, more, ?_,
    List.suffix_append _ _, hcut.own.2, hcut.peer, hprefix⟩
  rw [← hbefore, List.append_assoc, words_append hstart,
    words_shape hf hcut hstem, hwords]

theorem shape_of_shows {text peer : Text}
    (h : f.Shows (words text) peer) :
    ∃ before gap own gap' gap'' rest, f.Cut gap own gap' gap'' peer ∧
      text = before ++ f.shape gap own gap' gap'' peer rest := by
  obtain ⟨first, key, own, shown, more, hwords, ⟨stem, rfl⟩, hown, hpeer,
    ⟨tail, rfl⟩⟩ := h
  obtain ⟨before, after, rfl, -, hafter⟩ := words_eq_append hwords
  obtain ⟨lead, rest1, rfl, -, hkey, hends1, h1⟩ := words_eq_cons.mp hafter
  obtain ⟨gap, rest2, rfl, hgap, hownword, hends2, h2⟩ := words_eq_cons.mp h1
  obtain ⟨gap', rest3, rfl, hgap', hpeerword, hends3, h3⟩ :=
    words_eq_cons.mp h2
  obtain ⟨gap'', rest4, rfl, hgap'', hshown, -, -⟩ := words_eq_cons.mp h3
  refine ⟨before ++ (lead ++ stem), gap, own, gap', gap'', tail ++ rest4,
    ⟨⟨gap_ne_nil hownword hends1, hgap⟩, ⟨hownword.1, hown⟩,
      ⟨gap_ne_nil hpeerword hends2, hgap'⟩,
      ⟨gap_ne_nil hshown hends3, hgap''⟩, hpeer⟩, ?_⟩
  simp [PeerFormat.shape]

theorem head_shape (hf : f.WellFormed) {c : Char}
    {gap own gap' gap'' peer rest text : Text}
    (h : c :: text = f.shape gap own gap' gap'' peer rest) :
    isSpace c = false ∧ f.peerTest c = false ∧ c ∉ f.plen ∧
      c ∉ "peer".toList := by
  obtain ⟨first, family, hfamily⟩ := List.exists_cons_of_ne_nil hf.family.1
  rw [PeerFormat.shape, hfamily] at h
  cases h
  refine ⟨hf.family.2 c ?_, hf.familyHead c ?_⟩
  · rw [hfamily]
    exact List.mem_cons_self
  · rw [hfamily]
    rfl

/-- What follows the own address has no place where the pattern could begin. -/
theorem not_head_of_mem (hf : f.WellFormed)
    {gap own gap' gap'' peer gap1 own1 gap1' gap1'' peer1 rest1 text : Text}
    {c : Char} (hcut : f.Cut gap own gap' gap'' peer)
    (hmem : c ∈ gap' ++ ("peer".toList ++ (gap'' ++ (peer ++ f.plen)))) :
    c :: text ≠ f.shape gap1 own1 gap1' gap1'' peer1 rest1 := by
  intro htext
  obtain ⟨hsolid, hpeer, hplen, hword⟩ := head_shape hf htext
  simp only [List.mem_append] at hmem
  rcases hmem with hgap' | hpeerword | hgap'' | hpeerchar | hplenchar
  · rw [hcut.gap'.2 c hgap'] at hsolid
    cases hsolid
  · exact hword hpeerword
  · rw [hcut.gap''.2 c hgap''] at hsolid
    cases hsolid
  · rw [hcut.peer.2 c hpeerchar] at hpeer
    cases hpeer
  · exact hplen hplenchar

/-- The match would have to read the peer as the word `peer`. -/
theorem no_match_in_own (hf : f.WellFormed)
    {gap own gap' gap'' peer rest gap1 own1 gap1' gap1'' peer1 rest1
      stem : Text} (hcut : f.Cut gap own gap' gap'' peer)
    (hcut1 : f.Cut gap1 own1 gap1' gap1'' peer1) (hstem : IsWord stem)
    (htext : stem ++ (gap' ++ ("peer".toList ++
      (gap'' ++ (peer ++ (f.plen ++ rest))))) =
        f.shape gap1 own1 gap1' gap1'' peer1 rest1) : False := by
  obtain ⟨shown, more, hshown, hprefix⟩ := words_peer hf hcut.peer rest
  have hwords := congrArg words htext
  have hpeer : IsWord "peer".toList := by decide
  rw [words_isWord_append hstem (wordEnds_append hcut.gap'.2 hcut.gap'.1 _),
    words_blank_append hcut.gap'.2,
    words_isWord_append hpeer (wordEnds_append hcut.gap''.2 hcut.gap''.1 _),
    words_blank_append hcut.gap''.2, hshown] at hwords
  rw [words_shape_start hf hcut1] at hwords
  obtain ⟨-, hwords⟩ := List.cons.inj hwords
  obtain ⟨-, hwords⟩ := List.cons.inj hwords
  obtain ⟨hshownpeer, -⟩ := List.cons.inj hwords
  obtain ⟨c, peer, rfl⟩ := List.exists_cons_of_ne_nil hcut.peer.1
  rw [hshownpeer] at hprefix
  have hc : c = 'p' := (List.cons_prefix_cons.mp hprefix).1
  have hp := hcut.peer.2 c List.mem_cons_self
  rw [hc, hf.peerWord] at hp
  cases hp

theorem no_match_in_family (hf : f.WellFormed)
    {gap gap1 own1 gap1' gap1'' peer1 rest1 before stem text : Text}
    (hgap : IsGap gap) (hcut1 : f.Cut gap1 own1 gap1' gap1'' peer1)
    (hbefore : before ≠ []) (hstem : IsWord stem)
    (hfamily : f.family = before ++ stem)
    (htext : stem ++ (gap ++ text) =
      f.shape gap1 own1 gap1' gap1'' peer1 rest1) : False := by
  have hwords := congrArg words htext
  rw [words_shape_start hf hcut1,
    words_isWord_append hstem (wordEnds_append hgap.2 hgap.1 _)] at hwords
  have hsame : stem = before ++ stem := (List.cons.inj hwords).1.trans hfamily
  exact hbefore (List.append_left_eq_self.mp hsame.symm)

theorem no_match_inside (hf : f.WellFormed)
    {gap own gap' gap'' peer rest gap1 own1 gap1' gap1'' peer1 rest1 before
      after : Text}
    (hcut : f.Cut gap own gap' gap'' peer)
    (hcut1 : f.Cut gap1 own1 gap1' gap1'' peer1) (hbefore : before ≠ [])
    (hafter : after ≠ [])
    (htaken : f.shape gap own gap' gap'' peer [] = before ++ after)
    (htext : after ++ rest = f.shape gap1 own1 gap1' gap1'' peer1 rest1) :
    False := by
  obtain ⟨c, tail, rfl⟩ := List.exists_cons_of_ne_nil hafter
  rw [List.cons_append] at htext
  rw [PeerFormat.shape, List.append_nil] at htaken
  have hsolid := (head_shape hf htext).1
  rcases List.append_eq_append_iff.mp htaken with
    ⟨m, rfl, hm⟩ | ⟨m, hfamily, hm⟩
  · rcases List.append_eq_append_iff.mp hm with ⟨k, -, hk⟩ | ⟨k, hgap, hk⟩
    · -- in the own address or behind it
      rcases List.append_eq_append_iff.mp hk with
        ⟨stop, -, hstop⟩ | ⟨stem, hown, hstem⟩
      · exact not_head_of_mem hf hcut (hstop ▸ by simp) htext
      · cases stem with
        | nil => exact not_head_of_mem hf hcut (hstem ▸ by simp) htext
        | cons d stem =>
            rw [List.cons_append, List.cons.injEq] at hstem
            obtain ⟨rfl, rfl⟩ := hstem
            have hword : IsWord (c :: stem) := by
              refine ⟨by simp, ?_⟩
              intro e he
              apply hf.ownTest e (hcut.own.2 e _)
              rw [hown]
              exact List.mem_append_right k he
            exact no_match_in_own hf hcut hcut1 hword (by simpa using htext)
    · -- in the gap behind the family
      cases k with
      | nil =>
          have hown : IsWord own :=
            ⟨hcut.own.1, fun e he => hf.ownTest e (hcut.own.2 e he)⟩
          have hstart : own ++ (gap' ++ ("peer".toList ++
              (gap'' ++ (peer ++ (f.plen ++ rest))))) =
                f.shape gap1 own1 gap1' gap1'' peer1 rest1 := by
            rw [← htext, ← List.cons_append, hk]
            simp
          exact no_match_in_own hf hcut hcut1 hown hstart
      | cons d k =>
          cases hk
          rw [hcut.gap.2 c (by rw [hgap]; simp)] at hsolid
          cases hsolid
  · -- in the family
    cases m with
    | nil =>
        obtain ⟨d, gap, rfl⟩ := List.exists_cons_of_ne_nil hcut.gap.1
        cases hm
        rw [hcut.gap.2 c List.mem_cons_self] at hsolid
        cases hsolid
    | cons d m =>
        rw [List.cons_append, List.cons.injEq] at hm
        obtain ⟨rfl, rfl⟩ := hm
        have hword : IsWord (c :: m) := by
          refine ⟨by simp, ?_⟩
          intro e he
          apply hf.family.2 e
          rw [hfamily]
          exact List.mem_append_right before he
        exact no_match_in_family hf hcut.gap hcut1 hbefore hword hfamily
          (by simpa using htext)

theorem group_captured (hf : f.WellFormed) (own peer : Text) :
    (captured f.ownName own [(f.peerName, peer)]).group f.peerName = peer := by
  have hnames := hf.names
  cases hown : f.ownName with
  | none => simp [captured, Captures.group]
  | some name =>
      rw [hown] at hnames
      have hne : (f.peerName == name) = false :=
        beq_false_of_ne fun heq => hnames (by rw [heq])
      simp [captured, Captures.group, List.lookup_cons, hne]

theorem separate_re (hf : f.WellFormed) : Separate f.re := by
  intro text captures rest h
  obtain ⟨gap, own, gap', gap'', peer, hcut, rfl, -⟩ :=
    matches_re_iff.mp (matches_of_matchPrefix h)
  refine ⟨f.shape gap own gap' gap'' peer [], ?_, ?_, ?_⟩
  · simp [PeerFormat.shape, hf.family.1]
  · simp [PeerFormat.shape]
  · intro before after htaken hbefore hafter
    by_contra hmatch
    obtain ⟨⟨found, rest1⟩, hfound⟩ := Option.ne_none_iff_exists'.mp hmatch
    obtain ⟨gap1, own1, gap1', gap1'', peer1, hcut1, htext, -⟩ :=
      matches_re_iff.mp (matches_of_matchPrefix hfound)
    exact no_match_inside hf hcut hcut1 hbefore hafter htaken htext

theorem mem_peers (hf : f.WellFormed) {out peer : Text} :
    peer ∈ f.peers out ↔ f.Shows (words out) peer := by
  simp only [PeerFormat.peers, List.mem_map, mem_findAll (separate_re hf),
    matchPrefix_eq_some_iff (determined_re hf), matches_re_iff]
  constructor
  · rintro ⟨m, ⟨before, after, rest, rfl, gap, own, gap', gap'', found, hcut,
      rfl, rfl⟩, rfl⟩
    rw [group_captured hf]
    exact shows_of_shape hf hcut
  · intro hshows
    obtain ⟨before, gap, own, gap', gap'', rest, hcut, rfl⟩ :=
      shape_of_shows hshows
    exact ⟨_, ⟨before, _, rest, rfl, gap, own, gap', gap'', peer, hcut, rfl,
      rfl⟩, group_captured hf own peer⟩

end Format

theorem isSpace_of_isIp6Char {c : Char} (h : isIp6Char c = true) :
    isSpace c = false := by
  rcases Bool.or_eq_true_iff.mp h with hhex | hcolon
  · exact isSpace_of_isHex hhex
  · rw [beq_iff_eq.mp hcolon]
    decide

theorem isSpace_of_isIp4Char {c : Char} (h : isIp4Char c = true) :
    isSpace c = false := by
  rcases Bool.or_eq_true_iff.mp h with hdigit | hdot
  · apply isSpace_of_isHex
    have hrange : 48 ≤ c.toNat ∧ c.toNat ≤ 57 :=
      Char.isDigit_iff_toNat.mp hdigit
    rw [isHex, hex?, if_pos hrange]
    rfl
  · rw [beq_iff_eq.mp hdot]
    decide

theorem inet_wellFormed : inet.WellFormed where
  family := by decide
  familyHead c hc := by
    have heq : 'i' = c := Option.mem_some_iff.mp hc
    subst heq
    decide
  names := by decide
  ownTest c hc := by simpa [inet] using hc
  peerTest _ := isSpace_of_isIp4Char
  peerWord := by decide
  plen := by decide
  plenHead c hc := by
    have heq : '/' = c := Option.mem_some_iff.mp hc
    subst heq
    decide

theorem inet6_wellFormed : inet6.WellFormed where
  family := by decide
  familyHead c hc := by
    have heq : 'i' = c := Option.mem_some_iff.mp hc
    subst heq
    decide
  names := by decide
  ownTest _ := isSpace_of_isIp6Char
  peerTest _ := isSpace_of_isIp6Char
  peerWord := by decide
  plen := by decide
  plenHead c hc := by
    have heq : '/' = c := Option.mem_some_iff.mp hc
    subst heq
    decide

/-! ## Every output -/

theorem mapM_routeOfLine (lines : List Text) :
    lines.mapM routeOfLine =
      if ∃ line ∈ lines, words line = [] then .error .indexError
      else .ok (lines.map fun line =>
        ((words line).head?.filter isDelegated).toList) := by
  induction lines with
  | nil => simp [pure, Except.pure]
  | cons line lines ih =>
      rw [List.mapM_cons, ih, routeOfLine]
      cases hwords : words line with
      | nil => simp [hwords, bind, Except.bind]
      | cons pfx more =>
          by_cases hblank : ∃ line ∈ lines, words line = []
          · simp [hblank, hwords, bind, Except.bind]
          · have hblank' : ¬ ∃ line' ∈ line :: lines, words line' = [] := by
              simpa [hwords] using hblank
            rw [if_neg hblank, if_neg hblank']
            cases hpfx : isDelegated pfx <;>
              simp [hwords, hpfx, Option.filter, bind, Except.bind, pure,
                Except.pure]

theorem mem_sortedSet {routes : List Text} {pfx : Text} :
    pfx ∈ sortedSet routes ↔ pfx ∈ routes := by
  rw [sortedSet, List.mem_insertionSort]
  exact List.mem_dedup

theorem textLe_total (a b : Text) : textLe a b = true ∨ textLe b a = true := by
  induction a generalizing b with
  | nil => exact .inl rfl
  | cons c a ih =>
      cases b with
      | nil => exact .inr rfl
      | cons d b =>
          simp only [textLe, Bool.or_eq_true, Bool.and_eq_true, beq_iff_eq,
            decide_eq_true_eq]
          rcases Nat.lt_trichotomy c.toNat d.toNat with hlt | heq | hgt
          · exact .inl (.inl hlt)
          · have hsame := Char.toNat_inj.mp heq
            exact (ih b).imp (fun h => .inr ⟨hsame, h⟩)
              fun h => .inr ⟨hsame.symm, h⟩
          · exact .inr (.inl hgt)

theorem textLe_trans {a b c : Text} (hab : textLe a b = true)
    (hbc : textLe b c = true) : textLe a c = true := by
  induction a generalizing b c with
  | nil => rfl
  | cons x a ih =>
      cases b with
      | nil => cases hab
      | cons y b =>
          cases c with
          | nil => cases hbc
          | cons z c =>
              simp only [textLe, Bool.or_eq_true, Bool.and_eq_true, beq_iff_eq,
                decide_eq_true_eq] at hab hbc ⊢
              rcases hab with hxy | ⟨rfl, hab⟩
              · rcases hbc with hyz | ⟨rfl, -⟩
                · exact .inl (hxy.trans hyz)
                · exact .inl hxy
              · exact hbc.imp id fun h => ⟨h.1, ih hab h.2⟩

instance : Std.Total fun a b : Text => textLe a b = true := ⟨textLe_total⟩

instance : IsTrans Text fun a b => textLe a b = true :=
  ⟨fun _ _ _ => textLe_trans⟩

theorem sortedSet_sorted (routes : List Text) :
    (sortedSet routes).Pairwise fun a b => textLe a b = true ∧ a ≠ b := by
  have hne : (sortedSet routes).Pairwise (· ≠ ·) :=
    (List.perm_insertionSort _ _).nodup_iff.mpr (List.nodup_dedup routes)
  exact (List.pairwise_insertionSort _ _).and hne

/-- Whatever the two commands print: a blank line of `ip route` raises an
error.  Otherwise the routes are in order, each once, and are the IPv4 peers,
the IPv6 peers that are not link-local, and the delegated prefixes at the start
of a line. -/
theorem pppRoutes_exact (addr route : Text) :
    (pppRoutes addr route = .error .indexError ↔
      ∃ line ∈ splitlines route, words line = []) ∧
    ∀ routes, pppRoutes addr route = .ok routes →
      (routes.Pairwise fun a b => textLe a b = true ∧ a ≠ b) ∧
      ∀ pfx, pfx ∈ routes ↔
        (∃ peer, inet.Shows (words addr) peer ∧
          pfx = peer ++ "/32".toList) ∨
        (∃ peer, inet6.Shows (words addr) peer ∧ isLinkLocal peer = false ∧
          pfx = peer ++ "/128".toList) ∨
        ∃ line ∈ splitlines route, (words line).head? = some pfx ∧
          isDelegated pfx = true := by
  simp only [pppRoutes, mapM_routeOfLine]
  by_cases hblank : ∃ line ∈ splitlines route, words line = []
  · simp only [if_pos hblank, bind, Except.bind]
    simpa using hblank
  · simp only [if_neg hblank, bind, Except.bind]
    refine ⟨by simp [hblank, pure, Except.pure], ?_⟩
    intro routes hroutes
    cases hroutes
    refine ⟨sortedSet_sorted _, ?_⟩
    intro pfx
    simp only [mem_sortedSet, List.mem_append, List.mem_map, List.mem_filter,
      mem_peers inet_wellFormed, mem_peers inet6_wellFormed,
      List.mem_flatten, Bool.not_eq_true']
    constructor
    · rintro ((⟨peer, hshows, rfl⟩ | ⟨peer, ⟨hshows, hglobal⟩, rfl⟩) |
        ⟨found, ⟨line, hline, rfl⟩, hpfx⟩)
      · exact .inl ⟨peer, hshows, rfl⟩
      · exact .inr (.inl ⟨peer, hshows, hglobal, rfl⟩)
      · rw [Option.mem_toList, Option.filter_eq_some_iff] at hpfx
        exact .inr (.inr ⟨line, hline, hpfx⟩)
    · rintro (⟨peer, hshows, rfl⟩ | ⟨peer, hshows, hglobal, rfl⟩ |
        ⟨line, hline, hpfx⟩)
      · exact .inl (.inl ⟨peer, hshows, rfl⟩)
      · exact .inl (.inr ⟨peer, ⟨hshows, hglobal⟩, rfl⟩)
      · refine .inr ⟨_, ⟨line, hline, rfl⟩, ?_⟩
        rw [Option.mem_toList, Option.filter_eq_some_iff]
        exact hpfx

example : pppRoutes
    ("1: ppp0    inet 100.64.0.1 peer 100.64.5.7/32 scope global\n".toList ++
      "2: ppp0    inet6 fe80::1 peer fe80::2/128 scope link\n".toList)
    "2001:db8:beef::/56 dev ppp0 proto static\n".toList =
    .ok ["100.64.5.7/32".toList, "2001:db8:beef::/56".toList] := by
  decide +kernel

end L2tvpp.Syncd
