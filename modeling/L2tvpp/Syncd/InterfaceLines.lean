import L2tvpp.Syncd.KernelText

/-!
# Whose interface a session gets

An interface line belongs to the block of the SESSION line above it.  The
parser gives it to the last session it has recognised.
-/

namespace L2tvpp.Syncd

open L2tvpp.Lib Pattern

/-! ## SESSION and interface lines -/

def isSessionLine (line : Text) : Bool :=
  decide ("SESSION".toList <+: line.dropWhile isSpace)

def recognised (line : Text) : Bool := (matchStart sessionRe line).isSome

theorem sessionRe_none {line : Text} (h : isSessionLine line = false) :
    matchStart sessionRe line = none := by
  have hlit : ¬ "SESSION".toList <+: line.dropWhile isSpace :=
    of_decide_eq_false h
  exact (matchStart_skip _ line (by decide)).trans
    (matchStart_lit_none _ hlit)

theorem isSessionLine_of_recognised {line : Text}
    (h : recognised line = true) : isSessionLine line = true := by
  by_contra hline
  rw [Bool.not_eq_true] at hline
  rw [recognised, sessionRe_none hline] at h
  contradiction

/-- The name on an interface line. -/
def interfaceName (line : Text) : Option Text :=
  let body := line.dropWhile isSpace
  let rest := body.drop "interface".toList.length
  let name := (rest.dropWhile isSpace).takeWhile fun c => !isSpace c
  if "interface".toList <+: body ∧ rest.takeWhile isSpace ≠ [] ∧ name ≠ [] then
    some name
  else none

theorem interfaceName_none {line : Text}
    (h : ¬ "interface".toList <+: line.dropWhile isSpace) :
    interfaceName line = none := by
  simp only [interfaceName]
  exact if_neg fun hline => h hline.1

theorem matchStart_ifaceRe (line : Text) :
    matchStart ifaceRe line =
      (interfaceName line).map fun name => [("ifname", name)] := by
  have hspace : ∀ c rest, isSpace c = true →
      matchStart [wordGroup "ifname"] (c :: rest) = none := by
    intro c rest hc
    refine matchStart_rep_none [] ?_
    simp [hc]
  have hindent : matchStart ifaceRe line =
      matchStart [.lit "interface".toList, spaces, wordGroup "ifname"]
        (line.dropWhile isSpace) :=
    matchStart_skip _ line (by decide)
  have hgap : ∀ rest, matchStart [spaces, wordGroup "ifname"] rest =
      if 1 ≤ (rest.takeWhile isSpace).length then
        (matchStart [wordGroup "ifname"] (rest.dropWhile isSpace)).map
          (captured none (rest.takeWhile isSpace))
      else none :=
    fun rest => matchStart_rep_eq rest hspace
  have hlength : ∀ text : Text, 1 ≤ text.length ↔ text ≠ [] :=
    fun text => List.length_pos_iff
  rw [hindent, matchStart, hgap, wordGroup, matchStart_rep_last]
  simp only [hlength, interfaceName, captured_none, ite_and,
    apply_ite (Option.map _), Option.map_some, Option.map_none]
  rfl

theorem interfaceName_of_isSessionLine {line : Text}
    (h : isSessionLine line = true) : interfaceName line = none := by
  apply interfaceName_none
  intro hword
  obtain ⟨rest, hrest⟩ := of_decide_eq_true h
  rw [← hrest] at hword
  exact absurd (List.cons_prefix_cons.mp hword).1 (by decide)

/-! ## Blocks -/

/-- A SESSION line and the lines up to the next one. -/
structure SessionBlock where
  header : Text
  body : List Text
  deriving DecidableEq, Repr

namespace SessionBlock

def interface (block : SessionBlock) : Option Text :=
  (block.body.filterMap interfaceName).getLast?

/-- The session of a recognised block, with its own interface. -/
def session? (block : SessionBlock) : Option ProcSession :=
  (matchStart sessionRe block.header).map fun m =>
    { sessionOf m with ifname := block.interface }

end SessionBlock

def sessionBlocks : List Text → List SessionBlock
  | [] => []
  | line :: lines =>
      if isSessionLine line then
        ⟨line, lines.takeWhile fun line => !isSessionLine line⟩ ::
          sessionBlocks lines
      else sessionBlocks lines

/-- The last interface line in the unrecognised blocks at the front. -/
def strayInterface : List SessionBlock → Option Text
  | [] => none
  | block :: blocks =>
      if recognised block.header then none
      else (strayInterface blocks).or block.interface

/-- No recognised block is followed by unrecognised ones whose last interface
line names another interface. -/
def KeepsInterfaces : List SessionBlock → Prop
  | [] => True
  | block :: blocks =>
      (recognised block.header = true →
        ∀ name ∈ strayInterface blocks, block.interface = some name) ∧
      KeepsInterfaces blocks

instance : (blocks : List SessionBlock) → Decidable (KeepsInterfaces blocks)
  | [] => isTrue trivial
  | _ :: blocks =>
      @instDecidableAnd _ _ _ (instDecidableKeepsInterfaces blocks)

/-! ## What the parser attaches -/

def attach (name : Option Text) (sessions : List ProcSession) :
    List ProcSession :=
  sessions.modifyLast fun cur => { cur with ifname := name.or cur.ifname }

theorem attach_concat (name : Option Text) (sessions : List ProcSession)
    (s : ProcSession) :
    attach name (sessions ++ [s]) =
      sessions ++ [{ s with ifname := name.or s.ifname }] :=
  List.modifyLast_concat _ s sessions

theorem attach_none (sessions : List ProcSession) :
    attach none sessions = sessions := by
  rcases List.eq_nil_or_concat' sessions with rfl | ⟨sessions, s, rfl⟩
  · rfl
  · rw [attach_concat]
    rfl

theorem attach_attach (name later : Option Text)
    (sessions : List ProcSession) :
    attach later (attach name sessions) = attach (later.or name) sessions := by
  rcases List.eq_nil_or_concat' sessions with rfl | ⟨sessions, s, rfl⟩
  · rfl
  · rw [attach_concat, attach_concat, attach_concat, Option.or_assoc]

theorem parseProcLine_eq (sessions : List ProcSession) (line : Text) :
    parseProcLine sessions line =
      match matchStart sessionRe line with
      | some m => sessions ++ [sessionOf m]
      | none => attach (interfaceName line) sessions := by
  rw [parseProcLine, matchStart_ifaceRe]
  cases interfaceName line with
  | none =>
      rw [attach_none]
      rfl
  | some name => rfl

/-- The last interface line before the next recognised session. -/
def lateInterface : List Text → Option Text
  | [] => none
  | line :: lines =>
      if recognised line then none
      else (lateInterface lines).or (interfaceName line)

/-- The sessions of the lines, each with the interface it ends up with. -/
def attachedSessions : List Text → List ProcSession
  | [] => []
  | line :: lines =>
      match matchStart sessionRe line with
      | some m =>
          { sessionOf m with ifname := lateInterface lines } ::
            attachedSessions lines
      | none => attachedSessions lines

theorem foldl_parseProcLine (lines : List Text)
    (sessions : List ProcSession) :
    lines.foldl parseProcLine sessions =
      attach (lateInterface lines) sessions ++ attachedSessions lines := by
  induction lines generalizing sessions with
  | nil => simp [lateInterface, attachedSessions, attach_none]
  | cons line lines ih =>
      rw [List.foldl_cons, ih, parseProcLine_eq]
      cases h : matchStart sessionRe line with
      | none =>
          simp [lateInterface, attachedSessions, recognised, h, attach_attach]
      | some m =>
          have hname : (lateInterface lines).or (sessionOf m).ifname =
              lateInterface lines := Option.or_none
          simp [lateInterface, attachedSessions, recognised, h, attach_none,
            attach_concat, hname]

theorem parsePppol2tp_eq (text : Text) :
    parsePppol2tp text = attachedSessions (splitlines text) :=
  foldl_parseProcLine (splitlines text) []

/-! ## Blocks and what they are given -/

theorem lateInterface_eq (lines : List Text) :
    lateInterface lines =
      (strayInterface (sessionBlocks lines)).or
        ((lines.takeWhile fun line => !isSessionLine line).filterMap
          interfaceName).getLast? := by
  induction lines with
  | nil => rfl
  | cons line lines ih =>
      cases hsession : isSessionLine line with
      | true =>
          -- A SESSION line is no interface line, and its block starts here.
          rw [sessionBlocks, if_pos hsession, lateInterface, strayInterface,
            interfaceName_of_isSessionLine hsession, Option.or_none, ih,
            List.takeWhile_cons_of_neg (by simp [hsession]),
            List.filterMap_nil, List.getLast?_nil, Option.or_none]
          rfl
      | false =>
          have hnot : recognised line = false := by
            by_contra h
            rw [Bool.not_eq_false] at h
            rw [isSessionLine_of_recognised h] at hsession
            contradiction
          rw [sessionBlocks, if_neg (by simp [hsession]), lateInterface,
            if_neg (by simp [hnot]), ih, Option.or_assoc,
            List.takeWhile_cons_of_pos (by simp [hsession]),
            List.filterMap_cons]
          cases interfaceName line with
          | none => simp
          | some name => simp [List.getLast?_cons]

theorem or_eq_right_iff {name own : Option Text} :
    name.or own = own ↔ ∀ other ∈ name, own = some other := by
  cases name with
  | none => simp
  | some other => simp [eq_comm]

theorem attachedSessions_eq_iff (lines : List Text) :
    attachedSessions lines =
        (sessionBlocks lines).filterMap SessionBlock.session? ↔
      KeepsInterfaces (sessionBlocks lines) := by
  induction lines with
  | nil => simp [attachedSessions, sessionBlocks, KeepsInterfaces]
  | cons line lines ih =>
      cases hmatch : matchStart sessionRe line with
      | none =>
          have hnot : recognised line = false := by simp [recognised, hmatch]
          have hsessions : attachedSessions (line :: lines) =
              attachedSessions lines := by
            simp [attachedSessions, hmatch]
          rw [hsessions, sessionBlocks]
          by_cases hsession : isSessionLine line = true
          · rw [if_pos hsession, KeepsInterfaces,
              List.filterMap_cons_none
                (by simp [SessionBlock.session?, hmatch])]
            simp [hnot, ih]
          · rw [if_neg hsession]
            exact ih
      | some m =>
          have hrec : recognised line = true := by simp [recognised, hmatch]
          have hsessions : attachedSessions (line :: lines) =
              { sessionOf m with ifname := lateInterface lines } ::
                attachedSessions lines := by
            simp [attachedSessions, hmatch]
          have hblock : ∀ body, (SessionBlock.mk line body).session? =
              some { sessionOf m with
                ifname := (SessionBlock.mk line body).interface } := by
            intro body
            simp [SessionBlock.session?, hmatch]
          rw [hsessions, sessionBlocks,
            if_pos (isSessionLine_of_recognised hrec), KeepsInterfaces,
            List.filterMap_cons_some (hblock _), List.cons.injEq, ih,
            ← or_eq_right_iff, lateInterface_eq]
          simp only [hrec, true_imp_iff, ProcSession.mk.injEq, true_and,
            and_true]
          exact Iff.rfl

theorem parsePppol2tp_ownInterfaces (text : Text) :
    parsePppol2tp text =
        (sessionBlocks (splitlines text)).filterMap SessionBlock.session? ↔
      KeepsInterfaces (sessionBlocks (splitlines text)) := by
  rw [parsePppol2tp_eq]
  exact attachedSessions_eq_iff (splitlines text)

-- The line of the kernel's header that names the columns is not recognised.
example :
    KeepsInterfaces (sessionBlocks
      ["  SESSION name, addr/port/tid/sid dest-tid/sid state".toList,
        "  SESSION '', C0000202/1701 0064/03e8 -> 00c8/07d0".toList,
        "   interface ppp0".toList]) := by
  decide +kernel

/-- Two sessions, the second with a local tunnel id of five digits. -/
def listingWithWideId : Text :=
  unlines
    ["TUNNEL 'tunl 5430', Y 2".toList,
      "  SESSION 'sess a' 0A420001/1701 1536/0073 -> 0002/004F 3 Y".toList,
      "   interface l2tp155".toList,
      "  SESSION 'sess b' 0A420001/1701 11536/0074 -> 0003/0050 3 Y".toList,
      "   interface l2tp156".toList]

theorem parsePppol2tp_inheritsInterface :
    (sessionBlocks (splitlines listingWithWideId)).map
        (fun block => (recognised block.header, block.interface)) =
      [(true, some "l2tp155".toList), (false, some "l2tp156".toList)] ∧
    (parsePppol2tp listingWithWideId).map (fun s => (s.localTid, s.ifname)) =
      [(0x1536, some "l2tp156".toList)] ∧
    parsePppol2tp listingWithWideId ≠
      (sessionBlocks (splitlines listingWithWideId)).filterMap
        SessionBlock.session? := by
  decide +kernel

end L2tvpp.Syncd
