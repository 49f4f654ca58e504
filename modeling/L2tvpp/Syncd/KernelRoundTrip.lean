import L2tvpp.Lib.Bytes
import L2tvpp.Syncd.InterfaceLines

/-!
# The listings read back

The kernel's tunnels and sessions, the listings it prints of them, and what
the daemon reads there.
-/

namespace L2tvpp.Syncd

open L2tvpp.Lib Pattern

/-! ## The kernel's listings -/

def ipv4Text (addr : U32) : Text :=
  dottedQuad (addr.toNat / 2 ^ 24 % 256) (addr.toNat / 2 ^ 16 % 256)
    (addr.toNat / 2 ^ 8 % 256) (addr.toNat % 256)

/-- A further line of a tunnel, such as the one about the UDP checksum. -/
structure TunnelDetail where
  line : Text
  oneLine : OneLine line
  noTunnel : ¬ "Tunnel".toList <+: line
  noFrom : ¬ "From".toList <+: line.dropWhile isSpace
  noPorts : ¬ "UDP source / dest ports:".toList <:+: line

structure KernelTunnel where
  localAddr : U32
  peerAddr : U32
  localPort : Nat
  peerPort : Nat
  peerTid : Nat
  details : List TunnelDetail

namespace KernelTunnel

variable (t : KernelTunnel)

def headLine (tid : U16) : Text :=
  List.flatten
    ["Tunnel".toList, " ".toList, decimalText tid.toNat, ",".toList,
      " encap UDP".toList]

def fromToLine : Text :=
  List.flatten
    ["  ".toList, "From".toList, " ".toList, ipv4Text t.localAddr, " ".toList,
      "to".toList, " ".toList, ipv4Text t.peerAddr]

def peerLine : Text :=
  List.flatten ["  ".toList, "Peer tunnel ".toList, decimalText t.peerTid]

def portsLine : Text :=
  List.flatten
    ["  ".toList, "UDP source / dest ports:".toList, " ".toList,
      decimalText t.localPort, "/".toList, decimalText t.peerPort]

def lines (tid : U16) : List Text :=
  [headLine tid, t.fromToLine, t.peerLine, t.portsLine] ++
    t.details.map TunnelDetail.line

example :
    (KernelTunnel.mk 0x0A420001#32 0x0A420002#32 1701 1702 2 []).lines 5430 =
      ["Tunnel 5430, encap UDP".toList,
        "  From 10.66.0.1 to 10.66.0.2".toList,
        "  Peer tunnel 2".toList,
        "  UDP source / dest ports: 1701/1702".toList] := by
  decide +kernel

end KernelTunnel

/-- What `ip l2tp show tunnel` prints. -/
def tunnelText (tunnels : Dict U16 KernelTunnel) : Text :=
  unlines (tunnels.items.flatMap fun item => item.2.lines item.1)

/-- A header, TUNNEL or detail line.  The header has a line that starts with
SESSION, but no quotes. -/
structure ProcDetail where
  line : Text
  oneLine : OneLine line
  noInterface : interfaceName line = none
  noSession : isSessionLine line = true → '\'' ∉ line

structure KernelSession where
  name : { name : Text // OneLine name ∧ '\'' ∉ name }
  addr : U32
  port : Nat
  localTid : U16
  localSid : U16
  peerTid : U16
  peerSid : U16
  interface : Option { name : Text // IsWord name }

/-- A session with the way it is printed: the lines before it, the comma after
its name, the case of its hexadecimal digits, the end of its line and the
lines below it. -/
structure ProcEntry where
  session : KernelSession
  before : List ProcDetail
  comma : Bool
  upper : Nat → Nat → Bool
  trailer : { text : Text // OneLine text }
  details : List ProcDetail

namespace ProcEntry

variable (entry : ProcEntry)

def sessionLine : Text :=
  let s := entry.session
  List.flatten
    ["  ".toList, "SESSION".toList, " ".toList, "'".toList, s.name.val,
      "'".toList, if entry.comma then ",".toList else [], " ".toList,
      hexText (entry.upper 0) 8 s.addr.toNat, "/".toList, decimalText s.port,
      " ".toList, hexText (entry.upper 1) 4 s.localTid.toNat, "/".toList,
      hexText (entry.upper 2) 4 s.localSid.toNat, " ".toList, "->".toList,
      " ".toList, hexText (entry.upper 3) 4 s.peerTid.toNat, "/".toList,
      hexText (entry.upper 4) 4 s.peerSid.toNat, entry.trailer.val]

def interfaceLines : List Text :=
  entry.session.interface.toList.map fun name =>
    List.flatten ["   ".toList, "interface".toList, " ".toList, name.val]

def lines : List Text :=
  entry.before.map ProcDetail.line ++ entry.sessionLine ::
    (entry.details.map ProcDetail.line ++ entry.interfaceLines)

example :
    lines
        { session :=
            { name := ⟨"sess 5430/115".toList, by decide⟩
              addr := 0x0A420001
              port := 1701
              localTid := 5430
              localSid := 115
              peerTid := 2
              peerSid := 79
              interface := some ⟨"l2tp155".toList, by decide⟩ }
          before := []
          comma := false
          upper := fun _ _ => true
          trailer := ⟨" 3 Y".toList, by decide⟩
          details := [] } =
      ["  SESSION 'sess 5430/115' 0A420001/1701 1536/0073 -> 0002/004F 3 Y".toList,
        "   interface l2tp155".toList] := by
  decide +kernel

end ProcEntry

/-- What /proc/net/pppol2tp holds. -/
def procText (entries : List ProcEntry) (after : List ProcDetail) : Text :=
  unlines (entries.flatMap ProcEntry.lines ++ after.map ProcDetail.line)

/-! ## What the daemon should know -/

namespace KernelSession

/-- The session as its own line has it. -/
def listed (s : KernelSession) : ProcSession where
  name := s.name.val
  peerIp := ipv4Text s.addr
  peerPort := s.port
  localTid := s.localTid.toNat
  localSid := s.localSid.toNat
  peerTid := s.peerTid.toNat
  peerSid := s.peerSid.toNat
  ifname := s.interface.map Subtype.val
  localIp := none
  localPort := none

/-- The session with the endpoints of its tunnel. -/
def known (tunnels : Dict U16 KernelTunnel) (s : KernelSession) : ProcSession :=
  match tunnels.get? s.localTid with
  | none => s.listed
  | some t =>
      { s.listed with
        peerIp := ipv4Text t.peerAddr
        peerPort := t.peerPort
        localIp := some (ipv4Text t.localAddr)
        localPort := some t.localPort }

end KernelSession

/-! ## Steps of a match -/

section Steps

variable {items : Pattern Char} {tail : Text} {captures : Captures Char}
  {name : String}

theorem spaces_step (htail : ∀ c ∈ tail.head?, isSpace c = false)
    (h : matchStart items tail = some captures) :
    matchStart (spaces :: items) (" ".toList ++ tail) = some captures :=
  matchStart_rep_append (List.all_eq_true.mp rfl) (by decide)
    (.inr ⟨by simp, htail⟩) h

theorem indent_step {indent : Text} (hindent : indent.all isSpace = true)
    (htail : ∀ c ∈ tail.head?, isSpace c = false)
    (h : matchStart items tail = some captures) :
    matchStart (optionalSpaces :: items) (indent ++ tail) = some captures :=
  matchStart_rep_append (List.all_eq_true.mp hindent) (Nat.zero_le _)
    (.inr ⟨by simp, htail⟩) h

theorem decimalGroup_step (n : Nat)
    (htail : ∀ c ∈ tail.head?, isDecimal c = false)
    (h : matchStart items tail = some captures) :
    matchStart (decimalGroup name :: items) (decimalText n ++ tail) =
      some ((name, decimalText n) :: captures) :=
  matchStart_rep_append (fun _ => isDecimal_decimalText)
    (List.length_pos_iff.mpr (isWord_decimalText n).1)
    (.inr ⟨by simp, htail⟩) h

theorem wordGroup_step {word : Text} (hword : IsWord word)
    (htail : ∀ c ∈ tail.head?, isSpace c = true)
    (h : matchStart items tail = some captures) :
    matchStart (wordGroup name :: items) (word ++ tail) =
      some ((name, word) :: captures) :=
  matchStart_rep_append (fun c hc => by simp [hword.2 c hc])
    (List.length_pos_iff.mpr hword.1)
    (.inr ⟨by simp, fun c hc => by simp [htail c hc]⟩) h

theorem hexText_step (upper : Nat → Bool) (width n : Nat)
    (h : matchStart items tail = some captures) :
    matchStart (hexGroup name width :: items)
        (hexText upper width n ++ tail) =
      some ((name, hexText upper width n) :: captures) :=
  matchStart_rep_append (fun _ => isHex_hexText)
    (length_hexText upper width n).ge
    (.inl (congrArg some (length_hexText upper width n).symm)) h

theorem idPair_step {second : String} (upper upper' : Nat → Bool) (m n : Nat)
    (h : matchStart items tail = some captures) :
    matchStart
        (hexGroup name 4 :: .lit "/".toList :: hexGroup second 4 :: items)
        (hexText upper 4 m ++ ("/".toList ++ (hexText upper' 4 n ++ tail))) =
      some ((name, hexText upper 4 m) :: (second, hexText upper' 4 n) ::
        captures) := by
  apply hexText_step
  rw [matchStart_lit]
  exact hexText_step upper' 4 n h

end Steps

/-! ## SESSION lines -/

namespace ProcEntry

variable (entry : ProcEntry)

theorem comma_step {items : Pattern Char} {tail : Text}
    {captures : Captures Char} (comma : Bool)
    (h : matchStart items (" ".toList ++ tail) = some captures) :
    matchStart (.rep none (fun c => c == ',') 0 (some 1) :: items)
        ((if comma then ",".toList else []) ++ (" ".toList ++ tail)) =
      some captures := by
  cases comma with
  | false =>
      exact matchStart_rep_append (by simp) (by simp)
        (.inr ⟨by simp, by rintro c ⟨⟩; decide⟩) h
  | true =>
      exact matchStart_rep_append (List.all_eq_true.mp rfl) (by decide)
        (.inl rfl) h

theorem sessionRe_sessionLine :
    matchStart sessionRe entry.sessionLine =
      some
        [("name", entry.session.name.val),
          ("peer_ip", hexText (entry.upper 0) 8 entry.session.addr.toNat),
          ("peer_port", decimalText entry.session.port),
          ("tid", hexText (entry.upper 1) 4 entry.session.localTid.toNat),
          ("sid", hexText (entry.upper 2) 4 entry.session.localSid.toNat),
          ("ptid", hexText (entry.upper 3) 4 entry.session.peerTid.toNat),
          ("psid", hexText (entry.upper 4) 4 entry.session.peerSid.toNat)] := by
  have hname : ∀ c ∈ entry.session.name.val, (c != '\'') = true := by
    intro c hc
    rw [bne_iff_ne]
    rintro rfl
    exact entry.session.name.property.2 hc
  simp only [sessionRe, sessionLine, List.flatten_cons, List.flatten_nil]
  apply indent_step (by decide) (by rintro c ⟨⟩; decide)
  rw [matchStart_lit]
  apply spaces_step (by rintro c ⟨⟩; decide)
  rw [matchStart_lit]
  apply matchStart_rep_append hname (Nat.zero_le _)
    (.inr ⟨by simp, by rintro c ⟨⟩; decide⟩)
  rw [matchStart_lit]
  apply comma_step
  apply spaces_step (isWord_hexText _ _ _).head
  apply hexText_step
  rw [matchStart_lit]
  apply decimalGroup_step _ (by rintro c ⟨⟩; decide)
  apply spaces_step (isWord_hexText _ _ _).head
  apply idPair_step
  apply spaces_step (by rintro c ⟨⟩; decide)
  rw [matchStart_lit]
  apply spaces_step (isWord_hexText _ _ _).head
  apply idPair_step
  rfl

theorem hexIp_hexText (upper : Nat → Bool) (addr : U32) :
    hexIp (hexText upper 8 addr.toNat) = ipv4Text addr := by
  have hvalue : intOfHex (hexText upper 8 addr.toNat) = addr.toNat := by
    rw [intOfHex_hexText]
    exact Nat.mod_eq_of_lt addr.isLt
  have hoctet : ∀ n : Nat, n &&& 255 = n % 256 :=
    fun n => Nat.and_two_pow_sub_one_eq_mod n 8
  simp only [hexIp, hvalue, hoctet, Nat.shiftRight_eq_div_pow, ipv4Text]

theorem intOfHex_id (upper : Nat → Bool) (id : U16) :
    intOfHex (hexText upper 4 id.toNat) = id.toNat := by
  rw [intOfHex_hexText]
  exact Nat.mod_eq_of_lt id.isLt

theorem parseProcLine_sessionLine (sessions : List ProcSession) :
    parseProcLine sessions entry.sessionLine =
      sessions ++ [{ entry.session.listed with ifname := none }] := by
  rw [parseProcLine, entry.sessionRe_sessionLine]
  simp [sessionOf, Captures.group, List.lookup_cons, hexIp_hexText, intOfHex_id,
    intOfDecimal_decimalText, KernelSession.listed]

theorem parseProcLine_interface {name : Text} (hname : IsWord name)
    (sessions : List ProcSession) (s : ProcSession) :
    parseProcLine (sessions ++ [s])
        (List.flatten ["   ".toList, "interface".toList, " ".toList, name]) =
      sessions ++ [{ s with ifname := some name }] := by
  have hsession : isSessionLine
      (List.flatten ["   ".toList, "interface".toList, " ".toList, name]) =
        false := by
    rw [isSessionLine, decide_eq_false_iff_not]
    intro hpre
    exact absurd (List.cons_prefix_cons.mp hpre).1 (by decide)
  have hmatch : matchStart ifaceRe
      (List.flatten ["   ".toList, "interface".toList, " ".toList, name]) =
        some [("ifname", name)] := by
    simp only [ifaceRe, List.flatten_cons, List.flatten_nil]
    apply indent_step (by decide) (by rintro c ⟨⟩; decide)
    rw [matchStart_lit]
    apply spaces_step hname.head
    exact wordGroup_step hname (by simp) rfl
  rw [parseProcLine, sessionRe_none hsession, hmatch]
  exact List.modifyLast_concat _ s sessions

theorem parseProcLine_detail (detail : ProcDetail)
    (sessions : List ProcSession) :
    parseProcLine sessions detail.line = sessions := by
  obtain ⟨line, -, hinterface, hquote⟩ := detail
  have hnone : matchStart sessionRe line = none := by
    cases hsession : isSessionLine line with
    | false => exact sessionRe_none hsession
    | true =>
        by_contra hsome
        obtain ⟨captures, hmatch⟩ := Option.ne_none_iff_exists'.mp hsome
        have hlit : PatternItem.lit "'".toList ∈ sessionRe := by
          simp [sessionRe]
        have hwithin := isInfix_of_matchStart hlit hmatch
        exact hquote hsession (hwithin.subset (by decide))
  rw [parseProcLine_eq, hnone, hinterface]
  exact attach_none sessions

theorem foldl_details (details : List ProcDetail)
    (sessions : List ProcSession) :
    (details.map ProcDetail.line).foldl parseProcLine sessions = sessions := by
  induction details with
  | nil => rfl
  | cons detail details ih =>
      rw [List.map_cons, List.foldl_cons, parseProcLine_detail, ih]

theorem foldl_lines (sessions : List ProcSession) :
    entry.lines.foldl parseProcLine sessions =
      sessions ++ [entry.session.listed] := by
  rw [lines, List.foldl_append, foldl_details, List.foldl_cons,
    parseProcLine_sessionLine, List.foldl_append, foldl_details, interfaceLines]
  cases h : entry.session.interface with
  | none => simp [KernelSession.listed, h]
  | some name =>
      simp only [Option.toList_some, List.map_cons, List.map_nil,
        List.foldl_cons, List.foldl_nil]
      rw [parseProcLine_interface name.property]
      simp [KernelSession.listed, h]

theorem oneLine_sessionLine : OneLine entry.sessionLine := by
  have hcomma : OneLine (if entry.comma then ",".toList else []) := by
    cases entry.comma <;> decide
  simp only [sessionLine, List.flatten_cons, List.flatten_nil, oneLine_append,
    oneLine_hexText, oneLine_decimalText, hcomma,
    entry.session.name.property.1, entry.trailer.property, true_and]
  decide

theorem oneLine_lines {line : Text} (h : line ∈ entry.lines) :
    OneLine line := by
  rw [lines, List.mem_append, List.mem_cons, List.mem_append] at h
  rcases h with hbefore | rfl | hdetail | hinterface
  · obtain ⟨detail, -, rfl⟩ := List.mem_map.mp hbefore
    exact detail.oneLine
  · exact entry.oneLine_sessionLine
  · obtain ⟨detail, -, rfl⟩ := List.mem_map.mp hdetail
    exact detail.oneLine
  · obtain ⟨name, -, rfl⟩ := List.mem_map.mp hinterface
    have hname := name.property.oneLine
    simp only [List.flatten_cons, List.flatten_nil, oneLine_append, hname]
    decide

theorem foldl_entries (entries : List ProcEntry)
    (sessions : List ProcSession) :
    (entries.flatMap lines).foldl parseProcLine sessions =
      sessions ++ entries.map fun entry => entry.session.listed := by
  induction entries generalizing sessions with
  | nil => simp
  | cons entry entries ih =>
      rw [List.flatMap_cons, List.foldl_append, foldl_lines, ih,
        List.append_assoc]
      rfl

end ProcEntry

theorem parsePppol2tp_procText (entries : List ProcEntry)
    (after : List ProcDetail) :
    parsePppol2tp (procText entries after) =
      entries.map fun entry => entry.session.listed := by
  have hlines : ∀ line ∈ entries.flatMap ProcEntry.lines ++
      after.map ProcDetail.line, OneLine line := by
    intro line hline
    rcases List.mem_append.mp hline with hentry | hafter
    · obtain ⟨entry, -, hmem⟩ := List.mem_flatMap.mp hentry
      exact entry.oneLine_lines hmem
    · obtain ⟨detail, -, rfl⟩ := List.mem_map.mp hafter
      exact detail.oneLine
  rw [parsePppol2tp, procText, splitlines_unlines hlines, List.foldl_append,
    ProcEntry.foldl_entries, ProcEntry.foldl_details, List.nil_append]

/-! ## Tunnel lines -/

theorem isSpace_dottedQuad {m n p q : Nat} {c : Char}
    (hc : c ∈ dottedQuad m n p q) : isSpace c = false := by
  have hdecimal : ∀ n : Nat, c ∈ decimalText n → isSpace c = false :=
    fun n => (isWord_decimalText n).2 c
  simp only [dottedQuad, List.mem_append, List.mem_cons] at hc
  rcases hc with ((hc | rfl | hc) | rfl | hc) | rfl | hc
  all_goals first | exact hdecimal _ hc | decide

theorem isWord_ipv4Text (addr : U32) : IsWord (ipv4Text addr) :=
  ⟨List.append_ne_nil_of_right_ne_nil _ (List.cons_ne_nil _ _),
    fun _ hc => isSpace_dottedQuad hc⟩

namespace KernelTunnel

variable (t : KernelTunnel)

theorem tunnelRe_headLine (tid : U16) :
    matchStart tunnelRe (headLine tid) =
      some [("tid", decimalText tid.toNat)] := by
  unfold headLine tunnelRe
  simp only [List.flatten_cons, List.flatten_nil]
  rw [matchStart_lit]
  apply spaces_step (isWord_decimalText _).head
  apply decimalGroup_step _ (by rintro c ⟨⟩; decide)
  rw [matchStart_lit]
  rfl

/-- The lines below the first one are indented. -/
theorem not_tunnel_indented (rest : Text) :
    ¬ "Tunnel".toList <+: "  ".toList ++ rest := by
  intro hpre
  exact absurd (List.cons_prefix_cons.mp hpre).1 (by decide)

theorem not_from_indented {c : Char} (rest : Text) (hc : c ≠ 'F')
    (hspace : isSpace c = false) :
    ¬ "From".toList <+: ("  ".toList ++ c :: rest).dropWhile isSpace := by
  rw [List.dropWhile_append_of_pos (List.all_eq_true.mp rfl),
    List.dropWhile_cons_of_neg (by simp [hspace])]
  intro hpre
  exact hc (List.cons_prefix_cons.mp hpre).1.symm

theorem fromToRe_fromToLine :
    matchStart fromToRe t.fromToLine =
      some [("local", ipv4Text t.localAddr), ("peer", ipv4Text t.peerAddr)] := by
  simp only [fromToRe, fromToLine, List.flatten_cons, List.flatten_nil]
  apply indent_step (by decide) (by rintro c ⟨⟩; decide)
  rw [matchStart_lit]
  apply spaces_step (isWord_ipv4Text _).head
  apply wordGroup_step (isWord_ipv4Text _) (by rintro c ⟨⟩; decide)
  apply spaces_step (by rintro c ⟨⟩; decide)
  rw [matchStart_lit]
  apply spaces_step (isWord_ipv4Text _).head
  exact wordGroup_step (isWord_ipv4Text _) (by simp) rfl

theorem portsRe_portsLine :
    search portsRe t.portsLine =
      some [("sport", decimalText t.localPort),
        ("dport", decimalText t.peerPort)] := by
  simp only [portsRe, portsLine, List.flatten_cons, List.flatten_nil]
  apply search_append rfl "  ".toList (by decide)
  rw [matchStart_lit]
  apply indent_step (by decide) (isWord_decimalText _).head
  apply decimalGroup_step _ (by rintro c ⟨⟩; decide)
  rw [matchStart_lit]
  exact decimalGroup_step _ (by simp) rfl

/-! ## What a tunnel's lines do -/

def endpoints : TunnelEndpoints where
  localIp := some (ipv4Text t.localAddr)
  peerIp := some (ipv4Text t.peerAddr)
  localPort := t.localPort
  peerPort := t.peerPort

theorem fromToRe_none {line : Text}
    (h : ¬ "From".toList <+: line.dropWhile isSpace) :
    matchStart fromToRe line = none :=
  (matchStart_skip _ line (by decide)).trans (matchStart_lit_none _ h)

theorem parseTunnelLine_other {line : Text} (listing : TunnelListing)
    (htunnel : ¬ "Tunnel".toList <+: line)
    (hfrom : ¬ "From".toList <+: line.dropWhile isSpace)
    (hports : ¬ "UDP source / dest ports:".toList <:+: line) :
    parseTunnelLine listing line = listing := by
  have hsearch : search portsRe line = none := by
    by_contra hsome
    obtain ⟨captures, hmatch⟩ := Option.ne_none_iff_exists'.mp hsome
    exact hports (isInfix_of_search List.mem_cons_self hmatch)
  have hhead : matchStart tunnelRe line = none := matchStart_lit_none _ htunnel
  rw [parseTunnelLine, hhead, fromToRe_none hfrom, hsearch]
  cases listing.cur <;> rfl

variable {listing : TunnelListing} {tid : Nat}

theorem parseTunnelLine_headLine (listing : TunnelListing) (tid : U16) :
    parseTunnelLine listing (headLine tid) =
      ⟨listing.tunnels.set tid.toNat {}, some tid.toNat⟩ := by
  rw [parseTunnelLine, tunnelRe_headLine]
  simp [Captures.group, intOfDecimal_decimalText]

theorem parseTunnelLine_fromToLine (hcur : listing.cur = some tid) :
    parseTunnelLine listing t.fromToLine =
      { listing with
        tunnels := listing.tunnels.modify tid fun cur =>
          { cur with
            localIp := some (ipv4Text t.localAddr)
            peerIp := some (ipv4Text t.peerAddr) } } := by
  have htunnel : matchStart tunnelRe t.fromToLine = none :=
    matchStart_lit_none _ (not_tunnel_indented _)
  rw [parseTunnelLine, htunnel, hcur, fromToRe_fromToLine]
  rfl

theorem parseTunnelLine_portsLine (hcur : listing.cur = some tid) :
    parseTunnelLine listing t.portsLine =
      { listing with
        tunnels := listing.tunnels.modify tid fun cur =>
          { cur with
            localPort := t.localPort
            peerPort := t.peerPort } } := by
  have htunnel : matchStart tunnelRe t.portsLine = none :=
    matchStart_lit_none _ (not_tunnel_indented _)
  have hfrom : matchStart fromToRe t.portsLine = none :=
    fromToRe_none (not_from_indented _ (by decide) (by decide))
  rw [parseTunnelLine, htunnel, hcur, hfrom, portsRe_portsLine]
  simp [Captures.group, List.lookup_cons, intOfDecimal_decimalText]

theorem parseTunnelLine_peerLine (listing : TunnelListing) :
    parseTunnelLine listing t.peerLine = listing := by
  have hports : ¬ "UDP source / dest ports:".toList <:+: t.peerLine := by
    intro hwithin
    have hmem : 'U' ∈ t.peerLine := hwithin.subset List.mem_cons_self
    have hdigit : 'U' ∈ decimalText t.peerTid := by
      simpa [peerLine] using hmem
    exact absurd (isDigit_decimalText hdigit) (by decide)
  exact parseTunnelLine_other listing (not_tunnel_indented _)
    (not_from_indented _ (by decide) (by decide)) hports

theorem parseTunnelLine_detail (detail : TunnelDetail)
    (listing : TunnelListing) :
    parseTunnelLine listing detail.line = listing :=
  parseTunnelLine_other listing detail.noTunnel detail.noFrom detail.noPorts

theorem foldl_details (details : List TunnelDetail)
    (listing : TunnelListing) :
    (details.map TunnelDetail.line).foldl parseTunnelLine listing =
      listing := by
  induction details with
  | nil => rfl
  | cons detail details ih =>
      rw [List.map_cons, List.foldl_cons, parseTunnelLine_detail, ih]

theorem foldl_lines (listing : TunnelListing) (tid : U16) (key : Nat) :
    ((t.lines tid).foldl parseTunnelLine listing).tunnels.get? key =
      if key = tid.toNat then some t.endpoints
      else listing.tunnels.get? key := by
  rw [lines, List.foldl_append, foldl_details, List.foldl_cons,
    parseTunnelLine_headLine, List.foldl_cons,
    parseTunnelLine_fromToLine t rfl, List.foldl_cons,
    parseTunnelLine_peerLine, List.foldl_cons, parseTunnelLine_portsLine t rfl,
    List.foldl_nil]
  simp only [Dict.get?_modify, Dict.get?_set]
  by_cases hkey : key = tid.toNat
  · simp [hkey, endpoints]
  · simp [hkey]

theorem foldl_items (items : List (U16 × KernelTunnel))
    (hnodup : (items.map Prod.fst).Nodup) (listing : TunnelListing)
    (tid : U16) :
    ((items.flatMap fun item => item.2.lines item.1).foldl parseTunnelLine
        listing).tunnels.get? tid.toNat =
      ((Dict.lookupItems tid items).map endpoints).or
        (listing.tunnels.get? tid.toNat) := by
  induction items generalizing listing with
  | nil => rfl
  | cons item items ih =>
      obtain ⟨other, t⟩ := item
      rw [List.map_cons, List.nodup_cons] at hnodup
      rw [List.flatMap_cons, List.foldl_append, ih hnodup.2, foldl_lines,
        Dict.lookupItems]
      by_cases hother : other = tid
      · subst hother
        have hnone : Dict.lookupItems other items = none := by
          by_contra hsome
          obtain ⟨later, hlater⟩ := Option.ne_none_iff_exists'.mp hsome
          exact hnodup.1
            (List.mem_map.mpr ⟨_, Dict.mem_of_lookupItems hlater, rfl⟩)
        simp [hnone]
      · have hne : tid.toNat ≠ other.toNat := by
          rw [ne_eq, BitVec.toNat_inj]
          exact Ne.symm hother
        simp [hother, hne]

theorem oneLine_lines {tid : U16} {line : Text} (h : line ∈ t.lines tid) :
    OneLine line := by
  have haddr : ∀ addr, OneLine (ipv4Text addr) :=
    fun addr => (isWord_ipv4Text addr).oneLine
  rcases List.mem_append.mp h with hline | hdetail
  · simp only [List.mem_cons, List.not_mem_nil, or_false] at hline
    rcases hline with rfl | rfl | rfl | rfl
    · unfold headLine
      simp only [List.flatten_cons, List.flatten_nil, oneLine_append,
        oneLine_decimalText, true_and]
      decide
    · unfold fromToLine
      simp only [List.flatten_cons, List.flatten_nil, oneLine_append, haddr,
        true_and]
      decide
    · unfold peerLine
      simp only [List.flatten_cons, List.flatten_nil, oneLine_append,
        oneLine_decimalText, true_and]
      decide
    · unfold portsLine
      simp only [List.flatten_cons, List.flatten_nil, oneLine_append,
        oneLine_decimalText, true_and]
      decide
  · obtain ⟨detail, -, rfl⟩ := List.mem_map.mp hdetail
    exact detail.oneLine

end KernelTunnel

theorem parseL2tpTunnels_tunnelText (tunnels : Dict U16 KernelTunnel)
    (tid : U16) :
    (parseL2tpTunnels (tunnelText tunnels)).get? tid.toNat =
      (tunnels.get? tid).map KernelTunnel.endpoints := by
  have hlines : ∀ line ∈ tunnels.items.flatMap fun item =>
      item.2.lines item.1, OneLine line := by
    intro line hline
    obtain ⟨item, -, hmem⟩ := List.mem_flatMap.mp hline
    exact item.2.oneLine_lines hmem
  rw [parseL2tpTunnels, tunnelText, splitlines_unlines hlines,
    KernelTunnel.foldl_items tunnels.items tunnels.nodup, Dict.get?_empty,
    Option.or_none]
  rfl

/-! ## The join -/

theorem mergeEndpoints_endpoints (s : KernelSession) (t : KernelTunnel) :
    mergeEndpoints s.listed t.endpoints =
      { s.listed with
        peerIp := ipv4Text t.peerAddr
        peerPort := t.peerPort
        localIp := some (ipv4Text t.localAddr)
        localPort := some t.localPort } := by
  have htruthy : ∀ addr, truthy (some (ipv4Text addr)) = true := by
    intro addr
    simp [truthy, (isWord_ipv4Text addr).1]
  simp [mergeEndpoints, KernelTunnel.endpoints, htruthy]

theorem mergeTunnelEndpoints_recovers (tunnels : Dict U16 KernelTunnel)
    (entries : List ProcEntry) (after : List ProcDetail) :
    mergeTunnelEndpoints (parsePppol2tp (procText entries after))
        (parseL2tpTunnels (tunnelText tunnels)) =
      entries.map fun entry => entry.session.known tunnels := by
  rw [parsePppol2tp_procText, mergeTunnelEndpoints, List.map_map]
  apply List.map_congr_left
  intro entry _
  have htid : entry.session.listed.localTid = entry.session.localTid.toNat :=
    rfl
  simp only [Function.comp_apply, htid, parseL2tpTunnels_tunnelText,
    KernelSession.known]
  cases tunnels.get? entry.session.localTid with
  | none => rfl
  | some t => exact mergeEndpoints_endpoints entry.session t

end L2tvpp.Syncd
