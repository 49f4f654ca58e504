import Mathlib.Data.List.ModifyLast
import L2tvpp.Lib.Dict
import L2tvpp.Lib.Pattern
import L2tvpp.Lib.Text

/-!
# The kernel's session and tunnel listings

How the daemon reads /proc/net/pppol2tp and the output of
`ip l2tp show tunnel`, and how it joins the two.
-/

namespace L2tvpp.Syncd

open L2tvpp.Lib Pattern

/-! ## Patterns -/

def spaces : PatternItem Char := .rep none isSpace 1 none

def optionalSpaces : PatternItem Char := .rep none isSpace 0 none

def hexGroup (name : String) (width : Nat) : PatternItem Char :=
  .rep (some name) isHex width (some width)

def decimalGroup (name : String) : PatternItem Char :=
  .rep (some name) isDecimal 1 none

def wordGroup (name : String) : PatternItem Char :=
  .rep (some name) (fun c => !isSpace c) 1 none

def sessionRe : Pattern Char :=
  [optionalSpaces, .lit "SESSION".toList, spaces, .lit "'".toList,
    .rep (some "name") (fun c => c != '\'') 0 none, .lit "'".toList,
    .rep none (fun c => c == ',') 0 (some 1), spaces, hexGroup "peer_ip" 8,
    .lit "/".toList, decimalGroup "peer_port", spaces, hexGroup "tid" 4,
    .lit "/".toList, hexGroup "sid" 4, spaces, .lit "->".toList, spaces,
    hexGroup "ptid" 4, .lit "/".toList, hexGroup "psid" 4]

def ifaceRe : Pattern Char :=
  [optionalSpaces, .lit "interface".toList, spaces, wordGroup "ifname"]

def tunnelRe : Pattern Char :=
  [.lit "Tunnel".toList, spaces, decimalGroup "tid", .lit ",".toList]

def fromToRe : Pattern Char :=
  [optionalSpaces, .lit "From".toList, spaces, wordGroup "local", spaces,
    .lit "to".toList, spaces, wordGroup "peer"]

def portsRe : Pattern Char :=
  [.lit "UDP source / dest ports:".toList, optionalSpaces,
    decimalGroup "sport", .lit "/".toList, decimalGroup "dport"]

/-! ## Sessions -/

structure ProcSession where
  name : Text
  peerIp : Text
  peerPort : Nat
  localTid : Nat
  localSid : Nat
  peerTid : Nat
  peerSid : Nat
  ifname : Option Text
  /-- Not set before `mergeTunnelEndpoints`. -/
  localIp : Option Text
  localPort : Option Nat
  deriving DecidableEq, Repr

def dottedQuad (a b c d : Nat) : Text :=
  decimalText a ++ '.' :: decimalText b ++ '.' :: decimalText c ++
    '.' :: decimalText d

def hexIp (h : Text) : Text :=
  let v := intOfHex h
  dottedQuad (v >>> 24 &&& 255) (v >>> 16 &&& 255) (v >>> 8 &&& 255) (v &&& 255)

def sessionOf (m : Captures Char) : ProcSession where
  name := m.group "name"
  peerIp := hexIp (m.group "peer_ip")
  peerPort := intOfDecimal (m.group "peer_port")
  localTid := intOfHex (m.group "tid")
  localSid := intOfHex (m.group "sid")
  peerTid := intOfHex (m.group "ptid")
  peerSid := intOfHex (m.group "psid")
  ifname := none
  localIp := none
  localPort := none

/-- The current session is the last one of the list. -/
def parseProcLine (sessions : List ProcSession) (line : Text) :
    List ProcSession :=
  match matchStart sessionRe line with
  | some m => sessions ++ [sessionOf m]
  | none =>
      match matchStart ifaceRe line with
      | some m =>
          sessions.modifyLast fun cur =>
            { cur with ifname := some (m.group "ifname") }
      | none => sessions

def parsePppol2tp (text : Text) : List ProcSession :=
  (splitlines text).foldl parseProcLine []

/-! ## Tunnels -/

structure TunnelEndpoints where
  localIp : Option Text := none
  peerIp : Option Text := none
  localPort : Nat := 1701
  peerPort : Nat := 1701
  deriving DecidableEq, Repr

structure TunnelListing where
  tunnels : Dict Nat TunnelEndpoints
  /-- The key under which the current entry stands. -/
  cur : Option Nat

def parseTunnelLine (listing : TunnelListing) (line : Text) : TunnelListing :=
  match matchStart tunnelRe line with
  | some m =>
      let tid := intOfDecimal (m.group "tid")
      { tunnels := listing.tunnels.set tid {}, cur := some tid }
  | none =>
      match listing.cur with
      | none => listing
      | some tid =>
          match matchStart fromToRe line with
          | some m =>
              { listing with
                tunnels := listing.tunnels.modify tid fun cur =>
                  { cur with
                    localIp := some (m.group "local")
                    peerIp := some (m.group "peer") } }
          | none =>
              match search portsRe line with
              | some m =>
                  { listing with
                    tunnels := listing.tunnels.modify tid fun cur =>
                      { cur with
                        localPort := intOfDecimal (m.group "sport")
                        peerPort := intOfDecimal (m.group "dport") } }
              | none => listing

def parseL2tpTunnels (text : Text) : Dict Nat TunnelEndpoints :=
  ((splitlines text).foldl parseTunnelLine ⟨.empty, none⟩).tunnels

/-! ## The join -/

def truthy (text : Option Text) : Bool := text.any fun text => !text.isEmpty

def mergeEndpoints (s : ProcSession) (t : TunnelEndpoints) : ProcSession :=
  let s :=
    if truthy t.localIp then
      { s with localIp := t.localIp, localPort := some t.localPort }
    else s
  if truthy t.peerIp then
    { s with peerIp := t.peerIp.getD s.peerIp, peerPort := t.peerPort }
  else s

def mergeTunnelEndpoints (sessions : List ProcSession)
    (tunnels : Dict Nat TunnelEndpoints) : List ProcSession :=
  sessions.map fun s =>
    match tunnels.get? s.localTid with
    | none => s
    | some t => mergeEndpoints s t

end L2tvpp.Syncd
