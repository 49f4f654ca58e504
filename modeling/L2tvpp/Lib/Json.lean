import L2tvpp.Lib.Dict
import L2tvpp.Lib.Text

/-!
# JSON text

Values, the indented text that Python's `json.dump` writes with `indent=2`, and
the scanner behind `json.load`.
-/

namespace L2tvpp.Lib

/-- The code points of a Python string; a lone surrogate is one of them. -/
abbrev CodePoints := List Nat

def codePoints (text : Text) : CodePoints := text.map Char.toNat

/-- The members of an object are in the order in which their keys first came.
A number with a fraction or an exponent is kept as its literal. -/
inductive Json where
  | null
  | bool (value : Bool)
  | int (value : Int)
  | float (literal : Text)
  | string (value : CodePoints)
  | array (items : List Json)
  | object (members : List (CodePoints × Json))

/-! ## Strings -/

def isHighSurrogate (unit : Nat) : Bool := 0xD800 ≤ unit && unit < 0xDC00

def isLowSurrogate (unit : Nat) : Bool := 0xDC00 ≤ unit && unit < 0xE000

def joinSurrogates : List Nat → CodePoints
  | high :: low :: units =>
      if isHighSurrogate high && isLowSurrogate low then
        (0x10000 + (high - 0xD800) * 0x400 + (low - 0xDC00)) ::
          joinSurrogates units
      else high :: joinSurrogates (low :: units)
  | units => units

def splitSurrogates (points : CodePoints) : List Nat :=
  points.flatMap fun point =>
    if point < 0x10000 then [point]
    else [0xD800 + (point - 0x10000) / 0x400 % 0x400,
      0xDC00 + (point - 0x10000) % 0x400]

/-- `ESCAPE_DCT`, for the characters that have a letter. -/
def escapeLetter? (unit : Nat) : Option Char :=
  match unit with
  | 8 => some 'b'
  | 9 => some 't'
  | 10 => some 'n'
  | 12 => some 'f'
  | 13 => some 'r'
  | 34 => some '"'
  | 92 => some '\\'
  | _ => none

def lowerHex (n : Nat) : Text := hexText (fun _ => false) 4 n

def escapeUnit (unit : Nat) : Text :=
  match escapeLetter? unit with
  | some letter => ['\\', letter]
  | none =>
      if 32 ≤ unit ∧ unit < 127 then [Char.ofNat unit]
      else '\\' :: 'u' :: lowerHex unit

def printString (points : CodePoints) : Text :=
  '"' :: (splitSurrogates points).flatMap escapeUnit ++ ['"']

/-- What a letter behind a backslash stands for. -/
def unescape? : Char → Option Nat
  | '"' => some 34
  | '\\' => some 92
  | '/' => some 47
  | 'b' => some 8
  | 'f' => some 12
  | 'n' => some 10
  | 'r' => some 13
  | 't' => some 9
  | _ => none

/-- The rest of a string up to its quote; a control character ends the scan
with an error. -/
def scanUnits : Text → Option (List Nat × Text)
  | [] => none
  | '"' :: rest => some ([], rest)
  | '\\' :: 'u' :: a :: b :: c :: d :: rest =>
      if [a, b, c, d].all isHex then
        (scanUnits rest).map fun (units, rest) =>
          (intOfHex [a, b, c, d] :: units, rest)
      else none
  | '\\' :: letter :: rest =>
      (unescape? letter).bind fun unit =>
        (scanUnits rest).map fun (units, rest) => (unit :: units, rest)
  | c :: rest =>
      if c.toNat < 32 then none
      else
        (scanUnits rest).map fun (units, rest) => (c.toNat :: units, rest)

def scanString (text : Text) : Option (CodePoints × Text) :=
  (scanUnits text).map fun (units, rest) => (joinSurrogates units, rest)

/-! ## Numbers and constants -/

def intText (n : Int) : Text :=
  if n < 0 then '-' :: decimalText n.natAbs else decimalText n.natAbs

/-- A point and at least one digit. -/
def fraction : Text → Text
  | '.' :: rest =>
      let digits := rest.takeWhile Char.isDigit
      if digits.isEmpty then [] else '.' :: digits
  | _ => []

/-- An `e`, an optional sign and at least one digit. -/
def exponent : Text → Text
  | e :: rest =>
      if e = 'e' ∨ e = 'E' then
        let sign := (rest.take 1).filter fun c => c == '+' || c == '-'
        let digits := (rest.drop sign.length).takeWhile Char.isDigit
        if digits.isEmpty then [] else e :: sign ++ digits
      else []
  | [] => []

/-- A number behind its sign. -/
def scanMagnitude (sign text : Text) : Option (Json × Text) :=
  let digits :=
    if text.head? = some '0' then ['0'] else text.takeWhile Char.isDigit
  let rest := text.drop digits.length
  let tail := fraction rest ++ exponent (rest.drop (fraction rest).length)
  if digits.isEmpty then none
  else if tail.isEmpty then
    let n : Int := intOfDecimal digits
    some (.int (if sign.isEmpty then n else -n), rest)
  else some (.float (sign ++ digits ++ tail), rest.drop tail.length)

def scanNumber : Text → Option (Json × Text)
  | '-' :: text => scanMagnitude ['-'] text
  | text => scanMagnitude [] text

/-- The words that stand for a value.  Python takes three more numbers. -/
def constants : List (Text × Json) :=
  [("null".toList, .null), ("true".toList, .bool true),
    ("false".toList, .bool false), ("NaN".toList, .float "NaN".toList),
    ("Infinity".toList, .float "Infinity".toList),
    ("-Infinity".toList, .float "-Infinity".toList)]

def scanScalar (text : Text) : Option (Json × Text) :=
  match constants.find? fun constant => constant.1.isPrefixOf text with
  | some (word, value) => some (value, text.drop word.length)
  | none => scanNumber text

/-! ## Values -/

def isJsonSpace (c : Char) : Bool :=
  c == ' ' || c == '\t' || c == '\n' || c == '\r'

def skipSpace (text : Text) : Text := text.dropWhile isJsonSpace

/-- The items of an array up to the closing bracket.  Every round takes text,
so that more rounds than there is text are enough. -/
def scanItems (scan : Text → Option (Json × Text)) :
    Nat → Text → Option (List Json × Text)
  | 0, _ => none
  | rounds + 1, text =>
      (scan text).bind fun (value, rest) =>
        match skipSpace rest with
        | ']' :: rest => some ([value], rest)
        | ',' :: rest =>
            (scanItems scan rounds (skipSpace rest)).map fun (items, rest) =>
              (value :: items, rest)
        | _ => none

/-- The members of an object up to the closing brace; a key that came before
keeps its place and gets the later value. -/
def scanMembers (scan : Text → Option (Json × Text)) :
    Nat → List (CodePoints × Json) → Text →
      Option (List (CodePoints × Json) × Text)
  | 0, _, _ => none
  | rounds + 1, members, text =>
      match text with
      | '"' :: rest =>
          (scanString rest).bind fun (key, rest) =>
            match skipSpace rest with
            | ':' :: rest =>
                (scan (skipSpace rest)).bind fun (value, rest) =>
                  let members := Dict.setItems key value members
                  match skipSpace rest with
                  | '}' :: rest => some (members, rest)
                  | ',' :: rest =>
                      scanMembers scan rounds members (skipSpace rest)
                  | _ => none
            | _ => none
      | _ => none

/-- `scan_once`.  Nested values have less text before them, so that fuel above
the length of the text is enough. -/
def scanValue : Nat → Text → Option (Json × Text)
  | 0, _ => none
  | fuel + 1, text =>
      match text with
      | '"' :: rest =>
          (scanString rest).map fun (value, rest) => (.string value, rest)
      | '{' :: rest =>
          match skipSpace rest with
          | '}' :: rest => some (.object [], rest)
          | rest =>
              (scanMembers (scanValue fuel) fuel [] rest).map
                fun (members, rest) => (.object members, rest)
      | '[' :: rest =>
          match skipSpace rest with
          | ']' :: rest => some (.array [], rest)
          | rest =>
              (scanItems (scanValue fuel) fuel rest).map
                fun (items, rest) => (.array items, rest)
      | text => scanScalar text

/-- `json.loads`; `none` is a `JSONDecodeError`. -/
def loadsJson (text : Text) : Option Json := do
  let (value, rest) ← scanValue (text.length + 1) (skipSpace text)
  if (skipSpace rest).isEmpty then return value else none

def newline (level : Nat) : Text := '\n' :: List.replicate (2 * level) ' '

mutual

/-- `json.dumps` with `indent=2`, at a depth of nesting. -/
def dumpValue (level : Nat) : Json → Text
  | .null => "null".toList
  | .bool true => "true".toList
  | .bool false => "false".toList
  | .int n => intText n
  | .float literal => literal
  | .string value => printString value
  | .array [] => "[]".toList
  | .array (item :: items) =>
      '[' :: newline (level + 1) ++ dumpValue (level + 1) item ++
        dumpItems (level + 1) items ++ newline level ++ [']']
  | .object [] => "{}".toList
  | .object ((key, value) :: members) =>
      '{' :: newline (level + 1) ++ printString key ++ [':', ' '] ++
        dumpValue (level + 1) value ++ dumpMembers (level + 1) members ++
        newline level ++ ['}']

def dumpItems (level : Nat) : List Json → Text
  | [] => []
  | item :: items =>
      ',' :: newline level ++ dumpValue level item ++ dumpItems level items

def dumpMembers (level : Nat) : List (CodePoints × Json) → Text
  | [] => []
  | (key, value) :: members =>
      ',' :: newline level ++ printString key ++ [':', ' '] ++
        dumpValue level value ++ dumpMembers level members

end

def dumpsJson (value : Json) : Text := dumpValue 0 value

/-! ## Fuel above the length of the text is enough -/

section Enough

variable {text rest : Text}

theorem length_skipSpace (text : Text) :
    (skipSpace text).length ≤ text.length :=
  (List.dropWhile_suffix isJsonSpace).length_le

theorem length_scanUnits {scanned : List Nat × Text}
    (h : scanUnits text = some scanned) : scanned.2.length < text.length := by
  fun_induction scanUnits text generalizing scanned with
  | case1 => contradiction
  | case2 tail =>
      cases h
      simp
  | case3 a b c d tail hhex ih =>
      obtain ⟨inner, hinner, rfl⟩ := Option.map_eq_some_iff.mp h
      have hlt := ih hinner
      simp only [List.length_cons]
      omega
  | case4 => contradiction
  | case5 letter tail hnot ih =>
      obtain ⟨unit, -, hrest⟩ := Option.bind_eq_some_iff.mp h
      obtain ⟨inner, hinner, rfl⟩ := Option.map_eq_some_iff.mp hrest
      have hlt := ih hinner
      simp only [List.length_cons]
      omega
  | case6 => contradiction
  | case7 c tail hquote hslash hlong hctl ih =>
      obtain ⟨inner, hinner, rfl⟩ := Option.map_eq_some_iff.mp h
      have hlt := ih hinner
      simp only [List.length_cons]
      omega

theorem length_scanString {scanned : CodePoints × Text}
    (h : scanString text = some scanned) :
    scanned.2.length < text.length := by
  obtain ⟨inner, hinner, rfl⟩ := Option.map_eq_some_iff.mp h
  have hlt := length_scanUnits hinner
  exact hlt

theorem length_scanMagnitude {sign : Text} {scanned : Json × Text}
    (h : scanMagnitude sign text = some scanned) :
    scanned.2.length < text.length := by
  have hpos : 0 < text.length := by
    cases text with
    | nil => simp [scanMagnitude] at h
    | cons c text => simp
  unfold scanMagnitude at h
  generalize (if text.head? = some '0' then ['0']
    else text.takeWhile Char.isDigit) = digits at h
  cases digits with
  | nil => contradiction
  | cons digit digits =>
      simp only [List.isEmpty_cons, Bool.false_eq_true, if_false] at h
      split at h <;> cases h <;> simp only [List.length_drop,
        List.length_cons] <;> omega

theorem length_scanScalar {scanned : Json × Text}
    (h : scanScalar text = some scanned) :
    scanned.2.length < text.length := by
  unfold scanScalar at h
  split at h
  · rename_i word value hfind
    cases h
    have hword : ∀ constant ∈ constants, 0 < constant.1.length := by decide
    have hpos : 0 < word.length := hword _ (List.mem_of_find?_eq_some hfind)
    have hfound : word.isPrefixOf text = true := by
      simpa using List.find?_some hfind
    have hle := (List.isPrefixOf_iff_prefix.mp hfound).length_le
    simp only [List.length_drop]
    omega
  · unfold scanNumber at h
    split at h
    · have hlt := length_scanMagnitude h
      simp only [List.length_cons]
      omega
    · exact length_scanMagnitude h

theorem length_scanItems {scan : Text → Option (Json × Text)} {rounds : Nat}
    (hscan : ∀ {text scanned}, scan text = some scanned →
      scanned.2.length < text.length) {scanned : List Json × Text}
    (h : scanItems scan rounds text = some scanned) :
    scanned.2.length < text.length := by
  induction rounds generalizing text scanned with
  | zero => contradiction
  | succ rounds ih =>
      obtain ⟨⟨value, tail⟩, hvalue, hrest⟩ := Option.bind_eq_some_iff.mp h
      have hlt := hscan hvalue
      have hle := length_skipSpace tail
      simp only [] at hrest hlt
      split at hrest
      · rename_i heq
        cases hrest
        rw [heq, List.length_cons] at hle
        dsimp only
        omega
      · rename_i more heq
        obtain ⟨inner, hinner, rfl⟩ := Option.map_eq_some_iff.mp hrest
        have hinner := ih hinner
        have hmore := length_skipSpace more
        rw [heq, List.length_cons] at hle
        dsimp only
        omega
      · contradiction

theorem length_scanMembers {scan : Text → Option (Json × Text)} {rounds : Nat}
    (hscan : ∀ {text scanned}, scan text = some scanned →
      scanned.2.length < text.length) {members : List (CodePoints × Json)}
    {scanned : List (CodePoints × Json) × Text}
    (h : scanMembers scan rounds members text = some scanned) :
    scanned.2.length < text.length := by
  induction rounds generalizing text members scanned with
  | zero => contradiction
  | succ rounds ih =>
      unfold scanMembers at h
      split at h
      · rename_i tail
        obtain ⟨⟨key, rest⟩, hkey, h⟩ := Option.bind_eq_some_iff.mp h
        have hkeyLt := length_scanString hkey
        have hkeyLe := length_skipSpace rest
        simp only [] at h hkeyLt
        split at h
        · rename_i behind hcolon
          obtain ⟨⟨value, rest'⟩, hvalue, h⟩ := Option.bind_eq_some_iff.mp h
          have hvalueLt := hscan hvalue
          have hbehind := length_skipSpace behind
          have hvalueLe := length_skipSpace rest'
          rw [hcolon, List.length_cons] at hkeyLe
          simp only [] at h hvalueLt
          split at h
          · rename_i heq
            cases h
            rw [heq, List.length_cons] at hvalueLe
            simp only [List.length_cons]
            omega
          · rename_i more heq
            have hinner := ih h
            have hmore := length_skipSpace more
            rw [heq, List.length_cons] at hvalueLe
            simp only [List.length_cons]
            omega
          · contradiction
        · contradiction
      · contradiction

theorem length_scanValue {fuel : Nat} {scanned : Json × Text}
    (h : scanValue fuel text = some scanned) :
    scanned.2.length < text.length := by
  induction fuel generalizing text scanned with
  | zero => contradiction
  | succ fuel ih =>
      unfold scanValue at h
      split at h
      · obtain ⟨inner, hinner, rfl⟩ := Option.map_eq_some_iff.mp h
        have hlt := length_scanString hinner
        simp only [List.length_cons]
        omega
      · rename_i tail
        have hle := length_skipSpace tail
        split at h
        · rename_i heq
          cases h
          rw [heq, List.length_cons] at hle
          simp only [List.length_cons]
          omega
        · obtain ⟨inner, hinner, rfl⟩ := Option.map_eq_some_iff.mp h
          have hlt := length_scanMembers ih hinner
          simp only [List.length_cons]
          omega
      · rename_i tail
        have hle := length_skipSpace tail
        split at h
        · rename_i heq
          cases h
          rw [heq, List.length_cons] at hle
          simp only [List.length_cons]
          omega
        · obtain ⟨inner, hinner, rfl⟩ := Option.map_eq_some_iff.mp h
          have hlt := length_scanItems ih hinner
          simp only [List.length_cons]
          omega
      · exact length_scanScalar h

variable {scan scan' : Text → Option (Json × Text)} {limit : Nat}

theorem scanItems_congr
    (hscan : ∀ {text scanned}, scan text = some scanned →
      scanned.2.length < text.length)
    (hsame : ∀ text, text.length ≤ limit → scan text = scan' text)
    {rounds rounds' : Nat} (htext : text.length ≤ limit)
    (hrounds : text.length < rounds) (hrounds' : text.length < rounds') :
    scanItems scan rounds text = scanItems scan' rounds' text := by
  induction rounds generalizing text rounds' with
  | zero => contradiction
  | succ rounds ih =>
      cases rounds' with
      | zero => contradiction
      | succ rounds' =>
          unfold scanItems
          rw [← hsame text htext]
          refine Option.bind_congr fun scanned hscanned => ?_
          have hlt := hscan hscanned
          have hle := length_skipSpace scanned.2
          dsimp only
          split
          · rfl
          · rename_i more heq
            have hmore := length_skipSpace more
            rw [heq, List.length_cons] at hle
            have hrest : scanItems scan rounds (skipSpace more) =
                scanItems scan' rounds' (skipSpace more) :=
              ih (by omega) (by omega) (by omega)
            rw [hrest]
          · rfl

theorem scanMembers_congr
    (hscan : ∀ {text scanned}, scan text = some scanned →
      scanned.2.length < text.length)
    (hsame : ∀ text, text.length ≤ limit → scan text = scan' text)
    {rounds rounds' : Nat} (htext : text.length ≤ limit)
    (hrounds : text.length < rounds) (hrounds' : text.length < rounds')
    (members : List (CodePoints × Json)) :
    scanMembers scan rounds members text =
      scanMembers scan' rounds' members text := by
  induction rounds generalizing text rounds' members with
  | zero => contradiction
  | succ rounds ih =>
      cases rounds' with
      | zero => contradiction
      | succ rounds' =>
          unfold scanMembers
          split
          · rename_i tail
            refine Option.bind_congr fun scanned hscanned => ?_
            have hkey := length_scanString hscanned
            have hle := length_skipSpace scanned.2
            rw [List.length_cons] at htext hrounds hrounds'
            dsimp only
            split
            · rename_i behind hcolon
              have hbehind := length_skipSpace behind
              rw [hcolon, List.length_cons] at hle
              rw [← hsame _ (by omega)]
              refine Option.bind_congr fun value hvalue => ?_
              have hlt := hscan hvalue
              have hleValue := length_skipSpace value.2
              split
              · rfl
              · rename_i more heq
                have hmore := length_skipSpace more
                rw [heq, List.length_cons] at hleValue
                exact ih (by omega) (by omega) (by omega) _
              · rfl
            · rfl
          · rfl

theorem scanValue_congr {fuel fuel' : Nat} (hfuel : text.length < fuel)
    (hfuel' : text.length < fuel') :
    scanValue fuel text = scanValue fuel' text := by
  induction fuel generalizing text fuel' with
  | zero => contradiction
  | succ fuel ih =>
      cases fuel' with
      | zero => contradiction
      | succ fuel' =>
          have hsame : ∀ {limit : Nat}, limit < fuel → limit < fuel' →
              ∀ text : Text, text.length ≤ limit →
                scanValue fuel text = scanValue fuel' text :=
            fun hlt hlt' _ hle => ih (by omega) (by omega)
          unfold scanValue
          split
          · rfl
          · rename_i tail
            have hle := length_skipSpace tail
            rw [List.length_cons] at hfuel hfuel'
            have hinner := hsame (Nat.lt_of_succ_lt_succ hfuel)
              (Nat.lt_of_succ_lt_succ hfuel')
            split
            · rfl
            · exact congrArg (Option.map _) (scanMembers_congr length_scanValue
                hinner hle (by omega) (by omega) [])
          · rename_i tail
            have hle := length_skipSpace tail
            rw [List.length_cons] at hfuel hfuel'
            have hinner := hsame (Nat.lt_of_succ_lt_succ hfuel)
              (Nat.lt_of_succ_lt_succ hfuel')
            split
            · rfl
            · exact congrArg (Option.map _) (scanItems_congr length_scanValue
                hinner hle (by omega) (by omega))
          · rfl

/-- A text is rejected only when no fuel whatever would do. -/
theorem loadsJson_eq (text : Text) {fuel : Nat} (h : text.length < fuel) :
    loadsJson text = (scanValue fuel (skipSpace text)).bind fun scanned =>
      if (skipSpace scanned.2).isEmpty then some scanned.1 else none := by
  have hle := length_skipSpace text
  have hfuel : scanValue (text.length + 1) (skipSpace text) =
      scanValue fuel (skipSpace text) := scanValue_congr (by omega) (by omega)
  rw [loadsJson, hfuel]
  rfl

end Enough

end L2tvpp.Lib
