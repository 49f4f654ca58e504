import L2tvpp.Lib.Json

/-!
# JSON text is read back

The scanner finds in a printed text the value that was printed, at any depth of
nesting.
-/

namespace L2tvpp.Lib

/-! ## Strings -/

/-- A string without surrogates. -/
def Scalars (points : CodePoints) : Prop := ∀ point ∈ points, point.isValidChar

theorem scalars_codePoints (text : Text) : Scalars (codePoints text) := by
  intro point hpoint
  obtain ⟨c, -, rfl⟩ := List.mem_map.mp hpoint
  exact c.valid

theorem codePoints_inj {text other : Text} :
    codePoints text = codePoints other ↔ text = other :=
  (List.map_injective_iff.mpr fun _ _ h => Char.toNat_inj.mp h).eq_iff

section Strings

variable {point unit : Nat} {points units : CodePoints} {rest : Text}

theorem joinSurrogates_cons (h : isHighSurrogate unit = false)
    (units : List Nat) :
    joinSurrogates (unit :: units) = unit :: joinSurrogates units := by
  cases units with
  | nil => simp [joinSurrogates]
  | cons low units => simp [joinSurrogates, h]

theorem joinSurrogates_pair (hlow : 0x10000 ≤ point) (hhigh : point < 0x110000)
    (units : List Nat) :
    joinSurrogates ((0xD800 + (point - 0x10000) / 0x400 % 0x400) ::
      (0xDC00 + (point - 0x10000) % 0x400) :: units) =
      point :: joinSurrogates units := by
  have hpair : isHighSurrogate (0xD800 + (point - 0x10000) / 0x400 % 0x400) &&
      isLowSurrogate (0xDC00 + (point - 0x10000) % 0x400) := by
    simp only [isHighSurrogate, isLowSurrogate, Bool.and_eq_true,
      decide_eq_true_eq]
    omega
  rw [joinSurrogates, if_pos hpair, List.cons.injEq]
  exact ⟨by omega, rfl⟩

theorem joinSurrogates_split (h : Scalars points) :
    joinSurrogates (splitSurrogates points) = points := by
  induction points with
  | nil => rfl
  | cons point points ih =>
      have hvalid := h point List.mem_cons_self
      have hrest := ih fun other hother =>
        h other (List.mem_cons_of_mem point hother)
      rw [splitSurrogates, List.flatMap_cons, ← splitSurrogates]
      by_cases hsmall : point < 0x10000
      · have hplain : isHighSurrogate point = false := by
          simp only [isHighSurrogate, Bool.and_eq_false_iff,
            decide_eq_false_iff_not]
          unfold Nat.isValidChar at hvalid
          omega
        simp [hsmall, joinSurrogates_cons hplain, hrest]
      · unfold Nat.isValidChar at hvalid
        rw [if_neg hsmall, List.cons_append, List.cons_append, List.nil_append,
          joinSurrogates_pair (by omega) (by omega), hrest]

theorem splitSurrogates_lt (h : unit ∈ splitSurrogates points) :
    unit < 0x10000 := by
  obtain ⟨point, -, hunit⟩ := List.mem_flatMap.mp h
  split at hunit
  · simp_all
  · simp only [List.mem_cons, List.not_mem_nil, or_false] at hunit
    omega

theorem scanUnits_cons {c : Char} (hquote : c ≠ '"') (hslash : c ≠ '\\')
    (rest : Text) :
    scanUnits (c :: rest) = if c.toNat < 32 then none
      else (scanUnits rest).map fun scanned =>
        (c.toNat :: scanned.1, scanned.2) := by
  rw [scanUnits]
  · exact fun h => hquote h
  · rintro a b d e tail rfl
    contradiction
  · rintro letter tail rfl
    contradiction

theorem scanUnits_hex {digits : Text} (hlength : digits.length = 4)
    (hhex : ∀ c ∈ digits, isHex c = true) (rest : Text) :
    scanUnits ('\\' :: 'u' :: (digits ++ rest)) =
      (scanUnits rest).map fun scanned =>
        (intOfHex digits :: scanned.1, scanned.2) := by
  obtain ⟨a, b, c, d, rfl⟩ : ∃ a b c d, digits = [a, b, c, d] := by
    match digits, hlength with
    | [a, b, c, d], _ => exact ⟨a, b, c, d, rfl⟩
  have hall : [a, b, c, d].all isHex = true := List.all_eq_true.mpr hhex
  simp only [List.cons_append, List.nil_append, scanUnits, hall, if_true]

theorem scanUnits_escapeUnit (h : unit < 0x10000) (rest : Text) :
    scanUnits (escapeUnit unit ++ rest) =
      (scanUnits rest).map fun scanned =>
        (unit :: scanned.1, scanned.2) := by
  unfold escapeUnit
  split
  · rename_i letter hletter
    unfold escapeLetter? at hletter
    split at hletter <;> cases hletter <;> simp [scanUnits, unescape?]
  · rename_i hletter
    split
    · rename_i hprint
      have hvalid : unit.isValidChar := by
        unfold Nat.isValidChar
        omega
      have htoNat : (Char.ofNat unit).toNat = unit := by
        rw [Char.ofNat, dif_pos hvalid]
        rfl
      have hne : ∀ c : Char, (escapeLetter? c.toNat).isSome = true →
          Char.ofNat unit ≠ c := by
        rintro c hc rfl
        rw [htoNat, hletter] at hc
        contradiction
      rw [List.cons_append, List.nil_append,
        scanUnits_cons (hne '"' rfl) (hne '\\' rfl), htoNat, if_neg (by omega)]
    · rw [List.cons_append, List.cons_append, lowerHex, scanUnits_hex
        (length_hexText _ _ _) fun c hc => isHex_hexText hc,
        intOfHex_hexText, Nat.mod_eq_of_lt (by omega)]

theorem scanUnits_print {units : List Nat} (h : ∀ unit ∈ units, unit < 0x10000)
    (rest : Text) :
    scanUnits (units.flatMap escapeUnit ++ '"' :: rest) =
      some (units, rest) := by
  induction units with
  | nil => simp [scanUnits]
  | cons unit units ih =>
      have hrest := ih fun other hother =>
        h other (List.mem_cons_of_mem unit hother)
      rw [List.flatMap_cons, List.append_assoc,
        scanUnits_escapeUnit (h unit List.mem_cons_self), hrest]
      rfl

theorem scanString_print (h : Scalars points) (rest : Text) :
    scanString ((splitSurrogates points).flatMap escapeUnit ++ '"' :: rest) =
      some (points, rest) := by
  simp [scanString, scanUnits_print fun _ => splitSurrogates_lt,
    joinSurrogates_split h]

end Strings

/-! ## Numbers and constants -/

theorem decimalText_head {n : Nat} (h : n ≠ 0) :
    (decimalText n).head? ≠ some '0' := by
  induction n using Nat.strongRecOn with
  | ind n ih =>
      unfold decimalText
      by_cases hsmall : n < 10
      · have hall : ∀ n < 10, n ≠ 0 → n.digitChar ≠ '0' := by decide
        simpa [Nat.toDigits_of_lt_base hsmall] using hall n hsmall h
      · have hhead := ih (n / 10) (by omega) (by omega)
        rw [Nat.toDigits_of_base_le (by decide) (by omega), List.head?_append]
        obtain ⟨c, digits, hcons⟩ :=
          List.exists_cons_of_ne_nil (decimalText_ne_nil (n / 10))
        unfold decimalText at hhead hcons
        rw [hcons] at hhead ⊢
        exact hhead

/-- What may follow a value in a printed text. -/
def Ends (rest : Text) : Prop := ∀ c ∈ rest.head?, c = ',' ∨ c = '\n'

section Scalars

variable {rest : Text}

theorem Ends.not_digit (h : Ends rest) : rest.takeWhile Char.isDigit = [] := by
  cases rest with
  | nil => rfl
  | cons c rest => rcases h c rfl with rfl | rfl <;> simp

theorem Ends.no_tail (h : Ends rest) :
    fraction rest ++ exponent (rest.drop (fraction rest).length) = [] := by
  cases rest with
  | nil => rfl
  | cons c rest => rcases h c rfl with rfl | rfl <;> rfl

/-- The digits of a number are taken whole: it is zero or starts otherwise. -/
theorem digits_decimalText (h : Ends rest) (n : Nat) :
    (if (decimalText n ++ rest).head? = some '0' then ['0']
      else (decimalText n ++ rest).takeWhile Char.isDigit) =
      decimalText n := by
  by_cases hzero : n = 0
  · subst hzero
    rfl
  · have hhead : (decimalText n ++ rest).head? ≠ some '0' := by
      obtain ⟨c, digits, hcons⟩ :=
        List.exists_cons_of_ne_nil (decimalText_ne_nil n)
      have hne := decimalText_head hzero
      rw [hcons] at hne ⊢
      exact hne
    rw [if_neg hhead, List.takeWhile_append_of_pos fun c hc =>
      isDigit_decimalText hc, h.not_digit, List.append_nil]

theorem decimalText_cons (n : Nat) :
    ∃ c digits, decimalText n = c :: digits ∧ c.isDigit = true := by
  obtain ⟨c, digits, hcons⟩ :=
    List.exists_cons_of_ne_nil (decimalText_ne_nil n)
  refine ⟨c, digits, hcons, isDigit_decimalText (n := n) ?_⟩
  rw [hcons]
  exact List.mem_cons_self

theorem scanMagnitude_decimalText (h : Ends rest) (sign : Text) (n : Nat) :
    scanMagnitude sign (decimalText n ++ rest) =
      some (.int (if sign.isEmpty then n else -n), rest) := by
  have hempty : (decimalText n).isEmpty = false := by
    simp [decimalText_ne_nil]
  simp only [scanMagnitude, digits_decimalText h, List.drop_left, h.no_tail,
    hempty, List.isEmpty_nil, Bool.false_eq_true, if_false, if_true,
    intOfDecimal_decimalText]

theorem scanNumber_intText (h : Ends rest) (n : Int) :
    scanNumber (intText n ++ rest) = some (.int n, rest) := by
  unfold intText
  split
  · rename_i hneg
    have habs : -(n.natAbs : Int) = n := by omega
    rw [List.cons_append, scanNumber, scanMagnitude_decimalText h]
    simp only [List.isEmpty_cons, Bool.false_eq_true, if_false, habs]
  · rename_i hpos
    obtain ⟨c, digits, hcons, hdigit⟩ := decimalText_cons n.natAbs
    have hscan : scanNumber (decimalText n.natAbs ++ rest) =
        scanMagnitude [] (decimalText n.natAbs ++ rest) := by
      rw [scanNumber]
      rw [hcons, List.cons_append]
      rintro text heq
      cases heq
      contradiction
    have habs : (n.natAbs : Int) = n := by omega
    rw [hscan, scanMagnitude_decimalText h]
    simp only [List.isEmpty_nil, if_true, habs]

/-- A number starts like none of the constants. -/
theorem scanScalar_intText (h : Ends rest) (n : Int) :
    scanScalar (intText n ++ rest) = some (.int n, rest) := by
  have hnone : constants.find? (fun constant =>
      constant.1.isPrefixOf (intText n ++ rest)) = none := by
    obtain ⟨c, digits, hcons, hdigit⟩ := decimalText_cons n.natAbs
    have hne : ∀ letter : Char, letter.isDigit = false → letter ≠ c := by
      rintro letter hletter rfl
      rw [hdigit] at hletter
      contradiction
    unfold intText
    split <;> simp [constants, hcons, hne]
  rw [scanScalar, hnone, scanNumber_intText h]

end Scalars

/-! ## White space -/

theorem skipSpace_append {blank text : Text}
    (hblank : ∀ c ∈ blank, isJsonSpace c = true)
    (htext : ∀ c ∈ text.head?, isJsonSpace c = false) :
    skipSpace (blank ++ text) = text := by
  rw [skipSpace, List.dropWhile_append_of_pos hblank]
  cases text with
  | nil => rfl
  | cons c text => simp [htext c rfl]

theorem isJsonSpace_newline (level : Nat) {c : Char} (h : c ∈ newline level) :
    isJsonSpace c = true := by
  simp only [newline, List.mem_cons, List.mem_replicate] at h
  rcases h with rfl | ⟨-, rfl⟩ <;> rfl

/-! ## Values -/

namespace Json

/-- What the text is read back from: whole numbers, strings without surrogates,
and lists and dictionaries of these. -/
inductive Printable : Json → Prop where
  | null : Printable .null
  | bool (value : Bool) : Printable (.bool value)
  | int (value : Int) : Printable (.int value)
  | string {value : CodePoints} (h : Scalars value) : Printable (.string value)
  | array {items : List Json} (h : ∀ item ∈ items, Printable item) :
      Printable (.array items)
  | object {members : List (CodePoints × Json)}
      (nodup : (members.map Prod.fst).Nodup)
      (keys : ∀ member ∈ members, Scalars member.1)
      (values : ∀ member ∈ members, Printable member.2) :
      Printable (.object members)

def Scans (value : Json) : Prop :=
  ∀ (level fuel : Nat) (rest : Text), Ends rest →
    (dumpValue level value ++ rest).length < fuel →
    scanValue fuel (dumpValue level value ++ rest) = some (value, rest)

end Json

theorem head_of_isDigit {c : Char} (h : c.isDigit = true) :
    isJsonSpace c = false ∧ c ≠ ']' := by
  have hne : ∀ letter : Char, letter.isDigit = false → c ≠ letter := by
    rintro letter hletter rfl
    rw [h] at hletter
    contradiction
  simp [isJsonSpace, hne]

theorem dumpValue_cons {value : Json} (h : value.Printable) (level : Nat) :
    ∃ c tail, dumpValue level value = c :: tail ∧
      isJsonSpace c = false ∧ c ≠ ']' := by
  cases h with
  | null => exact ⟨_, _, rfl, by decide⟩
  | bool value => cases value <;> exact ⟨_, _, rfl, by decide⟩
  | int value =>
      obtain ⟨c, digits, hcons, hdigit⟩ := decimalText_cons value.natAbs
      rw [dumpValue, intText, hcons]
      split
      · exact ⟨_, _, rfl, by decide⟩
      · exact ⟨_, _, rfl, head_of_isDigit hdigit⟩
  | string _ => exact ⟨_, _, rfl, by decide⟩
  | @array items _ => cases items <;> exact ⟨_, _, rfl, by decide⟩
  | @object members _ _ _ => cases members <;> exact ⟨_, _, rfl, by decide⟩

section Values

variable {level outer fuel rounds : Nat} {rest : Text}

theorem skipSpace_newline (level : Nat) {text : Text}
    (h : ∀ c ∈ text.head?, isJsonSpace c = false) :
    skipSpace (newline level ++ text) = text :=
  skipSpace_append (fun _ => isJsonSpace_newline level) h

theorem skipSpace_cons {c : Char} (h : isJsonSpace c = false) (rest : Text) :
    skipSpace (c :: rest) = c :: rest := by
  simp [skipSpace, h]

theorem skipSpace_dumpValue {value : Json} (h : value.Printable) (blank : Text)
    (hblank : ∀ c ∈ blank, isJsonSpace c = true) (level : Nat) (rest : Text) :
    skipSpace (blank ++ (dumpValue level value ++ rest)) =
      dumpValue level value ++ rest := by
  obtain ⟨c, tail, hcons, hspace, -⟩ := dumpValue_cons h level
  refine skipSpace_append hblank ?_
  simpa [hcons] using hspace

theorem ends_dumpItems (items : List Json) :
    Ends (dumpItems level items ++ (newline outer ++ rest)) := by
  cases items with
  | nil => exact fun c hc => .inr (Option.mem_some_iff.mp hc).symm
  | cons item items => exact fun c hc => .inl (Option.mem_some_iff.mp hc).symm

theorem ends_dumpMembers (members : List (CodePoints × Json)) :
    Ends (dumpMembers level members ++ (newline outer ++ rest)) := by
  cases members with
  | nil => exact fun c hc => .inr (Option.mem_some_iff.mp hc).symm
  | cons member members =>
      exact fun c hc => .inl (Option.mem_some_iff.mp hc).symm

theorem skipSpace_dumpItems (item : Json) (items : List Json) (tail : Text) :
    skipSpace (dumpItems level (item :: items) ++ tail) =
      ',' :: (newline level ++ (dumpValue level item ++
        (dumpItems level items ++ tail))) := by
  simp [dumpItems, skipSpace, isJsonSpace]

theorem skipSpace_dumpMembers (key : CodePoints) (value : Json)
    (members : List (CodePoints × Json)) (tail : Text) :
    skipSpace (dumpMembers level ((key, value) :: members) ++ tail) =
      ',' :: (newline level ++ (printString key ++ [':', ' '] ++
        (dumpValue level value ++ (dumpMembers level members ++ tail)))) := by
  simp [dumpMembers, skipSpace, isJsonSpace]

theorem scanItems_print (level outer fuel rounds : Nat) (rest : Text)
    {items : List Json} {item : Json}
    (h : ∀ value ∈ item :: items, value.Printable ∧ value.Scans)
    (hfuel : (dumpValue level item ++ (dumpItems level items ++
      (newline outer ++ ']' :: rest))).length < fuel)
    (hrounds : (dumpValue level item ++ (dumpItems level items ++
      (newline outer ++ ']' :: rest))).length < rounds) :
    scanItems (scanValue fuel) rounds (dumpValue level item ++
      (dumpItems level items ++ (newline outer ++ ']' :: rest))) =
      some (item :: items, rest) := by
  induction items generalizing item rounds with
  | nil =>
      obtain ⟨rounds, rfl⟩ : ∃ n, rounds = n + 1 :=
        Nat.exists_eq_succ_of_ne_zero (by omega)
      have hitem := (h item List.mem_cons_self).2 level fuel _
        (ends_dumpItems []) hfuel
      rw [scanItems, hitem, Option.bind_some]
      simp only [dumpItems, List.nil_append]
      rw [skipSpace_newline outer (by simp [isJsonSpace])]
      rfl
  | cons next items ih =>
      obtain ⟨rounds, rfl⟩ : ∃ n, rounds = n + 1 :=
        Nat.exists_eq_succ_of_ne_zero (by omega)
      have hitem := (h item List.mem_cons_self).2 level fuel _
        (ends_dumpItems (next :: items)) hfuel
      have hnext := (h next (by simp)).1
      have hrest := ih rounds
        (fun value hvalue => h value (List.mem_cons_of_mem item hvalue))
        (by simp [dumpItems] at hfuel ⊢; omega)
        (by simp [dumpItems] at hrounds ⊢; omega)
      rw [scanItems, hitem, Option.bind_some]
      simp only [skipSpace_dumpItems]
      rw [skipSpace_dumpValue hnext _ (fun _ => isJsonSpace_newline level),
        hrest]
      rfl

/-- One member, with which the object ends or after which another comes. -/
theorem scanMembers_member {done : List (CodePoints × Json)} {key : CodePoints}
    {value : Json} {tail : Text} (hkey : Scalars key)
    (hprint : value.Printable) (hscans : value.Scans) (htail : Ends tail)
    (hfuel : (dumpValue level value ++ tail).length < fuel) :
    (∀ rest, skipSpace tail = '}' :: rest →
      scanMembers (scanValue fuel) (rounds + 1) done
        (printString key ++ [':', ' '] ++ (dumpValue level value ++ tail)) =
        some (Dict.setItems key value done, rest)) ∧
    ∀ rest, skipSpace tail = ',' :: rest →
      scanMembers (scanValue fuel) (rounds + 1) done
        (printString key ++ [':', ' '] ++ (dumpValue level value ++ tail)) =
        scanMembers (scanValue fuel) rounds (Dict.setItems key value done)
          (skipSpace rest) := by
  have hvalue := hscans level fuel tail htail hfuel
  have hblank : skipSpace (' ' :: (dumpValue level value ++ tail)) =
      dumpValue level value ++ tail :=
    skipSpace_dumpValue hprint [' '] (by simp [isJsonSpace]) level tail
  have hcolon : skipSpace (':' :: ' ' :: (dumpValue level value ++ tail)) =
      ':' :: ' ' :: (dumpValue level value ++ tail) :=
    skipSpace_cons (by rfl) _
  constructor
  · intro rest hclose
    simp only [printString, List.cons_append, List.append_assoc,
      List.nil_append, scanMembers, scanString_print hkey, Option.bind_some,
      hcolon, hblank, hvalue, hclose]
  · intro rest hcomma
    simp only [printString, List.cons_append, List.append_assoc,
      List.nil_append, scanMembers, scanString_print hkey, Option.bind_some,
      hcolon, hblank, hvalue, hcomma]

theorem scanMembers_print (level outer fuel rounds : Nat) (rest : Text)
    {members done : List (CodePoints × Json)} {key : CodePoints} {value : Json}
    (hnodup : ((done ++ (key, value) :: members).map Prod.fst).Nodup)
    (hkeys : ∀ member ∈ (key, value) :: members, Scalars member.1)
    (h : ∀ member ∈ (key, value) :: members,
      member.2.Printable ∧ member.2.Scans)
    (hfuel : (printString key ++ [':', ' '] ++ (dumpValue level value ++
      (dumpMembers level members ++
        (newline outer ++ '}' :: rest)))).length < fuel)
    (hrounds : (printString key ++ [':', ' '] ++ (dumpValue level value ++
      (dumpMembers level members ++
        (newline outer ++ '}' :: rest)))).length < rounds) :
    scanMembers (scanValue fuel) rounds done
      (printString key ++ [':', ' '] ++ (dumpValue level value ++
        (dumpMembers level members ++ (newline outer ++ '}' :: rest)))) =
      some (done ++ (key, value) :: members, rest) := by
  have hkey := hkeys (key, value) List.mem_cons_self
  have hvalue := h (key, value) List.mem_cons_self
  have hnew : key ∉ done.map Prod.fst := by
    rw [List.map_append, List.map_cons] at hnodup
    exact fun hmem => List.disjoint_of_nodup_append hnodup hmem
      List.mem_cons_self
  induction members generalizing done key value rounds with
  | nil =>
      obtain ⟨rounds, rfl⟩ : ∃ n, rounds = n + 1 :=
        Nat.exists_eq_succ_of_ne_zero (by omega)
      have hlength : (dumpValue level value ++ (dumpMembers level [] ++
          (newline outer ++ '}' :: rest))).length < fuel := by
        simp at hfuel ⊢
        omega
      rw [(scanMembers_member hkey hvalue.1 hvalue.2 (ends_dumpMembers [])
        hlength).1 rest (skipSpace_newline outer (by simp [isJsonSpace])),
        Dict.setItems_new hnew]
  | cons next members ih =>
      obtain ⟨nextKey, nextValue⟩ := next
      obtain ⟨rounds, rfl⟩ : ∃ n, rounds = n + 1 :=
        Nat.exists_eq_succ_of_ne_zero (by omega)
      have hlength : (dumpValue level value ++
          (dumpMembers level ((nextKey, nextValue) :: members) ++
            (newline outer ++ '}' :: rest))).length < fuel := by
        simp at hfuel ⊢
        omega
      have hlist : done ++ (key, value) :: (nextKey, nextValue) :: members =
          (done ++ [(key, value)]) ++ (nextKey, nextValue) :: members := by
        simp
      rw [hlist] at hnodup ⊢
      have hrest := ih rounds hnodup
        (fun member hmem => hkeys member (List.mem_cons_of_mem _ hmem))
        (fun member hmem => h member (List.mem_cons_of_mem _ hmem))
        (by simp [dumpMembers] at hfuel ⊢; omega)
        (by simp [dumpMembers] at hrounds ⊢; omega)
        (hkeys (nextKey, nextValue) (by simp))
        (h (nextKey, nextValue) (by simp)) ?_
      · rw [(scanMembers_member hkey hvalue.1 hvalue.2
          (ends_dumpMembers ((nextKey, nextValue) :: members)) hlength).2 _
          (skipSpace_dumpMembers nextKey nextValue members _),
          Dict.setItems_new hnew,
          skipSpace_newline level (by simp [printString, isJsonSpace]), hrest]
      · rw [List.map_append, List.map_cons] at hnodup
        exact fun hmem => List.disjoint_of_nodup_append hnodup hmem
          List.mem_cons_self

theorem scanValue_scalar {c : Char} (hquote : c ≠ '"') (hbrace : c ≠ '{')
    (hbracket : c ≠ '[') (rest : Text) :
    scanValue (fuel + 1) (c :: rest) = scanScalar (c :: rest) := by
  rw [scanValue]
  · exact fun _ h => hquote (List.cons.inj h).1
  · exact fun _ h => hbrace (List.cons.inj h).1
  · exact fun _ h => hbracket (List.cons.inj h).1

theorem scanValue_array {text : Text}
    (hclose : (skipSpace text).head? ≠ some ']') :
    scanValue (fuel + 1) ('[' :: text) =
      (scanItems (scanValue fuel) fuel (skipSpace text)).map fun scanned =>
        (.array scanned.1, scanned.2) := by
  rw [scanValue]
  split
  · rename_i heq
    rw [heq] at hclose
    contradiction
  · rfl

theorem scanValue_object {text : Text}
    (hclose : (skipSpace text).head? ≠ some '}') :
    scanValue (fuel + 1) ('{' :: text) =
      (scanMembers (scanValue fuel) fuel [] (skipSpace text)).map
        fun scanned => (.object scanned.1, scanned.2) := by
  rw [scanValue]
  split
  · rename_i heq
    rw [heq] at hclose
    contradiction
  · rfl

namespace Json

theorem scans_of {value : Json}
    (h : ∀ (level fuel : Nat) (rest : Text), Ends rest →
      (dumpValue level value ++ rest).length ≤ fuel →
      scanValue (fuel + 1) (dumpValue level value ++ rest) =
        some (value, rest)) : value.Scans := by
  intro level fuel rest hrest hfuel
  cases fuel with
  | zero => contradiction
  | succ fuel => exact h level fuel rest hrest (by omega)

theorem scans_int (n : Int) : (int n).Scans := by
  refine scans_of fun level fuel rest hrest hfuel => ?_
  obtain ⟨c, tail, hcons, hc⟩ : ∃ c tail, intText n = c :: tail ∧
      c ≠ '"' ∧ c ≠ '{' ∧ c ≠ '[' := by
    obtain ⟨c, digits, hcons, hdigit⟩ := decimalText_cons n.natAbs
    have hne : ∀ letter : Char, letter.isDigit = false → c ≠ letter := by
      rintro letter hletter rfl
      rw [hdigit] at hletter
      contradiction
    unfold intText
    split
    · exact ⟨_, _, rfl, by decide⟩
    · exact ⟨c, digits, hcons, hne _ rfl, hne _ rfl, hne _ rfl⟩
  rw [dumpValue, hcons, List.cons_append,
    scanValue_scalar hc.1 hc.2.1 hc.2.2, ← List.cons_append, ← hcons,
    scanScalar_intText hrest]

theorem scans_array {items : List Json}
    (h : ∀ item ∈ items, item.Printable ∧ item.Scans) :
    (array items).Scans := by
  refine scans_of fun level fuel rest hrest hfuel => ?_
  cases items with
  | nil => simp [dumpValue, scanValue, skipSpace, isJsonSpace]
  | cons item items =>
      have hitem := (h item List.mem_cons_self).1
      obtain ⟨c, tail, hcons, -, hne⟩ := dumpValue_cons hitem (level + 1)
      have hskip := skipSpace_dumpValue hitem _
        (fun _ => isJsonSpace_newline (level + 1)) (level + 1)
        (dumpItems (level + 1) items ++ (newline level ++ ']' :: rest))
      have hitems := scanItems_print (level + 1) level fuel fuel rest h
        (by simp [dumpValue] at hfuel ⊢; omega)
        (by simp [dumpValue] at hfuel ⊢; omega)
      simp only [dumpValue, List.cons_append, List.append_assoc,
        List.nil_append]
      rw [scanValue_array (by rw [hskip, hcons]; simpa using hne), hskip,
        hitems]
      rfl

theorem scans_object {members : List (CodePoints × Json)}
    (nodup : (members.map Prod.fst).Nodup)
    (keys : ∀ member ∈ members, Scalars member.1)
    (h : ∀ member ∈ members, member.2.Printable ∧ member.2.Scans) :
    (object members).Scans := by
  refine scans_of fun level fuel rest hrest hfuel => ?_
  cases members with
  | nil => simp [dumpValue, scanValue, skipSpace, isJsonSpace]
  | cons member members =>
      obtain ⟨key, value⟩ := member
      have hmembers := scanMembers_print (level + 1) level fuel fuel rest
        (show (([] ++ (key, value) :: members).map Prod.fst).Nodup from nodup)
        keys h
        (by simp [dumpValue] at hfuel ⊢; omega)
        (by simp [dumpValue] at hfuel ⊢; omega)
      have hskip : skipSpace (newline (level + 1) ++ (printString key ++
          [':', ' '] ++ (dumpValue (level + 1) value ++
            (dumpMembers (level + 1) members ++
              (newline level ++ '}' :: rest))))) =
          printString key ++ [':', ' '] ++ (dumpValue (level + 1) value ++
            (dumpMembers (level + 1) members ++
              (newline level ++ '}' :: rest))) :=
        skipSpace_newline (level + 1) (by simp [printString, isJsonSpace])
      have htext : dumpValue level (object ((key, value) :: members)) ++ rest =
          '{' :: (newline (level + 1) ++ (printString key ++
            [':', ' '] ++ (dumpValue (level + 1) value ++
              (dumpMembers (level + 1) members ++
                (newline level ++ '}' :: rest))))) := by
        simp [dumpValue]
      rw [htext, scanValue_object (by rw [hskip]; simp [printString]), hskip,
        hmembers]
      rfl

theorem Printable.scans {value : Json} (h : value.Printable) :
    value.Scans := by
  induction h with
  | null =>
      refine scans_of fun level fuel rest hrest hfuel => ?_
      simp [dumpValue, scanValue, scanScalar, constants]
  | bool value =>
      refine scans_of fun level fuel rest hrest hfuel => ?_
      cases value <;> simp [dumpValue, scanValue, scanScalar, constants]
  | int n => exact scans_int n
  | string hscalars =>
      refine scans_of fun level fuel rest hrest hfuel => ?_
      simp [dumpValue, printString, scanValue, scanString_print hscalars]
  | array hprint ih =>
      exact scans_array fun item hitem => ⟨hprint item hitem, ih item hitem⟩
  | object nodup keys hprint ih =>
      exact scans_object nodup keys fun member hmember =>
        ⟨hprint member hmember, ih member hmember⟩

end Json

/-- `json.load` reads back what `json.dump` has written. -/
theorem loads_dumps {value : Json} (h : value.Printable) :
    loadsJson (dumpsJson value) = some value := by
  obtain ⟨c, tail, hcons, hspace, -⟩ := dumpValue_cons h 0
  have hscan := h.scans 0 ((dumpsJson value).length + 1) [] (by simp [Ends])
    (by simp [dumpsJson])
  have hskip : skipSpace (dumpsJson value) = dumpsJson value := by
    rw [dumpsJson, hcons, skipSpace_cons hspace]
  rw [List.append_nil, ← dumpsJson] at hscan
  rw [loadsJson, hskip, hscan]
  rfl

end Values

end L2tvpp.Lib
