import CardPayments.Json.Number
import CardPayments.Json.Reader
import CardPayments.Json.Writer
import CardPayments.Proofs.Decimal.Text
import Mathlib.Data.List.Forall2

/-!
# Documents there and back

Whatever document is written, the reader reads that document from the text. For each kind of value
this is one statement about a text that goes on behind the value: the value is taken off and the
rest handed back. A number alone does not say where it ends, so what stands behind has to stop it,
and in a written document only a comma or a closing bracket stands there. Every level of the
document takes two characters of its own, so the fuel lasts.
-/

namespace CardPayments

namespace Json

/-! ### Strings -/

/-- The piece stands for the character: itself, or the unit of a control character. -/
inductive Piece.Spells : Piece → Char → Prop
  | char (c : Char) : Spells (.char c) c
  | unit {c : Char} (h : c.toNat < 0x20) : Spells (.unit c.toNat) c

theorem unit?_controlDigits {c : Char} (h : c.toNat < 0x20) :
    unit? '0' '0' (Nat.digitChar (c.toNat / 16)) (Nat.digitChar (c.toNat % 16)) = some c.toNat := by
  have hzero : Text.hexValue? '0' = some 0 := by decide
  simp only [unit?, hzero, Text.hexValue?_digitChar (show c.toNat / 16 < 16 by omega),
    Text.hexValue?_digitChar (show c.toNat % 16 < 16 by omega), Option.bind_eq_bind,
    Option.bind_some, Option.pure_def, Option.some.injEq]
  omega

theorem readPieces_letter {e c : Char} (h : escapeChar? e = some c) (rest : List Char) :
    readPieces ('\\' :: e :: rest) =
      (readPieces rest).map fun read => (.char c :: read.1, read.2) := by
  have hne : e ≠ 'u' := by
    rintro rfl
    cases h
  rw [readPieces.eq_4 e rest fun _ _ _ _ _ heq _ => hne heq, h]
  cases readPieces rest <;> rfl

theorem readPieces_control {c : Char} (h : c.toNat < 0x20) (rest : List Char) :
    readPieces ('\\' :: 'u' :: '0' :: '0' :: (controlDigits c ++ rest)) =
      (readPieces rest).map fun read => (.unit c.toNat :: read.1, read.2) := by
  rw [controlDigits, List.cons_append, List.cons_append, List.nil_append, readPieces.eq_3,
    unit?_controlDigits h]
  cases readPieces rest <;> rfl

theorem readPieces_plain {c : Char} (hquote : c ≠ '"') (hslash : c ≠ '\\') (h : ¬c.toNat < 0x20)
    (rest : List Char) :
    readPieces (c :: rest) = (readPieces rest).map fun read => (.char c :: read.1, read.2) := by
  rw [readPieces.eq_5 c rest hquote (fun _ _ _ _ _ heq _ => hslash heq)
    (fun _ _ heq _ => hslash heq), if_neg (by simp [h, hslash])]
  cases readPieces rest <;> rfl

theorem exists_readPieces_escaped (c : Char) (rest : List Char) :
    ∃ piece : Piece, piece.Spells c ∧ readPieces (escaped c ++ rest) =
      (readPieces rest).map fun read => (piece :: read.1, read.2) := by
  unfold escaped
  split
  case h_8 hquote hslash _ _ _ _ _ =>
    split
    · next hcontrol => exact ⟨_, .unit hcontrol, readPieces_control hcontrol rest⟩
    · next hplain => exact ⟨_, .char c, readPieces_plain hquote hslash hplain rest⟩
  all_goals exact ⟨_, .char _, readPieces_letter (by rfl) rest⟩

theorem exists_readPieces (s rest : List Char) :
    ∃ pieces, List.Forall₂ Piece.Spells pieces s ∧
      readPieces (s.flatMap escaped ++ '"' :: rest) = some (pieces, rest) := by
  induction s with
  | nil => exact ⟨[], .nil, readPieces.eq_2 rest⟩
  | cons c s ih =>
    obtain ⟨pieces, hpieces, hread⟩ := ih
    obtain ⟨piece, hpiece, hfirst⟩ := exists_readPieces_escaped c (s.flatMap escaped ++ '"' :: rest)
    refine ⟨piece :: pieces, .cons hpiece hpieces, ?_⟩
    rw [List.flatMap_cons, List.append_assoc, hfirst, hread]
    rfl

theorem not_surrogate {c : Char} (h : c.toNat < 0x20) :
    isHighSurrogate c.toNat = false ∧ isLowSurrogate c.toNat = false := by
  constructor
  · simp only [isHighSurrogate, Bool.and_eq_false_iff, decide_eq_false_iff_not]
    omega
  · simp only [isLowSurrogate, Bool.and_eq_false_iff, decide_eq_false_iff_not]
    omega

theorem joinPieces_unit {n : Nat} (hhigh : isHighSurrogate n = false)
    (hlow : isLowSurrogate n = false) (pieces : List Piece) :
    joinPieces (.unit n :: pieces) = (joinPieces pieces).map (Char.ofNat n :: ·) := by
  cases pieces with
  | nil => simp [joinPieces, hhigh, hlow]
  | cons piece pieces => cases piece <;> simp [joinPieces, hhigh, hlow]

/-- No half of a surrogate pair is among the pieces, so each stands for its own character. -/
theorem joinPieces_of_spells {pieces : List Piece} {s : List Char}
    (h : List.Forall₂ Piece.Spells pieces s) : joinPieces pieces = some s := by
  induction h with
  | nil => rfl
  | @cons piece c pieces s hpiece hpieces ih =>
    cases hpiece with
    | char => rw [joinPieces, ih, Option.map_some]
    | unit hcontrol =>
      obtain ⟨hhigh, hlow⟩ := not_surrogate hcontrol
      rw [joinPieces_unit hhigh hlow, ih, Option.map_some, Char.ofNat_toNat]

theorem readString_quoted (s : String) (rest : List Char) :
    readString (s.toList.flatMap escaped ++ '"' :: rest) = some (some s, rest) := by
  obtain ⟨pieces, hpieces, hread⟩ := exists_readPieces s.toList rest
  simp only [readString, hread, joinPieces_of_spells hpieces, Option.bind_eq_bind, Option.bind_some,
    Option.map_some, String.ofList_toList]

/-! ### Numbers -/

/-- What may stand behind a value: nothing, or the sign that ends it. -/
def Stops (rest : List Char) : Prop :=
  ∀ c, rest.head? = some c → c = ',' ∨ c = ']' ∨ c = '\x7d'

theorem stops_cons {c : Char} (h : c = ',' ∨ c = ']' ∨ c = '\x7d') (rest : List Char) :
    Stops (c :: rest) := by
  intro d hd
  obtain rfl := Option.some.inj hd
  exact h

def NoDigit (rest : List Char) : Prop := ∀ c, rest.head? = some c → c.isDigit = false

theorem Stops.noDigit {rest : List Char} (h : Stops rest) : NoDigit rest := by
  intro c hc
  rcases h c hc with rfl | rfl | rfl <;> rfl

theorem readDigits_append {ds rest : List Char} (hne : ds ≠ [])
    (hds : ∀ c ∈ ds, c.isDigit = true) (hrest : NoDigit rest) :
    readDigits (ds ++ rest) = some (ds, rest) := by
  have htake : (ds ++ rest).takeWhile Char.isDigit = ds := by
    rw [List.takeWhile_append_of_pos hds]
    cases rest with
    | nil => simp
    | cons c rest => simp [hrest c rfl]
  have hdrop : (ds ++ rest).dropWhile Char.isDigit = rest := by
    rw [List.dropWhile_append_of_pos hds]
    cases rest with
    | nil => rfl
    | cons c rest => simp [hrest c rfl]
  rw [readDigits, htake, hdrop]
  cases ds with
  | nil => exact absurd rfl hne
  | cons c ds => rfl

def pointChars (n : Numeral) : List Char :=
  match n.fraction with
  | some ds => '.' :: ds
  | none => []

def powerChars (n : Numeral) : List Char :=
  match n.exponent with
  | some (true, ds) => 'e' :: '-' :: ds
  | some (false, ds) => 'e' :: ds
  | none => []

section Numeral

variable {n : Numeral} {rest : List Char}

theorem readExponent_chars (h : n.WellFormed) (hrest : Stops rest) :
    readExponent (powerChars n ++ rest) = some (n.exponent, rest) := by
  obtain ⟨-, -, hexponent⟩ := h
  unfold powerChars
  split
  · next ds heq =>
    obtain ⟨hne, hds⟩ := hexponent _ heq
    simp [readExponent, readPower, readDigits_append hne hds hrest.noDigit, heq]
  · next ds heq =>
    obtain ⟨hne, hds⟩ := hexponent _ heq
    obtain ⟨c, ds, rfl⟩ := List.exists_cons_of_ne_nil hne
    have hminus : c ≠ '-' := by
      rintro rfl
      exact absurd (hds _ List.mem_cons_self) (by decide)
    have hplus : c ≠ '+' := by
      rintro rfl
      exact absurd (hds _ List.mem_cons_self) (by decide)
    have hdigits := readDigits_append hne hds hrest.noDigit
    rw [List.cons_append] at hdigits
    simp [readExponent, readPower, hminus, hplus, hdigits, heq]
  · next heq =>
    rw [List.nil_append, heq]
    cases rest with
    | nil => rfl
    | cons c rest => rcases hrest c rfl with rfl | rfl | rfl <;> rfl

theorem readFraction_chars (h : n.WellFormed) (hrest : Stops rest) :
    readFraction (pointChars n ++ (powerChars n ++ rest)) =
      some (n.fraction, powerChars n ++ rest) := by
  obtain ⟨-, hfraction, -⟩ := h
  have hstop : NoDigit (powerChars n ++ rest) ∧ (powerChars n ++ rest).head? ≠ some '.' := by
    unfold powerChars
    split
    · simp [NoDigit]
    · simp [NoDigit]
    · refine ⟨hrest.noDigit, fun hhead => ?_⟩
      rcases hrest _ hhead with h | h | h <;> exact absurd h (by decide)
  unfold pointChars
  split
  · next ds heq =>
    obtain ⟨hne, hds⟩ := hfraction _ heq
    simp [readFraction, readDigits_append hne hds hstop.1, heq]
  · next heq =>
    rw [List.nil_append, heq]
    generalize powerChars n ++ rest = behind at hstop
    unfold readFraction
    split
    · exact absurd rfl hstop.2
    · rfl

theorem readSign_chars {s : List Char} (h : s.head? ≠ some '-') :
    readSign ((if n.negative then ['-'] else []) ++ s) = (n.negative, s) := by
  cases n.negative with
  | true => rfl
  | false =>
    show readSign s = (false, s)
    unfold readSign
    split
    · exact absurd rfl h
    · rfl

theorem readNumeral_chars (h : n.WellFormed) (hrest : Stops rest) :
    readNumeral (numeralChars n ++ rest) = some (n, rest) := by
  have hparts : numeralChars n ++ rest = (if n.negative then ['-'] else []) ++
      (n.whole ++ (pointChars n ++ (powerChars n ++ rest))) := by
    simp only [← List.append_assoc]
    rfl
  obtain ⟨⟨hne, hds, hzero⟩, -⟩ := id h
  have hminus : (n.whole ++ (pointChars n ++ (powerChars n ++ rest))).head? ≠ some '-' := by
    obtain ⟨c, ds, hwhole⟩ := List.exists_cons_of_ne_nil hne
    rw [hwhole, List.cons_append, List.head?_cons]
    intro heq
    obtain rfl := Option.some.inj heq
    exact absurd (hds '-' (hwhole ▸ List.mem_cons_self)) (by decide)
  have hstop : NoDigit (pointChars n ++ (powerChars n ++ rest)) := by
    unfold pointChars powerChars
    split
    · simp [NoDigit]
    · split
      · simp [NoDigit]
      · simp [NoDigit]
      · exact hrest.noDigit
  have hshort : ¬(n.whole.head? = some '0' ∧ n.whole ≠ ['0']) := fun hlong =>
    hlong.2 (hzero hlong.1)
  rw [hparts, readNumeral, readSign_chars hminus]
  simp only [readDigits_append hne hds hstop, hshort, if_false, readFraction_chars h hrest,
    readExponent_chars h hrest, Option.bind_eq_bind, Option.bind_some]

end Numeral

/-! ### Values -/

theorem exists_numeralChars {n : Numeral} (h : n.WellFormed) :
    ∃ c s, numeralChars n = c :: s ∧ (c = '-' ∨ c.isDigit = true) := by
  obtain ⟨⟨hne, hds, -⟩, -⟩ := h
  obtain ⟨c, ds, hwhole⟩ := List.exists_cons_of_ne_nil hne
  unfold numeralChars
  cases n.negative with
  | true => exact ⟨'-', _, rfl, .inl rfl⟩
  | false =>
    rw [hwhole]
    exact ⟨c, _, rfl, .inr (hds c (hwhole ▸ List.mem_cons_self))⟩

theorem skipBlanks_cons {c : Char} (h : isBlank c = false) (s : List Char) :
    skipBlanks (c :: s) = c :: s := by
  rw [skipBlanks, List.dropWhile_cons_of_neg (by simp [h])]

theorem readValue_of_numeral {c : Char} (h : c = '-' ∨ c.isDigit = true) (fuel : Nat)
    (s : List Char) :
    readValue (fuel + 1) (c :: s) =
      (readNumeral (c :: s)).map fun read => (.num read.1, read.2) := by
  have hblank : isBlank c = false := by
    rcases h with rfl | h
    · rfl
    · simp only [isBlank, Bool.or_eq_false_iff, decide_eq_false_iff_not]
      refine ⟨⟨⟨?_, ?_⟩, ?_⟩, ?_⟩ <;> rintro rfl <;> exact absurd h (by decide)
  rw [readValue, skipBlanks_cons hblank]
  split
  case h_7 => cases readNumeral (c :: s) <;> rfl
  all_goals
    rename_i heq
    obtain ⟨rfl, -⟩ := List.cons.inj heq
    rcases h with h | h <;> exact absurd h (by decide)

mutual

def WellFormed : Json → Prop
  | .num n => n.WellFormed
  | .arr items => AreWellFormed items
  | .obj members => MembersAreWellFormed members
  | _ => True

def AreWellFormed : List Json → Prop
  | [] => True
  | value :: values => value.WellFormed ∧ AreWellFormed values

def MembersAreWellFormed : List (String × Json) → Prop
  | [] => True
  | (_, value) :: members => value.WellFormed ∧ MembersAreWellFormed members

end

theorem wellFormed_ofOption {α : Type} {write : α → Json} (h : ∀ a, (write a).WellFormed)
    (value : Option α) : (ofOption write value).WellFormed := by
  cases value with
  | none => trivial
  | some a => exact h a

/-- With enough fuel the written value is taken off the front of a text. -/
def ReadsBack (j : Json) : Prop :=
  ∀ (fuel : Nat) (rest : List Char), Stops rest → 2 * j.chars.length ≤ fuel →
    readValue fuel (j.chars ++ rest) = some (j, rest)

theorem stops_itemChars (values : List Json) (rest : List Char) :
    Stops (itemChars values ++ rest) := by
  cases values with
  | nil => exact stops_cons (by decide) rest
  | cons value values => exact stops_cons (by decide) _

theorem stops_memberChars (members : List (String × Json)) (rest : List Char) :
    Stops (memberChars members ++ rest) := by
  cases members with
  | nil => exact stops_cons (by decide) rest
  | cons member members => exact stops_cons (by decide) _

theorem readsBack_num {n : Numeral} (h : n.WellFormed) : ReadsBack (.num n) := by
  intro fuel rest hrest hfuel
  obtain ⟨c, s, hchars, hc⟩ := exists_numeralChars h
  have hread := readNumeral_chars h hrest
  rw [chars] at hfuel ⊢
  rw [hchars, List.length_cons] at hfuel
  rw [hchars, List.cons_append] at hread ⊢
  obtain ⟨fuel, rfl⟩ : ∃ f, fuel = f + 1 := ⟨fuel - 1, by omega⟩
  rw [readValue_of_numeral hc, hread, Option.map_some]

theorem readsBack_str (s : String) : ReadsBack (.str s) := by
  intro fuel rest hrest hfuel
  rw [chars, quoted] at hfuel ⊢
  rw [List.cons_append, List.append_assoc]
  rw [List.length_cons] at hfuel
  obtain ⟨fuel, rfl⟩ : ∃ f, fuel = f + 1 := ⟨fuel - 1, by omega⟩
  rw [readValue, skipBlanks_cons (by rfl)]
  show ((readString (s.toList.flatMap escaped ++ '"' :: rest)).bind _) = _
  rw [readString_quoted]
  rfl

theorem readsBack_of_eq {j : Json} {c : Char} {s : List Char} (hchars : j.chars = c :: s)
    (h : ∀ fuel rest, readValue (fuel + 1) (c :: s ++ rest) = some (j, rest)) : ReadsBack j := by
  intro fuel rest hrest hfuel
  rw [hchars, List.length_cons] at hfuel
  obtain ⟨fuel, rfl⟩ : ∃ f, fuel = f + 1 := ⟨fuel - 1, by omega⟩
  rw [hchars, h fuel rest]

theorem readsBack_null : ReadsBack .null := by
  have hchars : chars .null = ['n', 'u', 'l', 'l'] := by
    rw [chars]
    exact String.toList_ofList
  exact readsBack_of_eq hchars fun _ _ => rfl

theorem readsBack_bool (value : Bool) : ReadsBack (.bool value) := by
  cases value with
  | true =>
    have hchars : chars (.bool true) = ['t', 'r', 'u', 'e'] := by
      rw [chars]
      exact String.toList_ofList
    exact readsBack_of_eq hchars fun _ _ => rfl
  | false =>
    have hchars : chars (.bool false) = ['f', 'a', 'l', 's', 'e'] := by
      rw [chars]
      exact String.toList_ofList
    exact readsBack_of_eq hchars fun _ _ => rfl

theorem readString_unreadable (rest : List Char) :
    readString ('\\' :: 'u' :: 'd' :: '8' :: '0' :: '0' :: '"' :: rest) = some (none, rest) := by
  have hunit : unit? 'd' '8' '0' '0' = some 0xD800 := by decide
  have hjoin : joinPieces [.unit 0xD800] = none := by decide
  rw [readString, readPieces.eq_3, hunit, readPieces.eq_2]
  simp only [Option.bind_eq_bind, Option.bind_some, hjoin, Option.map_none]

theorem readsBack_unreadable : ReadsBack .unreadable := by
  have hchars : unreadableChars = ['"', '\\', 'u', 'd', '8', '0', '0', '"'] :=
    String.toList_ofList
  refine readsBack_of_eq (chars.eq_6.trans hchars) fun fuel rest => ?_
  rw [List.cons_append, readValue, skipBlanks_cons (by rfl)]
  show (readString ('\\' :: 'u' :: 'd' :: '8' :: '0' :: '0' :: '"' :: rest)).bind _ = _
  rw [readString_unreadable]
  rfl

/-! ### Arrays -/

section Items

variable {fuel : Nat} {s rest behind : List Char} {value : Json} {values : List Json}

theorem readItems_last (h : readValue fuel s = some (value, ']' :: rest)) :
    readItems (fuel + 1) s = some ([value], rest) := by
  rw [readItems, h]
  rfl

theorem readItems_next (h : readValue fuel s = some (value, ',' :: behind))
    (hbehind : readItems fuel behind = some (values, rest)) :
    readItems (fuel + 1) s = some (value :: values, rest) := by
  rw [readItems, h, Option.bind_eq_bind, Option.bind_some]
  simp only [skipBlanks_cons (show isBlank ',' = false by rfl)]
  rw [hbehind]
  rfl

/-- No value begins where an array ends. -/
theorem readItems_end (h : skipBlanks s = ']' :: rest) : readItems fuel s = none := by
  cases fuel with
  | zero => rfl
  | succ fuel =>
    have hvalue : readValue fuel s = none := by
      cases fuel with
      | zero => rfl
      | succ fuel =>
        rw [readValue, h]
        rfl
    rw [readItems, hvalue]
    rfl

theorem readValue_items (h : readItems fuel s = some (values, rest)) :
    readValue (fuel + 1) ('[' :: s) = some (.arr values, rest) := by
  rw [readValue, skipBlanks_cons (by rfl)]
  -- The reader looks for six kinds of value in turn; a bracket begins only the fifth.
  split
  case h_5 heq =>
    obtain rfl := (List.cons.inj heq).2
    split
    · next hend =>
      rw [readItems_end hend] at h
      cases h
    · rw [h]
      rfl
  case h_7 hopen _ => exact absurd rfl (hopen s)
  all_goals
    rename_i heq
    exact absurd (List.cons.inj heq).1 (by decide)

end Items

/-- The items of an array are read up to its end, if there are any. -/
def ItemsReadBack : List Json → Prop
  | [] => True
  | value :: values => ∀ (fuel : Nat) (rest : List Char),
    2 * (value.chars.length + (itemChars values).length) ≤ fuel →
      readItems fuel (value.chars ++ (itemChars values ++ rest)) = some (value :: values, rest)

theorem itemsReadBack_cons {value : Json} {values : List Json} (hvalue : ReadsBack value)
    (hvalues : ItemsReadBack values) : ItemsReadBack (value :: values) := by
  intro fuel rest hfuel
  have hread := hvalue (fuel - 1) _ (stops_itemChars values rest)
  cases values with
  | nil =>
    rw [itemChars, List.length_singleton] at hfuel
    obtain ⟨fuel, rfl⟩ : ∃ f, fuel = f + 1 := ⟨fuel - 1, by omega⟩
    rw [itemChars] at hread ⊢
    exact readItems_last (hread (by omega))
  | cons next behind =>
    rw [itemChars, List.length_cons, List.length_append] at hfuel
    obtain ⟨fuel, rfl⟩ : ∃ f, fuel = f + 1 := ⟨fuel - 1, by omega⟩
    rw [itemChars, List.cons_append, List.append_assoc] at hread ⊢
    exact readItems_next (hread (by omega)) (hvalues fuel rest (by omega))

theorem readsBack_arr {values : List Json} (h : ItemsReadBack values) :
    ReadsBack (.arr values) := by
  cases values with
  | nil => exact readsBack_of_eq chars.eq_7 fun _ _ => rfl
  | cons value values =>
    intro fuel rest hrest hfuel
    rw [chars, List.length_cons, List.length_append] at hfuel
    obtain ⟨fuel, rfl⟩ : ∃ f, fuel = f + 1 := ⟨fuel - 1, by omega⟩
    rw [chars, List.cons_append, List.append_assoc]
    exact readValue_items (h fuel rest (by omega))

/-! ### Objects -/

section Members

variable {fuel : Nat} {s rest behind : List Char} {name : Option String} {value : Json}
  {members : List (Option String × Json)}

theorem readMembers_last (hname : readName s = some (name, behind))
    (h : readValue fuel behind = some (value, '\x7d' :: rest)) :
    readMembers (fuel + 1) s = some ([(name, value)], rest) := by
  simp only [readMembers, hname, h, Option.bind_eq_bind, Option.bind_some]
  rfl

theorem readMembers_next {more : List Char} (hname : readName s = some (name, behind))
    (h : readValue fuel behind = some (value, ',' :: more))
    (hmore : readMembers fuel more = some (members, rest)) :
    readMembers (fuel + 1) s = some ((name, value) :: members, rest) := by
  simp only [readMembers, hname, h, Option.bind_eq_bind, Option.bind_some,
    skipBlanks_cons (show isBlank ',' = false by rfl), hmore]

theorem readMembers_end (h : skipBlanks s = '\x7d' :: rest) : readMembers fuel s = none := by
  have hname : readName s = none := by
    rw [readName, h]
    rfl
  cases fuel with
  | zero => rfl
  | succ fuel => rw [readMembers, hname, Option.bind_eq_bind, Option.bind_none]

theorem readValue_members (h : readMembers fuel s = some (members, rest)) :
    readValue (fuel + 1) ('\x7b' :: s) = some (ofMembers members, rest) := by
  rw [readValue, skipBlanks_cons (by rfl)]
  split
  case h_6 heq =>
    obtain rfl := (List.cons.inj heq).2
    split
    · next hend =>
      rw [readMembers_end hend] at h
      cases h
    · rw [h]
      rfl
  case h_7 hopen => exact absurd rfl (hopen s)
  all_goals
    rename_i heq
    exact absurd (List.cons.inj heq).1 (by decide)

end Members

theorem readName_quoted (name : String) (rest : List Char) :
    readName (quoted name ++ ':' :: rest) = some (some name, rest) := by
  rw [quoted, List.cons_append, List.append_assoc, readName, skipBlanks_cons (by rfl)]
  show (readString (name.toList.flatMap escaped ++ '"' :: ':' :: rest)).bind _ = _
  rw [readString_quoted]
  rfl

/-- Members as the reader collects them, before it is known that their names are texts. -/
def named (members : List (String × Json)) : List (Option String × Json) :=
  members.map fun m => (some m.1, m.2)

theorem ofMembers_named (members : List (String × Json)) :
    ofMembers (named members) = .obj members := by
  have hnames : (named members).mapM (fun m => m.1.map fun name => (name, m.2)) = some members := by
    induction members with
    | nil => rfl
    | cons member members ih =>
      rw [named, List.map_cons, List.mapM_cons, ← named, ih]
      rfl
  rw [ofMembers, hnames]

/-- The members of an object are read up to its end, if there are any. -/
def MembersReadBack : List (String × Json) → Prop
  | [] => True
  | (name, value) :: members => ∀ (fuel : Nat) (rest : List Char),
    2 * (value.chars.length + (memberChars members).length) ≤ fuel →
      readMembers fuel (quoted name ++ ':' :: (value.chars ++ (memberChars members ++ rest))) =
        some (named ((name, value) :: members), rest)

theorem membersReadBack_cons {name : String} {value : Json} {members : List (String × Json)}
    (hvalue : ReadsBack value) (hmembers : MembersReadBack members) :
    MembersReadBack ((name, value) :: members) := by
  intro fuel rest hfuel
  have hname := readName_quoted name (value.chars ++ (memberChars members ++ rest))
  have hread := hvalue (fuel - 1) _ (stops_memberChars members rest)
  cases members with
  | nil =>
    rw [memberChars, List.length_singleton] at hfuel
    obtain ⟨fuel, rfl⟩ : ∃ f, fuel = f + 1 := ⟨fuel - 1, by omega⟩
    rw [memberChars] at hname hread ⊢
    exact readMembers_last hname (hread (by omega))
  | cons next behind =>
    obtain ⟨nextName, nextValue⟩ := next
    rw [memberChars, List.length_cons, List.length_append, List.length_cons, List.length_append]
      at hfuel
    obtain ⟨fuel, rfl⟩ : ∃ f, fuel = f + 1 := ⟨fuel - 1, by omega⟩
    rw [memberChars, List.cons_append, List.append_assoc, List.cons_append, List.append_assoc]
      at hname hread ⊢
    exact readMembers_next hname (hread (by omega)) (hmembers fuel rest (by omega))

theorem readsBack_obj {members : List (String × Json)} (h : MembersReadBack members) :
    ReadsBack (.obj members) := by
  cases members with
  | nil => exact readsBack_of_eq chars.eq_9 fun _ _ => rfl
  | cons member members =>
    obtain ⟨name, value⟩ := member
    intro fuel rest hrest hfuel
    rw [chars, List.length_cons, List.length_append, List.length_cons, List.length_append] at hfuel
    obtain ⟨fuel, rfl⟩ : ∃ f, fuel = f + 1 := ⟨fuel - 1, by omega⟩
    rw [chars, List.cons_append, List.append_assoc, List.cons_append, List.append_assoc,
      readValue_members (h fuel rest (by omega)), ofMembers_named]

/-! ### Documents -/

mutual

theorem readsBack : ∀ j : Json, j.WellFormed → ReadsBack j
  | .null, _ => readsBack_null
  | .bool value, _ => readsBack_bool value
  | .num _, h => readsBack_num h
  | .str s, _ => readsBack_str s
  | .unreadable, _ => readsBack_unreadable
  | .arr values, h => readsBack_arr (itemsReadBack values h)
  | .obj members, h => readsBack_obj (membersReadBack members h)

theorem itemsReadBack : ∀ values : List Json, AreWellFormed values → ItemsReadBack values
  | [], _ => trivial
  | value :: values, h => itemsReadBack_cons (readsBack value h.1) (itemsReadBack values h.2)

theorem membersReadBack :
    ∀ members : List (String × Json), MembersAreWellFormed members → MembersReadBack members
  | [], _ => trivial
  | (_, value) :: members, h =>
    membersReadBack_cons (readsBack value h.1) (membersReadBack members h.2)

end

/-- **A document is read back from its text.** -/
theorem ofText?_text {j : Json} (h : j.WellFormed) : ofText? j.text = some j := by
  have hread := readsBack j h (2 * j.chars.length + 2) [] (by simp [Stops]) (by omega)
  rw [List.append_nil] at hread
  rw [ofText?, text, String.toList_ofList, ofChars?, hread]
  rfl

/-! ### Whole numbers -/

theorem wellFormed_ofNat (n : Nat) : WellFormed (ofNat n) := by
  refine ⟨⟨Text.digits_ne_nil n, fun _ => Text.isDigit_of_mem_digits, fun hzero => ?_⟩,
    fun ds hds => absurd hds (Option.not_mem_none ds),
    fun e he => absurd he (Option.not_mem_none e)⟩
  rw [Decimal.head?_digits hzero]
  rfl

theorem ofNumeral?_ofNat {n : Nat} (h : n < 18446744073709551616) :
    Number.ofNumeral? (.ofNat n) = some (.whole n) := by
  have hvalue : Nat.ofDigitChars 10 (Text.digits n) 0 = n :=
    Nat.ofDigitChars_toDigits (by decide) (by decide)
  simp [Number.ofNumeral?, Numeral.ofNat, hvalue, h]

end Json

end CardPayments
