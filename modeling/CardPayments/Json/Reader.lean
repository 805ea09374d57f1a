import CardPayments.Json.Basic

/-!
# Reading JSON

A reader takes a value off the front of a text and hands back the rest. Nothing but blanks may stand
around a document. Strings are read in two steps: first the pieces between the quotes, plain
characters and escaped sixteen-bit units, then the units joined to characters.
-/

namespace CardPayments

namespace Json

def isBlank (c : Char) : Bool := c = ' ' || c = '\t' || c = '\n' || c = '\r'

def skipBlanks (s : List Char) : List Char := s.dropWhile isBlank

/-! ### Strings -/

inductive Piece where
  | char (c : Char)
  | unit (n : Nat)
deriving DecidableEq

def isHighSurrogate (n : Nat) : Bool := 0xD800 ≤ n && n ≤ 0xDBFF

def isLowSurrogate (n : Nat) : Bool := 0xDC00 ≤ n && n ≤ 0xDFFF

def pairChar (high low : Nat) : Char :=
  Char.ofNat (0x10000 + (high - 0xD800) * 0x400 + (low - 0xDC00))

/-- The text of the pieces, unless half of a surrogate pair stands alone. -/
def joinPieces : List Piece → Option (List Char)
  | [] => some []
  | .char c :: rest => (joinPieces rest).map (c :: ·)
  | .unit high :: .unit low :: rest =>
    if isHighSurrogate high && isLowSurrogate low then
      (joinPieces rest).map (pairChar high low :: ·)
    else if isHighSurrogate high || isLowSurrogate high then none
    else (joinPieces (.unit low :: rest)).map (Char.ofNat high :: ·)
  | .unit n :: rest =>
    if isHighSurrogate n || isLowSurrogate n then none
    else (joinPieces rest).map (Char.ofNat n :: ·)

def escapeChar? : Char → Option Char
  | '"' => some '"'
  | '\\' => some '\\'
  | '/' => some '/'
  | 'b' => some '\x08'
  | 'f' => some '\x0c'
  | 'n' => some '\n'
  | 'r' => some '\r'
  | 't' => some '\t'
  | _ => none

def unit? (a b c d : Char) : Option Nat := do
  let high := (← Text.hexValue? a) * 16 + (← Text.hexValue? b)
  let low := (← Text.hexValue? c) * 16 + (← Text.hexValue? d)
  return high * 256 + low

/-- The pieces up to the closing quote, and what follows it. -/
def readPieces : List Char → Option (List Piece × List Char)
  | [] => none
  | '"' :: rest => some ([], rest)
  | '\\' :: 'u' :: a :: b :: c :: d :: rest => do
    let n ← unit? a b c d
    let (pieces, rest) ← readPieces rest
    some (.unit n :: pieces, rest)
  | '\\' :: e :: rest => do
    let c ← escapeChar? e
    let (pieces, rest) ← readPieces rest
    some (.char c :: pieces, rest)
  | c :: rest =>
    if c.toNat < 0x20 ∨ c = '\\' then none
    else do
      let (pieces, rest) ← readPieces rest
      some (.char c :: pieces, rest)

/-- The string behind an opening quote; the inner `none` is a string that names no text. -/
def readString (s : List Char) : Option (Option String × List Char) := do
  let (pieces, rest) ← readPieces s
  some ((joinPieces pieces).map String.ofList, rest)

/-! ### Numbers -/

def readDigits (s : List Char) : Option (List Char × List Char) :=
  match s.takeWhile Char.isDigit with
  | [] => none
  | ds => some (ds, s.dropWhile Char.isDigit)

def readSign : List Char → Bool × List Char
  | '-' :: rest => (true, rest)
  | s => (false, s)

def readFraction : List Char → Option (Option (List Char) × List Char)
  | '.' :: rest => do
    let (ds, rest) ← readDigits rest
    some (some ds, rest)
  | s => some (none, s)

def readPower (s : List Char) : Option (Option (Bool × List Char) × List Char) := do
  let (negative, s) := match s with
    | '-' :: rest => (true, rest)
    | '+' :: rest => (false, rest)
    | _ => (false, s)
  let (ds, rest) ← readDigits s
  some (some (negative, ds), rest)

def readExponent : List Char → Option (Option (Bool × List Char) × List Char)
  | 'e' :: rest => readPower rest
  | 'E' :: rest => readPower rest
  | s => some (none, s)

def readNumeral (s : List Char) : Option (Numeral × List Char) := do
  let (negative, s) := readSign s
  let (whole, s) ← readDigits s
  if whole.head? = some '0' ∧ whole ≠ ['0'] then none
  let (fraction, s) ← readFraction s
  let (exponent, s) ← readExponent s
  some (⟨negative, whole, fraction, exponent⟩, s)

/-! ### Values -/

def ofMembers (members : List (Option String × Json)) : Json :=
  match members.mapM fun m => m.1.map fun name => (name, m.2) with
  | some named => .obj named
  | none => .unreadable

def readName (s : List Char) : Option (Option String × List Char) :=
  match skipBlanks s with
  | '"' :: rest => do
    let (name, rest) ← readString rest
    match skipBlanks rest with
    | ':' :: rest => some (name, rest)
    | _ => none
  | _ => none

mutual

/-- A value off the front; `fuel` bounds the work. -/
def readValue : (fuel : Nat) → List Char → Option (Json × List Char)
  | 0, _ => none
  | fuel + 1, s =>
    match skipBlanks s with
    | 'n' :: 'u' :: 'l' :: 'l' :: rest => some (.null, rest)
    | 't' :: 'r' :: 'u' :: 'e' :: rest => some (.bool true, rest)
    | 'f' :: 'a' :: 'l' :: 's' :: 'e' :: rest => some (.bool false, rest)
    | '"' :: rest => do
      let (text, rest) ← readString rest
      some ((text.map Json.str).getD .unreadable, rest)
    | '[' :: rest =>
      match skipBlanks rest with
      | ']' :: rest => some (.arr [], rest)
      | _ => do
        let (items, rest) ← readItems fuel rest
        some (.arr items, rest)
    | '{' :: rest =>
      match skipBlanks rest with
      | '}' :: rest => some (.obj [], rest)
      | _ => do
        let (members, rest) ← readMembers fuel rest
        some (ofMembers members, rest)
    | other => do
      let (n, rest) ← readNumeral other
      some (.num n, rest)

/-- The items of an array, at least one, up to its end. -/
def readItems : (fuel : Nat) → List Char → Option (List Json × List Char)
  | 0, _ => none
  | fuel + 1, s => do
    let (value, rest) ← readValue fuel s
    match skipBlanks rest with
    | ']' :: rest => some ([value], rest)
    | ',' :: rest => do
      let (values, rest) ← readItems fuel rest
      some (value :: values, rest)
    | _ => none

/-- The members of an object, at least one, up to its end. -/
def readMembers : (fuel : Nat) → List Char → Option (List (Option String × Json) × List Char)
  | 0, _ => none
  | fuel + 1, s => do
    let (name, rest) ← readName s
    let (value, rest) ← readValue fuel rest
    match skipBlanks rest with
    | '}' :: rest => some ([(name, value)], rest)
    | ',' :: rest => do
      let (members, rest) ← readMembers fuel rest
      some ((name, value) :: members, rest)
    | _ => none

end

/-- The document that the characters spell: every step inward or onward takes a character, so twice
their number is work enough. -/
def ofChars? (s : List Char) : Option Json := do
  let (value, rest) ← readValue (2 * s.length + 2) s
  if (skipBlanks rest).isEmpty then some value else none

def ofText? (s : String) : Option Json := ofChars? s.toList

end Json

end CardPayments
