/-!
# Places in a YAML text

YAML gives meaning to lines and columns, so a text is read through a cursor that knows where the
rest of the text begins. Line breaks come in several spellings; those that end a line of plain text
are unified before reading, and the two separators of Unicode stay what they are.
-/

namespace CardPayments

namespace Yaml

/-! ### Characters -/

/-- The characters that a YAML text may hold: no controls but tab and line breaks. -/
def isAllowed (c : Char) : Bool :=
  let n := c.toNat
  n == 0x09 || n == 0x0A || n == 0x0D || (0x20 ≤ n && n ≤ 0x7E) || n == 0x85 ||
    (0xA0 ≤ n && n ≤ 0xFFFD) || 0x10000 ≤ n

def lineSeparator : Char := '\u2028'

def paragraphSeparator : Char := '\u2029'

def isBreak (c : Char) : Bool := c = '\n' || c = lineSeparator || c = paragraphSeparator

def isBlank (c : Char) : Bool := c = ' ' || c = '\t'

def isSpace (c : Char) : Bool := isBlank c || isBreak c

/-- Whether a word could end here: at a blank, a break or the end of the text. -/
def atSpace : List Char → Bool
  | [] => true
  | c :: _ => isSpace c

def isNameChar (c : Char) : Bool := c.isAlphanum || c = '_' || c = '-'

def unifyBreaks : List Char → List Char
  | [] => []
  | '\r' :: '\n' :: rest => '\n' :: unifyBreaks rest
  | c :: rest => (if c = '\r' ∨ c = '\u0085' then '\n' else c) :: unifyBreaks rest

/-! ### Cursors -/

/-- What is left of a text, and the line and column at which it begins. -/
structure Cursor where
  rest : List Char
  line : Nat
  column : Nat
deriving DecidableEq, Repr

namespace Cursor

/-- The start of a text; a byte order mark takes up a column. -/
def start : List Char → Cursor
  | '\ufeff' :: rest => ⟨rest, 0, 1⟩
  | rest => ⟨rest, 0, 0⟩

def forward (c : Cursor) (n : Nat) : Cursor := ⟨c.rest.drop n, c.line, c.column + n⟩

def skipTo (c : Cursor) (rest : List Char) : Cursor :=
  ⟨rest, c.line, c.column + (c.rest.length - rest.length)⟩

/-- The cursor at the line behind a break, if it stands at one. -/
def nextLine (c : Cursor) : Cursor := ⟨c.rest.drop 1, c.line + 1, 0⟩

/-- Whether a line begins here with three of these characters and nothing right behind them. -/
def atMark (c : Cursor) (sign : Char) : Bool :=
  match c.rest with
  | x :: y :: z :: rest => c.column == 0 && x == sign && y == sign && z == sign && atSpace rest
  | _ => false

/-- Whether one of the two marks between documents stands here. -/
def atDocumentMark (c : Cursor) : Bool := c.atMark '-' || c.atMark '.'

end Cursor

end Yaml

end CardPayments
