import CardPayments.Text.Basic
import CardPayments.Text.Utf8

/-!
# The environment and files of it

The environment is the named values around a run. A file may add to it: a variable to a line, that
is a name, an equals sign and a value. A variable that is set keeps its value. Values may be quoted,
wholly or in part, and then go on over line breaks; outside single quotes a dollar sign stands for
the value of a variable and a backslash for the sign behind it. The file is read line by line, so a
line sees the variables of the lines before it, and the first line that cannot be read ends the
reading and keeps what was read until then.
-/

namespace CardPayments

structure Environment where
  entries : List (String × String)
deriving DecidableEq, Inhabited

namespace Environment

def get? (e : Environment) (name : String) : Option String :=
  (e.entries.find? fun v => v.1 == name).map Prod.snd

def valueOf (e : Environment) (name : String) : String := (e.get? name).getD ""

/-- Sets a variable that is not set. -/
def provide (e : Environment) (name value : String) : Environment :=
  if (e.get? name).isSome then e else ⟨e.entries ++ [(name, value)]⟩

end Environment

namespace EnvironmentFile

/-! ### Lines -/

inductive Opening where
  | nothing
  /-- A blank has just gone by, so a hash sign would begin a comment. -/
  | blank
  | escape
  | single
  | singleEscape
  | double
  | doubleEscape
deriving DecidableEq, Repr

namespace Opening

def start : Char → Opening
  | '\\' => .escape
  | '"' => .double
  | '\'' => .single
  | _ => .nothing

def next : Opening → Char → Opening
  | .nothing, c => if Text.isBlank c && c != '\n' && c != '\r' then .blank else start c
  | .blank, c => start c
  | .escape, _ => .nothing
  | .single, c => if c = '\\' then .singleEscape else if c = '\'' then .nothing else .single
  | .singleEscape, _ => .single
  | .double, c => if c = '\\' then .doubleEscape else if c = '"' then .nothing else .double
  | .doubleEscape, _ => .double

end Opening

/-- The line before a comment, whether there is one, and what is open at its end. -/
def cutComment (opening : Opening) : List Char → List Char × Bool × Opening
  | [] => ([], false, opening)
  | c :: rest =>
    if opening = .blank ∧ c = '#' then ([], true, opening)
    else
      let (line, commented, opening) := cutComment (opening.next c) rest
      (c :: line, commented, opening)

def dropBreak (line : List Char) : List Char :=
  match line.reverse with
  | '\n' :: '\r' :: rest => rest.reverse
  | '\n' :: rest => rest.reverse
  | _ => line

def isComment (line : List Char) : Bool := (Text.trimStart line).head? = some '#'

/-- Joins lines as long as something is open at their end; `before` are the lines joined so far.
There is none where the file ends too early. -/
def joinLines (opening : Opening) (before : List Char) :
    List (List Char) → Option (List Char × List (List Char))
  | [] => none
  | line :: rest =>
    if isComment (before ++ line) then some ([], rest)
    else
      let (text, commented, opening) := cutComment opening line
      if commented then some (before ++ text, rest)
      else if opening = .nothing then some (dropBreak (before ++ text), rest)
      else joinLines opening (before ++ text) rest

/-! ### Values -/

inductive Place where
  | text (quoted : Bool)
  | escape (quoted : Bool)
  | single
  /-- Behind a dollar sign and the name so far. -/
  | name (quoted : Bool) (name : List Char)
  /-- Behind a dollar sign, a brace and the name so far. -/
  | braced (quoted : Bool) (name : List Char)
  /-- Behind the blank that ends a value. -/
  | over

/-- The characters of names in values: letters and digits, and beyond ASCII everything but blanks.
-/
def isNameChar (c : Char) : Bool := c.isAlphanum || (0x80 ≤ c.toNat && !Text.isBlank c)

def escapeChar? (c : Char) : Option Char :=
  if c = 'n' then some '\n' else if ['\\', '\'', '"', '$', ' '].contains c then some c else none

/-- The text that one character adds, and the place behind it. -/
def step (meaning : List Char → List Char) : Place → Char → Option (List Char × Place)
  | .over, c => if c = ' ' ∨ c = '\t' then some ([], .over) else none
  | .escape quoted, c => (escapeChar? c).map fun e => ([e], .text quoted)
  | .single, c => if c = '\'' then some ([], .text false) else some ([c], .single)
  | .name quoted name, c =>
    if isNameChar c then some ([], .name quoted (name ++ [c]))
    else if c = '\x7b' ∧ name.isEmpty then some ([], .braced quoted [])
    else if c = '$' then some (meaning name, .name quoted [])
    else some (meaning name ++ [c], .text quoted)
  | .braced quoted name, c =>
    if c = '\x7d' then some (meaning name, .text quoted)
    else some ([], .braced quoted (name ++ [c]))
  | .text quoted, c =>
    if c = '$' then some ([], .name quoted [])
    else if c = '\\' then some ([], .escape quoted)
    else if c = '"' then some ([], .text (!quoted))
    else if quoted then some ([c], .text true)
    else if c = '\'' then some ([], .single)
    else if c = ' ' ∨ c = '\t' then some ([], .over)
    else some ([c], .text false)

/-- What is left to add at the end of a value, unless a quote or brace is still open. -/
def finish (meaning : List Char → List Char) : Place → Option (List Char)
  | .text false => some []
  | .escape false => some []
  | .over => some []
  | .name false name => some (meaning name)
  | _ => none

/-- The text of a value; a comment may follow the blank at its end. -/
def readValue (meaning : List Char → List Char) (place : Place) : List Char → Option (List Char)
  | [] => finish meaning place
  | c :: rest => do
    let isOver := match place with
      | .over => true
      | _ => false
    if isOver && c = '#' then some []
    else
      let (text, place) ← step meaning place c
      (readValue meaning place rest).map (text ++ ·)

/-! ### Assignments -/

def readName (s : List Char) : Option (List Char × List Char) :=
  match s with
  | [] => none
  | c :: _ =>
    let isPart (c : Char) : Bool := c.isAlphanum || c = '_' || c = '.'
    if c.isAlpha || c = '_' then some (s.takeWhile isPart, s.dropWhile isPart) else none

def dropEquals (s : List Char) : Option (List Char) :=
  match Text.trimStart s with
  | '=' :: rest => some (Text.trimStart rest)
  | _ => none

def readAssignment (s : List Char) : Option (List Char × List Char) := do
  let (name, rest) ← readName s
  match dropEquals rest with
  | some value => some (name, value)
  | none =>
    if name = "export".toList then
      let (name, rest) ← readName (Text.trimStart rest)
      (dropEquals rest).map fun value => (name, value)
    else none

/-- The variable that a line sets, if it sets one; none at all where the line cannot be read. -/
def readLine (e : Environment) (line : List Char) : Option (Option (String × String)) :=
  let s := Text.trimEnd (Text.trimStart line)
  if s.isEmpty ∨ s.head? = some '#' then some none
  else do
    let (name, s) ← readAssignment s
    let meaning (name : List Char) : List Char := (e.valueOf (String.ofList name)).toList
    let value ← if s.head? = some '#' then some [] else readValue meaning (.text false) s
    some (some (String.ofList name, String.ofList value))

/-! ### Files -/

def splitLines : List UInt8 → List (List UInt8)
  | [] => []
  | b :: rest =>
    if b = 10 then [b] :: splitLines rest
    else
      match splitLines rest with
      | line :: lines => (b :: line) :: lines
      | [] => [[b]]

def textLines : List (List UInt8) → List (List Char) × Bool
  | [] => ([], true)
  | line :: rest =>
    match Text.ofUtf8? line with
    | some s =>
      let (lines, whole) := textLines rest
      (s :: lines, whole)
    | none => ([], false)

structure Loaded where
  environment : Environment
  whole : Bool
deriving DecidableEq

/-- Sets the variables of the lines; each round takes a line. -/
def loadLines : (fuel : Nat) → Environment → List (List Char) → Loaded
  | 0, e, _ => ⟨e, false⟩
  | _ + 1, e, [] => ⟨e, true⟩
  | fuel + 1, e, lines =>
    match joinLines .nothing [] lines with
    | none => ⟨e, false⟩
    | some (line, rest) =>
      match readLine e line with
      | none => ⟨e, false⟩
      | some none => loadLines fuel e rest
      | some (some (name, value)) => loadLines fuel (e.provide name value) rest

/-- The longest runs of characters of this kind. -/
def runs (isPart : Char → Bool) : List Char → List (List Char)
  | [] => [[]]
  | c :: rest =>
    match runs isPart rest with
    | run :: others => if isPart c then (c :: run) :: others else [] :: run :: others
    | [] => [[c]]

/-- The names of all variables that a text could set or ask for, and perhaps more. -/
def namesIn (s : List Char) : List String :=
  let whole := runs (fun c => c.isAlphanum || c = '_' || c = '.') s
  ((whole ++ runs Char.isAlphanum s).map String.ofList).eraseDups

def dropMark : List UInt8 → List UInt8
  | 0xEF :: 0xBB :: 0xBF :: rest => rest
  | bytes => bytes

def load (e : Environment) (bytes : List UInt8) : Loaded :=
  let (lines, isText) := textLines (splitLines (dropMark bytes))
  let loaded := loadLines (lines.length + 1) e lines
  ⟨loaded.environment, loaded.whole && isText⟩

end EnvironmentFile

end CardPayments
