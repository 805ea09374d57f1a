import CardPayments.Text.Utf8
import CardPayments.Yaml.Scalar

/-!
# YAML tokens

A YAML text cut into its signs and scalars. Indentation becomes tokens too: a collection begins
where a sign stands further right than the collection around it, and ends where a line stands
further left. A key is known to be one only when the colon behind it is met, so the reader remembers
where a key could have begun and puts the key's token there afterwards; the colon has to follow on
the same line and within 1024 characters.
-/

namespace CardPayments

namespace Yaml

inductive Token where
  | scalar (plain : Bool) (text : String)
  | aliasOf (anchor : Nat)
  | anchor (anchor : Nat)
  | tag (name : String)
  | directive
  | documentStart
  | documentEnd
  | blockSequence
  | blockMapping
  | blockEnd
  | flowSequence
  | flowSequenceEnd
  | flowMapping
  | flowMappingEnd
  | item
  | comma
  | key
  | value
deriving DecidableEq, Repr

namespace Token

/-! ### Names and tags -/

def endsName : List Char → Bool
  | [] => true
  | c :: _ => isSpace c || ['?', ':', ',', ']', '\x7d', '%', '@', '\x60'].contains c

def readName (s : List Char) : Option (List Char × List Char) :=
  let name := s.takeWhile isNameChar
  let rest := s.dropWhile isNameChar
  if name.isEmpty || !endsName rest then none else some (name, rest)

def isAddressSign (c : Char) : Bool :=
  [';', '/', '?', ':', '@', '&', '=', '+', '$', '.', '!', '~', '*', '\'', '(', ')'].contains c

def isBracketSign (c : Char) : Bool := c = ',' || c = '[' || c = ']'

/-- The bytes of percent triples, as many as stand in a row. -/
def readTriples : List Char → Option (List UInt8 × List Char)
  | '%' :: a :: b :: rest => do
    let n := (← Text.hexValue? a) * 16 + (← Text.hexValue? b)
    let (bytes, rest) ← readTriples rest
    some (UInt8.ofNat n :: bytes, rest)
  | '%' :: _ => none
  | s => some ([], s)

/-- The characters of an address; with `brackets` commas and square brackets are among them. -/
def readAddress (brackets : Bool) : (fuel : Nat) → List Char → Option (List Char × List Char)
  | 0, _ => none
  | _ + 1, [] => some ([], [])
  | fuel + 1, c :: rest =>
    if c = '%' then do
      let (bytes, rest) ← readTriples (c :: rest)
      let chars ← Text.ofUtf8? bytes
      let (more, rest) ← readAddress brackets fuel rest
      some (chars ++ more, rest)
    else if isNameChar c || isAddressSign c || (brackets && isBracketSign c) then
      (readAddress brackets fuel rest).map fun (more, rest) => (c :: more, rest)
    else some ([], c :: rest)

def address (brackets : Bool) (s : List Char) : Option (List Char × List Char) :=
  readAddress brackets (s.length + 1) s

/-- The handle of a tag from its first exclamation mark on: a name between two marks, or what begins
like one. -/
def readHandle : List Char → Option (List Char × List Char)
  | '!' :: s =>
    let name := s.takeWhile isNameChar
    match s.dropWhile isNameChar with
    | '!' :: rest => some ('!' :: name ++ ['!'], rest)
    | rest => some ('!' :: name, rest)
  | _ => none

def isNamedHandle (handle : List Char) : Bool := 2 ≤ handle.length && handle.getLast? == some '!'

def standardHandles : List (List Char × List Char) :=
  [("!".toList, "!".toList), ("!!".toList, "tag:yaml.org,2002:".toList)]

/-- The tag at an exclamation mark, in full, and what follows it. -/
def readTag (handles : List (List Char × List Char)) : List Char → Option (List Char × List Char)
  | '!' :: '<' :: s => do
    let (name, rest) ← address true s
    match rest with
    | '>' :: rest => if name.isEmpty then none else some (name, rest)
    | _ => none
  | s => do
    let (handle, rest) ← readHandle s
    let (more, rest) ← address false rest
    let meaning (handle : List Char) : Option (List Char) :=
      (handles.find? fun row => row.1 == handle).map Prod.snd
    if isNamedHandle handle then
      if more.isEmpty then none else some ((← meaning handle) ++ more, rest)
    else
      let name := handle.drop 1 ++ more
      if name.isEmpty then some (['!'], rest) else some ((← meaning ['!']) ++ name, rest)

/-! ### Where a reader stands -/

/-- A place where a key may have begun. -/
structure Candidate where
  /-- How many tokens stand before it. -/
  position : Nat
  line : Nat
  column : Nat
  /-- A line of a mapping has to begin with a key. -/
  required : Bool

structure State where
  tokens : List Token
  /-- The columns of the open block collections, the innermost first. -/
  indents : List Nat
  keyAllowed : Bool
  candidate : Option Candidate
  /-- The candidates around each open flow collection, the innermost first. -/
  outer : List (Option Candidate)
  /-- The numbers of the anchors by their names. -/
  anchors : List (List Char × Nat)
  handles : List (List Char × List Char)
  versioned : Bool

namespace State

def initial : State := ⟨[], [], true, none, [], [], [], false⟩

def inFlow (s : State) : Bool := !s.outer.isEmpty

def deep (s : State) : Nat :=
  match s.indents with
  | [] => 0
  | column :: _ => column + 1

def emit (s : State) (t : Token) : State := { s with tokens := t :: s.tokens }

def allow (s : State) (keyAllowed : Bool) : State := { s with keyAllowed }

/-- A candidate that the reader has left behind, unless it had to be a key. -/
def settle (c : Cursor) : Option Candidate → Option (Option Candidate)
  | none => some none
  | some k =>
    if k.line < c.line ∨ k.column + 1024 < c.column then
      if k.required then none else some none
    else some (some k)

def settleAll (s : State) (c : Cursor) : Option State := do
  let candidate ← settle c s.candidate
  let outer ← s.outer.mapM (settle c)
  some { s with candidate, outer }

def drop (s : State) : Option State :=
  match s.candidate with
  | some k => if k.required then none else some { s with candidate := none }
  | none => some s

/-- Remembers that a key may begin here. -/
def remember (s : State) (c : Cursor) : Option State :=
  if s.keyAllowed then do
    let s ← s.drop
    let required := !s.inFlow && s.indents.head? == some c.column
    some { s with candidate := some ⟨s.tokens.length, c.line, c.column, required⟩ }
  else some s

/-- Opens a block collection at this column, if it lies within the one that is open. -/
def openBlock (s : State) (column : Nat) (t : Token) : State :=
  if !s.inFlow && s.deep ≤ column then { s.emit t with indents := column :: s.indents } else s

def endBlocks (leave : Nat → Bool) (tokens : List Token) : List Nat → List Token × List Nat
  | [] => (tokens, [])
  | column :: outer =>
    if leave column then endBlocks leave (.blockEnd :: tokens) outer
    else (tokens, column :: outer)

def closeTo (s : State) (column : Nat) : State :=
  if s.inFlow then s
  else
    let (tokens, indents) := endBlocks (column < ·) s.tokens s.indents
    { s with tokens, indents }

def closeAll (s : State) : State :=
  if s.inFlow then s
  else
    let (tokens, indents) := endBlocks (fun _ => true) s.tokens s.indents
    { s with tokens, indents }

/-! ### Signs -/

def sign (s : State) (c : Cursor) (t : Token) (keyAllowed : Bool) : Option (State × Cursor) := do
  let s ← s.drop
  some ((s.emit t).allow keyAllowed, c.forward 1)

def openFlow (s : State) (c : Cursor) (t : Token) : Option (State × Cursor) := do
  let s ← s.remember c
  some ({ (s.emit t).allow true with candidate := none, outer := s.candidate :: s.outer },
    c.forward 1)

def closeFlow (s : State) (c : Cursor) (t : Token) : Option (State × Cursor) := do
  let s ← s.drop
  let s := match s.outer with
    | candidate :: outer => { s with candidate, outer }
    | [] => s
  some ((s.emit t).allow false, c.forward 1)

def item (s : State) (c : Cursor) : Option (State × Cursor) :=
  if s.inFlow then s.sign c .item true
  else if s.keyAllowed then (s.openBlock c.column .blockSequence).sign c .item true
  else none

def keySign (s : State) (c : Cursor) : Option (State × Cursor) :=
  if s.inFlow then s.sign c .key false
  else if s.keyAllowed then (s.openBlock c.column .blockMapping).sign c .key true
  else none

/-- The tokens, last one first, with a key put behind the first `position` of them. -/
def withKey (s : State) (k : Candidate) : State :=
  let count := s.tokens.length - k.position
  let before : State := { s with tokens := s.tokens.drop count }
  let opened := (before.openBlock k.column .blockMapping).emit .key
  { opened with tokens := s.tokens.take count ++ opened.tokens }

/-- The colon before a value: what could have been a key is one. -/
def valueSign (s : State) (c : Cursor) : Option (State × Cursor) :=
  match s.candidate with
  | some k => some ({ ((s.withKey k).emit .value).allow false with candidate := none }, c.forward 1)
  | none =>
    if s.inFlow then some ((s.emit .value).allow false, c.forward 1)
    else if s.keyAllowed then
      some (((s.openBlock c.column .blockMapping).emit .value).allow true, c.forward 1)
    else none

/-! ### Scalars and properties -/

def anchor (s : State) (c : Cursor) : Option (State × Cursor) := do
  let s ← s.remember c
  let (name, rest) ← readName (c.rest.drop 1)
  let n := s.anchors.length
  let anchors := (name, n) :: s.anchors.filter fun row => row.1 != name
  some ({ (s.emit (.anchor n)).allow false with anchors }, c.skipTo rest)

def aliasSign (s : State) (c : Cursor) : Option (State × Cursor) := do
  let s ← s.remember c
  let (name, rest) ← readName (c.rest.drop 1)
  let (_, n) ← s.anchors.find? fun row => row.1 == name
  some ((s.emit (.aliasOf n)).allow false, c.skipTo rest)

def tag (s : State) (c : Cursor) : Option (State × Cursor) := do
  let s ← s.remember c
  let (name, rest) ← readTag (s.handles ++ standardHandles) c.rest
  if atSpace rest || (s.inFlow && rest.head? == some ',') then
    some ((s.emit (.tag (String.ofList name))).allow false, c.skipTo rest)
  else none

def block (s : State) (c : Cursor) (literal : Bool) : Option (State × Cursor) := do
  let s ← s.drop
  let (text, c) ← readBlock literal s.deep c
  some ((s.emit (.scalar false (String.ofList text))).allow true, c)

def quoted (s : State) (c : Cursor) (quote : Char) : Option (State × Cursor) := do
  let s ← s.remember c
  let (text, c) ← readQuoted quote c
  some ((s.emit (.scalar false (String.ofList text))).allow false, c)

/-- A plain scalar; behind one that ends at a line break a key may begin. -/
def plain (s : State) (c : Cursor) : Option (State × Cursor) := do
  let s ← s.remember c
  let r ← readPlain s.inFlow s.deep c
  some ((s.emit (.scalar true (String.ofList r.text))).allow r.broken, r.next)

/-! ### Documents -/

def documentMark (s : State) (c : Cursor) (t : Token) : Option (State × Cursor) := do
  let s ← s.closeAll.drop
  some ((s.emit t).allow false, c.forward 3)

def readVersion (s : List Char) : Option (Nat × Nat × List Char) :=
  let number (s : List Char) : Option (Nat × List Char) :=
    let ds := s.takeWhile Char.isDigit
    if ds.length ≤ 9 then (Text.number? ds).map fun n => (n, s.drop ds.length) else none
  match number s with
  | some (major, '.' :: rest) => (number rest).map fun (minor, rest) => (major, minor, rest)
  | _ => none

/-- What a directive says, and what follows it: the version of the language, once and one of two, or
what a new handle stands for. -/
def readDirective (s : State) (rest : List Char) : Option (State × List Char) := do
  let name := rest.takeWhile isNameChar
  let rest := rest.dropWhile isNameChar
  let value := rest.dropWhile isBlank
  if name == "YAML".toList && atSpace rest then
    let (major, minor, rest) ← readVersion value
    if major = 1 ∧ (minor = 1 ∨ minor = 2) ∧ !s.versioned then
      some ({ s with versioned := true }, rest)
    else none
  else if name == "TAG".toList && atSpace rest then
    let (handle, rest) ← readHandle value
    let (meaning, after) ← address true (rest.dropWhile isBlank)
    let isWhole := handle == ['!'] || isNamedHandle handle
    let isNew := !(s.handles.any fun row => row.1 == handle)
    if isWhole && isNew && rest.head?.any isBlank && !meaning.isEmpty && atSpace after then
      some ({ s with handles := (handle, meaning) :: s.handles }, after)
    else none
  else none

def directive (s : State) (c : Cursor) : Option (State × Cursor) := do
  let s ← s.closeAll.drop
  let (s, rest) ← readDirective s (c.rest.drop 1)
  let c ← endOfHeader (c.skipTo rest)
  some ((s.emit .directive).allow false, c)

/-! ### One token after the other -/

/-- Skips blanks, comments and line breaks. A tab is no blank where a block collection could begin,
and outside flow collections a key may begin on every new line. -/
def skip (flow : Bool) :
    (comment keyAllowed : Bool) → (line column : Nat) → List Char → Bool × Cursor
  | _, keyAllowed, line, column, [] => (keyAllowed, ⟨[], line, column⟩)
  | comment, keyAllowed, line, column, c :: rest =>
    if isBreak c then skip flow false (keyAllowed || !flow) (line + 1) 0 rest
    else if comment || c = ' ' || (c = '\t' && (flow || !keyAllowed)) then
      skip flow comment keyAllowed line (column + 1) rest
    else if c = '#' then skip flow true keyAllowed line (column + 1) rest
    else (keyAllowed, ⟨c :: rest, line, column⟩)

def isIndicator (c : Char) : Bool :=
  ['-', '?', ':', ',', '[', ']', '\x7b', '\x7d', '#', '&', '*', '!', '|', '>', '\'', '"', '%', '@',
   '\x60'].contains c

def beginsPlain (flow : Bool) (c : Char) (rest : List Char) : Bool :=
  (!isSpace c && !isIndicator c) || (c = '-' && !rest.head?.any isBlank) ||
    (!flow && (c = '?' || c = ':') && !atSpace rest)

def readToken (s : State) (c : Cursor) : Option (State × Cursor) :=
  match c.rest with
  | [] => none
  | d :: rest =>
    let spaced := atSpace rest
    if c.column = 0 ∧ d = '%' then s.directive c
    else if c.atMark '-' then s.documentMark c .documentStart
    else if c.atMark '.' then s.documentMark c .documentEnd
    else if d = '[' then s.openFlow c .flowSequence
    else if d = '\x7b' then s.openFlow c .flowMapping
    else if d = ']' then s.closeFlow c .flowSequenceEnd
    else if d = '\x7d' then s.closeFlow c .flowMappingEnd
    else if d = ',' then s.sign c .comma true
    else if d = '-' ∧ spaced then s.item c
    else if d = '?' ∧ (s.inFlow || spaced) then s.keySign c
    else if d = ':' ∧ (s.inFlow || spaced) then s.valueSign c
    else if d = '*' then s.aliasSign c
    else if d = '&' then s.anchor c
    else if d = '!' then s.tag c
    else if d = '|' ∧ !s.inFlow then s.block c true
    else if d = '>' ∧ !s.inFlow then s.block c false
    else if d = '\'' ∨ d = '"' then s.quoted c d
    else if beginsPlain s.inFlow d rest then s.plain c
    else none

/-- Reads to the end of the text; every token takes a character at least, so the length of the text
bounds their number. -/
def readAll : (fuel : Nat) → State → Cursor → Option (List Token)
  | 0, _, _ => none
  | fuel + 1, s, c => do
    let (keyAllowed, c) := skip s.inFlow false s.keyAllowed c.line c.column c.rest
    let s ← (s.allow keyAllowed).settleAll c
    let s := s.closeTo c.column
    if c.rest.isEmpty then
      let s ← s.closeAll.drop
      some s.tokens.reverse
    else
      let (s, c) ← s.readToken c
      readAll fuel s c

end State

/-- The tokens of a text, if every character of it is allowed and every token can be read. -/
def ofChars? (s : List Char) : Option (List Token) :=
  if s.all isAllowed then State.readAll (s.length + 2) State.initial (Cursor.start (unifyBreaks s))
  else none

end Token

end Yaml

end CardPayments
