import CardPayments.Text.Basic
import CardPayments.Yaml.Cursor

/-!
# YAML scalars

The texts of a YAML document: plain ones, ones between single or double quotes, and blocks of lines.
In all but the blocks kept line by line, a single line break counts as a blank and of several the
first does not count. Where a scalar cannot be read there is none.
-/

namespace CardPayments

namespace Yaml

/-! ### Space between words -/

/-- The blanks of a line, or the breaks after it, that stand between two words. -/
structure Gap where
  blanks : List Char
  breaks : List Char
  next : Cursor

/-- The text of line breaks between words: one is a blank, and of more the first is dropped. -/
def foldBreaks : List Char → List Char
  | ['\n'] => [' ']
  | '\n' :: breaks => breaks
  | breaks => breaks

def Gap.text (g : Gap) : List Char := if g.breaks.isEmpty then g.blanks else foldBreaks g.breaks

/-- Reads on to the next word. Blanks around breaks vanish, but behind a break no tab may stand left
of the column `deep`. -/
def readGap (deep : Nat) (blanks breaks : List Char) (line column : Nat) : List Char → Option Gap
  | [] => some ⟨blanks, breaks, ⟨[], line, column⟩⟩
  | c :: rest =>
    if isBreak c then readGap deep [] (breaks ++ [c]) (line + 1) 0 rest
    else if isBlank c then
      if breaks.isEmpty then readGap deep (blanks ++ [c]) breaks line (column + 1) rest
      else if c = '\t' ∧ column < deep then none
      else readGap deep blanks breaks line (column + 1) rest
    else some ⟨blanks, breaks, ⟨c :: rest, line, column⟩⟩

def Cursor.gap (c : Cursor) (deep : Nat) : Option Gap := readGap deep [] [] c.line c.column c.rest

/-! ### Plain scalars -/

def isFlowSign (c : Char) : Bool := c = ',' || c = '[' || c = ']' || c = '\x7b' || c = '\x7d'

/-- The first word and what follows it. A colon ends it before a space; within flow collections
their signs end it too, and none may follow a colon. -/
def splitWord (flow : Bool) : List Char → Option (List Char × List Char)
  | [] => some ([], [])
  | c :: rest =>
    if isSpace c || (c = ':' && atSpace rest) || (flow && isFlowSign c) then some ([], c :: rest)
    else if flow && c = ':' && (rest.head?.any fun d => d = '?' || isFlowSign d) then none
    else (splitWord flow rest).map fun (word, after) => (c :: word, after)

structure Reading where
  text : List Char
  broken : Bool
  next : Cursor

/-- The words of a plain scalar from the second on, behind the gap `g`. They go on over line breaks
as long as they stand no further left than `deep`. -/
def readWords (flow : Bool) (deep : Nat) : (fuel : Nat) → Gap → Option Reading
  | 0, _ => none
  | fuel + 1, g =>
    let c := g.next
    let ended : Option Reading := some ⟨[], !g.breaks.isEmpty, c⟩
    if (!flow && c.column < deep) || c.atDocumentMark || c.rest.head? = some '#' then ended
    else do
      let (word, after) ← splitWord flow c.rest
      if word.isEmpty then ended
      else
        let c := c.skipTo after
        if c.rest.head?.any isSpace then
          let r ← readWords flow deep fuel (← c.gap deep)
          some { r with text := g.text ++ word ++ r.text }
        else some ⟨g.text ++ word, false, c⟩

def readPlain (flow : Bool) (deep : Nat) (c : Cursor) : Option Reading := do
  let (word, after) ← splitWord flow c.rest
  let c := c.skipTo after
  if c.rest.head?.any isSpace then
    let r ← readWords flow deep (c.rest.length + 1) (← c.gap deep)
    some { r with text := word ++ r.text }
  else some ⟨word, false, c⟩

/-! ### Quoted scalars -/

def escapeChar? : Char → Option Char
  | '0' => some '\x00'
  | 'a' => some '\x07'
  | 'b' => some '\x08'
  | 't' => some '\t'
  | '\t' => some '\t'
  | 'n' => some '\n'
  | 'v' => some '\x0b'
  | 'f' => some '\x0c'
  | 'r' => some '\r'
  | 'e' => some '\x1b'
  | ' ' => some ' '
  | '"' => some '"'
  | '/' => some '/'
  | '\\' => some '\\'
  | 'N' => some '\u0085'
  | '_' => some '\u00a0'
  | 'L' => some lineSeparator
  | 'P' => some paragraphSeparator
  | _ => none

def escapeWidth? : Char → Option Nat
  | 'x' => some 2
  | 'u' => some 4
  | 'U' => some 8
  | _ => none

def hexNumber? (digits : List Char) : Option Nat :=
  digits.foldl (fun n? c => do return (← n?) * 16 + (← Text.hexValue? c)) (some 0)

def numberedChar? (width : Nat) (s : List Char) : Option Char := do
  if s.length < width then none
  let n ← hexNumber? (s.take width)
  if n < 0xD800 ∨ (0xDFFF < n ∧ n ≤ 0x10FFFF) then some (Char.ofNat n) else none

/-- The character of an escape behind its backslash, and how many characters it takes. -/
def readEscape : List Char → Option (Char × Nat)
  | [] => none
  | e :: rest =>
    match escapeWidth? e with
    | some width => (numberedChar? width rest).map fun c => (c, width + 1)
    | none => (escapeChar? e).map fun c => (c, 1)

/-- A stretch within quotes up to a space or the closing quote; `joined` says that it ends with a
backslash before a line break. -/
structure Stretch where
  text : List Char
  joined : Bool
  rest : List Char

def Stretch.cons (c : Char) (s : Stretch) : Stretch := { s with text := c :: s.text }

/-- A stretch within single quotes, where a quote is written twice. -/
def singleStretch : List Char → Stretch
  | [] => ⟨[], false, []⟩
  | '\'' :: '\'' :: rest => (singleStretch rest).cons '\''
  | c :: rest =>
    if c = '\'' || isSpace c then ⟨[], false, c :: rest⟩
    else (singleStretch rest).cons c

def doubleStretch : (fuel : Nat) → List Char → Option Stretch
  | 0, _ => none
  | _ + 1, [] => some ⟨[], false, []⟩
  | fuel + 1, c :: rest =>
    if c = '"' || isSpace c then some ⟨[], false, c :: rest⟩
    else if c = '\\' then
      if rest.head?.any isBreak then some ⟨[], true, rest⟩
      else do
        let (e, width) ← readEscape rest
        (doubleStretch fuel (rest.drop width)).map (Stretch.cons e)
    else (doubleStretch fuel rest).map (Stretch.cons c)

def stretch (quote : Char) (s : List Char) : Option Stretch :=
  if quote = '"' then doubleStretch (s.length + 1) s else some (singleStretch s)

/-- The text up to the closing quote, and the cursor behind it. -/
def readQuotedFrom (quote : Char) : (fuel : Nat) → Cursor → Option (List Char × Cursor)
  | 0, _ => none
  | fuel + 1, c =>
    if c.atDocumentMark || c.rest.isEmpty then none
    else do
      let s ← stretch quote c.rest
      let c := c.skipTo s.rest
      let c := if s.joined then c.nextLine else c
      if c.rest.head? = some quote then some (s.text, c.forward 1)
      else
        let g ← c.gap 0
        let (text, c) ← readQuotedFrom quote fuel g.next
        some (s.text ++ (if s.joined then g.breaks else g.text) ++ text, c)

def readQuoted (quote : Char) (c : Cursor) : Option (List Char × Cursor) :=
  readQuotedFrom quote (c.rest.length + 1) (c.forward 1)

/-! ### Blocks of lines -/

/-- What becomes of the line breaks at the end of a block. -/
inductive Chomping where
  | strip
  | clip
  | keep
deriving DecidableEq

structure BlockHeader where
  chomping : Chomping
  indent : Option Nat
  rest : List Char

def chomping? : List Char → Option (Chomping × List Char)
  | '+' :: rest => some (.keep, rest)
  | '-' :: rest => some (.strip, rest)
  | _ => none

def indentDigit : List Char → Option (Option Nat × List Char)
  | c :: rest =>
    if c = '0' then none
    else if c.isDigit then some (some (Text.digitValue c), rest)
    else some (none, c :: rest)
  | [] => some (none, [])

def readHeader (s : List Char) : Option BlockHeader :=
  match chomping? s with
  | some (chomping, rest) => do
    let (indent, rest) ← indentDigit rest
    some ⟨chomping, indent, rest⟩
  | none => do
    let (indent, rest) ← indentDigit s
    match indent, chomping? rest with
    | some _, some (chomping, rest) => some ⟨chomping, indent, rest⟩
    | _, _ => some ⟨.clip, indent, rest⟩

/-- The end of the header's line: blanks and a comment, and nothing else. -/
def endOfHeader (c : Cursor) : Option Cursor :=
  let rest := c.rest.dropWhile isBlank
  let rest := if rest.head? = some '#' then rest.dropWhile (!isBreak ·) else rest
  match rest with
  | [] => some (c.skipTo [])
  | d :: after => if isBreak d then some (c.skipTo (d :: after)).nextLine else none

/-- What stands before a line of a block. -/
structure Margin where
  widest : Nat
  breaks : List Char
  next : Cursor

/-- Skips the indentation of a block and its empty lines, in which no tab may stand. -/
def readMargin (indent : Option Nat) (widest : Nat) (breaks : List Char) (line column : Nat) :
    List Char → Option Margin
  | [] => some ⟨max widest column, breaks, ⟨[], line, column⟩⟩
  | c :: rest =>
    let inside := indent.all (column < ·)
    if c = ' ' ∧ inside then readMargin indent widest breaks line (column + 1) rest
    else if c = '\t' ∧ inside then none
    else if isBreak c then readMargin indent (max widest column) (breaks ++ [c]) (line + 1) 0 rest
    else some ⟨max widest column, breaks, ⟨c :: rest, line, column⟩⟩

def Cursor.margin (c : Cursor) (indent : Option Nat) : Option Margin :=
  readMargin indent 0 [] c.line c.column c.rest

structure BlockStyle where
  literal : Bool
  chomping : Chomping
  indent : Nat

/-- The lines of a block from the margin `m` on; `lead` is the break behind the line before, and
`indented` says that this line began with a blank. -/
def readLines (style : BlockStyle) :
    (fuel : Nat) → (lead : List Char) → (indented : Bool) → Margin →
    Option (List Char × Cursor)
  | 0, _, _, _ => none
  | fuel + 1, lead, indented, m =>
    let c := m.next
    if c.column = style.indent ∧ c.rest ≠ [] then do
      let blank := c.rest.head?.any isBlank
      let fold := !style.literal && lead == ['\n'] && !indented && !blank
      let joint := if fold then if m.breaks.isEmpty then [' '] else [] else lead
      let content := c.rest.takeWhile (!isBreak ·)
      let after := c.forward content.length
      let margin ← (if after.rest.isEmpty then after else after.nextLine).margin (some style.indent)
      let (text, next) ← readLines style fuel (after.rest.take 1) blank margin
      some (joint ++ m.breaks ++ content ++ text, next)
    else
      match style.chomping with
      | .strip => some ([], c)
      | .clip => some (lead, c)
      | .keep => some (lead ++ m.breaks, c)

/-- The block of lines whose sign stands at the cursor. Its indentation is given, or that of its
first line, and in any case at least `deep` and one. -/
def readBlock (literal : Bool) (deep : Nat) (c : Cursor) : Option (List Char × Cursor) := do
  let header ← readHeader (c.rest.drop 1)
  let c ← endOfHeader (c.skipTo header.rest)
  let given := header.indent.map (deep - 1 + ·)
  let m ← c.margin given
  let indent := given.getD (max m.widest (max deep 1))
  readLines ⟨literal, header.chomping, indent⟩ (c.rest.length + 1) [] false m

end Yaml

end CardPayments
