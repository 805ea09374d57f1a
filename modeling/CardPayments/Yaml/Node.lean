import CardPayments.Yaml.Token

/-!
# YAML nodes

The nodes of a document, built from its tokens. Block collections are closed by tokens of their own;
items of a sequence that stand right below their key are not, and end at the first token that is no
dash. A node that is left out is an empty plain scalar. A text holds one document; marks for its end
may follow it and nothing else.
-/

namespace CardPayments

namespace Yaml

inductive Node where
  | scalar (tag : Option String) (plain : Bool) (text : String)
  | sequence (items : List Node)
  | mapping (entries : List (Node × Node))
  /-- The node that another place of the document names. -/
  | aliasOf (anchor : Nat)
  | anchored (anchor : Nat) (node : Node)
deriving Repr

namespace Node

def empty : Node := .scalar none true ""

structure Properties where
  anchor : Option Nat
  tag : Option String

def takeProperties : List Token → Properties × List Token
  | .anchor n :: .tag t :: rest => (⟨some n, some t⟩, rest)
  | .tag t :: .anchor n :: rest => (⟨some n, some t⟩, rest)
  | .anchor n :: rest => (⟨some n, none⟩, rest)
  | .tag t :: rest => (⟨none, some t⟩, rest)
  | rest => (⟨none, none⟩, rest)

def Properties.isEmpty (p : Properties) : Bool := p.anchor.isNone && p.tag.isNone

def Properties.apply (p : Properties) (node : Node) : Node :=
  match p.anchor with
  | some n => .anchored n node
  | none => node

def isNext (tokens : List Token) (among : List Token) : Bool := tokens.head?.any among.contains

/-- The tokens before which an item or entry of a block is left out. -/
def closesEntry : List Token := [.key, .value, .blockEnd]

mutual

/-- A node off the front. Block collections stand only outside flow collections, and items without
indentation only right below a key. -/
def read : (fuel : Nat) → (block indentless : Bool) → List Token → Option (Node × List Token)
  | 0, _, _, _ => none
  | _ + 1, _, _, .aliasOf n :: rest => some (.aliasOf n, rest)
  | fuel + 1, block, indentless, tokens =>
    let (p, rest) := takeProperties tokens
    match rest with
    | .item :: _ =>
      if indentless then do
        let (items, rest) ← readItems fuel false rest
        some (p.apply (.sequence items), rest)
      else if p.isEmpty then none
      else some (p.apply (.scalar p.tag true ""), rest)
    | .scalar plain text :: rest => some (p.apply (.scalar p.tag plain text), rest)
    | .flowSequence :: rest => do
      let (items, rest) ← readFlowItems fuel true rest
      some (p.apply (.sequence items), rest)
    | .flowMapping :: rest => do
      let (entries, rest) ← readFlowEntries fuel true rest
      some (p.apply (.mapping entries), rest)
    | .blockSequence :: inner =>
      if block then do
        let (items, rest) ← readItems fuel true inner
        some (p.apply (.sequence items), rest)
      else if p.isEmpty then none
      else some (p.apply (.scalar p.tag true ""), rest)
    | .blockMapping :: inner =>
      if block then do
        let (entries, rest) ← readEntries fuel inner
        some (p.apply (.mapping entries), rest)
      else if p.isEmpty then none
      else some (p.apply (.scalar p.tag true ""), rest)
    | _ => if p.isEmpty then none else some (p.apply (.scalar p.tag true ""), rest)

/-- The items of a block; an `enclosed` block has a token for its end. -/
def readItems : (fuel : Nat) → (enclosed : Bool) → List Token → Option (List Node × List Token)
  | 0, _, _ => none
  | fuel + 1, enclosed, .item :: rest => do
    let isEmpty := isNext rest (if enclosed then [.item, .blockEnd] else .item :: closesEntry)
    let (node, rest) ← if isEmpty then some (empty, rest) else read fuel true false rest
    let (items, rest) ← readItems fuel enclosed rest
    some (node :: items, rest)
  | _ + 1, true, .blockEnd :: rest => some ([], rest)
  | _ + 1, true, _ => none
  | _ + 1, false, rest => some ([], rest)

def readEntries : (fuel : Nat) → List Token → Option (List (Node × Node) × List Token)
  | 0, _ => none
  | fuel + 1, .key :: rest => do
    let (key, rest) ←
      if isNext rest closesEntry then some (empty, rest)
      else read fuel true true rest
    let (value, rest) ← match rest with
      | .value :: rest =>
        if isNext rest closesEntry then some (empty, rest)
        else read fuel true true rest
      | rest => some (empty, rest)
    let (entries, rest) ← readEntries fuel rest
    some ((key, value) :: entries, rest)
  | _ + 1, .blockEnd :: rest => some ([], rest)
  | _ + 1, _ => none

/-- The items between square brackets, with commas between them and possibly one at the end. A key
among them makes a mapping of one entry; where the key itself is left out, the token behind its sign
goes with it. -/
def readFlowItems : (fuel : Nat) → (first : Bool) → List Token → Option (List Node × List Token)
  | 0, _, _ => none
  | _ + 1, _, .flowSequenceEnd :: rest => some ([], rest)
  | fuel + 1, first, tokens => do
    let tokens ← match first, tokens with
      | true, _ => some tokens
      | false, .comma :: rest => some rest
      | false, _ => none
    match tokens with
    | .flowSequenceEnd :: rest => some ([], rest)
    | .key :: rest =>
      let (key, rest) ←
        if isNext rest [.value, .comma, .flowSequenceEnd] then some (empty, rest.drop 1)
        else read fuel false false rest
      let (value, rest) ← match rest with
        | .value :: rest =>
          if isNext rest [.comma, .flowSequenceEnd] then some (empty, rest)
          else read fuel false false rest
        | rest => some (empty, rest)
      let (items, rest) ← readFlowItems fuel false rest
      some (.mapping [(key, value)] :: items, rest)
    | tokens =>
      let (node, rest) ← read fuel false false tokens
      let (items, rest) ← readFlowItems fuel false rest
      some (node :: items, rest)

/-- The entries between curly brackets; one may be a key alone. -/
def readFlowEntries :
    (fuel : Nat) → (first : Bool) → List Token → Option (List (Node × Node) × List Token)
  | 0, _, _ => none
  | _ + 1, _, .flowMappingEnd :: rest => some ([], rest)
  | fuel + 1, first, tokens => do
    let tokens ← match first, tokens with
      | true, _ => some tokens
      | false, .comma :: rest => some rest
      | false, _ => none
    match tokens with
    | .flowMappingEnd :: rest => some ([], rest)
    | .key :: rest =>
      let (key, rest) ←
        if isNext rest [.value, .comma, .flowMappingEnd] then some (empty, rest)
        else read fuel false false rest
      let (value, rest) ← match rest with
        | .value :: rest =>
          if isNext rest [.comma, .flowMappingEnd] then some (empty, rest)
          else read fuel false false rest
        | rest => some (empty, rest)
      let (entries, rest) ← readFlowEntries fuel false rest
      some ((key, value) :: entries, rest)
    | tokens =>
      let (key, rest) ← read fuel false false tokens
      let (entries, rest) ← readFlowEntries fuel false rest
      some ((key, empty) :: entries, rest)

end

/-- Whether nothing but marks for the end of a document is left. -/
def isOver (tokens : List Token) : Bool := tokens.all fun t => t == .documentEnd

/-- The one document of the tokens. Every step takes a token or goes down one level from a token
that was taken, so a few steps for each are enough. -/
def ofTokens? (tokens : List Token) : Option Node := do
  let fuel := 4 * tokens.length + 4
  let (node, rest) ←
    if tokens.isEmpty then some (empty, tokens)
    else if isNext tokens [.directive, .documentStart] then
      match tokens.dropWhile fun t => t == .directive with
      | .documentStart :: rest =>
        if rest.isEmpty || isNext rest [.directive, .documentStart, .documentEnd] then
          some (empty, rest)
        else read fuel true false rest
      | _ => none
    else read fuel true false tokens
  if isOver rest then some node else none

def ofChars? (s : List Char) : Option Node := Token.ofChars? s >>= ofTokens?

end Node

end Yaml

end CardPayments
