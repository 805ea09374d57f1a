import CardPayments.Yaml.Node

/-!
# Records in YAML

A record is a mapping with an entry for each field. Plain scalars are not told apart by what they
look like: where a text is wanted every scalar is one, and only an optional field takes an empty or
null scalar for nothing. An alias stands for the node with the last anchor of its number, wherever
in the document that node is.
-/

namespace CardPayments

namespace Yaml

namespace Node

mutual

/-- The last node with this anchor. -/
def find? (anchor : Nat) : Node → Option Node
  | .scalar _ _ _ => none
  | .aliasOf _ => none
  | .sequence items => findInItems? anchor items
  | .mapping entries => findInEntries? anchor entries
  | .anchored n node => (find? anchor node) <|> (if n = anchor then some node else none)

def findInItems? (anchor : Nat) : List Node → Option Node
  | [] => none
  | node :: rest => (findInItems? anchor rest) <|> (find? anchor node)

def findInEntries? (anchor : Nat) : List (Node × Node) → Option Node
  | [] => none
  | (key, value) :: rest =>
    (findInEntries? anchor rest) <|> (find? anchor value) <|> (find? anchor key)

end

/-- The node itself, without its anchor, or the node that an alias stands for. -/
def resolve (document : Node) : Node → Option Node
  | .aliasOf n => document.find? n
  | .anchored _ node => some node
  | node => some node

def isNull (text : String) : Bool := ["null", "Null", "NULL", "~"].contains text

def nullTag : String := "tag:yaml.org,2002:null"

def text? (document node : Node) : Option String := do
  match ← document.resolve node with
  | .scalar _ _ text => some text
  | _ => none

/-- The entries of a mapping; an empty plain scalar has none. -/
def entries? (document node : Node) : Option (List (Node × Node)) := do
  match ← document.resolve node with
  | .mapping entries => some entries
  | .scalar _ true text => if text.isEmpty then some [] else none
  | _ => none

/-- Whether the node is nothing; a tag makes it something, but for the tag of null, which only a
null may have. -/
def isAbsent (document node : Node) : Option Bool := do
  match ← document.resolve node with
  | .scalar (some tag) true text =>
    if tag = nullTag then if isNull text then some true else none else some false
  | .scalar none true text => some (text.isEmpty || isNull text)
  | _ => some false

/-- The name of a choice: a scalar, or the name in a tag of the document's own before nothing. -/
def choice? (document node : Node) : Option String := do
  match ← document.resolve node with
  | .scalar tag plain text =>
    match tag.map String.toList with
    | some ('!' :: name) =>
      if plain && (text.isEmpty || isNull text) then
        some (if name.isEmpty then "!" else String.ofList name)
      else none
    | _ => some text
  | _ => none

/-! ### Fields -/

/-- The values of the named fields in their order. Every key is a scalar, no field may occur twice,
and other entries are passed over. -/
def fields? (document : Node) (names : List String) (node : Node) : Option (List (Option Node)) :=
  do
  let named ← (← document.entries? node).mapM fun (key, value) =>
    (document.text? key).map fun name => (name, value)
  if names.all fun name => named.countP (fun entry => entry.1 == name) ≤ 1 then
    some (names.map fun name => (named.find? fun entry => entry.1 == name).map Prod.snd)
  else none

def defaulted {α : Type} (default : α) (read : Node → Option α) : Option Node → Option α
  | none => some default
  | some node => read node

def optional {α : Type} (document : Node) (read : Node → Option α) : Option Node → Option (Option α)
  | none => some none
  | some node => do
    if ← document.isAbsent node then some none else (read node).map some

end Node

end Yaml

end CardPayments
