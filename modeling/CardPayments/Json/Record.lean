import CardPayments.Json.Basic
import CardPayments.Json.Number

/-!
# Records in JSON

A record is an object with a member for each field, or an array of its fields in the order of their
declaration. Of an object, members that are no field are passed over, and no field may occur twice.
Of an array, only fields at the end may be missing. A field that is absent is left to the reader of
that field, which may refuse it, take it for nothing or put a default in its place.
-/

namespace CardPayments

namespace Json

/-- The values of the named fields in their order. An array has at least `least` items and no more
than there are fields. -/
def fields? (names : List String) (least : Nat) : Json → Option (List (Option Json))
  | .obj members =>
    if names.all fun name => members.countP (fun m => m.1 == name) ≤ 1 then
      some (names.map fun name => (members.find? fun m => m.1 == name).map Prod.snd)
    else none
  | .arr items =>
    if least ≤ items.length ∧ items.length ≤ names.length then
      some ((List.range names.length).map fun i => items[i]?)
    else none
  | _ => none

def required {α : Type} (read : Json → Option α) (value : Option Json) : Option α := value.bind read

/-- A field that may be absent or null. -/
def optional {α : Type} (read : Json → Option α) : Option Json → Option (Option α)
  | none => some none
  | some .null => some none
  | some value => (read value).map some

/-- A field that has a value even where it is absent. -/
def defaulted {α : Type} (default : α) (read : Json → Option α) : Option Json → Option α
  | none => some default
  | some value => read value

/-- The name of a choice: a string, or an object with that one member and null in it. -/
def choice? : Json → Option String
  | .str name => some name
  | .obj [(name, .null)] => some name
  | _ => none

def number? : Json → Option Number
  | .num n => Json.Number.ofNumeral? n
  | _ => none

def uint64? (j : Json) : Option UInt64 :=
  match j.number? with
  | some (.whole n) => if 0 ≤ n then some (UInt64.ofNat n.toNat) else none
  | _ => none

/-- A decimal, written as a string, as a whole number or as a floating-point number. -/
def decimal? : Json → Option Decimal
  | .str s => Decimal.ofText? s
  | j => j.number? >>= Number.decimal?

/-! ### Documents read as a whole -/

mutual

/-- Whether every string of the document names a text and every number means something, down to
`depth` levels. -/
def isReadable (depth : Nat) : Json → Bool
  | .null => true
  | .bool _ => true
  | .str _ => true
  | .unreadable => false
  | .num n => (Json.Number.ofNumeral? n).isSome
  | .arr items => 0 < depth && areReadable (depth - 1) items
  | .obj members => 0 < depth && membersAreReadable (depth - 1) members

def areReadable (depth : Nat) : List Json → Bool
  | [] => true
  | value :: values => isReadable depth value && areReadable depth values

def membersAreReadable (depth : Nat) : List (String × Json) → Bool
  | [] => true
  | (_, value) :: members => isReadable depth value && membersAreReadable depth members

end

abbrev maxDepth : Nat := 127

end Json

end CardPayments
