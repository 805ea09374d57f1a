import CardPayments.Json.Basic

/-!
# Writing JSON

Documents are written without blanks, or over several lines with two blanks for each level. In
strings only the quote, the backslash and the control characters below the blank are escaped.
-/

namespace CardPayments

namespace Json

def controlDigits (c : Char) : List Char :=
  [Nat.digitChar (c.toNat / 16), Nat.digitChar (c.toNat % 16)]

def escaped (c : Char) : List Char :=
  match c with
  | '"' => ['\\', '"']
  | '\\' => ['\\', '\\']
  | '\x08' => ['\\', 'b']
  | '\x0c' => ['\\', 'f']
  | '\n' => ['\\', 'n']
  | '\r' => ['\\', 'r']
  | '\t' => ['\\', 't']
  | c => if c.toNat < 0x20 then '\\' :: 'u' :: '0' :: '0' :: controlDigits c else [c]

def quoted (s : String) : List Char := '"' :: (s.toList.flatMap escaped ++ ['"'])

def numeralChars (n : Numeral) : List Char :=
  (if n.negative then ['-'] else []) ++ n.whole ++
    (match n.fraction with
      | some ds => '.' :: ds
      | none => []) ++
    match n.exponent with
    | some (true, ds) => 'e' :: '-' :: ds
    | some (false, ds) => 'e' :: ds
    | none => []

/-- The written form of a string that names no text. -/
def unreadableChars : List Char := "\"\\ud800\"".toList

mutual

def chars : Json → List Char
  | .null => "null".toList
  | .bool true => "true".toList
  | .bool false => "false".toList
  | .num n => numeralChars n
  | .str s => quoted s
  | .unreadable => unreadableChars
  | .arr [] => ['[', ']']
  | .arr (value :: values) => '[' :: (chars value ++ itemChars values)
  | .obj [] => ['\x7b', '\x7d']
  | .obj ((name, value) :: members) =>
    '\x7b' :: (quoted name ++ ':' :: (chars value ++ memberChars members))

def itemChars : List Json → List Char
  | [] => [']']
  | value :: values => ',' :: (chars value ++ itemChars values)

def memberChars : List (String × Json) → List Char
  | [] => ['\x7d']
  | (name, value) :: members => ',' :: (quoted name ++ ':' :: (chars value ++ memberChars members))

end

def text (j : Json) : String := String.ofList j.chars

/-! ### Over several lines -/

def lineBreak (depth : Nat) : List Char := '\n' :: List.replicate (2 * depth) ' '

mutual

def prettyChars (depth : Nat) : Json → List Char
  | .null => "null".toList
  | .bool true => "true".toList
  | .bool false => "false".toList
  | .num n => numeralChars n
  | .str s => quoted s
  | .unreadable => unreadableChars
  | .arr [] => ['[', ']']
  | .arr (value :: values) =>
    '[' :: (lineBreak (depth + 1) ++ prettyChars (depth + 1) value ++ prettyItemChars depth values)
  | .obj [] => ['\x7b', '\x7d']
  | .obj ((name, value) :: members) =>
    '\x7b' :: (lineBreak (depth + 1) ++ quoted name ++ ':' :: ' ' ::
      prettyChars (depth + 1) value ++
      prettyMemberChars depth members)

def prettyItemChars (depth : Nat) : List Json → List Char
  | [] => lineBreak depth ++ [']']
  | value :: values =>
    ',' :: (lineBreak (depth + 1) ++ prettyChars (depth + 1) value ++ prettyItemChars depth values)

def prettyMemberChars (depth : Nat) : List (String × Json) → List Char
  | [] => lineBreak depth ++ ['\x7d']
  | (name, value) :: members =>
    ',' :: (lineBreak (depth + 1) ++ quoted name ++ ':' :: ' ' :: prettyChars (depth + 1) value ++
      prettyMemberChars depth members)

end

def prettyText (j : Json) : String := String.ofList (j.prettyChars 0)

end Json

end CardPayments
