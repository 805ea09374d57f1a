import CardPayments.Text.Basic
import CardPayments.Text.Utf8

/-!
# Percent encoding

A character outside a set of plain ones is written as its UTF-8 bytes, each as a percent sign and
two hexadecimal digits. Every part of a URL has its own set of characters to encode. Decoding reads
such triples back as bytes and leaves a percent sign alone where no two digits follow it.
-/

namespace CardPayments

namespace Percent

def upperHexDigit (n : Nat) : Char := (Nat.digitChar n).toUpper

def encodeByte (b : UInt8) : List Char :=
  ['%', upperHexDigit (b.toNat / 16), upperHexDigit (b.toNat % 16)]

/-- The text with every character of the set written as its bytes. -/
def encode (isEncoded : Char → Bool) (s : List Char) : List Char :=
  s.flatMap fun c => if isEncoded c then (String.utf8EncodeChar c).flatMap encodeByte else [c]

/-- The bytes that the characters and percent triples stand for. -/
def decode : List Char → List UInt8
  | [] => []
  | '%' :: a :: b :: rest =>
    match Text.hexValue? a, Text.hexValue? b with
    | some x, some y => UInt8.ofNat (16 * x + y) :: decode rest
    | _, _ => '%'.toUInt8 :: decode (a :: b :: rest)
  | c :: rest => String.utf8EncodeChar c ++ decode rest

/-! ### Sets of characters to encode -/

def isOneOf (chars : String) (c : Char) : Bool := chars.toList.contains c

/-- Controls and everything beyond ASCII. -/
def isControlSet (c : Char) : Bool := c.toNat < 0x20 || 0x7E < c.toNat

def grave : Char := Char.ofNat 0x60

def isFragmentSet (c : Char) : Bool := isControlSet c || isOneOf " \"<>" c || c == grave

def isQuerySet (c : Char) : Bool := isControlSet c || isOneOf " \"#<>" c

def isSpecialQuerySet (c : Char) : Bool := isQuerySet c || c == '\''

def isPathSet (c : Char) : Bool := isFragmentSet c || isOneOf "#?\x7b\x7d" c

def isUserInfoSet (c : Char) : Bool := isPathSet c || isOneOf "/:;=@[\\]^|" c

/-- All but letters, digits and the four unreserved signs. -/
def isComponentSet (c : Char) : Bool := !(c.isAlphanum || isOneOf "-_.~" c)

end Percent

end CardPayments
