import CardPayments.Url.Domain
import CardPayments.Url.Percent

/-!
# Hosts

A host is a domain name or an address. Names that end in a number are IPv4 addresses, of one to four
numbers in decimal, octal or hexadecimal digits, and what stands in square brackets is an IPv6
address.
-/

namespace CardPayments

inductive Host where
  | domain (name : List Char)
  | ipv4 (address : Nat)
  /-- Eight numbers of sixteen bits. -/
  | ipv6 (pieces : List Nat)
deriving DecidableEq

namespace Host

/-! ### IPv4 -/

def digitsValue? (base : Nat) (s : List Char) : Option Nat :=
  s.foldlM (fun n c => do
    let d ← Text.hexValue? c
    if d < base then some (n * base + d) else none) 0

/-- A part of an address: hexadecimal behind `0x`, octal behind a zero, or decimal. -/
def ipv4Number? (s : List Char) : Option Nat :=
  match s with
  | [] => none
  | '0' :: 'x' :: rest => digitsValue? 16 rest
  | '0' :: 'X' :: rest => digitsValue? 16 rest
  | '0' :: c :: rest => digitsValue? 8 (c :: rest)
  | _ => digitsValue? 10 s

def nameParts (name : List Char) : List (List Char) :=
  let parts := Domain.splitOn '.' name
  match parts.reverse with
  | [] :: rest => if rest.isEmpty then parts else rest.reverse
  | _ => parts

/-- Whether a name is meant as an IPv4 address: its last part is a number. -/
def endsInNumber (name : List Char) : Bool :=
  match (nameParts name).getLast? with
  | none => false
  | some last => (!last.isEmpty && last.all Char.isDigit) || (ipv4Number? last).isSome

/-- The address of at most four numbers: all but the last are bytes, and the last fills the bytes
that are left. -/
def ipv4? (name : List Char) : Option Nat := do
  let parts := nameParts name
  if 4 < parts.length then none
  let numbers ← parts.mapM ipv4Number?
  let last ← numbers.getLast?
  let bytes := numbers.dropLast
  if bytes.any (255 < ·) || Nat.pow 256 (4 - bytes.length) ≤ last then none
  else some (bytes.foldr (fun b (total, weight) => (total + b * weight, weight * 256))
    (0, Nat.pow 256 (4 - bytes.length)) |>.1 |> (· + last))

def ipv4Chars (address : Nat) : List Char :=
  ['.'].intercalate ([3, 2, 1, 0].map fun i => Text.digits (address / Nat.pow 256 i % 256))

/-! ### IPv6 -/

def hexPiece? (s : List Char) : Option Nat :=
  if s.isEmpty || 4 < s.length then none else digitsValue? 16 s

/-- Four decimal bytes at the end of an address, as two pieces. -/
def embeddedIpv4? (s : List Char) : Option (List Nat) := do
  let bytes ← (Domain.splitOn '.' s).mapM fun part =>
    if part.isEmpty || 3 < part.length || (part.head? = some '0' && 1 < part.length) then none
    else Text.number? part
  match bytes with
  | [a, b, c, d] => if [a, b, c, d].all (· < 256) then some [a * 256 + b, c * 256 + d] else none
  | _ => none

def pieces? (parts : List (List Char)) : Option (List Nat) :=
  match parts with
  | [] => some []
  | [last] => if last.contains '.' then embeddedIpv4? last else (hexPiece? last).map ([·])
  | part :: rest => do return (← hexPiece? part) :: (← pieces? rest)

/-- The pieces before and behind the first double colon, if there is one. -/
def splitAtGap : List Char → List Char × Option (List Char)
  | ':' :: ':' :: rest => ([], some rest)
  | c :: rest =>
    let (before, behind) := splitAtGap rest
    (c :: before, behind)
  | [] => ([], none)

/-- The pieces of a run without a double colon; an empty run has none. -/
def run? (s : List Char) : Option (List Nat) :=
  if s.isEmpty then some [] else pieces? (Domain.splitOn ':' s)

def ipv6? (s : List Char) : Option (List Nat) := do
  let (before, behind) := splitAtGap s
  match behind with
  | none =>
    let pieces ← run? before
    if pieces.length = 8 then some pieces else none
  | some behind =>
    if before.contains '.' then none
    let front ← run? before
    let back ← run? behind
    if front.length + back.length < 8 then
      some (front ++ List.replicate (8 - front.length - back.length) 0 ++ back)
    else none

/-- Where the first of the longest runs of at least two zeros begins, and its length. -/
def zeroRun (pieces : List Nat) : Nat × Nat :=
  let runs :=
    (List.range pieces.length).map fun i => (i, ((pieces.drop i).takeWhile (· == 0)).length)
  runs.foldl (fun best run => if best.2 < run.2 ∧ 2 ≤ run.2 then run else best) (0, 0)

def pieceChars (n : Nat) : List Char := Text.hexDigits n

def ipv6Chars (pieces : List Nat) : List Char :=
  let join (ps : List Nat) := [':'].intercalate (ps.map pieceChars)
  match zeroRun pieces with
  | (_, 0) => join pieces
  | (start, size) => join (pieces.take start) ++ "::".toList ++ join (pieces.drop (start + size))

/-! ### Reading and writing hosts -/

def bracketed? (s : List Char) : Option (List Char) :=
  match s with
  | '[' :: rest => if rest.getLast? = some ']' then some rest.dropLast else none
  | _ => none

/-- A host of a scheme with named hosts: percent triples count as their characters. -/
def ofNamed? (s : List Char) : Option Host :=
  if s.head? = some '[' then bracketed? s >>= ipv6? |>.map .ipv6
  else do
    let name ← Domain.toAscii? (← Text.ofUtf8? (Percent.decode s))
    if name.isEmpty then none
    else if endsInNumber name then (ipv4? name).map .ipv4
    else some (.domain name)

/-- A host of any other scheme is kept as it is written, but for controls and characters beyond
ASCII. -/
def ofOpaque? (s : List Char) : Option Host :=
  if s.head? = some '[' then bracketed? s >>= ipv6? |>.map .ipv6
  else if s.any (fun c => c.toNat = 0 || Percent.isOneOf "\t\n\r #/:<>?@[\\]^|" c) then none
  else some (.domain (Percent.encode Percent.isControlSet s))

def chars : Host → List Char
  | .domain name => name
  | .ipv4 address => ipv4Chars address
  | .ipv6 pieces => '[' :: (ipv6Chars pieces ++ [']'])

end Host

end CardPayments
