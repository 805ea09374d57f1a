import CardPayments.Url.Basic

/-!
# Reading URLs

A URL is read from left to right: the scheme up to the first colon, then for schemes with named
hosts any number of slashes and an authority, for the local file scheme an optional host, and for
other schemes an authority behind two slashes, a rooted path behind one, or a plain path.
Backslashes count as slashes in the schemes with named hosts. Path segments of one dot vanish and
those of two dots take the segment before them along. Controls and blanks around the text are
dropped, tabs and line breaks in it as well.
-/

namespace CardPayments

namespace Url

/-! ### Schemes -/

/-- The schemes with named hosts, each with the port that it does not write. -/
def namedPorts : List (List Char × Option Nat) :=
  [("http".toList, some 80), ("https".toList, some 443), ("ws".toList, some 80),
   ("wss".toList, some 443),
   ("ftp".toList, some 21), ("file".toList, none)]

def isNamed (scheme : List Char) : Bool := namedPorts.any fun row => row.1 == scheme

def defaultPort? (scheme : List Char) : Option Nat :=
  (namedPorts.find? fun row => row.1 == scheme).bind Prod.snd

def isSchemeChar (c : Char) : Bool := c.isAlphanum || c = '+' || c = '-' || c = '.'

def readScheme (s : List Char) : Option (List Char × List Char) :=
  match s.takeWhile isSchemeChar, s.dropWhile isSchemeChar with
  | first :: scheme, ':' :: rest =>
    if first.isAlpha then some ((first :: scheme).map Char.toLower, rest)
    else none
  | _, _ => none

/-! ### Paths -/

def isSlash (named : Bool) (c : Char) : Bool := c = '/' || (named && c = '\\')

def endsPath (c : Char) : Bool := c = '?' || c = '#'

def splitSegments (named : Bool) : List Char → List (List Char)
  | [] => [[]]
  | c :: rest =>
    if isSlash named c then [] :: splitSegments named rest
    else
      match splitSegments named rest with
      | part :: parts => (c :: part) :: parts
      | [] => [[c]]

/-- A dot, plain or as a percent triple, at the front of a segment. -/
def dropDot : List Char → Option (List Char)
  | '.' :: rest => some rest
  | '%' :: '2' :: 'e' :: rest => some rest
  | '%' :: '2' :: 'E' :: rest => some rest
  | _ => none

def isSingleDot (segment : List Char) : Bool := dropDot segment = some []

def isDoubleDot (segment : List Char) : Bool := (dropDot segment).bind dropDot = some []

/-- A letter and a colon or bar: the name of a drive. -/
def isDrive : List Char → Bool
  | [a, b] => a.isAlpha && (b = ':' || b = '|')
  | _ => false

/-- The path without its last segment; a file path keeps its drive. -/
def dropLastSegment (isFile : Bool) (path : List (List Char)) : List (List Char) :=
  match path.getLast? with
  | some last => if isFile && isDrive last then path else path.dropLast
  | none => path

/-- The segment as it is written in a path; the drive of a file path has a colon. -/
def segmentChars (isFile : Bool) (segment : List Char) : List Char :=
  match segment with
  | [a, '|'] => if isFile && a.isAlpha then [a, ':'] else Percent.encode Percent.isPathSet segment
  | _ => Percent.encode Percent.isPathSet segment

/-- The path with one more segment; a dot segment at the end leaves an empty one. -/
def addSegment (isFile : Bool) (path : List (List Char)) (segment : List Char) (isLast : Bool) :
    List (List Char) :=
  if isDoubleDot segment then
    let path := dropLastSegment isFile path
    if isLast then path ++ [[]] else path
  else if isSingleDot segment then if isLast then path ++ [[]] else path
  else path ++ [segmentChars isFile segment]

def addSegments (isFile : Bool) (path : List (List Char)) : List (List Char) → List (List Char)
  | [] => path
  | [segment] => addSegment isFile path segment true
  | segment :: rest => addSegments isFile (addSegment isFile path segment false) rest

def readPath (scheme : List Char) (s : List Char) : List (List Char) :=
  addSegments (scheme == "file".toList) [] (splitSegments (isNamed scheme) s)

/-! ### Authorities -/

def splitAtLast (sign : Char) (s : List Char) : Option (List Char × List Char) :=
  let reversed := s.reverse
  match reversed.dropWhile fun c => c != sign with
  | [] => none
  | _ :: front => some (front.reverse, (reversed.takeWhile fun c => c != sign).reverse)

/-- User name and password, divided by the first colon; an empty password is none. -/
def readUser (s : List Char) : List Char × Option (List Char) :=
  let encode := Percent.encode Percent.isUserInfoSet
  let password := (s.dropWhile fun c => c != ':').drop 1
  (encode (s.takeWhile fun c => c != ':'),
   if password.isEmpty then none else some (encode password))

/-- The host, and the text of the port behind its colon; colons within brackets belong to the host.
-/
def splitHost (bracketed : Bool) : List Char → List Char × Option (List Char)
  | [] => ([], none)
  | c :: rest =>
    if c = ':' ∧ !bracketed then ([], some rest)
    else
      let (host, port) :=
        splitHost (if c = '[' then true else if c = ']' then false else bracketed) rest
      (c :: host, port)

/-- A port of sixteen bits; an empty one and the scheme's own are not kept. -/
def readPort (scheme : List Char) (s : List Char) : Option (Option Nat) :=
  if s.isEmpty then some none
  else do
    let n ← Text.number? s
    if n < 65536 then some (if defaultPort? scheme = some n then none else some n) else none

structure Authority where
  username : List Char
  password : Option (List Char)
  host : Host
  port : Option Nat

/-- The authority before the path; only other schemes may have an empty host, and then neither user
nor port. -/
def readAuthority (scheme : List Char) (s : List Char) : Option Authority := do
  let named := isNamed scheme
  let (user, rest) := match splitAtLast '@' s with
    | some (user, rest) => (some user, rest)
    | none => (none, s)
  let (hostText, portText) := splitHost false rest
  let (username, password) := readUser (user.getD [])
  if hostText.isEmpty && (named || user.isSome || portText.isSome) then none
  let host ← if named then Host.ofNamed? hostText else Host.ofOpaque? hostText
  let port ← readPort scheme (portText.getD [])
  some ⟨username, password, host, port⟩

/-! ### Whole URLs -/

def readQuery (scheme : List Char) (s : List Char) : Option (List Char) × Option (List Char) :=
  let isQuerySet := if isNamed scheme then Percent.isSpecialQuerySet else Percent.isQuerySet
  let isMark (c : Char) : Bool := c != '#'
  let fragment := match s.dropWhile isMark with
    | _ :: rest => some (Percent.encode Percent.isFragmentSet rest)
    | [] => none
  match s with
  | '?' :: rest => (some (Percent.encode isQuerySet (rest.takeWhile isMark)), fragment)
  | _ => (none, fragment)

def splitQuery (s : List Char) : List Char × List Char :=
  (s.takeWhile fun c => !endsPath c, s.dropWhile fun c => !endsPath c)

def readNamed (scheme : List Char) (s : List Char) : Option Url := do
  let (front, tail) := splitQuery s
  let front := front.dropWhile (isSlash true)
  let a ← readAuthority scheme (front.takeWhile fun c => !isSlash true c)
  let path := readPath scheme ((front.dropWhile fun c => !isSlash true c).drop 1)
  let (query, fragment) := readQuery scheme tail
  some ⟨scheme, a.username, a.password, some a.host, a.port, .segments path, query, fragment⟩

/-- A file path has no empty segments at its front. -/
def filePath (s : List Char) : List (List Char) :=
  match (readPath "file".toList s).dropWhile List.isEmpty with
  | [] => [[]]
  | path => path

/-- A URL of the local file scheme: a host only behind two slashes, and none where a drive stands
there. -/
def readFile (s : List Char) : Option Url := do
  let scheme := "file".toList
  let (front, tail) := splitQuery s
  let (query, fragment) := readQuery scheme tail
  let made (host : Option Host) (path : List (List Char)) : Url :=
    ⟨scheme, [], none, host, none, .segments path, query, fragment⟩
  match front with
  | a :: b :: rest =>
    if isSlash true a && isSlash true b then
      let name := rest.takeWhile fun c => !isSlash true c
      if name.isEmpty || isDrive name then some (made none (filePath rest))
      else do
        let host ← Host.ofNamed? name
        let path := filePath ((rest.dropWhile fun c => !isSlash true c).drop 1)
        if host = .domain "localhost".toList ∨ (path.head?.map isDrive).getD false then
          some (made none path)
        else some (made (some host) path)
    else some (made none (filePath front))
  | _ => some (made none (filePath front))

def readOther (scheme : List Char) (s : List Char) : Option Url := do
  let (front, tail) := splitQuery s
  let (query, fragment) := readQuery scheme tail
  match front with
  | '/' :: '/' :: rest =>
    let a ← readAuthority scheme (rest.takeWhile fun c => c != '/')
    let path := match rest.dropWhile fun c => c != '/' with
      | _ :: rest => readPath scheme rest
      | [] => []
    some ⟨scheme, a.username, a.password, some a.host, a.port, .segments path, query, fragment⟩
  | '/' :: rest =>
    some ⟨scheme, [], none, none, none, .segments (readPath scheme rest), query, fragment⟩
  | _ =>
    let path := UrlPath.plain (Percent.encode Percent.isControlSet front)
    some ⟨scheme, [], none, none, none, path, query, fragment⟩

/-- The text as it is read: without controls and blanks around it and without tabs and line breaks.
-/
def cleaned (s : List Char) : List Char :=
  let isEdge (c : Char) : Bool := c.toNat ≤ 0x20
  let inner := ((s.dropWhile isEdge).reverse.dropWhile isEdge).reverse
  inner.filter fun c => !(c = '\t' || c = '\n' || c = '\r')

def ofChars? (s : List Char) : Option Url := do
  let (scheme, rest) ← readScheme (cleaned s)
  if scheme = "file".toList then readFile rest
  else if isNamed scheme then readNamed scheme rest
  else readOther scheme rest

def ofText? (s : String) : Option Url := ofChars? s.toList

end Url

end CardPayments
