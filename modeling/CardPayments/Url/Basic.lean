import CardPayments.Url.Host

/-!
# URLs

A URL in its parts, each in the spelling in which URLs are compared and written. `Url.chars` puts
the parts together.
-/

namespace CardPayments

/-- A path is a row of segments, or a text of its own where the URL has no hierarchy. -/
inductive UrlPath where
  | segments (parts : List (List Char))
  | plain (text : List Char)
deriving DecidableEq

namespace UrlPath

def chars : UrlPath → List Char
  | .segments parts => parts.flatMap ('/' :: ·)
  | .plain text => text

end UrlPath

structure Url where
  scheme : List Char
  username : List Char
  password : Option (List Char)
  host : Option Host
  port : Option Nat
  path : UrlPath
  query : Option (List Char)
  fragment : Option (List Char)
deriving DecidableEq

namespace Url

/-- Whether the URL has an authority, which the local file scheme has even without a host. -/
def hasAuthority (u : Url) : Bool := u.host.isSome || u.scheme == "file".toList

def userChars (u : Url) : List Char :=
  match u.password with
  | some password => u.username ++ ':' :: password ++ ['@']
  | none => if u.username.isEmpty then [] else u.username ++ ['@']

def hostChars (u : Url) : List Char :=
  ((u.host.map Host.chars).getD []) ++
    match u.port with
    | some port => ':' :: Text.digits port
    | none => []

/-- Two slashes at the start of a path would be read as an authority, so a dot segment keeps them
apart. -/
def pathChars (u : Url) : List Char :=
  match u.path with
  | .segments ([] :: _ :: _) => if u.hasAuthority then u.path.chars else '/' :: '.' :: u.path.chars
  | _ => u.path.chars

def queryChars (u : Url) : List Char :=
  match u.query with
  | some query => '?' :: query
  | none => []

def fragmentChars (u : Url) : List Char :=
  match u.fragment with
  | some fragment => '#' :: fragment
  | none => []

def chars (u : Url) : List Char :=
  u.scheme ++ ':' :: (if u.hasAuthority then '/' :: '/' :: (u.userChars ++ u.hostChars) else []) ++
    u.pathChars ++ u.queryChars ++ u.fragmentChars

def text (u : Url) : String := String.ofList u.chars

end Url

end CardPayments
