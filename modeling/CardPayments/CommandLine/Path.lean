/-!
# Paths

Where a file lies: the directory part of a path and a path below a directory, both as texts.
Repeated slashes and single dots inside a path say nothing; a dot at its front is kept.
-/

namespace CardPayments

namespace Path

/-- Drops slashes and single dots at the end of a reversed path, but neither the root nor a dot at
the front. -/
def dropIdle : List Char → List Char
  | ['/'] => ['/']
  | '/' :: rest => dropIdle rest
  | ['.', '/'] => ['/']
  | '.' :: '/' :: rest => dropIdle rest
  | s => s

/-- The directory in which the path lies, if it has a last part to take away. -/
def parent? (path : List Char) : Option (List Char) :=
  let isPart (c : Char) : Bool := c != '/'
  match dropIdle path.reverse with
  | [] => none
  | ['/'] => none
  | reversed => some (dropIdle (reversed.dropWhile isPart)).reverse

/-- The path of a name within a directory. -/
def child (directory name : List Char) : List Char :=
  match directory.getLast? with
  | none => name
  | some '/' => directory ++ name
  | some _ => directory ++ '/' :: name

def beside (path name : String) : String :=
  String.ofList (child ((parent? path.toList).getD ['.']) name.toList)

end Path

end CardPayments
