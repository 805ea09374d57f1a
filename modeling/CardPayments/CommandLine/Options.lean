/-!
# Options and operands

How a row of words is read as options, operands and the name of a command. Words are taken from left
to right, and the first that cannot be right ends the reading. The value of an option follows an
equals sign, or its letter, or is the next word; an option with its value in a word of its own is
settled only when the next option or operand is met, or at the end. Behind a bare double dash every
word is an operand.
-/

namespace CardPayments

structure OptionSpec where
  name : String
  letter : Option Char
  takesValue : Bool
  accepts : String → Bool

/-- What may be said at one level: options, operands and commands that begin a level of their own.
-/
structure LevelSpec where
  options : List OptionSpec
  operands : Nat
  commands : List String
  versioned : Bool

structure Given where
  values : List (String × String)
  operands : List String
deriving DecidableEq, Inhabited

namespace Given

def value? (g : Given) (name : String) : Option String :=
  (g.values.find? fun v => v.1 == name).map Prod.snd

def has (g : Given) (name : String) : Bool := (g.value? name).isSome

end Given

/-- What ends the reading of words. -/
inductive Interruption where
  | help
  | version
  | misuse
deriving DecidableEq, Repr

def Interruption.code : Interruption → Nat
  | .help => 0
  | .version => 0
  | .misuse => 2

/-- A level as far as it was read. -/
structure LevelState where
  given : Given
  /-- An option that is not settled yet, with its value once that has come. -/
  unsettled : Option (OptionSpec × Option String)
  /-- Whether only operands can follow. -/
  plain : Bool

namespace LevelState

def initial : LevelState := ⟨⟨[], []⟩, none, false⟩

def waits (s : LevelState) : Bool :=
  match s.unsettled with
  | some (_, none) => true
  | _ => false

/-- Takes an option with this value, unless it was given before or cannot have the value. -/
def take (s : LevelState) (o : OptionSpec) (value : String) : Except Interruption LevelState :=
  if s.given.has o.name || !o.accepts value then .error .misuse
  else .ok { s with given := { s.given with values := s.given.values ++ [(o.name, value)] } }

def settle (s : LevelState) : Except Interruption LevelState :=
  match s.unsettled with
  | none => .ok s
  | some (_, none) => .error .misuse
  | some (o, some value) => { s with unsettled := none }.take o value

def operand (s : LevelState) (most : Nat) (word : String) : Except Interruption LevelState := do
  let s ← s.settle
  if s.given.operands.length < most then
    return { s with given := { s.given with operands := s.given.operands ++ [word] } }
  else throw .misuse

/-- An option by name or letter, and the value attached to it. -/
def option (s : LevelState) (o : OptionSpec) (attached : Option String) :
    Except Interruption LevelState := do
  match o.takesValue, attached with
  | false, some _ => throw .misuse
  | false, none => (← s.settle).take o ""
  | true, some value => (← s.settle).take o value
  | true, none => return { ← s.settle with unsettled := some (o, none) }

/-- Breaks off for help or the version, unless something before is wrong. -/
def interrupt (s : LevelState) (i : Interruption) : Except Interruption LevelState := do
  let _ ← s.settle
  throw i

/-- An option by its name, behind the double dash. -/
def byName (s : LevelState) (spec : LevelSpec) (word : List Char) :
    Except Interruption LevelState :=
  let name := String.ofList (word.takeWhile fun c => c != '=')
  let attached := match word.dropWhile fun c => c != '=' with
    | _ :: value => some (String.ofList value)
    | [] => none
  if name = "help" ∧ attached.isNone then s.interrupt .help
  else if name = "version" ∧ spec.versioned ∧ attached.isNone then s.interrupt .version
  else
    match spec.options.find? fun o => o.name == name with
    | some o => s.option o attached
    | none => .error .misuse

/-- An option by its letter, with what stands behind the letter in the same word. -/
def byLetter (s : LevelState) (spec : LevelSpec) (letter : Char) (behind : List Char) :
    Except Interruption LevelState :=
  if letter = 'h' then s.interrupt .help
  else if letter = 'V' ∧ spec.versioned then s.interrupt .version
  else
    match spec.options.find? fun o => o.letter == some letter with
    | some o =>
      match behind with
      | [] => s.option o none
      | '=' :: value => s.option o (some (String.ofList value))
      | value => s.option o (some (String.ofList value))
    | none => .error .misuse

/-- Takes the next word, which is not the name of a command. -/
def word (s : LevelState) (spec : LevelSpec) (w : String) : Except Interruption LevelState :=
  if s.plain then s.operand spec.operands w
  else
    match w.toList with
    | ['-', '-'] => .ok { s with plain := true }
    | '-' :: '-' :: name => s.byName spec name
    | '-' :: letter :: behind => s.byLetter spec letter behind
    | _ =>
      match s.unsettled with
      | some (o, none) => .ok { s with unsettled := some (o, some w) }
      | _ => s.operand spec.operands w

end LevelState

/-- Reads the words of a level, up to the name of a command; this and the words behind it are handed
back. -/
def readLevel (spec : LevelSpec) (s : LevelState) :
    List String → Except Interruption (LevelState × Option (String × List String))
  | [] => do return (← s.settle, none)
  | w :: rest =>
    if !s.plain && !s.waits && spec.commands.contains w then .ok (s, some (w, rest))
    else do readLevel spec (← s.word spec w) rest

end CardPayments
