import CardPayments.CommandLine.Options
import CardPayments.Manifest

/-!
# Arguments of the tools

The four commands and what they are told: where the manifest is and which gateway is meant, said
before the command or behind it, and the options of each command. What is said behind a command goes
before what is said ahead of it.
-/

namespace CardPayments

inductive ShownAs where
  | text
  | json
deriving DecidableEq, Repr

def ShownAs.ofName? : String → Option ShownAs
  | "text" => some .text
  | "json" => some .json
  | _ => none

structure HashOptions where
  amount : String
  currency : String
  /-- A hash to compare with. -/
  verify : Option String
deriving DecidableEq

structure HostedFormOptions where
  orderId : String
  amount : String
  currency : String
  customerId : String
  email : String
  returnUrl : Url
  cancelUrl : Url
deriving DecidableEq

inductive Command where
  | check (offline : Bool)
  | transaction (id : String) (shownAs : ShownAs)
  | hash (options : HashOptions)
  | hostedForm (options : HostedFormOptions)
deriving DecidableEq

structure Arguments where
  manifestPath : String
  gateway : Option String
  command : Command
deriving DecidableEq

namespace Arguments

def defaultManifestPath : String := "./" ++ manifestName

def defaultCurrency : String := "USD"

/-! ### What may be said -/

def anyText (_ : String) : Bool := true

def isUrl (s : String) : Bool := (Url.ofText? s).isSome

def named (name : String) (accepts : String → Bool) : OptionSpec := ⟨name, none, true, accepts⟩

def everywhere : List OptionSpec :=
  [⟨"manifest-path", some 'm', true, fun s => !s.isEmpty⟩, ⟨"gateway", some 'g', true, anyText⟩]

def commandNames : List String := ["check", "transaction", "hash", "hosted-form"]

def helpWord : String := "help"

def topLevel : LevelSpec := ⟨everywhere, 0, helpWord :: commandNames, true⟩

def commandLevel (options : List OptionSpec) (operands : Nat) : LevelSpec :=
  ⟨options ++ everywhere, operands, [], false⟩

def checkLevel : LevelSpec := commandLevel [⟨"offline", none, false, anyText⟩] 0

def transactionLevel : LevelSpec :=
  commandLevel [named "format" fun s => (ShownAs.ofName? s).isSome] 1

def hashLevel : LevelSpec := commandLevel [named "currency" anyText, named "verify" anyText] 1

def hostedFormLevel : LevelSpec :=
  commandLevel [named "order-id" anyText, named "amount" anyText, named "currency" anyText,
    named "customer-id" anyText, named "email" anyText, named "return-url" isUrl,
    named "cancel-url" isUrl] 0

def levelOf? : String → Option LevelSpec
  | "check" => some checkLevel
  | "transaction" => some transactionLevel
  | "hash" => some hashLevel
  | "hosted-form" => some hostedFormLevel
  | _ => none

/-! ### What it means -/

/-- The command of this name, unless something that it needs is missing. -/
def command? (name : String) (g : Given) : Option Command :=
  let currency := (g.value? "currency").getD defaultCurrency
  match name with
  | "check" => some (.check (g.has "offline"))
  | "transaction" => do
    return .transaction (← g.operands.head?) (((g.value? "format").bind ShownAs.ofName?).getD .text)
  | "hash" => do return .hash ⟨← g.operands.head?, currency, g.value? "verify"⟩
  | "hosted-form" => do
    return .hostedForm ⟨← g.value? "order-id", ← g.value? "amount", currency,
      (g.value? "customer-id").getD "", (g.value? "email").getD "",
      ← g.value? "return-url" >>= Url.ofText?, ← g.value? "cancel-url" >>= Url.ofText?⟩
  | _ => none

/-- Help about the tools, or about the one command that is named. -/
def helpAbout : List String → Interruption
  | [] => .help
  | [name] => if name = helpWord ∨ name ∈ commandNames then .help else .misuse
  | _ => .misuse

/-- The arguments that the words give. What was said ahead of a command is settled only after the
command is read. -/
def ofWords (words : List String) : Except Interruption Arguments := do
  match ← readLevel topLevel .initial words with
  | (_, none) => throw .misuse
  | (ahead, some (name, rest)) =>
    if name = helpWord then throw (helpAbout rest)
    else
      match levelOf? name with
      | none => throw .misuse
      | some level =>
        let (behind, _) ← readLevel level .initial rest
        match command? name behind.given with
        | none => throw .misuse
        | some command =>
          let ahead ← ahead.settle
          let value? (option : String) : Option String :=
            behind.given.value? option <|> ahead.given.value? option
          return ⟨(value? "manifest-path").getD defaultManifestPath, value? "gateway", command⟩

end Arguments

end CardPayments
