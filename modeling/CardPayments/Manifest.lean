import CardPayments.Config
import CardPayments.Yaml.Record

/-!
# Manifests

A manifest names the gateways of a project, each with its configuration, in a YAML file. The order
of the file counts: where no gateway is asked for by name, the first is meant. A name that is given
twice stands for the later configuration, at the place of the first.
-/

namespace CardPayments

def manifestName : String := "helcim.yaml"

structure Manifest where
  gateways : List (String × Config)
deriving DecidableEq

inductive ManifestError where
  | notFound
  | unreadable
  | malformed
deriving DecidableEq, Repr

def ManifestError.message (path : String) : ManifestError → String
  | .notFound =>
    manifestName ++ " not found at " ++ path ++ ". Please create a " ++ manifestName ++
      " file in your project root."
  | .unreadable => "Failed to read " ++ path
  | .malformed => "Failed to parse " ++ path

inductive FileContent where
  | missing
  | unreadable
  | bytes (content : List UInt8)
deriving DecidableEq

namespace Manifest

def empty : Manifest := ⟨[]⟩

instance : Inhabited Manifest := ⟨empty⟩

def names (m : Manifest) : List String := m.gateways.map Prod.fst

def get? (m : Manifest) (name : String) : Option Config :=
  (m.gateways.find? fun g => g.1 == name).map Prod.snd

/-- The gateways with a configuration for the name, at its place or at the end. -/
def insertGateway (name : String) (config : Config) :
    List (String × Config) → List (String × Config)
  | [] => [(name, config)]
  | g :: rest => if g.1 = name then (name, config) :: rest else g :: insertGateway name config rest

def insert (m : Manifest) (name : String) (config : Config) : Manifest :=
  ⟨insertGateway name config m.gateways⟩

def ofPairs (pairs : List (String × Config)) : Manifest :=
  pairs.foldl (fun m pair => m.insert pair.1 pair.2) empty

/-- The gateway of this name, or the first one where no name is given. -/
def choose? (m : Manifest) : (name : Option String) → Option (String × Config)
  | some name => (m.get? name).map fun config => (name, config)
  | none => m.gateways.head?

/-! ### Reading -/

def readConfig (document node : Yaml.Node) : Option Config := do
  let text := document.text?
  let mode (n : Yaml.Node) : Option Mode := document.choice? n >>= Mode.ofName?
  let url (n : Yaml.Node) : Option Url := text n >>= Url.ofText?
  match ← document.fields? Config.fieldNames node with
  | [modeNode, apiToken, secretKey, terminalId, displayLabel, hostedPageUrl, secretHashKey] =>
    some ⟨← Yaml.Node.defaulted .test mode modeNode, ← Yaml.Node.defaulted "" text apiToken,
      ← Yaml.Node.defaulted "" text secretKey, ← document.optional text terminalId,
      ← Yaml.Node.defaulted Config.defaultLabel text displayLabel,
      ← document.optional url hostedPageUrl,
      ← document.optional text secretHashKey⟩
  | _ => none

def readGateways (document node : Yaml.Node) : Option Manifest := do
  let pairs ← (← document.entries? node).mapM fun (key, value) => do
    return (← document.text? key, ← readConfig document value)
  some (ofPairs pairs)

def ofDocument? (document : Yaml.Node) : Option Manifest := do
  match ← document.fields? ["gateways"] document with
  | [gateways] => Yaml.Node.defaulted empty (readGateways document) gateways
  | _ => none

def ofChars? (s : List Char) : Option Manifest := Yaml.Node.ofChars? s >>= ofDocument?

def load : FileContent → Except ManifestError Manifest
  | .missing => .error .notFound
  | .unreadable => .error .unreadable
  | .bytes content =>
    match Text.ofUtf8? content with
    | none => .error .unreadable
    | some s =>
      match ofChars? s with
      | some m => .ok m
      | none => .error .malformed

end Manifest

end CardPayments
