import CardPayments.Json.Record
import CardPayments.Url.Reader

/-!
# Gateway configurations

The settings of one gateway: its mode, the credentials it shows to the processor, and what the
hosted payment page needs. Credentials are judged by their length in bytes. Amount hashes use the
secret hash key, or the secret key where no other is set.
-/

namespace CardPayments

/-- Whether money moves. -/
inductive Mode where
  | test
  | live
deriving DecidableEq, Inhabited, Repr

namespace Mode

def isTest : Mode → Bool
  | .test => true
  | .live => false

def name : Mode → String
  | .test => "test"
  | .live => "live"

def ofName? : String → Option Mode
  | "test" => some .test
  | "live" => some .live
  | _ => none

def toJson (m : Mode) : Json := .str m.name

def ofJson? (j : Json) : Option Mode := j.choice? >>= ofName?

end Mode

inductive ConfigError where
  | missingApiToken
  | missingSecretKey
  | invalidApiToken
  | invalidSecretKey
  | missingHostedPageUrl
deriving DecidableEq, Repr

def ConfigError.message : ConfigError → String
  | .missingApiToken => "API Token is required."
  | .missingSecretKey => "Secret Key is required."
  | .invalidApiToken =>
    "API Token appears to be invalid. Please check your Helcim account settings."
  | .invalidSecretKey =>
    "Secret Key appears to be invalid. Please check your Helcim account settings."
  | .missingHostedPageUrl => "URL of Hosted Page is required for the hosted page flow."

structure Config where
  mode : Mode
  apiToken : String
  secretKey : String
  terminalId : Option String
  displayLabel : String
  hostedPageUrl : Option Url
  secretHashKey : Option String
deriving DecidableEq

namespace Config

def defaultLabel : String := "Credit Card"

def ofCredentials (mode : Mode) (apiToken secretKey : String) : Config :=
  ⟨mode, apiToken, secretKey, none, defaultLabel, none, none⟩

instance : Inhabited Config := ⟨ofCredentials .test "" ""⟩

def withTerminal (c : Config) (terminalId : String) : Config :=
  { c with terminalId := some terminalId }

def withHostedPage (c : Config) (url : Url) (secretHashKey : Option String) : Config :=
  { c with hostedPageUrl := some url, secretHashKey := secretHashKey }

def hashKey (c : Config) : String :=
  match c.secretHashKey with
  | some key => if key.isEmpty then c.secretKey else key
  | none => c.secretKey

/-- The fewest bytes of an API token. -/
abbrev minApiToken : Nat := 10

/-- The fewest bytes of a secret key. -/
abbrev minSecretKey : Nat := 20

def validate (c : Config) : Except ConfigError Unit :=
  if c.apiToken.isEmpty then .error .missingApiToken
  else if Text.byteSize c.apiToken < minApiToken then .error .invalidApiToken
  else if c.secretKey.isEmpty then .error .missingSecretKey
  else if Text.byteSize c.secretKey < minSecretKey then .error .invalidSecretKey
  else .ok ()

def hostedPage (c : Config) : Except ConfigError Url :=
  match c.hostedPageUrl with
  | some url => .ok url
  | none => .error .missingHostedPageUrl

/-! ### The record -/

def fieldNames : List String :=
  ["mode", "api_token", "secret_key", "terminal_id", "display_label", "hosted_page_url",
   "secret_hash_key"]

def urlOfJson? (j : Json) : Option Url := j.string? >>= Url.ofText?

def toJson (c : Config) : Json :=
  .obj (
    [("mode", c.mode.toJson), ("api_token", .str c.apiToken), ("secret_key", .str c.secretKey)] ++
    c.terminalId.toList.map (fun id => ("terminal_id", .str id)) ++
    [("display_label", .str c.displayLabel)] ++
    c.hostedPageUrl.toList.map (fun url => ("hosted_page_url", .str url.text)) ++
    c.secretHashKey.toList.map fun key => ("secret_hash_key", .str key))

def ofJson? (j : Json) : Option Config := do
  match ← j.fields? fieldNames 0 with
  | [mode, apiToken, secretKey, terminalId, displayLabel, hostedPageUrl, secretHashKey] =>
    some ⟨← Json.defaulted .test Mode.ofJson? mode, ← Json.defaulted "" Json.string? apiToken,
      ← Json.defaulted "" Json.string? secretKey, ← Json.optional Json.string? terminalId,
      ← Json.defaulted defaultLabel Json.string? displayLabel,
      ← Json.optional urlOfJson? hostedPageUrl, ← Json.optional Json.string? secretHashKey⟩
  | _ => none

end Config

end CardPayments
