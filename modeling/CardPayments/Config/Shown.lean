import CardPayments.Config
import CardPayments.Text.Quoted

/-!
# Configurations as developers see them

All settings by name on one line, with secrets cut to their first four characters.
-/

namespace CardPayments

namespace Shown

def option {α : Type} (view : α → String) : Option α → String
  | some a => "Some(" ++ view a ++ ")"
  | none => "None"

def fields (kind : String) (values : List (String × String)) : String :=
  kind ++ " \x7b " ++ ", ".intercalate (values.map fun (name, value) => name ++ ": " ++ value) ++
    " \x7d"

def quotedChars (s : List Char) : String := Text.quoted (String.ofList s)

end Shown

open Shown

/-- The first four characters and an ellipsis. -/
def redacted (secret : String) : String := String.ofList (secret.toList.take 4 ++ ['…'])

/-- Addresses that embed an IPv4 address show it in its own form. -/
def Host.ipv6Shown (pieces : List Nat) : String :=
  match pieces with
  | [0, 0, 0, 0, 0, 0xFFFF, high, low] =>
    "::ffff:" ++ String.ofList (Host.ipv4Chars (high * 65536 + low))
  | _ => String.ofList (Host.ipv6Chars pieces)

def Host.shown : Host → String
  | .domain name => "Domain(" ++ quotedChars name ++ ")"
  | .ipv4 address => "Ipv4(" ++ String.ofList (Host.ipv4Chars address) ++ ")"
  | .ipv6 pieces => "Ipv6(" ++ Host.ipv6Shown pieces ++ ")"

def Url.shown (u : Url) : String :=
  let isPlain := match u.path with
    | .plain _ => "true"
    | .segments _ => "false"
  fields "Url"
    [("scheme", quotedChars u.scheme), ("cannot_be_a_base", isPlain),
     ("username", quotedChars u.username),
     ("password", option quotedChars u.password),
     ("host", option Host.shown (u.host.filter fun h => h != .domain [])),
     ("port", option (fun n => String.ofList (Text.digits n)) u.port),
     ("path", quotedChars u.path.chars),
     ("query", option quotedChars u.query), ("fragment", option quotedChars u.fragment)]

def Mode.shown : Mode → String
  | .test => "Test"
  | .live => "Live"

def Config.shown (c : Config) : String :=
  fields "GatewayConfig"
    [("mode", c.mode.shown), ("api_token", Text.quoted (redacted c.apiToken)),
     ("secret_key", Text.quoted (redacted c.secretKey)),
     ("terminal_id", option Text.quoted c.terminalId),
     ("display_label", Text.quoted c.displayLabel),
     ("hosted_page_url", option Url.shown c.hostedPageUrl),
     ("secret_hash_key", option (fun key => Text.quoted (redacted key)) c.secretHashKey)]

end CardPayments
