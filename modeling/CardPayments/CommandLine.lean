import CardPayments.CommandLine.Arguments
import CardPayments.CommandLine.Path
import CardPayments.Environment
import CardPayments.HostedPage
import CardPayments.Json.Writer
import CardPayments.Processor.Http

/-!
# The command line tools

A run of the tools is a function of its arguments and of what it sees: the environment, the files
and the network. Beside the manifest an environment file may lie, which is read first. Credentials
in the environment go before those in the manifest, and without a manifest the environment is all
there is.
-/

namespace CardPayments

namespace CommandLine

def apiTokenVariable : String := "HELCIM_API_TOKEN"

def secretKeyVariable : String := "HELCIM_SECRET_KEY"

def environmentFileName : String := ".env"

/-- The name that a gateway has when no manifest names one. -/
def defaultGateway : String := "helcim"

structure Surroundings where
  environment : Environment
  file : (path : String) → FileContent
  network : Network

/-- What a run prints to its two outputs, and the code it ends with. -/
structure Outcome where
  code : Nat
  output : List String
  errors : List String
deriving DecidableEq

/-- How a run ends: with an outcome, or with a text about the use of the tools. -/
inductive Run where
  | done (outcome : Outcome)
  | explained (interruption : Interruption)

def Run.code : Run → Nat
  | .done outcome => outcome.code
  | .explained interruption => interruption.code

/-! ### The gateway in question -/

structure Context where
  manifestPath : String
  manifest : Manifest
  gateway : Option String
  environment : Environment

inductive CommandError where
  | unknownGateway (name manifestPath : String)
  | invalid (error : ConfigError)
  | unconfigured (error : ConfigError) (manifestPath : String)
  | unreachable
  | lookup (error : ApiError)
  | noHashKey
  | price (error : PriceError)
  | hashMismatch (amount : Price)
  | failure (error : Failure)

def CommandError.message : CommandError → String
  | .unknownGateway name path => "Gateway '" ++ name ++ "' not found in " ++ path
  | .invalid error => error.message
  | .unconfigured error path =>
    error.message ++ "\nSet " ++ apiTokenVariable ++ " and " ++ secretKeyVariable ++
      " or configure them in " ++ path
  | .unreachable => "Could not connect to Helcim. Please verify your API credentials."
  | .lookup error => "Failed to fetch transaction: " ++ error.message
  | .noHashKey => "No secret key configured to hash with"
  | .price error => error.message
  | .hashMismatch amount => "Hash does not match " ++ amount.display
  | .failure error => error.message

/-- The configuration with the credentials that the environment gives. -/
def withCredentials (e : Environment) (c : Config) : Config :=
  { c with
    apiToken := (e.get? apiTokenVariable).getD c.apiToken
    secretKey := (e.get? secretKeyVariable).getD c.secretKey }

/-- The gateway in question and its configuration. -/
def Context.config (ctx : Context) : Except CommandError (String × Config) :=
  match ctx.manifest.choose? ctx.gateway, ctx.gateway with
  | some (name, config), _ => .ok (name, withCredentials ctx.environment config)
  | none, some name => .error (.unknownGateway name ctx.manifestPath)
  | none, none =>
    .ok (defaultGateway, withCredentials ctx.environment (Config.ofCredentials .test "" ""))

/-! ### Commands -/

structure Report where
  lines : List String
  result : Except CommandError Unit

def Report.failed (lines : List String) (error : CommandError) : Report := ⟨lines, .error error⟩

/-- The lines of a command that prints nothing unless it succeeds. -/
def Report.ofExcept : Except CommandError (List String) → Report
  | .ok lines => ⟨lines, .ok ()⟩
  | .error error => .failed [] error

def tick (text : String) : String := "✓ " ++ text

/-- Whether the processor accepts the configured credentials. -/
def answers (network : Network) (config : Config) : Bool :=
  match Url.ofText? Http.productionBase with
  | some base => Http.validateCredentials network base config
  | none => false

def check (network : Network) (ctx : Context) (offline : Bool) : Report :=
  match ctx.config with
  | .error error => .failed [] error
  | .ok (name, config) =>
    let gateway := "Gateway: " ++ name ++ " (" ++ config.mode.name ++ ")"
    match config.validate with
    | .error error => .failed [gateway] (.unconfigured error ctx.manifestPath)
    | .ok () =>
      let page := match config.hostedPage with
        | .ok url => tick ("Hosted page: " ++ url.text)
        | .error _ => "  Hosted page flow not configured"
      let lines := [gateway, tick "Credentials look valid", page]
      if offline then ⟨lines, .ok ()⟩
      else if answers network config then ⟨lines ++ [tick "Connected to Helcim"], .ok ()⟩
      else .failed lines .unreachable

def transactionLines (id : String) (t : Transaction) : List String :=
  ["Transaction: " ++ id, "Status: " ++ t.status.text] ++
    t.message.toList.map fun message => "Message: " ++ message

def lookUp (network : Network) (config : Config) (id : String) :
    Except ApiError Transaction :=
  match Url.ofText? Http.productionBase with
  | some base => Http.processor network base config (.get id)
  | none => .error (.client Http.productionBase)

def transaction (network : Network) (ctx : Context) (id : String)
    (shownAs : ShownAs) :
    Except CommandError (List String) := do
  let (_, config) ← ctx.config
  config.validate.mapError CommandError.invalid
  let t ← (lookUp network config id).mapError CommandError.lookup
  match shownAs with
  | .json => return [t.toJson.prettyText]
  | .text => return transactionLines id t

/-- Prints the hash of an amount, or compares it with one that was reported. -/
def hash (ctx : Context) (options : HashOptions) : Except CommandError (List String) := do
  let (_, config) ← ctx.config
  if config.hashKey.isEmpty then throw .noHashKey
  let amount ← (Price.parse options.amount options.currency).mapError CommandError.price
  match options.verify with
  | none => return [amountHash config.hashKey amount]
  | some reported =>
    if verifyAmountHash config.hashKey amount (Text.trim reported) then
      return [tick ("Hash matches " ++ amount.display)]
    else throw (.hashMismatch amount)

def formLines (form : RedirectForm) : List String :=
  ("Form: " ++ String.ofList (RedirectForm.method.toList.map Char.toUpper) ++
      " " ++ form.action.text) ::
    form.fields.entries.map fun field => "  " ++ field.1 ++ ": " ++ field.2

/-- Prints the form that takes a customer to the hosted page. -/
def hostedForm (ctx : Context) (options : HostedFormOptions) : Except CommandError (List String) :=
  do
  let (_, config) ← ctx.config
  let total ← (Price.parse options.amount options.currency).mapError CommandError.price
  let order : Order := ⟨options.orderId, options.customerId, options.email, total, none⟩
  let payment := Payment.begin options.orderId total
  let urls : CallbackUrls := ⟨options.returnUrl, options.cancelUrl⟩
  let form ← (HostedPage.redirectForm config payment order urls).mapError
    CommandError.failure
  return formLines form

def execute (network : Network) (ctx : Context) : Command → Report
  | .check offline => check network ctx offline
  | .transaction id shownAs => .ofExcept (transaction network ctx id shownAs)
  | .hash options => .ofExcept (hash ctx options)
  | .hostedForm options => .ofExcept (hostedForm ctx options)

/-! ### A whole run -/

/-- The environment with the variables of the file beside the manifest, and what is said about it.
-/
def loadEnvironment (s : Surroundings) (manifestPath : String) : Environment × List String :=
  let path := Path.beside manifestPath environmentFileName
  let warning := "Warning: Failed to load .env file at " ++ path
  match s.file path with
  | .missing => (s.environment, [])
  | .unreadable => (s.environment, [warning])
  | .bytes content =>
    let loaded := EnvironmentFile.load s.environment content
    (loaded.environment,
      [if loaded.whole then tick ("Loaded environment from " ++ path) else warning])

/-- The manifest, or an empty one in its place, and what is said about it. -/
def loadManifest (s : Surroundings) (path : String) : Manifest × List String :=
  match Manifest.load (s.file path) with
  | .ok m => (m, [tick ("Loaded manifest from " ++ path)])
  | .error error =>
    (.empty, ["Warning: " ++ error.message path, "Using credentials from the environment..."])

def runWith (s : Surroundings) (a : Arguments) : Outcome :=
  let (environment, said) := loadEnvironment s a.manifestPath
  let (manifest, alsoSaid) := loadManifest s a.manifestPath
  let report := execute s.network ⟨a.manifestPath, manifest, a.gateway, environment⟩ a.command
  match report.result with
  | .ok () => ⟨0, report.lines, said ++ alsoSaid⟩
  | .error error => ⟨1, report.lines, said ++ alsoSaid ++ ["Error: " ++ error.message]⟩

/-- The paths of the files that a run reads. -/
def pathsRead (a : Arguments) : List String :=
  [a.manifestPath, Path.beside a.manifestPath environmentFileName]

def usage : List String :=
  ["Helcim payment gateway tools", "",
    "Usage: commerce-helcim [OPTIONS] <COMMAND>", "",
    "Commands:",
    "  check        Validate the gateway configuration and Helcim credentials",
    "  transaction  Look up a transaction on Helcim",
    "  hash         Compute or verify a hosted page amount hash",
    "  hosted-form  Print the redirect form for the hosted payment page",
    "  help         Print this message", "",
    "Options:",
    "  -m, --manifest-path <MANIFEST_PATH>  Path to the helcim.yaml manifest file",
    "  -g, --gateway <GATEWAY>              Gateway configuration to use",
    "  -h, --help                           Print help",
    "  -V, --version                        Print version"]

def run (s : Surroundings) (words : List String) : Run :=
  match Arguments.ofWords words with
  | .ok arguments => .done (runWith s arguments)
  | .error interruption => .explained interruption

end CommandLine

end CardPayments
