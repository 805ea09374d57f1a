import CardPayments.Processor.Request
import CardPayments.Json.Reader
import CardPayments.Text.Utf8

/-!
# Talking to the processor over HTTP

Every request goes to an address below a base URL, with the API token in a header and a JSON body
where there is one. The exchange may end without an answer, in the middle of one, or with a whole
answer. A whole answer with a status from 200 to 299 is read as the transaction it reports; all
other endings are transport errors, which carry the processor's own message where it sent one.
-/

namespace CardPayments

inductive Method where
  | get
  | post
deriving DecidableEq, Repr

def Method.name : Method → String
  | .get => "GET"
  | .post => "POST"

structure HttpRequest where
  method : Method
  url : Url
  apiToken : String
  body : Option Json

inductive Exchange where
  | unreachable (detail : String)
  | cutShort (status : Nat) (detail : String)
  | complete (status : Nat) (body : List UInt8)
deriving DecidableEq

/-- What carries requests out. It follows redirects, so an exchange ends as the last of them does,
and it sends nothing to an address that has no host or is of a scheme other than HTTP and HTTPS:
such an exchange ends as unreachable. -/
abbrev Network := HttpRequest → Exchange

namespace Http

def productionBase : String := "https://api.helcim.com/v2"

/-- The address of an endpoint: the base without slashes at its end, and the endpoint. -/
def endpointChars (base : Url) (endpoint : List Char) : List Char :=
  (base.chars.reverse.dropWhile fun c => c = '/').reverse ++ endpoint

/-- The endpoint of a request; look-ups name the transaction in the path. -/
def endpoint : Request → List Char
  | .get id => "/payment/".toList ++ Percent.encode Percent.isComponentSet id.toList
  | r => "/payment/".toList ++ r.name.toList

def method : Request → Method
  | .get _ => .get
  | _ => .post

/-- The endpoint that tells whether credentials are accepted. -/
def credentialsEndpoint : List Char := "/payment/transactions".toList

def isHeaderValue (s : String) : Bool :=
  s.toList.all fun c => c = '\t' || (0x20 ≤ c.toNat && c.toNat ≠ 0x7F)

/-- The request to an endpoint, if the address is one and the token can be sent. -/
def request? (base : Url) (config : Config) (method : Method) (endpoint : List Char)
    (body : Option Json) : Option HttpRequest := do
  let url ← Url.ofChars? (endpointChars base endpoint)
  if isHeaderValue config.apiToken then some ⟨method, url, config.apiToken, body⟩ else none

/-! ### Answers -/

def phrases : List (Nat × String) :=
  [(100, "Continue"), (101, "Switching Protocols"), (102, "Processing"), (103, "Early Hints"),
   (200, "OK"), (201, "Created"), (202, "Accepted"), (203, "Non Authoritative Information"),
   (204, "No Content"), (205, "Reset Content"), (206, "Partial Content"), (207, "Multi-Status"),
   (208, "Already Reported"), (226, "IM Used"), (300, "Multiple Choices"),
   (301, "Moved Permanently"), (302, "Found"), (303, "See Other"), (304, "Not Modified"),
   (305, "Use Proxy"), (307, "Temporary Redirect"), (308, "Permanent Redirect"),
   (400, "Bad Request"), (401, "Unauthorized"), (402, "Payment Required"), (403, "Forbidden"),
   (404, "Not Found"), (405, "Method Not Allowed"), (406, "Not Acceptable"),
   (407, "Proxy Authentication Required"), (408, "Request Timeout"), (409, "Conflict"),
   (410, "Gone"), (411, "Length Required"), (412, "Precondition Failed"),
   (413, "Payload Too Large"), (414, "URI Too Long"), (415, "Unsupported Media Type"),
   (416, "Range Not Satisfiable"), (417, "Expectation Failed"), (418, "I'm a teapot"),
   (421, "Misdirected Request"), (422, "Unprocessable Entity"), (423, "Locked"),
   (424, "Failed Dependency"), (425, "Too Early"), (426, "Upgrade Required"),
   (428, "Precondition Required"), (429, "Too Many Requests"),
   (431, "Request Header Fields Too Large"), (451, "Unavailable For Legal Reasons"),
   (500, "Internal Server Error"), (501, "Not Implemented"), (502, "Bad Gateway"),
   (503, "Service Unavailable"), (504, "Gateway Timeout"), (505, "HTTP Version Not Supported"),
   (506, "Variant Also Negotiates"), (507, "Insufficient Storage"), (508, "Loop Detected"),
   (510, "Not Extended"), (511, "Network Authentication Required")]

def statusText (status : Nat) : String :=
  String.ofList (Text.digits status) ++ " " ++
    ((phrases.find? fun row => row.1 == status).map Prod.snd).getD "<unknown status code>"

def isSuccess (status : Nat) : Bool := 200 ≤ status && status < 300

/-- The message in a failed answer, if the answer is a record with one. -/
def reportedMessage? (body : Option Json) : Option String := do
  match ← (← body).fields? ["message"] 1 with
  | [message] => (Json.optional Json.string? message).join
  | _ => none

def failed (detail : String) : String := "Helcim API request failed: " ++ detail

def unexpected : String := "unexpected answer"

/-- The document of a successful answer, or the error that the exchange amounts to. -/
def document : Exchange → Except ApiError (Option Json)
  | .unreachable detail => .error (.transport none (failed detail))
  | .cutShort status detail => .error (.transport (some status) (failed detail))
  | .complete status bytes =>
    let text := Text.ofUtf8Lenient bytes
    let body := Json.ofChars? text
    if isSuccess status then .ok body
    else
      .error (.transport (some status)
        ((reportedMessage? body).getD (failed (statusText status ++ " " ++ String.ofList text))))

def decoded {α : Type} (read : Json → Option α) (exchange : Exchange) : Except ApiError α := do
  match (← document exchange).bind read with
  | some a => .ok a
  | none => .error (.decode unexpected)

/-- Any document that can be read as a whole. -/
def wholeDocument? (j : Json) : Option Json := if j.isReadable Json.maxDepth then some j else none

/-! ### Calls -/

def call {α : Type} (network : Network) (base : Url) (config : Config) (method : Method)
    (endpoint : List Char) (body : Option Json) (read : Json → Option α) : Except ApiError α :=
  match request? base config method endpoint body with
  | none => .error (.transport none (failed "builder error"))
  | some r => decoded read (network r)

/-- The processor behind a network. -/
def processor (network : Network) (base : Url) (config : Config) : Processor := fun r =>
  call network base config (method r) (endpoint r) r.body? Transaction.ofJson?

/-- Whether the processor accepts the configured API token. -/
def validateCredentials (network : Network) (base : Url) (config : Config) : Bool :=
  (call network base config .get credentialsEndpoint none wholeDocument?).isOk

end Http

end CardPayments
