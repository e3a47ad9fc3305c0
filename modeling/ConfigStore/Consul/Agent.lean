import ConfigStore.Error
import ConfigStore.Text.Blank
import ConfigStore.Text.Utf8
import ConfigStore.Url.Basic

/-!
# Requests to an agent

An agent answers requests over HTTP. It is a function, so that what a store does with its
answers can be stated for every agent.

* `Agent` answers requests; `Exchange` is either settled already or one request together
  with what to do with its response.
* `Exchange.run` carries an exchange out, and `Exchange.request?` is the request it sends.
* `Exchange.send` refuses what cannot be sent, and words the failure where no response comes.
-/

namespace ConfigStore.Consul

inductive Method where
  | get
  | put
deriving DecidableEq, Repr

structure Request where
  method : Method
  url : Url
  /-- The access token, sent along as a header. -/
  token : Option String
  body : String := ""
deriving DecidableEq, Repr

structure Response where
  status : Nat
  body : List UInt8
deriving DecidableEq, Repr

/-- A reply is a response, or none where the agent cannot be reached. -/
abbrev Agent := Request → Option Response

/-- The agent that cannot be reached. -/
def Agent.unreachable : Agent := fun _ => none

namespace Response

def isSuccess (response : Response) : Bool := 200 ≤ response.status && response.status < 300

def isNotFound (response : Response) : Bool := response.status = 404

/-- The body as text, without a byte order mark in front. It is read as UTF-8 in any case: the
character set of a Content-Type header and the byte order marks of UTF-16 are left out. -/
def text (response : Response) : String :=
  Utf8.decodeLossy <|
    if [0xEF, 0xBB, 0xBF].isPrefixOf response.body then response.body.drop 3 else response.body

/-- The registered phrases of status codes. -/
def phrases : List (Nat × String) :=
  [(100, "Continue"), (101, "Switching Protocols"), (102, "Processing"), (200, "OK"),
    (201, "Created"), (202, "Accepted"), (203, "Non Authoritative Information"),
    (204, "No Content"), (205, "Reset Content"), (206, "Partial Content"),
    (207, "Multi-Status"), (208, "Already Reported"), (226, "IM Used"),
    (300, "Multiple Choices"), (301, "Moved Permanently"), (302, "Found"), (303, "See Other"),
    (304, "Not Modified"), (305, "Use Proxy"), (307, "Temporary Redirect"),
    (308, "Permanent Redirect"), (400, "Bad Request"), (401, "Unauthorized"),
    (402, "Payment Required"), (403, "Forbidden"), (404, "Not Found"),
    (405, "Method Not Allowed"), (406, "Not Acceptable"),
    (407, "Proxy Authentication Required"), (408, "Request Timeout"), (409, "Conflict"),
    (410, "Gone"), (411, "Length Required"), (412, "Precondition Failed"),
    (413, "Payload Too Large"), (414, "URI Too Long"), (415, "Unsupported Media Type"),
    (416, "Range Not Satisfiable"), (417, "Expectation Failed"), (418, "I'm a teapot"),
    (421, "Misdirected Request"), (422, "Unprocessable Entity"), (423, "Locked"),
    (424, "Failed Dependency"), (425, "Too Early"), (426, "Upgrade Required"),
    (428, "Precondition Required"), (429, "Too Many Requests"),
    (431, "Request Header Fields Too Large"), (451, "Unavailable For Legal Reasons"),
    (500, "Internal Server Error"), (501, "Not Implemented"), (502, "Bad Gateway"),
    (503, "Service Unavailable"), (504, "Gateway Timeout"),
    (505, "HTTP Version Not Supported"), (506, "Variant Also Negotiates"),
    (507, "Insufficient Storage"), (508, "Loop Detected"), (510, "Not Extended"),
    (511, "Network Authentication Required")]

/-- The status with its phrase. -/
def statusText (response : Response) : String :=
  let phrase := (phrases.lookup response.status).getD "<unknown status code>"
  s!"{response.status} {phrase}"

end Response

/-! ## Failures -/

/-- Why a request has no response. -/
inductive Failure where
  /-- The token holds characters that no header can carry. -/
  | badToken
  /-- The URL is none to which requests go. -/
  | badUrl
  | unreachable
deriving DecidableEq, Repr

def Failure.toError (url : Url) (failure : Failure) : Error :=
  let reason := match failure with
    | badToken => "builder error"
    | badUrl => s!"builder error for url ({url.withoutUser.text})"
    | unreachable => s!"error sending request for url ({url.withoutUser.text})"
  .backend s!"request to {url.text} failed: {reason}"

/-- Whether a header can carry a text: it holds no control characters other than tabs. -/
def fitsHeader (text : String) : Bool :=
  text.toList.all fun c => (0x20 ≤ c.toNat && c.toNat ≠ 0x7F) || c = '\t'

/-- Whether requests can go to a URL: the protocol is known, and the host holds no quotes and
braces. -/
def takesRequests (url : Url) : Bool :=
  let host := (url.host?.map Url.Host.write).getD []
  (url.scheme = "http" || url.scheme = "https") && !host.any "\"`\x7b\x7d".toList.contains

/-- What keeps a request from being sent. -/
def Request.failure? (request : Request) : Option Failure :=
  if request.token.any (!fitsHeader ·) then some .badToken
  else if takesRequests request.url then none
  else some .badUrl

/-! ## Exchanges -/

inductive Exchange (α : Type) where
  /-- The outcome is known without asking. -/
  | settled (outcome : Except Error α)
  | ask (request : Request) (read : Response → Except Error α)

namespace Exchange

variable {α : Type}

/-- Send a request and read the response. -/
def send (request : Request) (read : Response → Except Error α) : Exchange α :=
  match request.failure? with
  | some failure => settled (.error (failure.toError request.url))
  | none => ask request read

def request? : Exchange α → Option Request
  | settled _ => none
  | ask request _ => some request

def run (agent : Agent) : Exchange α → Except Error α
  | settled outcome => outcome
  | ask request read =>
    match agent request with
    | some response => read response
    | none => .error (Failure.unreachable.toError request.url)

end Exchange

end ConfigStore.Consul
