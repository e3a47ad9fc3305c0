import ConfigStore.Url.Host

/-!
# URLs

A URL is a scheme, an authority in most cases, a path, and perhaps a query and a fragment.
All parts are kept in their escaped form.

* `Url.text` writes a URL.
* `Url.pathText` is its path alone.
-/

namespace ConfigStore

namespace Url

/-- What a scheme stands for: local files, a network protocol, or anything else. -/
inductive SchemeKind where
  | file
  | network
  | other
deriving DecidableEq, Repr

/-- The network protocols among the schemes, with their default ports. -/
def defaultPort? (scheme : String) : Option Nat :=
  if scheme = "http" ∨ scheme = "ws" then some 80
  else if scheme = "https" ∨ scheme = "wss" then some 443
  else if scheme = "ftp" then some 21
  else none

def schemeKind (scheme : String) : SchemeKind :=
  if scheme = "file" then .file
  else if (defaultPort? scheme).isSome then .network
  else .other

/-- Files and network protocols share rules on backslashes and on names of hosts. -/
def SchemeKind.special : SchemeKind → Bool
  | file | network => true
  | other => false

/-- Who and where: user name, password, host and port. -/
structure Authority where
  username : List Char := []
  password : List Char := []
  host : Option Host := none
  port : Option Nat := none
deriving DecidableEq, Repr

/-- A path is a list of segments behind a slash each, or a text without structure. -/
inductive UrlPath where
  | rooted (segments : List (List Char))
  | rootless (text : List Char)
deriving DecidableEq, Repr

end Url

structure Url where
  scheme : String
  authority : Option Url.Authority
  path : Url.UrlPath
  query : Option (List Char)
  fragment : Option (List Char)
deriving DecidableEq, Repr

namespace Url

def special (url : Url) : Bool := (schemeKind url.scheme).special

/-- Whether the path has segments, so that others can be put behind them. -/
def isRooted (url : Url) : Bool :=
  match url.path with
  | .rooted _ => true
  | .rootless _ => false

def UrlPath.write : UrlPath → List Char
  | rooted segments => segments.flatMap ('/' :: ·)
  | rootless text => text

def pathText (url : Url) : List Char := url.path.write

def host? (url : Url) : Option Host := url.authority.bind (·.host)

def port? (url : Url) : Option Nat := url.authority.bind (·.port)

/-- The user name and password in front of a host. -/
def Authority.writeUser (authority : Authority) : List Char :=
  if authority.username = [] ∧ authority.password = [] then []
  else
    let password := if authority.password = [] then [] else ':' :: authority.password
    authority.username ++ password ++ ['@']

def Authority.write (authority : Authority) : List Char :=
  let host := match authority.host with
    | some host => host.write
    | none => []
  let port := match authority.port with
    | some port => ':' :: Nat.toDigits 10 port
    | none => []
  authority.writeUser ++ host ++ port

/-- A path that starts with two slashes is kept apart from an authority by a dot. -/
def beforePath (url : Url) : List Char :=
  match url.authority with
  | some authority => '/' :: '/' :: authority.write
  | none => if ['/', '/'].isPrefixOf url.pathText then ['/', '.'] else []

def write (url : Url) : List Char :=
  let query := match url.query with
    | some query => '?' :: query
    | none => []
  let fragment := match url.fragment with
    | some fragment => '#' :: fragment
    | none => []
  url.scheme.toList ++ ':' :: url.beforePath ++ url.pathText ++ query ++ fragment

def text (url : Url) : String := String.ofList url.write

/-- The URL without user name and password. -/
def withoutUser (url : Url) : Url :=
  { url with authority := url.authority.map fun a => { a with username := [], password := [] } }

end Url

end ConfigStore
