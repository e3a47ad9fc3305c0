import ConfigStore.Text.Cut
import ConfigStore.Url.Basic

/-!
# Reading URLs

A URL is read from the outside in: the scheme, then fragment and query from the end, then the
authority up to the first slash, then the segments of the path.

* `Url.read` reads a URL.
* `Url.resolveSegments` takes the segments `.` and `..` out of a path.
* `Url.filePath` is the path of a file, which may start with the letter of a drive.
* `Url.pushSegment` puts a segment behind a path.
-/

namespace ConfigStore.Url

/-! ## Preparation -/

def isTabOrNewline (c : Char) : Bool := c = '\t' || c = '\n' || c = '\r'

def isControlOrSpace (c : Char) : Bool := c.toNat ≤ 0x20

/-- The text without control characters and spaces around it, and without tabs and line ends
anywhere. -/
def clean (text : List Char) : List Char :=
  let start := text.dropWhile isControlOrSpace
  (start.reverse.dropWhile isControlOrSpace).reverse.filter (!isTabOrNewline ·)

def isSchemeCharacter (c : Char) : Bool := c.isAlphanum || c = '+' || c = '-' || c = '.'

/-- The scheme in lower case, and what stands behind its colon. -/
def splitScheme? (text : List Char) : Option (String × List Char) :=
  let scheme := text.takeWhile isSchemeCharacter
  match scheme, text.dropWhile isSchemeCharacter with
  | first :: _, ':' :: rest =>
    if first.isAlpha then some (String.ofList (scheme.map Char.toLower), rest) else none
  | _, _ => none

/-! ## Paths -/

def isSlash (special : Bool) (c : Char) : Bool := c = '/' || (special && c = '\\')

/-- The stretches between slashes. -/
def pathParts (special : Bool) : List Char → List (List Char)
  | [] => [[]]
  | c :: rest =>
    if isSlash special c then [] :: pathParts special rest
    else
      match pathParts special rest with
      | [] => [[c]]
      | part :: others => (c :: part) :: others

/-- A segment in which percent-encoded dots count as dots. -/
def plainDots : List Char → List Char
  | '%' :: '2' :: 'e' :: rest => '.' :: plainDots rest
  | '%' :: '2' :: 'E' :: rest => '.' :: plainDots rest
  | c :: rest => c :: plainDots rest
  | [] => []

def isDot (segment : List Char) : Bool := plainDots segment = ['.']

def isDoubleDot (segment : List Char) : Bool := plainDots segment = ['.', '.']

/-- Whether a segment looks like the letter of a drive, which `..` does not remove. -/
def isDrive : List Char → Bool
  | letter :: mark :: rest =>
    letter.isAlpha && (mark = ':' || mark = '|') && (rest.isEmpty || rest.head? = some '\\')
  | _ => false

/-- The segments without the last one, unless that is a drive. -/
def dropSegment (segments : List (List Char)) : List (List Char) :=
  match segments.getLast? with
  | none => []
  | some last => if isDrive last then segments else segments.dropLast

/-- Go on behind the segments `done`. A path whose last segment is `.` or `..` ends with a
slash. -/
def resolveFrom (done : List (List Char)) : List (List Char) → List (List Char)
  | [] => done
  | segment :: rest =>
    let isLast := rest.isEmpty
    if isDoubleDot segment then
      resolveFrom (if isLast then dropSegment done ++ [[]] else dropSegment done) rest
    else if isDot segment then resolveFrom (if isLast then done ++ [[]] else done) rest
    else resolveFrom (done ++ [segment]) rest

/-- The segments of a path without `.` and `..`. -/
def resolveSegments (segments : List (List Char)) : List (List Char) := resolveFrom [] segments

/-- The segments of the text behind the first slash of a path. -/
def readSegments (special : Bool) (text : List Char) : List (List Char) :=
  resolveSegments ((pathParts special text).map (Percent.encode Escape.path))

/-- The path of a file starts with one slash only. -/
def dropEmptySegments (segments : List (List Char)) : List (List Char) :=
  match segments.dropWhile (· = []) with
  | [] => [[]]
  | rest => rest

/-- Whether a segment, or what stands in the place of a host, is the letter of a drive. -/
def isDriveLetter : List Char → Bool
  | [letter, mark] => letter.isAlpha && (mark = ':' || mark = '|')
  | _ => false

/-- The letter of a drive is written with a colon. -/
def spellDrive (segment : List Char) : List Char :=
  if isDriveLetter segment then segment.take 1 ++ [':'] else segment

/-- Whether a path starts with the letter of a drive. -/
def startsWithDrive (segments : List (List Char)) : Bool := segments.head?.any isDriveLetter

/-- The path of a file with these segments, of which only the first may be a drive. -/
def filePath (segments : List (List Char)) : UrlPath :=
  .rooted (dropEmptySegments (segments.modifyHead spellDrive))

/-- The path that a text writes. Tabs and line ends are gone by now, also those right behind the
letter of a drive, which would count as a slash in front of more letters. -/
def readFilePath (text : List Char) : UrlPath := filePath (readSegments true text)

/-- Put a segment behind the others. The segments `.` and `..` are left out; a segment that
turns into one of them without its tabs and line ends is resolved. -/
def pushSegment (special : Bool) (segments : List (List Char)) (segment : List Char) :
    List (List Char) :=
  if segment = ['.'] ∨ segment = ['.', '.'] then segments
  else
    let before := if segments = [[]] then [] else segments
    resolveFrom before
      [Percent.encode (Escape.segment special) (segment.filter (!isTabOrNewline ·))]

/-- The segments without an empty one at the end. -/
def popEmptySegment (segments : List (List Char)) : List (List Char) :=
  if 1 < segments.length ∧ segments.getLast? = some [] then segments.dropLast else segments

/-! ## Authorities -/

/-- The part up to the last `@`, if there is one, and the part behind it. -/
def splitUser (text : List Char) : Option (List Char) × List Char :=
  match text.reverse.dropWhile (· ≠ '@') with
  | [] => (none, text)
  | _ :: user => (some user.reverse, (text.reverse.takeWhile (· ≠ '@')).reverse)

/-- The host, and the port text behind its colon. A colon between brackets is part of the
host. -/
def splitPort (inBrackets : Bool) : List Char → List Char × Option (List Char)
  | [] => ([], none)
  | c :: rest =>
    if c = ':' ∧ ¬ inBrackets then ([], some rest)
    else
      let inBrackets := if c = '[' then true else if c = ']' then false else inBrackets
      let (host, port) := splitPort inBrackets rest
      (c :: host, port)

/-- The port that digits write, where the default port of the scheme is left out. -/
def readPort (scheme : String) (digits : List Char) : Except Fault (Option Nat) :=
  match digits with
  | [] => .ok none
  | _ =>
    match Decimal.digits? digits with
    | none => .error .invalidPort
    | some port =>
      if 65535 < port then .error .invalidPort
      else .ok (if defaultPort? scheme = some port then none else some port)

/-- A host of a URL that is not a file. Only URLs outside of network protocols may leave it
out, and then without a port and without a user in front. -/
def readHost (kind : SchemeKind) (text : List Char) (hasPort hasUser : Bool) :
    Except Fault (Option Host) :=
  if text = [] then
    if kind.special ∨ hasPort ∨ hasUser then .error .emptyHost else .ok none
  else (if kind.special then Host.readDomain text else Host.readPlain text).map some

/-- The authority that a text writes, and what is left of the text behind a port. The text
ends where `more` says whether anything follows. -/
def readAuthority (scheme : String) (text : List Char) (more : Bool) :
    Except Fault (Authority × List Char) := do
  let kind := schemeKind scheme
  let (user, rest) := splitUser text
  let user := user.map (Text.cutAt ':')
  if user = some ([], none) ∧ rest = [] ∧ more then throw .emptyHost
  let (username, password) := user.getD ([], none)
  let username := Percent.encode Escape.userinfo username
  let password := Percent.encode Escape.userinfo (password.getD [])
  let (hostText, portText) := splitPort false rest
  let host ← readHost kind hostText portText.isSome (username ≠ [] ∨ password ≠ [])
  let digits := (portText.getD []).takeWhile (· ≠ '\\')
  let behind := (portText.getD []).dropWhile (· ≠ '\\')
  let port ← readPort scheme digits
  return ({ username, password, host, port }, behind)

/-! ## Whole URLs -/

/-- The authority and path behind two slashes. -/
def readNetwork (scheme : String) (text : List Char) (more : Bool) :
    Except Fault (Authority × UrlPath) := do
  let special := (schemeKind scheme).special
  let authorityText := text.takeWhile (!isSlash special ·)
  let rest := text.dropWhile (!isSlash special ·)
  let (authority, behind) ← readAuthority scheme authorityText (!rest.isEmpty || more)
  match behind ++ rest with
  | [] => return (authority, .rooted (if special then [[]] else []))
  | c :: path =>
    if isSlash special c then return (authority, .rooted (readSegments special path))
    else return (authority, .rooted (readSegments special (c :: path)))

/-- The path of a file behind one slash at most. -/
def dropSlash : List Char → List Char
  | c :: rest => if isSlash true c then rest else c :: rest
  | [] => []

/-- The host that is left out of the URLs of files. -/
def localhost : Host := .name "localhost".toList

/-- The host and path of a file behind two slashes. The letter of a drive is no host, and a host in
front of a drive is left out. -/
def readFileHost (text : List Char) : Except Fault (Authority × UrlPath) := do
  let hostText := text.takeWhile (!isSlash true ·)
  let rest := text.dropWhile (!isSlash true ·)
  if isDriveLetter hostText then return ({}, readFilePath text)
  if hostText = [] then return ({}, readFilePath rest)
  let host ← Host.readDomain hostText
  -- Where there is no host, the slash belongs to the path and no drive comes first.
  if host = localhost then return ({}, readFilePath rest)
  let segments := readSegments true (dropSlash rest)
  return ({ host := if startsWithDrive segments then none else some host }, filePath segments)

def readFile (text : List Char) : Except Fault (Authority × UrlPath) :=
  match text with
  | c :: d :: rest =>
    if isSlash true c && isSlash true d then readFileHost rest
    else .ok ({}, readFilePath (dropSlash text))
  | _ => .ok ({}, readFilePath (dropSlash text))

/-- A URL of any other kind. -/
def readOther (scheme : String) (text : List Char) (more : Bool) :
    Except Fault (Option Authority × UrlPath) :=
  match text with
  | '/' :: '/' :: rest => (readNetwork scheme rest more).map fun (a, path) => (some a, path)
  | '/' :: rest => .ok (none, .rooted (readSegments false rest))
  | _ => .ok (none, .rootless (Percent.encode Escape.control text))

/-- The URL that a text writes. -/
def read (text : String) : Except Fault Url :=
  match splitScheme? (clean text.toList) with
  | none => .error .relative
  | some (scheme, rest) => do
    let kind := schemeKind scheme
    let (rest, fragment) := Text.cutAt '#' rest
    let (body, query) := Text.cutAt '?' rest
    let more := query.isSome || fragment.isSome
    let (authority, path) ←
      match kind with
      | .file => (readFile body).map fun (a, path) => (some a, path)
      | .network =>
        (readNetwork scheme (body.dropWhile (isSlash true)) more).map fun (a, path) =>
          (some a, path)
      | .other => readOther scheme body more
    return {
      scheme, authority, path
      query := query.map (Percent.encode (Escape.query kind.special))
      fragment := fragment.map (Percent.encode Escape.fragment) }

end ConfigStore.Url
