import ChatConsole.Text.Blank
import ChatConsole.Url.Form
import ChatConsole.Url.Host

/-! # URLs of the web socket schemes

`parse` reads a URL of the scheme `ws` or `wss` and brings it into its normal form. A URL of another
scheme is only checked: the outcome is its scheme, or why it is no URL at all.
-/

namespace ChatConsole

/-- A URL of the scheme `ws` or `wss`. User name, password, path, query and fragment are kept in
their encoded form. -/
structure Url where
  /-- Whether the scheme is `wss`. -/
  secure : Bool
  username : String
  password : String
  host : Url.Host
  /-- The port, unless it is the usual one of the scheme. -/
  port : Option Nat
  path : String
  query : Option String
  fragment : Option String
  deriving DecidableEq, Repr

namespace Url

def scheme (url : Url) : String := if url.secure then "wss" else "ws"

/-- The port that a URL of the scheme does not mention. -/
def usualPort (secure : Bool) : Nat := if secure then 443 else 80

/-- User name and password as they stand before the host. -/
def userInfo (url : Url) : String :=
  let password := if url.password.isEmpty then "" else ":" ++ url.password
  if url.username.isEmpty && url.password.isEmpty then "" else url.username ++ password ++ "@"

/-- The text of a URL. -/
def text (url : Url) : String :=
  let port := match url.port with
    | some n => ":" ++ toString n
    | none => ""
  let query := match url.query with
    | some q => "?" ++ q
    | none => ""
  let fragment := match url.fragment with
    | some f => "#" ++ f
    | none => ""
  url.scheme ++ "://" ++ url.userInfo ++ url.host.text ++ port ++ url.path ++ query ++ fragment

/-- The pairs of the query. -/
def pairs (url : Url) : Form.Pairs := Form.decode (url.query.getD "")

/-! ## Reading -/

def isAsciiLetter (c : Char) : Bool := ('a' ≤ c && c ≤ 'z') || ('A' ≤ c && c ≤ 'Z')

def isSchemeChar (c : Char) : Bool :=
  isAsciiLetter c || ('0' ≤ c && c ≤ '9') || c == '+' || c == '-' || c == '.'

/-- The text without control characters and spaces at both ends, and without tabs and line
breaks. -/
def clean (cs : List Char) : List Char :=
  let isEdge (c : Char) : Bool := c.toNat ≤ 0x20
  (Text.dropEnd isEdge (cs.dropWhile isEdge)).filter fun c => !(c == '\t' || c == '\n' || c == '\r')

/-- The scheme in lower case and what follows the colon. -/
def splitScheme? (cs : List Char) : Option (String × List Char) :=
  let name := cs.takeWhile isSchemeChar
  match name, cs.dropWhile isSchemeChar with
  | first :: _, ':' :: rest =>
    if isAsciiLetter first then some (String.ofList (name.map Char.toLower), rest) else none
  | _, _ => none

/-- Schemes whose URLs always have a host and treat a backslash as a slash. -/
def isSpecial (scheme : String) : Bool := ["ws", "wss", "http", "https", "ftp"].contains scheme

/-- Ends the host and the user information. -/
def endsAuthority (special : Bool) (c : Char) : Bool :=
  c == '/' || c == '?' || c == '#' || (special && c == '\\')

/-- Splits at the last `@` of the authority: what stands before it, if there is one, and the
rest. -/
def splitUserInfo (special : Bool) (cs : List Char) : Option (List Char) × List Char :=
  let authority := cs.takeWhile (!endsAuthority special ·)
  let after := (authority.reverse.takeWhile (· != '@')).reverse
  if authority.contains '@' then
    let info := authority.take (authority.length - after.length - 1)
    (some info, after ++ cs.dropWhile (!endsAuthority special ·))
  else (none, cs)

/-- User name and password. -/
def readUserInfo (info : List Char) : String × String :=
  let encoded (cs : List Char) := String.ofList (Percent.encode Percent.keptInUserInfo cs)
  (encoded (info.takeWhile (· != ':')), encoded ((info.dropWhile (· != ':')).drop 1))

/-- The length of the host in front: it ends at a colon outside brackets or with the authority. -/
def hostLength (special : Bool) (bracketed : Bool) : List Char → Nat
  | [] => 0
  | c :: cs =>
    if (c == ':' && !bracketed) || endsAuthority special c then 0
    else
      let bracketed := if c = '[' then true else if c = ']' then false else bracketed
      hostLength special bracketed cs + 1

/-- The port after a colon, if any digits are given, and what follows it. -/
def readPort (cs : List Char) : Except Fault (Option Nat × List Char) :=
  let isEnd (c : Char) : Bool := c == '/' || c == '\\' || c == '?' || c == '#'
  let ds := cs.takeWhile (!isEnd ·)
  let rest := cs.dropWhile (!isEnd ·)
  if ds.isEmpty then .ok (none, rest)
  else
    match Decimal.readBelow? 65536 ds with
    | some port => .ok (some port, rest)
    | none => .error .invalidPort

def readOptionalPort : List Char → Except Fault (Option Nat × List Char)
  | ':' :: rest => readPort rest
  | rest => .ok (none, rest)

/-- Segments that stand for the directory itself. -/
def isSingleDot (segment : List Char) : Bool := [".", "%2e", "%2E"].contains (String.ofList segment)

/-- Segments that stand for the directory above. -/
def isDoubleDot (segment : List Char) : Bool :=
  ["..", "%2e%2e", "%2e%2E", "%2E%2e", "%2E%2E", "%2e.", "%2E.", ".%2e", ".%2E"].contains
    (String.ofList segment)

/-- Adds one segment to those already read, latest first. The last segment of a path leaves an empty
one behind when it stands for a directory. -/
def addSegment (segments : List String) (segment : List Char) (isLast : Bool) : List String :=
  if isDoubleDot segment then
    let above := segments.tail
    if isLast then "" :: above else above
  else if isSingleDot segment then
    if isLast then "" :: segments else segments
  else String.ofList (Percent.encode Percent.keptInPath segment) :: segments

def addSegments (segments : List String) : List (List Char) → List String
  | [] => segments
  | [segment] => addSegment segments segment true
  | segment :: rest => addSegments (addSegment segments segment false) rest

/-- The path of a special URL, from what stands before the query and the fragment. -/
def readPath (cs : List Char) : String :=
  let slashed := cs.map fun c => if c = '\\' then '/' else c
  let relative := match slashed with
    | '/' :: rest => rest
    | other => other
  "/" ++ "/".intercalate (addSegments [] (Text.splitAt '/' relative)).reverse

/-- Query and fragment, from what follows the path. -/
def readTail (cs : List Char) : Option String × Option String :=
  let query := match cs.takeWhile (· != '#') with
    | '?' :: q => some (String.ofList (Percent.encode Percent.keptInQuery q))
    | _ => none
  let fragment := match cs.dropWhile (· != '#') with
    | _ :: f => some (String.ofList (Percent.encode Percent.keptInFragment f))
    | [] => none
  (query, fragment)

/-- A web socket URL, from what follows the colon of its scheme. -/
def readSocket (secure : Bool) (cs : List Char) : Except Fault Url := do
  let cs := cs.dropWhile fun c => c == '/' || c == '\\'
  let (info, cs) := splitUserInfo true cs
  let (username, password) := readUserInfo (info.getD [])
  let n := hostLength true false cs
  if n = 0 then throw .emptyHost
  let host ← Host.parse (cs.take n)
  let (port, cs) ← readOptionalPort (cs.drop n)
  let isPath (c : Char) : Bool := c != '?' && c != '#'
  let (query, fragment) := readTail (cs.dropWhile isPath)
  return { secure, username, password, host, query, fragment
           port := port.filter (· != usualPort secure)
           path := readPath (cs.takeWhile isPath) }

/-- Checks what follows the colon of another special scheme. -/
def checkSpecial (cs : List Char) : Except Fault Unit := do
  let cs := cs.dropWhile fun c => c == '/' || c == '\\'
  let (_, cs) := splitUserInfo true cs
  let n := hostLength true false cs
  if n = 0 then throw .emptyHost
  let _ ← Host.parse (cs.take n)
  let _ ← readOptionalPort (cs.drop n)

/-- Checks what follows the colon of a scheme that is not special; without two slashes there is
nothing that could be wrong. -/
def checkOpaque : List Char → Except Fault Unit
  | '/' :: '/' :: cs => do
    let (info, cs) := splitUserInfo false cs
    let n := hostLength false false cs
    match info, cs with
    | some [], c :: _ => if endsAuthority false c then throw .emptyHost
    | _, _ => pure ()
    let filled ← Host.checkOpaque (cs.take n)
    if !filled && (cs.drop n).head? = some ':' then throw .emptyHost
    let _ ← readOptionalPort (cs.drop n)
    let (username, password) := readUserInfo (info.getD [])
    if !filled && !(username.isEmpty && password.isEmpty) then throw .emptyHost
  | _ => pure ()

/-- A letter and a colon or bar name a drive, not a host. -/
def isDrive : List Char → Bool
  | [letter, mark] => isAsciiLetter letter && (mark == ':' || mark == '|')
  | _ => false

/-- Checks what follows the colon of a file URL: the host after two slashes, if there is one. -/
def checkFile (cs : List Char) : Except Fault Unit :=
  let isSlash (c : Char) : Bool := c == '/' || c == '\\'
  match cs with
  | a :: b :: rest =>
    if isSlash a && isSlash b then
      let host := rest.takeWhile (!endsAuthority true ·)
      if host.isEmpty || isDrive host then .ok () else (Host.parse host).map fun _ => ()
    else .ok ()
  | _ => .ok ()

/-- Reads a URL: a web socket URL, or the scheme of any other one. -/
def parse (s : String) : Except Fault (Url ⊕ String) :=
  match splitScheme? (clean s.toList) with
  | none => .error .noScheme
  | some (scheme, rest) =>
    if scheme = "ws" then (readSocket false rest).map .inl
    else if scheme = "wss" then (readSocket true rest).map .inl
    else if scheme = "file" then (checkFile rest).map fun _ => .inr scheme
    else if isSpecial scheme then (checkSpecial rest).map fun _ => .inr scheme
    else (checkOpaque rest).map fun _ => .inr scheme

end Url

end ChatConsole
