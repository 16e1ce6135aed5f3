import DepositBridge.Text.Basic
import DepositBridge.Url.Host

/-!
# URLs

The address of a node: a URL of one of the web schemes, read leniently and kept in its normal form.
-/

namespace DepositBridge

/-- The schemes a node is reached by. -/
inductive Url.Scheme where
  | http
  | https
  deriving DecidableEq, Repr

/-- A URL in parts. User name, password, path, query and fragment are percent-encoded. -/
structure Url where
  scheme : Url.Scheme
  userName : List Char
  password : List Char
  host : Url.Host
  port : Option Nat
  segments : List (List Char)
  query : Option (List Char)
  fragment : Option (List Char)
  deriving DecidableEq, Repr

namespace Url

/-! ## Writing -/

/-- The name of a scheme. -/
def Scheme.name : Scheme → List Char
  | http => "http".toList
  | https => "https".toList

/-- The port of a scheme when a URL names none. -/
def Scheme.port : Scheme → Nat
  | http => 80
  | https => 443

/-- The user name and the password with the mark behind them. -/
def writeUserInfo (userName password : List Char) : List Char :=
  if userName.isEmpty && password.isEmpty then []
  else userName ++ (if password.isEmpty then [] else ':' :: password) ++ ['@']

/-- The characters of a URL. -/
def chars (url : Url) : List Char :=
  url.scheme.name ++ "://".toList ++ writeUserInfo url.userName url.password ++ url.host.write ++
    (match url.port with
      | some port => ':' :: Nat.toDigits 10 port
      | none => []) ++
    url.segments.flatMap ('/' :: ·) ++
    (match url.query with
      | some query => '?' :: query
      | none => []) ++
    (match url.fragment with
      | some fragment => '#' :: fragment
      | none => [])

/-- The text of a URL. -/
def text (url : Url) : String := String.ofList url.chars

/-! ## Parts of the input -/

/-- What a scheme is to a reader: one of the web's, a file's, or another whose hosts are opaque. -/
inductive Kind where
  | web (scheme : Option Scheme) (defaultPort : Nat)
  | file
  | other
  deriving DecidableEq, Repr

/-- The kind of a scheme. -/
def Kind.ofName (name : List Char) : Kind :=
  match String.ofList name with
  | "http" => .web (some .http) 80
  | "https" => .web (some .https) 443
  | "ws" => .web none 80
  | "wss" => .web none 443
  | "ftp" => .web none 21
  | "file" => .file
  | _ => .other

/-- Whether a backslash separates as a slash does. -/
def Kind.takesBackslash : Kind → Bool
  | .other => false
  | _ => true

/-- Whether a character is a slash of a kind. -/
def Kind.isSlash (kind : Kind) (c : Char) : Bool :=
  c = '/' || (c = '\\' && kind.takesBackslash)

/-- The input without the blanks and controls at its ends and without line ends and tabs. -/
def clean (text : List Char) : List Char :=
  (Text.trim (fun c => c.toNat ≤ 32) text).filter fun c => !(c = '\t' || c = '\n' || c = '\r')

/-- Whether a character may stand in the name of a scheme. -/
def isSchemeChar (c : Char) : Bool :=
  c.isAlphanum || c = '+' || c = '-' || c = '.'

/-- The name of the scheme, in small letters, and what follows its colon. -/
def splitScheme (text : List Char) : Option (List Char × List Char) :=
  let name := text.takeWhile isSchemeChar
  match name, text.drop name.length with
  | first :: _, ':' :: rest => if first.isAlpha then some (name.map Char.toLower, rest) else none
  | _, _ => none

/-- The authority, up to a slash, a query or a fragment, and the rest. -/
def splitAuthority (kind : Kind) (text : List Char) : List Char × List Char :=
  let inside (c : Char) : Bool := !(kind.isSlash c || c = '?' || c = '#')
  (text.takeWhile inside, text.dropWhile inside)

/-- The user information before the last at sign of an authority, and the rest. -/
def splitUserInfo (authority : List Char) : Option (List Char) × List Char :=
  let back := authority.reverse
  let behind := (back.takeWhile (· != '@')).reverse
  match back.dropWhile (· != '@') with
  | [] => (none, authority)
  | _ :: before => (some before.reverse, behind)

/-- The user name and the password, encoded. -/
def readUserInfo (info : List Char) : List Char × List Char :=
  (Percent.encode .userInfo (info.takeWhile (· != ':')),
    Percent.encode .userInfo ((info.dropWhile (· != ':')).drop 1))

/-- The host, up to a colon outside brackets, and the rest. -/
def splitHost (inBrackets : Bool) : List Char → List Char × List Char
  | [] => ([], [])
  | c :: rest =>
    if c = ':' ∧ !inBrackets then ([], c :: rest)
    else
      let (host, rest) := splitHost (c = '[' || (c ≠ ']' && inBrackets)) rest
      (c :: host, rest)

/-- The port behind a colon; none when there are no digits. -/
def readPort (text : List Char) : Except Fault (Option Nat) :=
  match text with
  | [] => .ok none
  | _ :: digits =>
    if digits.all Char.isDigit then
      let port := digits.foldl (fun n c => n * 10 + (c.toNat - 48)) 0
      if port ≤ 65535 then .ok (if digits.isEmpty then none else some port) else .error .invalidPort
    else .error .invalidPort

/-! ## Paths -/

/-- The small form of a segment in which a percent sign may stand for a point. -/
def pointForm (segment : List Char) : String :=
  (String.ofList (segment.map Char.toLower)).replace "%2e" "."

/-- Whether a segment stands for the place it is in. -/
def isSingleDot (segment : List Char) : Bool := pointForm segment = "."

/-- Whether a segment stands for the place above. -/
def isDoubleDot (segment : List Char) : Bool := pointForm segment = ".."

/-- Whether a segment is a letter with a colon or a bar, which no later segment takes away. -/
def isDrive : List Char → Bool
  | [letter, ':'] => letter.isAlpha
  | [letter, '|'] => letter.isAlpha
  | _ => false

/-- Takes the last segment away; the list is in reverse order. -/
def parent : List (List Char) → List (List Char)
  | [] => []
  | segment :: above => if isDrive segment then segment :: above else above

/-- The segments of a path without those that stand for a place; the list of those before is in
reverse order. -/
def resolve (before : List (List Char)) : List (List Char) → List (List Char)
  | [] => before.reverse
  | [last] =>
    (if isDoubleDot last then [] :: parent before
      else if isSingleDot last then [] :: before
      else last :: before).reverse
  | segment :: rest =>
    if isDoubleDot segment then resolve (parent before) rest
    else if isSingleDot segment then resolve before rest
    else resolve (segment :: before) rest

/-- The segments of a path that may start with a slash, encoded. -/
def readPath (path : List Char) : List (List Char) :=
  let path := path.map fun c => if c = '\\' then '/' else c
  let path := match path with
    | '/' :: rest => rest
    | rest => rest
  resolve [] ((path.splitOn '/').map (Percent.encode .path))

/-! ## Reading -/

/-- The text up to a mark, and what follows the mark if it is there. -/
def splitMark (mark : Char) (text : List Char) : List Char × Option (List Char) :=
  match text.dropWhile (· != mark) with
  | [] => (text, none)
  | _ :: rest => (text.takeWhile (· != mark), some rest)

/-- Reads what follows the slashes of a web scheme. -/
def readWeb (scheme : Option Scheme) (defaultPort : Nat) (text : List Char) : Except Fault Url := do
  let kind := Kind.web scheme defaultPort
  let (authority, rest) := splitAuthority kind text
  let (info, authority) := splitUserInfo authority
  let (host, port) := splitHost false authority
  let host ← Host.read host
  let port ← readPort port
  match scheme with
  | none => throw .unsupportedScheme
  | some scheme =>
    let (rest, fragment) := splitMark '#' rest
    let (path, query) := splitMark '?' rest
    let (userName, password) := readUserInfo (info.getD [])
    pure {
      scheme, userName, password, host
      port := if port = some defaultPort then none else port
      segments := readPath path
      query := query.map (Percent.encode .query)
      fragment := fragment.map (Percent.encode .fragment) }

/-- Checks what follows the colon of a scheme that is not for the web. -/
def checkOther (text : List Char) : Except Fault Unit := do
  match text with
  | '/' :: '/' :: text =>
    let (authority, _) := splitAuthority .other text
    let (info, authority) := splitUserInfo authority
    let (host, port) := splitHost false authority
    Host.checkOpaque host
    if host.isEmpty ∧ (info.isSome ∨ !port.isEmpty) then throw .emptyHost
    let _ ← readPort port
  | _ => pure ()

/-- Checks what follows the colon of a file's scheme. -/
def checkFile (text : List Char) : Except Fault Unit := do
  match text with
  | a :: b :: text =>
    if Kind.file.isSlash a && Kind.file.isSlash b then
      let (host, _) := splitAuthority .file text
      let isDriveHost := match host with
        | [letter, mark] => letter.isAlpha && (mark = ':' || mark = '|')
        | _ => false
      if host.isEmpty || isDriveHost then pure ()
      else
        let _ ← Host.read host
  | _ => pure ()

/-- Reads a URL. Schemes other than the web's are checked, and then refused. -/
def read (text : String) : Except Fault Url :=
  if text.isEmpty then .error .emptyInput
  else
    match splitScheme (clean text.toList) with
    | none => .error .relative
    | some (name, rest) =>
      match Kind.ofName name with
      | .web scheme defaultPort =>
        readWeb scheme defaultPort (rest.dropWhile fun c => c = '/' || c = '\\')
      | .file => (checkFile rest).bind fun _ => .error .unsupportedScheme
      | .other => (checkOther rest).bind fun _ => .error .unsupportedScheme

/-- The wording of a fault of the form of a URL. -/
def Fault.message : Fault → String
  | .emptyInput => "input is empty"
  | .relative => "relative URL without a base"
  | .emptyHost => "empty host"
  | .invalidPort => "invalid port number"
  | .invalidIpv4 => "invalid IPv4 address"
  | .invalidIpv6 => "invalid IPv6 address"
  | .invalidDomain => "invalid international domain name"
  | .invalidDomainCharacter => "invalid domain character"
  | .unsupportedScheme => "unsupported scheme"

end Url

end DepositBridge
