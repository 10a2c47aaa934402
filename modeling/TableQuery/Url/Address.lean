import TableQuery.Decimal.Read
import TableQuery.Text.Blank
import TableQuery.Url.Host
import TableQuery.Url.Path

/-! Absolute addresses, in the form they are compared in.

Reading forgives what can be understood in one way only: blanks around the address, tabs and line ends
inside it, backslashes for slashes, dots in the path, a service number that is the scheme's own. What is
left is `Address.render`. An address whose scheme is followed by no slash has no path to go on from
(`isBase`). -/
namespace TableQuery.Url

structure Address where
  scheme : String
  /-- User, host and service number, where the address has a place for them. -/
  authority : Option String
  path : String
  query : Option String
  fragment : Option String
  /-- The path is made of segments, so that another can be added to it. -/
  isBase : Bool
deriving Repr, DecidableEq

namespace Address

def render (a : Address) : String :=
  a.scheme ++ ":" ++
  (match a.authority with
    | some text => "//" ++ text
    | none => "") ++
  a.path ++
  (match a.query with
    | some text => "?" ++ text
    | none => "") ++
  (match a.fragment with
    | some text => "#" ++ text
    | none => "")

/-! ### Schemes -/

/-- The schemes whose addresses have a host and a path, with the service number each uses by itself. -/
def defaultNumber? (scheme : String) : Option Nat :=
  match scheme with
  | "http" | "ws" => some 80
  | "https" | "wss" => some 443
  | "ftp" => some 21
  | _ => none

def isSpecial (scheme : String) : Bool := (defaultNumber? scheme).isSome || scheme == "file"

def isSchemeChar (c : Char) : Bool := c.isAlphanum || c == '+' || c == '-' || c == '.'

/-- The scheme before the first colon, and what follows it. -/
def splitScheme? (cs : List Char) : Option (String × List Char) :=
  match Text.cut ':' cs with
  | some (c :: name, rest) =>
    if c.isAlpha && name.all isSchemeChar then
      some (String.ofList ((c :: name).map Char.toLower), rest)
    else none
  | _ => none

/-! ### Which characters stand for themselves -/

def plainInUser (c : Char) : Bool :=
  Path.plain c && !(['/', ':', ';', '=', '@', '[', '\\', ']', '^', '|'].contains c)

def plainInQuery (special : Bool) (c : Char) : Bool :=
  Path.isGraphic c && !(['"', '#', '<', '>'].contains c) && !(special && c == '\'')

def encodeWith (plain : Char → Bool) (cs : List Char) : String :=
  String.ofList (cs.flatMap (Form.encodeUnless plain))

/-! ### Authorities -/

/-- Whether a character ends the authority, or a segment of the path. -/
def isSlash (special : Bool) (c : Char) : Bool := c == '/' || (special && c == '\\')

def endsAuthority (special : Bool) (c : Char) : Bool := isSlash special c || c == '?' || c == '#'

/-- The user and the password, with the mark after them; nothing if both are empty. -/
def renderUser (cs : List Char) : String :=
  let (user, password) := (Text.cut ':' cs).getD (cs, [])
  if user.isEmpty && password.isEmpty then ""
  else encodeWith plainInUser user ++
    (if password.isEmpty then "" else ":" ++ encodeWith plainInUser password) ++ "@"

/-- The host and the service number, cut at the first colon outside brackets. -/
def splitNumber (inside : Bool) : List Char → List Char × Option (List Char)
  | [] => ([], none)
  | c :: cs =>
    if c = ':' ∧ !inside then ([], some cs)
    else
      let inside := if c = '[' then true else if c = ']' then false else inside
      let (host, number) := splitNumber inside cs
      (c :: host, number)

/-- The service number as it is written: not at all if it is the scheme's own, or empty. -/
def renderNumber (scheme : String) (number : Option (List Char)) : Except AddressFault String :=
  match number with
  | none | some [] => .ok ""
  | some cs =>
    if !cs.all Char.isDigit then .error .invalidNumber
    else match Decimal.natural? 65535 cs with
      | none => .error .invalidNumber
      | some n => .ok (if defaultNumber? scheme = some n then "" else ":" ++ toString n)

/-- The user, host and service number of an authority, in their serialized forms, and what is left of
it: behind a service number a backslash begins the path. An `@` with nothing before it may stand only
before a host, or at the very end. -/
def readAuthority (scheme : String) (cs : List Char) (atEnd : Bool) :
    Except AddressFault (String × List Char) := do
  let special := isSpecial scheme
  let (user, rest) := match Text.cutLast '@' cs with
    | some (user, rest) => (renderUser user, rest)
    | none => ("", cs)
  if cs = ['@'] && !atEnd then .error .emptyHost
  let (host, number) := splitNumber false rest
  if host.isEmpty && (special || number.isSome) then .error .emptyHost
  let written ← if special then Host.parse host else Host.parseOpaque host
  let digits ← renderNumber scheme (number.map fun n => n.takeWhile (· != '\\'))
  if host.isEmpty && user ≠ "" then .error .emptyHost
  .ok (user ++ written ++ digits, (number.getD []).dropWhile (· != '\\'))

/-- A file's host is left out where it is this machine. -/
def readFileHost (cs : List Char) : Except AddressFault String :=
  if cs.isEmpty then .ok ""
  else (Host.parse cs).map fun host => if host = "localhost" then "" else host

/-! ### Paths -/

/-- The text with one slash less at its beginning, if there is one. -/
def dropSlash (special : Bool) (cs : List Char) : List Char :=
  match cs with
  | c :: rest => if isSlash special c then rest else c :: rest
  | [] => []

/-- The segments of a path's text, a backslash counting as a slash where the scheme has it so. -/
def readSegments (special file : Bool) (cs : List Char) : List (List Char) :=
  Path.segments file (if special then cs.map fun c => if c = '\\' then '/' else c else cs)

/-- A path of segments; it begins with a slash even if the text does not. -/
def readPath (special : Bool) (cs : List Char) : String :=
  Path.render (readSegments special false (dropSlash special cs))

/-! ### Addresses -/

def isLineBreak (c : Char) : Bool := c == '\t' || c == '\n' || c == '\r'

/-- The text without what surrounds it and without tabs and line ends. -/
def clean (text : String) : List Char :=
  (Text.trimWhile (fun c => c.toNat ≤ 32) text.toList).filter fun c => !isLineBreak c

/-- What an address ends in: path, query and fragment as they were written. -/
def splitTail (cs : List Char) : List Char × Option (List Char) × Option (List Char) :=
  let (front, fragment) := match Text.cut '#' cs with
    | some (front, fragment) => (front, some fragment)
    | none => (cs, none)
  match Text.cut '?' front with
  | some (path, query) => (path, some query, fragment)
  | none => (front, none, fragment)

/-- Cuts the authority off. -/
def splitAuthority (special : Bool) (cs : List Char) : List Char × List Char :=
  (cs.takeWhile fun c => !endsAuthority special c, cs.dropWhile fun c => !endsAuthority special c)

def assemble (scheme : String) (authority : Option String) (isBase : Bool) (path : String)
    (tail : Option (List Char) × Option (List Char)) : Address where
  scheme := scheme
  authority := authority
  path := path
  query := tail.1.map (encodeWith (plainInQuery (isSpecial scheme)))
  fragment := tail.2.map (encodeWith Path.plainInFragment)
  isBase := isBase

/-- What follows the scheme of a web address: any number of slashes, then an authority. -/
def parseWeb (scheme : String) (cs : List Char) : Except AddressFault Address := do
  let (authority, rest) := splitAuthority true (cs.dropWhile (isSlash true))
  let (authority, _) ← readAuthority scheme authority rest.isEmpty
  let (path, tail) := splitTail rest
  .ok (assemble scheme (some authority) true (readPath true path) tail)

/-- The host of a file's address and the text of its path. Behind two slashes there is a host, if it is
not the letter of a drive; the path of an address without a host keeps all its slashes. -/
def splitFile (cs : List Char) : Except AddressFault (String × List Char) :=
  match cs with
  | a :: b :: rest =>
    if isSlash true a && isSlash true b then
      let (host, path) := splitAuthority true rest
      if Path.isDrive host then .ok ("", rest)
      else (readFileHost host).map fun host => (host, if host = "" then path else dropSlash true path)
    else .ok ("", dropSlash true cs)
  | _ => .ok ("", dropSlash true cs)

/-- A path that begins with the letter of a drive is on this machine, whatever the host. -/
def parseFile (scheme : String) (cs : List Char) : Except AddressFault Address := do
  let (host, rest) ← splitFile cs
  let (path, tail) := splitTail rest
  let segments := readSegments true true path
  let host := if segments.head?.any Path.isDrive then "" else host
  .ok (assemble scheme (some host) true (Path.render (Path.trimFront segments)) tail)

/-- A path that begins with two slashes would be taken for an authority. -/
def guardPath (path : String) : String :=
  if "//".isPrefixOf path then "/." ++ path else path

def parseOther (scheme : String) (cs : List Char) : Except AddressFault Address :=
  match cs with
  | '/' :: '/' :: cs => do
    let (authority, rest) := splitAuthority false cs
    let (authority, left) ← readAuthority scheme authority rest.isEmpty
    let (path, tail) := splitTail (left ++ rest)
    .ok (assemble scheme (some authority) true (if path.isEmpty then "" else readPath false path) tail)
  | cs =>
    let (path, tail) := splitTail cs
    if path.head? = some '/' then
      .ok (assemble scheme none true (guardPath (readPath false path)) tail)
    else
      .ok (assemble scheme none false (encodeWith (fun c => c == ' ' || Path.isGraphic c) path) tail)

def parse (text : String) : Except AddressFault Address :=
  match splitScheme? (clean text) with
  | none => .error .relative
  | some (scheme, rest) =>
    if scheme = "file" then parseFile scheme rest
    else if isSpecial scheme then parseWeb scheme rest
    else parseOther scheme rest

end Address
end TableQuery.Url
