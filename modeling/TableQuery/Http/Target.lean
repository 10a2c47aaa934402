import TableQuery.Text.Cut

/-! What a message is addressed to.

A target is a path with its query, or such a path behind a scheme and an authority. Nothing is mended
here: an address that cannot be a target is not sent anywhere, and `TargetFault` says why. -/
namespace TableQuery.Http

inductive TargetFault where
  | tooLong
  | empty
  | longScheme
  | badCharacter
  | badAuthority
  | badForm
deriving Repr, DecidableEq

def TargetFault.message : TargetFault → String
  | .tooLong => "uri too long"
  | .empty => "empty string"
  | .longScheme => "scheme too long"
  | .badCharacter => "invalid uri character"
  | .badAuthority => "invalid authority"
  | .badForm => "invalid format"

structure Target where
  path : List Char
  /-- What follows the question mark; empty too if there is none. -/
  query : String
deriving Repr, DecidableEq

namespace Target

/-! ### Schemes -/

def isSchemeChar (c : Char) : Bool := c.isAlphanum || ['+', '-', '.', '~'].contains c

def longestScheme : Nat := 64

/-- What follows the scheme, if the text begins with one. -/
def dropScheme (cs : List Char) : Except TargetFault (Option (List Char)) :=
  match cs.dropWhile isSchemeChar with
  | ':' :: '/' :: '/' :: rest =>
    if longestScheme < (cs.takeWhile isSchemeChar).length then .error .longScheme else .ok (some rest)
  | _ => .ok none

/-! ### Authorities -/

def endsAuthority (c : Char) : Bool := c == '/' || c == '?' || c == '#'

def isAuthorityChar (c : Char) : Bool :=
  c.isAlphanum ||
    ['!', '$', '&', '\'', '(', ')', '*', '+', ',', '-', '.', ';', '=', '_', '~'].contains c

/-- What has been seen of an authority. -/
structure Seen where
  colons : Nat
  opened : Bool
  closed : Bool
  percent : Bool

/-- Takes a character in. What comes before an `@` or a closing bracket may hold colons and escapes. -/
def Seen.step (s : Seen) (c : Char) : Except TargetFault Seen :=
  match c with
  | ':' => if 8 ≤ s.colons then .error .badAuthority else .ok { s with colons := s.colons + 1 }
  | '[' => if s.percent || s.opened then .error .badAuthority else .ok { s with opened := true }
  | ']' =>
    if !s.opened || s.closed then .error .badAuthority
    else .ok { s with closed := true, colons := 0, percent := false }
  | '@' => .ok { s with colons := 0, percent := false }
  | '%' => .ok { s with percent := true }
  | c => if isAuthorityChar c then .ok s else .error .badCharacter

/-- The authority that a text begins with, and what follows it. -/
def splitAuthority (cs : List Char) : Except TargetFault (List Char × List Char) := do
  let authority := cs.takeWhile fun c => !endsAuthority c
  let s ← authority.foldlM Seen.step ⟨0, false, false, false⟩
  if s.opened != s.closed || 1 < s.colons || authority.getLast? == some '@' || s.percent then
    .error .badAuthority
  .ok (authority, cs.dropWhile fun c => !endsAuthority c)

/-! ### Paths -/

def isPathChar (c : Char) : Bool :=
  32 < c.toNat && !(['#', '<', '>', '?', '\x60'].contains c)

def isQueryChar (c : Char) : Bool := 32 < c.toNat && !(['"', '#', '<', '>'].contains c)

def pathPart (cs : List Char) : List Char := cs.takeWhile fun c => c != '?' && c != '#'

def queryPart (cs : List Char) : List Char :=
  match cs.dropWhile fun c => c != '?' && c != '#' with
  | '?' :: rest => rest.takeWhile (· != '#')
  | _ => []

/-- A path with its query, the fragment left out. -/
def readPath (cs : List Char) : Except TargetFault Target :=
  let path := pathPart cs
  let query := queryPart cs
  if path.all isPathChar && query.all isQueryChar then
    .ok ⟨if path.isEmpty then ['/'] else path, String.ofList query⟩
  else .error .badCharacter

/-- A path that could be read is not empty. -/
theorem path_ne_nil_of_readPath {cs : List Char} {t : Target} (h : readPath cs = .ok t) :
    t.path ≠ [] := by
  simp only [readPath] at h
  split at h
  · obtain rfl := Except.ok.inj h
    by_cases hp : pathPart cs = [] <;> simp [hp]
  · cases h

/-! ### Targets -/

/-- An authority alone leads to no path. -/
def readAuthority (cs : List Char) : Except TargetFault Target := do
  let (_, rest) ← splitAuthority cs
  if rest.isEmpty then .ok ⟨[], ""⟩
  else .error (if cs.length = 1 then .badCharacter else .badForm)

def readAbsolute (cs : List Char) : Except TargetFault Target := do
  let (authority, rest) ← splitAuthority cs
  if authority.isEmpty then .error .badForm else readPath rest

/-- The most octets that a target may have. -/
def longest : Nat := 65534

def read (text : String) : Except TargetFault Target :=
  if longest < text.utf8ByteSize then .error .tooLong
  else
    match text.toList with
    | [] => .error .empty
    | ['*'] => .ok ⟨['*'], ""⟩
    | '/' :: cs => readPath ('/' :: cs)
    | cs => do
      match ← dropScheme cs with
      | some rest => readAbsolute rest
      | none => readAuthority cs

end Target
end TableQuery.Http
