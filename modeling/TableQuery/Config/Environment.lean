import TableQuery.Text.Blank
import TableQuery.Text.Cut
import TableQuery.Text.Letter

/-! Environment variables, and files that hold some.

A file is made of entries, `KEY=VALUE`, with an optional `export` before it and a comment behind it. An
entry is a line, or several where a quote or an escape is open at the end of one. A value may refer to
variables, `$NAME` or `${NAME}`; one that is not set is empty. A file never changes a variable that is
set, be it by the environment or by an earlier entry. An entry that cannot be read ends the file; what
stands before it counts. -/
namespace TableQuery.Environment

abbrev Variables := List (String × String)

def get? (vars : Variables) (name : String) : Option String :=
  (vars.find? fun v => v.1 == name).map Prod.snd

/-- Sets a variable unless it is set. -/
def define (vars : Variables) (name value : String) : Variables :=
  if (get? vars name).isSome then vars else vars ++ [(name, value)]

theorem get?_define_of_some {vars : Variables} {name value : String} (h : get? vars name = some value)
    (other : String) : define vars name other = vars := by
  simp [define, h]

/-! ### Entries -/

/-- Where the reading of an entry is. -/
inductive Place where
  | plain
  | blank
  | escape
  | single
  | singleEscape
  | double
  | doubleEscape
deriving Repr, DecidableEq

/-- Outside of quotes, what a character leads to. -/
def Place.outside (c : Char) : Option Place :=
  match c with
  | '\\' => some .escape
  | '"' => some .double
  | '\'' => some .single
  | _ => none

/-- Where a character leads; behind a blank, a number sign begins a comment and leads nowhere. -/
def Place.step (p : Place) (c : Char) : Option Place :=
  match p with
  | .blank => if c = '#' then none else some ((outside c).getD .plain)
  | .plain =>
    if Text.isBlank c && c != '\n' && c != '\r' then some .blank else some ((outside c).getD .plain)
  | .escape => some .plain
  | .single => some (if c = '\\' then .singleEscape else if c = '\'' then .plain else .single)
  | .singleEscape => some .single
  | .double => some (if c = '\\' then .doubleEscape else if c = '"' then .plain else .double)
  | .doubleEscape => some .double

/-- Goes along a line: what belongs to the entry, and where it ends, if not in a comment. -/
def walk (p : Place) : List Char → List Char × Option Place
  | [] => ([], some p)
  | c :: cs =>
    match p.step c with
    | none => ([], none)
    | some p =>
      let r := walk p cs
      (c :: r.1, r.2)

/-- The entries of a list of lines, each with its line end; one that is not whole at the end is none.
`begun` is what there is of an entry from lines before. -/
def entries (begun : List Char) (p : Place) : List (List Char) → List (List Char)
  | [] => []
  | line :: lines =>
    if ((begun ++ line).dropWhile Text.isBlank).head? = some '#' then entries [] .plain lines
    else
      let (text, stop) := walk p line
      match stop with
      | none | some .plain => (begun ++ text) :: entries [] .plain lines
      | some p => entries (begun ++ text) p lines

/-- The lines of a text, each with its line end. -/
def linesOf (cs : List Char) : List (List Char) :=
  match (Text.pieces '\n' cs).reverse with
  | [] => []
  | last :: others =>
    (others.reverse.map fun l => l ++ ['\n']) ++ (if last.isEmpty then [] else [last])

/-! ### Values -/

def isSpaceOrTab (c : Char) : Bool := c == ' ' || c == '\t'

/-- What a backslash and a character stand for. -/
def escaped? (c : Char) : Option Char :=
  if c = 'n' then some '\n'
  else if ['\\', '\'', '"', '$', ' '].contains c then some c
  else none

/-- What the reading of a value is inside of. -/
inductive Quoting where
  | bare
  | single
  | double
  /-- Behind the value, where only a comment may come. -/
  | past
deriving Repr, DecidableEq

/-- A reference that is being read: its name so far, backwards, and whether it is in braces. -/
structure Reference where
  name : List Char
  braced : Bool
deriving Repr, DecidableEq

/-- The value of what a reference refers to. -/
def Reference.value (vars : Variables) (r : Reference) : List Char :=
  ((get? vars (String.ofList r.name.reverse)).getD "").toList

/-- Reads a value; quotes may open and close anywhere in it. What ends a reference without braces stands
for itself. -/
def readValue? (vars : Variables) (q : Quoting) (r : Option Reference) : List Char → Option (List Char)
  | [] =>
    if q = .single ∨ q = .double ∨ r.any (·.braced) then none
    else some ((r.map (·.value vars)).getD [])
  | c :: cs =>
    match q, r with
    | .past, _ =>
      if isSpaceOrTab c then readValue? vars .past none cs else if c = '#' then some [] else none
    | .single, _ =>
      if c = '\'' then readValue? vars .bare none cs else (readValue? vars .single none cs).map (c :: ·)
    | q, some r =>
      if Text.isLetter c || Text.isNumeral c then readValue? vars q (some { r with name := c :: r.name }) cs
      else if r.braced then
        if c = '\x7d' then (readValue? vars q none cs).map (r.value vars ++ ·)
        else readValue? vars q (some { r with name := c :: r.name }) cs
      else if c = '\x7b' ∧ r.name.isEmpty then readValue? vars q (some ⟨[], true⟩) cs
      else if c = '$' then (readValue? vars q (some ⟨[], false⟩) cs).map (r.value vars ++ ·)
      else (readValue? vars q none cs).map fun rest => r.value vars ++ c :: rest
    | q, none =>
      if c = '$' then readValue? vars q (some ⟨[], false⟩) cs
      else if c = '\\' then
        match cs with
        | d :: ds => (escaped? d).bind fun e => (readValue? vars q none ds).map (e :: ·)
        | [] => if q = .double then none else some []
      else if q = .double then
        if c = '"' then readValue? vars .bare none cs else (readValue? vars q none cs).map (c :: ·)
      else if c = '\'' then readValue? vars .single none cs
      else if c = '"' then readValue? vars .double none cs
      else if isSpaceOrTab c then readValue? vars .past none cs
      else (readValue? vars q none cs).map (c :: ·)

/-! ### Keys -/

def isKeyStart (c : Char) : Bool := c.isAlpha || c == '_'

def isKeyChar (c : Char) : Bool := c.isAlphanum || c == '_' || c == '.'

/-- The key an entry begins with, and what follows it and the blanks behind it. -/
def readKey? (entry : List Char) : Option (String × List Char) :=
  match entry with
  | c :: _ =>
    if isKeyStart c then
      some (String.ofList (entry.takeWhile isKeyChar), (entry.dropWhile isKeyChar).dropWhile Text.isBlank)
    else none
  | [] => none

/-- A variable and its value; the word `export` may precede it. -/
def readEntry? (vars : Variables) (entry : List Char) : Option (String × String) := do
  let (key, rest) ← readKey? entry
  let (key, rest) ← if key = "export" && rest.head? != some '=' then readKey? rest else some (key, rest)
  match rest with
  | '=' :: rest =>
    let rest := rest.dropWhile Text.isBlank
    let value ← if rest.head? = some '#' then some [] else readValue? vars .bare none rest
    some (key, String.ofList value)
  | _ => none

/-- Takes the entries in, up to the first that cannot be read. -/
def defineEntries (vars : Variables) : List (List Char) → Variables
  | [] => vars
  | entry :: others =>
    let entry := Text.trim entry
    if entry.isEmpty || entry.head? = some '#' then defineEntries vars others
    else match readEntry? vars entry with
      | some (name, value) => defineEntries (define vars name value) others
      | none => vars

/-- Takes in a file of variables. -/
def defineFile (vars : Variables) (text : String) : Variables :=
  let cs := match text.toList with
    | '\ufeff' :: cs => cs
    | cs => cs
  defineEntries vars (entries [] .plain (linesOf cs))

end TableQuery.Environment
