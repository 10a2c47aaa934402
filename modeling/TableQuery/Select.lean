import TableQuery.Relation

/-! What a read asks to be returned.

A select item is an expression with an optional alias, and the path of relation keys that leads to the
resource it belongs to. `Select.compile` puts every item on the level its path names, the root or a
declared relation, and writes the levels inside one another. It fails on a path that no chain of
relations follows, and on a level where two names would collide. -/
namespace TableQuery

structure SelectItem where
  expression : String
  alias? : Option String
  path : List String
deriving Repr, DecidableEq

namespace SelectItem

/-! ### Reading an item -/

/-- The nesting depth after a character. -/
def nest (depth : Int) (c : Char) : Int :=
  if c = '(' then depth + 1 else if c = ')' then depth - 1 else depth

def isAsciiLetter (c letter : Char) : Bool := c.toLower == letter

/-- The texts before and after the last ` AS `, in any letter case, that stands outside brackets and
quotes. The blank after the keyword stays with the second text. -/
def lastAs (depth : Int) (quoted : Bool) : List Char → Option (List Char × List Char)
  | [] => none
  | c :: cs =>
    let later := lastAs (if quoted then depth else nest depth c) (if c = '"' then !quoted else quoted) cs
    match later with
    | some (before, after) => some (c :: before, after)
    | none =>
      if depth = 0 ∧ !quoted ∧ Text.isAsciiBlank c then
        match cs with
        | a :: s :: b :: d :: rest =>
          if isAsciiLetter a 'a' && isAsciiLetter s 's' && Text.isAsciiBlank b then
            some ([], b :: d :: rest)
          else none
        | _ => none
      else none

/-- The texts before and after the first single colon outside brackets; double colons are casts. -/
def aliasColon (depth : Int) : List Char → Option (List Char × List Char)
  | [] => none
  | [c] => if c = ':' ∧ depth = 0 then some ([], []) else none
  | c :: d :: cs =>
    if c = ':' ∧ depth = 0 then
      if d = ':' then (aliasColon depth cs).map fun r => (c :: d :: r.1, r.2)
      else some ([], d :: cs)
    else (aliasColon (nest depth c) (d :: cs)).map fun r => (c :: r.1, r.2)

/-- An expression and its alias, written `expression AS alias` or `alias:expression`. -/
def splitAlias (raw : List Char) : List Char × Option (List Char) :=
  let byKeyword := (lastAs 0 false raw).bind fun r =>
    let name := Text.trim r.2
    if name.isEmpty then none else some (Text.trim r.1, some name)
  match byKeyword with
  | some r => r
  | none =>
    match aliasColon 0 raw with
    | some (name, expression) => (Text.trim expression, some (Text.trim name))
    | none => (raw, none)

/-- The relation path of an expression and what is left of it. Computed expressions and paths into
documents are never cut, nor is a text with an empty segment. -/
def splitPath (expression : List Char) : List (List Char) × List Char :=
  if expression.contains '(' || Text.containsWord ['-', '>'] expression then ([], expression)
  else
    let (base, cast) := match Text.cutOn [':', ':'] expression with
      | some (base, type) => (base, ':' :: ':' :: type)
      | none => (expression, [])
    let segments := Text.pieces '.' base
    if segments.length < 2 || segments.any fun s => (Text.trim s).isEmpty then ([], expression)
    else (segments.dropLast, segments.getLastD [] ++ cast)

/-- Reads `column`, `expression AS alias`, `alias:expression`, and dotted `relation.column` paths. -/
def parse (text : String) : Except Fault SelectItem :=
  let raw := Text.trim text.toList
  if raw.isEmpty then .error .emptySelectItem
  else
    let (expression, alias?) := splitAlias raw
    if expression.isEmpty then .error (.missingExpression (String.ofList raw))
    else
      match alias?.filter fun a => !isIdentifierText a with
      | some a => .error (.invalidAlias (String.ofList a) (String.ofList raw))
      | none =>
        let (path, expression) := splitPath expression
        .ok { expression := String.ofList expression
              alias? := alias?.map String.ofList
              path := path.map String.ofList }

def column (expression : String) : SelectItem := ⟨expression, none, []⟩

/-! ### Names and text -/

def isQuote (c : Char) : Bool := c == '\'' || c == '"'

/-- The key an item has in each row: its alias, else its column without a cast, or the last key of a
path into a document. Unknown for `*` and for computed expressions. -/
def outputName? (item : SelectItem) : Option String :=
  match item.alias? with
  | some a => some a
  | none =>
    let expression := item.expression.toList
    let base := match Text.cutOn [':', ':'] expression with
      | some (base, _) => base
      | none => expression
    let key := (Text.afterLast ['-', '>'] base).dropWhile (· == '>')
    let key := Text.trimWhile isQuote key
    if isIdentifierText key then some (String.ofList key) else none

/-- `alias:expression`, or the expression alone. -/
def render (item : SelectItem) : String :=
  match item.alias? with
  | some a => a ++ ":" ++ item.expression
  | none => item.expression

end SelectItem

namespace Select

/-! ### Levels -/

/-- The items placed on one embedded resource, and the levels below it. -/
inductive Level where
  | node (embedding : Embedding) (items : List SelectItem) (children : List Level)

namespace Level

def key : Level → String
  | .node e _ _ => e.key

mutual

/-- A relation's level before any item is placed: its own columns. -/
def ofRelation : Relation → Level
  | .node e cs => .node e (e.columns.map SelectItem.column) (ofRelations cs)

def ofRelations : List Relation → List Level
  | [] => []
  | r :: rs => ofRelation r :: ofRelations rs

end

end Level

/-- Applies `f` to the first element that satisfies `p`; none if there is no such element or `f` fails
on it. -/
def modifyFirst? {α : Type} (p : α → Bool) (f : α → Option α) : List α → Option (List α)
  | [] => none
  | x :: xs => if p x then (f x).map (· :: xs) else (modifyFirst? p f xs).map (x :: ·)

/-- Adds an item to the level below `levels` that the path leads to. -/
def placeBelow (item : SelectItem) : List String → List Level → Option (List Level)
  | [], _ => none
  | [k], levels =>
    modifyFirst? (fun l => l.key == k)
      (fun | .node e items below => some (.node e (items ++ [{ item with path := [] }]) below)) levels
  | k :: rest, levels =>
    modifyFirst? (fun l => l.key == k)
      (fun | .node e items below => (placeBelow item rest below).map (.node e items ·)) levels

/-- The root's own items, and the levels below it. -/
structure Root where
  items : List SelectItem
  levels : List Level

def Root.place (root : Root) (item : SelectItem) : Except Error Root :=
  if item.path.isEmpty then .ok { root with items := root.items ++ [item] }
  else
    match placeBelow item item.path root.levels with
    | some levels => .ok { root with levels := levels }
    | none => .error (.undeclaredRelation (".".intercalate item.path))

/-- Adds a name to those seen on a level; a second use of it is an error. -/
def claim (seen : List String) (name : String) : Except Error (List String) :=
  if seen.contains name then .error (.duplicateAlias name) else .ok (name :: seen)

def claimItems (seen : List String) (items : List SelectItem) : Except Error (List String) :=
  items.foldlM (fun seen item =>
    match item.outputName? with
    | some name => claim seen name
    | none => .ok seen) seen

mutual

/-- The texts of a level's items and of the levels below it. -/
def renderLevel (items : List SelectItem) (children : List Level) : Except Error (List String) := do
  let seen ← claimItems [] items
  let below ← renderLevels seen children
  .ok (items.map SelectItem.render ++ below)

/-- Each level as `head(…)`; one on which nothing was placed asks for every column. -/
def renderLevels (seen : List String) : List Level → Except Error (List String)
  | [] => .ok []
  | .node e items children :: rest => do
    let seen ← claim seen e.key
    let inner ← renderLevel items children
    let inner := if items.isEmpty then "*" :: inner else inner
    let others ← renderLevels seen rest
    .ok ((e.head ++ "(" ++ ",".intercalate inner ++ ")") :: others)

end

/-- The `select` parameter; nothing where nothing was asked for. The root's own columns are kept when
only relations were named. -/
def compile (items : List SelectItem) (relations : List Relation) : Except Error (Option String) :=
  if items.isEmpty && relations.isEmpty then .ok none
  else do
    let root ← items.foldlM Root.place ⟨[], Level.ofRelations relations⟩
    let parts ← renderLevel root.items root.levels
    let parts := if items.all fun i => !i.path.isEmpty then "*" :: parts else parts
    .ok (some (",".intercalate parts))

end Select
end TableQuery
