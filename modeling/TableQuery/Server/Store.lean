import TableQuery.Json.Reader
import TableQuery.Server.Params
import TableQuery.Server.Rows

/-! The tables behind the server, read and written.

A table is its rows in the order they were stored and the columns any of them ever had; one without
columns takes every name for a column. A foreign key is a column that holds the `id` of a row of
another table, and rows are embedded along it in either direction.

Reading keeps the store (`read`). A write gives its answer and the store it leaves, for a write can be
turned down after it has changed rows. Neither has an answer where a number leaves the 64 bits it is kept in:
the length of a range (`Params.checkWindow`) or the key after the greatest (`checkKey`). -/
namespace TableQuery.Server

structure Table where
  columns : List String
  rows : List Row

/-- The column that foreign keys point at. -/
def keyColumn : String := "id"

/-- A column of a table that holds keys of another. -/
structure ForeignKey where
  table : String
  column : String
  references : String
deriving Repr, DecidableEq

structure Store where
  tables : List (String × Table)
  foreignKeys : List ForeignKey

/-- What the server answers when it does what it was asked. -/
structure Reply where
  status : Nat
  contentRange : Option String
  body : Option Json

namespace Table

/-- Adds the names that are not among the columns yet. -/
def mergeColumns (columns names : List String) : List String :=
  names.foldl (fun cs n => if cs.contains n then cs else cs ++ [n]) columns

def ofRows (rows : List Row) : Table :=
  ⟨mergeColumns [] (rows.flatMap Fields.names), rows⟩

/-- A table made of an array of objects; anything else is told to whoever sets the table up. -/
def ofJson (name : String) : Json → Except String Table
  | .arr items => do
    let rows ← items.mapM fun item => match item with
      | .obj row => .ok row
      | other => .error ("table '" ++ name ++ "': row is not an object: " ++ other.render)
    .ok (ofRows rows)
  | other => .error ("table '" ++ name ++ "': expected an array of rows, got " ++ other.render)

/-- Adds a row, and what columns it brings. -/
def push (t : Table) (row : Row) : Table :=
  ⟨mergeColumns t.columns row.names, t.rows ++ [row]⟩

def accepts (t : Table) (column : String) : Bool :=
  t.columns.isEmpty || t.columns.contains column

end Table

namespace Store

def empty : Store := ⟨[], []⟩

def table? (s : Store) (name : String) : Option Table :=
  (s.tables.find? fun t => t.1 == name).map Prod.snd

def table (s : Store) (name : String) : Except Rejection Table :=
  match s.table? name with
  | some t => .ok t
  | none => .error (.unknownTable name)

def putTable (name : String) (t : Table) : List (String × Table) → List (String × Table)
  | [] => [(name, t)]
  | (k, u) :: rest => if k = name then (name, t) :: rest else (k, u) :: putTable name t rest

/-- Creates a table, or replaces it. -/
def insertTable (s : Store) (name : String) (t : Table) : Store :=
  { s with tables := putTable name t s.tables }

theorem table?_insertTable_self (s : Store) (name : String) (t : Table) :
    (s.insertTable name t).table? name = some t := by
  have h (l : List (String × Table)) :
      (putTable name t l).find? (fun e => e.1 == name) = some (name, t) := by
    induction l with
    | nil => simp [putTable]
    | cons e rest ih =>
      unfold putTable
      by_cases hk : e.1 = name
      · simp [hk]
      · simp [hk, ih]
  unfold table? insertTable
  rw [h]
  rfl

/-- Puts other rows into a table that exists. -/
def setRows (s : Store) (name : String) (t : Table) (rows : List Row) : Store :=
  s.insertTable name { t with rows := rows }

/-- The rows of a table in their order; none if there is no such table. -/
def rows (s : Store) (name : String) : List Row := ((s.table? name).map Table.rows).getD []

/-- Adds a row to a table, if there is one. -/
def insertRow (s : Store) (name : String) (row : Row) : Store :=
  match s.table? name with
  | some t => s.insertTable name (t.push row)
  | none => s

/-! ### Columns -/

/-- Every column that is tested or ordered by has to be one of the table's. -/
def checkColumns (name : String) (t : Table) (conditions : List Condition) (order : List OrderTerm) :
    Except Rejection Unit :=
  let used := Condition.columnsOf conditions ++ order.map OrderTerm.column
  match used.find? fun c => !t.accepts c with
  | some column => .error (.unknownColumn name column)
  | none => .ok ()

def checkPayload (name : String) (t : Table) (row : Row) : Except Rejection Unit :=
  match row.names.find? fun c => !t.accepts c with
  | some column => .error (.unknownPayloadColumn name column)
  | none => .ok ()

/-! ### Embedded resources -/

/-- Along which key, and in which direction, a resource is embedded. -/
inductive Link where
  /-- Rows of the child point at the parent. -/
  | toMany (key : ForeignKey)
  /-- The parent points at one row of the child. -/
  | toOne (key : ForeignKey)
deriving Repr, DecidableEq

def Link.ofKey? (parent child : String) (key : ForeignKey) : Option Link :=
  if key.table = child ∧ key.references = parent then some (.toMany key)
  else if key.table = parent ∧ key.references = child then some (.toOne key)
  else none

/-- The one link between two tables, along the hinted column if there is a hint. -/
def link (s : Store) (parent child : String) (hint : Option String) : Except Rejection Link :=
  let keys := s.foreignKeys.filter fun k => hint.all (· == k.column)
  match keys.filterMap (Link.ofKey? parent child) with
  | [] => .error (.noLink parent child)
  | [l] => .ok l
  | _ => .error (.ambiguousLink parent child)

/-- Whether the pointing row has a value in the column, the very key of the other. -/
def points (column : String) (pointing other : Row) : Bool :=
  match Fields.get? column pointing, Fields.get? keyColumn other with
  | some v, some k => v == k
  | _, _ => false

def Link.joins (l : Link) (parent child : Row) : Bool :=
  match l with
  | .toMany key => points key.column child parent
  | .toOne key => points key.column parent child

/-! ### Reading -/

def childPath (parent key : String) : String :=
  if parent.isEmpty then key else parent ++ "." ++ key

def paginate {α : Type} (items : List α) (window : UInt64 × Option UInt64) : List α :=
  let rest := items.drop window.1.toNat
  match window.2 with
  | some n => rest.take n.toNat
  | none => rest

def castCell (cast : Option String) (cell : Json) : Json :=
  match cast, cell with
  | some "text", .null => .null
  | some "text", v => .str v.toText
  | _, v => v

/-- The rows of a table that pass what is asked at a path, in the order asked for. -/
def matching (name : String) (t : Table) (rows : List Row) (scope : Scope) :
    Except Rejection (List Row) := do
  checkColumns name t scope.conditions scope.order
  let kept ← Params.orSyntax (select scope.conditions rows)
  .ok (sortRows scope.order kept)

/-- The child rows that a parent row embeds. -/
def related (s : Store) (p : Params) (path parent child : String) (hint : Option String) (row : Row) :
    Except Halt (Link × List Row) := do
  let l ← orRefusal (s.link parent child hint)
  let t ← orRefusal (s.table child)
  let kept ← orRefusal (matching child t (t.rows.filter fun c => l.joins row c) (p.scope path))
  p.checkWindow path
  .ok (l, paginate kept (p.window path))

/-- What is embedded: all rows, or the first where there can be only one. -/
def Link.embedded (l : Link) (rows : List Json) : Json :=
  match l with
  | .toMany _ => .arr rows
  | .toOne _ => rows.headD .null

def isEmptyEmbed : Json → Bool
  | .null => true
  | .arr [] => true
  | _ => false

mutual

/-- Adds what one item of a selection returns; none if an inner resource has no rows. -/
def projectItem (s : Store) (p : Params) (path name : String) (row : Row) (out : Fields) :
    Projection → Except Halt (Option Fields)
  | .star => .ok (some (out.extend row))
  | .column key column cast => do
    let t ← orRefusal (s.table name)
    if t.accepts column then .ok (some (out.insert key (castCell cast (row.cell column))))
    else .error (.refused (.unknownColumn name column))
  | .embed key child hint inner items => do
    let path := childPath path key
    let (l, rows) ← s.related p path name child hint row
    let projected ← rows.filterMapM fun c => do
      let fields ← projectItems s p path child c [] items
      .ok (fields.map Json.obj)
    let value := l.embedded projected
    .ok (if inner && isEmptyEmbed value then none else some (out.insert key value))

def projectItems (s : Store) (p : Params) (path name : String) (row : Row) (out : Fields) :
    List Projection → Except Halt (Option Fields)
  | [] => .ok (some out)
  | item :: items => do
    match ← projectItem s p path name row out item with
    | some out => projectItems s p path name row out items
    | none => .ok none

end

/-- The rows as the selection asks for them, without those that lack an inner resource. -/
def project (s : Store) (p : Params) (name : String) (rows : List Row) : Except Halt (List Json) :=
  rows.filterMapM fun row => do
    let fields ← s.projectItems p "" name row [] p.items
    .ok (fields.map Json.obj)

/-- `first-last/total`, with a star for an empty range and for a total that was not asked for. -/
def contentRange (offset count : Nat) (total : Option Nat) : String :=
  (if count = 0 then "*" else toString offset ++ "-" ++ toString (offset + count - 1)) ++ "/" ++
    (match total with
    | some n => toString n
    | none => "*")

/-- Reads a table. The total counts all rows that the selection returns, in or out of the window. -/
def read (s : Store) (p : Params) (name : String) (headOnly : Bool) : Except Halt Reply := do
  let t ← orRefusal (s.table name)
  let matched ← orRefusal (matching name t t.rows (p.scope ""))
  let rows ← s.project p name matched
  p.checkWindow ""
  let window := p.window ""
  let page := paginate rows window
  let range := contentRange window.1.toNat page.length (if p.counted then some rows.length else none)
  .ok ⟨200, some range, if headOnly then none else some (.arr page)⟩

/-! ### Writing -/

/-- The answer to a write: the rows if they are to be returned, else nothing. -/
def written (s : Store) (p : Params) (name : String) (full bare : Nat) (affected : List Row) :
    Except Halt Reply :=
  if p.representation then do
    let rows ← s.project p name affected
    .ok ⟨full, none, some (.arr rows)⟩
  else .ok ⟨bare, none, none⟩

def orBody {α : Type} : Except BodyFault α → Except Rejection α
  | .ok a => .ok a
  | .error f => .error (.invalidBody f)

def rowOf : Json → Except BodyFault Row
  | .obj members => .ok members
  | _ => .error .itemNotObject

/-- The rows of a body: one object, or an array of them. -/
def rowsOfBody (body : List UInt8) : Except BodyFault (List Row) :=
  match Json.ofBytes? body with
  | none => .error .notJson
  | some (.obj members) => .ok [members]
  | some (.arr items) => items.mapM rowOf
  | some _ => .error .notRows

def patchOfBody (body : List UInt8) : Except BodyFault Row :=
  match Json.ofBytes? body with
  | none => .error .notJson
  | some (.obj members) => .ok members
  | some _ => .error .notPatch

/-- One more than the greatest key that is a number of 64 bits; one if there is none. -/
def nextKey (rows : List Row) : Int :=
  let keys := rows.filterMap fun r => (Fields.get? keyColumn r).bind Json.asInt64?
  keys.max?.getD 0 + 1

/-- The row has no key, and the table has the column. -/
def lacksKey (t : Table) (row : Row) : Bool := !row.contains keyColumn && t.columns.contains keyColumn

/-- Where a row lacks a key, the next one has to be a number of 64 bits. -/
def checkKey (t : Table) (stored : List Row) (row : Row) : Except Halt Unit :=
  if lacksKey t row && Int64.maxValue.toInt < nextKey stored then .error .overflow else .ok ()

/-- The row with a key of its own where it lacks one. -/
def withKey (t : Table) (stored : List Row) (row : Row) : Row :=
  if lacksKey t row then row.insert keyColumn (.ofInt (nextKey stored)) else row

/-- Whether a stored row has the same value, and not null, in every conflict column. -/
def conflicts (columns : List String) (row stored : Row) : Bool :=
  columns.all fun c =>
    match Fields.get? c stored, Fields.get? c row with
    | some v, some w => !v.isNull && v == w
    | _, _ => false

def conflictValues (columns : List String) (row : Row) : String :=
  ", ".intercalate (columns.map fun c => ((Fields.get? c row).map Json.render).getD "")

/-- The rows a write has put in so far, on the way to replacing the stored ones. -/
structure Staged where
  rows : List Row
  affected : List Row

/-- Puts in one row with its key, or merges it into the first stored row it conflicts with, or passes over it. -/
def Staged.place (name : String) (conflict : List String) (resolution : Option Resolution)
    (staged : Staged) (row : Row) : Except Rejection Staged :=
  match staged.rows.findIdx? (conflicts conflict row), resolution with
  | none, _ => .ok ⟨staged.rows ++ [row], staged.affected ++ [row]⟩
  | some i, some .merge =>
    let merged := (staged.rows.getD i []).extend row
    .ok ⟨staged.rows.set i merged, staged.affected ++ [merged]⟩
  | some _, some .skip => .ok staged
  | some _, none =>
    .error (.duplicateKey name (", ".intercalate conflict) (conflictValues conflict row))

/-- Puts in one row, which is given a key where it lacks one. -/
def Staged.put (name : String) (t : Table) (conflict : List String) (resolution : Option Resolution)
    (staged : Staged) (row : Row) : Except Halt Staged := do
  checkKey t staged.rows row
  orRefusal (staged.place name conflict resolution (withKey t staged.rows row))

/-- The table and what its rows become once every row of the body has gone in. -/
def stage (s : Store) (p : Params) (name : String) (body : List UInt8) :
    Except Halt (Table × Staged) := do
  let incoming ← orRefusal (orBody (rowsOfBody body))
  let t ← orRefusal (s.table name)
  orRefusal (incoming.forM (checkPayload name t))
  let staged ← incoming.foldlM (Staged.put name t (p.conflict.getD [keyColumn]) p.resolution)
    ⟨t.rows, []⟩
  .ok (t, staged)

/-- Inserts the rows of the body. The stored rows are replaced only once every row has gone in. -/
def insert (s : Store) (p : Params) (name : String) (body : List UInt8) :
    Except Halt Reply × Store :=
  match s.stage p name body with
  | .error h => (.error h, s)
  | .ok (t, staged) =>
    let s := s.setRows name t staged.rows
    (s.written p name 201 201 staged.affected, s)

/-- The rows after a patch of those that satisfy the conditions, and the ones patched. A condition that
cannot be tested ends the work there; the rows before it stay patched. -/
def patchRows (conditions : List Condition) (patch : Row) :
    List Row → Except SyntaxFault (List Row) × List Row
  | [] => (.ok [], [])
  | row :: rows =>
    match row.satisfies conditions with
    | .error f => (.error f, row :: rows)
    | .ok false =>
      let (affected, rest) := patchRows conditions patch rows
      (affected, row :: rest)
    | .ok true =>
      let patched := row.extend patch
      let (affected, rest) := patchRows conditions patch rows
      (affected.map (patched :: ·), patched :: rest)

/-- The table and the patch of the body, the columns of the conditions and of the patch being known. -/
def checkUpdate (s : Store) (p : Params) (name : String) (body : List UInt8) :
    Except Rejection (Table × Row) := do
  let patch ← orBody (patchOfBody body)
  let t ← s.table name
  checkColumns name t (p.scope "").conditions []
  checkPayload name t patch
  .ok (t, patch)

/-- Patches the rows that satisfy the root's conditions. -/
def update (s : Store) (p : Params) (name : String) (body : List UInt8) :
    Except Halt Reply × Store :=
  match s.checkUpdate p name body with
  | .error r => (.error (.refused r), s)
  | .ok (t, patch) =>
    let (affected, rows) := patchRows (p.scope "").conditions patch t.rows
    let s := s.setRows name t rows
    match affected with
    | .error f => (.error (.refused (.syntaxFault f)), s)
    | .ok affected => (s.written p name 200 204 affected, s)

/-- The rows that stay and the rows that go. -/
def divide (conditions : List Condition) : List Row → Except SyntaxFault (List Row × List Row)
  | [] => .ok ([], [])
  | row :: rows => do
    let goes ← row.satisfies conditions
    let (kept, gone) ← divide conditions rows
    .ok (if goes then (kept, row :: gone) else (row :: kept, gone))

/-- The table, the columns of the conditions being known. -/
def checkDelete (s : Store) (p : Params) (name : String) : Except Rejection Table := do
  let t ← s.table name
  checkColumns name t (p.scope "").conditions []
  .ok t

/-- Deletes the rows that satisfy the root's conditions. A condition that cannot be tested empties the
table. -/
def delete (s : Store) (p : Params) (name : String) : Except Halt Reply × Store :=
  match s.checkDelete p name with
  | .error r => (.error (.refused r), s)
  | .ok t =>
    match divide (p.scope "").conditions t.rows with
    | .error f => (.error (.refused (.syntaxFault f)), s.setRows name t [])
    | .ok (kept, gone) =>
      let s := s.setRows name t kept
      (s.written p name 200 204 gone, s)

end Store
end TableQuery.Server
