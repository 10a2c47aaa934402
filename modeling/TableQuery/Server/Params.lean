import TableQuery.Decimal.Read
import TableQuery.Http.Message
import TableQuery.Server.Grammar
import TableQuery.Url.Form

/-! What a request asks for.

Parameters are named by the dotted path of the resource they are for, the root's path being empty
(`splitKey`); what is asked of one resource is gathered in its `Scope`. The selection, the conflict
target and the headers are for the request as a whole. A range stands in for the root's window where
no other window was given (`Params.rangeAt?`). How many rows it takes in is a number of 64 bits, but for
the widest range of all (`Params.checkWindow`). -/
namespace TableQuery.Server

/-- What is asked of one resource. -/
structure Scope where
  conditions : List Condition
  order : List OrderTerm
  offset : Option UInt64
  limit : Option UInt64

def Scope.empty : Scope := ⟨[], [], none, none⟩

/-- What to do with a written row that is there already. -/
inductive Resolution where
  | merge
  | skip
deriving Repr, DecidableEq

structure Params where
  select : Option (List Projection)
  scopes : List (String × Scope)
  /-- The columns that make a written row one that is there already. -/
  conflict : Option (List String)
  /-- The first and the last row wanted, counted from zero. -/
  range : Option (UInt64 × UInt64)
  counted : Bool
  /-- Whether a write returns the rows it wrote. -/
  representation : Bool
  resolution : Option Resolution

namespace Params

def empty : Params := ⟨none, [], none, none, false, false, none⟩

def scope (p : Params) (path : String) : Scope :=
  ((p.scopes.find? fun s => s.1 == path).map Prod.snd).getD .empty

def insertScope (path : String) (s : Scope) : List (String × Scope) → List (String × Scope)
  | [] => [(path, s)]
  | (k, t) :: rest => if k = path then (path, s) :: rest else (k, t) :: insertScope path s rest

def modify (p : Params) (path : String) (f : Scope → Scope) : Params :=
  { p with scopes := insertScope path (f (p.scope path)) p.scopes }

theorem find?_insertScope (path : String) (s : Scope) (scopes : List (String × Scope)) :
    (insertScope path s scopes).find? (fun e => e.1 == path) = some (path, s) := by
  induction scopes with
  | nil => simp [insertScope]
  | cons e rest ih =>
    unfold insertScope
    by_cases h : e.1 = path
    · simp [h]
    · simp [h, ih]

theorem scope_modify_self (p : Params) (path : String) (f : Scope → Scope) :
    (p.modify path f).scope path = f (p.scope path) := by
  unfold scope modify
  rw [find?_insertScope]
  rfl

/-! ### Parameters -/

/-- The last parts of a name that are one word in spite of the dot inside. -/
def negatedJunctions : List (List Char) := ["not.or".toList, "not.and".toList]

/-- The path before a last part and its dot, if the name ends in it. -/
def pathBefore? (last key : List Char) : Option (List Char) :=
  if key = last then some []
  else ('.' :: last).reverse.isPrefixOf? key.reverse |>.map List.reverse

/-- The path of the resource a parameter is for, and what it says of that resource. -/
def splitKey (key : List Char) : List Char × List Char :=
  match negatedJunctions.findSome? fun last => (pathBefore? last key).map fun path => (path, last) with
  | some r => r
  | none => (Text.cutLast '.' key).getD ([], key)

def orSyntax {α : Type} : Except SyntaxFault α → Except Rejection α
  | .ok a => .ok a
  | .error f => .error (.syntaxFault f)

def readWord (name value : String) : Except Rejection UInt64 :=
  match Decimal.word64? value with
  | some n => .ok n
  | none => .error (.syntaxFault (.invalidNumber name value))

/-- Takes in what a parameter says of the resource at a path. -/
def putScoped (p : Params) (path name value : String) : Except Rejection Params := do
  let condition (c : Except SyntaxFault Condition) : Except Rejection Params := do
    let c ← orSyntax c
    .ok (p.modify path fun s => { s with conditions := s.conditions ++ [c] })
  match name with
  | "order" =>
    let terms ← orSyntax (parseOrder value.toList)
    .ok (p.modify path fun s => { s with order := s.order ++ terms })
  | "limit" =>
    let n ← readWord name value
    .ok (p.modify path fun s => { s with limit := some n })
  | "offset" =>
    let n ← readWord name value
    .ok (p.modify path fun s => { s with offset := some n })
  | "or" => condition (parseGroup .any false value.toList)
  | "and" => condition (parseGroup .all false value.toList)
  | "not.or" => condition (parseGroup .any true value.toList)
  | "not.and" => condition (parseGroup .all true value.toList)
  | column => condition (parseLeaf column.toList value.toList false)

def put (p : Params) (name value : String) : Except Rejection Params :=
  match name with
  | "select" => do
    let items ← orSyntax (parseSelect value.toList)
    .ok { p with select := some items }
  | "on_conflict" =>
    .ok { p with conflict := some ((Text.piecesOf ',' value).map Text.strip) }
  | "columns" => .ok p
  | _ =>
    let (path, last) := splitKey name.toList
    p.putScoped (String.ofList path) (String.ofList last) value

/-! ### Headers -/

def readRange? (text : String) : Option (UInt64 × UInt64) := do
  let (first, last) ← Text.cut '-' text.toList
  let first ← Decimal.word64? (String.ofList (Text.trim first))
  let last ← Decimal.word64? (String.ofList (Text.trim last))
  if first ≤ last then some (first, last) else none

def putRange (p : Params) (headers : Http.Headers) : Except Rejection Params :=
  match headers.text? "range" with
  | none => .ok p
  | some text =>
    match readRange? text with
    | some range => .ok { p with range := some range }
    | none => .error (.unsatisfiableRange text)

/-- Takes one preference in; unknown ones are passed over. -/
def putPreference (p : Params) (word : String) : Params :=
  match word with
  | "count=exact" | "count=planned" | "count=estimated" => { p with counted := true }
  | "return=representation" => { p with representation := true }
  | "resolution=merge-duplicates" => { p with resolution := some .merge }
  | "resolution=ignore-duplicates" => { p with resolution := some .skip }
  | _ => p

def preferences (headers : Http.Headers) : List String :=
  ((headers.all "prefer").filter Http.isVisible).flatMap fun value =>
    (Text.piecesOf ',' value).map Text.strip

/-- Reads a query string and the headers that go with it. -/
def read (query : String) (headers : Http.Headers) : Except Rejection Params := do
  let p ← (Url.Form.decode query).foldlM (fun p pair => put p pair.1 pair.2) empty
  let p ← p.putRange headers
  .ok ((preferences headers).foldl putPreference p)

/-! ### What was asked -/

/-- The items of the selection; everything where there is none. -/
def items (p : Params) : List Projection := p.select.getD [.star]

/-- The range that stands in for the window at a path: there is one for the root, where it has no other. -/
def rangeAt? (p : Params) (path : String) : Option (UInt64 × UInt64) :=
  let s := p.scope path
  if path.isEmpty && s.offset.isNone && s.limit.isNone then p.range else none

/-- How many rows a range takes in, if so many can be counted. -/
def rangeLength? (range : UInt64 × UInt64) : Option UInt64 :=
  let n := range.2.toNat - range.1.toNat + 1
  if n < UInt64.size then some (.ofNat n) else none

/-- The rows of a range are counted before any is taken. -/
def checkWindow (p : Params) (path : String) : Except Halt Unit :=
  match (p.rangeAt? path).map rangeLength? with
  | some none => .error .overflow
  | _ => .ok ()

/-- How many rows to leave out and how many to keep at most. -/
def window (p : Params) (path : String) : UInt64 × Option UInt64 :=
  match p.rangeAt? path with
  | some range => (range.1, rangeLength? range)
  | none => ((p.scope path).offset.getD 0, (p.scope path).limit)

end Params
end TableQuery.Server
