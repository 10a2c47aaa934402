import TableQuery.Filter
import TableQuery.Identifier
import TableQuery.Order

/-! Related resources embedded in a read.

A relation names a resource, how it is joined, and what is asked of it: columns, filters, order and a
window, and relations of its own. Its head `alias:name!hint!inner` stands in the selection
(`Embedding.head`, read back by `Relation.parse`); its filters, order and window become parameters of
the whole request, named by the dotted path of the relations' keys (`Relation.hoist`). -/
namespace TableQuery

/-- Whether a row without related rows is dropped or kept. -/
inductive Join where
  | inner
  | left
deriving Repr, DecidableEq

/-- One embedded resource, without the relations below it. -/
structure Embedding where
  name : String
  alias? : Option String
  join : Join
  /-- The foreign key to join by, where several could be meant. -/
  hint? : Option String
  columns : List String
  filters : List Filter
  order : List SortKey
  limit : Option UInt64
  offset : Option UInt64
  /-- The first thing wrong with how it was described. -/
  fault : Option Error

inductive Relation where
  | node (embedding : Embedding) (children : List Relation)

namespace Embedding

def ofName (name : String) : Embedding where
  name := name
  alias? := none
  join := .left
  hint? := none
  columns := []
  filters := []
  order := []
  limit := none
  offset := none
  fault := none

/-- The name its rows appear under. -/
def key (e : Embedding) : String := e.alias?.getD e.name

/-- `alias:name!hint!inner`, each part only where it is given. -/
def head (e : Embedding) : String :=
  (match e.alias? with
    | some a => a ++ ":"
    | none => "") ++
  e.name ++
  (match e.hint? with
    | some h => "!" ++ h
    | none => "") ++
  (if e.join = .inner then "!inner" else "")

/-- Records a fault, unless one was recorded before. -/
def reject (e : Embedding) (error : Error) : Embedding := { e with fault := e.fault.or (some error) }

end Embedding

namespace Relation

def embedding : Relation → Embedding
  | .node e _ => e

def children : Relation → List Relation
  | .node _ cs => cs

def ofName (name : String) : Relation := .node (.ofName name) []

def map (f : Embedding → Embedding) : Relation → Relation
  | .node e cs => .node (f e) cs

/-- Adds a relation below another. -/
def embed (parent child : Relation) : Relation :=
  match parent with
  | .node e cs => .node e (cs ++ [child])

def key (r : Relation) : String := r.embedding.key

/-! ### Reading a head -/

def equalsIgnoringCase (cs : List Char) (word : String) : Bool :=
  cs.map Char.toLower == word.toList

/-- Reads the hints after a name: how to join, any number of times, the last counting, and at most one
foreign key. -/
def readHints (raw : String) : List (List Char) → Embedding → Except Fault Embedding
  | [], e => .ok e
  | h :: hs, e =>
    let hint := Text.trim h
    if equalsIgnoringCase hint "inner" then readHints raw hs { e with join := .inner }
    else if equalsIgnoringCase hint "left" then readHints raw hs { e with join := .left }
    else if isIdentifierText hint && e.hint?.isNone then
      readHints raw hs { e with hint? := some (String.ofList hint) }
    else .error (.unexpectedHint (String.ofList hint) raw)

/-- Reads `alias:name!hint!inner`, blanks allowed around each part. -/
def parse (text : String) : Except Fault Relation :=
  let raw := Text.trim text.toList
  let (alias?, rest) := match Text.cut ':' raw with
    | some (a, rest) => (some (Text.trim a), Text.trim rest)
    | none => (none, raw)
  let parts := Text.pieces '!' rest
  let name := Text.trim (parts.headD [])
  let shown := String.ofList raw
  if !isIdentifierText name then .error (.invalidRelationName shown)
  else if alias?.any fun a => !isIdentifierText a then .error (.invalidRelationAlias shown)
  else
    let e := { Embedding.ofName (String.ofList name) with alias? := alias?.map String.ofList }
    (readHints shown parts.tail e).map fun e => .node e []

/-! ### Over a whole forest -/

mutual

/-- The first fault recorded in a relation or below it. -/
def fault? : Relation → Option Error
  | .node e cs => e.fault.or (faults? cs)

def faults? : List Relation → Option Error
  | [] => none
  | r :: rs => (fault? r).or (faults? rs)

end

mutual

/-- The parameters of a relation and those below it, named behind the path of their parent. -/
def hoistOne (parent : String) : Relation → Except Fault (List Param)
  | .node e cs => do
    let path := parent ++ e.key ++ "."
    let filters ← Filter.params path e.filters
    let order := match SortKey.renderAll? e.order with
      | some keys => [(path ++ "order", keys)]
      | none => []
    let limit := match e.limit with
      | some n => [(path ++ "limit", toString n)]
      | none => []
    let offset := match e.offset with
      | some n => [(path ++ "offset", toString n)]
      | none => []
    let below ← hoistAll path cs
    .ok (filters ++ order ++ limit ++ offset ++ below)

def hoistAll (parent : String) : List Relation → Except Fault (List Param)
  | [] => .ok []
  | r :: rs => do
    let first ← hoistOne parent r
    let others ← hoistAll parent rs
    .ok (first ++ others)

end

/-- The filters, orders and windows of a whole forest as request parameters, depth first. -/
def hoist (rs : List Relation) : Except Fault (List Param) := hoistAll "" rs

def insertNew (name : String) (names : List String) : List String :=
  if names.contains name then names else names ++ [name]

mutual

def resourcesOne (known : List String) : Relation → List String
  | .node e cs => resourcesFrom (insertNew e.name known) cs

/-- The names known so far, followed by the new ones of a forest, depth first. -/
def resourcesFrom (known : List String) : List Relation → List String
  | [] => known
  | r :: rs => resourcesFrom (resourcesOne known r) rs

end

end Relation
end TableQuery
