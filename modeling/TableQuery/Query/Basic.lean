import TableQuery.Duration
import TableQuery.Pagination
import TableQuery.Select

/-! Reads under construction.

A `Query` gathers what is asked of one table. Every step gives a new query, so that one can serve as
a template for others. A step that makes no sense is recorded and reported when the query is compiled;
the first such step counts (`Query.reject`). -/
namespace TableQuery

/-- How the size of the whole result is to be found. -/
inductive CountStrategy where
  | exact
  | planned
  | estimated
deriving Repr, DecidableEq

def CountStrategy.name : CountStrategy → String
  | .exact => "exact"
  | .planned => "planned"
  | .estimated => "estimated"

/-- What a dispatch may do with the cache: use it, leave it alone, or store with another lifetime. -/
inductive CachePolicy where
  | standard
  | bypass
  | lifetime (ttl : Duration)
deriving Repr, DecidableEq

structure Options where
  timeout : Option Duration
  cache : CachePolicy
deriving Repr, DecidableEq

structure Query where
  table : String
  schema : Option String
  select : List SelectItem
  filters : List Filter
  order : List SortKey
  pagination : Option Pagination
  relations : List Relation
  count : Option CountStrategy
  /-- Only the count is wanted. -/
  head : Bool
  /-- A client stands behind the query, so that it can be executed. -/
  bound : Bool
  options : Options
  fault : Option Error

/-- A filter as a step of a query, a write or a relation: ready, or named by an operator's text. -/
inductive Refinement where
  | filters (fs : List Filter)
  | named (column operator : String) (operand : Operand)

/-- The filters a step adds. -/
def Refinement.resolve : Refinement → Except Fault (List Filter)
  | .filters fs => .ok fs
  | .named column operator operand => do
    let (op, negated) ← Operator.parse operator
    let test := Filter.test column op operand
    .ok [if negated then .not test else test]

def Embedding.refine (e : Embedding) (r : Refinement) : Embedding :=
  match r.resolve with
  | .ok fs => { e with filters := e.filters ++ fs }
  | .error fault => e.reject fault.toError

namespace Query

def on (table : String) : Query where
  table := table
  schema := none
  select := []
  filters := []
  order := []
  pagination := none
  relations := []
  count := none
  head := false
  bound := false
  options := ⟨none, .standard⟩
  fault := none

/-- Records a fault, unless one was recorded before. -/
def reject (q : Query) (error : Error) : Query := { q with fault := q.fault.or (some error) }

def refine (q : Query) (r : Refinement) : Query :=
  match r.resolve with
  | .ok fs => { q with filters := q.filters ++ fs }
  | .error fault => q.reject fault.toError

/-- Adds select items up to the first that cannot be read. -/
def selecting (q : Query) : List String → Query
  | [] => q
  | raw :: rest =>
    match SelectItem.parse raw with
    | .ok item => { q with select := q.select ++ [item] }.selecting rest
    | .error fault => q.reject fault.toError

/-- Declares relations by their heads up to the first that cannot be read. -/
def relating (q : Query) : List String → Query
  | [] => q
  | raw :: rest =>
    match Relation.parse raw with
    | .ok r => { q with relations := q.relations ++ [r] }.relating rest
    | .error fault => q.reject fault.toError

def relate (q : Query) (r : Relation) : Query := { q with relations := q.relations ++ [r] }

def orderBy (q : Query) (key : SortKey) : Query := { q with order := q.order ++ [key] }

def conflict (q : Query) (requested : String) (existing : Pagination) : Query :=
  q.reject (Fault.paginationConflict requested existing.name).toError

def paginated (q : Query) (p : Pagination) : Query := { q with pagination := some p }

def limit (q : Query) (n : UInt64) : Query :=
  match q.pagination with
  | none => q.paginated (.window 0 (some n))
  | some (.window offset _) => q.paginated (.window offset (some n))
  | some (.cursor c) => q.paginated (.cursor { c with limit := some n })
  | some p => q.conflict "limit" p

def offset (q : Query) (n : UInt64) : Query :=
  match q.pagination with
  | none => q.paginated (.window n none)
  | some (.window _ limit) => q.paginated (.window n limit)
  | some p => q.conflict "offset" p

def page (q : Query) (number size : UInt64) : Query :=
  match q.pagination with
  | none | some (.page _ _) => q.paginated (.page number size)
  | some p => q.conflict "page" p

def range (q : Query) (first last : UInt64) : Query :=
  match q.pagination with
  | none | some (.range _ _) => q.paginated (.range first last)
  | some p => q.conflict "range" p

/-- A cursor keeps a limit set before it, and goes with no offset but zero. -/
def cursor (q : Query) (column : String) (value : Scalar) (direction : Direction) : Query :=
  let start (limit : Option UInt64) :=
    q.paginated (.cursor ⟨column, value, direction, limit, none⟩)
  match q.pagination with
  | none => start none
  | some (.window offset limit) =>
    if offset = 0 then start limit else q.conflict "cursor" (.window offset limit)
  | some (.cursor c) => start c.limit
  | some p => q.conflict "cursor" p

def tiebreaker (q : Query) (column : String) (value : Scalar) : Query :=
  match q.pagination with
  | some (.cursor c) => q.paginated (.cursor { c with tiebreaker := some (column, value) })
  | _ => q.reject Fault.tiebreakerWithoutCursor.toError

def counted (q : Query) (strategy : CountStrategy) : Query := { q with count := some strategy }

/-- Asks for the count alone, an exact one unless another was chosen. -/
def headOnly (q : Query) : Query :=
  { q with head := true, count := q.count.or (some .exact) }

def inSchema (q : Query) (schema : String) : Query := { q with schema := some schema }

def timeout (q : Query) (d : Duration) : Query :=
  { q with options := { q.options with timeout := some d } }

def caching (q : Query) (policy : CachePolicy) : Query :=
  { q with options := { q.options with cache := policy } }

theorem fault_reject_of_some {q : Query} {e : Error} (h : q.fault = some e) (e' : Error) :
    (q.reject e').fault = some e := by
  simp [reject, h]

end Query
end TableQuery
