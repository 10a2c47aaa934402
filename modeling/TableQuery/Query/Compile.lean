import TableQuery.Query.Basic
import TableQuery.Request

/-! The request a query becomes.

Parameters come in a fixed order: the selection, the filters, the cursor's filter, what the relations
add, the order, the window. Faults are looked for in a fixed order too, the recorded one first. -/
namespace TableQuery

/-- A computation whose fault is put into words. -/
def orError {α : Type} : Except Fault α → Except Error α
  | .ok a => .ok a
  | .error f => .error f.toError

namespace Query

/-- The mode a query is read in when none is given. -/
def mode (q : Query) : Mode := if q.head then .count else .many

def schemaHeader (q : Query) : List Param :=
  match q.schema with
  | some s => [("Accept-Profile", s)]
  | none => []

def countHeader (q : Query) : List Param :=
  match q.count with
  | some c => [("Prefer", "count=" ++ c.name)]
  | none => []

def renderedPagination (q : Query) : Except Fault Pagination.Rendered :=
  match q.pagination with
  | some p => p.render q.order
  | none => .ok .empty

/-- The table and every embedded resource. -/
def tables (q : Query) : List String := Relation.resourcesFrom [q.table] q.relations

def compileAs (q : Query) (mode : Mode) : Except Error Request := do
  match q.fault with
  | some e => .error e
  | none => .ok ()
  if !isIdentifier q.table then .error (Fault.invalidTable q.table).toError
  if q.head && mode != .count then .error (Fault.headInMode mode.name).toError
  match Relation.faults? q.relations with
  | some e => .error e
  | none => .ok ()
  let select ← Select.compile q.select q.relations
  let filters ← orError (Filter.params "" q.filters)
  let window ← orError q.renderedPagination
  let cursor ← orError (Filter.params "" window.filter.toList)
  let hoisted ← orError (Relation.hoist q.relations)
  let order := SortKey.renderAll? (q.order ++ window.order)
  .ok {
    table := q.table
    schema := q.schema
    method := if mode = .count then .head else .get
    mode := mode
    params := (select.toList.map fun s => ("select", s)) ++ filters ++ cursor ++ hoisted ++
      (order.toList.map fun o => ("order", o)) ++ window.params
    headers := window.headers ++ q.schemaHeader ++ q.countHeader
    body := none
    tables := q.tables }

def compile (q : Query) : Except Error Request := q.compileAs q.mode

end Query
end TableQuery
