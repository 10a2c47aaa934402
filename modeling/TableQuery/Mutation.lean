import TableQuery.Query.Compile
import TableQuery.Json.Writer

/-! Writes under construction.

A `Mutation` inserts, updates, upserts or deletes rows of one table. It starts from a query, whose
filters it takes over where the kind of write has filters at all; the rest of the query does not
carry over. The cache is never read or filled by a write. -/
namespace TableQuery

inductive WriteKind where
  | insert
  | update
  /-- Merges rows that conflict on the given columns, or skips them. -/
  | upsert (conflictTarget : List String) (skipConflicts : Bool)
  | delete
deriving Repr, DecidableEq

namespace WriteKind

def method : WriteKind → Method
  | .insert | .upsert _ _ => .post
  | .update => .patch
  | .delete => .delete

def name : WriteKind → String
  | .insert => "insert"
  | .update => "update"
  | .upsert _ _ => "upsert"
  | .delete => "delete"

def takesFilters : WriteKind → Bool
  | .update | .delete => true
  | .insert | .upsert _ _ => false

end WriteKind

structure Mutation where
  table : String
  schema : Option String
  kind : WriteKind
  body : Option Json
  filters : List Filter
  /-- The columns of the written rows to return; `none` returns nothing. -/
  returning : Option (List SelectItem)
  bound : Bool
  options : Options
  fault : Option Error

namespace Mutation

def on (table : String) (kind : WriteKind) : Mutation where
  table := table
  schema := none
  kind := kind
  body := none
  filters := []
  returning := none
  bound := false
  options := ⟨none, .bypass⟩
  fault := none

def reject (m : Mutation) (error : Error) : Mutation := { m with fault := m.fault.or (some error) }

def refine (m : Mutation) (r : Refinement) : Mutation :=
  match r.resolve with
  | .ok fs => { m with filters := m.filters ++ fs }
  | .error fault => m.reject fault.toError

/-- Reads the columns to return; if one cannot be read, none is set. -/
def returningColumns (m : Mutation) (columns : List String) : Mutation :=
  match columns.mapM SelectItem.parse with
  | .ok items => { m with returning := some items }
  | .error fault => m.reject fault.toError

def onConflict (m : Mutation) (columns : List String) : Mutation :=
  match m.kind with
  | .upsert target skip => { m with kind := .upsert (target ++ columns) skip }
  | kind => m.reject (Fault.conflictTargetNotTaken kind.name).toError

def ignoreDuplicates (m : Mutation) : Mutation :=
  match m.kind with
  | .upsert target _ => { m with kind := .upsert target true }
  | kind => m.reject (Fault.skippingNotTaken kind.name).toError

def inSchema (m : Mutation) (schema : String) : Mutation := { m with schema := some schema }

def timeout (m : Mutation) (d : Duration) : Mutation :=
  { m with options := { m.options with timeout := some d } }

/-- The body a request carries: an object, or a non-empty array of objects where several rows may be
written; a delete has none. -/
def checkedBody (m : Mutation) : Except Fault (Option Json) :=
  match m.kind, m.body with
  | .delete, _ => .ok none
  | _, some (.obj members) => .ok (some (.obj members))
  | kind, some (.arr (row :: rows)) =>
    if !(row :: rows).all Json.isObject then .error (.rowsNotObjects kind.name)
    else if kind = .update then .error .patchNotObject
    else .ok (some (.arr (row :: rows)))
  | .update, _ => .error .patchNotObject
  | kind, _ => .error (.bodyNotRows kind.name)

def preferReturn (m : Mutation) : String :=
  if m.returning.isSome then "return=representation" else "return=minimal"

/-- How conflicts are resolved, and the parameter that names their columns. -/
def conflictParts (m : Mutation) : List String × List Param :=
  match m.kind with
  | .upsert target skip =>
    ([if skip then "resolution=ignore-duplicates" else "resolution=merge-duplicates"],
      if target.isEmpty then [] else [("on_conflict", ",".intercalate target)])
  | _ => ([], [])

def schemaHeader (m : Mutation) : List Param :=
  match m.schema with
  | some s => [("Content-Profile", s)]
  | none => []

def compile (m : Mutation) : Except Error Request := do
  match m.fault with
  | some e => .error e
  | none => .ok ()
  if !isIdentifier m.table then .error (Fault.invalidTable m.table).toError
  let body ← orError m.checkedBody
  let select ← Select.compile (m.returning.getD []) []
  let filters ← orError (Filter.params "" m.filters)
  let (resolution, target) := m.conflictParts
  .ok {
    table := m.table
    schema := m.schema
    method := m.kind.method
    mode := .many
    params := (select.toList.map fun s => ("select", s)) ++ filters ++ target
    headers := [("Prefer", ",".intercalate (m.preferReturn :: resolution))] ++ m.schemaHeader ++
      (if body.isSome then [("Content-Type", "application/json")] else [])
    body := body.map Json.render
    tables := [m.table] }

end Mutation

namespace Query

/-- Starts a write of the query's table. Filters the kind of write has no use for are a fault. -/
def toMutation (q : Query) (kind : WriteKind) (body : Option Json) : Mutation :=
  let m : Mutation :=
    { Mutation.on q.table kind with
      schema := q.schema
      bound := q.bound
      options := { q.options with cache := .bypass }
      fault := q.fault
      body := body }
  if kind.takesFilters then { m with filters := q.filters }
  else if q.filters.isEmpty then m
  else m.reject (Fault.filtersNotTaken kind.name).toError

/-- Starts a write whose body could not be made, for the reason given. -/
def toFailedMutation (q : Query) (kind : WriteKind) (reason : String) : Mutation :=
  (q.toMutation kind none).reject (Fault.unserializableBody reason).toError

end Query
end TableQuery
