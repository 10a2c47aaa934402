import TableQuery.Mutation
import TableQuery.Proofs.Chained

/-! Queries that compile, and their requests.

A query compiles if no step was rejected, its table has a name, its mode suits it, and each of its parts
compiles; its request is then put together from those parts (`parts_of_compileAs`), each relation adding its
own parameters before those of the relations below it (`Relation.of_hoistOne_node`). So all reads are alike
in some ways, whatever they ask for (`isRead_of_compileAs`): the table is an identifier, the mode decides
the method, and there are headers for a range, a schema and a count only. Writes are put together in the same
way (`Mutation.parts_of_compile`). -/
namespace TableQuery

/-- The headers of a range of rows, if there is one. -/
def rangeHeaders : Option (UInt64 × UInt64) → List Param
  | some (first, last) => [("Range-Unit", "items"), ("Range", toString first ++ "-" ++ toString last)]
  | none => []

/-- The header of a schema, if there is one. -/
def schemaHeaders : Option String → List Param
  | some s => [("Accept-Profile", s)]
  | none => []

/-- The header of a count, if one is asked for. -/
def countHeaders : Option CountStrategy → List Param
  | some c => [("Prefer", "count=" ++ c.name)]
  | none => []

/-- What every compiled read is like. -/
structure Request.IsRead (r : Request) : Prop where
  table : isIdentifier r.table = true
  method : r.method = if r.mode = .count then .head else .get
  headers : ∃ range count,
    r.headers = rangeHeaders range ++ schemaHeaders r.schema ++ countHeaders count
  body : r.body = none

theorem ok_of_orError {α : Type} {x : Except Fault α} {a : α} (h : orError x = .ok a) : x = .ok a := by
  cases x with
  | ok _ => exact congrArg Except.ok (Except.ok.inj h)
  | error _ => exact nomatch h

theorem Pagination.headers_render {p : Pagination} {order : List SortKey} {w : Rendered}
    (h : p.render order = .ok w) : ∃ range, w.headers = rangeHeaders range := by
  obtain ⟨_, -, h⟩ := Chained.bind_eq_ok.mp h
  cases p with
  | page number size => exact ⟨none, Except.ok.inj h ▸ rfl⟩
  | window offset limit => exact ⟨none, Except.ok.inj h ▸ rfl⟩
  | range first last => exact ⟨some (first, last), Except.ok.inj h ▸ rfl⟩
  | cursor c =>
    simp only at h
    split at h
    · exact nomatch h
    split at h
    · exact nomatch h
    · exact ⟨none, Except.ok.inj h ▸ rfl⟩

namespace Relation

/-- The parameters of a relation's own order and window, behind its path. -/
def ownParams (path : String) (e : Embedding) : List Param :=
  ((SortKey.renderAll? e.order).toList.map fun keys => (path ++ "order", keys)) ++
    ((e.limit.toList.map fun n => (path ++ "limit", toString n)) ++
      e.offset.toList.map fun n => (path ++ "offset", toString n))

theorem name_of_ownParams {path : String} {e : Embedding} :
    ∀ param ∈ ownParams path e, ∃ word ∈ ["order", "limit", "offset"], param.1 = path ++ word :=
  List.forall_mem_append.mpr ⟨List.forall_mem_map.mpr fun _ _ => ⟨"order", by decide, rfl⟩,
    List.forall_mem_append.mpr ⟨List.forall_mem_map.mpr fun _ _ => ⟨"limit", by decide, rfl⟩,
      List.forall_mem_map.mpr fun _ _ => ⟨"offset", by decide, rfl⟩⟩⟩

/-- A relation adds its filters, its order and window, and what those below it add. -/
theorem of_hoistOne_node {parent : String} {e : Embedding} {cs : List Relation} {params : List Param}
    (h : hoistOne parent (.node e cs) = .ok params) :
    ∃ filters below, Filter.params (parent ++ e.key ++ ".") e.filters = .ok filters ∧
      hoistAll (parent ++ e.key ++ ".") cs = .ok below ∧
      params = filters ++ ownParams (parent ++ e.key ++ ".") e ++ below := by
  rw [hoistOne] at h
  obtain ⟨filters, hfilters, h⟩ := Chained.bind_eq_ok.mp h
  obtain ⟨below, hbelow, h⟩ := Chained.bind_eq_ok.mp h
  refine ⟨filters, below, hfilters, hbelow, ?_⟩
  rw [← Except.ok.inj h, ownParams]
  cases SortKey.renderAll? e.order <;> cases e.limit <;> cases e.offset <;> simp

theorem of_hoistAll_cons {parent : String} {r : Relation} {rs : List Relation} {params : List Param}
    (h : hoistAll parent (r :: rs) = .ok params) :
    ∃ first others, hoistOne parent r = .ok first ∧ hoistAll parent rs = .ok others ∧
      params = first ++ others := by
  rw [hoistAll] at h
  obtain ⟨first, hfirst, h⟩ := Chained.bind_eq_ok.mp h
  obtain ⟨others, hothers, h⟩ := Chained.bind_eq_ok.mp h
  exact ⟨first, others, hfirst, hothers, (Except.ok.inj h).symm⟩

end Relation

namespace Query
variable {q : Query} {mode : Mode} {r : Request}

theorem headers_renderedPagination {w : Pagination.Rendered} (h : q.renderedPagination = .ok w) :
    ∃ range, w.headers = rangeHeaders range := by
  unfold renderedPagination at h
  split at h
  · exact Pagination.headers_render h
  · exact ⟨none, Except.ok.inj h ▸ rfl⟩

/-- A query that compiles passed all checks, and so did each of its parts. -/
theorem parts_of_compileAs (h : q.compileAs mode = .ok r) :
    q.fault = none ∧ isIdentifier q.table = true ∧ (q.head = true → mode = .count) ∧
      Relation.faults? q.relations = none ∧
    ∃ select filters window cursor hoisted,
      Select.compile q.select q.relations = .ok select ∧
      Filter.params "" q.filters = .ok filters ∧
      q.renderedPagination = .ok window ∧
      Filter.params "" window.filter.toList = .ok cursor ∧
      Relation.hoist q.relations = .ok hoisted ∧
      r = {
        table := q.table
        schema := q.schema
        method := if mode = .count then .head else .get
        mode := mode
        params := (select.toList.map fun s => ("select", s)) ++ filters ++ cursor ++ hoisted ++
          ((SortKey.renderAll? (q.order ++ window.order)).toList.map fun o => ("order", o)) ++ window.params
        headers := window.headers ++ q.schemaHeader ++ q.countHeader
        body := none
        tables := q.tables } := by
  unfold compileAs at h
  dsimp only at h
  split at h
  · exact nomatch h
  next hfault =>
  obtain ⟨_, -, h⟩ := Chained.bind_eq_ok.mp h
  split at h
  · exact nomatch h
  next htable =>
  split at h
  · exact nomatch h
  next hmode =>
  split at h
  · exact nomatch h
  next hrelations =>
  obtain ⟨_, -, h⟩ := Chained.bind_eq_ok.mp h
  obtain ⟨select, hselect, h⟩ := Chained.bind_eq_ok.mp h
  obtain ⟨filters, hfilters, h⟩ := Chained.bind_eq_ok.mp h
  obtain ⟨window, hwindow, h⟩ := Chained.bind_eq_ok.mp h
  obtain ⟨cursor, hcursor, h⟩ := Chained.bind_eq_ok.mp h
  obtain ⟨hoisted, hhoisted, h⟩ := Chained.bind_eq_ok.mp h
  refine ⟨hfault, by simpa using htable, fun hhead => ?_, hrelations, select, filters, window, cursor,
    hoisted, hselect, ok_of_orError hfilters, ok_of_orError hwindow, ok_of_orError hcursor,
    ok_of_orError hhoisted, (Except.ok.inj h).symm⟩
  simpa [hhead] using hmode

/-- A query compiles if it passes all checks and so does each of its parts. -/
theorem compileAs_of_parts {select : Option String} {filters cursor hoisted : List Param}
    {window : Pagination.Rendered} (hfault : q.fault = none) (htable : isIdentifier q.table = true)
    (hhead : q.head = true → mode = .count) (hrelations : Relation.faults? q.relations = none)
    (hselect : Select.compile q.select q.relations = .ok select)
    (hfilters : Filter.params "" q.filters = .ok filters) (hwindow : q.renderedPagination = .ok window)
    (hcursor : Filter.params "" window.filter.toList = .ok cursor)
    (hhoisted : Relation.hoist q.relations = .ok hoisted) :
    q.compileAs mode = .ok {
      table := q.table
      schema := q.schema
      method := if mode = .count then .head else .get
      mode := mode
      params := (select.toList.map fun s => ("select", s)) ++ filters ++ cursor ++ hoisted ++
        ((SortKey.renderAll? (q.order ++ window.order)).toList.map fun o => ("order", o)) ++ window.params
      headers := window.headers ++ q.schemaHeader ++ q.countHeader
      body := none
      tables := q.tables } := by
  have hmode : (q.head && mode != .count) = false := by
    cases hq : q.head with
    | false => rfl
    | true =>
      rw [hhead hq]
      rfl
  unfold compileAs
  simp only [hfault, htable, hmode, hrelations, hselect, hfilters, hwindow, hhoisted]
  show (orError (Filter.params "" window.filter.toList) >>= _) = _
  rw [hcursor]
  rfl

theorem isRead_of_compileAs (h : q.compileAs mode = .ok r) : r.IsRead := by
  obtain ⟨-, htable, -, -, select, filters, window, cursor, hoisted, -, -, hwindow, -, -, rfl⟩ :=
    parts_of_compileAs h
  obtain ⟨range, hrange⟩ := headers_renderedPagination hwindow
  refine ⟨htable, rfl, ⟨range, q.count, ?_⟩, rfl⟩
  show window.headers ++ schemaHeaders q.schema ++ countHeaders q.count = _
  rw [hrange]

theorem table_of_compileAs (h : q.compileAs mode = .ok r) : r.table = q.table := by
  obtain ⟨-, -, -, -, _, _, _, _, _, -, -, -, -, -, rfl⟩ := parts_of_compileAs h
  rfl

/-- Without pagination there are headers for a schema and a count only. -/
theorem headers_of_compileAs (h : q.compileAs mode = .ok r) (hnone : q.pagination = none) :
    r.headers = schemaHeaders r.schema ++ countHeaders q.count := by
  obtain ⟨-, -, -, -, select, filters, window, cursor, hoisted, -, -, hwindow, -, -, rfl⟩ := parts_of_compileAs h
  rw [renderedPagination, hnone] at hwindow
  obtain rfl := Except.ok.inj hwindow
  rfl

/-- Without pagination the parameters are those of the selection, the filters, the relations and the order. -/
theorem params_of_compileAs (h : q.compileAs mode = .ok r) (hnone : q.pagination = none) :
    ∃ select filters hoisted, Select.compile q.select q.relations = .ok select ∧
      Filter.params "" q.filters = .ok filters ∧ Relation.hoist q.relations = .ok hoisted ∧
      r.params = (select.toList.map fun s => ("select", s)) ++ filters ++ hoisted ++
        (SortKey.renderAll? q.order).toList.map fun o => ("order", o) := by
  obtain ⟨-, -, -, -, select, filters, window, cursor, hoisted, hselect, hfilters, hwindow, hcursor, hhoist, rfl⟩ :=
    parts_of_compileAs h
  rw [renderedPagination, hnone] at hwindow
  obtain rfl := Except.ok.inj hwindow
  obtain rfl : [] = cursor := Except.ok.inj hcursor
  refine ⟨select, filters, hoisted, hselect, hfilters, hhoist, ?_⟩
  simp only [Pagination.Rendered.empty, List.append_nil]

end Query

/-- A write that compiles passed all checks, and so did each of its parts. -/
theorem Mutation.parts_of_compile {m : Mutation} {r : Request} (h : m.compile = .ok r) :
    m.fault = none ∧ isIdentifier m.table = true ∧
    ∃ body select filters,
      m.checkedBody = .ok body ∧
      Select.compile (m.returning.getD []) [] = .ok select ∧
      Filter.params "" m.filters = .ok filters ∧
      r = {
        table := m.table
        schema := m.schema
        method := m.kind.method
        mode := .many
        params := (select.toList.map fun s => ("select", s)) ++ filters ++ m.conflictParts.2
        headers := [("Prefer", ",".intercalate (m.preferReturn :: m.conflictParts.1))] ++ m.schemaHeader ++
          (if body.isSome then [("Content-Type", "application/json")] else [])
        body := body.map Json.render
        tables := [m.table] } := by
  unfold compile at h
  dsimp only at h
  split at h
  · exact nomatch h
  next hfault =>
  obtain ⟨_, -, h⟩ := Chained.bind_eq_ok.mp h
  split at h
  · exact nomatch h
  next htable =>
  obtain ⟨body, hbody, h⟩ := Chained.bind_eq_ok.mp h
  obtain ⟨select, hselect, h⟩ := Chained.bind_eq_ok.mp h
  obtain ⟨filters, hfilters, h⟩ := Chained.bind_eq_ok.mp h
  exact ⟨hfault, by simpa using htable, body, select, filters, ok_of_orError hbody, hselect,
    ok_of_orError hfilters, (Except.ok.inj h).symm⟩

theorem Mutation.table_of_compile {m : Mutation} {r : Request} (h : m.compile = .ok r) :
    r.table = m.table ∧ r.method = m.kind.method := by
  obtain ⟨-, -, _, _, _, -, -, -, rfl⟩ := parts_of_compile h
  exact ⟨rfl, rfl⟩

end TableQuery
