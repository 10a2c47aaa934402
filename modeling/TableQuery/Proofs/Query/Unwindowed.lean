import TableQuery.Proofs.Query.Cursors
import TableQuery.Proofs.Query.Hoisting
import TableQuery.Proofs.Query.RootWindow

/-! Queries without their row window.

A page, an offset, a limit or a range says which rows of a result are wanted, and nothing of what the result is.
Taken away it leaves a query that asks for all of them (`Query.unwindowed`), and whose request is the same but for
the parameters and the headers of the window (`Query.compileAs_unwindowed`). Of a cursor only the limit is a window:
it goes on from a row, and what comes before that row is not among its rows. -/
namespace TableQuery
open Server

/-- What is left of a pagination without the window. -/
def Pagination.unwindowed : Pagination → Option Pagination
  | .cursor c => some (.cursor { c with limit := none })
  | .page _ _ | .window _ _ | .range _ _ => none

theorem Pagination.isNull_of_render {c : Cursor} {order : List SortKey} {w : Rendered}
    (h : (Pagination.cursor c).render order = .ok w) : c.value.isNull = false := by
  obtain ⟨_, hvalid, -⟩ := Chained.bind_eq_ok.mp h
  rw [validate] at hvalid
  split at hvalid
  · cases hvalid
  · next hnull => exact Bool.eq_false_iff.mpr hnull

namespace Query
variable {q : Query} {mode : Mode} {r : Request} {w : Pagination.Rendered}

/-- The query for all rows of which this one asks for a part. -/
def unwindowed (q : Query) : Query := { q with pagination := q.pagination.bind Pagination.unwindowed }

theorem params_renderedPagination (h : q.renderedPagination = .ok w) :
    w.params = Params.windowParams [] q.limit? q.offset? := by
  unfold renderedPagination at h
  unfold limit? offset?
  split at h
  · next p hp =>
    rw [hp]
    exact Pagination.params_render h
  · next hp =>
    rw [hp]
    exact Except.ok.inj h ▸ rfl

/-- Without the window there are a cursor's filter and the key it adds to the order, if there is a cursor. -/
theorem renderedPagination_unwindowed (h : q.renderedPagination = .ok w) :
    q.unwindowed.renderedPagination = .ok { w with params := [], headers := [] } := by
  unfold renderedPagination at h ⊢
  unfold unwindowed
  cases hp : q.pagination with
  | none =>
    rw [hp] at h
    exact Except.ok.inj h ▸ rfl
  | some p =>
    rw [hp] at h
    cases p with
    | page number size =>
      obtain ⟨_, -, h⟩ := Chained.bind_eq_ok.mp h
      exact Except.ok.inj h ▸ rfl
    | window offset limit => exact Except.ok.inj h ▸ rfl
    | range first last =>
      obtain ⟨_, -, h⟩ := Chained.bind_eq_ok.mp h
      exact Except.ok.inj h ▸ rfl
    | cursor c =>
      have hnull := Pagination.isNull_of_render h
      obtain ⟨key, hkey, hdirection, rfl⟩ := Pagination.of_render_cursor h
      exact Pagination.render_cursor hnull hkey hdirection (c := { c with limit := none })

/-- **The request of a query without its window** is the query's own, but for the window: its parameters are the last
ones of the query's, its range the first of the headers. -/
theorem compileAs_unwindowed (h : q.compileAs mode = .ok r) :
    ∃ params range, q.unwindowed.compileAs mode = .ok { r with
        params := params, headers := schemaHeaders r.schema ++ countHeaders q.count } ∧
      r.params = params ++ Params.windowParams [] q.limit? q.offset? ∧
      r.headers = rangeHeaders range ++ (schemaHeaders r.schema ++ countHeaders q.count) := by
  obtain ⟨hfault, htable, hhead, hrelations, select, filters, w, cursor, hoisted, hselect, hfilters, hwindow,
    hcursor, hhoist, rfl⟩ := parts_of_compileAs h
  obtain ⟨range, hrange⟩ := headers_renderedPagination hwindow
  refine ⟨_, range, ?_, congrArg _ (params_renderedPagination hwindow), ?_⟩
  · rw [compileAs_of_parts hfault htable hhead hrelations hselect hfilters (renderedPagination_unwindowed hwindow)
      hcursor hhoist (q := q.unwindowed)]
    simp only [List.append_nil, List.nil_append]
    rfl
  · show w.headers ++ schemaHeaders q.schema ++ countHeaders q.count = _
    rw [hrange, List.append_assoc]

/-- Nothing puts a window over the table of a query without its own, unless a relation has no key. -/
theorem keepsWindow_unwindowed (h : q.unwindowed.compileAs mode = .ok r) (hkeys : ∀ x ∈ q.relations, x.key ≠ "") :
    ∀ param ∈ r.params, Params.KeepsWindow param.1 param.2 := by
  have hnone : q.unwindowed.limit? = none ∧ q.unwindowed.offset? = none := by
    unfold limit? offset? unwindowed
    rcases q.pagination with _ | ⟨_ | _ | _ | _⟩ <;> exact ⟨rfl, rfl⟩
  refine keepsWindow_of_params_nil h (fun w hw => ?_) hkeys
  rw [params_renderedPagination hw, hnone.1, hnone.2]
  rfl

end Query
end TableQuery
