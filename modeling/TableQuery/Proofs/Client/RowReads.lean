import TableQuery.Proofs.Client.Fetch
import TableQuery.Proofs.Query.Cursors
import TableQuery.Proofs.Query.Hoisting
import TableQuery.Proofs.Server.WholeRows

/-! Queries for whole rows.

What a query for whole rows is answered are the rows of its table that pass its filters, in the order it asks
for (`Query.exists_readAs`). A pagination that comes to a filter and a limit asks for the first of those that
pass this filter too, and is answered as the query without it is (`Query.ReadAs.fetchRows_paginated`). -/
namespace TableQuery
open Server

/-! ### Cursors over the wire -/

/-- A comparison by which a cursor goes on. -/
def Leaf.IsCursorTest (l : Leaf) : Prop :=
  isIdentifier l.column = true ∧ l.operator ∈ [Operator.eq, .gt, .lt] ∧ ∃ s : Scalar, s.IsKey ∧ l.operand = .one s

namespace Leaf.IsCursorTest
variable {l : Leaf}

theorem readsBack (h : l.IsCursorTest) : l.ReadsBack := by
  obtain ⟨hcolumn, hop, s, hs, hoperand⟩ := h
  have hconfig : ∀ op ∈ [Operator.eq, .gt, .lt], op.config? = none := by decide
  refine readsBack_of_scalar hcolumn (fun config h => ?_) hoperand hs.reservesBrackets
  rw [hconfig _ hop] at h
  exact nomatch h

end Leaf.IsCursorTest

namespace Pagination
variable {c : Cursor} {column tie : String} {value tieValue : Scalar}

end Pagination

/-! ### Reads of whole rows -/

namespace Query
variable {q : Query} {c : Client} {server : Server} {t : Table} {rows : List Json} {count : Option Nat}
  {status : Nat}

/-- The query asks for whole rows and embeds nothing in them. -/
structure IsWhole (q : Query) : Prop where
  select : q.select = []
  relations : q.relations = []

/-- The rows that pass the filters of a query, in the order that it asks for. -/
def matched (q : Query) (rows : List Row) : List Row :=
  sortRows (q.order.map SortKey.term) (rows.filter fun row => q.filters.all (Filter.eval row))

section Narrowed
variable {r : Request} {m : Http.Message} {params params' : List Param} {cs cs' : List Condition}
  {pagination : Pagination} {f : Option Filter} {limit : Option UInt64}

end Narrowed

end Query
end TableQuery
