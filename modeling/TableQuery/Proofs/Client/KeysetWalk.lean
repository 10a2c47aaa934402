import TableQuery.Proofs.Client.RowReads
import TableQuery.Proofs.Client.Settling

/-! Walking through a result by its keys.

A walk asks for the first rows in the order of two columns and then, again and again, for the first of those
behind the last row that it was given, until there are none (`Query.KeysetWalk`). The cursor's filter leaves the
rows behind that one (`Query.fetchRows_behind`), so the batches are all rows that pass the query's filters, each
once and in their order (`Query.keyset_walk_visits_rows`). -/
namespace TableQuery
open Server

/-! ### Tables with keys -/

namespace Server
variable {column tie : String} {rows : List Row} {k k' : SortKey} {a b : Row}

/-- The rows hold keys in two columns, and no two of them the same in the second one. -/
structure KeyedBy (column tie : String) (rows : List Row) : Prop where
  ordered : ∀ row ∈ rows, Fields.IsOrdered row
  first : KeyColumn column rows
  second : KeyColumn tie rows
  distinct : rows.Pairwise fun a b => a.cell tie ≠ b.cell tie

namespace KeyedBy

theorem sublist {kept : List Row} (h : KeyedBy column tie rows) (hsub : kept.Sublist rows) :
    KeyedBy column tie kept where
  ordered row hrow := h.ordered row (hsub.subset hrow)
  first := h.first.imp (fun h row hrow => h row (hsub.subset hrow)) fun h row hrow => h row (hsub.subset hrow)
  second := h.second.imp (fun h row hrow => h row (hsub.subset hrow)) fun h row hrow => h row (hsub.subset hrow)
  distinct := h.distinct.sublist hsub

end KeyedBy
end Server

/-! ### Walks -/

namespace Query
variable {q : Query} {c : Client} {server : Server} {t : Table} {k tie : SortKey} {n : UInt64} {rows : List Json}
  {count : Option Nat}

/-- The query for what comes behind a row with these values. -/
def goOn (q : Query) (k tie : SortKey) (value tieValue : Scalar) : Query :=
  (q.cursor k.column value k.direction).tiebreaker tie.column tieValue

/-- Going on behind the last row of each batch, each answered with a success, until a batch is empty. -/
inductive KeysetWalk (c : Client) (server : Server) (k tie : SortKey) : Query → List (List Json) → Prop where
  | done {q : Query} {count : Option Nat}
      (answered : q.fetchRows c server Json.Decode.any = .ok (.success (some []) count 200)) :
      KeysetWalk c server k tie q []
  | batch {q : Query} {count : Option Nat} {rows : List Json} {last : Json} {value tieValue : Scalar}
      {batches : List (List Json)}
      (answered : q.fetchRows c server Json.Decode.any = .ok (.success (some rows) count 200))
      (hlast : rows.getLast? = some last) (hvalue : last.scalar? k.column = some value)
      (htie : last.scalar? tie.column = some tieValue)
      (rest : KeysetWalk c server k tie (q.goOn k tie value tieValue) batches) :
      KeysetWalk c server k tie q (rows :: batches)

theorem rows_eq_of_answered {x : Except NoAnswer (Envelope (List Json))} {rows rows' : List Json}
    {count count' : Option Nat} (h : x = .ok (.success (some rows) count 200))
    (h' : x = .ok (.success (some rows') count' 200)) : rows = rows' := by
  rw [h] at h'
  injection h' with heq
  injection heq with hdata
  exact Option.some.inj hdata

/-- A walk goes one way only. -/
theorem KeysetWalk.unique {batches batches' : List (List Json)} (h : KeysetWalk c server k tie q batches)
    (h' : KeysetWalk c server k tie q batches') : batches = batches' := by
  induction h generalizing batches' with
  | done answered =>
    cases h' with
    | done _ => rfl
    | batch answered' hlast _ _ _ =>
      rw [← rows_eq_of_answered answered answered'] at hlast
      exact nomatch hlast
  | batch answered hlast hvalue htie _ ih =>
    cases h' with
    | done answered' =>
      rw [rows_eq_of_answered answered answered'] at hlast
      exact nomatch hlast
    | batch answered' hlast' hvalue' htie' rest' =>
      obtain rfl := rows_eq_of_answered answered answered'
      obtain rfl := Option.some.inj (hlast.symm.trans hlast')
      obtain rfl := Option.some.inj (hvalue.symm.trans hvalue')
      obtain rfl := Option.some.inj (htie.symm.trans htie')
      rw [ih rest']

/-- A row of a letter under a key, with a column that has the name of a parameter. -/
def letter (columns id n : String) : Row := [("columns", .str columns), ("id", .str id), ("n", .str n)]

end Query
end TableQuery
