import TableQuery.Filter
import TableQuery.Order

/-! Which part of a result is asked for.

A page is a window in other words (`Pagination.normalize`): its offset is the number of rows on the
pages before it, capped at the largest word. A range goes into headers. A cursor becomes a filter for
the rows after its value, in the direction the read is ordered; its tiebreaker separates the rows that
share the value. -/
namespace TableQuery

def maxWord : Nat := UInt64.size - 1

structure Cursor where
  column : String
  value : Scalar
  direction : Direction
  limit : Option UInt64
  tiebreaker : Option (String × Scalar)

inductive Pagination where
  /-- The page of a number, counted from one, when pages have a size. -/
  | page (number size : UInt64)
  | window (offset : UInt64) (limit : Option UInt64)
  /-- From the first to the last row, both counted from zero and both included. -/
  | range (first last : UInt64)
  | cursor (c : Cursor)

namespace Pagination

def name : Pagination → String
  | .page _ _ => "page"
  | .window _ _ => "offset/limit"
  | .range _ _ => "range"
  | .cursor _ => "cursor"

def validate : Pagination → Except Fault Unit
  | .page number _ => if number.toNat < 1 then .error (.pageBelowOne number.toNat) else .ok ()
  | .range first last =>
    if last < first then .error (.reversedRange first.toNat last.toNat) else .ok ()
  | .cursor c => if c.value.isNull then .error .nullCursor else .ok ()
  | .window _ _ => .ok ()

/-- The number of rows before a page. -/
def pageOffset (number size : UInt64) : UInt64 :=
  UInt64.ofNat (min ((number.toNat - 1) * size.toNat) maxWord)

def normalize : Pagination → Pagination
  | .page number size => .window (pageOffset number size) (some size)
  | p => p

/-- What a pagination adds to a request. -/
structure Rendered where
  filter : Option Filter
  order : List SortKey
  params : List Param
  headers : List Param

def Rendered.empty : Rendered := ⟨none, [], [], []⟩

/-- The rows strictly after a value. -/
def after (column : String) (value : Scalar) : Direction → Filter
  | .asc => .test column .gt (.one value)
  | .desc => .test column .lt (.one value)

def limitParam : Option UInt64 → List Param
  | some n => [("limit", toString n)]
  | none => []

/-- The cursor's filter and the sort key it adds: none without a tiebreaker, or when the read is
ordered by the tiebreaker's column already, whose direction then counts. -/
def Cursor.filter (c : Cursor) (order : List SortKey) : Filter × List SortKey :=
  match c.tiebreaker with
  | none => (after c.column c.value c.direction, [])
  | some (column, value) =>
    let (direction, added) := match order.find? fun k => k.column == column with
      | some k => (k.direction, [])
      | none => (c.direction, [SortKey.on column c.direction])
    (.group .any [after c.column c.value c.direction,
      .group .all [.test c.column .eq (.one c.value), after column value direction]], added)

def render (p : Pagination) (order : List SortKey) : Except Fault Rendered := do
  p.validate
  match p with
  | .page number size =>
    let offset := pageOffset number size
    .ok { Rendered.empty with
      params := limitParam (some size) ++ (if offset > 0 then [("offset", toString offset)] else []) }
  | .window offset limit =>
    .ok { Rendered.empty with
      params := limitParam limit ++ (if offset > 0 then [("offset", toString offset)] else []) }
  | .range first last =>
    .ok { Rendered.empty with
      headers := [("Range-Unit", "items"), ("Range", toString first ++ "-" ++ toString last)] }
  | .cursor c =>
    match order.find? fun k => k.column == c.column with
    | none => .error (.unorderedCursor c.column)
    | some k =>
      if k.direction ≠ c.direction then .error (.contraryCursor c.column)
      else
        let (filter, added) := Cursor.filter c order
        .ok ⟨some filter, added, limitParam c.limit, []⟩

end Pagination

/-- The rows of one page with the size of the whole result. -/
structure Page (α : Type) where
  content : List α
  number : UInt64
  size : UInt64
  totalElements : Nat
  totalPages : Nat

namespace Page

/-- How many pages of a size hold so many elements; pages of size zero hold none. -/
def pagesFor (elements : Nat) (size : UInt64) : Nat :=
  if size.toNat = 0 then 0 else (elements + size.toNat - 1) / size.toNat

def of {α : Type} (content : List α) (number size : UInt64) (totalElements : Nat) : Page α :=
  ⟨content, number, size, totalElements, pagesFor totalElements size⟩

def hasNext {α : Type} (p : Page α) : Bool := p.number.toNat < p.totalPages

end Page
end TableQuery
