import TableQuery.Envelope
import TableQuery.Json.Decode
import TableQuery.Mutation

/-! Executing what was built.

An execution says how many rows are wanted and as what they are read. What was built has to be bound to
a client and to compile (`Query.request`, `Mutation.request`); only then is anything sent. Afterwards
the data of the outcome are decoded, and data that cannot be make the outcome a failure. -/
namespace TableQuery

/-- How a read is executed. -/
inductive Execution where
  | rows
  | single
  | maybeSingle
  /-- The rows of a page with the size of the whole result. -/
  | page
deriving Repr, DecidableEq

namespace Query

def requestAs (q : Query) (mode : Mode) : Except Error Request :=
  if q.bound then q.compileAs mode else .error Fault.unboundRead.toError

/-- The page a query asks for, if it can be executed page by page. -/
def pageAsked (q : Query) : Except Fault (UInt64 × UInt64) :=
  match q.pagination with
  | some (.page number size) => if q.head then .error .pageOfHead else .ok (number, size)
  | _ => .error .pageRequired

/-- The request an execution of a query makes. -/
def request (q : Query) (x : Execution) : Except Error Request :=
  match x with
  | .rows => q.requestAs q.mode
  | .single => q.requestAs .single
  | .maybeSingle => q.requestAs .maybeSingle
  | .page => do
    let _ ← orError q.pageAsked
    { q with count := some .exact }.requestAs .many

end Query

/-- The request an execution of a write makes. -/
def Mutation.request (m : Mutation) : Except Error Request :=
  if m.bound then m.compile else .error Fault.unboundWrite.toError

namespace Envelope
variable {α : Type}

def orDecode : Except String α → Except Error α
  | .ok a => .ok a
  | .error reason => .error (.decode reason)

/-- The data as a list of rows. -/
def decodeRows (row : Json → Except String α) (e : Envelope Json) : Envelope (List α) :=
  e.andThen fun v => orDecode (Json.Decode.list row v)

/-- The data as one row. -/
def decodeRow (row : Json → Except String α) (e : Envelope Json) : Envelope α :=
  e.andThen fun v => orDecode (row v)

/-- The data as the rows of a page. Without a count the rows are all there are. -/
def decodePage (row : Json → Except String α) (number size : UInt64) (e : Envelope Json) :
    Envelope (Page α) :=
  e.andThen fun v => do
    let rows ← orDecode (Json.Decode.list row v)
    .ok (Page.of rows number size (e.count?.getD rows.length))

/-- The rows of a success, none if it has no data; the error of a failure. -/
def rowsOrError (e : Envelope (List α)) : Except Error (List α) :=
  match e.toExcept with
  | .ok rows => .ok (rows.getD [])
  | .error error => .error error

end Envelope
end TableQuery
