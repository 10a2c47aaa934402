import TableQuery.Error
import TableQuery.Json.Value
import TableQuery.Request

/-! The outcome of one request.

Success carries what the server returned, if anything, and the size of the whole result, if it was
asked for; failure carries an error and never any rows. -/
namespace TableQuery

inductive Envelope (α : Type) where
  | success (data : Option α) (count : Option Nat) (status : Nat)
  | failure (error : Error) (status : Nat)

namespace Envelope
variable {α β : Type}

def isOk : Envelope α → Bool
  | .success _ _ _ => true
  | .failure _ _ => false

def data? : Envelope α → Option α
  | .success data _ _ => data
  | .failure _ _ => none

def count? : Envelope α → Option Nat
  | .success _ count _ => count
  | .failure _ _ => none

def status : Envelope α → Nat
  | .success _ _ status => status
  | .failure _ status => status

def error? : Envelope α → Option Error
  | .success _ _ _ => none
  | .failure error _ => some error

def map (f : α → β) : Envelope α → Envelope β
  | .success data count status => .success (data.map f) count status
  | .failure error status => .failure error status

/-- Converts the data; if that fails, the whole outcome does. -/
def andThen (f : α → Except Error β) : Envelope α → Envelope β
  | .success none count status => .success none count status
  | .success (some data) count status =>
    match f data with
    | .ok data => .success (some data) count status
    | .error error => .failure error status
  | .failure error status => .failure error status

def toExcept : Envelope α → Except Error (Option α)
  | .success data _ _ => .ok data
  | .failure error _ => .error error

/-- The status of a result that has not the number of rows it should have. -/
def notAcceptable : Nat := 406

/-- The rows in a body: an array's items, nothing for null, and anything else as one row. -/
def rowsOf : Option Json → List Json
  | some (.arr rows) => rows
  | some .null | none => []
  | some row => [row]

/-- Holds a success to the number of rows its mode expects. -/
def shape (mode : Mode) : Envelope Json → Envelope Json
  | .failure error status => .failure error status
  | .success data count status =>
    match mode with
    | .many => .success data count status
    | .count => .success none count status
    | .single =>
      match rowsOf data with
      | [] => .failure .notFound notAcceptable
      | [row] => .success (some row) count status
      | rows => .failure (.multipleRows rows.length) notAcceptable
    | .maybeSingle =>
      match rowsOf data with
      | [] => .success none count status
      | [row] => .success (some row) count status
      | rows => .failure (.multipleRows rows.length) notAcceptable

theorem isOk_map (f : α → β) (e : Envelope α) : (e.map f).isOk = e.isOk := by
  cases e <;> rfl

end Envelope
end TableQuery
