import TableQuery.Http.Message
import TableQuery.Json.Writer

/-! Why the server does not carry a request out.

Most often it turns the request down. Each cause has a status, a code and a message; a duplicate key has
details too. `Rejection.body` is what the client is told. Where the server's own arithmetic leaves the
numbers of 64 bits it breaks down instead, and there is no answer (`Halt.overflow`). -/
namespace TableQuery.Server

/-- A part of the request that does not follow the grammar, or a test that cannot be made. -/
inductive SyntaxFault where
  | unbalancedEmbed (item : String)
  | emptyColumn (item : String)
  | malformedFilter (column raw : String)
  | malformedTree (body : String)
  | malformedElement (part : String)
  | unknownModifier (word : String)
  | malformedOrderTerm (term : String)
  | invalidNumber (name value : String)
  | malformedList (value : String)
  | malformedArray (value : String)
  | invalidTest (value : String)
  | unknownOperator (name : String)
deriving Repr, DecidableEq

def SyntaxFault.message : SyntaxFault → String
  | .unbalancedEmbed i => "unbalanced embed '" ++ i ++ "'"
  | .emptyColumn i => "empty column in select item '" ++ i ++ "'"
  | .malformedFilter c raw => "malformed filter '" ++ c ++ "=" ++ raw ++ "'"
  | .malformedTree b => "malformed logic tree '" ++ b ++ "'"
  | .malformedElement p => "malformed group element '" ++ p ++ "'"
  | .unknownModifier w => "unknown order modifier '" ++ w ++ "'"
  | .malformedOrderTerm t => "malformed order term '" ++ t ++ "'"
  | .invalidNumber n v => "invalid " ++ n ++ " '" ++ v ++ "'"
  | .malformedList v => "malformed list '" ++ v ++ "'"
  | .malformedArray v => "malformed array '" ++ v ++ "'"
  | .invalidTest v => "invalid 'is' value '" ++ v ++ "'"
  | .unknownOperator n => "unknown operator '" ++ n ++ "'"

/-- What is wrong with a request's body. -/
inductive BodyFault where
  | notJson
  | itemNotObject
  | notRows
  | notPatch
deriving Repr, DecidableEq

def BodyFault.message : BodyFault → String
  | .notJson => "Empty or invalid json: malformed document"
  | .itemNotObject => "All array elements must be objects"
  | .notRows => "Expected an object or an array of objects"
  | .notPatch => "Expected a single object"

inductive Rejection where
  | syntaxFault (fault : SyntaxFault)
  | unsatisfiableRange (range : String)
  | unknownTable (name : String)
  | unknownColumn (table column : String)
  | unknownPayloadColumn (table column : String)
  | ambiguousLink (parent child : String)
  | noLink (parent child : String)
  | invalidBody (fault : BodyFault)
  | duplicateKey (table columns values : String)
  | unknownSchema (known : List String)
  | invalidToken
  | missingToken
  | unsupportedMethod (method : String)
deriving Repr, DecidableEq

namespace Rejection

def status : Rejection → Nat
  | .syntaxFault _ | .unknownColumn _ _ | .unknownPayloadColumn _ _ | .noLink _ _ | .invalidBody _ => 400
  | .unsatisfiableRange _ => 416
  | .unknownTable _ => 404
  | .ambiguousLink _ _ => 300
  | .duplicateKey _ _ _ => 409
  | .unknownSchema _ => 406
  | .invalidToken | .missingToken => 401
  | .unsupportedMethod _ => 405

def code : Rejection → String
  | .syntaxFault _ => "PGRST100"
  | .unsatisfiableRange _ => "PGRST103"
  | .unknownTable _ => "42P01"
  | .unknownColumn _ _ => "42703"
  | .unknownPayloadColumn _ _ => "PGRST204"
  | .ambiguousLink _ _ => "PGRST201"
  | .noLink _ _ => "PGRST200"
  | .invalidBody _ => "PGRST102"
  | .duplicateKey _ _ _ => "23505"
  | .unknownSchema _ => "PGRST106"
  | .invalidToken => "PGRST301"
  | .missingToken => "PGRST302"
  | .unsupportedMethod _ => "PGRST117"

def message : Rejection → String
  | .syntaxFault f => f.message
  | .unsatisfiableRange r => "Requested range not satisfiable: " ++ r
  | .unknownTable n => "relation \"public." ++ n ++ "\" does not exist"
  | .unknownColumn t c => "column " ++ t ++ "." ++ c ++ " does not exist"
  | .unknownPayloadColumn t c =>
    "Could not find the '" ++ c ++ "' column of '" ++ t ++ "' in the schema cache"
  | .ambiguousLink p c =>
    "Could not embed because more than one relationship was found for '" ++ p ++ "' and '" ++ c ++ "'"
  | .noLink p c =>
    "Could not find a relationship between '" ++ p ++ "' and '" ++ c ++ "' in the schema cache"
  | .invalidBody f => f.message
  | .duplicateKey t _ _ => "duplicate key value violates unique constraint \"" ++ t ++ "_pkey\""
  | .unknownSchema known =>
    "The schema must be one of the following: " ++ ", ".intercalate known
  | .invalidToken => "JWT invalid"
  | .missingToken => "Anonymous access is disabled"
  | .unsupportedMethod m => "Unsupported HTTP method: " ++ m

def details : Rejection → Option String
  | .duplicateKey _ columns values => some ("Key (" ++ columns ++ ")=(" ++ values ++ ") already exists.")
  | _ => none

def body (r : Rejection) : Json :=
  .obj [("code", .str r.code),
    ("details", match r.details with
      | some d => .str d
      | none => .null),
    ("hint", .null), ("message", .str r.message)]

/-- Every rejection tells the client that its request failed. -/
theorem le_status (r : Rejection) : 300 ≤ r.status := by
  cases r <;> simp [status]

end Rejection

/-- Why a request is not carried out. -/
inductive Halt where
  /-- It is turned down, and the client is told why. -/
  | refused (r : Rejection)
  /-- One is added to the greatest number of 64 bits. The server breaks down over it. -/
  | overflow
deriving Repr, DecidableEq

/-- What is heard of a server that breaks down, by whoever runs it. -/
def overflowMessage : String := "attempt to add with overflow"

/-- A part of the work that is turned down, if it is not done. -/
def orRefusal {α : Type} : Except Rejection α → Except Halt α
  | .ok a => .ok a
  | .error r => .error (.refused r)

section OrRefusal
variable {α : Type} {x : Except Rejection α}

@[simp] theorem orRefusal_ok (a : α) : orRefusal (.ok a) = .ok a := rfl

@[simp] theorem orRefusal_error (r : Rejection) : orRefusal (.error r : Except Rejection α) = .error (.refused r) := rfl

theorem orRefusal_eq_ok {a : α} : orRefusal x = .ok a ↔ x = .ok a := by
  cases x <;> simp

theorem orRefusal_eq_error {h : Halt} : orRefusal x = .error h ↔ ∃ r, x = .error r ∧ h = .refused r := by
  cases x <;> simp [eq_comm]

end OrRefusal
end TableQuery.Server
