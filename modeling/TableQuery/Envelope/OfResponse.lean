import TableQuery.Decimal.Read
import TableQuery.Envelope
import TableQuery.Http.Message
import TableQuery.Http.Status
import TableQuery.Json.Reader
import TableQuery.Text.Cut

/-! What a server's response means.

A status from 200 to 299 is success: the body is JSON, or blank for no data, and the content range
tells the size of the whole result. Any other status is failure: the body names a code and a message,
or is itself the message (`ServerError.ofBody`), and code and status tell the kind of error
(`Error.ofServer`). -/
namespace TableQuery

/-- The total of a content range such as `0-9/25`; none if it is not known. -/
def contentRangeTotal? (value : String) : Option Nat :=
  match Text.cutLast '/' (Text.trim value.toList) with
  | some (_, total) => Decimal.natural? (UInt64.size - 1) (Text.trim total)
  | none => none

namespace ServerError

/-- The members read so far; a member is unset, or set to a text or to null. -/
structure Draft where
  code : Option (Option String)
  message : Option String
  details : Option (Option String)
  hint : Option (Option String)

def Draft.empty : Draft := ⟨none, none, none, none⟩

def text? : Json → Option String
  | .str spelled => Json.Reader.meant? spelled
  | _ => none

def optionalText? : Json → Option (Option String)
  | .null => some none
  | v => (text? v).map some

/-- Takes one member in; fails on one given twice and on one of the wrong type. -/
def Draft.put? (d : Draft) (name : String) (value : Json) : Option Draft :=
  match name with
  | "code" => if d.code.isSome then none else (optionalText? value).map fun v => { d with code := some v }
  | "message" =>
    if d.message.isSome then none else (text? value).map fun v => { d with message := some v }
  | "details" =>
    if d.details.isSome then none else (optionalText? value).map fun v => { d with details := some v }
  | "hint" => if d.hint.isSome then none else (optionalText? value).map fun v => { d with hint := some v }
  | _ => some d

def Draft.finish (d : Draft) : ServerError :=
  ⟨d.code.join, d.message.getD "", d.details.join, d.hint.join⟩

def Draft.putSpelled? (d : Draft) (m : String × Json) : Option Draft :=
  (Json.Reader.meant? m.1).bind fun name => d.put? name m.2

/-- Reads an object by its members' names, an array by their places. Members may be missing, and what
the others hold is of no account. The document's strings are as spelled. -/
def ofDocument? : Json → Option ServerError
  | .obj members => (members.foldlM Draft.putSpelled? Draft.empty).map Draft.finish
  | .arr items =>
    let names := ["code", "message", "details", "hint"]
    if names.length < items.length then none
    else ((names.zip items).foldlM (fun (d : Draft) m => d.put? m.1 m.2) Draft.empty).map Draft.finish
  | _ => none

/-- The failure a body describes; one with neither a code nor a message describes nothing. -/
def described? (body : List UInt8) : Option ServerError := do
  let document ← Json.Reader.spelled? body
  let error ← ofDocument? document
  if error.code.isSome || !error.message.isEmpty then pure error else none

/-- The described failure, or the body's text as message, or the phrase of the status. -/
def ofBody (status : Nat) (body : List UInt8) : ServerError :=
  match described? body with
  | some e => e
  | none =>
    let text := Text.strip (Text.Utf8.decode body)
    let message := if text.isEmpty then (Http.reason? status).getD "request failed" else text
    ⟨none, message, none, none⟩

end ServerError

namespace Error

/-- Codes of a missing, invalid or expired token, and of a lacking privilege. -/
def authCodes : List String := ["PGRST301", "PGRST302", "PGRST303", "42501"]

/-- The code of a single row asked for where there is not one. -/
def cardinalityCode : String := "PGRST116"

/-- The first number among the words of a failure's details. -/
def rowCount? (details : String) : Option Nat :=
  (Text.fields Text.isBlank details.toList).findSome? (Decimal.natural? (UInt64.size - 1))

def ofServer (status : Nat) (e : ServerError) : Error :=
  if status = 401 ∨ status = 403 ∨ e.code.any authCodes.contains then
    .auth .server (some status) e.code e.message
  else if e.code = some cardinalityCode then
    match e.details.bind rowCount? with
    | some 0 => .notFound
    | some n => .multipleRows n
    | none => .database status e
  else .database status e

end Error

namespace Envelope

def isSuccessStatus (status : Nat) : Bool := 200 ≤ status && status < 300

/-- The outcome a response stands for. -/
def ofResponse (r : Http.Response) : Envelope Json :=
  if isSuccessStatus r.status then
    let count := (r.headers.text? "content-range").bind contentRangeTotal?
    if r.body.all Text.isAsciiBlankByte then .success none count r.status
    else
      match Json.ofBytes? r.body with
      | some v => .success (some v) count r.status
      | none => .failure (.decode "response body is not valid JSON: malformed document") r.status
  else .failure (.ofServer r.status (.ofBody r.status r.body)) r.status

end Envelope
end TableQuery
