import TableQuery.Http.Target
import TableQuery.Query.Basic
import TableQuery.Server.Store

/-! The server: a store behind a path for each table.

A request names its table by the one segment of its path. It is turned down, in this order, for its
token, its schema, its parameters and its table; only then is its method looked at. What a request for
the head alone is answered has no body, whatever it is (`body_respond_head`). A request that the server
breaks down over is not answered at all. -/
namespace TableQuery

structure Server where
  store : Server.Store
  /-- The token every request has to show, if one is asked for. -/
  bearer : Option String
  /-- The schemas that may be named; any, if there are none. -/
  schemas : List String
  /-- How long the server takes for a request to a table. -/
  latency : Duration

namespace Server

/-! ### Paths -/

/-- Where a path leads. -/
inductive Route where
  | table (name : String)
  /-- The segment's escapes are not UTF-8. -/
  | malformed
  | unknown
deriving Repr, DecidableEq

def route (path : List Char) : Route :=
  match path with
  | '/' :: segment =>
    if segment.isEmpty || segment.contains '/' then .unknown
    else match Text.Utf8.decode? (Url.Form.percentDecode segment) with
      | some name => .table name
      | none => .malformed
  | _ => .unknown

/-! ### Admission -/

def bearerMark : List Char := "Bearer ".toList

def authorize (server : Server) (headers : Http.Headers) : Except Rejection Unit :=
  match server.bearer with
  | none => .ok ()
  | some token =>
    match (headers.text? "authorization").bind fun v => bearerMark.isPrefixOf? v.toList with
    | none => .error .missingToken
    | some shown => if String.ofList shown = token then .ok () else .error .invalidToken

/-- The header that names the schema to read from or to write to. -/
def profileHeader (method : String) : String :=
  if method = "GET" ∨ method = "HEAD" then "accept-profile" else "content-profile"

def checkSchema (server : Server) (method : String) (headers : Http.Headers) : Except Rejection Unit :=
  match headers.text? (profileHeader method) with
  | none => .ok ()
  | some schema =>
    if server.schemas.isEmpty || server.schemas.contains schema then .ok ()
    else .error (.unknownSchema server.schemas)

def vet (server : Server) (method name query : String) (headers : Http.Headers) :
    Except Rejection Params := do
  server.authorize headers
  server.checkSchema method headers
  let p ← Params.read query headers
  let _ ← server.store.table name
  .ok p

/-! ### Answers -/

/-- What a request to a table is answered, and the store after it. -/
def process (server : Server) (method name query : String) (headers : Http.Headers)
    (body : List UInt8) : Except Halt Reply × Store :=
  let store := server.store
  match server.vet method name query headers with
  | .error r => (.error (.refused r), store)
  | .ok p =>
    match method with
    | "GET" => (store.read p name false, store)
    | "HEAD" => (store.read p name true, store)
    | "POST" => store.insert p name body
    | "PATCH" => store.update p name body
    | "DELETE" => store.delete p name
    | other => (.error (.refused (.unsupportedMethod other)), store)

def bytesOf : Option Json → List UInt8
  | some v => Text.Utf8.encode v.render
  | none => []

def Reply.toResponse (r : Reply) : Http.Response :=
  ⟨r.status, r.contentRange.toList.map fun v => ("content-range", v), bytesOf r.body⟩

def Rejection.toResponse (r : Rejection) : Http.Response := ⟨r.status, [], bytesOf (some r.body)⟩

/-- What the client is told; nothing by a server that breaks down. -/
def responseOf : Except Halt Reply → Option Http.Response
  | .ok r => some r.toResponse
  | .error (.refused r) => some r.toResponse
  | .error .overflow => none

def malformedPath : Http.Response :=
  ⟨400, [], Text.Utf8.encode "Invalid URL: Invalid UTF-8 in \x60table\x60"⟩

def notFound : Http.Response := ⟨404, [], []⟩

/-- The answer before the body is left out for a request for the head. -/
def answer (server : Server) (t : Http.Target) (m : Http.Message) : Option Http.Response × Server :=
  match route t.path with
  | .unknown => (some notFound, server)
  | .malformed => (some malformedPath, server)
  | .table name =>
    let (result, store) := server.process m.method name t.query m.headers (m.body.getD [])
    (responseOf result, { server with store := store })

/-- Answers a message that came for a target, unless it breaks down; gives the server after it. -/
def respond (server : Server) (t : Http.Target) (m : Http.Message) : Option Http.Response × Server :=
  let (response, server) := server.answer t m
  (if m.method = "HEAD" then response.map fun r => { r with body := [] } else response, server)

theorem body_respond_head (server : Server) (t : Http.Target) (m : Http.Message)
    (h : m.method = "HEAD") : ∀ r ∈ (server.respond t m).1, r.body = [] := by
  simp [respond, h]

/-- How long it takes until a message for a target is processed. -/
def delay (server : Server) (t : Http.Target) : Duration :=
  match route t.path with
  | .table _ => server.latency
  | _ => ⟨0⟩

end Server
end TableQuery
