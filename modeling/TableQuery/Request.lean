import TableQuery.Url.Form
import TableQuery.Filter

/-! Compiled requests.

A request is what goes over the wire, with how its answer is to be shaped and which tables it touches.
`Request.canonical` is one text for everything that decides a read's result. -/
namespace TableQuery

inductive Method where
  | get
  | head
  | post
  | patch
  | delete
deriving Repr, DecidableEq

/-- How many rows are expected: any number, exactly one, at most one, or none but their count. -/
inductive Mode where
  | many
  | single
  | maybeSingle
  | count
deriving Repr, DecidableEq

def Method.name : Method → String
  | .get => "GET"
  | .head => "HEAD"
  | .post => "POST"
  | .patch => "PATCH"
  | .delete => "DELETE"

def Method.isWrite : Method → Bool
  | .post | .patch | .delete => true
  | .get | .head => false

def Mode.name : Mode → String
  | .many => "many"
  | .single => "single"
  | .maybeSingle => "maybe_single"
  | .count => "count"

structure Request where
  table : String
  schema : Option String
  method : Method
  mode : Mode
  params : List Param
  headers : List Param
  body : Option String
  /-- The table itself, then every embedded resource. -/
  tables : List String
deriving Repr, DecidableEq

/-- A text with its ASCII capitals made small. -/
def asciiLower (s : String) : String := String.ofList (s.toList.map Char.toLower)

namespace Request

def path (r : Request) : String := "/" ++ r.table

def queryString (r : Request) : String := Url.Form.encode r.params

def param? (r : Request) (name : String) : Option String :=
  (r.params.find? fun p => p.1 == name).map Prod.snd

def header? (r : Request) (name : String) : Option String :=
  (r.headers.find? fun h => asciiLower h.1 == asciiLower name).map Prod.snd

def isWrite (r : Request) : Bool := r.method.isWrite

def canonicalHeader (h : Param) : String := asciiLower h.1 ++ "=" ++ h.2 ++ ";"

/-- `schema.table|mode|METHOD|query|name=value;…` -/
def canonical (r : Request) : String :=
  (match r.schema with
    | some s => s ++ "."
    | none => "") ++
  r.table ++ "|" ++ r.mode.name ++ "|" ++ r.method.name ++ "|" ++ r.queryString ++ "|" ++
  String.join (r.headers.map canonicalHeader)

def render (r : Request) : String :=
  r.method.name ++ " " ++ r.path ++ (if r.params.isEmpty then "" else "?" ++ r.queryString)

end Request
end TableQuery
