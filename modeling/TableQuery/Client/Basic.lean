import TableQuery.Config.Basic
import TableQuery.Http.Message
import TableQuery.Url.Address

/-! A client of one interface.

A client knows the address that tables are below, what it sends along with every request, and where its
credentials come from. Building one checks the configuration: the address has to be one that a path can
be added to, and headers have to be headers (`Client.build`). The address of a request is the client's,
without the slashes at its end, then the table and the query string (`Client.urlFor`). -/
namespace TableQuery

/-- Where the value of the authorization header comes from. -/
inductive Credentials where
  | none
  | token (text : String)
  /-- A provider that gives the whole header, or no header. -/
  | provided (header : Option String)
  | failing (reason : String)
deriving Repr, DecidableEq

/-- What a provider that failed says of itself. -/
def Credentials.failureText (reason : String) : String := "Credential error: " ++ reason

/-- The header's value, or why there is none to be had. -/
def Credentials.header : Credentials → Except String (Option String)
  | .none => .ok Option.none
  | .token text => .ok (some ("Bearer " ++ text))
  | .provided header => .ok header
  | .failing reason => .error reason

structure Client where
  address : Url.Address
  /-- Sent with every request. -/
  headers : Http.Headers
  credentials : Credentials
  schema : Option String
  timeout : Option Duration
  cache : Option Cache
  /-- How many requests were handed to the transport. -/
  sent : Nat

namespace Client

/-! ### Building -/

def badName : String := "invalid HTTP header name"

def badValue : String := "failed to parse header value"

def checkedValue (key value : String) : Except ConfigFault String :=
  if Http.isHeaderValue value then .ok value else .error (.invalid key badValue)

def addHeader (headers : Http.Headers) (h : Param) : Except ConfigFault Http.Headers := do
  let key := ClientConfig.headersPath ++ h.1
  match Http.headerName? h.1 with
  | none => .error (.invalid key badName)
  | some name =>
    let value ← checkedValue key h.2
    .ok (headers.set name value)

/-- The headers of every request, the key's before those of the configuration. -/
def buildHeaders (config : ClientConfig) : Except ConfigFault Http.Headers := do
  let start ← match config.apiKey with
    | some key => (checkedValue ClientConfig.apiKeyKey key).map fun v => [("apikey", v)]
    | none => .ok []
  config.headers.foldlM addHeader start

def buildAddress (config : ClientConfig) : Except ConfigFault Url.Address :=
  match Url.Address.parse config.url with
  | .error fault => .error (.invalid ClientConfig.urlKey fault.message)
  | .ok address =>
    if address.isBase then .ok address else .error (.invalid ClientConfig.urlKey "not a base URL")

/-- Builds a client. Credentials and cache, where given, come before those of the configuration. -/
def build (config : ClientConfig) (credentials : Option Credentials) (cache : Option Cache) :
    Except ConfigFault Client := do
  let address ← buildAddress config
  let headers ← buildHeaders config
  let own := match config.apiKey with
    | some key => Credentials.token key
    | none => .none
  .ok {
    address := address
    headers := headers
    credentials := credentials.getD own
    schema := config.schema
    timeout := config.timeout
    cache := cache.or (config.cache.map Cache.empty)
    sent := 0 }

/-! ### Using -/

/-- A read of a table through this client. -/
def query (c : Client) (table : String) : Query :=
  { Query.on table with schema := c.schema, bound := true }

def trimSlashes (text : String) : String :=
  String.ofList (text.toList.reverse.dropWhile (· == '/')).reverse

def urlBelow (address : Url.Address) (r : Request) : String :=
  trimSlashes address.render ++ "/" ++ r.table ++
    (if r.queryString.isEmpty then "" else "?" ++ r.queryString)

def urlFor (c : Client) (r : Request) : String := urlBelow c.address r

/-- Drops what the cache holds under a pattern; gives how much it was. -/
def invalidate (c : Client) (p : Cache.Pattern) : Nat × Client :=
  match c.cache with
  | none => (0, c)
  | some cache =>
    let (n, cache) := cache.invalidate p
    (n, { c with cache := some cache })

end Client
end TableQuery
