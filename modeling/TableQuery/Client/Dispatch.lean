import TableQuery.Client.Basic
import TableQuery.Envelope.OfResponse
import TableQuery.Query.Compile

/-! One request, from the caller to the transport and back.

A dispatch is made of steps between which others may come: it looks into the cache (`lookup`), takes a
ticket (`reserve`), makes its message and hands it over (`send`), and when an answer or a failure
arrives it settles (`settle`). A read is looked up and stored; a write drops what the cache holds of its
table, and does so too when nobody knows whether the server carried it out. Nothing is sent twice. -/
namespace TableQuery.Client

/-- What comes back for a message that was sent. -/
inductive Arrival where
  | response (r : Http.Response)
  | networkFailure (reason : String)
  | timedOut
  | withdrawn
deriving Repr, DecidableEq

def Arrival.networkText (reason : String) : String := "network error: " ++ reason

def Arrival.timedOutText : String := "timed out"

/-- Whether the cache takes part. -/
def usesCache (r : Request) (options : Options) : Bool :=
  options.cache != .bypass && !r.isWrite

/-- The lifetime of what is stored, if it is not the cache's own. -/
def storedLifetime (options : Options) : Option Duration :=
  match options.cache with
  | .lifetime ttl => some ttl
  | _ => none

/-- Looks a read up. -/
def lookup (c : Client) (now : Nat) (r : Request) (options : Options) :
    Option (Envelope Json) × Client :=
  match c.cache with
  | some cache =>
    if usesCache r options then
      let (hit, cache) := cache.get now r
      (hit, { c with cache := some cache })
    else (none, c)
  | none => (none, c)

/-- The ticket under which the result of a read may be stored. -/
def reserve (c : Client) (r : Request) (options : Options) : Option Cache.Ticket :=
  if usesCache r options then c.cache.map fun cache => cache.reserve r else none

/-! ### Messages -/

/-- A request's own headers take the place of the client's. -/
def addRequestHeader (headers : Http.Headers) (h : Param) : Except Fault Http.Headers :=
  match Http.headerName? h.1 with
  | none => .error (.invalidHeaderName h.1 badName)
  | some name =>
    if Http.isHeaderValue h.2 then .ok (headers.set name h.2)
    else .error (.invalidHeaderValue name badValue)

def authorize (c : Client) (headers : Http.Headers) : Except Error Http.Headers :=
  match c.credentials.header with
  | .error reason => .error (.credentials reason)
  | .ok none => .ok headers
  | .ok (some value) =>
    if Http.isHeaderValue value then .ok (headers.set "authorization" value)
    else .error (.credentials "credential provider returned an invalid header value")

def message (c : Client) (r : Request) : Except Error Http.Message := do
  let start := c.headers.set "accept" "application/json"
  let headers ← orError (r.headers.foldlM addRequestHeader start)
  let headers ← c.authorize headers
  .ok ⟨r.method.name, c.urlFor r, headers, r.body.map Text.Utf8.encode⟩

/-! ### The steps -/

/-- A request that has been sent, and what is needed when something arrives. -/
structure Dispatch where
  request : Request
  options : Options
  ticket : Option Cache.Ticket

/-- How far a dispatch gets before it has to wait. -/
inductive Start where
  | answered (result : Envelope Json)
  | sent (d : Dispatch) (m : Http.Message)

/-- Makes the message of a request and hands it over, unless it was withdrawn before. -/
def send (c : Client) (r : Request) (options : Options) (ticket : Option Cache.Ticket)
    (withdrawn : Bool) : Start × Client :=
  if withdrawn then (.answered (.failure .cancelled 0), c)
  else
    match c.message r with
    | .error e => (.answered (.failure e 0), c)
    | .ok m => (.sent ⟨r, options, ticket⟩ m, { c with sent := c.sent + 1 })

/-- Everything up to the waiting: an answer from the cache, or a message sent. -/
def start (c : Client) (now : Nat) (r : Request) (options : Options) (withdrawn : Bool) :
    Start × Client :=
  match c.lookup now r options with
  | (some hit, c) => (.answered hit, c)
  | (none, c) => c.send r options (c.reserve r options) withdrawn

/-- How long a dispatch waits at most. -/
def waitingTime (c : Client) (options : Options) : Option Duration := options.timeout.or c.timeout

/-- What an arrival means. -/
def outcome (limit : Option Duration) : Arrival → Envelope Json
  | .response r => .ofResponse r
  | .networkFailure reason => .failure (.network reason) 0
  | .timedOut =>
    .failure (.timeout ("no response within " ++ (limit.map Duration.render).getD "")) 0
  | .withdrawn => .failure .cancelled 0

/-- Whether a write with this outcome was carried out, or may have been. -/
def mayBeApplied (e : Envelope Json) : Bool := e.error?.all Error.isTransport

def dropTable (c : Client) (r : Request) (e : Envelope Json) : Client :=
  if r.isWrite && mayBeApplied e then (c.invalidate (.table r.table)).2 else c

def store (c : Client) (now : Nat) (d : Dispatch) (e : Envelope Json) : Client :=
  match c.cache, d.ticket with
  | some cache, some ticket =>
    if e.isOk then
      { c with cache := some (cache.commit now ticket e (storedLifetime d.options)).2 }
    else c
  | _, _ => c

/-- Takes in what arrived: the caller's answer, and the cache brought up to date. Nothing is stored for a
caller who has withdrawn the request by then. -/
def settle (c : Client) (now : Nat) (d : Dispatch) (a : Arrival) (withdrawn : Bool) :
    Envelope Json × Client :=
  let e := (outcome (c.waitingTime d.options) a).shape d.request.mode
  let c := c.dropTable d.request e
  (e, if withdrawn then c else c.store now d e)

theorem sent_settle (c : Client) (now : Nat) (d : Dispatch) (a : Arrival) (withdrawn : Bool) :
    (c.settle now d a withdrawn).2.sent = c.sent := by
  have h1 (c : Client) (e : Envelope Json) : (c.store now d e).sent = c.sent := by
    unfold store
    split
    · split <;> rfl
    · rfl
  have h2 (c : Client) (e : Envelope Json) : (c.dropTable d.request e).sent = c.sent := by
    unfold dropTable
    split
    · unfold invalidate
      split <;> rfl
    · rfl
  cases withdrawn
  · simp only [settle, Bool.false_eq_true, if_false, h1, h2]
  · simp only [settle, if_true, h2]

end TableQuery.Client
