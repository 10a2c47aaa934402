import TableQuery.Client.Dispatch
import TableQuery.Server.Respond

/-! Dispatches in time.

A session is a client, what it talks to, and what has been sent so far. Runs begin at their times, wait
for an answer, a time limit or a withdrawal, whichever is first, and end. Time is counted in
milliseconds and moves from event to event; of the events of one moment those of the earlier run come
first (`Session.next?`), and within a run a withdrawal comes before an answer and an answer before a
time limit (`Session.awaited`). The cache has a clock of its own, which moves only when it is told to
(`Session.advance`). A server that breaks down takes the session with it: what is heard then is the error of
`Peer.process`, and nothing comes of the runs. -/
namespace TableQuery

/-- A reply prepared for the next message. -/
inductive PreparedReply where
  | respond (after : Duration) (r : Http.Response)
  | networkFailure (reason : String)
  | timedOut
  | never
deriving Repr, DecidableEq

/-- What a client talks to. -/
inductive Peer where
  | scripted (replies : List PreparedReply)
  | server (s : Server)

/-- A success with rows, which are the first of so many. -/
def Http.Response.counted (rows : List Json) (total : Nat) : Http.Response :=
  ⟨200, [("content-range", Server.Store.contentRange 0 rows.length (some total))],
    Text.Utf8.encode (Json.arr rows).render⟩

namespace Peer

/-- What a peer does with a message: answers at some time or never, or has still to process it. -/
inductive Reaction where
  | arrive (after : Duration) (a : Client.Arrival)
  | process (after : Duration) (t : Http.Target) (m : Http.Message)
  | never

def exhausted : String := "no scripted response left"

/-- Takes a message in. One whose address is no target does not get to a server. -/
def receive (p : Peer) (m : Http.Message) : Reaction × Peer :=
  match p with
  | .server s =>
    match Http.Target.read m.url with
    | .ok t => (.process (s.delay t) t m, p)
    | .error f => (.arrive ⟨0⟩ (.networkFailure f.message), p)
  | .scripted [] => (.arrive ⟨0⟩ (.networkFailure exhausted), p)
  | .scripted (r :: rest) =>
    let reaction : Reaction := match r with
      | .respond after response => .arrive after (.response response)
      | .networkFailure reason => .arrive ⟨0⟩ (.networkFailure reason)
      | .timedOut => .arrive ⟨0⟩ .timedOut
      | .never => .never
    (reaction, .scripted rest)

/-- Lets the server do what a message asks. -/
def process (p : Peer) (t : Http.Target) (m : Http.Message) : Except String (Client.Arrival × Peer) :=
  match p with
  | .server s =>
    match s.respond t m with
    | (some response, s) => .ok (.response response, .server s)
    | (none, _) => .error Server.overflowMessage
  | .scripted _ => .ok (.networkFailure exhausted, p)

end Peer

structure Session where
  client : Client
  peer : Peer
  /-- The cache's clock, in microseconds. -/
  now : Nat
  /-- Every message handed to the transport, the latest last. -/
  messages : List Http.Message

/-- One dispatch and when it begins, in milliseconds. -/
structure Run where
  request : Request
  options : Options
  start : Nat
  /-- How long after its beginning it is withdrawn. -/
  withdrawnAfter : Option Nat

namespace Session

def start (client : Client) (peer : Peer) : Session := ⟨client, peer, 0, []⟩

/-- What a waiting run waits for. -/
inductive Awaited where
  | arrival (a : Client.Arrival)
  | processing (t : Http.Target) (m : Http.Message)

/-- What happens next to a run. -/
inductive Event where
  | begin (r : Run)
  | finish (d : Client.Dispatch) (a : Awaited)

/-- The next event of the run at a place in the list of runs. -/
structure Entry where
  place : Nat
  time : Nat
  event : Event

/-- The earlier of two moments, the first if they are the same. -/
def earlier? (a b : Option (Nat × Awaited)) : Option (Nat × Awaited) :=
  match a, b with
  | some x, some y => some (if x.1 ≤ y.1 then x else y)
  | some x, none => some x
  | none, y => y

/-- What ends the waiting that begins now, and when; nothing, if nothing ever does. -/
def awaited (now : Nat) (reaction : Peer.Reaction) (limit : Option Duration)
    (withdrawn : Option Nat) : Option (Nat × Awaited) :=
  let answer := match reaction with
    | .arrive after a => some (now + after.ticks, Awaited.arrival a)
    | .process after t m => some (now + after.ticks, Awaited.processing t m)
    | .never => none
  earlier? (withdrawn.map fun t => (now + t, .arrival .withdrawn))
    (earlier? answer (limit.map fun d => (now + d.ticks, .arrival .timedOut)))

/-- Begins a run: it ends at once, waits, or waits for ever. -/
def beginRun (s : Session) (place : Nat) (r : Run) :
    (Option (Envelope Json) × Option Entry) × Session :=
  let (started, client) := s.client.start s.now r.request r.options (r.withdrawnAfter == some 0)
  let s := { s with client := client }
  match started with
  | .answered e => ((some e, none), s)
  | .sent d m =>
    let (reaction, peer) := s.peer.receive m
    let s := { s with peer := peer, messages := s.messages ++ [m] }
    let next := awaited r.start reaction (client.waitingTime r.options) r.withdrawnAfter
    ((none, next.map fun w => ⟨place, w.1, .finish d w.2⟩), s)

/-- Ends a run with what it waited for. -/
def finishRun (s : Session) (d : Client.Dispatch) (a : Awaited) :
    Except String (Envelope Json × Session) := do
  let (arrival, peer) ← match a with
    | .arrival x => .ok (x, s.peer)
    | .processing t m => s.peer.process t m
  let (e, client) := s.client.settle s.now d arrival (arrival == .withdrawn)
  .ok (e, { s with client := client, peer := peer })

/-- Whether one entry comes before another. -/
def Entry.before (a b : Entry) : Bool :=
  a.time < b.time || (a.time == b.time && a.place ≤ b.place)

/-- The entry that comes first, and the others. -/
def next? : List Entry → Option (Entry × List Entry)
  | [] => none
  | e :: es =>
    match next? es with
    | none => some (e, [])
    | some (first, rest) => if e.before first then some (e, es) else some (first, e :: rest)

/-- Plays at most `fuel` events; gives the outcomes with their runs' places. -/
def play (s : Session) : Nat → List Entry → Except String (List (Nat × Envelope Json) × Session)
  | 0, _ => .ok ([], s)
  | fuel + 1, entries =>
    match next? entries with
    | none => .ok ([], s)
    | some (e, rest) =>
      match e.event with
      | .begin r => do
        let ((ended, waiting), s) := s.beginRun e.place r
        let (others, s) ← s.play fuel (waiting.toList ++ rest)
        .ok ((ended.toList.map fun x => (e.place, x)) ++ others, s)
      | .finish d a => do
        let (x, s) ← s.finishRun d a
        let (others, s) ← s.play fuel rest
        .ok ((e.place, x) :: others, s)

/-- Plays all runs to their ends, two events to each; gives their outcomes in the order of the runs,
nothing for a run that waits for ever. -/
def playAll (s : Session) (runs : List Run) :
    Except String (List (Option (Envelope Json)) × Session) := do
  let entries := runs.mapIdx fun i r => ⟨i, r.start, .begin r⟩
  let (outcomes, s) ← s.play (2 * runs.length) entries
  .ok ((List.range runs.length).map fun i => (outcomes.find? fun o => o.1 == i).map Prod.snd, s)

/-- Sends a message past the client; nothing comes back from a peer that does not process messages. -/
def sendRaw (s : Session) (m : Http.Message) : Except String (Client.Arrival × Session) := do
  let (arrival, peer) ← match Http.Target.read m.url with
    | .ok t => s.peer.process t m
    | .error f => .ok (.networkFailure f.message, s.peer)
  .ok (arrival, { s with peer := peer, messages := s.messages ++ [m] })

/-- Lets the cache's entries age. -/
def advance (s : Session) (d : Duration) : Session := { s with now := s.now + d.micros }

def invalidate (s : Session) (p : Cache.Pattern) : Nat × Session :=
  let (n, client) := s.client.invalidate p
  (n, { s with client := client })

/-- How many messages were handed to the transport. -/
def calls (s : Session) : Nat := s.messages.length

/-- How many prepared replies are left. -/
def remaining (s : Session) : Nat :=
  match s.peer with
  | .scripted replies => replies.length
  | .server _ => 0

/-- The stored rows of a table. -/
def rows (s : Session) (table : String) : List Server.Row :=
  match s.peer with
  | .server server => server.store.rows table
  | .scripted _ => []

/-- Adds a row to a table behind the client's back. -/
def insertRow (s : Session) (table : String) (row : Server.Row) : Session :=
  match s.peer with
  | .server server =>
    { s with peer := .server { server with store := server.store.insertRow table row } }
  | .scripted _ => s

end Session
end TableQuery
