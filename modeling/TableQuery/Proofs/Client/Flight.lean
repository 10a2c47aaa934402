import Mathlib.Data.List.Induction
import TableQuery.Client.Dispatch
import TableQuery.Proofs.Client.Settling

/-! One dispatch, look by look.

A dispatch does not run through: it asks for credentials and waits for an answer, and while it does others
call the cache, send messages of their own, and its caller may withdraw it. A `Flight` is a dispatch with
how far it has got, and an `Event` is what happens next: the caller withdraws, somebody else uses the cache
or the transport, or the dispatch is looked after once more (`Flight.look`). What a look finds is open:
whether the provider has given its credentials and which, and whether the transport has come to anything,
and to what.

Until the message is handed over a look goes one step and reads no more than one thing that others may
change, so that everything else may happen between any two of these steps. In particular a withdrawal may
come after it was last looked for and before the message is made, from the provider itself with its answer:
the message goes out then. While it is waited for an answer a withdrawal comes before the answer, and the
answer before the limit. With nothing in between, the looks of a flight are the steps of a dispatch
(`run_of_start`, `look_of_arrived`). -/
namespace TableQuery.Client

/-! ### Messages under given credentials -/

/-- The headers of a message before its credentials are known. -/
def requestHeaders (c : Client) (r : Request) : Except Error Http.Headers :=
  orError (r.headers.foldlM addRequestHeader (c.headers.set "accept" "application/json"))

/-- A client whose provider answers this. -/
def withCredentials (c : Client) (header : Except String (Option String)) : Client :=
  { c with credentials := match header with
      | .ok value => .provided value
      | .error reason => .failing reason }

@[simp] theorem header_withCredentials (c : Client) (header : Except String (Option String)) :
    (c.withCredentials header).credentials.header = header := by
  cases header <;> rfl

theorem message_withCredentials_self (c : Client) (r : Request) :
    (c.withCredentials c.credentials.header).message r = c.message r := by
  have hauthorize : (c.withCredentials c.credentials.header).authorize = c.authorize := by
    funext headers
    unfold authorize
    rw [header_withCredentials]
  unfold message
  rw [hauthorize]
  rfl

/-- Without its own headers there is no message, whatever the credentials. -/
theorem message_of_requestHeaders {c : Client} {r : Request} {e : Error} (h : c.requestHeaders r = .error e)
    (header : Except String (Option String)) : (c.withCredentials header).message r = .error e := by
  show ((c.requestHeaders r).bind fun hs => _) = _
  rw [h]
  rfl

/-! ### Flights -/

/-- What a transport comes to with a message. -/
inductive Reply where
  | response (r : Http.Response)
  | networkFailure (reason : String)
  | timedOut

def Reply.arrival : Reply → Arrival
  | .response r => .response r
  | .networkFailure reason => .networkFailure reason
  | .timedOut => .timedOut

/-- What there is to be found when a dispatch is looked after. -/
structure Look where
  /-- The cache's clock, in microseconds. -/
  now : Nat
  /-- The clock of the waiting, in milliseconds. -/
  time : Nat
  /-- What the provider of credentials has come to, if it has. -/
  credentials : Option (Except String (Option String))
  /-- What the transport has come to, if it has. -/
  reply : Option Reply

/-- How far a dispatch has got. -/
inductive Flight.Stage where
  | ready
  /-- The look-up gave nothing. -/
  | missed
  /-- There is a ticket, where the cache takes part. -/
  | reserved (ticket : Option Cache.Ticket)
  /-- Credentials are wanted, if the dispatch still is. -/
  | asking (ticket : Option Cache.Ticket)
  /-- The provider is asked for them. -/
  | polling (ticket : Option Cache.Ticket)
  | made (ticket : Option Cache.Ticket) (m : Http.Message)
  /-- A message was handed over at that time. -/
  | waiting (ticket : Option Cache.Ticket) (since : Nat)
  | arrived (ticket : Option Cache.Ticket) (a : Arrival)
  | landed (e : Envelope Json)

/-- No message was handed over yet, but one may be. -/
def Flight.Stage.isEarly : Stage → Bool
  | .ready | .missed | .reserved _ | .asking _ | .polling _ | .made _ _ => true
  | .waiting _ _ | .arrived _ _ | .landed _ => false

structure Flight where
  client : Client
  request : Request
  options : Options
  stage : Flight.Stage
  withdrawn : Bool
  /-- The messages that this dispatch handed over, with their times. -/
  sent : List (Nat × Http.Message)

/-- What happens next. -/
inductive Event where
  | withdraw
  /-- Somebody else calls the cache. -/
  | call (op : Cache.Op)
  /-- Another dispatch of the client sends its message. -/
  | otherSend
  | look (l : Look)

/-- What others do to a client. -/
def besides (c : Client) : Event → Client
  | .call op => { c with cache := c.cache.map (·.apply op) }
  | .otherSend => { c with sent := c.sent + 1 }
  | .withdraw | .look _ => c

namespace Flight

def start (c : Client) (r : Request) (options : Options) : Flight := ⟨c, r, options, .ready, false, []⟩

/-- What the dispatch knows of itself when it settles. -/
def dispatch (f : Flight) (ticket : Option Cache.Ticket) : Dispatch := ⟨f.request, f.options, ticket⟩

def isLanded (f : Flight) : Bool :=
  match f.stage with
  | .landed _ => true
  | _ => false

/-- When the waiting that began at some time reaches its limit. -/
def limit (f : Flight) (since : Nat) : Option Nat :=
  (f.client.waitingTime f.options).map fun d => since + d.ticks

/-- Looks into the cache. -/
def afterLookup (f : Flight) (l : Look) : Flight :=
  match f.client.lookup l.now f.request f.options with
  | (some hit, c) => { f with client := c, stage := .landed hit }
  | (none, c) => { f with client := c, stage := .missed }

/-- Makes the message, if there are credentials to make it with. Without them it has to be asked again. -/
def asked (f : Flight) (l : Look) (ticket : Option Cache.Ticket) : Stage :=
  match l.credentials with
  | none =>
    match f.client.requestHeaders f.request with
    | .error e => .landed (.failure e 0)
    | .ok _ => .asking ticket
  | some header =>
    match (f.client.withCredentials header).message f.request with
    | .error e => .landed (.failure e 0)
    | .ok m => .made ticket m

/-- Looks whether the transport has come to anything, or else the limit. -/
def awaited (f : Flight) (l : Look) (ticket : Option Cache.Ticket) (since : Nat) : Stage :=
  match l.reply with
  | some reply => .arrived ticket reply.arrival
  | none => if (f.limit since).any (· ≤ l.time) then .arrived ticket .timedOut else .waiting ticket since

/-- Hands a message over, and looks at once what comes of it. -/
def handOver (f : Flight) (l : Look) (ticket : Option Cache.Ticket) (m : Http.Message) : Flight :=
  { f with
    client := { f.client with sent := f.client.sent + 1 }
    stage := f.awaited l ticket l.time
    sent := f.sent ++ [(l.time, m)] }

def settled (f : Flight) (l : Look) (ticket : Option Cache.Ticket) (a : Arrival) : Flight :=
  let (e, c) := f.client.settle l.now (f.dispatch ticket) a f.withdrawn
  { f with client := c, stage := .landed e }

/-- Looks after a dispatch. There is nothing to look after once it has landed. -/
def look (f : Flight) (l : Look) : Option Flight :=
  match f.stage with
  | .ready => some (f.afterLookup l)
  | .missed => some { f with stage := .reserved (f.client.reserve f.request f.options) }
  | .reserved ticket =>
    some { f with stage := if f.withdrawn then .landed (.failure .cancelled 0) else .asking ticket }
  | .asking ticket => some { f with stage := if f.withdrawn then .arrived ticket .withdrawn else .polling ticket }
  | .polling ticket => some { f with stage := f.asked l ticket }
  | .made ticket m => some (f.handOver l ticket m)
  | .waiting ticket since =>
    some { f with stage := if f.withdrawn then .arrived ticket .withdrawn else f.awaited l ticket since }
  | .arrived ticket a => some (f.settled l ticket a)
  | .landed _ => none

/-- The flight after an event; none if the event is not possible. A withdrawal after the landing is none. -/
def step (f : Flight) : Event → Option Flight
  | .look l => f.look l
  | .withdraw => some { f with withdrawn := f.withdrawn || !f.isLanded }
  | e => some { f with client := f.client.besides e }

def run (f : Flight) (events : List Event) : Option Flight := events.foldlM step f

/-! ### What a look may do -/

theorem awaited_cases (f : Flight) (l : Look) (ticket : Option Cache.Ticket) (since : Nat) :
    (∃ a, f.awaited l ticket since = .arrived ticket a) ∨ f.awaited l ticket since = .waiting ticket since := by
  unfold awaited
  split
  · exact .inl ⟨_, rfl⟩
  · split
    · exact .inl ⟨_, rfl⟩
    · exact .inr rfl

/-- What a look comes to, where it is possible. -/
inductive Looks (f : Flight) (l : Look) : Flight → Prop where
  | hit {e : Envelope Json} {c : Client} (hs : f.stage = .ready)
      (h : f.client.lookup l.now f.request f.options = (some e, c)) :
      Looks f l { f with client := c, stage := .landed e }
  | miss {c : Client} (hs : f.stage = .ready)
      (h : f.client.lookup l.now f.request f.options = (none, c)) :
      Looks f l { f with client := c, stage := .missed }
  | reserve (hs : f.stage = .missed) :
      Looks f l { f with stage := .reserved (f.client.reserve f.request f.options) }
  | refuse {ticket : Option Cache.Ticket} (hs : f.stage = .reserved ticket) (hw : f.withdrawn = true) :
      Looks f l { f with stage := .landed (.failure .cancelled 0) }
  | proceed {ticket : Option Cache.Ticket} (hs : f.stage = .reserved ticket) (hw : f.withdrawn = false) :
      Looks f l { f with stage := .asking ticket }
  | poll {ticket : Option Cache.Ticket} (hs : f.stage = .asking ticket) (hw : f.withdrawn = false) :
      Looks f l { f with stage := .polling ticket }
  | unfit {ticket : Option Cache.Ticket} {e : Error} (hs : f.stage = .polling ticket)
      (hcredentials : l.credentials = none) (h : f.client.requestHeaders f.request = .error e) :
      Looks f l { f with stage := .landed (.failure e 0) }
  | undecided {ticket : Option Cache.Ticket} (hs : f.stage = .polling ticket) (hcredentials : l.credentials = none) :
      Looks f l { f with stage := .asking ticket }
  | unusable {ticket : Option Cache.Ticket} {header : Except String (Option String)} {e : Error}
      (hs : f.stage = .polling ticket) (hcredentials : l.credentials = some header)
      (h : (f.client.withCredentials header).message f.request = .error e) :
      Looks f l { f with stage := .landed (.failure e 0) }
  | make {ticket : Option Cache.Ticket} {header : Except String (Option String)} {m : Http.Message}
      (hs : f.stage = .polling ticket) (hcredentials : l.credentials = some header)
      (h : (f.client.withCredentials header).message f.request = .ok m) :
      Looks f l { f with stage := .made ticket m }
  | handOver {ticket : Option Cache.Ticket} {m : Http.Message} (hs : f.stage = .made ticket m) :
      Looks f l (f.handOver l ticket m)
  | await {ticket : Option Cache.Ticket} {since : Nat} (hs : f.stage = .waiting ticket since)
      (hw : f.withdrawn = false) : Looks f l { f with stage := f.awaited l ticket since }
  | notice {ticket : Option Cache.Ticket} (hs : f.stage = .asking ticket ∨ ∃ since, f.stage = .waiting ticket since)
      (hw : f.withdrawn = true) : Looks f l { f with stage := .arrived ticket .withdrawn }
  | settle {ticket : Option Cache.Ticket} {a : Arrival} (hs : f.stage = .arrived ticket a) :
      Looks f l { f with
        client := (f.client.settle l.now (f.dispatch ticket) a f.withdrawn).2
        stage := .landed (f.client.settle l.now (f.dispatch ticket) a f.withdrawn).1 }

theorem looks_of_polling {f : Flight} {ticket : Option Cache.Ticket} (hs : f.stage = .polling ticket) (l : Look) :
    f.Looks l { f with stage := f.asked l ticket } := by
  unfold asked
  split
  · next hcredentials =>
    split
    · next he => exact .unfit hs hcredentials he
    · exact .undecided hs hcredentials
  · next header hcredentials =>
    split
    · next he => exact .unusable hs hcredentials he
    · next hm => exact .make hs hcredentials hm

theorem looks_of_look {f g : Flight} {l : Look} (h : f.look l = some g) : f.Looks l g := by
  unfold look at h
  split at h
  · next hs =>
    obtain rfl := Option.some.inj h
    unfold afterLookup
    split
    · next hl => exact .hit hs hl
    · next hl => exact .miss hs hl
  · next hs => exact Option.some.inj h ▸ .reserve hs
  · next ticket hs =>
    obtain rfl := Option.some.inj h
    split
    · next hw => exact .refuse hs hw
    · next hw => exact .proceed hs (eq_false_of_ne_true hw)
  · next ticket hs =>
    obtain rfl := Option.some.inj h
    split
    · next hw => exact .notice (.inl hs) hw
    · next hw => exact .poll hs (eq_false_of_ne_true hw)
  · next ticket hs => exact Option.some.inj h ▸ looks_of_polling hs l
  · next ticket m hs => exact Option.some.inj h ▸ .handOver hs
  · next ticket since hs =>
    obtain rfl := Option.some.inj h
    split
    · next hw => exact .notice (.inr ⟨since, hs⟩) hw
    · next hw => exact .await hs (eq_false_of_ne_true hw)
  · next ticket a hs => exact Option.some.inj h ▸ .settle hs
  · exact nomatch h

/-- The events that are possible, each with its result. -/
inductive Leads (f : Flight) : Event → Flight → Prop where
  | look {l : Look} {g : Flight} (h : f.Looks l g) : Leads f (.look l) g
  | withdraw : Leads f .withdraw { f with withdrawn := f.withdrawn || !f.isLanded }
  | call (op : Cache.Op) : Leads f (.call op) { f with client := f.client.besides (.call op) }
  | otherSend : Leads f .otherSend { f with client := f.client.besides .otherSend }

theorem leads_of_step {f g : Flight} {e : Event} (h : f.step e = some g) : f.Leads e g := by
  cases e with
  | look l => exact .look (looks_of_look h)
  | withdraw => exact Option.some.inj h ▸ .withdraw
  | call op => exact Option.some.inj h ▸ .call op
  | otherSend => exact Option.some.inj h ▸ .otherSend

theorem run_cons (f : Flight) (e : Event) (events : List Event) :
    f.run (e :: events) = (f.step e).bind (·.run events) := rfl

theorem run_append (f : Flight) (before after : List Event) :
    f.run (before ++ after) = (f.run before).bind (·.run after) := by
  unfold run
  rw [List.foldlM_append]
  rfl

theorem run_concat {f g : Flight} {before : List Event} {e : Event} :
    f.run (before ++ [e]) = some g ↔ ∃ f', f.run before = some f' ∧ f'.step e = some g := by
  rw [run_append, Option.bind_eq_some_iff]
  simp [run]

/-- What holds at the start and of every event's result holds of a run, with the events so far. -/
theorem run_induction {start : Flight} {P : List Event → Flight → Prop} (hstart : P [] start)
    (hstep : ∀ before e f g, start.run before = some f → P before f → f.Leads e g → P (before ++ [e]) g)
    {events : List Event} {f : Flight} (hrun : start.run events = some f) : P events f := by
  induction events using List.reverseRecOn generalizing f with
  | nil => exact Option.some.inj hrun ▸ hstart
  | append_singleton before e ih =>
    obtain ⟨f', hbefore, he⟩ := run_concat.mp hrun
    exact hstep before e f' f hbefore (ih hbefore) (leads_of_step he)

/-! ### What a flight keeps -/

/-- What a flight is of does not change: the request, the options, and the client but for its cache and
its count of messages. -/
structure Of (f : Flight) (c : Client) (r : Request) (options : Options) : Prop where
  request : f.request = r
  options : f.options = options
  client : f.client = { c with cache := f.client.cache, sent := f.client.sent }

section Of
variable {start f g : Flight} {c : Client} {r : Request} {options : Options} {e : Event} {events : List Event}

theorem Of.withClient {c' : Client} {stage : Stage} {withdrawn : Bool} {sent : List (Nat × Http.Message)}
    (h : f.Of c r options) {cache : Option Cache} {n : Nat}
    (hclient : c' = { f.client with cache := cache, sent := n }) :
    Of ⟨c', f.request, f.options, stage, withdrawn, sent⟩ c r options where
  request := h.request
  options := h.options
  client := by
    rw [hclient, h.client]

theorem Of.leads (h : f.Of c r options) (hleads : f.Leads e g) : g.Of c r options := by
  have hself : f.client = { f.client with cache := f.client.cache, sent := f.client.sent } := rfl
  cases hleads with
  | withdraw => exact h.withClient hself
  | call op => exact h.withClient rfl
  | otherSend => exact h.withClient rfl
  | look hlooks =>
    cases hlooks with
    | @hit e c' hs hl | @miss c' hs hl =>
      obtain ⟨cache, hcache⟩ := client_lookup f.client _ f.request f.options
      rw [hl] at hcache
      exact h.withClient hcache
    | settle hs =>
      obtain ⟨cache, hcache⟩ := client_settle f.client _ (f.dispatch _) _ f.withdrawn
      exact h.withClient hcache
    | handOver => exact h.withClient rfl
    | reserve | refuse | proceed | poll | unfit | undecided | unusable | make | await | notice =>
      exact h.withClient hself

theorem of_run (hrun : (Flight.start c r options).run events = some f) : f.Of c r options :=
  run_induction (P := fun _ f => f.Of c r options) ⟨rfl, rfl, rfl⟩ (fun _ _ _ _ _ h hleads => h.leads hleads)
    hrun

theorem Of.requestHeaders (h : f.Of c r options) : f.client.requestHeaders f.request = c.requestHeaders r := by
  rw [h.client, h.request]
  rfl

theorem Of.message (h : f.Of c r options) (header : Except String (Option String)) :
    (f.client.withCredentials header).message f.request = (c.withCredentials header).message r := by
  rw [h.client, h.request]
  rfl

theorem Of.limit (h : f.Of c r options) (since : Nat) :
    f.limit since = (c.waitingTime options).map fun d => since + d.ticks := by
  unfold Flight.limit
  rw [h.client, h.options]
  rfl

end Of

/-! ### A dispatch that nothing comes between -/

theorem look_of_polling {f : Flight} {ticket : Option Cache.Ticket} {l : Look} {stage : Stage}
    (hs : f.stage = .polling ticket) (h : f.asked l ticket = stage) : f.look l = some { f with stage := stage } := by
  unfold look
  rw [hs]
  exact congrArg (fun stage => some { f with stage := stage }) h

/-- A flight before its first look is, where credentials are at hand, what a dispatch starts as: it lands
with what that answers at once, or hands over the message that it sends and waits. -/
theorem run_of_start (c : Client) (r : Request) (options : Options) (l : Look) (withdrawn : Bool)
    (hcredentials : l.credentials = some c.credentials.header) :
    match c.start l.now r options withdrawn with
    | (.answered e, c') =>
      ∃ n, run ⟨c, r, options, .ready, withdrawn, []⟩ (List.replicate n (.look l)) =
        some ⟨c', r, options, .landed e, withdrawn, []⟩
    | (.sent d m, c') =>
      run ⟨c, r, options, .ready, withdrawn, []⟩ (List.replicate 6 (.look l)) =
        some ⟨c', r, options, awaited (start c r options) l d.ticket l.time, withdrawn, [(l.time, m)]⟩ := by
  unfold Client.start
  obtain ⟨cache, hcache⟩ := client_lookup c l.now r options
  cases hl : c.lookup l.now r options with | mk hit c₁ =>
  obtain rfl : c₁ = { c with cache := cache } := by rw [← hcache, hl]
  cases hit with
  | some e => exact ⟨1, by simp [run, step, look, afterLookup, hl]⟩
  | none =>
    have hmissed : step ⟨c, r, options, .ready, withdrawn, []⟩ (.look l) =
        some ⟨{ c with cache := cache }, r, options, .missed, withdrawn, []⟩ := by
      simp [step, look, afterLookup, hl]
    have hrun (events : List Event) : run ⟨c, r, options, .ready, withdrawn, []⟩ (.look l :: events) =
        run ⟨{ c with cache := cache }, r, options, .missed, withdrawn, []⟩ events := by
      rw [run_cons, hmissed, Option.bind_some]
    unfold send
    cases withdrawn with
    | true => exact ⟨3, hrun [.look l, .look l]⟩
    | false =>
      have hmessage : (withCredentials { c with cache := cache } c.credentials.header).message r =
          Client.message { c with cache := cache } r := message_withCredentials_self { c with cache := cache } r
      obtain ⟨ticket, hticket⟩ : ∃ ticket, ticket = reserve { c with cache := cache } r options := ⟨_, rfl⟩
      obtain ⟨f, hf⟩ : ∃ f : Flight, f = ⟨{ c with cache := cache }, r, options, .polling ticket, false, []⟩ :=
        ⟨_, rfl⟩
      have hpolling (events : List Event) : run ⟨c, r, options, .ready, false, []⟩
          (.look l :: .look l :: .look l :: .look l :: events) = f.run events := by
        rw [hrun, hf, hticket]
        rfl
      have hstage : f.stage = .polling ticket := by rw [hf]
      have hasked : f.asked l ticket = match Client.message { c with cache := cache } r with
          | .error e => .landed (.failure e 0)
          | .ok m => .made ticket m := by
        rw [← hmessage, hf]
        unfold asked
        rw [hcredentials]
      cases hm : Client.message { c with cache := cache } r with
      | error e =>
        rw [hm] at hasked
        simp only [Bool.false_eq_true, if_false, hm]
        refine ⟨5, (hpolling [.look l]).trans ?_⟩
        rw [run_cons, step, look_of_polling hstage hasked, hf]
        rfl
      | ok m =>
        rw [hm] at hasked
        simp only [Bool.false_eq_true, if_false, hm]
        refine (hpolling [.look l, .look l]).trans ?_
        rw [run_cons, step, look_of_polling hstage hasked, hf, hticket]
        rfl

/-- What has arrived is settled by the next look. -/
theorem look_of_arrived {f : Flight} {ticket : Option Cache.Ticket} {a : Arrival}
    (h : f.stage = .arrived ticket a) (l : Look) :
    f.look l = some { f with
      client := (f.client.settle l.now (f.dispatch ticket) a f.withdrawn).2
      stage := .landed (f.client.settle l.now (f.dispatch ticket) a f.withdrawn).1 } := by
  unfold look
  rw [h]
  rfl

end Flight
end TableQuery.Client
