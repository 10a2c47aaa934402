import TableQuery.Client.Execute
import TableQuery.Proofs.Client.Flight

/-! How many messages a call sends.

A call is an execution of what was built: it makes its request, and only if that can be made a dispatch
takes off, whose outcome it decodes. Whatever happens to that dispatch, it hands over one message at most,
and none exactly where there is a reason for it (`Flight.Unsent`, `Call.Unsent`): these are all the exits
before the transport. A withdrawal is one of them only if it is found, that is if it comes by the time that
the dispatch last looks for it before its message is made. A response that is found is the whole of the
outcome: nothing is sent again and nothing is put in its place. All of it is `Call.messages_of_course`. -/
namespace TableQuery.Client

def Event.isOtherSend : Event → Bool
  | .otherSend => true
  | _ => false

namespace Flight

/-- A flight that is passed through on the way, and the events that are to come from there. -/
def Passes (start : Flight) (events : List Event) (f : Flight) (rest : List Event) : Prop :=
  ∃ before, events = before ++ rest ∧ start.run before = some f

/-- A message is on its way and nobody has withdrawn it, or it goes out with the next look. -/
inductive Awaits (f : Flight) : Prop where
  | waiting {ticket : Option Cache.Ticket} {since : Nat} (hs : f.stage = .waiting ticket since)
      (hw : f.withdrawn = false)
  | sending {ticket : Option Cache.Ticket} {m : Http.Message} (hs : f.stage = .made ticket m)

/-- The next look is for whether the caller has withdrawn, and the message is not made yet. -/
def IsDoubtful (f : Flight) : Prop := ∃ ticket, f.stage = .reserved ticket ∨ f.stage = .asking ticket

/-- Why a dispatch sends nothing: the cache has the answer, a header of its own is none, the credentials make
no message, or it is found to be withdrawn before its message is made. -/
inductive Unsent (c : Client) (r : Request) (options : Options) (events : List Event) : Prop where
  | answered {f : Flight} {l : Look} {rest : List Event}
      (hpass : (Flight.start c r options).Passes events f (.look l :: rest)) (hs : f.stage = .ready)
      (h : (f.client.lookup l.now r options).1.isSome = true)
  | unfit {e : Error} (h : c.requestHeaders r = .error e)
  | unusable {f : Flight} {l : Look} {rest : List Event} {ticket : Option Cache.Ticket}
      {header : Except String (Option String)} {e : Error}
      (hpass : (Flight.start c r options).Passes events f (.look l :: rest)) (hs : f.stage = .polling ticket)
      (hcredentials : l.credentials = some header) (h : (c.withCredentials header).message r = .error e)
  | withdrawn {f : Flight} {l : Look} {rest : List Event}
      (hpass : (Flight.start c r options).Passes events f (.look l :: rest)) (hs : f.IsDoubtful)
      (hw : f.withdrawn = true)

section Passing
variable {start f g : Flight} {c : Client} {r : Request} {options : Options} {events before rest : List Event}
  {e : Event} {l : Look}

theorem Passes.concat (h : start.Passes before f rest) (e : Event) : start.Passes (before ++ [e]) f (rest ++ [e]) := by
  obtain ⟨first, rfl, hrun⟩ := h
  exact ⟨first, List.append_assoc _ _ _, hrun⟩

theorem passes_here (hrun : start.run before = some f) (e : Event) : start.Passes (before ++ [e]) f [e] :=
  ⟨before, rfl, hrun⟩

/-- What is to come from a flight that is passed leads to where the run ends. -/
theorem Passes.run (h : start.Passes events f rest) (hrun : start.run events = some g) : f.run rest = some g := by
  obtain ⟨before, rfl, hbefore⟩ := h
  rw [run_append, hbefore] at hrun
  exact hrun

theorem Passes.next (h : start.Passes events f (e :: rest)) (hrun : start.run events = some g) :
    ∃ f', f.step e = some f' ∧ f'.run rest = some g := by
  have hrest := h.run hrun
  rw [run_cons] at hrest
  exact Option.bind_eq_some_iff.mp hrest

theorem Passes.of (h : (Flight.start c r options).Passes events f rest) : f.Of c r options :=
  h.elim fun _ h => of_run h.2

theorem Unsent.concat (h : Unsent c r options before) (e : Event) : Unsent c r options (before ++ [e]) := by
  cases h with
  | answered hpass hs h => exact .answered (hpass.concat e) hs h
  | unfit h => exact .unfit h
  | unusable hpass hs hcredentials h => exact .unusable (hpass.concat e) hs hcredentials h
  | withdrawn hpass hs hw => exact .withdrawn (hpass.concat e) hs hw

/-- What every event keeps is kept by the rest of a run. -/
theorem run_of_leads {P : Flight → Prop} (hstep : ∀ f g e, P f → f.Leads e g → P g) (h : P f)
    (hrun : f.run events = some g) : P g :=
  run_induction (P := fun _ f => P f) h (fun _ e f g _ h hleads => hstep f g e h hleads) hrun

end Passing

/-! ### At most one message -/

/-- What has been sent at each stage, and what the client has counted. -/
structure Counted (c : Client) (before : List Event) (f : Flight) : Prop where
  early : f.stage.isEarly = true → f.sent = []
  waiting : ∀ ticket since, f.stage = .waiting ticket since → f.sent ≠ []
  atMostOne : f.sent.length ≤ 1
  counter : f.client.sent = c.sent + before.countP Event.isOtherSend + f.sent.length

section Counting
variable {start f g : Flight} {c : Client} {r : Request} {options : Options} {events before rest : List Event}
  {e : Event} {l : Look}

theorem sent_of_lookup {c' : Client} {now : Nat} {hit : Option (Envelope Json)}
    (h : c.lookup now r options = (hit, c')) : c'.sent = c.sent := by
  obtain ⟨cache, hcache⟩ := client_lookup c now r options
  rw [h] at hcache
  exact (congrArg Client.sent hcache :)

/-- A look that sends nothing. -/
theorem Counted.quiet (h : f.Counted c before) (hcounter : g.client.sent = f.client.sent) (hsent : g.sent = f.sent)
    (hearly : g.stage.isEarly = true → f.sent = [])
    (hwaiting : ∀ ticket since, g.stage = .waiting ticket since → f.sent ≠ []) :
    g.Counted c (before ++ [.look l]) where
  early := by rwa [hsent]
  waiting := by rwa [hsent]
  atMostOne := by rw [hsent]; exact h.atMostOne
  counter := by
    rw [hcounter, hsent, h.counter, List.countP_append]
    rfl

theorem isEarly_awaited (f : Flight) (l : Look) (ticket : Option Cache.Ticket) (since : Nat) :
    (f.awaited l ticket since).isEarly = false := by
  rcases awaited_cases f l ticket since with ⟨a, ha⟩ | hw
  · rw [ha]
    rfl
  · rw [hw]
    rfl

theorem Counted.looks (h : f.Counted c before) (hlooks : f.Looks l g) : g.Counted c (before ++ [.look l]) := by
  have hearly (hs : f.stage.isEarly = true) : g.stage.isEarly = true → f.sent = [] := fun _ => h.early hs
  cases hlooks with
  | hit hs hl => exact h.quiet (sent_of_lookup hl) rfl (by simp [Stage.isEarly]) (by simp)
  | miss hs hl => exact h.quiet (sent_of_lookup hl) rfl (hearly (by rw [hs]; rfl)) (by simp)
  | reserve hs | refuse hs | proceed hs | poll hs | unfit hs | undecided hs | unusable hs | make hs =>
    exact h.quiet rfl rfl (hearly (by rw [hs]; rfl)) (by simp)
  | notice hs => exact h.quiet rfl rfl (by simp [Stage.isEarly]) (by simp)
  | settle hs => exact h.quiet (sent_settle ..) rfl (by simp [Stage.isEarly]) (by simp)
  | @await ticket since hs =>
    refine h.quiet rfl rfl (fun hstage => ?_) fun _ _ _ => h.waiting ticket since hs
    exact nomatch (isEarly_awaited f l ticket since).symm.trans hstage
  | @handOver ticket m hs =>
    have hnone := h.early (by rw [hs]; rfl)
    have hcounter := h.counter
    refine ⟨fun hstage => ?_, by simp [Flight.handOver], by simp [Flight.handOver, hnone], ?_⟩
    · exact nomatch (isEarly_awaited f l ticket l.time).symm.trans hstage
    · rw [hnone] at hcounter
      simp [Flight.handOver, hnone, hcounter, Event.isOtherSend]

theorem Counted.leads (h : f.Counted c before) (hleads : f.Leads e g) : g.Counted c (before ++ [e]) := by
  cases hleads with
  | look hlooks => exact h.looks hlooks
  | withdraw => exact ⟨h.early, h.waiting, h.atMostOne, by rw [h.counter]; simp [Event.isOtherSend]⟩
  | call op =>
    refine ⟨h.early, h.waiting, h.atMostOne, ?_⟩
    show f.client.sent = _
    rw [h.counter]
    simp [Event.isOtherSend]
  | otherSend =>
    refine ⟨h.early, h.waiting, h.atMostOne, ?_⟩
    show f.client.sent + 1 = _
    rw [h.counter, List.countP_append, Nat.add_right_comm]
    rfl

theorem counted_run (hrun : (Flight.start c r options).run events = some f) : f.Counted c events :=
  run_induction (P := fun before f => f.Counted c before)
    ⟨fun _ => rfl, by simp [Flight.start], by simp [Flight.start], by simp [Flight.start]⟩
    (fun _ _ _ _ _ h hleads => h.leads hleads) hrun

end Counting

/-! ### Why nothing is sent -/

section Reasons
variable {start f g : Flight} {c : Client} {r : Request} {options : Options} {events before rest : List Event}
  {e : Event} {l : Look}

/-- There is nothing more to come but the settling. -/
def IsOver (f : Flight) : Prop := (∃ ticket a, f.stage = .arrived ticket a) ∨ f.isLanded = true

/-- Nothing was sent, and nothing will be. -/
structure Grounded (f : Flight) : Prop where
  sent : f.sent = []
  unmade : ∀ ticket m, f.stage ≠ .made ticket m
  reason : f.IsOver ∨ ∃ e, f.client.requestHeaders f.request = .error e

theorem grounded_of_isOver (h : f.IsOver) (hsent : f.sent = []) : f.Grounded where
  sent := hsent
  unmade ticket m hs := by simp [IsOver, isLanded, hs] at h
  reason := .inl h

theorem Grounded.looks (h : f.Grounded) (hlooks : f.Looks l g) (hf : f.Of c r options) (hg : g.Of c r options) :
    g.Grounded := by
  have hheaders : g.client.requestHeaders g.request = f.client.requestHeaders f.request := by
    rw [hf.requestHeaders, hg.requestHeaders]
  cases hlooks with
  | hit | refuse | unfit | unusable | settle => exact grounded_of_isOver (.inr rfl) h.sent
  | notice => exact grounded_of_isOver (.inl ⟨_, _, rfl⟩) h.sent
  | miss hs | reserve hs | proceed hs | poll hs | undecided hs =>
    refine ⟨h.sent, by simp, .inr (hheaders ▸ h.reason.resolve_left fun hover => ?_)⟩
    simp [IsOver, isLanded, hs] at hover
  | @await ticket since hs =>
    refine ⟨h.sent, fun ticket' m hmade => ?_, .inr (hheaders ▸ h.reason.resolve_left fun hover => ?_)⟩
    · have hlate := isEarly_awaited f l ticket since
      rw [show f.awaited l ticket since = .made ticket' m from hmade] at hlate
      exact nomatch hlate
    · simp [IsOver, isLanded, hs] at hover
  | make hs hcredentials hm =>
    rcases h.reason with hover | ⟨e, he⟩
    · simp [IsOver, isLanded, hs] at hover
    · exact nomatch (message_of_requestHeaders he _).symm.trans hm
  | handOver hs => exact absurd hs (h.unmade _ _)

theorem Grounded.leads (h : f.Grounded) (hleads : f.Leads e g) (hf : f.Of c r options) : g.Grounded := by
  have hg := hf.leads hleads
  cases hleads with
  | look hlooks => exact h.looks hlooks hf hg
  | call | otherSend => exact ⟨h.sent, h.unmade, h.reason⟩
  | withdraw => exact ⟨h.sent, h.unmade, h.reason⟩

theorem Grounded.run (h : f.Grounded) (hf : f.Of c r options) (hrun : f.run events = some g) : g.sent = [] :=
  (run_of_leads (P := fun f => f.Grounded ∧ f.Of c r options)
    (fun _ _ _ h hleads => ⟨h.1.leads hleads h.2, h.2.leads hleads⟩) ⟨h, hf⟩ hrun).1.sent

theorem grounded_of_hit (hs : f.stage = .ready) (hsent : f.sent = [])
    (hit : (f.client.lookup l.now f.request f.options).1.isSome = true) (hlooks : f.Looks l g) : g.Grounded := by
  cases hlooks with
  | hit => exact grounded_of_isOver (.inr rfl) hsent
  | miss _ hl => simp [hl] at hit
  | reserve hs' | refuse hs' | proceed hs' | poll hs' | unfit hs' | undecided hs' | unusable hs' | make hs'
  | handOver hs' | await hs' | settle hs' => exact nomatch hs.symm.trans hs'
  | notice hs' => simp [hs] at hs'

theorem grounded_of_unusable {ticket : Option Cache.Ticket} {header : Except String (Option String)} {x : Error}
    (hs : f.stage = .polling ticket) (hsent : f.sent = []) (hcredentials : l.credentials = some header)
    (hx : (f.client.withCredentials header).message f.request = .error x) (hlook : f.look l = some g) :
    g.Grounded := by
  have hasked : f.asked l ticket = .landed (.failure x 0) := by
    unfold asked
    simp only [hcredentials, hx]
  obtain rfl := Option.some.inj ((look_of_polling hs hasked).symm.trans hlook)
  exact grounded_of_isOver (.inr rfl) hsent

theorem grounded_of_isDoubtful (hs : f.IsDoubtful) (hw : f.withdrawn = true) (hsent : f.sent = [])
    (hlook : f.look l = some g) : g.Grounded := by
  obtain ⟨ticket, hs⟩ := hs
  unfold look at hlook
  rcases hs with hs | hs <;> simp only [hs, hw, if_true] at hlook <;> obtain rfl := Option.some.inj hlook
  · exact grounded_of_isOver (.inr rfl) hsent
  · exact grounded_of_isOver (.inl ⟨_, _, rfl⟩) hsent

/-- From a flight on that a look grounds, nothing is sent. -/
theorem Passes.sent_of_grounded (hpass : (Flight.start c r options).Passes events f (.look l :: rest))
    (hrun : (Flight.start c r options).run events = some g) (h : ∀ f', f.look l = some f' → f'.Grounded) :
    g.sent = [] := by
  obtain ⟨f', hlook, hrest⟩ := hpass.next hrun
  exact (h f' hlook).run (hpass.of.leads (leads_of_step hlook)) hrest

/-- Where there is a reason, nothing is sent. -/
theorem Unsent.sent (h : Unsent c r options events) (hrun : (Flight.start c r options).run events = some f) :
    f.sent = [] := by
  have hearly {f : Flight} {rest : List Event} (hpass : (Flight.start c r options).Passes events f rest)
      (hs : f.stage.isEarly = true) : f.sent = [] := hpass.elim fun _ h => (counted_run h.2).early hs
  cases h with
  | unfit he => exact Grounded.run ⟨rfl, by simp [start], .inr ⟨_, he⟩⟩ ⟨rfl, rfl, rfl⟩ hrun
  | answered hpass hs hit =>
    refine hpass.sent_of_grounded hrun fun g hlook =>
      grounded_of_hit hs (hearly hpass (by rw [hs]; rfl)) ?_ (looks_of_look hlook)
    rwa [hpass.of.request, hpass.of.options]
  | unusable hpass hs hcredentials he =>
    exact hpass.sent_of_grounded hrun fun g hlook =>
      grounded_of_unusable hs (hearly hpass (by rw [hs]; rfl)) hcredentials ((hpass.of.message _).trans he) hlook
  | withdrawn hpass hs hw =>
    refine hpass.sent_of_grounded hrun fun g hlook => grounded_of_isDoubtful hs hw (hearly hpass ?_) hlook
    obtain ⟨ticket, hs | hs⟩ := hs <;> rw [hs] <;> rfl

/-- A flight from which nothing was sent is not that far yet, or there is a reason for it. -/
def Explained (c : Client) (r : Request) (options : Options) (before : List Event) (f : Flight) : Prop :=
  f.sent = [] → f.stage.isEarly = true ∨ Unsent c r options before

theorem Explained.looks (h : f.Explained c r options before) (hrun : (Flight.start c r options).run before = some f)
    (hlooks : f.Looks l g) : g.Explained c r options (before ++ [.look l]) := by
  have hof := of_run hrun
  cases hlooks with
  | hit hs hl =>
    refine fun _ => .inr (.answered (passes_here hrun _) hs ?_)
    rw [← hof.request, ← hof.options, hl]
    rfl
  | miss | reserve | proceed | poll | undecided | make => exact fun _ => .inl rfl
  | refuse hs hw => exact fun _ => .inr (.withdrawn (passes_here hrun _) ⟨_, .inl hs⟩ hw)
  | unfit _ _ he => exact fun _ => .inr (.unfit (hof.requestHeaders.symm.trans he))
  | unusable hs hcredentials he =>
    exact fun _ => .inr (.unusable (passes_here hrun _) hs hcredentials ((hof.message _).symm.trans he))
  | handOver => simp [Explained, Flight.handOver]
  | await hs => exact fun hsent => absurd hsent ((counted_run hrun).waiting _ _ hs)
  | notice hs hw =>
    rcases hs with hs | ⟨since, hs⟩
    · exact fun _ => .inr (.withdrawn (passes_here hrun _) ⟨_, .inr hs⟩ hw)
    · exact fun hsent => absurd hsent ((counted_run hrun).waiting _ _ hs)
  | settle hs =>
    refine fun hsent => (h hsent).elim (fun hearly => ?_) fun hreason => .inr (hreason.concat _)
    rw [hs] at hearly
    exact nomatch hearly

theorem Explained.leads (h : f.Explained c r options before) (hrun : (Flight.start c r options).run before = some f)
    (hleads : f.Leads e g) : g.Explained c r options (before ++ [e]) := by
  cases hleads with
  | look hlooks => exact h.looks hrun hlooks
  | withdraw | call op | otherSend => exact fun hsent => (h hsent).imp_right fun hreason => hreason.concat _

/-- Where nothing is sent by the landing, there is a reason for it. -/
theorem unsent_of_landed (hrun : (Flight.start c r options).run events = some f) (hlanded : f.isLanded = true)
    (hsent : f.sent = []) : Unsent c r options events := by
  have hexplained : f.Explained c r options events :=
    run_induction (P := fun before f => f.Explained c r options before) (fun _ => .inl rfl)
      (fun before e f g hbefore h hleads => h.leads hbefore hleads) hrun
  refine (hexplained hsent).resolve_left fun hearly => ?_
  unfold isLanded at hlanded
  split at hlanded
  · next hs =>
    rw [hs] at hearly
    exact nomatch hearly
  · exact nomatch hlanded

end Reasons

/-! ### What a response makes -/

section Responses
variable {start f g : Flight} {c : Client} {r : Request} {options : Options} {events before rest : List Event}
  {e : Event} {l : Look} {response : Http.Response}

/-- Landed with what a response makes, or about to. -/
inductive Carries (response : Http.Response) (f : Flight) : Prop where
  | arrived {ticket : Option Cache.Ticket} (hs : f.stage = .arrived ticket (.response response))
  | landed (hs : f.stage = .landed ((Envelope.ofResponse response).shape f.request.mode))

theorem Carries.leads (h : f.Carries response) (hleads : f.Leads e g) : g.Carries response := by
  cases hleads with
  | withdraw | call op | otherSend =>
    cases h with
    | arrived hs => exact .arrived hs
    | landed hs => exact .landed hs
  | look hlooks =>
    cases hlooks with
    | hit hs | miss hs | reserve hs | refuse hs | proceed hs | poll hs | unfit hs | undecided hs | unusable hs | make hs
    | handOver hs | await hs =>
      cases h with
      | arrived hs' => exact nomatch hs.symm.trans hs'
      | landed hs' => exact nomatch hs.symm.trans hs'
    | notice hs =>
      cases h with
      | arrived hs' => simp [hs'] at hs
      | landed hs' => simp [hs'] at hs
    | settle hs =>
      cases h with
      | arrived hs' =>
        obtain ⟨-, rfl⟩ := Stage.arrived.inj (hs.symm.trans hs')
        exact .landed rfl
      | landed hs' => exact nomatch hs.symm.trans hs'

/-- A response that is found while a message is on its way decides what is landed with. -/
theorem carries_of_awaits (h : f.Awaits) (hresponse : l.reply = some (.response response))
    (hlook : f.look l = some g) : g.Carries response := by
  have hawaited (ticket : Option Cache.Ticket) (since : Nat) :
      f.awaited l ticket since = .arrived ticket (.response response) := by
    unfold awaited
    rw [hresponse]
    rfl
  unfold look at hlook
  cases h with
  | waiting hs hw =>
    simp only [hs, hw, Bool.false_eq_true, if_false, hawaited] at hlook
    exact Option.some.inj hlook ▸ .arrived rfl
  | sending hs =>
    simp only [hs] at hlook
    exact Option.some.inj hlook ▸ .arrived (hawaited _ _)

theorem landed_of_response {x : Envelope Json} (hrun : (Flight.start c r options).run events = some g)
    (hpass : (Flight.start c r options).Passes events f (.look l :: rest)) (hawaits : f.Awaits)
    (hresponse : l.reply = some (.response response)) (hlanded : g.stage = .landed x) :
    x = (Envelope.ofResponse response).shape r.mode := by
  obtain ⟨f', hlook, hrest⟩ := hpass.next hrun
  have hcarries := run_of_leads (fun _ _ _ h hleads => Carries.leads h hleads)
    (carries_of_awaits hawaits hresponse hlook) hrest
  cases hcarries with
  | arrived hs => exact nomatch hs.symm.trans hlanded
  | landed hs =>
    rw [← (of_run hrun).request]
    exact Stage.landed.inj (hlanded.symm.trans hs)

end Responses
end Flight

/-! ### Calls -/

/-- An execution of what was built. -/
inductive Call where
  | read (q : Query) (x : Execution)
  | write (m : Mutation)
  /-- A write whose failure is the call's. -/
  | tryWrite (m : Mutation)

/-- What a caller gets. -/
inductive Result (α : Type) where
  | rows (e : Envelope (List α))
  | row (e : Envelope α)
  | page (e : Envelope (Page α))
  | tried (rows : Except Error (List α))

/-- What a call sends, and what it makes of the outcome. -/
structure Plan (α : Type) where
  request : Request
  options : Options
  finish : Envelope Json → Result α

/-- How a call has gone so far: it could not be made, or its dispatch is on its way. -/
inductive Course (α : Type) where
  | refused (e : Error) (c : Client)
  | flying (f : Flight) (finish : Envelope Json → Result α)

namespace Call
variable {α : Type}

/-- The plan of a call, if its request can be made. -/
def plan (row : Json → Except String α) : Call → Except Error (Plan α)
  | .read q .rows => do
    let r ← q.request .rows
    .ok ⟨r, q.options, fun e => .rows (e.decodeRows row)⟩
  | .read q .single => do
    let r ← q.request .single
    .ok ⟨r, q.options, fun e => .row (e.decodeRow row)⟩
  | .read q .maybeSingle => do
    let r ← q.request .maybeSingle
    .ok ⟨r, q.options, fun e => .row (e.decodeRow row)⟩
  | .read q .page => do
    let (number, size) ← orError q.pageAsked
    let r ← q.request .page
    .ok ⟨r, q.options, fun e => .page (e.decodePage row number size)⟩
  | .write m => do
    let r ← m.request
    .ok ⟨r, m.options, fun e => .rows (e.decodeRows row)⟩
  | .tryWrite m => do
    let r ← m.request
    .ok ⟨r, m.options, fun e => .tried (e.decodeRows row).rowsOrError⟩

/-- A call through a client in the course of events. -/
def course (call : Call) (row : Json → Except String α) (c : Client) (events : List Event) :
    Option (Course α) :=
  match call.plan row with
  | .error e => some (.refused e (events.foldl besides c))
  | .ok plan => ((Flight.start c plan.request plan.options).run events).map (.flying · plan.finish)

end Call

namespace Course
variable {α : Type}

/-- The messages that the call has handed to the transport. -/
def messages : Course α → List Http.Message
  | .refused _ _ => []
  | .flying f _ => f.sent.map Prod.snd

/-- The client as the call has left it. -/
def client : Course α → Client
  | .refused _ c => c
  | .flying f _ => f.client

/-- What the call has returned, if it has. -/
def returned? : Course α → Option (Except Error (Result α))
  | .refused e _ => some (.error e)
  | .flying f finish =>
    match f.stage with
    | .landed e => some (.ok (finish e))
    | _ => none

theorem returned?_flying {f : Flight} {finish : Envelope Json → Result α} {x : Except Error (Result α)} :
    (flying f finish).returned? = some x ↔ ∃ e, f.stage = .landed e ∧ .ok (finish e) = x := by
  unfold returned?
  dsimp only
  split
  · next e he => simp [he]
  · next hno =>
    constructor
    · exact fun h => nomatch h
    · rintro ⟨e, he, -⟩
      exact absurd he (hno e)

end Course

namespace Call
variable {α : Type} {call : Call} {row : Json → Except String α} {c : Client} {events : List Event}
  {course : Course α}

/-- Why a call sends nothing: it cannot be made, or its dispatch has a reason. -/
inductive Unsent (call : Call) (row : Json → Except String α) (c : Client) (events : List Event) : Prop where
  | refused {e : Error} (h : call.plan row = .error e)
  | grounded {plan : Plan α} (h : call.plan row = .ok plan)
      (hreason : Flight.Unsent c plan.request plan.options events)

theorem sent_besides (c : Client) (events : List Event) :
    (events.foldl besides c).sent = c.sent + events.countP Event.isOtherSend := by
  induction events generalizing c with
  | nil => rfl
  | cons e events ih =>
    rw [List.foldl_cons, ih]
    cases e with
    | otherSend =>
      rw [List.countP_cons]
      exact (Nat.add_assoc _ 1 _).trans (congrArg _ (Nat.add_comm 1 _))
    | withdraw | call op | look l => rw [List.countP_cons]; rfl

/-- **A call sends one message at most.** In whatever order the events come, it hands over at most one, the client's
count grows by just that besides what others send, and when the call returns it has sent none exactly where there is
a reason for that. Where a message is on its way and its response is found, the call returns what it makes of that
response, if it returns. -/
theorem messages_of_course (h : call.course row c events = some course) :
    course.messages.length ≤ 1 ∧
      course.client.sent = c.sent + events.countP Event.isOtherSend + course.messages.length ∧
      (course.returned?.isSome = true → (course.messages = [] ↔ call.Unsent row c events)) ∧
      ∀ plan f l rest response, call.plan row = .ok plan →
        (Flight.start c plan.request plan.options).Passes events f (.look l :: rest) → f.Awaits →
        l.reply = some (.response response) → ∀ x, course.returned? = some x →
          x = .ok (plan.finish ((Envelope.ofResponse response).shape plan.request.mode)) := by
  unfold Call.course at h
  cases hplan : call.plan row with
  | error e =>
    rw [hplan] at h
    obtain rfl := Option.some.inj h
    exact ⟨Nat.zero_le 1, sent_besides c events, fun _ => ⟨fun _ => .refused hplan, fun _ => rfl⟩,
      fun _ _ _ _ _ hok => nomatch hok⟩
  | ok plan =>
    rw [hplan] at h
    obtain ⟨f, hrun, rfl⟩ := Option.map_eq_some_iff.mp h
    have hcounted := Flight.counted_run hrun
    have hlength : (Course.flying f plan.finish).messages.length = f.sent.length := List.length_map ..
    refine ⟨hlength ▸ hcounted.atMostOne, hlength ▸ hcounted.counter, fun hreturned => ?_, ?_⟩
    · have hnone : (Course.flying f plan.finish).messages = [] ↔ f.sent = [] := List.map_eq_nil_iff
      rw [hnone]
      constructor
      · obtain ⟨x, hx⟩ := Option.isSome_iff_exists.mp hreturned
        obtain ⟨e, he, -⟩ := Course.returned?_flying.mp hx
        exact fun hsent => .grounded hplan (Flight.unsent_of_landed hrun (by rw [Flight.isLanded, he]) hsent)
      · rintro (hno | ⟨hok, hreason⟩)
        · exact nomatch hplan.symm.trans hno
        · obtain rfl := Except.ok.inj (hplan.symm.trans hok)
          exact hreason.sent hrun
    · intro plan' g l rest response hok hpass hawaits hresponse x hx
      obtain rfl := Except.ok.inj hok
      obtain ⟨e, he, rfl⟩ := Course.returned?_flying.mp hx
      rw [Flight.landed_of_response hrun hpass hawaits hresponse he]

/-- A read that waits five milliseconds at most. -/
def briefRead : Call :=
  .read { (Client.plain (.empty .standard)).query "users" with options := ⟨some (.ofMillis 5), .standard⟩ } .rows

/-- It has to ask twice for its credentials, and is answered at its limit. -/
theorem messages_of_course_answered_at_limit :
    let ask : Look := ⟨0, 0, none, none⟩
    let send : Look := ⟨0, 1, some (.ok none), none⟩
    let response : Http.Response := ⟨200, [], Text.Utf8.encode "[]"⟩
    let answered : Look := ⟨0, 6, none, some (.response response)⟩
    ∃ course, briefRead.course Json.Decode.any (.plain (.empty .standard)) (List.replicate 6 (.look ask) ++
        [.look send, .look send, .otherSend, .look answered, .look answered]) = some course ∧
      course.messages.length = 1 ∧ course.client.sent = 2 ∧
      ∀ x, course.returned? = some x → x = .ok (.rows (((Envelope.ofResponse response).shape .many).decodeRows
        Json.Decode.any)) := by
  intro ask send response answered
  have hplan : briefRead.plan Json.Decode.any = .ok ⟨⟨"users", none, .get, .many, [], [], none, ["users"]⟩,
    ⟨some (.ofMillis 5), .standard⟩, fun e => .rows (e.decodeRows Json.Decode.any)⟩ := rfl
  obtain ⟨course, hcourse, hlength⟩ : ∃ course, briefRead.course Json.Decode.any (.plain (.empty .standard))
      (List.replicate 6 (.look ask) ++ [.look send, .look send, .otherSend, .look answered, .look answered]) =
        some course ∧ course.messages.length = 1 := ⟨_, rfl, rfl⟩
  obtain ⟨-, hcounter, -, hresponse⟩ := messages_of_course hcourse
  refine ⟨course, hcourse, hlength, by rw [hcounter, hlength]; rfl, fun x hx => ?_⟩
  exact hresponse _ _ answered [.look answered] response hplan
    ⟨List.replicate 6 (.look ask) ++ [.look send, .look send, .otherSend], rfl, rfl⟩ (.waiting rfl rfl) rfl x hx

/-- A deletion of all users whose failure is the call's. -/
def triedDeletion : Call :=
  .tryWrite { Mutation.on "users" .delete with bound := true }

/-- A read is sent though it was withdrawn before its message was made: its provider did so, with the credentials that
it gave. The caller is told of the withdrawal all the same. And a deletion that is tried comes to an error, which is
what the server said of it. -/
theorem sent_though_withdrawn :
    let given : Look := ⟨0, 0, some (.ok none), none⟩
    let declined : Look := ⟨0, 1, none, some (.response ⟨409, [], []⟩)⟩
    let late := List.replicate 4 (.look given) ++ [.withdraw, .look given, .look given, .look given, .look given]
    (∃ plan f rest course, briefRead.plan Json.Decode.any = .ok plan ∧
      (Flight.start (.plain (.empty .standard)) plan.request plan.options).Passes late f (.look given :: rest) ∧
      (∃ ticket, f.stage = .polling ticket) ∧ f.withdrawn = true ∧
      briefRead.course Json.Decode.any (.plain (.empty .standard)) late = some course ∧
      course.returned? = some (.ok (.rows (.failure .cancelled 0))) ∧ course.messages.length = 1) ∧
    ∃ course e, triedDeletion.course Json.Decode.any (.plain (.empty .standard))
        (List.replicate 6 (.look given) ++ [.look declined, .look declined]) = some course ∧
      course.returned? = some (.ok (.tried (.error e))) ∧ course.messages.length = 1 := by
  intro given declined late
  exact ⟨⟨_, _, _, _, rfl, ⟨List.replicate 4 (.look given) ++ [.withdraw], rfl, rfl⟩, ⟨_, rfl⟩, rfl, rfl, rfl, rfl⟩,
    _, _, rfl, rfl, rfl⟩

end Call
end TableQuery.Client
