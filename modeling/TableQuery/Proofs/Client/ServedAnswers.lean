import TableQuery.Proofs.Client.Flight
import TableQuery.Proofs.Query.CacheKey

/-! Whose answer a read is served.

Reads go through one client in turn, each under what the provider of credentials says at that moment, to a server
whose answer depends on the message alone. A read is looked up before anybody is asked for credentials, and before
its own withdrawal is noticed, and a key knows neither. So an answer from the cache is what an earlier read of the
same request was given under the credentials of that time (`served_as_asked`), and this is what the read would have
been given itself only if its credentials are still the same and it has not been withdrawn: a caller who has other
credentials, or none that can be had, is served what was fetched for somebody else (`served_to_others`). -/
namespace TableQuery.Client

/-- When a caller withdraws a dispatch. -/
inductive Withdrawal where
  | before
  | waiting
  /-- When the response is there. -/
  | late
deriving DecidableEq

/-- One read of several. -/
structure Turn where
  request : Request
  options : Options
  /-- What the provider says this time. -/
  credentials : Except String (Option String)
  withdrawal : Option Withdrawal
  /-- Whether its limit is over before the answer comes. -/
  tooLate : Bool
  /-- The cache's clock at the look-up, in microseconds. -/
  now : Nat
  /-- The same clock when the read settles. -/
  later : Nat

namespace Turn

/-- A read that some query makes. -/
def IsCompiled (t : Turn) : Prop := ∃ q mode, Query.compileAs q mode = .ok t.request

theorem IsCompiled.isWrite {t : Turn} (h : t.IsCompiled) : t.request.isWrite = false := by
  obtain ⟨q, mode, hq⟩ := h
  rw [Request.isWrite, (Query.isRead_of_compileAs hq).method]
  split <;> rfl

/-- The same read past the cache. -/
def direct (t : Turn) : Turn := { t with options := { t.options with cache := .bypass } }

/-- What arrives for its message. -/
def arrival (answer : Http.Message → Reply) (t : Turn) (m : Http.Message) : Arrival :=
  if t.withdrawal = some .waiting then .withdrawn
  else if t.tooLate then .timedOut
  else (answer m).arrival

/-- Nothing keeps the read from its answer. -/
structure Waits (t : Turn) : Prop where
  before : t.withdrawal ≠ some .before
  waiting : t.withdrawal ≠ some .waiting
  inTime : t.tooLate = false

end Turn

section
variable (answer : Http.Message → Reply)

/-- Serves a read by the cache or by the server. -/
def serve (c : Client) (t : Turn) : Envelope Json × Client :=
  match (c.withCredentials t.credentials).start t.now t.request t.options (t.withdrawal == some .before) with
  | (.answered e, c) => (e, c)
  | (.sent d m, c) => c.settle t.later d (t.arrival answer m) t.withdrawal.isSome

/-- The client after these reads. -/
def serveAll (c : Client) (turns : List Turn) : Client := turns.foldl (fun c t => (c.serve answer t).2) c

/-- What a read is given past the cache. -/
def asked (c : Client) (t : Turn) : Envelope Json :=
  if t.withdrawal = some .before then .failure .cancelled 0
  else
    match (c.withCredentials t.credentials).message t.request with
    | .error e => .failure e 0
    | .ok m => (outcome (c.waitingTime t.options) (t.arrival answer m)).shape t.request.mode

end

section Serving
variable {answer : Http.Message → Reply} {c c' : Client} {t u : Turn} {turns : List Turn} {cache : Cache}

/-! ### One read -/

/-- What a read is given past the cache does not depend on it, nor on what has been sent. -/
theorem asked_congr (haddress : c'.address = c.address) (hheaders : c'.headers = c.headers)
    (htimeout : c'.timeout = c.timeout) (t : Turn) : c'.asked answer t = c.asked answer t := by
  unfold asked waitingTime message urlFor withCredentials
  rw [haddress, hheaders, htimeout]
  rfl

/-- What a client with this cache is left with by a read: it is the same client, and its cache holds nothing new
but what the read was told past it. -/
structure Served (answer : Http.Message → Reply) (c : Client) (cache : Cache) (t : Turn) (c' : Client) : Prop where
  address : c'.address = c.address
  headers : c'.headers = c.headers
  timeout : c'.timeout = c.timeout
  kept : ∃ k, c'.cache = some k ∧ k.config = cache.config ∧ ∀ x ∈ k.contents, x ∈ cache.contents ∨
    x.1 = cache.keyFor t.request ∧ x.2.value = c.asked answer t ∧ x.2.value.isOk = true

/-- What is told and kept of an answer that is settled. -/
theorem served_settle {c' : Client} {k : Cache} {m : Http.Message} {ticket : Option Cache.Ticket}
    (hc : { c.withCredentials t.credentials with cache := some k, sent := c'.sent } = c')
    (hread : t.request.isWrite = false) (hbefore : t.withdrawal ≠ some .before)
    (hm : (c.withCredentials t.credentials).message t.request = .ok m) (hconfig : k.config = cache.config)
    (hkept : k.contents ⊆ cache.contents) (hticket : ∀ x, ticket = some x → x.key = cache.keyFor t.request) :
    (c'.settle t.later ⟨t.request, t.options, ticket⟩ (t.arrival answer m) t.withdrawal.isSome).1 =
        c.asked answer t ∧
      Served answer c cache t (c'.settle t.later ⟨t.request, t.options, ticket⟩ (t.arrival answer m)
        t.withdrawal.isSome).2 := by
  have hasked : (c'.settle t.later ⟨t.request, t.options, ticket⟩ (t.arrival answer m)
      t.withdrawal.isSome).1 = c.asked answer t := by
    unfold asked
    rw [if_neg hbefore, hm, ← hc]
    rfl
  have hcache := cache_settle (congrArg Client.cache hc).symm t.later ⟨t.request, t.options, ticket⟩
    (t.arrival answer m) t.withdrawal.isSome
  have hleft (e : Envelope Json) : cacheLeft k t.request e = k := by
    unfold cacheLeft
    rw [hread]
    rfl
  rw [hasked, hleft] at hcache
  obtain ⟨cache', hclient⟩ := client_settle c' t.later ⟨t.request, t.options, ticket⟩ (t.arrival answer m)
    t.withdrawal.isSome
  refine ⟨hasked, ?_, ?_, ?_, _, hcache, (follows_cacheStored ..).config.trans hconfig, fun x hx => ?_⟩
  · rw [hclient, ← hc]; rfl
  · rw [hclient, ← hc]; rfl
  · rw [hclient, ← hc]; rfl
  · cases hstored : (cacheStored k t.later ⟨t.request, t.options, ticket⟩ (c.asked answer t)
        t.withdrawal.isSome).1 with
    | false =>
      rw [cacheStored_refused hstored] at hx
      exact .inl (hkept hx)
    | true =>
      obtain ⟨y, hy, hok, heq⟩ := eq_of_cacheStored hstored
      rw [heq] at hx hstored
      rcases Cache.mem_contents_commit hstored hx with ⟨hkey, hvalue, -⟩ | ⟨-, hold⟩
      · exact .inr ⟨hkey.trans (hticket y hy), hvalue, by rw [hvalue, hok]⟩
      · exact .inl (hkept hold)

/-- A read that the cache does not answer. -/
theorem served_send {c' : Client} {k : Cache}
    (hc : { c.withCredentials t.credentials with cache := some k } = c') (hread : t.request.isWrite = false)
    (hconfig : k.config = cache.config) (hkept : k.contents ⊆ cache.contents)
    (hlookup : (c.withCredentials t.credentials).lookup t.now t.request t.options = (none, c')) :
    (c.serve answer t).1 = c.asked answer t ∧ Served answer c cache t (c.serve answer t).2 := by
  have hmessage : c'.message t.request = (c.withCredentials t.credentials).message t.request := by
    rw [← hc]
    rfl
  have hkey : k.keyFor t.request = cache.keyFor t.request := by
    unfold Cache.keyFor
    rw [hconfig]
  have hticket : ∀ x, c'.reserve t.request t.options = some x → x.key = cache.keyFor t.request := by
    intro x hx
    rw [reserve_eq (congrArg Client.cache hc).symm] at hx
    split at hx
    · exact (congrArg Cache.Ticket.key (Option.some.inj hx)).symm.trans hkey
    · exact nomatch hx
  have hleft : Served answer c cache t c' := by
    subst hc
    exact ⟨rfl, rfl, rfl, k, rfl, hconfig, fun x hx => .inl (hkept hx)⟩
  unfold serve Client.start
  rw [hlookup]
  dsimp only
  unfold send
  by_cases hbefore : t.withdrawal = some .before
  · rw [if_pos (by rw [hbefore]; rfl)]
    exact ⟨by rw [asked, if_pos hbefore], hleft⟩
  · rw [if_neg (by simpa using hbefore), hmessage]
    cases hm : (c.withCredentials t.credentials).message t.request with
    | error e => exact ⟨by rw [asked, if_neg hbefore, hm], hleft⟩
    | ok m => exact served_settle (by rw [← hc]) hread hbefore hm hconfig hkept hticket

/-- A read is served by the server, or by an entry under its key. -/
theorem served_serve (hc : c.cache = some cache) (hread : t.request.isWrite = false) :
    ((c.serve answer t).1 = c.asked answer t ∨
        ∃ x ∈ cache.contents, x.1 = cache.keyFor t.request ∧ x.2.value = (c.serve answer t).1) ∧
      Served answer c cache t (c.serve answer t).2 := by
  have hlookup := lookup_eq (c := c.withCredentials t.credentials) hc t.now t.request t.options
  split at hlookup
  · next huses =>
    cases hhit : (cache.get t.now t.request).1 with
    | none =>
      rw [hhit] at hlookup
      exact (served_send rfl hread (Cache.config_getKey ..) (Cache.contents_getKey_subset ..) hlookup).imp_left .inl
    | some e =>
      rw [hhit] at hlookup
      unfold serve Client.start
      rw [hlookup]
      obtain ⟨entry, hfind, hvalue, -⟩ := Cache.find?_of_getKey hhit
      refine ⟨.inr ⟨(_, entry.unused), ?_, rfl, hvalue⟩, rfl, rfl, rfl, _, rfl, Cache.config_getKey ..,
        fun x hx => .inl (Cache.contents_getKey_subset _ _ _ hx)⟩
      exact Cache.mem_contents.mpr ⟨entry, Cache.mem_of_find? hfind, rfl⟩
  · exact (served_send (by rw [← hc]; rfl) hread rfl (List.Subset.refl _) hlookup).imp_left .inl

/-- Past the cache a read is served by the server. -/
theorem serve_direct (hc : c.cache = some cache) (hread : t.request.isWrite = false) :
    (c.serve answer t.direct).1 = c.asked answer t := by
  have hlookup : (c.withCredentials t.credentials).lookup t.now t.request t.direct.options =
      (none, c.withCredentials t.credentials) :=
    lookup_eq (c := c.withCredentials t.credentials) hc ..
  exact (served_send (t := t.direct) (by rw [← hc]; rfl) hread rfl (List.Subset.refl _) hlookup).1

/-! ### Several reads -/

/-- Every entry has what some earlier read of the same key was told past the cache. -/
def Filled (answer : Http.Message → Reply) (turns : List Turn) (c : Client) : Prop :=
  ∃ cache, c.cache = some cache ∧ cache.config.keyOf = none ∧ ∀ x ∈ cache.contents,
    ∃ u ∈ turns, x.1 = u.request.canonical ∧ x.2.value = c.asked answer u ∧ x.2.value.isOk = true

theorem Filled.serve (h : Filled answer turns c) (hread : t.request.isWrite = false) :
    Filled answer (turns ++ [t]) (c.serve answer t).2 := by
  obtain ⟨cache, hc, hkey, hfilled⟩ := h
  have hserved : Served answer c cache t (c.serve answer t).2 := (served_serve hc hread).2
  obtain ⟨k, hk, hconfig, hkept⟩ := hserved.kept
  have hsame (u : Turn) : (c.serve answer t).2.asked answer u = c.asked answer u :=
    asked_congr hserved.address hserved.headers hserved.timeout u
  refine ⟨k, hk, by rw [hconfig, hkey], fun x hx => ?_⟩
  rcases hkept x hx with hold | ⟨hname, hvalue, hok⟩
  · obtain ⟨u, hu, hname, hvalue, hok⟩ := hfilled x hold
    exact ⟨u, List.mem_append_left _ hu, hname, by rw [hvalue, hsame], hok⟩
  · refine ⟨t, by simp, ?_, by rw [hvalue, hsame], hok⟩
    rw [hname, Cache.keyFor, hkey]

theorem filled_serveAll (h : Filled answer [] c) (hreads : ∀ u ∈ turns, u.request.isWrite = false) :
    Filled answer turns (c.serveAll answer turns) := by
  induction turns using List.reverseRecOn with
  | nil => exact h
  | append_singleton turns t ih =>
    have hturns := ih fun u hu => hreads u (List.mem_append_left _ hu)
    rw [serveAll, List.foldl_append]
    exact hturns.serve (hreads t (by simp))

/-! ### Two reads of one key -/

/-- The message of a request says its method, its table, its parameters, its headers and its body. -/
theorem message_of_parts {r r' : Request} (hmethod : r.method = r'.method) (htable : r.table = r'.table)
    (hparams : r.params = r'.params) (hheaders : r.headers = r'.headers) (hbody : r.body = r'.body) :
    c.message r = c.message r' := by
  unfold message urlFor urlBelow Request.queryString
  rw [hmethod, htable, hparams, hheaders, hbody]

theorem Turn.Waits.arrival (h : t.Waits) (m : Http.Message) : t.arrival answer m = (answer m).arrival := by
  rw [Turn.arrival, if_neg h.waiting, h.inTime]
  rfl

/-- What arrives as a response was answered. -/
theorem Turn.answer_of_arrival {m : Http.Message} {response : Http.Response}
    (h : t.arrival answer m = .response response) : answer m = .response response := by
  unfold Turn.arrival at h
  split at h
  · exact nomatch h
  split at h
  · exact nomatch h
  cases hreply : answer m with
  | response r =>
    rw [hreply] at h
    exact congrArg Reply.response (Arrival.response.inj h)
  | networkFailure reason | timedOut =>
    rw [hreply] at h
    exact nomatch h

theorem response_of_outcome {limit : Option Duration} {a : Arrival} {mode : Mode}
    (h : ((outcome limit a).shape mode).isOk = true) : ∃ response, a = .response response := by
  cases a with
  | response response => exact ⟨response, rfl⟩
  | networkFailure reason | timedOut | withdrawn => exact nomatch h

/-- Two reads of one key under the same credentials are told the same past the cache, where one of them is told
rows and the other waits for what it is told. -/
theorem asked_eq_of_canonical (ht : t.IsCompiled) (hu : u.IsCompiled)
    (hkey : u.request.canonical = t.request.canonical) (hcredentials : u.credentials = t.credentials)
    (hwaits : t.Waits) (hok : (c.asked answer u).isOk = true) : c.asked answer u = c.asked answer t := by
  obtain ⟨q, mode, hq⟩ := ht
  obtain ⟨q', mode', hq'⟩ := hu
  have hread := Query.isRead_of_compileAs hq
  have hread' := Query.isRead_of_compileAs hq'
  obtain ⟨-, htable, hmode, hparams, hheaders⟩ := hread'.eq_of_canonical hread hkey
  have hmessage : (c.withCredentials u.credentials).message u.request =
      (c.withCredentials t.credentials).message t.request := by
    rw [hcredentials]
    exact message_of_parts (by rw [hread'.method, hread.method, hmode]) htable hparams hheaders
      (by rw [hread'.body, hread.body])
  unfold asked at hok ⊢
  split at hok
  · exact nomatch hok
  next hbefore' =>
  rw [if_neg hbefore', if_neg hwaits.before, hmessage, hmode]
  rw [hmessage] at hok
  cases hm : (c.withCredentials t.credentials).message t.request with
  | error e => rfl
  | ok m =>
    rw [hm] at hok
    dsimp only at hok ⊢
    -- What has been told rows was answered, and an answer is the same whoever waits for it, and how long.
    obtain ⟨response, hu⟩ := response_of_outcome hok
    rw [hu, hwaits.arrival, Turn.answer_of_arrival hu]
    rfl

end Serving

/-- **What a read is served** is what it is told past the cache, or what an earlier read of its key is. So it is
served what it would be told itself as long as nobody has read the same with success under other credentials, and
nothing keeps it from its answer. -/
theorem served_as_asked (answer : Http.Message → Reply) {c : Client} {config : CacheConfig} {turns : List Turn}
    {t : Turn} (hcache : c.cache = some (.empty config)) (hkey : config.keyOf = none)
    (hturns : ∀ u ∈ turns, u.IsCompiled) (ht : t.IsCompiled) :
    let c' := c.serveAll answer turns
    ((c'.serve answer t).1 = (c'.serve answer t.direct).1 ∨
        ∃ u ∈ turns, u.request.canonical = t.request.canonical ∧
          (c'.serve answer t).1 = (c'.serve answer u.direct).1) ∧
      (t.Waits →
        (∀ u ∈ turns, u.request.canonical = t.request.canonical → (c'.serve answer u.direct).1.isOk = true →
          u.credentials = t.credentials) →
        (c'.serve answer t).1 = (c'.serve answer t.direct).1) := by
  intro c'
  obtain ⟨cache, hc, hdefault, hfilled⟩ : Filled answer turns c' :=
    filled_serveAll ⟨_, hcache, hkey, fun x hx => nomatch hx⟩ fun u hu => (hturns u hu).isWrite
  have hdirect (u : Turn) (hu : u.IsCompiled) : (c'.serve answer u.direct).1 = c'.asked answer u :=
    serve_direct hc hu.isWrite
  rw [hdirect t ht]
  have htold : (c'.serve answer t).1 = c'.asked answer t ∨
      ∃ x ∈ cache.contents, x.1 = cache.keyFor t.request ∧ x.2.value = (c'.serve answer t).1 :=
    (served_serve hc ht.isWrite).1
  rcases htold with htold | ⟨x, hx, hname, hvalue⟩
  · exact ⟨.inl htold, fun _ _ => htold⟩
  · obtain ⟨u, hu, hname', hvalue', hok⟩ := hfilled x hx
    have hsame : u.request.canonical = t.request.canonical := by
      rw [← hname', hname, Cache.keyFor, hdefault]
    have htold : (c'.serve answer t).1 = c'.asked answer u := hvalue.symm.trans hvalue'
    refine ⟨.inr ⟨u, hu, hsame, by rw [htold, hdirect u (hturns u hu)]⟩, fun hwaits hagree => ?_⟩
    rw [hvalue'] at hok
    have hcredentials := hagree u hu hsame (by rw [hdirect u (hturns u hu), hok])
    exact htold.trans (asked_eq_of_canonical ht (hturns u hu) hsame hcredentials hwaits hok)

/-- A read of users under given credentials. -/
def usersTurn (credentials : Except String (Option String)) (withdrawal : Option Withdrawal) : Turn where
  request := ⟨"users", none, .get, .many, [], [], none, ["users"]⟩
  options := ⟨none, .standard⟩
  credentials := credentials
  withdrawal := withdrawal
  tooLate := false
  now := 0
  later := 0

/-- A server that lets nobody but one caller read. -/
def answerOne (m : Http.Message) : Reply :=
  .response (if m.headers.get? "authorization" = some "Bearer one" then ⟨200, [], Text.Utf8.encode "[1]"⟩
    else ⟨401, [], Text.Utf8.encode ""⟩)

/-- The one caller reads twice. -/
theorem served_as_asked_again :
    let c := Client.plain (.empty .standard)
    let t := usersTurn (.ok (some "Bearer one")) none
    let c' := c.serveAll answerOne [t]
    (c'.serve answerOne t).1.isOk = true ∧ (c'.serve answerOne t).1 = (c'.serve answerOne t.direct).1 := by
  intro c t c'
  have ht : t.IsCompiled := ⟨Query.on "users", .many, rfl⟩
  refine ⟨by decide +kernel, (served_as_asked answerOne rfl rfl (List.forall_mem_singleton.mpr ht) ht).2
    ⟨nofun, nofun, rfl⟩ fun u hu _ _ => ?_⟩
  rw [List.mem_singleton.mp hu]

/-- Another caller reads after the one, and one whose credentials cannot be had, and the one again, who has withdrawn
by then: none of them is served what it is told past the cache. -/
theorem served_to_others :
    let c := (Client.plain (.empty .standard)).serveAll answerOne [usersTurn (.ok (some "Bearer one")) none]
    ∀ t ∈ [usersTurn (.ok (some "Bearer other")) none, usersTurn (.error "expired") none,
        usersTurn (.ok (some "Bearer one")) (some .before)],
      (c.serve answerOne t).1 ≠ (c.serve answerOne t.direct).1 := by
  intro c t ht heq
  have hserved : ∀ t ∈ [usersTurn (.ok (some "Bearer other")) none, usersTurn (.error "expired") none,
      usersTurn (.ok (some "Bearer one")) (some .before)],
      (c.serve answerOne t).1.isOk = true ∧ (c.serve answerOne t.direct).1.isOk = false := by
    decide +kernel
  obtain ⟨hok, hno⟩ := hserved t ht
  rw [heq, hno] at hok
  exact nomatch hok

end TableQuery.Client
