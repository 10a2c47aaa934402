import TableQuery.Client.Dispatch
import TableQuery.Proofs.Client.Settling
import TableQuery.Proofs.Query.Compile
import TableQuery.Proofs.Server.Reads

/-! A request answered at once.

Where neither the cache nor time has a say, a request goes to the server as a message and what it is answered
is settled (`Client.fetch`, which is what a dispatch comes to: `settle_send`); nothing comes back where the server
breaks down over it (`NoAnswer`). Two requests that differ in what they prefer alone go out with the same headers but
for that one (`message_counted`), and headers that a request is sent without make no other difference
(`message_without`). -/
namespace TableQuery
open Server

/-! ### Headers -/

namespace Http.Headers
variable {hs hs' : Headers} {name other value : String}

theorem get?_eq_head? (hs : Headers) (name : String) : hs.get? name = (hs.all name).head? := by
  unfold get? all
  rw [List.head?_map, List.head?_filter]

theorem all_set_self (hs : Headers) (name value : String) : (hs.set name value).all name = [value] := by
  unfold all set
  rw [List.filter_append, List.filter_filter]
  simp

theorem all_set_of_ne (h : other ≠ name) (hs : Headers) (value : String) :
    (hs.set name value).all other = hs.all other := by
  unfold all set
  rw [List.filter_append, List.filter_filter]
  have hkept (e : String × String) : (e.1 == other && e.1 != name) = (e.1 == other) := by
    by_cases he : e.1 = other <;> simp [he, h]
  simp [hkept, h.symm]

/-- The same values for every name but one. -/
def AgreeBut (name : String) (hs hs' : Headers) : Prop := ∀ other, other ≠ name → hs.all other = hs'.all other

theorem agreeBut_set (hs : Headers) (name value : String) : AgreeBut name hs (hs.set name value) :=
  fun _ hother => (all_set_of_ne hother hs value).symm

theorem AgreeBut.trans {hs'' : Headers} (h : AgreeBut name hs hs') (h' : AgreeBut name hs' hs'') :
    AgreeBut name hs hs'' :=
  fun other hother => (h other hother).trans (h' other hother)

theorem AgreeBut.symm (h : AgreeBut name hs hs') : AgreeBut name hs' hs :=
  fun other hother => (h other hother).symm

theorem all_set_congr (h : hs.all other = hs'.all other) (key value : String) :
    (hs.set key value).all other = (hs'.set key value).all other := by
  by_cases hkey : other = key
  · rw [hkey, all_set_self, all_set_self]
  · rw [all_set_of_ne hkey, all_set_of_ne hkey, h]

theorem text?_congr (h : hs.all other = hs'.all other) : hs.text? other = hs'.text? other := by
  unfold Headers.text?
  rw [get?_eq_head?, get?_eq_head?, h]

theorem AgreeBut.text? (h : AgreeBut name hs hs') (hother : other ≠ name) : hs.text? other = hs'.text? other :=
  text?_congr (h other hother)

end Http.Headers

/-! ### Admission -/

namespace Server
variable {server : Server} {p : Params}

/-- A request is admitted if one with the same token and the same schema is. -/
theorem vet_of_alike {name query query' : String} {headers headers' : Http.Headers} {p p' : Params}
    (h : server.vet "GET" name query headers = .ok p)
    (htoken : headers.text? "authorization" = headers'.text? "authorization")
    (hprofile : headers.text? "accept-profile" = headers'.text? "accept-profile")
    (hread : Params.read query' headers' = .ok p') : server.vet "GET" name query' headers' = .ok p' := by
  obtain ⟨_, hauthorized, h⟩ := Chained.bind_eq_ok.mp h
  obtain ⟨_, hschema, h⟩ := Chained.bind_eq_ok.mp h
  obtain ⟨_, -, h⟩ := Chained.bind_eq_ok.mp h
  obtain ⟨t, htable, -⟩ := Chained.bind_eq_ok.mp h
  have hauthorized' : server.authorize headers' = .ok () := by
    rw [← hauthorized, authorize, authorize, htoken]
  have hschema' : server.checkSchema "GET" headers' = .ok () := by
    have hheader : profileHeader "GET" = "accept-profile" := rfl
    rw [← hschema, checkSchema, checkSchema, hheader, hprofile]
  unfold vet
  rw [hauthorized', hschema', hread, htable]
  rfl

/-- A request is admitted if one with the same headers is, what it prefers apart. -/
theorem vet_of_agreeBut {name query query' : String} {headers headers' : Http.Headers} {p p' : Params}
    (h : server.vet "GET" name query headers = .ok p) (hagree : headers.AgreeBut "prefer" headers')
    (hread : Params.read query' headers' = .ok p') : server.vet "GET" name query' headers' = .ok p' :=
  vet_of_alike h (hagree.text? (by decide)) (hagree.text? (by decide)) hread

end Server

namespace Client
variable {c : Client} {server : Server} {r r' : Request} {m : Http.Message}

/-! ### Messages -/

/-- What credentials do to some headers they do to any. -/
theorem exists_authorized {hs authorized : Http.Headers} (h : c.authorize hs = .ok authorized) (hs' : Http.Headers) :
    ∃ authorized', c.authorize hs' = .ok authorized' ∧
      (∀ other, hs.all other = hs'.all other → authorized.all other = authorized'.all other) ∧
      ∀ other, other ≠ "authorization" → authorized'.all other = hs'.all other := by
  unfold authorize at h ⊢
  cases hcredentials : c.credentials.header with
  | error reason =>
    rw [hcredentials] at h
    exact nomatch h
  | ok header =>
    rw [hcredentials] at h
    cases header with
    | none =>
      obtain rfl := Except.ok.inj h
      exact ⟨hs', rfl, fun _ hall => hall, fun _ _ => rfl⟩
    | some value =>
      dsimp only at h ⊢
      split at h
      · next hvalue =>
        obtain rfl := Except.ok.inj h
        exact ⟨_, if_pos hvalue, fun _ hall => Http.Headers.all_set_congr hall _ value,
          fun _ hne => Http.Headers.all_set_of_ne hne hs' value⟩
      · exact nomatch h

theorem authorize_agreeBut {hs hs' authorized : Http.Headers} {name : String}
    (hagree : Http.Headers.AgreeBut name hs hs') (h : c.authorize hs = .ok authorized) :
    ∃ authorized', c.authorize hs' = .ok authorized' ∧ Http.Headers.AgreeBut name authorized authorized' ∧
      (name ≠ "authorization" → authorized'.all name = hs'.all name) := by
  obtain ⟨authorized', h', halike, hown⟩ := exists_authorized h hs'
  exact ⟨authorized', h', fun other hother => halike other (hagree other hother), hown name⟩

theorem message_eq_ok : c.message r = .ok m ↔
    ∃ hs, r.headers.foldlM addRequestHeader (c.headers.set "accept" "application/json") = .ok hs ∧
      ∃ authorized, c.authorize hs = .ok authorized ∧
        ⟨r.method.name, c.urlFor r, authorized, r.body.map Text.Utf8.encode⟩ = m := by
  unfold message
  simp only [Chained.bind_eq_ok, Except.ok.injEq]
  constructor
  · rintro ⟨hs, hhs, h⟩
    exact ⟨hs, ok_of_orError hhs, h⟩
  · rintro ⟨hs, hhs, h⟩
    exact ⟨hs, by rw [hhs]; rfl, h⟩

theorem method_of_message (h : c.message r = .ok m) : m.method = r.method.name := by
  obtain ⟨_, -, _, -, rfl⟩ := message_eq_ok.mp h
  rfl

/-- The message of a request with the same headers has the same ones too. -/
theorem message_of_headers_eq (hheaders : r'.headers = r.headers) (h : c.message r = .ok m) :
    ∃ m', c.message r' = .ok m' ∧ m'.method = r'.method.name ∧ m'.headers = m.headers := by
  obtain ⟨hs, hhs, authorized, hauthorized, rfl⟩ := message_eq_ok.mp h
  exact ⟨_, message_eq_ok.mpr ⟨hs, hheaders ▸ hhs, authorized, hauthorized, rfl⟩, rfl, rfl⟩

/-- The message of a request that asks for an exact count in addition has the same headers but for what it
prefers. -/
theorem message_counted {schema : Option String} {count : Option CountStrategy}
    (hheaders : r.headers = schemaHeaders schema ++ countHeaders count)
    (hheaders' : r'.headers = schemaHeaders schema ++ countHeaders (some .exact)) (h : c.message r = .ok m) :
    ∃ m', c.message r' = .ok m' ∧ m'.method = r'.method.name ∧
      Http.Headers.AgreeBut "prefer" m.headers m'.headers ∧ m'.headers.all "prefer" = ["count=exact"] := by
  obtain ⟨hs, hhs, authorized, hauthorized, rfl⟩ := message_eq_ok.mp h
  rw [hheaders, List.foldlM_append] at hhs
  obtain ⟨hs₀, hschema, hcount⟩ := Chained.bind_eq_ok.mp hhs
  have hprefer (v : CountStrategy) : addRequestHeader hs₀ ("Prefer", "count=" ++ v.name) =
      .ok (hs₀.set "prefer" ("count=" ++ v.name)) := by
    cases v <;> rfl
  have hagree : Http.Headers.AgreeBut "prefer" hs (hs₀.set "prefer" "count=exact") := by
    cases count with
    | none =>
      obtain rfl := Except.ok.inj hcount
      exact Http.Headers.agreeBut_set hs₀ _ _
    | some v =>
      replace hcount : (addRequestHeader hs₀ ("Prefer", "count=" ++ v.name) >>= pure) = .ok hs := hcount
      rw [hprefer v] at hcount
      obtain rfl := Except.ok.inj hcount
      exact (Http.Headers.agreeBut_set hs₀ _ _).symm.trans (Http.Headers.agreeBut_set hs₀ _ _)
  obtain ⟨authorized', hauthorized', hagree', hown⟩ := authorize_agreeBut hagree hauthorized
  refine ⟨_, message_eq_ok.mpr ⟨hs₀.set "prefer" "count=exact", ?_, authorized', hauthorized', rfl⟩, rfl,
    hagree', ?_⟩
  · rw [hheaders', List.foldlM_append]
    refine Chained.bind_eq_ok.mpr ⟨hs₀, hschema, ?_⟩
    show (addRequestHeader hs₀ ("Prefer", "count=" ++ CountStrategy.exact.name) >>= pure) = _
    rw [hprefer]
    rfl
  · show authorized'.all "prefer" = _
    rw [hown (by decide), Http.Headers.all_set_self]

/-- What a request prefers that asks for an exact count. -/
theorem prefer_of_message {schema : Option String}
    (hheaders : r.headers = schemaHeaders schema ++ countHeaders (some .exact)) (h : c.message r = .ok m) :
    m.headers.all "prefer" = ["count=exact"] := by
  obtain ⟨m', hm', -, -, hprefer⟩ := message_counted hheaders hheaders h
  rwa [← Except.ok.inj (h.symm.trans hm')] at hprefer

theorem all_of_foldlM {params : List Param} {hs hs' : Http.Headers} {name : String}
    (h : params.foldlM addRequestHeader hs = .ok hs')
    (hname : ∀ param ∈ params, Http.headerName? param.1 ≠ some name) : hs'.all name = hs.all name := by
  induction params generalizing hs with
  | nil => exact Except.ok.inj h ▸ rfl
  | cons param params ih =>
    obtain ⟨hfirst, hrest⟩ := List.forall_mem_cons.mp hname
    rw [List.foldlM_cons] at h
    obtain ⟨hs₁, hadd, h⟩ := Chained.bind_eq_ok.mp h
    rw [ih h hrest]
    unfold addRequestHeader at hadd
    split at hadd
    · exact nomatch hadd
    next key hkey =>
    split at hadd
    · obtain rfl := Except.ok.inj hadd
      exact Http.Headers.all_set_of_ne (fun heq => hfirst (hkey.trans (congrArg some heq.symm))) hs _
    · exact nomatch hadd

/-- Headers can be added to any others, and leave no new difference. -/
theorem exists_foldlM {params : List Param} {hs added : Http.Headers}
    (h : params.foldlM addRequestHeader hs = .ok added) (hs' : Http.Headers) :
    ∃ added', params.foldlM addRequestHeader hs' = .ok added' ∧
      ∀ other, hs.all other = hs'.all other → added.all other = added'.all other := by
  induction params generalizing hs hs' with
  | nil => exact ⟨hs', rfl, Except.ok.inj h ▸ fun _ hall => hall⟩
  | cons param params ih =>
    rw [List.foldlM_cons] at h ⊢
    obtain ⟨hs₁, hadd, h⟩ := Chained.bind_eq_ok.mp h
    unfold addRequestHeader at hadd
    split at hadd
    · exact nomatch hadd
    next key hkey =>
    split at hadd
    · next hvalue =>
      obtain rfl := Except.ok.inj hadd
      obtain ⟨added', h', halike⟩ := ih h (hs'.set key param.2)
      have hadd' : addRequestHeader hs' param = .ok (hs'.set key param.2) := by
        unfold addRequestHeader
        rw [hkey]
        exact if_pos hvalue
      exact ⟨added', Chained.bind_eq_ok.mpr ⟨_, hadd', h'⟩,
        fun other hall => halike other (Http.Headers.all_set_congr hall key param.2)⟩
    · exact nomatch hadd

/-- The message of a request without the first of its headers has the same ones but for those. -/
theorem message_without {dropped kept : List Param} (hheaders : r.headers = dropped ++ kept)
    (hheaders' : r'.headers = kept) (h : c.message r = .ok m) :
    ∃ m', c.message r' = .ok m' ∧ ∀ other, (∀ param ∈ dropped, Http.headerName? param.1 ≠ some other) →
      m.headers.all other = m'.headers.all other := by
  obtain ⟨hs, hhs, authorized, hauthorized, rfl⟩ := message_eq_ok.mp h
  rw [hheaders, List.foldlM_append] at hhs
  obtain ⟨hs₁, hdropped, hkept⟩ := Chained.bind_eq_ok.mp hhs
  obtain ⟨hs', hhs', halike⟩ := exists_foldlM hkept (c.headers.set "accept" "application/json")
  obtain ⟨authorized', hauthorized', halike', -⟩ := exists_authorized hauthorized hs'
  refine ⟨_, message_eq_ok.mpr ⟨hs', hheaders' ▸ hhs', authorized', hauthorized', rfl⟩, fun other hother => ?_⟩
  exact halike' other (halike other (all_of_foldlM hdropped hother))

/-- A schema and a count are sent in a header each. -/
theorem headerName?_plainHeaders {schema : Option String} {count : Option CountStrategy} {other : String}
    (hother : other ∉ ["accept-profile", "prefer"]) :
    ∀ param ∈ schemaHeaders schema ++ countHeaders count, Http.headerName? param.1 ≠ some other := by
  have hnames : Http.headerName? "Accept-Profile" = some "accept-profile" ∧
      Http.headerName? "Prefer" = some "prefer" := by
    decide
  obtain ⟨hprofile, hprefer⟩ := not_or.mp (mt List.mem_pair.mpr hother)
  refine List.forall_mem_append.mpr ⟨?_, ?_⟩
  · cases schema with
    | none => exact fun _ hmem => nomatch hmem
    | some s =>
      exact List.forall_mem_singleton.mpr fun h => hprofile (Option.some.inj (hnames.1.symm.trans h)).symm
  · cases count with
    | none => exact fun _ hmem => nomatch hmem
    | some v =>
      exact List.forall_mem_singleton.mpr fun h => hprefer (Option.some.inj (hnames.2.symm.trans h)).symm

/-- A message that is sent without a range has the client's own, if any. -/
theorem range_of_message {schema : Option String} {count : Option CountStrategy}
    (hheaders : r.headers = schemaHeaders schema ++ countHeaders count) (h : c.message r = .ok m) :
    m.headers.text? "range" = c.headers.text? "range" := by
  obtain ⟨hs, hhs, authorized, hauthorized, rfl⟩ := message_eq_ok.mp h
  have hkeys : ∀ param ∈ r.headers, Http.headerName? param.1 ≠ some "range" :=
    hheaders ▸ headerName?_plainHeaders (by decide)
  have hall : authorized.all "range" = c.headers.all "range" := by
    have hagree : Http.Headers.AgreeBut "range" hs hs := fun _ _ => rfl
    obtain ⟨authorized', hauthorized', -, hown⟩ := authorize_agreeBut hagree hauthorized
    obtain rfl := Except.ok.inj (hauthorized.symm.trans hauthorized')
    rw [hown (by decide), all_of_foldlM hhs hkeys, Http.Headers.all_set_of_ne (by decide)]
  show Http.Headers.text? authorized "range" = _
  unfold Http.Headers.text?
  rw [Http.Headers.get?_eq_head?, hall, Http.Headers.get?_eq_head?]

/-! ### Answers -/

/-- Where a request goes on a server. -/
def target (r : Request) : Http.Target := ⟨r.path.toList, r.queryString⟩

end Client

/-- Why nothing comes back from a call. -/
inductive NoAnswer where
  /-- It has failed before it was a request. -/
  | error (e : Error)
  /-- The server has broken down over what was sent. -/
  | breakdown

/-- The answer of a server, unless it breaks down. -/
def NoAnswer.orBreakdown : Option Http.Response → Except NoAnswer Http.Response
  | some response => .ok response
  | none => .error .breakdown

/-- A call that fails before it is a request. -/
def NoAnswer.orError {α : Type} : Except Error α → Except NoAnswer α
  | .ok a => .ok a
  | .error e => .error (.error e)

theorem NoAnswer.orError_eq_ok {α : Type} {x : Except Error α} {a : α} : orError x = .ok a ↔ x = .ok a := by
  cases x <;> simp [orError]

theorem NoAnswer.orBreakdown_eq_ok {x : Option Http.Response} {response : Http.Response} :
    orBreakdown x = .ok response ↔ x = some response := by
  cases x <;> simp [orBreakdown]

namespace Client
variable {c : Client} {r : Request} {m : Http.Message}

/-- What a request comes to that is sent to a server and answered at once. -/
def fetch (c : Client) (server : Server) (r : Request) : Except NoAnswer (Envelope Json) :=
  match c.message r with
  | .error e => .ok (.failure e 0)
  | .ok m => (NoAnswer.orBreakdown (server.respond (target r) m).1).map fun response =>
    (Envelope.ofResponse response).shape r.mode

/-- A dispatch that finds nothing in the cache comes to this, at once or when the server's answer is in. -/
theorem settle_send (c : Client) (server : Server) (r : Request) (options : Options)
    (ticket : Option Cache.Ticket) :
    (∃ e, (c.send r options ticket false).1 = .answered e ∧ c.fetch server r = .ok e) ∨
      ∃ d m, (c.send r options ticket false).1 = .sent d m ∧
        ∀ now withdrawn, c.fetch server r =
          (NoAnswer.orBreakdown (server.respond (target r) m).1).map fun response =>
            ((c.send r options ticket false).2.settle now d (.response response) withdrawn).1 := by
  unfold send fetch
  cases c.message r with
  | error e => exact .inl ⟨_, rfl, rfl⟩
  | ok m => exact .inr ⟨_, m, rfl, fun _ _ => rfl⟩

theorem fetch_of_message (hm : c.message r = .ok m) (server : Server) :
    c.fetch server r = (NoAnswer.orBreakdown (server.respond (target r) m).1).map fun response =>
      (Envelope.ofResponse response).shape r.mode := by
  rw [fetch, hm]

end Client

/-! ### Executions -/

namespace Query
variable {α : Type} {q : Query} {c : Client} {server : Server} {row : Json → Except String α} {rows : List α}
  {count : Option Nat}

/-- The rows of a query that a server answers at once. -/
def fetchRows (q : Query) (c : Client) (server : Server) (row : Json → Except String α) :
    Except NoAnswer (Envelope (List α)) := do
  let r ← NoAnswer.orError (q.request .rows)
  let e ← c.fetch server r
  .ok (e.decodeRows row)

theorem mode_of_compileAs {mode : Mode} {r : Request} (h : q.compileAs mode = .ok r) :
    r.mode = mode ∧ r.method = (if mode = .count then .head else .get) := by
  obtain ⟨-, -, -, -, _, _, _, _, _, -, -, -, -, -, rfl⟩ := parts_of_compileAs h
  exact ⟨rfl, rfl⟩

/-- How a query comes to its rows: by its request, the message that carries it, what the server reads it to ask
for, and the listing that this makes of the table. -/
structure Fetched (q : Query) (c : Client) (server : Server) (row : Json → Except String α) (rows : List α)
    (r : Request) (m : Http.Message) (name : String) (p : Params) (listed : List Json) : Prop where
  bound : q.bound = true
  head : q.head = false
  compiled : q.compileAs .many = .ok r
  message : c.message r = .ok m
  lists : server.Lists (Client.target r) m name p listed
  received : List.Forall₂ (Envelope.Receives row) (Store.paginate listed (p.window "")) rows

/-- What a query comes to in a mode for rows, where the server carries the read out. -/
theorem fetch_of_lists {mode : Mode} {r : Request} {m : Http.Message} {name : String} {p : Params}
    {listed : List Json} (hcompiled : q.compileAs mode = .ok r) (hmode : mode ≠ .count)
    (hmessage : c.message r = .ok m) (hlists : server.Lists (Client.target r) m name p listed) :
    c.fetch server r = .ok ((Envelope.ofResponse (Store.reply p listed).toResponse).shape mode) := by
  obtain ⟨hrequest, hmethod⟩ := mode_of_compileAs hcompiled
  rw [if_neg hmode] at hmethod
  have hget : m.method = "GET" := by
    rw [Client.method_of_message hmessage, hmethod]
    rfl
  rw [Client.fetch_of_message hmessage, respond_of_lists hget hlists, hrequest]
  rfl

theorem requestAs_eq_ok {mode : Mode} {r : Request} :
    q.requestAs mode = .ok r ↔ q.bound = true ∧ q.compileAs mode = .ok r := by
  unfold requestAs
  cases q.bound with
  | true => exact (and_iff_right rfl).symm
  | false => exact iff_of_false (fun h => nomatch h) fun h => nomatch h.1

theorem request_rows {r : Request} (hbound : q.bound = true) (hhead : q.head = false)
    (hcompiled : q.compileAs .many = .ok r) : q.request .rows = .ok r := by
  rw [request, mode, hhead]
  exact requestAs_eq_ok.mpr ⟨hbound, hcompiled⟩

/-- What a query for rows comes to, where the server carries the read out. -/
theorem fetchRows_of_lists {r : Request} {m : Http.Message} {name : String} {p : Params} {listed : List Json}
    (hbound : q.bound = true) (hhead : q.head = false) (hcompiled : q.compileAs .many = .ok r)
    (hmessage : c.message r = .ok m) (hlists : server.Lists (Client.target r) m name p listed)
    (row : Json → Except String α) :
    q.fetchRows c server row = .ok ((Envelope.ofResponse (Store.reply p listed).toResponse).decodeRows row) := by
  rw [fetchRows, request_rows hbound hhead hcompiled]
  show (c.fetch server r >>= _) = _
  rw [fetch_of_lists hcompiled (by decide) hmessage hlists, Envelope.shape_many]
  rfl

theorem Fetched.fetchRows_eq {r : Request} {m : Http.Message} {name : String} {p : Params} {listed : List Json}
    (h : q.Fetched c server row rows r m name p listed) :
    q.fetchRows c server row = .ok (.success (some rows) (Envelope.toldCount p listed) 200) := by
  rw [fetchRows_of_lists h.bound h.head h.compiled h.message h.lists,
    Envelope.decodeRows_reply.mpr ⟨h.received, rfl, rfl⟩]

/-- Where a response gives rows, its status is that of a success. -/
theorem status_of_decodeRows {response : Http.Response} {status : Nat}
    (h : (Envelope.ofResponse response).decodeRows row = .success (some rows) count status) :
    response.status < 300 := by
  by_contra hnot
  have hfailure : Envelope.isSuccessStatus response.status = false := by simp [Envelope.isSuccessStatus, hnot]
  rw [Envelope.ofResponse, hfailure] at h
  exact nomatch h

/-- A count has no rows. -/
theorem decodeRows_count_ne (e : Envelope Json) (status : Nat) :
    (e.shape .count).decodeRows row ≠ .success (some rows) count status := by
  cases e <;> exact fun h => nomatch h

/-- **A query that is answered with rows** came to them in this way. -/
theorem exists_fetched {status : Nat} (h : q.fetchRows c server row = .ok (.success (some rows) count status)) :
    ∃ r m name p listed, q.Fetched c server row rows r m name p listed ∧
      Envelope.toldCount p listed = count ∧ 200 = status := by
  obtain ⟨r, hr, h⟩ := Chained.bind_eq_ok.mp h
  obtain ⟨e, he, h⟩ := Chained.bind_eq_ok.mp h
  replace h := Except.ok.inj h
  obtain ⟨hbound, hr⟩ := requestAs_eq_ok.mp (NoAnswer.orError_eq_ok.mp hr)
  obtain ⟨hmode, hmethod⟩ := mode_of_compileAs hr
  cases hm : c.message r with
  | error e =>
    rw [Client.fetch, hm] at he
    obtain rfl := Except.ok.inj he
    exact nomatch h
  | ok m =>
    rw [Client.fetch_of_message hm, hmode] at he
    obtain ⟨response, hresponse, rfl⟩ := Chained.map_eq_ok.mp he
    replace hresponse := NoAnswer.orBreakdown_eq_ok.mp hresponse
    cases hhead : q.head with
    | true =>
      rw [mode, hhead] at h
      exact absurd h (decodeRows_count_ne _ status)
    | false =>
      rw [mode, hhead] at h hr hmethod
      have hget : m.method = "GET" := by
        rw [Client.method_of_message hm, hmethod]
        rfl
      replace h : (Envelope.ofResponse response).decodeRows row = .success (some rows) count status := by
        rwa [show (if false = true then Mode.count else Mode.many) = .many from rfl, Envelope.shape_many] at h
      have haccepts : server.Accepts (Client.target r) m :=
        ⟨response.status, by rw [status?, hresponse]; rfl, status_of_decodeRows h⟩
      obtain ⟨name, p, listed, hlists⟩ := exists_lists hget haccepts
      obtain rfl := Option.some.inj (hresponse.symm.trans (respond_of_lists hget hlists))
      obtain ⟨hreceived, hcount, hok⟩ := Envelope.decodeRows_reply.mp h
      exact ⟨r, m, name, p, listed, ⟨hbound, hhead, hr, hm, hlists, hreceived⟩, hcount, hok⟩

/-- What a client without settings is answered, where the server asks for no token. -/
theorem fetchRows_sent {params headers : List Param} {tables : List String} {sent : Http.Headers} {t : Table}
    {p : Params} {listed : List Json} (hbound : q.bound = true) (hhead : q.head = false)
    (hcompiled : q.compileAs .many = .ok ⟨q.table, none, .get, .many, params, headers, none, tables⟩)
    (hsent : headers.foldlM Client.addRequestHeader [("accept", "application/json")] = .ok sent)
    (hserver : server.bearer = none ∧ server.schemas = []) (htable : server.store.table q.table = .ok t)
    (hread : Params.read (Url.Form.encode params) sent = .ok p)
    (hlisting : server.store.listing p q.table = .ok listed) (hrange : sent.text? "range" = none)
    (hreceived : List.Forall₂ (Envelope.Receives row) (Store.paginate listed (p.window "")) rows) :
    q.fetchRows (Client.plain (.empty .standard)) server row =
      .ok (.success (some rows) (Envelope.toldCount p listed) 200) := by
  obtain ⟨-, hidentifier, -⟩ := parts_of_compileAs hcompiled
  have hfetched : q.Fetched (Client.plain (.empty .standard)) server row rows _ _ q.table p listed :=
    ⟨hbound, hhead, hcompiled, Client.message_eq_ok.mpr ⟨sent, hsent, sent, rfl, rfl⟩,
      ⟨route_of_isIdentifier hidentifier, vet_of_read hserver.1 hserver.2 htable hread, hlisting,
        Params.checkWindow_of_range (Params.range_of_read hread hrange) ""⟩, hreceived⟩
  exact hfetched.fetchRows_eq

end Query
end TableQuery
