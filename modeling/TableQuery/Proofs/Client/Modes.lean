import TableQuery.Proofs.Client.Pages
import TableQuery.Proofs.Query.Unwindowed

/-! The modes a query is executed in.

A query goes out with the same headers in every mode, and the server reads and lists the same for it
(`Query.Fetched.exists_mode`): a single row is looked for by the client among the rows that come, and the head is
answered without them. So the rows and the count of the mode for many decide what the others come to. The count is
that of the listing, and no window has a part in that: the query without its own has the same one
(`Query.Fetched.unwindowed`). Together these make `Query.modes_agree`. A relation with the empty key puts its window
over the table itself, where it is no longer the query's (`keyless_offset_is_counted`). -/
namespace TableQuery
open Server

namespace Server.Params
variable {p : Params}

/-- A request without the window of another, and without a range, asks for the same rows and for all of them. -/
theorem read_unwindowed {params : List Param} {limit offset : Option UInt64} {headers headers' : Http.Headers}
    (h : Params.read (Url.Form.encode (params ++ windowParams [] limit offset)) headers = .ok p)
    (hrange' : headers'.text? "range" = none) (hprefer : headers'.all "prefer" = ["count=exact"])
    (hkeeps : ∀ param ∈ params, KeepsWindow param.1 param.2) :
    ∃ p', Params.read (Url.Form.encode params) headers' = .ok p' ∧ p'.AskAlike { p with range := none } ∧
      p'.window "" = (0, none) ∧ p'.counted = true := by
  obtain ⟨a', ha', b, hb, rfl⟩ := read_eq_ok.mp h
  obtain ⟨a, ha, hwindow⟩ := putAll_append_ok ha'
  obtain ⟨a'', ha'', halike, -, -⟩ := putAll_window a limit offset
  obtain rfl := Except.ok.inj (hwindow.symm.trans ha'')
  obtain ⟨p', hp'⟩ : ∃ p', Params.read (Url.Form.encode params) headers' = .ok p' := by
    rw [read_without_range params hrange', ha]
    exact ⟨_, rfl⟩
  refine ⟨p', hp', ?_, window_of_read hp' hrange' hkeeps, counted_of_read hp' hprefer⟩
  rw [read_without_range params hrange', ha] at hp'
  obtain rfl := Except.ok.inj hp'
  obtain ⟨hselect, hscopes⟩ := eq_of_putRange hb
  obtain ⟨hselect', hscopes', -⟩ := foldl_putPreference_eq (preferences headers) b
  have hnone : a'.range = none := halike.range.trans (sameWindow_putAll ha hkeeps).range
  exact askAlike_of_eq halike (foldl_putPreference_eq _ a)
    ⟨hselect'.trans hselect, hscopes'.trans hscopes, hnone.symm⟩

end Server.Params

/-! ### Without a window -/

namespace Query
variable {α : Type} {q : Query} {c : Client} {server : Server} {row : Json → Except String α} {rows : List α}
  {r : Request} {m : Http.Message} {name : String} {p : Params} {listed : List Json}

/-- A range is sent in two headers. -/
theorem headerName?_rangeHeaders {range : Option (UInt64 × UInt64)} {other : String}
    (hother : other ∉ ["range-unit", "range"]) :
    ∀ param ∈ rangeHeaders range, Http.headerName? param.1 ≠ some other := by
  have hnames : Http.headerName? "Range-Unit" = some "range-unit" ∧ Http.headerName? "Range" = some "range" := by
    decide
  obtain ⟨hunit, hrange⟩ := not_or.mp (mt List.mem_pair.mpr hother)
  cases range with
  | none => exact fun _ hmem => nomatch hmem
  | some bounds =>
    refine List.forall_mem_cons.mpr ⟨fun h => ?_, List.forall_mem_singleton.mpr fun h => ?_⟩
    · exact hunit (Option.some.inj (hnames.1.symm.trans h)).symm
    · exact hrange (Option.some.inj (hnames.2.symm.trans h)).symm

/-- All rows that there are for a query are listed for the one without its window. -/
theorem Fetched.unwindowed (hf : q.Fetched c server row rows r m name p listed) (hcount : q.count = some .exact)
    (hkeys : q.EmbedsUnderKeys) (hrange : c.headers.text? "range" = none) :
    ∃ r' m' p', q.unwindowed.compileAs .many = .ok r' ∧ c.message r' = .ok m' ∧
      server.Lists (Client.target r') m' name p' listed ∧ p'.window "" = (0, none) ∧ p'.counted = true := by
  obtain ⟨params, range, hcompiled, hparams, hheaders⟩ := compileAs_unwindowed hf.compiled
  rw [hcount] at hcompiled hheaders
  obtain ⟨r', hr'⟩ : ∃ r', r' = { r with
    params := params, headers := schemaHeaders r.schema ++ countHeaders (some .exact) } := ⟨_, rfl⟩
  rw [← hr'] at hcompiled
  have hheaders' : r'.headers = schemaHeaders r.schema ++ countHeaders (some .exact) := by rw [hr']
  -- The message has the same headers but for a range of rows.
  obtain ⟨m', hm', halike⟩ := Client.message_without hheaders hheaders' hf.message
  have hrange' : m'.headers.text? "range" = none := (Client.range_of_message hheaders' hm').trans hrange
  have hprefer := Client.prefer_of_message hheaders' hm'
  -- The server reads the same in it but for the window.
  have hread : Params.read (Url.Form.encode r.params) m.headers = .ok p := read_of_vet hf.lists.vet
  have hitems := hkeys.not_isKeyless hf.head hf.compiled hread
  rw [hparams] at hread
  have hkeeps : ∀ param ∈ params, Params.KeepsWindow param.1 param.2 := by
    have h := keepsWindow_unwindowed hcompiled hkeys.relations
    rwa [hr'] at h
  obtain ⟨p', hread', hasked, hwindow, hcounted⟩ := Params.read_unwindowed hread hrange' hprefer hkeeps
  have hlisting : server.store.listing p' name = .ok listed := by
    have hitems' : ∀ item ∈ p'.items, ¬item.IsKeyless := by
      rwa [Params.items, show p'.select = p.select from hasked.select.symm]
    rw [← Store.listing_congr hasked server.store name hitems', Store.listing_range p none server.store name hitems]
    exact hf.lists.listing
  have hkept {other : String} (hother : other ∉ ["range-unit", "range"]) :
      m.headers.text? other = m'.headers.text? other :=
    Http.Headers.text?_congr (halike other (headerName?_rangeHeaders hother))
  have hquery : (Client.target r').query = Url.Form.encode params := by
    rw [hr']
    rfl
  have hroute : Server.route (Client.target r').path = .table name := by
    rw [hr']
    exact hf.lists.route
  have hvet := vet_of_alike hf.lists.vet (hkept (by decide)) (hkept (by decide)) hread'
  exact ⟨r', m', p', hcompiled, hm', ⟨hroute, hquery ▸ hvet, hlisting,
    Params.checkWindow_of_range (Params.range_of_read hread' hrange') ""⟩, hwindow, hcounted⟩

end Query

/-! ### One row -/

namespace Envelope
variable {α : Type} {row : Json → Except String α} {vs : List Json} {rows : List α}

/-- The only one of some rows: if there is none it is not found, and more are too many. -/
def onlyOf (rows : List α) (count : Option Nat) (status : Nat) : Envelope α :=
  match rows with
  | [] => .failure .notFound notAcceptable
  | [a] => .success (some a) count status
  | _ => .failure (.multipleRows rows.length) notAcceptable

/-- The only one of some rows, if there is one. -/
def atMostOneOf (rows : List α) (count : Option Nat) (status : Nat) : Envelope α :=
  match rows with
  | [] => .success none count status
  | rows => onlyOf rows count status

theorem decodeRow_shape_single (h : vs.mapM row = .ok rows) (count : Option Nat) (status : Nat) :
    ((Envelope.success (some (.arr vs)) count status).shape .single).decodeRow row = onlyOf rows count status := by
  cases Chained.mapM_eq_ok.mp h with
  | nil => rfl
  | cons hfirst hrest =>
    cases hrest with
    | nil => simp [shape, rowsOf, decodeRow, andThen, hfirst, orDecode, onlyOf]
    | cons _ hrest => simp [shape, rowsOf, decodeRow, andThen, onlyOf, hrest.length_eq]

theorem decodeRow_shape_maybeSingle (h : vs.mapM row = .ok rows) (count : Option Nat) (status : Nat) :
    ((Envelope.success (some (.arr vs)) count status).shape .maybeSingle).decodeRow row =
      atMostOneOf rows count status := by
  cases Chained.mapM_eq_ok.mp h with
  | nil => rfl
  | cons hfirst hrest =>
    -- Where there is a row the modes do the same.
    show _ = onlyOf (_ :: _) count status
    rw [← decodeRow_shape_single h count status]
    cases hrest <;> rfl

theorem nothing_of_not_isOk {e : Envelope α} (h : e.isOk = false) : e.data? = none ∧ e.count? = none := by
  cases e with
  | success data count status => exact nomatch h
  | failure error status => exact ⟨rfl, rfl⟩

end Envelope

/-! ### Modes -/

namespace Query
variable {α : Type} {q : Query} {c : Client} {server : Server} {row : Json → Except String α} {rows : List α}
  {r : Request} {m : Http.Message} {name : String} {p : Params} {listed : List Json}

/-- The row of a query that a server answers at once. -/
def fetchRow (q : Query) (x : Execution) (c : Client) (server : Server) (row : Json → Except String α) :
    Except NoAnswer (Envelope α) := do
  let r ← NoAnswer.orError (q.request x)
  let e ← c.fetch server r
  .ok (e.decodeRow row)

theorem compileAs_mode (h : q.compileAs .many = .ok r) (hhead : q.head = false) (mode : Mode) :
    q.compileAs mode = .ok { r with method := if mode = .count then .head else .get, mode := mode } := by
  obtain ⟨hfault, htable, -, hrelations, select, filters, w, cursor, hoisted, hselect, hfilters, hwindow, hcursor,
    hhoist, rfl⟩ := parts_of_compileAs h
  have hmode : q.head = true → mode = .count := fun hq => absurd (hhead.symm.trans hq) (by decide)
  exact compileAs_of_parts hfault htable hmode hrelations hselect hfilters hwindow hcursor hhoist

theorem compileAs_headOnly (h : q.compileAs .count = .ok r) (hcount : q.count = some .exact) :
    q.headOnly.compileAs .count = .ok r := by
  have hheaded : q.headOnly = { q with head := true } := by
    rw [headOnly, hcount, Option.some_or, ← hcount]
  obtain ⟨hfault, htable, -, hrelations, select, filters, w, cursor, hoisted, hselect, hfilters, hwindow, hcursor,
    hhoist, rfl⟩ := parts_of_compileAs h
  rw [hheaded]
  exact compileAs_of_parts hfault htable (fun _ => rfl) hrelations hselect hfilters hwindow hcursor hhoist
    (q := { q with head := true })

/-- In every mode the query goes out with the same headers, and is read and listed in the same way. -/
theorem Fetched.exists_mode (hf : q.Fetched c server row rows r m name p listed) (mode : Mode) :
    ∃ r' m', q.compileAs mode = .ok r' ∧ c.message r' = .ok m' ∧
      server.Lists (Client.target r') m' name p listed := by
  have hcompiled := compileAs_mode hf.compiled hf.head mode
  obtain ⟨m', hm', -, hsame⟩ := Client.message_of_headers_eq (rfl : { r with
    method := if mode = Mode.count then .head else .get, mode := mode }.headers = r.headers) hf.message
  exact ⟨_, m', hcompiled, hm', hf.lists.route, hsame ▸ hf.lists.vet, hf.lists.listing, hf.lists.fits⟩

/-- What a query comes to in a mode for rows. -/
theorem Fetched.fetchRow_eq (hf : q.Fetched c server row rows r m name p listed) {x : Execution} {mode : Mode}
    (hx : q.request x = q.requestAs mode) (hmode : mode ≠ .count) :
    ∃ vs, vs.mapM row = .ok rows ∧ q.fetchRow x c server row =
      .ok (((Envelope.success (some (.arr vs)) (Envelope.toldCount p listed) 200).shape mode).decodeRow row) := by
  obtain ⟨vs, hvs, hrows⟩ := Envelope.forall₂_receives.mp hf.received
  obtain ⟨r', m', hcompiled, hm', hlists⟩ := hf.exists_mode mode
  refine ⟨vs, hrows, ?_⟩
  rw [fetchRow, hx, requestAs, if_pos hf.bound, hcompiled]
  show (c.fetch server r' >>= _) = _
  rw [fetch_of_lists hcompiled hmode hm' hlists, Envelope.ofResponse_reply, hvs]
  rfl

/-- For the head alone a query comes to the count. -/
theorem Fetched.fetchRows_headOnly (hf : q.Fetched c server row rows r m name p listed)
    (hcount : q.count = some .exact) :
    q.headOnly.fetchRows c server row = .ok (.success none (Envelope.toldCount p listed) 200) := by
  obtain ⟨r', m', hcompiled, hm', hlists⟩ := hf.exists_mode .count
  have hbound : q.headOnly.bound = true := hf.bound
  have hrequest : q.headOnly.request .rows = .ok r' := by
    rw [request, requestAs, if_pos hbound]
    exact compileAs_headOnly hcompiled hcount
  obtain ⟨hmode, hmethod⟩ := mode_of_compileAs hcompiled
  have hhead : m'.method = "HEAD" := by
    rw [Client.method_of_message hm', hmethod]
    rfl
  rw [fetchRows, hrequest]
  show (c.fetch server r' >>= _) = _
  rw [Client.fetch_of_message hm', respond_head_of_lists hhead hlists, hmode]
  show Except.ok (((Envelope.ofResponse _).shape .count).decodeRows row) = _
  rw [Envelope.ofResponse_head]
  rfl

/-- What a server answers the request of a query, as it is sent. -/
def response (q : Query) (c : Client) (server : Server) : Except NoAnswer Http.Response := do
  let r ← NoAnswer.orError (q.request .rows)
  let m ← NoAnswer.orError (c.message r)
  NoAnswer.orBreakdown (server.respond (Client.target r) m).1

/-- It is what the server answers the message. -/
theorem response_of_message (hbound : q.bound = true) (hhead : q.head = false) (hcompiled : q.compileAs .many = .ok r)
    (hmessage : c.message r = .ok m) :
    q.response c server = NoAnswer.orBreakdown (server.respond (Client.target r) m).1 ∧ m.method = "GET" := by
  constructor
  · rw [response, request_rows hbound hhead hcompiled]
    show (NoAnswer.orError (c.message r) >>= _) = _
    rw [hmessage]
    rfl
  · rw [Client.method_of_message hmessage, (mode_of_compileAs hcompiled).2]
    rfl

theorem response_of_lists (hbound : q.bound = true) (hhead : q.head = false) (hcompiled : q.compileAs .many = .ok r)
    (hmessage : c.message r = .ok m) (hlists : server.Lists (Client.target r) m name p listed) :
    q.response c server = .ok (Store.reply p listed).toResponse := by
  obtain ⟨hresponse, hget⟩ := response_of_message hbound hhead hcompiled hmessage
  rw [hresponse, respond_of_lists hget hlists]
  rfl

/-- **The modes agree.** Where a query that asks for an exact count is answered with rows and a count, a single row
that is asked for is the only one of them, and with none or with more there is a failure; where a row may be missing,
none is no failure; for the head alone there is the count. No failure has data or a count. And the count is that of
the rows that the server sends for the query without its window, which it is answered with if the client can make
something of each: that is so for all queries that embed nothing without a key, from a client that asks for no range
itself. -/
theorem modes_agree {n status : Nat}
    (h : q.fetchRows c server row = .ok (.success (some rows) (some n) status)) (hcount : q.count = some .exact) :
    q.fetchRow .single c server row = .ok (.onlyOf rows (some n) status) ∧
      q.fetchRow .maybeSingle c server row = .ok (.atMostOneOf rows (some n) status) ∧
      q.headOnly.fetchRows c server row = .ok (.success none (some n) status) ∧
      (∀ x e, q.fetchRow x c server row = .ok e → e.isOk = false → e.data? = none ∧ e.count? = none) ∧
      (q.EmbedsUnderKeys → c.headers.text? "range" = none → ∃ all : List Json, all.length = n ∧
        (∃ range, q.unwindowed.response c server =
          .ok ⟨200, [("content-range", range)], Text.Utf8.encode (Json.arr all).render⟩) ∧
        (∃ window, List.Forall₂ (Envelope.Receives row) (Store.paginate all window) rows) ∧
        ∀ others count status, q.unwindowed.fetchRows c server row = .ok (.success (some others) count status) ↔
          List.Forall₂ (Envelope.Receives row) all others ∧ some n = count ∧ 200 = status) := by
  obtain ⟨r, m, name, p, listed, hf, htold, rfl⟩ := exists_fetched h
  refine ⟨?_, ?_, ?_, fun _ _ _ => Envelope.nothing_of_not_isOk, fun hkeys hrange => ?_⟩
  · obtain ⟨vs, hvs, hfetched⟩ := hf.fetchRow_eq (rfl : q.request .single = q.requestAs .single) (by decide)
    rw [hfetched, htold, Envelope.decodeRow_shape_single hvs]
  · obtain ⟨vs, hvs, hfetched⟩ :=
      hf.fetchRow_eq (rfl : q.request .maybeSingle = q.requestAs .maybeSingle) (by decide)
    rw [hfetched, htold, Envelope.decodeRow_shape_maybeSingle hvs]
  · rw [hf.fetchRows_headOnly hcount, htold]
  · obtain ⟨hcounted, hlength⟩ := Envelope.length_of_toldCount htold
    obtain ⟨r', m', p', hcompiled, hm', hlists, hwindow, hcounted'⟩ := hf.unwindowed hcount hkeys hrange
    have htold' : Envelope.toldCount p' listed = some n := by
      rw [← htold, Envelope.toldCount, Envelope.toldCount, if_pos hcounted, if_pos hcounted']
    have hbound : q.unwindowed.bound = true := hf.bound
    have hhead : q.unwindowed.head = false := hf.head
    have hall : Store.paginate listed (p'.window "") = listed := by
      rw [hwindow]
      rfl
    refine ⟨listed, hlength, ?_, ⟨_, hf.received⟩, fun others count status => ?_⟩
    · rw [response_of_lists hbound hhead hcompiled hm' hlists, Store.reply, hall]
      exact ⟨_, rfl⟩
    · rw [fetchRows_of_lists hbound hhead hcompiled hm' hlists, Except.ok.injEq, Envelope.decodeRows_reply, hall,
        htold']

/-- What a client without settings is answered to a request that asks for a count besides. -/
theorem fetchRows_counted {params : List Param} {tables : List String} {t : Table} (hbound : q.bound = true)
    (hhead : q.head = false) (hcompiled : q.compileAs .many =
      .ok ⟨q.table, none, .get, .many, params, [("Prefer", "count=exact")], none, tables⟩)
    (hserver : server.bearer = none ∧ server.schemas = []) (htable : server.store.table q.table = .ok t)
    (hread : Params.read (Url.Form.encode params) [("accept", "application/json"), ("prefer", "count=exact")] =
      .ok p)
    (hlisting : server.store.listing p q.table = .ok listed) (hlength : listed.length < UInt64.size)
    (hreceived : List.Forall₂ (Envelope.Receives row) (Store.paginate listed (p.window "")) rows) :
    q.fetchRows (Client.plain (.empty .standard)) server row =
      .ok (.success (some rows) (some listed.length) 200) := by
  have hcounted : p.counted = true := Params.counted_of_read hread rfl
  rw [fetchRows_sent hbound hhead hcompiled (by decide) hserver htable hread hlisting (by decide) hreceived,
    Envelope.toldCount_of_counted hcounted hlength]

/-- The second of the users, with the number of all. -/
def secondUser : Query := (((laterPosts "p").counted .exact).offset 1).limit 1

theorem compile_secondUser :
    secondUser.compileAs .many = .ok ⟨"users", none, .get, .many,
      [("select", "*,p:posts(*)"), ("p.offset", "1"), ("limit", "1"), ("offset", "1")],
      [("Prefer", "count=exact")], none, ["users", "posts"]⟩ := by
  rw [compileAs, show isIdentifier secondUser.table = true by decide]
  cbv

/-- The window over the users, and the one over their posts. -/
def windows : List (String × Scope) := [("p", ⟨[], [], some 1, none⟩), ("", ⟨[], [], some 1, some 1⟩)]

theorem embedsUnderKeys_secondUser : secondUser.EmbedsUnderKeys where
  relations := embedsUnderKeys_laterPosts.relations
  selection := by
    intro r p hr hp
    obtain rfl := Except.ok.inj (hr.symm.trans compile_secondUser)
    have hasked : Params.empty.putAll [("select", "*,p:posts(*)"), ("p.offset", "1"), ("limit", "1"),
        ("offset", "1")] = .ok (askedPosts "p" windows false) := by
      cbv
    rw [Except.ok.inj (hp.symm.trans hasked)]
    exact not_isKeyless_askedPosts (by decide) _ _

/-- One user is asked for and three are counted, as many as there are without the window. -/
theorem second_user_of_three :
    secondUser.fetchRows (Client.plain (.empty .standard)) threeUsers userShape.decode =
        .ok (.success (some [user 2]) (some 3) 200) ∧
      secondUser.fetchRow .single (Client.plain (.empty .standard)) threeUsers userShape.decode =
        .ok (.success (some (user 2)) (some 3) 200) ∧
      secondUser.headOnly.fetchRows (Client.plain (.empty .standard)) threeUsers userShape.decode =
        .ok (.success none (some 3) 200) ∧
      ∃ all : List Json, all.length = 3 ∧ ∀ others count status,
        secondUser.unwindowed.fetchRows (Client.plain (.empty .standard)) threeUsers userShape.decode =
            .ok (.success (some others) count status) ↔
          List.Forall₂ (Envelope.Receives userShape.decode) all others ∧ some 3 = count ∧ 200 = status := by
  have hread : Params.read (Url.Form.encode
      [("select", "*,p:posts(*)"), ("p.offset", "1"), ("limit", "1"), ("offset", "1")])
      [("accept", "application/json"), ("prefer", "count=exact")] =
        .ok (askedPosts "p" windows true) := by
    rw [Params.read_without_range _ (by rfl)]
    cbv
  have hlisting : threeUsers.store.listing (askedPosts "p" windows true) "users" =
      .ok ([1, 2, 3].map (userWith "p")) := by
    cbv
  have hreceived : List.Forall₂ (Envelope.Receives userShape.decode) ([2].map (userWith "p")) [user 2] := by
    refine Envelope.forall₂_receives.mpr ⟨[2].map (userWith "p"), ?_, ?_⟩ <;> cbv
  have hlength : ([1, 2, 3].map (userWith "p")).length < UInt64.size := by
    show 3 < 2 ^ 64
    decide
  have hfetched : secondUser.fetchRows (Client.plain (.empty .standard)) threeUsers userShape.decode =
      .ok (.success (some [user 2]) (some 3) 200) :=
    fetchRows_counted rfl rfl compile_secondUser ⟨rfl, rfl⟩ rfl hread hlisting hlength hreceived
  obtain ⟨hsingle, -, hhead, -, hall⟩ := modes_agree hfetched rfl
  obtain ⟨all, hlength, -, -, hiff⟩ := hall embedsUnderKeys_secondUser rfl
  exact ⟨hfetched, hsingle, hhead, all, hlength, hiff⟩

/-- The offset of a relation without a key leaves out a user who is counted, though the query has no window. -/
theorem keyless_offset_is_counted :
    ((laterPosts "").counted .exact).unwindowed = (laterPosts "").counted .exact ∧
      ((laterPosts "").counted .exact).fetchRows (Client.plain (.empty .standard)) threeUsers userShape.decode =
        .ok (.success (some [user 2, user 3]) (some 3) 200) := by
  have hcompiled : ((laterPosts "").counted .exact).compileAs .many = .ok ⟨"users", none, .get, .many,
      [("select", "*,:posts(*)"), (".offset", "1")], [("Prefer", "count=exact")], none, ["users", "posts"]⟩ := by
    rw [compileAs, show isIdentifier ((laterPosts "").counted .exact).table = true by decide]
    cbv
  have hread : Params.read (Url.Form.encode [("select", "*,:posts(*)"), (".offset", "1")])
      [("accept", "application/json"), ("prefer", "count=exact")] =
        .ok (askedPosts "" [("", ⟨[], [], some 1, none⟩)] true) := by
    rw [Params.read_without_range _ (by rfl)]
    cbv
  have hlisting : threeUsers.store.listing (askedPosts "" [("", ⟨[], [], some 1, none⟩)] true) "users" =
      .ok ([1, 2, 3].map (userWith "")) := by
    cbv
  have hreceived : List.Forall₂ (Envelope.Receives userShape.decode) ([2, 3].map (userWith ""))
      [user 2, user 3] := by
    refine Envelope.forall₂_receives.mpr ⟨[2, 3].map (userWith ""), ?_, ?_⟩ <;> cbv
  have hlength : ([1, 2, 3].map (userWith "")).length < UInt64.size := by
    show 3 < 2 ^ 64
    decide
  exact ⟨rfl, fetchRows_counted rfl rfl hcompiled ⟨rfl, rfl⟩ rfl hread hlisting hlength hreceived⟩

end Query
end TableQuery
