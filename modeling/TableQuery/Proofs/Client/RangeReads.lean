import TableQuery.Proofs.Client.Modes

/-! Ranges of rows.

A range names the first and the last row that are wanted, counted from zero. It goes out in a header beside what the
query sends anyhow (`Query.compileAs_range`, `Client.message_ranged`), and is read back as it was written
(`Params.readRange?_toString`). The server puts it over the rows that the query has without it, as a window
(`Params.read_ranged`), and counts first how many rows it takes in. Their number is a word, but for the widest range
(`Params.rangeLength?_eq`). So a range is answered with the rows at its positions that there are, and with what these
are (`Query.range_reads_slice`); over the widest the server breaks down (`widest_range_breaks_down`). -/
namespace TableQuery
open Server

/-- What can be read in a header can be sent in one. -/
theorem Http.isHeaderValue_of_isVisible {value : String} (h : isVisible value = true) : isHeaderValue value = true := by
  refine List.all_eq_true.mpr fun c hc => ?_
  have hvisible := List.all_eq_true.mp h c hc
  simp only [isValueChar, Bool.or_eq_true, Bool.and_eq_true, beq_iff_eq, bne_iff_ne, decide_eq_true_eq] at hvisible ⊢
  exact hvisible.imp_right fun h => ⟨h.1, Nat.ne_of_lt h.2⟩

namespace Server.Params
variable {p : Params} {first last : UInt64}

/-! ### The header of a range -/

theorem isRangeChar_toString (n : UInt64) : ∀ c ∈ (toString n).toList, isRangeChar c = true := by
  intro c hc
  rw [Decimal.toList_toString] at hc
  simp [isRangeChar, Decimal.isDigit_of_mem_toDigits hc]

theorem isRangeChar_range (first last : UInt64) :
    ∀ c ∈ (toString first ++ "-" ++ toString last).toList, isRangeChar c = true := by
  rw [String.toList_append, String.toList_append]
  exact List.forall_mem_append.mpr ⟨List.forall_mem_append.mpr ⟨isRangeChar_toString first,
    List.forall_mem_singleton.mpr (show isRangeChar '-' = true by decide)⟩, isRangeChar_toString last⟩

/-- A range is read as it was written. -/
theorem readRange?_toString (h : first ≤ last) :
    readRange? (toString first ++ "-" ++ toString last) = some (first, last) := by
  have hdash : '-' ∉ (toString first).toList := by
    rw [Decimal.toList_toString]
    exact fun hmem => absurd (Decimal.isDigit_of_mem_toDigits hmem) (by decide)
  have htext : (toString first ++ "-" ++ toString last).toList =
      (toString first).toList ++ '-' :: (toString last).toList := by
    simp [String.toList_append]
  unfold readRange?
  rw [htext, Text.cut_append hdash]
  simp only [Option.bind_eq_bind, Option.bind_some, trim_of_isRangeChar (isRangeChar_toString _),
    String.ofList_toList, Decimal.word64?_toString]
  exact if_pos h

/-! ### The window of a range -/

theorem putPreference_ranged (range : Option (UInt64 × UInt64)) (word : String) :
    { p with range := range }.putPreference word = { p.putPreference word with range := range } := by
  unfold putPreference
  split <;> rfl

theorem foldl_putPreference_ranged (range : Option (UInt64 × UInt64)) (words : List String) :
    words.foldl putPreference { p with range := range } = { words.foldl putPreference p with range := range } := by
  induction words generalizing p with
  | nil => rfl
  | cons word words ih =>
    rw [List.foldl_cons, putPreference_ranged, ih]
    rfl

/-- A request with a range besides asks for the rows of the range, where no other window is asked for. -/
theorem read_ranged {params : List Param} {headers headers' : Http.Headers}
    (h : Params.read (Url.Form.encode params) headers = .ok p) (hrange : headers.text? "range" = none)
    (hrange' : headers'.text? "range" = some (toString first ++ "-" ++ toString last))
    (hprefer : headers'.all "prefer" = headers.all "prefer")
    (hkeeps : ∀ param ∈ params, KeepsWindow param.1 param.2) (hle : first ≤ last) :
    Params.read (Url.Form.encode params) headers' = .ok { p with range := some (first, last) } ∧
      { p with range := some (first, last) }.rangeAt? "" = some (first, last) := by
  obtain ⟨hlimit, hoffset, -⟩ := windowless_of_read h hrange hkeeps
  constructor
  · rw [read_without_range params hrange] at h
    obtain ⟨a, ha, rfl⟩ := Chained.map_eq_ok.mp h
    refine read_eq_ok.mpr ⟨a, ha, { a with range := some (first, last) }, ?_, ?_⟩
    · simp only [putRange, hrange', readRange?_toString hle]
    · rw [foldl_putPreference_ranged, preferences, hprefer, ← preferences]
  · have hscope : ({ p with range := some (first, last) } : Params).scope "" = p.scope "" := rfl
    simp only [rangeAt?, hscope, hlimit, hoffset]
    rfl

/-- The number of rows of a range is less than the size of a word, unless it is the widest. -/
theorem length_lt_size_iff (h : first ≤ last) :
    last.toNat - first.toNat + 1 < UInt64.size ↔ ¬(first = 0 ∧ last.toNat = maxWord) := by
  have hword : last.toNat < 18446744073709551616 := last.toNat_lt_size
  have hsize : UInt64.size = 18446744073709551616 := rfl
  have hmax : maxWord = 18446744073709551615 := rfl
  have hle : first.toNat ≤ last.toNat := h
  have hzero : first = 0 ↔ first.toNat = 0 := UInt64.toNat_inj.symm
  rw [hzero]
  omega

theorem rangeLength?_eq (h : first ≤ last) : rangeLength? (first, last) =
    if first = 0 ∧ last.toNat = maxWord then none else some (.ofNat (last.toNat - first.toNat + 1)) := by
  unfold rangeLength?
  simp only [length_lt_size_iff h, ite_not]

/-- The widest range is no window. -/
theorem checkWindow_of_widest {path : String} (hrange : p.rangeAt? path = some (first, last)) (hle : first ≤ last)
    (hwidest : first = 0 ∧ last.toNat = maxWord) : p.checkWindow path = .error .overflow := by
  unfold checkWindow
  rw [hrange, Option.map_some, rangeLength?_eq hle, if_pos hwidest]

/-- Every other one is. -/
theorem window_of_rangeAt?_eq_some {path : String} (hrange : p.rangeAt? path = some (first, last)) (hle : first ≤ last)
    (hfits : ¬(first = 0 ∧ last.toNat = maxWord)) :
    p.checkWindow path = .ok () ∧ p.window path = (first, some (.ofNat (last.toNat - first.toNat + 1))) := by
  unfold checkWindow window
  rw [hrange, Option.map_some]
  dsimp only
  rw [rangeLength?_eq hle, if_neg hfits]
  exact ⟨rfl, rfl⟩

end Server.Params

namespace Client
variable {c : Client} {r r' : Request} {m : Http.Message} {first last : UInt64}

/-- The message of a request with a range besides has the headers of the range and else the same ones. -/
theorem message_ranged (hheaders' : r'.headers = rangeHeaders (some (first, last)) ++ r.headers)
    (hplain : ∀ param ∈ r.headers, Http.headerName? param.1 ≠ some "range") (h : c.message r = .ok m) :
    ∃ m', c.message r' = .ok m' ∧ m'.headers.text? "range" = some (toString first ++ "-" ++ toString last) ∧
      ∀ other, other ∉ ["range-unit", "range"] → m.headers.all other = m'.headers.all other := by
  obtain ⟨hs, hhs, authorized, hauthorized, rfl⟩ := message_eq_ok.mp h
  obtain ⟨start, hstart⟩ : ∃ start, start = c.headers.set "accept" "application/json" := ⟨_, rfl⟩
  obtain ⟨ranged, hranged⟩ : ∃ ranged, ranged =
      (start.set "range-unit" "items").set "range" (toString first ++ "-" ++ toString last) := ⟨_, rfl⟩
  have hvisible := isVisible_of_isRangeChar (Params.isRangeChar_range first last)
  have hadded : (rangeHeaders (some (first, last))).foldlM addRequestHeader start = .ok ranged := by
    have hunit : addRequestHeader start ("Range-Unit", "items") = .ok (start.set "range-unit" "items") := rfl
    have hrange : addRequestHeader (start.set "range-unit" "items")
        ("Range", toString first ++ "-" ++ toString last) = .ok ranged := by
      unfold addRequestHeader
      rw [hranged, show Http.headerName? "Range" = some "range" by decide]
      exact if_pos (Http.isHeaderValue_of_isVisible hvisible)
    exact Chained.bind_eq_ok.mpr ⟨_, hunit, Chained.bind_eq_ok.mpr ⟨_, hrange, rfl⟩⟩
  rw [← hstart] at hhs
  -- The range stands before what the request adds, which never touches it.
  obtain ⟨hs', hhs', halike⟩ := exists_foldlM hhs ranged
  obtain ⟨authorized', hauthorized', halike', hown⟩ := exists_authorized hauthorized hs'
  refine ⟨_, message_eq_ok.mpr ⟨hs', ?_, authorized', hauthorized', rfl⟩, ?_, fun other hother => ?_⟩
  · rw [hheaders', List.foldlM_append, ← hstart]
    exact Chained.bind_eq_ok.mpr ⟨ranged, hadded, hhs'⟩
  · show Http.Headers.text? authorized' "range" = _
    unfold Http.Headers.text?
    rw [Http.Headers.get?_eq_head?, hown _ (by decide), all_of_foldlM hhs' hplain, hranged,
      Http.Headers.all_set_self]
    exact Option.filter_eq_some_iff.mpr ⟨rfl, hvisible⟩
  · obtain ⟨hunit, hrange⟩ := not_or.mp (mt List.mem_pair.mpr hother)
    refine halike' other (halike other ?_)
    rw [hranged, Http.Headers.all_set_of_ne hrange, Http.Headers.all_set_of_ne hunit]

end Client

namespace Server.Store

/-- The positions of the rows from the first to the last, counted from zero, that there are in so many. -/
def positions (first last length : Nat) : String :=
  if length ≤ first then "*" else toString first ++ "-" ++ toString (min last (length - 1))

theorem contentRange_slice (rows : List Json) (counted : Bool) {first last : Nat} (h : first ≤ last) :
    contentRange first ((rows.drop first).take (last + 1 - first)).length (if counted then some rows.length else none) =
      positions first last rows.length ++ "/" ++ (if counted then toString rows.length else "*") := by
  obtain ⟨count, hcount⟩ : ∃ count, count = ((rows.drop first).take (last + 1 - first)).length := ⟨_, rfl⟩
  have hpart : (if count = 0 then "*" else toString first ++ "-" ++ toString (first + count - 1)) =
      positions first last rows.length := by
    rw [List.length_take, List.length_drop] at hcount
    unfold positions
    by_cases hle : rows.length ≤ first
    · rw [if_pos hle, if_pos (by omega)]
    · rw [if_neg hle, if_neg (by omega), show first + count - 1 = min last (rows.length - 1) by omega]
  unfold contentRange
  rw [← hcount, hpart]
  cases counted <;> rfl

/-- What is answered with the rows from the first to the last. -/
theorem toResponse_reply {p : Params} {rows : List Json} {first last : Nat} (h : first ≤ last)
    (hfirst : (p.window "").1.toNat = first)
    (hpage : paginate rows (p.window "") = (rows.drop first).take (last + 1 - first)) :
    (reply p rows).toResponse = ⟨200, [("content-range", positions first last rows.length ++ "/" ++
      if p.counted then toString rows.length else "*")],
      Text.Utf8.encode (Json.arr ((rows.drop first).take (last + 1 - first))).render⟩ := by
  unfold reply
  rw [hpage, hfirst, ← contentRange_slice rows p.counted h]
  rfl

end Server.Store

theorem Pagination.render_range (order : List SortKey) {first last : UInt64} (h : first ≤ last) :
    (Pagination.range first last).render order =
      .ok { Rendered.empty with headers := rangeHeaders (some (first, last)) } := by
  have hvalid : (Pagination.range first last).validate = .ok () := if_neg (UInt64.not_lt.mpr h)
  unfold render
  rw [hvalid]
  rfl

namespace Query
variable {q : Query} {c : Client} {server : Server} {r : Request} {first last : UInt64}

/-- The request of a query for a range is the query's own, with the headers of the range. -/
theorem compileAs_range (h : q.compileAs .many = .ok r) (hnone : q.pagination = none) (hle : first ≤ last) :
    (q.range first last).compileAs .many =
      .ok { r with headers := rangeHeaders (some (first, last)) ++ r.headers } := by
  obtain ⟨hfault, htable, hhead, hrelations, select, filters, w, cursor, hoisted, hselect, hfilters, hwindow,
    hcursor, hhoist, rfl⟩ := parts_of_compileAs h
  rw [renderedPagination, hnone] at hwindow
  obtain rfl := Except.ok.inj hwindow
  have hranged : q.range first last = { q with pagination := some (.range first last) } := by
    rw [range, hnone]
    rfl
  have hrendered : (q.range first last).renderedPagination =
      .ok { Pagination.Rendered.empty with headers := rangeHeaders (some (first, last)) } := by
    rw [hranged]
    exact Pagination.render_range q.order hle
  rw [hranged] at hrendered ⊢
  rw [compileAs_of_parts hfault htable hhead hrelations hselect hfilters hrendered hcursor hhoist
    (q := { q with pagination := some (.range first last) })]
  simp only [List.append_assoc]
  rfl

/-- A query that is answered with a success was listed. -/
theorem exists_lists_of_response {response : Http.Response} (h : q.response c server = .ok response)
    (hhead : q.head = false) (hstatus : response.status < 300) :
    ∃ r m name p listed, q.bound = true ∧ q.compileAs .many = .ok r ∧ c.message r = .ok m ∧
      server.Lists (Client.target r) m name p listed ∧ response = (Store.reply p listed).toResponse := by
  obtain ⟨r, hr, h⟩ := Chained.bind_eq_ok.mp h
  obtain ⟨m, hm, h⟩ := Chained.bind_eq_ok.mp h
  replace hm := NoAnswer.orError_eq_ok.mp hm
  replace h := NoAnswer.orBreakdown_eq_ok.mp h
  obtain ⟨hbound, hr⟩ := requestAs_eq_ok.mp (NoAnswer.orError_eq_ok.mp hr)
  rw [mode, hhead] at hr
  have hget : m.method = "GET" := by
    rw [Client.method_of_message hm, (mode_of_compileAs hr).2]
    rfl
  have haccepts : server.Accepts (Client.target r) m := ⟨response.status, by rw [status?, h]; rfl, hstatus⟩
  obtain ⟨name, p, listed, hlists⟩ := exists_lists hget haccepts
  exact ⟨r, m, name, p, listed, hbound, hr, hm, hlists, Option.some.inj (h.symm.trans (respond_of_lists hget hlists))⟩

/-- What is answered to a query for a range, where the query without it is listed. -/
theorem response_range {m : Http.Message} {name : String} {p : Params} {listed : List Json} (hbound : q.bound = true)
    (hhead : q.head = false) (hcompiled : q.compileAs .many = .ok r) (hmessage : c.message r = .ok m)
    (hlists : server.Lists (Client.target r) m name p listed) (hnone : q.pagination = none)
    (hkeys : q.EmbedsUnderKeys) (hrange : c.headers.text? "range" = none) (hle : first ≤ last) :
    (q.range first last).response c server =
      NoAnswer.orBreakdown (responseOf (({ p with range := some (first, last) }.checkWindow "").map fun _ =>
        Store.reply { p with range := some (first, last) } listed)) ∧
      { p with range := some (first, last) }.rangeAt? "" = some (first, last) := by
  have hheaders := headers_of_compileAs hcompiled hnone
  have hranged := compileAs_range hcompiled hnone hle
  obtain ⟨m', hm', hrange', halike⟩ := Client.message_ranged
    (rfl : { r with headers := rangeHeaders (some (first, last)) ++ r.headers }.headers = _)
    (hheaders ▸ Client.headerName?_plainHeaders (by decide)) hmessage
  have hread : Params.read (Url.Form.encode r.params) m.headers = .ok p := read_of_vet hlists.vet
  have hrange₀ : m.headers.text? "range" = none := (Client.range_of_message hheaders hmessage).trans hrange
  obtain ⟨hread', hasked⟩ := Params.read_ranged hread hrange₀ hrange' (halike "prefer" (by decide)).symm
    (keepsWindow_params hcompiled hnone hkeys.relations) hle
  have hitems := hkeys.not_isKeyless hhead hcompiled hread
  have hvet := vet_of_alike hlists.vet (Http.Headers.text?_congr (halike _ (by decide)))
    (Http.Headers.text?_congr (halike _ (by decide))) hread'
  have hlisting := (Store.listing_range p (some (first, last)) server.store name hitems).trans hlists.listing
  have hunpaginated : (q.range first last).bound = true ∧ (q.range first last).head = false := by
    rw [range, hnone]
    exact ⟨hbound, hhead⟩
  obtain ⟨hresponse, hget⟩ := response_of_message hunpaginated.1 hunpaginated.2 hranged hm'
  have hanswer : (server.respond (Client.target { r with
        headers := rangeHeaders (some (first, last)) ++ r.headers }) m').1 = _ :=
    respond_of_listing hget hlists.route hvet hlisting
  exact ⟨hresponse.trans (congrArg NoAnswer.orBreakdown hanswer), hasked⟩

/-- **Ranges are slices.** Where a query without a window is answered with rows, the query for a range of them is
answered with those at its positions that there are, and with what these are; and that for all ranges but the widest,
over which the server breaks down. So it is for all queries that embed nothing without a key, from a client that asks
for no range itself. -/
theorem range_reads_slice {response : Http.Response} (h : q.response c server = .ok response)
    (hstatus : response.status = 200) (hhead : q.head = false) (hnone : q.pagination = none)
    (hkeys : q.EmbedsUnderKeys) (hrange : c.headers.text? "range" = none) :
    ∃ (rows : List Json) (counted : Bool),
      response = ⟨200, [("content-range", Store.positions 0 (rows.length - 1) rows.length ++ "/" ++
        if counted then toString rows.length else "*")], Text.Utf8.encode (Json.arr rows).render⟩ ∧
      ∀ first last : UInt64, first ≤ last →
        (q.range first last).response c server =
          if first = 0 ∧ last.toNat = maxWord then .error .breakdown
          else .ok ⟨200, [("content-range", Store.positions first.toNat last.toNat rows.length ++ "/" ++
              if counted then toString rows.length else "*")],
            Text.Utf8.encode (Json.arr ((rows.drop first.toNat).take (last.toNat + 1 - first.toNat))).render⟩ := by
  obtain ⟨r, m, name, p, listed, hbound, hcompiled, hmessage, hlists, rfl⟩ :=
    exists_lists_of_response h hhead (by omega)
  have hwindow : p.window "" = (0, none) := by
    have hheaders := headers_of_compileAs hcompiled hnone
    exact Params.window_of_read (read_of_vet hlists.vet) ((Client.range_of_message hheaders hmessage).trans hrange)
      (keepsWindow_params hcompiled hnone hkeys.relations)
  refine ⟨listed, p.counted, ?_, fun first last hle => ?_⟩
  · have hall : (listed.drop 0).take (listed.length - 1 + 1 - 0) = listed :=
      List.take_of_length_le (by rw [List.length_drop]; omega)
    have hpage : Store.paginate listed (p.window "") = (listed.drop 0).take (listed.length - 1 + 1 - 0) := by
      rw [hall, hwindow]
      rfl
    rw [Store.toResponse_reply (Nat.zero_le _) (by rw [hwindow]; rfl) hpage, hall]
  · obtain ⟨hresponse, hasked⟩ := response_range hbound hhead hcompiled hmessage hlists hnone hkeys hrange hle
    rw [hresponse]
    by_cases hwidest : first = 0 ∧ last.toNat = maxWord
    · rw [if_pos hwidest, Params.checkWindow_of_widest hasked hle hwidest]
      rfl
    obtain ⟨hfits, hwindow'⟩ := Params.window_of_rangeAt?_eq_some hasked hle hwidest
    have hle' : first.toNat ≤ last.toNat := hle
    have hlength : last.toNat + 1 - first.toNat = (UInt64.ofNat (last.toNat - first.toNat + 1)).toNat := by
      rw [UInt64.toNat_ofNat_of_lt' ((Params.length_lt_size_iff hle).mpr hwidest)]
      omega
    have hpage : Store.paginate listed ({ p with range := some (first, last) }.window "") =
        (listed.drop first.toNat).take (last.toNat + 1 - first.toNat) := by
      rw [hwindow', hlength]
      rfl
    rw [if_neg hwidest, hfits]
    show Except.ok (Store.reply { p with range := some (first, last) } listed).toResponse = _
    rw [Store.toResponse_reply hle' (by rw [hwindow']) hpage]

/-- The answer with the three users. -/
def usersResponse : Http.Response :=
  ⟨200, [("content-range", "0-2/*")], Text.Utf8.encode (Json.arr ([1, 2, 3].map (userWith "p"))).render⟩

/-- The users are listed as they are asked for. -/
theorem lists_laterPosts : ∃ r m, (laterPosts "p").compileAs .many = .ok r ∧
    (Client.plain (.empty .standard)).message r = .ok m ∧
    threeUsers.Lists (Client.target r) m "users" (askedPosts "p" [("p", ⟨[], [], some 1, none⟩)] false)
      ([1, 2, 3].map (userWith "p")) := by
  have hread : Params.read (Url.Form.encode [("select", "*,p:posts(*)"), ("p.offset", "1")])
      [("accept", "application/json")] = .ok (askedPosts "p" [("p", ⟨[], [], some 1, none⟩)] false) := by
    rw [Params.read_without_range _ (by rfl)]
    cbv
  have hlisting : threeUsers.store.listing (askedPosts "p" [("p", ⟨[], [], some 1, none⟩)] false) "users" =
      .ok ([1, 2, 3].map (userWith "p")) := by
    cbv
  exact ⟨_, _, compile_laterPosts, Client.message_eq_ok.mpr ⟨_, rfl, _, rfl, rfl⟩,
    route_of_isIdentifier (by decide), vet_of_read rfl rfl rfl hread, hlisting, rfl⟩

theorem response_laterPosts :
    (laterPosts "p").response (Client.plain (.empty .standard)) threeUsers = .ok usersResponse := by
  obtain ⟨r, m, hr, hm, hlists⟩ := lists_laterPosts
  exact response_of_lists rfl rfl hr hm hlists

/-- The users are answered with, and of the ten from the second on the two that there are. -/
theorem later_users_of_three :
    (laterPosts "p").response (Client.plain (.empty .standard)) threeUsers = .ok usersResponse ∧
      ∃ (rows : List Json) (counted : Bool),
        usersResponse = ⟨200, [("content-range", Store.positions 0 (rows.length - 1) rows.length ++ "/" ++
          if counted then toString rows.length else "*")], Text.Utf8.encode (Json.arr rows).render⟩ ∧
        ((laterPosts "p").range 1 10).response (Client.plain (.empty .standard)) threeUsers =
          .ok ⟨200, [("content-range", Store.positions 1 10 rows.length ++ "/" ++
            if counted then toString rows.length else "*")],
            Text.Utf8.encode (Json.arr ((rows.drop 1).take 10)).render⟩ := by
  obtain ⟨rows, counted, hresponse, hranges⟩ :=
    range_reads_slice response_laterPosts rfl rfl rfl embedsUnderKeys_laterPosts rfl
  exact ⟨response_laterPosts, rows, counted, hresponse, hranges 1 10 (by decide)⟩

/-- The widest range takes in every row there is, and is not answered. -/
theorem widest_range_breaks_down :
    (laterPosts "p").response (Client.plain (.empty .standard)) threeUsers = .ok usersResponse ∧
      ((laterPosts "p").range 0 18446744073709551615).response (Client.plain (.empty .standard)) threeUsers =
        .error .breakdown := by
  obtain ⟨r, m, hr, hm, hlists⟩ := lists_laterPosts
  refine ⟨response_laterPosts, ?_⟩
  rw [(response_range rfl rfl hr hm hlists rfl embedsUnderKeys_laterPosts rfl (by decide)).1]
  rfl

end Query
end TableQuery
