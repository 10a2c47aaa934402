import TableQuery.Proofs.Client.Fetch
import TableQuery.Proofs.Query.Embeds
import TableQuery.Proofs.Query.InnerJoins
import TableQuery.Proofs.Query.RootWindow

/-! Reads with a relation made inner.

Making a relation inner takes those rows out of a read that have nothing under the relation's key but null or an
empty array; the others stay as they are and in their order, and a count goes by them
(`Query.inner_join_restricts`). That takes names and hints that are identifiers, selected texts that close
what they open and nothing else, and a client that asks for no range: a text that leaves a bracket or a quote
open, or closes one that it is inside of, takes the mark of the inner relation somewhere else, a filter by a
column `select` takes it away, and a range is cut from the rows that are left (`Query.misread_marks`). -/
namespace TableQuery
open Server

/-! ### What such a read asks for -/

namespace Server.Params
variable {p p' : Params}

/-- What a parameter asks for does not depend on the selection that was asked for before. -/
theorem put_of_select (select : Option (List Projection)) {name value : String} (hname : name ≠ "select")
    (h : p.put name value = .ok p') :
    { p with select := select }.put name value = .ok { p' with select := select } := by
  cases puts_of_put h with
  | select _ hselect => exact absurd hselect hname
  | conflict hconflict =>
    subst hconflict
    rfl
  | columns hcolumns =>
    subst hcolumns
    rfl
  | scope _ _ hput => exact hput _

theorem putAll_of_select (select : Option (List Projection)) {params : List Param}
    (hnames : ∀ param ∈ params, param.1 ≠ "select") (h : p.putAll params = .ok p') :
    { p with select := select }.putAll params = .ok { p' with select := select } := by
  induction params generalizing p with
  | nil => exact Except.ok.inj h ▸ rfl
  | cons param params ih =>
    obtain ⟨hname, hnames⟩ := List.forall_mem_cons.mp hnames
    obtain ⟨p₁, hput, h⟩ := putAll_cons_ok h
    rw [← List.singleton_append, putAll_append ((putAll_singleton ..).trans (put_of_select select hname hput))]
    exact ih hnames h

theorem foldl_putPreference_of_select (select : Option (List Projection)) (words : List String) (p : Params) :
    words.foldl putPreference { p with select := select } = { words.foldl putPreference p with select := select } := by
  have hone (p : Params) (word : String) :
      { p with select := select }.putPreference word = { p.putPreference word with select := select } := by
    unfold putPreference
    split <;> rfl
  induction words generalizing p with
  | nil => rfl
  | cons word words ih => rw [List.foldl_cons, hone, ih, List.foldl_cons]

theorem window_select (p : Params) (select : Option (List Projection)) (path : String) :
    { p with select := select }.window path = p.window path := rfl

/-- Where one parameter is the selection, another one in its place changes the selection and nothing else. -/
theorem read_selection {text : String} {rest : List Param} {headers : Http.Headers}
    (h : Params.read (Url.Form.encode (("select", text) :: rest)) headers = .ok p)
    (hrange : headers.text? "range" = none) (hnames : ∀ param ∈ rest, param.1 ≠ "select") :
    ∃ items, parseSelect text.toList = .ok items ∧ p.items = items ∧ ∀ text' items',
      parseSelect text'.toList = .ok items' →
        Params.read (Url.Form.encode (("select", text') :: rest)) headers = .ok { p with select := some items' } := by
  rw [read_without_range _ hrange] at h
  obtain ⟨p₀, hp₀, rfl⟩ := Chained.map_eq_ok.mp h
  have hselected {text : String} {items : List Projection} (h : parseSelect text.toList = .ok items) :
      empty.putAll [("select", text)] = .ok { empty with select := some items } := by
    rw [putAll_singleton]
    exact Chained.bind_eq_ok.mpr ⟨items, by rw [h]; rfl, rfl⟩
  obtain ⟨p₁, hput, hrest⟩ := putAll_cons_ok hp₀
  obtain ⟨items, hitems, hput⟩ := Chained.bind_eq_ok.mp hput
  obtain rfl := Except.ok.inj hput
  have hparsed : parseSelect text.toList = .ok items := by
    cases hparse : parseSelect text.toList with
    | error f =>
      rw [hparse] at hitems
      exact nomatch hitems
    | ok items' =>
      rw [hparse] at hitems
      exact congrArg Except.ok (Except.ok.inj hitems)
  refine ⟨items, hparsed, ?_, fun text' items' hparsed' => ?_⟩
  · rw [Params.items, (foldl_putPreference_eq _ p₀).1, (keeps_putAll hrest hnames).1]
    rfl
  · have hrest' := putAll_of_select (some items') hnames hrest
    rw [read_without_range _ hrange, ← List.singleton_append, putAll_append (hselected hparsed')]
    show (Params.putAll _ rest).map _ = _
    rw [hrest']
    exact congrArg Except.ok (foldl_putPreference_of_select _ _ p₀)

end Server.Params

/-! ### Rows that stay -/

namespace Query
variable {q : Query} {c : Client} {server : Server} {rows : List Json} {count : Option Nat} {key : String}
  {r : Request} {m : Http.Message} {name : String} {p : Params} {listed : List Json}

/-- Without pagination the whole listing is asked for. -/
theorem Fetched.window (hf : q.Fetched c server Json.Decode.any rows r m name p listed) (hnone : q.pagination = none)
    (hkeys : ∀ x ∈ q.relations, x.key ≠ "") (hrange : c.headers.text? "range" = none) :
    m.headers.text? "range" = none ∧ p.window "" = (0, none) := by
  have hrange' := (Client.range_of_message (headers_of_compileAs hf.compiled hnone) hf.message).trans hrange
  have hread : Params.read (Url.Form.encode r.params) m.headers = .ok p := read_of_vet hf.lists.vet
  exact ⟨hrange', Params.window_of_read hread hrange' (keepsWindow_params hf.compiled hnone hkeys)⟩

theorem Fetched.counted (hf : q.Fetched c server Json.Decode.any rows r m name p listed) (hnone : q.pagination = none)
    (hcount : q.count = some .exact) : p.counted = true := by
  have hheaders := headers_of_compileAs hf.compiled hnone
  rw [hcount] at hheaders
  exact Params.counted_of_read (read_of_vet hf.lists.vet) (Client.prefer_of_message hheaders hf.message)

/-- What a query with a relation made inner comes to, where the query itself comes to some rows. -/
theorem Fetched.joinInner (hf : q.Fetched c server Json.Decode.any rows r m name p listed)
    (hnone : q.pagination = none) (hkey : ∃ r ∈ q.relations, r.key = key)
    (hnamed : ∀ e ∈ Relation.embeddingsOf q.relations, e.IsNamed)
    (hclosed : ∀ t ∈ q.selectedTexts, Text.Nested.IsClosed t.toList) (hnames : ∀ f ∈ q.filters, ¬f.Tests "select")
    (hrange : m.headers.text? "range" = none) (hwindow : p.window "" = (0, none)) :
    ∃ r' m' items, (q.joinInner key).Fetched c server Json.Decode.any (rows.filter (Json.hasUnder key)) r' m' name
      { p with select := some items } (listed.filter (Json.hasUnder key)) := by
  have hne : q.relations ≠ [] := by
    obtain ⟨x, hx, -⟩ := hkey
    exact List.ne_nil_of_mem hx
  obtain ⟨text, text', rest, hselect, hselect', hparams, hrest, hcompiled⟩ :=
    compileAs_joinInner key hf.compiled hnone hne hnames
  obtain ⟨r', hr'⟩ : ∃ r', r' = { r with params := ("select", text') :: rest } := ⟨_, rfl⟩
  rw [← hr'] at hcompiled
  obtain ⟨m', hm', -, hsame⟩ := Client.message_of_headers_eq (by rw [hr'] : r'.headers = r.headers) hf.message
  -- The server reads the same items, but for one resource.
  have hread : Params.read (Url.Form.encode r.params) m.headers = .ok p := read_of_vet hf.lists.vet
  rw [hparams] at hread
  obtain ⟨items, hitems, hp, hchange⟩ := Params.read_selection hread hrange hrest
  obtain ⟨hselected, hcolumns⟩ := List.forall_mem_append.mp hclosed
  obtain ⟨before, child, hint, inner, below, after, rfl, hitems', hafter⟩ := Select.parseSelect_joinInner
    (fun i hi => hselected i.render (List.mem_map_of_mem hi))
    (fun e he => ⟨hnamed e he, fun c hc => hcolumns c (List.mem_flatMap.mpr ⟨e, he, hc⟩)⟩) hselect hselect' hkey hitems
  have hquery : (Client.target r').query = Url.Form.encode (("select", text') :: rest) := by
    rw [hr']
    rfl
  have hread' := hchange text' _ hitems'
  rw [← hsame, ← hquery] at hread'
  have hroute : Server.route (Client.target r').path = .table name := by
    rw [hr']
    exact hf.lists.route
  have hvet := vet_of_agreeBut hf.lists.vet (fun _ _ => by rw [hsame]) hread'
  -- There is no window, so that what is received is the whole listing.
  obtain ⟨hlisting, hfields⟩ := Store.listing_inner hp hafter hf.lists.listing
  have hreceived := hf.received
  rw [hwindow] at hreceived
  have hkept := Envelope.forall₂_receives_hasUnder hfields hreceived
  refine ⟨r', m', _, hf.bound, hf.head, hcompiled, hm', ⟨hroute, hvet, hlisting, hf.lists.fits⟩, ?_⟩
  rw [Params.window_select, hwindow]
  exact hkept

def tag : Json := .obj [("id", .str "t"), ("user_id", .str "b")]

end Query
end TableQuery
