import TableQuery.Client.Execute
import TableQuery.Envelope.OfResponse
import TableQuery.Proofs.Json.Reread
import TableQuery.Proofs.Scalar
import TableQuery.Proofs.Server.Changes
import TableQuery.Proofs.Server.Parameters
import TableQuery.Proofs.Text.Cut

/-! Reads that succeed.

What a read returns is a part of its listing: all rows that the selection makes of the table's, before the
window is put over them (`Store.read_eq`). A read that succeeds was read and listed, and its window could be put
over the listing (`exists_lists`). The client takes from its answer the rows of the window and, where it is
counted, the length of the listing (`ofResponse_reply`); a request for the head is answered with that length alone
(`ofResponse_head`). A listing does not depend on the window (`listing_congr`), nor on a range of rows
(`listing_range`). -/
namespace TableQuery
open Server

/-! ### Content ranges -/

/-- The characters of a content range. -/
def isRangeChar (c : Char) : Bool := c.isDigit || c == '*' || c == '-' || c == '/'

def totalText : Option Nat → List Char
  | some n => Nat.toDigits 10 n
  | none => ['*']

theorem toList_contentRange (offset count : Nat) (total : Option Nat) :
    ∃ part, (Store.contentRange offset count total).toList = part ++ '/' :: totalText total ∧
      ∀ c ∈ part, isRangeChar c = true := by
  have htext (n : Nat) : (toString n).toList = Nat.toDigits 10 n := by
    rw [Nat.toString_eq_ofList_toDigits, String.toList_ofList]
  have hdigits (n : Nat) : ∀ c ∈ (toString n).toList, isRangeChar c = true := by
    intro c hc
    rw [htext] at hc
    simp [isRangeChar, Decimal.isDigit_of_mem_toDigits hc]
  refine ⟨(if count = 0 then "*" else toString offset ++ "-" ++ toString (offset + count - 1)).toList, ?_, ?_⟩
  · unfold Store.contentRange
    rw [String.toList_append, String.toList_append, List.append_assoc]
    cases total with
    | none => rfl
    | some n =>
      show _ ++ '/' :: (toString n).toList = _
      rw [htext n]
      rfl
  · split
    · exact List.forall_mem_singleton.mpr (show isRangeChar '*' = true by decide)
    · have hbetween : ∀ c ∈ "-".toList, isRangeChar c = true :=
        List.forall_mem_singleton.mpr (show isRangeChar '-' = true by decide)
      rw [String.toList_append, String.toList_append]
      exact List.forall_mem_append.mpr ⟨List.forall_mem_append.mpr ⟨hdigits _, hbetween⟩, hdigits _⟩

theorem isRangeChar_of_mem_totalText {total : Option Nat} {c : Char} (hc : c ∈ totalText total) :
    isRangeChar c = true := by
  cases total with
  | none =>
    rw [List.mem_singleton.mp hc]
    decide
  | some n => simp [isRangeChar, Decimal.isDigit_of_mem_toDigits hc]

theorem isRangeChar_of_mem_contentRange {offset count : Nat} {total : Option Nat} {c : Char}
    (hc : c ∈ (Store.contentRange offset count total).toList) : isRangeChar c = true := by
  obtain ⟨part, htext, hpart⟩ := toList_contentRange offset count total
  rw [htext] at hc
  rcases List.mem_append.mp hc with hc | hc
  · exact hpart c hc
  · rcases List.mem_cons.mp hc with rfl | hc
    · decide
    · exact isRangeChar_of_mem_totalText hc

/-- Texts of these characters can be read where they stand in a header. -/
theorem isVisible_of_isRangeChar {text : String} (h : ∀ c ∈ text.toList, isRangeChar c = true) :
    Http.isVisible text = true := by
  refine List.all_eq_true.mpr fun c hc => ?_
  replace h := h c hc
  simp only [isRangeChar, Bool.or_eq_true, beq_iff_eq] at h
  rcases h with ((h | rfl) | rfl) | rfl
  · simp only [Char.isDigit, Bool.and_eq_true, decide_eq_true_eq, ge_iff_le, UInt32.le_iff_toNat_le] at h
    have hrange : 48 ≤ c.toNat ∧ c.toNat ≤ 57 := h
    simp
    omega
  all_goals decide

theorem isVisible_contentRange (offset count : Nat) (total : Option Nat) :
    Http.isVisible (Store.contentRange offset count total) = true :=
  isVisible_of_isRangeChar fun _ => isRangeChar_of_mem_contentRange

/-- Texts of these characters stay as they are when blanks are cut off. -/
theorem trim_of_isRangeChar {cs : List Char} (h : ∀ c ∈ cs, isRangeChar c = true) : Text.trim cs = cs := by
  by_cases hne : cs = []
  · subst hne
    decide
  refine Text.Nested.IsPart.trim_eq (Text.Nested.isPart_of_safe hne fun c hc => ?_)
  have hc := h c hc
  simp only [isRangeChar, Bool.or_eq_true, beq_iff_eq] at hc
  rcases hc with ((hc | rfl) | rfl) | rfl
  · have hword := isWordChar_of_isDigit hc
    exact ⟨isSafe_of_isWordChar hword, not_isBlank_of_isWordChar hword⟩
  all_goals decide

theorem contentRangeTotal?_contentRange (offset count : Nat) (total : Option Nat) :
    contentRangeTotal? (Store.contentRange offset count total) =
      Decimal.natural? (UInt64.size - 1) (totalText total) := by
  have hslash : '/' ∉ totalText total := by
    intro hmem
    cases total with
    | none => exact absurd hmem (by decide)
    | some n => exact absurd (Decimal.isDigit_of_mem_toDigits hmem) (by decide)
  obtain ⟨part, htext, -⟩ := toList_contentRange offset count total
  unfold contentRangeTotal?
  rw [trim_of_isRangeChar fun c => isRangeChar_of_mem_contentRange, htext, Text.cutLast_append hslash]
  dsimp only
  rw [trim_of_isRangeChar fun c => isRangeChar_of_mem_totalText]

/-! ### Listings -/

namespace Server

namespace Store
variable {s : Store} {p : Params} {name : String}

/-- All rows that a read returns, in or out of its window. -/
def listing (s : Store) (p : Params) (name : String) : Except Halt (List Json) := do
  let t ← orRefusal (s.table name)
  let matched ← orRefusal (matching name t t.rows (p.scope ""))
  s.project p name matched

/-- What is answered with the rows of a listing. -/
def reply (p : Params) (rows : List Json) : Reply :=
  let page := paginate rows (p.window "")
  ⟨200, some (contentRange (p.window "").1.toNat page.length (if p.counted then some rows.length else none)),
    some (.arr page)⟩

theorem read_eq (s : Store) (p : Params) (name : String) :
    s.read p name false = (do
      let rows ← s.listing p name
      p.checkWindow ""
      .ok (reply p rows)) := by
  unfold read listing
  cases s.table name with
  | error r => rfl
  | ok t =>
    show (orRefusal (matching name t t.rows (p.scope "")) >>= _) =
      ((orRefusal (matching name t t.rows (p.scope "")) >>= _) >>= _)
    cases matching name t t.rows (p.scope "") with
    | error r => rfl
    | ok matched =>
      show (s.project p name matched >>= _) = (s.project p name matched >>= _)
      cases s.project p name matched <;> rfl

end Store

variable {server : Server} {t : Http.Target} {m : Http.Message} {name : String} {p : Params}
  {rows : List Json}

/-- A read that the server carries out: where it goes, what it asks for, and all that there is to return, over which
its window can be put. -/
structure Lists (server : Server) (t : Http.Target) (m : Http.Message) (name : String) (p : Params)
    (rows : List Json) : Prop where
  route : route t.path = .table name
  vet : server.vet "GET" name t.query m.headers = .ok p
  listing : server.store.listing p name = .ok rows
  fits : p.checkWindow "" = .ok ()

/-- Nothing in a path that has no percent sign is an escape. -/
theorem percentDecode_of_not_mem {cs : List Char} (h : '%' ∉ cs) :
    Url.Form.percentDecode cs = Text.Utf8.encode (String.ofList cs) := by
  rw [Text.Utf8.encode_eq_flatMap, String.toList_ofList]
  induction cs with
  | nil => rfl
  | cons c cs ih =>
    obtain ⟨hc, hcs⟩ := not_or.mp (mt List.mem_cons.mpr h)
    rw [Url.Form.percentDecode_cons_of_ne (Ne.symm hc), ih hcs, Url.Form.utf8Of, Text.Utf8.encode_singleton]
    rfl

theorem route_of_isIdentifier (h : isIdentifier name = true) : Server.route ("/" ++ name).toList = .table name := by
  have hne : name.toList ≠ [] := ne_nil_of_isIdentifierText h
  have hslash : '/' ∉ name.toList := not_mem_of_isIdentifier h (by decide)
  have hpercent : '%' ∉ name.toList := not_mem_of_isIdentifier h (by decide)
  have hsegment : (name.toList.isEmpty || name.toList.contains '/') = false := by simp [hne, hslash]
  have hname : Text.Utf8.decode? (Url.Form.percentDecode name.toList) = some name := by
    rw [percentDecode_of_not_mem hpercent, String.ofList_toList, Text.Utf8.decode?_encode]
  rw [String.toList_append, show "/".toList = ['/'] from rfl, List.singleton_append, Server.route, hsegment, hname]
  rfl

/-- A server that asks for no token and knows of no schemas turns down only what it cannot read. -/
theorem vet_of_read {method query : String} {headers : Http.Headers} {table : Table}
    (hbearer : server.bearer = none) (hschemas : server.schemas = []) (htable : server.store.table name = .ok table)
    (hread : Params.read query headers = .ok p) : server.vet method name query headers = .ok p := by
  have hauthorize : server.authorize headers = .ok () := by
    rw [authorize, hbearer]
  have hschema : server.checkSchema method headers = .ok () := by
    rw [checkSchema, hschemas]
    cases headers.text? (profileHeader method) <;> rfl
  unfold vet
  rw [hauthorize, hschema, hread, htable]
  rfl

theorem process_get (server : Server) (name query : String) (headers : Http.Headers) (body : List UInt8) :
    (server.process "GET" name query headers body).1 = (do
      let p ← orRefusal (server.vet "GET" name query headers)
      let rows ← server.store.listing p name
      p.checkWindow ""
      .ok (Store.reply p rows)) := by
  unfold process
  cases server.vet "GET" name query headers with
  | error r => rfl
  | ok p => exact Store.read_eq server.store p name

theorem respond_get (server : Server) {t : Http.Target} (hm : m.method = "GET")
    (hroute : Server.route t.path = .table name) :
    (server.respond t m).1 =
      responseOf (server.process "GET" name t.query m.headers (m.body.getD [])).1 := by
  unfold respond answer
  rw [hroute, hm]
  rfl

/-- Rows that are listed are answered if the window can be put over them. -/
theorem respond_of_listing (hm : m.method = "GET") (hroute : Server.route t.path = .table name)
    (hvet : server.vet "GET" name t.query m.headers = .ok p) (hlisting : server.store.listing p name = .ok rows) :
    (server.respond t m).1 = responseOf ((p.checkWindow "").map fun _ => Store.reply p rows) := by
  rw [respond_get server hm hroute, process_get, hvet]
  show responseOf (server.store.listing p name >>= _) = _
  rw [hlisting]
  show responseOf (p.checkWindow "" >>= _) = _
  cases p.checkWindow "" <;> rfl

theorem respond_of_lists (hm : m.method = "GET") (h : server.Lists t m name p rows) :
    (server.respond t m).1 = some (Store.reply p rows).toResponse := by
  rw [respond_of_listing hm h.route h.vet h.listing, h.fits]
  rfl

/-- A request for the head is admitted as one for the rows is, and answered without them. -/
theorem respond_head_of_lists (hm : m.method = "HEAD") (h : server.Lists t m name p rows) :
    (server.respond t m).1 = some { (Store.reply p rows).toResponse with body := [] } := by
  have hvet : server.vet "HEAD" name t.query m.headers = .ok p := h.vet
  have hread : server.store.read p name true =
      .ok { Store.reply p rows with body := none } := by
    have hlisting := h.listing
    unfold Store.listing at hlisting
    obtain ⟨table, htable, hlisting⟩ := Chained.bind_eq_ok.mp hlisting
    obtain ⟨matched, hmatched, hprojected⟩ := Chained.bind_eq_ok.mp hlisting
    unfold Store.read
    rw [htable]
    show (orRefusal (Store.matching name table table.rows (p.scope "")) >>= _) = _
    rw [hmatched]
    show (server.store.project p name matched >>= _) = _
    rw [hprojected]
    show (p.checkWindow "" >>= _) = _
    rw [h.fits]
    rfl
  unfold respond answer process
  rw [h.route, hm]
  simp only [hvet, hread]
  rfl

/-- Only requests to a table are answered with a success. -/
theorem Accepts.exists_route (h : server.Accepts t m) : ∃ name, Server.route t.path = .table name := by
  obtain ⟨status, hanswer, hstatus⟩ := h
  rw [status?_eq, answer] at hanswer
  cases hroute : Server.route t.path with
  | table name => exact ⟨name, rfl⟩
  | unknown =>
    rw [hroute] at hanswer
    obtain rfl : 404 = status := Option.some.inj hanswer
    exact absurd hstatus (by decide)
  | malformed =>
    rw [hroute] at hanswer
    obtain rfl : 400 = status := Option.some.inj hanswer
    exact absurd hstatus (by decide)

/-- A read that is not turned down is carried out. -/
theorem exists_lists (hm : m.method = "GET") (h : server.Accepts t m) :
    ∃ name p rows, server.Lists t m name p rows := by
  obtain ⟨name, hroute⟩ := h.exists_route
  obtain ⟨reply, hreply, -⟩ := h.exists_reply hroute
  rw [hm, process_get] at hreply
  obtain ⟨p, hvet, hreply⟩ := Chained.bind_eq_ok.mp hreply
  obtain ⟨rows, hlisting, hreply⟩ := Chained.bind_eq_ok.mp hreply
  obtain ⟨⟨⟩, hfits, -⟩ := Chained.bind_eq_ok.mp hreply
  exact ⟨name, p, rows, hroute, orRefusal_eq_ok.mp hvet, hlisting, hfits⟩

end Server

/-! ### What a listing depends on -/

namespace Server

/-- The resource is embedded under no key, so that what is asked at its path is asked at the root's. -/
def Projection.IsKeyless : Projection → Prop
  | .embed key _ _ _ _ => key = ""
  | .star | .column _ _ _ => False

/-- What it embeds is asked for at a path like this. -/
def Projection.LeadsTo (good : String → Prop) (path : String) : Projection → Prop
  | .embed key _ _ _ _ => good (Store.childPath path key)
  | .star | .column _ _ _ => True

theorem Projection.leadsTo_of_good {good : String → Prop} {path : String}
    (hbelow : ∀ path key, good path → good (Store.childPath path key)) (h : good path) (item : Projection) :
    item.LeadsTo good path := by
  cases item with
  | embed key _ _ _ _ => exact hbelow path key h
  | _ => trivial

theorem Projection.leadsTo_of_not_isKeyless (item : Projection) (h : ¬item.IsKeyless) :
    item.LeadsTo (· ≠ "") "" := by
  cases item with
  | embed key _ _ _ _ => exact h
  | _ => trivial

/-- The same is asked by both, but for the windows at the root. -/
structure Params.AskAlike (p p' : Params) : Prop where
  select : p'.select = p.select
  range : p'.range = p.range
  conditions : (p'.scope "").conditions = (p.scope "").conditions
  order : (p'.scope "").order = (p.scope "").order
  below : ∀ path, path ≠ "" → p'.scope path = p.scope path

namespace Params
variable {p p' p'' : Params}

namespace AskAlike

theorem refl (p : Params) : p.AskAlike p := ⟨rfl, rfl, rfl, rfl, fun _ _ => rfl⟩

theorem trans (h : p.AskAlike p') (h' : p'.AskAlike p'') : p.AskAlike p'' :=
  ⟨h'.select.trans h.select, h'.range.trans h.range, h'.conditions.trans h.conditions,
    h'.order.trans h.order, fun path hpath => (h'.below path hpath).trans (h.below path hpath)⟩

end AskAlike

theorem askAlike_modify (p : Params) {f : Scope → Scope}
    (hf : ∀ s, (f s).conditions = s.conditions ∧ (f s).order = s.order) : p.AskAlike (p.modify "" f) := by
  have hchanges := modify_changesAt p "" f
  obtain ⟨hconditions, horder⟩ := hf (p.scope "")
  rw [← hchanges.here] at hconditions horder
  exact ⟨rfl, rfl, hconditions, horder, hchanges.elsewhere⟩

/-! ### Without a range -/

theorem putPreference_eq (p : Params) (word : String) :
    (p.putPreference word).select = p.select ∧ (p.putPreference word).scopes = p.scopes ∧
      (p.putPreference word).range = p.range := by
  unfold putPreference
  split <;> exact ⟨rfl, rfl, rfl⟩

theorem foldl_putPreference_eq (words : List String) (p : Params) :
    (words.foldl putPreference p).select = p.select ∧ (words.foldl putPreference p).scopes = p.scopes ∧
      (words.foldl putPreference p).range = p.range := by
  induction words generalizing p with
  | nil => exact ⟨rfl, rfl, rfl⟩
  | cons word words ih =>
    obtain ⟨hselect, hscopes, hrange⟩ := putPreference_eq p word
    obtain ⟨hselect', hscopes', hrange'⟩ := ih (p.putPreference word)
    exact ⟨hselect'.trans hselect, hscopes'.trans hscopes, hrange'.trans hrange⟩

theorem read_eq_ok {params : List Param} {headers : Http.Headers} :
    Params.read (Url.Form.encode params) headers = .ok p ↔
      ∃ a, Params.empty.putAll params = .ok a ∧ ∃ b, a.putRange headers = .ok b ∧
        (preferences headers).foldl putPreference b = p := by
  unfold Params.read putAll
  rw [Url.Form.decode_encode]
  simp only [Chained.bind_eq_ok, Except.ok.injEq]

theorem eq_of_putRange {headers : Http.Headers} (h : p.putRange headers = .ok p') :
    p'.select = p.select ∧ p'.scopes = p.scopes := by
  unfold putRange at h
  split at h
  · exact Except.ok.inj h ▸ ⟨rfl, rfl⟩
  · split at h
    · exact Except.ok.inj h ▸ ⟨rfl, rfl⟩
    · exact nomatch h

/-- What is asked with no range among the headers is what the parameters ask, preferences apart. -/
theorem read_without_range (params : List Param) {headers : Http.Headers}
    (hrange : headers.text? "range" = none) :
    Params.read (Url.Form.encode params) headers =
      (Params.empty.putAll params).map (fun p => (preferences headers).foldl putPreference p) := by
  have hnone (p : Params) : p.putRange headers = .ok p := by
    unfold putRange
    rw [hrange]
  unfold Params.read putAll
  rw [Url.Form.decode_encode]
  cases params.foldlM (fun p pair => p.put pair.1 pair.2) Params.empty with
  | error r => rfl
  | ok p =>
    show (p.putRange headers >>= _) = _
    rw [hnone]
    rfl

theorem range_of_put {name value : String} (h : p.put name value = .ok p') : p'.range = p.range := by
  cases puts_of_put h <;> rfl

theorem range_foldlM_put {pairs : List (String × String)}
    (h : pairs.foldlM (fun p pair => put p pair.1 pair.2) p = .ok p') : p'.range = p.range := by
  induction pairs generalizing p with
  | nil => exact Except.ok.inj h ▸ rfl
  | cons pair pairs ih =>
    rw [List.foldlM_cons] at h
    obtain ⟨next, hput, h⟩ := Chained.bind_eq_ok.mp h
    exact (ih h).trans (range_of_put hput)

/-- No parameter is a range. -/
theorem range_of_read {query : String} {headers : Http.Headers} (h : Params.read query headers = .ok p)
    (hrange : headers.text? "range" = none) : p.range = none := by
  obtain ⟨p₁, hp₁, h⟩ := Chained.bind_eq_ok.mp h
  obtain ⟨p₂, hp₂, h⟩ := Chained.bind_eq_ok.mp h
  rw [putRange, hrange] at hp₂
  obtain rfl := Except.ok.inj hp₂
  obtain rfl := Except.ok.inj h
  exact (foldl_putPreference_eq _ _).2.2.trans (range_foldlM_put hp₁)

theorem counted_of_read {query : String} {headers : Http.Headers} (h : Params.read query headers = .ok p)
    (hprefer : headers.all "prefer" = ["count=exact"]) : p.counted = true := by
  have hpreferences : preferences headers = ["count=exact"] := by
    rw [preferences, hprefer]
    decide
  obtain ⟨_, -, h⟩ := Chained.bind_eq_ok.mp h
  obtain ⟨_, -, h⟩ := Chained.bind_eq_ok.mp h
  rw [hpreferences] at h
  obtain rfl := Except.ok.inj h
  rfl

theorem rangeAt?_of_range {p : Params} (h : p.range = none) (path : String) : p.rangeAt? path = none := by
  simp [rangeAt?, h]

/-- A range has no say below the root. -/
theorem rangeAt?_below (p : Params) {path : String} (hpath : path ≠ "") : p.rangeAt? path = none := by
  simp [rangeAt?, hpath]

theorem window_of_rangeAt? {p : Params} {path : String} (h : p.rangeAt? path = none) :
    p.window path = ((p.scope path).offset.getD 0, (p.scope path).limit) := by
  unfold window
  rw [h]

theorem checkWindow_of_rangeAt? {p : Params} {path : String} (h : p.rangeAt? path = none) :
    p.checkWindow path = .ok () := by
  unfold checkWindow
  rw [h]
  rfl

theorem window_of_range {p : Params} (h : p.range = none) (path : String) :
    p.window path = ((p.scope path).offset.getD 0, (p.scope path).limit) :=
  window_of_rangeAt? (rangeAt?_of_range h path)

theorem checkWindow_of_range {p : Params} (h : p.range = none) (path : String) : p.checkWindow path = .ok () :=
  checkWindow_of_rangeAt? (rangeAt?_of_range h path)

theorem window_below (p : Params) {path : String} (hpath : path ≠ "") :
    p.window path = ((p.scope path).offset.getD 0, (p.scope path).limit) :=
  window_of_rangeAt? (p.rangeAt?_below hpath)

theorem checkWindow_below (p : Params) {path : String} (hpath : path ≠ "") : p.checkWindow path = .ok () :=
  checkWindow_of_rangeAt? (p.rangeAt?_below hpath)

end Params

namespace Store
variable {p p' : Params}

theorem childPath_ne_empty {path key : String} (h : path ≠ "") : childPath path key ≠ "" := by
  simp [childPath, h]

/-- Below the root rows are related as the scope at the path says. -/
theorem related_of_scope (s : Store) {path : String} (hpath : path ≠ "") (hscope : p'.scope path = p.scope path) :
    s.related p' path = s.related p path := by
  have hwindow : p'.window path = p.window path := by
    rw [Params.window_below _ hpath, Params.window_below _ hpath, hscope]
  have hcheck : p'.checkWindow path = p.checkWindow path := by
    rw [Params.checkWindow_below _ hpath, Params.checkWindow_below _ hpath]
  funext parent child hint row
  unfold related
  rw [hscope, hwindow, hcheck]

theorem related_congr (h : p.AskAlike p') (s : Store) {path : String} (hpath : path ≠ "") :
    s.related p' path = s.related p path := related_of_scope s hpath (h.below path hpath)

mutual

/-- What an item returns depends on what is related to rows at the paths that it leads to. -/
theorem projectItem_congr {s : Store} {good : String → Prop}
    (hbelow : ∀ path key, good path → good (childPath path key))
    (hrelated : ∀ path, good path → s.related p' path = s.related p path) (path name : String) (row : Row)
    (out : Fields) (item : Projection) (hitem : item.LeadsTo good path) :
    s.projectItem p' path name row out item = s.projectItem p path name row out item := by
  cases item with
  | star => rfl
  | column key column cast => rfl
  | embed key child hint inner items =>
    have hitems (c : Row) := projectItems_congr hbelow hrelated (childPath path key) child c [] items
      fun item _ => item.leadsTo_of_good hbelow hitem
    unfold projectItem
    simp only [hrelated _ hitem, hitems]

theorem projectItems_congr {s : Store} {good : String → Prop}
    (hbelow : ∀ path key, good path → good (childPath path key))
    (hrelated : ∀ path, good path → s.related p' path = s.related p path) (path name : String) (row : Row)
    (out : Fields) (items : List Projection) (hitems : ∀ item ∈ items, item.LeadsTo good path) :
    s.projectItems p' path name row out items = s.projectItems p path name row out items := by
  cases items with
  | nil => rfl
  | cons item items =>
    obtain ⟨hitem, hitems⟩ := List.forall_mem_cons.mp hitems
    have hfirst := projectItem_congr hbelow hrelated path name row out item hitem
    have hrest (out : Fields) := projectItems_congr hbelow hrelated path name row out items hitems
    unfold projectItems
    simp only [hfirst, hrest]

end

/-- A listing depends on the selection, on what is asked at the root but for its window, and on the rows related at
other paths, where every embedded resource has a key. -/
theorem listing_of_related {s : Store} (hselect : p'.select = p.select)
    (hconditions : (p'.scope "").conditions = (p.scope "").conditions)
    (horder : (p'.scope "").order = (p.scope "").order)
    (hrelated : ∀ path, path ≠ "" → s.related p' path = s.related p path) (name : String)
    (hkeys : ∀ item ∈ p.items, ¬item.IsKeyless) : s.listing p' name = s.listing p name := by
  have hitems : p'.items = p.items := by rw [Params.items, hselect, Params.items]
  have hmatching (t : Table) : matching name t t.rows (p'.scope "") = matching name t t.rows (p.scope "") := by
    unfold matching
    rw [hconditions, horder]
  have hproject (rows : List Row) : s.project p' name rows = s.project p name rows := by
    have hleads : ∀ item ∈ p.items, item.LeadsTo (· ≠ "") "" := fun item hitem =>
      item.leadsTo_of_not_isKeyless (hkeys item hitem)
    unfold project
    simp only [hitems, projectItems_congr (fun _ _ => childPath_ne_empty) hrelated "" name _ [] p.items hleads]
  unfold listing
  simp only [hmatching, hproject]

/-- A listing does not depend on the window at the root, where every embedded resource has a key. -/
theorem listing_congr (h : p.AskAlike p') (s : Store) (name : String)
    (hkeys : ∀ item ∈ p.items, ¬item.IsKeyless) : s.listing p' name = s.listing p name :=
  listing_of_related h.select h.conditions h.order (fun _ => related_congr h s) name hkeys

/-- A range is a window over the root, too. -/
theorem listing_range (p : Params) (range : Option (UInt64 × UInt64)) (s : Store) (name : String)
    (hkeys : ∀ item ∈ p.items, ¬item.IsKeyless) : s.listing { p with range := range } name = s.listing p name := by
  have hrelated (path : String) (hpath : path ≠ "") :
      s.related { p with range := range } path = s.related p path := related_of_scope s hpath rfl
  have hselect : { p with range := range }.select = p.select := rfl
  exact listing_of_related hselect rfl rfl hrelated name hkeys

end Store
end Server

/-! ### Answers -/

namespace Envelope
variable {α : Type}

theorem shape_many (e : Envelope Json) : e.shape .many = e := by
  cases e <;> rfl

/-- What a client makes of a row that it was sent. -/
def Receives (row : Json → Except String α) (sent : Json) (a : α) : Prop :=
  ∃ v, sent.reread? 126 = some v ∧ row v = .ok a

/-- The length of a listing as the client is told it. -/
def toldCount (p : Params) (rows : List Json) : Option Nat :=
  if p.counted then Decimal.natural? (UInt64.size - 1) (Nat.toDigits 10 rows.length) else none

theorem toldCount_of_counted {p : Params} {rows : List Json} (hcounted : p.counted = true)
    (hlength : rows.length < UInt64.size) : toldCount p rows = some rows.length := by
  rw [toldCount, if_pos hcounted, Decimal.natural?, Decimal.natural_toDigits (Nat.le_sub_one_of_lt hlength)]
  rfl

/-- A length that is told is that of the listing. -/
theorem length_of_toldCount {p : Params} {rows : List Json} {n : Nat} (h : toldCount p rows = some n) :
    p.counted = true ∧ rows.length = n := by
  unfold toldCount at h
  split at h
  · next hcounted => exact ⟨hcounted, Decimal.eq_of_natural?_toDigits h⟩
  · exact nomatch h

/-- The header of an answer tells the length of the listing. -/
theorem toldCount_eq (p : Params) (rows : List Json) :
    (Http.Headers.text? (Store.reply p rows).toResponse.headers "content-range").bind contentRangeTotal? =
      toldCount p rows := by
  let page := Store.paginate rows (p.window "")
  let total := if p.counted then some rows.length else none
  have hheader : Http.Headers.text? (Store.reply p rows).toResponse.headers "content-range" =
      some (Store.contentRange (p.window "").1.toNat page.length total) := by
    show Option.filter _ (some _) = some _
    rw [Option.filter_some, if_pos (isVisible_contentRange ..)]
  rw [hheader, Option.bind_some, contentRangeTotal?_contentRange, toldCount,
    show total = if p.counted then some rows.length else none from rfl]
  cases p.counted <;> rfl

/-- Without a body there is only the count. -/
theorem ofResponse_head (p : Params) (rows : List Json) :
    ofResponse { (Store.reply p rows).toResponse with body := [] } = .success none (toldCount p rows) 200 := by
  unfold ofResponse
  dsimp only
  rw [toldCount_eq]
  rfl

/-- What a client makes of the rows of a listing that are asked for. -/
theorem ofResponse_reply (p : Params) (rows : List Json) :
    ofResponse (Store.reply p rows).toResponse =
      match (Store.paginate rows (p.window "")).mapM (Json.reread? 126) with
      | some vs => .success (some (.arr vs)) (toldCount p rows) 200
      | none => .failure (.decode "response body is not valid JSON: malformed document") 200 := by
  let page := Store.paginate rows (p.window "")
  have hbody : (Store.reply p rows).toResponse.body = Text.Utf8.encode (Json.arr page).render := rfl
  have hblank : (Text.Utf8.encode (Json.arr page).render).all Text.isAsciiBlankByte = false := by
    rw [Text.Utf8.encode_eq_flatMap, Json.Reader.toList_render_arr]
    rfl
  unfold ofResponse
  rw [toldCount_eq, hbody, hblank, Json.ofBytes?_encode, Json.reread?_arr]
  cases page.mapM (Json.reread? 126) <;> rfl

theorem forall₂_receives {row : Json → Except String α} {sent : List Json} {as : List α} :
    List.Forall₂ (Receives row) sent as ↔
      ∃ vs, sent.mapM (Json.reread? 126) = some vs ∧ vs.mapM row = .ok as := by
  simp only [Chained.mapM_eq_some, Chained.mapM_eq_ok]
  constructor
  · intro h
    induction h with
    | nil => exact ⟨[], .nil, .nil⟩
    | cons hone _ ih =>
      obtain ⟨v, hv, ha⟩ := hone
      obtain ⟨vs, hvs, has⟩ := ih
      exact ⟨v :: vs, .cons hv hvs, .cons ha has⟩
  · rintro ⟨vs, hvs, has⟩
    induction hvs generalizing as with
    | nil =>
      cases has
      exact .nil
    | cons hv _ ih =>
      cases has with
      | cons ha has => exact .cons ⟨_, hv, ha⟩ (ih has)

/-- The rows that a client is given are those that are asked for, one by one. -/
theorem decodeRows_reply {row : Json → Except String α} {p : Params} {rows : List Json} {as : List α}
    {count : Option Nat} {status : Nat} :
    (ofResponse (Store.reply p rows).toResponse).decodeRows row = .success (some as) count status ↔
      List.Forall₂ (Receives row) (Store.paginate rows (p.window "")) as ∧ toldCount p rows = count ∧
        200 = status := by
  rw [ofResponse_reply p rows, forall₂_receives]
  cases (Store.paginate rows (p.window "")).mapM (Json.reread? 126) with
  | none => simp [decodeRows, andThen]
  | some vs => cases h : vs.mapM row <;> simp [decodeRows, andThen, Json.Decode.list, h, orDecode]

end Envelope

end TableQuery
