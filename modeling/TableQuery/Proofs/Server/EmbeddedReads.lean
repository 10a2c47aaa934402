import TableQuery.Proofs.Query.Embeds
import TableQuery.Proofs.Server.Alone
import TableQuery.Proofs.Server.InnerEmbeds
import TableQuery.Proofs.Server.Writes

/-! Rows embedded and rows read.

A read of a table lists all rows that it returns and has the window put over the list (`Store.page_alone`). Where
the table is embedded the window is put over the linked rows first, and those in it that lack an inner resource are
left out behind it (`Store.projectItem_linked`). So the same rows are embedded as are read, unless the window counts a
row that is left out (`Store.embedded_as_read_alone`). -/
namespace TableQuery.Server

namespace Store

/-! ### Windows -/

/-- How many rows a window counts, those before it and those in it. -/
def reach (window : UInt64 × Option UInt64) : Nat := window.1.toNat + (window.2.map UInt64.toNat).getD 0

variable {α β : Type} {f : α → Option β} {items : List α}

theorem filterMap_take {n : Nat} (h : ∀ a ∈ items.take n, f a ≠ none) :
    (items.take n).filterMap f = (items.filterMap f).take n ∧
      (items.drop n).filterMap f = (items.filterMap f).drop n := by
  induction items generalizing n with
  | nil => simp
  | cons a items ih =>
    cases n with
    | zero => simp
    | succ n =>
      obtain ⟨ha, hrest⟩ := List.forall_mem_cons.mp h
      obtain ⟨b, hb⟩ := Option.ne_none_iff_exists'.mp ha
      simpa [hb] using ih hrest

/-- A window that counts nothing that is left out may be put over what is there before or after. -/
theorem filterMap_paginate {window : UInt64 × Option UInt64} (h : ∀ a ∈ items.take (reach window), f a ≠ none) :
    (paginate items window).filterMap f = paginate (items.filterMap f) window := by
  obtain ⟨offset, limit⟩ := window
  have hbefore : ∀ a ∈ items.take offset.toNat, f a ≠ none := fun a ha =>
    h a (List.take_subset_take_left _ (Nat.le_add_right ..) ha)
  cases limit with
  | none => exact (filterMap_take hbefore).2
  | some n =>
    have hinside : ∀ a ∈ (items.drop offset.toNat).take n.toNat, f a ≠ none := by
      rw [List.take_drop]
      exact fun a ha => h a (List.mem_of_mem_drop ha)
    show ((items.drop offset.toNat).take n.toNat).filterMap f = ((items.filterMap f).drop offset.toNat).take n.toNat
    rw [(filterMap_take hinside).1, (filterMap_take hbefore).2]

theorem paginate_map {g : α → β} (window : UInt64 × Option UInt64) :
    paginate (items.map g) window = (paginate items window).map g := by
  obtain ⟨offset, limit⟩ := window
  cases limit <;> simp [paginate]

theorem mem_of_mem_paginate {a : α} {window : UInt64 × Option UInt64} (h : a ∈ paginate items window) :
    a ∈ items := by
  obtain ⟨offset, limit⟩ := window
  cases limit with
  | none => exact List.mem_of_mem_drop h
  | some n => exact List.mem_of_mem_drop (List.mem_of_mem_take h)

end Store

/-! ### Related rows alone -/

/-- A table with those of its rows that a row is linked to. -/
def Table.linked (t : Table) (l : Store.Link) (row : Row) : Table := { t with rows := t.rows.filter (l.joins row) }

/-- The rows of a table that pass what is asked of it, in the order asked for. -/
def Table.matched (t : Table) (name : String) (scope : Scope) : Except Rejection (List Row) :=
  Store.matching name t t.rows scope

namespace Store
variable {s : Store} {p p' : Params} {start path name child : String} {hint : Option String} {items : List Projection}
  {t : Table} {row : Row}

/-- The rows that a read is answered with where these are all there are in the table. -/
def page (s : Store) (p : Params) (name : String) (t : Table) : Except Halt (List Json) := do
  let matched ← orRefusal (t.matched name (p.scope ""))
  let rows ← s.project p name matched
  p.checkWindow ""
  .ok (paginate rows (p.window ""))

/-- No row that the window at a path counts lacks an inner resource. -/
def CountsAll (s : Store) (p : Params) (path name : String) (items : List Projection) (t : Table) : Prop :=
  ∀ matched, t.matched name (p.scope path) = .ok matched →
    ∀ row ∈ matched.take (reach (p.window path)), s.projectItems p path name row [] items ≠ .ok none

theorem projectItem_ne_none {item : Projection} (h : ∀ key child hint items, item ≠ .embed key child hint true items)
    (out : Fields) : s.projectItem p path name row out item ≠ .ok none := by
  intro hnone
  cases item with
  | star => simp [projectItem] at hnone
  | column key column cast =>
    unfold projectItem at hnone
    obtain ⟨t, -, hnone⟩ := Chained.bind_eq_ok.mp hnone
    split at hnone <;> cases hnone
  | embed key child hint inner items =>
    cases inner with
    | true => exact h key child hint items rfl
    | false =>
      obtain ⟨value, -, hvalue⟩ := projectItem_embed hnone
      rw [hvalue false] at hnone
      cases hnone

theorem projectItems_ne_none (h : ∀ key child hint items', .embed key child hint true items' ∉ items)
    (out : Fields) : s.projectItems p path name row out items ≠ .ok none := by
  induction items generalizing out with
  | nil => simp [projectItems]
  | cons item items ih =>
    intro hnone
    rw [projectItems] at hnone
    obtain ⟨kept, hkept, hnone⟩ := Chained.bind_eq_ok.mp hnone
    cases kept with
    | none =>
      refine projectItem_ne_none (fun key child hint items' heq => ?_) out hkept
      exact h key child hint items' (heq ▸ List.mem_cons_self)
    | some next =>
      exact ih (fun key child hint items' hmem => h key child hint items' (List.mem_cons_of_mem _ hmem)) next hnone

/-- Where no resource is an inner one, no row is left out. -/
theorem countsAll_of_left (h : ∀ key child hint items', .embed key child hint true items' ∉ items) :
    s.CountsAll p path name items t :=
  fun _ _ _ _ => projectItems_ne_none h []

/-! ### Other rows in the table -/

theorem table_insertTable_self (s : Store) (name : String) (t : Table) : (s.insertTable name t).table name = .ok t := by
  rw [table, table?_insertTable_self]

theorem table_insertTable_of_ne (s : Store) {name other : String} (t : Table) (h : other ≠ name) :
    (s.insertTable name t).table other = s.table other := by
  rw [table, table?_insertTable_of_ne s t h, table]

mutual

/-- What an item returns of other tables does not depend on the rows in this one. -/
theorem projectItem_insertTable (t' : Table) (htable : s.table child = .ok t) (hcolumns : t'.columns = t.columns)
    (path name : String) (row : Row) (out : Fields) (item : Projection) (hitem : child ∉ item.names) :
    (s.insertTable child t').projectItem p path name row out item = s.projectItem p path name row out item := by
  cases item with
  | star => rfl
  | column key column cast =>
    unfold projectItem
    by_cases hname : name = child
    · subst hname
      rw [table_insertTable_self, htable]
      show (if t'.accepts column then _ else _) = if t.accepts column then _ else _
      rw [Table.accepts, hcolumns, Table.accepts]
    · rw [table_insertTable_of_ne s t' hname]
  | embed key other hint inner items =>
    rw [Projection.names, List.mem_cons, not_or] at hitem
    have hitems (c : Row) := projectItems_insertTable t' htable hcolumns (childPath path key) other c [] items
      hitem.2
    have hrelated : (s.insertTable child t').related p (childPath path key) name other hint row =
        s.related p (childPath path key) name other hint row := by
      rw [related, related, table_insertTable_of_ne s t' (Ne.symm hitem.1)]
      rfl
    unfold projectItem
    simp only [hrelated, hitems]

theorem projectItems_insertTable (t' : Table) (htable : s.table child = .ok t) (hcolumns : t'.columns = t.columns)
    (path name : String) (row : Row) (out : Fields) (items : List Projection)
    (hitems : child ∉ Projection.namesOf items) :
    (s.insertTable child t').projectItems p path name row out items = s.projectItems p path name row out items := by
  cases items with
  | nil => rfl
  | cons item items =>
    rw [Projection.namesOf, List.mem_append, not_or] at hitems
    have hfirst := projectItem_insertTable t' htable hcolumns path name row out item hitems.1
    have hrest (out : Fields) := projectItems_insertTable t' htable hcolumns path name row out items hitems.2
    unfold projectItems
    simp only [hfirst, hrest]

end

theorem read_insertTable {t' : Table} (htable : s.table child = .ok t) (hcolumns : t'.columns = t.columns)
    (hitems : child ∉ Projection.namesOf p.items) :
    ((s.insertTable child t').read p child false).map Reply.body =
      (s.page p child t').map fun rows => some (.arr rows) := by
  have hproject (rows : List Row) : (s.insertTable child t').project p child rows = s.project p child rows := by
    unfold project
    simp only [projectItems_insertTable t' htable hcolumns "" child _ [] p.items hitems]
  rw [read_eq, listing, table_insertTable_self, page]
  show ((orRefusal (t'.matched child (p.scope "")) >>= _) >>= _).map _ =
    (orRefusal (t'.matched child (p.scope "")) >>= _).map _
  cases t'.matched child (p.scope "") with
  | error r => rfl
  | ok matched =>
    show ((s.insertTable child t').project p child matched >>= _).map _ = (s.project p child matched >>= _).map _
    rw [hproject]
    cases s.project p child matched with
    | error halt => rfl
    | ok rows =>
      show (p.checkWindow "" >>= _).map _ = (p.checkWindow "" >>= _).map _
      cases p.checkWindow "" <;> rfl

/-! ### Embedded rows -/

/-- Rows as the items return them, without those that lack an inner resource. -/
def assemble (s : Store) (p : Params) (path name : String) (items : List Projection) (rows : List Row) :
    Except Halt (List Json) :=
  rows.filterMapM fun row => do
    let fields ← s.projectItems p path name row [] items
    .ok (fields.map Json.obj)

theorem assemble_paginate {rows : List Row} {window : UInt64 × Option UInt64} {listed : List Json}
    (h : s.assemble p path name items rows = .ok listed)
    (hcounts : ∀ row ∈ rows.take (reach window), s.projectItems p path name row [] items ≠ .ok none) :
    s.assemble p path name items (paginate rows window) = .ok (paginate listed window) := by
  obtain ⟨g, hg, rfl⟩ := filterMapM_projectItems.mp h
  have hstays : ∀ row ∈ rows.take (reach window), g row ≠ none := by
    intro row hrow hnone
    exact hcounts row hrow (hnone ▸ hg row (List.mem_of_mem_take hrow))
  refine filterMapM_projectItems.mpr ⟨g, fun row hrow => hg row (mem_of_mem_paginate hrow), ?_⟩
  rw [filterMap_paginate hstays, paginate_map]

/-- A request for a resource alone lists the rows and has the window put over the list. -/
theorem page_alone (hstart : start ≠ "") (halone : Params.AsksAlone start p p') (hitems : p'.items = items)
    (hkeyed : Projection.AllKeyed items) (t : Table) :
    s.page p' name t = (do
      let matched ← orRefusal (t.matched name (p.scope start))
      let listed ← s.assemble p start name items matched
      .ok (paginate listed (p.window start))) := by
  have hproject (rows : List Row) : s.project p' name rows = s.assemble p start name items rows := by
    unfold project assemble
    simp only [hitems, projectItems_alone hstart halone "" name _ [] items hkeyed]
    rfl
  have hwindow : p'.window "" = p.window start := window_alone hstart halone ""
  have hscope : p'.scope "" = p.scope start := halone.scope ""
  unfold page
  simp only [hproject, hwindow, hscope, (checkWindow_alone hstart halone "").1]
  rfl

/-- A row with other rows embedded under a key; none if the resource is an inner one and there are none. -/
def embedding (inner : Bool) (key : String) (out : Fields) (rows : List Json) : Option Fields :=
  if inner && isEmptyEmbed (.arr rows) then none else some (out.insert key (.arr rows))

/-- A request for a resource among others has the window put over the rows and returns what is in it. -/
theorem projectItem_linked {key : String} {inner : Bool} {k : ForeignKey}
    (hstart : childPath path key ≠ "") (hlink : s.link name child hint = .ok (.toMany k))
    (htable : s.table child = .ok t) (out : Fields) :
    s.projectItem p path name row out (.embed key child hint inner items) = (do
      let matched ← orRefusal ((t.linked (.toMany k) row).matched child (p.scope (childPath path key)))
      let rows ← s.assemble p (childPath path key) child items (paginate matched (p.window (childPath path key)))
      .ok (embedding inner key out rows)) := by
  unfold projectItem related
  dsimp only
  rw [hlink, htable, Params.checkWindow_below p hstart]
  show ((orRefusal ((t.linked (.toMany k) row).matched child (p.scope (childPath path key))) >>= _) >>= _) =
    (orRefusal ((t.linked (.toMany k) row).matched child (p.scope (childPath path key))) >>= _)
  cases (t.linked (.toMany k) row).matched child (p.scope (childPath path key)) <;> rfl

/-- **Embedded rows are the rows of a read.** What is embedded in a row, along a key that points at it, are the
rows that the request for the resource alone returns of those that are linked to the row. Without a window that is
so whatever becomes of the request; with a window it is so of a request that is answered, if no resource next below is
an inner one, or the window counts no row that lacks one. The parameters may be any, as long as every resource has a
key and the resource no filter that would be taken for a parameter of the request as a whole. Where the table is not
embedded again below, the rows are those of a read of a store with the linked rows only in the table. -/
theorem embedded_as_read_alone {params : List Param} {headers headers' : Http.Headers} {text key : String}
    {k : ForeignKey} (hread : Params.read (Url.Form.encode params) headers = .ok p) (hkey : key ≠ "")
    (hkeyed : Projection.AllKeyed items)
    (hfree : ∀ param ∈ Params.alone (childPath path key) params, param.1 ∉ Params.wholeNames)
    (hselect : parseSelect text.toList = .ok items) (hrange : headers'.text? "range" = none)
    (hlink : s.link name child hint = .ok (.toMany k)) (htable : s.table child = .ok t) :
    ∃ p',
      Params.read (Url.Form.encode (("select", text) :: Params.alone (childPath path key) params)) headers' = .ok p' ∧
      (child ∉ Projection.namesOf items → ∀ row,
        ((s.insertTable child (t.linked (.toMany k) row)).read p' child false).map Reply.body =
          (s.page p' child (t.linked (.toMany k) row)).map fun rows => some (.arr rows)) ∧
      ∀ row out inner,
        (p.window (childPath path key) = (0, none) →
          s.projectItem p path name row out (.embed key child hint inner items) =
            (s.page p' child (t.linked (.toMany k) row)).map (embedding inner key out)) ∧
        ∀ rows, s.page p' child (t.linked (.toMany k) row) = .ok rows →
          (∀ key child hint items', .embed key child hint true items' ∉ items) ∨
            s.CountsAll p (childPath path key) child items (t.linked (.toMany k) row) →
          s.projectItem p path name row out (.embed key child hint inner items) =
            .ok (embedding inner key out rows) := by
  have hstart : childPath path key ≠ "" := by
    unfold childPath
    split <;> simp [hkey]
  obtain ⟨p', hread', hitems, halone⟩ := Params.read_alone hstart hread hfree hselect hrange
  refine ⟨p', hread', fun hself row => read_insertTable htable rfl (hitems ▸ hself),
    fun row out inner => ⟨fun hwindow => ?_, fun rows hpage hcounts => ?_⟩⟩
  · rw [projectItem_linked hstart hlink htable, page_alone hstart halone hitems hkeyed, hwindow]
    cases (t.linked (.toMany k) row).matched child (p.scope (childPath path key)) with
    | error r => rfl
    | ok matched =>
      show (s.assemble p (childPath path key) child items matched >>= _) =
        (s.assemble p (childPath path key) child items matched >>= _).map _
      cases s.assemble p (childPath path key) child items matched <;> rfl
  · rw [page_alone hstart halone hitems hkeyed] at hpage
    obtain ⟨matched, hmatched, hpage⟩ := Chained.bind_eq_ok.mp hpage
    obtain ⟨listed, hlisted, hpage⟩ := Chained.bind_eq_ok.mp hpage
    obtain rfl := Except.ok.inj hpage
    have hcountsAll : s.CountsAll p (childPath path key) child items (t.linked (.toMany k) row) :=
      hcounts.elim countsAll_of_left id
    rw [projectItem_linked hstart hlink htable]
    exact Chained.bind_eq_ok.mpr ⟨matched, hmatched, Chained.bind_eq_ok.mpr
      ⟨_, assemble_paginate hlisted (hcountsAll matched (orRefusal_eq_ok.mp hmatched)), rfl⟩⟩

def author : Row := [("id", .str "u")]

def post (id : String) : Row := [("id", .str id), ("user_id", .str "u")]

def posts : Table := .ofRows [post "p", post "q"]

/-- The author of two posts, the second with a comment. -/
def blog : Store :=
  ⟨[("users", .ofRows [[("id", .str "u")]]),
     ("posts", posts),
     ("comments", .ofRows [[("id", .str "c"), ("post_id", .str "q")]])],
    [⟨"posts", "user_id", "users"⟩, ⟨"comments", "post_id", "posts"⟩]⟩

/-- The post that has a comment, with it. -/
def commented : Json :=
  .obj [("comments", .arr [.obj [("id", .str "c"), ("post_id", .str "q")]]), ("id", .str "q"), ("user_id", .str "u")]

def byAuthor : Link := .toMany ⟨"posts", "user_id", "users"⟩

/-- The last of the posts that have comments, embedded. -/
def lastCommented : List Param :=
  [("select", "*,posts(*,comments!inner(*))"), ("posts.order", "id.desc"), ("posts.limit", "1")]

/-- The items of such posts. -/
def commentedItems : List Projection := [.star, .embed "comments" "comments" none true [.star]]

/-- What is asked with these parameters. -/
def asksLastCommented : Params :=
  ⟨some [.star, .embed "posts" "posts" none false commentedItems],
    [("posts", ⟨[], [⟨"id", true, true⟩], none, some 1⟩)], none, none, false, false, none⟩

/-- What is asked by the request for such posts alone. -/
def asksLastAlone : Params :=
  ⟨some commentedItems, [("", ⟨[], [⟨"id", true, true⟩], none, some 1⟩)], none, none, false, false, none⟩

/-- The last post has the comment, and is what a window of one counts. -/
theorem last_commented_embedded :
    blog.page asksLastAlone "posts" (posts.linked byAuthor author) = .ok [commented] ∧
      ∀ out, blog.projectItem asksLastCommented "" "users" author out
          (.embed "posts" "posts" none false commentedItems) = .ok (some (out.insert "posts" (.arr [commented]))) := by
  have hput : Params.empty.putAll lastCommented = .ok asksLastCommented := by
    cbv
  have hread : Params.read (Url.Form.encode lastCommented) [] = .ok asksLastCommented := by
    rw [Params.read_without_range _ rfl, hput]
    rfl
  have halone : Params.alone "posts" lastCommented = [("order", "id.desc"), ("limit", "1")] := by
    decide
  have hselect : parseSelect "*,comments!inner(*)".toList = .ok commentedItems := by
    cbv
  have hputAlone : Params.empty.putAll [("select", "*,comments!inner(*)"), ("order", "id.desc"), ("limit", "1")] =
      .ok asksLastAlone := by
    cbv
  have hpage : blog.page asksLastAlone "posts" (posts.linked byAuthor author) = .ok [commented] := by
    cbv
  have hlink : blog.link "users" "posts" none = .ok byAuthor := by
    cbv
  have hcounts : blog.CountsAll asksLastCommented "posts" "posts" commentedItems (posts.linked byAuthor author) := by
    have hmatched : (posts.linked byAuthor author).matched "posts" (asksLastCommented.scope "posts") =
        .ok [post "q", post "p"] := by
      cbv
    have hfirst : blog.projectItems asksLastCommented "posts" "posts" (post "q") [] commentedItems =
        .ok (some [("comments", .arr [.obj [("id", .str "c"), ("post_id", .str "q")]]), ("id", .str "q"),
          ("user_id", .str "u")]) := by
      cbv
    intro matched hmatched' row hrow
    obtain rfl := Except.ok.inj (hmatched.symm.trans hmatched')
    obtain rfl := List.mem_singleton.mp hrow
    rw [hfirst]
    simp
  have hkeyed : Projection.AllKeyed commentedItems := ⟨trivial, ⟨by decide, trivial, trivial⟩, trivial⟩
  have hfree : ∀ param ∈ Params.alone (childPath "" "posts") lastCommented, param.1 ∉ Params.wholeNames := by
    rw [show childPath "" "posts" = "posts" by decide, halone]
    decide
  have htable : blog.table "posts" = .ok posts := rfl
  obtain ⟨p', hread', -, hembedded⟩ := embedded_as_read_alone hread (by decide : "posts" ≠ "") hkeyed hfree hselect
    (rfl : Http.Headers.text? [] "range" = none) hlink htable
  have hsame : p' = asksLastAlone := by
    have hreadAlone := hread'.symm
    rw [show Params.alone (childPath "" "posts") lastCommented = _ from halone, Params.read_without_range _ rfl,
      hputAlone] at hreadAlone
    exact Except.ok.inj hreadAlone
  subst hsame
  exact ⟨hpage, fun out => (hembedded author out false).2 [commented] hpage (.inr hcounts)⟩

/-- The first of the posts that have comments, embedded. -/
def firstCommented : List Param := [("select", "*,posts(*,comments!inner(*))"), ("posts.limit", "1")]

/-- The window counts the first post, which has no comment: the read returns the second and nothing is embedded. -/
theorem first_commented_hidden :
    ∃ p p', Params.read (Url.Form.encode firstCommented) [] = .ok p ∧
      Params.read (Url.Form.encode (("select", "*,comments!inner(*)") :: Params.alone "posts" firstCommented)) [] =
        .ok p' ∧
      ((blog.insertTable "posts" (posts.linked byAuthor author)).read p' "posts" false).map Reply.body =
        .ok (some (.arr [commented])) ∧
      (blog.read p "users" false).map Reply.body =
        .ok (some (.arr [.obj [("id", .str "u"), ("posts", .arr [])]])) := by
  have hput : Params.empty.putAll firstCommented =
      .ok { asksLastCommented with scopes := [("posts", ⟨[], [], none, some 1⟩)] } := by
    cbv
  have halone : Params.alone "posts" firstCommented = [("limit", "1")] := by
    decide
  have hputAlone : Params.empty.putAll [("select", "*,comments!inner(*)"), ("limit", "1")] =
      .ok { asksLastAlone with scopes := [("", ⟨[], [], none, some 1⟩)] } := by
    cbv
  refine ⟨_, _, by rw [Params.read_without_range _ rfl, hput]; rfl,
    by rw [halone, Params.read_without_range _ rfl, hputAlone]; rfl, ?_, ?_⟩
  · cbv
  · cbv

end Store
end TableQuery.Server
