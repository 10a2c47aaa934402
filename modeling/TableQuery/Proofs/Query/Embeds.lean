import TableQuery.Proofs.Query.Compile
import TableQuery.Proofs.Query.Selection

/-! What a read embeds.

A cached read is dropped when one of its tables is written to, and its tables are the one read and the
declared relations. The server goes by the text of the selection, where an item or a column that was passed
on as it is may ask for a resource of its own (`embedded`). `embeds_covered_iff` says when the tables cover
what is embedded: among texts that close what they open, one that embeds another table is the only way not
to, and there are such texts (`unlisted_embed`). -/
namespace TableQuery
open Server

namespace Server

mutual

/-- The resources a projection embeds, at any depth. -/
def Projection.names : Projection → List String
  | .star => []
  | .column _ _ _ => []
  | .embed _ name _ _ items => name :: Projection.namesOf items

def Projection.namesOf : List Projection → List String
  | [] => []
  | p :: ps => p.names ++ Projection.namesOf ps

end

theorem Projection.namesOf_append (ps qs : List Projection) :
    Projection.namesOf (ps ++ qs) = Projection.namesOf ps ++ Projection.namesOf qs := by
  induction ps with
  | nil => rfl
  | cons p ps ih => rw [List.cons_append, namesOf, namesOf, ih, List.append_assoc]

theorem Projection.namesOf_flatMap {α : Type} (f : α → List Projection) (as : List α) :
    Projection.namesOf (as.flatMap f) = as.flatMap fun a => Projection.namesOf (f a) := by
  induction as with
  | nil => rfl
  | cons a as ih => rw [List.flatMap_cons, namesOf_append, ih, List.flatMap_cons]

end Server

/-- The resources that a text embeds where it stands alone; none if the server cannot read it. -/
def embedded (text : String) : List String :=
  match parseSelect text.toList with
  | .ok items => Projection.namesOf items
  | .error _ => []

theorem embedded_of_parseSelect {text : String} {items : List Projection}
    (h : parseSelect text.toList = .ok items) : embedded text = Projection.namesOf items := by
  unfold embedded
  rw [h]

namespace Select

/-! ### Levels -/

namespace Level

mutual

/-- What is embedded by a level: its resource, what its items embed, and the levels below. -/
def embeds : Level → List String
  | .node e items children => e.name :: (items.flatMap fun i => embedded i.render) ++ embedsOf children

def embedsOf : List Level → List String
  | [] => []
  | l :: ls => embeds l ++ embedsOf ls

end

theorem embedded_eq (text : String) : embedded text = Projection.namesOf (readAlone text) := by
  unfold embedded readAlone
  cases parseSelect text.toList <;> rfl

theorem namesOf_readItems {items : List SelectItem} {own : List Projection} (h : readItems items = .ok own) :
    Projection.namesOf own = items.flatMap fun i => embedded i.render := by
  rw [eq_of_readItems h]
  split
  · next hempty =>
    rw [List.isEmpty_iff.mp hempty]
    rfl
  · simp only [Projection.namesOf_flatMap, embedded_eq]

mutual

/-- What the server finds embedded in a level. -/
theorem names_read (l : Level) {p : Projection} (h : l.read = .ok p) : p.names = l.embeds := by
  cases l with
  | node e items children =>
    obtain ⟨own, below, hown, hbelow, rfl⟩ := of_read_node h
    rw [Projection.names, Projection.namesOf_append, namesOf_readItems hown, namesOf_readAll children hbelow]
    rfl
termination_by structural l

theorem namesOf_readAll (ls : List Level) {ps : List Projection} (h : readAll ls = .ok ps) :
    Projection.namesOf ps = embedsOf ls := by
  cases ls with
  | nil =>
    obtain rfl := Except.ok.inj h
    rfl
  | cons l ls =>
    obtain ⟨first, others, hfirst, hothers, rfl⟩ := of_readAll_cons h
    rw [Projection.namesOf, names_read l hfirst, namesOf_readAll ls hothers, embedsOf]
termination_by structural ls

end

end Level

/-! ### Placed items -/

/-- A name that a relation has, or one of its columns embeds. -/
def Mentions (e : Embedding) (n : String) : Prop := e.name = n ∨ ∃ c ∈ e.columns, n ∈ embedded c

theorem mem_embedded_placedAt {items : List SelectItem} {path : List String} {n : String} :
    n ∈ ((placedAt items path).flatMap fun i => embedded i.render) ↔
      ∃ i ∈ items, i.path = path ∧ n ∈ embedded i.render := by
  have hrender (i : SelectItem) : ({ i with path := [] } : SelectItem).render = i.render := rfl
  simp only [placedAt, List.flatMap_map, hrender, List.mem_flatMap, List.mem_filter, decide_eq_true_eq,
    and_assoc]

mutual

theorem mem_embeds_fill {items : List SelectItem} {n : String} (path : List String) (r : Relation) :
    n ∈ (fill items path r).embeds ↔ (∃ e ∈ Relation.embeddings r, Mentions e n) ∨
      ∃ site ∈ Relation.sites path r, ∃ i ∈ items, i.path = site.1 ∧ n ∈ embedded i.render := by
  cases r with
  | node e cs =>
    have hcolumns : (n ∈ (e.columns.map SelectItem.column).flatMap fun i => embedded i.render) ↔
        ∃ c ∈ e.columns, n ∈ embedded c := by
      rw [List.flatMap_map, List.mem_flatMap]
      rfl
    rw [fill, Level.embeds, List.flatMap_append, List.mem_append, List.mem_cons, List.mem_append, hcolumns,
      mem_embedded_placedAt, mem_embedsOf_fillAll, Relation.embeddings, Relation.sites]
    simp only [List.mem_cons, or_and_right, exists_or, exists_eq_left, Mentions, eq_comm (a := n)]
    grind
termination_by structural r

theorem mem_embedsOf_fillAll {items : List SelectItem} {n : String} (path : List String)
    (rs : List Relation) :
    n ∈ Level.embedsOf (fillAll items path rs) ↔ (∃ e ∈ Relation.embeddingsOf rs, Mentions e n) ∨
      ∃ site ∈ Relation.sitesOf path rs, ∃ i ∈ items, i.path = site.1 ∧ n ∈ embedded i.render := by
  cases rs with
  | nil => simp [fillAll, Level.embedsOf, Relation.embeddingsOf, Relation.sitesOf]
  | cons r rs =>
    rw [fillAll, Level.embedsOf, List.mem_append, mem_embeds_fill, mem_embedsOf_fillAll,
      Relation.embeddingsOf, Relation.sitesOf]
    simp only [List.mem_append, or_and_right, exists_or]
    grind
termination_by structural rs

end

end Select

/-! ### Reads -/

namespace Query
variable {q : Query} {mode : Mode} {r : Request}

/-- The texts that a selection passes on as they are: the items and the columns of relations. -/
def selectedTexts (q : Query) : List String :=
  q.select.map SelectItem.render ++ (Relation.embeddingsOf q.relations).flatMap Embedding.columns

theorem tables_of_compileAs (h : q.compileAs mode = .ok r) (n : String) :
    n ∈ r.tables ↔ n = q.table ∨ ∃ e ∈ Relation.embeddingsOf q.relations, e.name = n := by
  obtain ⟨-, -, -, -, select, filters, window, cursor, hoisted, -, -, -, -, -, rfl⟩ := parts_of_compileAs h
  show n ∈ Relation.resourcesFrom [q.table] q.relations ↔ _
  rw [Relation.mem_resourcesFrom, List.mem_singleton]

/-- **Which reads are tagged with all they embed.** The tables of a compiled read hold every resource that
the server finds in its selection if and only if they hold those that the selected texts embed. -/
theorem embeds_covered_iff {s : String} {items : List Projection}
    (hrelations : ∀ e ∈ Relation.embeddingsOf q.relations, e.IsNamed)
    (hclosed : ∀ t ∈ q.selectedTexts, Text.Nested.IsClosed t.toList) (h : q.compileAs mode = .ok r)
    (hselect : Select.compile q.select q.relations = .ok (some s))
    (hread : parseSelect s.toList = .ok items) :
    (∀ n ∈ Projection.namesOf items, n ∈ r.tables) ↔
      ∀ t ∈ q.selectedTexts, ∀ n ∈ embedded t, n ∈ r.tables := by
  obtain ⟨hitems, hcolumns⟩ := List.forall_mem_append.mp hclosed
  obtain ⟨-, hplaced, -⟩ := Select.text_of_compile hselect
  rw [Select.parseSelect_of_compile (fun i hi => hitems i.render (List.mem_map_of_mem hi))
    (fun e he => ⟨hrelations e he, fun c hc => hcolumns c (List.mem_flatMap.mpr ⟨e, he, hc⟩)⟩) hselect] at hread
  obtain ⟨own, hown, hread⟩ := Chained.bind_eq_ok.mp hread
  obtain ⟨below, hbelow, hread⟩ := Chained.bind_eq_ok.mp hread
  obtain rfl := Except.ok.inj hread
  have hmem (n : String) : n ∈ Projection.namesOf (own ++ below) ↔
      (∃ i ∈ q.select, i.path = [] ∧ n ∈ embedded i.render) ∨
      (∃ e ∈ Relation.embeddingsOf q.relations, Select.Mentions e n) ∨
      ∃ site ∈ Relation.sitesOf [] q.relations, ∃ i ∈ q.select, i.path = site.1 ∧ n ∈ embedded i.render := by
    rw [Projection.namesOf_append, Select.Level.namesOf_readItems hown, Select.Level.namesOf_readAll _ hbelow,
      List.mem_append, Select.mem_embedded_placedAt, Select.mem_embedsOf_fillAll]
  constructor
  · intro hcovered t ht n hn
    apply hcovered n
    rw [hmem]
    rcases List.mem_append.mp ht with ht | ht
    · obtain ⟨i, hi, rfl⟩ := List.mem_map.mp ht
      by_cases hroot : i.path = []
      · exact .inl ⟨i, hi, hroot, hn⟩
      · obtain ⟨e, hsite⟩ := hplaced i hi hroot
        exact .inr (.inr ⟨_, hsite, i, hi, rfl, hn⟩)
    · obtain ⟨e, he, hc⟩ := List.mem_flatMap.mp ht
      exact .inr (.inl ⟨e, he, .inr ⟨t, hc, hn⟩⟩)
  · intro hcovered n hn
    have hitem : ∀ i ∈ q.select, n ∈ embedded i.render → n ∈ r.tables := fun i hi =>
      hcovered i.render (List.mem_append_left _ (List.mem_map_of_mem hi)) n
    rcases (hmem n).mp hn with ⟨i, hi, -, hin⟩ | ⟨e, he, hname | ⟨c, hc, hin⟩⟩ | ⟨-, -, i, hi, -, hin⟩
    · exact hitem i hi hin
    · exact (tables_of_compileAs h n).mpr (.inr ⟨e, he, hname⟩)
    · exact hcovered c (List.mem_append_right _ (List.mem_flatMap.mpr ⟨e, he, hc⟩)) n hin
    · exact hitem i hi hin

/-- A name with a selection between brackets is read as that resource. -/
theorem parseSelect_named (name body : String) (hname : isIdentifier name = true)
    (hbody : Text.Nested.IsClosed body.toList) :
    parseSelect (name ++ "(" ++ body ++ ")").toList =
      (parseSelect body.toList).map fun items => [.embed name name none false items] := by
  have hnamed : (Embedding.ofName name).IsNamed := ⟨hname, (fun _ ha => nomatch ha), (fun _ hh => nomatch hh)⟩
  have hhead : (Embedding.ofName name).head = name := by simp [Embedding.head, Embedding.ofName]
  have htext : (name ++ "(" ++ body ++ ")").toList =
      embedText (Embedding.ofName name).head.toList body.toList := by
    simp [hhead, embedText]
  rw [htext, parseSelect_embed hnamed.head_ne_nil hnamed.safe_head hbody.runsFrom,
    Embedding.parseHead_head hnamed]
  rfl

/-- The posts with their ids, as a text. -/
theorem parseSelect_posts : parseSelect "posts(id)".toList =
    .ok [.embed "posts" "posts" none false [.column "id" "id" none]] := by
  have hid : parseSelect "id".toList = .ok [.column "id" "id" none] :=
    Wanted.parseSelect_item (w := .named "id") (by decide) []
  have hposts := parseSelect_named "posts" "id" (by decide) (by decide)
  rw [hid] at hposts
  exact hposts

/-- Users with the posts they wrote, which are declared as well as named by a text. -/
def declaredPosts : Query :=
  { Query.on "users" with select := [.column "posts(id)"], relations := [.ofName "posts"] }

theorem declaredPosts_covered :
    ∃ r items, declaredPosts.compileAs .many = .ok r ∧ r.params = [("select", "posts(id),posts(*)")] ∧
      parseSelect "posts(id),posts(*)".toList = .ok items ∧ ∀ n ∈ Projection.namesOf items, n ∈ r.tables := by
  have hselect : Select.compile declaredPosts.select declaredPosts.relations =
      .ok (some "posts(id),posts(*)") := by
    cbv
  have hcompile : ∃ r, declaredPosts.compileAs .many = .ok r ∧
      r.params = [("select", "posts(id),posts(*)")] ∧ r.tables = ["users", "posts"] := by
    have htable : isIdentifier declaredPosts.table = true := by decide
    unfold compileAs
    rw [hselect, htable]
    exact ⟨_, rfl, rfl, rfl⟩
  have hread : parseSelect "posts(id),posts(*)".toList = .ok
      [.embed "posts" "posts" none false [.column "id" "id" none],
        .embed "posts" "posts" none false [.star]] := by
    have hall := parseSelect_named "posts" "*" (by decide) (by decide)
    rw [show "*".toList = ['*'] by decide, parseSelect_star] at hall
    have hboth := parseSelect_append_comma (a := "posts(id)".toList) (by decide) "posts(*)".toList
    rw [parseSelect_posts, show "posts(*)".toList = ("posts" ++ "(" ++ "*" ++ ")").toList by decide,
      hall] at hboth
    exact hboth
  have htexts : declaredPosts.selectedTexts = ["posts(id)"] := by decide
  obtain ⟨r, hr, hparams, htables⟩ := hcompile
  refine ⟨r, _, hr, hparams, hread,
    (embeds_covered_iff (by decide) (by rw [htexts]; decide) hr hselect hread).mpr ?_⟩
  rw [htexts, List.forall_mem_singleton, embedded_of_parseSelect parseSelect_posts, htables]
  decide

/-- A read of a table that only selects compiles if its selection does. -/
theorem compileAs_of_select (table : String) {items : List SelectItem} {s : String}
    (htable : isIdentifier table = true) (h : Select.compile items [] = .ok (some s)) :
    ∃ r, ({ Query.on table with select := items } : Query).compileAs .many = .ok r ∧
      r.params = [("select", s)] ∧ r.tables = [table] := by
  have hnamed : isIdentifier ({ Query.on table with select := items } : Query).table = true := htable
  have hselect : Select.compile ({ Query.on table with select := items } : Query).select
      ({ Query.on table with select := items } : Query).relations = .ok (some s) := h
  unfold compileAs
  rw [hselect, hnamed]
  exact ⟨_, rfl, rfl, rfl⟩

/-- Users with the posts that a text names. -/
def undeclaredPosts : Query := { Query.on "users" with select := [.column "posts(id)"] }

/-- A text with a resource of its own passes, and the table it names is not among those of the read. -/
theorem unlisted_embed :
    (Query.on "users").selecting ["posts(id)"] = undeclaredPosts ∧
      ∃ r items, undeclaredPosts.compileAs .many = .ok r ∧ r.params = [("select", "posts(id)")] ∧
        parseSelect "posts(id)".toList = .ok items ∧ "posts" ∈ Projection.namesOf items ∧
        "posts" ∉ r.tables := by
  have hselect : Select.compile undeclaredPosts.select undeclaredPosts.relations = .ok (some "posts(id)") := by
    cbv
  obtain ⟨r, hr, hparams, htables⟩ := compileAs_of_select "users" (by decide) hselect
  refine ⟨rfl, r, _, hr, hparams, parseSelect_posts, by decide, ?_⟩
  rw [htables]
  decide

end Query
end TableQuery
