import TableQuery.Proofs.Query.Compile
import TableQuery.Proofs.Query.Levels
import TableQuery.Proofs.Server.InnerEmbeds

/-! Queries with one relation made inner.

Making a relation of a query inner (`Query.joinInner`) changes one mark in its selection. It compiles if the query
does, into the same parameters but for the `select` one (`Query.compileAs_joinInner`), and of that the server
reads the same items but for the one resource, which is an inner one now (`Select.parseSelect_joinInner`). -/
namespace TableQuery
open Server

/-! ### Relations -/

/-- The embedding, joined as an inner one if its rows appear under the key. -/
def Embedding.joinInner (key : String) (e : Embedding) : Embedding :=
  { e with join := if e.key = key then .inner else e.join }

theorem Embedding.isInner_joinInner (key : String) (e : Embedding) :
    (e.joinInner key).isInner = (e.isInner || e.key == key) := by
  unfold isInner
  show (e.hint? == some "inner" || (if e.key = key then Join.inner else e.join) == .inner) = _
  by_cases h : e.key = key <;> simp [h]

namespace Relation

def joinInner (key : String) (r : Relation) : Relation := r.map (Embedding.joinInner key)

variable {key : String}

/-- What is true of all embeddings, however they are joined, stays so. -/
theorem forall_mem_embeddingsOf_joinInner (key : String) {P : Embedding → Prop} (hP : ∀ e, P e → P (e.joinInner key))
    {rs : List Relation} (h : ∀ e ∈ embeddingsOf rs, P e) : ∀ e ∈ embeddingsOf (rs.map (joinInner key)), P e := by
  induction rs with
  | nil => exact h
  | cons r rs ih =>
    obtain ⟨e, cs⟩ := r
    rw [embeddingsOf, embeddings] at h
    obtain ⟨hfirst, hrest⟩ := List.forall_mem_append.mp h
    obtain ⟨he, hcs⟩ := List.forall_mem_cons.mp hfirst
    exact List.forall_mem_append.mpr ⟨List.forall_mem_cons.mpr ⟨hP e he, hcs⟩, ih hrest⟩

theorem faults?_joinInner (rs : List Relation) : faults? (rs.map (joinInner key)) = faults? rs := by
  induction rs with
  | nil => rfl
  | cons r rs ih =>
    obtain ⟨e, cs⟩ := r
    rw [List.map_cons, faults?, faults?, ih]
    rfl

theorem hoistAll_joinInner (parent : String) (rs : List Relation) :
    hoistAll parent (rs.map (joinInner key)) = hoistAll parent rs := by
  induction rs with
  | nil => rfl
  | cons r rs ih =>
    obtain ⟨e, cs⟩ := r
    rw [List.map_cons, hoistAll, hoistAll, ih]
    rfl

theorem resourcesFrom_joinInner (known : List String) (rs : List Relation) :
    resourcesFrom known (rs.map (joinInner key)) = resourcesFrom known rs := by
  induction rs generalizing known with
  | nil => rfl
  | cons r rs ih =>
    obtain ⟨e, cs⟩ := r
    rw [List.map_cons, resourcesFrom, resourcesFrom, ih]
    rfl

end Relation

/-! ### Levels -/

namespace Select

/-- The level of a relation that is joined so. -/
def Level.joinInner (key : String) : Level → Level
  | .node e items children => .node (e.joinInner key) items children

variable {key : String}

theorem Level.ofRelations_joinInner (rs : List Relation) :
    ofRelations (rs.map (Relation.joinInner key)) = (ofRelations rs).map (joinInner key) := by
  induction rs with
  | nil => rfl
  | cons r rs ih =>
    obtain ⟨e, cs⟩ := r
    rw [List.map_cons, ofRelations, ofRelations, ih]
    rfl

theorem fillAll_joinInner (items : List SelectItem) (path : List String) (rs : List Relation) :
    fillAll items path (rs.map (Relation.joinInner key)) = (fillAll items path rs).map (Level.joinInner key) := by
  induction rs with
  | nil => rfl
  | cons r rs ih =>
    obtain ⟨e, cs⟩ := r
    rw [List.map_cons, fillAll, fillAll, ih]
    rfl

theorem modifyFirst?_map {α : Type} {p : α → Bool} {f : α → Option α} {g : α → α} (hp : ∀ x, p (g x) = p x)
    (hf : ∀ x, f (g x) = (f x).map g) (xs : List α) :
    modifyFirst? p f (xs.map g) = (modifyFirst? p f xs).map (List.map g) := by
  induction xs with
  | nil => rfl
  | cons x xs ih =>
    rw [List.map_cons, modifyFirst?, modifyFirst?, hp, hf, ih]
    split
    · cases f x <;> rfl
    · cases modifyFirst? p f xs <;> rfl

/-- An item is placed alike however the relations are joined. -/
theorem placeBelow_joinInner (item : SelectItem) (path : List String) (ls : List Level) :
    placeBelow item path (ls.map (Level.joinInner key)) =
      (placeBelow item path ls).map (List.map (Level.joinInner key)) := by
  have hkey (k : String) (l : Level) : ((l.joinInner key).key == k) = (l.key == k) := by
    cases l
    rfl
  match path with
  | [] => rfl
  | [k] => exact modifyFirst?_map (hkey k) (fun | .node _ _ _ => rfl) ls
  | k :: k' :: rest =>
    refine modifyFirst?_map (hkey k) (fun l => ?_) ls
    obtain ⟨e, items, below⟩ := l
    show (placeBelow item (k' :: rest) below).map _ = ((placeBelow item (k' :: rest) below).map _).map _
    rw [Option.map_map]
    rfl

def Root.joinInner (key : String) (root : Root) : Root := { root with levels := root.levels.map (Level.joinInner key) }

theorem foldlM_place_joinInner (key : String) {items : List SelectItem} {root root' : Root}
    (h : items.foldlM Root.place root = .ok root') :
    items.foldlM Root.place (root.joinInner key) = .ok (root'.joinInner key) := by
  induction items generalizing root with
  | nil => exact Except.ok.inj h ▸ rfl
  | cons item items ih =>
    rw [List.foldlM_cons] at h ⊢
    obtain ⟨next, hnext, h⟩ := Chained.bind_eq_ok.mp h
    refine Chained.bind_eq_ok.mpr ⟨next.joinInner key, ?_, ih h⟩
    refine place_eq_ok.mpr ((place_eq_ok.mp hnext).imp ?_ ?_)
    · rintro ⟨hroot, rfl⟩
      exact ⟨hroot, rfl⟩
    · rintro ⟨hbelow, levels, hplaced, rfl⟩
      refine ⟨hbelow, levels.map (Level.joinInner key), ?_, rfl⟩
      exact (placeBelow_joinInner item item.path root.levels).trans (by rw [hplaced]; rfl)

theorem exists_renderLevels_joinInner (key : String) {ls : List Level} {seen texts : List String}
    (h : renderLevels seen ls = .ok texts) :
    ∃ texts', renderLevels seen (ls.map (Level.joinInner key)) = .ok texts' := by
  induction ls generalizing seen texts with
  | nil => exact ⟨texts, h⟩
  | cons l ls ih =>
    obtain ⟨e, items, children⟩ := l
    rw [renderLevels] at h
    obtain ⟨seen', hseen, h⟩ := Chained.bind_eq_ok.mp h
    obtain ⟨inner, hinner, h⟩ := Chained.bind_eq_ok.mp h
    obtain ⟨others, hothers, h⟩ := Chained.bind_eq_ok.mp h
    obtain ⟨others', hothers'⟩ := ih hothers
    rw [List.map_cons, Level.joinInner, renderLevels]
    exact ⟨_, Chained.bind_eq_ok.mpr ⟨seen', hseen, Chained.bind_eq_ok.mpr ⟨inner, hinner,
      Chained.bind_eq_ok.mpr ⟨others', hothers', rfl⟩⟩⟩⟩

theorem exists_text_of_compile {items : List SelectItem} {rs : List Relation} {select : Option String}
    (h : compile items rs = .ok select) (hne : rs ≠ []) : ∃ text, select = some text := by
  have hsome : ¬(items.isEmpty && rs.isEmpty) = true := by simp [hne]
  unfold compile at h
  rw [if_neg hsome] at h
  obtain ⟨_, -, h⟩ := Chained.bind_eq_ok.mp h
  obtain ⟨_, -, h⟩ := Chained.bind_eq_ok.mp h
  exact ⟨_, (Except.ok.inj h).symm⟩

/-- A selection compiles however its relations are joined. -/
theorem exists_compile_joinInner (key : String) {items : List SelectItem} {rs : List Relation} {text : String}
    (h : compile items rs = .ok (some text)) :
    ∃ text', compile items (rs.map (Relation.joinInner key)) = .ok (some text') := by
  unfold compile at h ⊢
  rw [List.isEmpty_map]
  split at h
  · exact nomatch h
  · next hsome =>
    obtain ⟨root, hroot, h⟩ := Chained.bind_eq_ok.mp h
    obtain ⟨parts, hparts, h⟩ := Chained.bind_eq_ok.mp h
    rw [renderLevel] at hparts
    obtain ⟨seen, hseen, hparts⟩ := Chained.bind_eq_ok.mp hparts
    obtain ⟨texts, htexts, hparts⟩ := Chained.bind_eq_ok.mp hparts
    obtain ⟨texts', htexts'⟩ := exists_renderLevels_joinInner key htexts
    have hroot' := foldlM_place_joinInner key hroot
    rw [if_neg hsome, Level.ofRelations_joinInner]
    refine ⟨_, Chained.bind_eq_ok.mpr ⟨_, hroot', Chained.bind_eq_ok.mpr ⟨root.items.map SelectItem.render ++ texts',
      ?_, rfl⟩⟩⟩
    rw [renderLevel]
    exact Chained.bind_eq_ok.mpr ⟨seen, hseen, Chained.bind_eq_ok.mpr ⟨texts', htexts', rfl⟩⟩

end Select

/-! ### Readings -/

/-- The resource, an inner one if its rows appear under the key. -/
def Server.Projection.joinInner (key : String) : Projection → Projection
  | .embed k child hint inner items => .embed k child hint (inner || k == key) items
  | .star => .star
  | .column k name cast => .column k name cast

namespace Select
variable {key : String}

theorem Level.readAll_joinInner (ls : List Level) :
    readAll (ls.map (joinInner key)) = (readAll ls).map (List.map (Projection.joinInner key)) := by
  induction ls with
  | nil => rfl
  | cons l ls ih =>
    obtain ⟨e, items, children⟩ := l
    rw [List.map_cons, joinInner, readAll, readAll, ih, read, read, Embedding.isInner_joinInner]
    cases readItems items with
    | error f => rfl
    | ok own =>
      cases readAll children with
      | error f => rfl
      | ok below => cases readAll ls <;> rfl

end Select

/-- What is read of the relation is a resource under its key. -/
def Relation.IsReadAs (r : Relation) (p : Projection) : Prop :=
  ∃ child hint inner items, p = .embed r.key child hint inner items

namespace Select
variable {key : String}

theorem forall₂_readAll {items : List SelectItem} {path : List String} {rs : List Relation} {ps : List Projection}
    (h : Level.readAll (fillAll items path rs) = .ok ps) : List.Forall₂ Relation.IsReadAs rs ps :=
  (forall₂_readAll_fillAll h).imp fun _ _ ⟨content, hp⟩ => ⟨_, _, _, content, hp⟩

theorem joinInner_of_ne {r : Relation} {p : Projection} (h : r.IsReadAs p) (hne : r.key ≠ key) :
    p.joinInner key = p ∧ ∃ k, p.key? = some k ∧ key ≠ k := by
  obtain ⟨child, hint, inner, items, rfl⟩ := h
  exact ⟨by simp [Projection.joinInner, hne], r.key, rfl, hne.symm⟩

theorem forall_joinInner_of_ne {rs : List Relation} {ps : List Projection} (h : List.Forall₂ Relation.IsReadAs rs ps)
    (hne : ∀ r ∈ rs, r.key ≠ key) : ∀ p ∈ ps, p.joinInner key = p ∧ ∃ k, p.key? = some k ∧ key ≠ k := by
  induction h with
  | nil => exact fun _ hp => nomatch hp
  | cons hp _ ih =>
    obtain ⟨hr, hrs⟩ := List.forall_mem_cons.mp hne
    exact List.forall_mem_cons.mpr ⟨joinInner_of_ne hp hr, ih hrs⟩

/-- Of resources under keys of their own one has the key, and it is the one that changes. -/
theorem exists_joinInner {rs : List Relation} {ps : List Projection} (h : List.Forall₂ Relation.IsReadAs rs ps)
    (hdistinct : Relation.AllKeysDistinct rs) (hkey : ∃ r ∈ rs, r.key = key) :
    ∃ before child hint inner items after, ps = before ++ .embed key child hint inner items :: after ∧
      ps.map (Projection.joinInner key) = before ++ .embed key child hint true items :: after ∧
      ∀ p ∈ after, ∃ k, p.key? = some k ∧ key ≠ k := by
  induction h with
  | nil =>
    obtain ⟨_, hmem, -⟩ := hkey
    exact nomatch hmem
  | @cons r p rs ps hp hps ih =>
    obtain ⟨hne, -, hrest⟩ := hdistinct
    by_cases hr : r.key = key
    · subst hr
      have hafter := forall_joinInner_of_ne hps hne
      obtain ⟨child, hint, inner, items, rfl⟩ := hp
      refine ⟨[], child, hint, inner, items, ps, rfl, ?_, fun p hp => (hafter p hp).2⟩
      rw [List.map_cons, List.map_congr_left fun p hp => (hafter p hp).1, List.map_id']
      simp [Projection.joinInner]
    · have hkey' : ∃ r ∈ rs, r.key = key := by
        obtain ⟨r', hmem, hr'⟩ := hkey
        rcases List.mem_cons.mp hmem with rfl | hmem
        · exact absurd hr' hr
        · exact ⟨r', hmem, hr'⟩
      obtain ⟨before, child, hint, inner, items, after, rfl, hmap, hafter⟩ := ih hrest hkey'
      refine ⟨p :: before, child, hint, inner, items, after, rfl, ?_, hafter⟩
      rw [List.map_cons, hmap, (joinInner_of_ne hp hr).1]
      rfl

/-- **One mark changes.** Of a selection with a relation made inner the server reads the same items, but for the
one resource. -/
theorem parseSelect_joinInner {items : List SelectItem} {relations : List Relation} {text text' : String}
    {ps : List Projection} (hitems : ∀ i ∈ items, Text.Nested.IsClosed i.render.toList)
    (hrelations : ∀ e ∈ Relation.embeddingsOf relations, e.IsNamed ∧ ∀ c ∈ e.columns, Text.Nested.IsClosed c.toList)
    (h : compile items relations = .ok (some text))
    (h' : compile items (relations.map (Relation.joinInner key)) = .ok (some text'))
    (hkey : ∃ r ∈ relations, r.key = key) (hread : parseSelect text.toList = .ok ps) :
    ∃ before child hint inner items after, ps = before ++ .embed key child hint inner items :: after ∧
      parseSelect text'.toList = .ok (before ++ .embed key child hint true items :: after) ∧
      ∀ p ∈ after, ∃ k, p.key? = some k ∧ key ≠ k := by
  have hrelations' := Relation.forall_mem_embeddingsOf_joinInner key
    (fun e he => ⟨⟨he.1.name, he.1.alias?, he.1.hint?⟩, he.2⟩) hrelations
  obtain ⟨own, below, hown, hbelow, rfl⟩ := readings_of_compile hitems hrelations h hread
  rw [parseSelect_of_compile hitems hrelations' h', fillAll_joinInner, Level.readAll_joinInner]
  obtain ⟨before, child, hint, inner, items, after, rfl, hmap, hafter⟩ :=
    exists_joinInner (forall₂_readAll hbelow) (text_of_compile h).1 hkey
  refine ⟨own ++ before, child, hint, inner, items, after, (List.append_assoc ..).symm, ?_, hafter⟩
  rw [hown, hbelow]
  show Except.ok (own ++ List.map (Projection.joinInner key) _) = _
  rw [hmap, List.append_assoc]

end Select

/-! ### Names of parameters -/

/-- The filter is a test of the column, negated or not. -/
def Filter.Tests (column : String) : Filter → Prop
  | .leaf l => l.column = column
  | .group _ _ => False
  | .not f => f.Tests column

theorem Filter.name_of_paramAs {path name value : String} (f : Filter) {negated : Bool}
    (h : f.paramAs path negated = .ok (name, value)) :
    ∃ last, name = path ++ last ∧ (f.Tests last ∨ last ∈ ["or", "and", "not.or", "not.and"]) := by
  cases f with
  | leaf l =>
    obtain ⟨t, -, h⟩ := Chained.bind_eq_ok.mp h
    obtain ⟨rfl, -⟩ := Prod.mk.inj (Except.ok.inj h)
    exact ⟨l.column, rfl, .inl rfl⟩
  | group j members =>
    obtain ⟨body, -, h⟩ := Chained.bind_eq_ok.mp h
    obtain ⟨rfl, -⟩ := Prod.mk.inj (Except.ok.inj h)
    refine ⟨notWord negated ++ j.name, String.append_assoc .., .inr ?_⟩
    cases negated <;> cases j <;> decide
  | not f =>
    rw [paramAs] at h
    exact name_of_paramAs f h
termination_by structural f

theorem Filter.name_of_mem_params {path : String} {fs : List Filter} {params : List Param}
    (h : Filter.params path fs = .ok params) : ∀ param ∈ params, ∃ f ∈ fs, ∃ last, param.1 = path ++ last ∧
      (f.Tests last ∨ last ∈ ["or", "and", "not.or", "not.and"]) := by
  have hall := Chained.mapM_eq_ok.mp h
  clear h
  induction hall with
  | nil => exact List.forall_mem_nil _
  | @cons f param fs params hparam _ ih =>
    obtain ⟨last, hlast⟩ := name_of_paramAs f hparam
    refine List.forall_mem_cons.mpr ⟨⟨f, List.mem_cons_self, last, hlast⟩, fun param hmem => ?_⟩
    obtain ⟨f', hf', hlast'⟩ := ih param hmem
    exact ⟨f', List.mem_cons_of_mem _ hf', hlast'⟩

namespace Relation

mutual

/-- The name of a relation's parameter starts with the relation's key and a dot. -/
theorem name_of_hoistOne {parent : String} (r : Relation) {params : List Param}
    (h : hoistOne parent r = .ok params) : ∀ param ∈ params, ∃ last, param.1 = parent ++ r.key ++ "." ++ last := by
  cases r with
  | node e cs =>
    obtain ⟨filters, below, hfilters, hbelow, rfl⟩ := of_hoistOne_node h
    simp only [List.forall_mem_append]
    refine ⟨⟨fun param hmem => ?_, fun param hmem => ?_⟩, fun param hmem => ?_⟩
    · obtain ⟨_, -, last, hlast, -⟩ := Filter.name_of_mem_params hfilters param hmem
      exact ⟨last, hlast⟩
    · obtain ⟨word, -, hname⟩ := name_of_ownParams param hmem
      exact ⟨word, hname⟩
    · obtain ⟨c, -, last, hlast⟩ := name_of_hoistAll cs hbelow param hmem
      exact ⟨c.key ++ "." ++ last, by rw [hlast]; simp only [String.append_assoc]; rfl⟩
termination_by structural r

theorem name_of_hoistAll {parent : String} (rs : List Relation) {params : List Param}
    (h : hoistAll parent rs = .ok params) :
    ∀ param ∈ params, ∃ r ∈ rs, ∃ last, param.1 = parent ++ r.key ++ "." ++ last := by
  cases rs with
  | nil =>
    obtain rfl := Except.ok.inj h
    exact fun _ hmem => nomatch hmem
  | cons r rs =>
    obtain ⟨first, others, hfirst, hothers, rfl⟩ := of_hoistAll_cons h
    refine List.forall_mem_append.mpr ⟨fun param hmem => ?_, fun param hmem => ?_⟩
    · exact ⟨r, List.mem_cons_self, name_of_hoistOne r hfirst param hmem⟩
    · obtain ⟨r', hr', hlast⟩ := name_of_hoistAll rs hothers param hmem
      exact ⟨r', List.mem_cons_of_mem _ hr', hlast⟩
termination_by structural rs

end

end Relation

/-! ### Queries -/

namespace Query
variable {q : Query} {mode : Mode} {r : Request} {key : String}

/-- The query with the relation inner whose rows appear under the key. -/
def joinInner (key : String) (q : Query) : Query :=
  { q with relations := q.relations.map (Relation.joinInner key) }

/-- Without pagination only a filter on the column `select` makes a second parameter of that name. -/
theorem ne_select_of_params {filters hoisted : List Param} (hfilters : Filter.params "" q.filters = .ok filters)
    (hhoist : Relation.hoist q.relations = .ok hoisted) (hnames : ∀ f ∈ q.filters, ¬f.Tests "select")
    (order : Option String) :
    ∀ param ∈ filters ++ hoisted ++ order.toList.map fun o => ("order", o), param.1 ≠ "select" := by
  simp only [List.forall_mem_append]
  refine ⟨⟨fun param hmem heq => ?_, fun param hmem heq => ?_⟩, ?_⟩
  · obtain ⟨f, hf, last, hlast, htests⟩ := Filter.name_of_mem_params hfilters param hmem
    rw [String.empty_append] at hlast
    rcases htests with htests | hword
    · exact hnames f hf (hlast.symm.trans heq ▸ htests)
    · exact absurd (hlast.symm.trans heq ▸ hword) (by decide)
  · obtain ⟨_, -, last, hlast⟩ := Relation.name_of_hoistAll q.relations hhoist param hmem
    have hdot : '.' ∈ "select".toList := by
      rw [← heq, hlast]
      simp
    exact absurd hdot (by decide)
  · cases order with
    | none => exact fun _ hmem => nomatch hmem
    | some keys =>
      have hword : "order" ≠ "select" := by decide
      exact List.forall_mem_singleton.mpr hword

/-- **A query with a relation made inner** compiles into the same request but for the selection. -/
theorem compileAs_joinInner (key : String) (h : q.compileAs mode = .ok r) (hnone : q.pagination = none)
    (hne : q.relations ≠ []) (hnames : ∀ f ∈ q.filters, ¬f.Tests "select") :
    ∃ text text' rest, Select.compile q.select q.relations = .ok (some text) ∧
      Select.compile q.select (q.joinInner key).relations = .ok (some text') ∧
      r.params = ("select", text) :: rest ∧ (∀ param ∈ rest, param.1 ≠ "select") ∧
      (q.joinInner key).compileAs mode = .ok { r with params := ("select", text') :: rest } := by
  obtain ⟨hfault, htable, hhead, hfaults, select, filters, w, cursor, hoisted, hselect, hfilters, hwindow, hcursor,
    hhoist, rfl⟩ := parts_of_compileAs h
  obtain ⟨text, rfl⟩ := Select.exists_text_of_compile hselect hne
  obtain ⟨text', hselect'⟩ := Select.exists_compile_joinInner key hselect
  have hcompiled := compileAs_of_parts (q := q.joinInner key) hfault htable hhead
    ((Relation.faults?_joinInner q.relations).trans hfaults) hselect' hfilters hwindow hcursor
    ((Relation.hoistAll_joinInner "" q.relations).trans hhoist)
  have htables : (q.joinInner key).tables = q.tables := Relation.resourcesFrom_joinInner [q.table] q.relations
  refine ⟨text, text', _, hselect, hselect', rfl, ?_, ?_⟩
  · rw [renderedPagination, hnone] at hwindow
    obtain rfl := Except.ok.inj hwindow
    obtain rfl : [] = cursor := Except.ok.inj hcursor
    simpa [Pagination.Rendered.empty] using ne_select_of_params hfilters hhoist hnames
      (SortKey.renderAll? q.order)
  · rw [hcompiled, htables]
    rfl

end Query
end TableQuery
