import TableQuery.Proofs.Query.Compile
import TableQuery.Proofs.Query.Selection
import TableQuery.Proofs.Server.Parameters

/-! Parameters of a query, and the resources they reach.

The parameters of all relations stand in one flat list, named by the paths that lead to them. Taken in one
after the other, those of a forest leave at the path of each relation what it asked for and change nothing
elsewhere (`Hoisted`). `hoisted_params_read` says so of a whole query. -/
namespace TableQuery
open Server

/-! ### What is asked for -/

/-- A scope that asks for this much: a condition for each filter, and the order and the window as they
are. -/
structure Server.Scope.Carries (s : Scope) (filters : List Filter) (order : List SortKey)
    (limit offset : Option UInt64) : Prop where
  conditions : Filter.Carried s.conditions filters
  order : s.order = order.map SortKey.term
  limit : s.limit = limit
  offset : s.offset = offset

/-- A relation whose names are identifiers, its key and what it filters by being no words of request
syntax. -/
structure Embedding.IsHoistable (e : Embedding) : Prop where
  isNamed : e.IsNamed
  key : e.key ∉ grammarWords
  columns : ∀ c ∈ e.columns, isIdentifier c = true
  filters : ∀ f ∈ e.filters, f.IsHoistable
  order : ∀ k ∈ e.order, isIdentifier k.column = true

theorem Embedding.IsHoistable.isPath {e : Embedding} (h : e.IsHoistable) :
    isIdentifier e.key = true ∧ e.key ≠ "not" := by
  refine ⟨h.isNamed.key, fun heq => h.key ?_⟩
  rw [heq]
  decide

/-! ### One resource -/

namespace Server.Params

theorem put_own {e : Embedding} {path : List String} {filters : List Param} {p : Params} (hpath : IsPath path)
    (he : e.IsHoistable) (h : Filter.params (namePrefix path) e.filters = .ok filters)
    (hempty : p.scope (dotted path) = .empty) :
    ∃ p' s, p.putAll (filters ++ Relation.ownParams (namePrefix path) e) = .ok p' ∧
      ChangesAt p p' (dotted path) s ∧ s.Carries e.filters e.order e.limit e.offset := by
  obtain ⟨p₁, cs, hp₁, hcs, hfilters⟩ := put_filters p hpath he.filters h
  obtain ⟨p₂, hp₂, horder⟩ := put_order p₁ hpath he.order
  obtain ⟨p₃, hp₃, hwindow⟩ := put_window p₂ hpath e.limit e.offset
  refine ⟨p₃, _, ?_, (hfilters.trans horder).trans hwindow, ?_⟩
  · rw [putAll_append hp₁]
    exact (putAll_append hp₂ _).trans hp₃
  · rw [horder.here, hfilters.here, hempty]
    exact ⟨hcs, List.nil_append _, Option.or_none, Option.or_none⟩

end Server.Params

/-! ### Forests -/

/-- Taking parameters in has left at these places what their relations ask for, and nothing elsewhere. -/
structure Hoisted (p p' : Params) (sites : List (List String × Embedding)) : Prop where
  carried : ∀ site ∈ sites, (p'.scope (dotted site.1)).Carries site.2.filters site.2.order site.2.limit
    site.2.offset
  elsewhere : ∀ other, (∀ site ∈ sites, other ≠ dotted site.1) → p'.scope other = p.scope other

/-- Whether two lists of places have none in common. -/
def Apart (a b : List (List String × Embedding)) : Prop := ∀ s ∈ a, ∀ t ∈ b, dotted s.1 ≠ dotted t.1

theorem Hoisted.append {p p' p'' : Params} {a b : List (List String × Embedding)} (ha : Hoisted p p' a)
    (hb : Hoisted p' p'' b) (hapart : Apart a b) : Hoisted p p'' (a ++ b) where
  carried := by
    refine List.forall_mem_append.mpr ⟨fun site hsite => ?_, hb.carried⟩
    rw [hb.elsewhere _ (hapart site hsite)]
    exact ha.carried site hsite
  elsewhere := fun other hother => by
    obtain ⟨hothera, hotherb⟩ := List.forall_mem_append.mp hother
    rw [hb.elsewhere other hotherb, ha.elsewhere other hothera]

namespace Relation

mutual

theorem isPath_of_mem_sites {path : List String} (hpath : IsPath path) (r : Relation)
    (h : ∀ e ∈ embeddings r, e.IsHoistable) : ∀ site ∈ sites path r, IsPath site.1 := by
  cases r with
  | node e cs =>
    rw [embeddings] at h
    obtain ⟨he, hbelow⟩ := List.forall_mem_cons.mp h
    have hhere := hpath.append he.isPath
    rw [sites]
    exact List.forall_mem_cons.mpr ⟨hhere, isPath_of_mem_sitesOf hhere cs hbelow⟩
termination_by structural r

theorem isPath_of_mem_sitesOf {path : List String} (hpath : IsPath path) (rs : List Relation)
    (h : ∀ e ∈ embeddingsOf rs, e.IsHoistable) : ∀ site ∈ sitesOf path rs, IsPath site.1 := by
  cases rs with
  | nil => exact fun _ hsite => nomatch hsite
  | cons r rs =>
    rw [embeddingsOf] at h
    obtain ⟨hr, hrs⟩ := List.forall_mem_append.mp h
    rw [sitesOf]
    exact List.forall_mem_append.mpr ⟨isPath_of_mem_sites hpath r hr, isPath_of_mem_sitesOf hpath rs hrs⟩
termination_by structural rs

end

/-- Relations beside each other have no places in common. -/
theorem apart_of_keys {path : List String} {r : Relation} {rs : List Relation} (hpath : IsPath path)
    (h : ∀ e ∈ embeddingsOf (r :: rs), e.IsHoistable) (hkeys : ∀ s ∈ rs, s.key ≠ r.key) :
    Apart (sites path r) (sitesOf path rs) := by
  intro s hs t ht heq
  have hsites := isPath_of_mem_sitesOf hpath (r :: rs) h
  rw [sitesOf] at hsites
  obtain ⟨hr, hrs⟩ := List.forall_mem_append.mp hsites
  obtain ⟨r', hr', ht'⟩ := mem_sitesOf.mp ht
  have hfirst := prefix_of_mem_sites r hs
  have hother := prefix_of_mem_sites r' ht'
  rw [dotted_inj (hr s hs) (hrs t ht) heq] at hfirst
  have hsame := (List.prefix_of_prefix_length_le hother hfirst (by simp)).eq_of_length (by simp)
  exact hkeys r' hr' (by simpa using hsame)

/-- A relation does not lie where those below it do. -/
theorem apart_of_below {path : List String} {e : Embedding} {cs : List Relation} (hpath : IsPath path)
    (h : ∀ e' ∈ embeddingsOf cs, e'.IsHoistable) : Apart [(path, e)] (sitesOf path cs) := by
  intro s hs t ht heq
  obtain rfl := List.mem_singleton.mp hs
  obtain ⟨k, hk⟩ := prefix_of_mem_sitesOf cs ht
  rw [← dotted_inj hpath (isPath_of_mem_sitesOf hpath cs h t ht) heq] at hk
  have hlength := hk.length_le
  rw [List.length_append, List.length_singleton] at hlength
  omega

mutual

theorem put_hoistOne (r : Relation) {path : List String} {params : List Param} {p : Params}
    (hpath : IsPath path) (hr : ∀ e ∈ embeddings r, e.IsHoistable) (hkeys : r.KeysDistinct)
    (h : hoistOne (namePrefix path) r = .ok params)
    (hempty : ∀ site ∈ sites path r, p.scope (dotted site.1) = .empty) :
    ∃ p', p.putAll params = .ok p' ∧ Hoisted p p' (sites path r) := by
  cases r with
  | node e cs =>
    rw [embeddings] at hr
    rw [sites] at hempty ⊢
    obtain ⟨he, hcs⟩ := List.forall_mem_cons.mp hr
    obtain ⟨hown, hbelow⟩ := List.forall_mem_cons.mp hempty
    have hhere := hpath.append he.isPath
    obtain ⟨filters, below, hfilters, hhoist, rfl⟩ := of_hoistOne_node h
    rw [← namePrefix_append] at hfilters hhoist ⊢
    obtain ⟨p₁, s, hp₁, hchanges, hcarries⟩ := Params.put_own hhere he hfilters hown
    have hfirst : Hoisted p p₁ [(path ++ [e.key], e)] :=
      ⟨List.forall_mem_singleton.mpr (hchanges.here ▸ hcarries),
        fun other hother => hchanges.elsewhere other (hother _ List.mem_cons_self)⟩
    have hapart := apart_of_below (e := e) hhere hcs
    obtain ⟨p₂, hp₂, hrest⟩ := put_hoistAll cs hhere hcs hkeys hhoist fun site hsite => by
      rw [hchanges.elsewhere _ (hapart _ List.mem_cons_self site hsite).symm]
      exact hbelow site hsite
    exact ⟨p₂, (Params.putAll_append hp₁ below).trans hp₂, hfirst.append hrest hapart⟩
termination_by structural r

theorem put_hoistAll (rs : List Relation) {path : List String} {params : List Param} {p : Params}
    (hpath : IsPath path) (hrs : ∀ e ∈ embeddingsOf rs, e.IsHoistable) (hkeys : AllKeysDistinct rs)
    (h : hoistAll (namePrefix path) rs = .ok params)
    (hempty : ∀ site ∈ sitesOf path rs, p.scope (dotted site.1) = .empty) :
    ∃ p', p.putAll params = .ok p' ∧ Hoisted p p' (sitesOf path rs) := by
  cases rs with
  | nil =>
    rw [hoistAll] at h
    obtain rfl := Except.ok.inj h
    exact ⟨p, rfl, (fun _ hsite => nomatch hsite), fun _ _ => rfl⟩
  | cons r rs =>
    have hapart := apart_of_keys hpath hrs hkeys.1
    rw [embeddingsOf] at hrs
    rw [sitesOf] at hempty ⊢
    obtain ⟨hr, hothers⟩ := List.forall_mem_append.mp hrs
    obtain ⟨hhere, hbeside⟩ := List.forall_mem_append.mp hempty
    obtain ⟨first, others, hfirst, hrest, rfl⟩ := of_hoistAll_cons h
    obtain ⟨p₁, hp₁, hone⟩ := put_hoistOne r hpath hr hkeys.2.1 hfirst hhere
    obtain ⟨p₂, hp₂, hall⟩ := put_hoistAll rs hpath hothers hkeys.2.2 hrest fun site hsite => by
      rw [hone.elsewhere _ fun s hs => (hapart s hs site hsite).symm]
      exact hbeside site hsite
    exact ⟨p₂, (Params.putAll_append hp₁ _).trans hp₂, hone.append hall hapart⟩
termination_by structural rs

end

end Relation

/-! ### Windows and ranges -/

namespace Pagination

/-- The limit of a page, a window or a cursor. -/
def limit? (p : Pagination) : Option UInt64 :=
  match p.normalize with
  | .window _ limit => limit
  | .cursor c => c.limit
  | _ => none

/-- The offset of a page or a window; none if it is zero. -/
def offset? (p : Pagination) : Option UInt64 :=
  match p.normalize with
  | .window offset _ => if offset = 0 then none else some offset
  | _ => none

theorem limitParam_eq (limit : Option UInt64) :
    limitParam limit = limit.toList.map fun n => (namePrefix [] ++ "limit", toString n) := by
  cases limit <;> rfl

theorem offsetParam_eq (offset : UInt64) :
    (if offset > 0 then [("offset", toString offset)] else []) =
      (if offset = 0 then none else some offset).toList.map fun n =>
        (namePrefix [] ++ "offset", toString n) := by
  by_cases h : offset = 0
  · subst h
    rfl
  · rw [if_pos (UInt64.pos_iff_ne_zero.mpr h), if_neg h]
    rfl

theorem params_render {p : Pagination} {order : List SortKey} {w : Rendered} (h : p.render order = .ok w) :
    w.params = Params.windowParams [] p.limit? p.offset? := by
  unfold Params.windowParams
  obtain ⟨_, -, h⟩ := Chained.bind_eq_ok.mp h
  cases p with
  | page number size =>
    obtain rfl := Except.ok.inj h
    exact congrArg₂ (· ++ ·) (limitParam_eq (some size)) (offsetParam_eq _)
  | window offset limit =>
    obtain rfl := Except.ok.inj h
    exact congrArg₂ (· ++ ·) (limitParam_eq limit) (offsetParam_eq offset)
  | range first last =>
    obtain rfl := Except.ok.inj h
    rfl
  | cursor c =>
    simp only at h
    split at h
    · exact nomatch h
    split at h
    · exact nomatch h
    · obtain rfl := Except.ok.inj h
      exact (limitParam_eq c.limit).trans (List.append_nil _).symm

/-- A range that is sent runs forwards. -/
theorem range_of_render {p : Pagination} {order : List SortKey} {w : Rendered} (h : p.render order = .ok w) :
    ∃ range, w.headers = rangeHeaders range ∧ ∀ first last, range = some (first, last) → first ≤ last := by
  obtain ⟨_, hvalid, h⟩ := Chained.bind_eq_ok.mp h
  cases p with
  | page number size => exact ⟨none, Except.ok.inj h ▸ rfl, (fun _ _ hnone => nomatch hnone)⟩
  | window offset limit => exact ⟨none, Except.ok.inj h ▸ rfl, (fun _ _ hnone => nomatch hnone)⟩
  | range first last =>
    refine ⟨some (first, last), Except.ok.inj h ▸ rfl, fun first' last' hsome => ?_⟩
    obtain ⟨rfl, rfl⟩ := Prod.mk.inj (Option.some.inj hsome)
    rw [validate] at hvalid
    split at hvalid
    · exact nomatch hvalid
    · next hlt => exact UInt64.not_lt.mp hlt
  | cursor c =>
    simp only at h
    split at h
    · exact nomatch h
    split at h
    · exact nomatch h
    · exact ⟨none, Except.ok.inj h ▸ rfl, (fun _ _ hnone => nomatch hnone)⟩

end Pagination

/-! ### Cursors -/

/-- A cursor over columns that are no words of request syntax, its values without brackets. -/
structure Cursor.IsHoistable (c : Cursor) : Prop where
  column : IsFreeName c.column
  value : c.value.HasNoBracket
  tiebreaker : ∀ column value, c.tiebreaker = some (column, value) → IsFreeName column ∧ value.HasNoBracket

theorem Filter.isHoistable_test {column : String} {op : Operator} {value : Scalar} (hcolumn : IsFreeName column)
    (hop : op.config? = none) (hvalue : value.HasNoBracket) : (test column op (.one value)).IsHoistable := by
  refine List.forall_mem_singleton.mpr ⟨⟨hcolumn.1, fun config hconfig => ?_, hvalue⟩, hcolumn⟩
  rw [hop] at hconfig
  exact nomatch hconfig

theorem Pagination.isHoistable_after {column : String} {value : Scalar} (hcolumn : IsFreeName column)
    (hvalue : value.HasNoBracket) (direction : Direction) : (after column value direction).IsHoistable := by
  cases direction <;> exact Filter.isHoistable_test hcolumn rfl hvalue

namespace Pagination

theorem isHoistable_cursor {c : Cursor} (hc : c.IsHoistable) (order : List SortKey) :
    (Cursor.filter c order).1.IsHoistable ∧ ∀ k ∈ (Cursor.filter c order).2, isIdentifier k.column = true := by
  have hafter := isHoistable_after hc.column hc.value c.direction
  unfold Cursor.filter
  cases htie : c.tiebreaker with
  | none => exact ⟨hafter, fun _ hk => nomatch hk⟩
  | some tie =>
    obtain ⟨column, value⟩ := tie
    obtain ⟨hcolumn, hvalue⟩ := hc.tiebreaker column value htie
    have heq : (Filter.test c.column .eq (.one c.value)).IsHoistable :=
      Filter.isHoistable_test hc.column rfl hc.value
    have hnext (direction : Direction) : (Filter.group .any [after c.column c.value c.direction,
        .group .all [.test c.column .eq (.one c.value), after column value direction]]).IsHoistable := by
      have hboth := Filter.isHoistable_group (List.forall_mem_cons.mpr ⟨heq,
        List.forall_mem_singleton.mpr (isHoistable_after hcolumn hvalue direction)⟩) .all
      exact Filter.isHoistable_group
        (List.forall_mem_cons.mpr ⟨hafter, List.forall_mem_singleton.mpr hboth⟩) .any
    dsimp only
    cases order.find? fun k => k.column == column with
    | none => exact ⟨hnext c.direction, List.forall_mem_singleton.mpr hcolumn.1⟩
    | some k => exact ⟨hnext k.direction, fun _ hk => nomatch hk⟩

theorem isHoistable_render {p : Pagination} {order : List SortKey} {w : Rendered}
    (hp : ∀ c, p = .cursor c → c.IsHoistable) (h : p.render order = .ok w) :
    (∀ f ∈ w.filter.toList, f.IsHoistable) ∧ ∀ k ∈ w.order, isIdentifier k.column = true := by
  obtain ⟨_, -, h⟩ := Chained.bind_eq_ok.mp h
  cases p with
  | page number size =>
    obtain rfl := Except.ok.inj h
    exact ⟨(fun _ hf => nomatch hf), fun _ hk => nomatch hk⟩
  | window offset limit =>
    obtain rfl := Except.ok.inj h
    exact ⟨(fun _ hf => nomatch hf), fun _ hk => nomatch hk⟩
  | range first last =>
    obtain rfl := Except.ok.inj h
    exact ⟨(fun _ hf => nomatch hf), fun _ hk => nomatch hk⟩
  | cursor c =>
    simp only at h
    split at h
    · exact nomatch h
    split at h
    · exact nomatch h
    · obtain rfl := Except.ok.inj h
      obtain ⟨hfilter, horder⟩ := isHoistable_cursor (hp c rfl) order
      exact ⟨List.forall_mem_singleton.mpr hfilter, horder⟩

end Pagination

/-! ### Queries -/

namespace Query

/-- A query of plain columns, with filters, a cursor and relations that stay away from the words of request
syntax. -/
structure IsHoistable (q : Query) : Prop where
  select : ∃ asked : List Asked, q.select = asked.map Asked.item ∧ ∀ a ∈ asked, a.wanted.IsNamed
  filters : ∀ f ∈ q.filters, f.IsHoistable
  order : ∀ k ∈ q.order, isIdentifier k.column = true
  cursor : ∀ c, q.pagination = some (.cursor c) → c.IsHoistable
  relations : ∀ e ∈ Relation.embeddingsOf q.relations, e.IsHoistable

def limit? (q : Query) : Option UInt64 := q.pagination.bind Pagination.limit?

def offset? (q : Query) : Option UInt64 := q.pagination.bind Pagination.offset?

variable {q : Query} {mode : Mode} {r : Request}

/-- What a query asks for by its pagination, in parameters and a header. -/
theorem of_renderedPagination {w : Pagination.Rendered} (hq : q.IsHoistable) (h : q.renderedPagination = .ok w) :
    (∀ f ∈ w.filter.toList, f.IsHoistable) ∧ (∀ k ∈ w.order, isIdentifier k.column = true) ∧
      w.params = Params.windowParams [] q.limit? q.offset? ∧
      ∃ range, w.headers = rangeHeaders range ∧ ∀ first last, range = some (first, last) → first ≤ last := by
  have hcursor := hq.cursor
  unfold renderedPagination at h
  unfold limit? offset?
  cases hp : q.pagination with
  | none =>
    rw [hp] at h
    obtain rfl := Except.ok.inj h
    exact ⟨(fun _ hf => nomatch hf), (fun _ hk => nomatch hk), rfl, none, rfl, (fun _ _ hnone => nomatch hnone)⟩
  | some p =>
    rw [hp] at h hcursor
    obtain ⟨hfilter, horder⟩ := Pagination.isHoistable_render (fun c hc => hcursor c (hc ▸ rfl)) h
    exact ⟨hfilter, horder, Pagination.params_render h, Pagination.range_of_render h⟩

/-- A range that a compiled query is sent with can be read. -/
theorem readRange?_header {range : Option (UInt64 × UInt64)} {text : String} {schema : Option String}
    {count : Option CountStrategy}
    (hheaders : r.headers = rangeHeaders range ++ schemaHeaders schema ++ countHeaders count)
    (hle : ∀ first last, range = some (first, last) → first ≤ last) (h : r.header? "Range" = some text) :
    ∃ read, Params.readRange? text = some read := by
  have hunit : (asciiLower "Range-Unit" == asciiLower "Range") = false := by decide
  have hschema : (asciiLower "Accept-Profile" == asciiLower "Range") = false := by decide
  have hcount : (asciiLower "Prefer" == asciiLower "Range") = false := by decide
  unfold Request.header? at h
  rw [hheaders] at h
  cases range with
  | none =>
    cases schema <;> cases count <;>
      simp [rangeHeaders, schemaHeaders, countHeaders, hschema, hcount] at h
  | some pair =>
    obtain ⟨first, last⟩ := pair
    obtain rfl : toString first ++ "-" ++ toString last = text := by
      simpa [rangeHeaders, List.find?_cons, hunit] using h
    exact ⟨_, Params.readRange?_render (hle first last rfl)⟩

/-- The selection can be read, and asks nothing of a resource. -/
theorem put_select {asked : List Asked} {select : Option String} (hasked : ∀ a ∈ asked, a.wanted.IsNamed)
    {relations : List Relation} (hrelations : ∀ e ∈ Relation.embeddingsOf relations, e.IsHoistable)
    (h : Select.compile (asked.map Asked.item) relations = .ok select) :
    ∃ p, Params.empty.putAll (select.toList.map fun s => ("select", s)) = .ok p ∧
      ∀ path, p.scope path = .empty := by
  cases select with
  | none => exact ⟨_, rfl, fun _ => rfl⟩
  | some text =>
    obtain ⟨below, hbelow⟩ := Select.exists_readAll_fillAll hasked [] relations
      fun e he => (hrelations e he).columns
    have hread := Select.parseSelect_of_named hasked
      (fun e he => ⟨(hrelations e he).isNamed, (hrelations e he).columns⟩) h
    rw [hbelow] at hread
    refine ⟨{ Params.empty with select := some (projections (askedAt asked []) ++ below) }, ?_, fun _ => rfl⟩
    rw [Option.toList_some, List.map_singleton, Params.putAll_singleton]
    unfold Params.put
    dsimp only
    rw [hread]
    rfl

theorem allKeysDistinct_of_compile {items : List SelectItem} {relations : List Relation} {select : Option String}
    (h : Select.compile items relations = .ok select) : Relation.AllKeysDistinct relations := by
  cases select with
  | some text => exact (Select.text_of_compile h).1
  | none =>
    unfold Select.compile at h
    split at h
    · next hempty =>
      simp only [Bool.and_eq_true, List.isEmpty_iff] at hempty
      rw [hempty.2]
      trivial
    · obtain ⟨_, -, h⟩ := Chained.bind_eq_ok.mp h
      obtain ⟨_, -, h⟩ := Chained.bind_eq_ok.mp h
      exact nomatch h

/-- **Parameters reach their resources.** -/
theorem hoisted_params_read {headers : Http.Headers} (hq : q.IsHoistable) (h : q.compileAs mode = .ok r)
    (hrange : headers.text? "range" = r.header? "Range") :
    ∃ p w, Params.read r.queryString headers = .ok p ∧ q.renderedPagination = .ok w ∧
      (p.scope "").Carries (q.filters ++ w.filter.toList) (q.order ++ w.order) q.limit? q.offset? ∧
      (∀ site ∈ Relation.sitesOf [] q.relations,
        (p.scope (dotted site.1)).Carries site.2.filters site.2.order site.2.limit site.2.offset) ∧
      ∀ path, path ≠ "" → (∀ site ∈ Relation.sitesOf [] q.relations, path ≠ dotted site.1) →
        p.scope path = .empty := by
  obtain ⟨-, -, -, -, select, filters, w, cursor, hoisted, hselect, hfilters, hwindow, hcursor, hhoist, rfl⟩ :=
    parts_of_compileAs h
  obtain ⟨asked, hitems, hasked⟩ := hq.select
  obtain ⟨hwfilter, hworder, hwparams, range, hwheaders, hle⟩ := of_renderedPagination hq hwindow
  have hroot : IsPath [] := fun _ hk => nomatch hk
  have hkeys := allKeysDistinct_of_compile hselect
  have hpaths := Relation.isPath_of_mem_sitesOf hroot q.relations hq.relations
  have hbelow : ∀ site ∈ Relation.sitesOf [] q.relations, dotted site.1 ≠ dotted [] := by
    intro site hsite
    obtain ⟨k, hk⟩ := Relation.prefix_of_mem_sitesOf q.relations hsite
    refine dotted_ne_empty ?_ (hpaths site hsite)
    intro hnil
    rw [hnil] at hk
    simp at hk
  have hall : Filter.params (namePrefix []) (q.filters ++ w.filter.toList) = .ok (filters ++ cursor) := by
    unfold Filter.params at hfilters hcursor ⊢
    rw [List.mapM_append, show namePrefix [] = "" from rfl, hfilters, hcursor]
    rfl
  -- The selection, the filters, the relations, the order and the window, as they stand in the request.
  rw [hitems] at hselect
  obtain ⟨p₁, hp₁, hempty⟩ := put_select hasked hq.relations hselect
  obtain ⟨p₂, cs, hp₂, hcs, hconditions⟩ :=
    Params.put_filters p₁ hroot (List.forall_mem_append.mpr ⟨hq.filters, hwfilter⟩) hall
  obtain ⟨p₃, hp₃, hsites⟩ := Relation.put_hoistAll q.relations hroot hq.relations hkeys hhoist
    fun site hsite => (hconditions.elsewhere _ (hbelow site hsite)).trans (hempty _)
  obtain ⟨p₄, hp₄, horder⟩ :=
    Params.put_order p₃ hroot (List.forall_mem_append.mpr ⟨hq.order, hworder⟩)
  obtain ⟨p₅, hp₅, hwindow'⟩ := Params.put_window p₄ hroot q.limit? q.offset?
  have hfirst :
      Params.empty.putAll ((select.toList.map fun s => ("select", s)) ++ filters ++ cursor) = .ok p₂ := by
    rw [List.append_assoc, Params.putAll_append hp₁, hp₂]
  have hnext := (Params.putAll_append hfirst hoisted).trans hp₃
  have hlast := (Params.putAll_append ((Params.putAll_append hnext _).trans hp₄) _).trans hp₅
  rw [← hwparams] at hlast
  obtain ⟨p, hread, hscopes⟩ := Params.read_of_putAll headers hlast fun text htext =>
    readRange?_header (congrArg (· ++ q.schemaHeader ++ q.countHeader) hwheaders) hle (hrange ▸ htext)
  have hend := horder.trans hwindow'
  refine ⟨p, w, hread, hwindow, ?_, fun site hsite => ?_, fun path hpath hother => ?_⟩
  · have hwas : p₃.scope (dotted []) = p₂.scope (dotted []) :=
      hsites.elsewhere _ fun site hsite => (hbelow site hsite).symm
    rw [hscopes, show "" = dotted [] from rfl, hend.here, horder.here, hwas, hconditions.here, hempty]
    exact ⟨hcs, List.nil_append _, Option.or_none, Option.or_none⟩
  · rw [hscopes, hend.elsewhere _ (hbelow site hsite)]
    exact hsites.carried site hsite
  · rw [hscopes, hend.elsewhere _ hpath, hsites.elsewhere _ hother, hconditions.elsewhere _ hpath, hempty]

/-- The second page of grown-up users, each with three of their named posts and the replies to them. -/
def secondPage : Query :=
  { Query.on "users" with
    select := [.column "name"]
    filters := [Filter.test "age" .gte (.one (.int 18))]
    order := [SortKey.on "name" .asc]
    pagination := some (.page 2 10)
    relations := [
      .node { Embedding.ofName "posts" with
        filters := [.not (.group .any [Filter.isNull "title", Filter.test "title" .eq (.one (.text "a, b"))])]
        limit := some 3 } [
        .node { Embedding.ofName "comments" with
          alias? := some "replies"
          order := [SortKey.on "id" .desc] } []]] }

theorem isHoistable_secondPage : secondPage.IsHoistable where
  select := ⟨[⟨[], .named "name"⟩], rfl, by decide⟩
  filters := List.forall_mem_singleton.mpr
    (Filter.isHoistable_test (by decide) rfl (Scalar.hasNoBracket_of_not_text rfl))
  order := by decide
  cursor := by simp [secondPage]
  relations := by
    have hmissing : (Filter.isNull "title").IsHoistable :=
      Filter.isHoistable_test (by decide) rfl (Scalar.hasNoBracket_of_not_text rfl)
    have hquoted : (Filter.test "title" .eq (.one (.text "a, b"))).IsHoistable :=
      Filter.isHoistable_test (by decide) rfl (fun _ => by simp [Scalar.render])
    have hnamed : (Filter.group .any [Filter.isNull "title",
        Filter.test "title" .eq (.one (.text "a, b"))]).IsHoistable :=
      Filter.isHoistable_group
        (List.forall_mem_cons.mpr ⟨hmissing, List.forall_mem_singleton.mpr hquoted⟩) .any
    refine List.forall_mem_cons.mpr ⟨⟨by decide, by decide, by decide, ?_, by decide⟩,
      List.forall_mem_singleton.mpr ⟨by decide, by decide, by decide, List.forall_mem_nil _, by decide⟩⟩
    exact List.forall_mem_singleton.mpr hnamed

theorem secondPage_read :
    ∃ r p, secondPage.compileAs .many = .ok r ∧ Params.read r.queryString [] = .ok p ∧
      (p.scope "").limit = some 10 ∧ (p.scope "").offset = some 10 ∧ (p.scope "posts").limit = some 3 ∧
      (p.scope "posts.replies").order = [⟨"id", true, true⟩] ∧ p.scope "replies" = .empty := by
  have hselect : Select.compile secondPage.select secondPage.relations =
      .ok (some "name,posts(*,replies:comments(*))") := by
    cbv
  have hhoist : Relation.hoist secondPage.relations = .ok [
      ("posts.not.or", "(title.is.null,title.eq.\"a, b\")"), ("posts.limit", "3"),
      ("posts.replies.order", "id.desc")] := by
    cbv
  have hcompile : ∃ r, secondPage.compileAs .many = .ok r ∧ r.headers = [] := by
    have htable : isIdentifier secondPage.table = true := by decide
    unfold compileAs
    rw [hselect, hhoist, htable]
    exact ⟨_, rfl, rfl⟩
  obtain ⟨r, hr, hheaders⟩ := hcompile
  have hrange : Http.Headers.text? [] "range" = r.header? "Range" := by
    unfold Request.header?
    rw [hheaders]
    rfl
  obtain ⟨p, w, hread, -, hroot, hsites, hother⟩ := hoisted_params_read isHoistable_secondPage hr hrange
  have hposts := hsites _ List.mem_cons_self
  have hreplies := hsites _ (List.mem_cons_of_mem _ List.mem_cons_self)
  exact ⟨r, p, hr, hread, hroot.limit, hroot.offset, hposts.limit, hreplies.order,
    hother "replies" (by decide) (by decide)⟩

end Query
end TableQuery
