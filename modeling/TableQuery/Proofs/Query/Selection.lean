import Mathlib
import TableQuery.Proofs.Query.Levels

/-! Selections of plain columns, read back.

What is asked of a resource is every column, or one by name with a cast and an alias where they are wanted
(`Wanted`). From the items of a query and its relations a tree is laid out (`selectionsOf`): on each level
the resource's own columns and the items with its path, then one resource for each relation below.
`parseSelect_compiled` shows that this is the tree the server reads. -/
namespace TableQuery
open Server

/-- What is asked of one resource. -/
inductive Wanted where
  | all
  | column (name : String) (cast? alias? : Option String)
deriving Repr, DecidableEq

/-- What is asked of the resource at a path. -/
structure Asked where
  path : List String
  wanted : Wanted
deriving Repr, DecidableEq

namespace Wanted

def named (name : String) : Wanted := .column name none none

def castText : Option String → String
  | some c => "::" ++ c
  | none => ""

/-- It as an item of a query. -/
def item (path : List String) : Wanted → SelectItem
  | .all => ⟨"*", none, path⟩
  | .column name cast? alias? => ⟨name ++ castText cast?, alias?, path⟩

/-- It as the server knows it. -/
def projection : Wanted → Projection
  | .all => .star
  | .column name cast? alias? => .column (alias?.getD name) name cast?

/-- A name, a cast and an alias that are identifiers, where they are given. -/
def IsNamed : Wanted → Prop
  | .all => True
  | .column name cast? alias? =>
    isIdentifier name = true ∧ (∀ c, cast? = some c → isIdentifier c = true) ∧
      ∀ a, alias? = some a → isIdentifier a = true

instance (w : Wanted) : Decidable w.IsNamed :=
  match w with
  | .all => .isTrue trivial
  | .column _ _ _ => inferInstanceAs (Decidable (_ ∧ _ ∧ _))

/-! ### One item -/

/-- An alias with its mark, before the name. -/
def headText (name : String) : Option String → List Char
  | some a => a.toList ++ ':' :: name.toList
  | none => name.toList

/-- The text of a column. -/
def columnText (name : String) (cast? alias? : Option String) : List Char :=
  headText name alias? ++ (castText cast?).toList

theorem toList_render_column (name : String) (cast? alias? : Option String) (path : List String) :
    (item path (.column name cast? alias?)).render.toList = columnText name cast? alias? := by
  cases alias? <;> simp [item, SelectItem.render, columnText, headText]

theorem colon_not_mem {name : String} (h : isIdentifier name = true) : ':' ∉ name.toList :=
  not_mem_of_isIdentifier h (by decide)

variable {name : String} {cast? alias? : Option String}

theorem toList_render_all (path : List String) : (item path .all).render.toList = ['*'] := by
  simp [item, SelectItem.render]

theorem mem_columnText (h : IsNamed (.column name cast? alias?)) :
    ∀ c ∈ columnText name cast? alias?, isIdentifierPart c = true ∨ c = ':' := by
  obtain ⟨hname, hcast, halias⟩ := h
  refine List.forall_mem_append.mpr ⟨?_, ?_⟩
  · cases alias? with
    | none => exact fun c hc => .inl (all_isIdentifierPart hname c hc)
    | some a =>
      exact List.forall_mem_append.mpr ⟨fun c hc => .inl (all_isIdentifierPart (halias a rfl) c hc),
        List.forall_mem_cons.mpr ⟨.inr rfl, fun c hc => .inl (all_isIdentifierPart hname c hc)⟩⟩
  · cases cast? with
    | none => exact fun c hc => nomatch hc
    | some type =>
      rw [castText, String.toList_append]
      exact List.forall_mem_append.mpr ⟨fun c hc => .inr (by simpa using hc),
        fun c hc => .inl (all_isIdentifierPart (hcast type rfl) c hc)⟩

theorem safe_columnText (h : IsNamed (.column name cast? alias?)) :
    ∀ c ∈ columnText name cast? alias?,
      Text.Nested.isSafe c = true ∧ Text.isBlank c = false := by
  intro c hc
  rcases mem_columnText h c hc with hpart | rfl
  · exact ⟨isSafe_of_isIdentifierPart hpart, not_isBlank_of_isIdentifierPart hpart⟩
  · decide

theorem columnText_ne_nil (h : IsNamed (.column name cast? alias?)) : columnText name cast? alias? ≠ [] := by
  have hname := ne_nil_of_isIdentifierText h.1
  cases alias? <;> simp [columnText, headText, hname]

/-- The one colon of an alias is not taken for the two of a cast. -/
theorem cutOn_headText (hname : isIdentifier name = true)
    (halias : ∀ a, alias? = some a → isIdentifier a = true) (rest : List Char) :
    Text.cutOn [':', ':'] (headText name alias? ++ rest) =
      (Text.cutOn [':', ':'] rest).map fun r => (headText name alias? ++ r.1, r.2) := by
  have hplain := Text.cutOn_append_of_not_mem (colon_not_mem hname) [':'] rest
  cases alias? with
  | none => exact hplain
  | some a =>
    obtain ⟨c, cs, hcs⟩ := List.exists_cons_of_ne_nil (ne_nil_of_isIdentifierText hname)
    have hc : ':' ≠ c := by
      rintro rfl
      exact colon_not_mem hname (hcs ▸ List.mem_cons_self)
    rw [headText, List.append_assoc, Text.cutOn_append_of_not_mem (colon_not_mem (halias a rfl)),
      List.cons_append]
    rw [hcs, List.cons_append] at hplain ⊢
    have hword : [':', ':'].isPrefixOf? (':' :: c :: (cs ++ rest)) = none := by
      show (if ':' == c then [].isPrefixOf? (cs ++ rest) else none) = none
      rw [if_neg (by simpa using hc)]
    rw [Text.cutOn, hword, hplain]
    simp [Function.comp_def]

theorem cutOn_castText (cast? : Option String) :
    Text.cutOn [':', ':'] (castText cast?).toList = cast?.map fun c => ([], c.toList) := by
  cases cast? with
  | none => rfl
  | some c =>
    have htext : (castText (some c)).toList = ':' :: ':' :: c.toList := by simp [castText]
    rw [htext]
    rfl

/-- What stands before the cast is a key and a column, or a column alone. -/
theorem cut_headText (hname : isIdentifier name = true)
    (halias : ∀ a, alias? = some a → isIdentifier a = true) :
    Text.cut ':' (headText name alias?) = alias?.map fun a => (a.toList, name.toList) := by
  cases alias? with
  | none => exact Text.cut_of_not_mem (colon_not_mem hname)
  | some a => exact Text.cut_append (colon_not_mem (halias a rfl)) _

theorem parseColumn_columnText (h : IsNamed (.column name cast? alias?)) :
    parseColumn (columnText name cast? alias?) =
      .ok (.column (alias?.getD name) name cast?) := by
  obtain ⟨hname, -, halias⟩ := h
  have hne : name ≠ "" := by
    rintro rfl
    exact nomatch hname
  have hcut := cut_headText hname halias
  unfold parseColumn columnText
  rw [cutOn_headText hname halias, cutOn_castText]
  cases alias? with
  | none =>
    replace hcut : Text.cut ':' name.toList = none := hcut
    cases cast? <;> simp [headText, castText, hcut, hne]
  | some a =>
    replace hcut : Text.cut ':' (a.toList ++ ':' :: name.toList) = some (a.toList, name.toList) := hcut
    cases cast? <;> simp [headText, castText, hcut, hne]

/-- An item is read alone as what was asked for. -/
theorem parseSelect_item {w : Wanted} (h : w.IsNamed) (path : List String) :
    parseSelect (w.item path).render.toList = .ok [w.projection] := by
  cases w with
  | all =>
    rw [toList_render_all]
    exact parseSelect_star
  | column name cast? alias? =>
    have hpart := Text.Nested.isPart_of_safe (columnText_ne_nil h) (safe_columnText h)
    have hstar : columnText name cast? alias? ≠ ['*'] := by
      intro heq
      have hmem := mem_columnText h '*' (heq ▸ List.mem_cons_self)
      exact absurd hmem (by decide)
    have hparen : ¬(columnText name cast? alias?).contains '(' = true := by
      rw [List.contains_iff_mem]
      exact fun hmem => absurd (safe_columnText h '(' hmem).1 (by decide)
    rw [toList_render_column, parseSelect_of_isPart hpart, parseProjection, if_neg hstar, if_neg hparen,
      parseColumn_columnText h]
    rfl

theorem isClosed_item {w : Wanted} (h : w.IsNamed) (path : List String) :
    Text.Nested.IsClosed (w.item path).render.toList := by
  cases w with
  | all =>
    rw [toList_render_all]
    decide
  | column name cast? alias? =>
    rw [toList_render_column]
    exact .of_safe fun c hc => (safe_columnText h c hc).1

end Wanted

/-! ### Levels -/

/-- What is asked of the resource at a path, in its order. -/
def askedAt (asked : List Asked) (path : List String) : List Wanted :=
  (asked.filter fun a => a.path = path).map Asked.wanted

/-- The projections of a level's own columns: everything where there are none. -/
def projections (ws : List Wanted) : List Projection :=
  if ws.isEmpty then [.star] else ws.map Wanted.projection

mutual

/-- The tree of a relation: its own columns, then the items with its path, then the relations below. -/
def selection (asked : List Asked) (path : List String) : Relation → Projection
  | .node e cs =>
    .embed e.key e.name e.hint? (e.join == .inner)
      (projections (e.columns.map Wanted.named ++ askedAt asked (path ++ [e.key])) ++
        selectionsOf asked (path ++ [e.key]) cs)

def selectionsOf (asked : List Asked) (path : List String) : List Relation → List Projection
  | [] => []
  | r :: rs => selection asked path r :: selectionsOf asked path rs

end

/-- The item it makes in a query. -/
def Asked.item (a : Asked) : SelectItem := a.wanted.item a.path

/-- A relation whose name, alias, hint and columns are identifiers, the hint being no way of joining. -/
structure Embedding.IsPlain (e : Embedding) : Prop where
  isNamed : e.IsNamed
  columns : ∀ c ∈ e.columns, isIdentifier c = true
  hint? : e.hint? ≠ some "inner" ∧ e.hint? ≠ some "left"

instance (e : Embedding) : Decidable e.IsPlain :=
  decidable_of_iff (e.IsNamed ∧ (∀ c ∈ e.columns, isIdentifier c = true) ∧
      e.hint? ≠ some "inner" ∧ e.hint? ≠ some "left")
    ⟨fun ⟨hnamed, hcolumns, hhint⟩ => ⟨hnamed, hcolumns, hhint⟩, fun h => ⟨h.isNamed, h.columns, h.hint?⟩⟩

theorem Embedding.IsPlain.keyHint? {e : Embedding} (h : e.IsPlain) : e.keyHint? = e.hint? := by
  obtain ⟨hinner, hleft⟩ := h.hint?
  unfold Embedding.keyHint?
  cases hhint : e.hint? with
  | none => rfl
  | some w =>
    have hw : (w != "inner" && w != "left") = true := by
      rw [hhint] at hinner hleft
      simpa using And.intro hinner hleft
    rw [Option.filter_some, if_pos hw]

theorem Embedding.IsPlain.isInner {e : Embedding} (h : e.IsPlain) : e.isInner = (e.join == .inner) := by
  unfold Embedding.isInner
  rw [beq_eq_false_iff_ne.mpr h.hint?.1, Bool.false_or]

namespace Select

theorem placedAt_item (asked : List Asked) (path : List String) :
    placedAt (asked.map Asked.item) path = (askedAt asked path).map (Wanted.item []) := by
  have hpath (a : Asked) : a.item.path = a.path := by
    cases a with
    | mk path w => cases w <;> rfl
  have hitem (a : Asked) : { a.item with path := [] } = a.wanted.item [] := by
    cases a with
    | mk path w => cases w <;> rfl
  simp only [placedAt, askedAt, List.filter_map, Function.comp_def, hpath, List.map_map, hitem]

theorem readItems_item {ws : List Wanted} (h : ∀ w ∈ ws, w.IsNamed) :
    Level.readItems (ws.map (Wanted.item [])) = .ok (projections ws) := by
  have hread : (ws.mapM fun w => parseSelect (w.item []).render.toList) =
      .ok (ws.map fun w => [w.projection]) := by
    induction ws with
    | nil => rfl
    | cons w ws ih =>
      obtain ⟨hw, hws⟩ := List.forall_mem_cons.mp h
      rw [List.mapM_cons, Wanted.parseSelect_item hw, ih hws]
      rfl
  unfold Level.readItems projections
  rw [List.isEmpty_map]
  split
  · rfl
  · rw [List.mapM_map]
    show ((ws.mapM fun w => parseSelect (w.item []).render.toList).map List.flatten) = _
    rw [hread]
    show Except.ok (ws.map fun w => [w.projection]).flatten = _
    rw [← List.flatMap_def, List.map_eq_flatMap]

theorem isNamed_askedAt {asked : List Asked} (h : ∀ a ∈ asked, a.wanted.IsNamed) (path : List String) :
    ∀ w ∈ askedAt asked path, w.IsNamed :=
  List.forall_mem_map.mpr fun a ha => h a (List.mem_filter.mp ha).1

theorem isNamed_columns {e : Embedding} (h : ∀ c ∈ e.columns, isIdentifier c = true) :
    ∀ w ∈ e.columns.map Wanted.named, w.IsNamed :=
  List.forall_mem_map.mpr fun c hc => ⟨h c hc, (fun _ hcast => nomatch hcast), (fun _ halias => nomatch halias)⟩

/-- The items of a relation's level are its columns and what is asked for there. -/
theorem readItems_level {asked : List Asked} (hasked : ∀ a ∈ asked, a.wanted.IsNamed) {e : Embedding}
    (hcolumns : ∀ c ∈ e.columns, isIdentifier c = true) (path : List String) :
    Level.readItems (e.columns.map SelectItem.column ++ placedAt (asked.map Asked.item) path) =
      .ok (projections (e.columns.map Wanted.named ++ askedAt asked path)) := by
  have hitems : e.columns.map SelectItem.column ++ placedAt (asked.map Asked.item) path =
      (e.columns.map Wanted.named ++ askedAt asked path).map (Wanted.item []) := by
    rw [List.map_append, placedAt_item, List.map_map]
    refine congrArg (· ++ _) (List.map_congr_left fun c _ => ?_)
    show SelectItem.mk c none [] = ⟨c ++ "", none, []⟩
    rw [String.append_empty]
  rw [hitems]
  exact readItems_item
    (List.forall_mem_append.mpr ⟨isNamed_columns hcolumns, isNamed_askedAt hasked path⟩)

mutual

/-- A level is read as the tree laid out for its relation. -/
theorem read_fill {asked : List Asked} (hasked : ∀ a ∈ asked, a.wanted.IsNamed) (path : List String)
    (r : Relation) (h : ∀ e ∈ Relation.embeddings r, e.IsPlain) :
    (fill (asked.map Asked.item) path r).read = .ok (selection asked path r) := by
  cases r with
  | node e cs =>
    rw [Relation.embeddings] at h
    obtain ⟨he, hbelow⟩ := List.forall_mem_cons.mp h
    rw [fill, Level.read, readItems_level hasked he.columns, readAll_fillAll hasked _ cs hbelow, selection,
      he.keyHint?, he.isInner]
    rfl
termination_by structural r

theorem readAll_fillAll {asked : List Asked} (hasked : ∀ a ∈ asked, a.wanted.IsNamed) (path : List String)
    (rs : List Relation) (h : ∀ e ∈ Relation.embeddingsOf rs, e.IsPlain) :
    Level.readAll (fillAll (asked.map Asked.item) path rs) = .ok (selectionsOf asked path rs) := by
  cases rs with
  | nil => rfl
  | cons r rs =>
    rw [Relation.embeddingsOf] at h
    obtain ⟨hr, hrs⟩ := List.forall_mem_append.mp h
    rw [fillAll, Level.readAll, read_fill hasked path r hr, readAll_fillAll hasked path rs hrs]
    rfl
termination_by structural rs

end

mutual

/-- Whatever the hints of relations are, their levels can be read. -/
theorem exists_read_fill {asked : List Asked} (hasked : ∀ a ∈ asked, a.wanted.IsNamed) (path : List String)
    (r : Relation) (h : ∀ e ∈ Relation.embeddings r, ∀ c ∈ e.columns, isIdentifier c = true) :
    ∃ p, (fill (asked.map Asked.item) path r).read = .ok p := by
  cases r with
  | node e cs =>
    rw [Relation.embeddings] at h
    obtain ⟨he, hbelow⟩ := List.forall_mem_cons.mp h
    obtain ⟨ps, hps⟩ := exists_readAll_fillAll hasked (path ++ [e.key]) cs hbelow
    rw [fill, Level.read, readItems_level hasked he, hps]
    exact ⟨_, rfl⟩
termination_by structural r

theorem exists_readAll_fillAll {asked : List Asked} (hasked : ∀ a ∈ asked, a.wanted.IsNamed)
    (path : List String) (rs : List Relation)
    (h : ∀ e ∈ Relation.embeddingsOf rs, ∀ c ∈ e.columns, isIdentifier c = true) :
    ∃ ps, Level.readAll (fillAll (asked.map Asked.item) path rs) = .ok ps := by
  cases rs with
  | nil => exact ⟨[], rfl⟩
  | cons r rs =>
    rw [Relation.embeddingsOf] at h
    obtain ⟨hr, hrs⟩ := List.forall_mem_append.mp h
    obtain ⟨p, hp⟩ := exists_read_fill hasked path r hr
    obtain ⟨ps, hps⟩ := exists_readAll_fillAll hasked path rs hrs
    rw [fillAll, Level.readAll, hp, hps]
    exact ⟨_, rfl⟩
termination_by structural rs

end

theorem isClosed_of_isIdentifier {name : String} (h : isIdentifier name = true) :
    Text.Nested.IsClosed name.toList :=
  .of_safe fun c hc => isSafe_of_isIdentifierPart (all_isIdentifierPart h c hc)

/-- The text of plain columns and named relations is read level by level. -/
theorem parseSelect_of_named {asked : List Asked} {relations : List Relation} {text : String}
    (hasked : ∀ a ∈ asked, a.wanted.IsNamed)
    (hrelations : ∀ e ∈ Relation.embeddingsOf relations, e.IsNamed ∧ ∀ c ∈ e.columns, isIdentifier c = true)
    (h : compile (asked.map Asked.item) relations = .ok (some text)) :
    parseSelect text.toList = (do
      let below ← Level.readAll (fillAll (asked.map Asked.item) [] relations)
      .ok (projections (askedAt asked []) ++ below)) := by
  have hitems : ∀ i ∈ asked.map Asked.item, Text.Nested.IsClosed i.render.toList :=
    List.forall_mem_map.mpr fun a ha => Wanted.isClosed_item (hasked a ha) a.path
  have hclosed : ∀ e ∈ Relation.embeddingsOf relations,
      e.IsNamed ∧ ∀ c ∈ e.columns, Text.Nested.IsClosed c.toList := fun e he =>
    ⟨(hrelations e he).1, fun c hc => isClosed_of_isIdentifier ((hrelations e he).2 c hc)⟩
  rw [parseSelect_of_compile hitems hclosed h, placedAt_item, readItems_item (isNamed_askedAt hasked [])]
  rfl

/-- **Selections read back.** The server reads the compiled text of plain columns and relations as the tree
that was asked for. -/
theorem parseSelect_compiled {asked : List Asked} {relations : List Relation} {text : String}
    (hasked : ∀ a ∈ asked, a.wanted.IsNamed) (hrelations : ∀ e ∈ Relation.embeddingsOf relations, e.IsPlain)
    (h : compile (asked.map Asked.item) relations = .ok (some text)) :
    parseSelect text.toList = .ok (projections (askedAt asked []) ++ selectionsOf asked [] relations) := by
  rw [parseSelect_of_named hasked (fun e he => ⟨(hrelations e he).isNamed, (hrelations e he).columns⟩) h,
    readAll_fillAll hasked [] relations hrelations]
  rfl

/-- Posts with their authors, who are joined by a key of their own. -/
def postsWithAuthors : List Relation :=
  [.node { Embedding.ofName "posts" with join := .inner, columns := ["id"] }
    [.node { Embedding.ofName "users" with alias? := some "author", hint? := some "author_id" } []]]

/-- A column of the authors, and one of the posts. -/
def writerNames : List Asked :=
  [⟨["posts", "author"], .column "name" (some "text") (some "writer")⟩, ⟨["posts"], .named "title"⟩]

theorem writerNames_read_back :
    compile (writerNames.map Asked.item) postsWithAuthors =
        .ok (some "*,posts!inner(id,title,author:users!author_id(writer:name::text))") ∧
      parseSelect "*,posts!inner(id,title,author:users!author_id(writer:name::text))".toList = .ok
        [.star, .embed "posts" "posts" none true [.column "id" "id" none, .column "title" "title" none,
          .embed "author" "users" (some "author_id") false [.column "writer" "name" (some "text")]]] := by
  have hcompile : compile (writerNames.map Asked.item) postsWithAuthors =
      .ok (some "*,posts!inner(id,title,author:users!author_id(writer:name::text))") := by
    cbv
  exact ⟨hcompile, parseSelect_compiled (by decide) (by decide) hcompile⟩

end Select
end TableQuery
