import TableQuery.Proofs.Query.Embeds
import TableQuery.Proofs.Query.Outcomes

/-! The keys of what a read returns.

The builder tells the outputs of a level apart by the names it gives to its items and relations; the server goes by
the keys that it reads from their texts. The builder knows an item if it names the item as it would name the key that
the server reads (`SelectItem.IsKnown`); it knows plain columns, but not computed expressions, which the server names.
In a selection that compiles no two known outputs of a place have one key (`Place.nodup_known`), so all keys differ if
and only if those of the unknown items do (`Query.keysDistinct_iff`). -/
namespace TableQuery
open Server

namespace Server.Projection

mutual

/-- On no level below it are two keys the same. -/
def BelowDistinct : Projection → Prop
  | .star => True
  | .column _ _ _ => True
  | .embed _ _ _ _ items => (items.filterMap key?).Nodup ∧ AllBelowDistinct items

def AllBelowDistinct : List Projection → Prop
  | [] => True
  | p :: ps => p.BelowDistinct ∧ AllBelowDistinct ps

end

/-- On no level are two keys the same. -/
def KeysDistinct (ps : List Projection) : Prop := (ps.filterMap key?).Nodup ∧ AllBelowDistinct ps

theorem allBelowDistinct_iff {ps : List Projection} : AllBelowDistinct ps ↔ ∀ p ∈ ps, p.BelowDistinct := by
  induction ps with
  | nil => simp [AllBelowDistinct]
  | cons p ps ih => rw [AllBelowDistinct, ih, List.forall_mem_cons]

end Server.Projection

/-! ### Names and keys -/

namespace SelectItem
open Select.Level (readAlone)

/-- The keys under which the server returns what an item asks for. -/
def keys (i : SelectItem) : List String := (readAlone i.render).filterMap Projection.key?

theorem keys_of_parseSelect {i : SelectItem} {ps : List Projection}
    (h : parseSelect i.render.toList = .ok ps) : i.keys = ps.filterMap Projection.key? := by
  rw [keys, Select.Level.readAlone_of_parseSelect h]

/-- The item has the name that the builder would give to the key that the server reads. -/
def IsKnown (i : SelectItem) : Prop :=
  (i.keys.map fun k => (column k).outputName?) = i.outputName?.toList.map some

instance : DecidablePred IsKnown := fun _ => inferInstanceAs (Decidable (_ = _))

theorem outputName?_named {name : String} (h : isIdentifier name = true) (cast? : Option String)
    (path : List String) :
    (⟨name ++ Wanted.castText cast?, none, path⟩ : SelectItem).outputName? = some name := by
  have hcut : Text.cutOn [':', ':'] (name ++ Wanted.castText cast?).toList =
      cast?.map fun c => (name.toList, c.toList) := by
    rw [String.toList_append, Text.cutOn_append_of_not_mem (Wanted.colon_not_mem h), Wanted.cutOn_castText]
    cases cast? <;> simp
  have hlast : Text.afterLast ['-', '>'] name.toList = name.toList := by
    have hmark : '>' ∉ name.toList.reverse := by
      rw [List.mem_reverse]
      exact not_mem_of_isIdentifier h (by decide)
    have hnone := Text.cutOn_append_of_not_mem hmark ['-'] []
    rw [List.append_nil] at hnone
    unfold Text.afterLast
    rw [show ['-', '>'].reverse = ['>', '-'] from rfl, hnone]
    rfl
  have hmark : ∀ c ∈ name.toList, (c == '>') = false ∧ isQuote c = false := by
    intro c hc
    have hne (d : Char) (hd : isIdentifierPart d = false) : (c == d) = false :=
      beq_eq_false_iff_ne.mpr (ne_of_isIdentifierPart (all_isIdentifierPart h c hc) hd)
    exact ⟨hne '>' (by decide), by rw [isQuote, hne '\'' (by decide), hne '"' (by decide)]; rfl⟩
  have hkey : Text.trimWhile isQuote ((Text.afterLast ['-', '>'] name.toList).dropWhile (· == '>')) =
      name.toList := by
    rw [hlast, Text.dropWhile_of_head fun c hc => (hmark c (List.mem_of_head? hc)).1,
      Text.trimWhile_of_ends (fun c hc => (hmark c (List.mem_of_head? hc)).2)
        fun c hc => (hmark c (List.mem_of_getLast? hc)).2]
  have hname : isIdentifierText name.toList = true := h
  unfold outputName?
  dsimp only
  rw [hcut]
  cases cast? <;> simp [Wanted.castText, hkey, hname]

theorem outputName?_column {name : String} (h : isIdentifier name = true) :
    (column name).outputName? = some name := by
  have hcolumn := outputName?_named h none []
  rwa [Wanted.castText, String.append_empty] at hcolumn

/-- A plain item has the name of its key. -/
theorem outputName?_item {w : Wanted} (h : w.IsNamed) (path : List String) :
    (w.item path).outputName? = w.projection.key? := by
  cases w with
  | all =>
    have hstar : (⟨"*", none, path⟩ : SelectItem).outputName? = none := by cbv
    rw [Wanted.item, hstar]
    rfl
  | column name cast? alias? =>
    cases alias? with
    | none => exact outputName?_named h.1 cast? path
    | some a => rfl

theorem isIdentifier_key {w : Wanted} (h : w.IsNamed) {k : String} (hk : w.projection.key? = some k) :
    isIdentifier k = true := by
  cases w with
  | all => exact nomatch hk
  | column name cast? alias? =>
    obtain ⟨hname, -, halias⟩ := h
    obtain rfl := Option.some.inj hk
    cases alias? with
    | none => exact hname
    | some a => exact halias a rfl

/-- Plain items are known. -/
theorem isKnown_item {w : Wanted} (h : w.IsNamed) (path : List String) : (w.item path).IsKnown := by
  have hkeys : (w.item path).keys = w.projection.key?.toList := by
    rw [keys_of_parseSelect (Wanted.parseSelect_item h path)]
    cases w <;> rfl
  rw [IsKnown, hkeys, outputName?_item h]
  cases hk : w.projection.key? with
  | none => rfl
  | some k =>
    rw [Option.toList_some, List.map_singleton, List.map_singleton, outputName?_column (isIdentifier_key h hk)]

end SelectItem

namespace Select

/-! ### Places as the server reads them -/

namespace Place

/-- The keys of relations and of items that the builder knows. -/
def known (p : Place) : List String := (p.items.filter (·.IsKnown)).flatMap SelectItem.keys ++ p.keys

/-- The keys of the other items. -/
def unknown (p : Place) : List String := (p.items.filter (¬·.IsKnown)).flatMap SelectItem.keys

/-- What the server reads there has no key twice, and neither has what it reads below an item. -/
def ReadsDistinct (p : Place) : Prop :=
  (p.items.flatMap SelectItem.keys ++ p.keys).Nodup ∧
    ∀ i ∈ p.items, Projection.AllBelowDistinct (Level.readAlone i.render)

theorem perm_keys (p : Place) : (p.items.flatMap SelectItem.keys ++ p.keys).Perm (p.unknown ++ p.known) := by
  have hsplit := (List.filter_append_perm (fun i : SelectItem => decide i.IsKnown) p.items).symm.trans
    List.perm_append_comm
  have hkeys := hsplit.flatMap_right SelectItem.keys
  rw [List.flatMap_append] at hkeys
  rw [known, ← List.append_assoc]
  simpa [unknown] using hkeys.append_right p.keys

/-- **Known outputs have keys of their own** where the names do not repeat. -/
theorem nodup_known {p : Place} (hnames : p.names.Nodup) (hkeys : ∀ k ∈ p.keys, isIdentifier k = true) :
    p.known.Nodup := by
  -- Known outputs with one key would have one name.
  have hnamed : p.known.map (fun k => (SelectItem.column k).outputName?) =
      ((p.items.filter (·.IsKnown)).filterMap SelectItem.outputName? ++ p.keys).map some := by
    rw [known, List.map_append, List.map_append, List.map_flatMap]
    refine congrArg₂ (· ++ ·) ?_ (List.map_congr_left fun k hk => SelectItem.outputName?_column (hkeys k hk))
    rw [List.filterMap_eq_flatMap_toList, List.map_flatMap]
    refine List.flatMap_congr fun i hi => ?_
    exact of_decide_eq_true (List.mem_filter.mp hi).2
  refine List.Nodup.of_map _ (hnamed ▸ List.Nodup.map (Option.some_injective _) ?_)
  exact hnames.sublist ((List.filter_sublist.filterMap _).append_right _)

/-- All keys of a place differ if those of unknown items do, from each other and from the known ones. -/
theorem nodup_keys_iff {p : Place} (hknown : p.known.Nodup) :
    (p.items.flatMap SelectItem.keys ++ p.keys).Nodup ↔ p.unknown.Nodup ∧ ∀ k ∈ p.unknown, k ∉ p.known := by
  rw [(perm_keys p).nodup_iff, List.nodup_append]
  exact ⟨fun ⟨hunknown, _, hne⟩ => ⟨hunknown, fun k hk hk' => hne k hk k hk' rfl⟩,
    fun ⟨hunknown, hnot⟩ => ⟨hunknown, hknown, fun k hk k' hk' heq => hnot k hk (heq ▸ hk')⟩⟩

end Place

namespace Level

theorem keys_readItems {items : List SelectItem} {own : List Projection} (h : readItems items = .ok own) :
    own.filterMap Projection.key? = items.flatMap SelectItem.keys := by
  rw [eq_of_readItems h]
  split
  · next hempty =>
    rw [List.isEmpty_iff.mp hempty]
    rfl
  · rw [List.filterMap_flatMap]
    rfl

theorem allBelowDistinct_readItems {items : List SelectItem} {own : List Projection}
    (h : readItems items = .ok own) :
    Projection.AllBelowDistinct own ↔ ∀ i ∈ items, Projection.AllBelowDistinct (readAlone i.render) := by
  rw [eq_of_readItems h]
  split
  · next hempty => simp [List.isEmpty_iff.mp hempty, Projection.AllBelowDistinct, Projection.BelowDistinct]
  · simp only [Projection.allBelowDistinct_iff, List.forall_mem_flatMap]

theorem key?_of_read {l : Level} {p : Projection} (h : l.read = .ok p) : p.key? = some l.key := by
  cases l with
  | node e items children =>
    obtain ⟨_, _, -, -, rfl⟩ := of_read_node h
    rfl

theorem keys_readAll {ls : List Level} {ps : List Projection} (h : readAll ls = .ok ps) :
    ps.filterMap Projection.key? = ls.map key := by
  induction ls generalizing ps with
  | nil =>
    obtain rfl := Except.ok.inj h
    rfl
  | cons l ls ih =>
    obtain ⟨first, others, hfirst, hothers, rfl⟩ := of_readAll_cons h
    rw [List.filterMap_cons_some (key?_of_read hfirst), ih hothers, List.map_cons]

/-- The outputs of a level are those of its place, and what is below them. -/
theorem keysDistinct_level {items : List SelectItem} {children : List Level} {own below : List Projection}
    (path : List String) (hown : readItems items = .ok own) (hbelow : readAll children = .ok below) :
    Projection.KeysDistinct (own ++ below) ↔
      Place.ReadsDistinct ⟨path, items, children.map key⟩ ∧ Projection.AllBelowDistinct below := by
  rw [Projection.KeysDistinct, List.filterMap_append, keys_readItems hown, keys_readAll hbelow,
    Projection.allBelowDistinct_iff, List.forall_mem_append, ← Projection.allBelowDistinct_iff,
    ← Projection.allBelowDistinct_iff, allBelowDistinct_readItems hown, Place.ReadsDistinct, and_assoc]

mutual

theorem belowDistinct_read (l : Level) (path : List String) {p : Projection} (h : l.read = .ok p) :
    p.BelowDistinct ↔ ∀ place ∈ places path l, place.ReadsDistinct := by
  cases l with
  | node e items children =>
    obtain ⟨own, below, hown, hbelow, rfl⟩ := of_read_node h
    rw [places, List.forall_mem_cons, ← allBelowDistinct_readAll children _ hbelow]
    exact keysDistinct_level _ hown hbelow
termination_by structural l

/-- The keys below levels differ if those of each place do. -/
theorem allBelowDistinct_readAll (ls : List Level) (path : List String) {ps : List Projection}
    (h : readAll ls = .ok ps) :
    Projection.AllBelowDistinct ps ↔ ∀ place ∈ placesOf path ls, place.ReadsDistinct := by
  cases ls with
  | nil =>
    obtain rfl := Except.ok.inj h
    simp [Projection.AllBelowDistinct, placesOf]
  | cons l ls =>
    obtain ⟨first, others, hfirst, hothers, rfl⟩ := of_readAll_cons h
    rw [Projection.AllBelowDistinct, placesOf, List.forall_mem_append, belowDistinct_read l path hfirst,
      allBelowDistinct_readAll ls path hothers]
termination_by structural ls

end

end Level

/-! ### Selections that compile -/

mutual

theorem key_of_mem_places (items : List SelectItem) (path : List String) (r : Relation) :
    ∀ p ∈ (fill items path r).places path, ∀ k ∈ p.keys, ∃ e ∈ Relation.embeddings r, e.key = k := by
  cases r with
  | node e cs =>
    rw [fill, Level.places, List.forall_mem_cons, Relation.embeddings, map_key_fillAll]
    refine ⟨fun k hk => ?_, fun p hp k hk => ?_⟩
    · obtain ⟨c, hc, rfl⟩ := List.mem_map.mp hk
      exact ⟨_, List.mem_cons_of_mem _ (Relation.embedding_mem_embeddingsOf hc), rfl⟩
    · obtain ⟨e', he', hkey⟩ := key_of_mem_placesOf items _ cs p hp k hk
      exact ⟨e', List.mem_cons_of_mem _ he', hkey⟩
termination_by structural r

theorem key_of_mem_placesOf (items : List SelectItem) (path : List String) (rs : List Relation) :
    ∀ p ∈ Level.placesOf path (fillAll items path rs), ∀ k ∈ p.keys, ∃ e ∈ Relation.embeddingsOf rs, e.key = k := by
  cases rs with
  | nil => exact fun _ hp => nomatch hp
  | cons r rs =>
    rw [fillAll, Level.placesOf, List.forall_mem_append, Relation.embeddingsOf]
    refine ⟨fun p hp k hk => ?_, fun p hp k hk => ?_⟩
    · obtain ⟨e, he, hkey⟩ := key_of_mem_places items path r p hp k hk
      exact ⟨e, List.mem_append_left _ he, hkey⟩
    · obtain ⟨e, he, hkey⟩ := key_of_mem_placesOf items path rs p hp k hk
      exact ⟨e, List.mem_append_right _ he, hkey⟩
termination_by structural rs

end

/-- The keys of relations are identifiers where their names and aliases are. -/
theorem isIdentifier_of_mem_keys {items : List SelectItem} {rs : List Relation}
    (hrelations : ∀ e ∈ Relation.embeddingsOf rs, e.IsNamed) :
    ∀ p ∈ places items rs, ∀ k ∈ p.keys, isIdentifier k = true := by
  refine List.forall_mem_cons.mpr ⟨fun k hk => ?_, fun p hp k hk => ?_⟩
  · obtain ⟨r, hr, rfl⟩ := List.mem_map.mp hk
    exact (hrelations _ (Relation.embedding_mem_embeddingsOf hr)).key
  · obtain ⟨e, he, rfl⟩ := key_of_mem_placesOf items [] rs p hp k hk
    exact (hrelations e he).key

theorem nodup_known_of_compile {items : List SelectItem} {rs : List Relation} {out : Option String}
    (hrelations : ∀ e ∈ Relation.embeddingsOf rs, e.IsNamed) (h : compile items rs = .ok out) :
    ∀ p ∈ places items rs, p.known.Nodup := fun p hp =>
  Place.nodup_known (allApart_of_compile h p hp) (isIdentifier_of_mem_keys hrelations p hp)

/-- The keys of a selection differ on every level if those of each place do. -/
theorem keysDistinct_iff_places {items : List SelectItem} {rs : List Relation} {text : String}
    {ps : List Projection} (hitems : ∀ i ∈ items, Text.Nested.IsClosed i.render.toList)
    (hrelations : ∀ e ∈ Relation.embeddingsOf rs, e.IsNamed ∧ ∀ c ∈ e.columns, Text.Nested.IsClosed c.toList)
    (h : compile items rs = .ok (some text)) (hread : parseSelect text.toList = .ok ps) :
    Projection.KeysDistinct ps ↔ ∀ p ∈ places items rs, p.ReadsDistinct := by
  obtain ⟨own, below, hown, hbelow, rfl⟩ := readings_of_compile hitems hrelations h hread
  rw [Level.keysDistinct_level [] hown hbelow, Level.allBelowDistinct_readAll _ [] hbelow, map_key_fillAll, places,
    List.forall_mem_cons]

/-- At the places of plain columns the builder knows every item, and the server reads nothing below one. -/
theorem unknown_of_plain {asked : List Asked} {rs : List Relation} {text : String}
    (hasked : ∀ a ∈ asked, a.wanted.IsNamed)
    (hrelations : ∀ e ∈ Relation.embeddingsOf rs, ∀ c ∈ e.columns, isIdentifier c = true)
    (h : compile (asked.map Asked.item) rs = .ok (some text)) :
    ∀ p ∈ places (asked.map Asked.item) rs,
      p.unknown = [] ∧ ∀ i ∈ p.items, Projection.AllBelowDistinct (Level.readAlone i.render) := by
  obtain ⟨hkeys, hsites, -⟩ := text_of_compile h
  intro p hp
  -- An item of a place is one that is asked for or a column, with the path of the place.
  have hplain : ∀ i ∈ p.items, ∃ w : Wanted, w.IsNamed ∧ ∃ path, { i with path := p.path } = w.item path := by
    intro i hi
    have hmem := (perm_placed hkeys hsites).mem_iff.mp
      (List.mem_flatMap.mpr ⟨p, hp, List.mem_map_of_mem (f := fun i : SelectItem => { i with path := p.path }) hi⟩)
    rcases List.mem_append.mp hmem with hmem | hmem
    · obtain ⟨a, ha, heq⟩ := List.mem_map.mp hmem
      exact ⟨a.wanted, hasked a ha, a.path, heq.symm⟩
    · obtain ⟨site, hsite, hmem⟩ := List.mem_flatMap.mp hmem
      obtain ⟨c, hc, heq⟩ := List.mem_map.mp hmem
      have hc := hrelations _ (Relation.embedding_of_mem_sitesOf rs hsite) c hc
      refine ⟨.named c, ⟨hc, (fun _ hcast => nomatch hcast), (fun _ halias => nomatch halias)⟩, site.1, ?_⟩
      rw [← heq, Wanted.named, Wanted.item, Wanted.castText, String.append_empty]
  refine ⟨?_, fun i hi => ?_⟩
  · have hnone : p.items.filter (¬·.IsKnown) = [] := by
      refine List.filter_eq_nil_iff.mpr fun i hi => ?_
      obtain ⟨w, hw, path, heq⟩ := hplain i hi
      have hknown : SelectItem.IsKnown { i with path := p.path } := heq ▸ SelectItem.isKnown_item hw path
      exact fun hnot => of_decide_eq_true hnot hknown
    rw [Place.unknown, hnone]
    rfl
  · obtain ⟨w, hw, path, heq⟩ := hplain i hi
    have hread := Wanted.parseSelect_item hw path
    rw [← heq] at hread
    rw [show Level.readAlone i.render = [w.projection] from Level.readAlone_of_parseSelect hread]
    cases w <;> exact ⟨trivial, trivial⟩

/-- **Selections of plain columns** are read, and no two of their outputs collide. -/
theorem keysDistinct_of_plain {asked : List Asked} {rs : List Relation} {text : String}
    (hasked : ∀ a ∈ asked, a.wanted.IsNamed)
    (hrelations : ∀ e ∈ Relation.embeddingsOf rs, e.IsNamed ∧ ∀ c ∈ e.columns, isIdentifier c = true)
    (h : compile (asked.map Asked.item) rs = .ok (some text)) :
    ∃ ps, parseSelect text.toList = .ok ps ∧ Projection.KeysDistinct ps := by
  have hitems : ∀ i ∈ asked.map Asked.item, Text.Nested.IsClosed i.render.toList :=
    List.forall_mem_map.mpr fun a ha => Wanted.isClosed_item (hasked a ha) a.path
  have hclosed : ∀ e ∈ Relation.embeddingsOf rs, e.IsNamed ∧ ∀ c ∈ e.columns, Text.Nested.IsClosed c.toList :=
    fun e he => ⟨(hrelations e he).1, fun c hc => isClosed_of_isIdentifier ((hrelations e he).2 c hc)⟩
  obtain ⟨below, hbelow⟩ := exists_readAll_fillAll hasked [] rs fun e he => (hrelations e he).2
  have hread := parseSelect_of_named hasked hrelations h
  rw [hbelow] at hread
  refine ⟨_, hread, (keysDistinct_iff_places hitems hclosed h hread).mpr fun p hp => ?_⟩
  obtain ⟨hnone, hinner⟩ := unknown_of_plain hasked (fun e he => (hrelations e he).2) h p hp
  have hknown := nodup_known_of_compile (fun e he => (hrelations e he).1) h p hp
  refine ⟨(Place.nodup_keys_iff hknown).mpr ?_, hinner⟩
  rw [hnone]
  exact ⟨List.nodup_nil, fun k hk => nomatch hk⟩

end Select

/-! ### Reads -/

namespace Query
variable {q : Query} {mode : Mode} {r : Request}

/-- **Which outputs of a read can collide.** The known outputs of a level have keys of their own. So no two outputs
of any level have the same key if and only if the unknown ones differ from each other and from the known ones, and no
key stands twice below what a single text asks for. -/
theorem keysDistinct_iff {s : String} {ps : List Projection}
    (hrelations : ∀ e ∈ Relation.embeddingsOf q.relations, e.IsNamed)
    (hclosed : ∀ t ∈ q.selectedTexts, Text.Nested.IsClosed t.toList) (h : q.compileAs mode = .ok r)
    (hselect : Select.compile q.select q.relations = .ok (some s))
    (hread : parseSelect s.toList = .ok ps) :
    r.params.head? = some ("select", s) ∧ (∀ p ∈ Select.places q.select q.relations, p.known.Nodup) ∧
      (Projection.KeysDistinct ps ↔ ∀ p ∈ Select.places q.select q.relations,
        (p.unknown.Nodup ∧ ∀ k ∈ p.unknown, k ∉ p.known) ∧
          ∀ i ∈ p.items, Projection.AllBelowDistinct (Select.Level.readAlone i.render)) := by
  obtain ⟨hitems, hcolumns⟩ := List.forall_mem_append.mp hclosed
  have hknown := Select.nodup_known_of_compile hrelations hselect
  refine ⟨?_, hknown, ?_⟩
  · obtain ⟨-, -, -, -, select, filters, window, cursor, hoisted, hsame, -, -, -, -, rfl⟩ := parts_of_compileAs h
    obtain rfl := Except.ok.inj (hsame.symm.trans hselect)
    rfl
  · rw [Select.keysDistinct_iff_places (fun i hi => hitems i.render (List.mem_map_of_mem hi))
      (fun e he => ⟨hrelations e he, fun c hc => hcolumns c (List.mem_flatMap.mpr ⟨e, he, hc⟩)⟩) hselect hread]
    exact forall₂_congr fun p hp => and_congr_left fun _ => Select.Place.nodup_keys_iff (hknown p hp)

/-- Users by id, with the ids of their posts as a text. -/
def idsWithPosts : Query := { Query.on "users" with select := [.column "id", .column "posts(id)"] }

theorem idsWithPosts_apart :
    ∃ r ps, idsWithPosts.compileAs .many = .ok r ∧ r.params = [("select", "id,posts(id)")] ∧
      parseSelect "id,posts(id)".toList = .ok ps ∧ Projection.KeysDistinct ps := by
  have hselect : Select.compile idsWithPosts.select idsWithPosts.relations = .ok (some "id,posts(id)") := by
    cbv
  have hid : parseSelect "id".toList = .ok [.column "id" "id" none] :=
    Wanted.parseSelect_item (w := .named "id") (by decide) []
  have hread : parseSelect "id,posts(id)".toList = .ok
      [.column "id" "id" none, .embed "posts" "posts" none false [.column "id" "id" none]] := by
    have hboth := parseSelect_append_comma (a := "id".toList) (by decide) "posts(id)".toList
    rw [hid, parseSelect_posts] at hboth
    exact hboth
  have hidKeys : (SelectItem.column "id").keys = ["id"] := SelectItem.keys_of_parseSelect (i := .column "id") hid
  have hpostsKeys : (SelectItem.column "posts(id)").keys = ["posts"] :=
    SelectItem.keys_of_parseSelect (i := .column "posts(id)") parseSelect_posts
  have hidKnown : (SelectItem.column "id").IsKnown := SelectItem.isKnown_item (w := .named "id") (by decide) []
  have hpostsUnknown : ¬(SelectItem.column "posts(id)").IsKnown := by
    have hname : (SelectItem.column "posts(id)").outputName? = none := by cbv
    simp [SelectItem.IsKnown, hpostsKeys, hname]
  have hplaces : Select.places idsWithPosts.select idsWithPosts.relations =
      [⟨[], [.column "id", .column "posts(id)"], []⟩] := by
    rfl
  obtain ⟨r, hr, hparams, -⟩ := compileAs_of_select "users" (by decide) hselect
  refine ⟨r, _, hr, hparams, hread,
    (keysDistinct_iff (q := idsWithPosts) (by decide) (by decide) hr hselect hread).2.2.mpr ?_⟩
  rw [hplaces, List.forall_mem_singleton]
  refine ⟨?_, ?_⟩
  · simp [Select.Place.unknown, Select.Place.known, hidKnown, hpostsUnknown, hidKeys, hpostsKeys]
  · refine List.forall_mem_cons.mpr ⟨?_, List.forall_mem_singleton.mpr ?_⟩
    · rw [show Select.Level.readAlone (SelectItem.column "id").render = _ from
        Select.Level.readAlone_of_parseSelect hid]
      exact ⟨trivial, trivial⟩
    · rw [show Select.Level.readAlone (SelectItem.column "posts(id)").render = _ from
        Select.Level.readAlone_of_parseSelect parseSelect_posts]
      exact ⟨⟨by decide, trivial, trivial⟩, trivial⟩

/-- Users with columns of their posts. -/
def usersAndPosts (columns : List String) : Query :=
  { Query.on "users" with relations := [.node { Embedding.ofName "posts" with columns := columns } []] }

/-- Two columns of a relation pass under one alias, so that the second overwrites the first. Asked for by items they
are refused. -/
theorem labels_collide :
    (∃ r ps, (usersAndPosts ["label:title", "label:body"]).compileAs .many = .ok r ∧
      r.params = [("select", "*,posts(label:title,label:body)")] ∧
      parseSelect "*,posts(label:title,label:body)".toList = .ok ps ∧ ¬Projection.KeysDistinct ps) ∧
    ((usersAndPosts []).selecting ["label:posts.title", "label:posts.body"]).compileAs .many =
      .error (.duplicateAlias "label") := by
  have hcompiled : (usersAndPosts ["label:title", "label:body"]).compileAs .many = .ok ⟨"users", none, .get, .many,
      [("select", "*,posts(label:title,label:body)")], [], none, ["users", "posts"]⟩ := by
    rw [compileAs, show isIdentifier (usersAndPosts ["label:title", "label:body"]).table = true by decide]
    cbv
  have hread : parseSelect "*,posts(label:title,label:body)".toList = .ok [.star,
      .embed "posts" "posts" none false [.column "label" "title" none, .column "label" "body" none]] := by
    cbv
  have hitems : (usersAndPosts []).selecting ["label:posts.title", "label:posts.body"] =
      { usersAndPosts [] with
        select := [⟨"title", some "label", ["posts"]⟩, ⟨"body", some "label", ["posts"]⟩] } := rfl
  have hselect : Select.compile [⟨"title", some "label", ["posts"]⟩, ⟨"body", some "label", ["posts"]⟩]
      (usersAndPosts []).relations = .error (.duplicateAlias "label") := by
    cbv
  refine ⟨⟨_, _, hcompiled, rfl, hread, fun hdistinct => ?_⟩, ?_⟩
  · obtain ⟨-, -, ⟨hposts, -⟩, -⟩ := hdistinct
    exact absurd hposts (by decide)
  · rw [hitems, compileAs, hselect, show isIdentifier (usersAndPosts []).table = true by decide]
    rfl

end Query
end TableQuery
