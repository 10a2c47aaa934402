import TableQuery.Proofs.Chained
import TableQuery.Proofs.Relation
import TableQuery.Proofs.Server.Selections
import TableQuery.Select

/-! Where select items are placed.

A selection that compiles has put every item on the level its path names: the level of a relation holds
the relation's own columns and the items with its path behind them, in their order (`fill`). So the
`select` parameter is a text put together level by level (`text_of_compile`), and no two relations beside
each other share a key there (`KeysDistinct`). -/
namespace TableQuery

namespace Relation

mutual

/-- No two relations beside each other share a key. -/
def KeysDistinct : Relation → Prop
  | .node _ cs => AllKeysDistinct cs

def AllKeysDistinct : List Relation → Prop
  | [] => True
  | r :: rs => (∀ s ∈ rs, s.key ≠ r.key) ∧ KeysDistinct r ∧ AllKeysDistinct rs

end

end Relation

namespace Select

/-! ### Levels and the relations they are of -/

namespace Level

mutual

/-- The relation that a level is of. -/
def relation : Level → Relation
  | .node e _ children => .node e (relations children)

def relations : List Level → List Relation
  | [] => []
  | l :: ls => relation l :: relations ls

end

mutual

theorem relation_ofRelation (r : Relation) : relation (ofRelation r) = r := by
  cases r with
  | node e cs => rw [ofRelation, relation, relations_ofRelations]
termination_by structural r

theorem relations_ofRelations (rs : List Relation) : relations (ofRelations rs) = rs := by
  cases rs with
  | nil => rfl
  | cons r rs => rw [ofRelations, relations, relation_ofRelation, relations_ofRelations]
termination_by structural rs

end

theorem relations_eq_map (ls : List Level) : relations ls = ls.map relation := by
  induction ls with
  | nil => rfl
  | cons l ls ih => rw [relations, ih, List.map_cons]

end Level

/-! ### Placing -/

/-- The first that satisfies the condition is replaced. -/
theorem modifyFirst?_eq_some {α : Type} {p : α → Bool} {f : α → Option α} {l l' : List α}
    (h : modifyFirst? p f l = some l') :
    ∃ before x y after, l = before ++ x :: after ∧ p x = true ∧ f x = some y ∧
      l' = before ++ y :: after := by
  induction l generalizing l' with
  | nil => exact nomatch h
  | cons x l ih =>
    rw [modifyFirst?] at h
    split at h
    · next hx =>
      obtain ⟨y, hy, rfl⟩ := Option.map_eq_some_iff.mp h
      exact ⟨[], x, y, l, rfl, hx, hy, rfl⟩
    · obtain ⟨m, hm, rfl⟩ := Option.map_eq_some_iff.mp h
      obtain ⟨before, z, y, after, rfl, hz, hy, rfl⟩ := ih hm
      exact ⟨x :: before, z, y, after, rfl, hz, hy, rfl⟩

/-- What placing does: of the levels one with the first key of the path is another, either with the item
behind its own or with the item placed further below. -/
theorem placeBelow_eq_some {item : SelectItem} {p : List String} {ls ls' : List Level}
    (h : placeBelow item p ls = some ls') :
    ∃ k rest before e items items' children children' after, p = k :: rest ∧ e.key = k ∧
      ls = before ++ .node e items children :: after ∧
      ls' = before ++ .node e items' children' :: after ∧
      ((rest = [] ∧ items' = items ++ [{ item with path := [] }] ∧ children' = children) ∨
        (items' = items ∧ placeBelow item rest children = some children')) := by
  cases p with
  | nil => exact nomatch h
  | cons k rest =>
    cases rest with
    | nil =>
      obtain ⟨before, ⟨e, items, children⟩, y, after, rfl, hkey, hy, rfl⟩ := modifyFirst?_eq_some h
      obtain rfl := Option.some.inj hy
      exact ⟨k, [], before, e, items, _, children, _, after, rfl, by simpa [Level.key] using hkey, rfl, rfl,
        .inl ⟨rfl, rfl, rfl⟩⟩
    | cons k' rest =>
      obtain ⟨before, ⟨e, items, children⟩, y, after, rfl, hkey, hy, rfl⟩ := modifyFirst?_eq_some h
      obtain ⟨children', hchildren, rfl⟩ := Option.map_eq_some_iff.mp hy
      exact ⟨k, k' :: rest, before, e, items, _, children, _, after, rfl, by simpa [Level.key] using hkey, rfl,
        rfl, .inr ⟨rfl, hchildren⟩⟩

/-- The levels stay those of the same relations. -/
theorem relations_placeBelow {item : SelectItem} {p : List String} {ls ls' : List Level}
    (h : placeBelow item p ls = some ls') : Level.relations ls' = Level.relations ls := by
  induction p generalizing ls ls' with
  | nil => exact nomatch h
  | cons k rest ih =>
    obtain ⟨_, _, before, e, items, items', children, children', after, hp, -, rfl, rfl, hnew⟩ :=
      placeBelow_eq_some h
    obtain ⟨rfl, rfl⟩ := List.cons.inj hp
    have hchildren : Level.relations children' = Level.relations children := by
      rcases hnew with ⟨-, -, rfl⟩ | ⟨-, hbelow⟩
      · rfl
      · exact ih hbelow
    simp only [Level.relations_eq_map, List.map_append, List.map_cons, Level.relation] at hchildren ⊢
    rw [hchildren]

/-- An item without a path is one of the root's own; any other is placed on a level. -/
theorem place_eq_ok {root root' : Root} {item : SelectItem} :
    root.place item = .ok root' ↔
      (item.path = [] ∧ { root with items := root.items ++ [item] } = root') ∨
        (item.path ≠ [] ∧ ∃ levels, placeBelow item item.path root.levels = some levels ∧
          { root with levels := levels } = root') := by
  unfold Root.place
  by_cases hpath : item.path = []
  · simp [hpath]
  · rw [if_neg (by simpa using hpath)]
    cases placeBelow item item.path root.levels <;> simp [hpath]

theorem relations_place {root root' : Root} {item : SelectItem} (h : root.place item = .ok root') :
    Level.relations root'.levels = Level.relations root.levels := by
  rcases place_eq_ok.mp h with ⟨-, rfl⟩ | ⟨-, levels, hplaced, rfl⟩
  · rfl
  · exact relations_placeBelow hplaced

theorem relations_foldlM_place {root root' : Root} {items : List SelectItem}
    (h : items.foldlM Root.place root = .ok root') :
    Level.relations root'.levels = Level.relations root.levels := by
  induction items generalizing root with
  | nil => rw [Except.ok.inj h]
  | cons item items ih =>
    rw [List.foldlM_cons] at h
    obtain ⟨next, hnext, h⟩ := Chained.bind_eq_ok.mp h
    rw [ih h, relations_place hnext]

/-! ### Claimed names -/

theorem claim_eq_ok {seen seen' : List String} {name : String} (h : claim seen name = .ok seen') :
    name ∉ seen ∧ seen' = name :: seen := by
  unfold claim at h
  split at h
  · exact nomatch h
  · next hnew => exact ⟨by simpa using hnew, (Except.ok.inj h).symm⟩

/-- The texts of a level: those of its items and of the levels below; a star stands where there are no
items. -/
def levelTexts (items : List SelectItem) (below : List String) : List String :=
  if items.isEmpty then "*" :: below else items.map SelectItem.render ++ below

theorem levelTexts_eq (items : List SelectItem) (below : List String) :
    (if items.isEmpty then "*" :: (items.map SelectItem.render ++ below)
      else items.map SelectItem.render ++ below) = levelTexts items below := by
  unfold levelTexts
  split
  · next hempty =>
    rw [List.isEmpty_iff.mp hempty]
    rfl
  · rfl

/-- What rendering a list of levels comes to: the first one's key is new, and the first and the others
render. -/
theorem renderLevels_cons {seen : List String} {e : Embedding} {items : List SelectItem}
    {children rest : List Level} {texts : List String}
    (h : renderLevels seen (.node e items children :: rest) = .ok texts) :
    e.key ∉ seen ∧ ∃ below inner others, renderLevels below children = .ok inner ∧
      renderLevels (e.key :: seen) rest = .ok others ∧
      texts = (e.head ++ "(" ++ ",".intercalate (levelTexts items inner) ++ ")") :: others := by
  rw [renderLevels] at h
  obtain ⟨seen', hseen, h⟩ := Chained.bind_eq_ok.mp h
  obtain ⟨hnew, rfl⟩ := claim_eq_ok hseen
  obtain ⟨level, hlevel, h⟩ := Chained.bind_eq_ok.mp h
  obtain ⟨others, hothers, h⟩ := Chained.bind_eq_ok.mp h
  rw [renderLevel] at hlevel
  obtain ⟨below, -, hlevel⟩ := Chained.bind_eq_ok.mp hlevel
  obtain ⟨inner, hinner, hlevel⟩ := Chained.bind_eq_ok.mp hlevel
  obtain rfl := Except.ok.inj hlevel
  rw [levelTexts_eq] at h
  exact ⟨hnew, below, inner, others, hinner, hothers, (Except.ok.inj h).symm⟩

/-- Levels that render have other keys than those before them, and than one another. -/
theorem allKeysDistinct_of_render (ls : List Level) {seen : List String} {texts : List String}
    (h : renderLevels seen ls = .ok texts) :
    (∀ r ∈ Level.relations ls, r.key ∉ seen) ∧ Relation.AllKeysDistinct (Level.relations ls) := by
  match ls with
  | [] => exact ⟨(fun _ hr => nomatch hr), trivial⟩
  | .node e items children :: rest =>
    obtain ⟨hnew, below, inner, others, hinner, hothers, -⟩ := renderLevels_cons h
    obtain ⟨hrest, hdistinct⟩ := allKeysDistinct_of_render rest hothers
    have hchildren := (allKeysDistinct_of_render children hinner).2
    refine ⟨List.forall_mem_cons.mpr ⟨hnew, fun r hr hmem => ?_⟩, fun r hr heq => ?_, hchildren, hdistinct⟩
    · exact hrest r hr (List.mem_cons_of_mem _ hmem)
    · refine hrest r hr ?_
      rw [heq]
      exact List.mem_cons_self
termination_by ls

/-! ### The placed forest -/

/-- The items with a path, as they stand on its level. -/
def placedAt (items : List SelectItem) (path : List String) : List SelectItem :=
  (items.filter fun i => i.path = path).map fun i => { i with path := [] }

mutual

/-- The level of a relation with all items placed: its own columns, then the items with its path. -/
def fill (items : List SelectItem) (path : List String) : Relation → Level
  | .node e cs =>
    .node e (e.columns.map SelectItem.column ++ placedAt items (path ++ [e.key]))
      (fillAll items (path ++ [e.key]) cs)

def fillAll (items : List SelectItem) (path : List String) : List Relation → List Level
  | [] => []
  | r :: rs => fill items path r :: fillAll items path rs

end

theorem fillAll_eq_map (items : List SelectItem) (path : List String) (rs : List Relation) :
    fillAll items path rs = rs.map (fill items path) := by
  induction rs with
  | nil => rfl
  | cons r rs ih => rw [fillAll, ih, List.map_cons]

theorem placedAt_append_of_ne {items : List SelectItem} {item : SelectItem} {path : List String}
    (h : item.path ≠ path) : placedAt (items ++ [item]) path = placedAt items path := by
  simp [placedAt, List.filter_append, h]

theorem placedAt_append_self (items : List SelectItem) (item : SelectItem) :
    placedAt (items ++ [item]) item.path = placedAt items item.path ++ [{ item with path := [] }] := by
  simp [placedAt, List.filter_append]

mutual

theorem fill_nil (path : List String) (r : Relation) : fill [] path r = Level.ofRelation r := by
  cases r with
  | node e cs =>
    rw [fill, fillAll_nil, Level.ofRelation]
    show Level.node e (_ ++ []) _ = _
    rw [List.append_nil]
termination_by structural r

theorem fillAll_nil (path : List String) (rs : List Relation) : fillAll [] path rs = Level.ofRelations rs := by
  cases rs with
  | nil => rfl
  | cons r rs => rw [fillAll, fill_nil, fillAll_nil, Level.ofRelations]
termination_by structural rs

end

mutual

/-- An item leaves a level and those below it as they are if the level's path does not lead to it. -/
theorem fill_append_of_not_prefix {items : List SelectItem} {item : SelectItem} {path : List String}
    (r : Relation) (h : ¬(path ++ [r.key]) <+: item.path) :
    fill (items ++ [item]) path r = fill items path r := by
  cases r with
  | node e cs =>
    have hne : item.path ≠ path ++ [e.key] := by
      intro heq
      exact h (heq ▸ List.prefix_rfl)
    have hbelow : ∀ c ∈ cs, ¬((path ++ [e.key]) ++ [c.key]) <+: item.path := fun c _ hc =>
      h ((List.prefix_append _ _).trans hc)
    rw [fill, fill, placedAt_append_of_ne hne, fillAll_append_of_not_prefix cs hbelow]
termination_by structural r

theorem fillAll_append_of_not_prefix {items : List SelectItem} {item : SelectItem} {path : List String}
    (rs : List Relation) (h : ∀ r ∈ rs, ¬(path ++ [r.key]) <+: item.path) :
    fillAll (items ++ [item]) path rs = fillAll items path rs := by
  cases rs with
  | nil => rfl
  | cons r rs =>
    obtain ⟨hr, hrs⟩ := List.forall_mem_cons.mp h
    rw [fillAll, fillAll, fill_append_of_not_prefix r hr, fillAll_append_of_not_prefix rs hrs]
termination_by structural rs

end

/-- An item with the path of a level stands behind the others there, and on no level below. -/
theorem fill_append_self {items : List SelectItem} {item : SelectItem} {path : List String} {e : Embedding}
    (cs : List Relation) (h : item.path = path ++ [e.key]) :
    fill (items ++ [item]) path (.node e cs) =
      .node e (e.columns.map SelectItem.column ++ placedAt items (path ++ [e.key]) ++ [{ item with path := [] }])
        (fillAll items (path ++ [e.key]) cs) := by
  have hbelow : ∀ c ∈ cs, ¬((path ++ [e.key]) ++ [c.key]) <+: item.path := by
    intro c _ hc
    have hlength := hc.length_le
    rw [h, List.length_append, List.length_singleton] at hlength
    omega
  rw [fill, fillAll_append_of_not_prefix cs hbelow, ← h, placedAt_append_self, List.append_assoc]

/-- Any other item leaves the items of the level as they are. -/
theorem fill_append_of_ne {items : List SelectItem} {item : SelectItem} {path : List String} {e : Embedding}
    (cs : List Relation) (h : item.path ≠ path ++ [e.key]) :
    fill (items ++ [item]) path (.node e cs) =
      .node e (e.columns.map SelectItem.column ++ placedAt items (path ++ [e.key]))
        (fillAll (items ++ [item]) (path ++ [e.key]) cs) := by
  rw [fill, placedAt_append_of_ne h]

/-! ### Runs of placing -/

theorem of_allKeysDistinct_append {before after : List Relation} {r : Relation}
    (h : Relation.AllKeysDistinct (before ++ r :: after)) :
    (∀ s ∈ before, s.key ≠ r.key) ∧ (∀ s ∈ after, s.key ≠ r.key) ∧ r.KeysDistinct := by
  induction before with
  | nil => exact ⟨(fun _ hs => nomatch hs), h.1, h.2.1⟩
  | cons s before ih =>
    obtain ⟨hs, -, hrest⟩ := h
    obtain ⟨hbefore, hafter, hr⟩ := ih hrest
    exact ⟨List.forall_mem_cons.mpr ⟨(hs r (by simp)).symm, hbefore⟩, hafter, hr⟩

theorem not_prefix_of_ne {path rest : List String} {k k' : String} (h : k' ≠ k) :
    ¬(path ++ [k']) <+: path ++ k :: rest := by
  rw [List.prefix_append_right_inj, List.cons_prefix_cons]
  exact fun hk => h hk.1

/-- Placing one item more. Only the levels along its path change, and of these only the last one's items. -/
theorem placeBelow_fillAll {done : List SelectItem} {item : SelectItem} {p path : List String}
    {rs : List Relation} {ls : List Level} (h : placeBelow item p (fillAll done path rs) = some ls)
    (hpath : item.path = path ++ p) (hkeys : Relation.AllKeysDistinct rs) :
    ls = fillAll (done ++ [item]) path rs ∧ ∃ e, (item.path, e) ∈ Relation.sitesOf path rs := by
  induction p generalizing path rs ls with
  | nil => exact nomatch h
  | cons k rest ih =>
    obtain ⟨_, _, before, e, items, items', children, children', after, hp, hkey, hls, rfl, hnew⟩ :=
      placeBelow_eq_some h
    obtain ⟨rfl, rfl⟩ := List.cons.inj hp
    rw [fillAll_eq_map] at hls
    obtain ⟨rbefore, rtail, rfl, rfl, htail⟩ := List.map_eq_append_iff.mp hls
    obtain ⟨⟨e, cs⟩, rafter, rfl, hlevel, rfl⟩ := List.map_eq_cons_iff.mp htail
    rw [fill] at hlevel
    obtain ⟨rfl, rfl, rfl⟩ := Level.node.inj hlevel
    obtain ⟨hbefore, hafter, hcs⟩ := of_allKeysDistinct_append hkeys
    subst hkey
    -- The other levels beside it have other keys.
    have hother : ∀ r, r.key ≠ e.key → fill (done ++ [item]) path r = fill done path r := fun r hr =>
      fill_append_of_not_prefix r (by rw [hpath]; exact not_prefix_of_ne hr)
    have hhere : Level.node e items' children' = fill (done ++ [item]) path (.node e cs) ∧
        ∃ e', (item.path, e') ∈ Relation.sites path (.node e cs) := by
      rcases hnew with ⟨rfl, rfl, rfl⟩ | ⟨rfl, hbelow⟩
      · refine ⟨(fill_append_self cs hpath).symm, e, ?_⟩
        rw [hpath, Relation.sites]
        exact List.mem_cons_self
      · have hdeeper : item.path = (path ++ [e.key]) ++ rest := by
          rw [hpath, List.append_assoc, List.singleton_append]
        have hne : item.path ≠ path ++ [e.key] := by
          rintro heq
          obtain rfl : rest = [] := by simpa using hdeeper.symm.trans heq
          exact nomatch hbelow
        obtain ⟨rfl, e', he'⟩ := ih hbelow hdeeper hcs
        refine ⟨(fill_append_of_ne cs hne).symm, e', ?_⟩
        rw [Relation.sites]
        exact List.mem_cons_of_mem _ he'
    obtain ⟨hnode, e', hsite⟩ := hhere
    refine ⟨?_, e', ?_⟩
    · rw [fillAll_eq_map, List.map_append, List.map_cons, hnode,
        List.map_congr_left fun r hr => hother r (hbefore r hr),
        List.map_congr_left fun r hr => hother r (hafter r hr)]
    · exact Relation.mem_sitesOf.mpr ⟨.node e cs, by simp, hsite⟩

theorem place_fillAll {done : List SelectItem} {item : SelectItem} {rs : List Relation} {root : Root}
    (h : Root.place ⟨placedAt done [], fillAll done [] rs⟩ item = .ok root)
    (hkeys : Relation.AllKeysDistinct rs) :
    root = ⟨placedAt (done ++ [item]) [], fillAll (done ++ [item]) [] rs⟩ ∧
      (item.path ≠ [] → ∃ e, (item.path, e) ∈ Relation.sitesOf [] rs) := by
  rcases place_eq_ok.mp h with ⟨hroot, rfl⟩ | ⟨hne, levels, hplaced, rfl⟩
  · have hitems : placedAt (done ++ [item]) [] = placedAt done [] ++ [item] := by
      obtain ⟨expression, alias?, path⟩ := item
      obtain rfl : path = [] := hroot
      exact placedAt_append_self done _
    have hlevels : fillAll (done ++ [item]) [] rs = fillAll done [] rs :=
      fillAll_append_of_not_prefix rs fun r _ hr => by simp [hroot] at hr
    refine ⟨?_, fun hne => absurd hroot hne⟩
    rw [hitems, hlevels]
  · obtain ⟨rfl, hsite⟩ := placeBelow_fillAll hplaced (List.nil_append _).symm hkeys
    refine ⟨?_, fun _ => hsite⟩
    rw [placedAt_append_of_ne hne]

theorem foldlM_place_fillAll {done items : List SelectItem} {rs : List Relation} {root : Root}
    (h : items.foldlM Root.place ⟨placedAt done [], fillAll done [] rs⟩ = .ok root)
    (hkeys : Relation.AllKeysDistinct rs) :
    root = ⟨placedAt (done ++ items) [], fillAll (done ++ items) [] rs⟩ ∧
      ∀ item ∈ items, item.path ≠ [] → ∃ e, (item.path, e) ∈ Relation.sitesOf [] rs := by
  induction items generalizing done with
  | nil =>
    rw [List.append_nil]
    exact ⟨(Except.ok.inj h).symm, (fun _ hitem => nomatch hitem)⟩
  | cons item items ih =>
    rw [List.foldlM_cons] at h
    obtain ⟨next, hnext, h⟩ := Chained.bind_eq_ok.mp h
    obtain ⟨rfl, hitem⟩ := place_fillAll hnext hkeys
    obtain ⟨rfl, hitems⟩ := ih h
    rw [List.append_assoc, List.singleton_append]
    exact ⟨rfl, List.forall_mem_cons.mpr ⟨hitem, hitems⟩⟩

/-- All items placed, from the levels of the relations alone. -/
theorem placed_of_foldlM {items : List SelectItem} {rs : List Relation} {root : Root}
    (h : items.foldlM Root.place ⟨[], Level.ofRelations rs⟩ = .ok root) (hkeys : Relation.AllKeysDistinct rs) :
    root = ⟨placedAt items [], fillAll items [] rs⟩ ∧
      ∀ item ∈ items, item.path ≠ [] → ∃ e, (item.path, e) ∈ Relation.sitesOf [] rs := by
  rw [← fillAll_nil []] at h
  change items.foldlM Root.place ⟨placedAt [] [], fillAll [] [] rs⟩ = .ok root at h
  exact foldlM_place_fillAll h hkeys

/-- No item is the root's own if all have a path. -/
theorem all_isEmpty_path (items : List SelectItem) :
    (items.all fun i => !i.path.isEmpty) = (placedAt items []).isEmpty := by
  rw [Bool.eq_iff_iff]
  simp [placedAt]

/-- **What a selection that compiles is made of.** The relations beside each other have keys of their own,
each item's path leads to one of them, and the text is that of the levels with all items placed. -/
theorem text_of_compile {items : List SelectItem} {relations : List Relation} {text : String}
    (h : compile items relations = .ok (some text)) :
    Relation.AllKeysDistinct relations ∧
      (∀ item ∈ items, item.path ≠ [] → ∃ e, (item.path, e) ∈ Relation.sitesOf [] relations) ∧
      ∃ seen texts, renderLevels seen (fillAll items [] relations) = .ok texts ∧
        text = ",".intercalate (levelTexts (placedAt items []) texts) := by
  unfold compile at h
  split at h
  · exact nomatch h
  obtain ⟨root, hroot, h⟩ := Chained.bind_eq_ok.mp h
  obtain ⟨parts, hparts, h⟩ := Chained.bind_eq_ok.mp h
  rw [renderLevel] at hparts
  obtain ⟨seen, -, hparts⟩ := Chained.bind_eq_ok.mp hparts
  obtain ⟨texts, htexts, hparts⟩ := Chained.bind_eq_ok.mp hparts
  obtain rfl := Except.ok.inj hparts
  have hkeys : Relation.AllKeysDistinct relations := by
    have hdistinct := (allKeysDistinct_of_render root.levels htexts).2
    rwa [relations_foldlM_place hroot, Level.relations_ofRelations] at hdistinct
  obtain ⟨rfl, hpaths⟩ := placed_of_foldlM hroot hkeys
  refine ⟨hkeys, hpaths, seen, texts, htexts, ?_⟩
  rw [all_isEmpty_path] at h
  rw [← levelTexts_eq]
  exact (Option.some.inj (Except.ok.inj h)).symm

end Select
end TableQuery
