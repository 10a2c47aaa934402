import Mathlib.Data.List.Perm.Basic
import TableQuery.Proofs.Query.Levels

/-! The places of a selection.

A selection has a place at the root and one for each relation, where items stand beside the keys of the relations
below (`places`). Every item stands at the place that its path names and nowhere else, beside the relations' own
columns (`perm_placed`). Writing the levels out claims the names of each place once more, and so comes to its end if
and only if every place has its names only once; otherwise a name is found to be a duplicate
(`decides_renderLevel`). -/
namespace TableQuery

namespace Relation

theorem sites_ne_nil {path : List String} {rs : List Relation} {site : List String × Embedding}
    (h : site ∈ sitesOf path rs) : site.1 ≠ [] := by
  obtain ⟨k, hk⟩ := prefix_of_mem_sitesOf rs h
  intro hnil
  simp [hnil] at hk

mutual

theorem nodup_sites {path : List String} (r : Relation) (h : r.KeysDistinct) :
    ((sites path r).map Prod.fst).Nodup := by
  cases r with
  | node e cs =>
    rw [sites, List.map_cons, List.nodup_cons]
    refine ⟨fun hmem => ?_, nodup_sitesOf cs h⟩
    obtain ⟨site, hsite, heq⟩ := List.mem_map.mp hmem
    obtain ⟨k, hk⟩ := prefix_of_mem_sitesOf cs hsite
    have hlength := (heq ▸ hk).length_le
    simp at hlength
termination_by structural r

/-- Relations beside each other with keys of their own are reached by paths of their own, and so are those below. -/
theorem nodup_sitesOf {path : List String} (rs : List Relation) (h : AllKeysDistinct rs) :
    ((sitesOf path rs).map Prod.fst).Nodup := by
  cases rs with
  | nil => exact List.nodup_nil
  | cons r rs =>
    obtain ⟨hothers, hr, hrs⟩ := h
    rw [sitesOf, List.map_append, List.nodup_append]
    refine ⟨nodup_sites r hr, nodup_sitesOf rs hrs, fun a ha b hb heq => ?_⟩
    obtain ⟨site, hsite, rfl⟩ := List.mem_map.mp ha
    obtain ⟨site', hsite', rfl⟩ := List.mem_map.mp hb
    obtain ⟨s, hs, hsite'⟩ := mem_sitesOf.mp hsite'
    have hprefix := prefix_of_mem_sites r hsite
    have hprefix' := prefix_of_mem_sites s hsite'
    rw [← heq] at hprefix'
    have hkeys := List.prefix_of_prefix_length_le hprefix' hprefix (by simp)
    rw [List.prefix_append_right_inj, List.cons_prefix_cons] at hkeys
    exact hothers s hs hkeys.1
termination_by structural rs

end

end Relation

namespace Select

/-- A level with the keys that lead to it: the items that stand there, and the keys of the relations below. -/
structure Place where
  path : List String
  items : List SelectItem
  keys : List String
deriving DecidableEq

namespace Place

/-- The names of the items, where they are known, and of the relations. -/
def names (p : Place) : List String := p.items.filterMap SelectItem.outputName? ++ p.keys

/-- The items, each with the path that leads to it. -/
def asked (p : Place) : List SelectItem := p.items.map fun i => { i with path := p.path }

end Place

namespace Level

mutual

def places (path : List String) : Level → List Place
  | .node e items children =>
    ⟨path ++ [e.key], items, children.map Level.key⟩ :: placesOf (path ++ [e.key]) children

def placesOf (path : List String) : List Level → List Place
  | [] => []
  | l :: ls => places path l ++ placesOf path ls

end

theorem key_relation (l : Level) : (relation l).key = l.key := by
  cases l
  rfl

theorem allKeysDistinct_of_places (ls : List Level) {path : List String} (hkeys : (ls.map Level.key).Nodup)
    (h : ∀ p ∈ placesOf path ls, p.names.Nodup) : Relation.AllKeysDistinct (relations ls) := by
  match ls with
  | [] => trivial
  | .node e items children :: rest =>
    rw [placesOf, places] at h
    obtain ⟨hlevel, hrest⟩ := List.forall_mem_append.mp h
    obtain ⟨hchildren, hbelow⟩ := List.forall_mem_cons.mp hlevel
    obtain ⟨hkey, hothers⟩ := List.nodup_cons.mp hkeys
    refine ⟨fun s hs heq => hkey ?_, allKeysDistinct_of_places children (List.nodup_append.mp hchildren).2.1 hbelow,
      allKeysDistinct_of_places rest hothers hrest⟩
    rw [relations_eq_map] at hs
    obtain ⟨l, hl, rfl⟩ := List.mem_map.mp hs
    exact List.mem_map.mpr ⟨l, hl, by rw [← key_relation, heq]; rfl⟩
termination_by ls

/-- Where the names of every place differ, so do the keys of relations beside each other. -/
theorem allKeysDistinct_of_names {ls : List Level} {items : List SelectItem} {path : List String}
    (h : ∀ p ∈ ⟨path, items, ls.map Level.key⟩ :: placesOf path ls, p.names.Nodup) :
    Relation.AllKeysDistinct (relations ls) := by
  obtain ⟨hroot, hbelow⟩ := List.forall_mem_cons.mp h
  exact allKeysDistinct_of_places ls (List.nodup_append.mp hroot).2.1 hbelow

end Level

/-- The places of a selection with all items placed, the root's first. -/
def places (items : List SelectItem) (rs : List Relation) : List Place :=
  ⟨[], placedAt items [], rs.map Relation.key⟩ :: Level.placesOf [] (fillAll items [] rs)

/-! ### Each item at its place -/

/-- The columns that relations ask for themselves, each with the path of its relation. -/
def ownColumns (rs : List Relation) : List SelectItem :=
  (Relation.sitesOf [] rs).flatMap fun site => site.2.columns.map fun c => ⟨c, none, site.1⟩

theorem map_key_fillAll (items : List SelectItem) (path : List String) (rs : List Relation) :
    (fillAll items path rs).map Level.key = rs.map Relation.key := by
  rw [fillAll_eq_map, List.map_map]
  refine List.map_congr_left fun r _ => ?_
  cases r
  rfl

theorem map_path_placedAt (items : List SelectItem) (path : List String) :
    ((placedAt items path).map fun i => { i with path := path }) = items.filter fun i => i.path = path := by
  rw [placedAt, List.map_map]
  refine (List.map_congr_left fun i hi => ?_).trans (List.map_id _)
  obtain rfl : i.path = path := by simpa using (List.mem_filter.mp hi).2
  rfl

mutual

theorem asked_places_fill (items : List SelectItem) (path : List String) (r : Relation) :
    ((fill items path r).places path).flatMap Place.asked =
      (Relation.sites path r).flatMap fun site =>
        (site.2.columns.map fun c => ⟨c, none, site.1⟩) ++ items.filter fun i => i.path = site.1 := by
  cases r with
  | node e cs =>
    rw [fill, Level.places, List.flatMap_cons, asked_places_fillAll items _ cs, Relation.sites, List.flatMap_cons]
    simp only [Place.asked, List.map_append, List.map_map, map_path_placedAt]
    rfl
termination_by structural r

theorem asked_places_fillAll (items : List SelectItem) (path : List String) (rs : List Relation) :
    (Level.placesOf path (fillAll items path rs)).flatMap Place.asked =
      (Relation.sitesOf path rs).flatMap fun site =>
        (site.2.columns.map fun c => ⟨c, none, site.1⟩) ++ items.filter fun i => i.path = site.1 := by
  cases rs with
  | nil => rfl
  | cons r rs =>
    rw [fillAll, Level.placesOf, List.flatMap_append, asked_places_fill items path r,
      asked_places_fillAll items path rs, Relation.sitesOf, List.flatMap_append]
termination_by structural rs

end

/-- Sorted by a key that is among some given ones, a list has each of its items once. -/
theorem perm_flatMap_filter {α β : Type} [DecidableEq β] {f : α → β} {l : List α} {ks : List β} (hks : ks.Nodup)
    (h : ∀ a ∈ l, f a ∈ ks) : (ks.flatMap fun k => l.filter fun a => f a = k).Perm l := by
  induction ks generalizing l with
  | nil =>
    obtain rfl : l = [] := List.eq_nil_iff_forall_not_mem.mpr fun a ha => nomatch h a ha
    exact .nil
  | cons k ks ih =>
    obtain ⟨hk, hks⟩ := List.nodup_cons.mp hks
    have hrest : (ks.flatMap fun k' => l.filter fun a => f a = k') =
        ks.flatMap fun k' => (l.filter fun a => !decide (f a = k)).filter fun a => f a = k' := by
      refine List.flatMap_congr fun k' hk' => ?_
      rw [List.filter_filter]
      refine List.filter_congr fun a _ => ?_
      by_cases heq : f a = k'
      · have hne : f a ≠ k := by
          rintro rfl
          exact hk (heq ▸ hk')
        simp [heq, heq ▸ hne]
      · simp [heq]
    rw [List.flatMap_cons, hrest]
    refine (List.Perm.append_left _ (ih hks fun a ha => ?_)).trans (List.filter_append_perm _ l)
    obtain ⟨ha, hne⟩ := List.mem_filter.mp ha
    exact (List.mem_cons.mp (h a ha)).resolve_left (by simpa using hne)

theorem nodup_paths {rs : List Relation} (h : Relation.AllKeysDistinct rs) :
    ([] :: (Relation.sitesOf [] rs).map Prod.fst).Nodup := by
  refine List.nodup_cons.mpr ⟨fun hmem => ?_, Relation.nodup_sitesOf rs h⟩
  obtain ⟨site, hsite, hnil⟩ := List.mem_map.mp hmem
  exact Relation.sites_ne_nil hsite hnil

mutual

theorem path_places_fill (items : List SelectItem) (path : List String) (r : Relation) :
    ((fill items path r).places path).map Place.path = (Relation.sites path r).map Prod.fst := by
  cases r with
  | node e cs =>
    rw [fill, Level.places, List.map_cons, path_placesOf_fillAll items _ cs, Relation.sites, List.map_cons]
termination_by structural r

theorem path_placesOf_fillAll (items : List SelectItem) (path : List String) (rs : List Relation) :
    (Level.placesOf path (fillAll items path rs)).map Place.path = (Relation.sitesOf path rs).map Prod.fst := by
  cases rs with
  | nil => rfl
  | cons r rs =>
    rw [fillAll, Level.placesOf, List.map_append, path_places_fill items path r,
      path_placesOf_fillAll items path rs, Relation.sitesOf, List.map_append]
termination_by structural rs

end

/-- There is one place for the root and one for each relation. -/
theorem path_places (items : List SelectItem) (rs : List Relation) :
    (places items rs).map Place.path = [] :: (Relation.sitesOf [] rs).map Prod.fst := by
  rw [places, List.map_cons, path_placesOf_fillAll]

/-- **Every item stands once**, at the place its path names, beside the columns of the relations. -/
theorem perm_placed {items : List SelectItem} {rs : List Relation} (hkeys : Relation.AllKeysDistinct rs)
    (h : ∀ i ∈ items, i.path ≠ [] → ∃ e, (i.path, e) ∈ Relation.sitesOf [] rs) :
    ((places items rs).flatMap Place.asked).Perm (items ++ ownColumns rs) := by
  have hitems : ∀ i ∈ items, i.path ∈ [] :: (Relation.sitesOf [] rs).map Prod.fst := by
    intro i hi
    by_cases hroot : i.path = []
    · exact hroot ▸ List.mem_cons_self
    · obtain ⟨e, he⟩ := h i hi hroot
      exact List.mem_cons_of_mem _ (List.mem_map.mpr ⟨_, he, rfl⟩)
  have hplaced := perm_flatMap_filter (nodup_paths hkeys) hitems
  rw [List.flatMap_cons, List.flatMap_map] at hplaced
  rw [places, List.flatMap_cons, asked_places_fillAll, Place.asked, map_path_placedAt]
  have happly := List.flatMap_append_perm (Relation.sitesOf [] rs)
    (fun site => site.2.columns.map fun c => (⟨c, none, site.1⟩ : SelectItem))
    fun site => items.filter fun i => i.path = site.1
  refine (happly.symm.append_left _).trans ?_
  rw [← List.append_assoc]
  refine (List.perm_append_comm.append_right _).trans ?_
  rw [List.append_assoc]
  exact (hplaced.append_left _).trans List.perm_append_comm

/-! ### Claiming names -/

section Decides
variable {α β : Type} {P Q : Prop} {x : Except Error α} {a : α} {b : β}

/-- It gives a value if a condition holds, and finds a duplicate if it does not. -/
def Decides (P : Prop) (x : Except Error α) (a : α) : Prop :=
  (P → x = .ok a) ∧ (¬P → ∃ name, x = .error (.duplicateAlias name))

theorem Decides.congr (h : Decides P x a) (hiff : P ↔ Q) : Decides Q x a := by
  rwa [propext hiff] at h

theorem Decides.bind {f : α → Except Error β} (hx : Decides P x a) (hf : P → Decides Q (f a) b) :
    Decides (P ∧ Q) (x >>= f) b := by
  by_cases hP : P
  · rw [hx.1 hP]
    exact (hf hP).congr (by simp [hP])
  · obtain ⟨name, hname⟩ := hx.2 hP
    exact ⟨fun h => absurd h.1 hP, fun _ => ⟨name, by rw [hname]; rfl⟩⟩

theorem Decides.map {f : α → Except Error β} (hx : Decides P x a) (hf : f a = .ok b) :
    Decides P (x >>= f) b :=
  (hx.bind fun _ => (⟨fun _ => hf, fun h => absurd trivial h⟩ : Decides True _ _)).congr (by rw [and_true])

end Decides

theorem decides_claim (seen : List String) (name : String) :
    Decides (name ∉ seen) (claim seen name) (name :: seen) := by
  unfold claim
  constructor
  · intro h
    rw [if_neg (by simpa using h)]
  · intro h
    exact ⟨name, if_pos (by simpa using h)⟩

/-- One name more among those seen. -/
theorem nodup_claimed {name : String} {names seen : List String} :
    name ∉ seen ∧ (names ++ name :: seen).Nodup ↔ (name :: names ++ seen).Nodup := by
  rw [List.perm_middle.nodup_iff, List.cons_append, List.nodup_cons, List.mem_append]
  exact ⟨fun h => h.2, fun h => ⟨fun hmem => h.1 (.inr hmem), h⟩⟩

theorem decides_claimItems (items : List SelectItem) {seen : List String} (h : seen.Nodup) :
    Decides ((items.filterMap SelectItem.outputName? ++ seen).Nodup) (claimItems seen items)
      ((items.filterMap SelectItem.outputName?).reverse ++ seen) := by
  induction items generalizing seen with
  | nil => exact ⟨fun _ => rfl, fun hseen => absurd h hseen⟩
  | cons i items ih =>
    unfold claimItems at ih ⊢
    rw [List.foldlM_cons]
    cases hname : i.outputName? with
    | none =>
      rw [List.filterMap_cons_none hname]
      exact ih h
    | some name =>
      rw [List.filterMap_cons_some hname, List.reverse_cons, List.append_assoc, List.singleton_append]
      exact ((decides_claim seen name).bind fun hnew => ih (List.nodup_cons.mpr ⟨hnew, h⟩)).congr nodup_claimed

namespace Level

/-- A level is written out if its place has every name once and the levels below are written out. -/
theorem decides_renderLevel_of {items : List SelectItem} {children : List Level} {path : List String}
    (hchildren : ∀ {seen : List String}, seen.Nodup →
      Decides ((children.map Level.key ++ seen).Nodup ∧ ∀ p ∈ placesOf path children, p.names.Nodup)
        (renderLevels seen children) (texts children)) :
    Decides ((Place.names ⟨path, items, children.map Level.key⟩).Nodup ∧
        ∀ p ∈ placesOf path children, p.names.Nodup)
      (renderLevel items children) (items.map SelectItem.render ++ texts children) := by
  have hitems := decides_claimItems items List.nodup_nil
  rw [List.append_nil, List.append_nil] at hitems
  rw [renderLevel]
  refine (hitems.bind fun hnew =>
    (hchildren ((List.reverse_perm _).nodup_iff.mpr hnew)).map
      (f := fun below => .ok (items.map SelectItem.render ++ below)) rfl).congr ?_
  rw [Place.names, ← and_assoc, and_congr_left_iff]
  intro _
  rw [(List.perm_append_comm.trans ((List.reverse_perm _).append_right _)).nodup_iff]
  exact ⟨fun h => h.2, fun h => ⟨(List.nodup_append.mp h).1, h⟩⟩

/-- **Levels are written out** if and only if every place in them has its names only once, and their own keys are
new. -/
theorem decides_renderLevels (ls : List Level) (path : List String) {seen : List String} (h : seen.Nodup) :
    Decides ((ls.map Level.key ++ seen).Nodup ∧ ∀ p ∈ placesOf path ls, p.names.Nodup) (renderLevels seen ls)
      (texts ls) := by
  match ls with
  | [] =>
    rw [renderLevels]
    exact ⟨fun _ => rfl, fun hnot => absurd ⟨h, List.forall_mem_nil _⟩ hnot⟩
  | .node e items children :: rest =>
    have hlevel : Decides ((Place.names ⟨path ++ [e.key], items, children.map Level.key⟩).Nodup ∧
          ∀ p ∈ placesOf (path ++ [e.key]) children, p.names.Nodup)
        (renderLevel items children) (items.map SelectItem.render ++ texts children) :=
      decides_renderLevel_of fun hseen => decides_renderLevels children _ hseen
    have hrest (hnew : e.key ∉ seen) := decides_renderLevels rest path (List.nodup_cons.mpr ⟨hnew, h⟩)
    rw [renderLevels, texts, text]
    refine ((decides_claim seen e.key).bind fun hnew =>
      hlevel.bind fun _ => (hrest hnew).map (by rw [levelTexts_eq])).congr ?_
    rw [List.map_cons, placesOf, places, List.forall_mem_append, List.forall_mem_cons,
      show Level.key (.node e items children) = e.key from rfl, ← nodup_claimed]
    constructor
    · rintro ⟨hnew, hhere, hkeys, hothers⟩
      exact ⟨⟨hnew, hkeys⟩, hhere, hothers⟩
    · rintro ⟨⟨hnew, hkeys⟩, hhere, hothers⟩
      exact ⟨hnew, hhere, hkeys, hothers⟩
termination_by ls

/-- **A level is written out** if and only if every place from it on has its names only once. -/
theorem decides_renderLevel (items : List SelectItem) (children : List Level) (path : List String) :
    Decides (∀ p ∈ ⟨path, items, children.map Level.key⟩ :: placesOf path children, p.names.Nodup)
      (renderLevel items children) (items.map SelectItem.render ++ texts children) := by
  rw [List.forall_mem_cons]
  exact decides_renderLevel_of fun hseen => decides_renderLevels children path hseen

end Level

end Select
end TableQuery
