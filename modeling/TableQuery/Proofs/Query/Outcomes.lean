import TableQuery.Proofs.Query.Places

/-! What compiling a selection comes to.

A path is followed by taking, on each level, the first relation with the next key (`Relation.LeadsTo`). An item whose
path cannot be followed ends the compilation, and the first such item is the one that is named. Where there is none,
a name that a place has twice ends it, and otherwise the text of all places is written (`IsOutcome`). A path can be
followed if relations with its keys are declared below one another (`Relation.Declares`), as long as no two relations
beside each other share a key; where two do, the second is not looked at (`outcome_iff`). -/
namespace TableQuery

namespace Relation

/-- Relations below one another have the keys of the path. -/
def Declares : List Relation → List String → Prop
  | _, [] => True
  | rs, k :: rest => ∃ r ∈ rs, r.key = k ∧ Declares r.children rest

instance decidableDeclares : (rs : List Relation) → (path : List String) → Decidable (Declares rs path)
  | _, [] => .isTrue trivial
  | rs, k :: rest =>
    have (r : Relation) : Decidable (Declares r.children rest) := decidableDeclares r.children rest
    inferInstanceAs (Decidable (∃ r ∈ rs, r.key = k ∧ Declares r.children rest))

/-- So do those found by taking the first relation with each key. -/
def LeadsTo : List Relation → List String → Prop
  | _, [] => True
  | rs, k :: rest => ∃ r ∈ rs.find? fun r => r.key == k, LeadsTo r.children rest

instance decidableLeadsTo : (rs : List Relation) → (path : List String) → Decidable (LeadsTo rs path)
  | _, [] => .isTrue trivial
  | rs, k :: rest =>
    have (r : Relation) : Decidable (LeadsTo r.children rest) := decidableLeadsTo r.children rest
    inferInstanceAs (Decidable (∃ r ∈ rs.find? fun r => r.key == k, LeadsTo r.children rest))

theorem Declares.of_leadsTo {rs : List Relation} {path : List String} (h : LeadsTo rs path) : Declares rs path := by
  induction path generalizing rs with
  | nil => trivial
  | cons k rest ih =>
    obtain ⟨r, hr, hrest⟩ := h
    have hkey : r.key = k := by simpa using List.find?_some hr
    exact ⟨r, List.mem_of_find?_eq_some hr, hkey, ih hrest⟩

/-- The only relation with its key is the first one. -/
theorem find?_of_mem {rs : List Relation} (h : AllKeysDistinct rs) {r : Relation} (hr : r ∈ rs) :
    rs.find? (fun s => s.key == r.key) = some r ∧ AllKeysDistinct r.children := by
  obtain ⟨before, after, rfl⟩ := List.append_of_mem hr
  obtain ⟨hbefore, -, hbelow⟩ := Select.of_allKeysDistinct_append h
  refine ⟨?_, by cases r; exact hbelow⟩
  have hnone : before.find? (fun s => s.key == r.key) = none :=
    List.find?_eq_none.mpr fun s hs => by simpa using hbefore s hs
  rw [List.find?_append, hnone, List.find?_cons_of_pos (by simp)]
  rfl

theorem leadsTo_iff_declares {rs : List Relation} (h : AllKeysDistinct rs) (path : List String) :
    LeadsTo rs path ↔ Declares rs path := by
  refine ⟨.of_leadsTo, fun hdeclared => ?_⟩
  induction path generalizing rs with
  | nil => trivial
  | cons k rest ih =>
    obtain ⟨r, hr, rfl, hrest⟩ := hdeclared
    obtain ⟨hfirst, hbelow⟩ := find?_of_mem h hr
    exact ⟨r, hfirst, ih hbelow hrest⟩

end Relation

namespace Select

/-! ### Following paths -/

theorem isSome_modifyFirst? {α : Type} {p : α → Bool} {f : α → Option α} (l : List α) :
    (modifyFirst? p f l).isSome ↔ ∃ x ∈ l.find? p, (f x).isSome := by
  induction l with
  | nil => simp [modifyFirst?]
  | cons x l ih =>
    rw [modifyFirst?, List.find?_cons]
    cases p x <;> simp [ih]

theorem find?_relations (ls : List Level) (k : String) :
    (Level.relations ls).find? (fun r => r.key == k) = (ls.find? fun l => l.key == k).map Level.relation := by
  rw [Level.relations_eq_map, List.find?_map]
  simp only [Function.comp_def, Level.key_relation]

/-- An item is placed below levels if its path can be followed there. -/
theorem isSome_placeBelow (item : SelectItem) {p : List String} (hne : p ≠ []) (ls : List Level) :
    (placeBelow item p ls).isSome ↔ Relation.LeadsTo (Level.relations ls) p := by
  induction p generalizing ls with
  | nil => exact absurd rfl hne
  | cons k rest ih =>
    rw [Relation.LeadsTo, find?_relations]
    cases rest with
    | nil =>
      rw [placeBelow, isSome_modifyFirst?]
      cases ls.find? fun l => l.key == k with
      | none => simp
      | some l => cases l; simp [Relation.LeadsTo]
    | cons k' rest =>
      rw [placeBelow, isSome_modifyFirst?]
      · cases ls.find? fun l => l.key == k with
        | none => simp
        | some l =>
          obtain ⟨e, items, below⟩ := l
          simpa [Level.relation, Relation.children] using ih (by simp) below
      · simp

theorem place_of_leadsTo {root : Root} {item : SelectItem}
    (h : Relation.LeadsTo (Level.relations root.levels) item.path) : ∃ root', root.place item = .ok root' := by
  by_cases hpath : item.path = []
  · exact ⟨_, place_eq_ok.mpr (.inl ⟨hpath, rfl⟩)⟩
  · obtain ⟨levels, hlevels⟩ := Option.isSome_iff_exists.mp ((isSome_placeBelow item hpath root.levels).mpr h)
    exact ⟨_, place_eq_ok.mpr (.inr ⟨hpath, levels, hlevels, rfl⟩)⟩

theorem place_of_not_leadsTo {root : Root} {item : SelectItem}
    (h : ¬Relation.LeadsTo (Level.relations root.levels) item.path) :
    root.place item = .error (.undeclaredRelation (".".intercalate item.path)) := by
  have hpath : item.path ≠ [] := by
    intro hnil
    rw [hnil] at h
    exact h trivial
  have hnone : placeBelow item item.path root.levels = none := by
    rw [← isSome_placeBelow item hpath] at h
    simpa using h
  rw [Root.place, if_neg (by simpa using hpath), hnone]

/-- The dotted path of the first item whose path is not found. -/
def strayPath? (found : List String → Prop) [DecidablePred found] (items : List SelectItem) : Option String :=
  (items.find? fun i => !decide (found i.path)).map fun i => ".".intercalate i.path

theorem strayPath?_eq_none {found : List String → Prop} [DecidablePred found] {items : List SelectItem} :
    strayPath? found items = none ↔ ∀ i ∈ items, found i.path := by
  simp [strayPath?]

theorem strayPath?_congr {found found' : List String → Prop} [DecidablePred found] [DecidablePred found']
    (h : ∀ path, found path ↔ found' path) (items : List SelectItem) :
    strayPath? found items = strayPath? found' items := by
  simp [strayPath?, h]

/-- Items are placed one after the other, up to the first whose path cannot be followed. -/
theorem foldlM_place (items : List SelectItem) (root : Root) :
    match strayPath? (Relation.LeadsTo (Level.relations root.levels)) items with
    | none => ∃ root', items.foldlM Root.place root = .ok root'
    | some path => items.foldlM Root.place root = .error (.undeclaredRelation path) := by
  induction items generalizing root with
  | nil => exact ⟨root, rfl⟩
  | cons item items ih =>
    rw [List.foldlM_cons, strayPath?, List.find?_cons]
    by_cases hitem : Relation.LeadsTo (Level.relations root.levels) item.path
    · obtain ⟨next, hnext⟩ := place_of_leadsTo hitem
      have hrest := ih next
      rw [relations_place hnext, strayPath?] at hrest
      rw [hnext, decide_eq_true hitem]
      exact hrest
    · rw [place_of_not_leadsTo hitem, decide_eq_false hitem]
      rfl

theorem exists_placed {items : List SelectItem} {rs : List Relation}
    (h : strayPath? (Relation.LeadsTo rs) items = none) :
    ∃ root, items.foldlM Root.place ⟨[], Level.ofRelations rs⟩ = .ok root ∧ Level.relations root.levels = rs := by
  have hplaced := foldlM_place items ⟨[], Level.ofRelations rs⟩
  rw [Level.relations_ofRelations, h] at hplaced
  obtain ⟨root, hroot⟩ := hplaced
  exact ⟨root, hroot, by rw [relations_foldlM_place hroot, Level.relations_ofRelations]⟩

/-! ### Outcomes -/

mutual

theorem relation_fill (items : List SelectItem) (path : List String) (r : Relation) :
    (fill items path r).relation = r := by
  cases r with
  | node e cs => rw [fill, Level.relation, relations_fillAll]
termination_by structural r

theorem relations_fillAll (items : List SelectItem) (path : List String) (rs : List Relation) :
    Level.relations (fillAll items path rs) = rs := by
  cases rs with
  | nil => rfl
  | cons r rs => rw [fillAll, Level.relations, relation_fill, relations_fillAll]
termination_by structural rs

end

/-- The text of a selection with all items placed; none where nothing is asked for. -/
def layout (items : List SelectItem) (rs : List Relation) : Option String :=
  if items.isEmpty && rs.isEmpty then none
  else some (",".intercalate (levelTexts (placedAt items []) (Level.texts (fillAll items [] rs))))

/-- Every name stands once at its place. -/
def AllApart (items : List SelectItem) (rs : List Relation) : Prop := ∀ p ∈ places items rs, p.names.Nodup

theorem AllApart.allKeysDistinct {items : List SelectItem} {rs : List Relation} (h : AllApart items rs) :
    Relation.AllKeysDistinct rs := by
  rw [AllApart, places, ← map_key_fillAll items []] at h
  have hdistinct := Level.allKeysDistinct_of_names h
  rwa [relations_fillAll] at hdistinct

/-- What compiling comes to where paths are found in some way. -/
structure IsOutcome (found : List String → Prop) [DecidablePred found] (items : List SelectItem)
    (rs : List Relation) (out : Except Error (Option String)) : Prop where
  undeclared : ∀ path, strayPath? found items = some path → out = .error (.undeclaredRelation path)
  duplicate : strayPath? found items = none →
    ((∃ name, out = .error (.duplicateAlias name)) ↔ ¬AllApart items rs)
  laidOut : strayPath? found items = none → AllApart items rs → out = .ok (layout items rs)
  /-- Every item and every relation then has one place. -/
  once : strayPath? found items = none → AllApart items rs →
    ((places items rs).flatMap Place.asked).Perm (items ++ ownColumns rs) ∧
      (places items rs).map Place.path = [] :: (Relation.sitesOf [] rs).map Prod.fst ∧
      ((places items rs).map Place.path).Nodup

/-- The text of a selection, from that of its levels. -/
def textOf (items : List SelectItem) (parts : List String) : Option String :=
  some (",".intercalate (if items.all fun i => !i.path.isEmpty then "*" :: parts else parts))

theorem textOf_placed (items : List SelectItem) (below : List String) :
    textOf items ((placedAt items []).map SelectItem.render ++ below) =
      some (",".intercalate (levelTexts (placedAt items []) below)) := by
  rw [textOf, all_isEmpty_path, levelTexts_eq]

/-- Where all paths can be followed, compiling goes by the names at the places. -/
theorem decides_compile {items : List SelectItem} {rs : List Relation}
    (h : strayPath? (Relation.LeadsTo rs) items = none) :
    Decides (AllApart items rs) (compile items rs) (layout items rs) := by
  unfold compile layout
  split
  · next hempty =>
    simp only [Bool.and_eq_true, List.isEmpty_iff] at hempty
    obtain ⟨rfl, rfl⟩ := hempty
    refine ⟨fun _ => rfl, fun hnot => absurd ?_ hnot⟩
    exact List.forall_mem_singleton.mpr List.nodup_nil
  obtain ⟨root, hroot, hrelations⟩ := exists_placed h
  have hwritten := (Level.decides_renderLevel root.items root.levels []).map
    (f := fun parts => .ok (textOf items parts)) rfl
  rw [hroot]
  show Decides _ (renderLevel root.items root.levels >>= fun parts => .ok (textOf items parts)) _
  by_cases hkeys : Relation.AllKeysDistinct rs
  · obtain ⟨rfl, -⟩ := placed_of_foldlM hroot hkeys
    rw [map_key_fillAll, textOf_placed] at hwritten
    exact hwritten
  · -- The levels as they were placed are not those laid out, but neither have keys of their own.
    refine ⟨fun hapart => absurd hapart.allKeysDistinct hkeys, fun _ => hwritten.2 fun hapart => hkeys ?_⟩
    have hdistinct := Level.allKeysDistinct_of_names hapart
    rwa [hrelations] at hdistinct

theorem isOutcome_leadsTo (items : List SelectItem) (rs : List Relation) :
    IsOutcome (Relation.LeadsTo rs) items rs (compile items rs) where
  undeclared path hpath := by
    have hplaced := foldlM_place items ⟨[], Level.ofRelations rs⟩
    rw [Level.relations_ofRelations, hpath] at hplaced
    unfold compile
    split
    · next hempty =>
      simp only [Bool.and_eq_true, List.isEmpty_iff] at hempty
      rw [hempty.1] at hpath
      exact nomatch hpath
    · rw [hplaced]
      rfl
  duplicate hnone := by
    obtain ⟨hok, hduplicate⟩ := decides_compile hnone
    refine ⟨fun ⟨name, hname⟩ hapart => ?_, hduplicate⟩
    rw [hok hapart] at hname
    exact nomatch hname
  laidOut hnone := (decides_compile hnone).1
  once hnone hapart := by
    have hkeys := hapart.allKeysDistinct
    obtain ⟨root, hroot, -⟩ := exists_placed hnone
    rw [path_places]
    exact ⟨perm_placed hkeys (placed_of_foldlM hroot hkeys).2, rfl, nodup_paths hkeys⟩

/-- Outcomes go by the first path that is not found. -/
theorem IsOutcome.congr {found found' : List String → Prop} [DecidablePred found] [DecidablePred found']
    {items : List SelectItem} {rs : List Relation} {out : Except Error (Option String)}
    (hout : IsOutcome found items rs out) (h : strayPath? found items = strayPath? found' items) :
    IsOutcome found' items rs out where
  undeclared := by rw [← h]; exact hout.undeclared
  duplicate := by rw [← h]; exact hout.duplicate
  laidOut := by rw [← h]; exact hout.laidOut
  once := by rw [← h]; exact hout.once

/-- What a compilation comes to tells which path was not found. -/
theorem IsOutcome.strayPath? {found : List String → Prop} [DecidablePred found] {items : List SelectItem}
    {rs : List Relation} {path : String}
    (hout : IsOutcome found items rs (.error (.undeclaredRelation path))) : strayPath? found items = some path := by
  cases hstray : Select.strayPath? found items with
  | some path' =>
    have heq := hout.undeclared path' hstray
    injection heq with heq
    injection heq with heq
    rw [heq]
  | none =>
    by_cases hapart : AllApart items rs
    · exact nomatch hout.laidOut hstray hapart
    · obtain ⟨name, hname⟩ := (hout.duplicate hstray).mpr hapart
      exact nomatch hname

theorem allApart_of_compile {items : List SelectItem} {rs : List Relation} {out : Option String}
    (h : compile items rs = .ok out) : AllApart items rs := by
  have hout := isOutcome_leadsTo items rs
  rw [h] at hout
  have hnone : strayPath? (Relation.LeadsTo rs) items = none := by
    cases hstray : strayPath? (Relation.LeadsTo rs) items with
    | none => rfl
    | some path => exact nomatch hout.undeclared path hstray
  by_contra hnot
  obtain ⟨name, hname⟩ := (hout.duplicate hnone).mpr hnot
  exact nomatch hname

/-- **What compiling comes to.** The first item whose path cannot be followed is named; otherwise a name that stands
twice at a place ends it; otherwise the text is written, with each item at its place. Paths that are declared can be
followed where relations beside each other have keys of their own, and elsewhere this is what compiling comes to for
them if and only if they lead to the same item. -/
theorem outcome_iff (items : List SelectItem) (rs : List Relation) :
    IsOutcome (Relation.LeadsTo rs) items rs (compile items rs) ∧
      (Relation.AllKeysDistinct rs → IsOutcome (Relation.Declares rs) items rs (compile items rs)) ∧
      (IsOutcome (Relation.Declares rs) items rs (compile items rs) ↔
        strayPath? (Relation.LeadsTo rs) items = strayPath? (Relation.Declares rs) items) := by
  have hout := isOutcome_leadsTo items rs
  refine ⟨hout, fun hkeys => hout.congr (strayPath?_congr (Relation.leadsTo_iff_declares hkeys) items),
    fun hdeclared => ?_, hout.congr⟩
  cases hstray : strayPath? (Relation.LeadsTo rs) items with
  | some path =>
    rw [hout.undeclared path hstray] at hdeclared
    exact hdeclared.strayPath?.symm
  | none =>
    refine (strayPath?_eq_none.mpr fun i hi => .of_leadsTo ?_).symm
    exact strayPath?_eq_none.mp hstray i hi

/-- Posts, and posts with their comments under the same key. -/
def repeatedPosts : List Relation := [.ofName "posts", .node (.ofName "posts") [.ofName "comments"]]

/-- The text of the comments. -/
def commentBody : SelectItem := ⟨"body", none, ["posts", "comments"]⟩

/-- A path that is declared through the second of two relations with one key is not found, and not the key that they
share but the path is reported. -/
theorem second_posts_not_found :
    SelectItem.parse "posts.comments.body" = .ok commentBody ∧
      Relation.Declares repeatedPosts commentBody.path ∧ ¬AllApart [commentBody] repeatedPosts ∧
      compile [commentBody] repeatedPosts = .error (.undeclaredRelation "posts.comments") ∧
      ¬IsOutcome (Relation.Declares repeatedPosts) [commentBody] repeatedPosts
        (compile [commentBody] repeatedPosts) := by
  have hcompile : compile [commentBody] repeatedPosts = .error (.undeclaredRelation "posts.comments") := by cbv
  have hdeclared : Relation.Declares repeatedPosts commentBody.path := by decide
  refine ⟨rfl, hdeclared, fun hapart => ?_, hcompile, fun hout => ?_⟩
  · exact absurd hapart.allKeysDistinct fun hkeys => hkeys.1 _ List.mem_cons_self rfl
  · rw [hcompile] at hout
    have hstray := hout.strayPath?
    rw [strayPath?_eq_none.mpr (List.forall_mem_singleton.mpr hdeclared)] at hstray
    cases hstray

end Select
end TableQuery
