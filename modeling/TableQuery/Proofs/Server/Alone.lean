import TableQuery.Proofs.Server.Reads

/-! Requests for a resource alone.

Parameters for an embedded resource, and for those below it, are named behind its path. With the path taken away
they ask the same of the table itself, and of the resources below under the paths that lead there from the table
(`Params.alone`). Names are cut in the same places before and after (`Params.splitKey_last`,
`Params.splitKey_rest`), so both requests are read alike (`Params.read_alone`), and rows are put together alike
(`Store.projectItems_alone`) where every resource has a key. -/
namespace TableQuery.Server

/-! ### Names -/

namespace Params

/-- A name is a path and a last part: a negated junction, or what stands behind the last dot. -/
structure IsCut (key path last : List Char) : Prop where
  whole : path = [] ∧ key = last ∨ key = path ++ '.' :: last
  last : last ∈ negatedJunctions ∨ '.' ∉ last ∧ ∀ word ∈ negatedJunctions, pathBefore? word key = none

theorem isCut_splitKey (key : List Char) : IsCut key (splitKey key).1 (splitKey key).2 := by
  unfold splitKey
  cases hword : negatedJunctions.findSome? fun last => (pathBefore? last key).map fun path => (path, last) with
  | some cut =>
    obtain ⟨word, hmem, hcut⟩ := List.exists_of_findSome?_eq_some hword
    obtain ⟨path, hpath, rfl⟩ := Option.map_eq_some_iff.mp hcut
    refine ⟨?_, .inl hmem⟩
    by_cases heq : key = word
    · rw [pathBefore?, if_pos heq] at hpath
      exact .inl ⟨(Option.some.inj hpath).symm, heq⟩
    · exact .inr ((pathBefore?_eq_some hpath).resolve_left heq)
  | none =>
    have hnone : ∀ word ∈ negatedJunctions, pathBefore? word key = none := fun word hmem =>
      Option.map_eq_none_iff.mp (List.findSome?_eq_none_iff.mp hword word hmem)
    by_cases hdot : '.' ∈ key
    · obtain ⟨last, path, hreverse, hlast⟩ := List.eq_append_cons_of_mem (List.mem_reverse.mpr hdot)
      have hkey : key = path.reverse ++ '.' :: last.reverse := by
        rw [← List.reverse_reverse key, hreverse]
        simp
      rw [← List.mem_reverse] at hlast
      subst hkey
      rw [Text.cutLast_append hlast]
      exact ⟨.inr rfl, .inr ⟨hlast, hnone⟩⟩
    · rw [Text.cutLast_of_not_mem hdot]
      exact ⟨.inl ⟨rfl, rfl⟩, .inr ⟨hdot, hnone⟩⟩

theorem pathBefore?_behind {last key path : List Char} (h : pathBefore? last key = some path) (start : List Char) :
    pathBefore? last (start ++ '.' :: key) ≠ none := by
  rcases pathBefore?_eq_some h with rfl | rfl
  · rw [pathBefore?_append]
    exact Option.some_ne_none _
  · rw [show start ++ '.' :: (path ++ '.' :: last) = (start ++ '.' :: path) ++ '.' :: last by simp,
      pathBefore?_append]
    exact Option.some_ne_none _

/-- A negated junction stays whole behind a path. -/
theorem splitKey_junction (path : List Char) {word : List Char} (h : word ∈ negatedJunctions) :
    splitKey word = ([], word) ∧ splitKey (path ++ '.' :: word) = (path, word) := by
  have hother : pathBefore? "not.or".toList (path ++ '.' :: "not.and".toList) = none := by
    cases hbefore : pathBefore? "not.or".toList (path ++ '.' :: "not.and".toList) with
    | none => rfl
    | some before =>
      have hlast : (path ++ '.' :: "not.and".toList).getLast? = some 'r' := by
        rcases pathBefore?_eq_some hbefore with heq | heq <;> rw [heq] <;> simp
      simp at hlast
  simp only [negatedJunctions, List.mem_cons, List.not_mem_nil, or_false] at h
  rcases h with rfl | rfl
  · refine ⟨by decide, ?_⟩
    simp [splitKey, negatedJunctions, pathBefore?_append]
  · refine ⟨by decide, ?_⟩
    rw [splitKey, negatedJunctions, List.findSome?_cons, hother, Option.map_none, List.findSome?_cons,
      pathBefore?_append]
    rfl

theorem splitKey_of_no_word {key : List Char} (h : ∀ word ∈ negatedJunctions, pathBefore? word key = none) :
    splitKey key = (Text.cutLast '.' key).getD ([], key) := by
  have hnone : (negatedJunctions.findSome? fun last => (pathBefore? last key).map fun path => (path, last)) = none :=
    List.findSome?_eq_none_iff.mpr fun word hmem => Option.map_eq_none_iff.mpr (h word hmem)
  rw [splitKey, hnone]

/-- The last part of a name is a name without a path. -/
theorem splitKey_last (key : List Char) : splitKey (splitKey key).2 = ([], (splitKey key).2) := by
  rcases (isCut_splitKey key).last with hword | ⟨hdot, -⟩
  · exact (splitKey_junction [] hword).1
  · refine (splitKey_of_no_word fun word hmem => ?_).trans ?_
    · have hword : '.' ∈ word := (by decide : ∀ word ∈ negatedJunctions, '.' ∈ word) word hmem
      cases hbefore : pathBefore? word (splitKey key).2 with
      | none => rfl
      | some path =>
        refine absurd ?_ hdot
        rcases pathBefore?_eq_some hbefore with heq | heq <;> rw [heq] <;> simp [hword]
    · rw [Text.cutLast_of_not_mem hdot]
      rfl

/-- With the start of its path taken away, a name is cut where it was. -/
theorem splitKey_rest {key start rest : List Char} (h : (splitKey key).1 = start ++ '.' :: rest) :
    splitKey (rest ++ '.' :: (splitKey key).2) = (rest, (splitKey key).2) := by
  obtain ⟨hwhole, hlast⟩ := isCut_splitKey key
  rcases hlast with hword | ⟨hdot, hnone⟩
  · exact (splitKey_junction _ hword).2
  · have hkey : key = start ++ '.' :: (rest ++ '.' :: (splitKey key).2) := by
      rcases hwhole with ⟨hroot, -⟩ | hkey
      · rw [hroot] at h
        simp at h
      · rw [h] at hkey
        simpa using hkey
    refine (splitKey_of_no_word fun word hmem => ?_).trans ?_
    · cases hbefore : pathBefore? word (rest ++ '.' :: (splitKey key).2) with
      | none => rfl
      | some path => exact absurd (hkey ▸ hnone word hmem) (pathBefore?_behind hbefore start)
    · rw [Text.cutLast_append hdot]
      rfl

/-! ### Paths -/

/-- The path that leads from one resource to another, the empty one to itself. -/
def pathFrom? (start path : List Char) : Option (List Char) :=
  if path = start then some [] else ((start ++ ['.']).isPrefixOf? path).filter fun rest => !rest.isEmpty

/-- The path of a resource that another one leads to. -/
def under (start path : String) : String := if path = "" then start else Store.childPath start path

variable {start path : String}

theorem toList_under (hstart : start ≠ "") (path : String) :
    (under start path).toList = if path.toList = [] then start.toList else start.toList ++ '.' :: path.toList := by
  unfold under Store.childPath
  by_cases hpath : path = "" <;> simp [hpath, hstart]

theorem under_inj (hstart : start ≠ "") {path' : String} (h : under start path = under start path') :
    path = path' := by
  have htexts := congrArg String.toList h
  rw [toList_under hstart, toList_under hstart] at htexts
  refine String.toList_inj.mp ?_
  split at htexts <;> split at htexts <;> simp_all

theorem pathFrom?_eq_some_iff (hstart : start ≠ "") {path rest : List Char} :
    pathFrom? start.toList path = some rest ↔ String.ofList path = under start (String.ofList rest) := by
  rw [← String.toList_inj, toList_under hstart, String.toList_ofList, String.toList_ofList, pathFrom?]
  split
  · next heq =>
    subst heq
    split <;> simp_all [eq_comm (a := ([] : List Char))]
  · next hne =>
    rw [Option.filter_eq_some_iff, List.isPrefixOf?_eq_some_iff_append_eq]
    split <;> simp_all [eq_comm (a := path)]

/-! ### Parameters -/

/-- The name that a parameter for a resource, or for one below it, has in a request for the resource alone. -/
def aloneName? (start name : String) : Option String :=
  let cut := splitKey name.toList
  (pathFrom? start.toList cut.1).map fun rest => String.ofList (if rest.isEmpty then cut.2 else rest ++ '.' :: cut.2)

/-- The parameters for a resource and for those below it, as a request for the resource alone has them. -/
def alone (start : String) (params : List Param) : List Param :=
  params.filterMap fun param => (aloneName? start param.1).map fun name => (name, param.2)

/-- What one request asks under a path is what the other, which has no range, asks without it. -/
structure AsksAlone (start : String) (p p' : Params) : Prop where
  range : p'.range = none
  scope : ∀ path, p'.scope path = p.scope (under start path)

theorem aloneName?_eq_some (hstart : start ≠ "") {name name' : String} (h : aloneName? start name = some name') :
    ∃ path last : String, splitKey name.toList = ((under start path).toList, last.toList) ∧
      splitKey name'.toList = (path.toList, last.toList) := by
  obtain ⟨rest, hrest, rfl⟩ := Option.map_eq_some_iff.mp h
  have hpath := congrArg String.toList ((pathFrom?_eq_some_iff hstart).mp hrest)
  rw [String.toList_ofList] at hpath
  refine ⟨String.ofList rest, String.ofList (splitKey name.toList).2, ?_, ?_⟩
  · rw [← hpath, String.toList_ofList]
  · rw [toList_under hstart] at hpath
    simp only [String.toList_ofList] at hpath ⊢
    split at hpath
    · next hroot =>
      subst hroot
      exact splitKey_last name.toList
    · next hbelow =>
      rw [if_neg (by simpa using hbelow)]
      exact splitKey_rest hpath

theorem aloneName?_eq_none (hstart : start ≠ "") {name : String} (h : aloneName? start name = none) (path : String) :
    under start path ≠ String.ofList (splitKey name.toList).1 := by
  intro heq
  have hrest : pathFrom? start.toList (splitKey name.toList).1 = some path.toList :=
    (pathFrom?_eq_some_iff hstart).mpr (by rw [String.ofList_toList, heq])
  rw [aloneName?, hrest] at h
  cases h

variable {p p' p₁ : Params} {name name' value : String}

/-- Taken in alone, a parameter for a resource asks of it what it asks among the others. -/
theorem put_alone (hstart : start ≠ "") (h : AsksAlone start p p') (hput : p.put name value = .ok p₁)
    (hname : aloneName? start name = some name') (hfree : name' ∉ wholeNames) :
    ∃ p₁', p'.put name' value = .ok p₁' ∧ AsksAlone start p₁ p₁' ∧ p₁'.select = p'.select := by
  obtain ⟨path, last, hcut, hcut'⟩ := aloneName?_eq_some hstart hname
  have hwhole : name ∉ wholeNames := by
    intro hmem
    have hroot : ∀ word ∈ wholeNames, (splitKey word.toList).1 = [] := by decide
    have hempty := hroot name hmem
    rw [hcut] at hempty
    exact absurd hempty (by rw [toList_under hstart]; split <;> simp [hstart])
  obtain ⟨change, hchange, -⟩ := exists_putScoped last value
  rw [put_of_splitKey p value hwhole hcut, hchange] at hput
  obtain ⟨f, rfl, rfl⟩ := Chained.map_eq_ok.mp hput
  refine ⟨p'.modify path f, ?_, ⟨h.range, fun other => ?_⟩, rfl⟩
  · rw [put_of_splitKey p' value hfree hcut', hchange]
    rfl
  · by_cases hother : other = path
    · subst hother
      rw [scope_modify_self, scope_modify_self, h.scope other]
    · rw [(modify_changesAt p' path f).elsewhere other hother,
        (modify_changesAt p (under start path) f).elsewhere _ fun heq => hother (under_inj hstart heq), h.scope other]

/-- A parameter for another resource changes nothing here. -/
theorem put_elsewhere (hstart : start ≠ "") (h : AsksAlone start p p') (hput : p.put name value = .ok p₁)
    (hname : aloneName? start name = none) : AsksAlone start p₁ p' := by
  cases puts_of_put hput with
  | select => exact ⟨h.range, h.scope⟩
  | conflict => exact ⟨h.range, h.scope⟩
  | columns => exact h
  | @scope f =>
    refine ⟨h.range, fun path => ?_⟩
    rw [(modify_changesAt p _ f).elsewhere _ (aloneName?_eq_none hstart hname path), h.scope path]

theorem putAll_alone (hstart : start ≠ "") {params : List Param} (h : AsksAlone start p p')
    (hput : p.putAll params = .ok p₁) (hfree : ∀ param ∈ alone start params, param.1 ∉ wholeNames) :
    ∃ p₁', p'.putAll (alone start params) = .ok p₁' ∧ AsksAlone start p₁ p₁' ∧ p₁'.select = p'.select := by
  induction params generalizing p p' with
  | nil =>
    obtain rfl := Except.ok.inj hput
    exact ⟨p', rfl, h, rfl⟩
  | cons param params ih =>
    obtain ⟨p₂, hfirst, hput⟩ := putAll_cons_ok hput
    cases hname : aloneName? start param.1 with
    | none =>
      have halone : alone start (param :: params) = alone start params := by
        rw [alone, List.filterMap_cons, hname]
        rfl
      rw [halone] at hfree ⊢
      exact ih (put_elsewhere hstart h hfirst hname) hput hfree
    | some name =>
      have halone : alone start (param :: params) = (name, param.2) :: alone start params := by
        rw [alone, List.filterMap_cons, hname]
        rfl
      rw [halone] at hfree ⊢
      obtain ⟨hname', hrest⟩ := List.forall_mem_cons.mp hfree
      obtain ⟨p₂', hfirst', h₂, hselect⟩ := put_alone hstart h hfirst hname hname'
      obtain ⟨p₁', hall, h₁, hselect'⟩ := ih h₂ hput hrest
      refine ⟨p₁', ?_, h₁, hselect'.trans hselect⟩
      rw [← List.singleton_append, putAll_append ((putAll_singleton p' name param.2).trans hfirst'), hall]

/-- **A request for a resource alone.** Where a request can be read, the one that selects the same items of a
resource and has the parameters for it and for those below it can be read, and asks the same of them. -/
theorem read_alone {params : List Param} {headers headers' : Http.Headers} {text : String} {items : List Projection}
    (hstart : start ≠ "") (hread : Params.read (Url.Form.encode params) headers = .ok p)
    (hfree : ∀ param ∈ alone start params, param.1 ∉ wholeNames) (hselect : parseSelect text.toList = .ok items)
    (hrange : headers'.text? "range" = none) :
    ∃ p', Params.read (Url.Form.encode (("select", text) :: alone start params)) headers' = .ok p' ∧
      p'.items = items ∧ AsksAlone start p p' := by
  obtain ⟨p₀, hput, hscopes⟩ := putAll_of_read hread
  have hfirst : Params.empty.put "select" text = .ok { Params.empty with select := some items } := by
    unfold put
    dsimp only
    rw [hselect]
    rfl
  have hempty : AsksAlone start .empty { Params.empty with select := some items } := ⟨rfl, fun _ => rfl⟩
  obtain ⟨p', hput', halone, hselect'⟩ := putAll_alone hstart hempty hput hfree
  obtain ⟨hwords, -, hwordRange⟩ := foldl_putPreference_eq (preferences headers') p'
  refine ⟨(preferences headers').foldl putPreference p', ?_, ?_, hwordRange.trans halone.range, fun path => ?_⟩
  · rw [read_without_range _ hrange, ← List.singleton_append,
      putAll_append ((putAll_singleton .empty "select" text).trans hfirst), hput']
    rfl
  · rw [Params.items, hwords, hselect']
    rfl
  · rw [scope_foldl_putPreference, halone.scope path, hscopes]

end Params

/-! ### Rows -/

mutual

/-- Every resource that is embedded, at any depth, has a key. -/
def Projection.IsKeyed : Projection → Prop
  | .star => True
  | .column _ _ _ => True
  | .embed key _ _ _ items => key ≠ "" ∧ Projection.AllKeyed items

def Projection.AllKeyed : List Projection → Prop
  | [] => True
  | item :: items => item.IsKeyed ∧ Projection.AllKeyed items

end

namespace Store
variable {s : Store} {p p' : Params} {start : String}

theorem under_childPath (hstart : start ≠ "") {key : String} (hkey : key ≠ "") (path : String) :
    Params.under start (childPath path key) = childPath (Params.under start path) key := by
  by_cases hpath : path = ""
  · subst hpath
    simp [Params.under, childPath, hkey]
  · simp [Params.under, childPath, hpath, hstart, String.append_assoc]

theorem under_ne_empty (hstart : start ≠ "") (path : String) : Params.under start path ≠ "" := by
  intro heq
  have htext := congrArg String.toList heq
  rw [Params.toList_under hstart] at htext
  split at htext <;> simp_all

theorem window_alone (hstart : start ≠ "") (h : Params.AsksAlone start p p') (path : String) :
    p'.window path = p.window (Params.under start path) := by
  rw [Params.window_of_range h.range, h.scope path, Params.window_below p (under_ne_empty hstart path)]

/-- There is no range over either. -/
theorem checkWindow_alone (hstart : start ≠ "") (h : Params.AsksAlone start p p') (path : String) :
    p'.checkWindow path = .ok () ∧ p.checkWindow (Params.under start path) = .ok () :=
  ⟨Params.checkWindow_of_range h.range path, Params.checkWindow_below p (under_ne_empty hstart path)⟩

theorem related_alone (hstart : start ≠ "") (h : Params.AsksAlone start p p') (path : String) :
    s.related p' path = s.related p (Params.under start path) := by
  obtain ⟨hcheck, hcheck'⟩ := checkWindow_alone hstart h path
  funext parent child hint row
  rw [related, related, window_alone hstart h, h.scope path, hcheck, hcheck']

mutual

/-- An item returns the same in a request for the resource alone. -/
theorem projectItem_alone (hstart : start ≠ "") (h : Params.AsksAlone start p p') (path name : String) (row : Row)
    (out : Fields) (item : Projection) (hitem : item.IsKeyed) :
    s.projectItem p' path name row out item = s.projectItem p (Params.under start path) name row out item := by
  cases item with
  | star => rfl
  | column key column cast => rfl
  | embed key child hint inner items =>
    have hitems (c : Row) := projectItems_alone hstart h (childPath path key) child c [] items hitem.2
    rw [under_childPath hstart hitem.1] at hitems
    unfold projectItem
    simp only [related_alone hstart h, under_childPath hstart hitem.1, hitems]

/-- So do all items. -/
theorem projectItems_alone (hstart : start ≠ "") (h : Params.AsksAlone start p p') (path name : String) (row : Row)
    (out : Fields) (items : List Projection) (hitems : Projection.AllKeyed items) :
    s.projectItems p' path name row out items = s.projectItems p (Params.under start path) name row out items := by
  cases items with
  | nil => rfl
  | cons item items =>
    have hfirst := projectItem_alone hstart h path name row out item hitems.1
    have hrest (out : Fields) := projectItems_alone hstart h path name row out items hitems.2
    unfold projectItems
    simp only [hfirst, hrest]

end

end Store
end TableQuery.Server
