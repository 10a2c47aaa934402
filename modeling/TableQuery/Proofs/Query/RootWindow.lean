import TableQuery.Proofs.Query.Compile
import TableQuery.Proofs.Server.Reads

/-! Which parameters put a window over the table itself.

A parameter sets the root's limit or offset if its name is that word, alone or behind a dot only, and its value
is a number (`sameWindow_put`). A filter's value is no number, and a relation's window is named behind its key;
so nothing but its pagination puts a window over a query's table, unless a relation has the empty key
(`Query.keepsWindow_params`). -/
namespace TableQuery

namespace Server.Params
variable {p p' p'' : Params} {name value : String}

/-- The same window is asked of the root. -/
structure SameWindow (p p' : Params) : Prop where
  limit : (p'.scope "").limit = (p.scope "").limit
  offset : (p'.scope "").offset = (p.scope "").offset
  range : p'.range = p.range

namespace SameWindow

theorem refl (p : Params) : SameWindow p p := ⟨rfl, rfl, rfl⟩

theorem trans (h : SameWindow p p') (h' : SameWindow p' p'') : SameWindow p p'' :=
  ⟨h'.limit.trans h.limit, h'.offset.trans h.offset, h'.range.trans h.range⟩

end SameWindow

theorem sameWindow_modify (p : Params) (path : String) {f : Scope → Scope}
    (hf : path = "" → ∀ s, (f s).limit = s.limit ∧ (f s).offset = s.offset) : SameWindow p (p.modify path f) := by
  have hchanges := modify_changesAt p path f
  by_cases hpath : path = ""
  · obtain ⟨hlimit, hoffset⟩ := hf hpath (p.scope path)
    rw [← hchanges.here, hpath] at hlimit hoffset
    rw [hpath]
    exact ⟨hlimit, hoffset, rfl⟩
  · have hroot := hchanges.elsewhere "" fun h => hpath h.symm
    exact ⟨by rw [hroot], by rw [hroot], rfl⟩

/-- A parameter that puts no window over the root: its value is no number, or it is for another resource, or it
says something else. -/
def KeepsWindow (name value : String) : Prop :=
  Decimal.word64? value = none ∨ (splitKey name.toList).1 ≠ [] ∨
    (splitKey name.toList).2 ∉ ["limit".toList, "offset".toList]

/-- Such a parameter sets no limit and no offset of the root. -/
theorem KeepsWindow.ne_some (h : KeepsWindow name value) (hpath : String.ofList (splitKey name.toList).1 = "")
    (hname : String.ofList (splitKey name.toList).2 ∈ ["limit", "offset"]) (n : UInt64) :
    Decimal.word64? value ≠ some n := by
  rcases h with hnone | hother | hlast
  · rw [hnone]
    exact nofun
  · exact absurd (by simpa using hpath) hother
  · have hmem := List.mem_map_of_mem (f := String.toList) hname
    rw [String.toList_ofList] at hmem
    exact absurd hmem hlast

theorem sameWindow_put (h : p.put name value = .ok p') (hkeeps : KeepsWindow name value) : SameWindow p p' := by
  cases puts_of_put h with
  | select => exact ⟨rfl, rfl, rfl⟩
  | conflict => exact ⟨rfl, rfl, rfl⟩
  | columns => exact .refl p
  | scope _ hf =>
    refine sameWindow_modify p _ fun hpath s => ?_
    cases hf with
    | order => exact ⟨rfl, rfl⟩
    | limit hname hn => exact absurd hn (hkeeps.ne_some hpath (by simp [hname]) _)
    | offset hname hn => exact absurd hn (hkeeps.ne_some hpath (by simp [hname]) _)
    | condition => exact ⟨rfl, rfl⟩

theorem sameWindow_putAll {params : List Param} (h : p.putAll params = .ok p')
    (hkeeps : ∀ param ∈ params, KeepsWindow param.1 param.2) : SameWindow p p' := by
  induction params generalizing p with
  | nil => exact Except.ok.inj h ▸ .refl p
  | cons param params ih =>
    obtain ⟨hfirst, hrest⟩ := List.forall_mem_cons.mp hkeeps
    obtain ⟨p₁, hput, h⟩ := putAll_cons_ok h
    exact (sameWindow_put hput hfirst).trans (ih h hrest)

/-- Where no parameter and no header puts a window over the root, none is asked for. -/
theorem windowless_of_read {params : List Param} {headers : Http.Headers}
    (h : Params.read (Url.Form.encode params) headers = .ok p) (hrange : headers.text? "range" = none)
    (hkeeps : ∀ param ∈ params, KeepsWindow param.1 param.2) :
    (p.scope "").limit = none ∧ (p.scope "").offset = none ∧ p.range = none := by
  rw [read_without_range params hrange] at h
  obtain ⟨a, ha, rfl⟩ := Chained.map_eq_ok.mp h
  obtain ⟨-, hscopes, hnone⟩ := foldl_putPreference_eq (preferences headers) a
  have hkept := sameWindow_putAll ha hkeeps
  rw [scope, hscopes, ← scope]
  exact ⟨hkept.limit, hkept.offset, hnone.trans hkept.range⟩

theorem window_of_read {params : List Param} {headers : Http.Headers}
    (h : Params.read (Url.Form.encode params) headers = .ok p) (hrange : headers.text? "range" = none)
    (hkeeps : ∀ param ∈ params, KeepsWindow param.1 param.2) : p.window "" = (0, none) := by
  obtain ⟨hlimit, hoffset, hnone⟩ := windowless_of_read h hrange hkeeps
  rw [window_of_range hnone, hlimit, hoffset]
  rfl

/-! ### Parameters of relations -/

/-- A name that ends in the word of an order or a window is for the resource before the dot. -/
theorem splitKey_word {word : String} (hword : word ∈ ["order", "limit", "offset"]) (path : String) :
    splitKey (path ++ "." ++ word).toList = (path.toList, word.toList) := by
  have htext : (path ++ "." ++ word).toList = path.toList ++ '.' :: word.toList := by simp
  have hdot : '.' ∉ word.toList := by
    have hall : ∀ word ∈ ["order", "limit", "offset"], '.' ∉ word.toList := by decide
    exact hall word hword
  -- Behind a negation the word after the last dot would be that of a junction.
  have hplain (junction : List Char) (hj : '.' ∉ junction) (hne : word.toList ≠ junction) :
      pathBefore? ("not".toList ++ '.' :: junction) (path.toList ++ '.' :: word.toList) = none := by
    cases hbefore : pathBefore? ("not".toList ++ '.' :: junction) (path.toList ++ '.' :: word.toList) with
    | none => rfl
    | some before =>
      have hcut := Text.cutLast_append hdot path.toList
      rcases pathBefore?_eq_some hbefore with heq | heq
      · rw [heq, Text.cutLast_append hj] at hcut
        exact absurd (Prod.mk.inj (Option.some.inj hcut)).2.symm hne
      · rw [heq, ← List.cons_append, ← List.append_assoc, Text.cutLast_append hj] at hcut
        exact absurd (Prod.mk.inj (Option.some.inj hcut)).2.symm hne
  have hne : word.toList ≠ "or".toList ∧ word.toList ≠ "and".toList := by
    have hall : ∀ word ∈ ["order", "limit", "offset"],
        word.toList ≠ "or".toList ∧ word.toList ≠ "and".toList := by decide
    exact hall word hword
  have hnone : (negatedJunctions.findSome? fun last =>
      (pathBefore? last (path.toList ++ '.' :: word.toList)).map fun path => (path, last)) = none := by
    rw [negatedJunctions, List.findSome?_cons,
      show "not.or".toList = "not".toList ++ '.' :: "or".toList by decide, hplain _ (by decide) hne.1,
      Option.map_none, List.findSome?_cons,
      show "not.and".toList = "not".toList ++ '.' :: "and".toList by decide, hplain _ (by decide) hne.2]
    rfl
  rw [htext, splitKey, hnone, Text.cutLast_append hdot]
  rfl

end Server.Params

/-! ### Parameters of queries -/

open Server.Params

/-- What an operator's text starts with is no digit and no sign. -/
theorem Operator.exists_render (op : Operator) :
    ∃ c cs, op.render.toList = c :: cs ∧ Decimal.digit? c = none ∧ c ≠ '+' := by
  cases op with
  | search kind config =>
    cases kind <;> cases config <;>
      exact ⟨_, _, by simp [render, config?, name, SearchKind.name]; exact ⟨rfl, rfl⟩, by decide, by decide⟩
  | _ => exact ⟨_, _, rfl, by decide, by decide⟩

/-- The value of a filter's parameter is no number. -/
theorem Filter.word64?_paramAs {path name value : String} (f : Filter) {negated : Bool}
    (h : f.paramAs path negated = .ok (name, value)) : Decimal.word64? value = none := by
  cases f with
  | leaf l =>
    rw [paramAs] at h
    obtain ⟨t, ht, h⟩ := Chained.bind_eq_ok.mp h
    obtain ⟨-, rfl⟩ := Prod.mk.inj (Except.ok.inj h)
    obtain ⟨hnegated, hoperator, -⟩ := Operator.encodeValue_of_encode ht
    cases negated with
    | true =>
      have htext : (if true then t.negate else t).render.toList =
          'n' :: ("ot.".toList ++ (t.operator.toList ++ '.' :: t.value.toList)) := by
        simp [Token.render, Token.compose, Token.negate, hnegated]
      exact Decimal.word64?_eq_none htext (by decide) (by decide)
    | false =>
      obtain ⟨c, cs, hcs, hdigit, hplus⟩ := l.operator.exists_render
      have htext : (if false then t.negate else t).render.toList = c :: (cs ++ '.' :: t.value.toList) := by
        simp [Token.render, Token.compose, hnegated, hoperator, hcs]
      exact Decimal.word64?_eq_none htext hdigit hplus
  | group j members =>
    rw [paramAs] at h
    obtain ⟨body, hbody, h⟩ := Chained.bind_eq_ok.mp h
    obtain ⟨-, rfl⟩ := Prod.mk.inj (Except.ok.inj h)
    rw [renderBody.eq_def] at hbody
    cases members with
    | nil => cases hbody
    | cons f fs =>
      obtain ⟨parts, -, hbody⟩ := Chained.bind_eq_ok.mp hbody
      obtain rfl := Except.ok.inj hbody
      have htext : ("(" ++ ",".intercalate parts ++ ")").toList =
          '(' :: (",".intercalate parts ++ ")").toList := by
        simp
      exact Decimal.word64?_eq_none htext (by decide) (by decide)
  | not f =>
    rw [paramAs] at h
    exact word64?_paramAs f h
termination_by structural f

theorem Filter.keepsWindow_params {path : String} {fs : List Filter} {params : List Param}
    (h : Filter.params path fs = .ok params) : ∀ param ∈ params, KeepsWindow param.1 param.2 := by
  have hall := Chained.mapM_eq_ok.mp h
  clear h
  induction hall with
  | nil => exact fun _ hmem => nomatch hmem
  | cons hparam _ ih => exact List.forall_mem_cons.mpr ⟨.inl (word64?_paramAs _ hparam), ih⟩

theorem keepsWindow_word {word : String} (hword : word ∈ ["order", "limit", "offset"]) {path : String}
    (hpath : path ≠ "") (value : String) : KeepsWindow (path ++ "." ++ word) value := by
  refine .inr (.inl ?_)
  rw [splitKey_word hword]
  simpa using hpath

namespace Relation

mutual

/-- What a relation adds puts no window over the root, if there is a key before it. -/
theorem keepsWindow_hoistOne {parent : String} {r : Relation} {params : List Param} (hkey : parent ++ r.key ≠ "")
    (h : hoistOne parent r = .ok params) : ∀ param ∈ params, KeepsWindow param.1 param.2 := by
  cases r with
  | node e cs =>
    obtain ⟨filters, below, hfilters, hbelow, rfl⟩ := of_hoistOne_node h
    have hown : ∀ param ∈ ownParams (parent ++ e.key ++ ".") e, KeepsWindow param.1 param.2 := by
      intro param hmem
      obtain ⟨word, hword, hname⟩ := name_of_ownParams param hmem
      rw [hname]
      exact keepsWindow_word hword hkey param.2
    have hchildren := keepsWindow_hoistAll (fun r _ => by simp) hbelow
    exact List.forall_mem_append.mpr
      ⟨List.forall_mem_append.mpr ⟨Filter.keepsWindow_params hfilters, hown⟩, hchildren⟩

theorem keepsWindow_hoistAll {parent : String} {rs : List Relation} {params : List Param}
    (hkeys : ∀ r ∈ rs, parent ++ r.key ≠ "") (h : hoistAll parent rs = .ok params) :
    ∀ param ∈ params, KeepsWindow param.1 param.2 := by
  cases rs with
  | nil =>
    obtain rfl := Except.ok.inj h
    exact fun _ hmem => nomatch hmem
  | cons r rs =>
    obtain ⟨hfirst, hrest⟩ := List.forall_mem_cons.mp hkeys
    obtain ⟨first, others, hone, hothers, rfl⟩ := of_hoistAll_cons h
    exact List.forall_mem_append.mpr ⟨keepsWindow_hoistOne hfirst hone, keepsWindow_hoistAll hrest hothers⟩

end

end Relation

namespace Query
variable {q : Query} {mode : Mode} {r : Request}

/-- The parameters of a query put no window over its table if its pagination has none for it, and its relations
have keys. -/
theorem keepsWindow_of_params_nil (h : q.compileAs mode = .ok r)
    (hwindow : ∀ w, q.renderedPagination = .ok w → w.params = []) (hkeys : ∀ r ∈ q.relations, r.key ≠ "") :
    ∀ param ∈ r.params, KeepsWindow param.1 param.2 := by
  obtain ⟨-, -, -, -, select, filters, w, cursor, hoisted, -, hfilters, hrendered, hcursor, hhoist, rfl⟩ :=
    parts_of_compileAs h
  have hrelations := Relation.keepsWindow_hoistAll (fun r hr => by simpa using hkeys r hr) hhoist
  have hword : ∀ word ∈ ["select", "order"], (splitKey word.toList).2 ∉ ["limit".toList, "offset".toList] := by
    decide
  simp only [hwindow w hrendered, List.append_nil, List.forall_mem_append]
  refine ⟨⟨⟨⟨?_, Filter.keepsWindow_params hfilters⟩, Filter.keepsWindow_params hcursor⟩, hrelations⟩, ?_⟩
  · cases select with
    | none => exact List.forall_mem_nil _
    | some text => exact List.forall_mem_singleton.mpr (.inr (.inr (hword "select" (by decide))))
  · cases SortKey.renderAll? (q.order ++ w.order) with
    | none => exact List.forall_mem_nil _
    | some keys => exact List.forall_mem_singleton.mpr (.inr (.inr (hword "order" (by decide))))

/-- **The parameters of a query put no window over its table**, its pagination and relations without a key
apart. -/
theorem keepsWindow_params (h : q.compileAs mode = .ok r) (hnone : q.pagination = none)
    (hkeys : ∀ r ∈ q.relations, r.key ≠ "") : ∀ param ∈ r.params, KeepsWindow param.1 param.2 := by
  refine keepsWindow_of_params_nil h (fun w hw => ?_) hkeys
  rw [renderedPagination, hnone] at hw
  exact Except.ok.inj hw ▸ rfl

end Query
end TableQuery
