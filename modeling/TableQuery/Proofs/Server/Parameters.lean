import TableQuery.Order
import TableQuery.Proofs.Decimal
import TableQuery.Proofs.Server.Groups
import TableQuery.Proofs.Server.Names
import TableQuery.Proofs.Url.Form

/-! What parameters ask of a resource.

A parameter is for a request as a whole, or changes the scope of one resource (`puts_of_put`, `ChangesAt`).
With names that are none of the words of request syntax, what a filter, a list of sort keys or a limit
becomes behind the prefix of a path is taken in at that path: the filter as a condition that holds where it
does (`put_filters`), the keys as the terms they stand for (`put_order`), the number as it is
(`put_window`). -/
namespace TableQuery
open Server

/-- The words that name no column and no resource in a request. -/
def grammarWords : List String :=
  ["select", "columns", "on_conflict", "order", "limit", "offset", "or", "and", "not"]

/-- An identifier that is none of these words. -/
def IsFreeName (name : String) : Prop := isIdentifier name = true ∧ name ∉ grammarWords

instance (name : String) : Decidable (IsFreeName name) := inferInstanceAs (Decidable (_ ∧ _))

namespace Server.Params

/-- Takes parameters in, one after the other. -/
def putAll (p : Params) (params : List Param) : Except Rejection Params :=
  params.foldlM (fun p pair => p.put pair.1 pair.2) p

theorem putAll_append {p p' : Params} {params : List Param} (h : p.putAll params = .ok p')
    (others : List Param) : p.putAll (params ++ others) = p'.putAll others := by
  unfold putAll at h ⊢
  rw [List.foldlM_append, h]
  rfl

theorem putAll_append_ok {p p' : Params} {params others : List Param}
    (h : p.putAll (params ++ others) = .ok p') :
    ∃ q, p.putAll params = .ok q ∧ q.putAll others = .ok p' := by
  unfold putAll at h
  rw [List.foldlM_append] at h
  exact Chained.bind_eq_ok.mp h

theorem putAll_cons_ok {p p' : Params} {param : Param} {params : List Param} (h : p.putAll (param :: params) = .ok p') :
    ∃ q, p.put param.1 param.2 = .ok q ∧ q.putAll params = .ok p' := by
  unfold putAll at h
  rw [List.foldlM_cons] at h
  exact Chained.bind_eq_ok.mp h

theorem putAll_singleton (p : Params) (name value : String) : p.putAll [(name, value)] = p.put name value := by
  unfold putAll
  simp only [List.foldlM_cons, List.foldlM_nil, bind_pure]

/-! ### Scopes -/

/-- The scope at a path is this one now, and all others are what they were. -/
structure ChangesAt (p p' : Params) (path : String) (s : Scope) : Prop where
  here : p'.scope path = s
  elsewhere : ∀ other, other ≠ path → p'.scope other = p.scope other

theorem find?_insertScope_of_ne {path other : String} (h : other ≠ path) (s : Scope)
    (scopes : List (String × Scope)) :
    (insertScope path s scopes).find? (fun e => e.1 == other) = scopes.find? fun e => e.1 == other := by
  induction scopes with
  | nil => simp [insertScope, h.symm]
  | cons e rest ih =>
    unfold insertScope
    by_cases hk : e.1 = path
    · subst hk
      simp [h.symm]
    · rw [if_neg hk, List.find?_cons, List.find?_cons, ih]

theorem modify_changesAt (p : Params) (path : String) (f : Scope → Scope) :
    ChangesAt p (p.modify path f) path (f (p.scope path)) := by
  refine ⟨scope_modify_self p path f, fun other hother => ?_⟩
  unfold scope modify
  rw [find?_insertScope_of_ne hother]

namespace ChangesAt
variable {p p' p'' : Params} {path : String} {s s' : Scope}

theorem refl (p : Params) (path : String) : ChangesAt p p path (p.scope path) := ⟨rfl, fun _ _ => rfl⟩

theorem trans (h : ChangesAt p p' path s) (h' : ChangesAt p' p'' path s') : ChangesAt p p'' path s' :=
  ⟨h'.here, fun other hother => (h'.elsewhere other hother).trans (h.elsewhere other hother)⟩

end ChangesAt

/-! ### Names -/

theorem put_of_splitKey {name path last : String} (p : Params) (value : String)
    (hname : name ∉ ["select", "on_conflict", "columns"])
    (h : splitKey name.toList = (path.toList, last.toList)) :
    p.put name value = p.putScoped path last value := by
  simp only [List.mem_cons, List.not_mem_nil, or_false, not_or] at hname
  obtain ⟨hselect, hconflict, hcolumns⟩ := hname
  unfold put
  split
  · exact absurd rfl hselect
  · exact absurd rfl hconflict
  · exact absurd rfl hcolumns
  · rw [h]
    simp only [String.ofList_toList]

theorem not_word_of_ne_nil {path : List String} (h : path ≠ []) (last : String) :
    namePrefix path ++ last ∉ ["select", "on_conflict", "columns"] := by
  intro hmem
  have hdot : '.' ∈ (namePrefix path ++ last).toList := by
    rw [toList_prefixed_of_ne_nil h]
    exact List.mem_append_right _ List.mem_cons_self
  have hwords : ∀ word ∈ ["select", "on_conflict", "columns"], '.' ∉ word.toList := by decide
  exact hwords _ hmem hdot

/-- A parameter behind the prefix of a path is for the resource there. -/
theorem put_prefixed {path : List String} {last : String} (p : Params) (value : String) (hpath : IsPath path)
    (hlast : '.' ∉ last.toList) (hroot : path = [] → last ∉ ["select", "on_conflict", "columns"]) :
    p.put (namePrefix path ++ last) value = p.putScoped (dotted path) last value := by
  refine put_of_splitKey p value ?_ (splitKey_prefixed hpath hlast)
  by_cases h : path = []
  · subst h
    simpa [namePrefix] using hroot rfl
  · exact not_word_of_ne_nil h last

theorem put_negated (p : Params) (path : List String) (j : Junction) (value : String) :
    p.put (namePrefix path ++ ("not." ++ j.name)) value =
      p.putScoped (dotted path) ("not." ++ j.name) value := by
  refine put_of_splitKey p value ?_ (splitKey_negated path j)
  by_cases h : path = []
  · subst h
    cases j <;> decide
  · exact not_word_of_ne_nil h _

theorem putScoped_column {column : String} (p : Params) (path value : String)
    (h : column ∉ ["order", "limit", "offset", "or", "and", "not.or", "not.and"]) :
    p.putScoped path column value = (do
      let c ← orSyntax (parseLeaf column.toList value.toList false)
      .ok (p.modify path fun s => { s with conditions := s.conditions ++ [c] })) := by
  simp only [List.mem_cons, List.not_mem_nil, or_false, not_or] at h
  obtain ⟨horder, hlimit, hoffset, hor, hand, hnotor, hnotand⟩ := h
  unfold putScoped
  dsimp only
  split <;> first | contradiction | rfl

theorem putScoped_group (p : Params) (path value : String) (j : Junction) (n : Bool) :
    p.putScoped path (Filter.notWord n ++ j.name) value = (do
      let c ← orSyntax (parseGroup j n value.toList)
      .ok (p.modify path fun s => { s with conditions := s.conditions ++ [c] })) := by
  cases j <;> cases n <;> rfl

/-! ### What a parameter changes -/

/-- The parameters that are for a request as a whole. -/
def wholeNames : List String := ["select", "on_conflict", "columns"]

/-- What a parameter makes of what is asked of its resource. -/
inductive IsChange (name value : String) : (Scope → Scope) → Prop where
  | order (terms : List OrderTerm) : IsChange name value fun s => { s with order := s.order ++ terms }
  | limit {n : UInt64} (hname : name = "limit") (hn : Decimal.word64? value = some n) :
    IsChange name value fun s => { s with limit := some n }
  | offset {n : UInt64} (hname : name = "offset") (hn : Decimal.word64? value = some n) :
    IsChange name value fun s => { s with offset := some n }
  | condition (c : Condition) : IsChange name value fun s => { s with conditions := s.conditions ++ [c] }

theorem word64?_of_readWord {name value : String} {n : UInt64} (h : readWord name value = .ok n) :
    Decimal.word64? value = some n := by
  unfold readWord at h
  split at h
  · next hn => rw [hn, Except.ok.inj h]
  · exact nomatch h

/-- What a parameter makes of what is asked of a resource does not depend on the resource, nor on anything else that
was asked. -/
theorem exists_putScoped (name value : String) :
    ∃ change : Except Rejection (Scope → Scope),
      (∀ (p : Params) (path : String), p.putScoped path name value = change.map fun f => p.modify path f) ∧
      ∀ f, change = .ok f → IsChange name value f := by
  have hchange {α : Type} (x : Except Rejection α) (f : α → Scope → Scope) (name : String)
      (hf : ∀ a, x = .ok a → IsChange name value (f a)) :
      ∃ change : Except Rejection (Scope → Scope),
        (∀ (p : Params) (path : String),
          (x >>= fun a => .ok (p.modify path (f a))) = change.map fun f => p.modify path f) ∧
        ∀ f, change = .ok f → IsChange name value f := by
    refine ⟨x.map f, fun _ _ => by cases x <;> rfl, fun g hg => ?_⟩
    obtain ⟨a, ha, rfl⟩ := Chained.map_eq_ok.mp hg
    exact hf a ha
  unfold putScoped
  dsimp only
  split
  · exact hchange _ _ _ fun terms _ => .order terms
  · exact hchange _ _ _ fun n hn => .limit rfl (word64?_of_readWord hn)
  · exact hchange _ _ _ fun n hn => .offset rfl (word64?_of_readWord hn)
  all_goals exact hchange _ _ _ fun c _ => .condition c

/-- What a parameter does that is taken in. -/
inductive Puts (name value : String) (p : Params) : Params → Prop where
  | select (items : List Projection) (hname : name = "select") : Puts name value p { p with select := some items }
  | conflict (hname : name = "on_conflict") :
    Puts name value p { p with conflict := some ((Text.piecesOf ',' value).map Text.strip) }
  | columns (hname : name = "columns") : Puts name value p p
  | scope {f : Scope → Scope} (hname : name ∉ wholeNames)
      (hf : IsChange (String.ofList (splitKey name.toList).2) value f)
      (hput : ∀ q : Params, q.put name value = .ok (q.modify (String.ofList (splitKey name.toList).1) f)) :
    Puts name value p (p.modify (String.ofList (splitKey name.toList).1) f)

/-- **A parameter changes what is asked of one resource**, the same in all requests, or is for the request as a
whole. -/
theorem puts_of_put {p p' : Params} {name value : String} (h : p.put name value = .ok p') : Puts name value p p' := by
  by_cases hname : name ∈ wholeNames
  · simp only [wholeNames, List.mem_cons, List.not_mem_nil, or_false] at hname
    rcases hname with rfl | rfl | rfl
    · obtain ⟨items, -, h⟩ := Chained.bind_eq_ok.mp h
      obtain rfl := Except.ok.inj h
      exact .select items rfl
    · obtain rfl := Except.ok.inj h
      exact .conflict rfl
    · obtain rfl := Except.ok.inj h
      exact .columns rfl
  · have hcut : splitKey name.toList = ((String.ofList (splitKey name.toList).1).toList,
        (String.ofList (splitKey name.toList).2).toList) := by
      rw [String.toList_ofList, String.toList_ofList]
    obtain ⟨change, hchange, hf⟩ := exists_putScoped (String.ofList (splitKey name.toList).2) value
    have hall (q : Params) := (put_of_splitKey q value hname hcut).trans (hchange q _)
    rw [hall] at h
    obtain ⟨f, rfl, rfl⟩ := Chained.map_eq_ok.mp h
    exact .scope hname (hf f rfl) hall

end Server.Params

/-! ### Filters -/

/-- Leaves whose texts have no brackets in them and whose columns are no words of request syntax. -/
def Filter.IsHoistable (f : Filter) : Prop := ∀ l ∈ f.leaves, l.IsRegular ∧ IsFreeName l.column

theorem Filter.isHoistable_group {members : List Filter} (h : ∀ f ∈ members, f.IsHoistable) (j : Junction) :
    (Filter.group j members).IsHoistable := by
  show ∀ l ∈ Filter.leavesOf members, _
  induction members with
  | nil => exact fun _ hl => nomatch hl
  | cons f fs ih =>
    obtain ⟨hf, hfs⟩ := List.forall_mem_cons.mp h
    exact List.forall_mem_append.mpr ⟨hf, ih hfs⟩

theorem parseLeaf_render {l : Leaf} {t : Token} (negated : Bool)
    (hconfig : ∀ config, l.operator.config? = some config → isIdentifier config = true) (ht : l.token = .ok t) :
    parseLeaf l.column.toList (if negated then t.negate else t).render.toList false =
      .ok (.leaf l.column negated l.operator.render t.value) := by
  unfold parseLeaf
  rw [Operator.toList_render_token negated ht, Operator.splitNot_notWord]
  simp only [Text.cut_append (Operator.dot_not_mem_render hconfig), Bool.false_eq_true, if_false,
    String.ofList_toList]

theorem holds_value {l : Leaf} {t : Token} (ht : l.token = .ok t)
    (hfree : ∀ items, l.operand = .list items → ∀ s ∈ items, s.HasNoBracket) (negated : Bool) (row : Row) :
    (Condition.leaf l.column negated l.operator.render t.value).holds row =
      .ok (l.eval row != negated) := by
  unfold Condition.holds
  rw [Operator.testLeaf_render, Operator.testLeaf_value ht hfree]
  rfl

/-- The parameter of a leaf is taken in at its path as a test of its column, unless the column is a word of
request syntax. -/
theorem Leaf.put_param {l : Leaf} {t : Token} {path : List String} (p : Params) (negated : Bool)
    (hpath : IsPath path) (hcolumn : isIdentifier l.column = true)
    (hwords : l.column ∉ ["select", "on_conflict", "columns", "order", "limit", "offset", "or", "and"])
    (hconfig : ∀ config, l.operator.config? = some config → isIdentifier config = true)
    (ht : l.token = .ok t) :
    p.put (namePrefix path ++ l.column) (if negated then t.negate else t).render =
      .ok (p.modify (dotted path) fun s =>
        { s with conditions := s.conditions ++ [.leaf l.column negated l.operator.render t.value] }) := by
  have hdot : '.' ∉ l.column.toList := not_mem_of_isIdentifier hcolumn (by decide)
  have hdotted : l.column ≠ "not.or" ∧ l.column ≠ "not.and" := by
    constructor <;> intro heq <;> exact absurd hdot (by rw [heq]; decide)
  rw [Params.put_prefixed p _ hpath hdot fun _ => by simp_all, Params.putScoped_column _ _ _ (by simp_all),
    parseLeaf_render negated hconfig ht]
  rfl

namespace Filter

/-- The parameter of a filter is taken in at its path as a condition that holds where the filter does. -/
theorem put_paramAs (f : Filter) {path : List String} {negated : Bool} {name value : String}
    (hpath : IsPath path) (hf : f.IsHoistable) (h : paramAs (namePrefix path) negated f = .ok (name, value)) :
    ∃ c : Condition, (∀ row, c.holds row = .ok (f.eval row != negated)) ∧
      ∀ p : Params, p.put name value =
        .ok (p.modify (dotted path) fun s => { s with conditions := s.conditions ++ [c] }) := by
  cases f with
  | leaf l =>
    rw [paramAs] at h
    obtain ⟨t, ht, h⟩ := Chained.bind_eq_ok.mp h
    obtain ⟨rfl, rfl⟩ := Prod.mk.inj (Except.ok.inj h)
    obtain ⟨hl, hfree⟩ := hf l List.mem_cons_self
    have hsub : ["select", "on_conflict", "columns", "order", "limit", "offset", "or", "and"] ⊆
        grammarWords := by
      decide
    exact ⟨_, holds_value ht hl.operand.items negated, fun p =>
      l.put_param p negated hpath hfree.1 (fun hmem => hfree.2 (hsub hmem)) hl.config ht⟩
  | group j members =>
    obtain ⟨j, n, c, rfl, hc, hholds⟩ :=
      holds_paramAs (.group j members) _ negated rfl (fun l hl => (hf l hl).1) h
    refine ⟨c, hholds, fun p => ?_⟩
    have hput : p.put (namePrefix path ++ notWord n ++ j.name) value =
        p.putScoped (dotted path) (notWord n ++ j.name) value := by
      rw [String.append_assoc]
      cases n with
      | false =>
        have hword : '.' ∉ j.name.toList ∧ j.name ∉ ["select", "on_conflict", "columns"] := by
          cases j <;> decide
        simpa [notWord] using Params.put_prefixed p value hpath hword.1 fun _ => hword.2
      | true => exact Params.put_negated p path j value
    rw [hput, Params.putScoped_group, hc]
    rfl
  | not f =>
    rw [paramAs] at h
    obtain ⟨c, hholds, hput⟩ := put_paramAs f hpath hf h
    refine ⟨c, fun row => ?_, hput⟩
    rw [hholds row, eval]
    cases f.eval row <;> cases negated <;> rfl
termination_by structural f

/-- Conditions that hold where these filters do, one for each. -/
def Carried (cs : List Condition) (fs : List Filter) : Prop :=
  List.Forall₂ (fun c f => ∀ row, c.holds row = .ok (f.eval row)) cs fs

theorem Carried.satisfies {cs : List Condition} {fs : List Filter} (h : Carried cs fs) (row : Row) :
    row.satisfies cs = .ok (fs.all (eval row)) := by
  unfold Row.satisfies
  rw [settle_eq_evalMembers row .all (h.imp fun _ _ hc => hc row), ← eval_all, eval]

end Filter

/-- Taken in at a path, the parameter of the filter is a condition that holds where the filter does. -/
def Filter.IsTaken (path : List String) (f : Filter) : Prop :=
  ∀ name value, f.param (namePrefix path) = .ok (name, value) →
    ∃ c : Condition, (∀ row, c.holds row = .ok (f.eval row)) ∧
      ∀ p : Params, p.put name value =
        .ok (p.modify (dotted path) fun s => { s with conditions := s.conditions ++ [c] })

theorem Filter.IsHoistable.isTaken {f : Filter} (hf : f.IsHoistable) {path : List String} (hpath : IsPath path) :
    f.IsTaken path := by
  intro name value h
  obtain ⟨c, hholds, hput⟩ := Filter.put_paramAs f hpath hf h
  exact ⟨c, fun row => by simpa using hholds row, hput⟩

namespace Server.Params

/-- Adds conditions to what is asked of a resource. -/
def constrain (p : Params) (path : String) (cs : List Condition) : Params :=
  cs.foldl (fun p c => p.modify path fun s => { s with conditions := s.conditions ++ [c] }) p

theorem constrain_changesAt (p : Params) (path : String) (cs : List Condition) :
    ChangesAt p (p.constrain path cs) path
      { p.scope path with conditions := (p.scope path).conditions ++ cs } := by
  induction cs generalizing p with
  | nil =>
    rw [List.append_nil]
    exact .refl p path
  | cons c cs ih =>
    have hfirst := modify_changesAt p path fun s => { s with conditions := s.conditions ++ [c] }
    have hboth := hfirst.trans (ih _)
    rw [hfirst.here] at hboth
    simp only [List.append_assoc, List.singleton_append] at hboth
    exact hboth

/-- Filters that are taken in are added to what is asked, whatever that was. -/
theorem put_taken {fs : List Filter} {path : List String} {params : List Param} (hfs : ∀ f ∈ fs, f.IsTaken path)
    (h : Filter.params (namePrefix path) fs = .ok params) :
    ∃ cs, Filter.Carried cs fs ∧ ∀ p : Params, p.putAll params = .ok (p.constrain (dotted path) cs) := by
  induction fs generalizing params with
  | nil =>
    obtain rfl := Except.ok.inj h
    exact ⟨[], .nil, fun _ => rfl⟩
  | cons f fs ih =>
    obtain ⟨hf, hrest⟩ := List.forall_mem_cons.mp hfs
    unfold Filter.params at h
    rw [List.mapM_cons] at h
    obtain ⟨⟨name, value⟩, hparam, h⟩ := Chained.bind_eq_ok.mp h
    obtain ⟨params, hparams, h⟩ := Chained.bind_eq_ok.mp h
    obtain rfl := Except.ok.inj h
    obtain ⟨c, hholds, hput⟩ := hf name value hparam
    obtain ⟨cs, hcs, hall⟩ := ih hrest hparams
    refine ⟨c :: cs, .cons hholds hcs, fun p => ?_⟩
    rw [← List.singleton_append, putAll_append ((putAll_singleton p name value).trans (hput p))]
    exact hall _

theorem put_filters {fs : List Filter} {path : List String} {params : List Param} (p : Params)
    (hpath : IsPath path) (hfs : ∀ f ∈ fs, f.IsHoistable) (h : Filter.params (namePrefix path) fs = .ok params) :
    ∃ p' cs, p.putAll params = .ok p' ∧ Filter.Carried cs fs ∧
      ChangesAt p p' (dotted path)
        { p.scope (dotted path) with conditions := (p.scope (dotted path)).conditions ++ cs } := by
  obtain ⟨cs, hcs, hput⟩ := put_taken (fun f hf => (hfs f hf).isTaken hpath) h
  exact ⟨_, cs, hput p, hcs, constrain_changesAt p _ cs⟩

end Server.Params

/-! ### Sort keys -/

/-- The term a sort key stands for. -/
def SortKey.term (k : SortKey) : OrderTerm :=
  ⟨k.column, k.direction == .desc, (k.nulls.map (· == .first)).getD (k.direction == .desc)⟩

/-- What follows the column of a sort key. -/
def modifiers (direction : Direction) (nulls : Option Nulls) : List (List Char) :=
  direction.name.toList :: (nulls.map fun n => n.name.toList).toList

theorem isWord_of_mem_modifiers {direction : Direction} {nulls : Option Nulls} :
    ∀ m ∈ modifiers direction nulls, IsWord m ∧ '.' ∉ m := by
  have hall : (modifiers direction nulls).all fun m =>
      !m.isEmpty && m.all isWordChar && !m.contains '.' := by
    rcases direction with _ | _ <;> rcases nulls with _ | _ | _ <;> decide
  intro m hm
  have hword := List.all_eq_true.mp hall m hm
  simp only [Bool.and_eq_true, Bool.not_eq_true', List.isEmpty_eq_false_iff] at hword
  obtain ⟨⟨hne, hchars⟩, hdot⟩ := hword
  exact ⟨isWord_of_all hne hchars, by simpa using hdot⟩

theorem readModifiers_modifiers (direction : Direction) (nulls : Option Nulls) :
    readModifiers false none (modifiers direction nulls) =
      .ok (direction == .desc, nulls.map (· == .first)) := by
  rcases direction with _ | _ <;> rcases nulls with _ | _ | _ <;> rfl

namespace SortKey
variable {k : SortKey}

/-- The parts of a sort key, which dots separate. -/
def parts (k : SortKey) : List (List Char) := k.column.toList :: modifiers k.direction k.nulls

theorem toList_render (k : SortKey) : k.render.toList = List.intercalate ['.'] k.parts := by
  unfold render parts modifiers
  cases k.nulls <;> simp

theorem mem_render (h : isIdentifier k.column = true) : ∀ c ∈ k.render.toList, isWordChar c = true := by
  rw [toList_render]
  intro c hc
  rcases Text.mem_intercalate hc with rfl | ⟨part, hpart, hmem⟩
  · decide
  · rcases List.mem_cons.mp hpart with rfl | hpart
    · simp [isWordChar, all_isIdentifierPart h c hmem]
    · exact (isWord_of_mem_modifiers part hpart).1.2 c hmem

theorem pieces_render (h : isIdentifier k.column = true) : Text.pieces '.' k.render.toList = k.parts := by
  rw [toList_render]
  exact Text.pieces_intercalate (List.cons_ne_nil _ _) (List.forall_mem_cons.mpr
    ⟨not_mem_of_isIdentifier h (by decide), fun part hpart => (isWord_of_mem_modifiers part hpart).2⟩)

theorem parseOrderTerm_render (h : isIdentifier k.column = true) :
    parseOrderTerm k.render.toList = .ok k.term := by
  have hne : k.column ≠ "" := by
    intro heq
    rw [heq] at h
    exact nomatch h
  have hword : IsWord k.render.toList := by
    refine ⟨?_, mem_render h⟩
    rw [toList_render, parts, modifiers, List.intercalate_cons_cons]
    simp [hne]
  unfold parseOrderTerm
  dsimp only
  rw [hword.isPart.trim_eq, pieces_render h]
  rw [parts, List.tail_cons, readModifiers_modifiers]
  simp [hne, term, bind, Except.bind]

theorem parseOrder_render {keys : List SortKey} (hne : keys ≠ [])
    (h : ∀ k ∈ keys, isIdentifier k.column = true) :
    parseOrder (",".intercalate (keys.map render)).toList = .ok (keys.map term) := by
  have hcomma : ∀ t ∈ (keys.map render).map String.toList, ',' ∉ t := by
    simp only [List.forall_mem_map]
    intro k hk hmem
    exact absurd (mem_render (h k hk) ',' hmem) (by decide)
  have hterms : ((keys.map render).map String.toList).mapM parseOrderTerm = .ok (keys.map term) := by
    clear hne hcomma
    induction keys with
    | nil => rfl
    | cons k keys ih =>
      obtain ⟨hk, hkeys⟩ := List.forall_mem_cons.mp h
      rw [List.map_cons, List.map_cons, List.mapM_cons, parseOrderTerm_render hk, ih hkeys]
      rfl
  unfold parseOrder
  rw [String.toList_intercalate]
  show (Text.pieces ',' (List.intercalate [','] _)).mapM parseOrderTerm = _
  rw [Text.pieces_intercalate (by simpa using hne) hcomma, hterms]

end SortKey

namespace Server.Params

theorem put_order {keys : List SortKey} {path : List String} (p : Params) (hpath : IsPath path)
    (hkeys : ∀ k ∈ keys, isIdentifier k.column = true) :
    ∃ p', p.putAll ((SortKey.renderAll? keys).toList.map fun o => (namePrefix path ++ "order", o)) = .ok p' ∧
      ChangesAt p p' (dotted path)
        { p.scope (dotted path) with order := (p.scope (dotted path)).order ++ keys.map SortKey.term } := by
  unfold SortKey.renderAll?
  split
  · next hempty =>
    rw [List.isEmpty_iff.mp hempty]
    exact ⟨p, rfl, by simpa using ChangesAt.refl p _⟩
  · next hkeysne =>
    have hne : keys ≠ [] := by simpa using hkeysne
    have hput : p.put (namePrefix path ++ "order") (",".intercalate (keys.map SortKey.render)) =
        .ok (p.modify (dotted path) fun s => { s with order := s.order ++ keys.map SortKey.term }) := by
      rw [put_prefixed p _ hpath (by decide) (fun _ => by decide)]
      unfold putScoped
      dsimp only
      rw [SortKey.parseOrder_render hne hkeys]
      rfl
    refine ⟨_, ?_, modify_changesAt p (dotted path) fun s =>
      { s with order := s.order ++ keys.map SortKey.term }⟩
    rw [Option.toList_some, List.map_singleton, putAll_singleton, hput]

/-! ### Windows -/

theorem readWord_toString (name : String) (n : UInt64) : readWord name (toString n) = .ok n := by
  unfold readWord
  rw [Decimal.word64?_toString]

theorem put_limit {path : List String} (p : Params) (hpath : IsPath path) (n : UInt64) :
    p.put (namePrefix path ++ "limit") (toString n) =
      .ok (p.modify (dotted path) fun s => { s with limit := some n }) := by
  rw [put_prefixed p _ hpath (by decide) (fun _ => by decide)]
  unfold putScoped
  dsimp only
  rw [readWord_toString]
  rfl

theorem put_offset {path : List String} (p : Params) (hpath : IsPath path) (n : UInt64) :
    p.put (namePrefix path ++ "offset") (toString n) =
      .ok (p.modify (dotted path) fun s => { s with offset := some n }) := by
  rw [put_prefixed p _ hpath (by decide) (fun _ => by decide)]
  unfold putScoped
  dsimp only
  rw [readWord_toString]
  rfl

/-- The parameters of a limit and an offset, where they are given. -/
def windowParams (path : List String) (limit offset : Option UInt64) : List Param :=
  (limit.toList.map fun n => (namePrefix path ++ "limit", toString n)) ++
    offset.toList.map fun n => (namePrefix path ++ "offset", toString n)

theorem put_window {path : List String} (p : Params) (hpath : IsPath path) (limit offset : Option UInt64) :
    ∃ p', p.putAll (windowParams path limit offset) = .ok p' ∧
      ChangesAt p p' (dotted path)
        { p.scope (dotted path) with
          limit := limit.or (p.scope (dotted path)).limit
          offset := offset.or (p.scope (dotted path)).offset } := by
  obtain ⟨p', hp', hlimit⟩ : ∃ p',
      p.putAll (limit.toList.map fun n => (namePrefix path ++ "limit", toString n)) = .ok p' ∧
        ChangesAt p p' (dotted path)
          { p.scope (dotted path) with limit := limit.or (p.scope (dotted path)).limit } := by
    cases limit with
    | none => exact ⟨p, rfl, .refl p _⟩
    | some n =>
      exact ⟨_, (putAll_singleton p _ _).trans (put_limit p hpath n), modify_changesAt p (dotted path) _⟩
  unfold windowParams
  rw [putAll_append hp']
  cases offset with
  | none => exact ⟨p', rfl, hlimit⟩
  | some n =>
    refine ⟨_, (putAll_singleton p' _ _).trans (put_offset p' hpath n), ?_⟩
    have hboth := hlimit.trans (modify_changesAt p' (dotted path) fun s => { s with offset := some n })
    rw [hlimit.here] at hboth
    exact hboth

/-! ### Requests -/

theorem readRange?_render {first last : UInt64} (h : first ≤ last) :
    readRange? (toString first ++ "-" ++ toString last) = some (first, last) := by
  have hword (n : UInt64) : IsWord (toString n).toList := by
    rw [Decimal.toList_toString]
    exact isWord_toDigits n.toNat
  have hdash : '-' ∉ (toString first).toList := by
    intro hmem
    rw [Decimal.toList_toString] at hmem
    exact absurd (Nat.isDigit_of_mem_toDigits (by decide) (by decide) hmem) (by decide)
  have htext : (toString first ++ "-" ++ toString last).toList =
      (toString first).toList ++ '-' :: (toString last).toList := by
    simp
  have hread (n : UInt64) : Decimal.word64? (String.ofList (Text.trim (toString n).toList)) = some n := by
    rw [(hword n).isPart.trim_eq, String.ofList_toList, Decimal.word64?_toString]
  unfold readRange?
  rw [htext, Text.cut_append hdash]
  simp only [Option.bind_eq_bind, Option.bind_some, hread, if_pos h]

theorem scope_putPreference (p : Params) (word path : String) :
    (p.putPreference word).scope path = p.scope path := by
  unfold putPreference
  split <;> rfl

theorem scope_foldl_putPreference (p : Params) (words : List String) (path : String) :
    (words.foldl putPreference p).scope path = p.scope path := by
  induction words generalizing p with
  | nil => rfl
  | cons word words ih => rw [List.foldl_cons, ih, scope_putPreference]

theorem scope_putRange {p p' : Params} {headers : Http.Headers} (h : p.putRange headers = .ok p')
    (path : String) : p'.scope path = p.scope path := by
  unfold putRange at h
  split at h
  · rw [Except.ok.inj h]
  · split at h
    · exact Except.ok.inj h ▸ rfl
    · exact nomatch h

/-- The scopes of a request are what its parameters make them, if a range among the headers can be read. -/
theorem read_of_putAll {params : List Param} (headers : Http.Headers) {p : Params}
    (h : Params.empty.putAll params = .ok p)
    (hrange : ∀ text, headers.text? "range" = some text → ∃ range, readRange? text = some range) :
    ∃ p', Params.read (Url.Form.encode params) headers = .ok p' ∧ ∀ path, p'.scope path = p.scope path := by
  obtain ⟨p₁, hp₁⟩ : ∃ p₁, p.putRange headers = .ok p₁ := by
    unfold putRange
    cases htext : headers.text? "range" with
    | none => exact ⟨p, rfl⟩
    | some text =>
      obtain ⟨range, hread⟩ := hrange text htext
      dsimp only
      rw [hread]
      exact ⟨_, rfl⟩
  unfold putAll at h
  refine ⟨(preferences headers).foldl putPreference p₁, ?_, fun path => ?_⟩
  · unfold Params.read
    rw [Url.Form.decode_encode, h]
    show (p.putRange headers >>= _) = _
    rw [hp₁]
    rfl
  · rw [scope_foldl_putPreference, scope_putRange hp₁]

/-- A request that can be read has the scopes that its parameters make. -/
theorem putAll_of_read {params : List Param} {headers : Http.Headers} {p' : Params}
    (h : Params.read (Url.Form.encode params) headers = .ok p') :
    ∃ p, Params.empty.putAll params = .ok p ∧ ∀ path, p'.scope path = p.scope path := by
  unfold Params.read at h
  rw [Url.Form.decode_encode] at h
  obtain ⟨p, hp, h⟩ := Chained.bind_eq_ok.mp h
  obtain ⟨p₁, hrange, h⟩ := Chained.bind_eq_ok.mp h
  obtain rfl := Except.ok.inj h
  refine ⟨p, hp, fun path => ?_⟩
  rw [scope_foldl_putPreference, scope_putRange hrange]

end Server.Params
end TableQuery
