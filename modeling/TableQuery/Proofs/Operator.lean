import TableQuery.Mutation
import TableQuery.Proofs.Server.Leaves
import TableQuery.Proofs.Text.Padded

/-! Operators read from their texts.

An operator's text is its name, a configuration in parentheses where it has one, and `not.` before it where it is
negated (`spelling`). Each step of reading takes apart what it is given and loses nothing of it: the negation
(`eq_of_splitNot`), the configuration (`splitConfig?_eq_some_iff`), the name (`ofName?_eq_some_iff`). So an operator
is read from its text, with blanks around it, and from no other (`parse_exact`). -/
namespace TableQuery
namespace Operator

/-- The text of an operator, behind `not.` where it is negated. -/
def spelling (op : Operator) (negated : Bool) : String := Filter.notWord negated ++ op.render

/-! ### The parts of a text -/

theorem eq_of_splitNot {cs rest : List Char} {negated : Bool} (h : splitNot cs = (negated, rest)) :
    cs = (Filter.notWord negated).toList ++ rest := by
  unfold splitNot at h
  split at h
  · next hprefix =>
    obtain ⟨rfl, rfl⟩ := Prod.mk.inj h
    exact (List.isPrefixOf?_eq_some_iff_append_eq.mp hprefix).symm
  · obtain ⟨rfl, rfl⟩ := Prod.mk.inj h
    rfl

/-- A configuration as it stands behind a name. -/
def configText (config : Option (List Char)) : List Char := (config.map fun cs => '(' :: (cs ++ [')'])).getD []

theorem toList_render_eq (op : Operator) :
    op.render.toList = op.name.toList ++ configText (op.config?.map String.toList) := by
  rw [toList_render]
  cases op.config? <;> rfl

theorem splitConfig?_append {name : List Char} (h : '(' ∉ name) (config : Option (List Char)) :
    splitConfig? (name ++ configText config) = some (name, config) := by
  unfold splitConfig?
  cases config with
  | none =>
    rw [show name ++ configText none = name from List.append_nil name, Text.cut_of_not_mem h]
  | some config =>
    rw [show configText (some config) = '(' :: (config ++ [')']) from rfl, Text.cut_append h]
    simp

/-- A text is cut into a name and a configuration that make it up. -/
theorem splitConfig?_eq_some_iff {cs name : List Char} {config : Option (List Char)} :
    splitConfig? cs = some (name, config) ↔ '(' ∉ name ∧ cs = name ++ configText config := by
  refine ⟨fun h => ?_, fun h => h.2 ▸ splitConfig?_append h.1 config⟩
  unfold splitConfig? at h
  cases hcut : Text.cut '(' cs with
  | none =>
    rw [hcut] at h
    obtain ⟨rfl, rfl⟩ := Prod.mk.inj (Option.some.inj h)
    exact ⟨Text.cut_eq_none_iff.mp hcut, (List.append_nil _).symm⟩
  | some r =>
    obtain ⟨before, rest⟩ := r
    rw [hcut] at h
    dsimp only at h
    split at h
    · next hlast =>
      obtain ⟨rfl, rfl⟩ := Prod.mk.inj (Option.some.inj h)
      obtain ⟨rfl, hname⟩ := Text.cut_eq_some hcut
      refine ⟨hname, ?_⟩
      show _ = _ ++ '(' :: (_ ++ [')'])
      rw [List.dropLast_append_getLast? _ hlast]
    · exact nomatch h

/-- A name is that of one operator without a configuration. -/
theorem ofName?_eq_some_iff {name : String} {op : Operator} :
    ofName? name = some op ↔ op.config? = none ∧ op.name = name := by
  constructor
  · intro h
    unfold ofName? at h
    split at h <;> cases h <;> exact ⟨rfl, rfl⟩
  · rintro ⟨hconfig, rfl⟩
    cases op with
    | search kind config =>
      obtain rfl : config = none := hconfig
      cases kind <;> rfl
    | _ => rfl

/-! ### Whole texts -/

theorem toList_spelling (op : Operator) (negated : Bool) :
    (op.spelling negated).toList =
      (Filter.notWord negated).toList ++ (op.name.toList ++ configText (op.config?.map String.toList)) := by
  rw [spelling, String.toList_append, toList_render_eq]

theorem paren_not_mem_name (op : Operator) : '(' ∉ op.name.toList := fun hmem =>
  absurd (op.isWord_name.1.2 '(' hmem) (by decide)

theorem isTrimmed_name (op : Operator) : Text.IsTrimmed op.name.toList := op.isWord_name.1.isPart.isTrimmed

theorem isTrimmed_configText (config : Option (List Char)) : Text.IsTrimmed (configText config) := by
  cases config with
  | none => exact Text.trimWhile_nil _
  | some config =>
    show Text.IsTrimmed ('(' :: (config ++ [')']))
    exact Text.IsTrimmed.cons_append (by unfold Text.IsTrimmed; decide) (List.cons_ne_nil _ _) (by decide)

theorem isTrimmed_spelling (op : Operator) (negated : Bool) : Text.IsTrimmed (op.spelling negated).toList := by
  rw [toList_spelling]
  have hnot : Text.IsTrimmed (Filter.notWord negated).toList := by
    cases negated <;> (unfold Text.IsTrimmed; decide)
  exact hnot.append (op.isTrimmed_name.append (isTrimmed_configText _))

/-- **The text, blanks around it aside, is the operator's own** exactly where the operator is read from it. -/
theorem parse_eq_ok_iff {raw : String} {op : Operator} {negated : Bool} :
    parse raw = .ok (op, negated) ↔ Text.strip raw = op.spelling negated := by
  rw [← String.toList_inj, Text.toList_strip]
  constructor
  · intro h
    unfold parse at h
    dsimp only at h
    split at h
    · exact nomatch h
    next name config hconfig =>
    obtain ⟨-, hrest⟩ := splitConfig?_eq_some_iff.mp hconfig
    rw [eq_of_splitNot (Prod.eta (splitNot (Text.trim raw.toList))).symm, hrest, toList_spelling]
    split at h
    · exact nomatch h
    · next config _ _ kind _ hname =>
      obtain ⟨rfl, rfl⟩ := Prod.mk.inj (Except.ok.inj h)
      have hname : kind.name = String.ofList name := (ofName?_eq_some_iff.mp hname).2
      show _ = _ ++ (kind.name.toList ++ configText ((config.map String.ofList).map String.toList))
      rw [hname, String.toList_ofList]
      cases config <;> simp
    · exact nomatch h
    · next op' hop hname =>
      obtain ⟨rfl, rfl⟩ := Prod.mk.inj (Except.ok.inj h)
      obtain ⟨hnone, hname⟩ := ofName?_eq_some_iff.mp hname
      rw [hname, hnone, String.toList_ofList]
      rfl
  · intro h
    have hnot := splitNot_notWord negated op []
    rw [List.append_nil] at hnot
    unfold parse
    dsimp only
    rw [h, toList_spelling, ← toList_render_eq, hnot, toList_render_eq]
    dsimp only
    rw [splitConfig?_append op.paren_not_mem_name]
    cases op with
    | search kind config => cases kind <;> simp [ofName?, name, SearchKind.name, config?]
    | _ => rfl

end Operator

/-! ### Filters by an operator's text -/

/-- A test of a column, negated where the flag is set. -/
def Filter.testAs (negated : Bool) (column : String) (op : Operator) (operand : Operand) : Filter :=
  if negated then .not (.test column op operand) else .test column op operand

theorem Refinement.resolve_named {text : String} {op : Operator} {negated : Bool}
    (h : Operator.parse text = .ok (op, negated)) (column : String) (operand : Operand) :
    (Refinement.named column text operand).resolve = .ok [.testAs negated column op operand] := by
  show (Operator.parse text >>= _) = _
  rw [h]
  rfl

/-- **An operator is read from its own text and from no other**, blanks around it aside. So reading undoes writing,
texts that are read alike are one text with blanks around it, and a filter that names its operator adds to a query, a
write or a relation what the operator itself would add. -/
theorem Operator.parse_exact (raw : String) (op : Operator) (negated : Bool) :
    (parse raw = .ok (op, negated) ↔ Text.strip raw = op.spelling negated) ∧
    parse (op.spelling negated) = .ok (op, negated) ∧
    (parse raw = .ok (op, negated) →
      (∀ raw', parse raw' = .ok (op, negated) → Text.strip raw' = Text.strip raw) ∧
      ∀ column operand,
        (∀ q : Query, q.refine (.named column raw operand) =
          q.refine (.filters [.testAs negated column op operand])) ∧
        (∀ m : Mutation, m.refine (.named column raw operand) =
          m.refine (.filters [.testAs negated column op operand])) ∧
        ∀ e : Embedding, e.refine (.named column raw operand) =
          e.refine (.filters [.testAs negated column op operand])) := by
  have hspelling : Text.strip (op.spelling negated) = op.spelling negated := by
    rw [← String.toList_inj, Text.toList_strip]
    exact op.isTrimmed_spelling negated
  refine ⟨parse_eq_ok_iff, parse_eq_ok_iff.mpr hspelling, fun h => ⟨fun raw' h' => ?_, fun column operand => ?_⟩⟩
  · rw [parse_eq_ok_iff.mp h, parse_eq_ok_iff.mp h']
  · have hresolve := Refinement.resolve_named h column operand
    refine ⟨fun q => ?_, fun m => ?_, fun e => ?_⟩
    · unfold Query.refine
      rw [hresolve]
      rfl
    · unfold Mutation.refine
      rw [hresolve]
      rfl
    · unfold Embedding.refine
      rw [hresolve]
      rfl

/-- A negated search whose configuration has brackets and dots of its own, with blanks around it. -/
theorem Operator.punctuated_config_is_read :
    Text.strip "\tnot.wfts(a(b).c) " = "not.wfts(a(b).c)" ∧
      parse "\tnot.wfts(a(b).c) " = .ok (.search .websearch (some "a(b).c"), true) ∧
      (∀ raw', parse raw' = .ok (.search .websearch (some "a(b).c"), true) →
        Text.strip raw' = Text.strip "\tnot.wfts(a(b).c) ") ∧
      ∀ q : Query, q.refine (.named "body" "\tnot.wfts(a(b).c) " (.one (.text "cat"))) =
        q.refine (.filters [.not (.test "body" (.search .websearch (some "a(b).c")) (.one (.text "cat")))]) :=
  have hstrip : Text.strip "\tnot.wfts(a(b).c) " = "not.wfts(a(b).c)" := by decide +kernel
  have hall := parse_exact "\tnot.wfts(a(b).c) " (.search .websearch (some "a(b).c")) true
  have hparse := hall.1.mpr (hstrip.trans (by decide +kernel))
  ⟨hstrip, hparse, (hall.2.2 hparse).1, ((hall.2.2 hparse).2 "body" (.one (.text "cat"))).1⟩

end TableQuery
