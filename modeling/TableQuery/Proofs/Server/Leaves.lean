import TableQuery.Proofs.Server.Operands
import TableQuery.Proofs.Text.Cut

/-! Leaves of filter trees on the server.

A leaf inside a group is its column, its operator and its value with dots between them. With identifiers
for the column and the configuration, the dots come apart again (`parseLeaf_leafText`), no leaf is taken
for a group (`groupStart?_leafText`), and the test that is read asks what the leaf asks
(`holds_leaf`). -/
namespace TableQuery
open Server

/-- A column and, where there is one, a configuration that are identifiers, and texts without brackets. -/
structure Leaf.IsRegular (l : Leaf) : Prop where
  column : isIdentifier l.column = true
  config : ∀ config, l.operator.config? = some config → isIdentifier config = true
  operand : l.operand.HasNoBracket

/-! ### Operators -/

namespace Operator

theorem toList_render (op : Operator) :
    op.render.toList = op.name.toList ++
      (op.config?.map fun config => '(' :: (config.toList ++ [')'])).getD [] := by
  unfold render
  cases op.config? with
  | none => simp
  | some config => simp

theorem isWord_name (op : Operator) : IsWord op.name.toList ∧ '.' ∉ op.name.toList := by
  cases op with
  | search kind config =>
    show IsWord kind.name.toList ∧ '.' ∉ kind.name.toList
    cases kind <;> exact ⟨isWord_of_all (by decide) (by decide), by decide⟩
  | _ => exact ⟨isWord_of_all (by decide) (by decide), by decide⟩

variable {op : Operator}

/-- Only a configuration can bring a dot into an operator's text. -/
theorem dot_not_mem_render_iff :
    '.' ∉ op.render.toList ↔ ∀ config, op.config? = some config → '.' ∉ config.toList := by
  rw [toList_render]
  cases op.config? <;> simp [op.isWord_name.2]

theorem dot_not_mem_render (h : ∀ config, op.config? = some config → isIdentifier config = true) :
    '.' ∉ op.render.toList :=
  dot_not_mem_render_iff.mpr fun config hc => not_mem_of_isIdentifier (h config hc) (by decide)

theorem runsFrom_render (h : ∀ config, op.config? = some config → isIdentifier config = true) :
    Text.Nested.RunsFrom 0 op.render.toList := by
  rw [toList_render]
  refine op.isWord_name.1.isPart.runsFrom.append ?_
  cases hc : op.config? with
  | none => exact Text.Nested.runsFrom_nil 0
  | some config =>
    have hconfig : Text.Nested.RunsFrom 0 config.toList := Text.Nested.runsFrom_of_safe fun c hmem =>
      isSafe_of_isIdentifierPart (all_isIdentifierPart (h config hc) c hmem)
    exact (hconfig.mono (Nat.zero_le 1)).bracketed (by decide) (by decide)

/-- The server tests by the operator's name and passes over a configuration. -/
theorem testLeaf_render (op : Operator) (cell : Json) (value : String) :
    testLeaf cell op.render value = testLeaf cell op.name value := by
  have hname : op.render.toList.takeWhile (· != '(') = op.name.toList.takeWhile (· != '(') := by
    have hall : ∀ c ∈ op.name.toList, (c != '(') = true := fun c hc => by
      rw [bne_iff_ne]
      rintro rfl
      exact absurd (op.isWord_name.1.2 '(' hc) (by decide)
    have hself := @List.takeWhile_append_of_pos _ _ _ [] hall
    rw [List.append_nil] at hself
    rw [toList_render, List.takeWhile_append_of_pos hall, hself]
    cases op.config? <;> simp
  unfold testLeaf
  rw [hname]

theorem splitNot_name (op : Operator) (rest : List Char) :
    splitNot (op.name.toList ++ rest) = (false, op.name.toList ++ rest) := by
  cases op with
  | search kind config =>
    show splitNot (kind.name.toList ++ rest) = (false, kind.name.toList ++ rest)
    cases kind <;> rfl
  | _ => rfl

/-- An operator is not taken for a negation. -/
theorem splitNot_render (op : Operator) (rest : List Char) :
    splitNot (op.render.toList ++ rest) = (false, op.render.toList ++ rest) := by
  rw [toList_render, List.append_assoc]
  exact op.splitNot_name _

/-- What stands before an operator is a negation if there is one. -/
theorem splitNot_notWord (negated : Bool) (op : Operator) (rest : List Char) :
    splitNot ((Filter.notWord negated).toList ++ (op.render.toList ++ rest)) =
      (negated, op.render.toList ++ rest) := by
  cases negated
  · exact op.splitNot_render rest
  · rfl

end Operator

/-! ### Texts of leaves -/

/-- The text of a token that stands alone. -/
theorem Operator.toList_render_token {op : Operator} {operand : Operand} {t : Token} (negated : Bool)
    (h : op.encode operand = .ok t) :
    (if negated then t.negate else t).render.toList =
      (Filter.notWord negated).toList ++ (op.render.toList ++ '.' :: t.value.toList) := by
  obtain ⟨hnegated, hoperator, -⟩ := Operator.encodeValue_of_encode h
  cases negated <;> simp [Token.render, Token.compose, Token.negate, hnegated, hoperator, Filter.notWord]

/-- The text of a leaf inside a group. -/
def leafText (column : String) (negated : Bool) (op : Operator) (value : List Char) : List Char :=
  column.toList ++ '.' :: ((Filter.notWord negated).toList ++ (op.render.toList ++ '.' :: value))

theorem toList_renderGrouped_leaf {op : Operator} {operand : Operand} {t : Token} (column : String)
    (negated : Bool) (h : op.encode operand = .ok t) :
    (column ++ "." ++ (if negated then t.negate else t).renderGrouped).toList =
      leafText column negated op t.groupedValue.toList := by
  obtain ⟨hnegated, hoperator, -⟩ := Operator.encodeValue_of_encode h
  have hplain : t.renderGrouped = op.render ++ "." ++ t.groupedValue := by
    show t.compose t.groupedValue = _
    simp [Token.compose, hnegated, hoperator]
  have hnot : t.negate.renderGrouped = "not." ++ op.render ++ "." ++ t.groupedValue := by
    show t.negate.compose t.groupedValue = _
    simp [Token.compose, Token.negate, hnegated, hoperator]
  cases negated
  · simp [hplain, leafText, Filter.notWord]
  · simp [hnot, leafText, Filter.notWord]

variable {column : String} {negated : Bool} {op : Operator} {value : List Char}

theorem cut_leafText (hcolumn : isIdentifier column = true) :
    Text.cut '.' (leafText column negated op value) =
      some (column.toList, (Filter.notWord negated).toList ++ (op.render.toList ++ '.' :: value)) :=
  Text.cut_append (not_mem_of_isIdentifier hcolumn (by decide)) _

theorem parseLeaf_leafText (hconfig : ∀ config, op.config? = some config → isIdentifier config = true) :
    parseLeaf column.toList ((Filter.notWord negated).toList ++ (op.render.toList ++ '.' :: value)) true =
      .ok (.leaf column negated op.render (String.ofList (Text.Quoted.read value))) := by
  unfold parseLeaf
  rw [Operator.splitNot_notWord]
  simp only [Text.cut_append (Operator.dot_not_mem_render hconfig), if_true, String.ofList_toList]

/-- Behind the column of a leaf there is no junction with its parenthesis. -/
theorem not_junction_operator (negated : Bool) (op : Operator) (value rest : List Char) :
    (Filter.notWord negated).toList ++ (op.render.toList ++ '.' :: value) ≠ 'o' :: 'r' :: '(' :: rest ∧
    (Filter.notWord negated).toList ++ (op.render.toList ++ '.' :: value) ≠
      'a' :: 'n' :: 'd' :: '(' :: rest := by
  cases negated
  · show op.render.toList ++ '.' :: value ≠ _ ∧ op.render.toList ++ '.' :: value ≠ _
    rw [op.toList_render, List.append_assoc]
    cases op with
    | search kind config =>
      show kind.name.toList ++ _ ≠ _ ∧ kind.name.toList ++ _ ≠ _
      cases kind <;> simp [SearchKind.name]
    | _ => simp [Operator.name]
  · simp [Filter.notWord]

/-- A leaf is not taken for a group: its column ends at a dot and holds no parenthesis. -/
theorem groupStart?_leafText (hcolumn : isIdentifier column = true) :
    groupStart? (leafText column negated op value) = none := by
  have hcut : Text.cut '.' (leafText column negated op value) =
      some (column.toList, (Filter.notWord negated).toList ++ (op.render.toList ++ '.' :: value)) :=
    cut_leafText hcolumn
  have hparen : '(' ∉ column.toList := not_mem_of_isIdentifier hcolumn (by decide)
  have hjunction := not_junction_operator negated op value
  -- A name before the parenthesis would be the column, parenthesis and all.
  have hname (name rest : List Char) (hdot : '.' ∉ name)
      (heq : leafText column negated op value = name ++ '(' :: rest) : False := by
    rw [heq] at hcut
    obtain ⟨heq, -⟩ := Text.cut_eq_some hcut
    rcases List.append_eq_append_iff.mp heq with ⟨mid, hmid, hrest⟩ | ⟨mid, hmid, hrest⟩
    · cases mid with
      | nil => exact absurd (List.cons.inj hrest).1 (by decide)
      | cons c mid =>
        obtain ⟨rfl, -⟩ := List.cons.inj hrest
        exact hparen (by rw [hmid]; simp)
    · cases mid with
      | nil => exact absurd (List.cons.inj hrest).1 (by decide)
      | cons c mid =>
        obtain ⟨rfl, -⟩ := List.cons.inj hrest
        exact hdot (by rw [hmid]; simp)
  unfold groupStart?
  split
  · next rest heq =>
    rw [heq] at hcut
    simp only [Text.cut, Char.reduceEq, if_false, if_true, Option.map_some, Option.some.injEq,
      Prod.mk.injEq] at hcut
    exact absurd hcut.2.symm (hjunction rest).1
  · next rest heq =>
    rw [heq] at hcut
    simp only [Text.cut, Char.reduceEq, if_false, if_true, Option.map_some, Option.some.injEq,
      Prod.mk.injEq] at hcut
    exact absurd hcut.2.symm (hjunction rest).2
  · next rest heq => exact absurd heq (hname ['o', 'r'] rest (by decide))
  · next rest heq => exact absurd heq (hname ['a', 'n', 'd'] rest (by decide))
  · rfl

theorem isPart_leafText (hcolumn : isIdentifier column = true)
    (hconfig : ∀ config, op.config? = some config → isIdentifier config = true)
    (hvalue : Text.Nested.IsPart value) : Text.Nested.IsPart (leafText column negated op value) := by
  have hparts := all_isIdentifierPart hcolumn
  obtain ⟨c, cs, hcs⟩ : ∃ c cs, column.toList = c :: cs :=
    List.exists_cons_of_ne_nil (ne_nil_of_isIdentifierText hcolumn)
  have hname : Text.Nested.RunsFrom 0 column.toList := Text.Nested.runsFrom_of_safe fun c hc =>
    isSafe_of_isIdentifierPart (hparts c hc)
  have hdot : Text.Nested.RunsFrom 0 ['.'] := Text.Nested.runsFrom_of_all (by decide)
  have hnot : Text.Nested.RunsFrom 0 (Filter.notWord negated).toList := by
    cases negated
    · exact Text.Nested.runsFrom_nil 0
    · exact Text.Nested.runsFrom_of_all (by decide)
  have hprefix := (((hname.append hdot).append hnot).append (Operator.runsFrom_render hconfig)).append hdot
  have htext : leafText column negated op value = column.toList ++ ['.'] ++ (Filter.notWord negated).toList ++
      op.render.toList ++ ['.'] ++ value := by
    simp [leafText]
  rw [htext]
  rw [hcs] at hprefix ⊢
  exact hvalue.prefixed (not_isBlank_of_isIdentifierPart (hparts c (by rw [hcs]; simp))) hprefix

/-! ### What a leaf asks -/

/-- What a leaf asks of a row. -/
def Leaf.eval (row : Row) (l : Leaf) : Bool := l.operator.test (row.cell l.column) l.operand

theorem holds_leaf {l : Leaf} {t : Token} (ht : l.token = .ok t)
    (hfree : ∀ items, l.operand = .list items → ∀ s ∈ items, s.HasNoBracket) (negated : Bool) (row : Row) :
    (Condition.leaf l.column negated l.operator.render
        (String.ofList (Text.Quoted.read t.groupedValue.toList))).holds row =
      .ok (l.eval row != negated) := by
  unfold Condition.holds
  rw [Operator.testLeaf_render, Operator.testLeaf_read_grouped ht hfree]
  rfl

end TableQuery
