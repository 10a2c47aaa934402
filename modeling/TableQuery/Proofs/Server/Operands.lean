import TableQuery.Proofs.Chained
import TableQuery.Proofs.Scalar
import TableQuery.Server.Rows

/-! Operands on the server.

A list of scalars is read back as the list of their texts (`parseList?_renderList`). `Operator.test` is
what an operator asks of a cell and an operand, said without any wire form, and the server's test of the
operand's wire form has that outcome (`testLeaf_read_grouped`). -/
namespace TableQuery
open Server

/-! ### Lists -/

theorem between?_bracketed (opening closing : Char) (body : List Char) :
    between? opening closing (opening :: (body ++ [closing])) = some body := by
  simp [between?]

namespace Scalar

theorem toList_renderList (items : List Scalar) (opening closing : Char) (reserved : List Char) :
    (renderList items opening closing reserved).toList =
      opening :: (List.intercalate [','] (items.map fun s => (s.renderQuoted reserved).toList) ++
        [closing]) := by
  simp [renderList, String.toList_intercalate, Function.comp_def]

variable {items : List Scalar} {opening closing : Char} {reserved : List Char}

theorem forall_isPart_renderQuoted (hcomma : ',' ∈ reserved) (hitems : ∀ s ∈ items, s.HasNoBracket) :
    ∀ p ∈ items.map fun s => (s.renderQuoted reserved).toList, Text.Nested.IsPart p := by
  intro p hp
  obtain ⟨s, hs, rfl⟩ := List.mem_map.mp hp
  exact isPart_renderQuoted hcomma (hitems s hs)

theorem isPart_renderList (hcomma : ',' ∈ reserved) (hitems : ∀ s ∈ items, s.HasNoBracket)
    (ho : Text.Nested.isOpening opening = true) (hc : Text.Nested.isClosing closing = true) :
    Text.Nested.IsPart (renderList items opening closing reserved).toList := by
  rw [toList_renderList]
  exact (Text.Nested.runsFrom_intercalate (forall_isPart_renderQuoted hcomma hitems)).isPart_bracketed ho hc

/-- **Lists read back.** Whatever the items are, apart from texts with brackets. -/
theorem parseList?_renderList (hcomma : ',' ∈ reserved) (hitems : ∀ s ∈ items, s.HasNoBracket) :
    parseList? opening closing (renderList items opening closing reserved).toList =
      some (items.map render) := by
  unfold parseList?
  rw [toList_renderList, between?_bracketed, Option.map_some]
  cases items with
  | nil => rfl
  | cons s rest =>
    have hne : List.intercalate [','] ((s :: rest).map fun s => (s.renderQuoted reserved).toList) ≠ [] := by
      rw [List.map_cons]
      cases rest.map fun s => (s.renderQuoted reserved).toList with
      | nil => simpa using (isPart_renderQuoted hcomma (hitems s List.mem_cons_self)).ne_nil
      | cons p ps => simp
    rw [if_neg (by simpa using hne), Text.Nested.split_intercalate (by simp)
      (forall_isPart_renderQuoted hcomma hitems), List.map_map]
    refine congrArg some (List.map_congr_left fun s hs => ?_)
    show String.ofList (Text.Quoted.read (Text.trim (s.renderQuoted reserved).toList)) = s.render
    rw [(isPart_renderQuoted hcomma (hitems s hs)).trim_eq, read_renderQuoted, String.ofList_toList]

end Scalar

/-! ### Tests -/

/-- No text of an operand has a bracket in it. -/
def Operand.HasNoBracket : Operand → Prop
  | .one s => s.HasNoBracket
  | .list items => ∀ s ∈ items, s.HasNoBracket

theorem Operand.HasNoBracket.items {operand : Operand} (h : operand.HasNoBracket) :
    ∀ items, operand = .list items → ∀ s ∈ items, s.HasNoBracket := by
  rintro items rfl
  exact h

namespace Operator

/-- What an operator asks of a cell and an operand: the server's test of the operand's text, or of the
texts of its items. -/
def test (op : Operator) (cell : Json) : Operand → Bool
  | .one s => (testLeaf cell op.name s.render).toOption.getD false
  | .list items =>
    match arrayTest? op.name, cell with
    | none, _ => items.any fun s => compareText? cell s.render == some .eq
    | some asked, .arr held => asked (held.map Json.toText) (items.map Scalar.render)
    | some _, _ => false

/-- The operators that take lists: membership with its list, and the three with an array. -/
inductive TakesList : Operator → Char → Char → List Char → Prop where
  | isIn : TakesList .isIn '(' ')' membershipReserved
  | contains : TakesList .contains '{' '}' arrayReserved
  | containedBy : TakesList .containedBy '{' '}' arrayReserved
  | overlaps : TakesList .overlaps '{' '}' arrayReserved

variable {op : Operator} {v : String} {quotable : Bool}

theorem encodeValue_list {items : List Scalar} (h : op.encodeValue (.list items) = .ok (v, quotable)) :
    ∃ opening closing reserved, TakesList op opening closing reserved ∧ quotable = false ∧
      v = Scalar.renderList items opening closing reserved := by
  cases op with
  | isIn =>
    simp only [encodeValue] at h
    obtain ⟨items', hitems, h⟩ := Chained.bind_eq_ok.mp h
    obtain rfl : items = items' := Except.ok.inj hitems
    split at h
    · exact nomatch h
    · obtain ⟨rfl, rfl⟩ := Prod.mk.inj (Except.ok.inj h)
      exact ⟨_, _, _, .isIn, rfl, rfl⟩
  | contains =>
    obtain ⟨rfl, rfl⟩ := Prod.mk.inj (Except.ok.inj h)
    exact ⟨_, _, _, .contains, rfl, rfl⟩
  | containedBy =>
    obtain ⟨rfl, rfl⟩ := Prod.mk.inj (Except.ok.inj h)
    exact ⟨_, _, _, .containedBy, rfl, rfl⟩
  | overlaps =>
    obtain ⟨rfl, rfl⟩ := Prod.mk.inj (Except.ok.inj h)
    exact ⟨_, _, _, .overlaps, rfl, rfl⟩
  | eq => exact nomatch h
  | neq => exact nomatch h
  | gt => exact nomatch h
  | gte => exact nomatch h
  | lt => exact nomatch h
  | lte => exact nomatch h
  | like => exact nomatch h
  | ilike => exact nomatch h
  | is => exact nomatch h
  | search kind config => exact nomatch h

theorem testLeaf_search (kind : SearchKind) (value : String) (cell : Json) :
    testLeaf cell kind.name value = .ok (testText (fun s => searchMatches s value.toList) cell) := by
  cases kind <;> simp [testLeaf, SearchKind.name, comparison?, arrayTest?, isSearch]

/-- Every operator that does not take a list tests any cell, `is` where it is asked for null or a truth
value. -/
theorem testLeaf_isOk {s : Scalar} (h : op.encodeValue (.one s) = .ok (v, quotable)) (cell : Json) :
    ∃ hit, testLeaf cell op.name s.render = .ok hit := by
  cases op with
  | eq => exact ⟨_, rfl⟩
  | neq => exact ⟨_, rfl⟩
  | gt => exact ⟨_, rfl⟩
  | gte => exact ⟨_, rfl⟩
  | lt => exact ⟨_, rfl⟩
  | lte => exact ⟨_, rfl⟩
  | like => exact ⟨_, rfl⟩
  | ilike => exact ⟨_, rfl⟩
  | is =>
    cases s with
    | null => exact ⟨_, rfl⟩
    | bool b => cases b <;> exact ⟨_, rfl⟩
    | int n => exact nomatch h
    | float x => exact nomatch h
    | text s => exact nomatch h
  | search kind config => exact ⟨_, testLeaf_search kind s.render cell⟩
  | isIn => exact nomatch h
  | contains => exact nomatch h
  | containedBy => exact nomatch h
  | overlaps => exact nomatch h

/-- The wire value of a single scalar is its text. -/
theorem encodeValue_one {s : Scalar} (h : op.encodeValue (.one s) = .ok (v, quotable)) :
    v = s.render ∧ quotable = s.isText := by
  cases op with
  | search kind config =>
    cases s with
    | text s =>
      replace h : (if (Text.trim s.toList).isEmpty then
        .error (.notASearch (search kind config).name s) else .ok (s, true)) =
          (.ok (v, quotable) : Except Fault (String × Bool)) := h
      split at h
      · exact nomatch h
      · cases h
        exact ⟨rfl, rfl⟩
    | null => exact nomatch h
    | bool b => exact nomatch h
    | int n => exact nomatch h
    | float x => exact nomatch h
  | isIn => exact nomatch h
  | contains => exact nomatch h
  | containedBy => exact nomatch h
  | overlaps => exact nomatch h
  | eq => cases s <;> cases h <;> exact ⟨rfl, rfl⟩
  | neq => cases s <;> cases h <;> exact ⟨rfl, rfl⟩
  | gt => cases s <;> cases h <;> exact ⟨rfl, rfl⟩
  | gte => cases s <;> cases h <;> exact ⟨rfl, rfl⟩
  | lt => cases s <;> cases h <;> exact ⟨rfl, rfl⟩
  | lte => cases s <;> cases h <;> exact ⟨rfl, rfl⟩
  | like =>
    cases s <;> cases h
    exact ⟨rfl, rfl⟩
  | ilike =>
    cases s <;> cases h
    exact ⟨rfl, rfl⟩
  | is => cases s <;> cases h <;> exact ⟨rfl, rfl⟩

theorem test_one {s : Scalar} {cell : Json} {hit : Bool} (h : testLeaf cell op.name s.render = .ok hit) :
    op.test cell (.one s) = hit := by
  show (testLeaf cell op.name s.render).toOption.getD false = hit
  rw [h]
  rfl

theorem testLeaf_list {opening closing : Char} {reserved : List Char} {items : List Scalar}
    (hop : TakesList op opening closing reserved) (hitems : ∀ s ∈ items, s.HasNoBracket) (cell : Json) :
    testLeaf cell op.name (Scalar.renderList items opening closing reserved) =
      .ok (op.test cell (.list items)) := by
  have hread (hcomma : ',' ∈ reserved) :
      parseList? opening closing (Scalar.renderList items opening closing reserved).toList =
        some (items.map Scalar.render) :=
    Scalar.parseList?_renderList hcomma hitems
  cases hop with
  | isIn =>
    show testMembership cell _ = _
    unfold testMembership
    rw [hread (by decide)]
    show Except.ok ((items.map Scalar.render).any _) = _
    rw [List.any_map]
    rfl
  | contains =>
    show testArray (fun held wanted => wanted.all held.contains) cell _ = _
    unfold testArray
    rw [hread (by decide)]
    cases cell <;> rfl
  | containedBy =>
    show testArray (fun held wanted => held.all wanted.contains) cell _ = _
    unfold testArray
    rw [hread (by decide)]
    cases cell <;> rfl
  | overlaps =>
    show testArray (fun held wanted => wanted.any held.contains) cell _ = _
    unfold testArray
    rw [hread (by decide)]
    cases cell <;> rfl

end Operator

/-! ### Values inside a group -/

/-- The value of a token inside a group. -/
def Token.groupedValue (t : Token) : String :=
  if t.quotable then (Scalar.text t.value).renderQuoted groupReserved else t.value

theorem Token.groupedValue_one {s : Scalar} {t : Token} (hvalue : t.value = s.render)
    (hquotable : t.quotable = s.isText) : t.groupedValue = s.renderQuoted groupReserved := by
  unfold groupedValue
  rw [hvalue, hquotable]
  cases s <;> rfl

variable {op : Operator} {operand : Operand} {t : Token}

theorem Operator.encodeValue_of_encode (h : op.encode operand = .ok t) :
    t.negated = false ∧ t.operator = op.render ∧ op.encodeValue operand = .ok (t.value, t.quotable) := by
  unfold encode at h
  cases hv : op.encodeValue operand with
  | error f =>
    rw [hv] at h
    exact nomatch h
  | ok r =>
    rw [hv] at h
    obtain rfl := Except.ok.inj h
    exact ⟨rfl, rfl, rfl⟩

theorem Operator.isPart_groupedValue_one {s : Scalar} (h : op.encode (.one s) = .ok t)
    (hs : s.ReservesBrackets groupReserved) : Text.Nested.IsPart t.groupedValue.toList := by
  obtain ⟨-, -, hv⟩ := encodeValue_of_encode h
  obtain ⟨hvalue, hquotable⟩ := encodeValue_one hv
  rw [Token.groupedValue_one hvalue hquotable]
  exact Scalar.isPart_renderQuoted_of_reserved (by decide) hs

theorem Operator.isPart_groupedValue (h : op.encode operand = .ok t) (hfree : operand.HasNoBracket) :
    Text.Nested.IsPart t.groupedValue.toList := by
  cases operand with
  | one s => exact isPart_groupedValue_one h (Scalar.HasNoBracket.reservesBrackets hfree _)
  | list items =>
    obtain ⟨-, -, hv⟩ := encodeValue_of_encode h
    obtain ⟨opening, closing, reserved, hop, hquotable, hvalue⟩ := encodeValue_list hv
    unfold Token.groupedValue
    rw [hquotable, hvalue]
    cases hop <;> exact Scalar.isPart_renderList (by decide) hfree (by decide) (by decide)

/-- The server's test of a value that stands alone is what the operator asks of the operand. Only the items
of a list are cut apart again, and must have no brackets. -/
theorem Operator.testLeaf_value (h : op.encode operand = .ok t)
    (hfree : ∀ items, operand = .list items → ∀ s ∈ items, s.HasNoBracket) (cell : Json) :
    testLeaf cell op.name t.value = .ok (op.test cell operand) := by
  obtain ⟨-, -, hv⟩ := encodeValue_of_encode h
  cases operand with
  | one s =>
    obtain ⟨hit, hhit⟩ := testLeaf_isOk hv cell
    rw [(encodeValue_one hv).1, test_one hhit, hhit]
  | list items =>
    obtain ⟨opening, closing, reserved, hop, -, hvalue⟩ := encodeValue_list hv
    rw [hvalue]
    exact testLeaf_list hop (hfree items rfl) cell

/-- Inside a group the value is read as it is outside. -/
theorem Operator.read_groupedValue (h : op.encode operand = .ok t) :
    Text.Quoted.read t.groupedValue.toList = t.value.toList := by
  obtain ⟨-, -, hv⟩ := encodeValue_of_encode h
  cases operand with
  | one s =>
    obtain ⟨hvalue, hquotable⟩ := encodeValue_one hv
    rw [Token.groupedValue_one hvalue hquotable, Scalar.read_renderQuoted, hvalue]
  | list items =>
    obtain ⟨opening, closing, reserved, hop, hquotable, hvalue⟩ := encodeValue_list hv
    have hgrouped : t.groupedValue = t.value := by
      unfold Token.groupedValue
      rw [hquotable]
      rfl
    -- It starts with a bracket, not with a quote.
    apply (congrArg (fun v : String => Text.Quoted.read v.toList) hgrouped).trans
    apply Text.Quoted.read_of_head?
    rw [hvalue, Scalar.toList_renderList]
    cases hop <;> exact fun hhead => absurd (Option.some.inj hhead) (by decide)

/-- **Operands keep their meaning.** What the server reads of a value inside a group and tests is what the
operator asks of the operand. -/
theorem Operator.testLeaf_read_grouped (h : op.encode operand = .ok t)
    (hfree : ∀ items, operand = .list items → ∀ s ∈ items, s.HasNoBracket) (cell : Json) :
    testLeaf cell op.name (String.ofList (Text.Quoted.read t.groupedValue.toList)) =
      .ok (op.test cell operand) := by
  rw [Operator.read_groupedValue h, String.ofList_toList]
  exact Operator.testLeaf_value h hfree cell

end TableQuery
