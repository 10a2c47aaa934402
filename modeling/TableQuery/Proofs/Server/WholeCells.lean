import TableQuery.Proofs.Decimal.Nearest
import TableQuery.Proofs.Server.Sorted

/-! Integers in cells.

A cell that holds an integer of a word's size is compared by its value, and so is the text that a scalar for such an
integer becomes (`compareCells_int`, `Scalar.IsWhole.isOf`). So a comparison stands as it does between the nearest
values, and as between the integers themselves where these are told apart (`compare_nearest`). Rows come in the order
of the nearest values; whether they come in the order of the integers depends on how the rows that tie were stored
(`pairwise_sortRows_iff`). -/
namespace TableQuery

/-- An integer of a machine word, with a sign or without. -/
def FitsWord (n : Int) : Prop := -2 ^ 63 ≤ n ∧ n < 2 ^ 64

instance (n : Int) : Decidable (FitsWord n) := inferInstanceAs (Decidable (_ ∧ _))

theorem FitsWord.natAbs_lt {n : Int} (h : FitsWord n) : n.natAbs < 2 ^ 64 := by
  obtain ⟨hlow, hhigh⟩ := h
  omega

/-- A comparison carries no configuration. -/
theorem Operator.render_eq_name {op : Operator} {asked : Ordering → Bool}
    (h : Server.comparison? op.name = some asked) : op.render = op.name := by
  cases op with
  | search kind config => cases kind <;> exact nomatch h
  | _ => rfl

namespace Scalar

/-- What a word, with a sign or without, becomes as an operand. -/
inductive IsWhole : Scalar → Int → Prop where
  | signed (n : Int64) : IsWhole (.int n) n.toInt
  | unsigned (n : UInt64) : IsWhole (.ofWord n) n.toNat

namespace IsWhole
variable {s : Scalar} {n : Int}

theorem fitsWord (h : s.IsWhole n) : FitsWord n := by
  cases h with
  | signed n => exact ⟨n.le_toInt, n.toInt_lt.trans (by decide)⟩
  | unsigned n =>
    have hword := n.toNat_lt
    constructor <;> omega

theorem render_eq (h : s.IsWhole n) : s.render = toString n := by
  cases h with
  | signed n => rfl
  | unsigned n =>
    unfold ofWord
    split
    · next hsigned =>
      have hvalue : (Int64.ofNat n.toNat).toInt = n.toNat := Int64.toInt_ofNat_of_lt hsigned
      rw [render, hvalue]
    · rfl

theorem exists_of_fitsWord (h : FitsWord n) : ∃ s : Scalar, s.IsWhole n := by
  obtain ⟨hlow, hhigh⟩ := h
  by_cases hsigned : n < 2 ^ 63
  · have hvalue : (Int64.ofInt n).toInt = n := Int64.toInt_ofInt_of_le hlow hsigned
    have hwhole := IsWhole.signed (Int64.ofInt n)
    rw [hvalue] at hwhole
    exact ⟨_, hwhole⟩
  · have hvalue : ((UInt64.ofNat n.toNat).toNat : Int) = n := by
      rw [UInt64.toNat_ofNat', Nat.mod_eq_of_lt (by omega)]
      omega
    have hwhole := IsWhole.unsigned (UInt64.ofNat n.toNat)
    rw [hvalue] at hwhole
    exact ⟨_, hwhole⟩

theorem int_or_text (h : s.IsWhole n) : (∃ k, s = .int k) ∨ ∃ t, s = .text t := by
  cases h with
  | signed n => exact .inl ⟨n, rfl⟩
  | unsigned n =>
    unfold ofWord
    split
    · exact .inl ⟨_, rfl⟩
    · exact .inr ⟨_, rfl⟩

/-- The operand reads as the value of the integer. -/
theorem isOf (h : s.IsWhole n) : s.IsOf (.num (.int n)) := by
  have habs := h.fitsWord.natAbs_lt
  have hlength : (Nat.toDigits 10 n.natAbs).length ≤ 20 :=
    (Nat.length_toDigits_le_iff (by decide) (by decide)).mpr (by omega)
  show Decimal.float? s.render = _
  rw [h.render_eq]
  exact Decimal.float?_toString (hlength.trans (by decide))

/-- A comparison with the operand is encoded as the digits of the integer. -/
theorem encode_eq (h : s.IsWhole n) {op : Operator} {asked : Ordering → Bool}
    (hop : Server.comparison? op.name = some asked) :
    op.encode (.one s) = .ok ⟨false, op.name, toString n, s.isText⟩ := by
  have hvalue : op.encodeValue (.one s) = .ok (s.render, s.isText) := by
    cases op with
    | search kind config => cases kind <;> exact nomatch hop
    | eq | neq | gt | gte | lt | lte => obtain ⟨k, rfl⟩ | ⟨t, rfl⟩ := h.int_or_text <;> rfl
    | _ => exact nomatch hop
  rw [Operator.encode, hvalue, Operator.render_eq_name hop, h.render_eq]
  rfl

end IsWhole
end Scalar

/-! ### Nearest values -/

theorem nearest_lt {a b : Int} (h : Decimal.nearest a < Decimal.nearest b) : a < b :=
  Decimal.monotone_nearest.reflect_lt h

/-- Integers whose nearest values differ stand as these do. -/
theorem compare_nearest {a b : Int} (h : Decimal.nearest a ≠ Decimal.nearest b) :
    compare (Decimal.nearest a) (Decimal.nearest b) = compare a b := by
  rcases lt_or_gt_of_ne h with h | h
  · rw [compare_lt_iff_lt.mpr h, compare_lt_iff_lt.mpr (nearest_lt h)]
  · rw [compare_gt_iff_gt.mpr h, compare_gt_iff_gt.mpr (nearest_lt h)]

/-- All comparisons of two integers stand as those of their values if they are one integer, or have two values. -/
theorem comparisons_agree_iff (a b : Int) :
    (∀ (op : Operator) (asked : Ordering → Bool), Server.comparison? op.name = some asked →
        asked (compare (Decimal.nearest a) (Decimal.nearest b)) = asked (compare a b)) ↔
      a = b ∨ Decimal.nearest a ≠ Decimal.nearest b := by
  constructor
  · intro hagree
    by_contra hconfused
    obtain ⟨hne, heq⟩ := not_or.mp hconfused
    have hequal := hagree .eq _ rfl
    rw [compare_eq_iff_eq.mpr (not_not.mp heq)] at hequal
    exact hne (compare_eq_iff_eq.mp (Ordering.isEq_iff_eq_eq.mp hequal.symm))
  · rintro (rfl | hne) op asked -
    · rw [compare_eq_iff_eq.mpr rfl, compare_eq_iff_eq.mpr rfl]
    · rw [compare_nearest hne]

namespace Server

theorem isFinite_int_of_fitsWord {n : Int} (h : FitsWord n) : (Json.num (.int n)).IsFinite :=
  (Decimal.rational_toFloat h.natAbs_lt).1

/-- Cells with integers compare as the values that are nearest to these. -/
theorem compareCells_int {a b : Int} (ha : FitsWord a) (hb : FitsWord b) :
    compareCells (.num (.int a)) (.num (.int b)) = compare (Decimal.nearest a) (Decimal.nearest b) := by
  have hvalue {n : Int} (h : FitsWord n) : (Number.int n).value = Decimal.nearest n :=
    (Decimal.rational_toFloat h.natAbs_lt).2
  rw [compareCells_num (isFinite_int_of_fitsWord ha) (isFinite_int_of_fitsWord hb), hvalue ha, hvalue hb,
    ← cmp_eq_compare, ← cmp_eq_compare]
  exact (Int.cast_strictMono (R := ℚ)).cmp_map_eq _ _

theorem alike_int {a b : Int} (ha : FitsWord a) (hb : FitsWord b) : Alike (.num (.int a)) (.num (.int b)) :=
  .numbers (by
    rw [Decimal.compareFloats?_rational (isFinite_int_of_fitsWord ha) (isFinite_int_of_fitsWord hb)]
    rfl)

variable {a b : Int} {s : Scalar} {op : Operator} {asked : Ordering → Bool} {column : String} {row : Row}

/-- A comparison with an integer asks of the cell how the nearest values stand. -/
theorem eval_whole (hcell : row.cell column = .num (.int a)) (ha : FitsWord a) (hs : s.IsWhole b)
    (hop : comparison? op.name = some asked) :
    (Filter.test column op (.one s)).eval row = asked (compare (Decimal.nearest a) (Decimal.nearest b)) := by
  have halike : Alike (row.cell column) (.num (.int b)) := by
    rw [hcell]
    exact alike_int ha hs.fitsWord
  rw [Filter.eval_comparison hop hs.isOf halike, hcell, compareCells_int ha hs.fitsWord]

theorem config_of_comparison (hop : comparison? op.name = some asked) :
    ∀ config, op.config? = some config → isIdentifier config = true := by
  cases op with
  | search kind config => cases kind <;> exact nomatch hop
  | _ => exact nofun

theorem render_positive (operator value : String) (quotable : Bool) :
    (⟨false, operator, value, quotable⟩ : Token).render = operator ++ "." ++ value := by
  rw [Token.render, Token.compose, if_neg Bool.false_ne_true, String.empty_append]

/-- As a parameter the comparison is the digits of the integer behind its name. -/
theorem param_whole (hs : s.IsWhole b) (hop : comparison? op.name = some asked) (column : String) :
    Filter.param "" (.test column op (.one s)) = .ok (column, op.name ++ "." ++ toString b) := by
  have htoken : (⟨column, op, .one s⟩ : Leaf).token = .ok ⟨false, op.name, toString b, s.isText⟩ :=
    hs.encode_eq hop
  rw [Filter.param, Filter.test, Filter.paramAs, htoken]
  exact congrArg Except.ok (Prod.ext String.empty_append (render_positive ..))

/-- Read back it is the test of the column. -/
theorem parseLeaf_whole (hs : s.IsWhole b) (hop : comparison? op.name = some asked) (column : String) :
    parseLeaf column.toList (op.name ++ "." ++ toString b).toList false =
      .ok (.leaf column false op.name (toString b)) := by
  have hparse := parseLeaf_render (l := ⟨column, op, .one s⟩) false (config_of_comparison hop) (hs.encode_eq hop)
  rwa [if_neg Bool.false_ne_true, render_positive, Operator.render_eq_name hop] at hparse

/-- The test finds the nearest values. -/
theorem holds_whole (hcell : row.cell column = .num (.int a)) (ha : FitsWord a) (hs : s.IsWhole b)
    (hop : comparison? op.name = some asked) :
    (Condition.leaf column false op.name (toString b)).holds row =
      .ok (asked (compare (Decimal.nearest a) (Decimal.nearest b))) := by
  have hholds := holds_value (l := ⟨column, op, .one s⟩) (hs.encode_eq hop) nofun false row
  rw [Bool.bne_false, Operator.render_eq_name hop] at hholds
  rw [hholds, ← eval_whole hcell ha hs hop]
  rfl

/-- In a request it is one more condition on the rows of the table. -/
theorem put_whole (hs : s.IsWhole b) (hop : comparison? op.name = some asked) (hcolumn : IsFreeName column)
    (p : Params) :
    p.put column (op.name ++ "." ++ toString b) = .ok (p.modify "" fun scope =>
      { scope with conditions := scope.conditions ++ [.leaf column false op.name (toString b)] }) := by
  have hsub : ["select", "on_conflict", "columns", "order", "limit", "offset", "or", "and"] ⊆ grammarWords := by
    decide
  have hput := Leaf.put_param (l := ⟨column, op, .one s⟩) p false (nofun : IsPath []) hcolumn.1
    (fun hmem => hcolumn.2 (hsub hmem)) (config_of_comparison hop) (hs.encode_eq hop)
  have hname : namePrefix [] ++ column = column := String.empty_append
  rwa [if_neg Bool.false_ne_true, render_positive, Operator.render_eq_name hop, hname] at hput

/-- The values after one, in a direction, are those whose nearest value is beyond its nearest. -/
theorem eval_after_whole (hcell : row.cell column = .num (.int a)) (ha : FitsWord a) (hs : s.IsWhole b)
    (direction : Direction) :
    (Pagination.after column s direction).eval row =
      (compare (Decimal.nearest a) (Decimal.nearest b) == if direction = .asc then .gt else .lt) := by
  cases direction with
  | asc =>
    rw [Pagination.after, eval_whole hcell ha hs rfl]
    cases compare (Decimal.nearest a) (Decimal.nearest b) <;> rfl
  | desc =>
    rw [Pagination.after, eval_whole hcell ha hs rfl]
    cases compare (Decimal.nearest a) (Decimal.nearest b) <;> rfl

/-! ### Sorted rows -/

/-- The integer in a column; zero if there is none. -/
def Row.whole (row : Row) (column : String) : Int :=
  match row.cell column with
  | .num (.int n) => n
  | _ => 0

/-- The value nearest to that integer. -/
def Row.wholeValue (row : Row) (column : String) : Int := Decimal.nearest (row.whole column)

/-- A column that holds in every row an integer of a word's size. -/
def WholeColumn (column : String) (rows : List Row) : Prop :=
  ∀ row ∈ rows, row.cell column = .num (.int (row.whole column)) ∧ FitsWord (row.whole column)

/-- One integer may stand before the other in the direction of a term. -/
def OrderTerm.InOrder (t : OrderTerm) (m n : Int) : Prop := if t.descending then n ≤ m else m ≤ n

instance (t : OrderTerm) (m n : Int) : Decidable (t.InOrder m n) := inferInstanceAs (Decidable (ite ..))

variable {t : OrderTerm} {rows : List Row}

theorem OrderTerm.inOrder_of_nearest (hne : Decimal.nearest a ≠ Decimal.nearest b)
    (h : t.InOrder (Decimal.nearest a) (Decimal.nearest b)) : t.InOrder a b := by
  unfold OrderTerm.InOrder at h ⊢
  split_ifs at h ⊢
  · exact (nearest_lt (lt_of_le_of_ne h hne.symm)).le
  · exact (nearest_lt (lt_of_le_of_ne h hne)).le

namespace WholeColumn

theorem isFinite (h : WholeColumn t.column rows) : ∀ u ∈ [t], ∀ row ∈ rows, (row.cell u.column).IsFinite := by
  intro u hu row hrow
  obtain rfl := List.mem_singleton.mp hu
  rw [(h row hrow).1]
  exact isFinite_int_of_fitsWord (h row hrow).2

variable {p q : Row}

theorem compareRows_eq (h : WholeColumn t.column rows) (hp : p ∈ rows) (hq : q ∈ rows) :
    compareRows [t] p q = if t.descending then (compare (p.wholeValue t.column) (q.wholeValue t.column)).swap
      else compare (p.wholeValue t.column) (q.wholeValue t.column) := by
  obtain ⟨hpcell, hpfits⟩ := h p hp
  obtain ⟨hqcell, hqfits⟩ := h q hq
  rw [compareRows, compareRows, Ordering.then_eq, hpcell, hqcell, t.compare_of_not_null rfl rfl,
    compareCells_int hpfits hqfits]
  rfl

theorem isLE_compareRows (h : WholeColumn t.column rows) (hp : p ∈ rows) (hq : q ∈ rows) :
    (compareRows [t] p q).isLE = true ↔ t.InOrder (p.wholeValue t.column) (q.wholeValue t.column) := by
  rw [h.compareRows_eq hp hq, OrderTerm.InOrder]
  split_ifs
  · rw [← Std.OrientedCmp.eq_swap, Std.isLE_compare]
  · rw [Std.isLE_compare]

theorem tiesOn_iff (h : WholeColumn t.column rows) (hp : p ∈ rows) (hq : q ∈ rows) :
    p.TiesOn [t] q ↔ p.wholeValue t.column = q.wholeValue t.column := by
  rw [← compareRows_eq_eq, h.compareRows_eq hp hq]
  split_ifs
  · rw [Ordering.swap_eq_eq, compare_eq_iff_eq]
  · rw [compare_eq_iff_eq]

/-- Sorted by the column, rows come in the order of the values. -/
theorem pairwise_sortRows (h : WholeColumn t.column rows) :
    (sortRows [t] rows).Pairwise fun p q => t.InOrder (p.wholeValue t.column) (q.wholeValue t.column) := by
  have hmem {row : Row} (hrow : row ∈ sortRows [t] rows) : row ∈ rows := (sortRows_perm [t] rows).mem_iff.mp hrow
  exact (pairwise_sortRows_isLE (isOrderOn_of_isFinite h.isFinite)).imp_of_mem fun hp hq hle =>
    (h.isLE_compareRows (hmem hp) (hmem hq)).mp hle

/-- Rows of one value stay as they were stored. -/
theorem filter_sortRows (h : WholeColumn t.column rows) (hp : p ∈ rows) :
    (sortRows [t] rows).filter (fun q => p.wholeValue t.column = q.wholeValue t.column) =
      rows.filter fun q => p.wholeValue t.column = q.wholeValue t.column := by
  have hmem {row : Row} (hrow : row ∈ sortRows [t] rows) : row ∈ rows := (sortRows_perm [t] rows).mem_iff.mp hrow
  have hties := Server.filter_sortRows (isOrderOn_of_isFinite h.isFinite) hp
  rwa [List.filter_congr fun q hq => decide_eq_decide.mpr (h.tiesOn_iff hp (hmem hq)),
    List.filter_congr fun q hq => decide_eq_decide.mpr (h.tiesOn_iff hp hq)] at hties

end WholeColumn

/-- Elements with one key stand in a relation if and only if those with any key of the list do. -/
theorem pairwise_of_key_iff {α β : Type} [DecidableEq β] (key : α → β) (R : α → α → Prop) (l : List α) :
    l.Pairwise (fun a b => key a = key b → R a b) ↔
      ∀ r ∈ l, (l.filter fun a => key r = key a).Pairwise R := by
  constructor
  · intro h r hr
    refine (h.filter _).imp_of_mem fun {a b} ha hb hab => hab ?_
    rw [← of_decide_eq_true (List.mem_filter.mp ha).2, ← of_decide_eq_true (List.mem_filter.mp hb).2]
  · intro h
    rw [List.pairwise_iff_forall_sublist]
    -- Two elements with one key are one behind the other among those with the key, too.
    intro a b hsub hkey
    have hboth := hsub.filter fun c => key a = key c
    rw [List.filter_cons_of_pos (by simp), List.filter_cons_of_pos (by simpa using hkey), List.filter_nil] at hboth
    exact List.pairwise_pair.mp ((h a (hsub.subset List.mem_cons_self)).sublist hboth)

/-- They come in the order of the integers if and only if those whose values are the same were stored in it. -/
theorem WholeColumn.pairwise_sortRows_iff (h : WholeColumn t.column rows) :
    (sortRows [t] rows).Pairwise (fun p q => t.InOrder (p.whole t.column) (q.whole t.column)) ↔
      rows.Pairwise fun p q => p.wholeValue t.column = q.wholeValue t.column →
        t.InOrder (p.whole t.column) (q.whole t.column) := by
  have hapart : (sortRows [t] rows).Pairwise (fun p q => t.InOrder (p.whole t.column) (q.whole t.column)) ↔
      (sortRows [t] rows).Pairwise fun p q => p.wholeValue t.column = q.wholeValue t.column →
        t.InOrder (p.whole t.column) (q.whole t.column) := by
    constructor
    · intro hall
      refine hall.imp fun {p q} hinorder => ?_
      exact fun _ => hinorder
    · intro htied
      refine (htied.and h.pairwise_sortRows).imp fun {p q} ⟨htie, hvalues⟩ => ?_
      by_cases hvalue : p.wholeValue t.column = q.wholeValue t.column
      · exact htie hvalue
      · exact OrderTerm.inOrder_of_nearest hvalue hvalues
  rw [hapart, pairwise_of_key_iff (Row.wholeValue · t.column), pairwise_of_key_iff (Row.wholeValue · t.column)]
  simp only [(sortRows_perm [t] rows).mem_iff]
  exact forall₂_congr fun p hp => by rw [h.filter_sortRows hp]

/-- **Integers are compared by their nearest values.** An integer of a word's size is an operand. A comparison of a
column with it is sent as its digits and read as the test of the column, and over a column of integers it holds where
the nearest values stand as it asks; so does a cursor. All comparisons with a row stand as those of the integers
themselves if and only if the integers are the same or their values are not. Sorted by the column, rows are in the order
of the values, and in that of the integers if and only if those of one value were stored in it. Values keep the order,
are the integers themselves up to 2 ^ 53, and beyond are no farther than half a place from them. -/
theorem whole_cells_by_value (t : OrderTerm) (rows : List Row) (b : Int) (h : WholeColumn t.column rows)
    (hb : FitsWord b) :
    (∃ s : Scalar, s.IsWhole b) ∧
    (∀ (s : Scalar) (op : Operator) (asked : Ordering → Bool), s.IsWhole b → comparison? op.name = some asked →
      Filter.param "" (.test t.column op (.one s)) = .ok (t.column, op.name ++ "." ++ toString b) ∧
      parseLeaf t.column.toList (op.name ++ "." ++ toString b).toList false =
        .ok (.leaf t.column false op.name (toString b)) ∧
      (IsFreeName t.column → ∀ p : Params,
        p.put t.column (op.name ++ "." ++ toString b) = .ok (p.modify "" fun scope =>
          { scope with conditions := scope.conditions ++ [.leaf t.column false op.name (toString b)] }))) ∧
    (∀ row ∈ rows,
      (∀ (op : Operator) (asked : Ordering → Bool), comparison? op.name = some asked →
        (Condition.leaf t.column false op.name (toString b)).holds row =
          .ok (asked (compare (row.wholeValue t.column) (Decimal.nearest b)))) ∧
      (∀ (s : Scalar) (direction : Direction), s.IsWhole b →
        (Pagination.after t.column s direction).eval row =
          (compare (row.wholeValue t.column) (Decimal.nearest b) == if direction = .asc then .gt else .lt)) ∧
      ((∀ (op : Operator) (asked : Ordering → Bool), comparison? op.name = some asked →
          (Condition.leaf t.column false op.name (toString b)).holds row =
            .ok (asked (compare (row.whole t.column) b))) ↔
        row.whole t.column = b ∨ row.wholeValue t.column ≠ Decimal.nearest b)) ∧
    ((sortRows [t] rows).Perm rows ∧
      (sortRows [t] rows).Pairwise (fun p q => t.InOrder (p.wholeValue t.column) (q.wholeValue t.column)) ∧
      ((sortRows [t] rows).Pairwise (fun p q => t.InOrder (p.whole t.column) (q.whole t.column)) ↔
        rows.Pairwise fun p q => p.wholeValue t.column = q.wholeValue t.column →
          t.InOrder (p.whole t.column) (q.whole t.column))) ∧
    ((∀ n ≤ b, Decimal.nearest n ≤ Decimal.nearest b) ∧ (b.natAbs ≤ 2 ^ 53 → Decimal.nearest b = b) ∧
      2 * |Decimal.nearest b - b| ≤ Decimal.spacing b.natAbs) := by
  obtain ⟨s, hs⟩ := Scalar.IsWhole.exists_of_fitsWord hb
  have hholds (row : Row) (hrow : row ∈ rows) (op : Operator) (asked : Ordering → Bool)
      (hop : comparison? op.name = some asked) : (Condition.leaf t.column false op.name (toString b)).holds row =
        .ok (asked (compare (row.wholeValue t.column) (Decimal.nearest b))) :=
    holds_whole (h row hrow).1 (h row hrow).2 hs hop
  refine ⟨⟨s, hs⟩, ?_, fun row hrow => ⟨hholds row hrow, ?_, ?_⟩, ?_, ?_⟩
  · intro s op asked hs hop
    exact ⟨param_whole hs hop t.column, parseLeaf_whole hs hop t.column, put_whole hs hop⟩
  · intro s direction hs
    exact eval_after_whole (h row hrow).1 (h row hrow).2 hs direction
  · refine Iff.trans ?_ (comparisons_agree_iff (row.whole t.column) b)
    refine forall_congr' fun op => forall_congr' fun asked => forall_congr' fun hop => ?_
    rw [hholds row hrow op asked hop, Except.ok.injEq]
    rfl
  · exact ⟨sortRows_perm [t] rows, h.pairwise_sortRows, h.pairwise_sortRows_iff⟩
  · exact ⟨fun n hn => Decimal.monotone_nearest hn, Decimal.nearest_of_natAbs_le, Decimal.abs_nearest_sub_le b⟩

/-- A row with an integer for its number. -/
def numbered (n : Int) : Row := [("id", .ofInt n)]

theorem wholeColumn_numbered {numbers : List Int} (h : ∀ n ∈ numbers, FitsWord n) :
    WholeColumn "id" (numbers.map numbered) := by
  intro row hrow
  obtain ⟨n, hn, rfl⟩ := List.mem_map.mp hrow
  exact ⟨rfl, h n hn⟩

/-- Two integers with a value of their own are told apart, though they are beyond 2 ^ 53. -/
theorem whole_cells_apart :
    WholeColumn "id" ([9007199254740994, 9007199254740992].map numbered) ∧ FitsWord 9007199254740992 ∧
    (Scalar.int 9007199254740992).IsWhole 9007199254740992 ∧ comparison? Operator.eq.name = some Ordering.isEq ∧
    (Condition.leaf "id" false "eq" "9007199254740992").holds (numbered 9007199254740994) = .ok false ∧
    (Pagination.after "id" (.int 9007199254740992) .asc).eval (numbered 9007199254740994) = true ∧
    (sortRows [⟨"id", false, false⟩] ([9007199254740994, 9007199254740992].map numbered)).Pairwise
      fun p q => p.whole "id" ≤ q.whole "id" := by
  have hfits : FitsWord 9007199254740992 := by decide
  have hwhole : (Scalar.int 9007199254740992).IsWhole 9007199254740992 := .signed 9007199254740992
  have hcolumn : WholeColumn "id" ([9007199254740994, 9007199254740992].map numbered) :=
    wholeColumn_numbered (by decide)
  obtain ⟨-, -, hrows, ⟨-, -, hsorted⟩, -⟩ := whole_cells_by_value ⟨"id", false, false⟩ _ _ hcolumn hfits
  obtain ⟨hholds, hafter, -⟩ := hrows (numbered 9007199254740994) List.mem_cons_self
  refine ⟨hcolumn, hfits, hwhole, rfl, (hholds .eq _ rfl).trans ?_, (hafter _ .asc hwhole).trans ?_, ?_⟩
  · decide +kernel
  · decide +kernel
  · exact hsorted.mpr (by decide +kernel)

/-- A row whose integer is one more than 2 ^ 53 has that one for its number too, and comes before the row that has. -/
theorem neighbours_are_confused :
    (numbered 9007199254740993).cell "id" = .num (.int 9007199254740993) ∧
    Filter.param "" (.test "id" .eq (.one (.int 9007199254740992))) = .ok ("id", "eq.9007199254740992") ∧
    parseLeaf "id".toList "eq.9007199254740992".toList false = .ok (.leaf "id" false "eq" "9007199254740992") ∧
    (Condition.leaf "id" false "eq" "9007199254740992").holds (numbered 9007199254740993) = .ok true ∧
    ¬(sortRows [⟨"id", false, false⟩] ([9007199254740993, 9007199254740992].map numbered)).Pairwise
      fun p q => p.whole "id" ≤ q.whole "id" := by
  have hwhole : (Scalar.int 9007199254740992).IsWhole 9007199254740992 := .signed 9007199254740992
  have hop : comparison? Operator.eq.name = some Ordering.isEq := rfl
  have hcolumn : WholeColumn "id" ([9007199254740993, 9007199254740992].map numbered) :=
    wholeColumn_numbered (by decide)
  refine ⟨rfl, param_whole hwhole hop "id", parseLeaf_whole hwhole hop "id", ?_, ?_⟩
  · exact (holds_whole rfl (by decide) hwhole hop).trans (by decide +kernel)
  · exact fun h => absurd ((hcolumn.pairwise_sortRows_iff (t := ⟨"id", false, false⟩)).mp h) (by decide +kernel)

end Server
end TableQuery
