import TableQuery.Pagination
import TableQuery.Proofs.Decimal.Whole
import TableQuery.Proofs.Server.Parameters

/-! Cells among others of their kind.

Two texts compare with each other, and so do two numbers and two truth values (`Alike`). A scalar that stands for a
cell is compared with the cells of its kind as that cell is (`compareText?_of_isOf`), so a filter for the values after
it has the order of the rows in view (`Pagination.eval_after`). Cells of two kinds are ordered by how they are written,
which no filter goes by. -/
namespace TableQuery
open Server

namespace Server

/-- Two texts, two truth values, or two numbers that compare. -/
inductive Alike : Json → Json → Prop where
  | texts (s t : String) : Alike (.str s) (.str t)
  | bools (b d : Bool) : Alike (.bool b) (.bool d)
  | numbers {m n : Number} (h : (compareFloats? m.toFloat n.toFloat).isSome) : Alike (.num m) (.num n)

namespace Alike
variable {a b : Json}

theorem ints {m n : Int} (hm : m.natAbs ≤ 2 ^ 53) (hn : n.natAbs ≤ 2 ^ 53) :
    Alike (.num (.int m)) (.num (.int n)) :=
  .numbers (by rw [Decimal.compareFloats?_int hm hn]; rfl)

theorem symm (h : Alike a b) : Alike b a := by
  cases h with
  | texts s t => exact .texts t s
  | bools b d => exact .bools d b
  | numbers h =>
    refine .numbers ?_
    rw [compareFloats?_swap, Option.isSome_map]
    exact h

theorem not_isNull (h : Alike a b) : a.isNull = false := by
  cases h <;> rfl

theorem compareCells_swap (h : Alike a b) : compareCells b a = (compareCells a b).swap := by
  cases h with
  | texts s t =>
    show compare t s = (compare s t).swap
    exact Std.OrientedCmp.eq_swap
  | bools b d => cases b <;> cases d <;> rfl
  | numbers h =>
    obtain ⟨o, ho⟩ := Option.isSome_iff_exists.mp h
    rw [compareCells, compareCells, compareFloats?_swap, ho]
    rfl

end Alike

/-- A column that holds in every row a text without braces, or in every row an integer that is exactly a binary64
value. -/
def KeyColumn (column : String) (rows : List Row) : Prop :=
  (∀ row ∈ rows, ∃ t : String, row.cell column = .str t ∧ ∀ c ∈ t.toList, c ∉ ['\x7b', '\x7d']) ∨
    ∀ row ∈ rows, ∃ n : Int, row.cell column = .num (.int n) ∧ n.natAbs ≤ 2 ^ 53

theorem KeyColumn.alike {column : String} {rows : List Row} (h : KeyColumn column rows) {a b : Row}
    (ha : a ∈ rows) (hb : b ∈ rows) : Alike (a.cell column) (b.cell column) := by
  rcases h with h | h
  · obtain ⟨s, hs, -⟩ := h a ha
    obtain ⟨t, ht, -⟩ := h b hb
    rw [hs, ht]
    exact .texts s t
  · obtain ⟨m, hm, hmle⟩ := h a ha
    obtain ⟨n, hn, hnle⟩ := h b hb
    rw [hm, hn]
    exact .ints hmle hnle

namespace OrderTerm
variable {a b : Json}

theorem compare_of_not_null (t : OrderTerm) (ha : a.isNull = false) (hb : b.isNull = false) :
    t.compare a b = if t.descending then (compareCells a b).swap else compareCells a b := by
  rw [OrderTerm.compare, ha, hb]

/-- Whether two cells are told apart does not depend on the direction. -/
theorem compare_eq_eq (t : OrderTerm) (ha : a.isNull = false) (hb : b.isNull = false) :
    t.compare a b = .eq ↔ compareCells a b = .eq := by
  rw [compare_of_not_null t ha hb]
  split
  · exact Ordering.swap_eq_eq
  · exact Iff.rfl

end OrderTerm
end Server

/-! ### Operands -/

/-- A scalar that stands for a cell: a text or a truth value for its like, and what reads as a number for that
number. -/
def Scalar.IsOf (s : Scalar) : Json → Prop
  | .str t => s = .text t
  | .bool b => s = .bool b
  | .num n => Decimal.float? s.render = some n.toFloat
  | _ => False

theorem Scalar.isOf_int (n : Int64) : (Scalar.int n).IsOf (.num (.int n.toInt)) := by
  have hbounds : -2 ^ 63 ≤ n.toInt ∧ n.toInt < 2 ^ 63 := ⟨n.le_toInt, n.toInt_lt⟩
  have hlength : (Nat.toDigits 10 n.toInt.natAbs).length ≤ 19 :=
    (Nat.length_toDigits_le_iff (by decide) (by decide)).mpr (by omega)
  exact Decimal.float?_toString (Nat.le_trans hlength (by decide))

/-- A scalar is compared as the cell that it stands for. -/
theorem Server.compareText?_of_isOf {s : Scalar} {a b : Json} (hs : s.IsOf b) (h : Alike a b) :
    compareText? a s.render = some (compareCells a b) := by
  cases h with
  | texts x y =>
    obtain rfl : s = .text y := hs
    rfl
  | bools x y =>
    obtain rfl : s = .bool y := hs
    cases y <;> rfl
  | numbers h =>
    obtain ⟨o, ho⟩ := Option.isSome_iff_exists.mp h
    rw [compareText?, show Decimal.float? s.render = some _ from hs, compareCells, Option.bind_some, ho]
    rfl

namespace Filter
variable {column : String} {s : Scalar} {row : Row} {b : Json}

theorem eval_comparison {op : Operator} {asked : Ordering → Bool} (hop : comparison? op.name = some asked)
    (hs : s.IsOf b) (h : Alike (row.cell column) b) :
    (Filter.test column op (.one s)).eval row = asked (compareCells (row.cell column) b) := by
  have htest : testLeaf (row.cell column) op.name s.render =
      .ok ((compareText? (row.cell column) s.render).any asked) := by
    cases op with
    | search kind config => cases kind <;> exact nomatch hop
    | _ => first | exact Option.some.inj hop ▸ rfl | exact nomatch hop
  show (testLeaf (row.cell column) op.name s.render).toOption.getD false = _
  rw [htest, compareText?_of_isOf hs h]
  rfl

end Filter

namespace Pagination

/-- The rows after a value are those that come behind the one that has it. -/
theorem eval_after {column : String} {s : Scalar} {row : Row} {b : Json} {t : OrderTerm} {direction : Direction}
    (ht : t.descending = (direction == .desc)) (hs : s.IsOf b) (h : Alike (row.cell column) b) :
    (Pagination.after column s direction).eval row = (t.compare b (row.cell column) == .lt) := by
  rw [t.compare_of_not_null h.symm.not_isNull h.not_isNull, ht, h.compareCells_swap]
  cases direction with
  | asc =>
    rw [after, Filter.eval_comparison rfl hs h]
    cases compareCells (row.cell column) b <;> rfl
  | desc =>
    rw [after, Filter.eval_comparison rfl hs h]
    cases compareCells (row.cell column) b <;> rfl

/-- The rows with a value are those that are not told apart from the one that has it. -/
theorem eval_with {column : String} {s : Scalar} {row : Row} {b : Json} (t : OrderTerm) (hs : s.IsOf b)
    (h : Alike (row.cell column) b) :
    (Filter.test column .eq (.one s)).eval row = (t.compare b (row.cell column) == .eq) := by
  rw [Filter.eval_comparison rfl hs h, t.compare_of_not_null h.symm.not_isNull h.not_isNull, h.compareCells_swap]
  cases compareCells (row.cell column) b <;> cases t.descending <;> rfl

end Pagination
end TableQuery
