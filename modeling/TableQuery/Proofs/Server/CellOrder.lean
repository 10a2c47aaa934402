import TableQuery.Proofs.Decimal.Values
import TableQuery.Proofs.Json.Reread
import TableQuery.Proofs.Server.Cells

/-! Cells of all kinds in one order.

Cells of different kinds compare by their texts, of which the first character tells strings from numbers and these
from all others, in that order (`rankOf_render`). Strings, finite numbers and all others compare among themselves by
a key of their own. So two finite cells compare as their ranks do, then their numbers, then their texts
(`compareCells_eq`). This is a lawful order, and so is what an order term makes of it, with nulls before or after all
else (`OrderTerm.compare_eq`). -/
namespace TableQuery

/-- The binary64 value of a number as a rational number; zero if it is not finite. -/
def Number.value (n : Number) : ℚ := Decimal.rational n.toFloat.toModel.unpack

/-- No number without a finite binary64 value. -/
def Json.IsFinite : Json → Prop
  | .num n => n.toFloat.isFinite = true
  | _ => True

theorem Json.isFinite_int {n : Int} (h : n.natAbs ≤ 2 ^ 53) : (Json.num (.int n)).IsFinite := by
  show (Number.int n).toFloat.toModel.unpack.isFinite = true
  by_cases hn : n = 0
  · rw [hn]
    rfl
  · obtain ⟨m, hm, hunpack, -⟩ := Decimal.unpack_toFloat hn h
    rw [hunpack]
    rfl

/-- The text of a finite number is a numeral, maybe behind a minus sign. -/
theorem Json.exists_numeral_render {x : Number} (h : (Json.num x).IsFinite) :
    ∃ (n : Numeral) (negative : Bool), n.IsDecimal ∧ x.render.toList = n.signedText negative := by
  cases x with
  | int i => exact ⟨_, _, Numeral.isDecimal_toDigits i.natAbs, render_int i⟩
  | float x =>
    change x.isFinite = true at h
    have hkind : x.isNaN = false ∧ x.isInf = false := by
      show x.toModel.unpack.isNaN = false ∧ x.toModel.unpack.isInf = false
      rcases Decimal.unpack_of_isFinite h with ⟨s, hs⟩ | ⟨s, m, e, hm, hs, -⟩ <;> rw [hs] <;> exact ⟨rfl, rfl⟩
    exact exists_numeral_float hkind.1 hkind.2

namespace Server
variable {a b : Json}

/-! ### Ranks -/

/-- Strings come first, then numbers, then all others. -/
def rank : Json → Nat
  | .str _ => 0
  | .num _ => 1
  | _ => 2

/-- The rank of the cells whose texts start with a character. -/
def rankOf (c : Char) : Nat := if c < '-' then 0 else if c < '[' then 1 else 2

theorem lt_of_rankOf_lt {c d : Char} (h : rankOf c < rankOf d) : c < d := by
  unfold rankOf at h
  by_contra hle
  have hle : d ≤ c := not_lt.mp hle
  split_ifs at h <;> first | omega | order

theorem rankOf_digit {c : Char} (h : c.isDigit = true) : rankOf c = 1 := by
  have hdigit : '0' ≤ c ∧ c ≤ '9' := by simpa [Char.isDigit, Char.le_def] using h
  have hlow : ¬c < '-' := not_lt.mpr (le_trans (by decide) hdigit.1)
  have hhigh : c < '[' := lt_of_le_of_lt hdigit.2 (by decide)
  rw [rankOf, if_neg hlow, if_pos hhigh]

theorem rankOf_render {v : Json} (h : v.IsFinite) : ∃ c cs, v.render.toList = c :: cs ∧ rankOf c = rank v := by
  cases v with
  | null => exact ⟨'n', _, rfl, rfl⟩
  | bool b => cases b <;> exact ⟨_, _, rfl, rfl⟩
  | num x =>
    obtain ⟨n, negative, hn, htext⟩ := Json.exists_numeral_render h
    obtain ⟨c, cs, hcons, rfl | hc⟩ := Json.Numeral.exists_signedText hn negative
    · exact ⟨'-', cs, htext.trans hcons, rfl⟩
    · exact ⟨c, cs, htext.trans hcons, rankOf_digit hc⟩
  | str s => exact ⟨'"', _, Json.toList_quote s, rfl⟩
  | arr items => exact ⟨'[', _, Json.Reader.toList_render_arr items, rfl⟩
  | obj members => exact ⟨'\x7b', _, Json.Reader.toList_render_obj members, rfl⟩

theorem render_lt_of_rank_lt (ha : a.IsFinite) (hb : b.IsFinite) (h : rank a < rank b) : a.render < b.render := by
  obtain ⟨c, cs, hcs, hc⟩ := rankOf_render ha
  obtain ⟨d, ds, hds, hd⟩ := rankOf_render hb
  rw [String.lt_iff_toList_lt, hcs, hds]
  exact List.cons_lt_cons_iff.mpr (.inl (lt_of_rankOf_lt (hc ▸ hd ▸ h)))

/-- Cells of different ranks compare as these do. -/
theorem compareCells_of_rank_ne (ha : a.IsFinite) (hb : b.IsFinite) (h : rank a ≠ rank b) :
    compareCells a b = compare (rank a) (rank b) := by
  have htexts : compareCells a b = compare a.render b.render := by
    cases a <;> cases b <;> first | exact absurd rfl h | rfl
  rw [htexts]
  rcases Nat.lt_or_gt_of_ne h with h | h
  · rw [compare_lt_iff_lt.mpr (render_lt_of_rank_lt ha hb h), compare_lt_iff_lt.mpr h]
  · rw [compare_gt_iff_gt.mpr (render_lt_of_rank_lt hb ha h), compare_gt_iff_gt.mpr h]

/-! ### Keys -/

/-- The number of a cell; zero if it is none. -/
def numberKey : Json → ℚ
  | .num n => n.value
  | _ => 0

/-- The text by which a cell compares; empty if it is a number. -/
def textKey : Json → String
  | .str s => s
  | .num _ => ""
  | v => v.render

/-- The order of the cells. -/
def cellOrder : Json → Json → Ordering :=
  compareLex (compareOn rank) (compareLex (compareOn numberKey) (compareOn textKey))

instance : Std.TransCmp cellOrder := inferInstanceAs (Std.TransCmp (compareLex _ _))

theorem compareCells_num {x y : Number} (hx : (Json.num x).IsFinite) (hy : (Json.num y).IsFinite) :
    compareCells (.num x) (.num y) = compare x.value y.value := by
  rw [compareCells, Decimal.compareFloats?_rational hx hy]
  rfl

theorem compareCells_bool (x y : Bool) :
    compareCells (.bool x) (.bool y) = compare (Json.bool x).render (Json.bool y).render := by
  cases x <;> cases y <;> decide

theorem compareCells_of_rank_eq (ha : a.IsFinite) (hb : b.IsFinite) (h : rank a = rank b) :
    compareCells a b = (compare (numberKey a) (numberKey b)).then (compare (textKey a) (textKey b)) := by
  cases a with
  | str s =>
    cases b with
    | str t => simp [compareCells, numberKey, textKey]
    | _ => cases h
  | num x =>
    cases b with
    | num y => simp [compareCells_num ha hb, numberKey, textKey]
    | _ => cases h
  | bool x =>
    cases b with
    | bool y => simp [compareCells_bool, numberKey, textKey]
    | str _ | num _ => cases h
    | _ => simp [compareCells, numberKey, textKey]
  | _ =>
    cases b with
    | str _ | num _ => cases h
    | _ => simp [compareCells, numberKey, textKey]

/-- **Cells of all kinds are in one order.** -/
theorem compareCells_eq (ha : a.IsFinite) (hb : b.IsFinite) : compareCells a b = cellOrder a b := by
  show _ = (compare (rank a) (rank b)).then
    ((compare (numberKey a) (numberKey b)).then (compare (textKey a) (textKey b)))
  by_cases h : rank a = rank b
  · rw [compareCells_of_rank_eq ha hb h, compare_eq_iff_eq.mpr h]
    rfl
  · rw [compareCells_of_rank_ne ha hb h]
    cases hranks : compare (rank a) (rank b) with
    | eq => exact absurd (compare_eq_iff_eq.mp hranks) h
    | _ => rfl

/-! ### Order terms -/

namespace OrderTerm

/-- The order of the cells under a term. -/
def order (t : OrderTerm) : Json → Json → Ordering :=
  compareLex (compareOn fun cell => cell.isNull != t.nullsFirst) fun a b =>
    if t.descending then cellOrder b a else cellOrder a b

instance (t : OrderTerm) : Std.TransCmp t.order := by
  have hcells : Std.TransCmp fun a b => if t.descending then cellOrder b a else cellOrder a b := by
    cases t.descending with
    | true => exact inferInstanceAs (Std.TransCmp fun a b => cellOrder b a)
    | false => exact inferInstanceAs (Std.TransCmp cellOrder)
  exact inferInstanceAs (Std.TransCmp (compareLex _ _))

theorem compare_eq (t : OrderTerm) (ha : a.IsFinite) (hb : b.IsFinite) : t.compare a b = t.order a b := by
  show _ = (Ord.compare (a.isNull != t.nullsFirst) (b.isNull != t.nullsFirst)).then
    (if t.descending then cellOrder b a else cellOrder a b)
  cases hna : a.isNull <;> cases hnb : b.isNull
  · rw [t.compare_of_not_null hna hnb, compareCells_eq ha hb, @Std.OrientedCmp.eq_swap _ cellOrder _ b a]
    simp
  · rw [OrderTerm.compare, hna, hnb]
    cases t.nullsFirst <;> rfl
  · rw [OrderTerm.compare, hna, hnb]
    cases t.nullsFirst <;> rfl
  · have hnull {v : Json} (hv : v.isNull = true) : v = .null := by
      cases v <;> first | rfl | cases hv
    rw [hnull hna, hnull hnb, @Std.ReflCmp.compare_self _ cellOrder]
    cases t.nullsFirst <;> cases t.descending <;> rfl

end OrderTerm
end Server
end TableQuery
