import TableQuery.Proofs.Decimal.Whole

/-! Equality of JSON values.

Two values are equal if they have the same shape and the same texts and numbers in it, an integer and a fraction
being different. Fractions compare as binary64 values do, so a value with a fraction in it that is not a number
is not equal to itself. But for that, equality is one: it is symmetric (`Json.beq_symm`) and transitive
(`Json.beq_trans`). -/
namespace TableQuery
open Float.Model Float.Model.UnpackedFloat

/-! ### Numbers -/

namespace Server

/-- Of values that compare as equal, one is the other, but that zero has two signs. -/
theorem eq_or_zero_of_compare {x y : UnpackedFloat} (h : x.compare y = some .eq) :
    x = y ∨ (∃ s, x = .zero s) ∧ ∃ t, y = .zero t := by
  cases x with
  | notANumber => cases y <;> exact nomatch h
  | infinity s => cases s <;> cases y with
    | infinity t => cases t <;> first | exact .inl rfl | exact nomatch h
    | _ => exact nomatch h
  | zero s => cases y with
    | zero t => exact .inr ⟨⟨s, rfl⟩, t, rfl⟩
    | infinity t => cases t <;> exact nomatch h
    | notANumber => exact nomatch h
    | finite t => cases t <;> exact nomatch h
  | finite s m e hm =>
    cases y with
    | finite t n f hn =>
      have hsame (hcompare : (compare e f).then (compare m n) = .eq) : e = f ∧ m = n := by
        rw [Ordering.then_eq_eq] at hcompare
        exact ⟨compare_eq_iff_eq.mp hcompare.1, compare_eq_iff_eq.mp hcompare.2⟩
      cases s <;> cases t
      · obtain ⟨rfl, rfl⟩ := hsame (Ordering.swap_eq_eq.mp (Option.some_inj.mp h))
        exact .inl rfl
      · exact nomatch h
      · exact nomatch h
      · obtain ⟨rfl, rfl⟩ := hsame (Option.some_inj.mp h)
        exact .inl rfl
    | infinity t => cases s <;> cases t <;> exact nomatch h
    | notANumber => cases s <;> exact nomatch h
    | zero t => cases s <;> exact nomatch h

theorem compare_trans {x y z : UnpackedFloat} (hxy : x.compare y = some .eq) (hyz : y.compare z = some .eq) :
    x.compare z = some .eq := by
  rcases eq_or_zero_of_compare hxy with rfl | ⟨⟨s, rfl⟩, t, rfl⟩
  · exact hyz
  · rcases eq_or_zero_of_compare hyz with rfl | ⟨-, u, rfl⟩ <;> rfl

theorem beq_symm {a b : Float} (h : (a == b) = true) : (b == a) = true := by
  rw [beq_eq_true_iff] at h ⊢
  rw [compare_swap, h]
  rfl

theorem beq_trans {a b c : Float} (hab : (a == b) = true) (hbc : (b == c) = true) : (a == c) = true := by
  rw [beq_eq_true_iff] at hab hbc ⊢
  exact compare_trans hab hbc

end Server

namespace Number

theorem beq_symm {a b : Number} (h : a.beq b = true) : b.beq a = true := by
  cases a <;> cases b
  · exact BEq.symm (show (_ == _) = true from h)
  · exact nomatch h
  · exact nomatch h
  · exact Server.beq_symm h

theorem beq_trans {a b c : Number} (hab : a.beq b = true) (hbc : b.beq c = true) : a.beq c = true := by
  cases a <;> cases b
  · cases c
    · exact BEq.trans (show (_ == _) = true from hab) hbc
    · exact nomatch hbc
  · exact nomatch hab
  · exact nomatch hab
  · cases c
    · exact nomatch hbc
    · exact Server.beq_trans hab hbc

end Number

/-! ### Values -/

namespace Json

mutual

theorem beq_symm (a b : Json) (h : beq a b = true) : beq b a = true := by
  cases a with
  | null => cases b <;> simp_all [beq]
  | bool x => cases b <;> simp_all [beq]
  | num x =>
    cases b <;> simp only [beq, Bool.false_eq_true] at h ⊢
    exact Number.beq_symm h
  | str x => cases b <;> simp_all [beq]
  | arr as =>
    cases b <;> simp only [beq, Bool.false_eq_true] at h ⊢
    exact beqItems_symm as _ h
  | obj as =>
    cases b <;> simp only [beq, Bool.false_eq_true] at h ⊢
    exact beqMembers_symm as _ h

theorem beqItems_symm (as bs : List Json) (h : beqItems as bs = true) : beqItems bs as = true := by
  cases as with
  | nil => cases bs <;> simp_all [beqItems]
  | cons a as =>
    cases bs with
    | nil => simp [beqItems] at h
    | cons b bs =>
      simp only [beqItems, Bool.and_eq_true] at h ⊢
      exact ⟨beq_symm a b h.1, beqItems_symm as bs h.2⟩

theorem beqMembers_symm (as bs : List (String × Json)) (h : beqMembers as bs = true) :
    beqMembers bs as = true := by
  match as, bs, h with
  | [], [], _ => rfl
  | [], b :: bs, h => simp [beqMembers] at h
  | a :: as, [], h => simp [beqMembers] at h
  | (k, a) :: as, (l, b) :: bs, h =>
    simp only [beqMembers, Bool.and_eq_true, beq_iff_eq] at h ⊢
    exact ⟨⟨h.1.1.symm, beq_symm a b h.1.2⟩, beqMembers_symm as bs h.2⟩

end

mutual

theorem beq_trans (a b c : Json) (hab : beq a b = true) (hbc : beq b c = true) : beq a c = true := by
  cases a with
  | null =>
    cases b <;> simp only [beq, Bool.false_eq_true] at hab
    exact hbc
  | bool x =>
    cases b <;> simp only [beq, Bool.false_eq_true, beq_iff_eq] at hab
    exact hab ▸ hbc
  | num x =>
    cases b <;> simp only [beq, Bool.false_eq_true] at hab
    cases c <;> simp only [beq, Bool.false_eq_true] at hbc ⊢
    exact Number.beq_trans hab hbc
  | str x =>
    cases b <;> simp only [beq, Bool.false_eq_true, beq_iff_eq] at hab
    exact hab ▸ hbc
  | arr as =>
    cases b <;> simp only [beq, Bool.false_eq_true] at hab
    cases c <;> simp only [beq, Bool.false_eq_true] at hbc ⊢
    exact beqItems_trans as _ _ hab hbc
  | obj as =>
    cases b <;> simp only [beq, Bool.false_eq_true] at hab
    cases c <;> simp only [beq, Bool.false_eq_true] at hbc ⊢
    exact beqMembers_trans as _ _ hab hbc

theorem beqItems_trans (as bs cs : List Json) (hab : beqItems as bs = true) (hbc : beqItems bs cs = true) :
    beqItems as cs = true := by
  match as, bs, cs, hab, hbc with
  | [], [], [], _, _ => rfl
  | [], [], c :: cs, _, hbc => simp [beqItems] at hbc
  | [], b :: bs, _, hab, _ => simp [beqItems] at hab
  | a :: as, [], _, hab, _ => simp [beqItems] at hab
  | a :: as, b :: bs, [], _, hbc => simp [beqItems] at hbc
  | a :: as, b :: bs, c :: cs, hab, hbc =>
    simp only [beqItems, Bool.and_eq_true] at hab hbc ⊢
    exact ⟨beq_trans a b c hab.1 hbc.1, beqItems_trans as bs cs hab.2 hbc.2⟩

theorem beqMembers_trans (as bs cs : List (String × Json)) (hab : beqMembers as bs = true)
    (hbc : beqMembers bs cs = true) : beqMembers as cs = true := by
  match as, bs, cs, hab, hbc with
  | [], [], [], _, _ => rfl
  | [], [], c :: cs, _, hbc => simp [beqMembers] at hbc
  | [], b :: bs, _, hab, _ => simp [beqMembers] at hab
  | a :: as, [], _, hab, _ => simp [beqMembers] at hab
  | a :: as, b :: bs, [], _, hbc => simp [beqMembers] at hbc
  | (k, a) :: as, (l, b) :: bs, (m, c) :: cs, hab, hbc =>
    simp only [beqMembers, Bool.and_eq_true, beq_iff_eq] at hab hbc ⊢
    exact ⟨⟨hab.1.1.trans hbc.1.1, beq_trans a b c hab.1.2 hbc.1.2⟩, beqMembers_trans as bs cs hab.2 hbc.2⟩

end

instance : PartialEquivBEq Json where
  symm h := beq_symm _ _ h
  trans hab hbc := beq_trans _ _ _ hab hbc

theorem isNull_eq_of_beq {a b : Json} (h : (a == b) = true) : a.isNull = b.isNull := by
  cases a <;> cases b <;> first | rfl | exact absurd h (by simp [BEq.beq, beq])

end Json

end TableQuery
