import TableQuery.Proofs.Decimal.Whole

/-! Binary64 values as rational numbers.

A finite binary64 value stands for a rational number (`rational`). Unpacked, its mantissa is as long as there is
room for (`isCanonical_of_unpack`), so of two exponents the greater belongs to the greater magnitude
(`compare_of_isCanonical`), and finite values compare as the numbers that they stand for (`compareFloats?_rational`). -/
namespace TableQuery.Decimal
open Float.Model Float.Model.UnpackedFloat

/-- The number that a value stands for; zero if the value is infinite or undefined. -/
def rational : UnpackedFloat → ℚ
  | .finite .positive m e _ => m * 2 ^ e
  | .finite .negative m e _ => -(m * 2 ^ e)
  | _ => 0

/-- The mantissa has 53 binary digits, or fewer at the least exponent. -/
structure IsCanonical (m : Nat) (e : Int) : Prop where
  short : m < 2 ^ 53
  least : -1074 ≤ e
  full : -1074 < e → 2 ^ 52 ≤ m

theorem isCanonical_of_unpack {b : BitVec 64} {s : Sign} {m : Nat} {e : Int} {hm : 0 < m}
    (h : UnpackedFloat.unpack Format.binary64 b = .finite s m e hm) : IsCanonical m e := by
  have hoffset : (Format.binary64.exponentBias : Int) + Format.binary64.mantissaBitsWithoutImplicit = 1075 := rfl
  have hmantissa : (@unpackMantissa Format.binary64 b).toNat < 2 ^ 52 := BitVec.isLt _
  simp only [UnpackedFloat.unpack, hoffset] at h
  split at h
  · split at h <;> exact nomatch h
  split at h
  · next hzero =>
    -- An exponent field of zeros is the least exponent, and no digit is put before the mantissa.
    split at h
    · exact nomatch h
    · obtain ⟨-, rfl, rfl⟩ := UnpackedFloat.finite.inj h
      rw [hzero]
      exact ⟨by omega, by decide, fun hlt => absurd hlt (by decide)⟩
  · next hpositive =>
    obtain ⟨-, rfl, rfl⟩ := UnpackedFloat.finite.inj h
    have hexponent : 0 < (@unpackExponent Format.binary64 b).toNat :=
      Nat.pos_of_ne_zero fun hzero => hpositive (BitVec.toNat_inj.mp hzero)
    have hwhole : (1#1 ++ @unpackMantissa Format.binary64 b).toNat =
        2 ^ 52 + (@unpackMantissa Format.binary64 b).toNat := by
      rw [BitVec.toNat_append, ← Nat.shiftLeft_add_eq_or_of_lt hmantissa]
      rfl
    exact ⟨by omega, by omega, fun _ => by omega⟩

variable {m n : Nat} {e f : Int}

/-- At the greater exponent is the greater magnitude. -/
theorem magnitude_lt (hm : IsCanonical m e) (hn : IsCanonical n f) (h : e < f) :
    (m : ℚ) * 2 ^ e < n * 2 ^ f := by
  have hshort : (m : ℚ) < 2 ^ 53 := by exact_mod_cast hm.short
  have hfull : (2 : ℚ) ^ 52 ≤ n := by exact_mod_cast hn.full (lt_of_le_of_lt hm.least h)
  calc (m : ℚ) * 2 ^ e < 2 ^ 53 * 2 ^ e := by gcongr
    _ = 2 ^ 52 * 2 ^ (e + 1) := by rw [zpow_add_one₀ two_ne_zero]; ring
    _ ≤ n * 2 ^ f := mul_le_mul hfull (zpow_le_zpow_right₀ one_le_two h) (by positivity) (by positivity)

theorem compare_of_isCanonical (hm : IsCanonical m e) (hn : IsCanonical n f) :
    (compare e f).then (compare m n) = compare ((m : ℚ) * 2 ^ e) (n * 2 ^ f) := by
  rcases lt_trichotomy e f with h | rfl | h
  · rw [compare_lt_iff_lt.mpr h, compare_lt_iff_lt.mpr (magnitude_lt hm hn h)]
    rfl
  · rw [compare_eq_iff_eq.mpr rfl, ← cmp_eq_compare ((m : ℚ) * 2 ^ e), cmp_mul_pos_right (zpow_pos two_pos e),
      ← cmp_eq_compare m n]
    exact (Nat.strictMono_cast.cmp_map_eq m n).symm
  · rw [compare_gt_iff_gt.mpr h, compare_gt_iff_gt.mpr (magnitude_lt hn hm h)]
    rfl

theorem compare_neg_neg (x y : ℚ) : compare (-x) (-y) = (compare x y).swap := by
  rw [← cmp_eq_compare, ← cmp_eq_compare, cmp_swap]
  exact StrictAnti.cmp_map_eq (fun _ _ => neg_lt_neg) x y

/-- A finite value is zero, or has a mantissa and an exponent. -/
theorem unpack_of_isFinite {a : Float} (ha : a.isFinite = true) :
    (∃ s, a.toModel.unpack = .zero s) ∨
      ∃ s m e hm, a.toModel.unpack = .finite s m e hm ∧ IsCanonical m e := by
  change a.toModel.unpack.isFinite = true at ha
  cases hunpack : a.toModel.unpack with
  | zero s => exact .inl ⟨s, rfl⟩
  | finite s m e hm => exact .inr ⟨s, m, e, hm, rfl, isCanonical_of_unpack hunpack⟩
  | _ => exact nomatch hunpack ▸ ha

/-- **Finite values compare as the numbers that they stand for.** -/
theorem compareFloats?_rational {a b : Float} (ha : a.isFinite = true) (hb : b.isFinite = true) :
    Server.compareFloats? a b = some (compare (rational a.toModel.unpack) (rational b.toModel.unpack)) := by
  have hpos {m : Nat} (hm : 0 < m) (e : Int) : 0 < (m : ℚ) * 2 ^ e := by positivity
  rw [Server.compareFloats?_eq]
  rcases unpack_of_isFinite ha with ⟨s, hs⟩ | ⟨s, m, e, hm, hs, hcanonical⟩ <;>
    rcases unpack_of_isFinite hb with ⟨t, ht⟩ | ⟨t, n, f, hn, ht, hcanonical'⟩ <;> rw [hs, ht]
  · rfl
  · cases t with
    | positive => exact congrArg some (compare_lt_iff_lt.mpr (hpos hn f)).symm
    | negative => exact congrArg some (compare_gt_iff_gt.mpr (neg_neg_of_pos (hpos hn f))).symm
  · cases s with
    | positive => exact congrArg some (compare_gt_iff_gt.mpr (hpos hm e)).symm
    | negative => exact congrArg some (compare_lt_iff_lt.mpr (neg_neg_of_pos (hpos hm e))).symm
  · have hmagnitudes := compare_of_isCanonical hcanonical hcanonical'
    have hsigns : -((m : ℚ) * 2 ^ e) < n * 2 ^ f ∧ -((n : ℚ) * 2 ^ f) < m * 2 ^ e :=
      ⟨(neg_neg_of_pos (hpos hm e)).trans (hpos hn f), (neg_neg_of_pos (hpos hn f)).trans (hpos hm e)⟩
    cases s <;> cases t
    · exact congrArg some ((congrArg Ordering.swap hmagnitudes).trans (compare_neg_neg _ _).symm)
    · exact congrArg some (compare_lt_iff_lt.mpr hsigns.1).symm
    · exact congrArg some (compare_gt_iff_gt.mpr hsigns.2).symm
    · exact congrArg some hmagnitudes

end TableQuery.Decimal
