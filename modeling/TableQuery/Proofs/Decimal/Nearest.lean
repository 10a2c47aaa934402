import TableQuery.Proofs.Decimal.Values

/-! Whole numbers that are no binary64 value.

A binary64 value has 53 binary digits, so of a longer whole number the digits behind these are rounded off: to the
nearest number that ends in zeros there, half way to the one whose last digit is even (`nearest`). What a mantissa is
shifted by is divided off it, and the two residual bits say how the remainder stands to one half
(`roundedMantissa_shiftRight`); a mantissa that is rounded up to 54 digits is shifted once more
(`roundWithAccuracy_nearest`). So the value of an integer is the nearest one (`rational_toFloat`). Rounding keeps the
order (`monotone_nearest`) and goes no farther than half the place of the last digit (`abs_nearest_sub_le`). -/
namespace TableQuery.Decimal
open Float.Model Float.Model.UnpackedFloat

/-! ### Rounded quotients -/

/-- A natural number divided by another, to the nearest natural number and half way to an even one. -/
def roundedQuotient (m u : Nat) : Nat :=
  if 2 * (m % u) < u then m / u
  else if 2 * (m % u) = u then m / u + m / u % 2
  else m / u + 1

variable {m n u : Nat}

theorem le_roundedQuotient (m u : Nat) : m / u ≤ roundedQuotient m u := by
  unfold roundedQuotient
  split
  · exact Nat.le_refl _
  · split <;> exact Nat.le_add_right _ _

theorem roundedQuotient_le (m u : Nat) : roundedQuotient m u ≤ m / u + 1 := by
  unfold roundedQuotient
  split
  · exact Nat.le_succ _
  · split <;> omega

theorem roundedQuotient_one (m : Nat) : roundedQuotient m 1 = m := by
  rw [roundedQuotient, Nat.mod_one, if_pos (by decide), Nat.div_one]

/-- Zeros behind both numbers make no difference. -/
theorem roundedQuotient_mul (m u : Nat) {c : Nat} (hc : 0 < c) :
    roundedQuotient (m * c) (u * c) = roundedQuotient m u := by
  have hlt : 2 * (m % u * c) < u * c ↔ 2 * (m % u) < u := by
    rw [← Nat.mul_assoc, Nat.mul_lt_mul_right hc]
  have heq : 2 * (m % u * c) = u * c ↔ 2 * (m % u) = u := by
    rw [← Nat.mul_assoc, Nat.mul_right_cancel_iff hc]
  unfold roundedQuotient
  simp only [Nat.mul_mod_mul_right, Nat.mul_div_mul_right _ _ hc, hlt, heq]

theorem roundedQuotient_mono (u : Nat) (h : m ≤ n) : roundedQuotient m u ≤ roundedQuotient n u := by
  rcases Nat.lt_or_eq_of_le (Nat.div_le_div_right (c := u) h) with hlt | heq
  · exact (roundedQuotient_le m u).trans (hlt.trans_le (le_roundedQuotient n u))
  · have hm := Nat.div_add_mod m u
    have hn := Nat.div_add_mod n u
    rw [← heq] at hn
    have hrest : m % u ≤ n % u := by omega
    unfold roundedQuotient
    rw [← heq]
    split_ifs <;> omega

/-- Rounding goes no farther than one half. -/
theorem roundedQuotient_near (m : Nat) (hu : 0 < u) :
    2 * (roundedQuotient m u * u) ≤ 2 * m + u ∧ 2 * m ≤ 2 * (roundedQuotient m u * u) + u := by
  have hm : m / u * u + m % u = m := by rw [Nat.mul_comm, Nat.div_add_mod]
  have hrest : m % u < u := Nat.mod_lt m hu
  unfold roundedQuotient
  split_ifs with hless hhalf
  · omega
  · rcases Nat.mod_two_eq_zero_or_one (m / u) with heven | hodd
    · rw [heven, Nat.add_zero]
      omega
    · rw [hodd, Nat.add_mul, Nat.one_mul]
      omega
  · rw [Nat.add_mul, Nat.one_mul]
    omega

/-! ### Residual bits -/

/-- A mantissa that is shifted keeps the first of the digits that go, and whether there is another behind it. -/
theorem shiftRight_eq (m k : Nat) : (⟨m, false, false⟩ : ExtendedMantissa) >>> (k + 1) =
    ⟨m / 2 ^ (k + 1), m / 2 ^ k % 2 != 0, m % 2 ^ k != 0⟩ := by
  have hshift (j : Nat) : (⟨m, false, false⟩ : ExtendedMantissa) >>> (j + 1) =
    ((⟨m, false, false⟩ : ExtendedMantissa) >>> j).shiftRightOne := rfl
  induction k with
  | zero =>
    show (⟨m / 2, m % 2 != 0, false⟩ : ExtendedMantissa) = _
    simp [Nat.mod_one]
  | succ k ih =>
    have hsticky : (m / 2 ^ k % 2 != 0 || m % 2 ^ k != 0) = (m % 2 ^ (k + 1) != 0) := by
      have hpos := Nat.two_pow_pos k
      rw [Bool.eq_iff_iff, Nat.pow_succ, Nat.mod_mul, Bool.or_eq_true, bne_iff_ne, bne_iff_ne, bne_iff_ne]
      rcases Nat.mod_two_eq_zero_or_one (m / 2 ^ k) with hbit | hbit <;> rw [hbit] <;> omega
    rw [hshift, ih, ExtendedMantissa.shiftRightOne, hsticky, Nat.div_div_eq_div_mul, ← Nat.pow_succ]

/-- What is left of a shifted mantissa is rounded by what was divided off. -/
theorem roundedMantissa_shiftRight (m k : Nat) :
    ((⟨m, false, false⟩ : ExtendedMantissa) >>> k).roundedMantissa = roundedQuotient m (2 ^ k) := by
  cases k with
  | zero => exact (roundedQuotient_one m).symm
  | succ k =>
    have hpos := Nat.two_pow_pos k
    have hlow : m % 2 ^ k < 2 ^ k := Nat.mod_lt m hpos
    have hrest : m % 2 ^ (k + 1) = m % 2 ^ k + 2 ^ k * (m / 2 ^ k % 2) := by rw [Nat.pow_succ, Nat.mod_mul]
    rw [shiftRight_eq, roundedQuotient, hrest, Nat.pow_succ]
    rcases Nat.mod_two_eq_zero_or_one (m / 2 ^ k) with hbit | hbit
    · rw [hbit, if_pos (by omega)]
      cases hsticky : m % 2 ^ k != 0 <;> rfl
    · rw [hbit, Nat.mul_one, if_neg (by omega)]
      by_cases hsticky : m % 2 ^ k = 0
      · rw [hsticky, if_pos (by omega)]
        rfl
      · rw [if_neg (by omega), bne_iff_ne.mpr hsticky]
        rfl

/-! ### The nearest number of 53 binary digits -/

/-- The place of the last of 53 binary digits of a number; one for a number that has no more. -/
def spacing (n : Nat) : Nat := 2 ^ (n.log2 - 52)

def nearestNat (n : Nat) : Nat := roundedQuotient n (spacing n) * spacing n

/-- The integer of 53 binary digits, with zeros behind them, that is nearest to one; half way the even one. -/
def nearest (n : Int) : Int := if n < 0 then -(nearestNat n.natAbs : Int) else nearestNat n.natAbs

theorem spacing_pos (n : Nat) : 0 < spacing n := Nat.two_pow_pos _

theorem nearestNat_of_le {n : Nat} (h : n ≤ 2 ^ 53) : nearestNat n = n := by
  rcases Nat.lt_or_eq_of_le h with hlt | rfl
  · have hlog : n.log2 ≤ 52 := by
      rcases Nat.eq_zero_or_pos n with rfl | hn
      · decide
      · exact Nat.le_of_lt_succ ((Nat.log2_lt (Nat.ne_of_gt hn)).mpr hlt)
    rw [nearestNat, spacing, Nat.sub_eq_zero_of_le hlog, Nat.pow_zero, roundedQuotient_one, Nat.mul_one]
  · decide

/-- Rounded, a number keeps its 53 digits or becomes the least of one more. -/
theorem roundedQuotient_bounds {n : Nat} (h : 52 ≤ n.log2) :
    2 ^ 52 ≤ roundedQuotient n (spacing n) ∧ roundedQuotient n (spacing n) ≤ 2 ^ 53 := by
  have hn : n ≠ 0 := by
    rintro rfl
    exact absurd h (by decide)
  obtain ⟨hlow, hhigh⟩ := (Nat.log2_eq_iff hn).mp rfl
  have hsplit : n.log2 = 52 + (n.log2 - 52) := by omega
  have hleast : 2 ^ 52 ≤ n / spacing n := by
    rw [Nat.le_div_iff_mul_le (spacing_pos n), spacing, ← Nat.pow_add, ← hsplit]
    exact hlow
  have hgreatest : n / spacing n < 2 ^ 53 := by
    rw [Nat.div_lt_iff_lt_mul (spacing_pos n), spacing, ← Nat.pow_add]
    exact lt_of_lt_of_eq hhigh (congrArg (2 ^ ·) (by omega))
  exact ⟨hleast.trans (le_roundedQuotient n _), (roundedQuotient_le n _).trans hgreatest⟩

theorem nearestNat_bounds {n : Nat} (hn : n ≠ 0) : 2 ^ n.log2 ≤ nearestNat n ∧ nearestNat n ≤ 2 ^ (n.log2 + 1) := by
  obtain ⟨hlow, hhigh⟩ := (Nat.log2_eq_iff hn).mp rfl
  by_cases h : 52 ≤ n.log2
  · obtain ⟨hleast, hgreatest⟩ := roundedQuotient_bounds h
    have hsplit : 2 ^ n.log2 = 2 ^ 52 * spacing n := by
      rw [spacing, ← Nat.pow_add]
      exact congrArg (2 ^ ·) (by omega)
    constructor
    · rw [hsplit]
      exact Nat.mul_le_mul_right _ hleast
    · rw [Nat.pow_succ, hsplit, Nat.mul_right_comm]
      exact Nat.mul_le_mul_right _ hgreatest
  · have hle : n ≤ 2 ^ 53 := hhigh.le.trans (Nat.pow_le_pow_right Nat.two_pos (by omega))
    rw [nearestNat_of_le hle]
    exact ⟨hlow, hhigh.le⟩

theorem monotone_nearestNat : Monotone nearestNat := by
  intro a b h
  rcases Nat.eq_zero_or_pos a with rfl | ha
  · exact Nat.zero_le _
  have hb : b ≠ 0 := by omega
  have ha : a ≠ 0 := by omega
  rcases Nat.lt_or_ge a.log2 b.log2 with hlog | hlog
  · calc nearestNat a ≤ 2 ^ (a.log2 + 1) := (nearestNat_bounds ha).2
      _ ≤ 2 ^ b.log2 := Nat.pow_le_pow_right Nat.two_pos hlog
      _ ≤ nearestNat b := (nearestNat_bounds hb).1
  · have hsame : spacing a = spacing b := by
      have hle : a.log2 ≤ b.log2 := by
        rw [Nat.le_log2 hb]
        exact ((Nat.log2_eq_iff ha).mp rfl).1.trans h
      rw [spacing, spacing, Nat.le_antisymm hle hlog]
    unfold nearestNat
    rw [hsame]
    exact Nat.mul_le_mul_right _ (roundedQuotient_mono _ h)

/-- Rounding keeps the order. -/
theorem monotone_nearest : Monotone nearest := by
  intro a b h
  unfold nearest
  split_ifs with ha hb
  · exact Int.neg_le_neg (Int.ofNat_le.mpr (monotone_nearestNat (by omega)))
  · omega
  · omega
  · exact Int.ofNat_le.mpr (monotone_nearestNat (by omega))

theorem nearest_of_natAbs_le {n : Int} (h : n.natAbs ≤ 2 ^ 53) : nearest n = n := by
  unfold nearest
  rw [nearestNat_of_le h]
  split_ifs <;> omega

/-- Rounding goes no farther than half the place of the last digit. -/
theorem abs_nearest_sub_le (n : Int) : 2 * |nearest n - n| ≤ spacing n.natAbs := by
  have hnear := roundedQuotient_near n.natAbs (spacing_pos n.natAbs)
  have habs : |nearest n - n| = |(nearestNat n.natAbs : Int) - n.natAbs| := by
    unfold nearest
    split_ifs with hneg
    · rw [← abs_neg]
      congr 1
      omega
    · congr 1
      omega
  rw [habs]
  unfold nearestNat
  rcases abs_cases ((roundedQuotient n.natAbs (spacing n.natAbs) * spacing n.natAbs : Nat) - (n.natAbs : Int)) with
    ⟨h, -⟩ | ⟨h, -⟩ <;> rw [h] <;> omega

/-! ### Values -/

/-- What has at most 53 binary digits, or is the least with one more, is a mantissa of 53 with a zero behind it or
none. -/
theorem exists_mantissa {r : Nat} (hlow : 2 ^ 52 ≤ r) (hhigh : r ≤ 2 ^ 53) :
    ∃ m j, m.log2 = 52 ∧ j ≤ 1 ∧ r = m * 2 ^ j := by
  rcases Nat.lt_or_eq_of_le hhigh with hlt | rfl
  · exact ⟨r, 0, (Nat.log2_eq_iff (by omega)).mpr ⟨hlow, hlt⟩, by decide, (Nat.mul_one r).symm⟩
  · exact ⟨2 ^ 52, 1, by decide, by decide, by decide⟩

/-- A number of more than 53 binary digits, with as many zeros behind it as its value has to have, is rounded once; the
digits that are left are shifted again if there is one too many of them. -/
theorem roundWithAccuracy_nearest (s : Sign) {n : Nat} (h : 53 ≤ n.log2) :
    ∃ (m : Nat) (e : Nat) (hm : 0 < m),
      roundWithAccuracy Format.binary64 s (n * 2 ^ 53) (-53) .exact = .finite s m e hm ∧ m.log2 = 52 ∧
        e < n.log2 ∧ m * 2 ^ e = nearestNat n := by
  have hn : n ≠ 0 := by
    rintro rfl
    exact absurd h (by decide)
  have hfirst : shiftToTargetExponent Format.binary64 (n * 2 ^ 53) (-53) .exact =
      ((⟨n * 2 ^ 53, false, false⟩ : ExtendedMantissa) >>> (n.log2 + 1), ((n.log2 - 52 : Nat) : Int)) := by
    have hshift : (max (((n.log2 + 53 : Nat) : Int) + -53 - 52) (-1074) - -53).toNat = n.log2 + 1 := by omega
    rw [shiftToTargetExponent, targetExponent_eq, shiftToExponent, log2_mul_two_pow hn, hshift]
    exact Prod.ext rfl (by show (-53 : Int) + ((n.log2 + 1 : Nat) : Int) = ((n.log2 - 52 : Nat) : Int); omega)
  have hrounded : ((⟨n * 2 ^ 53, false, false⟩ : ExtendedMantissa) >>> (n.log2 + 1)).roundedMantissa =
      roundedQuotient n (spacing n) := by
    have hplace : 2 ^ (n.log2 + 1) = spacing n * 2 ^ 53 := by
      rw [spacing, ← Nat.pow_add]
      exact congrArg (2 ^ ·) (by omega)
    rw [roundedMantissa_shiftRight, hplace, roundedQuotient_mul n _ (Nat.two_pow_pos 53)]
  obtain ⟨hleast, hgreatest⟩ := roundedQuotient_bounds (n := n) (by omega)
  obtain ⟨m, j, hlog, hj, hmantissa⟩ := exists_mantissa hleast hgreatest
  have hm : m ≠ 0 := by
    rintro rfl
    exact absurd hlog (by decide)
  have hagain := shiftToTargetExponent_exact hlog j (e := ((n.log2 - 52 : Nat) : Int)) (by omega)
  refine ⟨m, n.log2 - 52 + j, Nat.pos_of_ne_zero hm, ?_, hlog, by omega, ?_⟩
  · rw [roundWithAccuracy, hfirst]
    dsimp only
    rw [hrounded, hmantissa, hagain]
    simp only [dif_neg hm]
    rfl
  · rw [nearestNat, hmantissa, spacing, Nat.mul_assoc, ← Nat.pow_add, Nat.add_comm]

/-- The value of a natural number is the nearest one of 53 binary digits. -/
theorem unpack_ofNat_nearest {n : Nat} (hn : 0 < n) (h : n < 2 ^ 64) :
    ∃ m e hm, (Float.ofNat n).toModel.unpack = .finite .positive m e hm ∧ m.log2 = 52 ∧ -52 ≤ e ∧ e ≤ 971 ∧
      (m : ℚ) * 2 ^ e = nearestNat n := by
  rcases Nat.lt_or_ge n (2 ^ 53) with hshort | hlong
  · obtain ⟨m, hm, hunpack, hscaled⟩ := unpack_ofNat hn hshort.le
    have hlog : n.log2 < 53 := (Nat.log2_lt (Nat.ne_of_gt hn)).mpr hshort
    have hfull : m.log2 = 52 := by
      have hlogs := congrArg Nat.log2 hscaled
      rw [log2_mul_two_pow (Nat.ne_of_gt hm), log2_mul_two_pow (Nat.ne_of_gt hn)] at hlogs
      omega
    refine ⟨m, _, hm, hunpack, hfull, by omega, by omega, ?_⟩
    have hscaled : (m : ℚ) * 2 ^ n.log2 = n * 2 ^ 52 := by exact_mod_cast hscaled
    rw [nearestNat_of_le hshort.le, zpow_sub₀ two_ne_zero, zpow_natCast, ← mul_div_assoc, hscaled]
    exact mul_div_cancel_right₀ _ (by positivity)
  · have hlog : 53 ≤ n.log2 := (Nat.le_log2 (Nat.ne_of_gt hn)).mpr hlong
    have hword : n.log2 < 64 := (Nat.log2_lt (Nat.ne_of_gt hn)).mpr h
    obtain ⟨m, e, hm, hround, hfull, he, hvalue⟩ := roundWithAccuracy_nearest (.positive * .positive) hlog
    have hfloat : (Float.ofNat n).toModel.unpack =
        (Float.Model.pack (UnpackedFloat.ofScientific Format.binary64 n 0)).unpack := by
      show (Float.ofScientific n false 0).toModel.unpack = _
      rw [Float.ofScientific, dif_neg (fun hfast => absurd hfast.1 (Nat.not_lt_of_le hlong))]
      rfl
    have hscientific : UnpackedFloat.ofScientific Format.binary64 n 0 = .finite .positive m e hm := by
      have hleast : ¬(0 : Int) < -((2 ^ Format.binary64.exponentBits : Int) + n.log2) := by
        show ¬(0 : Int) < -((2 ^ 11 : Int) + n.log2)
        omega
      have hzeros : n <<< Format.binary64.mantissaBits * 10 ^ Int.toNat 0 = n * 2 ^ 53 := by
        rw [Nat.shiftLeft_eq]
        exact Nat.mul_one _
      rw [UnpackedFloat.ofScientific, dif_neg (Nat.ne_of_gt hn), if_neg (by decide), if_neg hleast,
        if_pos (Int.le_refl 0), UnpackedFloat.mul, hzeros]
      exact hround
    refine ⟨m, e, hm, ?_, hfull, by omega, by omega, ?_⟩
    · rw [hfloat, hscientific, unpack_pack _ hm hfull (by omega) (by omega)]
    · exact_mod_cast hvalue

/-- **The value of an integer** of a word's size is the nearest one of 53 binary digits, and finite. -/
theorem rational_toFloat {n : Int} (h : n.natAbs < 2 ^ 64) :
    (Number.int n).toFloat.isFinite = true ∧ rational (Number.int n).toFloat.toModel.unpack = nearest n := by
  by_cases hn : n = 0
  · rw [hn]
    exact ⟨rfl, by rw [unpack_zero]; rfl⟩
  obtain ⟨m, e, hm, hunpack, hfull, hlow, hhigh, hvalue⟩ := unpack_ofNat_nearest (Int.natAbs_pos.mpr hn) h
  have hfloat : (Number.int n).toFloat.toModel.unpack =
      .finite (if n < 0 then .negative else .positive) m e hm := by
    rw [Number.toFloat]
    split_ifs with hneg
    · show (Float.Model.pack (Float.ofNat n.natAbs).toModel.unpack.neg).unpack = _
      rw [hunpack]
      exact unpack_pack .negative hm hfull (by omega) hhigh
    · exact hunpack
  refine ⟨?_, ?_⟩
  · show (Number.int n).toFloat.toModel.unpack.isFinite = true
    rw [hfloat]
    rfl
  · rw [hfloat, nearest]
    split_ifs with hneg
    · show -((m : ℚ) * 2 ^ e) = _
      rw [hvalue]
      exact (Int.cast_neg _).symm
    · exact hvalue.trans (Int.cast_natCast _).symm

end TableQuery.Decimal
