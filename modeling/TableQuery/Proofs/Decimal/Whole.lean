import Mathlib
import TableQuery.Proofs.Decimal
import TableQuery.Server.Rows

/-! Whole numbers as binary64 values.

A binary64 value has 53 binary digits. A whole number of no more digits, or the least of one more, is exactly
the value that it is turned into (`unpack_ofNat`), so whole numbers of that size compare as their values do
(`compareFloats?_int`). A whole number of any size is read from its digits as the same value
(`float?_toString`). -/
namespace TableQuery
open Float.Model Float.Model.UnpackedFloat

/-! ### Comparing -/

namespace Server

theorem compare_sign_swap (s t : Sign) : compare t s = (compare s t).swap := by
  cases s <;> cases t <;> rfl

/-- Values compare the other way round, if at all. -/
theorem compare_swap (x y : UnpackedFloat) : y.compare x = (x.compare y).map Ordering.swap := by
  have hthen (m n : Nat) (e f : Int) : (compare f e).then (compare n m) =
      ((compare e f).then (compare m n)).swap := by
    rw [Ordering.swap_then, Int.compare_swap, Nat.compare_swap]
  cases x with
  | notANumber => cases y <;> rfl
  | infinity s =>
    cases y with
    | infinity t => exact congrArg some (compare_sign_swap s t)
    | notANumber => rfl
    | zero t => cases s <;> rfl
    | finite t m e h => cases s <;> rfl
  | zero s =>
    cases y with
    | infinity t => cases t <;> rfl
    | notANumber => rfl
    | zero t => rfl
    | finite t m e h => cases t <;> rfl
  | finite s m e h =>
    cases y with
    | infinity t => cases s <;> cases t <;> rfl
    | notANumber => cases s <;> rfl
    | zero t => cases s <;> rfl
    | finite t n f h' =>
      cases s <;> cases t
      · exact congrArg some (congrArg Ordering.swap (hthen m n e f))
      · rfl
      · rfl
      · exact congrArg some (hthen m n e f)

/-- Values are equal when they compare so. -/
theorem beq_eq_true_iff {a b : Float} :
    (a == b) = true ↔ a.toModel.unpack.compare b.toModel.unpack = some .eq := by
  show UnpackedFloat.beq _ _ = true ↔ _
  rw [UnpackedFloat.beq, beq_iff_eq]

theorem compareFloats?_eq (a b : Float) : compareFloats? a b = a.toModel.unpack.compare b.toModel.unpack := by
  have hlt (a b : Float) : a < b ↔ a.toModel.unpack.compare b.toModel.unpack = some .lt := by
    show decide (UnpackedFloat.lt _ _ = true) = true ↔ _
    rw [decide_eq_true_eq, UnpackedFloat.lt, beq_iff_eq]
  unfold compareFloats?
  simp only [hlt, beq_eq_true_iff, compare_swap a.toModel.unpack b.toModel.unpack]
  cases a.toModel.unpack.compare b.toModel.unpack with
  | none => rfl
  | some o => cases o <;> rfl

theorem compareFloats?_swap (a b : Float) : compareFloats? b a = (compareFloats? a b).map Ordering.swap := by
  rw [compareFloats?_eq, compareFloats?_eq, compare_swap]

end Server

/-! ### Rounding what needs none -/

namespace Decimal

/-- Shifting zeros out loses nothing. -/
theorem shiftRight_exact (m j : Nat) :
    (⟨m * 2 ^ j, false, false⟩ : ExtendedMantissa) >>> j = ⟨m, false, false⟩ := by
  induction j generalizing m with
  | zero => rw [Nat.pow_zero, Nat.mul_one]; rfl
  | succ j ih =>
    -- The last of the shifts is over the two that are left.
    have hshift (em : ExtendedMantissa) : em >>> (j + 1) = (em >>> j).shiftRightOne := rfl
    rw [hshift, Nat.pow_succ, Nat.mul_comm (2 ^ j), ← Nat.mul_assoc, ih, ExtendedMantissa.shiftRightOne,
      Nat.mul_div_cancel m Nat.two_pos, Nat.mul_mod_left]
    rfl

theorem log2_mul_two_pow {m : Nat} (hm : m ≠ 0) (j : Nat) : (m * 2 ^ j).log2 = m.log2 + j := by
  have hne : m * 2 ^ j ≠ 0 := Nat.mul_ne_zero hm (Nat.ne_of_gt (Nat.two_pow_pos j))
  have h := (Nat.log2_eq_iff hm).mp rfl
  rw [Nat.log2_eq_iff hne, Nat.add_right_comm, Nat.pow_add, Nat.pow_add 2 (m.log2 + 1)]
  exact ⟨Nat.mul_le_mul_right _ h.1, Nat.mul_lt_mul_of_pos_right h.2 (Nat.two_pow_pos j)⟩

/-- The exponent at which a mantissa has 53 binary digits, and no more zeros before it than there is room for. -/
theorem targetExponent_eq (m : Nat) (e : Int) :
    Format.binary64.targetExponent (totalExponent m e) = max (m.log2 + e - 52) (-1074) := by
  have hleast : Format.binary64.minExponent = -1074 := rfl
  have hbits : Format.binary64.mantissaBits = 53 := rfl
  rw [Format.targetExponent, totalExponent, hleast, hbits]
  congr 1
  omega

theorem shiftToTargetExponent_exact {m : Nat} (hlog : m.log2 = 52) (j : Nat) {e : Int} (he : -1074 ≤ e + j) :
    shiftToTargetExponent Format.binary64 (m * 2 ^ j) e .exact = (⟨m, false, false⟩, e + j) := by
  have hm : m ≠ 0 := by
    rintro rfl
    exact nomatch hlog
  have hshift : (max (((m * 2 ^ j).log2 : Int) + e - 52) (-1074) - e).toNat = j := by
    rw [log2_mul_two_pow hm, hlog]
    omega
  rw [shiftToTargetExponent, targetExponent_eq, shiftToExponent, hshift]
  exact congrArg (·, e + (j : Int)) (shiftRight_exact m j)

/-- A mantissa of 53 binary digits, with zeros behind it, is not rounded. -/
theorem roundWithAccuracy_exact (s : Sign) {m : Nat} (hm : 0 < m) (hlog : m.log2 = 52) (j : Nat) {e : Int}
    (he : -1074 ≤ e + j) :
    roundWithAccuracy Format.binary64 s (m * 2 ^ j) e .exact = .finite s m (e + j) hm := by
  have hagain := shiftToTargetExponent_exact hlog 0 (e := e + j) (by omega)
  rw [Nat.pow_zero, Nat.mul_one, Int.natCast_zero, Int.add_zero] at hagain
  have hkept : (⟨m, false, false⟩ : ExtendedMantissa).roundedMantissa = m := rfl
  rw [roundWithAccuracy, shiftToTargetExponent_exact hlog j he]
  simp only [hkept, hagain, dif_neg (Nat.ne_of_gt hm)]

theorem unpackSign_packComponents (s : Sign) (exponent : BitVec 11) (mantissa : BitVec 52) :
    Sign.ofBitVec (unpackSign (packComponents Format.binary64 s exponent mantissa)) = s := by
  simp only [unpackSign, packComponents, BitVec.extractLsb]
  rw [BitVec.extractLsb'_append_eq_of_le (by omega), BitVec.extractLsb'_append_eq_of_le (by omega)]
  cases s <;> rfl

/-- A mantissa of 53 binary digits is packed without its first one, and unpacked with it. -/
theorem unpack_pack (s : Sign) {m : Nat} (hm : 0 < m) (hlog : m.log2 = 52) {e : Int} (hlow : -1074 ≤ e)
    (hhigh : e ≤ 971) : (Float.Model.pack (.finite s m e hm)).unpack = .finite s m e hm := by
  have hmantissa := (Nat.log2_eq_iff (Nat.ne_of_gt hm)).mp hlog
  have hbiased : (e + Format.binary64.exponentBias + Format.binary64.mantissaBitsWithoutImplicit).toNat =
      (e + 1075).toNat := by
    show (e + (1023 : Nat) + (52 : Nat)).toNat = _
    omega
  have hpack : UnpackedFloat.pack Format.binary64 (.finite s m e hm) =
      packComponents Format.binary64 s (BitVec.ofNat 11 (e + 1075).toNat) (BitVec.ofNat 52 m) := by
    rw [UnpackedFloat.pack, hlog, hbiased, if_neg (show ¬2 ^ 11 ≤ (e + 1075).toNat + 1 by omega),
      if_pos (show 52 + 1 = Format.binary64.mantissaBits from rfl)]
  have hexponent : (BitVec.ofNat 11 (e + 1075).toNat).toNat = (e + 1075).toNat :=
    Nat.mod_eq_of_lt (by omega)
  have hall : BitVec.ofNat 11 (e + 1075).toNat ≠ -1#11 := by
    intro heq
    rw [heq] at hexponent
    have : (-1#11).toNat = 2047 := rfl
    omega
  have hzero : BitVec.ofNat 11 (e + 1075).toNat ≠ 0#11 := by
    intro heq
    rw [heq] at hexponent
    have : (0#11).toNat = 0 := rfl
    omega
  have hwhole : (1#1 ++ BitVec.ofNat 52 m).toNat = m := by
    rw [BitVec.toNat_append, ← Nat.shiftLeft_add_eq_or_of_lt (BitVec.ofNat 52 m).isLt, BitVec.toNat_ofNat]
    show 1 <<< 52 + m % 2 ^ 52 = m
    omega
  have hback : ((e + 1075).toNat : Int) -
      ((Format.binary64.exponentBias : Nat) + (Format.binary64.mantissaBitsWithoutImplicit : Nat)) = e := by
    show ((e + 1075).toNat : Int) - ((1023 : Nat) + (52 : Nat)) = e
    omega
  show UnpackedFloat.unpack Format.binary64 (UnpackedFloat.pack Format.binary64 (.finite s m e hm)) = _
  rw [hpack, UnpackedFloat.unpack]
  simp only [unpackMantissa_packComponents, unpackExponent_packComponents, unpackSign_packComponents,
    hexponent, hback, hwhole, if_neg hall, if_neg hzero]

/-! ### Naturals -/

theorem ofNat_eq {n : Nat} (hn : 0 < n) (hlog : n.log2 ≤ 52) :
    UnpackedFloat.ofNat Format.binary64 n =
      .finite .positive (n * 2 ^ (52 - n.log2)) ((n.log2 : Int) - 52) (Nat.mul_pos hn (Nat.two_pow_pos _)) := by
  have hfull : (n * 2 ^ (52 - n.log2)).log2 = 52 := by
    rw [log2_mul_two_pow (Nat.ne_of_gt hn)]
    omega
  have hpositive : compare (n : Int) 0 = .gt := Int.compare_eq_gt.mpr (Int.natCast_pos.mpr hn)
  have hdecrease : decreaseExponent n 0 (Format.binary64.targetExponent (totalExponent n 0)) =
      (n * 2 ^ (52 - n.log2), (n.log2 : Int) - 52) := by
    have hshift : (0 - max ((n.log2 : Int) + 0 - 52) (-1074)).toNat = 52 - n.log2 := by omega
    rw [targetExponent_eq, decreaseExponent, hshift, Nat.shiftLeft_eq]
    congr 1
    omega
  have hround := roundWithAccuracy_exact .positive (Nat.mul_pos hn (Nat.two_pow_pos (52 - n.log2))) hfull 0
    (e := (n.log2 : Int) - 52) (by omega)
  rw [UnpackedFloat.ofNat, UnpackedFloat.ofInt, UnpackedFloat.normalize, hpositive]
  show UnpackedFloat.round Format.binary64 .positive n 0 = _
  rw [UnpackedFloat.round, hdecrease]
  simpa using hround

theorem unpack_one : (Float.ofBits 0x3FF0000000000000).toModel.unpack = .finite .positive (2 ^ 52) (-52) (by decide) :=
  rfl

/-- A natural number of at most 53 binary digits, or the least of 54, is exactly the value that it is turned
into. -/
theorem unpack_ofNat {n : Nat} (hn : 0 < n) (hle : n ≤ 2 ^ 53) :
    ∃ m hm, (Float.ofNat n).toModel.unpack = .finite .positive m ((n.log2 : Int) - 52) hm ∧
      m * 2 ^ n.log2 = n * 2 ^ 52 := by
  rcases Nat.lt_or_eq_of_le hle with hlt | rfl
  · have hlog : n.log2 < 53 := (Nat.log2_lt (Nat.ne_of_gt hn)).mpr hlt
    have hpos : 0 < n * 2 ^ (52 - n.log2) := Nat.mul_pos hn (Nat.two_pow_pos _)
    have hfull : (n * 2 ^ (52 - n.log2)).log2 = 52 := by
      rw [log2_mul_two_pow (Nat.ne_of_gt hn)]
      omega
    refine ⟨n * 2 ^ (52 - n.log2), hpos, ?_, ?_⟩
    · have hword : n.toUInt64.toNat = n := Nat.mod_eq_of_lt (by omega)
      have hfloat : n.toUInt64.toFloat.toModel.unpack =
          .finite .positive (n * 2 ^ (52 - n.log2)) ((n.log2 : Int) - 52) hpos := by
        show (Float.Model.pack (UnpackedFloat.ofNat Format.binary64 n.toUInt64.toNat)).unpack = _
        rw [hword, ofNat_eq hn (by omega), unpack_pack _ hpos hfull (by omega) (by omega)]
      have hfast : Float.ofNat n = n.toUInt64.toFloat * Float.ofBits 0x3FF0000000000000 := by
        show Float.ofScientific n false 0 = _
        rw [Float.ofScientific, dif_pos ⟨hlt, by decide⟩]
        rfl
      have hproduct := roundWithAccuracy_exact (.positive * .positive) hpos hfull 52
        (e := (n.log2 : Int) - 52 + -52) (by omega)
      rw [show (n.log2 : Int) - 52 + -52 + (52 : Nat) = n.log2 - 52 by omega] at hproduct
      rw [hfast]
      show (Float.Model.pack (UnpackedFloat.mul Format.binary64 _ _)).unpack = _
      rw [hfloat, unpack_one, UnpackedFloat.mul, hproduct]
      exact unpack_pack _ hpos hfull (by omega) (by omega)
    · rw [Nat.mul_assoc, ← Nat.pow_add]
      congr 2
      omega
  · exact ⟨2 ^ 52, by decide, rfl, by decide⟩

/-! ### Integers -/

/-- Exponents and mantissas compare as the naturals that they stand for. -/
theorem compare_magnitudes {a b m n : Nat} (ha : a ≠ 0) (hb : b ≠ 0) (hm : m * 2 ^ a.log2 = a * 2 ^ 52)
    (hn : n * 2 ^ b.log2 = b * 2 ^ 52) :
    (compare ((a.log2 : Int) - 52) ((b.log2 : Int) - 52)).then (compare m n) = compare a b := by
  have hlt {a b : Nat} (hb : b ≠ 0) (h : a.log2 < b.log2) : a < b :=
    Nat.lt_of_lt_of_le Nat.lt_log2_self
      (Nat.le_trans (Nat.pow_le_pow_right Nat.two_pos h) (Nat.log2_self_le hb))
  rcases Nat.lt_trichotomy a.log2 b.log2 with h | h | h
  · rw [Int.compare_eq_lt.mpr (by omega), Nat.compare_eq_lt.mpr (hlt hb h)]
    rfl
  · have hscaled : compare (m * 2 ^ a.log2) (n * 2 ^ a.log2) = compare (a * 2 ^ 52) (b * 2 ^ 52) := by
      rw [hm, h, hn]
    have hscale (x y k : Nat) : compare (x * 2 ^ k) (y * 2 ^ k) = compare x y := by
      have hpow := Nat.two_pow_pos k
      rcases Nat.lt_trichotomy x y with h | rfl | h
      · rw [Nat.compare_eq_lt.mpr h, Nat.compare_eq_lt.mpr (Nat.mul_lt_mul_of_pos_right h hpow)]
      · rw [Nat.compare_eq_eq.mpr rfl, Nat.compare_eq_eq.mpr rfl]
      · rw [Nat.compare_eq_gt.mpr h, Nat.compare_eq_gt.mpr (Nat.mul_lt_mul_of_pos_right h hpow)]
    rw [hscale, hscale] at hscaled
    rw [h, Int.compare_eq_eq.mpr rfl]
    exact hscaled
  · rw [Int.compare_eq_gt.mpr (by omega), Nat.compare_eq_gt.mpr (hlt ha h)]
    rfl

/-- An integer of that size is exactly the value that it is turned into. -/
theorem unpack_toFloat {n : Int} (hn : n ≠ 0) (hle : n.natAbs ≤ 2 ^ 53) :
    ∃ m hm, (Number.int n).toFloat.toModel.unpack =
        .finite (if n < 0 then .negative else .positive) m ((n.natAbs.log2 : Int) - 52) hm ∧
      m * 2 ^ n.natAbs.log2 = n.natAbs * 2 ^ 52 := by
  have hpos : 0 < n.natAbs := Int.natAbs_pos.mpr hn
  obtain ⟨m, hm, hunpack, hscaled⟩ := unpack_ofNat hpos hle
  refine ⟨m, hm, ?_, hscaled⟩
  rw [Number.toFloat]
  by_cases hneg : n < 0
  · have hfull : m.log2 = 52 := by
      have hlogs := congrArg Nat.log2 hscaled
      rw [log2_mul_two_pow (Nat.ne_of_gt hm), log2_mul_two_pow (Nat.ne_of_gt hpos)] at hlogs
      omega
    have hlog : n.natAbs.log2 < 54 := (Nat.log2_lt (Nat.ne_of_gt hpos)).mpr (by omega)
    rw [if_pos hneg, if_pos hneg]
    show (Float.Model.pack (Float.ofNat n.natAbs).toModel.unpack.neg).unpack = _
    rw [hunpack]
    exact unpack_pack .negative hm hfull (by omega) (by omega)
  · rw [if_neg hneg, if_neg hneg, hunpack]

theorem unpack_zero : (Number.int 0).toFloat.toModel.unpack = .zero .positive := rfl

theorem compare_natAbs {a b : Int} (hsigns : 0 < a ∧ 0 < b ∨ a < 0 ∧ b < 0) :
    compare a b = if a < 0 then (compare a.natAbs b.natAbs).swap else compare a.natAbs b.natAbs := by
  rw [Nat.compare_swap]
  split
  · rcases Nat.lt_trichotomy b.natAbs a.natAbs with h | h | h
    · rw [Nat.compare_eq_lt.mpr h, Int.compare_eq_lt.mpr (by omega)]
    · rw [Nat.compare_eq_eq.mpr h, Int.compare_eq_eq.mpr (by omega)]
    · rw [Nat.compare_eq_gt.mpr h, Int.compare_eq_gt.mpr (by omega)]
  · rcases Nat.lt_trichotomy a.natAbs b.natAbs with h | h | h
    · rw [Nat.compare_eq_lt.mpr h, Int.compare_eq_lt.mpr (by omega)]
    · rw [Nat.compare_eq_eq.mpr h, Int.compare_eq_eq.mpr (by omega)]
    · rw [Nat.compare_eq_gt.mpr h, Int.compare_eq_gt.mpr (by omega)]

/-- **Integers compare as their values do**, up to 53 binary digits. -/
theorem compareFloats?_int {a b : Int} (ha : a.natAbs ≤ 2 ^ 53) (hb : b.natAbs ≤ 2 ^ 53) :
    Server.compareFloats? (Number.int a).toFloat (Number.int b).toFloat = some (compare a b) := by
  rw [Server.compareFloats?_eq]
  by_cases ha0 : a = 0 <;> by_cases hb0 : b = 0
  · rw [ha0, hb0]
    rfl
  · obtain ⟨n, hn, hunpack, -⟩ := unpack_toFloat hb0 hb
    rw [ha0, hunpack, unpack_zero]
    split
    · rw [Int.compare_eq_gt.mpr (by assumption)]
      rfl
    · rw [Int.compare_eq_lt.mpr (by omega)]
      rfl
  · obtain ⟨m, hm, hunpack, -⟩ := unpack_toFloat ha0 ha
    rw [hb0, hunpack, unpack_zero]
    split
    · rw [Int.compare_eq_lt.mpr (by assumption)]
      rfl
    · rw [Int.compare_eq_gt.mpr (by omega)]
      rfl
  · obtain ⟨m, hm, hunpack, hscaled⟩ := unpack_toFloat ha0 ha
    obtain ⟨n, hn, hunpack', hscaled'⟩ := unpack_toFloat hb0 hb
    have hmagnitudes := compare_magnitudes (Int.natAbs_ne_zero.mpr ha0) (Int.natAbs_ne_zero.mpr hb0) hscaled hscaled'
    rw [hunpack, hunpack']
    by_cases hna : a < 0 <;> by_cases hnb : b < 0
    · rw [if_pos hna, if_pos hnb, compare_natAbs (.inr ⟨hna, hnb⟩), if_pos hna, ← hmagnitudes]
      rfl
    · rw [if_pos hna, if_neg hnb, Int.compare_eq_lt.mpr (by omega)]
      rfl
    · rw [if_neg hna, if_pos hnb, Int.compare_eq_gt.mpr (by omega)]
      rfl
    · rw [if_neg hna, if_neg hnb, compare_natAbs (.inl ⟨by omega, by omega⟩), if_neg hna, ← hmagnitudes]
      rfl

/-! ### Digits -/

/-- The digits of a natural are a literal without a fraction or an exponent. -/
theorem magnitude?_toDigits (n : Nat) :
    magnitude? (Nat.toDigits 10 n) = some (.finite ⟨Nat.toDigits 10 n, [], 0⟩) := by
  have hdigits : ∀ c ∈ Nat.toDigits 10 n, c.isDigit = true := fun _ => isDigit_of_mem_toDigits
  have hrun : digitRun (Nat.toDigits 10 n) = (Nat.toDigits 10 n, []) := by
    have happend : digitRun (Nat.toDigits 10 n ++ []) = (Nat.toDigits 10 n, []) :=
      digitRun_append hdigits fun _ h => nomatch h
    rwa [List.append_nil] at happend
  -- No word for an infinity or for the undefined value starts with a digit.
  have hword {word : List Char} (hword : word.all fun c => !c.isDigit) (hne : word ≠ []) :
      (Nat.toDigits 10 n).map Char.toLower ≠ word := by
    intro heq
    obtain ⟨c, cs, hcs⟩ := List.exists_cons_of_ne_nil (Nat.toDigits_ne_nil : Nat.toDigits 10 n ≠ [])
    have hc := hdigits c (by rw [hcs]; exact List.mem_cons_self)
    have hlower : c.toLower = c := by
      simp only [Char.isDigit, Bool.and_eq_true, decide_eq_true_eq, ge_iff_le, UInt32.le_iff_toNat_le] at hc
      refine dif_neg fun hupper => ?_
      have hbefore : 65 ≤ c.val.toNat := hupper.1
      have hafter : c.val.toNat ≤ 57 := hc.2
      omega
    have hmem : c ∈ word := by
      rw [← heq, hcs, List.map_cons, hlower]
      exact List.mem_cons_self
    have hnot := List.all_eq_true.mp hword c hmem
    rw [hc] at hnot
    exact nomatch hnot
  have hliteral : literal? (Nat.toDigits 10 n) = some ⟨Nat.toDigits 10 n, [], 0⟩ := by
    unfold literal?
    rw [hrun]
    simp [exponent?]
  unfold magnitude?
  rw [if_neg (not_or.mpr ⟨hword (by decide) (by decide), hword (by decide) (by decide)⟩),
    if_neg (hword (by decide) (by decide)), hliteral]
  rfl

/-- Digits stand for the value that their number is turned into. -/
theorem toFloat_toDigits {n : Nat} (hn : (Nat.toDigits 10 n).length ≤ 400) :
    (⟨Nat.toDigits 10 n, [], 0⟩ : Literal).toFloat = Float.ofNat n := by
  have hscaled : (⟨Nat.toDigits 10 n, [], 0⟩ : Literal).scaled = if n = 0 then .error false else .ok (n, 0) := by
    unfold Literal.scaled
    simp only [List.append_nil, valueOf_toDigits, List.length_nil, exponentLimit]
    split
    · rfl
    · rw [if_neg (by omega), if_neg (by omega)]
      rfl
  unfold Literal.toFloat
  rw [hscaled]
  by_cases h : n = 0
  · rw [if_pos h, h]
    rfl
  · rw [if_neg h]
    rfl

/-- **An integer is read from its text** as the value that it is turned into. -/
theorem float?_toString {n : Int} (hn : (Nat.toDigits 10 n.natAbs).length ≤ 400) :
    float? (toString n) = some (Number.int n).toFloat := by
  have hsigned := signed_toString n []
  rw [List.append_nil, List.append_nil] at hsigned
  unfold float? Number.toFloat
  rw [hsigned]
  dsimp only
  rw [magnitude?_toDigits, Option.map_some]
  dsimp only
  rw [toFloat_toDigits hn]
  by_cases hneg : n < 0 <;> simp [hneg]

end Decimal
end TableQuery
