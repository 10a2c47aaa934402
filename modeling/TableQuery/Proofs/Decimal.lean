import TableQuery.Decimal.Read

/-! Numbers written in digits, and read again.

A word comes back from its digits (`word64?_toString`): the digits of a number lead to it without passing
a bound that it keeps itself. -/
namespace TableQuery.Decimal

theorem le_ofDigitChars (cs : List Char) (value : Nat) : value ≤ Nat.ofDigitChars 10 cs value := by
  induction cs generalizing value with
  | nil => exact Nat.le_refl _
  | cons c cs ih =>
    have hrest := ih (10 * value + (c.toNat - '0'.toNat))
    rw [Nat.ofDigitChars_cons]
    omega

theorem naturalFrom_of_digits {bound value : Nat} {cs : List Char} (hdigits : ∀ c ∈ cs, c.isDigit = true)
    (hle : Nat.ofDigitChars 10 cs value ≤ bound) :
    naturalFrom bound value cs = .ok (Nat.ofDigitChars 10 cs value) := by
  induction cs generalizing value with
  | nil => rfl
  | cons c cs ih =>
    obtain ⟨hc, hcs⟩ := List.forall_mem_cons.mp hdigits
    rw [Nat.ofDigitChars_cons, Nat.mul_comm] at hle ⊢
    have hstep := Nat.le_trans (le_ofDigitChars cs _) hle
    have hdigit : digit? c = some (c.toNat - '0'.toNat) := if_pos hc
    rw [naturalFrom, hdigit]
    dsimp only
    rw [if_pos hstep, ih hcs hle]

theorem ofDigitChars_of_naturalFrom {bound value n : Nat} {cs : List Char} (h : naturalFrom bound value cs = .ok n) :
    Nat.ofDigitChars 10 cs value = n := by
  induction cs generalizing value with
  | nil => exact Except.ok.inj h
  | cons c cs ih =>
    rw [naturalFrom] at h
    split at h
    · cases h
    next d hd =>
    split at h
    · have hdigit : c.toNat - '0'.toNat = d := by
        unfold digit? at hd
        split at hd
        · exact Option.some.inj hd
        · cases hd
      rw [Nat.ofDigitChars_cons, Nat.mul_comm, hdigit, ih h]
    · cases h

/-- The digits of a number are read one by one: there is no sign before them. -/
theorem natural_toDigits_eq (bound n : Nat) :
    natural bound (Nat.toDigits 10 n) = naturalFrom bound 0 (Nat.toDigits 10 n) := by
  have hdigits : ∀ c ∈ Nat.toDigits 10 n, c.isDigit = true := fun c hc =>
    Nat.isDigit_of_mem_toDigits (by decide) (by decide) hc
  unfold natural
  split
  · next hnil => exact absurd hnil Nat.toDigits_ne_nil
  · next hplus =>
    have hdigit := hdigits '+' (by rw [hplus]; exact List.mem_cons_self)
    exact absurd hdigit (by decide)
  · next cs hplus =>
    have hdigit := hdigits '+' (by rw [hplus]; exact List.mem_cons_self)
    exact absurd hdigit (by decide)
  · rfl

theorem natural_toDigits {bound n : Nat} (h : n ≤ bound) : natural bound (Nat.toDigits 10 n) = .ok n := by
  have hdigits : ∀ c ∈ Nat.toDigits 10 n, c.isDigit = true := fun c hc =>
    Nat.isDigit_of_mem_toDigits (by decide) (by decide) hc
  have hvalue : Nat.ofDigitChars 10 (Nat.toDigits 10 n) 0 = n :=
    Nat.ofDigitChars_toDigits (by decide) (by decide)
  rw [natural_toDigits_eq, naturalFrom_of_digits hdigits (by rwa [hvalue]), hvalue]

theorem eq_of_natural?_toDigits {bound n k : Nat} (h : natural? bound (Nat.toDigits 10 n) = some k) : n = k := by
  rw [natural?, natural_toDigits_eq] at h
  cases hread : naturalFrom bound 0 (Nat.toDigits 10 n) with
  | error e =>
    rw [hread] at h
    cases h
  | ok value =>
    rw [hread] at h
    have hvalue : Nat.ofDigitChars 10 (Nat.toDigits 10 n) 0 = n :=
      Nat.ofDigitChars_toDigits (by decide) (by decide)
    exact hvalue.symm.trans ((ofDigitChars_of_naturalFrom hread).trans (Option.some.inj h))

theorem toList_toString (n : UInt64) : (toString n).toList = Nat.toDigits 10 n.toNat := by
  show (toString n.toNat).toList = _
  simp

/-- **A word is read back** from the digits it is written in. -/
theorem word64?_toString (n : UInt64) : word64? (toString n) = some n := by
  have hle : n.toNat ≤ UInt64.size - 1 := Nat.le_sub_one_of_lt n.toNat_lt
  unfold word64? word64
  rw [toList_toString, natural_toDigits hle]
  show some (UInt64.ofNat n.toNat) = some n
  rw [UInt64.ofNat_toNat]

/-! ### Digits before other characters -/

theorem valueOf_toDigits (n : Nat) : valueOf (Nat.toDigits 10 n) = n := by
  have hfold : valueOf (Nat.toDigits 10 n) = Nat.ofDigitChars 10 (Nat.toDigits 10 n) 0 := by
    unfold valueOf Nat.ofDigitChars
    refine congrFun (congrFun (congrArg List.foldl (funext fun value => funext fun c => ?_)) 0) _
    rw [Nat.mul_comm]
  rw [hfold, Nat.ofDigitChars_toDigits (by decide) (by decide)]

theorem digitRun_append {digits rest : List Char} (hdigits : ∀ c ∈ digits, c.isDigit = true)
    (hrest : ∀ c, rest.head? = some c → c.isDigit = false) : digitRun (digits ++ rest) = (digits, rest) := by
  have hnone : rest.takeWhile Char.isDigit = [] ∧ rest.dropWhile Char.isDigit = rest := by
    cases rest with
    | nil => exact ⟨rfl, rfl⟩
    | cons c rest => simp [hrest c rfl]
  unfold digitRun
  rw [List.takeWhile_append_of_pos hdigits, List.dropWhile_append_of_pos hdigits, hnone.1, hnone.2,
    List.append_nil]

theorem isDigit_of_mem_toDigits {n : Nat} {c : Char} (h : c ∈ Nat.toDigits 10 n) : c.isDigit = true :=
  Nat.isDigit_of_mem_toDigits (by decide) (by decide) h

/-- The digits of a number, behind a minus sign if it is negative. -/
theorem toList_toString_int (n : Int) :
    (toString n).toList = (if n < 0 then ['-'] else []) ++ Nat.toDigits 10 n.natAbs := by
  rw [Int.toString_eq_repr, Int.repr_eq_if]
  by_cases h : n < 0
  · have habs : (-n).toNat = n.natAbs := by omega
    rw [if_neg (by omega), if_pos h, String.toList_append, Nat.toList_repr, habs]
    rfl
  · have habs : n.toNat = n.natAbs := by omega
    rw [if_pos (by omega), if_neg h, Nat.toList_repr, habs]
    rfl

/-- The sign comes off, and the digits are left with what follows them. -/
theorem signed_toString (e : Int) (rest : List Char) :
    signed ((toString e).toList ++ rest) = (decide (e < 0), Nat.toDigits 10 e.natAbs ++ rest) := by
  rw [toList_toString_int]
  by_cases h : e < 0
  · simp [h, signed]
  · obtain ⟨c, cs, hcs⟩ := List.exists_cons_of_ne_nil (Nat.toDigits_ne_nil : Nat.toDigits 10 e.natAbs ≠ [])
    have hdigit : c.isDigit = true := isDigit_of_mem_toDigits (hcs ▸ List.mem_cons_self)
    have hsign : c ≠ '-' ∧ c ≠ '+' := by
      constructor <;> rintro rfl <;> exact absurd hdigit (by decide)
    rw [if_neg h, hcs]
    simp [h, signed, hsign]

/-- A word starts with a digit or a plus sign. -/
theorem word64?_eq_none {value : String} {c : Char} {cs : List Char} (hvalue : value.toList = c :: cs)
    (hdigit : digit? c = none) (hplus : c ≠ '+') : word64? value = none := by
  unfold word64? word64 natural
  rw [hvalue]
  split
  · next heq => cases heq
  · next heq => exact absurd (List.cons.inj heq).1 hplus
  · next heq => exact absurd (List.cons.inj heq).1 hplus
  · rw [naturalFrom, hdigit]
    rfl

end TableQuery.Decimal
