import TableQuery.Decimal.Binary

/-! The fewest decimal digits that read back to a binary64 value.

For one digit, two digits and so on up to seventeen, the two neighbours of the value on the decimal
grid of that many digits are tried; the first grid with a neighbour that reads back wins, and of two
such neighbours the nearer. `Tie` settles the case of two equally near ones. Whatever the search
returns reads back (`readsBack_of_onGrid?`). -/
namespace TableQuery.Decimal

/-- Which of two equally near decimals is chosen: the one with an even last digit, or the larger. -/
inductive Tie where
  | even
  | up
deriving Repr, DecidableEq

/-- The least `k` with `m · 2^q < 10^k`, searched upwards from `k` with the given fuel. -/
def scaleFrom (x : Binary) (k : Int) : Nat → Int
  | 0 => k
  | fuel + 1 => if compareScaled 1 k x.m x.q == .gt then k else scaleFrom x (k + 1) fuel

/-- The least `k` with `m · 2^q < 10^k`: the binary logarithm gives it up to a few steps. -/
def scale (x : Binary) : Int :=
  let log2 : Int := (Nat.log2 x.m : Int) + x.q
  scaleFrom x (log2 * 30103 / 100000 - 1) 8

/-- The greatest multiple of `10^exp` that is at most the value, in units of `10^exp`. -/
def floorOnGrid (x : Binary) (exp : Int) : Nat :=
  (x.m * Nat.pow 2 x.q.toNat * Nat.pow 10 (-exp).toNat) /
    (Nat.pow 2 (-x.q).toNat * Nat.pow 10 exp.toNat)

/-- The value's neighbour on the grid of multiples of `10^exp` that reads back, if there is one. -/
def onGrid? (tie : Tie) (x : Binary) (exp : Int) : Option Dec :=
  let low := floorOnGrid x exp
  let down : Dec := ⟨low, exp⟩
  let up : Dec := ⟨low + 1, exp⟩
  match x.readsBack down, x.readsBack up with
  | true, false => some down
  | false, true => some up
  | false, false => none
  | true, true =>
    match compareScaled (2 * low + 1) exp (2 * x.m) x.q with
    | .gt => some down
    | .lt => some up
    | .eq =>
      match tie with
      | .up => some up
      | .even => some (if low % 2 = 0 then down else up)

/-- Moves trailing zeros of the digits into the exponent. -/
def stripZeros (d : Dec) : Nat → Dec
  | 0 => d
  | fuel + 1 =>
    if d.digits != 0 && d.digits % 10 == 0 then stripZeros ⟨d.digits / 10, d.exp + 1⟩ fuel else d

/-- The shortest decimal of a non-zero value. Seventeen digits always suffice; were they not to, the
exact value would be written out. -/
def shortest (tie : Tie) (x : Binary) : Dec :=
  let k := scale x
  let found := (List.range 17).findSome? fun n : Nat => onGrid? tie x (k - 1 - (n : Int))
  let d := found.getD ⟨x.m * Nat.pow 2 x.q.toNat * Nat.pow 5 (-x.q).toNat, -(-x.q).toNat⟩
  stripZeros d (Nat.toDigits 10 d.digits).length

theorem readsBack_of_onGrid? {tie : Tie} {x : Binary} {exp : Int} {d : Dec}
    (h : onGrid? tie x exp = some d) : x.readsBack d = true := by
  unfold onGrid? at h
  simp only at h
  split at h
  · simp_all
  · simp_all
  · simp at h
  · next h1 h2 =>
    split at h
    · obtain rfl := Option.some.inj h
      exact h1
    · obtain rfl := Option.some.inj h
      exact h2
    · split at h
      · obtain rfl := Option.some.inj h
        exact h2
      · obtain rfl := Option.some.inj h
        split <;> assumption

end TableQuery.Decimal
