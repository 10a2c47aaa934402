/-! Finite binary64 values as exact numbers.

A finite value is `m · 2^q`. The reals that round to it reach halfway to its two neighbours, the ends
included exactly when `m` is even, and the neighbour below a power of two is only half as far away as
the one above. `Binary.readsBack` says whether a decimal lies in that interval, by comparing natural
numbers only. -/
namespace TableQuery.Decimal

structure Binary where
  m : Nat
  q : Int
  /-- The gap to the value below is half the gap to the value above. -/
  narrowBelow : Bool
deriving Repr, DecidableEq

/-- The bits of a finite value, its sign left out. -/
def Binary.ofBits (b : UInt64) : Binary :=
  let e := ((b >>> 52) &&& 0x7FF).toNat
  let f := (b &&& 0xFFFFFFFFFFFFF).toNat
  if e == 0 then ⟨f, -1074, false⟩ else ⟨Nat.pow 2 52 + f, (e : Int) - 1075, f == 0 && e > 1⟩

/-- The number `digits · 10^exp`. -/
structure Dec where
  digits : Nat
  exp : Int
deriving Repr, DecidableEq

/-- How `a · 10^i` compares with `n · 2^j`. -/
def compareScaled (a : Nat) (i : Int) (n : Nat) (j : Int) : Ordering :=
  compare (a * Nat.pow 10 i.toNat * Nat.pow 2 (-j).toNat) (n * Nat.pow 2 j.toNat * Nat.pow 10 (-i).toNat)

def Binary.readsBack (x : Binary) (d : Dec) : Bool :=
  let low := if x.narrowBelow then 4 * x.m - 1 else 4 * x.m - 2
  let ends := x.m % 2 == 0
  let below := compareScaled d.digits d.exp low (x.q - 2)
  let above := compareScaled d.digits d.exp (4 * x.m + 2) (x.q - 2)
  (below == .gt || (ends && below == .eq)) && (above == .lt || (ends && above == .eq))

example : (Binary.ofBits 0x3FF0000000000000).readsBack ⟨1, 0⟩ = true := by decide +kernel

end TableQuery.Decimal
