/-! Lengths of time, counted in microseconds.

A clock that ticks in milliseconds fires at the first tick that is not too early (`Duration.ticks`). -/
namespace TableQuery

structure Duration where
  micros : Nat
deriving Repr, DecidableEq

namespace Duration

def ofMillis (n : Nat) : Duration := ⟨n * 1000⟩

def ofSeconds (n : Nat) : Duration := ⟨n * 1000000⟩

/-- The number of milliseconds, rounded up. -/
def ticks (d : Duration) : Nat := (d.micros + 999) / 1000

theorem ticks_ofMillis (n : Nat) : (ofMillis n).ticks = n := by
  simp only [ticks, ofMillis]
  omega

/-- The digits of a fraction with a given number of places, without zeros at the end. -/
def fractionDigits (fraction places : Nat) : List Char :=
  let digits := Nat.toDigits 10 fraction
  let padded := List.replicate (places - digits.length) '0' ++ digits
  (padded.reverse.dropWhile (· == '0')).reverse

/-- A number of units of `10 ^ places` microseconds each. -/
def renderIn (micros places : Nat) : String :=
  let digits := fractionDigits (micros % Nat.pow 10 places) places
  toString (micros / Nat.pow 10 places) ++ (if digits.isEmpty then "" else "." ++ String.ofList digits)

/-- In the largest unit of which there is a whole one: `90s`, `1.5ms`, `20µs`. -/
def render (d : Duration) : String :=
  if d.micros = 0 then "0ns"
  else if d.micros < 1000 then renderIn d.micros 0 ++ "µs"
  else if d.micros < 1000000 then renderIn d.micros 3 ++ "ms"
  else renderIn d.micros 6 ++ "s"

end Duration
end TableQuery
