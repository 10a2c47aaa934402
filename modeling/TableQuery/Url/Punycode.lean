import TableQuery.Text.Cut

/-! Punycode: a label's characters written in small ASCII letters, digits and hyphens.

The ASCII characters come first, a hyphen behind them if there are any. Then each other character is
given, in ascending order, by a number: how many steps lie between the place and the code point of the
last one and its own, a step going one place on or, behind the last place, to the first place and the
next code point. Numbers are written with the least significant digit first, and where a number ends
depends on the digits themselves (`threshold`), so that they need no marks between them. -/
namespace TableQuery.Url.Punycode

def digit (n : Nat) : Char := if n < 26 then Char.ofNat (97 + n) else Char.ofNat (22 + n)

def digit? (c : Char) : Option Nat :=
  if 'a' ≤ c ∧ c ≤ 'z' then some (c.toNat - 97)
  else if 'A' ≤ c ∧ c ≤ 'Z' then some (c.toNat - 65)
  else if '0' ≤ c ∧ c ≤ '9' then some (c.toNat - 22)
  else none

/-- A digit below the threshold of its place ends the number. -/
def threshold (bias k : Nat) : Nat := if k ≤ bias then 1 else min 26 (k - bias)

theorem threshold_pos (bias k : Nat) : 1 ≤ threshold bias k := by
  unfold threshold
  split <;> omega

theorem threshold_le (bias k : Nat) : threshold bias k ≤ 26 := by
  unfold threshold
  split <;> omega

/-! ### How the bias follows the numbers -/

/-- The steps down by 35 until the number is small. -/
def adaptSteps (delta k : Nat) : Nat → Nat
  | 0 => k + 36 * delta / (delta + 38)
  | fuel + 1 => if 455 < delta then adaptSteps (delta / 35) (k + 36) fuel
    else k + 36 * delta / (delta + 38)

def adapt (delta points : Nat) (first : Bool) : Nat :=
  let delta := if first then delta / 700 else delta / 2
  adaptSteps (delta + delta / points) 0 delta

def firstBias : Nat := 72
def firstCode : Nat := 128

/-! ### Writing -/

/-- The digits of a number from the place `k` on. -/
def digits (bias q k : Nat) : Nat → List Char
  | 0 => []
  | fuel + 1 =>
    let t := threshold bias k
    if q < t then [digit q]
    else digit (t + (q - t) % (36 - t)) :: digits bias ((q - t) / (36 - t)) (k + 36) fuel

structure Writer where
  delta : Nat
  bias : Nat
  handled : Nat
  output : List Char

/-- Goes over the label once for one code point: smaller ones count, the point itself is written. -/
def round (basic n : Nat) (label : List Nat) (w : Writer) : Writer :=
  label.foldl (fun w c =>
    if c < n then { w with delta := w.delta + 1 }
    else if c = n then
      { delta := 0
        bias := adapt w.delta (w.handled + 1) (w.handled == basic)
        handled := w.handled + 1
        output := w.output ++ digits w.bias w.delta 36 (w.delta + 1) }
    else w) w

def encode (label : List Char) : List Char :=
  let codes := label.map Char.toNat
  let basic := label.filter fun c => c.toNat < 128
  let others := (codes.filter fun c => 128 ≤ c).mergeSort.eraseDups
  let start : Writer := ⟨0, firstBias, basic.length, if basic.isEmpty then [] else basic ++ ['-']⟩
  let (w, _) := others.foldl (fun (w, n) m =>
    let w := { w with delta := w.delta + (m - n) * (w.handled + 1) }
    let w := round basic.length m codes w
    ({ w with delta := w.delta + 1 }, m + 1)) (start, firstCode)
  w.output

/-! ### Reading -/

/-- Weights and numbers stay below this; a label with a larger one says nothing. -/
def numberBound : Nat := UInt32.size

structure Reader where
  /-- What has been read of the number, the count of the places before included. -/
  value : Nat
  weight : Nat
  /-- The place of the next digit; thirty-six, if a number begins there. -/
  place : Nat
  bias : Nat
  code : Nat
  /-- Where the number's count began. -/
  before : Nat
  output : List Char

/-- The character that a number stands for, put where it belongs. -/
def Reader.insert? (r : Reader) : Option Reader :=
  let points := r.output.length + 1
  let code := r.code + r.value / points
  let i := r.value % points
  if code.isValidChar then
    some { value := i + 1, weight := 1, place := 36, code := code, before := i + 1
           bias := adapt (r.value - r.before) points (r.before == 0)
           output := r.output.insertIdx i (Char.ofNat code) }
  else none

def Reader.step? (r : Reader) (c : Char) : Option Reader := do
  let d ← digit? c
  let t := threshold r.bias r.place
  let r := { r with value := r.value + d * r.weight }
  if numberBound ≤ r.value then none
  else if d < t then r.insert?
  else if numberBound ≤ r.weight * (36 - t) then none
  else some { r with weight := r.weight * (36 - t), place := r.place + 36 }

/-- The label that was written so, in small letters as far as it is ASCII. -/
def decode? (cs : List Char) : Option (List Char) := do
  let (basic, rest) := match Text.cutLast '-' cs with
    | some ([], _) | none => ([], cs)
    | some split => split
  let start : Reader := ⟨0, 1, 36, firstBias, firstCode, 0, basic.map Char.toLower⟩
  let r ← rest.foldlM Reader.step? start
  if r.place = 36 then some r.output else none

end TableQuery.Url.Punycode
