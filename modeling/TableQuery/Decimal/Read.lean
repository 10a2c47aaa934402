/-! Numbers read from text.

`natural` reads a decimal integer up to a bound and says what is wrong with a text that is not one:
the first offending place decides, be it a character that is no digit or a digit that takes the value
past the bound. `float?` reads a decimal fraction with an optional exponent, or a name of an infinity
or of the undefined value, and rounds to the nearest binary64 value. -/
namespace TableQuery.Decimal

inductive IntegerFault where
  | empty
  | invalidDigit
  | tooLarge
deriving Repr, DecidableEq

def IntegerFault.message : IntegerFault → String
  | .empty => "cannot parse integer from empty string"
  | .invalidDigit => "invalid digit found in string"
  | .tooLarge => "number too large to fit in target type"

def digit? (c : Char) : Option Nat :=
  if c.isDigit then some (c.toNat - '0'.toNat) else none

def naturalFrom (bound value : Nat) : List Char → Except IntegerFault Nat
  | [] => .ok value
  | c :: cs =>
    match digit? c with
    | none => .error .invalidDigit
    | some d => if value * 10 + d ≤ bound then naturalFrom bound (value * 10 + d) cs
      else .error .tooLarge

/-- Reads a natural number of at most `bound`, a plus sign allowed before its digits. -/
def natural (bound : Nat) : List Char → Except IntegerFault Nat
  | [] => .error .empty
  | ['+'] => .error .invalidDigit
  | '+' :: cs => naturalFrom bound 0 cs
  | cs => naturalFrom bound 0 cs

def natural? (bound : Nat) (cs : List Char) : Option Nat := (natural bound cs).toOption

def word64 (s : String) : Except IntegerFault UInt64 :=
  (natural (UInt64.size - 1) s.toList).map UInt64.ofNat

def word64? (s : String) : Option UInt64 := (word64 s).toOption

/-- A leading run of digits and what follows it. -/
def digitRun (cs : List Char) : List Char × List Char := (cs.takeWhile Char.isDigit, cs.dropWhile Char.isDigit)

def valueOf (digits : List Char) : Nat :=
  digits.foldl (fun n c => n * 10 + (c.toNat - '0'.toNat)) 0

/-- An unsigned decimal: the digits before and after the point, and the exponent. -/
structure Literal where
  whole : List Char
  fraction : List Char
  exponent : Int

def signed (cs : List Char) : Bool × List Char :=
  match cs with
  | '-' :: r => (true, r)
  | '+' :: r => (false, r)
  | r => (false, r)

def exponent? (cs : List Char) : Option Int :=
  match cs with
  | [] => some 0
  | c :: r =>
    if c = 'e' ∨ c = 'E' then
      let (negative, r) := signed r
      let (digits, rest) := digitRun r
      if digits.isEmpty || !rest.isEmpty then none
      else some (if negative then -(valueOf digits : Int) else valueOf digits)
    else none

def literal? (cs : List Char) : Option Literal :=
  let (whole, r) := digitRun cs
  let (fraction, r) := match r with
    | '.' :: r => digitRun r
    | r => ([], r)
  if whole.isEmpty && fraction.isEmpty then none
  else (exponent? r).map fun e => ⟨whole, fraction, e⟩

/-- Decimal exponents beyond which every value is infinite or zero, whatever its digits. -/
def exponentLimit : Int := 400

/-- The mantissa and the power of ten of a literal, `none` for a value too large or too small for its
digits to matter; the flag tells which of the two. -/
def Literal.scaled (l : Literal) : Except Bool (Nat × Int) :=
  let m := valueOf (l.whole ++ l.fraction)
  let e := l.exponent - l.fraction.length
  let top := e + (Nat.toDigits 10 m).length
  if m = 0 then .error false
  else if top > exponentLimit then .error true
  else if top < -exponentLimit then .error false
  else .ok (m, e)

def infinity : Float := Float.ofBits 0x7FF0000000000000

def notANumber : Float := Float.ofBits 0x7FF8000000000000

def Literal.toFloat (l : Literal) : Float :=
  match l.scaled with
  | .ok (m, e) => Float.ofScientific m (e < 0) e.natAbs
  | .error true => infinity
  | .error false => 0

def Literal.toFloat32 (l : Literal) : Float32 :=
  match l.scaled with
  | .ok (m, e) => Float32.ofScientific m (e < 0) e.natAbs
  | .error true => infinity.toFloat32
  | .error false => 0

/-- What a text stands for before rounding: a literal, an infinity or the undefined value. -/
inductive Magnitude where
  | finite (l : Literal)
  | infinite
  | undefined

def magnitude? (cs : List Char) : Option Magnitude :=
  let word := cs.map Char.toLower
  if word = "inf".toList ∨ word = "infinity".toList then some .infinite
  else if word = "nan".toList then some .undefined
  else (literal? cs).map .finite

def float? (s : String) : Option Float :=
  let (negative, cs) := signed s.toList
  (magnitude? cs).map fun m =>
    let x := match m with
      | .finite l => l.toFloat
      | .infinite => infinity
      | .undefined => notANumber
    if negative then -x else x

/-- Reads a binary32 value and widens it. -/
def float32? (s : String) : Option Float :=
  let (negative, cs) := signed s.toList
  (magnitude? cs).map fun m =>
    let x := match m with
      | .finite l => l.toFloat32.toFloat
      | .infinite => infinity
      | .undefined => notANumber
    if negative then -x else x

theorem naturalFrom_le {bound value n : Nat} {cs : List Char} (h : value ≤ bound)
    (hn : naturalFrom bound value cs = .ok n) : n ≤ bound := by
  induction cs generalizing value with
  | nil => simp_all [naturalFrom]
  | cons c cs ih =>
    unfold naturalFrom at hn
    split at hn
    · simp at hn
    · split at hn
      · next hle => exact ih hle hn
      · simp at hn

end TableQuery.Decimal
