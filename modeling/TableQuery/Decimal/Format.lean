import TableQuery.Decimal.Shortest

/-! Texts of binary64 values.

The digits are the shortest that read back; a `Format` says how they are laid out. A value whose
leading digit has a decimal exponent in the format's plain range is written positionally, any other in
scientific notation with one digit before the point. -/
namespace TableQuery.Decimal

structure Format where
  /-- Exponents of the leading digit that are written positionally; `none` is every exponent. -/
  plain : Option (Int × Int)
  /-- Whether a whole number written positionally ends in `.0`. -/
  pointZero : Bool
  tie : Tie
  nan : String
  infinity : String

def zeros (n : Nat) : List Char := List.replicate n '0'

/-- The digits with the decimal point `point` places after the first of them, before it if negative. -/
def layoutPlain (f : Format) (digits : List Char) (point : Int) : List Char :=
  if point ≤ 0 then ['0', '.'] ++ zeros (-point).toNat ++ digits
  else if digits.length ≤ point.toNat then
    digits ++ zeros (point.toNat - digits.length) ++ (if f.pointZero then ['.', '0'] else [])
  else digits.take point.toNat ++ ['.'] ++ digits.drop point.toNat

def layoutScientific (digits : List Char) (exponent : Int) : List Char :=
  digits.take 1 ++ (if digits.length ≤ 1 then [] else ['.'] ++ digits.drop 1) ++ ['e'] ++
    (toString exponent).toList

def layout (f : Format) (d : Dec) : List Char :=
  let digits := Nat.toDigits 10 d.digits
  let exponent := d.exp + digits.length - 1
  let isPlain := match f.plain with
    | none => true
    | some (low, high) => low ≤ exponent && exponent ≤ high
  if isPlain then layoutPlain f digits (exponent + 1) else layoutScientific digits exponent

def Format.magnitude (f : Format) (bits : UInt64) : List Char :=
  let x := Binary.ofBits bits
  if x.m = 0 then (if f.pointZero then ['0', '.', '0'] else ['0']) else layout f (shortest f.tie x)

def isNegative (x : Float) : Bool := x.toBits >>> 63 == 1

def Format.render (f : Format) (x : Float) : String :=
  if x.isNaN then f.nan
  else
    let sign := if isNegative x then ['-'] else []
    let magnitude := if x.isInf then f.infinity.toList else f.magnitude x.toBits
    String.ofList (sign ++ magnitude)

end TableQuery.Decimal
