import TableQuery.Text.Utf8
import TableQuery.Text.Cut

/-! Name and value pairs as a query string.

Letters, digits and the four marks `*`, `-`, `.` and `_` stand for themselves, a space is written `+`,
and every other octet of the UTF-8 form is written `%` with two capital hexadecimal digits. Reading
is lenient: a `%` without two digits after it stands for itself, and octets that are no UTF-8 become
replacement characters. -/
namespace TableQuery.Url.Form

def hexUpper (n : Nat) : Char := ((Nat.toDigits 16 (n % 16)).headD '0').toUpper

def percent (b : UInt8) : List Char := ['%', hexUpper (b.toNat / 16), hexUpper b.toNat]

def isPlain (b : UInt8) : Bool :=
  let c := Char.ofNat b.toNat
  b < 0x80 && (c.isAlphanum || c == '*' || c == '-' || c == '.' || c == '_')

def encodeByte (b : UInt8) : List Char :=
  if b = 0x20 then ['+'] else if isPlain b then [Char.ofNat b.toNat] else percent b

def encodeText (s : String) : List Char := (Text.Utf8.encode s).flatMap encodeByte

def encodePair (p : String × String) : List Char := encodeText p.1 ++ ['='] ++ encodeText p.2

/-- The pairs joined by ampersands. -/
def encode (pairs : List (String × String)) : String :=
  String.ofList (List.intercalate ['&'] (pairs.map encodePair))

def hexDigit? (c : Char) : Option Nat :=
  if '0' ≤ c ∧ c ≤ '9' then some (c.toNat - 48)
  else if 'a' ≤ c ∧ c ≤ 'f' then some (c.toNat - 87)
  else if 'A' ≤ c ∧ c ≤ 'F' then some (c.toNat - 55)
  else none

def utf8Of (c : Char) : List UInt8 := Text.Utf8.encode (String.singleton c)

/-- A character itself if it may stand so, else its octets, each written out. -/
def encodeUnless (plain : Char → Bool) (c : Char) : List Char :=
  if plain c then [c] else (utf8Of c).flatMap percent

/-- The octets of a text in which `%` and two hexadecimal digits stand for one octet. -/
def percentDecode : List Char → List UInt8
  | '%' :: a :: b :: cs =>
    match hexDigit? a, hexDigit? b with
    | some x, some y => UInt8.ofNat (x * 16 + y) :: percentDecode cs
    | _, _ => 0x25 :: percentDecode (a :: b :: cs)
  | c :: cs => utf8Of c ++ percentDecode cs
  | [] => []

def decodeText (cs : List Char) : String :=
  Text.Utf8.decode (percentDecode (cs.map fun c => if c = '+' then ' ' else c))

/-- A pair without `=` is a name with an empty value. -/
def decodePair (cs : List Char) : String × String :=
  match Text.cut '=' cs with
  | some (name, value) => (decodeText name, decodeText value)
  | none => (decodeText cs, "")

/-- The pairs of a query string, empty ones left out. -/
def decode (query : String) : List (String × String) :=
  ((Text.pieces '&' query.toList).filter fun p => !p.isEmpty).map decodePair

end TableQuery.Url.Form
