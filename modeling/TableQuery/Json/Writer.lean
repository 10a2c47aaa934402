import TableQuery.Json.Value
import TableQuery.Decimal.Format

/-! Compact JSON text.

No blanks, members in their order, and escapes only where JSON asks for them. A fraction is written
with the fewest digits that read back, positionally while its leading digit has an exponent from -5 to
15, and always with a point or an exponent, so that it is never read back as an integer. -/
namespace TableQuery.Json

def numberFormat : Decimal.Format where
  plain := some (-5, 15)
  pointZero := true
  tie := .even
  nan := "null"
  infinity := "null"

def hexDigit (n : Nat) : Char := (Nat.toDigits 16 (n % 16)).headD '0'

def escapeChar (c : Char) : List Char :=
  if c = '"' then ['\\', '"']
  else if c = '\\' then ['\\', '\\']
  else if c = '\x08' then ['\\', 'b']
  else if c = '\x0c' then ['\\', 'f']
  else if c = '\n' then ['\\', 'n']
  else if c = '\r' then ['\\', 'r']
  else if c = '\t' then ['\\', 't']
  else if c.toNat < 32 then
    ['\\', 'u', '0', '0', hexDigit (c.toNat / 16), hexDigit c.toNat]
  else [c]

def quote (s : String) : String :=
  String.ofList (['"'] ++ s.toList.flatMap escapeChar ++ ['"'])

end Json

def Number.render : Number → String
  | .int n => toString n
  | .float x => Json.numberFormat.render x

namespace Json

mutual

def render : Json → String
  | .null => "null"
  | .bool true => "true"
  | .bool false => "false"
  | .num n => n.render
  | .str s => quote s
  | .arr items => "[" ++ ",".intercalate (renderItems items) ++ "]"
  | .obj members => "\x7b" ++ ",".intercalate (renderMembers members) ++ "\x7d"

def renderItems : List Json → List String
  | [] => []
  | v :: vs => render v :: renderItems vs

def renderMembers : List (String × Json) → List String
  | [] => []
  | (k, v) :: ms => (quote k ++ ":" ++ render v) :: renderMembers ms

end

/-- The text a value is shown as among other texts: a string stands for itself. -/
def toText : Json → String
  | .str s => s
  | v => render v

end TableQuery.Json
