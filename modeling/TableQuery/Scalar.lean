import TableQuery.Text.Quoted
import TableQuery.Decimal.Format

/-! Operands of filters.

A `Scalar` is one value; an `Operand` is one value or a list of them. `Scalar.render` is its wire
text. Inside a list or a group a text is quoted where it would otherwise break the syntax around it
(`Scalar.renderQuoted`, `renderList`); the other scalars never need it. -/
namespace TableQuery

inductive Scalar where
  | null
  | bool (b : Bool)
  | int (n : Int64)
  | float (x : Float)
  | text (s : String)

inductive Operand where
  | one (s : Scalar)
  | list (items : List Scalar)

namespace Scalar

/-- Fractions are written positionally, however long, and whole ones without a point; of two equally
short texts the larger is taken. -/
def floatFormat : Decimal.Format where
  plain := none
  pointZero := false
  tie := .up
  nan := "NaN"
  infinity := "Infinity"

def isNull : Scalar → Bool
  | .null => true
  | _ => false

def isText : Scalar → Bool
  | .text _ => true
  | _ => false

/-- An unsigned word is an integer while it fits a signed one, and its digits as a text beyond. -/
def ofWord (n : UInt64) : Scalar :=
  if n.toNat < UInt64.size / 2 then .int (Int64.ofNat n.toNat) else .text (toString n.toNat)

def boolText (b : Bool) : String := if b then "true" else "false"

def render : Scalar → String
  | .null => "null"
  | .bool b => boolText b
  | .int n => toString n.toInt
  | .float x => floatFormat.render x
  | .text s => s

/-- The text quoted where it holds a reserved character, a quote or a backslash, is empty, or has
blanks at an end. -/
def renderQuoted (reserved : List Char) : Scalar → String
  | .text s => String.ofList (Text.Quoted.write reserved s.toList)
  | s => s.render

/-- The items between the given brackets, each quoted where it has to be. -/
def renderList (items : List Scalar) (opening closing : Char) (reserved : List Char) : String :=
  String.singleton opening ++ ",".intercalate (items.map (renderQuoted reserved)) ++
    String.singleton closing

end Scalar
end TableQuery
