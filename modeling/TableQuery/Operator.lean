import TableQuery.Error
import TableQuery.Scalar
import TableQuery.Text.Cut

/-! Filter operators and the tokens they make with their operands.

An operator has a wire name; a text search may carry a language configuration in parentheses.
`Operator.parse` reads an operator from text, `Operator.encode` checks that an operand suits it and
gives the token `operator.value`, which stands alone in a parameter (`Token.render`) or inside a group,
where a free text may need quotes (`Token.renderGrouped`). -/
namespace TableQuery

/-- The ways a text search reads its query. -/
inductive SearchKind where
  | basic
  | plain
  | phrase
  | websearch
deriving Repr, DecidableEq

inductive Operator where
  | eq
  | neq
  | gt
  | gte
  | lt
  | lte
  | like
  | ilike
  | isIn
  | is
  | contains
  | containedBy
  | overlaps
  | search (kind : SearchKind) (config : Option String)
deriving Repr, DecidableEq

def SearchKind.name : SearchKind → String
  | .basic => "fts"
  | .plain => "plfts"
  | .phrase => "phfts"
  | .websearch => "wfts"

namespace Operator

def name : Operator → String
  | .eq => "eq"
  | .neq => "neq"
  | .gt => "gt"
  | .gte => "gte"
  | .lt => "lt"
  | .lte => "lte"
  | .like => "like"
  | .ilike => "ilike"
  | .isIn => "in"
  | .is => "is"
  | .contains => "cs"
  | .containedBy => "cd"
  | .overlaps => "ov"
  | .search kind _ => kind.name

/-- The operator of a wire name, a text search without a configuration. -/
def ofName? (name : String) : Option Operator :=
  match name with
  | "eq" => some .eq
  | "neq" => some .neq
  | "gt" => some .gt
  | "gte" => some .gte
  | "lt" => some .lt
  | "lte" => some .lte
  | "like" => some .like
  | "ilike" => some .ilike
  | "in" => some .isIn
  | "is" => some .is
  | "cs" => some .contains
  | "cd" => some .containedBy
  | "ov" => some .overlaps
  | "fts" => some (.search .basic none)
  | "plfts" => some (.search .plain none)
  | "phfts" => some (.search .phrase none)
  | "wfts" => some (.search .websearch none)
  | _ => none

def config? : Operator → Option String
  | .search _ config => config
  | _ => none

/-- The wire name, followed by the configuration in parentheses if there is one. -/
def render (op : Operator) : String :=
  match op.config? with
  | some config => op.name ++ "(" ++ config ++ ")"
  | none => op.name

/-- What precedes a leading `not.`, as a flag, and the rest. -/
def splitNot (cs : List Char) : Bool × List Char :=
  match "not.".toList.isPrefixOf? cs with
  | some rest => (true, rest)
  | none => (false, cs)

/-- The name and the configuration of an operator's text; `none` if the configuration is not closed at
the very end. -/
def splitConfig? (cs : List Char) : Option (List Char × Option (List Char)) :=
  match Text.cut '(' cs with
  | none => some (cs, none)
  | some (name, rest) =>
    if rest.getLast? = some ')' then some (name, some rest.dropLast) else none

/-- Reads `gte`, `not.in` or `fts(english)`: the operator, and whether it is negated. -/
def parse (raw : String) : Except Fault (Operator × Bool) :=
  let cs := Text.trim raw.toList
  let (negated, rest) := splitNot cs
  match splitConfig? rest with
  | none => .error (.unterminatedConfig (String.ofList cs))
  | some (name, config) =>
    let name := String.ofList name
    match ofName? name, config with
    | none, _ => .error (.unknownOperator name)
    | some (.search kind _), config => .ok (.search kind (config.map String.ofList), negated)
    | some _, some _ => .error (.unexpectedConfig name)
    | some op, none => .ok (op, negated)

theorem ofName?_name (op : Operator) : (ofName? op.name).map Operator.name = some op.name := by
  cases op with
  | search kind config => cases kind <;> rfl
  | _ => rfl

end Operator

/-- An operator with its operand's wire text. -/
structure Token where
  negated : Bool
  operator : String
  value : String
  /-- The value is one free text, to be quoted inside a group where needed. -/
  quotable : Bool
deriving Repr, DecidableEq

/-- Reserved inside the parentheses of a membership list. -/
def membershipReserved : List Char := [',', '(', ')']

/-- Reserved inside the braces of an array. -/
def arrayReserved : List Char := [',', '\x7b', '\x7d', ' ']

/-- Reserved for an operand inside a group. -/
def groupReserved : List Char := [',', '(', ')']

namespace Token

def negate (t : Token) : Token := { t with negated := !t.negated }

def compose (t : Token) (value : String) : String :=
  (if t.negated then "not." else "") ++ t.operator ++ "." ++ value

def render (t : Token) : String := t.compose t.value

def renderGrouped (t : Token) : String :=
  t.compose (if t.quotable then (Scalar.text t.value).renderQuoted groupReserved else t.value)

theorem negate_negate (t : Token) : t.negate.negate = t := by
  cases t
  simp [negate]

end Token

def Operand.scalar (operator : String) : Operand → Except Fault Scalar
  | .one s => .ok s
  | .list _ => .error (.listOperand operator)

def Operand.items (operator : String) : Operand → Except Fault (List Scalar)
  | .list items => .ok items
  | .one _ => .error (.singleOperand operator)

namespace Operator

/-- The wire text of an operand that suits the operator, and whether it is a free text. -/
def encodeValue (op : Operator) (operand : Operand) : Except Fault (String × Bool) :=
  match op with
  | .eq | .neq => do
    let s ← operand.scalar op.name
    if s.isNull then .error (.nullComparison op.name) else .ok (s.render, s.isText)
  | .gt | .gte | .lt | .lte => do
    match ← operand.scalar op.name with
    | .null => .error (.unorderedOperand op.name Scalar.null.render)
    | .bool b => .error (.unorderedOperand op.name (Scalar.bool b).render)
    | s => .ok (s.render, s.isText)
  | .like | .ilike => do
    match ← operand.scalar op.name with
    | .text s => .ok (s, true)
    | s => .error (.notAPattern op.name s.render)
  | .isIn => do
    let items ← operand.items op.name
    if items.isEmpty then .error .emptyMembership
    else .ok (Scalar.renderList items '(' ')' membershipReserved, false)
  | .is => do
    match ← operand.scalar op.name with
    | .null => .ok ("null", false)
    | .bool b => .ok (Scalar.boolText b, false)
    | s => .error (.notATest s.render)
  | .contains | .containedBy | .overlaps => do
    let items ← operand.items op.name
    .ok (Scalar.renderList items '\x7b' '\x7d' arrayReserved, false)
  | .search _ _ => do
    match ← operand.scalar op.name with
    | .text s =>
      if (Text.trim s.toList).isEmpty then .error (.notASearch op.name s) else .ok (s, true)
    | s => .error (.notASearch op.name s.render)

def encode (op : Operator) (operand : Operand) : Except Fault Token :=
  (op.encodeValue operand).map fun r =>
    { negated := false, operator := op.render, value := r.1, quotable := r.2 }

end Operator
end TableQuery
