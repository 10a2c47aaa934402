import TableQuery.Operator

/-! Filter trees and the request parameters they become.

A tree is made of leaves `column operator operand`, groups joined by *and* or *or*, and negations. At
the top of a request a leaf is a parameter named for its column, a group one named for its junction
(`Filter.param`); inside a group both are written out (`Filter.renderGrouped`). A negation turns its
leaf's token or its group's name round, and two in a row cancel. -/
namespace TableQuery

structure Leaf where
  column : String
  operator : Operator
  operand : Operand

/-- How the members of a group are joined. -/
inductive Junction where
  | all
  | any
deriving Repr, DecidableEq

inductive Filter where
  | leaf (l : Leaf)
  | group (j : Junction) (members : List Filter)
  | not (f : Filter)

instance : Inhabited Filter := ⟨.group .all []⟩

def Junction.name : Junction → String
  | .all => "and"
  | .any => "or"

/-- A request parameter or header. -/
abbrev Param := String × String

def Leaf.token (l : Leaf) : Except Fault Token := l.operator.encode l.operand

namespace Filter

def test (column : String) (operator : Operator) (operand : Operand) : Filter :=
  .leaf ⟨column, operator, operand⟩

def isNull (column : String) : Filter := test column .is (.one .null)

def notNull (column : String) : Filter := .not (isNull column)

def notWord (negated : Bool) : String := if negated then "not." else ""

mutual

/-- The form inside a group, negated if the flag is set. -/
def renderGroupedAs (negated : Bool) : Filter → Except Fault String
  | .leaf l => do
    let t ← l.token
    .ok (l.column ++ "." ++ (if negated then t.negate else t).renderGrouped)
  | .group j members => do
    let body ← renderBody j members
    .ok (notWord negated ++ j.name ++ body)
  | .not f => renderGroupedAs (!negated) f

/-- The members between parentheses; a group without members has no wire form. -/
def renderBody (j : Junction) (members : List Filter) : Except Fault String :=
  match members with
  | [] => .error (.emptyGroup j.name)
  | f :: fs => do
    let parts ← renderMembers (f :: fs)
    .ok ("(" ++ ",".intercalate parts ++ ")")

def renderMembers : List Filter → Except Fault (List String)
  | [] => .ok []
  | f :: fs => do
    let part ← renderGroupedAs false f
    let parts ← renderMembers fs
    .ok (part :: parts)

end

def renderGrouped (f : Filter) : Except Fault String := renderGroupedAs false f

/-- The parameter of a filter at the top of a request, its name behind the path of the resource
it belongs to. -/
def paramAs (path : String) (negated : Bool) : Filter → Except Fault Param
  | .leaf l => do
    let t ← l.token
    .ok (path ++ l.column, (if negated then t.negate else t).render)
  | .group j members => do
    let body ← renderBody j members
    .ok (path ++ notWord negated ++ j.name, body)
  | .not f => paramAs path (!negated) f

/-- `path` is empty for the root and ends in a dot for a relation. -/
def param (path : String) (f : Filter) : Except Fault Param := paramAs path false f

/-- The parameters of several filters, in their order. -/
def params (path : String) (fs : List Filter) : Except Fault (List Param) :=
  fs.mapM (param path)

theorem param_not_not (path : String) (f : Filter) : param path (.not (.not f)) = param path f := by
  simp [param, paramAs]

end Filter
end TableQuery
