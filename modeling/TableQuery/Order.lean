/-! Sort keys, in the order they were asked for. -/
namespace TableQuery

inductive Direction where
  | asc
  | desc
deriving Repr, DecidableEq

/-- Where a key puts the rows without a value. -/
inductive Nulls where
  | first
  | last
deriving Repr, DecidableEq

structure SortKey where
  column : String
  direction : Direction
  nulls : Option Nulls
deriving Repr, DecidableEq

def Direction.name : Direction → String
  | .asc => "asc"
  | .desc => "desc"

def Nulls.name : Nulls → String
  | .first => "nullsfirst"
  | .last => "nullslast"

namespace SortKey

def on (column : String) (direction : Direction) : SortKey := ⟨column, direction, none⟩

/-- `column.direction`, then `.nullsfirst` or `.nullslast` where asked for. -/
def render (k : SortKey) : String :=
  k.column ++ "." ++ k.direction.name ++
    (match k.nulls with
    | some n => "." ++ n.name
    | none => "")

/-- The keys joined by commas; nothing where there is no key. -/
def renderAll? (keys : List SortKey) : Option String :=
  if keys.isEmpty then none else some (",".intercalate (keys.map render))

end SortKey
end TableQuery
