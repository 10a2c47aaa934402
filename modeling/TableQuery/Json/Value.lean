/-! JSON values.

Integers and fractions are told apart: `1` and `1.0` are different values. The members of an object
stand in ascending order of their names, one for each name; `Fields.insert` keeps them so, and a later
member of the same name takes the place of an earlier one (`get?_insert_self`). -/
namespace TableQuery

inductive Number where
  | int (n : Int)
  | float (x : Float)

inductive Json where
  | null
  | bool (b : Bool)
  | num (n : Number)
  | str (s : String)
  | arr (items : List Json)
  | obj (members : List (String × Json))

instance : Inhabited Json := ⟨.null⟩

/-- The members of an object. -/
abbrev Fields := List (String × Json)

def Number.beq : Number → Number → Bool
  | .int a, .int b => a == b
  | .float a, .float b => a == b
  | _, _ => false

instance : BEq Number := ⟨Number.beq⟩

/-- The nearest binary64 value of a number. -/
def Number.toFloat : Number → Float
  | .int n => if n < 0 then -Float.ofNat n.natAbs else Float.ofNat n.natAbs
  | .float x => x

namespace Json

mutual

def beq : Json → Json → Bool
  | .null, .null => true
  | .bool a, .bool b => a == b
  | .num a, .num b => a == b
  | .str a, .str b => a == b
  | .arr a, .arr b => beqItems a b
  | .obj a, .obj b => beqMembers a b
  | _, _ => false

def beqItems : List Json → List Json → Bool
  | [], [] => true
  | a :: as, b :: bs => beq a b && beqItems as bs
  | _, _ => false

def beqMembers : List (String × Json) → List (String × Json) → Bool
  | [], [] => true
  | (k, a) :: as, (l, b) :: bs => k == l && beq a b && beqMembers as bs
  | _, _ => false

end

instance : BEq Json := ⟨beq⟩

def ofNat (n : Nat) : Json := .num (.int n)

def ofInt (n : Int) : Json := .num (.int n)

def isNull : Json → Bool
  | .null => true
  | _ => false

def isObject : Json → Bool
  | .obj _ => true
  | _ => false

/-- The value as a signed 64-bit integer; a fraction is none, even if it is whole. -/
def asInt64? : Json → Option Int
  | .num (.int n) => if Int64.minValue.toInt ≤ n ∧ n ≤ Int64.maxValue.toInt then some n else none
  | _ => none

end Json

namespace Fields

def get? (name : String) : Fields → Option Json
  | [] => none
  | (k, v) :: rest => if k = name then some v else get? name rest

def contains (name : String) (fs : Fields) : Bool := (get? name fs).isSome

def insert (name : String) (value : Json) : Fields → Fields
  | [] => [(name, value)]
  | (k, v) :: rest =>
    if k = name then (name, value) :: rest
    else if name < k then (name, value) :: (k, v) :: rest
    else (k, v) :: insert name value rest

/-- Puts every member of `more` in, from first to last. -/
def extend (fs more : Fields) : Fields :=
  more.foldl (fun acc m => insert m.1 m.2 acc) fs

def ofList (members : List (String × Json)) : Fields := extend [] members

def names (fs : Fields) : List String := fs.map Prod.fst

theorem get?_insert_self (name : String) (value : Json) (fs : Fields) :
    get? name (insert name value fs) = some value := by
  induction fs with
  | nil => simp [insert, get?]
  | cons f fs ih =>
    obtain ⟨k, v⟩ := f
    simp only [insert]
    split
    · simp [get?]
    · next hk =>
      split
      · simp [get?]
      · simp [get?, hk, ih]

theorem get?_insert_of_ne {name other : String} (value : Json) (fs : Fields) (h : other ≠ name) :
    get? other (insert name value fs) = get? other fs := by
  induction fs with
  | nil => simp [insert, get?, h.symm]
  | cons f fs ih =>
    obtain ⟨k, v⟩ := f
    simp only [insert]
    split
    · next hk => simp [get?, hk, h.symm]
    · split
      · simp [get?, h.symm]
      · simp [get?, ih]

end Fields
end TableQuery
