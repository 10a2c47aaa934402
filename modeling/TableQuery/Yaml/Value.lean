import TableQuery.Decimal.Read
import TableQuery.Json.Writer
import TableQuery.Text.Visible
import TableQuery.Yaml.Event

/-! YAML values, and what scalars stand for.

A plain scalar is nothing, a truth value, an integer, a fraction or a text, in this order of preference.
Digits behind a leading zero are a text, and so is all that is none of the others. An integer beyond 64
bits that would still fit 128 has no value at all (`Yaml.ofPlain?`). A standard tag asks for one kind of
value, a tag of the document's own stays with what it is on. -/
namespace TableQuery

inductive Yaml where
  | null
  | bool (b : Bool)
  | num (n : Number)
  | str (s : String)
  | seq (items : List Yaml)
  | map (entries : List (Yaml × Yaml))
  | tagged (tag : String) (content : Yaml)

instance : Inhabited Yaml := ⟨.null⟩

namespace Yaml

/-! ### Scalars -/

def isSign (c : Char) : Bool := c == '+' || c == '-'

/-- Digits with a zero in front of them. -/
def isPadded (cs : List Char) : Bool :=
  let digits := match cs with
    | c :: rest => if isSign c then rest else cs
    | [] => []
  1 < digits.length && digits.head? == some '0' && digits.all Char.isDigit

def digitsIn? (base : Nat) (cs : List Char) : Option Nat :=
  let digit (c : Char) : Option Nat :=
    let value := if c.isDigit then some (c.toNat - 48)
      else if 'a' ≤ c ∧ c ≤ 'f' then some (c.toNat - 87)
      else if 'A' ≤ c ∧ c ≤ 'F' then some (c.toNat - 55)
      else none
    value.filter (· < base)
  if cs.isEmpty then none
  else cs.foldlM (fun n c => (digit c).map fun d => n * base + d) 0

/-- The size of an integer behind its sign. -/
def magnitude? (cs : List Char) : Option Nat :=
  match cs with
  | '0' :: 'x' :: rest => digitsIn? 16 rest
  | '0' :: 'o' :: rest => digitsIn? 8 rest
  | '0' :: 'b' :: rest => digitsIn? 2 rest
  | rest => if isPadded rest then none else digitsIn? 10 rest

def integer? (cs : List Char) : Option Int :=
  match cs with
  | '-' :: rest => (magnitude? rest).map fun n => -(n : Int)
  | '+' :: rest => (magnitude? rest).map Int.ofNat
  | rest => (magnitude? rest).map Int.ofNat

def infinities : List String := [".inf", ".Inf", ".INF"]

def undefinedNames : List String := [".nan", ".NaN", ".NAN"]

/-- A finite fraction, or a name of a value that is not. -/
def fraction? (s : String) : Option Float :=
  let unsigned := match s.toList with
    | '+' :: rest => String.ofList rest
    | _ => s
  let magnitude := match s.toList with
    | '-' :: rest => String.ofList rest
    | _ => s
  if infinities.contains unsigned then some Decimal.infinity
  else if infinities.contains magnitude then some (-Decimal.infinity)
  else if undefinedNames.contains s then some Decimal.notANumber
  else if unsigned.toList.head?.any isSign && s.toList.head? == some '+' then none
  else (Decimal.float? unsigned).filter Float.isFinite

/-- How a text is an integer: not at all, or one that has a value, or one that is too large. -/
inductive IntegerReading where
  | none
  | value (n : Int)
  | excessive
deriving Repr, DecidableEq

def readInteger (s : String) : IntegerReading :=
  match integer? s.toList with
  | some n =>
    if Int64.minValue.toInt ≤ n ∧ n < UInt64.size then .value n
    else if -Int.pow 2 127 ≤ n ∧ n < Int.pow 2 128 then .excessive
    else .none
  | Option.none => .none

def isNullName (s : String) : Bool := ["~", "null", "Null", "NULL"].contains s

def readBool? (s : String) : Option Bool :=
  if ["true", "True", "TRUE"].contains s then some true
  else if ["false", "False", "FALSE"].contains s then some false
  else none

/-- The value of a plain scalar; none for an integer too large to be one. -/
def ofPlain? (s : String) : Option Yaml :=
  if s.isEmpty || isNullName s then some .null
  else match readBool? s with
    | some b => some (.bool b)
    | none =>
      match readInteger s with
      | .value n => some (.num (.int n))
      | .excessive => none
      | .none =>
        match if isPadded s.toList then none else fraction? s with
        | some x => some (.num (.float x))
        | none => some (.str s)

def standardTag (name : String) : String := "tag:yaml.org,2002:" ++ name

/-- The value of a scalar, given the tag that tells its kind. -/
def ofScalar? (tag : Option String) (plain : Bool) (s : String) : Option Yaml :=
  if tag = some (standardTag "bool") then (readBool? s).map .bool
  else if tag = some (standardTag "int") then
    match readInteger s with
    | .value n => some (.num (.int n))
    | _ => none
  else if tag = some (standardTag "float") then (fraction? s).map fun x => .num (.float x)
  else if tag = some (standardTag "null") then if isNullName s then some .null else none
  else if plain && tag.isNone then ofPlain? s
  else some (.str s)

/-- The tag, if it is one of the document's own. -/
def ownTag? (tag : Option String) : Option String := tag.filter fun t => t.toList.head? == some '!'

def tagName (tag : String) : String :=
  match tag.toList with
  | '!' :: c :: rest => String.ofList (c :: rest)
  | _ => tag

/-! ### Texts -/

def numberText : Number → String
  | .int n => toString n
  | .float x =>
    if x.isNaN then ".nan"
    else if x.isInf then (if x < 0 then "-.inf" else ".inf")
    else (Number.float x).render

/-- The text of a scalar; nothing and collections have none. -/
def scalarText? : Yaml → Option String
  | .str s => some s
  | .num n => some (numberText n)
  | .bool b => some (if b then "true" else "false")
  | _ => none

mutual

/-- How a value is made up, for keys that are no scalars. -/
def describe : Yaml → String
  | .null => "Null"
  | .bool b => "Bool(" ++ (if b then "true" else "false") ++ ")"
  | .num n => "Number(" ++ numberText n ++ ")"
  | .str s => "String(" ++ Text.inspect s ++ ")"
  | .seq items => "Sequence [" ++ ", ".intercalate (describeAll items) ++ "]"
  | .map entries => "Mapping \x7b" ++ ", ".intercalate (describeEntries entries) ++ "\x7d"
  | .tagged tag content =>
    "TaggedValue \x7b tag: !" ++ tagName tag ++ ", value: " ++ describe content ++ " \x7d"

def describeAll : List Yaml → List String
  | [] => []
  | v :: vs => describe v :: describeAll vs

def describeEntries : List (Yaml × Yaml) → List String
  | [] => []
  | (k, v) :: rest => (describeKey k ++ ": " ++ describe v) :: describeEntries rest

/-- A key that is a scalar is shown without its kind. -/
def describeKey : Yaml → String
  | .bool b => if b then "true" else "false"
  | .num n => numberText n
  | .str s => Text.inspect s
  | .null => "Null"
  | .seq items => "Sequence [" ++ ", ".intercalate (describeAll items) ++ "]"
  | .map entries => "Mapping \x7b" ++ ", ".intercalate (describeEntries entries) ++ "\x7d"
  | .tagged tag content =>
    "TaggedValue \x7b tag: !" ++ tagName tag ++ ", value: " ++ describe content ++ " \x7d"

end

/-- The text a key is known by. -/
def keyText (k : Yaml) : String := k.scalarText?.getD k.describe

mutual

/-- The scalars of a document under the dotted paths of their keys, in their order. -/
def flatten (path : String) : Yaml → List (String × String)
  | .map entries => flattenEntries path entries
  | v =>
    if path.isEmpty then []
    else match v.scalarText? with
      | some s => [(path, s)]
      | none => []

def flattenEntries (path : String) : List (Yaml × Yaml) → List (String × String)
  | [] => []
  | (k, v) :: rest =>
    let below := if path.isEmpty then k.keyText else path ++ "." ++ k.keyText
    flatten below v ++ flattenEntries path rest

end

/-! ### Equality -/

/-- Numbers are equal as numbers of one kind; what is undefined equals itself. -/
def sameNumber : Number → Number → Bool
  | .int a, .int b => a == b
  | .float a, .float b => a == b || (a.isNaN && b.isNaN)
  | _, _ => false

mutual

/-- Equality; the entries of a mapping may stand in any order. -/
def same : Yaml → Yaml → Bool
  | .null, .null => true
  | .bool a, .bool b => a == b
  | .num a, .num b => sameNumber a b
  | .str a, .str b => a == b
  | .seq a, .seq b => sameAll a b
  | .map a, .map b => a.length == b.length && sameEntries a b
  | .tagged t a, .tagged u b => tagName t == tagName u && same a b
  | _, _ => false

def sameAll : List Yaml → List Yaml → Bool
  | [], [] => true
  | a :: as, b :: bs => same a b && sameAll as bs
  | _, _ => false

def sameEntries : List (Yaml × Yaml) → List (Yaml × Yaml) → Bool
  | [], _ => true
  | (k, a) :: as, bs => (bs.any fun e => same k e.1 && same a e.2) && sameEntries as bs

end

/-- Adds an entry; a key must not be there yet. -/
def addEntry? (entries : List (Yaml × Yaml)) (k v : Yaml) : Option (List (Yaml × Yaml)) :=
  if entries.any fun e => same e.1 k then none else some (entries ++ [(k, v)])

end Yaml
end TableQuery
