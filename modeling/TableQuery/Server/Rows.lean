import TableQuery.Decimal.Read
import TableQuery.Json.Writer
import TableQuery.Server.Grammar
import TableQuery.Text.LowerCase

/-! Whether a row satisfies a condition, and in which order rows come.

A condition holds its operand as text, so a cell is compared with a text: as a number if the cell is
one, as a truth value if it is one, and otherwise text against text. Null compares with nothing
(`compareText?_null`), and a column a row does not have is null there.

A condition that cannot be tested is a fault, but only once evaluation gets to it: a group is decided
by its first member that settles it. -/
namespace TableQuery.Server

abbrev Row := Fields

def Row.cell (row : Row) (column : String) : Json := (Fields.get? column row).getD .null

/-! ### Comparing -/

def compareBools : Bool → Bool → Ordering
  | false, true => .lt
  | true, false => .gt
  | _, _ => .eq

/-- None if either is undefined. -/
def compareFloats? (a b : Float) : Option Ordering :=
  if a < b then some .lt
  else if b < a then some .gt
  else if a == b then some .eq
  else none

def readBool? (text : String) : Option Bool :=
  match text with
  | "true" => some true
  | "false" => some false
  | _ => none

/-- How a cell stands to an operand; none if they do not compare. -/
def compareText? (cell : Json) (text : String) : Option Ordering :=
  match cell with
  | .null => none
  | .num n => (Decimal.float? text).bind (compareFloats? n.toFloat)
  | .bool b => (readBool? text).map (compareBools b)
  | .str s => some (compare s text)
  | other => some (compare other.render text)

theorem compareText?_null (text : String) : compareText? .null text = none := rfl

/-! ### Patterns -/

/-- Sets every flag after the first that is set. -/
def fillFrom (seen : Bool) : List Bool → List Bool
  | [] => []
  | b :: bs => (seen || b) :: fillFrom (seen || b) bs

/-- One pattern character further. A flag says whether the pattern read so far matches the text up to
that place; there is one more place than there are characters. -/
def likeStep (text : List Char) (reached : List Bool) (p : Char) : List Bool :=
  if p = '%' ∨ p = '*' then fillFrom false reached
  else false :: List.zipWith (fun here c => here && (p == '_' || p == c)) reached text

/-- Whether a pattern matches the whole text: `%` and `*` stand for any run of characters, `_` for one. -/
def like (text pattern : List Char) : Bool :=
  (pattern.foldl (likeStep text) (true :: text.map fun _ => false)).getLastD false

/-! ### Text search -/

def separatesWords (c : Char) : Bool := Text.isBlank c || c == '&' || c == '|'

def isWordQuote (c : Char) : Bool := c == '\'' || c == '"'

/-- The words of a text search in small letters, quotes around them taken off. -/
def searchWords (query : List Char) : List (List Char) :=
  ((Text.fields separatesWords query).map fun w => Text.lower (Text.trimWhile isWordQuote w)).filter
    fun w => !w.isEmpty

/-- Whether every word of the query occurs in the text, in any letter case. -/
def searchMatches (text query : List Char) : Bool :=
  (searchWords query).all fun w => Text.containsWord w (Text.lower text)

/-! ### Conditions -/

/-- What a comparison asks of how the cell stands to the operand. -/
def comparison? (name : String) : Option (Ordering → Bool) :=
  match name with
  | "eq" => some Ordering.isEq
  | "neq" => some Ordering.isNe
  | "gt" => some Ordering.isGT
  | "gte" => some Ordering.isGE
  | "lt" => some Ordering.isLT
  | "lte" => some Ordering.isLE
  | _ => none

/-- What an array operator asks of the cell's items and the operand's. -/
def arrayTest? (name : String) : Option (List String → List String → Bool) :=
  match name with
  | "cs" => some fun held wanted => wanted.all held.contains
  | "cd" => some fun held wanted => held.all wanted.contains
  | "ov" => some fun held wanted => wanted.any held.contains
  | _ => none

def isSearch (name : String) : Bool := ["fts", "plfts", "phfts", "wfts"].contains name

def testNull (cell : Json) (value : String) : Except SyntaxFault Bool :=
  match value with
  | "null" => .ok cell.isNull
  | "true" => .ok (cell == .bool true)
  | "false" => .ok (cell == .bool false)
  | other => .error (.invalidTest other)

def testMembership (cell : Json) (value : String) : Except SyntaxFault Bool :=
  match parseList? '(' ')' value.toList with
  | none => .error (.malformedList value)
  | some items => .ok (items.any fun item => compareText? cell item == some .eq)

/-- The operand has to be an array even where the cell is none. -/
def testArray (test : List String → List String → Bool) (cell : Json) (value : String) :
    Except SyntaxFault Bool :=
  match parseList? '\x7b' '\x7d' value.toList, cell with
  | none, _ => .error (.malformedArray value)
  | some wanted, .arr items => .ok (test (items.map Json.toText) wanted)
  | some _, _ => .ok false

def testText (test : List Char → Bool) : Json → Bool
  | .str s => test s.toList
  | _ => false

/-- Tests one cell. The operator's name ends at an opening parenthesis, so that a search may carry a
configuration. -/
def testLeaf (cell : Json) (operator value : String) : Except SyntaxFault Bool :=
  let name := String.ofList (operator.toList.takeWhile (· != '('))
  match comparison? name, arrayTest? name with
  | some asked, _ => .ok ((compareText? cell value).any asked)
  | none, some test => testArray test cell value
  | none, none =>
    match name with
    | "like" => .ok (testText (fun s => like s value.toList) cell)
    | "ilike" => .ok (testText (fun s => like (Text.lower s) (Text.lower value.toList)) cell)
    | "in" => testMembership cell value
    | "is" => testNull cell value
    | _ =>
      if isSearch name then .ok (testText (fun s => searchMatches s value.toList) cell)
      else .error (.unknownOperator name)

mutual

def Condition.holds (row : Row) : Condition → Except SyntaxFault Bool
  | .leaf column negated operator value =>
    (testLeaf (row.cell column) operator value).map (· != negated)
  | .group junction negated members =>
    (Condition.settle junction row members).map (· != negated)

/-- Whether all members hold, or any does, as the junction asks; the first that settles it is the last
to be tested. -/
def Condition.settle (junction : Junction) (row : Row) : List Condition → Except SyntaxFault Bool
  | [] => .ok (junction == .all)
  | c :: cs => do
    let hit ← c.holds row
    if hit == (junction == .any) then .ok hit else Condition.settle junction row cs

end

/-- Whether a row satisfies every condition. -/
def Row.satisfies (row : Row) (conditions : List Condition) : Except SyntaxFault Bool :=
  Condition.settle .all row conditions

/-- The rows that satisfy every condition, in their order. -/
def select (conditions : List Condition) (rows : List Row) : Except SyntaxFault (List Row) :=
  rows.filterM fun row => row.satisfies conditions

theorem holds_negated_leaf (row : Row) (column operator value : String) (negated : Bool) :
    (Condition.leaf column (!negated) operator value).holds row =
      ((Condition.leaf column negated operator value).holds row).map (!·) := by
  unfold Condition.holds
  cases testLeaf (row.cell column) operator value with
  | error f => rfl
  | ok b => cases b <;> cases negated <;> rfl

/-! ### Order -/

/-- Cells of one type compare by value, others by their text. -/
def compareCells (a b : Json) : Ordering :=
  match a, b with
  | .num x, .num y => (compareFloats? x.toFloat y.toFloat).getD .eq
  | .str x, .str y => compare x y
  | .bool x, .bool y => compareBools x y
  | x, y => compare x.render y.render

/-- Where nulls go does not depend on the direction. -/
def OrderTerm.compare (t : OrderTerm) (a b : Json) : Ordering :=
  match a.isNull, b.isNull with
  | true, true => .eq
  | true, false => if t.nullsFirst then .lt else .gt
  | false, true => if t.nullsFirst then .gt else .lt
  | false, false => if t.descending then (compareCells a b).swap else compareCells a b

/-- The first term that tells two rows apart decides. -/
def compareRows : List OrderTerm → Row → Row → Ordering
  | [], _, _ => .eq
  | t :: ts, a, b => (t.compare (a.cell t.column) (b.cell t.column)).then (compareRows ts a b)

/-- Rows that no term tells apart keep their order. -/
def sortRows (terms : List OrderTerm) (rows : List Row) : List Row :=
  rows.mergeSort fun a b => (compareRows terms a b).isLE

theorem length_sortRows (terms : List OrderTerm) (rows : List Row) :
    (sortRows terms rows).length = rows.length :=
  List.length_mergeSort rows

end TableQuery.Server
