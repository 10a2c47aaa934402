import TableQuery.Filter
import TableQuery.Server.Rejection
import TableQuery.Text.Nested
import TableQuery.Text.Quoted

/-! The request grammar, read.

A selection is a list of projections, some of them resources embedded with a selection of their own
(`parseSelect`). A condition is one test of a column or a group of conditions (`parseGroup`). Lists are
cut at the commas outside brackets and quotes, so that quoted texts come through as they were. -/
namespace TableQuery.Server

inductive Projection where
  | star
  | column (key column : String) (cast : Option String)
  /-- An embedded resource; `inner` drops the rows that have none. -/
  | embed (key name : String) (hint : Option String) (inner : Bool) (items : List Projection)

instance : Inhabited Projection := ⟨.star⟩

inductive Condition where
  | leaf (column : String) (negated : Bool) (operator value : String)
  | group (junction : Junction) (negated : Bool) (members : List Condition)

instance : Inhabited Condition := ⟨.group .all false []⟩

structure OrderTerm where
  column : String
  descending : Bool
  nullsFirst : Bool
deriving Repr, DecidableEq

/-- The text between an opening bracket at the start and a closing one at the end. -/
def between? (opening closing : Char) : List Char → Option (List Char)
  | [] => none
  | c :: cs => if c = opening ∧ cs.getLast? = some closing then some cs.dropLast else none

theorem length_of_between? {o c : Char} {cs body : List Char} (h : between? o c cs = some body) :
    body.length < cs.length := by
  cases cs with
  | nil => simp [between?] at h
  | cons d cs =>
    unfold between? at h
    split at h
    · simp at h
    · next heq =>
      obtain ⟨rfl, rfl⟩ := List.cons.inj heq
      obtain ⟨-, rfl⟩ := by simpa using h
      rw [List.length_dropLast, List.length_cons]
      omega

theorem length_trim_le (cs : List Char) : (Text.trim cs).length ≤ cs.length := by
  unfold Text.trim Text.trimWhile
  have h1 := (List.dropWhile_sublist (l := cs) Text.isBlank).length_le
  have h2 := (List.dropWhile_sublist (l := (cs.dropWhile Text.isBlank).reverse) Text.isBlank).length_le
  simp at h1 h2 ⊢
  omega

/-! ### Selections -/

/-- The head of an embedded resource, before its selection: key, name, hint and whether it is inner.
Of several hints the last counts. -/
def parseHead (head : List Char) : String × String × Option String × Bool :=
  let (alias?, rest) := match Text.cut ':' head with
    | some (a, rest) => (some a, rest)
    | none => (none, head)
  let parts := Text.pieces '!' rest
  let name := String.ofList (parts.headD [])
  let hints := parts.tail.map String.ofList
  let hint := (hints.filter fun h => h != "inner" && h != "left").getLast?
  ((alias?.map String.ofList).getD name, name, hint, hints.contains "inner")

/-- A column with an optional key before a colon and an optional cast after a double one. -/
def parseColumn (item : List Char) : Except SyntaxFault Projection :=
  let (head, cast) := match Text.cutOn [':', ':'] item with
    | some (head, cast) => (head, some (String.ofList cast))
    | none => (item, none)
  let (key, column) := match Text.cut ':' head with
    | some (key, column) => (key, column)
    | none => (head, head)
  if column.isEmpty then .error (.emptyColumn (String.ofList item))
  else .ok (.column (String.ofList key) (String.ofList column) cast)

theorem length_embedBody_lt {raw part body : List Char} (hp : part ∈ Text.Nested.split raw)
    (h : between? '(' ')' ((Text.trim part).dropWhile (· != '(')) = some body) :
    body.length < raw.length := by
  have h1 := length_of_between? h
  have h2 := (List.dropWhile_sublist (l := Text.trim part) (· != '(')).length_le
  have h3 := length_trim_le part
  have h4 := Text.Nested.length_le_of_mem_split hp
  omega

/-- The projections of a selection, each cut off at a comma outside brackets. -/
def parseSelect (raw : List Char) : Except SyntaxFault (List Projection) :=
  (Text.Nested.split raw).attach.mapM fun ⟨part, hp⟩ =>
    if Text.trim part = ['*'] then .ok .star
    else if (Text.trim part).contains '(' then
      match h : between? '(' ')' ((Text.trim part).dropWhile (· != '(')) with
      | none => .error (.unbalancedEmbed (String.ofList (Text.trim part)))
      | some body =>
        have : body.length < raw.length := length_embedBody_lt hp h
        let (key, name, hint, inner) := parseHead ((Text.trim part).takeWhile (· != '('))
        (parseSelect body).map fun items => .embed key name hint inner items
    else parseColumn (Text.trim part)
termination_by raw.length

/-! ### Conditions -/

/-- The test `operator.value` of a column, negated behind `not.`; inside a group the value may be
quoted. -/
def parseLeaf (column raw : List Char) (quotable : Bool) : Except SyntaxFault Condition :=
  let (negated, rest) := Operator.splitNot raw
  match Text.cut '.' rest with
  | none => .error (.malformedFilter (String.ofList column) (String.ofList raw))
  | some (operator, value) =>
    let value := if quotable then Text.Quoted.read value else value
    .ok (.leaf (String.ofList column) negated (String.ofList operator) (String.ofList value))

/-- The junction and the negation that a group inside a group starts with, and its body. -/
def groupStart? (part : List Char) : Option (Junction × Bool × List Char) :=
  match part with
  | 'n' :: 'o' :: 't' :: '.' :: 'o' :: 'r' :: '(' :: rest => some (.any, true, '(' :: rest)
  | 'n' :: 'o' :: 't' :: '.' :: 'a' :: 'n' :: 'd' :: '(' :: rest => some (.all, true, '(' :: rest)
  | 'o' :: 'r' :: '(' :: rest => some (.any, false, '(' :: rest)
  | 'a' :: 'n' :: 'd' :: '(' :: rest => some (.all, false, '(' :: rest)
  | _ => none

theorem length_of_groupStart? {part body : List Char} {j : Junction} {n : Bool}
    (h : groupStart? part = some (j, n, body)) : body.length ≤ part.length := by
  unfold groupStart? at h
  split at h
  all_goals simp only [Option.some.injEq, Prod.mk.injEq, reduceCtorEq] at h
  all_goals obtain ⟨-, -, rfl⟩ := h
  all_goals simp

theorem length_groupBody_lt {body inner part rest : List Char} {j : Junction} {n : Bool}
    (h : between? '(' ')' body = some inner) (hp : part ∈ Text.Nested.split inner)
    (hg : groupStart? (Text.trim part) = some (j, n, rest)) : rest.length < body.length := by
  have h1 := length_of_between? h
  have h2 := length_of_groupStart? hg
  have h3 := length_trim_le part
  have h4 := Text.Nested.length_le_of_mem_split hp
  omega

/-- The members between a group's parentheses. -/
def parseGroup (junction : Junction) (negated : Bool) (body : List Char) :
    Except SyntaxFault Condition :=
  match h : between? '(' ')' body with
  | none => .error (.malformedTree (String.ofList body))
  | some inner =>
    let members := (Text.Nested.split inner).attach.mapM fun ⟨part, hp⟩ =>
      match hg : groupStart? (Text.trim part) with
      | some (j, n, rest) =>
        have : rest.length < body.length := length_groupBody_lt h hp hg
        parseGroup j n rest
      | none =>
        match Text.cut '.' (Text.trim part) with
        | none => .error (.malformedElement (String.ofList (Text.trim part)))
        | some (column, rest) => parseLeaf column rest true
    members.map (.group junction negated)
termination_by body.length

mutual

/-- The columns a condition tests, in their order. -/
def Condition.columns : Condition → List String
  | .leaf column _ _ _ => [column]
  | .group _ _ members => Condition.columnsOf members

def Condition.columnsOf : List Condition → List String
  | [] => []
  | c :: cs => c.columns ++ Condition.columnsOf cs

end

/-! ### Order and lists -/

/-- The modifiers after an order term's column: the direction, and where nulls go if that is said. -/
def readModifiers (descending : Bool) (nulls : Option Bool) :
    List (List Char) → Except SyntaxFault (Bool × Option Bool)
  | [] => .ok (descending, nulls)
  | m :: ms =>
    match String.ofList m with
    | "asc" => readModifiers false nulls ms
    | "desc" => readModifiers true nulls ms
    | "nullsfirst" => readModifiers descending (some true) ms
    | "nullslast" => readModifiers descending (some false) ms
    | other => .error (.unknownModifier other)

/-- One order term. Nulls sort as the largest value unless it says otherwise. -/
def parseOrderTerm (raw : List Char) : Except SyntaxFault OrderTerm := do
  let parts := Text.pieces '.' (Text.trim raw)
  let (descending, nulls) ← readModifiers false none parts.tail
  let column := parts.headD []
  if column.isEmpty then .error (.malformedOrderTerm (String.ofList raw))
  else .ok ⟨String.ofList column, descending, nulls.getD descending⟩

def parseOrder (raw : List Char) : Except SyntaxFault (List OrderTerm) :=
  (Text.pieces ',' raw).mapM parseOrderTerm

/-- The items between two brackets, quotes taken off; nothing between them is no item. -/
def parseList? (opening closing : Char) (raw : List Char) : Option (List String) :=
  (between? opening closing raw).map fun inner =>
    if inner.isEmpty then []
    else (Text.Nested.split inner).map fun item =>
      String.ofList (Text.Quoted.read (Text.trim item))

end TableQuery.Server
