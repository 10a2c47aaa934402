import TableQuery.Json.Writer
import TableQuery.Text.Visible

/-! Values read as something in particular.

A decoder takes a value and gives what it stands for, or says what it found and what it expected. A
record is read from an object by its members' names, other members being passed over, or from an array
by their places. -/
namespace TableQuery.Json.Decode

/-- What a value is found to be. -/
def found : Json → String
  | .null => "null"
  | .bool true => "boolean \x60true\x60"
  | .bool false => "boolean \x60false\x60"
  | .num (.int n) => "integer \x60" ++ toString n ++ "\x60"
  | .num (.float x) => "floating point \x60" ++ (Number.float x).render ++ "\x60"
  | .str s => "string " ++ Text.inspect s
  | .arr _ => "sequence"
  | .obj _ => "map"

def mistyped {α : Type} (v : Json) (expected : String) : Except String α :=
  .error ("invalid type: " ++ found v ++ ", expected " ++ expected)

def badLength {α : Type} (length : Nat) (expected : String) : Except String α :=
  .error ("invalid length " ++ toString length ++ ", expected " ++ expected)

/-- Any value at all. -/
def any (v : Json) : Except String Json := .ok v

def list {α : Type} (item : Json → Except String α) : Json → Except String (List α)
  | .arr items => items.mapM item
  | v => mistyped v "a sequence"

/-- What a member of a record may be. -/
inductive Kind where
  | int64
  | text
deriving Repr, DecidableEq

def Kind.decode (k : Kind) (v : Json) : Except String Json :=
  match k, v with
  | .int64, .num (.int n) =>
    if (v.asInt64?).isSome then .ok v
    else .error ("invalid value: integer \x60" ++ toString n ++ "\x60, expected i64")
  | .int64, v => mistyped v "i64"
  | .text, .str s => .ok (.str s)
  | .text, v => mistyped v "a string"

/-- A record with its members in their places. -/
structure Shape where
  name : String
  members : List (String × Kind)

namespace Shape

def kind? (s : Shape) (name : String) : Option Kind :=
  (s.members.find? fun m => m.1 == name).map Prod.snd

/-- Reads the members that belong to the record, in the order they are given. -/
def readMembers (s : Shape) : Fields → Except String Fields
  | [] => .ok []
  | (name, v) :: rest => do
    match s.kind? name with
    | none => s.readMembers rest
    | some kind =>
      let v ← kind.decode v
      let others ← s.readMembers rest
      .ok ((name, v) :: others)

def checkComplete (s : Shape) (fields : Fields) : Except String Unit :=
  match s.members.find? fun m => !fields.contains m.1 with
  | some m => .error ("missing field \x60" ++ m.1 ++ "\x60")
  | none => .ok ()

def expectation (s : Shape) : String := "struct " ++ s.name

/-- Reads one item for each member left; `length` is that of the whole array. -/
def readItems (s : Shape) (length : Nat) : List (String × Kind) → List Json → Except String Fields
  | [], [] => .ok []
  | [], _ => badLength length "fewer elements in array"
  | _ :: _, [] =>
    badLength length (s.expectation ++ " with " ++ toString s.members.length ++ " elements")
  | (name, kind) :: members, v :: items => do
    let v ← kind.decode v
    let others ← s.readItems length members items
    .ok ((name, v) :: others)

def decode (s : Shape) : Json → Except String Json
  | .obj members => do
    let fields ← s.readMembers members
    s.checkComplete fields
    .ok (.obj (Fields.ofList fields))
  | .arr items => do
    let fields ← s.readItems items.length s.members items
    .ok (.obj (Fields.ofList fields))
  | v => mistyped v s.expectation

end Shape
end TableQuery.Json.Decode
