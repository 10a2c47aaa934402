import TableQuery.Json.Value
import TableQuery.Decimal.Read
import TableQuery.Text.Utf8

/-! JSON text read.

The reader goes over the text once and gives the value with what follows it. Objects come out as
written, repeated names and all; `Json.settle` then orders their members, the last of each name being
kept, and refuses a fraction too large for a binary64 value. Arrays and objects may be nested in each
other 127 deep.

Where only some strings of a text matter, `Reader.spelled?` leaves all of them as they are spelled and
follows any nesting; `Reader.meant?` then says what one of them stands for.

A fraction is read as its first digits, as many as an unsigned 64-bit word holds, rounded to binary64
and then scaled by a power of ten, each step rounded. -/
namespace TableQuery.Json.Reader

def isSpace (c : Char) : Bool := c == ' ' || c == '\n' || c == '\t' || c == '\r'

def skip (cs : List Char) : List Char := cs.dropWhile isSpace

/-! ### Strings -/

def hexValue? (c : Char) : Option Nat :=
  if '0' ≤ c ∧ c ≤ '9' then some (c.toNat - 48)
  else if 'a' ≤ c ∧ c ≤ 'f' then some (c.toNat - 87)
  else if 'A' ≤ c ∧ c ≤ 'F' then some (c.toNat - 55)
  else none

def unit? (a b c d : Char) : Option Nat := do
  let a ← hexValue? a
  let b ← hexValue? b
  let c ← hexValue? c
  let d ← hexValue? d
  pure (((a * 16 + b) * 16 + c) * 16 + d)

def escaped? (c : Char) : Option Char :=
  match c with
  | '"' => some '"'
  | '\\' => some '\\'
  | '/' => some '/'
  | 'b' => some '\x08'
  | 'f' => some '\x0c'
  | 'n' => some '\n'
  | 'r' => some '\r'
  | 't' => some '\t'
  | _ => none

/-- What stands after an opening quote: the string's characters and what follows the closing quote. A
code unit of a surrogate pair counts only beside its partner. -/
def string (fuel : Nat) (cs : List Char) : Option (List Char × List Char) :=
  match fuel with
  | 0 => none
  | fuel + 1 =>
    let put (c : Char) (rest : List Char) := (string fuel rest).map fun r => (c :: r.1, r.2)
    match cs with
    | '"' :: rest => some ([], rest)
    | '\\' :: 'u' :: a :: b :: c :: d :: rest =>
      match unit? a b c d with
      | none => none
      | some n =>
        if 0xDC00 ≤ n ∧ n ≤ 0xDFFF then none
        else if 0xD800 ≤ n ∧ n ≤ 0xDBFF then
          match rest with
          | '\\' :: 'u' :: e :: f :: g :: h :: rest =>
            match unit? e f g h with
            | some m =>
              if 0xDC00 ≤ m ∧ m ≤ 0xDFFF then
                put (Char.ofNat (0x10000 + (n - 0xD800) * 0x400 + (m - 0xDC00))) rest
              else none
            | none => none
          | _ => none
        else put (Char.ofNat n) rest
    | '\\' :: c :: rest => (escaped? c).bind fun c => put c rest
    | c :: rest => if c.toNat < 32 then none else put c rest
    | [] => none

def text (cs : List Char) : Option (List Char × List Char) := string (cs.length + 1) cs

/-- What stands after an opening quote, its escapes kept: the string as spelled and what follows the
closing quote. Any code unit may stand alone. -/
def spelling : List Char → Option (List Char × List Char)
  | '"' :: rest => some ([], rest)
  | '\\' :: 'u' :: a :: b :: c :: d :: rest =>
    (unit? a b c d).bind fun _ =>
      (spelling rest).map fun r => ('\\' :: 'u' :: a :: b :: c :: d :: r.1, r.2)
  | '\\' :: c :: rest =>
    (escaped? c).bind fun _ => (spelling rest).map fun r => ('\\' :: c :: r.1, r.2)
  | c :: rest => if c.toNat < 32 then none else (spelling rest).map fun r => (c :: r.1, r.2)
  | [] => none

/-! ### Numbers -/

/-- Takes digits into `value` as long as the result fits an unsigned 64-bit word; gives the value and
how many digits were taken. -/
def absorb (value : Nat) : List Char → Nat × Nat
  | [] => (value, 0)
  | c :: cs =>
    let next := value * 10 + (c.toNat - '0'.toNat)
    if next < UInt64.size then
      let r := absorb next cs
      (r.1, r.2 + 1)
    else (value, 0)

def infinity : Float := Decimal.infinity

/-- Scales by powers of ten that a binary64 value can hold, several times where one does not do. -/
def scaleBy (x : Float) (exponent : Int) : Nat → Float
  | 0 => x
  | fuel + 1 =>
    if exponent.natAbs ≤ 308 then
      let power := Float.ofScientific 1 false exponent.natAbs
      if exponent ≥ 0 then x * power else x / power
    else if x == 0 then x
    else if exponent ≥ 0 then infinity
    else scaleBy (x / Float.ofScientific 1 false 308) (exponent + 308) fuel

def fraction (digits : List Char × List Char) (exponent : Int) : Float :=
  let (value, used) := absorb 0 digits.1
  let (value, places) := absorb value digits.2
  scaleBy (Float.ofNat value) (exponent + (digits.1.length - used : Nat) - places) 8

/-- The digits after a point, at least one. -/
def afterPoint? (cs : List Char) : Option (Option (List Char) × List Char) :=
  match cs with
  | '.' :: rest =>
    let (digits, rest) := Decimal.digitRun rest
    if digits.isEmpty then none else some (some digits, rest)
  | _ => some (none, cs)

def afterE? (cs : List Char) : Option (Option Int × List Char) :=
  match cs with
  | c :: rest =>
    if c = 'e' ∨ c = 'E' then
      let (negative, rest) := Decimal.signed rest
      let (digits, rest) := Decimal.digitRun rest
      if digits.isEmpty then none
      else
        let n : Int := Decimal.valueOf digits
        some (some (if negative then -n else n), rest)
    else some (none, cs)
  | [] => some (none, [])

def unsigned (negative : Bool) (cs : List Char) : Option (Number × List Char) := do
  let (whole, rest) := Decimal.digitRun cs
  if whole.isEmpty || (whole.head? == some '0' && whole.length > 1) then none
  let (places, rest) ← afterPoint? rest
  let (exponent, rest) ← afterE? rest
  let n := Decimal.valueOf whole
  let isInteger := places.isNone && exponent.isNone &&
    (if negative then 0 < n && n ≤ UInt64.size / 2 else n < UInt64.size)
  if isInteger then
    pure (.int (if negative then -(n : Int) else n), rest)
  else
    let x := fraction (whole, places.getD []) (exponent.getD 0)
    pure (.float (if negative then -x else x), rest)

def number (cs : List Char) : Option (Number × List Char) :=
  match cs with
  | '-' :: rest => unsigned true rest
  | _ => unsigned false cs

/-! ### Values -/

mutual

/-- One value after any blanks. The fuel bounds the steps, `depth` the nesting still allowed; `str` reads
on from an opening quote. -/
def value (str : List Char → Option (List Char × List Char)) (fuel depth : Nat) (cs : List Char) :
    Option (Json × List Char) :=
  match fuel with
  | 0 => none
  | fuel + 1 =>
    match skip cs with
    | '[' :: rest =>
      if depth = 0 then none
      else match skip rest with
        | ']' :: rest => some (.arr [], rest)
        | rest => (items str fuel (depth - 1) rest).map fun r => (.arr r.1, r.2)
    | '\x7b' :: rest =>
      if depth = 0 then none
      else match skip rest with
        | '\x7d' :: rest => some (.obj [], rest)
        | rest => (members str fuel (depth - 1) rest).map fun r => (.obj r.1, r.2)
    | '"' :: rest => (str rest).map fun r => (.str (String.ofList r.1), r.2)
    | 'n' :: 'u' :: 'l' :: 'l' :: rest => some (.null, rest)
    | 't' :: 'r' :: 'u' :: 'e' :: rest => some (.bool true, rest)
    | 'f' :: 'a' :: 'l' :: 's' :: 'e' :: rest => some (.bool false, rest)
    | rest => (number rest).map fun r => (.num r.1, r.2)

def items (str : List Char → Option (List Char × List Char)) (fuel depth : Nat) (cs : List Char) :
    Option (List Json × List Char) :=
  match fuel with
  | 0 => none
  | fuel + 1 =>
    match value str fuel depth cs with
    | none => none
    | some (v, rest) =>
      match skip rest with
      | ']' :: rest => some ([v], rest)
      | ',' :: rest => (items str fuel depth rest).map fun r => (v :: r.1, r.2)
      | _ => none

def members (str : List Char → Option (List Char × List Char)) (fuel depth : Nat) (cs : List Char) :
    Option (List (String × Json) × List Char) :=
  match fuel with
  | 0 => none
  | fuel + 1 =>
    match skip cs with
    | '"' :: rest =>
      match str rest with
      | none => none
      | some (name, rest) =>
        match skip rest with
        | ':' :: rest =>
          match value str fuel depth rest with
          | none => none
          | some (v, rest) =>
            let m := (String.ofList name, v)
            match skip rest with
            | '\x7d' :: rest => some ([m], rest)
            | ',' :: rest => (members str fuel depth rest).map fun r => (m :: r.1, r.2)
            | _ => none
        | _ => none
    | _ => none

end

def whole (str : List Char → Option (List Char × List Char)) (depth : Nat) (cs : List Char) :
    Option Json :=
  match value str (2 * cs.length + 2) depth cs with
  | some (v, rest) => if (skip rest).isEmpty then some v else none
  | none => none

/-- The whole text as one value, its objects as written. -/
def document? (s : String) : Option Json := whole text 127 s.toList

/-- The octets as one value, nested as deep as may be; a string is given as spelled, with its escapes
and with one character for each octet. -/
def spelled? (bs : List UInt8) : Option Json :=
  whole spelling bs.length (bs.map fun b => Char.ofNat b.toNat)

/-- What a spelled string stands for. -/
def meant? (spelled : String) : Option String := do
  let cs ← Text.Utf8.decode? (spelled.toList.map fun c => c.toNat.toUInt8)
  let (cs, _) ← text (cs.toList ++ ['"'])
  pure (String.ofList cs)

end Reader

mutual

def settle : Json → Option Json
  | .num (.float x) => if x.isInf then none else some (.num (.float x))
  | .arr vs => (settleItems vs).map .arr
  | .obj ms => (settleMembers ms).map fun ms => .obj (Fields.ofList ms)
  | v => some v

def settleItems : List Json → Option (List Json)
  | [] => some []
  | v :: vs => do
    let v ← settle v
    let vs ← settleItems vs
    pure (v :: vs)

def settleMembers : List (String × Json) → Option (List (String × Json))
  | [] => some []
  | (k, v) :: ms => do
    let v ← settle v
    let ms ← settleMembers ms
    pure ((k, v) :: ms)

end

def read? (s : String) : Option Json := (Reader.document? s).bind settle

def ofBytes? (bs : List UInt8) : Option Json := (Text.Utf8.decode? bs).bind read?

end TableQuery.Json
