import TableQuery.Text.Utf8
import TableQuery.Yaml.Scalar

/-! The tokens of a YAML text.

Where a collection of lines begins and ends is told by columns, so the tokens hold marks for both. A key
without a mark of its own is known by the colon behind it: a `PossibleKey` remembers where the key mark
goes if that colon comes, on the same line and no more than 1024 characters on. Where nothing else can
stand, it has to come. The answer is `none` for a text that has no tokens (`Token.ofText?`). -/
namespace TableQuery.Yaml

inductive Token where
  | version (major minor : Nat)
  | handle (name lead : String)
  | documentStart
  | documentEnd
  | blockSequence
  | blockMapping
  | blockEnd
  | flowSequence
  | flowSequenceEnd
  | flowMapping
  | flowMappingEnd
  | comma
  | dash
  | key
  | value
  | alias (name : String)
  | anchor (name : String)
  /-- A tag; without a handle it is spelled out. -/
  | tag (handle : Option String) (suffix : String)
  | scalar (plain : Bool) (text : String)
deriving Repr, DecidableEq

/-! ### Directives and properties -/

/-- A number of a version, of nine digits at most. -/
def readNumber? (c : Cursor) : Option (Nat × Cursor) :=
  let digits := c.rest.takeWhile Char.isDigit
  if digits.isEmpty || 9 < digits.length then none
  else some (digits.foldl (fun n d => n * 10 + (d.toNat - 48)) 0, c.advance digits.length)

def readName (c : Cursor) : List Char × Cursor :=
  let name := c.rest.takeWhile isNameChar
  (name, c.advance name.length)

/-- How many octets a character has whose UTF-8 form begins with this one. -/
def octetCount? (n : Nat) : Option Nat :=
  if n < 0x80 then some 1
  else if 0xC0 ≤ n ∧ n < 0xE0 then some 2
  else if 0xE0 ≤ n ∧ n < 0xF0 then some 3
  else if 0xF0 ≤ n ∧ n < 0xF8 then some 4
  else none

/-- The octet of a percent sign and two hexadecimal digits. -/
def octet? (cs : List Char) : Option Nat :=
  match cs with
  | '%' :: a :: b :: _ => do pure ((← hexDigit? a) * 16 + (← hexDigit? b))
  | _ => none

/-- The octets of one character written with percent signs. -/
def octets? (cs : List Char) : Option (List Nat) := do
  let first ← octet? cs
  let count ← octetCount? first
  let others ← (List.range (count - 1)).mapM fun i =>
    (octet? (cs.drop (3 * (i + 1)))).filter fun n => 0x80 ≤ n && n < 0xC0
  some (first :: others)

def isUriChar (verbatim : Bool) (c : Char) : Bool :=
  isNameChar c ||
    [';', '/', '?', ':', '@', '&', '=', '+', '$', '.', '!', '~', '*', '\'', '(', ')'].contains c ||
    (verbatim && [',', '[', ']'].contains c)

/-- The octets of the text of a tag. -/
def readUri? (verbatim : Bool) : Nat → Cursor → Option (List Nat × Cursor)
  | 0, _ => none
  | fuel + 1, c =>
    match c.rest with
    | [] => some ([], c)
    | x :: _ =>
      if x == '%' then do
        let octets ← octets? c.rest
        let (others, next) ← readUri? verbatim fuel (c.advance (3 * octets.length))
        some (octets ++ others, next)
      else if isUriChar verbatim x then do
        let (others, next) ← readUri? verbatim fuel (c.advance 1)
        some (x.toNat :: others, next)
      else some ([], c)

def scanUri? (verbatim : Bool) (c : Cursor) : Option (String × Cursor) :=
  (readUri? verbatim (c.rest.length + 1) c).map fun r =>
    (Text.Utf8.decode (r.1.map Nat.toUInt8), r.2)

/-- The handle of a tag, from its first mark to a second one, if that follows the name. -/
def readHandle? (c : Cursor) : Option (List Char × Cursor) :=
  if !c.nextIs '!' then none
  else
    let (name, next) := readName (c.advance 1)
    if next.nextIs '!' then some ('!' :: name ++ ['!'], next.advance 1)
    else some ('!' :: name, next)

def readVersion? (c : Cursor) : Option (Token × Cursor) := do
  let (major, c) ← readNumber? c.skipBlanks
  if !c.nextIs '.' then none
  let (minor, c) ← readNumber? (c.advance 1)
  some (.version major minor, c)

def readTagDirective? (c : Cursor) : Option (Token × Cursor) := do
  let (handle, c) ← readHandle? c.skipBlanks
  if handle.length ≠ 1 ∧ handle.getLast? ≠ some '!' then none
  if !c.rest.head?.any isSpaceOrTab then none
  let c := c.skipBlanks
  let (lead, next) ← scanUri? true c
  if lead.isEmpty || !endsWord next.rest then none
  some (.handle (String.ofList handle) lead, next)

/-- Reads a directive, which has its line to itself. -/
def scanDirective? (c : Cursor) : Option (Token × Cursor) := do
  let (name, c) := readName (c.advance 1)
  if !endsWord c.rest then none
  let (token, c) ←
    if name = "YAML".toList then readVersion? c
    else if name = "TAG".toList then readTagDirective? c
    else none
  let c ← c.finishLine?
  some (token, c)

/-- Reads the name behind the mark of an anchor or an alias. -/
def scanName? (c : Cursor) : Option (String × Cursor) :=
  let (name, next) := readName (c.advance 1)
  let ends := endsWord next.rest ||
    next.rest.head?.any fun x => ['?', ':', ',', ']', '\x7d', '%', '@', '\x60'].contains x
  if name.isEmpty || !ends then none else some (String.ofList name, next)

/-- Reads a tag: spelled out in angle brackets, or behind a handle, the mark alone being one too. -/
def readTag? (c : Cursor) : Option (Token × Cursor) :=
  if (c.rest.drop 1).head? = some '<' then do
    let (text, next) ← scanUri? true (c.advance 2)
    if text.isEmpty || !next.nextIs '>' then none
    else some (.tag none text, next.advance 1)
  else do
    let (handle, next) ← readHandle? c
    if 1 < handle.length ∧ handle.getLast? = some '!' then do
      let (suffix, next) ← scanUri? false next
      if suffix.isEmpty then none
      else some (.tag (some (String.ofList handle)) suffix, next)
    else do
      let (suffix, next) ← scanUri? false next
      let suffix := String.ofList (handle.drop 1) ++ suffix
      if suffix.isEmpty then some (.tag none "!", next)
      else some (.tag (some "!") suffix, next)

def scanTag? (flow : Bool) (c : Cursor) : Option (Token × Cursor) := do
  let (token, next) ← readTag? c
  if endsWord next.rest || (flow && next.nextIs ',') then some (token, next) else none

/-! ### Scanning -/

/-- A place where a key began, if a colon follows. -/
structure PossibleKey where
  /-- Nothing but a key can stand here. -/
  required : Bool
  /-- How many tokens come before the key. -/
  number : Nat
  index : Nat
  line : Nat
  column : Nat

/-- What has been scanned of a text. -/
structure Scan where
  cursor : Cursor
  /-- The tokens so far, the last one first. -/
  tokens : List Token
  count : Nat
  /-- The column of the collection of lines that is open, if one is. -/
  indent : Option Nat
  /-- The columns of those around it. -/
  outer : List (Option Nat)
  keyAllowed : Bool
  key : Option PossibleKey
  /-- The possible keys outside the open brackets, one for each. -/
  outerKeys : List (Option PossibleKey)

namespace Scan

def start (cs : List Char) : Scan := ⟨.ofText cs, [], 0, none, [], true, none, []⟩

def inFlow (s : Scan) : Bool := !s.outerKeys.isEmpty

def put (s : Scan) (t : Token) : Scan := { s with tokens := t :: s.tokens, count := s.count + 1 }

/-- Puts a token behind the first `number`. -/
def insert (s : Scan) (number : Nat) (t : Token) : Scan :=
  let later := s.count - number
  { s with tokens := s.tokens.take later ++ t :: s.tokens.drop later, count := s.count + 1 }

def moveTo (s : Scan) (c : Cursor) : Scan := { s with cursor := c }

/-- Puts a token that is so many characters long. -/
def putMark (s : Scan) (t : Token) (length : Nat) : Scan :=
  (s.put t).moveTo (s.cursor.advance length)

/-- Goes past blanks, comments and line ends. Tabs are not blanks where a key may stand outside
brackets. -/
def skipSpace (flow : Bool) (allowed : Bool) (c : Cursor) : Cursor × Bool :=
  let start := if c.column = 0 && c.nextIs '\ufeff' then c.advance 1 else c
  let blank := start.skipWhile fun x => x == ' ' || ((flow || !allowed) && x == '\t')
  let here := blank.skipComment
  match _ : here.lineEnd? with
  | some (_, next) => skipSpace flow (allowed || !flow) next
  | none => (here, allowed)
termination_by c.rest.length
decreasing_by
  have h1 := Cursor.length_lineEnd? ‹here.lineEnd? = some _›
  have h2 : here.rest.length ≤ blank.rest.length := Cursor.length_skipComment_le blank
  have h3 : blank.rest.length ≤ start.rest.length := Cursor.length_skipWhile_le _ start
  have h4 : start.rest.length ≤ c.rest.length := by
    show (if c.column = 0 && c.nextIs '\ufeff' then c.advance 1 else c).rest.length ≤ _
    split
    · simp [Cursor.length_advance]
    · exact Nat.le_refl _
  omega

/-! #### Possible keys -/

/-- Gives up a possible key, unless it has to be one. -/
def dropKey? (s : Scan) : Option Scan :=
  if s.key.any (·.required) then none else some { s with key := none }

/-- Remembers that a key may begin here. -/
def saveKey? (s : Scan) : Option Scan :=
  if !s.keyAllowed then some s
  else do
    let s ← s.dropKey?
    let c := s.cursor
    let required := !s.inFlow && s.indent == some c.column
    some { s with key := some ⟨required, s.count, c.index, c.line, c.column⟩ }

/-- Whether the colon of a key is no longer to be looked for. -/
def isStale (c : Cursor) (k : PossibleKey) : Bool := k.line < c.line || k.index + 1024 < c.index

def refresh? (c : Cursor) (k : Option PossibleKey) : Option (Option PossibleKey) :=
  match k with
  | none => some none
  | some k => if !isStale c k then some (some k) else if k.required then none else some none

def dropStaleKeys? (s : Scan) : Option Scan := do
  let key ← refresh? s.cursor s.key
  let outerKeys ← s.outerKeys.mapM (refresh? s.cursor)
  some { s with key := key, outerKeys := outerKeys }

/-! #### Columns -/

/-- Opens a collection of lines in a column, if it is further right than the open one; its mark goes
behind the first `number` tokens. -/
def openBlock (s : Scan) (column number : Nat) (t : Token) : Scan :=
  if s.inFlow || s.indent.any (column ≤ ·) then s
  else { s.insert number t with indent := some column, outer := s.indent :: s.outer }

/-- Closes the collections of lines that are further right than a column. -/
def closeBlocks (column : Option Nat) (s : Scan) : List (Option Nat) → Scan
  | [] => s
  | outer :: others =>
    if s.indent.any fun n => column.all (· < n) then
      closeBlocks column { s.put .blockEnd with indent := outer, outer := others } others
    else s

def closeTo (s : Scan) (column : Option Nat) : Scan :=
  if s.inFlow then s else closeBlocks column s s.outer

/-! #### Tokens -/

/-- What begins a document or a directive ends everything that is open. -/
def closeAll? (s : Scan) : Option Scan :=
  (s.closeTo none).dropKey?.map fun s => { s with keyAllowed := false }

def openFlow? (s : Scan) (t : Token) : Option Scan :=
  s.saveKey?.map fun s =>
    { s.putMark t 1 with key := none, outerKeys := s.key :: s.outerKeys, keyAllowed := true }

def closeFlow? (s : Scan) (t : Token) : Option Scan :=
  s.dropKey?.map fun s =>
    let s := { s.putMark t 1 with keyAllowed := false }
    match s.outerKeys with
    | key :: others => { s with key := key, outerKeys := others }
    | [] => s

def comma? (s : Scan) : Option Scan :=
  s.dropKey?.map fun s => { s.putMark .comma 1 with keyAllowed := true }

def dash? (s : Scan) : Option Scan :=
  if !s.inFlow && !s.keyAllowed then none
  else (s.openBlock s.cursor.column s.count .blockSequence).dropKey?.map fun s =>
    { s.putMark .dash 1 with keyAllowed := true }

def keyMark? (s : Scan) : Option Scan :=
  if !s.inFlow && !s.keyAllowed then none
  else (s.openBlock s.cursor.column s.count .blockMapping).dropKey?.map fun s =>
    { s.putMark .key 1 with keyAllowed := !s.inFlow }

/-- A colon makes the possible key one; without one, it stands alone. -/
def colon? (s : Scan) : Option Scan :=
  match s.key with
  | some k =>
    let s := (s.insert k.number .key).openBlock k.column k.number .blockMapping
    some { s.putMark .value 1 with key := none, keyAllowed := false }
  | none =>
    if !s.inFlow && !s.keyAllowed then none
    else some { (s.openBlock s.cursor.column s.count .blockMapping).putMark .value 1 with
      keyAllowed := !s.inFlow }

/-- Puts a token that a key may begin with. -/
def putNode? (s : Scan) (read : Cursor → Option (Token × Cursor)) : Option Scan := do
  let s ← s.saveKey?
  let (t, next) ← read s.cursor
  some { (s.put t).moveTo next with keyAllowed := false }

def scalarOf (plain : Bool) (s : Scanned) : Token := .scalar plain (String.ofList s.text)

def block? (s : Scan) : Option Scan := do
  let s ← s.dropKey?
  let b ← scanBlock? s.indent s.cursor
  some { (s.put (scalarOf false b)).moveTo b.next with keyAllowed := true }

def plain? (s : Scan) : Option Scan := do
  let s ← s.saveKey?
  let p ← scanPlain? s.inFlow ((s.indent.map (· + 1)).getD 0) s.cursor
  some { (s.put (scalarOf true p)).moveTo p.next with keyAllowed := p.broken }

/-- The token that begins with `x`, which is followed by `rest`. -/
def token? (s : Scan) (x : Char) (rest : List Char) : Option Scan :=
  let c := s.cursor
  let flow := s.inFlow
  if c.column = 0 && x == '%' then do
    let s ← s.closeAll?
    let (t, next) ← scanDirective? c
    some ((s.put t).moveTo next)
  else if c.atDocumentMark then
    s.closeAll?.map (·.putMark (if x == '-' then .documentStart else .documentEnd) 3)
  else if x == '[' then s.openFlow? .flowSequence
  else if x == '\x7b' then s.openFlow? .flowMapping
  else if x == ']' then s.closeFlow? .flowSequenceEnd
  else if x == '\x7d' then s.closeFlow? .flowMappingEnd
  else if x == ',' then s.comma?
  else if x == '-' && endsWord rest then s.dash?
  else if x == '?' && (flow || endsWord rest) then s.keyMark?
  else if x == ':' && (flow || endsWord rest) then s.colon?
  else if x == '*' then s.putNode? fun c => (scanName? c).map fun r => (.alias r.1, r.2)
  else if x == '&' then s.putNode? fun c => (scanName? c).map fun r => (.anchor r.1, r.2)
  else if x == '!' then s.putNode? (scanTag? flow)
  else if (x == '|' || x == '>') && !flow then s.block?
  else if x == '\'' || x == '"' then
    s.putNode? fun c => (scanQuoted? c).map fun q => (scalarOf false q, q.next)
  else if beginsPlain flow (x :: rest) then s.plain?
  else none

/-- The end of the text closes everything; nothing may be left that had to be a key. -/
def finish? (s : Scan) : Option (List Token) :=
  s.closeAll?.map fun s => s.tokens.reverse

def run? : Nat → Scan → Option (List Token)
  | 0, _ => none
  | fuel + 1, s => do
    let (c, allowed) := skipSpace s.inFlow s.keyAllowed s.cursor
    let s ← { s with cursor := c, keyAllowed := allowed }.dropStaleKeys?
    let s := s.closeTo (some c.column)
    match c.rest with
    | [] => s.finish?
    | x :: rest => do
      let s ← s.token? x rest
      run? fuel s

end Scan

/-- Characters that a text may hold. -/
def isAllowed (c : Char) : Bool :=
  c == '\t' || c == '\n' || c == '\r' || (0x20 ≤ c.toNat && c.toNat ≤ 0x7E) || c.toNat == 0x85 ||
    (0xA0 ≤ c.toNat && c.toNat ≤ 0xFFFD) || 0x10000 ≤ c.toNat

/-- The tokens of a text. -/
def Token.ofText? (text : String) : Option (List Token) :=
  let cs := text.toList
  if cs.all isAllowed then Scan.run? (cs.length + 2) (.start cs) else none

end TableQuery.Yaml
