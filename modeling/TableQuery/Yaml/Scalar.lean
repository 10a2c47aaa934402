import TableQuery.Yaml.Cursor

/-! Scalars as they are written in a YAML text.

A scalar is plain, quoted once or twice, or a block of lines. Plain and quoted scalars are made of words
with gaps between them; a gap that goes over one line end becomes a blank, and of several ends the first
is dropped (`Gap.text`). A block keeps its line ends, or folds them likewise where it is asked to. What
cannot be read has no answer. -/
namespace TableQuery.Yaml

/-- A scalar with the place behind it. -/
structure Scanned where
  text : List Char
  next : Cursor
  /-- The scalar is followed by a line end that was read with it. -/
  broken : Bool

/-! ### Gaps between words -/

/-- Blanks on one line; or, where the line is broken, the first line end, if there is one that counts,
and those behind it. -/
structure Gap where
  blanks : List Char
  broken : Bool
  first : Option Char
  more : List Char

namespace Gap

def empty : Gap := ⟨[], false, none, []⟩

/-- The gap behind a line end that does not count. -/
def joined : Gap := ⟨[], true, none, []⟩

def pushBlank (g : Gap) (c : Char) : Gap := if g.broken then g else { g with blanks := g.blanks ++ [c] }

def pushEnd (g : Gap) (c : Char) : Gap :=
  if g.broken then { g with more := g.more ++ [c] } else ⟨[], true, some c, []⟩

/-- What the gap stands for. -/
def text (g : Gap) : List Char :=
  if !g.broken then g.blanks
  else match g.first with
    | none => g.more
    | some '\n' => if g.more.isEmpty then [' '] else g.more
    | some c => c :: g.more

end Gap

/-- Reads blanks and line ends. On the lines below, no tab may come before the column `least`. -/
def readGap? (least : Nat) (g : Gap) (c : Cursor) : Option (Gap × Cursor) :=
  match hc : c.rest with
  | [] => some (g, c)
  | x :: _ =>
    if isSpaceOrTab x then
      if g.broken && x == '\t' && c.column < least then none
      else
        have : (c.advance 1).rest.length < c.rest.length := by simp [Cursor.length_advance, hc]
        readGap? least (g.pushBlank x) (c.advance 1)
    else match he : c.lineEnd? with
      | some (e, next) =>
        have := Cursor.length_lineEnd? he
        readGap? least (g.pushEnd e) next
      | none => some (g, c)
termination_by c.rest.length

/-! ### Plain scalars -/

/-- Characters that stand for themselves only outside brackets. -/
def flowMarks : List Char := [',', '[', ']', '\x7b', '\x7d']

/-- Characters that no plain scalar begins with. -/
def indicators : List Char :=
  ['-', '?', ':', ',', '[', ']', '\x7b', '\x7d', '#', '&', '*', '!', '|', '>', '\'', '"', '%', '@', '\x60']

/-- Whether a plain scalar begins here; three of the indicators may begin one before a word. -/
def beginsPlain (flow : Bool) : List Char → Bool
  | [] => false
  | c :: rest =>
    !(isSpaceOrTab c || isBreak c || indicators.contains c) ||
      (c == '-' && !rest.head?.any isSpaceOrTab) ||
      (!flow && (c == '?' || c == ':') && !endsWord rest)

/-- The word of a plain scalar that stands here. A colon ends it before a blank. Inside brackets a
colon before a mark cannot be read. -/
def plainWord? (flow : Bool) : List Char → Option (List Char)
  | [] => some []
  | c :: rest =>
    if isSpaceOrTab c || isBreak c then some []
    else if flow && c == ':' && rest.head?.any (fun d => d == '?' || flowMarks.contains d) then none
    else if c == ':' && endsWord rest then some []
    else if flow && flowMarks.contains c then some []
    else (plainWord? flow rest).map (c :: ·)

/-- Reads on in a plain scalar behind a gap. -/
def plainFrom? (flow : Bool) (least : Nat) : Nat → Gap → Cursor → Option Scanned
  | 0, _, _ => none
  | fuel + 1, g, c =>
    if c.atDocumentMark || c.nextIs '#' then some ⟨[], c, g.broken⟩
    else do
      let word ← plainWord? flow c.rest
      if word.isEmpty then some ⟨[], c, g.broken⟩
      else
        let text := g.text ++ word
        let c := c.advance word.length
        if c.rest.isEmpty || !endsWord c.rest then some ⟨text, c, false⟩
        else do
          let (g, c) ← readGap? least .empty c
          if !flow && c.column < least then some ⟨text, c, g.broken⟩
          else do
            let s ← plainFrom? flow least fuel g c
            some { s with text := text ++ s.text }

/-- Reads a plain scalar that begins here. Outside brackets its lines begin no further left than
`least`. -/
def scanPlain? (flow : Bool) (least : Nat) (c : Cursor) : Option Scanned :=
  plainFrom? flow least (c.rest.length + 1) .empty c

/-! ### Quoted scalars -/

def hexDigit? (c : Char) : Option Nat :=
  if c.isDigit then some (c.toNat - 48)
  else if 'a' ≤ c ∧ c ≤ 'f' then some (c.toNat - 87)
  else if 'A' ≤ c ∧ c ≤ 'F' then some (c.toNat - 55)
  else none

/-- The character of a hexadecimal number. -/
def charOf? (digits : List Char) : Option Char := do
  let n ← digits.foldlM (fun n c => (hexDigit? c).map fun d => n * 16 + d) 0
  if n < 0xD800 ∨ (0xDFFF < n ∧ n ≤ 0x10FFFF) then some (Char.ofNat n) else none

def simpleEscape? (c : Char) : Option Char :=
  match c with
  | '0' => some '\x00'
  | 'a' => some '\x07'
  | 'b' => some '\x08'
  | 't' | '\t' => some '\t'
  | 'n' => some '\n'
  | 'v' => some '\x0b'
  | 'f' => some '\x0c'
  | 'r' => some '\r'
  | 'e' => some '\x1b'
  | ' ' => some ' '
  | '"' => some '"'
  | '/' => some '/'
  | '\\' => some '\\'
  | 'N' => some '\u0085'
  | '_' => some '\u00a0'
  | 'L' => some '\u2028'
  | 'P' => some '\u2029'
  | _ => none

/-- How many hexadecimal digits follow. -/
def escapeWidth? (c : Char) : Option Nat :=
  match c with
  | 'x' => some 2
  | 'u' => some 4
  | 'U' => some 8
  | _ => none

/-- What the characters behind a backslash stand for, and how many there are. -/
def escape? : List Char → Option (Char × Nat)
  | [] => none
  | c :: rest =>
    match simpleEscape? c, escapeWidth? c with
    | some x, _ => some (x, 1)
    | none, some width =>
      if rest.length < width then none
      else (charOf? (rest.take width)).map fun x => (x, width + 1)
    | none, none => none

/-- Where a word of a quoted scalar ends. -/
inductive WordEnd where
  | quote
  | blank
  /-- A backslash before a line end, which then does not count. -/
  | joint
deriving Repr, DecidableEq

/-- The word of a quoted scalar that stands here, what follows it, and where it ends. -/
def quotedWord? (double : Bool) : List Char → Option (List Char × List Char × WordEnd)
  | [] => some ([], [], .blank)
  | c :: rest =>
    let put (x : Char) (r : List Char × List Char × WordEnd) := (x :: r.1, r.2)
    if isSpaceOrTab c || isBreak c then some ([], c :: rest, .blank)
    else if double then
      if c == '"' then some ([], c :: rest, .quote)
      else if c == '\\' then
        if rest.head?.any isBreak then some ([], c :: rest, .joint)
        else match escape? rest with
          | some (x, n) => (quotedWord? double (rest.drop n)).map (put x)
          | none => none
      else (quotedWord? double rest).map (put c)
    else if c == '\'' then
      match rest with
      | '\'' :: rest => (quotedWord? double rest).map (put c)
      | _ => some ([], c :: rest, .quote)
    else (quotedWord? double rest).map (put c)
termination_by cs => cs.length
decreasing_by all_goals (simp only [List.length_cons, List.length_drop]; omega)

/-- Reads on in a quoted scalar up to its end. -/
def quotedFrom? (double : Bool) : Nat → Cursor → Option (List Char × Cursor)
  | 0, _ => none
  | fuel + 1, c =>
    if c.atDocumentMark || c.rest.isEmpty then none
    else do
      let (word, rest, stop) ← quotedWord? double c.rest
      let c := c.advance (c.rest.length - rest.length)
      let (g, c) ← match stop with
        | .joint => (c.advance 1).lineEnd?.map fun e => (Gap.joined, e.2)
        | _ => some (Gap.empty, c)
      if c.nextIs (if double then '"' else '\'') then some (word, c.advance 1)
      else do
        let (g, c) ← readGap? 0 g c
        let (text, next) ← quotedFrom? double fuel c
        some (word ++ g.text ++ text, next)

/-- Reads a quoted scalar whose opening quote stands here. -/
def scanQuoted? (c : Cursor) : Option Scanned :=
  (quotedFrom? (c.nextIs '"') (c.rest.length + 1) (c.advance 1)).map fun r => ⟨r.1, r.2, false⟩

/-! ### Blocks of lines -/

/-- What happens to the line ends at the end of a block. -/
inductive Chomping where
  | strip
  | clip
  | keep
deriving Repr, DecidableEq

def chomping? (c : Char) : Option Chomping :=
  if c = '+' then some .keep else if c = '-' then some .strip else none

/-- What is said behind the indicator of a block: how it ends, and how far it is indented. -/
structure BlockHeader where
  chomping : Chomping
  indent : Option Nat

/-- The digit that tells the indentation; it may not be zero. -/
def readIndent? (c : Cursor) : Option (Option Nat × Cursor) :=
  match c.rest.head? with
  | some '0' => none
  | some d => some (if d.isDigit then (some (d.toNat - 48), c.advance 1) else (none, c))
  | none => some (none, c)

def readChomping (c : Cursor) : Option Chomping × Cursor :=
  match c.rest.head?.bind chomping? with
  | some m => (some m, c.advance 1)
  | none => (none, c)

/-- The header, its two parts in any order. -/
def readHeader? (c : Cursor) : Option (BlockHeader × Cursor) := do
  let (before, c) := readChomping c
  let (indent, c) ← readIndent? c
  let (behind, c) := if before.isNone && indent.isSome then readChomping c else (none, c)
  some (⟨(before.or behind).getD .clip, indent⟩, c)

/-- Reads the line ends and the indentation before a line of a block: the ends, the furthest column
that was reached, and the place. Without an indentation given, all blanks are one; a tab may not stand
in it. -/
def blockGap? (indent : Option Nat) (furthest : Nat) (c : Cursor) :
    Option (List Char × Nat × Cursor) :=
  let blanks := (c.rest.takeWhile (· == ' ')).length
  let c' := c.advance (match indent with
    | some n => min blanks (n - c.column)
    | none => blanks)
  let furthest := max furthest c'.column
  let inside := match indent with
    | some n => c'.column < n
    | none => true
  if inside && c'.nextIs '\t' then none
  else match _ : c'.lineEnd? with
    | some (e, next) => (blockGap? indent furthest next).map fun r => (e :: r.1, r.2)
    | none => some ([], furthest, c')
termination_by c.rest.length
decreasing_by
  have hnext := Cursor.length_lineEnd? ‹c'.lineEnd? = some _›
  exact Nat.lt_of_lt_of_le hnext (by rw [Cursor.length_advance]; omega)

/-- What was read of a block last: the end of the last line, the ends of blank lines behind it, and
whether it begins with a blank. -/
structure BlockState where
  ending : Option Char
  blankEnds : List Char
  indented : Bool

/-- What stands between the last line and the next one. An end between two lines that begin with no
blank is folded, into a blank if nothing else is between them. -/
def BlockState.glue (folded : Bool) (s : BlockState) (indented : Bool) : List Char :=
  (if folded && s.ending == some '\n' && !s.indented && !indented then
    if s.blankEnds.isEmpty then [' '] else []
  else s.ending.toList) ++ s.blankEnds

/-- Reads the lines of a block. -/
def blockLines? (folded : Bool) (indent : Nat) : Nat → BlockState → Cursor →
    Option (List Char × BlockState × Cursor)
  | 0, _, _ => none
  | fuel + 1, s, c =>
    if c.column != indent || c.rest.isEmpty then some ([], s, c)
    else do
      let indented := c.rest.head?.any isSpaceOrTab
      let line := c.rest.takeWhile fun x => !isBreak x
      let c := c.advance line.length
      let (ending, c) := match c.lineEnd? with
        | some (e, next) => (some e, next)
        | none => (none, c)
      let (blankEnds, _, c) ← blockGap? (some indent) 0 c
      let (text, last, next) ← blockLines? folded indent fuel ⟨ending, blankEnds, indented⟩ c
      some (s.glue folded indented ++ line ++ text, last, next)

/-- Reads a block whose indicator stands here; its lines are indented further than `parent`, if they
are in something. -/
def scanBlock? (parent : Option Nat) (c : Cursor) : Option Scanned := do
  let folded := c.nextIs '>'
  let (header, c) ← readHeader? (c.advance 1)
  let c ← c.finishLine?
  let given := header.indent.map fun n => parent.getD 0 + n
  let (blankEnds, furthest, c) ← blockGap? given 0 c
  let indent := given.getD (max furthest (max ((parent.map (· + 1)).getD 0) 1))
  let (text, last, next) ← blockLines? folded indent (c.rest.length + 1) ⟨none, blankEnds, false⟩ c
  let tail := match header.chomping with
    | .strip => []
    | .clip => last.ending.toList
    | .keep => last.ending.toList ++ last.blankEnds
  some ⟨text ++ tail, next, true⟩

end TableQuery.Yaml
