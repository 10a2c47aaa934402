/-! Places in a YAML text.

A `Cursor` is what is left of a text, with how much of it was read: in characters, in lines, and in
characters of the current line. A line ends in a carriage return, a line feed, both, a next-line
character, or one of the two separators of Unicode; the separators keep their form, every other end is
read as a line feed. -/
namespace TableQuery.Yaml

/-! ### Characters -/

def isSpaceOrTab (c : Char) : Bool := c == ' ' || c == '\t'

def isSeparator (c : Char) : Bool := c == '\u2028' || c == '\u2029'

def isBreak (c : Char) : Bool := c == '\n' || c == '\r' || c == '\u0085' || isSeparator c

/-- Characters of names: of anchors, handles and directives. -/
def isNameChar (c : Char) : Bool := c.isAlphanum || c == '_' || c == '-'

/-- Whether a word ends here: at a blank, a line end, or the end of the text. -/
def endsWord : List Char → Bool
  | [] => true
  | c :: _ => isSpaceOrTab c || isBreak c

structure Cursor where
  rest : List Char
  index : Nat
  line : Nat
  column : Nat

namespace Cursor

def ofText (cs : List Char) : Cursor := ⟨cs, 0, 0, 0⟩

/-- Past some characters of the current line. -/
def advance (c : Cursor) (n : Nat) : Cursor := ⟨c.rest.drop n, c.index + n, c.line, c.column + n⟩

def skipWhile (p : Char → Bool) (c : Cursor) : Cursor := c.advance (c.rest.takeWhile p).length

def skipBlanks (c : Cursor) : Cursor := c.skipWhile isSpaceOrTab

def nextIs (c : Cursor) (x : Char) : Bool := c.rest.head? == some x

/-- Past a comment, if one begins here. -/
def skipComment (c : Cursor) : Cursor := if c.nextIs '#' then c.skipWhile fun x => !isBreak x else c

/-- The line end that stands here, as it is read, and the place behind it. -/
def lineEnd? (c : Cursor) : Option (Char × Cursor) :=
  match c.rest with
  | [] => none
  | x :: rest =>
    if !isBreak x then none
    else if x == '\r' && rest.head? == some '\n' then
      some ('\n', ⟨rest.drop 1, c.index + 2, c.line + 1, 0⟩)
    else some (if isSeparator x then x else '\n', ⟨rest, c.index + 1, c.line + 1, 0⟩)

/-- Past blanks and a comment up to a line end, and past that; nothing else may come. -/
def finishLine? (c : Cursor) : Option Cursor :=
  let c := c.skipBlanks.skipComment
  match c.lineEnd? with
  | some (_, next) => some next
  | none => if c.rest.isEmpty then some c else none

/-- Whether a line that ends a document or begins another starts here. -/
def atDocumentMark (c : Cursor) : Bool :=
  c.column == 0 && ("---".toList.isPrefixOf c.rest || "...".toList.isPrefixOf c.rest) &&
    endsWord (c.rest.drop 3)

theorem length_advance (c : Cursor) (n : Nat) : (c.advance n).rest.length = c.rest.length - n := by
  simp [advance]

theorem length_skipWhile_le (p : Char → Bool) (c : Cursor) :
    (c.skipWhile p).rest.length ≤ c.rest.length := by
  simp [skipWhile, length_advance]

theorem length_skipComment_le (c : Cursor) : c.skipComment.rest.length ≤ c.rest.length := by
  unfold skipComment
  split
  · exact length_skipWhile_le _ c
  · exact Nat.le_refl _

/-- A line end takes at least one character. -/
theorem length_lineEnd? {c next : Cursor} {x : Char} (h : c.lineEnd? = some (x, next)) :
    next.rest.length < c.rest.length := by
  unfold lineEnd? at h
  split at h
  · simp at h
  · rename_i y rest hc
    rw [hc]
    split at h
    · simp at h
    · split at h
      · obtain ⟨_, rfl⟩ := Prod.mk.inj (Option.some.inj h)
        simp only [List.length_drop, List.length_cons]
        omega
      · obtain ⟨_, rfl⟩ := Prod.mk.inj (Option.some.inj h)
        simp only [List.length_cons]
        omega

end Cursor
end TableQuery.Yaml
