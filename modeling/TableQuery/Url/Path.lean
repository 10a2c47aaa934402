import TableQuery.Text.Cut
import TableQuery.Url.Form

/-! Paths of segments.

A dot stands for where a path is, two dots for one back; either may be written with escapes. The letter
of a drive, which is a letter and a colon, cannot be gone back behind; at the beginning of a file's path
the colon may be written as a bar. -/
namespace TableQuery.Url.Path

def isGraphic (c : Char) : Bool := 32 < c.toNat && c.toNat < 127

/-- The characters that stand for themselves behind the mark of a fragment. -/
def plainInFragment (c : Char) : Bool := isGraphic c && !(['"', '<', '>', '\x60'].contains c)

def plain (c : Char) : Bool := plainInFragment c && !(['#', '?', '\x7b', '\x7d'].contains c)

/-- A segment, with escapes for the characters that cannot stand in one. -/
def encode (cs : List Char) : List Char := cs.flatMap (Form.encodeUnless plain)

def isSingleDot (segment : List Char) : Bool :=
  let s := segment.map Char.toLower
  s == ['.'] || s == ['%', '2', 'e']

def isDoubleDot (segment : List Char) : Bool :=
  let s := segment.map Char.toLower
  [['.', '.'], ['%', '2', 'e', '.'], ['.', '%', '2', 'e'], ['%', '2', 'e', '%', '2', 'e']].contains s

/-- The letter of a drive that a segment is. -/
def drive? : List Char → Option Char
  | [c, mark] => if c.isAlpha && (mark == ':' || mark == '|') then some c else none
  | _ => none

def isDrive (segment : List Char) : Bool := (drive? segment).isSome

/-- One segment back, but for the letter of a drive. -/
def back (done : List (List Char)) : List (List Char) :=
  if done.getLast?.any isDrive then done else done.dropLast

theorem back_nil : back [] = [] := rfl

theorem back_append {done : List (List Char)} {segment : List Char} (h : isDrive segment = false) :
    back (done ++ [segment]) = done := by
  simp [back, h]

/-- A segment as it is written behind the others. -/
def enter (file : Bool) (done : List (List Char)) (segment : List Char) : List Char :=
  match drive? segment with
  | some letter => if file && done.isEmpty then [letter, ':'] else segment
  | none => segment

/-- Takes one segment in: a dot stays where it is, two dots go back one. Both leave an empty segment
behind at the end of the path. -/
def push (file last : Bool) (done : List (List Char)) (segment : List Char) : List (List Char) :=
  let close (done : List (List Char)) := if last then done ++ [[]] else done
  if isDoubleDot segment then close (back done)
  else if isSingleDot segment then close done
  else done ++ [enter file done segment]

def normalize (file : Bool) (done : List (List Char)) : List (List Char) → List (List Char)
  | [] => done
  | [s] => push file true done s
  | s :: rest => normalize file (push file false done s) rest

/-- The segments of a text, slashes standing between them. -/
def segments (file : Bool) (cs : List Char) : List (List Char) :=
  normalize file [] ((Text.pieces '/' cs).map encode)

def render (segments : List (List Char)) : String :=
  String.ofList ('/' :: List.intercalate ['/'] segments)

/-- The path of a file begins with no empty segment but its only one. -/
def trimFront (segments : List (List Char)) : List (List Char) :=
  match segments.dropWhile List.isEmpty with
  | [] => [[]]
  | rest => rest

end TableQuery.Url.Path
