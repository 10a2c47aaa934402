/-! White space, and texts without it at their ends.

`isBlank` holds of the characters with the Unicode property `White_Space`; `isAsciiBlank` of the five
ASCII characters that separate words in request syntax. `trim` drops blanks from both ends of a text:
what it leaves neither starts nor ends with one. -/
namespace TableQuery.Text

def isBlank (c : Char) : Bool :=
  let n := c.toNat
  (0x09 ≤ n && n ≤ 0x0D) || n == 0x20 || n == 0x85 || n == 0xA0 || n == 0x1680 ||
    (0x2000 ≤ n && n ≤ 0x200A) || n == 0x2028 || n == 0x2029 || n == 0x202F || n == 0x205F ||
    n == 0x3000

/-- Space, tab, line feed, form feed and carriage return; the vertical tab is not among them. -/
def isAsciiBlank (c : Char) : Bool :=
  c == ' ' || c == '\t' || c == '\n' || c == '\x0c' || c == '\r'

def isAsciiBlankByte (b : UInt8) : Bool :=
  b == 0x20 || b == 0x09 || b == 0x0A || b == 0x0C || b == 0x0D

/-- Drops the longest prefix and the longest suffix whose characters all satisfy `p`. -/
def trimWhile (p : Char → Bool) (cs : List Char) : List Char :=
  ((cs.dropWhile p).reverse.dropWhile p).reverse

def trim (cs : List Char) : List Char := trimWhile isBlank cs

def strip (s : String) : String := String.ofList (trim s.toList)

theorem trimWhile_nil (p : Char → Bool) : trimWhile p [] = [] := rfl

theorem toList_strip (s : String) : (strip s).toList = trim s.toList := by
  simp [strip]

/-- What is left after trimming does not end in a dropped character. -/
theorem getLast?_trimWhile (p : Char → Bool) (cs : List Char) (c : Char)
    (h : (trimWhile p cs).getLast? = some c) : p c = false := by
  unfold trimWhile at h
  rw [List.getLast?_reverse] at h
  have := List.head?_dropWhile_not p (cs.dropWhile p).reverse
  rw [h] at this
  simpa using this

end TableQuery.Text
