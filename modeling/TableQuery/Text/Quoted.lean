import TableQuery.Text.Blank

/-! Texts between double quotes.

A text is written bare where that is safe and quoted where it is not (`write`): when it is empty, when
it holds a quote, a backslash or a character the place reserves, or when blanks at its ends would be
lost. Inside quotes a backslash stands before each quote and each backslash. `read` takes the quotes
and the backslashes away again; a text that is not between quotes is its own value.

Main statement: inside quotes, reading undoes escaping (`unescape_escape`). -/
namespace TableQuery.Text.Quoted

def needsQuotes (reserved cs : List Char) : Bool :=
  cs.isEmpty || cs.any (fun c => reserved.contains c || c == '"' || c == '\\') || trim cs != cs

def escape : List Char → List Char
  | [] => []
  | c :: cs => if c = '"' ∨ c = '\\' then '\\' :: c :: escape cs else c :: escape cs

def write (reserved cs : List Char) : List Char :=
  if needsQuotes reserved cs then ['"'] ++ escape cs ++ ['"'] else cs

/-- Drops each backslash and keeps the character after it; a last lone backslash goes too. -/
def unescape : List Char → List Char
  | [] => []
  | '\\' :: c :: cs => c :: unescape cs
  | ['\\'] => []
  | c :: cs => c :: unescape cs

/-- The text between the two quotes, when it stands between two. -/
def inside? : List Char → Option (List Char)
  | '"' :: cs => if cs.getLast? = some '"' then some cs.dropLast else none
  | _ => none

def read (cs : List Char) : List Char :=
  match inside? cs with
  | some inner => unescape inner
  | none => cs

theorem unescape_escape (cs : List Char) : unescape (escape cs) = cs := by
  induction cs with
  | nil => rfl
  | cons c cs ih =>
    unfold escape
    split
    · simp [unescape, ih]
    · next h =>
      obtain ⟨-, h⟩ := not_or.1 h
      rw [unescape.eq_def]
      split <;> simp_all

end TableQuery.Text.Quoted
