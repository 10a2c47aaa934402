/-! Cutting a text at the commas that stand outside brackets and quotes.

`split` reads once from left to right, carrying how many brackets are open, whether a double quote is
open, and whether the last character was a backslash inside quotes. Round and curly brackets count
alike, and one that closes nothing changes nothing. Joining the parts with commas gives the text back
(`intercalate_split`), and no part is longer than the text (`length_le_of_mem_split`). -/
namespace TableQuery.Text.Nested

structure State where
  depth : Nat
  quoted : Bool
  escaped : Bool
deriving Repr, DecidableEq

def State.start : State := ⟨0, false, false⟩

/-- Whether a comma read in this state ends a part. -/
def State.atTop (s : State) : Bool := !s.escaped && !s.quoted && s.depth == 0

def State.step (s : State) (c : Char) : State :=
  if s.escaped then { s with escaped := false }
  else if s.quoted then
    if c = '\\' then { s with escaped := true }
    else if c = '"' then { s with quoted := false }
    else s
  else if c = '"' then { s with quoted := true }
  else if c = '(' ∨ c = '\x7b' then { s with depth := s.depth + 1 }
  else if c = ')' ∨ c = '\x7d' then { s with depth := s.depth - 1 }
  else s

/-- Puts a character in front of the first part. -/
def consHead (c : Char) : List (List Char) → List (List Char)
  | [] => [[c]]
  | p :: ps => (c :: p) :: ps

def splitFrom (s : State) : List Char → List (List Char)
  | [] => [[]]
  | c :: cs =>
    if c = ',' ∧ s.atTop then [] :: splitFrom s cs else consHead c (splitFrom (s.step c) cs)

def split (cs : List Char) : List (List Char) := splitFrom .start cs

theorem splitFrom_ne_nil (s : State) (cs : List Char) : splitFrom s cs ≠ [] := by
  cases cs with
  | nil => simp [splitFrom]
  | cons c cs =>
    unfold splitFrom
    split
    · simp
    · cases splitFrom (s.step c) cs <;> simp [consHead]

theorem intercalate_splitFrom (s : State) (cs : List Char) :
    List.intercalate [','] (splitFrom s cs) = cs := by
  induction cs generalizing s with
  | nil => rfl
  | cons c cs ih =>
    unfold splitFrom
    split
    · next hc =>
      have h := ih s
      cases hp : splitFrom s cs with
      | nil => exact absurd hp (splitFrom_ne_nil s cs)
      | cons p ps =>
        rw [hp] at h
        rw [← h, hc.1]
        rfl
    · have h := ih (s.step c)
      cases hp : splitFrom (s.step c) cs with
      | nil => exact absurd hp (splitFrom_ne_nil (s.step c) cs)
      | cons p ps =>
        rw [hp] at h
        rw [← h]
        cases ps <;> rfl

theorem intercalate_split (cs : List Char) : List.intercalate [','] (split cs) = cs :=
  intercalate_splitFrom .start cs

theorem length_le_of_mem_splitFrom {s : State} {cs p : List Char} (h : p ∈ splitFrom s cs) :
    p.length ≤ cs.length := by
  induction cs generalizing s p with
  | nil => simp_all [splitFrom]
  | cons c cs ih =>
    unfold splitFrom at h
    split at h
    · rcases List.mem_cons.1 h with rfl | h
      · simp
      · exact Nat.le_succ_of_le (ih h)
    · generalize hl : splitFrom (s.step c) cs = l at h
      cases l with
      | nil => simp_all [consHead]
      | cons q qs =>
        simp only [consHead, List.mem_cons] at h
        rcases h with rfl | h
        · have := ih (s := s.step c) (p := q) (by simp [hl])
          simpa using this
        · exact Nat.le_succ_of_le (ih (s := s.step c) (by simp [hl, h]))

theorem length_le_of_mem_split {cs p : List Char} (h : p ∈ split cs) : p.length ≤ cs.length :=
  length_le_of_mem_splitFrom h

end TableQuery.Text.Nested
