/-! Cutting a text at a separator.

`cut` and `cutLast` cut once, at the first and at the last occurrence; `pieces` cuts at every one, so
that joining its answer with the separator gives the text back (`intercalate_pieces`). The `On`
forms take a separator of several characters. -/
namespace TableQuery.Text

/-- The texts before and after the first `sep`. -/
def cut (sep : Char) : List Char → Option (List Char × List Char)
  | [] => none
  | c :: cs => if c = sep then some ([], cs) else (cut sep cs).map fun r => (c :: r.1, r.2)

/-- The texts before and after the last `sep`. -/
def cutLast (sep : Char) (cs : List Char) : Option (List Char × List Char) :=
  (cut sep cs.reverse).map fun r => (r.2.reverse, r.1.reverse)

/-- All texts between separators; a text without one is its own only piece. -/
def pieces (sep : Char) : List Char → List (List Char)
  | [] => [[]]
  | c :: cs =>
    if c = sep then [] :: pieces sep cs
    else match pieces sep cs with
      | [] => [[c]]
      | p :: ps => (c :: p) :: ps

/-- The texts before and after the first occurrence of the word `sep`. -/
def cutOn (sep : List Char) : List Char → Option (List Char × List Char)
  | [] => none
  | c :: cs =>
    match sep.isPrefixOf? (c :: cs) with
    | some rest => some ([], rest)
    | none => (cutOn sep cs).map fun r => (c :: r.1, r.2)

def containsWord (word cs : List Char) : Bool :=
  word.isEmpty || (cutOn word cs).isSome

/-- What follows the last occurrence of the word `sep`, or the whole text. -/
def afterLast (sep cs : List Char) : List Char :=
  match cutOn sep.reverse cs.reverse with
  | some (after, _) => after.reverse
  | none => cs

def piecesOf (sep : Char) (s : String) : List String :=
  (pieces sep s.toList).map String.ofList

/-- The texts between characters that satisfy `p`; between two in a row there is an empty one. -/
def fields (p : Char → Bool) : List Char → List (List Char)
  | [] => [[]]
  | c :: cs =>
    if p c then [] :: fields p cs
    else match fields p cs with
      | [] => [[c]]
      | w :: ws => (c :: w) :: ws

theorem pieces_ne_nil (sep : Char) (cs : List Char) : pieces sep cs ≠ [] := by
  cases cs with
  | nil => simp [pieces]
  | cons c cs =>
    unfold pieces
    split
    · simp
    · split <;> simp

theorem intercalate_pieces (sep : Char) (cs : List Char) :
    List.intercalate [sep] (pieces sep cs) = cs := by
  induction cs with
  | nil => rfl
  | cons c cs ih =>
    unfold pieces
    cases hp : pieces sep cs with
    | nil => exact absurd hp (pieces_ne_nil sep cs)
    | cons p ps =>
      rw [hp] at ih
      split
      · next hc =>
        subst hc
        rw [← ih]
        rfl
      · rw [← ih]
        cases ps <;> rfl

theorem cut_eq_some {sep : Char} {cs : List Char} {a b : List Char} (h : cut sep cs = some (a, b)) :
    cs = a ++ sep :: b ∧ sep ∉ a := by
  induction cs generalizing a with
  | nil => simp [cut] at h
  | cons c cs ih =>
    unfold cut at h
    split at h
    · next hc =>
      obtain ⟨rfl, rfl⟩ := by simpa using h
      simp [hc]
    · next hc =>
      obtain ⟨r, hr, he⟩ := Option.map_eq_some_iff.1 h
      obtain ⟨rfl, rfl⟩ := by simpa using he
      obtain ⟨h1, h2⟩ := ih hr
      constructor
      · simp only [List.cons_append, ← h1]
      · simp only [List.mem_cons, not_or]
        exact ⟨fun e => hc e.symm, h2⟩

end TableQuery.Text
