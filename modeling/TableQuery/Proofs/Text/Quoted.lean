import TableQuery.Text.Quoted

/-! Quoted texts read back.

Whatever a text is and whatever characters its place reserves, what is written of it reads back as the
text itself (`read_write`), and it neither starts nor ends with a blank (`isTrimmed_write`). -/
namespace TableQuery.Text

/-! ### Texts without blanks at their ends -/

/-- Trimming leaves the text as it is. -/
def IsTrimmed (cs : List Char) : Prop := trim cs = cs

theorem dropWhile_of_head {p : Char → Bool} {cs : List Char} (h : ∀ c, cs.head? = some c → p c = false) :
    cs.dropWhile p = cs := by
  cases cs with
  | nil => rfl
  | cons c cs => rw [List.dropWhile_cons, if_neg (by rw [h c rfl]; exact Bool.false_ne_true)]

theorem trimWhile_of_ends {p : Char → Bool} {cs : List Char} (hfirst : ∀ c, cs.head? = some c → p c = false)
    (hlast : ∀ c, cs.getLast? = some c → p c = false) : trimWhile p cs = cs := by
  unfold trimWhile
  rw [dropWhile_of_head hfirst, dropWhile_of_head fun c hc => hlast c (by rw [← List.head?_reverse, hc]),
    List.reverse_reverse]

/-- A text that starts and ends with other characters than blanks is trimmed. -/
theorem isTrimmed_of_ends {cs : List Char} (hfirst : ∀ c, cs.head? = some c → isBlank c = false)
    (hlast : ∀ c, cs.getLast? = some c → isBlank c = false) : IsTrimmed cs :=
  trimWhile_of_ends hfirst hlast

theorem IsTrimmed.last {cs : List Char} (h : IsTrimmed cs) {c : Char} (hc : cs.getLast? = some c) :
    isBlank c = false := by
  apply getLast?_trimWhile isBlank cs c
  show (trim cs).getLast? = some c
  rw [h, hc]

/-- A text that starts with something other than a blank and ends in a trimmed text is trimmed. -/
theorem IsTrimmed.cons_append {a b : List Char} (hb : IsTrimmed b) (hne : b ≠ []) {c : Char}
    (hc : isBlank c = false) : IsTrimmed (c :: (a ++ b)) := by
  apply isTrimmed_of_ends
  · intro d hd
    rw [← Option.some.inj hd]
    exact hc
  · intro d hd
    obtain ⟨e, he⟩ : ∃ e, b.getLast? = some e := ⟨_, List.getLast?_eq_some_getLast hne⟩
    have hlast : (c :: (a ++ b)).getLast? = some e := by
      rw [← List.cons_append, List.getLast?_append, he]
      rfl
    rw [hlast] at hd
    exact hb.last (by rw [he, hd])

namespace Quoted

/-! ### Writing and reading -/

theorem write_eq_self {reserved cs : List Char} (h : needsQuotes reserved cs = false) :
    write reserved cs = cs := by
  unfold write
  rw [h]
  rfl

theorem write_eq_quoted {reserved cs : List Char} (h : needsQuotes reserved cs = true) :
    write reserved cs = '"' :: (escape cs ++ ['"']) := by
  unfold write
  rw [h]
  rfl

/-- A text that is written bare is not empty, holds nothing that is reserved, and is trimmed. -/
theorem bare_of_needsQuotes {reserved cs : List Char} (h : needsQuotes reserved cs = false) :
    cs ≠ [] ∧ (∀ c ∈ cs, c ∉ reserved ∧ c ≠ '"' ∧ c ≠ '\\') ∧ IsTrimmed cs := by
  simp only [needsQuotes, Bool.or_eq_false_iff, List.any_eq_false, Bool.or_eq_true, not_or] at h
  obtain ⟨⟨hempty, hsafe⟩, htrim⟩ := h
  refine ⟨fun he => ?_, fun c hc => ?_, ?_⟩
  · rw [he] at hempty
    exact nomatch hempty
  · obtain ⟨⟨hreserved, hquote⟩, hslash⟩ := hsafe c hc
    exact ⟨by simpa using hreserved, by simpa using hquote, by simpa using hslash⟩
  · show trim cs = cs
    simpa using htrim

theorem write_ne_nil (reserved cs : List Char) : write reserved cs ≠ [] := by
  cases h : needsQuotes reserved cs
  · rw [write_eq_self h]
    exact (bare_of_needsQuotes h).1
  · rw [write_eq_quoted h]
    exact List.cons_ne_nil _ _

/-- A text that does not start with a quote is its own value. -/
theorem read_of_head? {cs : List Char} (h : cs.head? ≠ some '"') : read cs = cs := by
  unfold read inside?
  split
  · next heq =>
    split at heq
    · exact absurd rfl h
    · exact nomatch heq
  · rfl

theorem read_write (reserved cs : List Char) : read (write reserved cs) = cs := by
  cases h : needsQuotes reserved cs
  · rw [write_eq_self h]
    apply read_of_head?
    intro hhead
    exact ((bare_of_needsQuotes h).2.1 '"' (List.mem_of_head? hhead)).2.1 rfl
  · rw [write_eq_quoted h]
    unfold read inside?
    simp [unescape_escape]

theorem isTrimmed_write (reserved cs : List Char) : IsTrimmed (write reserved cs) := by
  cases h : needsQuotes reserved cs
  · rw [write_eq_self h]
    exact (bare_of_needsQuotes h).2.2
  · rw [write_eq_quoted h]
    exact IsTrimmed.cons_append (by unfold IsTrimmed; decide) (List.cons_ne_nil _ _) (by decide)

/-- **Unquoting inverts quoting**, whatever the text is and whatever its place reserves. -/
theorem read_trim_write (reserved cs : List Char) : read (trim (write reserved cs)) = cs := by
  have htrim : trim (write reserved cs) = write reserved cs := isTrimmed_write reserved cs
  rw [htrim, read_write]

/-- A quote, and a backslash at the end. -/
example : read (trim (write [] ['"', '\\'])) = ['"', '\\'] := by decide

end Quoted
end TableQuery.Text
