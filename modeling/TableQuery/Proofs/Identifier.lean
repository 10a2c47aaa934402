import TableQuery.Identifier
import TableQuery.Proofs.Text.Nested

/-! Identifiers among other characters of a request.

No character of an identifier is a blank or one that request syntax gives a meaning
(`isSafe_of_isIdentifierPart`), so an identifier is never quoted and ends where the next mark stands. -/
namespace TableQuery

/-- The code points of all blanks. -/
def blankPoints : List Nat :=
  [0x09, 0x0A, 0x0B, 0x0C, 0x0D, 0x20, 0x85, 0xA0, 0x1680, 0x2000, 0x2001, 0x2002, 0x2003, 0x2004, 0x2005,
    0x2006, 0x2007, 0x2008, 0x2009, 0x200A, 0x2028, 0x2029, 0x202F, 0x205F, 0x3000]

theorem toNat_mem_blankPoints {c : Char} (h : Text.isBlank c = true) : c.toNat ∈ blankPoints := by
  simp only [Text.isBlank, Bool.or_eq_true, Bool.and_eq_true, decide_eq_true_eq, beq_iff_eq] at h
  simp only [blankPoints, List.mem_cons, List.not_mem_nil, or_false]
  omega

theorem not_isBlank_of_isIdentifierPart {c : Char} (h : isIdentifierPart c = true) :
    Text.isBlank c = false := by
  have hall : ∀ n ∈ blankPoints, isIdentifierPart (Char.ofNat n) = false := by decide +kernel
  cases hb : Text.isBlank c
  · rfl
  · have hc := hall c.toNat (toNat_mem_blankPoints hb)
    rw [Char.ofNat_toNat, h] at hc
    exact hc

theorem ne_of_isIdentifierPart {c d : Char} (h : isIdentifierPart c = true)
    (hd : isIdentifierPart d = false) : c ≠ d := by
  rintro rfl
  rw [h] at hd
  exact nomatch hd

theorem isSafe_of_isIdentifierPart {c : Char} (h : isIdentifierPart c = true) :
    Text.Nested.isSafe c = true := by
  have hne (d : Char) (hd : isIdentifierPart d = false) : (c == d) = false :=
    beq_eq_false_iff_ne.mpr (ne_of_isIdentifierPart h hd)
  simp only [Text.Nested.isSafe, List.contains_cons, hne ',' (by decide), hne '"' (by decide),
    hne '(' (by decide), hne ')' (by decide), hne '\x7b' (by decide), hne '\x7d' (by decide)]
  rfl

theorem isIdentifierPart_of_isDigit {c : Char} (h : c.isDigit = true) : isIdentifierPart c = true := by
  have hlt : c.toNat < 128 := by
    simp only [Char.isDigit, Bool.and_eq_true, decide_eq_true_eq, UInt32.le_iff_toNat_le] at h
    exact Nat.lt_of_le_of_lt h.2 (by decide)
  simp [isIdentifierPart, Text.isNumeral_ascii hlt, h]

theorem all_isIdentifierPart {cs : List Char} (h : isIdentifierText cs = true) :
    ∀ c ∈ cs, isIdentifierPart c = true := by
  cases cs with
  | nil => exact nomatch h
  | cons c cs =>
    simp only [isIdentifierText, Bool.and_eq_true, List.all_eq_true] at h
    refine List.forall_mem_cons.mpr ⟨?_, h.2⟩
    have hstart := h.1
    simp only [isIdentifierStart, Bool.or_eq_true] at hstart
    simp only [isIdentifierPart, Bool.or_eq_true]
    exact .inl (hstart.imp_left .inl)

theorem isLetter_of_isLower_toLower {c : Char} (h : c.toLower.isLower = true) : Text.isLetter c = true := by
  have hrange : ('A'.val ≤ c.val ∧ c.val ≤ 'Z'.val) ∨ ('a'.val ≤ c.val ∧ c.val ≤ 'z'.val) := by
    unfold Char.toLower at h
    split at h
    · next hupper => exact .inl hupper
    · obtain ⟨hfirst, hlast⟩ := Bool.and_eq_true_iff.mp h
      exact .inr ⟨of_decide_eq_true hfirst, of_decide_eq_true hlast⟩
  have hlt : c.toNat < 128 := by
    simp only [UInt32.le_iff_toNat_le] at hrange
    rcases hrange with hrange | hrange
    · exact Nat.lt_of_le_of_lt hrange.2 (by decide)
    · exact Nat.lt_of_le_of_lt hrange.2 (by decide)
  rw [Text.isLetter_ascii hlt]
  apply Bool.or_eq_true_iff.mpr
  rcases hrange with hrange | hrange
  · exact .inl (decide_eq_true hrange)
  · exact .inr (Bool.and_eq_true_iff.mpr ⟨decide_eq_true hrange.1, decide_eq_true hrange.2⟩)

/-- A word of small letters is an identifier in any letter case. -/
theorem isIdentifierText_of_map_toLower {cs word : List Char} (hne : word ≠ []) (hword : word.all Char.isLower = true)
    (h : cs.map Char.toLower = word) : isIdentifierText cs = true := by
  have hletter : ∀ c ∈ cs, Text.isLetter c = true := fun c hc =>
    isLetter_of_isLower_toLower (List.all_eq_true.mp hword _ (h ▸ List.mem_map_of_mem hc))
  cases cs with
  | nil => exact absurd h.symm hne
  | cons c cs =>
    obtain ⟨hfirst, hrest⟩ := List.forall_mem_cons.mp hletter
    simp only [isIdentifierText, isIdentifierStart, isIdentifierPart, Bool.and_eq_true, List.all_eq_true, hfirst,
      Bool.true_or, true_and]
    intro d hd
    rw [hrest d hd]
    rfl

/-- A mark that no identifier holds is not in one. -/
theorem not_mem_of_isIdentifier {name : String} {c : Char} (h : isIdentifier name = true)
    (hc : isIdentifierPart c = false) : c ∉ name.toList := fun hmem =>
  ne_of_isIdentifierPart (all_isIdentifierPart h c hmem) hc rfl

theorem ne_nil_of_isIdentifierText {cs : List Char} (h : isIdentifierText cs = true) : cs ≠ [] := by
  rintro rfl
  exact nomatch h

end TableQuery
