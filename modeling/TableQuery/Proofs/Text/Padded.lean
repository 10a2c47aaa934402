import Mathlib.Data.List.Basic
import Mathlib.Data.List.Forall2
import Mathlib.Data.List.TakeWhile
import TableQuery.Proofs.Identifier
import TableQuery.Proofs.Text.Cut
import TableQuery.Proofs.Text.Quoted

/-! Texts with blanks around them.

A text is another one with blanks around it (`IsPadded`) exactly if trimming it gives that one, where it has no
blanks at its own ends (`trim_eq_iff`). Identifiers have none (`isTrimmed_of_isIdentifierText`), and neither have
texts put together from such (`IsTrimmed.append`). -/
namespace TableQuery.Text

/-- The text with blanks before and after it. -/
def IsPadded (core cs : List Char) : Prop :=
  ∃ before after, (∀ c ∈ before, isBlank c = true) ∧ (∀ c ∈ after, isBlank c = true) ∧ cs = before ++ core ++ after

variable {cs core a b : List Char}

theorem isBlank_of_isAsciiBlank {c : Char} (h : isAsciiBlank c = true) : isBlank c = true := by
  simp only [isAsciiBlank, Bool.or_eq_true, beq_iff_eq] at h
  rcases h with (((rfl | rfl) | rfl) | rfl) | rfl <;> decide

theorem not_isIdentifierPart_of_isBlank {c : Char} (h : isBlank c = true) : isIdentifierPart c = false := by
  cases hpart : isIdentifierPart c with
  | false => rfl
  | true =>
    rw [not_isBlank_of_isIdentifierPart hpart] at h
    exact nomatch h

theorem IsPadded.refl (core : List Char) : IsPadded core core := ⟨[], [], by simp, by simp, by simp⟩

theorem trim_blanks_append (h : ∀ c ∈ b, isBlank c = true) (cs : List Char) : trim (b ++ cs) = trim cs := by
  unfold trim trimWhile
  rw [List.dropWhile_append_of_pos h]

theorem trim_append_blanks (h : ∀ c ∈ a, isBlank c = true) (cs : List Char) : trim (cs ++ a) = trim cs := by
  have hreverse : ∀ c ∈ a.reverse, isBlank c = true := fun c hc => h c (List.mem_reverse.mp hc)
  have hall : a.dropWhile isBlank = [] := List.dropWhile_eq_nil_iff.mpr h
  unfold trim trimWhile
  rw [List.dropWhile_append]
  split
  · next hempty => rw [hall, List.isEmpty_iff.mp hempty]
  · rw [List.reverse_append, List.dropWhile_append_of_pos hreverse]

theorem isPadded_trim (cs : List Char) : IsPadded (trim cs) cs := by
  refine ⟨cs.takeWhile isBlank, ((cs.dropWhile isBlank).reverse.takeWhile isBlank).reverse, ?_, ?_, ?_⟩
  · exact fun c hc => List.mem_takeWhile_imp hc
  · exact fun c hc => List.mem_takeWhile_imp (List.mem_reverse.mp hc)
  · unfold trim trimWhile
    rw [List.append_assoc, ← List.reverse_append, List.takeWhile_append_dropWhile, List.reverse_reverse,
      List.takeWhile_append_dropWhile]

theorem IsPadded.trim_eq (h : IsPadded core cs) : trim cs = trim core := by
  obtain ⟨before, after, hbefore, hafter, rfl⟩ := h
  rw [trim_append_blanks hafter, trim_blanks_append hbefore]

theorem trim_eq_iff (h : IsTrimmed core) : trim cs = core ↔ IsPadded core cs :=
  ⟨fun heq => heq ▸ isPadded_trim cs, fun hpadded => hpadded.trim_eq.trans h⟩

/-- Trimmed texts with blanks around each are what trimming makes of the padded ones. -/
theorem forall₂_isPadded_iff {cores texts : List (List Char)} (h : ∀ core ∈ cores, IsTrimmed core) :
    List.Forall₂ IsPadded cores texts ↔ texts.map trim = cores := by
  constructor
  · intro hpadded
    induction hpadded with
    | nil => rfl
    | cons hfirst _ ih =>
      obtain ⟨hcore, hcores⟩ := List.forall_mem_cons.mp h
      rw [List.map_cons, (trim_eq_iff hcore).mpr hfirst, ih hcores]
  · rintro rfl
    exact List.forall₂_map_left_iff.mpr (List.forall₂_same.mpr fun t _ => isPadded_trim t)

/-! ### Trimmed texts -/

theorem IsTrimmed.first (h : IsTrimmed cs) {c : Char} (hc : cs.head? = some c) : isBlank c = false := by
  -- A blank in front would have been dropped.
  cases hb : isBlank c
  · rfl
  · obtain ⟨cs, rfl⟩ := List.head?_eq_some_iff.mp hc
    have htrim : trim cs = c :: cs := by
      rw [← trim_blanks_append (b := [c]) (by simpa using hb)]
      exact h
    obtain ⟨before, after, -, -, heq⟩ := isPadded_trim cs
    have hlength := congrArg List.length heq
    rw [htrim, List.length_append, List.length_append, List.length_cons] at hlength
    omega

/-- Whatever stands between two trimmed texts is within. -/
theorem IsTrimmed.around (ha : IsTrimmed a) (hane : a ≠ []) (hb : IsTrimmed b) (hbne : b ≠ []) (cs : List Char) :
    IsTrimmed (a ++ (cs ++ b)) := by
  apply isTrimmed_of_ends
  · intro c hc
    rw [List.head?_append_of_ne_nil a hane] at hc
    exact ha.first hc
  · intro c hc
    rw [← List.append_assoc, List.getLast?_append_of_ne_nil _ hbne] at hc
    exact hb.last hc

theorem IsTrimmed.append (ha : IsTrimmed a) (hb : IsTrimmed b) : IsTrimmed (a ++ b) := by
  by_cases hane : a = []
  · rwa [hane]
  by_cases hbne : b = []
  · rwa [hbne, List.append_nil]
  exact ha.around hane hb hbne []

theorem isTrimmed_of_isIdentifierText (h : isIdentifierText cs = true) : IsTrimmed cs := by
  have hblank : ∀ c ∈ cs, isBlank c = false := fun c hc =>
    not_isBlank_of_isIdentifierPart (all_isIdentifierPart h c hc)
  exact isTrimmed_of_ends (fun c hc => hblank c (List.mem_of_head? hc)) fun c hc =>
    hblank c (List.mem_of_getLast? hc)

/-! ### Cutting at a mark that is no blank -/

section
variable {sep : Char}

theorem not_mem_of_blanks (hsep : isBlank sep = false) (h : ∀ c ∈ cs, isBlank c = true) : sep ∉ cs := by
  intro hmem
  rw [h sep hmem] at hsep
  exact nomatch hsep

/-- The parts before and after the first mark, without blanks at their ends. -/
def cutTrimmed (sep : Char) (cs : List Char) : Option (List Char × List Char) :=
  (cut sep cs).map fun r => (trim r.1, trim r.2)

/-- The parts between marks, without blanks at their ends. -/
def piecesTrimmed (sep : Char) (cs : List Char) : List (List Char) := (pieces sep cs).map trim

theorem cutTrimmed_of_isPadded (hsep : isBlank sep = false) (h : IsPadded core cs) :
    cutTrimmed sep cs = cutTrimmed sep core := by
  obtain ⟨before, after, hbefore, hafter, rfl⟩ := h
  have hb := not_mem_of_blanks hsep hbefore
  have ha := not_mem_of_blanks hsep hafter
  unfold cutTrimmed
  by_cases hmem : sep ∈ core
  · obtain ⟨first, rest, rfl, hfirst⟩ := List.eq_append_cons_of_mem hmem
    have htext : before ++ (first ++ sep :: rest) ++ after = before ++ first ++ sep :: (rest ++ after) := by simp
    rw [htext, cut_append (by simp [hb, hfirst]), cut_append hfirst]
    simp [trim_blanks_append hbefore, trim_append_blanks hafter]
  · rw [cut_of_not_mem hmem, cut_of_not_mem (by simp [hb, hmem, ha])]

theorem piecesTrimmed_of_isPadded (hsep : isBlank sep = false) (h : IsPadded core cs) :
    piecesTrimmed sep cs = piecesTrimmed sep core := by
  obtain ⟨before, after, hbefore, hafter, rfl⟩ := h
  have hb := not_mem_of_blanks hsep hbefore
  have ha := not_mem_of_blanks hsep hafter
  -- Blanks in front come to the first part.
  have hfront (core : List Char) : piecesTrimmed sep (before ++ core) = piecesTrimmed sep core := by
    unfold piecesTrimmed
    by_cases hmem : sep ∈ core
    · obtain ⟨first, rest, rfl, hfirst⟩ := List.eq_append_cons_of_mem hmem
      rw [← List.append_assoc, pieces_append (by simp [hb, hfirst]), pieces_append hfirst, List.map_cons,
        List.map_cons, trim_blanks_append hbefore]
    · rw [pieces_of_not_mem hmem, pieces_of_not_mem (by simp [hb, hmem]), List.map_singleton, List.map_singleton,
        trim_blanks_append hbefore]
  rw [List.append_assoc, hfront]
  -- Blanks behind come to the last one.
  unfold piecesTrimmed
  by_cases hmem : sep ∈ core
  · obtain ⟨last, rest, hcore, hlast⟩ := List.eq_append_cons_of_mem (List.mem_reverse.mpr hmem)
    obtain rfl : core = rest.reverse ++ sep :: last.reverse := by
      rw [← List.reverse_reverse core, hcore]
      simp
    have hlast : sep ∉ last.reverse := by simpa using hlast
    have hlonger : pieces sep (last.reverse ++ after) = [last.reverse ++ after] :=
      pieces_of_not_mem (by simp [hlast, ha])
    rw [List.append_assoc, List.cons_append, pieces_append_sep, pieces_append_sep, hlonger,
      pieces_of_not_mem hlast, List.map_append, List.map_append, List.map_singleton, List.map_singleton,
      trim_append_blanks hafter]
  · rw [pieces_of_not_mem hmem, pieces_of_not_mem (by simp [hmem, ha]), List.map_singleton, List.map_singleton,
      trim_append_blanks hafter]

end

end TableQuery.Text
