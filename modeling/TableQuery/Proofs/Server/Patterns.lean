import Mathlib.Data.List.Forall2
import TableQuery.Server.Rows

/-! Patterns and the texts that are like them.

A text is like a pattern if it can be cut into one piece for each character of the pattern, each a piece that its
character stands for (`IsLike`). The server finds this out without cutting: it carries a flag for every place in the
text over the pattern, and keeps those set that the pattern read so far can end at (`Marks`). One character moves
them on as it should (`marks_likeStep`), hence so does the whole pattern (`marks_foldl`), and the last flag is the
answer (`like_iff`). -/
namespace TableQuery.Server
variable {text done : List Char} {flags : List Bool} {p : Char}

/-! ### Cutting a text by a pattern -/

/-- The pieces that a pattern's character stands for. -/
def Fits (p : Char) (piece : List Char) : Prop :=
  if p = '%' ∨ p = '*' then True
  else if p = '_' then piece.length = 1
  else piece = [p]

/-- The text can be cut into pieces, one for each character of the pattern, in order. -/
def IsLike (text pattern : List Char) : Prop :=
  ∃ pieces : List (List Char), pieces.flatten = text ∧ List.Forall₂ Fits pattern pieces

theorem fits_run (h : p = '%' ∨ p = '*') (piece : List Char) : Fits p piece := by
  rw [Fits, if_pos h]
  trivial

/-- A character that is no sign for a run stands for one character. -/
theorem fits_iff_of_not_run (h : ¬(p = '%' ∨ p = '*')) {piece : List Char} :
    Fits p piece ↔ ∃ c, piece = [c] ∧ (p = '_' ∨ p = c) := by
  rw [Fits, if_neg h]
  split
  · next hp => simp [List.length_eq_one_iff, hp]
  · next hp => simp [hp, eq_comm (a := p)]

theorem isLike_nil : IsLike text [] ↔ text = [] := by
  constructor
  · rintro ⟨pieces, rfl, hfits⟩
    cases hfits
    rfl
  · rintro rfl
    exact ⟨[], rfl, .nil⟩

/-- The piece of a pattern's last character is at the end of the text. -/
theorem isLike_concat :
    IsLike text (done ++ [p]) ↔ ∃ before piece, before ++ piece = text ∧ IsLike before done ∧ Fits p piece := by
  constructor
  · rintro ⟨pieces, rfl, hfits⟩
    rw [← List.forall₂_reverse_iff, List.reverse_append, List.reverse_singleton, List.singleton_append,
      List.forall₂_cons_left_iff] at hfits
    obtain ⟨piece, firsts, hpiece, hfirsts, hpieces⟩ := hfits
    obtain rfl : pieces = firsts.reverse ++ [piece] := by rw [← List.reverse_cons, ← hpieces, List.reverse_reverse]
    rw [← List.forall₂_reverse_iff, List.reverse_reverse] at hfirsts
    exact ⟨firsts.reverse.flatten, piece, by simp, ⟨_, rfl, hfirsts⟩, hpiece⟩
  · rintro ⟨-, piece, rfl, ⟨pieces, rfl, hfits⟩, hpiece⟩
    exact ⟨pieces ++ [piece], by simp, List.rel_append hfits (.cons hpiece .nil)⟩

/-- Up to a place, a sign for a run may follow what ends at any place before. -/
theorem isLike_take_concat_run (h : p = '%' ∨ p = '*') {j : Nat} :
    IsLike (text.take j) (done ++ [p]) ↔ ∃ i ≤ j, IsLike (text.take i) done := by
  rw [isLike_concat]
  constructor
  · rintro ⟨before, piece, hcut, hbefore, -⟩
    have hbegins : before <+: text.take j := ⟨piece, hcut⟩
    have hlength := hbegins.length_le
    rw [List.length_take] at hlength
    refine ⟨before.length, by omega, ?_⟩
    rwa [← List.prefix_iff_eq_take.mp (hbegins.trans (List.take_prefix j text))]
  · rintro ⟨i, hi, hlike⟩
    refine ⟨text.take i, (text.take j).drop i, ?_, hlike, fits_run h _⟩
    have hcut := List.take_append_drop i (text.take j)
    rwa [List.take_take, Nat.min_eq_left hi] at hcut

/-- Any other character takes one character of the text. -/
theorem isLike_take_succ_concat (h : ¬(p = '%' ∨ p = '*')) {j : Nat} (hj : j < text.length) :
    IsLike (text.take (j + 1)) (done ++ [p]) ↔ IsLike (text.take j) done ∧ (p = '_' ∨ p = text[j]) := by
  rw [isLike_concat, List.take_succ_eq_append_getElem hj]
  constructor
  · rintro ⟨before, piece, hcut, hbefore, hpiece⟩
    obtain ⟨c, rfl, hc⟩ := (fits_iff_of_not_run h).mp hpiece
    obtain ⟨rfl, hlast⟩ := List.append_inj' hcut rfl
    obtain rfl := List.singleton_inj.mp hlast
    exact ⟨hbefore, hc⟩
  · rintro ⟨hlike, hc⟩
    exact ⟨_, _, rfl, hlike, (fits_iff_of_not_run h).mpr ⟨_, rfl, hc⟩⟩

theorem not_isLike_nil_concat (h : ¬(p = '%' ∨ p = '*')) : ¬IsLike [] (done ++ [p]) := by
  rw [isLike_concat]
  rintro ⟨before, piece, hcut, -, hpiece⟩
  obtain ⟨c, rfl, -⟩ := (fits_iff_of_not_run h).mp hpiece
  exact absurd hcut (by simp)

/-! ### Flags -/

/-- There is a flag for every place in the text, set where the pattern can end. -/
structure Marks (text done : List Char) (flags : List Bool) : Prop where
  length : flags.length = text.length + 1
  marked : ∀ j (h : j < flags.length), flags[j] = true ↔ IsLike (text.take j) done

theorem length_fillFrom (seen : Bool) (bs : List Bool) : (fillFrom seen bs).length = bs.length := by
  induction bs generalizing seen with
  | nil => rfl
  | cons b bs ih => rw [fillFrom, List.length_cons, ih, List.length_cons]

theorem getElem_fillFrom {seen : Bool} {bs : List Bool} {j : Nat} (h : j < (fillFrom seen bs).length) :
    (fillFrom seen bs)[j] = true ↔ seen = true ∨ ∃ i, ∃ hi : i < bs.length, i ≤ j ∧ bs[i] = true := by
  induction bs generalizing seen j with
  | nil => exact absurd h (Nat.not_lt_zero j)
  | cons b bs ih =>
    have hfirst : (∃ i, ∃ hi : i < (b :: bs).length, i ≤ j ∧ (b :: bs)[i] = true) ↔
        b = true ∨ ∃ i, ∃ hi : i < bs.length, i + 1 ≤ j ∧ bs[i] = true := by
      constructor
      · rintro ⟨_ | i, hi, hij, hb⟩
        · exact .inl hb
        · exact .inr ⟨i, by simpa using hi, hij, by simpa using hb⟩
      · rintro (hb | ⟨i, hi, hij, hb⟩)
        · exact ⟨0, by simp, Nat.zero_le j, hb⟩
        · exact ⟨i + 1, by simpa using hi, hij, by simpa using hb⟩
    rw [hfirst, ← or_assoc, ← Bool.or_eq_true]
    cases j with
    | zero => simp [fillFrom]
    | succ j =>
      simp only [fillFrom, List.getElem_cons_succ]
      rw [ih]
      simp only [Nat.add_le_add_iff_right]

theorem marks_start (text : List Char) : Marks text [] (true :: text.map fun _ => false) where
  length := by simp
  marked j h := by
    rw [isLike_nil]
    cases j with
    | zero => simp
    | succ j =>
      have hne : text ≠ [] := by
        rintro rfl
        simp at h
      simp [hne]

/-- **One character of the pattern** moves the flags on to where it can end. -/
theorem marks_likeStep (h : Marks text done flags) (p : Char) :
    Marks text (done ++ [p]) (likeStep text flags p) := by
  unfold likeStep
  split
  · next hrun =>
    refine ⟨by rw [length_fillFrom, h.length], fun j hj => ?_⟩
    rw [getElem_fillFrom hj, isLike_take_concat_run hrun]
    rw [length_fillFrom] at hj
    constructor
    · rintro (hfalse | ⟨i, hi, hij, hflag⟩)
      · exact nomatch hfalse
      · exact ⟨i, hij, (h.marked i hi).mp hflag⟩
    · rintro ⟨i, hij, hlike⟩
      have hi : i < flags.length := Nat.lt_of_le_of_lt hij hj
      exact .inr ⟨i, hi, hij, (h.marked i hi).mpr hlike⟩
  · next hrun =>
    refine ⟨by simp [h.length], fun j hj => ?_⟩
    cases j with
    | zero => simpa using not_isLike_nil_concat hrun
    | succ j =>
      have hlength : j < flags.length ∧ j < text.length := by
        simp only [List.length_cons, List.length_zipWith] at hj
        omega
      rw [isLike_take_succ_concat hrun hlength.2, ← h.marked j hlength.1]
      simp

/-- **A whole pattern** leaves the flags set where it can end. -/
theorem marks_foldl (h : Marks text done flags) (pattern : List Char) :
    Marks text (done ++ pattern) (pattern.foldl (likeStep text) flags) := by
  induction pattern generalizing done flags with
  | nil => rwa [List.append_nil]
  | cons p pattern ih =>
    have hrest := ih (marks_likeStep h p)
    rwa [List.append_assoc, List.singleton_append] at hrest

theorem Marks.getLastD (h : Marks text done flags) : flags.getLastD false = true ↔ IsLike text done := by
  have hlast : text.length < flags.length := by
    rw [h.length]
    exact Nat.lt_succ_self _
  have hmarked := h.marked text.length hlast
  rw [List.take_length] at hmarked
  rw [← hmarked, List.getLastD_eq_getLast?, List.getLast?_eq_getElem?, h.length, Nat.add_sub_cancel,
    List.getElem?_eq_getElem hlast, Option.getD_some]

theorem like_iff (text pattern : List Char) : like text pattern = true ↔ IsLike text pattern :=
  (marks_foldl (marks_start text) pattern).getLastD

/-- **Patterns are exact.** A text passes if and only if it can be cut by the pattern; the test that takes no notice
of letter case goes by the small letters of both. -/
theorem patterns_exact :
    (∀ text pattern, like text pattern = true ↔ IsLike text pattern) ∧
      ∀ s pattern : String,
        (∃ hit, testLeaf (.str s) "like" pattern = .ok hit ∧
          (hit = true ↔ IsLike s.toList pattern.toList)) ∧
        ∃ hit, testLeaf (.str s) "ilike" pattern = .ok hit ∧
          (hit = true ↔ IsLike (Text.lower s.toList) (Text.lower pattern.toList)) :=
  ⟨like_iff, fun _ _ => ⟨⟨_, rfl, like_iff _ _⟩, ⟨_, rfl, like_iff _ _⟩⟩⟩

end TableQuery.Server
