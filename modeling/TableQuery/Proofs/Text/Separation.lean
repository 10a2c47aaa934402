import Mathlib.Data.List.Infix
import TableQuery.Proofs.Text.Nested

/-! When a list of written texts comes apart again.

A bracket that its place does not reserve may stand in a bare text. If nothing closes it there, the rest
of the list is read as nested in it, the next comma included, and two texts come back as one. So a list
comes apart at its commas exactly if each of its texts, the last one aside, is sealed: quoted, or without
an unclosed bracket (`length_split_written_iff`, `read_split_written_iff`). -/
namespace TableQuery.Text.Nested

/-! ### Brackets in a bare text -/

/-- The number of open brackets after a character outside quotes. -/
def nest (depth : Nat) (c : Char) : Nat :=
  if isOpening c then depth + 1 else if isClosing c then depth - 1 else depth

def openAfter (depth : Nat) (cs : List Char) : Nat := cs.foldl nest depth

/-- From no place in the text to its end are there more opening than closing brackets. -/
def LeavesNoneOpen (cs : List Char) : Prop :=
  ∀ tail ∈ cs.tails, tail.countP isOpening ≤ tail.countP isClosing

instance (cs : List Char) : Decidable (LeavesNoneOpen cs) :=
  inferInstanceAs (Decidable (∀ tail ∈ cs.tails, tail.countP isOpening ≤ tail.countP isClosing))

theorem leavesNoneOpen_cons (c : Char) (cs : List Char) :
    LeavesNoneOpen (c :: cs) ↔
      (c :: cs).countP isOpening ≤ (c :: cs).countP isClosing ∧ LeavesNoneOpen cs := by
  unfold LeavesNoneOpen
  rw [List.tails_cons, List.forall_mem_cons]

theorem LeavesNoneOpen.le {cs : List Char} (h : LeavesNoneOpen cs) :
    cs.countP isOpening ≤ cs.countP isClosing := h cs ((List.mem_tails cs cs).mpr List.suffix_rfl)

theorem isClosing_of_isOpening {c : Char} (h : isOpening c = true) : isClosing c = false := by
  simp only [isOpening, Bool.or_eq_true, beq_iff_eq] at h
  rcases h with rfl | rfl <;> decide

theorem openAfter_eq_zero (depth : Nat) (cs : List Char) :
    openAfter depth cs = 0 ↔
      depth + cs.countP isOpening ≤ cs.countP isClosing ∧ LeavesNoneOpen cs := by
  induction cs generalizing depth with
  | nil => simp [openAfter, LeavesNoneOpen]
  | cons c cs ih =>
    have hstep : openAfter depth (c :: cs) = openAfter (nest depth c) cs := rfl
    rw [hstep, ih, leavesNoneOpen_cons, ← and_assoc]
    -- A closing bracket with nothing to close does not pay for one that is opened later.
    refine and_congr_left fun hrest => ?_
    have hle := hrest.le
    rw [List.countP_cons, List.countP_cons]
    unfold nest
    by_cases ho : isOpening c = true
    · simp only [ho, isClosing_of_isOpening ho, if_true, Bool.false_eq_true, if_false]
      omega
    · by_cases hc : isClosing c = true
      · simp only [ho, hc, if_true, Bool.false_eq_true, if_false]
        omega
      · simp only [ho, hc, Bool.false_eq_true, if_false]
        omega

theorem openAfter_zero_eq_zero (cs : List Char) : openAfter 0 cs = 0 ↔ LeavesNoneOpen cs := by
  rw [openAfter_eq_zero, Nat.zero_add]
  exact ⟨fun h => h.2, fun h => ⟨h.le, h⟩⟩

theorem step_at {c : Char} (hquote : c ≠ '"') (depth : Nat) :
    (State.at depth).step c = .at (nest depth c) := by
  by_cases ho : isOpening c = true
  · simp only [isOpening, Bool.or_eq_true, beq_iff_eq] at ho
    rcases ho with rfl | rfl <;> rfl
  · by_cases hc : isClosing c = true
    · simp only [isClosing, Bool.or_eq_true, beq_iff_eq] at hc
      rcases hc with rfl | rfl <;> rfl
    · rw [nest, if_neg ho, if_neg hc]
      simp only [isOpening, isClosing, Bool.or_eq_true, beq_iff_eq] at ho hc
      simp [State.step, State.at, hquote, ho, hc]

/-- A text without commas and quotes ends no part, and leaves the brackets open that it leaves open. -/
theorem splitFrom_bare {cs : List Char} (h : ∀ c ∈ cs, c ≠ ',' ∧ c ≠ '"') (depth : Nat)
    (rest : List Char) :
    splitFrom (.at depth) (cs ++ rest) = prepend cs (splitFrom (.at (openAfter depth cs)) rest) := by
  induction cs generalizing depth with
  | nil => rfl
  | cons c cs ih =>
    obtain ⟨⟨hcomma, hquote⟩, hcs⟩ := List.forall_mem_cons.mp h
    rw [List.cons_append, splitFrom_cons (fun hend => hcomma hend.1), step_at hquote, ih hcs]
    rfl

/-! ### Written texts -/

/-- What is written of the text leaves no bracket open. -/
def IsSealed (reserved cs : List Char) : Prop :=
  Quoted.needsQuotes reserved cs = true ∨ LeavesNoneOpen cs

instance (reserved cs : List Char) : Decidable (IsSealed reserved cs) :=
  inferInstanceAs (Decidable (_ ∨ _))

/-- The texts as they stand in a list. -/
def written (reserved : List Char) (texts : List (List Char)) : List Char :=
  List.intercalate [','] (texts.map (Quoted.write reserved))

theorem written_cons_cons (reserved t u : List Char) (rest : List (List Char)) :
    written reserved (t :: u :: rest) =
      Quoted.write reserved t ++ ',' :: written reserved (u :: rest) := by
  show List.intercalate [','] (_ :: _ :: _) = _
  rw [List.intercalate_cons_cons, List.append_assoc, List.singleton_append]
  rfl

/-- The number of open brackets after a text as it is written. -/
def openAfterWritten (reserved : List Char) (depth : Nat) (cs : List Char) : Nat :=
  if Quoted.needsQuotes reserved cs then depth else openAfter depth cs

theorem openAfterWritten_zero_eq_zero (reserved cs : List Char) :
    openAfterWritten reserved 0 cs = 0 ↔ IsSealed reserved cs := by
  unfold openAfterWritten IsSealed
  cases Quoted.needsQuotes reserved cs
  · simpa using openAfter_zero_eq_zero cs
  · simp

theorem length_prepend (cs : List Char) {ps : List (List Char)} (h : ps ≠ []) :
    (prepend cs ps).length = ps.length := by
  cases ps with
  | nil => exact absurd rfl h
  | cons p ps => rw [prepend_cons, List.length_cons, List.length_cons]

section Written
variable {reserved : List Char} (hcomma : ',' ∈ reserved)
include hcomma

theorem splitFrom_write (depth : Nat) (cs rest : List Char) :
    splitFrom (.at depth) (Quoted.write reserved cs ++ rest) =
      prepend (Quoted.write reserved cs)
        (splitFrom (.at (openAfterWritten reserved depth cs)) rest) := by
  unfold openAfterWritten
  cases h : Quoted.needsQuotes reserved cs
  · rw [Quoted.write_eq_self h]
    obtain ⟨-, hsafe, -⟩ := Quoted.bare_of_needsQuotes h
    refine splitFrom_bare (fun c hc => ⟨?_, (hsafe c hc).2.1⟩) depth rest
    rintro rfl
    exact (hsafe _ hc).1 hcomma
  · rw [Quoted.write_eq_quoted h]
    exact runsFrom_quoted cs depth (Nat.zero_le depth) rest

/-- The text before a comma, whose part ends there if no bracket is open. -/
theorem splitFrom_write_comma (depth : Nat) (cs rest : List Char) :
    splitFrom (.at depth) (Quoted.write reserved cs ++ ',' :: rest) =
      if openAfterWritten reserved depth cs = 0 then
        Quoted.write reserved cs :: splitFrom (.at 0) rest
      else
        prepend (Quoted.write reserved cs ++ [','])
          (splitFrom (.at (openAfterWritten reserved depth cs)) rest) := by
  rw [splitFrom_write hcomma]
  split
  · next hzero =>
    rw [hzero, splitFrom, if_pos ⟨rfl, rfl⟩, prepend_cons, List.append_nil]
  · next hopen =>
    have hcomma := runsFrom_comma _ (Nat.pos_of_ne_zero hopen) rest
    rw [List.singleton_append] at hcomma
    rw [hcomma, prepend_append]

theorem length_splitFrom_written_le {texts : List (List Char)} (hne : texts ≠ []) (depth : Nat) :
    (splitFrom (.at depth) (written reserved texts)).length ≤ texts.length := by
  induction texts generalizing depth with
  | nil => exact absurd rfl hne
  | cons t rest ih =>
    cases rest with
    | nil =>
      have hend := splitFrom_write hcomma depth t []
      rw [List.append_nil] at hend
      show (splitFrom (.at depth) (List.intercalate [','] [Quoted.write reserved t])).length ≤ 1
      rw [List.intercalate_singleton, hend, length_prepend _ (splitFrom_ne_nil _ _)]
      exact Nat.le_refl 1
    | cons u rest =>
      have hrest := ih (List.cons_ne_nil u rest)
      rw [written_cons_cons, splitFrom_write_comma hcomma]
      split
      · exact Nat.succ_le_succ (hrest 0)
      · rw [length_prepend _ (splitFrom_ne_nil _ _)]
        exact Nat.le_succ_of_le (hrest _)

/-- Sealed texts come apart as they were written; the last one may leave a bracket open. -/
theorem split_written_of_isSealed {texts : List (List Char)} (hne : texts ≠ [])
    (h : ∀ t ∈ texts.dropLast, IsSealed reserved t) :
    split (written reserved texts) = texts.map (Quoted.write reserved) := by
  show splitFrom (.at 0) _ = _
  induction texts with
  | nil => exact absurd rfl hne
  | cons t rest ih =>
    cases rest with
    | nil =>
      have hend := splitFrom_write hcomma 0 t []
      rw [List.append_nil] at hend
      show splitFrom (.at 0) (List.intercalate [','] [Quoted.write reserved t]) = _
      rw [List.intercalate_singleton, hend]
      show prepend _ [[]] = _
      rw [prepend_cons, List.append_nil]
      rfl
    | cons u rest =>
      rw [List.dropLast_cons_cons, List.forall_mem_cons] at h
      rw [written_cons_cons, splitFrom_write_comma hcomma,
        if_pos ((openAfterWritten_zero_eq_zero reserved t).mpr h.1),
        ih (List.cons_ne_nil u rest) h.2]
      rfl

/-- An unsealed text before the last swallows a comma, and there is a part less. -/
theorem isSealed_of_length {texts : List (List Char)} (hne : texts ≠ [])
    (h : (split (written reserved texts)).length = texts.length) :
    ∀ t ∈ texts.dropLast, IsSealed reserved t := by
  replace h : (splitFrom (.at 0) (written reserved texts)).length = texts.length := h
  induction texts with
  | nil => exact absurd rfl hne
  | cons t rest ih =>
    cases rest with
    | nil => exact fun _ ht => nomatch ht
    | cons u rest =>
      have hle := length_splitFrom_written_le hcomma (List.cons_ne_nil u rest)
      rw [written_cons_cons, splitFrom_write_comma hcomma] at h
      rw [List.dropLast_cons_cons, List.forall_mem_cons]
      split at h
      · next hzero =>
        exact ⟨(openAfterWritten_zero_eq_zero reserved t).mp hzero,
          ih (List.cons_ne_nil u rest) (Nat.succ.inj h)⟩
      · rw [length_prepend _ (splitFrom_ne_nil _ _)] at h
        exact absurd (hle _) (by rw [h]; exact Nat.not_succ_le_self _)

/-- **Lists come apart at their commas** exactly if every text but the last is sealed. -/
theorem length_split_written_iff {texts : List (List Char)} (hne : texts ≠ []) :
    (split (written reserved texts)).length = texts.length ↔
      ∀ t ∈ texts.dropLast, IsSealed reserved t := by
  refine ⟨isSealed_of_length hcomma hne, fun h => ?_⟩
  rw [split_written_of_isSealed hcomma hne h, List.length_map]

/-- What is read of the parts is the texts again, under the same condition. -/
theorem read_split_written_iff {texts : List (List Char)} (hne : texts ≠ []) :
    (split (written reserved texts)).map (fun p => Quoted.read (trim p)) = texts ↔
      ∀ t ∈ texts.dropLast, IsSealed reserved t := by
  constructor
  · intro h
    exact isSealed_of_length hcomma hne (by rw [← congrArg List.length h, List.length_map])
  · intro h
    rw [split_written_of_isSealed hcomma hne h, List.map_map]
    refine (List.map_congr_left fun t _ => ?_).trans (List.map_id texts)
    show Quoted.read (trim (Quoted.write reserved t)) = t
    rw [show trim (Quoted.write reserved t) = _ from Quoted.isTrimmed_write reserved t,
      Quoted.read_write]

end Written
end TableQuery.Text.Nested
