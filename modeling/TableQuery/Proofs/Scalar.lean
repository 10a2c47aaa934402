import TableQuery.Proofs.Identifier
import TableQuery.Proofs.Text.Quoted
import TableQuery.Scalar

/-! Scalars inside lists and groups.

The wire text of a scalar that is no text consists of characters of identifiers and of dots
(`isWord_render`), so it needs no quotes. A text gets them where it has to, unless it holds a bracket that
its place does not reserve; without brackets, what is written of a scalar keeps together when the list it
stands in is cut (`isPart_renderQuoted`), and reads back as the scalar's own text (`read_renderQuoted`). -/
namespace TableQuery

/-- Characters of identifiers and numbers. -/
def isWordChar (c : Char) : Bool := isIdentifierPart c || c == '.'

/-- A text of such characters, and not the empty one. -/
def IsWord (cs : List Char) : Prop := cs ≠ [] ∧ ∀ c ∈ cs, isWordChar c = true

theorem isSafe_of_isWordChar {c : Char} (h : isWordChar c = true) : Text.Nested.isSafe c = true := by
  simp only [isWordChar, Bool.or_eq_true, beq_iff_eq] at h
  rcases h with h | rfl
  · exact isSafe_of_isIdentifierPart h
  · decide

theorem not_isBlank_of_isWordChar {c : Char} (h : isWordChar c = true) : Text.isBlank c = false := by
  simp only [isWordChar, Bool.or_eq_true, beq_iff_eq] at h
  rcases h with h | rfl
  · exact not_isBlank_of_isIdentifierPart h
  · decide

theorem isWordChar_of_isDigit {c : Char} (h : c.isDigit = true) : isWordChar c = true := by
  simp [isWordChar, isIdentifierPart_of_isDigit h]

namespace IsWord
variable {cs : List Char}

theorem isPart (h : IsWord cs) : Text.Nested.IsPart cs :=
  Text.Nested.isPart_of_safe h.1 fun c hc =>
    ⟨isSafe_of_isWordChar (h.2 c hc), not_isBlank_of_isWordChar (h.2 c hc)⟩

theorem read_eq (h : IsWord cs) : Text.Quoted.read cs = cs := by
  apply Text.Quoted.read_of_head?
  intro hhead
  exact absurd (h.2 '"' (List.mem_of_head? hhead)) (by decide)

end IsWord

/-! ### Numbers -/

theorem isWord_toDigits (n : Nat) : IsWord (Nat.toDigits 10 n) :=
  ⟨Nat.toDigits_ne_nil, fun _ hc =>
    isWordChar_of_isDigit (Nat.isDigit_of_mem_toDigits (by decide) (by decide) hc)⟩

theorem isWord_of_all {cs : List Char} (hne : cs ≠ []) (h : cs.all isWordChar = true) : IsWord cs :=
  ⟨hne, List.all_eq_true.mp h⟩

theorem isWord_cons {c : Char} {cs : List Char} (hc : isWordChar c = true)
    (h : ∀ d ∈ cs, isWordChar d = true) : IsWord (c :: cs) :=
  ⟨List.cons_ne_nil c cs, List.forall_mem_cons.mpr ⟨hc, h⟩⟩

theorem isWord_int (n : Int) : IsWord (toString n).toList := by
  rw [Int.toString_eq_repr, Int.repr_eq_if]
  split
  · rw [Nat.toList_repr]
    exact isWord_toDigits _
  · rw [String.toList_append, Nat.toList_repr]
    exact isWord_cons (by decide) (isWord_toDigits _).2

theorem isWordChar_of_mem_zeros {n : Nat} {c : Char} (h : c ∈ Decimal.zeros n) : isWordChar c = true := by
  rw [List.eq_of_mem_replicate h]
  decide

theorem isWord_layoutPlain (f : Decimal.Format) {digits : List Char} (h : IsWord digits) (point : Int) :
    IsWord (Decimal.layoutPlain f digits point) := by
  have happend {a b : List Char} (ha : IsWord a) (hb : ∀ c ∈ b, isWordChar c = true) : IsWord (a ++ b) :=
    ⟨List.append_ne_nil_of_left_ne_nil ha.1 b, List.forall_mem_append.mpr ⟨ha.2, hb⟩⟩
  unfold Decimal.layoutPlain
  split
  · refine happend (happend (isWord_of_all (by decide) (by decide)) fun c hc => ?_) h.2
    exact isWordChar_of_mem_zeros hc
  · split
    · refine happend (happend h fun c hc => isWordChar_of_mem_zeros hc) ?_
      split <;> exact List.all_eq_true.mp (by decide)
    · refine ⟨by simp, fun c hc => ?_⟩
      rcases List.mem_append.mp hc with hc | hc
      · rcases List.mem_append.mp hc with hc | hc
        · exact h.2 c (List.mem_of_mem_take hc)
        · rw [List.mem_singleton.mp hc]
          decide
      · exact h.2 c (List.mem_of_mem_drop hc)

theorem isWord_float (x : Float) : IsWord (Scalar.floatFormat.render x).toList := by
  have hmagnitude (bits : UInt64) : IsWord (Scalar.floatFormat.magnitude bits) := by
    show IsWord (if (Decimal.Binary.ofBits bits).m = 0 then ['0']
      else Decimal.layoutPlain Scalar.floatFormat (Nat.toDigits 10 _) _)
    split
    · exact isWord_of_all (by decide) (by decide)
    · exact isWord_layoutPlain _ (isWord_toDigits _) _
  have hnumber : IsWord (if x.isInf then Scalar.floatFormat.infinity.toList
      else Scalar.floatFormat.magnitude x.toBits) := by
    split
    · exact isWord_of_all (by decide) (by decide)
    · exact hmagnitude _
  unfold Decimal.Format.render
  split
  · exact isWord_of_all (by decide) (by decide)
  · rw [String.toList_ofList]
    split
    · exact isWord_cons (by decide) hnumber.2
    · exact hnumber

namespace Scalar

theorem isWord_render {s : Scalar} (h : s.isText = false) : IsWord s.render.toList := by
  cases s with
  | null => exact isWord_of_all (by decide) (by decide)
  | bool b => cases b <;> exact isWord_of_all (by decide) (by decide)
  | int n => exact isWord_int _
  | float x => exact isWord_float x
  | text s => exact nomatch h

/-! ### Quoted where it has to be -/

/-- A text with no bracket in it, or a scalar that is not a text. -/
def HasNoBracket (s : Scalar) : Prop :=
  s.isText = true → ∀ c ∈ s.render.toList, c ∉ ['(', ')', '{', '}']

theorem hasNoBracket_of_not_text {s : Scalar} (h : s.isText = false) : s.HasNoBracket := fun htext =>
  absurd (h.symm.trans htext) Bool.false_ne_true

/-- What is written of a scalar: its text where the scalar is one, quoted if need be, or its word. -/
theorem renderQuoted_cases (reserved : List Char) (s : Scalar) :
    (s.isText = true ∧ (s.renderQuoted reserved).toList = Text.Quoted.write reserved s.render.toList) ∨
      (IsWord s.render.toList ∧ (s.renderQuoted reserved).toList = s.render.toList) := by
  cases s with
  | text s => exact .inl ⟨rfl, String.toList_ofList⟩
  | null => exact .inr ⟨isWord_render rfl, rfl⟩
  | bool b => exact .inr ⟨isWord_render rfl, rfl⟩
  | int n => exact .inr ⟨isWord_render rfl, rfl⟩
  | float x => exact .inr ⟨isWord_render rfl, rfl⟩

theorem read_renderQuoted (reserved : List Char) (s : Scalar) :
    Text.Quoted.read (s.renderQuoted reserved).toList = s.render.toList := by
  rcases renderQuoted_cases reserved s with ⟨-, h⟩ | ⟨hword, h⟩ <;> rw [h]
  · exact Text.Quoted.read_write ..
  · exact hword.read_eq

/-- The brackets in a text are characters that its place reserves; or the scalar is not a text. -/
def ReservesBrackets (reserved : List Char) (s : Scalar) : Prop :=
  s.isText = true → ∀ c ∈ s.render.toList, c ∈ ['(', ')', '{', '}'] → c ∈ reserved

theorem HasNoBracket.reservesBrackets {s : Scalar} (hs : s.HasNoBracket) (reserved : List Char) :
    s.ReservesBrackets reserved := fun htext c hc hbracket => absurd hbracket (hs htext c hc)

/-- A text is quoted for a bracket that its place reserves, and for a comma. -/
theorem isPart_renderQuoted_of_reserved {reserved : List Char} (hcomma : ',' ∈ reserved) {s : Scalar}
    (hs : s.ReservesBrackets reserved) : Text.Nested.IsPart (s.renderQuoted reserved).toList := by
  rcases renderQuoted_cases reserved s with ⟨htext, h⟩ | ⟨hword, h⟩ <;> rw [h]
  · refine ⟨Text.Quoted.write_ne_nil _ _, Text.Quoted.isTrimmed_write _ _, ?_⟩
    cases hq : Text.Quoted.needsQuotes reserved s.render.toList
    · rw [Text.Quoted.write_eq_self hq]
      obtain ⟨-, hsafe, -⟩ := Text.Quoted.bare_of_needsQuotes hq
      refine Text.Nested.runsFrom_of_safe fun c hc => ?_
      obtain ⟨hreserved, hquote, -⟩ := hsafe c hc
      have hne : c ≠ ',' := by
        rintro rfl
        exact hreserved hcomma
      have hbracket : c ∉ ['(', ')', '{', '}'] := fun hmem => hreserved (hs htext c hc hmem)
      simp only [List.mem_cons, List.not_mem_nil, or_false, not_or] at hbracket
      simp [Text.Nested.isSafe, hne, hquote, hbracket]
    · rw [Text.Quoted.write_eq_quoted hq]
      exact Text.Nested.runsFrom_quoted _
  · exact hword.isPart

theorem isPart_renderQuoted {reserved : List Char} (hcomma : ',' ∈ reserved) {s : Scalar}
    (hs : s.HasNoBracket) : Text.Nested.IsPart (s.renderQuoted reserved).toList :=
  isPart_renderQuoted_of_reserved hcomma (hs.reservesBrackets reserved)

end Scalar
end TableQuery
