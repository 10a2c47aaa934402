import TableQuery.Proofs.Text.Quoted
import TableQuery.Text.Nested

/-! What keeps together when a text is cut.

A text *runs from* a depth if reading it with at least so many brackets open, outside quotes, ends no part
and leads back to where it started (`RunsFrom`). Texts that run from depth zero are what a list may be made
of: cut at its commas, their list gives them back (`split_intercalate_of_runsFrom`). Such are texts without a comma, a
quote or a bracket (`runsFrom_of_safe`), quoted texts (`runsFrom_quoted`), and texts between brackets, in
which commas may stand too (`RunsFrom.bracketed`). -/
namespace TableQuery.Text.Nested

/-- Reading between the parts, with so many brackets open. -/
def State.at (depth : Nat) : State := ⟨depth, false, false⟩

/-- Puts a text in front of the first part. -/
def prepend (cs : List Char) (ps : List (List Char)) : List (List Char) := cs.foldr consHead ps

def RunsFrom (low : Nat) (cs : List Char) : Prop :=
  ∀ depth, low ≤ depth → ∀ rest,
    splitFrom (.at depth) (cs ++ rest) = prepend cs (splitFrom (.at depth) rest)

theorem prepend_append (a b : List Char) (ps : List (List Char)) :
    prepend (a ++ b) ps = prepend a (prepend b ps) := List.foldr_append

theorem prepend_cons (cs p : List Char) (ps : List (List Char)) :
    prepend cs (p :: ps) = (cs ++ p) :: ps := by
  induction cs with
  | nil => rfl
  | cons c cs ih =>
    show consHead c (prepend cs (p :: ps)) = _
    rw [ih]
    rfl

/-! ### Reading on -/

/-- A character that ends no part goes to the first one. -/
theorem splitFrom_cons {s : State} {c : Char} (h : ¬(c = ',' ∧ s.atTop = true)) (cs : List Char) :
    splitFrom s (c :: cs) = consHead c (splitFrom (s.step c) cs) := by
  rw [splitFrom, if_neg h]

theorem runsFrom_nil (low : Nat) : RunsFrom low [] := fun _ _ _ => rfl

theorem RunsFrom.append {low : Nat} {a b : List Char} (ha : RunsFrom low a) (hb : RunsFrom low b) :
    RunsFrom low (a ++ b) := by
  intro depth hdepth rest
  rw [List.append_assoc, ha depth hdepth, hb depth hdepth, prepend_append]

theorem RunsFrom.mono {low high : Nat} {cs : List Char} (h : RunsFrom low cs) (hle : low ≤ high) :
    RunsFrom high cs := fun depth hdepth rest => h depth (Nat.le_trans hle hdepth) rest

/-- Neither a comma nor a quote nor a bracket. -/
def isSafe (c : Char) : Bool := !([',', '"', '(', ')', '\x7b', '\x7d'].contains c)

theorem step_of_isSafe {c : Char} (h : isSafe c = true) (depth : Nat) :
    (State.at depth).step c = .at depth ∧ c ≠ ',' := by
  simp only [isSafe, List.contains_cons, Bool.not_eq_true', Bool.or_eq_false_iff, beq_eq_false_iff_ne,
    ne_eq] at h
  obtain ⟨hcomma, hquote, ho, hc, hobrace, hcbrace, -⟩ := h
  exact ⟨by simp [State.step, State.at, hquote, ho, hc, hobrace, hcbrace], hcomma⟩

theorem runsFrom_of_safe {cs : List Char} (h : ∀ c ∈ cs, isSafe c = true) : RunsFrom 0 cs := by
  induction cs with
  | nil => exact runsFrom_nil 0
  | cons c cs ih =>
    intro depth hdepth rest
    obtain ⟨hc, hcs⟩ := List.forall_mem_cons.mp h
    obtain ⟨hstep, hcomma⟩ := step_of_isSafe hc depth
    rw [List.cons_append, splitFrom_cons (fun hend => hcomma hend.1), hstep, ih hcs depth hdepth]
    rfl

theorem runsFrom_of_all {cs : List Char} (h : cs.all isSafe = true) : RunsFrom 0 cs :=
  runsFrom_of_safe (List.all_eq_true.mp h)

/-- Inside brackets a comma ends no part. -/
theorem runsFrom_comma : RunsFrom 1 [','] := by
  intro depth hdepth rest
  have htop : (State.at depth).atTop = false := by
    simp [State.atTop, State.at, Nat.ne_of_gt hdepth]
  rw [List.singleton_append, splitFrom_cons (fun hend => by rw [htop] at hend; exact nomatch hend.2)]
  rfl

/-! ### Quotes -/

/-- Inside quotes an escaped text leads back inside the quotes. -/
theorem splitFrom_escape (depth : Nat) (cs rest : List Char) :
    splitFrom ⟨depth, true, false⟩ (Quoted.escape cs ++ rest) =
      prepend (Quoted.escape cs) (splitFrom ⟨depth, true, false⟩ rest) := by
  have htop (s : State) (hs : s.quoted = true ∨ s.escaped = true) (c : Char) :
      ¬(c = ',' ∧ s.atTop = true) := by
    rintro ⟨-, ht⟩
    simp only [State.atTop, Bool.and_eq_true, Bool.not_eq_true'] at ht
    rcases hs with hs | hs
    · rw [ht.1.2] at hs
      exact nomatch hs
    · rw [ht.1.1] at hs
      exact nomatch hs
  induction cs with
  | nil => rfl
  | cons c cs ih =>
    unfold Quoted.escape
    split
    · show splitFrom _ ('\\' :: c :: (Quoted.escape cs ++ rest)) = _
      rw [splitFrom_cons (htop _ (.inl rfl) _), splitFrom_cons (htop _ (.inr rfl) _)]
      show consHead '\\' (consHead c (splitFrom ⟨depth, true, false⟩ _)) = _
      rw [ih]
      rfl
    · next hplain =>
      obtain ⟨hquote, hslash⟩ := not_or.mp hplain
      have hstep : (⟨depth, true, false⟩ : State).step c = ⟨depth, true, false⟩ := by
        simp [State.step, hquote, hslash]
      rw [List.cons_append, splitFrom_cons (htop _ (.inl rfl) _), hstep, ih]
      rfl

theorem runsFrom_quoted (cs : List Char) : RunsFrom 0 ('"' :: (Quoted.escape cs ++ ['"'])) := by
  intro depth _ rest
  rw [List.cons_append, splitFrom_cons (by rintro ⟨h, -⟩; exact absurd h (by decide)), List.append_assoc]
  show consHead '"' (splitFrom ⟨depth, true, false⟩ _) = _
  rw [splitFrom_escape, List.singleton_append,
    splitFrom_cons (by rintro ⟨h, -⟩; exact absurd h (by decide))]
  show consHead '"' (prepend _ (consHead '"' (splitFrom (.at depth) rest))) = _
  rw [← List.singleton_append (l := Quoted.escape cs ++ ['"']), prepend_append, prepend_append]
  rfl

/-! ### Brackets -/

def isOpening (c : Char) : Bool := c == '(' || c == '\x7b'

def isClosing (c : Char) : Bool := c == ')' || c == '\x7d'

theorem RunsFrom.bracketed {opening closing : Char} {body : List Char} (h : RunsFrom 1 body)
    (ho : isOpening opening = true) (hc : isClosing closing = true) :
    RunsFrom 0 (opening :: (body ++ [closing])) := by
  intro depth _ rest
  simp only [isOpening, isClosing, Bool.or_eq_true, beq_iff_eq] at ho hc
  have hopen : (State.at depth).step opening = .at (depth + 1) ∧ opening ≠ ',' := by
    rcases ho with rfl | rfl <;> exact ⟨rfl, by decide⟩
  have hclose : (State.at (depth + 1)).step closing = .at depth ∧ closing ≠ ',' := by
    rcases hc with rfl | rfl <;> exact ⟨rfl, by decide⟩
  rw [List.cons_append, splitFrom_cons (fun hend => hopen.2 hend.1), hopen.1, List.append_assoc,
    h (depth + 1) (Nat.le_add_left 1 depth), List.singleton_append,
    splitFrom_cons (fun hend => hclose.2 hend.1), hclose.1]
  show _ = consHead opening (prepend (body ++ [closing]) _)
  rw [prepend_append]
  rfl

/-! ### Lists -/

/-- A text that may stand between two commas. -/
structure IsPart (cs : List Char) : Prop where
  ne_nil : cs ≠ []
  isTrimmed : IsTrimmed cs
  runsFrom : RunsFrom 0 cs

theorem IsPart.trim_eq {cs : List Char} (h : IsPart cs) : trim cs = cs := h.isTrimmed

theorem isPart_of_safe {cs : List Char} (hne : cs ≠ [])
    (h : ∀ c ∈ cs, isSafe c = true ∧ isBlank c = false) : IsPart cs where
  ne_nil := hne
  isTrimmed := isTrimmed_of_ends (fun c hc => (h c (List.mem_of_head? hc)).2)
    (fun c hc => (h c (List.mem_of_getLast? hc)).2)
  runsFrom := runsFrom_of_safe fun c hc => (h c hc).1

theorem IsPart.prefixed {a b : List Char} {c : Char} (hc : isBlank c = false) (ha : RunsFrom 0 (c :: a))
    (hb : IsPart b) : IsPart (c :: a ++ b) where
  ne_nil := List.cons_ne_nil _ _
  isTrimmed := hb.isTrimmed.cons_append hb.ne_nil hc
  runsFrom := ha.append hb.runsFrom

theorem RunsFrom.isPart_bracketed {opening closing : Char} {body : List Char} (h : RunsFrom 1 body)
    (ho : isOpening opening = true) (hc : isClosing closing = true) :
    IsPart (opening :: (body ++ [closing])) := by
  have hends : isBlank opening = false ∧ isBlank closing = false := by
    simp only [isOpening, isClosing, Bool.or_eq_true, beq_iff_eq] at ho hc
    constructor
    · rcases ho with rfl | rfl <;> decide
    · rcases hc with rfl | rfl <;> decide
  refine ⟨List.cons_ne_nil _ _, ?_, h.bracketed ho hc⟩
  apply isTrimmed_of_ends
  · intro c hhead
    rw [← Option.some.inj hhead]
    exact hends.1
  · intro c hlast
    rw [← List.cons_append, List.getLast?_concat] at hlast
    rw [← Option.some.inj hlast]
    exact hends.2

/-- Parts in a row run inside brackets, commas between them. -/
theorem runsFrom_intercalate {parts : List (List Char)} (h : ∀ p ∈ parts, IsPart p) :
    RunsFrom 1 (List.intercalate [','] parts) := by
  induction parts with
  | nil => exact runsFrom_nil 1
  | cons p rest ih =>
    obtain ⟨hp, hrest⟩ := List.forall_mem_cons.mp h
    have hp := hp.runsFrom.mono (Nat.zero_le 1)
    cases rest with
    | nil => simpa using hp
    | cons q rest =>
      rw [List.intercalate_cons_cons]
      exact (hp.append runsFrom_comma).append (ih hrest)

/-- What was joined with commas is cut at them again, if each part leads back to the top. -/
theorem split_intercalate_of_runsFrom {parts : List (List Char)} (hne : parts ≠ [])
    (h : ∀ p ∈ parts, RunsFrom 0 p) : split (List.intercalate [','] parts) = parts := by
  show splitFrom (.at 0) _ = parts
  induction parts with
  | nil => exact absurd rfl hne
  | cons p rest ih =>
    obtain ⟨hp, hrest⟩ := List.forall_mem_cons.mp h
    cases rest with
    | nil =>
      have hend := hp 0 (Nat.le_refl 0) []
      rw [List.append_nil] at hend
      rw [List.intercalate_singleton, hend]
      show prepend p [[]] = _
      rw [prepend_cons, List.append_nil]
    | cons q rest =>
      rw [List.intercalate_cons_cons, List.append_assoc, hp 0 (Nat.le_refl 0), List.singleton_append]
      have hcut : splitFrom (.at 0) (',' :: List.intercalate [','] (q :: rest)) =
          [] :: splitFrom (.at 0) (List.intercalate [','] (q :: rest)) := by
        rw [splitFrom, if_pos ⟨rfl, rfl⟩]
      rw [hcut, ih (List.cons_ne_nil q rest) hrest, prepend_cons, List.append_nil]

theorem split_intercalate {parts : List (List Char)} (hne : parts ≠ []) (h : ∀ p ∈ parts, IsPart p) :
    split (List.intercalate [','] parts) = parts :=
  split_intercalate_of_runsFrom hne fun p hp => (h p hp).runsFrom

end TableQuery.Text.Nested
