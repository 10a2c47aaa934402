import TableQuery.Proofs.Text.Nested

/-! Texts that close what they open.

A closed text may hold commas, quotes and brackets, as long as each quote and each bracket in it has its
partner there. What stands before it in a longer text does not reach into it, and it does not reach into
what follows: cutting a text at a comma behind a closed one cuts both apart (`split_append_comma`), and
between brackets it runs on whatever it holds (`IsClosed.runsFrom`). -/
namespace TableQuery.Text.Nested

/-- Read at the top and read inside one bracket, the text leads back to where it started. -/
def IsClosed (cs : List Char) : Prop :=
  cs.foldl State.step (.at 0) = .at 0 ∧ cs.foldl State.step (.at 1) = .at 1

instance (cs : List Char) : Decidable (IsClosed cs) := inferInstanceAs (Decidable (_ ∧ _))

/-! ### The same text deeper inside -/

/-- The state with more brackets open around it. -/
def State.deeper (s : State) (n : Nat) : State := { s with depth := s.depth + n }

/-- A character that one bracket more makes a difference to is read alike at every depth. The others close
a bracket that is not open. -/
theorem step_deeper {s : State} {c : Char} (h : (s.deeper 1).step c ≠ s.step c) (n : Nat) :
    (s.deeper n).step c = (s.step c).deeper n := by
  obtain ⟨depth, quoted, escaped⟩ := s
  by_cases hclose : escaped = false ∧ quoted = false ∧ (c = ')' ∨ c = '\x7d') ∧ depth = 0
  · obtain ⟨rfl, rfl, rfl | rfl, rfl⟩ := hclose <;> exact absurd rfl h
  · cases escaped
    · cases quoted
      · simp only [true_and, not_and] at hclose
        simp only [State.step, State.deeper, Bool.false_eq_true, if_false]
        split
        · rfl
        split
        · simp only [State.mk.injEq, and_true]
          omega
        split
        · next hbracket =>
          have hdepth := hclose hbracket
          simp only [State.mk.injEq, and_true]
          omega
        · rfl
      · simp only [State.step, State.deeper, Bool.false_eq_true, if_false, if_true]
        split
        · rfl
        split <;> rfl
    · rfl

theorem atTop_deeper_succ (s : State) (n : Nat) : (s.deeper (n + 1)).atTop = false := by
  simp [State.atTop, State.deeper]

/-- A text that one bracket more makes a difference to is read alike at every depth, and ends no part
inside. -/
theorem foldl_step_deeper {cs : List Char} {s : State}
    (h : cs.foldl State.step (s.deeper 1) ≠ cs.foldl State.step s) (n : Nat) :
    cs.foldl State.step (s.deeper n) = (cs.foldl State.step s).deeper n ∧
      ∀ rest, splitFrom (s.deeper (n + 1)) (cs ++ rest) =
        prepend cs (splitFrom ((cs.foldl State.step s).deeper (n + 1)) rest) := by
  induction cs generalizing s with
  | nil => exact ⟨rfl, fun _ => rfl⟩
  | cons c cs ih =>
    have hstep : (s.deeper 1).step c ≠ s.step c := by
      intro hsame
      rw [List.foldl_cons, List.foldl_cons, hsame] at h
      exact h rfl
    have hrest : cs.foldl State.step ((s.step c).deeper 1) ≠ cs.foldl State.step (s.step c) := by
      rwa [← step_deeper hstep]
    obtain ⟨hfold, hsplit⟩ := ih hrest
    refine ⟨?_, fun rest => ?_⟩
    · rw [List.foldl_cons, List.foldl_cons, step_deeper hstep, hfold]
    · have hinside : ¬(c = ',' ∧ (s.deeper (n + 1)).atTop = true) := by
        rw [atTop_deeper_succ]
        exact fun hend => nomatch hend.2
      rw [List.cons_append, splitFrom_cons hinside, step_deeper hstep, hsplit]
      rfl

namespace IsClosed
variable {a b cs : List Char}

theorem foldl_step_ne (h : IsClosed cs) :
    cs.foldl State.step ((State.at 0).deeper 1) ≠ cs.foldl State.step (.at 0) := by
  show cs.foldl State.step (.at 1) ≠ _
  rw [h.1, h.2]
  decide

theorem foldl_step (h : IsClosed cs) (depth : Nat) : cs.foldl State.step (.at depth) = .at depth := by
  have hdeep := (foldl_step_deeper h.foldl_step_ne depth).1
  have hat : (State.at 0).deeper depth = .at depth := by simp [State.deeper, State.at]
  rwa [h.1, hat] at hdeep

/-- Between brackets a closed text ends no part. -/
theorem runsFrom (h : IsClosed cs) : RunsFrom 1 cs := by
  intro depth hdepth rest
  obtain ⟨n, rfl⟩ : ∃ n, depth = n + 1 := ⟨depth - 1, by omega⟩
  have hsplit := (foldl_step_deeper h.foldl_step_ne n).2 rest
  have hat : (State.at 0).deeper (n + 1) = .at (n + 1) := by simp [State.deeper, State.at]
  rwa [h.1, hat] at hsplit

/-! ### Making closed texts -/

theorem nil : IsClosed [] := ⟨rfl, rfl⟩

theorem append (ha : IsClosed a) (hb : IsClosed b) : IsClosed (a ++ b) := by
  constructor
  · rw [List.foldl_append, ha.1, hb.1]
  · rw [List.foldl_append, ha.2, hb.2]

theorem of_safe (h : ∀ c ∈ cs, isSafe c = true) : IsClosed cs := by
  induction cs with
  | nil => exact nil
  | cons c cs ih =>
    obtain ⟨hc, hcs⟩ := List.forall_mem_cons.mp h
    obtain ⟨hrest0, hrest1⟩ := ih hcs
    constructor
    · rw [List.foldl_cons, (step_of_isSafe hc 0).1, hrest0]
    · rw [List.foldl_cons, (step_of_isSafe hc 1).1, hrest1]

theorem bracketed (h : IsClosed cs) : IsClosed ('(' :: (cs ++ [')'])) := by
  constructor
  · show (cs ++ [')']).foldl State.step (.at 1) = _
    rw [List.foldl_append, h.foldl_step]
    rfl
  · show (cs ++ [')']).foldl State.step (.at 2) = _
    rw [List.foldl_append, h.foldl_step]
    rfl

theorem intercalate {texts : List (List Char)} (h : ∀ t ∈ texts, IsClosed t) :
    IsClosed (List.intercalate [','] texts) := by
  induction texts with
  | nil => exact nil
  | cons t rest ih =>
    obtain ⟨ht, hrest⟩ := List.forall_mem_cons.mp h
    cases rest with
    | nil => rwa [List.intercalate_singleton]
    | cons u rest =>
      rw [List.intercalate_cons_cons]
      exact (ht.append (by decide)).append (ih hrest)

end IsClosed

/-! ### Cutting behind a closed text -/

theorem consHead_append (c : Char) {ps : List (List Char)} (h : ps ≠ []) (qs : List (List Char)) :
    consHead c (ps ++ qs) = consHead c ps ++ qs := by
  cases ps with
  | nil => exact absurd rfl h
  | cons p ps => rfl

theorem splitFrom_append_comma {a : List Char} {s : State} (h : a.foldl State.step s = .start)
    (b : List Char) : splitFrom s (a ++ ',' :: b) = splitFrom s a ++ split b := by
  induction a generalizing s with
  | nil =>
    obtain rfl : s = .start := h
    show splitFrom .start (',' :: b) = [] :: split b
    rw [splitFrom, if_pos ⟨rfl, rfl⟩]
    rfl
  | cons c a ih =>
    rw [List.foldl_cons] at h
    rw [List.cons_append, splitFrom, splitFrom]
    split
    · next hend =>
      -- A comma at the top leaves the state as it is.
      have hsame : s.step c = s := by
        obtain ⟨rfl, htop⟩ := hend
        simp only [State.atTop, Bool.and_eq_true, Bool.not_eq_true'] at htop
        simp [State.step, htop.1]
      rw [hsame] at h
      rw [ih h, List.cons_append]
    · rw [ih h, consHead_append c (splitFrom_ne_nil _ _)]

/-- **A comma behind a closed text** cuts it off with all its parts. -/
theorem split_append_comma {a : List Char} (h : IsClosed a) (b : List Char) :
    split (a ++ ',' :: b) = split a ++ split b :=
  splitFrom_append_comma h.1 b

theorem split_of_runsFrom {cs : List Char} (h : RunsFrom 0 cs) : split cs = [cs] := by
  have hend := h 0 (Nat.le_refl 0) []
  rw [List.append_nil] at hend
  rw [show split cs = splitFrom (.at 0) cs from rfl, hend]
  show prepend cs [[]] = _
  rw [prepend_cons, List.append_nil]

end TableQuery.Text.Nested
