import TableQuery.Text.Cut

/-! Texts put together with separators, and cut again.

A text without the separator is what a cut takes off (`cut_append`), texts without it come back from
their joined form (`pieces_intercalate`), and where two joined texts agree, parts with equally many
separators agree on either side of the next one (`append_cons_inj`). -/
namespace TableQuery.Text
variable {sep : Char}

/-- A text without the separator delays the cut. -/
theorem cut_append_left {a : List Char} (h : sep ∉ a) (b : List Char) :
    cut sep (a ++ b) = (cut sep b).map fun r => (a ++ r.1, r.2) := by
  induction a with
  | nil => simp
  | cons c a ih =>
    obtain ⟨hc, ha⟩ := not_or.mp (mt List.mem_cons.mpr h)
    rw [List.cons_append, cut, if_neg (Ne.symm hc), ih ha, Option.map_map]
    rfl

theorem cut_append {a : List Char} (h : sep ∉ a) (b : List Char) :
    cut sep (a ++ sep :: b) = some (a, b) := by
  rw [cut_append_left h, cut, if_pos rfl, Option.map_some, List.append_nil]

theorem cut_of_not_mem {cs : List Char} (h : sep ∉ cs) : cut sep cs = none := by
  simpa [cut] using cut_append_left h []

theorem exists_cut_of_mem {cs : List Char} (h : sep ∈ cs) : ∃ r, cut sep cs = some r := by
  induction cs with
  | nil => exact nomatch h
  | cons c cs ih =>
    rw [cut]
    split
    · exact ⟨_, rfl⟩
    · next hne =>
      obtain ⟨r, hr⟩ := ih ((List.mem_cons.mp h).resolve_left (Ne.symm hne))
      exact ⟨_, by rw [hr]; rfl⟩

theorem cut_eq_none_iff {cs : List Char} : cut sep cs = none ↔ sep ∉ cs := by
  refine ⟨fun h hmem => ?_, cut_of_not_mem⟩
  obtain ⟨r, hr⟩ := exists_cut_of_mem hmem
  rw [h] at hr
  exact nomatch hr

/-- A text without the first character of a word is not cut at that word. -/
theorem cutOn_append_of_not_mem {a : List Char} (h : sep ∉ a) (word b : List Char) :
    cutOn (sep :: word) (a ++ b) = (cutOn (sep :: word) b).map fun r => (a ++ r.1, r.2) := by
  induction a with
  | nil => simp
  | cons c a ih =>
    simp only [List.mem_cons, not_or] at h
    obtain ⟨hc, ha⟩ := h
    have hword : (sep :: word).isPrefixOf? (c :: (a ++ b)) = none := by
      show (if sep == c then word.isPrefixOf? (a ++ b) else none) = none
      rw [if_neg (by simpa using hc)]
    rw [List.cons_append, cutOn, hword, ih ha]
    simp [Function.comp_def]

theorem append_cons_inj {a a' b b' : List Char} (hcount : a.count sep = a'.count sep)
    (h : a ++ sep :: b = a' ++ sep :: b') : a = a' ∧ b = b' := by
  induction a generalizing a' with
  | nil =>
    cases a' with
    | nil => exact ⟨rfl, (List.cons.inj h).2⟩
    | cons c' a' =>
      obtain rfl : sep = c' := (List.cons.inj h).1
      rw [List.count_nil, List.count_cons_self] at hcount
      omega
  | cons c a ih =>
    cases a' with
    | nil =>
      obtain rfl : c = sep := (List.cons.inj h).1
      rw [List.count_nil, List.count_cons_self] at hcount
      omega
    | cons c' a' =>
      obtain ⟨rfl, htail⟩ := List.cons.inj h
      rw [List.count_cons, List.count_cons, Nat.add_right_cancel_iff] at hcount
      obtain ⟨rfl, rfl⟩ := ih hcount htail
      exact ⟨rfl, rfl⟩

theorem pieces_of_not_mem {cs : List Char} (h : sep ∉ cs) : pieces sep cs = [cs] := by
  induction cs with
  | nil => rfl
  | cons c cs ih =>
    simp only [List.mem_cons, not_or] at h
    obtain ⟨hc, hcs⟩ := h
    rw [pieces, if_neg (Ne.symm hc), ih hcs]

/-- The pieces on either side of a separator. -/
theorem pieces_append_sep (a b : List Char) : pieces sep (a ++ sep :: b) = pieces sep a ++ pieces sep b := by
  induction a with
  | nil => simp [pieces]
  | cons c a ih =>
    rw [List.cons_append, pieces, pieces, ih]
    split
    · rfl
    · cases hp : pieces sep a with
      | nil => exact absurd hp (pieces_ne_nil sep a)
      | cons p ps => rfl

theorem pieces_append {a : List Char} (h : sep ∉ a) (b : List Char) :
    pieces sep (a ++ sep :: b) = a :: pieces sep b := by
  rw [pieces_append_sep, pieces_of_not_mem h, List.singleton_append]

/-- A character of a piece is one of the text, and not the separator. -/
theorem of_mem_of_mem_pieces {c : Char} {cs t : List Char} (ht : t ∈ pieces sep cs) (hc : c ∈ t) :
    c ≠ sep ∧ c ∈ cs := by
  induction cs generalizing t with
  | nil => simp_all [pieces]
  | cons d cs ih =>
    unfold pieces at ht
    split at ht
    · rcases List.mem_cons.mp ht with rfl | ht
      · exact absurd hc List.not_mem_nil
      · exact (ih ht hc).imp_right (List.mem_cons_of_mem d)
    · next hd =>
      cases hp : pieces sep cs with
      | nil => exact absurd hp (pieces_ne_nil sep cs)
      | cons p ps =>
        rw [hp] at ht ih
        rcases List.mem_cons.mp ht with rfl | ht
        · rcases List.mem_cons.mp hc with rfl | hc
          · exact ⟨hd, List.mem_cons_self⟩
          · exact (ih List.mem_cons_self hc).imp_right (List.mem_cons_of_mem d)
        · exact (ih (List.mem_cons_of_mem p ht) hc).imp_right (List.mem_cons_of_mem d)

theorem cutLast_append {b : List Char} (h : sep ∉ b) (a : List Char) :
    cutLast sep (a ++ sep :: b) = some (a, b) := by
  have hcut : cut sep (b.reverse ++ sep :: a.reverse) = some (b.reverse, a.reverse) :=
    cut_append (by simpa using h) a.reverse
  unfold cutLast
  rw [List.reverse_append, List.reverse_cons, List.append_assoc, List.singleton_append, hcut]
  simp

theorem cutLast_of_not_mem {cs : List Char} (h : sep ∉ cs) : cutLast sep cs = none := by
  unfold cutLast
  rw [cut_of_not_mem (by simpa using h)]
  rfl

theorem pieces_intercalate {texts : List (List Char)} (hne : texts ≠ []) (h : ∀ t ∈ texts, sep ∉ t) :
    pieces sep (List.intercalate [sep] texts) = texts := by
  induction texts with
  | nil => exact absurd rfl hne
  | cons t rest ih =>
    obtain ⟨ht, hrest⟩ := List.forall_mem_cons.mp h
    cases rest with
    | nil => rw [List.intercalate_singleton, pieces_of_not_mem ht]
    | cons u rest =>
      rw [List.intercalate_cons_cons, List.append_assoc, List.singleton_append, pieces_append ht,
        ih (List.cons_ne_nil u rest) hrest]

theorem intercalate_concat {texts : List (List Char)} (hne : texts ≠ []) (t : List Char) :
    List.intercalate [sep] (texts ++ [t]) = List.intercalate [sep] texts ++ sep :: t := by
  induction texts with
  | nil => exact absurd rfl hne
  | cons first texts ih =>
    cases texts with
    | nil => simp
    | cons u texts =>
      rw [List.cons_append, List.cons_append, List.intercalate_cons_cons, ← List.cons_append,
        ih (List.cons_ne_nil u texts), List.intercalate_cons_cons]
      simp

/-- A character of a joined text is the separator or one of a text. -/
theorem mem_intercalate {c : Char} {texts : List (List Char)} (h : c ∈ List.intercalate [sep] texts) :
    c = sep ∨ ∃ t ∈ texts, c ∈ t := by
  induction texts with
  | nil => exact nomatch h
  | cons t rest ih =>
    cases rest with
    | nil =>
      rw [List.intercalate_singleton] at h
      exact .inr ⟨t, List.mem_cons_self, h⟩
    | cons u rest =>
      rw [List.intercalate_cons_cons, List.append_assoc, List.singleton_append, List.mem_append,
        List.mem_cons] at h
      rcases h with h | h | h
      · exact .inr ⟨t, List.mem_cons_self, h⟩
      · exact .inl h
      · exact (ih h).imp_right fun ⟨v, hv, hc⟩ => ⟨v, List.mem_cons_of_mem t hv, hc⟩

theorem not_mem_intercalate {c : Char} {texts : List (List Char)} (hc : c ≠ sep)
    (h : ∀ t ∈ texts, c ∉ t) : c ∉ List.intercalate [sep] texts := fun hmem =>
  (mem_intercalate hmem).elim hc fun ⟨t, ht, hct⟩ => h t ht hct

end TableQuery.Text
