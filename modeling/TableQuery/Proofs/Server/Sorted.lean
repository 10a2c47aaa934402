import TableQuery.Proofs.Server.CellOrder

/-! Rows in the order of their cells.

Terms compare rows as a lawful order does, whatever finite cells the rows have (`IsOrderOn`,
`isOrderOn_of_isFinite`). Sorted, the rows are in that order, and those that tie are as they were
(`pairwise_sortRows_isLE`, `filter_sortRows`); what this comes to, term by term, is `sortRows_stable`. If no two rows
tie, the rows behind one of them are those that come after it in the sorted list (`sortRows_behind`). -/
namespace TableQuery.Server
variable {terms : List OrderTerm} {rows kept : List Row} {column : String}

/-! ### Terms that order rows -/

/-- The terms do not tell two rows apart. -/
def Row.TiesOn (terms : List OrderTerm) (a b : Row) : Prop :=
  ∀ t ∈ terms, t.compare (a.cell t.column) (b.cell t.column) = .eq

instance (terms : List OrderTerm) (a b : Row) : Decidable (a.TiesOn terms b) :=
  inferInstanceAs (Decidable (∀ t ∈ terms, _))

theorem compareRows_eq_eq {a b : Row} : compareRows terms a b = .eq ↔ a.TiesOn terms b := by
  unfold Row.TiesOn
  induction terms with
  | nil => exact iff_of_true rfl nofun
  | cons t terms ih => rw [compareRows, Ordering.then_eq_eq, ih, List.forall_mem_cons]

theorem compareRows_append (terms others : List OrderTerm) (a b : Row) :
    compareRows (terms ++ others) a b = (compareRows terms a b).then (compareRows others a b) := by
  induction terms with
  | nil => rfl
  | cons t terms ih => rw [List.cons_append, compareRows, compareRows, ih, Ordering.then_assoc]

/-- On these rows the comparison is a lawful order. -/
def IsOrderOn (compare : Row → Row → Ordering) (rows : List Row) : Prop :=
  ∃ cmp : Row → Row → Ordering, Std.TransCmp cmp ∧ ∀ a ∈ rows, ∀ b ∈ rows, compare a b = cmp a b

/-- Terms order the rows in which their columns are finite. -/
theorem isOrderOn_of_isFinite (h : ∀ t ∈ terms, ∀ row ∈ rows, (row.cell t.column).IsFinite) :
    IsOrderOn (compareRows terms) rows := by
  induction terms with
  | nil => exact ⟨compareOn fun _ => (0 : Nat), inferInstance, fun _ _ _ _ => rfl⟩
  | cons t terms ih =>
    obtain ⟨ht, hterms⟩ := List.forall_mem_cons.mp h
    obtain ⟨next, hnext, hnextEq⟩ := ih hterms
    refine ⟨compareLex (Ordering.byKey (·.cell t.column) t.order) next, inferInstance, fun a ha b hb => ?_⟩
    exact congrArg₂ Ordering.then (t.compare_eq (ht a ha) (ht b hb)) (hnextEq a ha b hb)

theorem KeyColumn.isFinite (h : KeyColumn column rows) : ∀ row ∈ rows, (row.cell column).IsFinite := by
  intro row hrow
  rcases h with h | h
  · obtain ⟨s, hs, -⟩ := h row hrow
    exact hs ▸ trivial
  · obtain ⟨n, hn, hle⟩ := h row hrow
    exact hn ▸ Json.isFinite_int hle

theorem IsOrderOn.mono {compare : Row → Row → Ordering} (h : IsOrderOn compare rows)
    (hsub : ∀ row ∈ kept, row ∈ rows) : IsOrderOn compare kept := by
  obtain ⟨cmp, hcmp, heq⟩ := h
  exact ⟨cmp, hcmp, fun a ha b hb => heq a (hsub a ha) b (hsub b hb)⟩

/-! ### Sorted rows -/

theorem sortRows_perm (terms : List OrderTerm) (rows : List Row) : (sortRows terms rows).Perm rows :=
  List.mergeSort_perm rows _

theorem sortRows_congr {cmp : Row → Row → Ordering} (h : ∀ a ∈ rows, ∀ b ∈ rows, compareRows terms a b = cmp a b) :
    sortRows terms rows = rows.mergeSort fun a b => (cmp a b).isLE := by
  have hmap := List.map_mergeSort (f := id) (l := rows) (r := fun a b => (compareRows terms a b).isLE)
    (s := fun a b => (cmp a b).isLE) fun a ha b hb => congrArg Ordering.isLE (h a ha b hb)
  rwa [List.map_id, List.map_id] at hmap

theorem isLE_total {α : Type} {cmp : α → α → Ordering} [Std.OrientedCmp cmp] (a b : α) :
    ((cmp a b).isLE || (cmp b a).isLE) = true := by
  rw [@Std.OrientedCmp.eq_swap _ cmp _ b]
  cases cmp a b <;> rfl

/-- Rows come in the order of the terms. -/
theorem pairwise_sortRows_isLE (h : IsOrderOn (compareRows terms) rows) :
    (sortRows terms rows).Pairwise fun a b => (compareRows terms a b).isLE = true := by
  obtain ⟨cmp, hcmp, heq⟩ := h
  have hsorted : (rows.mergeSort fun a b => (cmp a b).isLE).Pairwise fun a b => (cmp a b).isLE = true :=
    List.pairwise_mergeSort (fun a b c => Std.TransCmp.isLE_trans) isLE_total rows
  rw [← sortRows_congr heq] at hsorted
  refine hsorted.imp_of_mem fun {a b} ha hb hle => ?_
  rwa [heq a ((sortRows_perm terms rows).mem_iff.mp ha) b ((sortRows_perm terms rows).mem_iff.mp hb)]

/-- Rows that tie with one keep their order. -/
theorem filter_sortRows (h : IsOrderOn (compareRows terms) rows) {r : Row} (hr : r ∈ rows) :
    (sortRows terms rows).filter (r.TiesOn terms ·) = rows.filter (r.TiesOn terms ·) := by
  obtain ⟨tied, htied⟩ : ∃ tied, tied = rows.filter (r.TiesOn terms ·) := ⟨_, rfl⟩
  obtain ⟨cmp, hcmp, heq⟩ := h
  have hties : ∀ row ∈ tied, cmp r row = .eq := by
    intro row hrow
    obtain ⟨hmem, htie⟩ := List.mem_filter.mp (htied ▸ hrow)
    rw [← heq r hr row hmem, compareRows_eq_eq]
    exact of_decide_eq_true htie
  have hpairwise : tied.Pairwise fun a b => (cmp a b).isLE = true :=
    List.pairwise_of_forall_mem_list fun a ha b hb => by
      rw [Std.TransCmp.eq_trans (Std.OrientedCmp.eq_symm (hties a ha)) (hties b hb)]
      rfl
  -- Being in order and among the rows, they are among the sorted rows as they are.
  have hsub : tied.Sublist (sortRows terms rows) := by
    rw [sortRows_congr heq]
    exact List.sublist_mergeSort (fun a b c => Std.TransCmp.isLE_trans) isLE_total hpairwise
      (htied ▸ List.filter_sublist)
  have hkept := hsub.filter (r.TiesOn terms ·)
  simp only [htied, List.filter_filter, Bool.and_self] at hkept
  exact (hkept.eq_of_length ((sortRows_perm terms rows).filter _).length_eq.symm).symm

/-- Rows that the terms tell apart come strictly one after the other. -/
theorem pairwise_sortRows (h : IsOrderOn (compareRows terms) rows)
    (hdistinct : rows.Pairwise fun a b => compareRows terms a b ≠ .eq) :
    (sortRows terms rows).Pairwise fun a b => compareRows terms a b = .lt := by
  have hsorted := pairwise_sortRows_isLE h
  obtain ⟨cmp, hcmp, heq⟩ := h
  have hmem {row : Row} (hrow : row ∈ sortRows terms rows) : row ∈ rows :=
    (sortRows_perm terms rows).mem_iff.mp hrow
  have hsymm {a b : Row} (hne : cmp a b ≠ .eq) : cmp b a ≠ .eq := fun h =>
    hne (Std.OrientedCmp.eq_comm.mp h)
  have hapart : rows.Pairwise fun a b => cmp a b ≠ .eq :=
    hdistinct.imp_of_mem fun ha hb hne => heq _ ha _ hb ▸ hne
  have hboth := hsorted.and (((sortRows_perm terms rows).pairwise_iff hsymm).mpr hapart)
  refine hboth.imp_of_mem fun {a b} ha hb hab => ?_
  obtain ⟨hle, hne⟩ := hab
  rw [← heq a (hmem ha) b (hmem hb)] at hne
  revert hle hne
  cases compareRows terms a b <;> simp

/-- One cell may stand before the other: if it alone is null, where nulls come first, if the other one is, where
nulls come last, and else if it is not beyond the other in the direction of the term. -/
def OrderTerm.Admits (t : OrderTerm) (a b : Json) : Prop :=
  match a.isNull, b.isNull with
  | true, true => True
  | true, false => t.nullsFirst = true
  | false, true => t.nullsFirst = false
  | false, false => compareCells a b ≠ if t.descending then .lt else .gt

theorem OrderTerm.isLE_compare (t : OrderTerm) {a b : Json} : (t.compare a b).isLE = true ↔ t.Admits a b := by
  unfold OrderTerm.compare OrderTerm.Admits
  cases a.isNull <;> cases b.isNull
  · cases t.descending <;> cases compareCells a b <;> simp
  · cases t.nullsFirst <;> simp
  · cases t.nullsFirst <;> simp
  · simp

/-- **Rows are sorted, and those that tie stay in their order.** Each term puts cells of all kinds into an order, in
which a cell ties with itself, a comparison turns round with its sides, and what is not beyond a second cell that is
not beyond a third is not beyond the third; finite numbers are in their own. All rows are there, any two of them as
the first term that tells them apart admits it, and those that tie with a row come as they did. -/
theorem sortRows_stable :
    (∀ t : OrderTerm, Std.TransCmp fun a b : { cell : Json // cell.IsFinite } => t.compare a b) ∧
      (∀ x y : Number, (Json.num x).IsFinite → (Json.num y).IsFinite →
        compareCells (.num x) (.num y) = compare x.value y.value) ∧
      ∀ (terms : List OrderTerm) (rows : List Row), (∀ t ∈ terms, ∀ row ∈ rows, (row.cell t.column).IsFinite) →
        (sortRows terms rows).Perm rows ∧
          (sortRows terms rows).Pairwise (fun a b => ∀ before t after, terms = before ++ t :: after →
            a.TiesOn before b → t.Admits (a.cell t.column) (b.cell t.column)) ∧
          ∀ row ∈ rows, (sortRows terms rows).filter (row.TiesOn terms ·) = rows.filter (row.TiesOn terms ·) := by
  refine ⟨fun t => ?_, fun x y => compareCells_num, fun terms rows h => ?_⟩
  · have hcompare : (fun a b : { cell : Json // cell.IsFinite } => t.compare a b) =
        Ordering.byKey Subtype.val t.order :=
      funext fun a => funext fun b => t.compare_eq a.2 b.2
    rw [hcompare]
    infer_instance
  · have horder := isOrderOn_of_isFinite h
    refine ⟨sortRows_perm terms rows, (pairwise_sortRows_isLE horder).imp fun {a b} hle => ?_, fun row hrow => ?_⟩
    · rintro before t after rfl hties
      rw [compareRows_append, compareRows_eq_eq.mpr hties] at hle
      exact t.isLE_compare.mp (Ordering.isLE_left_of_isLE_then hle)
    · exact filter_sortRows horder hrow

/-- A number twice, a text and null in a column. -/
def mixedRows : List Row :=
  [[("id", .ofInt 1), ("v", .num (.int 2))], [("id", .ofInt 2), ("v", .str "a")], [("id", .ofInt 3), ("v", .null)],
    [("id", .ofInt 4), ("v", .num (.int 2))]]

/-- The greatest first and null last, the number stays in front of its like. -/
theorem sortRows_mixedRows :
    let terms : List OrderTerm := [⟨"v", true, false⟩]
    let sorted : List Row := [[("id", .ofInt 1), ("v", .num (.int 2))], [("id", .ofInt 4), ("v", .num (.int 2))],
      [("id", .ofInt 2), ("v", .str "a")], [("id", .ofInt 3), ("v", .null)]]
    (∀ t ∈ terms, ∀ row ∈ mixedRows, (row.cell t.column).IsFinite) ∧ sortRows terms mixedRows = sorted ∧
      sorted.Perm mixedRows ∧
      sorted.Pairwise (fun a b => ∀ before t after, terms = before ++ t :: after →
        a.TiesOn before b → t.Admits (a.cell t.column) (b.cell t.column)) ∧
      ∀ row ∈ mixedRows, sorted.filter (row.TiesOn terms ·) = mixedRows.filter (row.TiesOn terms ·) := by
  intro terms sorted
  have htwo : (Json.num (.int 2)).IsFinite := Json.isFinite_int (by decide)
  have hcells : ∀ t ∈ terms, ∀ row ∈ mixedRows, (row.cell t.column).IsFinite := by
    simp only [terms, mixedRows, List.forall_mem_cons]
    exact ⟨⟨htwo, trivial, trivial, htwo, nofun⟩, nofun⟩
  have hsame : compareCells (.num (.int 2)) (.num (.int 2)) = .eq := by
    rw [compareCells_eq htwo htwo]
    exact Std.ReflCmp.compare_self
  have hkinds : compareCells (.num (.int 2)) (.str "a") = .gt :=
    compareCells_of_rank_ne htwo trivial (by decide)
  have hkinds' : compareCells (.str "a") (.num (.int 2)) = .lt :=
    compareCells_of_rank_ne trivial htwo (by decide)
  have hsorted : sortRows terms mixedRows = sorted := by
    simp [sortRows, List.mergeSort, terms, sorted, mixedRows, compareRows, OrderTerm.compare,
      Row.cell, Fields.get?, Json.isNull, hsame, hkinds, hkinds']
  exact ⟨hcells, hsorted, hsorted ▸ sortRows_stable.2.2 terms mixedRows hcells⟩

end TableQuery.Server
