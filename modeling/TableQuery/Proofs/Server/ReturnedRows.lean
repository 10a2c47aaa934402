import Mathlib.Data.List.Perm.Subperm
import TableQuery.Proofs.Server.EmbeddedReads
import TableQuery.Proofs.Server.Sorted

/-! The rows that a read returns.

A read returns the rows that pass what it asks of the table, in its order, without those that lack an inner resource
and those outside its window (`Store.selected`); its answer has one item for each of them, in their order
(`Store.selected_of_listing`). So it returns no rows but some of those that a wider condition selects, and returns all
of them if and only if the further conditions, the inner resources and the window leave none of them out
(`Store.selected_covers_iff`). -/
namespace TableQuery

namespace Server

/-! ### Conditions and more conditions -/

theorem Condition.settle_append {row : Row} {cs ds : List Condition}
    (h : Condition.settle .all row (cs ++ ds) = .ok true) : Condition.settle .all row cs = .ok true := by
  induction cs with
  | nil => rfl
  | cons c cs ih =>
    rw [List.cons_append, Condition.settle] at h
    rw [Condition.settle]
    obtain ⟨hit, hhit, h⟩ := Chained.bind_eq_ok.mp h
    rw [hhit]
    cases hit with
    | false => exact h
    | true => exact ih h

theorem Row.passes_append {row : Row} {cs ds : List Condition} (h : row.passes (cs ++ ds) = true) :
    row.passes cs = true := by
  unfold Row.passes at h
  split at h
  · next hit hhit => exact Row.passes_of_ok (Condition.settle_append (h ▸ hhit))
  · exact nomatch h

/-! ### Windows -/

/-- A window has room for so many items, and leaves out none at the start. -/
def HasRoom (window : UInt64 × Option UInt64) (count : Nat) : Prop :=
  (count = 0 ∨ window.1 = 0) ∧ ∀ limit, window.2 = some limit → count ≤ limit.toNat

namespace Store
variable {α β : Type} {window : UInt64 × Option UInt64} {items : List α}

theorem paginate_sublist (items : List α) (window : UInt64 × Option UInt64) :
    (paginate items window).Sublist items := by
  obtain ⟨offset, limit⟩ := window
  cases limit with
  | none => exact List.drop_sublist ..
  | some n => exact (List.take_sublist ..).trans (List.drop_sublist ..)

theorem paginate_eq_self_iff : paginate items window = items ↔ HasRoom window items.length := by
  obtain ⟨offset, limit⟩ := window
  have hoffset : offset.toNat = 0 ↔ offset = 0 := by rw [← UInt64.toNat_inj, UInt64.toNat_zero]
  have hlength : (paginate items (offset, limit)).length =
      min (items.length - offset.toNat) ((limit.map UInt64.toNat).getD (items.length - offset.toNat)) := by
    cases limit <;> simp [paginate, Nat.min_comm]
  constructor
  · intro h
    rw [h] at hlength
    refine ⟨?_, ?_⟩
    · show items.length = 0 ∨ offset = 0
      rw [← hoffset]
      omega
    · rintro n (rfl : limit = some n)
      rw [Option.map_some, Option.getD_some] at hlength
      omega
  · rintro ⟨hstart, hlimit⟩
    refine (paginate_sublist items _).eq_of_length ?_
    rw [hlength]
    change items.length = 0 ∨ offset = 0 at hstart
    rw [← hoffset] at hstart
    cases limit with
    | none =>
      rw [Option.map_none, Option.getD_none]
      omega
    | some n =>
      have hroom := hlimit n rfl
      rw [Option.map_some, Option.getD_some]
      omega

theorem filter_filter_of_imp {narrow wide : α → Bool} (h : ∀ a, narrow a = true → wide a = true) (items : List α) :
    (items.filter wide).filter narrow = items.filter narrow := by
  rw [List.filter_filter]
  refine List.filter_congr fun a _ => ?_
  cases hnarrow : narrow a with
  | false => rfl
  | true => rw [h a hnarrow]; rfl

/-- Of a list some items are filtered out, twice, and others are outside the window. What is left is a part of the list,
and it is all of the list if each filter keeps every item and the window has room for them. -/
theorem subperm_paginate_iff {reached matched : List α} {narrow : α → Bool}
    (hmatched : matched.Perm (reached.filter narrow)) (keep : α → Bool) (window : UInt64 × Option UInt64) :
    (paginate (matched.filter keep) window).Subperm reached ∧
      (reached.Subperm (paginate (matched.filter keep) window) ↔
        (∀ a ∈ reached, narrow a = true ∧ keep a = true) ∧ HasRoom window reached.length) := by
  have hpage := paginate_sublist (matched.filter keep) window
  have hkept : (matched.filter keep).Sublist matched := List.filter_sublist
  have hpart : matched.Subperm reached := hmatched.subperm.trans List.filter_sublist.subperm
  refine ⟨(hpage.subperm.trans hkept.subperm).trans hpart, ?_, ?_⟩
  · intro hall
    -- Each of the three steps may shorten the list, and all of it is still there at the end.
    have hlength := hall.length_le
    have hpageLength := hpage.length_le
    have hkeptLength := hkept.length_le
    have hpartLength := hpart.length_le
    have hfull : reached.filter narrow = reached :=
      List.filter_sublist.eq_of_length (by rw [← hmatched.length_eq]; omega)
    have hkeep : matched.filter keep = matched := hkept.eq_of_length (by omega)
    have hwindow : paginate (matched.filter keep) window = matched.filter keep := hpage.eq_of_length (by omega)
    have hcount : (matched.filter keep).length = reached.length := by omega
    refine ⟨fun a ha => ?_, hcount ▸ paginate_eq_self_iff.mp hwindow⟩
    have hnarrow := List.filter_eq_self.mp hfull a ha
    exact ⟨hnarrow, List.filter_eq_self.mp hkeep a (hmatched.mem_iff.mpr (List.mem_filter.mpr ⟨ha, hnarrow⟩))⟩
  · rintro ⟨hall, hroom⟩
    have hfull : reached.filter narrow = reached := List.filter_eq_self.mpr fun a ha => (hall a ha).1
    rw [hfull] at hmatched
    have hkeep : matched.filter keep = matched :=
      List.filter_eq_self.mpr fun a ha => (hall a (hmatched.mem_iff.mp ha)).2
    rw [hkeep, paginate_eq_self_iff.mpr (hmatched.length_eq ▸ hroom)]
    exact hmatched.symm.subperm

theorem forall₂_paginate {R : α → β → Prop} {as : List α} {bs : List β} (h : List.Forall₂ R as bs)
    (window : UInt64 × Option UInt64) : List.Forall₂ R (paginate as window) (paginate bs window) := by
  obtain ⟨offset, limit⟩ := window
  cases limit with
  | none => exact List.forall₂_drop _ h
  | some n => exact List.forall₂_take _ (List.forall₂_drop _ h)

/-! ### Rows that are returned -/

/-- Whether a row has all inner resources that the selection asks for. -/
def retains (s : Store) (p : Params) (name : String) (row : Row) : Except Halt Bool :=
  (s.projectItems p "" name row [] p.items).map Option.isSome

/-- The rows of a table that a read returns: of those that pass what is asked, in the order asked for, the ones that
have all inner resources, as far as they are in the window. -/
def selected (s : Store) (p : Params) (name : String) : Except Halt (List Row) := do
  let t ← orRefusal (s.table name)
  let matched ← orRefusal (matching name t t.rows (p.scope ""))
  let kept ← matched.filterM (s.retains p name)
  p.checkWindow ""
  .ok (paginate kept (p.window ""))

/-- What the selection makes of a row that is returned. -/
def IsReturnedAs (s : Store) (p : Params) (name : String) (row : Row) (item : Json) : Prop :=
  ∃ fields, s.projectItems p "" name row [] p.items = .ok (some fields) ∧ item = .obj fields

variable {s : Store} {p : Params} {name : String} {t : Table} {rows matched : List Row} {listed : List Json}

/-- Rows that match are those that pass the conditions, in the order asked for. -/
theorem perm_of_matching {scope : Scope} (h : matching name t rows scope = .ok matched) :
    matched.Perm (rows.filter (Row.passes scope.conditions)) := by
  obtain ⟨_, -, h⟩ := Chained.bind_eq_ok.mp h
  obtain ⟨kept, hkept, h⟩ := Chained.bind_eq_ok.mp h
  obtain rfl := Except.ok.inj h
  have hselect : select scope.conditions rows = .ok kept := by
    cases hselect : select scope.conditions rows with
    | error f =>
      rw [hselect] at hkept
      exact nomatch hkept
    | ok kept' =>
      rw [hselect] at hkept
      exact congrArg Except.ok (Except.ok.inj hkept)
  obtain ⟨keep, hkeep, rfl⟩ := Chained.exists_of_filterM_eq_ok hselect
  rw [List.filter_congr fun row hrow => Row.passes_of_ok (hkeep row hrow)]
  exact sortRows_perm _ _

theorem forall₂_isReturnedAs {g : Row → Option Fields}
    (h : ∀ row ∈ rows, s.projectItems p "" name row [] p.items = .ok (g row)) :
    List.Forall₂ (s.IsReturnedAs p name) (rows.filter fun row => (g row).isSome) ((rows.filterMap g).map Json.obj) := by
  induction rows with
  | nil => exact .nil
  | cons row rows ih =>
    obtain ⟨hrow, hrows⟩ := List.forall_mem_cons.mp h
    cases hfields : g row with
    | none =>
      rw [List.filterMap_cons_none hfields, List.filter_cons_of_neg (by simp [hfields])]
      exact ih hrows
    | some fields =>
      rw [List.filterMap_cons_some hfields, List.filter_cons_of_pos (by simp [hfields])]
      exact .cons ⟨fields, hfields ▸ hrow, rfl⟩ (ih hrows)

/-- The rows of a listing have been looked for. -/
theorem matched_of_listing (h : s.listing p name = .ok listed) :
    ∃ t, s.table name = .ok t ∧ ∃ matched, matching name t t.rows (p.scope "") = .ok matched ∧
      s.project p name matched = .ok listed := by
  obtain ⟨t, ht, h⟩ := Chained.bind_eq_ok.mp h
  obtain ⟨matched, hmatched, h⟩ := Chained.bind_eq_ok.mp h
  exact ⟨t, orRefusal_eq_ok.mp ht, matched, orRefusal_eq_ok.mp hmatched, h⟩

/-- **A listing has one item for each row** that matches and has all inner resources; the window is put over both. -/
theorem selected_of_listing (h : s.listing p name = .ok listed) (hfits : p.checkWindow "" = .ok ()) :
    ∃ t matched keep, s.table name = .ok t ∧ matching name t t.rows (p.scope "") = .ok matched ∧
      (∀ row ∈ matched, s.retains p name row = .ok (keep row)) ∧
      s.selected p name = .ok (paginate (matched.filter keep) (p.window "")) ∧
      List.Forall₂ (s.IsReturnedAs p name) (paginate (matched.filter keep) (p.window ""))
        (paginate listed (p.window "")) := by
  obtain ⟨t, ht, matched, hmatched, h⟩ := matched_of_listing h
  obtain ⟨g, hg, rfl⟩ := filterMapM_projectItems.mp h
  have hretains : ∀ row ∈ matched, s.retains p name row = .ok (g row).isSome := by
    intro row hrow
    rw [retains, hg row hrow]
    rfl
  refine ⟨t, matched, fun row => (g row).isSome, ht, hmatched, hretains, ?_, forall₂_paginate ?_ _⟩
  · unfold selected
    rw [ht]
    show (orRefusal (matching name t t.rows (p.scope "")) >>= _) = _
    rw [hmatched]
    show (matched.filterM (s.retains p name) >>= _) = _
    rw [Chained.filterM_of_ok hretains, hfits]
    rfl
  · exact forall₂_isReturnedAs hg

/-- Of a row that passes the conditions it is known then whether it has all inner resources. -/
theorem exists_retains_of_listing {row : Row} (htable : s.table name = .ok t) (h : s.listing p name = .ok listed)
    (hfits : p.checkWindow "" = .ok ()) (hrow : row ∈ t.rows) (hpasses : row.passes (p.scope "").conditions = true) :
    ∃ hit, s.retains p name row = .ok hit := by
  obtain ⟨t', matched, keep, ht', hmatched, hkeep, -, -⟩ := selected_of_listing h hfits
  obtain rfl := Except.ok.inj (htable.symm.trans ht')
  exact ⟨keep row, hkeep row ((perm_of_matching hmatched).mem_iff.mpr (List.mem_filter.mpr ⟨hrow, hpasses⟩))⟩

/-- **What a read leaves out** of the rows that some of its conditions select: those that do not pass the others, those
that lack an inner resource, and those outside the window. -/
theorem selected_covers_iff {conditions extra : List Condition} (htable : s.table name = .ok t)
    (h : s.listing p name = .ok listed) (hfits : p.checkWindow "" = .ok ())
    (hconditions : (p.scope "").conditions = conditions ++ extra) :
    ∃ selected, s.selected p name = .ok selected ∧
      List.Forall₂ (s.IsReturnedAs p name) selected (paginate listed (p.window "")) ∧
      selected.Subperm (t.rows.filter (Row.passes conditions)) ∧
      ((t.rows.filter (Row.passes conditions)).Subperm selected ↔
        (∀ row ∈ t.rows.filter (Row.passes conditions),
          row.passes (p.scope "").conditions = true ∧ s.retains p name row = .ok true) ∧
        HasRoom (p.window "") (t.rows.filter (Row.passes conditions)).length) := by
  obtain ⟨t', matched, keep, ht', hmatched, hkeep, hselected, hreturned⟩ := selected_of_listing h hfits
  obtain rfl := Except.ok.inj (htable.symm.trans ht')
  have hperm := perm_of_matching hmatched
  have hle (row : Row) (hrow : row.passes (p.scope "").conditions = true) : row.passes conditions = true :=
    Row.passes_append (hconditions ▸ hrow)
  obtain ⟨hpart, hall⟩ := subperm_paginate_iff ((filter_filter_of_imp hle t.rows).symm ▸ hperm) keep (p.window "")
  refine ⟨_, hselected, hreturned, hpart, hall.trans (and_congr_left fun _ => forall₂_congr fun row hrow => ?_)⟩
  refine and_congr_right fun hpasses => ?_
  rw [hkeep row (hperm.mem_iff.mpr (List.mem_filter.mpr ⟨(List.mem_filter.mp hrow).1, hpasses⟩)), Except.ok.injEq]

/-! ### Selections without inner resources -/

end Store

/-- A resource that rows have to have. -/
def Projection.IsInner : Projection → Prop
  | .embed _ _ _ inner _ => inner = true
  | .star | .column _ _ _ => False

namespace Store
variable {s : Store} {p : Params} {name : String} {row : Row}

/-- A row is left out for nothing but an inner resource. -/
theorem retains_of_not_isInner (hitems : ∀ item ∈ p.items, ¬item.IsInner) {hit : Bool}
    (h : s.retains p name row = .ok hit) : hit = true := by
  obtain ⟨fields, hfields, rfl⟩ := Chained.map_eq_ok.mp h
  cases fields with
  | none => exact absurd hfields (projectItems_ne_none (fun _ _ _ _ hmem => hitems _ hmem rfl) [])
  | some _ => rfl

/-! ### Reads that succeed -/

theorem exists_listing_of_read {headOnly : Bool} {reply : Reply} (h : s.read p name headOnly = .ok reply) :
    ∃ listed, s.listing p name = .ok listed ∧ p.checkWindow "" = .ok () := by
  obtain ⟨t, ht, h⟩ := Chained.bind_eq_ok.mp h
  obtain ⟨matched, hmatched, h⟩ := Chained.bind_eq_ok.mp h
  obtain ⟨listed, hlisted, h⟩ := Chained.bind_eq_ok.mp h
  obtain ⟨⟨⟩, hfits, -⟩ := Chained.bind_eq_ok.mp h
  exact ⟨listed, Chained.bind_eq_ok.mpr ⟨t, ht, Chained.bind_eq_ok.mpr ⟨matched, hmatched, hlisted⟩⟩, hfits⟩

end Store

/-- A read that is answered with a success, for the rows or for the head alone, was carried out. -/
theorem lists_of_accepts {server : Server} {t : Http.Target} {m : Http.Message} {name : String}
    (hmethod : m.method = "GET" ∨ m.method = "HEAD") (hroute : route t.path = .table name)
    (h : server.Accepts t m) : ∃ p listed, server.Lists t m name p listed := by
  rcases hmethod with hget | hhead
  · obtain ⟨name', p, listed, hlists⟩ := exists_lists hget h
    obtain rfl := Route.table.inj (hroute.symm.trans hlists.route)
    exact ⟨p, listed, hlists⟩
  · obtain ⟨reply, hresult, -⟩ := h.exists_reply hroute
    rw [hhead, process] at hresult
    cases hvet : server.vet "HEAD" name t.query m.headers with
    | error rejection =>
      rw [hvet] at hresult
      exact nomatch hresult
    | ok p =>
      rw [hvet] at hresult
      obtain ⟨listed, hlisted, hfits⟩ := Store.exists_listing_of_read hresult
      exact ⟨p, listed, hroute, hvet, hlisted, hfits⟩

end Server
end TableQuery
