import TableQuery.Proofs.Server.Selections
import TableQuery.Proofs.Server.WholeRows

/-! Rows without an inner resource.

A row that lacks an inner resource is left out of a listing, however deep in the selection that turns out. Were
the resource a left one, the row would be there with null or an empty array under the resource's key, as long as
nothing is put under that key later. So making a resource inner takes those rows out of the listing and leaves
the others as they are, in their order (`Store.listing_inner`). A client that receives the rows can tell which
they are (`Envelope.hasUnder_of_receives`). -/
namespace TableQuery
open Server

/-! ### What is embedded in a row -/

namespace Json

/-- Null, an array or an object, as a value is that was embedded. -/
def IsResource : Json → Prop
  | .null | .arr _ | .obj _ => True
  | .bool _ | .num _ | .str _ => False

/-- Whether a row has something under a key, which is neither null nor an empty array. -/
def hasUnder (key : String) : Json → Bool
  | .obj members => !Store.isEmptyEmbed (Row.cell members key)
  | _ => false

theorem isEmptyEmbed_of_reread? {depth : Nat} {value v : Json} (hresource : value.IsResource)
    (h : value.reread? (depth + 1) = some v) : Store.isEmptyEmbed v = Store.isEmptyEmbed value := by
  cases value with
  | null =>
    obtain rfl := Option.some.inj h
    rfl
  | arr items =>
    rw [reread?_arr, Option.map_eq_some_iff] at h
    obtain ⟨vs, hvs, rfl⟩ := h
    cases Chained.mapM_eq_some.mp hvs <;> rfl
  | obj members =>
    rw [reread?_obj, Option.map_eq_some_iff] at h
    obtain ⟨_, -, rfl⟩ := h
    rfl
  | bool _ | num _ | str _ => exact hresource.elim

end Json

/-- A row as a selection puts it together: its members are in order, and there is a resource under the key. -/
structure Fields.Embed (key : String) (fields : Fields) : Prop where
  ordered : fields.IsOrdered
  resource : ∃ value, get? key fields = some value ∧ value.IsResource

theorem Fields.hasUnder_of_get? {fields : Fields} {key : String} {value : Json} (h : get? key fields = some value) :
    (Json.obj fields).hasUnder key = !Store.isEmptyEmbed value := by
  rw [Json.hasUnder, Row.cell, h]
  rfl

/-- A client can tell whether a row that it was sent has something under a key. -/
theorem Envelope.hasUnder_of_receives {fields : Fields} {key : String} {received : Json} (hfields : fields.Embed key)
    (h : Receives Json.Decode.any (.obj fields) received) :
    received.hasUnder key = (Json.obj fields).hasUnder key := by
  obtain ⟨value, hvalue, hresource⟩ := hfields.resource
  obtain ⟨members, rfl, hcells⟩ := exists_get?_of_receives hfields.ordered h
  obtain ⟨v, hv, hget⟩ := hcells key value hvalue
  rw [Fields.hasUnder_of_get? hget, Fields.hasUnder_of_get? hvalue, Json.isEmptyEmbed_of_reread? hresource hv]

/-! ### Rows put together -/

namespace Server

namespace Store
variable {s : Store} {p : Params} {path name : String} {row : Row} {out : Fields}

/-- Rows are put together one by one. -/
theorem filterMapM_projectItems {rows : List Row} {items : List Projection} {projected : List Json} :
    (rows.filterMapM fun row => do
      let fields ← s.projectItems p path name row [] items
      .ok (fields.map Json.obj)) = .ok projected ↔
    ∃ g : Row → Option Fields, (∀ row ∈ rows, s.projectItems p path name row [] items = .ok (g row)) ∧
      (rows.filterMap g).map Json.obj = projected := by
  constructor
  · intro h
    obtain ⟨f, hf, rfl⟩ := Chained.exists_of_filterMapM_eq_ok h
    let g (row : Row) : Option Fields :=
      match s.projectItems p path name row [] items with
      | .ok fields => fields
      | .error _ => none
    have hg : ∀ row ∈ rows, s.projectItems p path name row [] items = .ok (g row) ∧ (g row).map Json.obj = f row := by
      intro row hrow
      obtain ⟨fields, hfields, hobj⟩ := Chained.bind_eq_ok.mp (hf row hrow)
      have hsame : g row = fields := by simp only [g, hfields]
      exact ⟨hsame ▸ hfields, hsame ▸ Except.ok.inj hobj⟩
    refine ⟨g, fun row hrow => (hg row hrow).1, ?_⟩
    rw [List.map_filterMap]
    exact List.filterMap_congr fun row hrow => (hg row hrow).2
  · rintro ⟨g, hg, rfl⟩
    rw [List.map_filterMap]
    refine Chained.filterMapM_of_ok fun row hrow => ?_
    rw [hg row hrow]
    rfl

theorem isResource_embedded (l : Link) (rows : List Fields) : (l.embedded (rows.map Json.obj)).IsResource := by
  cases l with
  | toMany _ => trivial
  | toOne _ => cases rows <;> trivial

/-- What an embedded resource comes to: a value under its key, or no row if it is an inner one and has no rows. -/
theorem projectItem_embed {key child : String} {hint : Option String} {inner : Bool} {items : List Projection}
    {kept : Option Fields} (h : s.projectItem p path name row out (.embed key child hint inner items) = .ok kept) :
    ∃ value : Json, value.IsResource ∧ ∀ inner, s.projectItem p path name row out (.embed key child hint inner items) =
      .ok (if inner && isEmptyEmbed value then none else some (out.insert key value)) := by
  unfold projectItem at h
  dsimp only at h
  obtain ⟨⟨l, rows⟩, hrelated, h⟩ := Chained.bind_eq_ok.mp h
  obtain ⟨projected, hprojected, -⟩ := Chained.bind_eq_ok.mp h
  refine ⟨l.embedded projected, ?_, fun inner => ?_⟩
  · obtain ⟨g, -, rfl⟩ := filterMapM_projectItems.mp hprojected
    exact isResource_embedded l _
  · unfold projectItem
    dsimp only
    rw [hrelated]
    show (List.filterMapM (m := Except Halt) _ rows >>= _) = _
    rw [hprojected]
    rfl

/-- What an item does to a row that stays: it puts a value under its key, or it is a star. -/
theorem projectItem_eq_some {item : Projection} {out' : Fields}
    (h : s.projectItem p path name row out item = .ok (some out')) :
    (item = .star ∧ out' = out.extend row) ∨ ∃ key value, item.key? = some key ∧ out' = out.insert key value := by
  cases item with
  | star =>
    unfold projectItem at h
    exact .inl ⟨rfl, (Option.some.inj (Except.ok.inj h)).symm⟩
  | column key column cast =>
    unfold projectItem at h
    obtain ⟨t, -, h⟩ := Chained.bind_eq_ok.mp h
    split at h
    · exact .inr ⟨key, _, rfl, (Option.some.inj (Except.ok.inj h)).symm⟩
    · exact nomatch h
  | embed key child hint inner items =>
    obtain ⟨value, -, hembed⟩ := projectItem_embed h
    rw [hembed] at h
    replace h := Except.ok.inj h
    split at h
    · exact nomatch h
    · exact .inr ⟨key, value, rfl, (Option.some.inj h).symm⟩

theorem projectItems_cons {item : Projection} {items : List Projection} {out' : Fields}
    (h : s.projectItems p path name row out (item :: items) = .ok (some out')) :
    ∃ next, s.projectItem p path name row out item = .ok (some next) ∧
      s.projectItems p path name row next items = .ok (some out') := by
  rw [projectItems] at h
  obtain ⟨kept, hkept, h⟩ := Chained.bind_eq_ok.mp h
  cases kept with
  | none => cases h
  | some next => exact ⟨next, hkept, h⟩

theorem isOrdered_projectItems {items : List Projection} {out' : Fields} (hordered : out.IsOrdered)
    (h : s.projectItems p path name row out items = .ok (some out')) : out'.IsOrdered := by
  induction items generalizing out with
  | nil =>
    rw [projectItems] at h
    exact Option.some.inj (Except.ok.inj h) ▸ hordered
  | cons item items ih =>
    obtain ⟨next, hnext, h⟩ := projectItems_cons h
    refine ih ?_ h
    rcases projectItem_eq_some hnext with ⟨-, rfl⟩ | ⟨key, value, -, rfl⟩
    · exact Fields.isOrdered_extend hordered row
    · exact Fields.isOrdered_insert hordered value

/-- What is under a key stays there where all items put their values under others. -/
theorem get?_projectItems {items : List Projection} {out' : Fields} {key : String}
    (hkeys : ∀ item ∈ items, ∃ k, item.key? = some k ∧ key ≠ k)
    (h : s.projectItems p path name row out items = .ok (some out')) : Fields.get? key out' = Fields.get? key out := by
  induction items generalizing out with
  | nil =>
    rw [projectItems] at h
    rw [Option.some.inj (Except.ok.inj h)]
  | cons item items ih =>
    obtain ⟨⟨k, hk, hne⟩, hitems⟩ := List.forall_mem_cons.mp hkeys
    obtain ⟨next, hnext, h⟩ := projectItems_cons h
    rw [ih hitems h]
    rcases projectItem_eq_some hnext with ⟨rfl, -⟩ | ⟨k', value, hk', rfl⟩
    · cases hk
    · obtain rfl := Option.some.inj (hk.symm.trans hk')
      exact Fields.get?_insert_of_ne value out hne

theorem projectItems_append (items more : List Projection) :
    s.projectItems p path name row out (items ++ more) = (do
      match ← s.projectItems p path name row out items with
      | some out => s.projectItems p path name row out more
      | none => .ok none) := by
  induction items generalizing out with
  | nil => rfl
  | cons item items ih =>
    rw [List.cons_append, projectItems, projectItems]
    cases s.projectItem p path name row out item with
    | error r => rfl
    | ok kept =>
      cases kept with
      | none => rfl
      | some out => exact ih

/-- What items return does not depend on the selection that they are a part of. -/
theorem projectItems_select (select : Option (List Projection)) (items : List Projection) :
    s.projectItems { p with select := select } path name row out items = s.projectItems p path name row out items := by
  have hbelow (path key : String) (_ : True) : True := trivial
  have hrelated (path : String) (_ : True) : s.related { p with select := select } path = s.related p path := rfl
  exact projectItems_congr hbelow hrelated path name row out items fun item _ =>
    item.leadsTo_of_good hbelow trivial

/-! ### One resource made inner -/

variable {before after items : List Projection} {key child : String} {hint : Option String} {inner : Bool}

theorem projectItems_embed_cons {kept : Option Fields}
    (h : s.projectItems p path name row out (.embed key child hint inner items :: after) = .ok kept) :
    ∃ value : Json, value.IsResource ∧ ∀ inner,
      s.projectItems p path name row out (.embed key child hint inner items :: after) =
        if inner && isEmptyEmbed value then .ok none
        else s.projectItems p path name row (out.insert key value) after := by
  rw [projectItems] at h
  obtain ⟨next, hnext, -⟩ := Chained.bind_eq_ok.mp h
  obtain ⟨value, hresource, hembed⟩ := projectItem_embed hnext
  refine ⟨value, hresource, fun inner => ?_⟩
  rw [projectItems, hembed inner]
  split <;> rfl

/-- What stays behind a resource has its value under the key. -/
theorem get?_behind_embed {value : Json} {fields : Fields} (hordered : out.IsOrdered)
    (hafter : ∀ item ∈ after, ∃ k, item.key? = some k ∧ key ≠ k)
    (h : s.projectItems p path name row (out.insert key value) after = .ok (some fields)) :
    fields.IsOrdered ∧ Fields.get? key fields = some value :=
  ⟨isOrdered_projectItems (Fields.isOrdered_insert hordered value) h,
    (get?_projectItems hafter h).trans (Fields.get?_insert_self key value out)⟩

/-- A row stays if it has something under the key of the resource that is made inner. -/
theorem projectItems_inner (hordered : out.IsOrdered) (hafter : ∀ item ∈ after, ∃ k, item.key? = some k ∧ key ≠ k)
    {kept : Option Fields}
    (h : s.projectItems p path name row out (before ++ .embed key child hint inner items :: after) = .ok kept) :
    s.projectItems p path name row out (before ++ .embed key child hint true items :: after) =
        .ok (kept.filter fun fields => (Json.obj fields).hasUnder key) ∧
      ∀ fields, kept = some fields → fields.Embed key := by
  rw [projectItems_append] at h ⊢
  obtain ⟨first, hfirst, h⟩ := Chained.bind_eq_ok.mp h
  rw [hfirst]
  cases first with
  | none =>
    obtain rfl := Except.ok.inj h
    exact ⟨rfl, nofun⟩
  | some out₁ =>
    obtain ⟨value, hresource, hembed⟩ := projectItems_embed_cons h
    replace h := (hembed inner).symm.trans h
    show s.projectItems p path name row out₁ (.embed key child hint true items :: after) = _ ∧ _
    rw [hembed true]
    have hkept (fields : Fields)
        (hrest : s.projectItems p path name row (out₁.insert key value) after = .ok (some fields)) :=
      get?_behind_embed (isOrdered_projectItems hordered hfirst) hafter hrest
    split at h
    · next hleft =>
      obtain rfl := Except.ok.inj h
      rw [Bool.and_eq_true] at hleft
      rw [hleft.2]
      exact ⟨rfl, nofun⟩
    · refine ⟨?_, fun fields hfields => ?_⟩
      · cases kept with
        | none =>
          rw [h]
          split <;> rfl
        | some fields =>
          rw [h, Option.filter_some, Fields.hasUnder_of_get? (hkept fields h).2, Bool.true_and]
          cases isEmptyEmbed value <;> rfl
      · subst hfields
        exact ⟨(hkept fields h).1, value, (hkept fields h).2, hresource⟩

/-- **Inner resources restrict.** A listing with a resource made inner is the listing as it was without the rows
that have nothing under the resource's key. -/
theorem listing_inner {listed : List Json} (hitems : p.items = before ++ .embed key child hint inner items :: after)
    (hafter : ∀ item ∈ after, ∃ k, item.key? = some k ∧ key ≠ k) (h : s.listing p name = .ok listed) :
    s.listing { p with select := some (before ++ Projection.embed key child hint true items :: after) } name =
        .ok (listed.filter (Json.hasUnder key)) ∧
      ∀ v ∈ listed, ∃ fields : Fields, v = .obj fields ∧ fields.Embed key := by
  obtain ⟨t, ht, h⟩ := Chained.bind_eq_ok.mp h
  obtain ⟨matched, hmatched, h⟩ := Chained.bind_eq_ok.mp h
  obtain ⟨g, hg, rfl⟩ := filterMapM_projectItems.mp h
  rw [hitems] at hg
  have hordered : Fields.IsOrdered [] := List.Pairwise.nil
  have hrow (row : Row) (hrow : row ∈ matched) := projectItems_inner hordered hafter (hg row hrow)
  constructor
  · refine Chained.bind_eq_ok.mpr ⟨t, ht, Chained.bind_eq_ok.mpr ⟨matched, hmatched, ?_⟩⟩
    refine filterMapM_projectItems.mpr ⟨fun row => (g row).filter fun fields => (Json.obj fields).hasUnder key,
      fun row hmem => (projectItems_select ..).trans (hrow row hmem).1, ?_⟩
    rw [← List.filter_filterMap, List.filter_map]
    rfl
  · refine List.forall_mem_map.mpr fun fields hfields => ?_
    obtain ⟨row, hmem, hkept⟩ := List.mem_filterMap.mp hfields
    exact ⟨fields, rfl, (hrow row hmem).2 fields hkept⟩

end Store
end Server

/-- What a client makes of the rows that have something under a key are those of its rows that do. -/
theorem Envelope.forall₂_receives_hasUnder {key : String} {listed rows : List Json}
    (hfields : ∀ v ∈ listed, ∃ fields : Fields, v = .obj fields ∧ fields.Embed key)
    (h : List.Forall₂ (Receives Json.Decode.any) listed rows) :
    List.Forall₂ (Receives Json.Decode.any) (listed.filter (Json.hasUnder key)) (rows.filter (Json.hasUnder key)) := by
  induction h with
  | nil => exact .nil
  | @cons v row _ _ hfirst _ ih =>
    obtain ⟨⟨fields, rfl, hembed⟩, hrest⟩ := List.forall_mem_cons.mp hfields
    rw [List.filter_cons, List.filter_cons, hasUnder_of_receives hembed hfirst]
    split
    · exact .cons hfirst (ih hrest)
    · exact ih hrest

end TableQuery
