import Mathlib.Data.List.Find
import Mathlib.Data.List.Nodup
import TableQuery.Proofs.Cache.Contents

/-! The entries of a cache in the order of their last uses.

A cache counts uses and remembers with each entry the number of its last one. Those numbers are distinct and
none is ahead of the count, so they put the entries in one order, the one used last in front
(`UseOrder`). In it, what leaves the cache leaves the list (`UseOrder.dropWhere`), an entry that is looked up
or stored comes to the front (`UseOrder.touch`, `UseOrder.cons`), and the entry evicted is the last one
(`UseOrder.evictOldest`). -/
namespace TableQuery.Cache

structure UseOrder (c : Cache) (order : List (String × Entry)) : Prop where
  perm : order.Perm c.entries
  sorted : order.Pairwise fun x y => y.2.lastUse < x.2.lastUse
  counted : ∀ x ∈ order, x.2.lastUse ≤ c.uses
  keys : (order.map Prod.fst).Nodup

theorem useOrder_empty (config : CacheConfig) : UseOrder (.empty config) [] where
  perm := .nil
  sorted := .nil
  counted _ h := nomatch h
  keys := .nil

theorem erase_of_find?_eq_none {c : Cache} {key : String} (h : c.find? key = none) : c.erase key = c := by
  have hothers : c.entries.filter (fun e => !(e.1 == key)) = c.entries :=
    List.filter_eq_self.mpr fun y hy => by
      simpa using List.find?_eq_none.mp (Option.map_eq_none_iff.mp h) y hy
  simp only [erase, dropWhere, hothers]

namespace UseOrder
variable {c : Cache} {order : List (String × Entry)} (h : UseOrder c order)
include h

theorem size_eq : c.size = order.length := h.perm.length_eq.symm

/-- Only the entries and the count of uses matter. -/
theorem congr {d : Cache} (hentries : d.entries = c.entries) (huses : d.uses = c.uses) :
    UseOrder d order where
  perm := hentries ▸ h.perm
  sorted := h.sorted
  counted := huses ▸ h.counted
  keys := h.keys

theorem find?_eq (key : String) : c.find? key = (order.find? fun x => x.1 == key).map Prod.snd := by
  have hunique : {x ∈ order | x.1 == key}.Subsingleton := by
    rintro x ⟨hx, hxkey⟩ y ⟨hy, hykey⟩
    exact List.inj_on_of_nodup_map h.keys hx hy ((beq_iff_eq.mp hxkey).trans (beq_iff_eq.mp hykey).symm)
  unfold find?
  rw [List.find?_eq_find?_of_perm h.perm hunique]

theorem uses_nodup : (order.map fun x => x.2.lastUse).Nodup :=
  List.pairwise_map.mpr (h.sorted.imp Nat.ne_of_gt)

theorem eq_of_lastUse {x y : String × Entry} (hx : x ∈ order) (hy : y ∈ order)
    (huse : x.2.lastUse = y.2.lastUse) : x = y :=
  List.inj_on_of_nodup_map h.uses_nodup hx hy huse

theorem eq_of_key {x y : String × Entry} (hx : x ∈ order) (hy : y ∈ order) (hkey : x.1 = y.1) : x = y :=
  List.inj_on_of_nodup_map h.keys hx hy hkey

theorem mem_iff_find? {key : String} {e : Entry} : (key, e) ∈ order ↔ c.find? key = some e := by
  refine ⟨fun he => ?_, fun he => h.perm.mem_iff.mpr (mem_of_find? he)⟩
  rw [h.find?_eq, Option.map_eq_some_iff]
  have hsome : (order.find? fun x => x.1 == key).isSome :=
    List.find?_isSome.mpr ⟨(key, e), he, beq_self_eq_true key⟩
  obtain ⟨x, hx⟩ := Option.isSome_iff_exists.mp hsome
  have hkey : x.1 = key := by simpa using List.find?_some hx
  exact ⟨x, hx, congrArg Prod.snd (h.eq_of_key (List.mem_of_find?_eq_some hx) he hkey)⟩

theorem countP_eq (p : String × Entry → Bool) : (c.entries.filter p).length = order.countP p := by
  rw [← List.countP_eq_length_filter, h.perm.countP_eq p]

theorem dropWhere (p : String → Entry → Bool) :
    UseOrder (c.dropWhere p) (order.filter fun x => !p x.1 x.2) where
  perm := h.perm.filter _
  sorted := h.sorted.filter _
  counted x hx := h.counted x (List.mem_filter.mp hx).1
  keys := h.keys.sublist (List.filter_sublist.map Prod.fst)

theorem erase (key : String) : UseOrder (c.erase key) (order.filter fun x => !(x.1 == key)) :=
  h.dropWhere fun k _ => k == key

/-- Without the entries under a key there is one entry less. -/
theorem filter_ne {before behind : List (String × Entry)} {x : String × Entry}
    (horder : order = before ++ x :: behind) :
    order.filter (fun y => !(y.1 == x.1)) = before ++ behind := by
  have hkeys := h.keys
  rw [horder, List.map_append, List.map_cons, List.nodup_middle, List.nodup_cons,
    ← List.map_append] at hkeys
  have hne (y : String × Entry) (hy : y ∈ before ++ behind) : (!(y.1 == x.1)) = true := by
    have hyx : y.1 ≠ x.1 := fun he => hkeys.1 (he ▸ List.mem_map_of_mem hy)
    simpa using hyx
  rw [horder, List.filter_append, List.filter_cons_of_neg (by simp), ← List.filter_append,
    List.filter_eq_self.mpr hne]

/-! ### Entries come to the front -/

/-- An entry used just now, in front of entries under other keys. -/
theorem cons {x : String × Entry} {d : Cache} (hentries : (x :: order).Perm d.entries)
    (huses : d.uses = c.uses + 1) (huse : x.2.lastUse = d.uses) (hkey : ∀ y ∈ order, y.1 ≠ x.1) :
    UseOrder d (x :: order) where
  perm := hentries
  sorted := by
    refine List.pairwise_cons.mpr ⟨fun y hy => ?_, h.sorted⟩
    rw [huse, huses]
    exact Nat.lt_succ_of_le (h.counted y hy)
  counted := by
    refine List.forall_mem_cons.mpr ⟨Nat.le_of_eq huse, fun y hy => ?_⟩
    rw [huses]
    exact Nat.le_succ_of_le (h.counted y hy)
  keys := by
    rw [List.map_cons, List.nodup_cons]
    refine ⟨fun hmem => ?_, h.keys⟩
    obtain ⟨y, hy, hyx⟩ := List.mem_map.mp hmem
    exact hkey y hy hyx

theorem touch {key : String} {e : Entry} (he : (key, e) ∈ order) :
    UseOrder (c.touch key)
      ((key, { e with lastUse := c.uses + 1 }) :: order.filter fun x => !(x.1 == key)) := by
  obtain ⟨before, behind, horder⟩ := List.append_of_mem he
  have hothers := h.filter_ne horder
  let mark := fun x : String × Entry =>
    if x.1 = key then (x.1, { x.2 with lastUse := c.uses + 1 }) else x
  have hkeep (l : List (String × Entry)) (hl : l ⊆ before ++ behind) : l.map mark = l := by
    refine (List.map_congr_left fun x hx => if_neg ?_).trans (List.map_id l)
    have hmem := hl hx
    rw [← hothers] at hmem
    simpa using (List.mem_filter.mp hmem).2
  have hmarked : order.map mark = before ++ (key, { e with lastUse := c.uses + 1 }) :: behind := by
    rw [horder, List.map_append, List.map_cons, hkeep before (List.subset_append_left _ _),
      hkeep behind (List.subset_append_right _ _)]
    show before ++ (if key = key then _ else _) :: behind = _
    rw [if_pos rfl]
  refine (h.erase key).cons ?_ rfl rfl fun y hy => by simpa using (List.mem_filter.mp hy).2
  rw [hothers]
  refine List.perm_middle.symm.trans ?_
  rw [← hmarked]
  exact h.perm.map mark

end UseOrder

/-! ### Eviction -/

theorem oldest?_spec {entries : List (String × Entry)} (hne : entries ≠ []) :
    ∃ key use, oldest? entries = some (key, use) ∧
      (∃ e, (key, e) ∈ entries ∧ e.lastUse = use) ∧ ∀ x ∈ entries, use ≤ x.2.lastUse := by
  induction entries with
  | nil => exact absurd rfl hne
  | cons x rest ih =>
    obtain ⟨k, e⟩ := x
    cases rest with
    | nil => exact ⟨k, e.lastUse, rfl, ⟨e, List.mem_cons_self, rfl⟩, by simp⟩
    | cons y rest =>
      obtain ⟨key, use, hoption, ⟨e', he', huse⟩, hle⟩ := ih (List.cons_ne_nil y rest)
      have hstep : oldest? ((k, e) :: y :: rest) =
          if e.lastUse < use then some (k, e.lastUse) else some (key, use) := by
        rw [oldest?, hoption]
      rw [hstep]
      split
      · next hlt =>
        refine ⟨k, e.lastUse, rfl, ⟨e, List.mem_cons_self, rfl⟩, ?_⟩
        refine List.forall_mem_cons.mpr ⟨Nat.le_refl _, fun x hx => ?_⟩
        exact Nat.le_of_lt (Nat.lt_of_lt_of_le hlt (hle x hx))
      · next hge =>
        refine ⟨key, use, rfl, ⟨e', List.mem_cons_of_mem _ he', huse⟩, ?_⟩
        exact List.forall_mem_cons.mpr ⟨Nat.not_lt.mp hge, hle⟩

namespace UseOrder
variable {c : Cache} {order : List (String × Entry)} (h : UseOrder c order)
include h

/-- The entry whose last use lies furthest back is the last one. -/
theorem oldest?_eq : oldest? c.entries = order.getLast?.map fun x => (x.1, x.2.lastUse) := by
  rcases List.eq_nil_or_concat' order with rfl | ⟨front, last, rfl⟩
  · rw [h.perm.symm.eq_nil]
    rfl
  · have hentries : c.entries ≠ [] := fun he => by simpa [he] using h.perm
    obtain ⟨key, use, hoption, ⟨e, he, huse⟩, hle⟩ := oldest?_spec hentries
    have hlast : last = (key, e) := by
      rcases List.mem_append.mp (h.perm.mem_iff.mpr he) with hfront | hlast
      · -- Before the last there are later uses only.
        have hlt : last.2.lastUse < e.lastUse :=
          (List.pairwise_append.mp h.sorted).2.2 _ hfront last List.mem_cons_self
        have hlastle := hle last (h.perm.mem_iff.mp (List.mem_append_right _ List.mem_cons_self))
        omega
      · exact (List.mem_singleton.mp hlast).symm
    rw [hoption, List.getLast?_concat, hlast, ← huse]
    rfl

/-- Without the entries under the key of the last one, there is all but the last one. -/
theorem filter_last {front : List (String × Entry)} {last : String × Entry} (horder : order = front ++ [last]) :
    order.filter (fun x => !(x.1 == last.1)) = front := by
  rw [h.filter_ne horder, List.append_nil]

/-- What is evicted is the last entry. -/
theorem evictOldest (hne : order ≠ []) :
    UseOrder c.evictOldest order.dropLast ∧
      c.evictOldest.stats = { c.stats with evictions := c.stats.evictions + 1 } := by
  obtain ⟨front, last, rfl⟩ : ∃ front last, order = front ++ [last] :=
    ⟨_, _, (List.dropLast_append_getLast hne).symm⟩
  have hevict : c.evictOldest =
      { c.erase last.1 with stats := { c.stats with evictions := c.stats.evictions + 1 } } := by
    unfold Cache.evictOldest
    rw [h.oldest?_eq, List.getLast?_concat]
    rfl
  have herase := h.erase last.1
  rw [h.filter_last rfl] at herase
  rw [hevict, List.dropLast_concat]
  exact ⟨herase.congr rfl rfl, rfl⟩

end UseOrder
end TableQuery.Cache
