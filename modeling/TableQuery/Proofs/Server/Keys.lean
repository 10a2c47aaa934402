import Mathlib.Data.List.Perm.Basic
import TableQuery.Proofs.Json.Equality
import TableQuery.Proofs.Json.Members
import TableQuery.Proofs.Server.Writes

/-! Keys of rows, and what writes do to them.

A row has a key if it has one that is not null, and the keys of a table ought to be distinct (`KeysDistinct`). A row
that goes in stands behind the others, or is merged into one, or is passed over (`rows_of_put`). Rows that go in keep
the keys distinct exactly as long as each of them comes with a key that no row has but the one it is merged into
(`keysDistinct_put`). Under the key as the conflict target that is checked (`sparesKeys_of_put`), and a key that the
table gives is new in any case, for it breaks down where there is none left (`not_sharesKey_withKey`). A patch keeps
the keys distinct exactly if it sets none, or patches one row at most and brings a key that no other row has
(`keysDistinct_patchRows`). -/
namespace TableQuery.Server

namespace Row

/-- The key of a row, unless it is null. -/
def key? (row : Row) : Option Json := (Fields.get? keyColumn row).filter fun v => !v.isNull

/-- Both rows have a key, and it is the same. -/
def SharesKey (a b : Row) : Prop := ∃ v w, a.key? = some v ∧ b.key? = some w ∧ (v == w) = true

variable {a b c : Row}

theorem SharesKey.symm (h : a.SharesKey b) : b.SharesKey a := by
  obtain ⟨v, w, hv, hw, hvw⟩ := h
  exact ⟨w, v, hw, hv, BEq.symm hvw⟩

theorem SharesKey.trans (hab : a.SharesKey b) (hbc : b.SharesKey c) : a.SharesKey c := by
  obtain ⟨v, w, hv, hw, hvw⟩ := hab
  obtain ⟨w', x, hw', hx, hwx⟩ := hbc
  obtain rfl := Option.some_inj.mp (hw.symm.trans hw')
  exact ⟨v, x, hv, hx, BEq.trans hvw hwx⟩

instance : Decidable (a.SharesKey b) :=
  decidable_of_iff ((match a.key?, b.key? with
    | some v, some w => v == w
    | _, _ => false) = true) <| by
    unfold SharesKey
    cases a.key? <;> cases b.key? <;> simp

theorem sharesKey_congr (h : a.key? = b.key?) : a.SharesKey c ↔ b.SharesKey c := by
  unfold SharesKey
  rw [h]

theorem not_sharesKey_of_key?_eq_none (h : a.key? = none) : ¬a.SharesKey b := by
  rintro ⟨v, -, hv, -⟩
  exact nomatch h.symm.trans hv

theorem key?_eq_some {row : Row} {v : Json} :
    row.key? = some v ↔ Fields.get? keyColumn row = some v ∧ v.isNull = false := by
  unfold key?
  rw [Option.filter_eq_some_iff, Bool.not_eq_true']

theorem key?_eq_none {row : Row} (h : row.contains keyColumn = false) : row.key? = none := by
  rw [Fields.contains, Option.isSome_eq_false_iff, Option.isNone_iff_eq_none] at h
  rw [key?, h]
  rfl

/-- A row with another put over it has the other's key, if that has the column. -/
theorem key?_extend {patch : Row} (h : patch.IsOrdered) (row : Row) :
    Row.key? (row.extend patch) = if patch.contains keyColumn then patch.key? else row.key? := by
  unfold key? Fields.contains
  rw [Fields.get?_extend h]
  cases Fields.get? keyColumn patch <;> rfl

end Row

/-- No two rows have the same key. -/
def KeysDistinct (rows : List Row) : Prop := rows.Pairwise fun a b => ¬a.SharesKey b

instance (rows : List Row) : Decidable (KeysDistinct rows) := inferInstanceAs (Decidable (List.Pairwise _ _))

theorem keysDistinct_cons {row : Row} {rows : List Row} :
    KeysDistinct (row :: rows) ↔ (∀ r ∈ rows, ¬row.SharesKey r) ∧ KeysDistinct rows :=
  List.pairwise_cons

theorem KeysDistinct.perm {rows others : List Row} (h : rows.Perm others) :
    KeysDistinct rows ↔ KeysDistinct others :=
  h.pairwise_iff fun hab hba => hab hba.symm

/-- Only the keys matter. -/
theorem keysDistinct_congr {rows others : List Row} (h : rows.map Row.key? = others.map Row.key?) :
    KeysDistinct rows ↔ KeysDistinct others := by
  have hkeys (l : List Row) : KeysDistinct l ↔
      (l.map Row.key?).Pairwise fun a b => ¬∃ v w, a = some v ∧ b = some w ∧ (v == w) = true := by
    rw [List.pairwise_map]
    rfl
  rw [hkeys, hkeys, h]

theorem KeysDistinct.sublist {rows others : List Row} (h : KeysDistinct others) (hsub : rows.Sublist others) :
    KeysDistinct rows :=
  List.Pairwise.sublist hsub h

/-- With the key as the only conflict column, a row conflicts with the rows that share its key. -/
theorem conflicts_keyColumn {row stored : Row} :
    Store.conflicts [keyColumn] row stored = true ↔ stored.SharesKey row := by
  unfold Store.conflicts
  rw [List.all_cons, List.all_nil, Bool.and_true]
  constructor
  · intro h
    split at h
    · next v w hv hw =>
      obtain ⟨hnull, heq⟩ := (Bool.and_eq_true _ _).mp h
      rw [Bool.not_eq_true'] at hnull
      exact ⟨v, w, Row.key?_eq_some.mpr ⟨hv, hnull⟩,
        Row.key?_eq_some.mpr ⟨hw, (Json.isNull_eq_of_beq heq).symm.trans hnull⟩, heq⟩
    · exact nomatch h
  · rintro ⟨v, w, hv, hw, heq⟩
    obtain ⟨hv, hnull⟩ := Row.key?_eq_some.mp hv
    obtain ⟨hw, -⟩ := Row.key?_eq_some.mp hw
    rw [hv, hw]
    simp [hnull, heq]

namespace Store

/-! ### Rows that go in -/

/-- A row comes with a key that no row has, but for the one it is merged into; a row that is passed over may
come with any. -/
def Staged.SparesKeys (t : Table) (conflict : List String) (resolution : Option Resolution) (staged : Staged)
    (row : Row) : Prop :=
  match staged.rows.findIdx? (conflicts conflict (withKey t staged.rows row)), resolution with
  | none, _ => ∀ r ∈ staged.rows, ¬r.SharesKey (withKey t staged.rows row)
  | some i, some .merge => ∀ r ∈ staged.rows.eraseIdx i, ¬r.SharesKey (withKey t staged.rows row)
  | some _, _ => True

theorem isOrdered_withKey {t : Table} {stored : List Row} {row : Row} (h : row.IsOrdered) :
    (withKey t stored row).IsOrdered := by
  unfold withKey
  split
  · exact Fields.isOrdered_insert h _
  · exact h

variable {name : String} {t : Table} {conflict : List String} {resolution : Option Resolution}
  {staged next : Staged} {row : Row}

theorem put_eq_ok : staged.put name t conflict resolution row = .ok next ↔
    checkKey t staged.rows row = .ok () ∧
      staged.place name conflict resolution (withKey t staged.rows row) = .ok next := by
  unfold Staged.put
  constructor
  · intro h
    obtain ⟨⟨⟩, hcheck, h⟩ := Chained.bind_eq_ok.mp h
    exact ⟨hcheck, orRefusal_eq_ok.mp h⟩
  · rintro ⟨hcheck, hplace⟩
    exact Chained.bind_eq_ok.mpr ⟨(), hcheck, orRefusal_eq_ok.mpr hplace⟩

/-- What can come of the rows as one goes in: it stands behind them if it conflicts with none, or is put over the
first that it conflicts with, or is passed over. -/
theorem rows_of_put (h : staged.put name t conflict resolution row = .ok next) :
    (staged.rows.findIdx? (conflicts conflict (withKey t staged.rows row)) = none ∧
        next.rows = staged.rows ++ [withKey t staged.rows row]) ∨
      (∃ i, ∃ hi : i < staged.rows.length,
        staged.rows.findIdx? (conflicts conflict (withKey t staged.rows row)) = some i ∧ resolution = some .merge ∧
          next.rows = staged.rows.set i (staged.rows[i].extend (withKey t staged.rows row))) ∨
      ∃ i, staged.rows.findIdx? (conflicts conflict (withKey t staged.rows row)) = some i ∧
        resolution = some .skip ∧ next.rows = staged.rows := by
  replace h := (put_eq_ok.mp h).2
  unfold Staged.place at h
  split at h
  · next hfind =>
    obtain rfl := Except.ok.inj h
    exact .inl ⟨hfind, rfl⟩
  · next i hfind =>
    obtain rfl := Except.ok.inj h
    obtain ⟨hi, -, -⟩ := List.findIdx?_eq_some_iff_getElem.mp hfind
    rw [List.getD_eq_getElem _ _ hi]
    exact .inr (.inl ⟨i, hi, hfind, rfl, rfl⟩)
  · next i hfind =>
    obtain rfl := Except.ok.inj h
    exact .inr (.inr ⟨i, hfind, rfl, rfl⟩)
  · exact nomatch h

/-- Where a row is put over another, the keys stay distinct exactly if no other row has the key it comes
with. -/
theorem keysDistinct_set {rows : List Row} {i : Nat} (hi : i < rows.length) (hrow : row.IsOrdered)
    (hkeys : KeysDistinct rows) : KeysDistinct (rows.set i (rows[i].extend row)) ↔
      ∀ r ∈ rows.eraseIdx i, ¬r.SharesKey row := by
  have hothers : KeysDistinct (rows.eraseIdx i) := hkeys.sublist (List.eraseIdx_sublist rows i)
  rw [KeysDistinct.perm (List.set_perm_cons_eraseIdx hi _), keysDistinct_cons, and_iff_left hothers]
  have hmerged := Row.key?_extend hrow rows[i]
  cases hcontains : row.contains keyColumn with
  | true =>
    rw [hcontains, if_pos rfl] at hmerged
    refine forall₂_congr fun r _ => not_congr ?_
    rw [Row.sharesKey_congr hmerged]
    exact ⟨Row.SharesKey.symm, Row.SharesKey.symm⟩
  | false =>
    rw [hcontains, if_neg Bool.false_ne_true] at hmerged
    refine iff_of_true (fun r hr hshares => ?_) fun r _ hshares =>
      Row.not_sharesKey_of_key?_eq_none (Row.key?_eq_none hcontains) hshares.symm
    rw [Row.sharesKey_congr hmerged] at hshares
    have hold := (KeysDistinct.perm (List.getElem_cons_eraseIdx_perm hi)).mpr hkeys
    exact (keysDistinct_cons.mp hold).1 r hr hshares

theorem keysDistinct_append {rows : List Row} (hkeys : KeysDistinct rows) :
    KeysDistinct (rows ++ [row]) ↔ ∀ r ∈ rows, ¬r.SharesKey row := by
  rw [KeysDistinct.perm (List.perm_append_singleton _ _), keysDistinct_cons, and_iff_left hkeys]
  exact forall₂_congr fun r _ => not_congr ⟨Row.SharesKey.symm, Row.SharesKey.symm⟩

/-- **One row goes in.** The keys stay distinct exactly if they are spared. -/
theorem keysDistinct_put (hrow : row.IsOrdered) (h : staged.put name t conflict resolution row = .ok next)
    (hkeys : KeysDistinct staged.rows) :
    KeysDistinct next.rows ↔ staged.SparesKeys t conflict resolution row := by
  unfold Staged.SparesKeys
  rcases rows_of_put h with ⟨hfind, hrows⟩ | ⟨i, hi, hfind, rfl, hrows⟩ | ⟨i, hfind, rfl, hrows⟩ <;>
    rw [hfind, hrows]
  · exact keysDistinct_append hkeys
  · exact keysDistinct_set hi (isOrdered_withKey hrow) hkeys
  · exact iff_of_true hkeys trivial

/-- Where the key is the conflict target, no row goes in with a key that is there already, but into the row
that has it. -/
theorem sparesKeys_of_put (hkeys : KeysDistinct staged.rows) :
    staged.SparesKeys t [keyColumn] resolution row := by
  unfold Staged.SparesKeys
  split
  · next hfind =>
    intro r hr hshares
    have hnone := List.findIdx?_eq_none_iff.mp hfind r hr
    rw [conflicts_keyColumn.mpr hshares] at hnone
    exact nomatch hnone
  · next i hfind =>
    obtain ⟨hi, hconflict, -⟩ := List.findIdx?_eq_some_iff_getElem.mp hfind
    intro r hr hshares
    have hsame := (conflicts_keyColumn.mp hconflict).trans hshares.symm
    have hold := (KeysDistinct.perm (List.getElem_cons_eraseIdx_perm hi)).mpr hkeys
    exact (keysDistinct_cons.mp hold).1 r hr hsame
  · trivial

/-! ### Keys that the table gives -/

theorem eq_ofInt_of_beq {v : Json} {n : Int} (h : (v == .ofInt n) = true) : v = .ofInt n := by
  cases v with
  | num x =>
    cases x with
    | int m =>
      have h : (m == n) = true := h
      rw [beq_iff_eq.mp h]
      rfl
    | float x => exact nomatch h
  | _ => exact absurd h (by simp [BEq.beq, Json.beq, Json.ofInt])

theorem asInt64?_eq_some {v : Json} {n : Int} : v.asInt64? = some n ↔
    v = .ofInt n ∧ Int64.minValue.toInt ≤ n ∧ n ≤ Int64.maxValue.toInt := by
  unfold Json.asInt64?
  split
  · next m =>
    rw [Option.ite_none_right_eq_some, Option.some_inj]
    constructor
    · rintro ⟨hm, rfl⟩
      exact ⟨rfl, hm⟩
    · rintro ⟨heq, hn⟩
      obtain rfl := Number.int.inj (Json.num.inj heq)
      exact ⟨hn, rfl⟩
  · next hother => exact iff_of_false (fun h => nomatch h) fun h => hother n h.1

theorem minValue_lt_nextKey (stored : List Row) : Int64.minValue.toInt < nextKey stored := by
  unfold nextKey
  dsimp only
  cases hmax : (stored.filterMap fun r => (Fields.get? keyColumn r).bind Json.asInt64?).max? with
  | none => decide
  | some m =>
    obtain ⟨r, -, hkey⟩ := List.mem_filterMap.mp (List.max?_eq_some_iff.mp hmax).1
    obtain ⟨v, -, hm⟩ := Option.bind_eq_some_iff.mp hkey
    have hlow := (asInt64?_eq_some.mp hm).2.1
    rw [Option.getD_some]
    omega

/-- The next key is greater than every integer of 64 bits that is a key. -/
theorem lt_nextKey {stored : List Row} {r : Row} (hr : r ∈ stored) {n : Int}
    (hn : Fields.get? keyColumn r = some (.ofInt n)) (hhigh : n ≤ Int64.maxValue.toInt) : n < nextKey stored := by
  by_cases hlow : Int64.minValue.toInt ≤ n
  · have hkey : n ∈ stored.filterMap fun r => (Fields.get? keyColumn r).bind Json.asInt64? := by
      refine List.mem_filterMap.mpr ⟨r, hr, ?_⟩
      rw [hn]
      exact asInt64?_eq_some.mpr ⟨rfl, hlow, hhigh⟩
    obtain ⟨m, hm⟩ := Option.isSome_iff_exists.mp (List.isSome_max?_of_mem hkey)
    have hle := (List.max?_eq_some_iff.mp hm).2 _ hkey
    unfold nextKey
    dsimp only
    rw [hm, Option.getD_some]
    omega
  · exact (not_le.mp hlow).trans (minValue_lt_nextKey stored)

theorem nextKey_le_of_checkKey {stored : List Row} (hlacks : lacksKey t row = true)
    (h : checkKey t stored row = .ok ()) : nextKey stored ≤ Int64.maxValue.toInt := by
  refine not_lt.mp fun hbeyond => ?_
  unfold checkKey at h
  rw [hlacks, if_pos (by simpa using hbeyond)] at h
  exact nomatch h

/-- The key that a table gives to a row is a new one. -/
theorem not_sharesKey_withKey {stored : List Row} (hgiven : row.contains keyColumn = false)
    (hcheck : checkKey t stored row = .ok ()) : ∀ r ∈ stored, ¬r.SharesKey (withKey t stored row) := by
  rintro r hr ⟨v, w, hv, hw, heq⟩
  obtain ⟨hv, -⟩ := Row.key?_eq_some.mp hv
  obtain ⟨hw, -⟩ := Row.key?_eq_some.mp hw
  unfold withKey at hw
  split at hw
  · next hlacks =>
    rw [Fields.get?_insert_self, Option.some_inj] at hw
    obtain rfl := eq_ofInt_of_beq (hw ▸ heq)
    exact lt_irrefl _ (lt_nextKey hr hv (nextKey_le_of_checkKey hlacks hcheck))
  · have hnone : Fields.get? keyColumn row = none := by simpa [Fields.contains] using hgiven
    exact nomatch hnone.symm.trans hw

/-! ### A body of rows -/

/-- Each row spares the keys as it goes in. -/
def Staged.AllSpareKeys (name : String) (t : Table) (conflict : List String) (resolution : Option Resolution) :
    Staged → List Row → Prop
  | _, [] => True
  | staged, row :: rows => staged.SparesKeys t conflict resolution row ∧
      ∀ next, staged.put name t conflict resolution row = .ok next →
        next.AllSpareKeys name t conflict resolution rows

variable {rows : List Row} {final : Staged}

theorem keysDistinct_putAll (hrows : ∀ row ∈ rows, Fields.IsOrdered row)
    (h : rows.foldlM (Staged.put name t conflict resolution) staged = .ok final)
    (hkeys : KeysDistinct staged.rows) (hspare : staged.AllSpareKeys name t conflict resolution rows) :
    KeysDistinct final.rows := by
  induction rows generalizing staged with
  | nil =>
    obtain rfl := Except.ok.inj h
    exact hkeys
  | cons row rows ih =>
    obtain ⟨hrow, hrows⟩ := List.forall_mem_cons.mp hrows
    rw [List.foldlM_cons] at h
    obtain ⟨next, hnext, h⟩ := Chained.bind_eq_ok.mp h
    exact ih hrows h ((keysDistinct_put hrow hnext hkeys).mpr hspare.1) (hspare.2 next hnext)

theorem allSpareKeys_of_keyTarget (hrows : ∀ row ∈ rows, Fields.IsOrdered row)
    (hkeys : KeysDistinct staged.rows) : staged.AllSpareKeys name t [keyColumn] resolution rows := by
  induction rows generalizing staged with
  | nil => trivial
  | cons row rows ih =>
    obtain ⟨hrow, hrows⟩ := List.forall_mem_cons.mp hrows
    have hspare : staged.SparesKeys t [keyColumn] resolution row := sparesKeys_of_put hkeys
    exact ⟨hspare, fun next hnext => ih hrows ((keysDistinct_put hrow hnext hkeys).mpr hspare)⟩

/-- Where nothing is merged, rows stay as they are once they are in. -/
theorem sublist_put (hmerge : resolution ≠ some .merge)
    (h : staged.put name t conflict resolution row = .ok next) : staged.rows.Sublist next.rows := by
  rcases rows_of_put h with ⟨-, hrows⟩ | ⟨_, _, -, hmerged, -⟩ | ⟨_, -, -, hrows⟩
  · exact hrows ▸ List.sublist_append_left _ _
  · exact absurd hmerged hmerge
  · exact hrows ▸ List.Sublist.refl _

theorem sublist_putAll (hmerge : resolution ≠ some .merge)
    (h : rows.foldlM (Staged.put name t conflict resolution) staged = .ok final) :
    staged.rows.Sublist final.rows := by
  induction rows generalizing staged with
  | nil =>
    obtain rfl := Except.ok.inj h
    exact List.Sublist.refl _
  | cons row rows ih =>
    rw [List.foldlM_cons] at h
    obtain ⟨next, hnext, h⟩ := Chained.bind_eq_ok.mp h
    exact (sublist_put hmerge hnext).trans (ih h)

/-- Where at most one row is merged, the keys are distinct afterwards only if each row has spared them. -/
theorem allSpareKeys_of_keysDistinct (hrows : ∀ row ∈ rows, Fields.IsOrdered row)
    (hmerge : resolution ≠ some .merge ∨ rows.length ≤ 1)
    (h : rows.foldlM (Staged.put name t conflict resolution) staged = .ok final)
    (hkeys : KeysDistinct staged.rows) (hfinal : KeysDistinct final.rows) :
    staged.AllSpareKeys name t conflict resolution rows := by
  induction rows generalizing staged with
  | nil => trivial
  | cons row rows ih =>
    obtain ⟨hrow, hrows⟩ := List.forall_mem_cons.mp hrows
    rw [List.foldlM_cons] at h
    obtain ⟨next, hnext, h⟩ := Chained.bind_eq_ok.mp h
    have hdistinct : KeysDistinct next.rows := by
      rcases hmerge with hmerge | hlength
      · exact hfinal.sublist (sublist_putAll hmerge h)
      · obtain rfl := List.length_eq_zero_iff.mp (Nat.le_zero.mp (Nat.le_of_succ_le_succ hlength))
        obtain rfl := Except.ok.inj h
        exact hfinal
    refine ⟨(keysDistinct_put hrow hnext hkeys).mp hdistinct, fun other hother => ?_⟩
    obtain rfl := Except.ok.inj (hnext.symm.trans hother)
    exact ih hrows (hmerge.imp_right fun hlength => Nat.le_of_succ_le hlength) h hdistinct

/-! ### Under the key as the conflict target -/

/-- The rows with others behind them, each with a key of its own where it came without. -/
def appended (t : Table) (stored : List Row) : List Row → List Row
  | [] => stored
  | row :: rows => appended t (stored ++ [withKey t stored row]) rows

theorem sublist_appended (t : Table) (stored rows : List Row) : stored.Sublist (appended t stored rows) := by
  induction rows generalizing stored with
  | nil => exact List.Sublist.refl _
  | cons row rows ih => exact (List.sublist_append_left _ _).trans (ih _)

/-- As the rows go in, each that lacks a key is given one of 64 bits. -/
def KeysSuffice (t : Table) (stored : List Row) : List Row → Prop
  | [] => True
  | row :: rows => checkKey t stored row = .ok () ∧ KeysSuffice t (stored ++ [withKey t stored row]) rows

theorem put_of_spared (hcheck : checkKey t staged.rows row = .ok ())
    (h : ∀ r ∈ staged.rows, ¬r.SharesKey (withKey t staged.rows row)) :
    staged.put name t [keyColumn] none row = .ok
      ⟨staged.rows ++ [withKey t staged.rows row], staged.affected ++ [withKey t staged.rows row]⟩ := by
  have hfind : staged.rows.findIdx? (conflicts [keyColumn] (withKey t staged.rows row)) = none := by
    refine List.findIdx?_eq_none_iff.mpr fun r hr => ?_
    rw [← Bool.not_eq_true, conflicts_keyColumn]
    exact h r hr
  refine put_eq_ok.mpr ⟨hcheck, ?_⟩
  unfold Staged.place
  simp only [hfind]

theorem put_of_taken (hcheck : checkKey t staged.rows row = .ok ()) {r : Row} (hr : r ∈ staged.rows)
    (h : r.SharesKey (withKey t staged.rows row)) :
    ∃ values, staged.put name t [keyColumn] none row = .error (.refused (.duplicateKey name keyColumn values)) := by
  cases hfind : staged.rows.findIdx? (conflicts [keyColumn] (withKey t staged.rows row)) with
  | none =>
    have hnone := List.findIdx?_eq_none_iff.mp hfind r hr
    rw [conflicts_keyColumn.mpr h] at hnone
    exact nomatch hnone
  | some i =>
    refine ⟨conflictValues [keyColumn] (withKey t staged.rows row), ?_⟩
    unfold Staged.put Staged.place
    rw [hcheck]
    simp only [hfind]
    rfl

/-- Rows go in as long as their keys are new, and the first that is not is told. -/
theorem putAll_keyTarget (name : String) (t : Table) (rows : List Row) (hkeys : KeysDistinct staged.rows)
    (hsuffice : KeysSuffice t staged.rows rows) :
    if KeysDistinct (appended t staged.rows rows) then
      ∃ affected, rows.foldlM (Staged.put name t [keyColumn] none) staged =
        .ok ⟨appended t staged.rows rows, affected⟩
    else ∃ values, rows.foldlM (Staged.put name t [keyColumn] none) staged =
      .error (.refused (.duplicateKey name keyColumn values)) := by
  induction rows generalizing staged with
  | nil => exact (if_pos hkeys).mpr ⟨staged.affected, rfl⟩
  | cons row rows ih =>
    obtain ⟨hcheck, hsuffice⟩ := hsuffice
    rw [List.foldlM_cons]
    by_cases htaken : ∃ r ∈ staged.rows, r.SharesKey (withKey t staged.rows row)
    · obtain ⟨r, hr, hshares⟩ := htaken
      obtain ⟨values, hput⟩ : ∃ values, staged.put name t [keyColumn] none row =
          .error (.refused (.duplicateKey name keyColumn values)) := put_of_taken hcheck hr hshares
      have hrepeated : ¬KeysDistinct (appended t staged.rows (row :: rows)) := fun hdistinct =>
        (keysDistinct_append hkeys).mp (hdistinct.sublist (sublist_appended t _ rows)) r hr hshares
      rw [if_neg hrepeated, hput]
      exact ⟨values, rfl⟩
    · have hspared (r : Row) (hr : r ∈ staged.rows) : ¬r.SharesKey (withKey t staged.rows row) :=
        fun hshares => htaken ⟨r, hr, hshares⟩
      have hnext : KeysDistinct (staged.rows ++ [withKey t staged.rows row]) :=
        (keysDistinct_append hkeys).mpr hspared
      rw [put_of_spared hcheck hspared]
      exact @ih ⟨_, staged.affected ++ [withKey t staged.rows row]⟩ hnext hsuffice

/-- Rows that have gone in have their keys. -/
theorem keysSuffice_of_putAll (h : rows.foldlM (Staged.put name t conflict none) staged = .ok final) :
    KeysSuffice t staged.rows rows := by
  induction rows generalizing staged with
  | nil => trivial
  | cons row rows ih =>
    rw [List.foldlM_cons] at h
    obtain ⟨next, hnext, h⟩ := Chained.bind_eq_ok.mp h
    refine ⟨(put_eq_ok.mp hnext).1, ?_⟩
    rcases rows_of_put hnext with ⟨-, hrows⟩ | ⟨_, _, -, hmerged, -⟩ | ⟨_, -, hskipped, -⟩
    · exact hrows ▸ ih h
    · exact nomatch hmerged
    · exact nomatch hskipped

/-! ### Patches -/

/-- The rows up to the first that cannot be tested. -/
def tested (conditions : List Condition) (rows : List Row) : List Row :=
  rows.takeWhile fun row => (row.satisfies conditions).isOk

def untested (conditions : List Condition) (rows : List Row) : List Row :=
  rows.dropWhile fun row => (row.satisfies conditions).isOk

/-- The rows that a patch comes to. -/
def reached (conditions : List Condition) (rows : List Row) : List Row :=
  (tested conditions rows).filter (Row.passes conditions)

/-- The rows that it leaves alone. -/
def passedOver (conditions : List Condition) (rows : List Row) : List Row :=
  (tested conditions rows).filter (fun row => !row.passes conditions) ++ untested conditions rows

/-- A patch that sets a key comes to one row at most, and no other row has that key. -/
def PatchSparesKeys (conditions : List Condition) (patch : Row) (rows : List Row) : Prop :=
  patch.SharesKey patch → reached conditions rows = [] ∨
    ∃ row, reached conditions rows = [row] ∧ ∀ r ∈ passedOver conditions rows, ¬r.SharesKey patch

variable {conditions : List Condition} {patch : Row}

theorem patchRows_snd (conditions : List Condition) (patch : Row) (rows : List Row) :
    (patchRows conditions patch rows).2 =
      (tested conditions rows).map (patched conditions patch) ++ untested conditions rows := by
  induction rows with
  | nil => rfl
  | cons row rows ih =>
    cases hrow : row.satisfies conditions with
    | error f => simp [patchRows, hrow, tested, untested, Except.isOk, Except.toBool]
    | ok hit =>
      have hpass := Row.passes_of_ok hrow
      cases hit <;>
        simp [patchRows, hrow, tested, untested, Except.isOk, Except.toBool, patched, hpass, ih]

theorem perm_reached (conditions : List Condition) (rows : List Row) :
    (reached conditions rows ++ passedOver conditions rows).Perm rows := by
  have hrows : tested conditions rows ++ untested conditions rows = rows := List.takeWhile_append_dropWhile
  unfold reached passedOver
  rw [← List.append_assoc]
  exact ((List.filter_append_perm _ _).append_right _).trans (.of_eq hrows)

theorem perm_patchRows (conditions : List Condition) (patch : Row) (rows : List Row) :
    (patchRows conditions patch rows).2.Perm
      ((reached conditions rows).map (·.extend patch) ++ passedOver conditions rows) := by
  have hreached : (reached conditions rows).map (patched conditions patch) =
      (reached conditions rows).map (·.extend patch) :=
    List.map_congr_left fun row hrow => if_pos (List.mem_filter.mp hrow).2
  have hmissed : ((tested conditions rows).filter fun row => !row.passes conditions).map
      (patched conditions patch) = (tested conditions rows).filter fun row => !row.passes conditions := by
    refine (List.map_congr_left fun row hrow => if_neg ?_).trans (List.map_id _)
    simpa using (List.mem_filter.mp hrow).2
  have hsplit := (List.filter_append_perm (Row.passes conditions) (tested conditions rows)).map
    (patched conditions patch)
  rw [List.map_append, hmissed] at hsplit
  rw [patchRows_snd, passedOver, ← List.append_assoc, ← hreached]
  exact hsplit.symm.append_right _

/-- Rows without a key are in nobody's way. -/
theorem keysDistinct_append_of_keyless {rows others : List Row} (hkeyless : ∀ r ∈ rows, ∀ b, ¬r.SharesKey b)
    (hothers : KeysDistinct others) : KeysDistinct (rows ++ others) := by
  induction rows with
  | nil => exact hothers
  | cons row rows ih =>
    obtain ⟨hrow, hrows⟩ := List.forall_mem_cons.mp hkeyless
    exact keysDistinct_cons.mpr ⟨fun b _ => hrow b, ih hrows⟩

/-- **A patch.** The keys stay distinct exactly if they are spared. -/
theorem keysDistinct_patchRows (hpatch : patch.IsOrdered) (hkeys : KeysDistinct rows) :
    KeysDistinct (patchRows conditions patch rows).2 ↔ PatchSparesKeys conditions patch rows := by
  have hbefore := (KeysDistinct.perm (perm_reached conditions rows)).mpr hkeys
  have hothers : KeysDistinct (passedOver conditions rows) := hbefore.sublist (List.sublist_append_right _ _)
  rw [KeysDistinct.perm (perm_patchRows conditions patch rows)]
  cases hcontains : patch.contains keyColumn with
  | false =>
    have hkept (row : Row) : Row.key? (row.extend patch) = row.key? := by
      rw [Row.key?_extend hpatch, hcontains, if_neg Bool.false_ne_true]
    have hsame : ((reached conditions rows).map (·.extend patch) ++ passedOver conditions rows).map Row.key? =
        (reached conditions rows ++ passedOver conditions rows).map Row.key? := by
      simp only [List.map_append, List.map_map, Function.comp_def, hkept]
    rw [keysDistinct_congr hsame]
    refine iff_of_true hbefore fun hself => absurd hself (Row.not_sharesKey_of_key?_eq_none ?_)
    exact Row.key?_eq_none hcontains
  | true =>
    have hset (row : Row) : Row.key? (row.extend patch) = patch.key? := by
      rw [Row.key?_extend hpatch, hcontains, if_pos rfl]
    by_cases hself : patch.SharesKey patch
    · unfold PatchSparesKeys
      rw [imp_iff_right hself]
      match reached conditions rows with
      | [] => exact iff_of_true hothers (.inl rfl)
      | [row] =>
        rw [List.map_singleton, List.singleton_append, keysDistinct_cons, and_iff_left hothers]
        simp only [reduceCtorEq, List.cons.injEq, and_true, exists_eq_left', false_or]
        refine forall₂_congr fun r _ => not_congr ?_
        rw [Row.sharesKey_congr (hset row)]
        exact ⟨Row.SharesKey.symm, Row.SharesKey.symm⟩
      | row :: other :: more =>
        refine iff_of_false (fun hdistinct => ?_) (by simp)
        refine (keysDistinct_cons.mp hdistinct).1 (other.extend patch) (by simp) ?_
        rw [Row.sharesKey_congr (hset row)]
        exact ((Row.sharesKey_congr (hset other)).mpr hself).symm
    · refine iff_of_true (keysDistinct_append_of_keyless (fun r hr b hshares => ?_) hothers)
        fun h => absurd h hself
      obtain ⟨row, -, rfl⟩ := List.mem_map.mp hr
      have hpatchShares := (Row.sharesKey_congr (hset row)).mp hshares
      exact hself (hpatchShares.trans hpatchShares.symm)

end Store
end TableQuery.Server
