import TableQuery.Proofs.Server.Insertions

/-! Rows that are merged.

Where it is asked for, a row that goes in is put over the first stored row that agrees with it on the conflict
columns. What comes of a stored row is told by the rows that were merged into it: a column holds what the last of
them brings that has it, and else what it held (`Row.merged?`). That is so of every column but the key
(`Store.IsMerged`), through each row that goes in (`Store.areMerged_put`) and through all of them
(`Store.areMerged_putAll`). The key is given to a row before it is looked up: a row that comes without one brings a
new one to the row it is merged into. So the key of a stored row is what it should be exactly if the last row merged
into it has brought one itself (`respond_of_merge`); `merge_changes_key` is a merge that changes it. -/
namespace TableQuery.Server

namespace Row
variable {columns : List String} {row other : Row} {others : List Row} {column : String}

/-- What a column ought to hold once other rows were merged into a row: what the last of them brings that has it,
and else what it held. -/
def merged? (row : Row) (others : List Row) (column : String) : Option Json :=
  (others.reverse.findSome? (Fields.get? column)).or (Fields.get? column row)

theorem merged?_concat :
    row.merged? (others ++ [other]) column = (Fields.get? column other).or (row.merged? others column) := by
  unfold merged?
  rw [List.reverse_append, List.reverse_singleton, List.singleton_append, List.findSome?_cons]
  cases Fields.get? column other <;> rfl

/-- A row that was put over one it agrees with agrees with what it was put over. -/
theorem AgreesOn.extend (h : row.AgreesOn columns other) (hother : Fields.IsOrdered other) :
    Row.AgreesOn columns (row.extend other) row := by
  intro column hcolumn
  obtain ⟨v, w, hv, hw, hnull, heq⟩ := h column hcolumn
  refine ⟨w, v, ?_, hv, (Json.isNull_eq_of_beq heq).symm.trans hnull, BEq.symm heq⟩
  rw [Fields.get?_extend hother, hw]
  rfl

theorem get?_of_not_contains (h : row.contains column = false) : Fields.get? column row = none := by
  simpa [Fields.contains] using h

end Row

namespace Store
variable {name : String} {t : Table} {columns : List String} {stored rows : List Row} {row r : Row}
  {staged next final : Staged} {resolution : Option Resolution}

/-! ### Keys that are given -/

theorem get?_withKey_of_ne {column : String} (h : column ≠ keyColumn) :
    Fields.get? column (withKey t stored row) = Fields.get? column row := by
  unfold withKey
  split
  · exact Fields.get?_insert_of_ne _ _ h
  · rfl

/-- A row agrees with no other for the key it was given. -/
theorem agreesOn_withKey (hcheck : checkKey t stored row = .ok ()) (hr : r ∈ stored) :
    r.AgreesOn columns (withKey t stored row) ↔ r.AgreesOn columns row := by
  rcases sent_or_keyless t row with hsent | ⟨hcontains, ht⟩
  · rw [withKey_of_sent hsent]
  rw [withKey_of_keyless hcontains ht]
  refine forall₂_congr fun column _ => ?_
  by_cases hcolumn : column = keyColumn
  · subst hcolumn
    rw [Fields.get?_insert_self, Row.get?_of_not_contains hcontains]
    refine iff_of_false ?_ fun ⟨_, _, _, hw, _⟩ => nomatch hw
    rintro ⟨v, w, hv, hw, -, heq⟩
    obtain rfl := Option.some.inj hw
    obtain rfl := eq_ofInt_of_beq heq
    have hlacks := lacksKey_of_keyless hcontains ht
    exact lt_irrefl _ (lt_nextKey hr hv (nextKey_le_of_checkKey hlacks hcheck))
  · rw [Fields.get?_insert_of_ne _ _ hcolumn]

/-! ### What comes of a stored row -/

/-- The last of the rows brings a key, if the table has such a column. -/
def BringsKey (t : Table) (others : List Row) : Prop :=
  keyColumn ∈ t.columns → ∀ row ∈ others.getLast?, row.contains keyColumn = true

/-- What has become of a stored row, others having been merged into it. -/
structure IsMerged (t : Table) (columns : List String) (row : Row) (others : List Row) (after : Row) : Prop where
  rest : ∀ column, column ≠ keyColumn → Fields.get? column after = row.merged? others column
  key : BringsKey t others → Fields.get? keyColumn after = row.merged? others keyColumn
  /-- A key that was given is a number of 64 bits, and greater than the one the row ought to have if that is one. -/
  given : ¬BringsKey t others → ∃ n ∈ Row.number? after, n ≤ Int64.maxValue.toInt ∧
    ∀ k, row.merged? others keyColumn = some (.ofInt k) → k ≤ Int64.maxValue.toInt → k < n
  alike : after = row ∨ after.AgreesOn columns row
  untouched : others = [] → after = row

variable {others : List Row} {after : Row}

theorem isMerged_nil : IsMerged t columns row [] row where
  rest _ _ := rfl
  key _ := rfl
  given h := absurd (fun _ _ hlast => nomatch hlast) h
  alike := .inl rfl
  untouched _ := rfl

/-- The row agrees with the same rows as before. -/
theorem IsMerged.agreesOn_iff (h : IsMerged t columns row others after) :
    after.AgreesOn columns r ↔ row.AgreesOn columns r := by
  rcases h.alike with rfl | halike
  · exact Iff.rfl
  · exact ⟨halike.symm.trans, halike.trans⟩

/-- **One row is merged** into what has become of a stored one. -/
theorem IsMerged.extend (h : IsMerged t columns row others after) (hr : r.IsOrdered) (hmem : after ∈ rows)
    (hcheck : checkKey t rows r = .ok ()) (hagrees : after.AgreesOn columns (withKey t rows r)) :
    IsMerged t columns row (others ++ [r]) (after.extend (withKey t rows r)) := by
  have hsent : (withKey t rows r).IsOrdered := isOrdered_withKey hr
  have hget (column : String) := Fields.get?_extend hsent after column
  refine ⟨fun column hcolumn => ?_, fun hkey => ?_, fun hkey => ?_, .inr ?_, fun hnil => by simp at hnil⟩
  · rw [hget, get?_withKey_of_ne hcolumn, h.rest column hcolumn, Row.merged?_concat]
  · rw [hget, Row.merged?_concat]
    cases hcontains : r.contains keyColumn with
    | true =>
      obtain ⟨v, hv⟩ := Option.isSome_iff_exists.mp hcontains
      rw [withKey_of_sent (.inl hcontains), hv]
      rfl
    | false =>
      have ht : keyColumn ∉ t.columns := fun ht => by simpa [hcontains] using hkey ht r (by simp)
      rw [withKey_of_sent (.inr ht), h.key fun ht' => absurd ht' ht]
  · obtain ⟨ht, hcontains⟩ : keyColumn ∈ t.columns ∧ r.contains keyColumn = false := by
      simpa [BringsKey] using hkey
    have hnumber : Row.number? (after.extend (withKey t rows r)) = some (nextKey rows) := by
      rw [Row.number?_eq_some, hget, withKey_of_keyless hcontains ht, Fields.get?_insert_self]
      rfl
    have hword := nextKey_le_of_checkKey (lacksKey_of_keyless hcontains ht) hcheck
    refine ⟨nextKey rows, hnumber, hword, fun k hk hhigh => ?_⟩
    -- The key that the row ought to have was sent by now, or is the one it had; a given one is beyond either.
    rw [Row.merged?_concat, Row.get?_of_not_contains hcontains] at hk
    replace hk : row.merged? others keyColumn = some (.ofInt k) := hk
    by_cases hbefore : BringsKey t others
    · rw [← h.key hbefore] at hk
      exact lt_nextKey hmem hk hhigh
    · obtain ⟨n, hn, hbelow, hless⟩ := h.given hbefore
      exact (hless k hk hhigh).trans (lt_nextKey hmem (Row.number?_eq_some.mp hn) hbelow)
  · have hback := hagrees.extend hsent
    rcases h.alike with rfl | halike
    · exact hback
    · exact hback.trans halike

/-- The key of a row into which others were merged is what it ought to be exactly if the last has brought it. -/
theorem IsMerged.key_iff (h : IsMerged t columns row others after) :
    Fields.get? keyColumn after = row.merged? others keyColumn ↔ BringsKey t others := by
  refine ⟨fun hkey => by_contra fun hgiven => ?_, h.key⟩
  obtain ⟨n, hn, hword, hless⟩ := h.given hgiven
  exact lt_irrefl n (hless n (hkey ▸ Row.number?_eq_some.mp hn) hword)

/-! ### Rows that are merged -/

/-- The rows of a body that are merged into the stored row at a position, the first that they agree with. -/
def mergedInto (columns : List String) (stored : List Row) (i : Nat) (rows : List Row) : List Row :=
  rows.filter fun row => stored.findIdx? (conflicts columns row) == some i

/-- Each stored row is what the rows merged into it have made of it. -/
def AreMerged (t : Table) (columns : List String) (stored seen rows : List Row) : Prop :=
  ∀ i row, stored[i]? = some row →
    ∃ after, rows[i]? = some after ∧ IsMerged t columns row (mergedInto columns stored i seen) after

/-- Where the same is true of two lists as far as the shorter goes, it is found in the same place. -/
theorem findIdx?_eq_some_iff_of_alike {α β : Type} {p : α → Bool} {q : β → Bool} {as : List α} {bs : List β}
    (h : ∀ (j : Nat) (a : α), as[j]? = some a → ∃ b, bs[j]? = some b ∧ q b = p a) {i : Nat} (hi : i < as.length) :
    as.findIdx? p = some i ↔ bs.findIdx? q = some i := by
  induction as generalizing bs i with
  | nil => exact absurd hi (Nat.not_lt_zero i)
  | cons a as ih =>
    obtain ⟨b, hb, hab⟩ := h 0 a rfl
    cases bs with
    | nil => exact nomatch hb
    | cons b' bs =>
      obtain rfl := Option.some.inj hb
      rw [List.findIdx?_cons, List.findIdx?_cons, hab]
      cases p a with
      | true => simp
      | false =>
        cases i with
        | zero => simp
        | succ i => simpa using ih (fun j => h (j + 1)) (Nat.lt_of_succ_lt_succ hi)

/-- **One row goes in**, merged if it agrees with a stored row. -/
theorem areMerged_put {seen : List Row} (hrow : row.IsOrdered)
    (h : staged.put name t columns (some .merge) row = .ok next)
    (hmerged : AreMerged t columns stored seen staged.rows) :
    AreMerged t columns stored (seen ++ [row]) next.rows := by
  have hcheck := (put_eq_ok.mp h).1
  -- What has become of the stored rows agrees with what they agreed with, so the first match is where it was.
  have hfound {i : Nat} (hi : i < stored.length) : stored.findIdx? (conflicts columns row) = some i ↔
      staged.rows.findIdx? (conflicts columns (withKey t staged.rows row)) = some i := by
    refine findIdx?_eq_some_iff_of_alike (fun j before hbefore => ?_) hi
    obtain ⟨after, hafter, hj⟩ := hmerged j before hbefore
    refine ⟨after, hafter, Bool.eq_iff_iff.mpr ?_⟩
    rw [conflicts_iff, conflicts_iff, hj.agreesOn_iff.symm, agreesOn_withKey hcheck (List.mem_of_getElem? hafter)]
  intro i before hbefore
  obtain ⟨hi, -⟩ := List.getElem?_eq_some_iff.mp hbefore
  obtain ⟨after, hafter, hold⟩ := hmerged i before hbefore
  have hinto : mergedInto columns stored i (seen ++ [row]) = mergedInto columns stored i seen ++
      if staged.rows.findIdx? (conflicts columns (withKey t staged.rows row)) = some i then [row] else [] := by
    unfold mergedInto
    rw [List.filter_append, List.filter_cons, List.filter_nil]
    exact congrArg _ (if_congr (beq_iff_eq.trans (hfound hi)) rfl rfl)
  rw [hinto]
  rcases rows_of_put h with ⟨hfind, hrows⟩ | ⟨j, hj, hfind, -, hrows⟩ | ⟨_, -, hskipped, -⟩
  · rw [hfind, hrows]
    refine ⟨after, ?_, by simpa using hold⟩
    rw [List.getElem?_append_left (List.getElem?_eq_some_iff.mp hafter).1, hafter]
  · rw [hfind, hrows]
    by_cases hij : j = i
    · subst hij
      obtain ⟨_, rfl⟩ := List.getElem?_eq_some_iff.mp hafter
      obtain ⟨_, hconflict, -⟩ := List.findIdx?_eq_some_iff_getElem.mp hfind
      refine ⟨_, List.getElem?_set_self hj, ?_⟩
      rw [if_pos rfl]
      exact hold.extend hrow (List.getElem_mem hj) hcheck (conflicts_iff.mp hconflict)
    · rw [if_neg (by simpa using hij), List.append_nil]
      exact ⟨after, by rw [List.getElem?_set_ne hij, hafter], hold⟩
  · exact nomatch hskipped

/-- **The rows of a body go in**, each merged if it agrees with a stored row. -/
theorem areMerged_putAll {seen : List Row} (hrows : ∀ row ∈ rows, Fields.IsOrdered row)
    (h : rows.foldlM (Staged.put name t columns (some .merge)) staged = .ok final)
    (hmerged : AreMerged t columns stored seen staged.rows) :
    AreMerged t columns stored (seen ++ rows) final.rows := by
  induction rows generalizing staged seen with
  | nil =>
    obtain rfl := Except.ok.inj h
    rwa [List.append_nil]
  | cons row rows ih =>
    obtain ⟨hrow, hrows⟩ := List.forall_mem_cons.mp hrows
    rw [List.foldlM_cons] at h
    obtain ⟨next, hnext, h⟩ := Chained.bind_eq_ok.mp h
    have hrest := ih hrows h (areMerged_put hrow hnext hmerged)
    rwa [List.append_assoc, List.singleton_append] at hrest

/-- If no earlier row agrees with the stored one at a position, the rows that agree with it are merged into it. -/
theorem mergedInto_eq {i : Nat} (hi : i < stored.length)
    (hfirst : ∀ r ∈ stored.take i, ¬r.AgreesOn columns stored[i]) :
    mergedInto columns stored i rows = rows.filter fun row => conflicts columns row stored[i] := by
  refine List.filter_congr fun row _ => Bool.eq_iff_iff.mpr ?_
  rw [beq_iff_eq, List.findIdx?_eq_some_iff_getElem]
  refine ⟨fun ⟨_, hconflict, _⟩ => hconflict, fun hconflict => ⟨hi, hconflict, fun j hj hearlier => ?_⟩⟩
  have hmem : stored[j] ∈ stored.take i := List.mem_take_iff_getElem.mpr ⟨j, by omega, rfl⟩
  exact hfirst _ hmem ((conflicts_iff.mp hearlier).trans (conflicts_iff.mp hconflict).symm)

/-- If an earlier one does, none is. -/
theorem mergedInto_eq_nil {i : Nat} (hi : i < stored.length) (hr : r ∈ stored.take i)
    (hagrees : r.AgreesOn columns stored[i]) : mergedInto columns stored i rows = [] := by
  refine List.filter_eq_nil_iff.mpr fun row _ hfound => ?_
  rw [beq_iff_eq, List.findIdx?_eq_some_iff_getElem] at hfound
  obtain ⟨_, hconflict, hfirst⟩ := hfound
  obtain ⟨j, hj, rfl⟩ := List.mem_take_iff_getElem.mp hr
  exact hfirst j (by omega) (conflicts_iff.mpr (hagrees.trans (conflicts_iff.mp hconflict)))

/-- None is, either, where none agrees with it. -/
theorem mergedInto_sublist {i : Nat} (hi : i < stored.length) :
    (mergedInto columns stored i rows).Sublist (rows.filter fun row => conflicts columns row stored[i]) := by
  refine List.monotone_filter_right rows fun row hfound => ?_
  rw [beq_iff_eq, List.findIdx?_eq_some_iff_getElem] at hfound
  exact hfound.2.1

end Store

variable {server : Server} {name : String} {t : Http.Target} {m : Http.Message} {p : Params}

/-! ### Requests -/

/-- **A merge changes the columns that were sent, and the key.** If rows are sent to a table to be merged and that is
answered with 201, then each stored row is where it was. It is what it was if no row that was sent agrees with it on
the conflict columns, or an earlier stored row does. Otherwise each of its columns holds what the last of the rows
that agree with it and have that column brings, or what it held if none has it; but its key does so exactly if the
last of them has brought one, or the table has no such column. -/
theorem respond_of_merge {incoming : List Row} (hroute : route t.path = .table name) (hmethod : m.method = "POST")
    (hread : Params.read t.query m.headers = .ok p) (hmerge : p.resolution = some .merge)
    (hrows : Store.rowsOfBody (m.body.getD []) = .ok incoming) (hstatus : server.status? t m = some 201) :
    ∃ table after, server.store.table? name = some table ∧
      (server.respond t m).2 = { server with store := server.store.setRows name table after } ∧
      ∀ i stored, table.rows[i]? = some stored → ∃ row, after[i]? = some row ∧
        let columns := p.conflict.getD [keyColumn]
        let others := incoming.filter fun sent => Store.conflicts columns sent stored
        (others = [] ∨ (∃ r ∈ table.rows.take i, r.AgreesOn columns stored) → row = stored) ∧
        ((∀ r ∈ table.rows.take i, ¬r.AgreesOn columns stored) →
          (∀ column, column ≠ keyColumn → Fields.get? column row = stored.merged? others column) ∧
          (Fields.get? keyColumn row = stored.merged? others keyColumn ↔ Store.BringsKey table others)) := by
  obtain ⟨table, staged, hstage, hserver⟩ := stage_of_status hroute hmethod hread hstatus
  obtain ⟨incoming', hincoming, htable, -, hput⟩ := Store.stage_eq_ok.mp hstage
  obtain rfl := Except.ok.inj (hrows.symm.trans hincoming)
  rw [hmerge] at hput
  have hstart : Store.AreMerged table (p.conflict.getD [keyColumn]) table.rows [] table.rows :=
    fun i row hrow => ⟨row, hrow, Store.isMerged_nil⟩
  have hmerged := Store.areMerged_putAll (Store.isOrdered_of_rowsOfBody hrows) hput hstart
  refine ⟨table, staged.rows, Store.table?_of_table htable, hserver, fun i stored hstored => ?_⟩
  obtain ⟨row, hrow, hafter⟩ := hmerged i stored hstored
  obtain ⟨hi, rfl⟩ := List.getElem?_eq_some_iff.mp hstored
  refine ⟨row, hrow, fun hnone => hafter.untouched ?_, fun hfirst => ?_⟩
  · rcases hnone with hnone | ⟨r, hr, hagrees⟩
    · have hsublist : (Store.mergedInto (p.conflict.getD [keyColumn]) table.rows i incoming).Sublist [] :=
        hnone ▸ Store.mergedInto_sublist hi
      exact List.sublist_nil.mp hsublist
    · exact Store.mergedInto_eq_nil hi hr hagrees
  · rw [Store.mergedInto_eq hi hfirst] at hafter
    exact ⟨hafter.rest, hafter.key_iff⟩

/-- A table of users, who have an address, a key and a name; there is one. -/
def oneUser : Server :=
  ⟨⟨[("users", .ofRows [[("email", .str "a"), ("id", .ofInt 1), ("name", .str "x")]])], []⟩, none, [], ⟨0⟩⟩

def usersByAddress : Http.Target := ⟨['/', 'u', 's', 'e', 'r', 's'], "on_conflict=email"⟩

/-- Rows of a body that are to be merged into those with the same address. -/
def mergedByAddress (body : String) : Http.Message :=
  ⟨"POST", "/users?on_conflict=email", [("prefer", "resolution=merge-duplicates")], some (Text.Utf8.encode body)⟩

/-- A new name without a key, then the key of the user. -/
def renamedWithKey : Http.Message :=
  mergedByAddress "[\x7b\"email\":\"a\",\"name\":\"y\"\x7d,\x7b\"email\":\"a\",\"id\":1\x7d]"

/-- The user has the new name afterwards, and the key. -/
theorem respond_renamedWithKey :
    oneUser.status? usersByAddress renamedWithKey = some 201 ∧
      ((oneUser.respond usersByAddress renamedWithKey).2.store.rows "users").map
        (fun row => (Row.number? row, (row.cell "name").toText)) = [(some 1, "y")] ∧
      ∃ table after, oneUser.store.table? "users" = some table ∧
        (oneUser.respond usersByAddress renamedWithKey).2 =
          { oneUser with store := oneUser.store.setRows "users" table after } ∧
        ∀ i stored, table.rows[i]? = some stored → ∃ row, after[i]? = some row ∧
          let others := [[("email", .str "a"), ("name", .str "y")], [("email", .str "a"), ("id", .ofInt 1)]].filter
            fun sent => Store.conflicts ["email"] sent stored
          (others = [] ∨ (∃ r ∈ table.rows.take i, r.AgreesOn ["email"] stored) → row = stored) ∧
          ((∀ r ∈ table.rows.take i, ¬r.AgreesOn ["email"] stored) →
            (∀ column, column ≠ keyColumn → Fields.get? column row = stored.merged? others column) ∧
            (Fields.get? keyColumn row = stored.merged? others keyColumn ↔ Store.BringsKey table others)) := by
  have hstatus : oneUser.status? usersByAddress renamedWithKey = some 201 := by decide +kernel
  have hroute : route usersByAddress.path = .table "users" := by decide +kernel
  have hread : Params.read usersByAddress.query renamedWithKey.headers =
      .ok { Params.empty with conflict := some ["email"], resolution := some .merge } := by cbv
  have hrows : Store.rowsOfBody (renamedWithKey.body.getD []) =
      .ok [[("email", .str "a"), ("name", .str "y")], [("email", .str "a"), ("id", .ofInt 1)]] := by cbv
  exact ⟨hstatus, by decide +kernel, respond_of_merge hroute rfl hread rfl hrows hstatus⟩

/-- A new name without a key. -/
def renamed : Http.Message := mergedByAddress "\x7b\"email\":\"a\",\"name\":\"y\"\x7d"

/-- The user has another key afterwards, though none was sent. -/
theorem merge_changes_key :
    oneUser.status? usersByAddress renamed = some 201 ∧
      Store.rowsOfBody (renamed.body.getD []) = .ok [[("email", .str "a"), ("name", .str "y")]] ∧
      ∃ stored row, (oneUser.store.rows "users")[0]? = some stored ∧
        ((oneUser.respond usersByAddress renamed).2.store.rows "users")[0]? = some row ∧
        stored.AgreesOn ["email"] [("email", .str "a"), ("name", .str "y")] ∧
        Fields.get? keyColumn row ≠ stored.merged? [[("email", .str "a"), ("name", .str "y")]] keyColumn := by
  have hafter : ((oneUser.respond usersByAddress renamed).2.store.rows "users")[0]?.bind Row.number? = some 2 := by
    decide +kernel
  obtain ⟨row, hrow, hnumber⟩ := Option.bind_eq_some_iff.mp hafter
  refine ⟨by decide +kernel, by cbv, [("email", .str "a"), ("id", .ofInt 1), ("name", .str "x")], row, rfl, hrow,
    Store.conflicts_iff.mp (by decide +kernel), fun heq => ?_⟩
  have hkeys : some (Json.ofInt 2) = some (Json.ofInt 1) := (Row.number?_eq_some.mp hnumber).symm.trans heq
  simp [Json.ofInt] at hkeys

end TableQuery.Server
