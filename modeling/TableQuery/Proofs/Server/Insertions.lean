import TableQuery.Proofs.Server.KeyedTables
import TableQuery.Proofs.Server.Refusals

/-! Rows that are inserted.

Each row goes behind those that are there, and meets no row that agrees with it on the conflict columns
(`Row.AgreesOn`); where it came without a key and the table has the column it is given one, greater than every integer
that is a key before it (`Store.StandsAfter`). One row goes in so or is turned down (`Store.put_of_unresolved`), and
the rows of a body one after the other (`Store.rows_putAll`). They are put into the table only if all of them have
gone in, and nothing but a row that is there already is answered as a conflict
(`Store.status_of_project_error`): so a conflict leaves the tables as they are (`respond_of_insertion`). -/
namespace TableQuery.Server

namespace Row

/-- Both rows have the same value, and not null, in each of the columns. -/
def AgreesOn (columns : List String) (a b : Row) : Prop :=
  ∀ c ∈ columns, ∃ v w, Fields.get? c a = some v ∧ Fields.get? c b = some w ∧ v.isNull = false ∧ (v == w) = true

/-- The key of a row, if it is an integer. -/
def number? (row : Row) : Option Int :=
  match Fields.get? keyColumn row with
  | some (.num (.int n)) => some n
  | _ => none

variable {columns : List String} {a b c : Row}

theorem number?_eq_some {n : Int} : a.number? = some n ↔ Fields.get? keyColumn a = some (.ofInt n) := by
  unfold number?
  split
  · next m hm =>
    rw [hm, Option.some_inj, Option.some_inj]
    exact ⟨fun h => h ▸ rfl, fun h => Number.int.inj (Json.num.inj h)⟩
  · next hother => exact iff_of_false (fun h => nomatch h) fun h => hother n h

theorem AgreesOn.symm (h : a.AgreesOn columns b) : b.AgreesOn columns a := by
  intro column hcolumn
  obtain ⟨v, w, hv, hw, hnull, heq⟩ := h column hcolumn
  exact ⟨w, v, hw, hv, (Json.isNull_eq_of_beq heq).symm.trans hnull, BEq.symm heq⟩

theorem AgreesOn.trans (hab : a.AgreesOn columns b) (hbc : b.AgreesOn columns c) : a.AgreesOn columns c := by
  intro column hcolumn
  obtain ⟨v, w, hv, hw, hnull, hvw⟩ := hab column hcolumn
  obtain ⟨w', x, hw', hx, -, hwx⟩ := hbc column hcolumn
  obtain rfl := Option.some_inj.mp (hw.symm.trans hw')
  exact ⟨v, x, hv, hx, hnull, BEq.trans hvw hwx⟩

end Row

namespace Store
variable {s : Store} {p : Params} {name : String} {row : Row} {r : Rejection}

theorem conflicts_iff {columns : List String} {stored : Row} :
    conflicts columns row stored = true ↔ stored.AgreesOn columns row := by
  unfold conflicts
  rw [List.all_eq_true]
  refine forall₂_congr fun column _ => ⟨fun h => ?_, ?_⟩
  · split at h
    · next v w hv hw =>
      obtain ⟨hnull, heq⟩ := (Bool.and_eq_true _ _).mp h
      exact ⟨v, w, hv, hw, (Bool.not_eq_true' _).mp hnull, heq⟩
    · exact nomatch h
  · rintro ⟨v, w, hv, hw, hnull, heq⟩
    rw [hv, hw]
    simp [hnull, heq]

/-! ### What is answered as a conflict -/

/-- Rows that cannot be returned are no conflict. -/
theorem status_of_project_error {rows : List Row} (h : s.project p name rows = .error (.refused r)) :
    r.status ≠ 409 := by
  cases misses_of_project_error h <;> simp [Rejection.status]

/-! ### Rows that go in -/

/-- How a row of a body stands in the table, behind the rows that were there before it. -/
structure StandsAfter (t : Table) (columns : List String) (earlier : List Row) (row stored : Row) : Prop where
  /-- A row that brings a key stands there as it was sent; so does any, if the table has no such column. -/
  sent : row.contains keyColumn = true ∨ keyColumn ∉ t.columns → stored = row
  /-- Another has been given a key besides, greater than every integer that is one before it. -/
  numbered : row.contains keyColumn = false → keyColumn ∈ t.columns →
    ∃ n, stored = row.insert keyColumn (.ofInt n) ∧ ∀ r ∈ earlier, ∀ k ∈ Row.number? r, k < n
  /-- No row before it agrees with it on the columns. -/
  alone : ∀ r ∈ earlier, ¬r.AgreesOn columns stored

/-- The greatest word is no key of a row. -/
def HaveRoom (rows : List Row) : Prop := ∀ row ∈ rows, ∀ n ∈ Row.number? row, n < Int64.maxValue.toInt

instance (rows : List Row) : Decidable (HaveRoom rows) :=
  inferInstanceAs (Decidable (∀ row ∈ rows, ∀ n ∈ Row.number? row, n < Int64.maxValue.toInt))

variable {t : Table} {columns : List String} {staged next final : Staged} {rows stored : List Row}

theorem withKey_of_sent (h : row.contains keyColumn = true ∨ keyColumn ∉ t.columns) : withKey t stored row = row := by
  unfold withKey lacksKey
  rcases h with h | h <;> simp [h]

theorem lacksKey_of_keyless (hrow : row.contains keyColumn = false) (ht : keyColumn ∈ t.columns) :
    lacksKey t row = true := by
  simp [lacksKey, hrow, ht]

theorem withKey_of_keyless (hrow : row.contains keyColumn = false) (ht : keyColumn ∈ t.columns) :
    withKey t stored row = row.insert keyColumn (.ofInt (nextKey stored)) := by
  rw [withKey, lacksKey_of_keyless hrow ht, if_pos rfl]

/-- A row stands as it was sent, or has been given a key. -/
theorem sent_or_keyless (t : Table) (row : Row) : (row.contains keyColumn = true ∨ keyColumn ∉ t.columns) ∨
    row.contains keyColumn = false ∧ keyColumn ∈ t.columns := by
  by_cases ht : keyColumn ∈ t.columns <;> cases row.contains keyColumn <;> simp [ht]

theorem lt_nextKey_of_haveRoom (hroom : HaveRoom rows) (hr : row ∈ rows) {k : Int} (hk : k ∈ row.number?) :
    k < nextKey rows :=
  lt_nextKey hr (Row.number?_eq_some.mp hk) (hroom row hr k hk).le

/-- **One row goes in** behind those that are there, where nothing is said of what to do about a conflict. -/
theorem put_of_unresolved (h : staged.put name t columns none row = .ok next) (hroom : HaveRoom staged.rows) :
    ∃ stored, next.rows = staged.rows ++ [stored] ∧ StandsAfter t columns staged.rows row stored := by
  rcases rows_of_put h with ⟨hfind, hrows⟩ | ⟨_, _, -, hmerged, -⟩ | ⟨_, -, hskipped, -⟩
  · refine ⟨_, hrows, withKey_of_sent, fun hrow ht => ?_, fun r hr hagrees => ?_⟩
    · exact ⟨_, withKey_of_keyless hrow ht, fun r hr k => lt_nextKey_of_haveRoom hroom hr⟩
    · have hnone := List.findIdx?_eq_none_iff.mp hfind r hr
      rw [conflicts_iff.mpr hagrees] at hnone
      exact nomatch hnone
  · exact nomatch hmerged
  · exact nomatch hskipped

/-- **The rows of a body go in** one after the other, each behind those before it. -/
theorem rows_putAll (h : rows.foldlM (Staged.put name t columns none) staged = .ok final)
    (hroom : HaveRoom final.rows) :
    ∃ inserted, final.rows = staged.rows ++ inserted ∧ inserted.length = rows.length ∧
      ∀ i row stored, rows[i]? = some row → inserted[i]? = some stored →
        StandsAfter t columns (staged.rows ++ inserted.take i) row stored := by
  induction rows generalizing staged with
  | nil =>
    obtain rfl := Except.ok.inj h
    exact ⟨[], (List.append_nil _).symm, rfl, fun i row stored hi => by simp at hi⟩
  | cons row rows ih =>
    have hbefore : HaveRoom staged.rows := fun r hr =>
      hroom r ((sublist_putAll (by simp) h).mem hr)
    rw [List.foldlM_cons] at h
    obtain ⟨next, hnext, h⟩ := Chained.bind_eq_ok.mp h
    obtain ⟨stored, hrows, hstands⟩ := put_of_unresolved hnext hbefore
    obtain ⟨inserted, hfinal, hlength, hrest⟩ := ih h
    refine ⟨stored :: inserted, by rw [hfinal, hrows, List.append_assoc]; rfl, by simp [hlength], ?_⟩
    intro i row' stored' hrow' hstored'
    cases i with
    | zero =>
      obtain rfl := Option.some.inj hrow'
      obtain rfl := Option.some.inj hstored'
      simpa using hstands
    | succ i => simpa [hrows] using hrest i row' stored' hrow' hstored'

end Store

variable {server : Server} {name : String} {t : Http.Target} {m : Http.Message} {p : Params}

/-! ### Requests -/

/-- An insertion that was admitted is answered, and leaves the store, as the store says. -/
theorem respond_of_post (hroute : route t.path = .table name) (hmethod : m.method = "POST")
    (hvet : server.vet m.method name t.query m.headers = .ok p) :
    server.status? t m = (responseOf (server.store.insert p name (m.body.getD [])).1).map Http.Response.status ∧
      (server.respond t m).2 = { server with store := (server.store.insert p name (m.body.getD [])).2 } := by
  have hprocess : server.process m.method name t.query m.headers (m.body.getD []) =
      server.store.insert p name (m.body.getD []) := by
    rw [hmethod] at hvet ⊢
    exact process_post hvet
  rw [← hprocess]
  exact respond_of_route server m hroute

/-- One that succeeds was admitted, and each row of its body has gone in. -/
theorem stage_of_status (hroute : route t.path = .table name) (hmethod : m.method = "POST")
    (hread : Params.read t.query m.headers = .ok p) (h : server.status? t m = some 201) :
    ∃ table staged, server.store.stage p name (m.body.getD []) = .ok (table, staged) ∧
      (server.respond t m).2 = { server with store := server.store.setRows name table staged.rows } := by
  have haccepts : server.Accepts t m := ⟨201, h, by decide⟩
  obtain ⟨reply, hreply, -⟩ := haccepts.exists_reply hroute
  cases hvet : server.vet m.method name t.query m.headers with
  | error r =>
    rw [process_of_vet_error hvet] at hreply
    exact nomatch hreply
  | ok p' =>
    obtain rfl := Except.ok.inj (hread.symm.trans (read_of_vet hvet))
    obtain ⟨-, hserver⟩ := respond_of_post hroute hmethod hvet
    rw [hmethod] at hvet
    rw [hmethod, process_post hvet] at hreply
    cases hstage : server.store.stage p name (m.body.getD []) with
    | error halt =>
      rw [Store.insert_of_stage_error hstage] at hreply
      exact nomatch hreply
    | ok x =>
      rw [Store.insert_snd_of_ok hstage] at hserver
      exact ⟨x.1, x.2, rfl, hserver⟩

/-- One that meets a conflict leaves everything as it is. -/
theorem respond_of_conflict (hroute : route t.path = .table name) (hmethod : m.method = "POST")
    (h : server.status? t m = some 409) : (server.respond t m).2 = server := by
  cases hvet : server.vet m.method name t.query m.headers with
  | error r => rw [(respond_of_route server m hroute).2, process_of_vet_error hvet]
  | ok p =>
    obtain ⟨hstatus, hserver⟩ := respond_of_post hroute hmethod hvet
    cases hstage : server.store.stage p name (m.body.getD []) with
    | error r => rw [hserver, Store.insert_of_stage_error hstage]
    | ok x =>
      obtain ⟨table, staged⟩ := x
      rw [hstatus] at h
      unfold Store.insert at h
      rw [hstage] at h
      dsimp only at h
      cases hwritten : (server.store.setRows name table staged.rows).written p name 201 201 staged.affected with
      | ok reply =>
        rw [hwritten] at h
        obtain hconflict : reply.status = 409 := Option.some.inj h
        rcases Store.status_of_written hwritten with hcreated | hcreated <;>
          exact absurd (hcreated.symm.trans hconflict) (by decide)
      | error halt =>
        rw [hwritten] at h
        cases halt with
        | refused r =>
          exact absurd (Option.some.inj h) (Store.status_of_project_error (Store.project_of_written_error hwritten).2)
        | overflow => exact nomatch h

/-- **Insertions append or change nothing.** If rows are sent to a table without a word on what to do about a
conflict and that is answered with 201, then they stand behind the rows that were there, in their order: each as it
was sent, but with a key greater than every integer that is a key before it where it came without and the table has
the column, and none agreeing with a row before it on the conflict columns. If it is answered with 409, everything
is as it was. -/
theorem respond_of_insertion {incoming : List Row} (hroute : route t.path = .table name)
    (hmethod : m.method = "POST") (hread : Params.read t.query m.headers = .ok p) (hunresolved : p.resolution = none)
    (hrows : Store.rowsOfBody (m.body.getD []) = .ok incoming) :
    (server.status? t m = some 201 → Store.HaveRoom ((server.respond t m).2.store.rows name) →
      ∃ table inserted, server.store.table? name = some table ∧
        (server.respond t m).2 =
          { server with store := server.store.setRows name table (table.rows ++ inserted) } ∧
        inserted.length = incoming.length ∧
        ∀ i row stored, incoming[i]? = some row → inserted[i]? = some stored →
          Store.StandsAfter table (p.conflict.getD [keyColumn]) (table.rows ++ inserted.take i) row stored) ∧
      (server.status? t m = some 409 → (server.respond t m).2 = server) := by
  refine ⟨fun hstatus hroom => ?_, respond_of_conflict hroute hmethod⟩
  obtain ⟨table, staged, hstage, hserver⟩ := stage_of_status hroute hmethod hread hstatus
  obtain ⟨incoming', hincoming, htable, -, hput⟩ := Store.stage_eq_ok.mp hstage
  obtain rfl := Except.ok.inj (hrows.symm.trans hincoming)
  rw [hunresolved] at hput
  rw [hserver, Store.rows_setRows] at hroom
  obtain ⟨inserted, hfinal, hlength, hstands⟩ := Store.rows_putAll hput hroom
  exact ⟨table, inserted, Store.table?_of_table htable, hfinal ▸ hserver, hlength, hstands⟩

/-- An insertion of three rows under the column `n` as the conflict target; the second brings a key. -/
def threeRows : Http.Message :=
  ⟨"POST", "/t?on_conflict=n", [], some (Text.Utf8.encode "[\x7b\"n\":7\x7d,\x7b\"id\":9,\"n\":8\x7d,\x7b\"n\":9\x7d]")⟩

/-- They stand behind the two that were there, the first with the key 3 and the last with the key 10. -/
theorem respond_threeRows :
    twoRows.status? ⟨['/', 't'], "on_conflict=n"⟩ threeRows = some 201 ∧
      ((twoRows.respond ⟨['/', 't'], "on_conflict=n"⟩ threeRows).2.store.rows "t").map Row.number? =
        [some 1, some 2, some 3, some 9, some 10] ∧
      ∃ table inserted, twoRows.store.table? "t" = some table ∧
        (twoRows.respond ⟨['/', 't'], "on_conflict=n"⟩ threeRows).2 =
          { twoRows with store := twoRows.store.setRows "t" table (table.rows ++ inserted) } ∧
        inserted.length = 3 ∧
        ∀ i row stored, [[("n", Json.ofInt 7)], [("id", .ofInt 9), ("n", .ofInt 8)], [("n", .ofInt 9)]][i]? = some row →
          inserted[i]? = some stored →
          Store.StandsAfter table ["n"] (table.rows ++ inserted.take i) row stored := by
  have hstatus : twoRows.status? ⟨['/', 't'], "on_conflict=n"⟩ threeRows = some 201 := by decide +kernel
  refine ⟨hstatus, by decide +kernel, ?_⟩
  have hread : Params.read "on_conflict=n" [] = .ok { Params.empty with conflict := some ["n"] } := by cbv
  have hrows : Store.rowsOfBody (threeRows.body.getD []) =
      .ok [[("n", .ofInt 7)], [("id", .ofInt 9), ("n", .ofInt 8)], [("n", .ofInt 9)]] := by cbv
  have hroute : route ['/', 't'] = .table "t" := by decide +kernel
  have hroom : Store.HaveRoom
      ((twoRows.respond ⟨['/', 't'], "on_conflict=n"⟩ threeRows).2.store.rows "t") := by decide +kernel
  exact (respond_of_insertion hroute rfl hread rfl hrows).1 hstatus hroom

end TableQuery.Server
