import TableQuery.Proofs.Server.KeyedTables

/-! What a request is turned down for.

While rows are looked for and returned each cause is something that the store has not (`Store.Misses`): a table, a
column that the table accepts, one link between two tables, or a test that can be made. A row is projected item by
item and an embedded row like any other, so whatever fails in the end was missed by one of the steps
(`Store.misses_of_project_error`). A write looks at the columns of its rows too; where any request is turned down for a
column, the table is there and does not take it for one of its own (`justifies_of_process_error`). -/
namespace TableQuery.Server

/-- The table and the column of a rejection that is about a column. -/
def Rejection.column? : Rejection → Option (String × String)
  | .unknownColumn table column | .unknownPayloadColumn table column => some (table, column)
  | _ => none

namespace Store
variable {s : Store} {p : Params} {name path : String} {body : List UInt8} {t : Table} {row : Row} {rows : List Row}
  {r : Rejection}

/-- There is such a table, and it does not take the name for one of its columns. -/
def LacksColumn (s : Store) (name column : String) : Prop :=
  ∃ t, s.table? name = some t ∧ t.accepts column = false

/-- What a store turns a reader down with. -/
inductive Misses (s : Store) : Rejection → Prop where
  | table {name : String} (h : s.table? name = none) : s.Misses (.unknownTable name)
  | column {name column : String} (h : s.LacksColumn name column) : s.Misses (.unknownColumn name column)
  | link {parent child : String} {hint : Option String} (h : s.link parent child hint = .error (.noLink parent child)) :
    s.Misses (.noLink parent child)
  | oneLink {parent child : String} {hint : Option String}
    (h : s.link parent child hint = .error (.ambiguousLink parent child)) : s.Misses (.ambiguousLink parent child)
  | test (fault : SyntaxFault) : s.Misses (.syntaxFault fault)

theorem misses_of_table_error (h : s.table name = .error r) : s.Misses r := by
  unfold table at h
  split at h
  · exact nomatch h
  · next hnone =>
    obtain rfl := Except.error.inj h
    exact .table hnone

theorem misses_of_link_error {parent child : String} {hint : Option String}
    (h : s.link parent child hint = .error r) : s.Misses r := by
  have hlink := h
  unfold link at h
  dsimp only at h
  split at h
  · obtain rfl := Except.error.inj h
    exact .link hlink
  · exact nomatch h
  · obtain rfl := Except.error.inj h
    exact .oneLink hlink

theorem misses_of_checkColumns_error {conditions : List Condition} {order : List OrderTerm}
    (ht : s.table? name = some t) (h : checkColumns name t conditions order = .error r) : s.Misses r := by
  unfold checkColumns at h
  dsimp only at h
  split at h
  · next column hfind =>
    obtain rfl := Except.error.inj h
    exact .column ⟨t, ht, by simpa using List.find?_some hfind⟩
  · cases h

theorem misses_of_matching_error {rows : List Row} {scope : Scope} (ht : s.table? name = some t)
    (h : matching name t rows scope = .error r) : s.Misses r := by
  unfold matching at h
  rcases Chained.bind_eq_error.mp h with h | ⟨_, -, h⟩
  · exact misses_of_checkColumns_error ht h
  rcases Chained.bind_eq_error.mp h with h | ⟨_, -, h⟩
  · unfold Params.orSyntax at h
    split at h
    · exact nomatch h
    · obtain rfl := Except.error.inj h
      exact .test _
  · exact nomatch h

/-- A part of the work that is turned down is turned down for what it is itself. -/
theorem refusal_of_orRefusal {α : Type} {x : Except Rejection α} (h : orRefusal x = .error (.refused r)) :
    x = .error r := by
  obtain ⟨r', hx, hr⟩ := orRefusal_eq_error.mp h
  rw [hx, Halt.refused.inj hr]

/-- No window is turned down. -/
theorem checkWindow_ne_refused : p.checkWindow path ≠ .error (.refused r) := by
  unfold Params.checkWindow
  split <;> simp

theorem misses_of_related_error {parent child : String} {hint : Option String}
    (h : s.related p path parent child hint row = .error (.refused r)) : s.Misses r := by
  unfold related at h
  rcases Chained.bind_eq_error.mp h with h | ⟨l, -, h⟩
  · exact misses_of_link_error (refusal_of_orRefusal h)
  rcases Chained.bind_eq_error.mp h with h | ⟨t, ht, h⟩
  · exact misses_of_table_error (refusal_of_orRefusal h)
  rcases Chained.bind_eq_error.mp h with h | ⟨kept, -, h⟩
  · exact misses_of_matching_error (table?_of_table (orRefusal_eq_ok.mp ht)) (refusal_of_orRefusal h)
  rcases Chained.bind_eq_error.mp h with h | ⟨_, -, h⟩
  · exact absurd h checkWindow_ne_refused
  · exact nomatch h

mutual

theorem misses_of_projectItem_error {path name : String} {row : Row} {out : Fields} (item : Projection)
    (h : s.projectItem p path name row out item = .error (.refused r)) : s.Misses r := by
  cases item with
  | star => exact nomatch h
  | column key column cast =>
    rcases Chained.bind_eq_error.mp h with h | ⟨t, ht, h⟩
    · exact misses_of_table_error (refusal_of_orRefusal h)
    split at h
    · exact nomatch h
    · next haccepts =>
      obtain rfl := Halt.refused.inj (Except.error.inj h)
      exact .column ⟨t, table?_of_table (orRefusal_eq_ok.mp ht), by simpa using haccepts⟩
  | embed key child hint inner items =>
    rcases Chained.bind_eq_error.mp h with h | ⟨⟨l, rows⟩, -, h⟩
    · exact misses_of_related_error h
    rcases Chained.bind_eq_error.mp h with h | ⟨projected, -, h⟩
    · obtain ⟨c, -, h⟩ := Chained.exists_of_filterMapM_eq_error h
      rcases Chained.bind_eq_error.mp h with h | ⟨fields, -, h⟩
      · exact misses_of_projectItems_error items h
      · exact nomatch h
    · exact nomatch h

theorem misses_of_projectItems_error {path name : String} {row : Row} {out : Fields} (items : List Projection)
    (h : s.projectItems p path name row out items = .error (.refused r)) : s.Misses r := by
  cases items with
  | nil => exact nomatch h
  | cons item items =>
    rcases Chained.bind_eq_error.mp h with h | ⟨out', -, h⟩
    · exact misses_of_projectItem_error item h
    cases out' with
    | none => exact nomatch h
    | some out' => exact misses_of_projectItems_error items h

end

/-- Rows that cannot be returned lack something that was asked for. -/
theorem misses_of_project_error {rows : List Row} (h : s.project p name rows = .error (.refused r)) :
    s.Misses r := by
  obtain ⟨row, -, h⟩ := Chained.exists_of_filterMapM_eq_error h
  rcases Chained.bind_eq_error.mp h with h | ⟨fields, -, h⟩
  · exact misses_of_projectItems_error p.items h
  · exact nomatch h

/-- So do rows that cannot be found. -/
theorem misses_of_read_error {headOnly : Bool} (h : s.read p name headOnly = .error (.refused r)) :
    s.Misses r := by
  unfold read at h
  rcases Chained.bind_eq_error.mp h with h | ⟨t, ht, h⟩
  · exact misses_of_table_error (refusal_of_orRefusal h)
  rcases Chained.bind_eq_error.mp h with h | ⟨matched, -, h⟩
  · exact misses_of_matching_error (table?_of_table (orRefusal_eq_ok.mp ht)) (refusal_of_orRefusal h)
  rcases Chained.bind_eq_error.mp h with h | ⟨rows, -, h⟩
  · exact misses_of_project_error h
  rcases Chained.bind_eq_error.mp h with h | ⟨_, -, h⟩
  · exact absurd h checkWindow_ne_refused
  · exact nomatch h

/-! ### Rejections about a column -/

/-- A write leaves the columns of its table. -/
theorem lacksColumn_of_setRows {other column : String} (ht : s.table? name = some t)
    (h : (s.setRows name t rows).LacksColumn other column) : s.LacksColumn other column := by
  obtain ⟨u, hu, hrefuses⟩ := h
  by_cases hother : other = name
  · rw [hother, table?_setRows] at hu
    obtain rfl := Option.some.inj hu
    exact ⟨t, hother ▸ ht, hrefuses⟩
  · rw [table?_setRows_of_ne s t rows hother] at hu
    exact ⟨u, hu, hrefuses⟩

/-- Where the rejection is about a column, the store has the table and not the column. -/
def Justifies (s : Store) (r : Rejection) : Prop :=
  ∀ name column, r.column? = some (name, column) → s.LacksColumn name column

theorem justifies_of_column?_eq_none (h : r.column? = none) : s.Justifies r :=
  fun _ _ hcolumn => nomatch h.symm.trans hcolumn

theorem Misses.justifies (h : s.Misses r) : s.Justifies r := by
  cases h with
  | column hlacks =>
    intro _ _ hcolumn
    obtain ⟨rfl, rfl⟩ := Prod.mk.inj (Option.some.inj hcolumn)
    exact hlacks
  | table _ | link _ | oneLink _ | test _ => exact justifies_of_column?_eq_none rfl

theorem justifies_of_orBody_error {α : Type} {x : Except BodyFault α} (h : orBody x = .error r) :
    s.Justifies r := by
  cases x with
  | ok _ => exact nomatch h
  | error fault =>
    obtain rfl := Except.error.inj h
    exact justifies_of_column?_eq_none rfl

theorem justifies_of_checkPayload_error (ht : s.table? name = some t)
    (h : checkPayload name t row = .error r) : s.Justifies r := by
  unfold checkPayload at h
  split at h
  · next column hfind =>
    obtain rfl := Except.error.inj h
    intro _ _ hcolumn
    obtain ⟨rfl, rfl⟩ := Prod.mk.inj (Option.some.inj hcolumn)
    exact ⟨t, ht, by simpa using List.find?_some hfind⟩
  · cases h

theorem justifies_of_put_error {conflict : List String} {resolution : Option Resolution} {staged : Staged}
    (h : staged.put name t conflict resolution row = .error (.refused r)) : s.Justifies r := by
  unfold Staged.put at h
  rcases Chained.bind_eq_error.mp h with h | ⟨_, -, h⟩
  · unfold checkKey at h
    split at h <;> cases h
  replace h := refusal_of_orRefusal h
  unfold Staged.place at h
  split at h
  · exact nomatch h
  · exact nomatch h
  · exact nomatch h
  · obtain rfl := Except.error.inj h
    exact justifies_of_column?_eq_none rfl

theorem justifies_of_stage_error (h : s.stage p name body = .error (.refused r)) : s.Justifies r := by
  unfold stage at h
  rcases Chained.bind_eq_error.mp h with h | ⟨incoming, -, h⟩
  · exact justifies_of_orBody_error (refusal_of_orRefusal h)
  rcases Chained.bind_eq_error.mp h with h | ⟨t, ht, h⟩
  · exact (misses_of_table_error (refusal_of_orRefusal h)).justifies
  rcases Chained.bind_eq_error.mp h with h | ⟨_, -, h⟩
  · obtain ⟨row, -, h⟩ := Chained.exists_of_forM_eq_error (refusal_of_orRefusal h)
    exact justifies_of_checkPayload_error (table?_of_table (orRefusal_eq_ok.mp ht)) h
  rcases Chained.bind_eq_error.mp h with h | ⟨staged, -, h⟩
  · obtain ⟨_, row, -, h⟩ := Chained.exists_of_foldlM_eq_error h
    exact justifies_of_put_error h
  · exact nomatch h

theorem justifies_of_checkUpdate_error (h : s.checkUpdate p name body = .error r) :
    s.Justifies r := by
  unfold checkUpdate at h
  rcases Chained.bind_eq_error.mp h with h | ⟨patch, -, h⟩
  · exact justifies_of_orBody_error h
  rcases Chained.bind_eq_error.mp h with h | ⟨t, ht, h⟩
  · exact (misses_of_table_error h).justifies
  rcases Chained.bind_eq_error.mp h with h | ⟨_, -, h⟩
  · exact (misses_of_checkColumns_error (table?_of_table ht) h).justifies
  rcases Chained.bind_eq_error.mp h with h | ⟨_, -, h⟩
  · exact justifies_of_checkPayload_error (table?_of_table ht) h
  · exact nomatch h

theorem justifies_of_checkDelete_error (h : s.checkDelete p name = .error r) : s.Justifies r := by
  unfold checkDelete at h
  rcases Chained.bind_eq_error.mp h with h | ⟨t, ht, h⟩
  · exact (misses_of_table_error h).justifies
  rcases Chained.bind_eq_error.mp h with h | ⟨_, -, h⟩
  · exact (misses_of_checkColumns_error (table?_of_table ht) h).justifies
  · exact nomatch h

/-- Rows that cannot be returned after a write lack what they lacked before it. -/
theorem justifies_of_written_error {full bare : Nat} {affected : List Row}
    (ht : s.table? name = some t)
    (h : (s.setRows name t rows).written p name full bare affected = .error (.refused r)) : s.Justifies r := by
  obtain ⟨-, hproject⟩ := project_of_written_error h
  intro other column hcolumn
  exact lacksColumn_of_setRows ht ((misses_of_project_error hproject).justifies other column hcolumn)

theorem justifies_of_insert_error (h : (s.insert p name body).1 = .error (.refused r)) : s.Justifies r := by
  unfold insert at h
  split at h
  · next halt hstage =>
    obtain rfl : halt = .refused r := Except.error.inj h
    exact justifies_of_stage_error hstage
  · next t staged hstage =>
    obtain ⟨_, -, ht, -⟩ := stage_eq_ok.mp hstage
    exact justifies_of_written_error (table?_of_table ht) h

theorem justifies_of_update_error (h : (s.update p name body).1 = .error (.refused r)) : s.Justifies r := by
  unfold update at h
  split at h
  · next r' hcheck =>
    obtain rfl := Halt.refused.inj (Except.error.inj h)
    exact justifies_of_checkUpdate_error hcheck
  · next t patch hcheck =>
    dsimp only at h
    split at h
    · obtain rfl := Halt.refused.inj (Except.error.inj h)
      exact justifies_of_column?_eq_none rfl
    · exact justifies_of_written_error (table?_of_table (checkUpdate_eq_ok.mp hcheck).2.1) h

theorem justifies_of_delete_error (h : (s.delete p name).1 = .error (.refused r)) : s.Justifies r := by
  unfold delete at h
  split at h
  · next r' hcheck =>
    obtain rfl := Halt.refused.inj (Except.error.inj h)
    exact justifies_of_checkDelete_error hcheck
  · next t hcheck =>
    split at h
    · obtain rfl := Halt.refused.inj (Except.error.inj h)
      exact justifies_of_column?_eq_none rfl
    · exact justifies_of_written_error (table?_of_table (table_of_checkDelete hcheck)) h

end Store

/-! ### Parameters and admission -/

namespace Params
variable {p : Params} {path name value : String} {r : Rejection}

theorem column?_of_orSyntax_error {α : Type} {x : Except SyntaxFault α} (h : orSyntax x = .error r) :
    r.column? = none := by
  cases x with
  | ok _ => exact nomatch h
  | error fault =>
    obtain rfl := Except.error.inj h
    rfl

theorem column?_of_readWord_error (h : readWord name value = .error r) : r.column? = none := by
  unfold readWord at h
  split at h
  · cases h
  · obtain rfl := Except.error.inj h
    rfl

theorem column?_of_putScoped_error (h : p.putScoped path name value = .error r) : r.column? = none := by
  have hsyntax {α : Type} {x : Except SyntaxFault α} {f : α → Params}
      (h : (orSyntax x >>= fun a => .ok (f a)) = .error r) : r.column? = none := by
    rcases Chained.bind_eq_error.mp h with h | ⟨_, -, h⟩
    · exact column?_of_orSyntax_error h
    · exact nomatch h
  have hword {f : UInt64 → Params} (h : (readWord name value >>= fun n => .ok (f n)) = .error r) :
      r.column? = none := by
    rcases Chained.bind_eq_error.mp h with h | ⟨_, -, h⟩
    · exact column?_of_readWord_error h
    · exact nomatch h
  unfold putScoped at h
  split at h
  · exact hsyntax h
  · exact hword h
  · exact hword h
  · exact hsyntax h
  · exact hsyntax h
  · exact hsyntax h
  · exact hsyntax h
  · exact hsyntax h

theorem column?_of_put_error (h : p.put name value = .error r) : r.column? = none := by
  unfold put at h
  split at h
  · rcases Chained.bind_eq_error.mp h with h | ⟨_, -, h⟩
    · exact column?_of_orSyntax_error h
    · exact nomatch h
  · exact nomatch h
  · exact nomatch h
  · exact column?_of_putScoped_error h

/-- What cannot be read is never a column. -/
theorem column?_of_read_error {query : String} {headers : Http.Headers} (h : read query headers = .error r) :
    r.column? = none := by
  unfold read at h
  rcases Chained.bind_eq_error.mp h with h | ⟨p, -, h⟩
  · obtain ⟨_, pair, -, h⟩ := Chained.exists_of_foldlM_eq_error h
    exact column?_of_put_error h
  rcases Chained.bind_eq_error.mp h with h | ⟨_, -, h⟩
  · unfold putRange at h
    split at h
    · exact nomatch h
    · split at h
      · exact nomatch h
      · obtain rfl := Except.error.inj h
        rfl
  · exact nomatch h

end Params

variable {server : Server} {method name query : String} {headers : Http.Headers} {body : List UInt8} {r : Rejection}

theorem column?_of_authorize_error (h : server.authorize headers = .error r) : r.column? = none := by
  unfold authorize at h
  split at h
  · exact nomatch h
  · split at h
    · obtain rfl := Except.error.inj h
      rfl
    · split at h
      · exact nomatch h
      · obtain rfl := Except.error.inj h
        rfl

theorem column?_of_checkSchema_error (h : server.checkSchema method headers = .error r) : r.column? = none := by
  unfold checkSchema at h
  split at h
  · exact nomatch h
  · split at h
    · exact nomatch h
    · obtain rfl := Except.error.inj h
      rfl

theorem justifies_of_vet_error (h : server.vet method name query headers = .error r) : server.store.Justifies r := by
  unfold vet at h
  rcases Chained.bind_eq_error.mp h with h | ⟨_, -, h⟩
  · exact Store.justifies_of_column?_eq_none (column?_of_authorize_error h)
  rcases Chained.bind_eq_error.mp h with h | ⟨_, -, h⟩
  · exact Store.justifies_of_column?_eq_none (column?_of_checkSchema_error h)
  rcases Chained.bind_eq_error.mp h with h | ⟨_, -, h⟩
  · exact Store.justifies_of_column?_eq_none (Params.column?_of_read_error h)
  rcases Chained.bind_eq_error.mp h with h | ⟨_, -, h⟩
  · exact (Store.misses_of_table_error h).justifies
  · exact nomatch h

/-- **A request is turned down for a column** only if the table is there and does not take it for one of its own. -/
theorem justifies_of_process_error (h : (server.process method name query headers body).1 = .error (.refused r)) :
    server.store.Justifies r := by
  unfold process at h
  split at h
  · next r' hvet =>
    obtain rfl := Halt.refused.inj (Except.error.inj h)
    exact justifies_of_vet_error hvet
  · split at h
    · exact (Store.misses_of_read_error h).justifies
    · exact (Store.misses_of_read_error h).justifies
    · exact Store.justifies_of_insert_error h
    · exact Store.justifies_of_update_error h
    · exact Store.justifies_of_delete_error h
    · obtain rfl := Halt.refused.inj (Except.error.inj h)
      exact Store.justifies_of_column?_eq_none rfl

variable {t : Http.Target} {m : Http.Message}

/-- What a request to a table is turned down with, if it is. -/
def refusal? (server : Server) (t : Http.Target) (m : Http.Message) : Option Rejection :=
  match route t.path with
  | .table name =>
    match (server.process m.method name t.query m.headers (m.body.getD [])).1 with
    | .error (.refused r) => some r
    | _ => none
  | _ => none

theorem process_of_refusal? (h : server.refusal? t m = some r) : ∃ name, route t.path = .table name ∧
    (server.process m.method name t.query m.headers (m.body.getD [])).1 = .error (.refused r) := by
  unfold refusal? at h
  split at h
  · next name hroute =>
    split at h
    · next r' hprocess => exact ⟨name, hroute, Option.some.inj h ▸ hprocess⟩
    · exact nomatch h
  · exact nomatch h

end TableQuery.Server
