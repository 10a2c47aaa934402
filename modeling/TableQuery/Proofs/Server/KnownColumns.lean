import TableQuery.Proofs.Server.KeyedTables
import TableQuery.Proofs.Server.Refusals

/-! Columns that cover their rows.

A table without columns takes every name for one of its own, and a table with columns ought to have those of all its
rows (`Table.CoversRows`). Setting a table up collects them (`Table.coversRows_ofRows`), and a write checks what it
brings against them (`Store.coversRows_insert`, `Store.coversRows_update`, `Store.coversRows_delete`). A row that is
put in from outside brings its own columns along; where the table had none these become all that is known, and those of
the rows before it are forgotten (`Table.coversRows_push`). Nothing else forgets a column, so the tables cover their
rows all along a run if and only if no such row is put in, and then no column that a stored row has is turned down as
unknown (`coversRows_run`). -/
namespace TableQuery.Server

namespace Table
variable {t : Table} {row : Row} {rows : List Row} {c : String}

/-- The columns are unknown, or those of every row are among them. -/
def CoversRows (t : Table) : Prop := t.columns = [] ∨ ∀ row ∈ t.rows, ∀ c ∈ Fields.names row, c ∈ t.columns

/-- The table knows no columns, and will know those of the row only, though a row before it has another. -/
def Forgets (t : Table) (row : Row) : Prop :=
  t.columns = [] ∧ row ≠ [] ∧ ∃ r ∈ t.rows, ∃ c ∈ Fields.names r, c ∉ Fields.names row

theorem accepts_iff : t.accepts c = true ↔ t.columns = [] ∨ c ∈ t.columns := by
  simp [accepts]

/-- The table accepts each column of a row. -/
def Admits (t : Table) (row : Row) : Prop := ∀ c ∈ Fields.names row, t.accepts c = true

theorem coversRows_iff : t.CoversRows ↔ ∀ row ∈ t.rows, t.Admits row := by
  constructor
  · rintro (hnone | hall) row hrow c hc
    · exact accepts_iff.mpr (.inl hnone)
    · exact accepts_iff.mpr (.inr (hall row hrow c hc))
  · intro hall
    by_cases hnone : t.columns = []
    · exact .inl hnone
    · exact .inr fun row hrow c hc => (accepts_iff.mp (hall row hrow c hc)).resolve_left hnone

theorem mem_mergeColumns {columns names : List String} :
    c ∈ mergeColumns columns names ↔ c ∈ columns ∨ c ∈ names := by
  induction names generalizing columns with
  | nil => simp [mergeColumns]
  | cons n names ih =>
    show c ∈ mergeColumns (if columns.contains n then columns else columns ++ [n]) names ↔ _
    rw [ih]
    by_cases hn : n ∈ columns
    · rw [if_pos (List.contains_iff_mem.mpr hn), List.mem_cons]
      constructor
      · rintro (hc | hc)
        · exact .inl hc
        · exact .inr (.inr hc)
      · rintro (hc | rfl | hc)
        · exact .inl hc
        · exact .inl hn
        · exact .inr hc
    · rw [if_neg (fun h => hn (List.contains_iff_mem.mp h)), List.mem_append, List.mem_singleton, List.mem_cons,
        or_assoc]

/-- The columns of a table that is set up are those of its rows. -/
theorem coversRows_ofRows (rows : List Row) : (ofRows rows).CoversRows :=
  .inr fun row hrow _ hc => mem_mergeColumns.mpr (.inr (List.mem_flatMap.mpr ⟨row, hrow, hc⟩))

theorem mem_columns_push : c ∈ (t.push row).columns ↔ c ∈ t.columns ∨ c ∈ Fields.names row :=
  mem_mergeColumns

theorem mem_rows_push {r : Row} : r ∈ (t.push row).rows ↔ r ∈ t.rows ∨ r = row := by
  simp [push]

/-- A table stays without columns if the row that is put in has none. -/
theorem columns_push_eq_nil_iff (h : t.columns = []) : (t.push row).columns = [] ↔ row = [] := by
  rw [List.eq_nil_iff_forall_not_mem, ← List.map_eq_nil_iff (f := Prod.fst), List.eq_nil_iff_forall_not_mem]
  refine forall_congr' fun c => not_congr ?_
  rw [mem_columns_push, h]
  simp [Fields.names]

/-- Put into a table without columns, a row with some leaves those of the rows before it unknown, or has them all. -/
theorem coversRows_push_of_unknown (h : t.columns = []) (row : Row) : (t.push row).CoversRows ↔ ¬t.Forgets row := by
  constructor
  · rintro hcovers ⟨-, hrow, r, hr, c, hc, hmissing⟩
    have hcolumns : (t.push row).columns ≠ [] := fun hnil => hrow ((columns_push_eq_nil_iff h).mp hnil)
    have hcovered := hcovers.resolve_left hcolumns r (mem_rows_push.mpr (.inl hr)) c hc
    rw [mem_columns_push, h] at hcovered
    exact hmissing (hcovered.resolve_left List.not_mem_nil)
  · intro hkeeps
    by_cases hrow : row = []
    · exact .inl ((columns_push_eq_nil_iff h).mpr hrow)
    · refine .inr fun r hr c hc => mem_columns_push.mpr (.inr ?_)
      rcases mem_rows_push.mp hr with hr | rfl
      · by_contra hmissing
        exact hkeeps ⟨h, hrow, r, hr, c, hc, hmissing⟩
      · exact hc

/-- **One row put in.** A table that covers its rows covers the new one too, unless it forgets a column. -/
theorem coversRows_push (h : t.CoversRows) (row : Row) : (t.push row).CoversRows ↔ ¬t.Forgets row := by
  by_cases hnone : t.columns = []
  · exact coversRows_push_of_unknown hnone row
  · refine iff_of_true (.inr fun r hr c hc => mem_columns_push.mpr ?_) fun hforgets => hnone hforgets.1
    rcases mem_rows_push.mp hr with hr | rfl
    · exact .inl (h.resolve_left hnone r hr c hc)
    · exact .inr hc

/-! ### Rows that the table admits -/

theorem admits_extend {patch : Row} (hrow : t.Admits row) (hpatch : t.Admits patch) : t.Admits (row.extend patch) := by
  intro c hc
  rcases Fields.mem_names_extend.mp hc with hc | hc
  · exact hrow c hc
  · exact hpatch c hc

theorem admits_withKey (stored : List Row) (hrow : t.Admits row) : t.Admits (Store.withKey t stored row) := by
  unfold Store.withKey
  split
  · next hkey =>
    intro c hc
    rcases Fields.mem_names_insert.mp hc with rfl | hc
    · exact accepts_iff.mpr (.inr (by simpa using ((Bool.and_eq_true _ _).mp hkey).2))
    · exact hrow c hc
  · exact hrow

theorem admits_of_checkPayload {name : String} (h : Store.checkPayload name t row = .ok ()) : t.Admits row := by
  unfold Store.checkPayload at h
  split at h
  · cases h
  · next hfind =>
    intro c hc
    simpa using List.find?_eq_none.mp hfind c hc

end Table

namespace Store
variable {s : Store} {p : Params} {name : String} {body : List UInt8} {t : Table} {rows : List Row} {row : Row}

/-- Every table covers its rows. -/
def CoversRows (s : Store) : Prop := ∀ name t, s.table? name = some t → t.CoversRows

/-- A table that is created or replaced is all that can make a difference. -/
theorem coversRows_insertTable (h : s.CoversRows) (name : String) (t : Table) :
    (s.insertTable name t).CoversRows ↔ t.CoversRows := by
  refine ⟨fun hcovers => hcovers name t (table?_insertTable_self s name t), fun ht other u hu => ?_⟩
  by_cases hother : other = name
  · rw [hother, table?_insertTable_self] at hu
    exact Option.some.inj hu ▸ ht
  · rw [table?_insertTable_of_ne s t hother] at hu
    exact h other u hu

theorem coversRows_setRows (h : s.CoversRows) (hrows : ∀ row ∈ rows, t.Admits row) :
    (s.setRows name t rows).CoversRows :=
  (coversRows_insertTable h name { t with rows := rows }).mpr (Table.coversRows_iff.mpr hrows)

theorem admits_of_mem (h : s.CoversRows) (ht : s.table name = .ok t) : ∀ row ∈ t.rows, t.Admits row :=
  Table.coversRows_iff.mp (h name t (table?_of_table ht))

/-! ### Writes -/

/-- A row that is put in, or merged into another, has columns that were checked, or the key. -/
theorem admits_put {conflict : List String} {resolution : Option Resolution} {staged next : Staged}
    (h : staged.put name t conflict resolution row = .ok next) (hrow : t.Admits row)
    (hstaged : ∀ row ∈ staged.rows, t.Admits row) : ∀ row ∈ next.rows, t.Admits row := by
  have hkeyed : t.Admits (withKey t staged.rows row) := Table.admits_withKey staged.rows hrow
  intro r hr
  rcases rows_of_put h with ⟨-, heq⟩ | ⟨i, hi, -, -, heq⟩ | ⟨_, -, -, heq⟩
  · rw [heq] at hr
    rcases List.mem_append.mp hr with hr | hr
    · exact hstaged r hr
    · exact List.mem_singleton.mp hr ▸ hkeyed
  · rw [heq] at hr
    rcases List.mem_or_eq_of_mem_set hr with hr | rfl
    · exact hstaged r hr
    · exact Table.admits_extend (hstaged _ (List.getElem_mem hi)) hkeyed
  · exact hstaged r (heq ▸ hr)

theorem admits_putAll {conflict : List String} {resolution : Option Resolution} {staged final : Staged}
    (h : rows.foldlM (Staged.put name t conflict resolution) staged = .ok final)
    (hrows : ∀ row ∈ rows, t.Admits row) (hstaged : ∀ row ∈ staged.rows, t.Admits row) :
    ∀ row ∈ final.rows, t.Admits row := by
  induction rows generalizing staged with
  | nil =>
    obtain rfl := Except.ok.inj h
    exact hstaged
  | cons row rows ih =>
    obtain ⟨hrow, hrest⟩ := List.forall_mem_cons.mp hrows
    rw [List.foldlM_cons] at h
    obtain ⟨next, hput, h⟩ := Chained.bind_eq_ok.mp h
    exact ih h hrest (admits_put hput hrow hstaged)

theorem coversRows_insert (h : s.CoversRows) : (s.insert p name body).2.CoversRows := by
  cases hstage : s.stage p name body with
  | error r =>
    rw [insert_of_stage_error hstage]
    exact h
  | ok x =>
    obtain ⟨t, staged⟩ := x
    obtain ⟨incoming, -, ht, hpayload, hput⟩ := stage_eq_ok.mp hstage
    rw [insert_snd_of_ok hstage]
    have hchecked : ∀ row ∈ incoming, t.Admits row := fun row hrow =>
      Table.admits_of_checkPayload (Chained.forM_eq_ok hpayload row hrow)
    exact coversRows_setRows h (admits_putAll hput hchecked (admits_of_mem h ht))

theorem coversRows_update (h : s.CoversRows) : (s.update p name body).2.CoversRows := by
  cases hcheck : s.checkUpdate p name body with
  | error r =>
    rw [update_snd_of_error hcheck]
    exact h
  | ok x =>
    obtain ⟨t, patch⟩ := x
    obtain ⟨-, ht, -, hpayload⟩ := checkUpdate_eq_ok.mp hcheck
    have hpatch := Table.admits_of_checkPayload hpayload
    have hstored := admits_of_mem h ht
    rw [update_snd_of_ok hcheck]
    refine coversRows_setRows h fun row hrow => ?_
    rw [patchRows_snd] at hrow
    rcases List.mem_append.mp hrow with hrow | hrow
    · obtain ⟨stored, hmem, rfl⟩ := List.mem_map.mp hrow
      have hadmits := hstored stored ((List.takeWhile_sublist _).mem hmem)
      unfold patched
      split
      · exact Table.admits_extend hadmits hpatch
      · exact hadmits
    · exact hstored row ((List.dropWhile_sublist _).mem hrow)

theorem coversRows_delete (h : s.CoversRows) : (s.delete p name).2.CoversRows := by
  cases hcheck : s.checkDelete p name with
  | error r =>
    unfold delete
    rw [hcheck]
    exact h
  | ok t =>
    have hstored := admits_of_mem h (table_of_checkDelete hcheck)
    rcases testable_or_fault (p.scope "").conditions t.rows with htest | ⟨_, _, _, _, hfault, hbefore, hrow⟩
    · rw [delete_of_testable hcheck htest]
      exact coversRows_setRows h fun row hrow => hstored row (List.mem_filter.mp hrow).1
    · unfold delete
      rw [hcheck]
      dsimp only
      rw [hfault, divide_of_fault hbefore hrow]
      exact coversRows_setRows h fun _ hrow => nomatch hrow

/-! ### Columns that are turned down -/

theorem not_mem_of_lacksColumn {column : String} (h : s.CoversRows) (hlacks : s.LacksColumn name column) :
    ∀ row ∈ s.rows name, column ∉ Fields.names row := by
  obtain ⟨t, ht, hrefuses⟩ := hlacks
  intro row hrow hcolumn
  rw [rows_of_table? ht] at hrow
  have hadmits := Table.coversRows_iff.mp (h name t ht) row hrow column hcolumn
  exact nomatch hrefuses.symm.trans hadmits

end Store

variable {server : Server} {method name query : String} {headers : Http.Headers} {body : List UInt8} {r : Rejection}

theorem coversRows_process (h : server.store.CoversRows) :
    (server.process method name query headers body).2.CoversRows :=
  process_snd_of h (fun _ => Store.coversRows_insert h) (fun _ => Store.coversRows_update h) fun _ =>
    Store.coversRows_delete h

variable {t : Http.Target} {m : Http.Message} {name : String}

theorem coversRows_respond (t : Http.Target) (m : Http.Message) (h : server.store.CoversRows) :
    (server.respond t m).2.store.CoversRows := by
  by_cases htable : ∃ name, route t.path = .table name
  · obtain ⟨name, hroute⟩ := htable
    rw [(respond_of_route server m hroute).2]
    exact coversRows_process h
  · rwa [respond_of_not_table server m (not_exists.mp htable)]

/-! ### Runs -/

/-- What can happen to a server's tables. -/
inductive Event where
  /-- A table is created or replaced. -/
  | create (name : String) (rows : List Row)
  /-- A row is put into a table past the requests. -/
  | insertRow (name : String) (row : Row)
  | request (t : Http.Target) (m : Http.Message)

def next (server : Server) : Event → Server
  | .create name rows => { server with store := server.store.insertTable name (.ofRows rows) }
  | .insertRow name row => { server with store := server.store.insertRow name row }
  | .request t m => (server.respond t m).2

def run (server : Server) (events : List Event) : Server := events.foldl next server

theorem run_concat (server : Server) (events : List Event) (e : Event) :
    server.run (events ++ [e]) = (server.run events).next e := by
  simp [run]

/-- The event puts a row into a table that forgets a column by it. -/
def Forgets (server : Server) : Event → Prop
  | .insertRow name row => ∃ t, server.store.table? name = some t ∧ t.Forgets row
  | _ => False

/-- **One event.** Tables that cover their rows go on covering them unless one forgets a column. -/
theorem coversRows_next (h : server.store.CoversRows) (e : Event) :
    (server.next e).store.CoversRows ↔ ¬server.Forgets e := by
  cases e with
  | create name rows =>
    exact iff_of_true ((Store.coversRows_insertTable h name _).mpr (Table.coversRows_ofRows rows)) id
  | insertRow name row =>
    show (server.store.insertRow name row).CoversRows ↔ ¬∃ t, server.store.table? name = some t ∧ t.Forgets row
    unfold Store.insertRow
    cases hname : server.store.table? name with
    | none => exact iff_of_true h fun ⟨_, ht, _⟩ => nomatch ht
    | some t =>
      refine (Store.coversRows_insertTable h name _).trans ((Table.coversRows_push (h name t hname) row).trans ?_)
      refine not_congr ⟨fun hforgets => ⟨t, rfl, hforgets⟩, ?_⟩
      rintro ⟨_, ht, hforgets⟩
      exact Option.some.inj ht ▸ hforgets
  | request t m => exact iff_of_true (coversRows_respond t m h) id

/-- **Columns cover their rows unless one is forgotten.** Along a run of events, each table is without columns or has
those of all its rows after every event if and only if no event puts a row into a table that forgets a column by it.
While the tables cover their rows, no request is turned down for a column that a stored row of its table has. -/
theorem coversRows_run (server : Server) (hcovers : server.store.CoversRows) (events : List Event) :
    ((∀ first later, events = first ++ later → (server.run first).store.CoversRows) ↔
      ∀ first e later, events = first ++ e :: later → ¬(server.run first).Forgets e) ∧
    ((server.run events).store.CoversRows →
      ∀ t m r name column, (server.run events).refusal? t m = some r → r.column? = some (name, column) →
        ∀ row ∈ (server.run events).store.rows name, column ∉ Fields.names row) := by
  refine ⟨⟨fun hall first e later hevents => ?_, fun hkeeps first => ?_⟩,
    fun hafter t m r name column hrefused hcolumn => ?_⟩
  · have hafter := hall (first ++ [e]) later (by simpa using hevents)
    rw [run_concat] at hafter
    exact (coversRows_next (hall first (e :: later) hevents) e).mp hafter
  · induction first using List.reverseRecOn with
    | nil => exact fun _ _ => hcovers
    | append_singleton first e ih =>
      intro later hevents
      have hevents : events = first ++ e :: later := by simpa using hevents
      rw [run_concat]
      exact (coversRows_next (ih (e :: later) hevents) e).mpr (hkeeps first e later hevents)
  · obtain ⟨_, -, hprocess⟩ := process_of_refusal? hrefused
    exact Store.not_mem_of_lacksColumn hafter (justifies_of_process_error hprocess name column hcolumn)

/-- A server without tables. -/
def noTables : Server := ⟨.empty, none, [], ⟨0⟩⟩

/-- A row that brings a column `n` is put into a table that has the column `id`. -/
def knownBefore : List Event := [.create "t" [[("id", .ofInt 1)]], .insertRow "t" [("n", .ofInt 5)]]

/-- Both columns are known then, and a third is turned down. -/
theorem coversRows_knownBefore :
    (noTables.run knownBefore).store.CoversRows ∧
      ((noTables.run knownBefore).store.table? "t").map Table.columns = some ["id", "n"] ∧
      (noTables.run knownBefore).refusal? ⟨['/', 't'], "k=eq.1"⟩ ⟨"GET", "/t?k=eq.1", [], none⟩ =
        some (.unknownColumn "t" "k") ∧
      ∀ row ∈ (noTables.run knownBefore).store.rows "t", "k" ∉ Fields.names row := by
  have hcovers : noTables.store.CoversRows := fun _ _ h => nomatch h
  have hkeeps : ∀ first e later, knownBefore = first ++ e :: later → ¬(noTables.run first).Forgets e := by
    intro first e later hevents
    match first with
    | [] =>
      obtain rfl := (List.cons.inj hevents).1
      exact id
    | [_] =>
      obtain ⟨rfl, hrest⟩ := List.cons.inj hevents
      obtain rfl := (List.cons.inj hrest).1
      rintro ⟨t, ht, hnone, -⟩
      have hcolumns : ((noTables.run [.create "t" [[("id", .ofInt 1)]]]).store.table? "t").map Table.columns =
          some ["id"] := by decide +kernel
      rw [ht, Option.map_some, hnone] at hcolumns
      exact nomatch hcolumns
    | _ :: _ :: _ => simp [knownBefore] at hevents
  have hafter := ((coversRows_run noTables hcovers knownBefore).1.mpr hkeeps) knownBefore [] (by simp)
  have hrefused : (noTables.run knownBefore).refusal? ⟨['/', 't'], "k=eq.1"⟩ ⟨"GET", "/t?k=eq.1", [], none⟩ =
      some (.unknownColumn "t" "k") := by decide +kernel
  exact ⟨hafter, by decide +kernel, hrefused,
    (coversRows_run noTables hcovers knownBefore).2 hafter _ _ _ "t" "k" hrefused rfl⟩

/-- The first row comes with a request to a table without columns, which stays without; the second is put in. -/
def unknownBefore : List Event :=
  [.create "t" [], .request ⟨['/', 't'], ""⟩ ⟨"POST", "/t", [], some (Text.Utf8.encode "\x7b\"a\":1\x7d")⟩,
    .insertRow "t" [("b", .ofInt 2)]]

/-- The column `a` of the first row is turned down as unknown from then on. -/
theorem unknown_columns_are_forgotten :
    noTables.store.CoversRows ∧ ¬(noTables.run unknownBefore).store.CoversRows ∧
      ((noTables.run unknownBefore).store.rows "t").map Fields.names = [["a"], ["b"]] ∧
      (noTables.run unknownBefore).refusal? ⟨['/', 't'], "a=eq.1"⟩ ⟨"GET", "/t?a=eq.1", [], none⟩ =
        some (.unknownColumn "t" "a") := by
  have hnames : ((noTables.run unknownBefore).store.rows "t").map Fields.names = [["a"], ["b"]] := by decide +kernel
  have hrefused : (noTables.run unknownBefore).refusal? ⟨['/', 't'], "a=eq.1"⟩ ⟨"GET", "/t?a=eq.1", [], none⟩ =
      some (.unknownColumn "t" "a") := by decide +kernel
  refine ⟨fun _ _ h => (nomatch h), fun hcovers => ?_, hnames, hrefused⟩
  obtain ⟨_, -, hprocess⟩ := process_of_refusal? hrefused
  have hmissing := Store.not_mem_of_lacksColumn hcovers (justifies_of_process_error hprocess "t" "a" rfl)
  have hmem : ["a"] ∈ ((noTables.run unknownBefore).store.rows "t").map Fields.names := by
    rw [hnames]
    exact List.mem_cons_self
  obtain ⟨row, hrow, hrowNames⟩ := List.mem_map.mp hmem
  exact hmissing row hrow (hrowNames ▸ List.mem_singleton.mpr rfl)

end TableQuery.Server
