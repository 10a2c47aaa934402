import TableQuery.Proofs.Server.Writes
import TableQuery.Server.Respond

/-! Writes that the server turns down.

A client keeps what it has cached when it is told that a write has failed, so the write ought to have
changed nothing. `failed_write_keeps_tables_iff` says when that is so: unless the fault was found late,
after rows had been changed, and the rows that the table was left with are others than before. Such faults
there are (`failed_patch_changes_rows`). -/
namespace TableQuery.Server
variable {server : Server} {method name query : String} {headers : Http.Headers} {body : List UInt8}

/-- The methods that write. -/
def IsWriteMethod (method : String) : Prop := method = "POST" ∨ method = "PATCH" ∨ method = "DELETE"

/-- The server turns a message down after it has changed a table, and leaves it with these rows. -/
def FoundLate (server : Server) (t : Http.Target) (m : Http.Message) (name : String) (table : Table)
    (rows : List Row) : Prop :=
  route t.path = .table name ∧ ∃ p, server.vet m.method name t.query m.headers = .ok p ∧
    server.store.LateFault p name (m.body.getD []) m.method table rows

theorem isWriteMethod_of_late {s : Store} {p : Params} {t : Table} {rows : List Row}
    (h : s.LateFault p name body method t rows) : IsWriteMethod method := by
  cases h with
  | insertReturn hmethod => exact .inl hmethod
  | updateTest hmethod => exact .inr (.inl hmethod)
  | updateReturn hmethod => exact .inr (.inl hmethod)
  | deleteTest hmethod => exact .inr (.inr hmethod)
  | deleteReturn hmethod => exact .inr (.inr hmethod)

/-! ### Requests to a table -/

/-- A request that is admitted has been read. -/
theorem read_of_vet {p : Params} (h : server.vet method name query headers = .ok p) :
    Params.read query headers = .ok p := by
  obtain ⟨_, -, h⟩ := Chained.bind_eq_ok.mp h
  obtain ⟨_, -, h⟩ := Chained.bind_eq_ok.mp h
  obtain ⟨p₀, hp₀, h⟩ := Chained.bind_eq_ok.mp h
  obtain ⟨_, -, h⟩ := Chained.bind_eq_ok.mp h
  rw [hp₀, Except.ok.inj h]

theorem process_of_vet_error {r : Rejection} (h : server.vet method name query headers = .error r) :
    server.process method name query headers body = (.error (.refused r), server.store) := by
  unfold process
  rw [h]

section Admitted
variable {p : Params}

theorem process_post (h : server.vet "POST" name query headers = .ok p) :
    server.process "POST" name query headers body = server.store.insert p name body := by
  unfold process
  rw [h]
  rfl

theorem process_patch (h : server.vet "PATCH" name query headers = .ok p) :
    server.process "PATCH" name query headers body = server.store.update p name body := by
  unfold process
  rw [h]
  rfl

theorem process_delete (h : server.vet "DELETE" name query headers = .ok p) :
    server.process "DELETE" name query headers body = server.store.delete p name := by
  unfold process
  rw [h]
  rfl

end Admitted

/-- Whatever is true of a store, and of what an insertion, an update and a deletion leave of it, is true of what a
request leaves. -/
theorem process_snd_of {P : Store → Prop} (hsame : P server.store)
    (hinsert : ∀ p, P (server.store.insert p name body).2)
    (hupdate : ∀ p, P (server.store.update p name body).2) (hdelete : ∀ p, P (server.store.delete p name).2) :
    P (server.process method name query headers body).2 := by
  unfold process
  split
  · exact hsame
  · split
    · exact hsame
    · exact hsame
    · exact hinsert _
    · exact hupdate _
    · exact hdelete _
    · exact hsame

theorem process_of_late {p : Params} {t : Table} {rows : List Row}
    (hvet : server.vet method name query headers = .ok p)
    (h : server.store.LateFault p name body method t rows) :
    (server.process method name query headers body).2 = server.store.setRows name t rows := by
  rcases isWriteMethod_of_late h with rfl | rfl | rfl
  · rw [process_post hvet, Store.insert_of_late h]
  · rw [process_patch hvet, Store.update_of_late h]
  · rw [process_delete hvet, Store.delete_of_late h]

theorem process_of_error {halt : Halt} (hmethod : IsWriteMethod method)
    (h : (server.process method name query headers body).1 = .error halt)
    (hlate : ∀ p, server.vet method name query headers = .ok p →
      ∀ t rows, ¬server.store.LateFault p name body method t rows) :
    (server.process method name query headers body).2 = server.store := by
  cases hvet : server.vet method name query headers with
  | error r' => rw [process_of_vet_error hvet]
  | ok p =>
    replace hlate := hlate p hvet
    rcases hmethod with rfl | rfl | rfl
    · rw [process_post hvet] at h ⊢
      exact Store.insert_of_error h hlate
    · rw [process_patch hvet] at h ⊢
      exact Store.update_of_error h hlate
    · rw [process_delete hvet] at h ⊢
      exact Store.delete_of_error h hlate

/-- A write that is not turned down is answered with a success. -/
theorem status_of_process {reply : Reply} (hmethod : IsWriteMethod method)
    (h : (server.process method name query headers body).1 = .ok reply) : reply.status < 300 := by
  cases hvet : server.vet method name query headers with
  | error r =>
    rw [process_of_vet_error hvet] at h
    exact nomatch h
  | ok p =>
    rcases hmethod with rfl | rfl | rfl
    · rw [process_post hvet] at h
      exact Store.status_insert h
    · rw [process_patch hvet] at h
      exact Store.status_update h
    · rw [process_delete hvet] at h
      exact Store.status_delete h

/-! ### Messages -/

/-- The status that a message is answered with; none if the server breaks down over it. -/
def status? (server : Server) (t : Http.Target) (m : Http.Message) : Option Nat :=
  (server.respond t m).1.map Http.Response.status

/-- A message is answered with a success. -/
def Accepts (server : Server) (t : Http.Target) (m : Http.Message) : Prop :=
  ∃ status, server.status? t m = some status ∧ status < 300

/-- A message is answered with a failure. -/
def Declines (server : Server) (t : Http.Target) (m : Http.Message) : Prop :=
  ∃ status, server.status? t m = some status ∧ 300 ≤ status

theorem status?_eq (server : Server) (t : Http.Target) (m : Http.Message) :
    server.status? t m = (server.answer t m).1.map Http.Response.status := by
  show (if m.method = "HEAD" then (server.answer t m).1.map fun r => { r with body := [] }
    else (server.answer t m).1).map Http.Response.status = _
  split
  · rw [Option.map_map]
    rfl
  · rfl

section Routed
variable {t : Http.Target} {m : Http.Message}

theorem respond_of_route (server : Server) (m : Http.Message) (hroute : route t.path = .table name) :
    server.status? t m =
        (responseOf (server.process m.method name t.query m.headers (m.body.getD [])).1).map Http.Response.status ∧
      (server.respond t m).2 =
        { server with store := (server.process m.method name t.query m.headers (m.body.getD [])).2 } := by
  rw [status?_eq]
  show (server.answer t m).1.map _ = _ ∧ (server.answer t m).2 = _
  unfold answer
  rw [hroute]
  exact ⟨rfl, rfl⟩

/-- Only what is done is answered with a success. -/
theorem Accepts.exists_reply (hroute : route t.path = .table name) (h : server.Accepts t m) :
    ∃ reply, (server.process m.method name t.query m.headers (m.body.getD [])).1 = .ok reply ∧ reply.status < 300 := by
  obtain ⟨status, hanswer, hstatus⟩ := h
  rw [(respond_of_route server m hroute).1] at hanswer
  cases hresult : (server.process m.method name t.query m.headers (m.body.getD [])).1 with
  | ok reply =>
    rw [hresult] at hanswer
    obtain rfl : reply.status = status := Option.some.inj hanswer
    exact ⟨reply, rfl, hstatus⟩
  | error halt =>
    rw [hresult] at hanswer
    cases halt with
    | refused r =>
      obtain rfl : r.status = status := Option.some.inj hanswer
      exact absurd hstatus (Nat.not_lt_of_le r.le_status)
    | overflow => exact nomatch hanswer

/-- What is not done, but answered, is turned down. -/
theorem Declines.exists_refusal (hroute : route t.path = .table name) (hmethod : IsWriteMethod m.method)
    (h : server.Declines t m) :
    ∃ r, (server.process m.method name t.query m.headers (m.body.getD [])).1 = .error (.refused r) := by
  obtain ⟨status, hanswer, hstatus⟩ := h
  rw [(respond_of_route server m hroute).1] at hanswer
  cases hresult : (server.process m.method name t.query m.headers (m.body.getD [])).1 with
  | ok reply =>
    rw [hresult] at hanswer
    obtain rfl : reply.status = status := Option.some.inj hanswer
    exact absurd (status_of_process hmethod hresult) (Nat.not_lt_of_le hstatus)
  | error halt =>
    rw [hresult] at hanswer
    cases halt with
    | refused r => exact ⟨r, rfl⟩
    | overflow => exact nomatch hanswer

end Routed

/-- A request that does not lead to a table changes nothing. -/
theorem respond_of_not_table (server : Server) {t : Http.Target} (m : Http.Message)
    (h : ∀ name, route t.path ≠ .table name) : (server.respond t m).2 = server := by
  show (server.answer t m).2 = server
  unfold answer
  cases hroute : route t.path with
  | unknown => rfl
  | malformed => rfl
  | table name => exact absurd hroute (h name)

theorem respond_of_late {t : Http.Target} {m : Http.Message} {table : Table} {rows : List Row}
    (h : server.FoundLate t m name table rows) :
    (server.respond t m).2 = { server with store := server.store.setRows name table rows } := by
  obtain ⟨hroute, p, hvet, hlate⟩ := h
  rw [(respond_of_route server m hroute).2, process_of_late hvet hlate]

theorem respond_of_declines {t : Http.Target} {m : Http.Message} (hmethod : IsWriteMethod m.method)
    (h : server.Declines t m) (hlate : ∀ name table rows, ¬server.FoundLate t m name table rows) :
    (server.respond t m).2 = server := by
  by_cases htable : ∃ name, route t.path = .table name
  · obtain ⟨name, hroute⟩ := htable
    obtain ⟨r, hresult⟩ := h.exists_refusal hroute hmethod
    rw [(respond_of_route server m hroute).2,
      process_of_error hmethod hresult fun p hvet table rows hfault => hlate name table rows ⟨hroute, p, hvet, hfault⟩]
  · exact respond_of_not_table server m (not_exists.mp htable)

/-- **What a failed write leaves.** After a write that was turned down the tables are what they were if
and only if no late fault has left one with other rows; and where a fault was found late, the rows it left
are all that has changed. -/
theorem failed_write_keeps_tables_iff {t : Http.Target} {m : Http.Message}
    (hmethod : IsWriteMethod m.method) (h : server.Declines t m) :
    ((∀ other, (server.respond t m).2.store.table? other = server.store.table? other) ↔
        ∀ name table rows, server.FoundLate t m name table rows → rows = table.rows) ∧
      ∀ name table rows, server.FoundLate t m name table rows →
        server.store.table? name = some table ∧
          (server.respond t m).2 = { server with store := server.store.setRows name table rows } := by
  have htable {name : String} {table : Table} {rows : List Row}
      (hlate : server.FoundLate t m name table rows) : server.store.table? name = some table := by
    obtain ⟨-, p, -, hfault⟩ := hlate
    exact hfault.table?
  refine ⟨⟨fun hkept name table rows hlate => ?_, fun hsame other => ?_⟩,
    fun name table rows hlate => ⟨htable hlate, respond_of_late hlate⟩⟩
  · have hname := hkept name
    rw [respond_of_late hlate, Store.table?_setRows, htable hlate] at hname
    exact congrArg Table.rows (Option.some.inj hname)
  · by_cases hlate : ∃ name table rows, server.FoundLate t m name table rows
    · obtain ⟨name, table, rows, hlate⟩ := hlate
      rw [respond_of_late hlate, hsame name table rows hlate]
      by_cases hother : other = name
      · rw [hother, Store.table?_setRows, htable hlate]
      · exact Store.table?_setRows_of_ne _ _ _ hother
    · rw [respond_of_declines hmethod h fun name table rows hfault => hlate ⟨name, table, rows, hfault⟩]

/-- The table `t` with two rows. -/
def twoRows : Server :=
  ⟨⟨[("t", .ofRows [[("id", .ofInt 1), ("n", .ofInt 5)], [("id", .ofInt 2), ("n", .ofInt 6)]])], []⟩,
    none, [], ⟨0⟩⟩

/-- The insertion of a row whose key there is already. -/
def secondOne : Http.Message := ⟨"POST", "/t", [], some [123, 34, 105, 100, 34, 58, 49, 125]⟩

/-- It is found at once that the key is there, and the tables stay as they are. -/
theorem duplicate_keeps_tables :
    twoRows.Declines ⟨['/', 't'], ""⟩ secondOne ∧
      ∀ other, (twoRows.respond ⟨['/', 't'], ""⟩ secondOne).2.store.table? other =
        twoRows.store.table? other := by
  have hfailed : twoRows.Declines ⟨['/', 't'], ""⟩ secondOne := ⟨409, by decide +kernel, by decide⟩
  have hroute : route ['/', 't'] = .table "t" := by decide +kernel
  have hstage : ((orRefusal (twoRows.vet "POST" "t" "" [])).bind fun p =>
      twoRows.store.stage p "t" [123, 34, 105, 100, 34, 58, 49, 125]).isOk = false := by decide +kernel
  refine ⟨hfailed, (failed_write_keeps_tables_iff (.inl rfl) hfailed).1.mpr ?_⟩
  rintro name table rows ⟨hname, p, hvet, hfault⟩
  obtain rfl := Route.table.inj (hroute.symm.trans hname)
  replace hvet : twoRows.vet "POST" "t" "" [] = .ok p := hvet
  rw [hvet, orRefusal_ok] at hstage
  obtain ⟨staged, h, -⟩ := hfault.of_post
  replace h : twoRows.store.stage p "t" [123, 34, 105, 100, 34, 58, 49, 125] = .ok (table, staged) := h
  simp only [Except.bind, h] at hstage
  exact nomatch hstage

/-- A patch of all rows, of which a column is to be returned that the table has not. -/
def patchOfAll : Http.Message :=
  ⟨"PATCH", "/t?select=nope", [("prefer", "return=representation")],
    some [123, 34, 110, 34, 58, 55, 125]⟩

/-- The column is looked for when the rows are patched already. -/
theorem failed_patch_changes_rows :
    IsWriteMethod patchOfAll.method ∧
      twoRows.Declines ⟨['/', 't'], "select=nope"⟩ patchOfAll ∧
      ¬∀ other, (twoRows.respond ⟨['/', 't'], "select=nope"⟩ patchOfAll).2.store.table? other =
        twoRows.store.table? other := by
  have hfailed : twoRows.Declines ⟨['/', 't'], "select=nope"⟩ patchOfAll := ⟨400, by decide +kernel, by decide⟩
  have hbefore : (twoRows.store.rows "t").any (fun row => row.cell "n" == .ofInt 7) = false := by
    decide +kernel
  have hafter : ((twoRows.respond ⟨['/', 't'], "select=nope"⟩ patchOfAll).2.store.rows "t").any
      (fun row => row.cell "n" == .ofInt 7) = true := by
    decide +kernel
  refine ⟨.inr (.inl rfl), hfailed, fun h => ?_⟩
  unfold Store.rows at hafter hbefore
  rw [h "t", hbefore] at hafter
  exact nomatch hafter

end TableQuery.Server
