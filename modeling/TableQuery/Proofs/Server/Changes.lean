import TableQuery.Mutation
import TableQuery.Proofs.Server.FailedWrites

/-! What a write does that succeeds.

An update patches rows and a deletion removes them (`Change`); the other rows stay, in their order. A write
that the server answers with a success was read as it was sent, and has made its change on the rows that
pass what was asked of the root (`written_of_success`). Two selections come to the same where a change has
nothing to do on the rows that one of them has more (`Change.apply_eq_iff`). -/
namespace TableQuery

/-- The octets of a request's body, of which there are none where it has no body. -/
def Request.octets (r : Request) : List UInt8 := (r.body.map Text.Utf8.encode).getD []

/-- A message that carries a request to its table, with any headers. -/
structure Request.IsSentAs (r : Request) (t : Http.Target) (message : Http.Message) : Prop where
  method : message.method = r.method.name
  body : message.body = r.body.map Text.Utf8.encode
  route : Server.route t.path = .table r.table
  query : t.query = r.queryString

namespace Server

/-! ### Changes of rows -/

/-- What a write does to the rows it is for. -/
inductive Change where
  | patch (members : Row)
  | removal

namespace Change

/-- The change that a write asks for with its body. -/
def ofWrite (kind : WriteKind) (body : List UInt8) : Except BodyFault Change :=
  if kind = .delete then .ok .removal else (Store.patchOfBody body).map .patch

/-- The rows after the change, which the selected ones are subject to. -/
def apply (change : Change) (selected : Row → Bool) (rows : List Row) : List Row :=
  match change with
  | .patch members => rows.map fun row => if selected row then row.extend members else row
  | .removal => rows.filter fun row => !selected row

/-- The change does nothing to a row even where it is selected. -/
def Keeps (change : Change) (row : Row) : Prop :=
  match change with
  | .patch members => row.extend members = row
  | .removal => False

/-- A wider selection comes to the same if the change keeps the rows that are selected in addition. -/
theorem apply_eq_iff (change : Change) {wide narrow : Row → Bool}
    (hle : ∀ row, narrow row = true → wide row = true) (rows : List Row) :
    change.apply wide rows = change.apply narrow rows ↔
      ∀ row ∈ rows, wide row = true → narrow row = true ∨ change.Keeps row := by
  cases change with
  | patch members =>
    show rows.map _ = rows.map _ ↔ _
    rw [List.map_inj_left]
    refine forall₂_congr fun row _ => ?_
    have hrow := hle row
    cases hwide : wide row <;> cases hnarrow : narrow row <;> simp_all [Keeps]
  | removal =>
    show rows.filter (fun row => !wide row) = rows.filter (fun row => !narrow row) ↔ _
    constructor
    · intro heq row hmem hwide
      refine .inl ?_
      cases hnarrow : narrow row with
      | true => rfl
      | false =>
        have hkept : row ∈ rows.filter fun row => !narrow row := by simp [hmem, hnarrow]
        rw [← heq] at hkept
        simp [hwide] at hkept
    · intro hall
      refine List.filter_congr fun row hmem => ?_
      have hrow := hle row
      have hback := hall row hmem
      cases hwide : wide row <;> cases hnarrow : narrow row <;> simp_all [Keeps]

end Change

/-! ### Writes that succeed -/

namespace Store
variable {s : Store} {p : Params} {name : String} {body : List UInt8}

/-- An update that goes through could test all rows, and has patched those that satisfy the conditions. -/
theorem update_of_ok {reply : Reply} (h : (s.update p name body).1 = .ok reply) :
    ∃ t change, s.table? name = some t ∧ Change.ofWrite .update body = .ok change ∧
      (∀ row ∈ t.rows, Row.IsTestable (p.scope "").conditions row) ∧
      (s.update p name body).2 =
        s.setRows name t (change.apply (Row.passes (p.scope "").conditions) t.rows) := by
  cases hcheck : s.checkUpdate p name body with
  | error r =>
    unfold update at h
    rw [hcheck] at h
    exact nomatch h
  | ok x =>
    obtain ⟨t, patch⟩ := x
    obtain ⟨hbody, ht, -, -⟩ := checkUpdate_eq_ok.mp hcheck
    have hchange : Change.ofWrite .update body = .ok (.patch patch) := by
      show (patchOfBody body).map Change.patch = _
      rw [hbody]
      rfl
    have htable := table?_of_table ht
    rcases testable_or_fault (p.scope "").conditions t.rows with htest | ⟨_, _, _, _, hrows, hbefore, hrow⟩
    · exact ⟨t, .patch patch, htable, hchange, htest, update_of_testable hcheck htest⟩
    · unfold update at h
      rw [hcheck] at h
      simp only [hrows, patchRows_of_fault hbefore hrow] at h
      exact nomatch h

/-- A deletion that goes through could test all rows, and has removed those that satisfy the conditions. -/
theorem delete_of_ok {reply : Reply} (h : (s.delete p name).1 = .ok reply) :
    ∃ t change, s.table? name = some t ∧ Change.ofWrite .delete body = .ok change ∧
      (∀ row ∈ t.rows, Row.IsTestable (p.scope "").conditions row) ∧
      (s.delete p name).2 =
        s.setRows name t (change.apply (Row.passes (p.scope "").conditions) t.rows) := by
  cases hcheck : s.checkDelete p name with
  | error r =>
    unfold delete at h
    rw [hcheck] at h
    exact nomatch h
  | ok t =>
    have htable := table?_of_table (table_of_checkDelete hcheck)
    rcases testable_or_fault (p.scope "").conditions t.rows with htest | ⟨_, _, _, _, hrows, hbefore, hrow⟩
    · exact ⟨t, .removal, htable, rfl, htest, delete_of_testable hcheck htest⟩
    · unfold delete at h
      rw [hcheck] at h
      simp only [hrows, divide_of_fault hbefore hrow] at h
      exact nomatch h

end Store

variable {server : Server} {kind : WriteKind} {name query : String} {headers : Http.Headers}
  {body : List UInt8}

/-- A write that is not turned down was read, could test all rows of its table, and has changed those that pass what
was asked of the root. -/
theorem process_of_ok {reply : Reply} (hkind : kind.takesFilters = true)
    (h : (server.process kind.method.name name query headers body).1 = .ok reply) :
    ∃ p t change, Params.read query headers = .ok p ∧ server.store.table? name = some t ∧
      Change.ofWrite kind body = .ok change ∧ (∀ row ∈ t.rows, Row.IsTestable (p.scope "").conditions row) ∧
      (server.process kind.method.name name query headers body).2 =
        server.store.setRows name t (change.apply (Row.passes (p.scope "").conditions) t.rows) := by
  cases hvet : server.vet kind.method.name name query headers with
  | error r =>
    rw [process_of_vet_error hvet] at h
    exact nomatch h
  | ok p =>
    cases kind with
    | update =>
      rw [show WriteKind.update.method.name = "PATCH" from rfl] at hvet h ⊢
      rw [process_patch hvet] at h ⊢
      obtain ⟨t, change, hwritten⟩ := Store.update_of_ok h
      exact ⟨p, t, change, read_of_vet hvet, hwritten⟩
    | delete =>
      rw [show WriteKind.delete.method.name = "DELETE" from rfl] at hvet h ⊢
      rw [process_delete hvet] at h ⊢
      obtain ⟨t, change, hwritten⟩ := Store.delete_of_ok h
      exact ⟨p, t, change, read_of_vet hvet, hwritten⟩
    | insert => exact nomatch hkind
    | upsert => exact nomatch hkind

/-- **A write that succeeds** could test all rows of its table, and has made its change on those that pass what was
asked of the root. -/
theorem written_of_success {r : Request} {t : Http.Target} {message : Http.Message}
    (hkind : kind.takesFilters = true) (hmethod : r.method = kind.method) (hsent : r.IsSentAs t message)
    (h : server.Accepts t message) :
    ∃ p table change, Params.read r.queryString message.headers = .ok p ∧
      server.store.table? r.table = some table ∧ Change.ofWrite kind r.octets = .ok change ∧
      (∀ row ∈ table.rows, Row.IsTestable (p.scope "").conditions row) ∧
      (server.respond t message).2 =
        { server with
          store := server.store.setRows r.table table
            (change.apply (Row.passes (p.scope "").conditions) table.rows) } := by
  obtain ⟨reply, hreply, -⟩ := h.exists_reply hsent.route
  have hbody : message.body.getD [] = r.octets := by rw [hsent.body, Request.octets]
  rw [hsent.method, hsent.query, hbody, hmethod] at hreply
  obtain ⟨p, table, change, hread, hstored, hchange, htest, hstore⟩ := process_of_ok hkind hreply
  refine ⟨p, table, change, hread, hstored, hchange, htest, ?_⟩
  rw [(respond_of_route server message hsent.route).2, hsent.method, hsent.query, hbody, hmethod, hstore]

end Server
end TableQuery
