import TableQuery.Proofs.Chained
import TableQuery.Server.Store

/-! What a write leaves in the store.

A write that goes through replaces the rows of one table (`table?_setRows`, `table?_setRows_of_ne`). One
that is turned down replaces them too where that comes late (`LateFault`): an insertion is checked as a
whole before any row goes in, but the rows it is to return are looked for afterwards; an update and a
deletion change rows while they are still testing others. `insert_of_late` and its likes say what is left
then, `insert_of_error` and its likes that nothing has changed otherwise. -/
namespace TableQuery.Server

/-! ### Testing rows -/

/-- Whether the conditions can be tested on a row, whatever comes of it. -/
def Row.IsTestable (conditions : List Condition) (row : Row) : Prop :=
  ∃ hit, row.satisfies conditions = .ok hit

/-- Whether a row satisfies the conditions; not, where they cannot be tested. -/
def Row.passes (conditions : List Condition) (row : Row) : Bool :=
  match row.satisfies conditions with
  | .ok hit => hit
  | .error _ => false

theorem Row.passes_of_ok {conditions : List Condition} {row : Row} {hit : Bool}
    (h : row.satisfies conditions = .ok hit) : row.passes conditions = hit := by
  unfold passes
  rw [h]

/-- All rows can be tested, or there is a first one that cannot. -/
theorem testable_or_fault (conditions : List Condition) (rows : List Row) :
    (∀ row ∈ rows, row.IsTestable conditions) ∨
      ∃ before row after f, rows = before ++ row :: after ∧
        (∀ r ∈ before, Row.IsTestable conditions r) ∧ row.satisfies conditions = .error f := by
  induction rows with
  | nil => exact .inl fun row h => nomatch h
  | cons row rows ih =>
    cases hrow : row.satisfies conditions with
    | error f => exact .inr ⟨[], row, rows, f, rfl, (fun _ h => nomatch h), hrow⟩
    | ok hit =>
      rcases ih with hall | ⟨before, r, after, f, rfl, hbefore, hr⟩
      · exact .inl (List.forall_mem_cons.mpr ⟨⟨hit, hrow⟩, hall⟩)
      · exact .inr ⟨row :: before, r, after, f, rfl,
          List.forall_mem_cons.mpr ⟨⟨hit, hrow⟩, hbefore⟩, hr⟩

namespace Store

/-! ### One table's rows -/

theorem table?_insertTable_of_ne (s : Store) {name other : String} (t : Table) (h : other ≠ name) :
    (s.insertTable name t).table? other = s.table? other := by
  have hput (l : List (String × Table)) :
      (putTable name t l).find? (fun e => e.1 == other) = l.find? fun e => e.1 == other := by
    induction l with
    | nil => simp [putTable, h.symm]
    | cons e rest ih =>
      unfold putTable
      by_cases hk : e.1 = name
      · subst hk
        simp [h.symm]
      · rw [if_neg hk, List.find?_cons, List.find?_cons, ih]
  unfold table? insertTable
  rw [hput]

theorem table?_setRows (s : Store) (name : String) (t : Table) (rows : List Row) :
    (s.setRows name t rows).table? name = some { t with rows := rows } :=
  table?_insertTable_self ..

theorem rows_of_table? {s : Store} {name : String} {t : Table} (h : s.table? name = some t) :
    s.rows name = t.rows := by
  rw [Store.rows, h]
  rfl

theorem rows_setRows (s : Store) (name : String) (t : Table) (rows : List Row) :
    (s.setRows name t rows).rows name = rows :=
  rows_of_table? (table?_setRows s name t rows)

theorem table?_setRows_of_ne (s : Store) {name other : String} (t : Table) (rows : List Row)
    (h : other ≠ name) : (s.setRows name t rows).table? other = s.table? other :=
  table?_insertTable_of_ne s _ h

theorem table?_of_table {s : Store} {name : String} {t : Table} (h : s.table name = .ok t) :
    s.table? name = some t := by
  unfold table at h
  split at h
  · next ht => rw [ht, Except.ok.inj h]
  · exact nomatch h

/-! ### The loops over the rows -/

/-- A row after an update. -/
def patched (conditions : List Condition) (patch row : Row) : Row :=
  if row.passes conditions then row.extend patch else row

theorem patchRows_of_testable {conditions : List Condition} {patch : Row} {rows : List Row}
    (h : ∀ row ∈ rows, row.IsTestable conditions) :
    patchRows conditions patch rows =
      (.ok ((rows.filter (Row.passes conditions)).map (·.extend patch)),
        rows.map (patched conditions patch)) := by
  induction rows with
  | nil => rfl
  | cons row rows ih =>
    obtain ⟨⟨hit, hrow⟩, hrest⟩ := List.forall_mem_cons.mp h
    have hpass := Row.passes_of_ok hrow
    unfold patchRows
    rw [hrow, ih hrest]
    cases hit <;> simp [patched, hpass, Except.map]

/-- The rows before the one that cannot be tested are patched by then. -/
theorem patchRows_of_fault {conditions : List Condition} {patch : Row} {before after : List Row}
    {row : Row} {f : SyntaxFault} (hbefore : ∀ r ∈ before, Row.IsTestable conditions r)
    (hrow : row.satisfies conditions = .error f) :
    patchRows conditions patch (before ++ row :: after) =
      (.error f, before.map (patched conditions patch) ++ row :: after) := by
  induction before with
  | nil =>
    show patchRows conditions patch (row :: after) = _
    unfold patchRows
    rw [hrow]
    rfl
  | cons r before ih =>
    obtain ⟨⟨hit, hr⟩, hrest⟩ := List.forall_mem_cons.mp hbefore
    have hpass := Row.passes_of_ok hr
    show patchRows conditions patch (r :: (before ++ row :: after)) = _
    unfold patchRows
    rw [hr, ih hrest]
    cases hit <;> simp [patched, hpass, Except.map]

theorem divide_of_testable {conditions : List Condition} {rows : List Row}
    (h : ∀ row ∈ rows, row.IsTestable conditions) :
    divide conditions rows =
      .ok (rows.filter fun row => !row.passes conditions, rows.filter (Row.passes conditions)) := by
  induction rows with
  | nil => rfl
  | cons row rows ih =>
    obtain ⟨⟨hit, hrow⟩, hrest⟩ := List.forall_mem_cons.mp h
    have hpass := Row.passes_of_ok hrow
    unfold divide
    rw [hrow, ih hrest]
    cases hit <;> simp [hpass, bind, Except.bind]

theorem divide_of_fault {conditions : List Condition} {before after : List Row} {row : Row}
    {f : SyntaxFault} (hbefore : ∀ r ∈ before, Row.IsTestable conditions r)
    (hrow : row.satisfies conditions = .error f) :
    divide conditions (before ++ row :: after) = .error f := by
  induction before with
  | nil =>
    show divide conditions (row :: after) = _
    unfold divide
    rw [hrow]
    rfl
  | cons r before ih =>
    obtain ⟨⟨hit, hr⟩, hrest⟩ := List.forall_mem_cons.mp hbefore
    show divide conditions (r :: (before ++ row :: after)) = _
    unfold divide
    rw [hr, ih hrest]
    rfl

/-! ### Faults found late -/

/-- A fault of a write that is found only after rows were changed, with the rows that the table is left
with. -/
inductive LateFault (s : Store) (p : Params) (name : String) (body : List UInt8) (method : String)
    (t : Table) : List Row → Prop where
  /-- The rows have gone in, and cannot be returned. -/
  | insertReturn {staged : Staged} {halt : Halt} (hmethod : method = "POST")
      (hstage : s.stage p name body = .ok (t, staged)) (hreturned : p.representation = true)
      (hfault : (s.setRows name t staged.rows).project p name staged.affected = .error halt) :
      LateFault s p name body method t staged.rows
  /-- A row cannot be tested, those before it being patched by then. -/
  | updateTest {patch : Row} {before after : List Row} {row : Row} {f : SyntaxFault}
      (hmethod : method = "PATCH") (hcheck : s.checkUpdate p name body = .ok (t, patch))
      (hrows : t.rows = before ++ row :: after)
      (hbefore : ∀ r ∈ before, Row.IsTestable (p.scope "").conditions r)
      (hfault : row.satisfies (p.scope "").conditions = .error f) :
      LateFault s p name body method t
        (before.map (patched (p.scope "").conditions patch) ++ row :: after)
  /-- The rows are patched, and cannot be returned. -/
  | updateReturn {patch : Row} {halt : Halt} (hmethod : method = "PATCH")
      (hcheck : s.checkUpdate p name body = .ok (t, patch))
      (htest : ∀ row ∈ t.rows, row.IsTestable (p.scope "").conditions)
      (hreturned : p.representation = true)
      (hfault : (s.setRows name t (t.rows.map (patched (p.scope "").conditions patch))).project p name
        ((t.rows.filter (Row.passes (p.scope "").conditions)).map (·.extend patch)) = .error halt) :
      LateFault s p name body method t (t.rows.map (patched (p.scope "").conditions patch))
  /-- A row cannot be tested, all rows being taken out by then. -/
  | deleteTest {row : Row} {f : SyntaxFault} (hmethod : method = "DELETE")
      (hcheck : s.checkDelete p name = .ok t) (hrow : row ∈ t.rows)
      (hfault : row.satisfies (p.scope "").conditions = .error f) :
      LateFault s p name body method t []
  /-- The rows are gone, and cannot be returned. -/
  | deleteReturn {halt : Halt} (hmethod : method = "DELETE") (hcheck : s.checkDelete p name = .ok t)
      (htest : ∀ row ∈ t.rows, row.IsTestable (p.scope "").conditions)
      (hreturned : p.representation = true)
      (hfault : (s.setRows name t
          (t.rows.filter fun row => !row.passes (p.scope "").conditions)).project p name
        (t.rows.filter (Row.passes (p.scope "").conditions)) = .error halt) :
      LateFault s p name body method t
        (t.rows.filter fun row => !row.passes (p.scope "").conditions)

variable {s : Store} {p : Params} {name : String} {body : List UInt8} {t : Table} {halt : Halt}

/-! ### The checks of a write -/

theorem ok_of_orBody {α : Type} {x : Except BodyFault α} {a : α} (h : orBody x = .ok a) : x = .ok a := by
  cases x with
  | ok _ => exact congrArg Except.ok (Except.ok.inj h)
  | error _ => exact nomatch h

theorem stage_eq_ok {staged : Staged} : s.stage p name body = .ok (t, staged) ↔
    ∃ incoming, rowsOfBody body = .ok incoming ∧ s.table name = .ok t ∧
      incoming.forM (checkPayload name t) = .ok () ∧
      incoming.foldlM (Staged.put name t (p.conflict.getD [keyColumn]) p.resolution) ⟨t.rows, []⟩ =
        .ok staged := by
  unfold stage
  constructor
  · intro h
    obtain ⟨incoming, hincoming, h⟩ := Chained.bind_eq_ok.mp h
    obtain ⟨u, hu, h⟩ := Chained.bind_eq_ok.mp h
    obtain ⟨⟨⟩, hpayload, h⟩ := Chained.bind_eq_ok.mp h
    obtain ⟨staged', hput, h⟩ := Chained.bind_eq_ok.mp h
    obtain ⟨rfl, rfl⟩ := Prod.mk.inj (Except.ok.inj h)
    exact ⟨incoming, ok_of_orBody (orRefusal_eq_ok.mp hincoming), orRefusal_eq_ok.mp hu, orRefusal_eq_ok.mp hpayload,
      hput⟩
  · rintro ⟨incoming, hincoming, ht, hpayload, hput⟩
    rw [hincoming, ht]
    exact Chained.bind_eq_ok.mpr ⟨incoming, rfl, Chained.bind_eq_ok.mpr ⟨t, rfl,
      Chained.bind_eq_ok.mpr ⟨(), orRefusal_eq_ok.mpr hpayload, Chained.bind_eq_ok.mpr ⟨staged, hput, rfl⟩⟩⟩⟩

theorem checkUpdate_eq_ok {patch : Row} : s.checkUpdate p name body = .ok (t, patch) ↔
    patchOfBody body = .ok patch ∧ s.table name = .ok t ∧
      checkColumns name t (p.scope "").conditions [] = .ok () ∧ checkPayload name t patch = .ok () := by
  unfold checkUpdate
  constructor
  · intro h
    obtain ⟨patch', hpatch, h⟩ := Chained.bind_eq_ok.mp h
    obtain ⟨u, hu, h⟩ := Chained.bind_eq_ok.mp h
    obtain ⟨⟨⟩, hcolumns, h⟩ := Chained.bind_eq_ok.mp h
    obtain ⟨⟨⟩, hpayload, h⟩ := Chained.bind_eq_ok.mp h
    obtain ⟨rfl, rfl⟩ := Prod.mk.inj (Except.ok.inj h)
    exact ⟨ok_of_orBody hpatch, hu, hcolumns, hpayload⟩
  · rintro ⟨hpatch, ht, hcolumns, hpayload⟩
    rw [hpatch, ht]
    exact Chained.bind_eq_ok.mpr ⟨patch, rfl, Chained.bind_eq_ok.mpr ⟨t, rfl,
      Chained.bind_eq_ok.mpr ⟨(), hcolumns, Chained.bind_eq_ok.mpr ⟨(), hpayload, rfl⟩⟩⟩⟩

theorem table_of_checkDelete (h : s.checkDelete p name = .ok t) : s.table name = .ok t := by
  unfold checkDelete at h
  obtain ⟨u, hu, h⟩ := Chained.bind_eq_ok.mp h
  obtain ⟨_, -, h⟩ := Chained.bind_eq_ok.mp h
  rw [hu, Except.ok.inj h]

/-- What a write is answered can only be withheld for the rows it is to return. -/
theorem project_of_written_error {full bare : Nat} {affected : List Row}
    (h : s.written p name full bare affected = .error halt) :
    p.representation = true ∧ s.project p name affected = .error halt := by
  unfold written at h
  split at h
  · next hp =>
    cases hproject : s.project p name affected with
    | ok rows =>
      rw [hproject] at h
      exact nomatch h
    | error halt' =>
      rw [hproject] at h
      have h : (Except.error halt' : Except Halt Reply) = .error halt := h
      exact ⟨hp, by rw [Except.error.inj h]⟩
  · exact nomatch h

theorem status_of_written {full bare : Nat} {affected : List Row} {reply : Reply}
    (h : s.written p name full bare affected = .ok reply) : reply.status = full ∨ reply.status = bare := by
  unfold written at h
  split at h
  · obtain ⟨rows, -, h⟩ := Chained.bind_eq_ok.mp h
    exact .inl (Except.ok.inj h ▸ rfl)
  · exact .inr (Except.ok.inj h ▸ rfl)

theorem LateFault.table? {method : String} {rows : List Row} (h : s.LateFault p name body method t rows) :
    s.table? name = some t := by
  apply table?_of_table
  cases h with
  | insertReturn _ hstage =>
    obtain ⟨_, -, ht, -⟩ := stage_eq_ok.mp hstage
    exact ht
  | updateTest _ hcheck => exact (checkUpdate_eq_ok.mp hcheck).2.1
  | updateReturn _ hcheck => exact (checkUpdate_eq_ok.mp hcheck).2.1
  | deleteTest _ hcheck => exact table_of_checkDelete hcheck
  | deleteReturn _ hcheck => exact table_of_checkDelete hcheck

/-! ### The three writes -/

/-- Of an insertion only the rows to return can come to a fault late. -/
theorem LateFault.of_post {rows : List Row} (h : s.LateFault p name body "POST" t rows) :
    ∃ staged, s.stage p name body = .ok (t, staged) ∧ rows = staged.rows := by
  cases h with
  | insertReturn _ hstage => exact ⟨_, hstage, rfl⟩
  | updateTest hmethod => exact absurd hmethod (by decide)
  | updateReturn hmethod => exact absurd hmethod (by decide)
  | deleteTest hmethod => exact absurd hmethod (by decide)
  | deleteReturn hmethod => exact absurd hmethod (by decide)

theorem insert_of_late {rows : List Row} (h : s.LateFault p name body "POST" t rows) :
    (s.insert p name body).2 = s.setRows name t rows := by
  obtain ⟨staged, hstage, rfl⟩ := h.of_post
  unfold insert
  rw [hstage]

theorem insert_of_error (h : (s.insert p name body).1 = .error halt)
    (hlate : ∀ t rows, ¬s.LateFault p name body "POST" t rows) : (s.insert p name body).2 = s := by
  unfold insert at h ⊢
  cases hstage : s.stage p name body with
  | error _ => rfl
  | ok x =>
    rw [hstage] at h
    obtain ⟨hp, hproject⟩ := project_of_written_error h
    exact absurd (.insertReturn rfl hstage hp hproject) (hlate x.1 x.2.rows)

theorem update_of_testable {patch : Row} (hcheck : s.checkUpdate p name body = .ok (t, patch))
    (htest : ∀ row ∈ t.rows, row.IsTestable (p.scope "").conditions) :
    (s.update p name body).2 = s.setRows name t (t.rows.map (patched (p.scope "").conditions patch)) := by
  unfold update
  rw [hcheck]
  simp only [patchRows_of_testable htest]

theorem update_of_late {rows : List Row} (h : s.LateFault p name body "PATCH" t rows) :
    (s.update p name body).2 = s.setRows name t rows := by
  cases h with
  | insertReturn hmethod => exact absurd hmethod (by decide)
  | updateTest _ hcheck hrows hbefore hfault =>
    unfold update
    rw [hcheck]
    simp only [hrows, patchRows_of_fault hbefore hfault]
  | updateReturn _ hcheck htest => exact update_of_testable hcheck htest
  | deleteTest hmethod => exact absurd hmethod (by decide)
  | deleteReturn hmethod => exact absurd hmethod (by decide)

theorem update_of_error (h : (s.update p name body).1 = .error halt)
    (hlate : ∀ t rows, ¬s.LateFault p name body "PATCH" t rows) : (s.update p name body).2 = s := by
  unfold update at h ⊢
  cases hcheck : s.checkUpdate p name body with
  | error _ => rfl
  | ok x =>
    obtain ⟨t, patch⟩ := x
    rcases testable_or_fault (p.scope "").conditions t.rows with htest | ⟨_, _, _, _, hrows, hbefore, hrow⟩
    · rw [hcheck] at h
      simp only [patchRows_of_testable htest] at h
      obtain ⟨hp, hproject⟩ := project_of_written_error h
      exact absurd (.updateReturn rfl hcheck htest hp hproject) (hlate t _)
    · exact absurd (.updateTest rfl hcheck hrows hbefore hrow) (hlate t _)

theorem delete_of_testable (hcheck : s.checkDelete p name = .ok t)
    (htest : ∀ row ∈ t.rows, row.IsTestable (p.scope "").conditions) :
    (s.delete p name).2 =
      s.setRows name t (t.rows.filter fun row => !row.passes (p.scope "").conditions) := by
  unfold delete
  rw [hcheck]
  simp only [divide_of_testable htest]

theorem delete_of_late {rows : List Row} (h : s.LateFault p name body "DELETE" t rows) :
    (s.delete p name).2 = s.setRows name t rows := by
  cases h with
  | insertReturn hmethod => exact absurd hmethod (by decide)
  | updateTest hmethod => exact absurd hmethod (by decide)
  | updateReturn hmethod => exact absurd hmethod (by decide)
  | @deleteTest row f _ hcheck hrow hfault =>
    unfold delete
    rw [hcheck]
    rcases testable_or_fault (p.scope "").conditions t.rows with htest | ⟨_, _, _, _, hrows, hbefore, hr⟩
    · obtain ⟨hit, hhit⟩ := htest row hrow
      rw [hhit] at hfault
      exact nomatch hfault
    · simp only [hrows, divide_of_fault hbefore hr]
  | deleteReturn _ hcheck htest => exact delete_of_testable hcheck htest

theorem delete_of_error (h : (s.delete p name).1 = .error halt)
    (hlate : ∀ t rows, ¬s.LateFault p name body "DELETE" t rows) : (s.delete p name).2 = s := by
  unfold delete at h ⊢
  cases hcheck : s.checkDelete p name with
  | error _ => rfl
  | ok t =>
    rcases testable_or_fault (p.scope "").conditions t.rows with htest | ⟨_, _, _, _, hrows, -, hrow⟩
    · rw [hcheck] at h
      simp only [divide_of_testable htest] at h
      obtain ⟨hp, hproject⟩ := project_of_written_error h
      exact absurd (.deleteReturn rfl hcheck htest hp hproject) (hlate t _)
    · exact absurd (.deleteTest rfl hcheck (by rw [hrows]; simp) hrow) (hlate t _)

/-! ### Successes -/

theorem status_insert {reply : Reply} (h : (s.insert p name body).1 = .ok reply) : reply.status < 300 := by
  unfold insert at h
  split at h
  · exact nomatch h
  · rcases status_of_written h with hs | hs <;> rw [hs] <;> decide

theorem status_update {reply : Reply} (h : (s.update p name body).1 = .ok reply) : reply.status < 300 := by
  unfold update at h
  split at h
  · exact nomatch h
  · dsimp only at h
    split at h
    · exact nomatch h
    · rcases status_of_written h with hs | hs <;> rw [hs] <;> decide

theorem status_delete {reply : Reply} (h : (s.delete p name).1 = .ok reply) : reply.status < 300 := by
  unfold delete at h
  split at h
  · exact nomatch h
  · split at h
    · exact nomatch h
    · rcases status_of_written h with hs | hs <;> rw [hs] <;> decide

end Store
end TableQuery.Server
