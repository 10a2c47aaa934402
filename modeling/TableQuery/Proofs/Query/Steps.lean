import TableQuery.Mutation

/-! Steps on a query, and on the write it may become.

A step is rejected for what it is given or for where it comes (`Step.rejection?`). Each step leaves a fault that was
recorded before, and without one records its own rejection (`Step.fault?_apply`), so what a chain of steps records is
the rejection of the first step that has one, whatever comes behind it (`Chain.compile_rejected`). -/
namespace TableQuery.Building

/-- A read is put together, or the write that it has become. -/
inductive Stage where
  | reading
  | writing

def Draft : Stage → Type
  | .reading => Query
  | .writing => Mutation

/-- A step from one stage to another. -/
inductive Step : Stage → Stage → Type where
  | refine {stage : Stage} (r : Refinement) : Step stage stage
  | inSchema {stage : Stage} (schema : String) : Step stage stage
  | timeout {stage : Stage} (d : Duration) : Step stage stage
  | select (items : List String) : Step .reading .reading
  | relations (heads : List String) : Step .reading .reading
  /-- A fault of the relation itself is not one of this step; it is found in the relation. -/
  | relation (r : Relation) : Step .reading .reading
  | orderBy (key : SortKey) : Step .reading .reading
  | limit (n : UInt64) : Step .reading .reading
  | offset (n : UInt64) : Step .reading .reading
  | page (number size : UInt64) : Step .reading .reading
  | range (first last : UInt64) : Step .reading .reading
  | cursor (column : String) (value : Scalar) (direction : Direction) : Step .reading .reading
  | tiebreaker (column : String) (value : Scalar) : Step .reading .reading
  | count (strategy : CountStrategy) : Step .reading .reading
  | head : Step .reading .reading
  | caching (policy : CachePolicy) : Step .reading .reading
  /-- The body is a value, or the reason why there is none, where the kind of write has one. -/
  | write (kind : WriteKind) (body : Option (Except String Json)) : Step .reading .writing
  | returning (columns : List String) : Step .writing .writing
  | onConflict (columns : List String) : Step .writing .writing
  | ignoreDuplicates : Step .writing .writing

namespace Draft

def fault? : {stage : Stage} → Draft stage → Option Error
  | .reading, q => Query.fault q
  | .writing, m => Mutation.fault m

def compile : {stage : Stage} → Draft stage → Except Error Request
  | .reading, q => Query.compile q
  | .writing, m => Mutation.compile m

/-- A write is compiled in one mode only. -/
def compileAs : {stage : Stage} → Draft stage → Mode → Except Error Request
  | .reading, q, mode => Query.compileAs q mode
  | .writing, m, _ => Mutation.compile m

def refine : {stage : Stage} → Draft stage → Refinement → Draft stage
  | .reading, q, r => Query.refine q r
  | .writing, m, r => Mutation.refine m r

def inSchema : {stage : Stage} → Draft stage → String → Draft stage
  | .reading, q, schema => Query.inSchema q schema
  | .writing, m, schema => Mutation.inSchema m schema

def timeout : {stage : Stage} → Draft stage → Duration → Draft stage
  | .reading, q, d => Query.timeout q d
  | .writing, m, d => Mutation.timeout m d

end Draft

namespace Step

def apply : {before after : Stage} → Step before after → Draft before → Draft after
  | _, _, .refine r, d => d.refine r
  | _, _, .inSchema schema, d => d.inSchema schema
  | _, _, .timeout duration, d => d.timeout duration
  | _, _, .select items, q => Query.selecting q items
  | _, _, .relations heads, q => Query.relating q heads
  | _, _, .relation r, q => Query.relate q r
  | _, _, .orderBy key, q => Query.orderBy q key
  | _, _, .limit n, q => Query.limit q n
  | _, _, .offset n, q => Query.offset q n
  | _, _, .page number size, q => Query.page q number size
  | _, _, .range first last, q => Query.range q first last
  | _, _, .cursor column value direction, q => Query.cursor q column value direction
  | _, _, .tiebreaker column value, q => Query.tiebreaker q column value
  | _, _, .count strategy, q => Query.counted q strategy
  | _, _, .head, q => Query.headOnly q
  | _, _, .caching policy, q => Query.caching q policy
  | _, _, .write kind none, q => Query.toMutation q kind none
  | _, _, .write kind (some (.ok body)), q => Query.toMutation q kind (some body)
  | _, _, .write kind (some (.error reason)), q => Query.toFailedMutation q kind reason
  | _, _, .returning columns, m => Mutation.returningColumns m columns
  | _, _, .onConflict columns, m => Mutation.onConflict m columns
  | _, _, .ignoreDuplicates, m => Mutation.ignoreDuplicates m

end Step

/-! ### Rejections -/

/-- What is wrong with something that could not be read. -/
def faultOf? {α : Type} : Except Fault α → Option Error
  | .ok _ => none
  | .error f => some f.toError

/-- What is wrong with the first of several texts that cannot be read. -/
def firstFault? {α : Type} (read : String → Except Fault α) (texts : List String) : Option Error :=
  texts.findSome? fun text => faultOf? (read text)

/-- A pagination there was before and that another does not go with. -/
def conflict? (requested : String) (fits : Pagination → Bool) (existing : Option Pagination) : Option Error :=
  (existing.filter fun p => !fits p).map fun p => (Fault.paginationConflict requested p.name).toError

/-- A second key is for a cursor only. -/
def cursorless? : Option Pagination → Option Error
  | some (.cursor _) => none
  | _ => some Fault.tiebreakerWithoutCursor.toError

/-- A step that only an upsert takes. -/
def misplaced? (fault : String → Fault) : WriteKind → Option Error
  | .upsert _ _ => none
  | kind => some (fault kind.name).toError

namespace Step

/-- The paginations that a step to another one goes on from. -/
def fits : {before after : Stage} → Step before after → Pagination → Bool
  | _, _, .limit _, .window _ _ | _, _, .limit _, .cursor _ => true
  | _, _, .offset _, .window _ _ => true
  | _, _, .page _ _, .page _ _ => true
  | _, _, .range _ _, .range _ _ => true
  | _, _, .cursor _ _ _, .window rows _ => rows = 0
  | _, _, .cursor _ _ _, .cursor _ => true
  | _, _, _, _ => false

/-- Why a step is rejected where it comes, if it is. -/
def rejection? : {before after : Stage} → Step before after → Draft before → Option Error
  | _, _, .refine r, _ => faultOf? r.resolve
  | _, _, .select items, _ => firstFault? SelectItem.parse items
  | _, _, .relations heads, _ => firstFault? Relation.parse heads
  | _, _, .limit n, q => conflict? "limit" (fits (.limit n)) (Query.pagination q)
  | _, _, .offset n, q => conflict? "offset" (fits (.offset n)) (Query.pagination q)
  | _, _, .page number size, q => conflict? "page" (fits (.page number size)) (Query.pagination q)
  | _, _, .range first last, q => conflict? "range" (fits (.range first last)) (Query.pagination q)
  | _, _, .cursor column value direction, q =>
    conflict? "cursor" (fits (.cursor column value direction)) (Query.pagination q)
  | _, _, .tiebreaker _ _, q => cursorless? (Query.pagination q)
  | _, _, .write kind body, q =>
    (if kind.takesFilters || (Query.filters q).isEmpty then none
      else some (Fault.filtersNotTaken kind.name).toError).or
    (match body with
      | some (.error reason) => some (Fault.unserializableBody reason).toError
      | _ => none)
  | _, _, .returning columns, _ => firstFault? SelectItem.parse columns
  | _, _, .onConflict _, m => misplaced? .conflictTargetNotTaken (Mutation.kind m)
  | _, _, .ignoreDuplicates, m => misplaced? .skippingNotTaken (Mutation.kind m)
  | _, _, .inSchema _, _ | _, _, .timeout _, _ | _, _, .relation _, _ | _, _, .orderBy _, _ | _, _, .count _, _
  | _, _, .head, _ | _, _, .caching _, _ => none

end Step

/-! ### What one step records -/

section
variable {q : Query} {m : Mutation}

theorem faultOf?_mapM {α : Type} (read : String → Except Fault α) (texts : List String) :
    faultOf? (texts.mapM read) = firstFault? read texts := by
  induction texts with
  | nil => rfl
  | cons text rest ih =>
    rw [List.mapM_cons, firstFault?, List.findSome?_cons, ← firstFault?, ← ih]
    cases read text with
    | error f => rfl
    | ok a => cases rest.mapM read <;> rfl

theorem fault_selecting (texts : List String) :
    (q.selecting texts).fault = q.fault.or (firstFault? SelectItem.parse texts) := by
  induction texts generalizing q with
  | nil => simp [Query.selecting, firstFault?]
  | cons text rest ih =>
    rw [Query.selecting, firstFault?, List.findSome?_cons, ← firstFault?]
    cases SelectItem.parse text with
    | ok item => exact ih
    | error f => rfl

theorem fault_relating (heads : List String) :
    (q.relating heads).fault = q.fault.or (firstFault? Relation.parse heads) := by
  induction heads generalizing q with
  | nil => simp [Query.relating, firstFault?]
  | cons text rest ih =>
    rw [Query.relating, firstFault?, List.findSome?_cons, ← firstFault?]
    cases Relation.parse text with
    | ok r => exact ih
    | error f => rfl

theorem fault_limit (n : UInt64) :
    (q.limit n).fault = q.fault.or (conflict? "limit" (Step.fits (.limit n)) q.pagination) := by
  unfold Query.limit
  cases q.pagination with
  | none => exact Option.or_none.symm
  | some p =>
    cases p with
    | window _ _ | cursor _ => exact Option.or_none.symm
    | page _ _ | range _ _ => rfl

theorem fault_offset (n : UInt64) :
    (q.offset n).fault = q.fault.or (conflict? "offset" (Step.fits (.offset n)) q.pagination) := by
  unfold Query.offset
  cases q.pagination with
  | none => exact Option.or_none.symm
  | some p =>
    cases p with
    | window _ _ => exact Option.or_none.symm
    | page _ _ | range _ _ | cursor _ => rfl

theorem fault_page (number size : UInt64) :
    (q.page number size).fault = q.fault.or (conflict? "page" (Step.fits (.page number size)) q.pagination) := by
  unfold Query.page
  cases q.pagination with
  | none => exact Option.or_none.symm
  | some p =>
    cases p with
    | page _ _ => exact Option.or_none.symm
    | window _ _ | range _ _ | cursor _ => rfl

theorem fault_range (first last : UInt64) :
    (q.range first last).fault = q.fault.or (conflict? "range" (Step.fits (.range first last)) q.pagination) := by
  unfold Query.range
  cases q.pagination with
  | none => exact Option.or_none.symm
  | some p =>
    cases p with
    | range _ _ => exact Option.or_none.symm
    | page _ _ | window _ _ | cursor _ => rfl

theorem fault_cursor (column : String) (value : Scalar) (direction : Direction) :
    (q.cursor column value direction).fault =
      q.fault.or (conflict? "cursor" (Step.fits (.cursor column value direction)) q.pagination) := by
  unfold Query.cursor
  cases q.pagination with
  | none => exact Option.or_none.symm
  | some p =>
    cases p with
    | window rows limit =>
      by_cases hzero : rows = 0
      · subst hzero
        exact Option.or_none.symm
      · have hfits : Step.fits (.cursor column value direction) (.window rows limit) = false := decide_eq_false hzero
        dsimp only
        rw [if_neg hzero, conflict?, Option.filter_some, hfits]
        rfl
    | cursor _ => exact Option.or_none.symm
    | page _ _ | range _ _ => rfl

theorem fault_tiebreaker (column : String) (value : Scalar) :
    (q.tiebreaker column value).fault = q.fault.or (cursorless? q.pagination) := by
  unfold Query.tiebreaker
  cases q.pagination with
  | none => rfl
  | some p =>
    cases p with
    | cursor _ => exact Option.or_none.symm
    | page _ _ | window _ _ | range _ _ => rfl

theorem fault_toMutation (kind : WriteKind) (body : Option Json) :
    (q.toMutation kind body).fault =
      q.fault.or (if kind.takesFilters || q.filters.isEmpty then none
        else some (Fault.filtersNotTaken kind.name).toError) := by
  unfold Query.toMutation
  cases kind.takesFilters with
  | true => simp
  | false => cases q.filters.isEmpty <;> simp [Mutation.reject]

theorem fault_returningColumns (columns : List String) :
    (m.returningColumns columns).fault = m.fault.or (firstFault? SelectItem.parse columns) := by
  rw [← faultOf?_mapM]
  unfold Mutation.returningColumns
  cases columns.mapM SelectItem.parse with
  | ok items => exact Option.or_none.symm
  | error f => rfl

theorem fault_toFailedMutation (kind : WriteKind) (reason : String) :
    (q.toFailedMutation kind reason).fault =
      q.fault.or ((if kind.takesFilters || q.filters.isEmpty then none
        else some (Fault.filtersNotTaken kind.name).toError).or (some (Fault.unserializableBody reason).toError)) := by
  rw [← Option.or_assoc, ← fault_toMutation kind none]
  rfl

theorem fault_onConflict (columns : List String) :
    (m.onConflict columns).fault = m.fault.or (misplaced? .conflictTargetNotTaken m.kind) := by
  unfold Mutation.onConflict
  cases m.kind with
  | upsert target skip => exact Option.or_none.symm
  | insert | update | delete => rfl

theorem fault_ignoreDuplicates : m.ignoreDuplicates.fault = m.fault.or (misplaced? .skippingNotTaken m.kind) := by
  unfold Mutation.ignoreDuplicates
  cases m.kind with
  | upsert target skip => exact Option.or_none.symm
  | insert | update | delete => rfl

theorem Draft.fault?_refine {stage : Stage} (d : Draft stage) (r : Refinement) :
    (d.refine r).fault? = d.fault?.or (faultOf? r.resolve) := by
  cases stage with
  | reading =>
    show (Query.refine d r).fault = (Query.fault d).or _
    unfold Query.refine
    cases r.resolve with
    | ok fs => exact Option.or_none.symm
    | error f => rfl
  | writing =>
    show (Mutation.refine d r).fault = (Mutation.fault d).or _
    unfold Mutation.refine
    cases r.resolve with
    | ok fs => exact Option.or_none.symm
    | error f => rfl

end

namespace Step
variable {a b : Stage}

/-- A step leaves the fault that was recorded, and without one records its own rejection. -/
theorem fault?_apply (step : Step a b) (d : Draft a) :
    (step.apply d).fault? = d.fault?.or (step.rejection? d) := by
  cases step with
  | refine r => exact d.fault?_refine r
  | inSchema schema => cases a <;> exact (Option.or_none).symm
  | timeout duration => cases a <;> exact (Option.or_none).symm
  | select items => exact fault_selecting items
  | relations heads => exact fault_relating heads
  | limit n => exact fault_limit n
  | offset n => exact fault_offset n
  | page number size => exact fault_page number size
  | range first last => exact fault_range first last
  | cursor column value direction => exact fault_cursor column value direction
  | tiebreaker column value => exact fault_tiebreaker column value
  | write kind body =>
    match body with
    | none => exact (fault_toMutation kind none).trans (congrArg _ Option.or_none.symm)
    | some (.ok value) => exact (fault_toMutation kind (some value)).trans (congrArg _ Option.or_none.symm)
    | some (.error reason) => exact fault_toFailedMutation kind reason
  | returning columns => exact fault_returningColumns columns
  | onConflict columns => exact fault_onConflict columns
  | ignoreDuplicates => exact fault_ignoreDuplicates
  | relation _ | orderBy _ | count _ | head | caching _ => exact Option.or_none.symm

end Step

/-! ### Chains -/

/-- Steps one after the other. -/
inductive Chain : Stage → Stage → Type where
  | nil {stage : Stage} : Chain stage stage
  | cons {a b c : Stage} (step : Step a b) (rest : Chain b c) : Chain a c

namespace Chain

def append {a b c : Stage} : Chain a b → Chain b c → Chain a c
  | .nil, second => second
  | .cons step rest, second => .cons step (rest.append second)

def run {a b : Stage} : Chain a b → Draft a → Draft b
  | .nil, d => d
  | .cons step rest, d => rest.run (step.apply d)

/-- Some step is rejected when it comes to it. -/
def SomeRejected {a b : Stage} : Chain a b → Draft a → Prop
  | .nil, _ => False
  | .cons step rest, d => (step.rejection? d).isSome = true ∨ rest.SomeRejected (step.apply d)

variable {a b c : Stage}

theorem run_append (first : Chain a b) (second : Chain b c) (d : Draft a) :
    (first.append second).run d = second.run (first.run d) := by
  induction first with
  | nil => rfl
  | cons step rest ih => exact ih second (step.apply d)

/-- What is recorded stays. -/
theorem fault?_run_of_some {error : Error} (chain : Chain a b) {d : Draft a} (h : d.fault? = some error) :
    (chain.run d).fault? = some error := by
  induction chain with
  | nil => exact h
  | cons step rest ih =>
    apply ih
    rw [step.fault?_apply, h]
    rfl

/-- Nothing is recorded while no step is rejected. -/
theorem fault?_run_of_none {chain : Chain a b} {d : Draft a} (hall : ¬chain.SomeRejected d) (h : d.fault? = none) :
    (chain.run d).fault? = none := by
  induction chain with
  | nil => exact h
  | cons step rest ih =>
    obtain ⟨hstep, hrest⟩ := not_or.mp hall
    apply ih hrest
    rw [step.fault?_apply, h]
    simpa using hstep

/-- Where some step is rejected, there is a first one. -/
theorem exists_first_of_someRejected {chain : Chain a b} {d : Draft a} (h : chain.SomeRejected d) :
    ∃ (middle next : Stage) (before : Chain a middle) (step : Step middle next) (after : Chain next b)
      (error : Error),
      chain = before.append (.cons step after) ∧ ¬before.SomeRejected d ∧
        step.rejection? (before.run d) = some error := by
  induction chain with
  | nil => exact h.elim
  | @cons a b c step rest ih =>
    cases hstep : step.rejection? d with
    | some error => exact ⟨a, b, .nil, step, rest, error, rfl, id, hstep⟩
    | none =>
      have hrest : rest.SomeRejected (step.apply d) := h.resolve_left (by simp [hstep])
      obtain ⟨middle, next, before, step', after, error, rfl, hbefore, herror⟩ := ih hrest
      refine ⟨middle, next, .cons step before, step', after, error, rfl, ?_, herror⟩
      rintro (hfirst | hlater)
      · simp [hstep] at hfirst
      · exact hbefore hlater

end Chain

namespace Draft
variable {stage : Stage} {d : Draft stage} {error : Error}

/-- A draft with a fault is compiled in no mode. -/
theorem compileAs_of_fault (h : d.fault? = some error) (mode : Mode) : d.compileAs mode = .error error := by
  cases stage with
  | reading =>
    have hfault : Query.fault d = some error := h
    show Query.compileAs d mode = .error error
    unfold Query.compileAs
    rw [hfault]
    rfl
  | writing =>
    have hfault : Mutation.fault d = some error := h
    show Mutation.compile d = .error error
    unfold Mutation.compile
    rw [hfault]
    rfl

theorem compile_of_fault (h : d.fault? = some error) : d.compile = .error error := by
  cases stage with
  | reading => exact compileAs_of_fault h (Query.mode d)
  | writing => exact compileAs_of_fault h .many

end Draft

/-- **The first rejected step decides.** A chain with a rejected step has a first one, and what is reported directly
behind that step is what the chain fails with, and what every longer chain fails with, in every mode, whether or not
other steps are rejected later and whether or not the read becomes a write. -/
theorem Chain.compile_rejected {a b : Stage} {chain : Chain a b} {start : Draft a} (hstart : start.fault? = none)
    (h : chain.SomeRejected start) :
    ∃ (middle next : Stage) (before : Chain a middle) (step : Step middle next) (after : Chain next b)
      (error : Error),
      chain = before.append (.cons step after) ∧ ¬before.SomeRejected start ∧
        step.rejection? (before.run start) = some error ∧
        (step.apply (before.run start)).compile = .error error ∧
        ∀ {last : Stage} (more : Chain b last), (more.run (chain.run start)).compile = .error error ∧
          ∀ mode, (more.run (chain.run start)).compileAs mode = .error error := by
  obtain ⟨middle, next, before, step, after, error, rfl, hbefore, herror⟩ := exists_first_of_someRejected h
  have hrecorded : (step.apply (before.run start)).fault? = some error := by
    rw [step.fault?_apply, fault?_run_of_none hbefore hstart, herror]
    rfl
  have hkept {last : Stage} (more : Chain b last) :
      (more.run ((before.append (.cons step after)).run start)).fault? = some error := by
    rw [run_append]
    exact more.fault?_run_of_some (after.fault?_run_of_some hrecorded)
  exact ⟨middle, next, before, step, after, error, rfl, hbefore, herror, Draft.compile_of_fault hrecorded, fun more =>
    ⟨Draft.compile_of_fault (hkept more), Draft.compileAs_of_fault (hkept more)⟩⟩

def users : Draft .reading := Query.on "users"

/-- Three of its steps are rejected: the second, the third and the last. -/
def limitedPageInserted : Chain .reading .writing :=
  .cons (.page 1 10) <| .cons (.limit 5) <| .cons (.tiebreaker "id" (.text "7")) <|
    .cons (.write .insert (some (.ok (.obj [])))) <| .cons (.onConflict ["id"]) .nil

/-- The conflict of a limit with a page is reported, not what is wrong after it. -/
theorem limit_conflict_is_kept :
    users.fault? = none ∧ limitedPageInserted.SomeRejected users ∧
      ∀ {last : Stage} (more : Chain .writing last) (mode : Mode),
        (more.run (limitedPageInserted.run users)).compileAs mode =
          .error (Fault.paginationConflict "limit" "page").toError :=
  have hrejected : limitedPageInserted.SomeRejected users := .inr (.inl rfl)
  have ⟨_, _, _, _, _, _, _, _, _, _, hall⟩ := Chain.compile_rejected rfl hrejected
  have hcompile :
      (limitedPageInserted.run users).compile = .error (Fault.paginationConflict "limit" "page").toError := rfl
  have herror := Except.error.inj ((hall .nil).1.symm.trans hcompile)
  ⟨rfl, hrejected, fun more mode => herror ▸ (hall more).2 mode⟩

end TableQuery.Building
