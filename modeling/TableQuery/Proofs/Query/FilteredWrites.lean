import TableQuery.Proofs.Query.Compile
import TableQuery.Proofs.Query.Steps

/-! Filters before and after the step that starts a write.

A filter can be a step of the read that becomes a write, or of the write itself. Either way its filters come behind
those that were there (`run_refining`), or what could not be resolved is recorded (`fault?_run_refining`). Before the
write, filters are taken over where the kind of write has filters (`Verb.apply_filtered`) and are refused where it has
none (`Verb.apply_filtered_refused`); after it they go into the request whatever the kind
(`Mutation.compile_filtered`). So the two orders agree for updates and deletes, and for inserts and upserts only where
there is no filter or no request (`Verb.filters_commute_iff`). -/
namespace TableQuery

theorem Filter.params_append (path : String) (fs more : List Filter) :
    Filter.params path (fs ++ more) =
      (Filter.params path fs >>= fun ps => (Filter.params path more).map fun rest => ps ++ rest) := by
  rw [params, List.mapM_append]
  rfl

/-- A write compiles if it passes all checks and so does each of its parts. -/
theorem Mutation.compile_of_parts {m : Mutation} {body : Option Json} {select : Option String} {filters : List Param}
    (hfault : m.fault = none) (htable : isIdentifier m.table = true) (hbody : m.checkedBody = .ok body)
    (hselect : Select.compile (m.returning.getD []) [] = .ok select)
    (hfilters : Filter.params "" m.filters = .ok filters) :
    m.compile = .ok {
      table := m.table
      schema := m.schema
      method := m.kind.method
      mode := .many
      params := (select.toList.map fun s => ("select", s)) ++ filters ++ m.conflictParts.2
      headers := [("Prefer", ",".intercalate (m.preferReturn :: m.conflictParts.1))] ++ m.schemaHeader ++
        (if body.isSome then [("Content-Type", "application/json")] else [])
      body := body.map Json.render
      tables := [m.table] } := by
  unfold compile
  simp only [hfault, htable, hbody, hselect, hfilters]
  rfl

/-- More filters put their parameters behind the others, where the write has no columns of conflict. -/
theorem Mutation.compile_filtered {m : Mutation} (htarget : m.conflictParts.2 = []) (fs : List Filter) (r : Request) :
    { m with filters := m.filters ++ fs }.compile = .ok r ↔
      ∃ alone params, m.compile = .ok alone ∧ Filter.params "" fs = .ok params ∧
        r = { alone with params := alone.params ++ params } := by
  constructor
  · intro h
    obtain ⟨hfault, htable, body, select, filters, hbody, hselect, hfilters, rfl⟩ := parts_of_compile h
    rw [Filter.params_append] at hfilters
    obtain ⟨own, hown, hfilters⟩ := Chained.bind_eq_ok.mp hfilters
    obtain ⟨params, hparams, rfl⟩ := Chained.map_eq_ok.mp hfilters
    refine ⟨_, params, compile_of_parts hfault htable hbody hselect hown, hparams, ?_⟩
    have hnone : ({ m with filters := m.filters ++ fs } : Mutation).conflictParts.2 = [] := htarget
    simp only [hnone, htarget, List.append_nil, List.append_assoc]
    rfl
  · rintro ⟨alone, params, halone, hparams, rfl⟩
    obtain ⟨hfault, htable, body, select, own, hbody, hselect, hown, rfl⟩ := parts_of_compile halone
    have hfilters : Filter.params "" (m.filters ++ fs) = .ok (own ++ params) := by
      rw [Filter.params_append, hown, hparams]
      rfl
    rw [compile_of_parts (m := { m with filters := m.filters ++ fs }) hfault htable hbody hselect hfilters]
    have hnone : ({ m with filters := m.filters ++ fs } : Mutation).conflictParts.2 = [] := htarget
    simp only [hnone, htarget, List.append_nil, List.append_assoc]
    rfl

/-- What has not succeeded has no result. -/
theorem toOption_eq_none {ε α : Type} {x : Except ε α} (h : ∀ a, x ≠ .ok a) : x.toOption = none := by
  cases x with
  | ok a => exact absurd rfl (h a)
  | error _ => rfl

namespace Building

/-- More filters behind those that are there. -/
def Draft.filtered : {stage : Stage} → Draft stage → List Filter → Draft stage
  | .reading, q, fs => { q with filters := Query.filters q ++ fs }
  | .writing, m, fs => { m with filters := Mutation.filters m ++ fs }

/-- The filters of several steps, where each of them can be resolved. -/
def added (refinements : List Refinement) : Except Fault (List Filter) :=
  (refinements.mapM Refinement.resolve).map List.flatten

/-- The chain of some filters and nothing else. -/
def refining {stage : Stage} : List Refinement → Chain stage stage
  | [] => .nil
  | r :: rest => .cons (.refine r) (refining rest)

section
variable {stage : Stage} {refinements : List Refinement} {fs : List Filter}

theorem Draft.filtered_nil (d : Draft stage) : d.filtered [] = d := by
  cases stage with
  | reading => exact congrArg (fun fs => ({ d with filters := fs } : Query)) (List.append_nil _)
  | writing => exact congrArg (fun fs => ({ d with filters := fs } : Mutation)) (List.append_nil _)

theorem Draft.filtered_filtered (d : Draft stage) (fs more : List Filter) :
    (d.filtered fs).filtered more = d.filtered (fs ++ more) := by
  cases stage with
  | reading => exact congrArg (fun fs => ({ d with filters := fs } : Query)) (List.append_assoc ..)
  | writing => exact congrArg (fun fs => ({ d with filters := fs } : Mutation)) (List.append_assoc ..)

theorem Draft.refine_of_resolve {r : Refinement} (h : r.resolve = .ok fs) (d : Draft stage) :
    d.refine r = d.filtered fs := by
  cases stage with
  | reading =>
    show Query.refine d r = _
    unfold Query.refine
    rw [h]
    rfl
  | writing =>
    show Mutation.refine d r = _
    unfold Mutation.refine
    rw [h]
    rfl

theorem added_cons_eq_ok {r : Refinement} {rest : List Refinement} :
    added (r :: rest) = .ok fs ↔
      ∃ first more, r.resolve = .ok first ∧ added rest = .ok more ∧ fs = first ++ more := by
  unfold added
  simp only [List.mapM_cons, Chained.map_eq_ok, Chained.bind_eq_ok, pure, Except.pure]
  constructor
  · rintro ⟨_, ⟨first, hfirst, resolved, hresolved, hcons⟩, rfl⟩
    obtain rfl := Except.ok.inj hcons
    exact ⟨first, resolved.flatten, hfirst, ⟨resolved, hresolved, rfl⟩, rfl⟩
  · rintro ⟨first, _, hfirst, ⟨resolved, hresolved, rfl⟩, rfl⟩
    exact ⟨_, ⟨first, hfirst, resolved, hresolved, rfl⟩, rfl⟩

theorem run_refining (h : added refinements = .ok fs) (d : Draft stage) :
    (refining refinements).run d = d.filtered fs := by
  induction refinements generalizing d fs with
  | nil =>
    obtain rfl := Except.ok.inj h
    exact d.filtered_nil.symm
  | cons r rest ih =>
    obtain ⟨first, more, hfirst, hmore, rfl⟩ := added_cons_eq_ok.mp h
    show (refining rest).run (d.refine r) = _
    rw [ih hmore, Draft.refine_of_resolve hfirst, Draft.filtered_filtered]

/-- A filter that cannot be resolved leaves its fault, or the one that was recorded before it. -/
theorem fault?_run_refining (h : ∀ fs, added refinements ≠ .ok fs) (d : Draft stage) :
    ∃ error, ((refining refinements).run d).fault? = some error := by
  induction refinements generalizing d with
  | nil => exact absurd rfl (h [])
  | cons r rest ih =>
    show ∃ error, ((refining rest).run (d.refine r)).fault? = some error
    cases hfirst : r.resolve with
    | ok first =>
      refine ih (fun more hmore => ?_) (d.refine r)
      exact h (first ++ more) (added_cons_eq_ok.mpr ⟨first, more, hfirst, hmore, rfl⟩)
    | error fault =>
      have hrecorded : (d.refine r).fault? = some (d.fault?.getD fault.toError) := by
        rw [Draft.fault?_refine, hfirst]
        cases d.fault? <;> rfl
      exact ⟨_, Chain.fault?_run_of_some _ hrecorded⟩

end

/-- The steps that turn a read into a write; a body is a value, or the reason why there is none. -/
inductive Verb where
  | insert (body : Except String Json)
  | update (body : Except String Json)
  | upsert (body : Except String Json)
  | delete

namespace Verb

def kind : Verb → WriteKind
  | .insert _ => .insert
  | .update _ => .update
  | .upsert _ => .upsert [] false
  | .delete => .delete

def body? : Verb → Option (Except String Json)
  | .insert body | .update body | .upsert body => some body
  | .delete => none

def step (verb : Verb) : Step .reading .writing := .write verb.kind verb.body?

/-- The filters first, then the verb. -/
def filteredBefore (verb : Verb) (refinements : List Refinement) : Chain .reading .writing :=
  (refining refinements).append (.cons verb.step .nil)

/-- The verb first, then the filters. -/
def filteredAfter (verb : Verb) (refinements : List Refinement) : Chain .reading .writing :=
  .cons verb.step (refining refinements)

variable {verb : Verb} {q : Draft .reading} {refinements : List Refinement} {fs : List Filter}

/-- The write is started with a body, or without one for a reason that is recorded. -/
theorem apply_cases (verb : Verb) : (∃ body, ∀ q, verb.step.apply q = Query.toMutation q verb.kind body) ∨
    ∃ reason, ∀ q, verb.step.apply q = Query.toFailedMutation q verb.kind reason := by
  cases verb with
  | insert body | update body | upsert body =>
    cases body with
    | ok value => exact .inl ⟨some value, fun _ => rfl⟩
    | error reason => exact .inr ⟨reason, fun _ => rfl⟩
  | delete => exact .inl ⟨none, fun _ => rfl⟩

theorem toMutation_filtered {kind : WriteKind} (h : kind.takesFilters = true) (body : Option Json) :
    Query.toMutation (q.filtered fs) kind body =
      { Query.toMutation q kind body with filters := (Query.toMutation q kind body).filters ++ fs } := by
  unfold Query.toMutation
  rw [if_pos h, if_pos h]
  rfl

/-- A verb that takes filters takes them over. -/
theorem apply_filtered (h : verb.kind.takesFilters = true) (q : Draft .reading) (fs : List Filter) :
    verb.step.apply (q.filtered fs) = (verb.step.apply q).filtered fs := by
  obtain ⟨body, happly⟩ | ⟨reason, happly⟩ := verb.apply_cases
  · rw [happly, happly]
    exact toMutation_filtered h body
  · rw [happly, happly]
    exact congrArg (fun m => Mutation.reject m _) (toMutation_filtered h none)

/-- A verb that takes no filters refuses those before it. -/
theorem apply_filtered_refused (h : verb.kind.takesFilters = false) (hne : fs ≠ []) :
    ∃ error, (verb.step.apply (q.filtered fs)).fault? = some error := by
  have hsome : (Query.filters (q.filtered fs)).isEmpty = false := by
    show (Query.filters q ++ fs).isEmpty = false
    simp [hne]
  rw [Step.fault?_apply]
  show ∃ error, Option.or _ (Option.or (if verb.kind.takesFilters || (Query.filters (q.filtered fs)).isEmpty then none
    else some (Fault.filtersNotTaken verb.kind.name).toError) _) = some error
  rw [h, hsome]
  cases Draft.fault? (q.filtered fs) with
  | none => exact ⟨_, rfl⟩
  | some error => exact ⟨error, rfl⟩

theorem kind_toMutation (q : Query) (kind : WriteKind) (body : Option Json) : (q.toMutation kind body).kind = kind := by
  unfold Query.toMutation
  dsimp only
  split
  · rfl
  · split <;> rfl

/-- No verb names columns of conflict; a later step does. -/
theorem conflictParts_apply (verb : Verb) (q : Draft .reading) :
    (Mutation.conflictParts (verb.step.apply q)).2 = [] := by
  have hkind : Mutation.kind (verb.step.apply q) = verb.kind := by
    obtain ⟨body, happly⟩ | ⟨reason, happly⟩ := verb.apply_cases
    · rw [happly]
      exact kind_toMutation q verb.kind body
    · rw [happly]
      exact kind_toMutation q verb.kind none
  unfold Mutation.conflictParts
  rw [hkind]
  cases verb <;> rfl

theorem run_filteredBefore (h : added refinements = .ok fs) :
    (verb.filteredBefore refinements).run q = verb.step.apply (q.filtered fs) := by
  rw [filteredBefore, Chain.run_append, run_refining h]
  rfl

theorem run_filteredAfter (h : added refinements = .ok fs) :
    (verb.filteredAfter refinements).run q = (verb.step.apply q).filtered fs :=
  run_refining h _

/-- Where a filter cannot be resolved, neither order compiles. -/
theorem compile_of_unresolved (h : ∀ fs, added refinements ≠ .ok fs) (q : Draft .reading) (r : Request) :
    ((verb.filteredBefore refinements).run q).compile ≠ .ok r ∧
      ((verb.filteredAfter refinements).run q).compile ≠ .ok r := by
  obtain ⟨error, hbefore⟩ := fault?_run_refining h q
  obtain ⟨error', hafter⟩ := fault?_run_refining h (verb.step.apply q)
  rw [filteredBefore, Chain.run_append]
  constructor
  · rw [Draft.compile_of_fault (Chain.fault?_run_of_some _ hbefore)]
    exact nofun
  · rw [filteredAfter, Chain.run, Draft.compile_of_fault hafter]
    exact nofun

/-- Filters behind the verb go into the request, whatever the verb. -/
theorem compile_filteredAfter (verb : Verb) (refinements : List Refinement) (q : Draft .reading) (r : Request) :
    ((verb.filteredAfter refinements).run q).compile = .ok r ↔
      ∃ alone fs params, (verb.step.apply q).compile = .ok alone ∧ added refinements = .ok fs ∧
        Filter.params "" fs = .ok params ∧ r = { alone with params := alone.params ++ params } := by
  cases hadded : added refinements with
  | ok fs =>
    rw [run_filteredAfter hadded]
    refine (Mutation.compile_filtered (verb.conflictParts_apply q) fs r).trans ?_
    constructor
    · rintro ⟨alone, params, halone, hparams, rfl⟩
      exact ⟨alone, fs, params, halone, rfl, hparams, rfl⟩
    · rintro ⟨alone, _, params, halone, hfs, hparams, rfl⟩
      exact ⟨alone, params, halone, Except.ok.inj hfs ▸ hparams, rfl⟩
  | error fault =>
    have hnone : ∀ fs, added refinements ≠ .ok fs := by simp [hadded]
    refine iff_of_false (compile_of_unresolved hnone q r).2 ?_
    rintro ⟨_, _, _, -, h, -⟩
    exact nomatch h

/-- A verb that takes no filters does not compile behind one. -/
theorem takes_or_refuses (verb : Verb) (refinements : List Refinement) (q : Draft .reading) :
    verb.kind.takesFilters = true ∨ added refinements = .ok [] ∨
      ∀ r, ((verb.filteredBefore refinements).run q).compile ≠ .ok r := by
  cases htakes : verb.kind.takesFilters with
  | true => exact .inl rfl
  | false =>
    cases hadded : added refinements with
    | error fault =>
      have hnone : ∀ fs, added refinements ≠ .ok fs := by simp [hadded]
      exact .inr (.inr fun r => (compile_of_unresolved hnone q r).1)
    | ok fs =>
      by_cases hne : fs = []
      · exact .inr (.inl (congrArg Except.ok hne))
      · obtain ⟨error, hfault⟩ := apply_filtered_refused (q := q) htakes hne
        refine .inr (.inr fun r => ?_)
        rw [run_filteredBefore hadded, Draft.compile_of_fault hfault]
        exact nofun

/-- A verb that takes filters, or gets none, has one meaning in both orders. -/
theorem orders_agree (h : verb.kind.takesFilters = true ∨ added refinements = .ok []) (q : Draft .reading) :
    ((verb.filteredBefore refinements).run q).compile.toOption =
      ((verb.filteredAfter refinements).run q).compile.toOption := by
  rcases h with htakes | hnil
  · cases hadded : added refinements with
    | ok fs => rw [run_filteredBefore hadded, run_filteredAfter hadded, apply_filtered htakes]
    | error fault =>
      have hnone : ∀ fs, added refinements ≠ .ok fs := by simp [hadded]
      rw [toOption_eq_none fun r => (compile_of_unresolved hnone q r).1,
        toOption_eq_none fun r => (compile_of_unresolved hnone q r).2]
  · rw [run_filteredBefore hnil, run_filteredAfter hnil, Draft.filtered_nil, Draft.filtered_nil]

/-- **Filters and the verb, in either order.** Filters before the verb and behind it give the same request or both
fail, unless the verb takes no filters, there is one, and the write with its filters behind the verb compiles. A verb
that takes no filters refuses those before it, whatever they are. Behind the verb it does not: there the filters'
parameters are put behind the others of any verb's request. -/
theorem filters_commute_iff (verb : Verb) (refinements : List Refinement) (q : Draft .reading) :
    (((verb.filteredBefore refinements).run q).compile.toOption =
        ((verb.filteredAfter refinements).run q).compile.toOption ↔
      verb.kind.takesFilters = true ∨ added refinements = .ok [] ∨
        ∀ r, ((verb.filteredAfter refinements).run q).compile ≠ .ok r) ∧
    (verb.kind.takesFilters = true ∨ added refinements = .ok [] ∨
      ∀ r, ((verb.filteredBefore refinements).run q).compile ≠ .ok r) ∧
    ∀ r, ((verb.filteredAfter refinements).run q).compile = .ok r ↔
      ∃ alone fs params, (verb.step.apply q).compile = .ok alone ∧ added refinements = .ok fs ∧
        Filter.params "" fs = .ok params ∧ r = { alone with params := alone.params ++ params } := by
  have hbefore := takes_or_refuses verb refinements q
  refine ⟨⟨fun heq => ?_, ?_⟩, hbefore, compile_filteredAfter verb refinements q⟩
  · rcases hbefore with htakes | hnil | hrefused
    · exact .inl htakes
    · exact .inr (.inl hnil)
    · refine .inr (.inr fun r hr => ?_)
      rw [toOption_eq_none hrefused, hr] at heq
      exact nomatch heq
  · rintro (htakes | hnil | hfails)
    · exact orders_agree (.inl htakes) q
    · exact orders_agree (.inr hnil) q
    · rcases hbefore with htakes | hnil | hrefused
      · exact orders_agree (.inl htakes) q
      · exact orders_agree (.inr hnil) q
      · rw [toOption_eq_none hrefused, toOption_eq_none hfails]

end Verb

/-- One user by its number. -/
def seventhUser : List Refinement := [.filters [.test "id" .eq (.one (.int 7))]]

/-- An insert with a body for that user. -/
def insertSeventh : Verb := .insert (.ok (.obj [("id", .num (.int 7))]))

/-- The filter is refused before the insert, and goes into its request behind it. -/
theorem insert_keeps_filter :
    ((insertSeventh.filteredBefore seventhUser).run users).compile = .error (Fault.filtersNotTaken "insert").toError ∧
      ((insertSeventh.filteredAfter seventhUser).run users).compile = .ok {
        table := "users"
        schema := none
        method := .post
        mode := .many
        params := [("id", "eq.7")]
        headers := [("Prefer", "return=minimal"), ("Content-Type", "application/json")]
        body := some "\x7b\"id\":7\x7d"
        tables := ["users"] } ∧
      ((insertSeventh.filteredBefore seventhUser).run users).compile.toOption ≠
        ((insertSeventh.filteredAfter seventhUser).run users).compile.toOption := by
  have hbefore : ((insertSeventh.filteredBefore seventhUser).run users).compile =
      .error (Fault.filtersNotTaken "insert").toError := rfl
  have hafter : ((insertSeventh.filteredAfter seventhUser).run users).compile = .ok _ := rfl
  refine ⟨hbefore, by decide +kernel, ?_⟩
  rw [hbefore, hafter]
  exact nofun

end Building
end TableQuery
