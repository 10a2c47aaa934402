import TableQuery.Proofs.Query.Compile
import TableQuery.Proofs.Server.Changes
import TableQuery.Proofs.Server.Parameters

/-! The rows that a write is for.

The filters of an update or of a deletion are parameters beside others, and nothing keeps a column from
having the name of one of those. A filter on such a column is taken for something that selects no rows
(`passedOver`), or the request cannot be read at all (`refused`). `selected_rows_written_iff` says what a write
that succeeds has changed then: the rows that the rest of its filters select, so that it has changed others
than it is for unless those filters select no more than all of them do. A deletion with a single filter may
empty its table (`deletion_by_columns`). -/
namespace TableQuery
open Server

/-! ### Comparisons -/

/-- The operators that compare a cell with a scalar. -/
def Operator.comparisons : List Operator := [.eq, .neq, .gt, .gte, .lt, .lte, .like, .ilike, .is]

/-- A comparison of a column that is an identifier. -/
structure Leaf.IsComparison (l : Leaf) : Prop where
  column : isIdentifier l.column = true
  operator : l.operator ∈ Operator.comparisons

namespace Operator
variable {op : Operator}

theorem config?_of_comparison (h : op ∈ comparisons) : op.config? = none := by
  revert op
  decide

/-- What the name of a comparison starts with is no digit, no sign and no bracket. -/
theorem render_of_comparison (h : op ∈ comparisons) :
    ∃ c cs, op.render.toList = c :: cs ∧ Decimal.digit? c = none ∧ c ≠ '+' ∧ c ≠ '(' := by
  have hall : ∀ op ∈ comparisons, op.render.toList.head?.any fun c =>
      (Decimal.digit? c).isNone && c != '+' && c != '(' := by
    decide
  cases hcs : op.render.toList with
  | nil => exact absurd (hall op h) (by simp [hcs])
  | cons c cs =>
    refine ⟨c, cs, rfl, ?_⟩
    simpa [hcs, and_assoc] using hall op h

theorem not_list_of_comparison {items : List Scalar} {t : Token} (h : op ∈ comparisons) :
    op.encode (.list items) ≠ .ok t := by
  intro ht
  obtain ⟨-, -, hvalue⟩ := encodeValue_of_encode ht
  obtain ⟨_, _, _, hop, -⟩ := encodeValue_list hvalue
  cases hop <;> exact absurd h (by decide)

end Operator

/-! ### Names of parameters -/

namespace Server

/-- The columns whose comparisons are taken for something that selects no rows. -/
def passedOver : List String := ["select", "on_conflict", "columns", "order"]

/-- The columns whose comparisons cannot be read. -/
def refused : List String := ["limit", "offset", "or", "and"]

namespace Params
variable {p p' : Params} {name value : String}

theorem put_root (p : Params) (value : String) (hdot : '.' ∉ name.toList)
    (hname : name ∉ ["select", "on_conflict", "columns"]) : p.put name value = p.putScoped "" name value := by
  have hroot : IsPath [] := fun _ h => nomatch h
  simpa [namePrefix, dotted] using put_prefixed p value hroot hdot fun _ => hname

theorem conditions_put_passedOver (hname : name ∈ passedOver) (h : p.put name value = .ok p') :
    (p'.scope "").conditions = (p.scope "").conditions := by
  simp only [passedOver, List.mem_cons, List.not_mem_nil, or_false] at hname
  rcases hname with rfl | rfl | rfl | rfl
  · obtain ⟨_, -, h⟩ := Chained.bind_eq_ok.mp h
    obtain rfl := Except.ok.inj h
    rfl
  · obtain rfl := Except.ok.inj h
    rfl
  · obtain rfl := Except.ok.inj h
    rfl
  · rw [put_root p value (by decide) (by decide)] at h
    obtain ⟨_, -, h⟩ := Chained.bind_eq_ok.mp h
    obtain rfl := Except.ok.inj h
    rw [scope_modify_self]

/-- None of these takes a value that starts as a comparison does: a number starts with a digit or a sign, and
a group with its parenthesis. -/
theorem put_refused {c : Char} {cs : List Char} (hname : name ∈ refused) (hvalue : value.toList = c :: cs)
    (hdigit : Decimal.digit? c = none) (hplus : c ≠ '+') (hparen : c ≠ '(') : p.put name value ≠ .ok p' := by
  have hword (word : String) : readWord word value = .error (.syntaxFault (.invalidNumber word value)) := by
    unfold readWord
    rw [Decimal.word64?_eq_none hvalue hdigit hplus]
  have hgroup (j : Junction) : parseGroup j false value.toList = .error (.malformedTree value) := by
    have hnone : between? '(' ')' value.toList = none := by
      rw [hvalue]
      exact if_neg fun h => hparen h.1
    rw [parseGroup.eq_def]
    split
    · rw [String.ofList_toList]
    · next heq =>
      rw [hnone] at heq
      cases heq
  simp only [refused, List.mem_cons, List.not_mem_nil, or_false] at hname
  intro h
  rcases hname with rfl | rfl | rfl | rfl <;> rw [put_root p value (by decide) (by decide)] at h <;>
    unfold putScoped at h <;> simp only [hword, hgroup] at h <;> cases h

end Params
end Server

/-! ### Comparisons as parameters -/

namespace Leaf

/-- A comparison at the top of a request is read as one, unless its column has another meaning there. -/
def isRead (l : Leaf) : Bool := !passedOver.contains l.column

/-- Whether a row is selected by all of these filters. -/
def select (leaves : List Leaf) (row : Row) : Bool := leaves.all (Leaf.eval row)

theorem all_eval (leaves : List Leaf) (row : Row) :
    (leaves.map .leaf).all (Filter.eval row) = select leaves row := by
  rw [List.all_map, select]
  refine congrArg leaves.all (funext fun l => ?_)
  rw [Function.comp_apply, Filter.eval]

theorem select_filter {leaves : List Leaf} {row : Row} (h : select leaves row = true) :
    select (leaves.filter isRead) row = true :=
  List.all_eq_true.mpr fun l hl => List.all_eq_true.mp h l (List.mem_filter.mp hl).1

variable {l : Leaf} {t : Token} {p p' : Params}

theorem not_refused_of_put (hl : l.IsComparison) (ht : l.token = .ok t)
    (h : p.put l.column t.render = .ok p') : l.column ∉ refused := by
  intro hmem
  obtain ⟨c, cs, hname, hdigit, hplus, hparen⟩ := Operator.render_of_comparison hl.operator
  obtain ⟨hnegated, hoperator, -⟩ := Operator.encodeValue_of_encode ht
  have hvalue : t.render.toList = c :: (cs ++ '.' :: t.value.toList) := by
    simp [Token.render, Token.compose, hnegated, hoperator, hname]
  exact Params.put_refused hmem hvalue hdigit hplus hparen h

theorem put_comparison (hl : l.IsComparison) (ht : l.token = .ok t) (hpassed : l.column ∉ passedOver)
    (hrefused : l.column ∉ refused) (p : Params) :
    ∃ c : Condition, (∀ row, c.holds row = .ok (l.eval row)) ∧
      p.put l.column t.render =
        .ok (p.modify "" fun s => { s with conditions := s.conditions ++ [c] }) := by
  have hwords : l.column ∉ ["select", "on_conflict", "columns", "order", "limit", "offset", "or", "and"] :=
    fun hmem => (List.mem_append.mp (show l.column ∈ passedOver ++ refused from hmem)).elim hpassed hrefused
  have hconfig : ∀ config, l.operator.config? = some config → isIdentifier config = true := by
    intro config h
    rw [Operator.config?_of_comparison hl.operator] at h
    cases h
  have hone : ∀ items, l.operand = .list items → ∀ s ∈ items, s.HasNoBracket := by
    intro items hitems
    rw [token, hitems] at ht
    exact absurd ht (Operator.not_list_of_comparison hl.operator)
  refine ⟨.leaf l.column false l.operator.render t.value, fun row => ?_, ?_⟩
  · rw [holds_value ht hone false row, Bool.bne_false]
  · have hroot : IsPath [] := List.forall_mem_nil _
    simpa [namePrefix, dotted] using l.put_param p false hroot hl.column hwords hconfig ht

/-- A comparison that the server takes in is added to what is asked of the root, or passed over. -/
theorem conditions_put (hl : l.IsComparison) (ht : l.token = .ok t) (h : p.put l.column t.render = .ok p') :
    ∃ cs, (p'.scope "").conditions = (p.scope "").conditions ++ cs ∧
      Filter.Carried cs (([l].filter isRead).map .leaf) := by
  by_cases hpassed : l.column ∈ passedOver
  · have hread : [l].filter isRead = [] := by simp [isRead, hpassed]
    refine ⟨[], ?_, ?_⟩
    · rw [Params.conditions_put_passedOver hpassed h, List.append_nil]
    · rw [hread]
      exact .nil
  · have hread : [l].filter isRead = [l] := by simp [isRead, hpassed]
    obtain ⟨c, hholds, hput⟩ := put_comparison hl ht hpassed (not_refused_of_put hl ht h) p
    obtain rfl := Except.ok.inj (h.symm.trans hput)
    refine ⟨[c], congrArg Scope.conditions (Params.scope_modify_self p "" _), ?_⟩
    rw [hread]
    refine .cons (fun row => ?_) .nil
    rw [hholds row, Filter.eval]

/-- What is asked of the root once the comparisons are taken in: those of them that are read. -/
theorem conditions_putAll {leaves : List Leaf} {params : List Param} (hleaves : ∀ l ∈ leaves, l.IsComparison)
    (hparams : Filter.params "" (leaves.map .leaf) = .ok params) (h : p.putAll params = .ok p') :
    ∃ cs, (p'.scope "").conditions = (p.scope "").conditions ++ cs ∧
      Filter.Carried cs ((leaves.filter isRead).map .leaf) := by
  -- Each comparison adds a condition or none to those there are, and keeps the others.
  induction leaves generalizing params p with
  | nil =>
    obtain rfl := Except.ok.inj hparams
    obtain rfl := Except.ok.inj h
    exact ⟨[], (List.append_nil _).symm, .nil⟩
  | cons l leaves ih =>
    obtain ⟨hl, hrest⟩ := List.forall_mem_cons.mp hleaves
    unfold Filter.params at hparams
    rw [List.map_cons, List.mapM_cons] at hparams
    obtain ⟨param, hparam, hparams⟩ := Chained.bind_eq_ok.mp hparams
    obtain ⟨params, hmore, hparams⟩ := Chained.bind_eq_ok.mp hparams
    obtain rfl := Except.ok.inj hparams
    rw [Filter.param, Filter.paramAs] at hparam
    obtain ⟨t, ht, hparam⟩ := Chained.bind_eq_ok.mp hparam
    obtain rfl := Except.ok.inj hparam
    rw [String.empty_append, ← List.singleton_append] at h
    obtain ⟨p₁, hput, h⟩ := Params.putAll_append_ok h
    rw [Params.putAll_singleton] at hput
    obtain ⟨cs₁, hfirst, hcs₁⟩ := conditions_put hl ht hput
    obtain ⟨cs, hlater, hcs⟩ := ih hrest hmore h
    refine ⟨cs₁ ++ cs, by rw [hlater, hfirst, List.append_assoc], ?_⟩
    have hsplit : (l :: leaves).filter isRead = [l].filter isRead ++ leaves.filter isRead := by
      rw [← List.filter_append, List.singleton_append]
    rw [hsplit, List.map_append]
    exact List.rel_append hcs₁ hcs

end Leaf

/-! ### Writes -/

namespace Mutation
variable {m : Mutation} {r : Request} {leaves : List Leaf} {p : Params}

theorem conflictParts_of_takesFilters (hkind : m.kind.takesFilters = true) : m.conflictParts = ([], []) := by
  unfold conflictParts
  cases hm : m.kind <;> simp_all [WriteKind.takesFilters]

/-- What is asked of the root by the parameters of a write, whose selection asks nothing of it. -/
theorem conditions_of_compile (hkind : m.kind.takesFilters = true) (hfilters : m.filters = leaves.map .leaf)
    (hleaves : ∀ l ∈ leaves, l.IsComparison) (hcompile : m.compile = .ok r)
    (h : Params.empty.putAll r.params = .ok p) :
    Filter.Carried (p.scope "").conditions ((leaves.filter Leaf.isRead).map .leaf) := by
  obtain ⟨-, -, _, select, filters, -, -, hparams, rfl⟩ := parts_of_compile hcompile
  replace h : Params.empty.putAll ((select.toList.map fun s => ("select", s)) ++ filters) = .ok p := by
    simpa [conflictParts_of_takesFilters hkind] using h
  obtain ⟨p₀, hselect, hput⟩ := Params.putAll_append_ok h
  have hnone : (p₀.scope "").conditions = [] := by
    cases select with
    | none =>
      obtain rfl := Except.ok.inj hselect
      rfl
    | some text =>
      replace hselect := (Params.putAll_singleton _ _ _).symm.trans hselect
      exact Params.conditions_put_passedOver (by decide) hselect
  rw [hfilters] at hparams
  obtain ⟨cs, hcs, hcarried⟩ := Leaf.conditions_putAll hleaves hparams hput
  rw [hcs, hnone]
  exact hcarried

/-- **The rows that a write changes.** An update or a deletion with comparisons for filters that the server
carries out is made on the rows that those of the filters select which are read as filters. These are the
rows that all of them select if and only if no other row is selected by those alone, a patch aside that
leaves such a row as it is. -/
theorem selected_rows_written_iff {server : Server} {t : Http.Target} {message : Http.Message}
    (hkind : m.kind.takesFilters = true) (hfilters : m.filters = leaves.map .leaf)
    (hleaves : ∀ l ∈ leaves, l.IsComparison) (hcompile : m.compile = .ok r) (hsent : r.IsSentAs t message)
    (haccepts : server.Accepts t message) :
    ∃ table change, server.store.table? m.table = some table ∧
      Change.ofWrite m.kind r.octets = .ok change ∧
      (server.respond t message).2 =
        { server with
          store := server.store.setRows m.table table
            (change.apply (Leaf.select (leaves.filter Leaf.isRead)) table.rows) } ∧
      ((server.respond t message).2.store.rows m.table = change.apply (Leaf.select leaves) table.rows ↔
        ∀ row ∈ table.rows, Leaf.select (leaves.filter Leaf.isRead) row = true →
          Leaf.select leaves row = true ∨ change.Keeps row) := by
  obtain ⟨htable, hmethod⟩ := table_of_compile hcompile
  obtain ⟨p, table, change, hread, hstored, hchange, -, hserver⟩ := written_of_success hkind hmethod hsent haccepts
  obtain ⟨p₀, hput, hscopes⟩ := Params.putAll_of_read hread
  have hcarried := conditions_of_compile hkind hfilters hleaves hcompile hput
  rw [← hscopes ""] at hcarried
  have hselect (row : Row) : row.satisfies (p.scope "").conditions =
      .ok (Leaf.select (leaves.filter Leaf.isRead) row) := by
    rw [hcarried.satisfies row, Leaf.all_eval]
  have hpasses : Row.passes (p.scope "").conditions = Leaf.select (leaves.filter Leaf.isRead) :=
    funext fun row => Row.passes_of_ok (hselect row)
  rw [htable] at hstored
  rw [hpasses, htable] at hserver
  refine ⟨table, change, hstored, hchange, hserver, ?_⟩
  rw [hserver]
  show Store.rows _ m.table = _ ↔ _
  rw [Store.rows_setRows]
  exact change.apply_eq_iff (fun row => Leaf.select_filter) table.rows

/-- A table of two rows with a column that has the name of a parameter. -/
def twoKinds : Server :=
  ⟨⟨[("t", .ofRows [
      [("id", .str "a"), ("columns", .str "x")],
      [("id", .str "b"), ("columns", .str "y")]])], []⟩, none, [], ⟨0⟩⟩

/-- The deletion of the rows that have a text in a column. -/
def deletionBy (column text : String) : Mutation :=
  { Mutation.on "t" .delete with filters := [.leaf ⟨column, .eq, .one (.text text)⟩] }

/-- Its request. -/
def deletionRequest (column text : String) : Request where
  table := "t"
  schema := none
  method := .delete
  mode := .many
  params := [(column, "eq." ++ text)]
  headers := [("Prefer", "return=minimal")]
  body := none
  tables := ["t"]

/-- The message that carries it. -/
def deletionMessage : Http.Message := ⟨"DELETE", "/t", [("prefer", "return=minimal")], none⟩

theorem compile_deletionBy (column text : String) :
    (deletionBy column text).compile = .ok (deletionRequest column text) := by
  have htable : isIdentifier (deletionBy column text).table = true := by
    show isIdentifier "t" = true
    decide
  have hselect : Select.compile ((deletionBy column text).returning.getD []) [] = .ok none := by
    show Select.compile [] [] = _
    cbv
  have hparams : Filter.params "" (deletionBy column text).filters = .ok [(column, "eq." ++ text)] := by
    show (Except.ok [("" ++ column, "" ++ "eq" ++ "." ++ text)] : Except Fault (List Param)) = _
    rw [String.empty_append]
    rfl
  unfold compile
  rw [htable, hselect, hparams]
  rfl

/-- A deletion by a column whose name means nothing else takes the row that its filter selects. -/
theorem deletion_by_id :
    (deletionBy "id" "a").compile = .ok (deletionRequest "id" "a") ∧
      (deletionRequest "id" "a").IsSentAs ⟨['/', 't'], "id=eq.a"⟩ deletionMessage ∧
      twoKinds.Accepts ⟨['/', 't'], "id=eq.a"⟩ deletionMessage ∧
      (twoKinds.respond ⟨['/', 't'], "id=eq.a"⟩ deletionMessage).2.store.rows "t" =
        Change.removal.apply (Leaf.select [⟨"id", .eq, .one (.text "a")⟩]) (twoKinds.store.rows "t") := by
  have hcompile := compile_deletionBy "id" "a"
  have hsent : (deletionRequest "id" "a").IsSentAs ⟨['/', 't'], "id=eq.a"⟩ deletionMessage :=
    ⟨rfl, rfl, by decide +kernel, by decide +kernel⟩
  have haccepts : twoKinds.Accepts ⟨['/', 't'], "id=eq.a"⟩ deletionMessage := ⟨204, by decide +kernel, by decide⟩
  have hcomparison : ∀ l ∈ [(⟨"id", .eq, .one (.text "a")⟩ : Leaf)], l.IsComparison :=
    List.forall_mem_singleton.mpr ⟨by decide, by decide⟩
  obtain ⟨table, change, htable, hchange, -, hiff⟩ :=
    selected_rows_written_iff rfl rfl hcomparison hcompile hsent haccepts
  obtain rfl := Except.ok.inj hchange
  have hrows : twoKinds.store.rows "t" = table.rows := by
    unfold Store.rows
    rw [show twoKinds.store.table? "t" = some table from htable]
    rfl
  refine ⟨hcompile, hsent, haccepts, ?_⟩
  rw [hrows]
  exact hiff.mpr fun row _ hselected => .inl hselected

/-- A deletion by a column that has the name of a parameter takes the row that its filter does not select,
too. -/
theorem deletion_by_columns :
    (deletionBy "columns" "x").compile = .ok (deletionRequest "columns" "x") ∧
      (deletionRequest "columns" "x").IsSentAs ⟨['/', 't'], "columns=eq.x"⟩ deletionMessage ∧
      twoKinds.Accepts ⟨['/', 't'], "columns=eq.x"⟩ deletionMessage ∧
      (twoKinds.respond ⟨['/', 't'], "columns=eq.x"⟩ deletionMessage).2.store.rows "t" ≠
        Change.removal.apply (Leaf.select [⟨"columns", .eq, .one (.text "x")⟩]) (twoKinds.store.rows "t") := by
  have haccepts : twoKinds.Accepts ⟨['/', 't'], "columns=eq.x"⟩ deletionMessage := ⟨204, by decide +kernel, by decide⟩
  have hleft :
      ((twoKinds.respond ⟨['/', 't'], "columns=eq.x"⟩ deletionMessage).2.store.rows "t").length = 0 := by
    decide +kernel
  have hkept : (Change.removal.apply (Leaf.select [⟨"columns", .eq, .one (.text "x")⟩])
      (twoKinds.store.rows "t")).length = 1 := by
    decide +kernel
  refine ⟨compile_deletionBy "columns" "x", ⟨rfl, rfl, by decide +kernel, by decide +kernel⟩, haccepts, fun heq => ?_⟩
  rw [heq, hkept] at hleft
  exact nomatch hleft

end Mutation
end TableQuery
