import TableQuery.Proofs.Client.InnerReads
import TableQuery.Proofs.Server.Alone
import TableQuery.Proofs.Server.ReturnedRows
import TableQuery.Proofs.Server.SelectedRows

/-! How far a write reaches that is made of a read.

A write takes the filters of a query over and nothing else (`Query.toMutation_of_takesFilters`). Both requests have the
filters' parameters (`Params.exists_putAll_rest`), and what a read has behind them only adds to what is asked of the
table (`Params.exists_conditions_putAll`). So the read returns some of the rows that the write is made on, and the write
reaches no farther only where nothing else that the query asks for leaves a row out (`Query.write_reach`). -/
namespace TableQuery
open Server

/-! ### Parameters that add conditions -/

namespace Server.Params
variable {p p' q q' : Params} {name value : String}

theorem exists_conditions_modify (p : Params) (path : String) {f : Scope → Scope}
    (hf : ∀ s, ∃ cs, (f s).conditions = s.conditions ++ cs) :
    ∃ cs, ((p.modify path f).scope "").conditions = (p.scope "").conditions ++ cs := by
  have hchanges := modify_changesAt p path f
  by_cases hpath : path = ""
  · subst hpath
    rw [hchanges.here]
    exact hf _
  · rw [hchanges.elsewhere "" fun h => hpath h.symm]
    exact ⟨[], (List.append_nil _).symm⟩

/-- A parameter takes no condition back. -/
theorem exists_conditions_put (h : p.put name value = .ok p') :
    ∃ cs, (p'.scope "").conditions = (p.scope "").conditions ++ cs := by
  have hsame (s : Scope) : ∃ cs, s.conditions = s.conditions ++ cs := ⟨[], (List.append_nil _).symm⟩
  cases puts_of_put h with
  | select => exact hsame _
  | conflict => exact hsame _
  | columns => exact hsame _
  | scope _ hf =>
    refine exists_conditions_modify p _ fun s => ?_
    cases hf with
    | order => exact hsame s
    | limit => exact hsame s
    | offset => exact hsame s
    | condition c => exact ⟨[c], rfl⟩

theorem exists_conditions_putAll {params : List Param} (h : p.putAll params = .ok p') :
    ∃ cs, (p'.scope "").conditions = (p.scope "").conditions ++ cs := by
  induction params generalizing p with
  | nil => exact ⟨[], Except.ok.inj h ▸ (List.append_nil _).symm⟩
  | cons param params ih =>
    obtain ⟨p₁, hput, h⟩ := putAll_cons_ok h
    obtain ⟨cs, hcs⟩ := exists_conditions_put hput
    obtain ⟨ds, hds⟩ := ih h
    exact ⟨cs ++ ds, by rw [hds, hcs, List.append_assoc]⟩

/-- A parameter for the request as a whole asks nothing of a resource. -/
theorem scopes_put_whole (hname : name ∈ wholeNames) (h : p.put name value = .ok p') : p'.scopes = p.scopes := by
  cases puts_of_put h with
  | select => rfl
  | conflict => rfl
  | columns => rfl
  | scope hother => exact absurd hname hother

/-- Any other one changes what is asked of one resource, and changes it alike in all requests. -/
theorem exists_modify_of_put (hname : name ∉ wholeNames) (h : p.put name value = .ok p') :
    ∃ f, p' = p.modify (String.ofList (splitKey name.toList).1) f ∧
      ∀ q : Params, q.put name value = .ok (q.modify (String.ofList (splitKey name.toList).1) f) := by
  cases puts_of_put h with
  | select _ hselect => exact absurd (by rw [hselect]; decide) hname
  | conflict hconflict => exact absurd (by rw [hconflict]; decide) hname
  | columns hcolumns => exact absurd (by rw [hcolumns]; decide) hname
  | scope _ _ hput => exact ⟨_, rfl, hput⟩

/-- What is asked of the resources depends on nothing but what was asked of them. -/
theorem scopes_put (h : p.scopes = q.scopes) (hp : p.put name value = .ok p') (hq : q.put name value = .ok q') :
    p'.scopes = q'.scopes := by
  by_cases hname : name ∈ wholeNames
  · rw [scopes_put_whole hname hp, scopes_put_whole hname hq, h]
  · obtain ⟨f, rfl, hput⟩ := exists_modify_of_put hname hp
    obtain rfl := Except.ok.inj ((hput q).symm.trans hq)
    unfold modify scope
    rw [h]

theorem scopes_putAll {params : List Param} (h : p.scopes = q.scopes) (hp : p.putAll params = .ok p')
    (hq : q.putAll params = .ok q') : p'.scopes = q'.scopes := by
  induction params generalizing p q with
  | nil => rw [← Except.ok.inj hp, ← Except.ok.inj hq, h]
  | cons param params ih =>
    obtain ⟨p₁, hput, hp⟩ := putAll_cons_ok hp
    obtain ⟨q₁, hput', hq⟩ := putAll_cons_ok hq
    exact ih (scopes_put h hput hput') hp hq

/-- The parameter of a selection, if there is one. -/
def selectParam (select : Option String) : List Param := select.toList.map fun s => ("select", s)

theorem scopes_selectParam {select : Option String} (h : p.putAll (selectParam select) = .ok p') :
    p'.scopes = p.scopes := by
  cases select with
  | none => rw [← Except.ok.inj h]
  | some text =>
    replace h := (putAll_singleton p "select" text).symm.trans h
    obtain ⟨_, -, h⟩ := Chained.bind_eq_ok.mp h
    rw [← Except.ok.inj h]

/-- Of two requests with the same filters behind their selections, the one that has more parameters asks what the
other asks of the table, and maybe more. -/
theorem exists_putAll_rest {select select' : Option String} {filters rest : List Param}
    (hp : empty.putAll (selectParam select ++ filters ++ rest) = .ok p)
    (hq : empty.putAll (selectParam select' ++ filters) = .ok q) :
    ∃ p₁ : Params, p₁.scopes = q.scopes ∧ p₁.putAll rest = .ok p := by
  obtain ⟨p₁, hp₁, hrest⟩ := putAll_append_ok hp
  obtain ⟨p₀, hselect, hfilters⟩ := putAll_append_ok hp₁
  obtain ⟨q₀, hselect', hfilters'⟩ := putAll_append_ok hq
  have hsame : p₀.scopes = q₀.scopes := (scopes_selectParam hselect).trans (scopes_selectParam hselect').symm
  exact ⟨p₁, scopes_putAll hsame hfilters hfilters', hrest⟩

/-- A parameter for a resource below the table adds nothing to what is asked of the table. -/
theorem conditions_put_below (h : p.put name value = .ok p') (hpath : (splitKey name.toList).1 ≠ []) :
    (p'.scope "").conditions = (p.scope "").conditions := by
  by_cases hname : name ∈ wholeNames
  · rw [scope, scopes_put_whole hname h, scope]
  · obtain ⟨f, rfl, -⟩ := exists_modify_of_put hname h
    rw [(modify_changesAt p _ f).elsewhere "" fun hempty => hpath (by simpa using hempty.symm)]

theorem conditions_putAll_eq {params : List Param} (h : p.putAll params = .ok p')
    (hkeep : ∀ param ∈ params, param.1 ∈ passedOver ∨ (splitKey param.1.toList).1 ≠ []) :
    (p'.scope "").conditions = (p.scope "").conditions := by
  induction params generalizing p with
  | nil => rw [← Except.ok.inj h]
  | cons param params ih =>
    obtain ⟨hfirst, hrest⟩ := List.forall_mem_cons.mp hkeep
    obtain ⟨p₁, hput, h⟩ := putAll_cons_ok h
    rw [ih h hrest]
    rcases hfirst with hpassed | hbelow
    · exact conditions_put_passedOver hpassed hput
    · exact conditions_put_below hput hbelow

/-- Behind a key and its dot a name is for a resource below the table. -/
theorem splitKey_ne_nil {key : List Char} (hkey : key ≠ []) (hnot : key ≠ "not".toList) (hdot : '.' ∉ key)
    (rest : List Char) : (splitKey (key ++ '.' :: rest)).1 ≠ [] := by
  intro hroot
  obtain ⟨hwhole, hlast⟩ := isCut_splitKey (key ++ '.' :: rest)
  rw [hroot] at hwhole
  have hwhole : key ++ '.' :: rest = (splitKey (key ++ '.' :: rest)).2 := by
    rcases hwhole with ⟨-, hwhole⟩ | hwhole
    · exact hwhole
    · obtain ⟨c, cs, rfl⟩ := List.exists_cons_of_ne_nil hkey
      rw [List.cons_append, List.nil_append] at hwhole
      obtain rfl := (List.cons.inj hwhole).1
      exact absurd List.mem_cons_self hdot
  rw [← hwhole] at hlast
  rcases hlast with hword | ⟨hnone, -⟩
  · -- Up to its first dot a negated junction is the word of the negation.
    have hfirst : ∀ word ∈ negatedJunctions, (Text.cut '.' word).map Prod.fst = some "not".toList := by decide
    have hcut := hfirst _ hword
    rw [Text.cut_append hdot, Option.map_some] at hcut
    exact hnot (Option.some.inj hcut)
  · exact hnone (by simp)

end Server.Params

/-! ### Queries that are restricted by their filters alone -/

namespace Select

theorem not_isInner_of_readAll {items : List SelectItem} {path : List String} {rs : List Relation}
    {ps : List Projection} (h : Level.readAll (fillAll items path rs) = .ok ps)
    (houter : ∀ r ∈ rs, r.embedding.isInner = false) : ∀ p ∈ ps, ¬p.IsInner := by
  intro p hp
  obtain ⟨r, hr, content, rfl⟩ := Chained.exists_of_forall₂ (forall₂_readAll_fillAll h) hp
  exact Bool.eq_false_iff.mp (houter r hr)

theorem not_isInner_of_readItems {items : List SelectItem} {own : List Projection}
    (h : Level.readItems items = .ok own)
    (hplain : ∀ i ∈ items, ∀ p ∈ Level.readAlone i.render, ¬p.IsInner) : ∀ p ∈ own, ¬p.IsInner := by
  rw [Level.eq_of_readItems h]
  split
  · exact List.forall_mem_singleton.mpr id
  · intro p hp
    obtain ⟨i, hi, hp⟩ := List.mem_flatMap.mp hp
    exact hplain i hi p hp

/-- A selection asks for inner resources only with relations that are inner, or with texts that are read so. -/
theorem not_isInner_of_compile {items : List SelectItem} {relations : List Relation} {text : String}
    {ps : List Projection} (hitems : ∀ i ∈ items, Text.Nested.IsClosed i.render.toList)
    (hrelations : ∀ e ∈ Relation.embeddingsOf relations, e.IsNamed ∧ ∀ c ∈ e.columns, Text.Nested.IsClosed c.toList)
    (hplain : ∀ i ∈ items, ∀ p ∈ Level.readAlone i.render, ¬p.IsInner)
    (houter : ∀ r ∈ relations, r.embedding.isInner = false) (h : compile items relations = .ok (some text))
    (hread : parseSelect text.toList = .ok ps) : ∀ p ∈ ps, ¬p.IsInner := by
  obtain ⟨own, below, hown, hbelow, rfl⟩ := readings_of_compile hitems hrelations h hread
  refine List.forall_mem_append.mpr ⟨not_isInner_of_readItems hown ?_, not_isInner_of_readAll hbelow houter⟩
  exact List.forall_mem_map.mpr fun i hi => hplain i (List.mem_filter.mp hi).1

end Select

namespace Query
variable {q : Query} {mode : Mode} {r : Request} {headers : Http.Headers} {p : Params}

/-- Nothing but its filters restricts the rows of a query: it has no pagination, and no relation that is inner or has
a name of another meaning in parameters; and its texts are selections that ask for no more. -/
structure IsUnrestricted (q : Query) : Prop where
  pagination : q.pagination = none
  named : ∀ e ∈ Relation.embeddingsOf q.relations, e.IsNamed
  outer : ∀ r ∈ q.relations, r.embedding.isInner = false ∧ r.key ≠ "not"
  closed : ∀ t ∈ q.selectedTexts, Text.Nested.IsClosed t.toList
  plain : ∀ i ∈ q.select, ∀ item ∈ Select.Level.readAlone i.render, ¬item.IsInner
  unselected : ∀ f ∈ q.filters, ¬f.Tests "select"

namespace IsUnrestricted

theorem key (hq : q.IsUnrestricted) : ∀ r ∈ q.relations, isIdentifier r.key = true :=
  fun _ hr => (hq.named _ (Relation.embedding_mem_embeddingsOf hr)).key

theorem window (hq : q.IsUnrestricted) (h : q.compileAs mode = .ok r)
    (hread : Params.read r.queryString headers = .ok p) (hrange : headers.text? "range" = none) :
    p.window "" = (0, none) := by
  refine Params.window_of_read hread hrange (keepsWindow_params h hq.pagination fun x hx hkey => ?_)
  exact ne_nil_of_isIdentifierText (hq.key x hx) (by rw [hkey]; rfl)

/-- It asks for no inner resources. -/
theorem items (hq : q.IsUnrestricted) (h : q.compileAs mode = .ok r)
    (hread : Params.read r.queryString headers = .ok p) (hrange : headers.text? "range" = none) :
    ∀ item ∈ p.items, ¬item.IsInner := by
  obtain ⟨select, filters, hoisted, hselect, hfilters, hhoist, hparams⟩ := params_of_compileAs h hq.pagination
  have hrest := ne_select_of_params hfilters hhoist hq.unselected (SortKey.renderAll? q.order)
  obtain ⟨hitems, hcolumns⟩ := List.forall_mem_append.mp hq.closed
  rw [Request.queryString, hparams, List.append_assoc, List.append_assoc, ← List.append_assoc filters] at hread
  cases select with
  | none =>
    rw [Params.read_without_range _ hrange] at hread
    obtain ⟨p₀, hp₀, rfl⟩ := Chained.map_eq_ok.mp hread
    rw [Params.items, (Params.foldl_putPreference_eq _ p₀).1, (Params.keeps_putAll hp₀ hrest).1]
    exact List.forall_mem_singleton.mpr id
  | some text =>
    obtain ⟨items, hparsed, hp, -⟩ := Params.read_selection hread hrange hrest
    rw [hp]
    have hitems : ∀ i ∈ q.select, Text.Nested.IsClosed i.render.toList :=
      fun i hi => hitems _ (List.mem_map_of_mem hi)
    refine Select.not_isInner_of_compile hitems (fun e he => ⟨hq.named e he, fun c hc => ?_⟩) hq.plain
      (fun x hx => (hq.outer x hx).1) hselect hparsed
    exact hcolumns c (List.mem_flatMap.mpr ⟨e, he, hc⟩)

/-- What it has behind its filters asks nothing of the table. -/
theorem conditions (hq : q.IsUnrestricted) {hoisted : List Param} (hhoist : Relation.hoist q.relations = .ok hoisted)
    {p₁ : Params} (order : Option String)
    (h : p₁.putAll (hoisted ++ order.toList.map fun o => ("order", o)) = .ok p) :
    (p.scope "").conditions = (p₁.scope "").conditions := by
  refine Params.conditions_putAll_eq h (List.forall_mem_append.mpr ⟨fun param hmem => ?_, ?_⟩)
  · obtain ⟨x, hx, last, hlast⟩ := Relation.name_of_hoistAll q.relations hhoist param hmem
    have hkey := hq.key x hx
    have hname : param.1.toList = x.key.toList ++ '.' :: last.toList := by simp [hlast]
    rw [hname]
    refine .inr (Params.splitKey_ne_nil (ne_nil_of_isIdentifierText hkey) (fun hnot => ?_)
      (not_mem_of_isIdentifier hkey (by decide)) _)
    exact (hq.outer x hx).2 (String.toList_inj.mp hnot)
  · cases order with
    | none => exact List.forall_mem_nil _
    | some keys =>
      have hword : "order" ∈ passedOver := by decide
      exact List.forall_mem_singleton.mpr (.inl hword)

end IsUnrestricted

/-! ### Writes made of reads -/

variable {server : Server} {kind : WriteKind} {body : Option Json} {returning : Option (List SelectItem)}
  {w : Request} {t t' : Http.Target} {m m' : Http.Message}

/-- Of what a query asks for a write takes the filters over, and nothing else. -/
theorem toMutation_of_takesFilters (hkind : kind.takesFilters = true) (q : Query) (body : Option Json) :
    q.toMutation kind body = { Mutation.on q.table kind with
      schema := q.schema, bound := q.bound, options := { q.options with cache := .bypass }, fault := q.fault,
      body := body, filters := q.filters } := by
  unfold toMutation
  rw [if_pos hkind]

/-- Up to their filters a read and a write that is made of it have the same parameters, but for the selection. What is
asked of the table by the write is then asked by the read, before the rest of its parameters. -/
theorem exists_rest_of_toMutation {select : Option String} {filters rest : List Param} {headers' : Http.Headers}
    {p' : Params} (hkind : kind.takesFilters = true)
    (hwrite : { q.toMutation kind body with returning := returning }.compile = .ok w)
    (hfilters : Filter.params "" q.filters = .ok filters)
    (hparams : r.params = (select.toList.map fun s => ("select", s)) ++ filters ++ rest)
    (hp : Params.read r.queryString headers = .ok p) (hp' : Params.read w.queryString headers' = .ok p') :
    ∃ p₁ p₂ : Params, p₁.putAll rest = .ok p₂ ∧ p₁.scope "" = p'.scope "" ∧ p₂.scope "" = p.scope "" := by
  rw [toMutation_of_takesFilters hkind] at hwrite
  obtain ⟨-, -, _, select', filters', -, -, hfilters', rfl⟩ := Mutation.parts_of_compile hwrite
  obtain rfl := Except.ok.inj (hfilters.symm.trans hfilters')
  obtain ⟨p₂, hread, hscopes⟩ := Params.putAll_of_read hp
  obtain ⟨p₃, hwritten, hscopes'⟩ := Params.putAll_of_read hp'
  rw [hparams] at hread
  rw [Mutation.conflictParts_of_takesFilters hkind, List.append_nil] at hwritten
  obtain ⟨p₁, hsame, hrest⟩ := Params.exists_putAll_rest hread hwritten
  refine ⟨p₁, p₂, hrest, ?_, (hscopes "").symm⟩
  rw [hscopes', Params.scope, Params.scope, hsame]

/-- A read asks of the table what a write asks that is made of it, and maybe more. -/
theorem exists_conditions_of_toMutation {headers' : Http.Headers} {p' : Params} (hkind : kind.takesFilters = true)
    (hread : q.compileAs mode = .ok r)
    (hwrite : { q.toMutation kind body with returning := returning }.compile = .ok w)
    (hp : Params.read r.queryString headers = .ok p) (hp' : Params.read w.queryString headers' = .ok p') :
    ∃ extra, (p.scope "").conditions = (p'.scope "").conditions ++ extra := by
  obtain ⟨-, -, -, -, select, filters, window, cursor, hoisted, -, hfilters, -, -, -, hr⟩ := parts_of_compileAs hread
  have hparams : r.params = (select.toList.map fun s => ("select", s)) ++ filters ++ (cursor ++ hoisted ++
      ((SortKey.renderAll? (q.order ++ window.order)).toList.map fun o => ("order", o)) ++ window.params) := by
    rw [hr]
    simp only [List.append_assoc]
  obtain ⟨p₁, p₂, hrest, hsame, hroot⟩ := exists_rest_of_toMutation hkind hwrite hfilters hparams hp hp'
  rw [← hsame, ← hroot]
  exact Params.exists_conditions_putAll hrest

/-- It asks no more than that if nothing but its filters restricts it. -/
theorem IsUnrestricted.conditions_of_toMutation {headers' : Http.Headers} {p' : Params} (hq : q.IsUnrestricted)
    (hkind : kind.takesFilters = true) (hread : q.compileAs mode = .ok r)
    (hwrite : { q.toMutation kind body with returning := returning }.compile = .ok w)
    (hp : Params.read r.queryString headers = .ok p) (hp' : Params.read w.queryString headers' = .ok p') :
    (p.scope "").conditions = (p'.scope "").conditions := by
  obtain ⟨select, filters, hoisted, -, hfilters, hhoist, hparams⟩ := params_of_compileAs hread hq.pagination
  rw [List.append_assoc] at hparams
  obtain ⟨p₁, p₂, hrest, hsame, hroot⟩ := exists_rest_of_toMutation hkind hwrite hfilters hparams hp hp'
  rw [← hsame, ← hroot]
  exact hq.conditions hhoist (SortKey.renderAll? q.order) hrest

/-- **How far a write reaches** that is made of a read. Where the server carries out both, the write is made on the rows
that pass what the filters ask, and the read returns some of these. They are no others than the read returns if and
only if none of them is left out for what else the query asks for: a condition that is read behind the filters, an
inner resource, or the window. Nothing is left out where nothing but its filters restricts the query. -/
theorem write_reach (hkind : kind.takesFilters = true) (hread : q.compileAs mode = .ok r)
    (hwrite : { q.toMutation kind body with returning := returning }.compile = .ok w) (hsent : r.IsSentAs t m)
    (hsent' : w.IsSentAs t' m') (haccepts : server.Accepts t m) (haccepts' : server.Accepts t' m') :
    ∃ p p' listed selected table change,
      server.Lists t m q.table p listed ∧ server.store.selected p q.table = .ok selected ∧
      List.Forall₂ (server.store.IsReturnedAs p q.table) selected (Store.paginate listed (p.window "")) ∧
      server.store.table? q.table = some table ∧ Change.ofWrite kind w.octets = .ok change ∧
      Params.read w.queryString m'.headers = .ok p' ∧
      (server.respond t' m').2 =
        { server with
          store := server.store.setRows q.table table
            (change.apply (Row.passes (p'.scope "").conditions) table.rows) } ∧
      selected.Subperm (table.rows.filter (Row.passes (p'.scope "").conditions)) ∧
      ((table.rows.filter (Row.passes (p'.scope "").conditions)).Subperm selected ↔
        (∀ row ∈ table.rows.filter (Row.passes (p'.scope "").conditions),
          row.passes (p.scope "").conditions = true ∧ server.store.retains p q.table row = .ok true) ∧
        HasRoom (p.window "") (table.rows.filter (Row.passes (p'.scope "").conditions)).length) ∧
      (q.IsUnrestricted → m.headers.text? "range" = none →
        selected.Perm (table.rows.filter (Row.passes (p'.scope "").conditions))) := by
  have hwritten : w.table = q.table ∧ w.method = kind.method := by
    rw [toMutation_of_takesFilters hkind] at hwrite
    exact Mutation.table_of_compile hwrite
  obtain ⟨htable', hmethod'⟩ := hwritten
  have hmethod : m.method = "GET" ∨ m.method = "HEAD" := by
    rw [hsent.method, (isRead_of_compileAs hread).method]
    split
    · exact .inr rfl
    · exact .inl rfl
  obtain ⟨p, listed, hlists⟩ := lists_of_accepts hmethod (table_of_compileAs hread ▸ hsent.route) haccepts
  obtain ⟨p', table, change, hp', hstored, hchange, -, hserver⟩ :=
    written_of_success hkind hmethod' hsent' haccepts'
  rw [htable'] at hstored hserver
  have hp : Params.read r.queryString m.headers = .ok p := hsent.query ▸ read_of_vet hlists.vet
  obtain ⟨extra, hextra⟩ := exists_conditions_of_toMutation hkind hread hwrite hp hp'
  have htable : server.store.table q.table = .ok table := by
    rw [Store.table, hstored]
  obtain ⟨selected, hselected, hreturned, hpart, hall⟩ :=
    Store.selected_covers_iff htable hlists.listing hlists.fits hextra
  refine ⟨p, p', listed, selected, table, change, hlists, hselected, hreturned, hstored, hchange, hp', hserver, hpart,
    hall, fun hq hrange => ?_⟩
  refine hpart.antisymm (hall.mpr ⟨fun row hrow => ?_, ?_⟩)
  · obtain ⟨hmem, hpasses⟩ := List.mem_filter.mp hrow
    rw [← hq.conditions_of_toMutation hkind hread hwrite hp hp'] at hpasses
    obtain ⟨hit, hhit⟩ := Store.exists_retains_of_listing htable hlists.listing hlists.fits hmem hpasses
    refine ⟨hpasses, ?_⟩
    rw [hhit, Store.retains_of_not_isInner (hq.items hread hp hrange) hhit]
  · rw [hq.window hread hp hrange]
    refine ⟨.inr rfl, fun limit hlimit => ?_⟩
    cases hlimit

/-- A table of three rows. -/
def threeLetters : Server :=
  ⟨⟨[("t", .ofRows [[("id", .str "a")], [("id", .str "b")], [("id", .str "c")]])], []⟩, none, [], ⟨0⟩⟩

def readWith (params : List Param) : Request := ⟨"t", none, .get, .many, params, [], none, ["t"]⟩

def deletionWith (params : List Param) : Request :=
  ⟨"t", none, .delete, .many, params, [("Prefer", "return=minimal")], none, ["t"]⟩

def readMessage : Http.Message := ⟨"GET", "/t", [], none⟩

def deletionMessage : Http.Message := ⟨"DELETE", "/t", [("prefer", "return=minimal")], none⟩

/-- The row with a letter. -/
def byLetter (text : String) : Query :=
  { Query.on "t" with filters := [Filter.test "id" .eq (.one (.text text))] }

/-- The row with the first letter. -/
def firstLetter : Query :=
  { Query.on "t" with order := [⟨"id", .asc, none⟩], pagination := some (.window 0 (some 1)) }

theorem compile_byLetter : (byLetter "b").compileAs .many = .ok (readWith [("id", "eq.b")]) := by
  rw [compileAs, show isIdentifier (byLetter "b").table = true by decide]
  cbv

theorem compile_firstLetter : firstLetter.compileAs .many = .ok (readWith [("order", "id.asc"), ("limit", "1")]) := by
  rw [compileAs, show isIdentifier firstLetter.table = true by decide]
  cbv

theorem compile_deletion_byLetter :
    ((byLetter "b").toMutation .delete none).compile = .ok (deletionWith [("id", "eq.b")]) := by
  rw [Mutation.compile, show isIdentifier ((byLetter "b").toMutation .delete none).table = true by decide]
  cbv

theorem compile_deletion_firstLetter : (firstLetter.toMutation .delete none).compile = .ok (deletionWith []) := by
  rw [Mutation.compile, show isIdentifier (firstLetter.toMutation .delete none).table = true by decide]
  cbv

theorem isUnrestricted_byLetter : (byLetter "b").IsUnrestricted where
  pagination := rfl
  named := List.forall_mem_nil _
  outer := List.forall_mem_nil _
  closed := List.forall_mem_nil _
  plain := List.forall_mem_nil _
  unselected := List.forall_mem_singleton.mpr (by decide : ¬"id" = "select")

/-- A deletion of what a filter alone selects removes the row that is read. -/
theorem deletion_reaches_read_row :
    (readWith [("id", "eq.b")]).IsSentAs ⟨['/', 't'], "id=eq.b"⟩ readMessage ∧
      (deletionWith [("id", "eq.b")]).IsSentAs ⟨['/', 't'], "id=eq.b"⟩ deletionMessage ∧
      threeLetters.Accepts ⟨['/', 't'], "id=eq.b"⟩ readMessage ∧
      threeLetters.Accepts ⟨['/', 't'], "id=eq.b"⟩ deletionMessage ∧
      ∃ p selected reached, threeLetters.store.selected p "t" = .ok selected ∧
        (threeLetters.respond ⟨['/', 't'], "id=eq.b"⟩ deletionMessage).2.store.rows "t" =
          Change.removal.apply reached (threeLetters.store.rows "t") ∧
        selected.Perm ((threeLetters.store.rows "t").filter reached) := by
  have hsent : (readWith [("id", "eq.b")]).IsSentAs ⟨['/', 't'], "id=eq.b"⟩ readMessage :=
    ⟨rfl, rfl, by decide +kernel, by decide +kernel⟩
  have hsent' : (deletionWith [("id", "eq.b")]).IsSentAs ⟨['/', 't'], "id=eq.b"⟩ deletionMessage :=
    ⟨rfl, rfl, by decide +kernel, by decide +kernel⟩
  have haccepts : threeLetters.Accepts ⟨['/', 't'], "id=eq.b"⟩ readMessage :=
    ⟨200, by decide +kernel, by decide⟩
  have haccepts' : threeLetters.Accepts ⟨['/', 't'], "id=eq.b"⟩ deletionMessage :=
    ⟨204, by decide +kernel, by decide⟩
  have hwrite : { (byLetter "b").toMutation .delete none with returning := none }.compile =
      .ok (deletionWith [("id", "eq.b")]) := compile_deletion_byLetter
  obtain ⟨p, p', listed, selected, table, change, -, hselected, -, htable, hchange, -, hserver, -, -, hperm⟩ :=
    write_reach rfl compile_byLetter hwrite hsent hsent' haccepts haccepts'
  obtain rfl := Except.ok.inj hchange
  have hrows : threeLetters.store.rows "t" = table.rows := Store.rows_of_table? htable
  refine ⟨hsent, hsent', haccepts, haccepts', p, selected, Row.passes (p'.scope "").conditions, hselected, ?_, ?_⟩
  · rw [hserver, hrows]
    exact Store.rows_setRows ..
  · rw [hrows]
    exact hperm isUnrestricted_byLetter rfl

/-- What the read of the first letter asks for. -/
def askedFirst : Params :=
  { Params.empty with scopes := [("", ⟨[], [⟨"id", false, false⟩], none, some 1⟩)] }

/-- A read of the row with the first letter returns that row, and the deletion that is made of it removes all three:
neither the order nor the limit is carried over, and neither is refused. -/
theorem deletion_reaches_unread_rows :
    firstLetter.compileAs .many = .ok (readWith [("order", "id.asc"), ("limit", "1")]) ∧
      (firstLetter.toMutation .delete none).compile = .ok (deletionWith []) ∧
      (readWith [("order", "id.asc"), ("limit", "1")]).IsSentAs ⟨['/', 't'], "order=id.asc&limit=1"⟩ readMessage ∧
      (deletionWith []).IsSentAs ⟨['/', 't'], ""⟩ deletionMessage ∧
      threeLetters.Lists ⟨['/', 't'], "order=id.asc&limit=1"⟩ readMessage "t" askedFirst
        [.obj [("id", .str "a")], .obj [("id", .str "b")], .obj [("id", .str "c")]] ∧
      threeLetters.store.selected askedFirst "t" = .ok [[("id", .str "a")]] ∧
      threeLetters.status? ⟨['/', 't'], ""⟩ deletionMessage = some 204 ∧
      threeLetters.store.rows "t" = [[("id", .str "a")], [("id", .str "b")], [("id", .str "c")]] ∧
      (threeLetters.respond ⟨['/', 't'], ""⟩ deletionMessage).2.store.rows "t" = [] := by
  have hread : Params.read "order=id.asc&limit=1" [] = .ok askedFirst := by
    rw [show "order=id.asc&limit=1" = Url.Form.encode [("order", "id.asc"), ("limit", "1")] by decide +kernel,
      Params.read_without_range _ (by rfl)]
    cbv
  have hlisting : threeLetters.store.listing askedFirst "t" =
      .ok [.obj [("id", .str "a")], .obj [("id", .str "b")], .obj [("id", .str "c")]] := by
    cbv
  have hlists : threeLetters.Lists ⟨['/', 't'], "order=id.asc&limit=1"⟩ readMessage "t" askedFirst
      [.obj [("id", .str "a")], .obj [("id", .str "b")], .obj [("id", .str "c")]] :=
    ⟨by decide +kernel, vet_of_read rfl rfl rfl hread, hlisting, rfl⟩
  refine ⟨compile_firstLetter, compile_deletion_firstLetter, ⟨rfl, rfl, by decide +kernel, by decide +kernel⟩,
    ⟨rfl, rfl, by decide +kernel, by decide +kernel⟩, hlists, ?_, by decide +kernel, rfl, ?_⟩
  · cbv
  · have hnone : ((threeLetters.respond ⟨['/', 't'], ""⟩ deletionMessage).2.store.rows "t").length = 0 := by
      decide +kernel
    exact List.eq_nil_of_length_eq_zero hnone

end Query
end TableQuery
