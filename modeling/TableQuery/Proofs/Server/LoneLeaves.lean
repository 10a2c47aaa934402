import TableQuery.Proofs.Server.Leaves

/-! Leaves that stand alone.

At the top of a request the parameter of a leaf is its operator and its value with a dot between them. The server
cuts it at the first dot there is, and finds the two again exactly if the operator has no dot, which only the
configuration of a text search can bring in (`read_back_alone_iff`). With one that names its schema the leaf is read
as another test (`dotted_config_is_cut`). -/
namespace TableQuery
open Server

/-- Whatever a leaf asks, its text is read with its own negation, cut at the first dot behind it. -/
theorem exists_parseLeaf_alone (column : String) {op : Operator} {operand : Operand} {t : Token}
    (h : op.encode operand = .ok t) (negated : Bool) :
    ∃ operator value : List Char,
      parseLeaf column.toList (if negated then t.negate else t).render.toList false =
        .ok (.leaf column negated (String.ofList operator) (String.ofList value)) ∧
      op.render.toList ++ '.' :: t.value.toList = operator ++ '.' :: value ∧ '.' ∉ operator := by
  obtain ⟨⟨operator, value⟩, hcut⟩ : ∃ r, Text.cut '.' (op.render.toList ++ '.' :: t.value.toList) = some r :=
    Text.exists_cut_of_mem (by simp)
  refine ⟨operator, value, ?_, Text.cut_eq_some hcut⟩
  unfold parseLeaf
  rw [Operator.toList_render_token negated h, Operator.splitNot_notWord]
  simp only [hcut, Bool.false_eq_true, if_false, String.ofList_toList]

/-- **Leaves that stand alone are read back** exactly if no configuration of theirs has a dot. The server always finds
their column, their negation, and an operator and a value that make up their text; these are their own if and only if
a text search's configuration, where there is one, is free of dots. -/
theorem read_back_alone_iff (column : String) {op : Operator} {operand : Operand} {t : Token}
    (h : op.encode operand = .ok t) (negated : Bool) :
    ∃ operator value : String,
      parseLeaf column.toList (if negated then t.negate else t).render.toList false =
        .ok (.leaf column negated operator value) ∧
      operator ++ "." ++ value = op.render ++ "." ++ t.value ∧
      (operator = op.render ∧ value = t.value ↔ ∀ config, op.config? = some config → '.' ∉ config.toList) := by
  obtain ⟨operator, value, hparse, htext, hdot⟩ := exists_parseLeaf_alone column h negated
  refine ⟨_, _, hparse, ?_, ?_⟩
  · apply String.toList_injective
    simpa using htext.symm
  rw [← Operator.dot_not_mem_render_iff]
  constructor
  · rintro ⟨hoperator, -⟩
    rwa [← hoperator, String.toList_ofList]
  · intro hrender
    -- Neither side of the text has a dot before the one that divides it.
    have hcut := Text.cut_append hrender t.value.toList
    rw [htext, Text.cut_append hdot] at hcut
    obtain ⟨rfl, rfl⟩ := Prod.mk.inj (Option.some.inj hcut)
    simp

/-- A search that rules a word out, negated. -/
theorem search_in_english_read_back :
    (Operator.search .websearch (some "english")).encode (.one (.text "cat -dog")) =
        .ok ⟨false, "wfts(english)", "cat -dog", true⟩ ∧
      ∃ operator value : String,
        parseLeaf "body".toList "not.wfts(english).cat -dog".toList false = .ok (.leaf "body" true operator value) ∧
        operator ++ "." ++ value = "wfts(english).cat -dog" ∧
        (operator = "wfts(english)" ∧ value = "cat -dog" ↔
          ∀ config, some "english" = some config → '.' ∉ config.toList) :=
  have hencode : (Operator.search .websearch (some "english")).encode (.one (.text "cat -dog")) =
      .ok ⟨false, "wfts(english)", "cat -dog", true⟩ := by
    decide +kernel
  ⟨hencode, read_back_alone_iff "body" hencode true⟩

/-- A search by a configuration with its schema is read as one by no more than the schema, for another text, and
finds nothing where it should find something. -/
theorem dotted_config_is_cut :
    (Operator.search .basic (some "pg_catalog.english")).encode (.one (.text "cat")) =
        .ok ⟨false, "fts(pg_catalog.english)", "cat", true⟩ ∧
      parseLeaf "body".toList "fts(pg_catalog.english).cat".toList false =
        .ok (.leaf "body" false "fts(pg_catalog" "english).cat") ∧
      testLeaf (.str "fat cats") "fts(pg_catalog.english)" "cat" = .ok true ∧
      testLeaf (.str "fat cats") "fts(pg_catalog" "english).cat" = .ok false :=
  ⟨by decide +kernel, rfl, by decide +kernel, by decide +kernel⟩

end TableQuery
