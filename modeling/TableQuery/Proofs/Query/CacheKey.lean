import TableQuery.Proofs.Identifier
import TableQuery.Proofs.Query.Compile
import TableQuery.Proofs.Url.Form

/-! Keys of reads.

A key escapes nothing but its query string, and a schema may hold every mark of a key. It stands there
twice, before the table and in a header, and the rest of a key has four bars, whatever the read
(`IsRead.count_canonical`). So where two keys agree, their schemas have equally many bars, the same bar
ends the table in both, and the parts are cut off one after the other. Two reads with one key differ at
most in the tables they touch (`canonical_eq_iff`). -/
namespace TableQuery

theorem Mode.name_injective : Function.Injective Mode.name := by
  intro m m' h
  cases m <;> cases m' <;> revert h <;> decide

namespace Request

/-! ### The parts of a key -/

/-- A table behind its schema, as a key begins. -/
def tableText (schema : Option String) (table : String) : List Char :=
  (schema.elim [] fun s => s.toList ++ ['.']) ++ table.toList

def headerText (headers : List Param) : List Char := headers.flatMap fun h => (canonicalHeader h).toList

theorem headerText_append (a b : List Param) : headerText (a ++ b) = headerText a ++ headerText b :=
  List.flatMap_append

theorem toList_canonical (r : Request) :
    r.canonical.toList = tableText r.schema r.table ++ '|' :: (r.mode.name.toList ++ '|' ::
      (r.method.name.toList ++ '|' :: (r.queryString.toList ++ '|' :: headerText r.headers))) := by
  unfold canonical tableText headerText
  cases r.schema <;> simp [String.toList_join, List.flatMap_map]

/-! ### Headers -/

theorem headerText_range (first last : UInt64) :
    headerText (rangeHeaders (some (first, last))) =
      "range-unit=items;range=".toList ++ ((toString first ++ "-" ++ toString last).toList ++ [';']) := by
  have hunit : asciiLower "Range-Unit" = "range-unit" := by decide
  have hrange : asciiLower "Range" = "range" := by decide
  simp [headerText, rangeHeaders, canonicalHeader, hunit, hrange]

theorem headerText_schema (s : String) :
    headerText (schemaHeaders (some s)) = "accept-profile=".toList ++ (s.toList ++ [';']) := by
  have hprofile : asciiLower "Accept-Profile" = "accept-profile" := by decide
  simp [headerText, schemaHeaders, canonicalHeader, hprofile]

theorem isDigit_of_mem_toString {n : UInt64} {c : Char} (h : c ∈ (toString n).toList) :
    c.isDigit = true := by
  have htext : toString n = String.ofList (Nat.toDigits 10 n.toNat) := Nat.toString_eq_ofList_toDigits
  rw [htext, String.toList_ofList] at h
  exact Nat.isDigit_of_mem_toDigits (by decide) (by decide) h

theorem not_mem_rangeText {c : Char} (hc : c.isDigit = false) (hne : c ≠ '-') (first last : UInt64) :
    c ∉ (toString first ++ "-" ++ toString last).toList := by
  have hdigits (n : UInt64) : c ∉ (toString n).toList := fun h => by
    rw [isDigit_of_mem_toString h] at hc
    exact nomatch hc
  simp [String.toList_append, hdigits first, hdigits last, hne]

/-- The text of a schema and a count never begins as that of a range does. -/
theorem head?_schema_count (schema : Option String) (count : Option CountStrategy) :
    (headerText (schemaHeaders schema) ++ headerText (countHeaders count)).head? ≠ some 'r' := by
  cases schema with
  | some s => rw [headerText_schema]; exact nofun
  | none => cases count with
    | none => exact nofun
    | some c => cases c <;> decide

theorem rangeHeaders_inj {range range' : Option (UInt64 × UInt64)} {rest rest' : List Char}
    (hrest : rest.head? ≠ some 'r') (hrest' : rest'.head? ≠ some 'r')
    (h : headerText (rangeHeaders range) ++ rest = headerText (rangeHeaders range') ++ rest') :
    rangeHeaders range = rangeHeaders range' ∧ rest = rest' := by
  rcases range with - | ⟨first, last⟩ <;> rcases range' with - | ⟨first', last'⟩
  -- A key with a range and one without differ in the first letter of what their headers say.
  · exact ⟨rfl, h⟩
  · rw [headerText_range] at h
    exact absurd (congrArg List.head? h) hrest
  · rw [headerText_range] at h
    exact absurd (congrArg List.head? h).symm hrest'
  · simp only [headerText_range, List.append_assoc, List.append_cancel_left_eq, List.singleton_append] at h
    have hfree (first last : UInt64) : (toString first ++ "-" ++ toString last).toList.count ';' = 0 :=
      List.count_eq_zero.mpr (not_mem_rangeText (by decide) (by decide) first last)
    obtain ⟨hrange, hrest⟩ := Text.append_cons_inj ((hfree _ _).trans (hfree _ _).symm) h
    exact ⟨by rw [rangeHeaders, rangeHeaders, String.toList_inj.mp hrange], hrest⟩

/-- The counts are few enough to be compared one by one. -/
theorem countHeaders_inj {count count' : Option CountStrategy}
    (h : headerText (countHeaders count) = headerText (countHeaders count')) :
    countHeaders count = countHeaders count' := by
  rcases count with - | (_ | _ | _) <;> rcases count' with - | (_ | _ | _) <;> revert h <;> decide

/-- Reads of one schema with the same text of their headers have the same headers. -/
theorem headers_inj {range range' : Option (UInt64 × UInt64)} {schema : Option String}
    {count count' : Option CountStrategy}
    (h : headerText (rangeHeaders range ++ schemaHeaders schema ++ countHeaders count) =
      headerText (rangeHeaders range' ++ schemaHeaders schema ++ countHeaders count')) :
    rangeHeaders range ++ schemaHeaders schema ++ countHeaders count =
      rangeHeaders range' ++ schemaHeaders schema ++ countHeaders count' := by
  simp only [headerText_append, List.append_assoc] at h
  obtain ⟨hrange, hrest⟩ :=
    rangeHeaders_inj (head?_schema_count schema count) (head?_schema_count schema count') h
  rw [hrange, countHeaders_inj (List.append_cancel_left hrest)]

/-! ### Bars -/

/-- The number of bars in a schema. -/
def bars (schema : Option String) : Nat := schema.elim 0 fun s => s.toList.count '|'

theorem count_tableText {table : String} (h : isIdentifier table = true) (schema : Option String) :
    (tableText schema table).count '|' = bars schema := by
  have htable : table.toList.count '|' = 0 :=
    List.count_eq_zero.mpr fun hmem => absurd (all_isIdentifierPart h '|' hmem) (by decide)
  cases schema <;> simp [tableText, bars, htable]

theorem count_headerText (range : Option (UInt64 × UInt64)) (schema : Option String)
    (count : Option CountStrategy) :
    (headerText (rangeHeaders range ++ schemaHeaders schema ++ countHeaders count)).count '|' =
      bars schema := by
  have hrange : (headerText (rangeHeaders range)).count '|' = 0 := by
    rcases range with - | ⟨first, last⟩
    · rfl
    · rw [headerText_range, List.count_append, List.count_append,
        List.count_eq_zero.mpr (not_mem_rangeText (by decide) (by decide) first last)]
      decide
  have hschema : (headerText (schemaHeaders schema)).count '|' = bars schema := by
    cases schema with
    | none => rfl
    | some s =>
      rw [headerText_schema, List.count_append, List.count_append]
      show 0 + (s.toList.count '|' + 0) = s.toList.count '|'
      omega
  have hcount : (headerText (countHeaders count)).count '|' = 0 := by
    rcases count with - | (_ | _ | _) <;> decide
  simp only [headerText_append, List.count_append, hrange, hschema, hcount]
  omega

theorem count_mode (m : Mode) : m.name.toList.count '|' = 0 := by cases m <;> decide

theorem count_method (m : Method) : m.name.toList.count '|' = 0 := by cases m <;> decide

theorem count_queryString (r : Request) : r.queryString.toList.count '|' = 0 :=
  List.count_eq_zero.mpr (Url.Form.not_mem_encode (by decide) (by decide) (by decide) r.params)

theorem IsRead.count_canonical {r : Request} (h : r.IsRead) :
    r.canonical.toList.count '|' = 2 * bars r.schema + 4 := by
  obtain ⟨range, count, hheaders⟩ := h.headers
  have hheader : (headerText r.headers).count '|' = bars r.schema := by
    rw [hheaders, count_headerText]
  simp only [toList_canonical, List.count_append, List.count_cons_self, count_tableText h.table,
    count_mode, count_method, count_queryString, hheader]
  omega

/-! ### Reads with one key -/

/-- A table has no dot, so the last one stands behind the schema, if there is one. -/
theorem tableText_inj {schema schema' : Option String} {table table' : String}
    (htable : isIdentifier table = true) (htable' : isIdentifier table' = true)
    (h : tableText schema table = tableText schema' table') : schema = schema' ∧ table = table' := by
  have hfree {table : String} (htable : isIdentifier table = true) : table.toList.count '.' = 0 :=
    List.count_eq_zero.mpr fun hmem => absurd (all_isIdentifierPart htable '.' hmem) (by decide)
  have hdots := congrArg (List.count '.') h
  cases schema with
  | none => cases schema' with
    | none => exact ⟨rfl, String.toList_inj.mp h⟩
    | some s' => simp [tableText, hfree htable] at hdots
  | some s => cases schema' with
    | none => simp [tableText, hfree htable'] at hdots
    | some s' =>
      simp only [tableText, Option.elim_some, List.append_assoc, List.singleton_append,
        List.count_append, List.count_cons_self, hfree htable, hfree htable'] at h hdots
      obtain ⟨hs, ht⟩ := Text.append_cons_inj (by omega) h
      exact ⟨congrArg some (String.toList_inj.mp hs), String.toList_inj.mp ht⟩

theorem IsRead.eq_of_canonical {r r' : Request} (h : r.IsRead) (h' : r'.IsRead)
    (hkey : r.canonical = r'.canonical) :
    r.schema = r'.schema ∧ r.table = r'.table ∧ r.mode = r'.mode ∧ r.params = r'.params ∧
      r.headers = r'.headers := by
  have htext := congrArg String.toList hkey
  have hbars : bars r.schema = bars r'.schema := by
    have hcount := congrArg (List.count '|') htext
    rw [h.count_canonical, h'.count_canonical] at hcount
    omega
  rw [toList_canonical, toList_canonical] at htext
  -- The first cut stands behind as many bars as the schema has, the others before the next bar.
  have hfirst : (tableText r.schema r.table).count '|' = (tableText r'.schema r'.table).count '|' := by
    rw [count_tableText h.table, count_tableText h'.table, hbars]
  obtain ⟨hname, htext⟩ := Text.append_cons_inj hfirst htext
  obtain ⟨hmode, htext⟩ := Text.append_cons_inj (by rw [count_mode, count_mode]) htext
  obtain ⟨-, htext⟩ := Text.append_cons_inj (by rw [count_method, count_method]) htext
  obtain ⟨hquery, hheaders⟩ :=
    Text.append_cons_inj (by rw [count_queryString, count_queryString]) htext
  obtain ⟨hschema, htable⟩ := tableText_inj h.table h'.table hname
  obtain ⟨range, count, hr⟩ := h.headers
  obtain ⟨range', count', hr'⟩ := h'.headers
  rw [← hschema] at hr'
  rw [hr, hr'] at hheaders
  exact ⟨hschema, htable, Mode.name_injective (String.toList_inj.mp hmode),
    Url.Form.encode_injective (String.toList_inj.mp hquery), by rw [hr, hr', headers_inj hheaders]⟩

/-- **Two reads with one key** are the same request, the tables they touch aside. -/
theorem canonical_eq_iff {q q' : Query} {m m' : Mode} {r r' : Request}
    (h : q.compileAs m = .ok r) (h' : q'.compileAs m' = .ok r') :
    r.canonical = r'.canonical ↔
      r.schema = r'.schema ∧ r.table = r'.table ∧ r.mode = r'.mode ∧ r.method = r'.method ∧
        r.params = r'.params ∧ r.headers = r'.headers ∧ r.body = r'.body := by
  have hread := Query.isRead_of_compileAs h
  have hread' := Query.isRead_of_compileAs h'
  constructor
  · intro hkey
    obtain ⟨hschema, htable, hmode, hparams, hheaders⟩ := hread.eq_of_canonical hread' hkey
    have hmethod : r.method = r'.method := by rw [hread.method, hread'.method, hmode]
    have hbody : r.body = r'.body := by rw [hread.body, hread'.body]
    exact ⟨hschema, htable, hmode, hmethod, hparams, hheaders, hbody⟩
  · rintro ⟨hschema, htable, hmode, hmethod, hparams, hheaders, -⟩
    rw [canonical, canonical, queryString, queryString, hschema, htable, hmode, hmethod, hparams, hheaders]

/-- A read of a schema that is written like the rest of a key. -/
def lookalike : Query := (Query.on "t").inSchema "s.t|many|GET||accept-profile=s;"

/-- A read of the schema that its key begins with. -/
def lookedAlike : Query := (((Query.on "t").inSchema "s").counted .exact).range 0 9

theorem lookalike_has_own_key :
    ∃ r r', lookalike.compileAs .many = .ok r ∧ lookedAlike.compileAs .many = .ok r' ∧
      r.canonical ≠ r'.canonical := by
  have h : lookalike.compileAs .many = .ok _ := rfl
  have h' : lookedAlike.compileAs .many = .ok _ := rfl
  refine ⟨_, _, h, h', fun hkey => ?_⟩
  have hschema := ((canonical_eq_iff h h').mp hkey).1
  exact absurd hschema (by decide)

end Request
end TableQuery
