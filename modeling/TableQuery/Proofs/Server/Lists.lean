import TableQuery.Proofs.Server.Operands
import TableQuery.Proofs.Text.Separation

/-! Lists on the server: what quoting keeps apart and what it does not.

Three places hold texts between commas: the parentheses of a membership list, the braces of an array, and
a group. Each reserves the brackets it is itself made of, but the server counts round and curly brackets
alike. So a list reads back exactly if every text but the last is sealed (`lists_read_back_iff`): in a
membership list and in a group an unclosed curly bracket, in an array an unclosed round one, joins its
text with the next. -/
namespace TableQuery
open Server Text.Nested

/-! ### Scalars are written as their texts -/

theorem IsWord.needsQuotes_eq_false {cs reserved : List Char} (h : IsWord cs)
    (hreserved : ∀ c ∈ reserved, isWordChar c = false) : Text.Quoted.needsQuotes reserved cs = false := by
  have hplain (c : Char) (hc : c ∈ cs) :
      ¬(reserved.contains c || c == '"' || c == '\\') = true := by
    have hword := h.2 c hc
    have hne (d : Char) (hd : isWordChar d = false) : c ≠ d := by
      rintro rfl
      rw [hword] at hd
      exact nomatch hd
    have hfree : c ∉ reserved := fun hmem => hne c (hreserved c hmem) rfl
    simp [hfree, hne '"' (by decide), hne '\\' (by decide)]
  simp only [Text.Quoted.needsQuotes, Bool.or_eq_false_iff, List.any_eq_false]
  exact ⟨⟨by simpa using h.1, hplain⟩, by simpa using h.isPart.trim_eq⟩

namespace Scalar

/-- No character of a word is reserved, so every scalar is written as its text would be. -/
theorem renderQuoted_eq_write {reserved : List Char} (hreserved : ∀ c ∈ reserved, isWordChar c = false)
    (s : Scalar) : (s.renderQuoted reserved).toList = Text.Quoted.write reserved s.render.toList := by
  rcases renderQuoted_cases reserved s with ⟨-, h⟩ | ⟨hword, h⟩ <;> rw [h]
  exact (Text.Quoted.write_eq_self (hword.needsQuotes_eq_false hreserved)).symm

theorem toList_renderList_eq_written {reserved : List Char}
    (hreserved : ∀ c ∈ reserved, isWordChar c = false) (items : List Scalar) (opening closing : Char) :
    (renderList items opening closing reserved).toList =
      opening :: (written reserved (items.map fun s => s.render.toList) ++ [closing]) := by
  rw [toList_renderList, written, List.map_map]
  simp only [renderQuoted_eq_write hreserved, Function.comp_def]

end Scalar

/-! ### Reading -/

/-- The texts of a list between commas, quotes taken off. -/
def readList (cs : List Char) : List String :=
  (split cs).map fun p => String.ofList (Text.Quoted.read (Text.trim p))

theorem written_ne_nil (reserved : List Char) {texts : List (List Char)} (hne : texts ≠ []) :
    written reserved texts ≠ [] := by
  cases texts with
  | nil => exact absurd rfl hne
  | cons t rest =>
    cases rest with
    | nil => simpa [written] using Text.Quoted.write_ne_nil reserved t
    | cons u rest =>
      rw [written_cons_cons]
      exact List.append_ne_nil_of_left_ne_nil (Text.Quoted.write_ne_nil reserved t) _

theorem readList_written_iff {reserved : List Char} (hcomma : ',' ∈ reserved) {texts : List String}
    (hne : texts ≠ []) :
    readList (written reserved (texts.map String.toList)) = texts ↔
      ∀ t ∈ texts.dropLast, IsSealed reserved t.toList := by
  have hne' : texts.map String.toList ≠ [] := by simpa using hne
  have hiff := read_split_written_iff hcomma hne'
  rw [← List.map_dropLast, List.forall_mem_map] at hiff
  rw [← hiff]
  constructor
  · intro h
    have hforth := congrArg (List.map String.toList) h
    rw [readList, List.map_map] at hforth
    simpa [Function.comp_def] using hforth
  · intro h
    have hback := congrArg (List.map String.ofList) h
    rw [List.map_map, List.map_map] at hback
    simpa [readList, Function.comp_def] using hback

theorem parseList?_renderList_iff {reserved : List Char} (hcomma : ',' ∈ reserved)
    (hreserved : ∀ c ∈ reserved, isWordChar c = false) (items : List Scalar) (opening closing : Char) :
    parseList? opening closing (Scalar.renderList items opening closing reserved).toList =
        some (items.map Scalar.render) ↔
      ∀ s ∈ items.dropLast, IsSealed reserved s.render.toList := by
  rw [Scalar.toList_renderList_eq_written hreserved, parseList?, between?_bracketed, Option.map_some]
  cases items with
  | nil => exact ⟨fun _ _ h => (nomatch h), fun _ => rfl⟩
  | cons s rest =>
    have hne : (s :: rest).map Scalar.render ≠ [] := by simp
    have hread := readList_written_iff hcomma hne
    rw [List.map_map, ← List.map_dropLast, List.forall_mem_map] at hread
    rw [if_neg (by simpa using written_ne_nil reserved (by simp)), Option.some_inj]
    exact hread

/-! ### Filters with lists -/

/-- The places in which texts stand between commas. -/
def listPlaces : List (List Char) := [membershipReserved, arrayReserved, groupReserved]

theorem comma_mem_of_mem_listPlaces {reserved : List Char} (h : reserved ∈ listPlaces) :
    ',' ∈ reserved := by
  have hall : ∀ reserved ∈ listPlaces, ',' ∈ reserved := by decide
  exact hall reserved h

theorem isWordChar_of_mem_listPlaces {reserved : List Char} (h : reserved ∈ listPlaces) :
    ∀ c ∈ reserved, isWordChar c = false := by
  have hall : (listPlaces.all fun reserved => reserved.all fun c => !isWordChar c) = true := by decide
  have hreserved := List.all_eq_true.mp (List.all_eq_true.mp hall reserved h)
  exact fun c hc => by simpa using hreserved c hc

theorem Operator.TakesList.mem_listPlaces {op : Operator} {opening closing : Char} {reserved : List Char}
    (h : TakesList op opening closing reserved) : reserved ∈ listPlaces := by
  cases h <;> decide

theorem Operator.TakesList.value_eq {op : Operator} {opening closing : Char} {reserved : List Char}
    (h : TakesList op opening closing reserved) {items : List Scalar} {t : Token}
    (ht : op.encode (.list items) = .ok t) :
    t.value = Scalar.renderList items opening closing reserved := by
  obtain ⟨o, c, r, hop, -, hvalue⟩ := encodeValue_list (encodeValue_of_encode ht).2.2
  cases h <;> cases hop <;> exact hvalue

/-- **What quoting keeps apart.** In each place, the written texts come apart into as many parts as there
are texts, and read back as the texts, exactly if every text but the last is sealed; and so for the value
of every filter with a list. -/
theorem lists_read_back_iff (reserved : List Char) :
    (reserved ∈ listPlaces → ∀ texts : List String, texts ≠ [] →
      ((split (written reserved (texts.map String.toList))).length = texts.length ↔
        ∀ t ∈ texts.dropLast, IsSealed reserved t.toList) ∧
      (readList (written reserved (texts.map String.toList)) = texts ↔
        ∀ t ∈ texts.dropLast, IsSealed reserved t.toList)) ∧
    (∀ (op : Operator) (opening closing : Char), op.TakesList opening closing reserved →
      ∀ (items : List Scalar) (t : Token), op.encode (.list items) = .ok t →
      (parseList? opening closing t.value.toList = some (items.map Scalar.render) ↔
        ∀ s ∈ items.dropLast, IsSealed reserved s.render.toList)) := by
  refine ⟨fun hplace texts hne => ?_, fun op opening closing hop items t ht => ?_⟩
  · have hcomma := comma_mem_of_mem_listPlaces hplace
    have hne' : texts.map String.toList ≠ [] := by simpa using hne
    have hlength := length_split_written_iff hcomma hne'
    rw [List.length_map, ← List.map_dropLast, List.forall_mem_map] at hlength
    exact ⟨hlength, readList_written_iff hcomma hne⟩
  · rw [hop.value_eq ht]
    exact parseList?_renderList_iff (comma_mem_of_mem_listPlaces hop.mem_listPlaces)
      (isWordChar_of_mem_listPlaces hop.mem_listPlaces) items opening closing

/-- Texts with commas, quotes, backslashes and closed brackets, the empty text, and a last text that
leaves a bracket open, as a membership list and as its filter. -/
theorem punctuated_list_reads_back :
    let texts := ["a,b", "\x7bx\x7d", "\\\"", "", " y ", "\x7bz"]
    readList (written membershipReserved (texts.map String.toList)) = texts ∧
      ∃ t, Operator.isIn.encode (.list (texts.map Scalar.text)) = .ok t ∧
        parseList? '(' ')' t.value.toList = some texts := by
  intro texts
  have hsealed : ∀ t ∈ texts.dropLast, IsSealed membershipReserved t.toList := by decide
  obtain ⟨hlist, hfilter⟩ := lists_read_back_iff membershipReserved
  refine ⟨(hlist (by decide) texts (by decide)).2.mpr hsealed, _, rfl, ?_⟩
  exact (hfilter _ _ _ .isIn (texts.map Scalar.text) _ rfl).mpr (by decide)

/-- An unclosed curly bracket joins its text with the next: a membership list of two texts has one. -/
theorem unclosed_bracket_joins_items :
    ∃ t, Operator.isIn.encode (.list [.text "\x7ba", .text "b"]) = .ok t ∧
      parseList? '(' ')' t.value.toList = some ["\x7ba,b"] ∧
      (split (written membershipReserved ["\x7ba".toList, "b".toList])).length ≠ 2 := by
  refine ⟨_, rfl, ?_, by decide⟩
  decide

end TableQuery
