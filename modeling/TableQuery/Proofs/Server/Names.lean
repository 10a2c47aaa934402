import Mathlib.Data.List.Forall2
import TableQuery.Proofs.Identifier
import TableQuery.Proofs.Text.Cut
import TableQuery.Server.Params

/-! Names of parameters.

A parameter for an embedded resource has the keys that lead there before its own name, a dot behind each
(`namePrefix`). The server cuts a name from behind, and a negated junction has a dot of its own. It finds
the path and the name that were meant (`splitKey_prefixed`, `splitKey_negated`), unless a key is itself the
word of a negation. -/
namespace TableQuery

/-- What stands before the names of the parameters for the resource at a path. -/
def namePrefix : List String → String
  | [] => ""
  | k :: ks => k ++ "." ++ namePrefix ks

theorem namePrefix_append (path : List String) (k : String) :
    namePrefix (path ++ [k]) = namePrefix path ++ k ++ "." := by
  induction path with
  | nil => simp [namePrefix]
  | cons first path ih =>
    rw [List.cons_append, namePrefix, namePrefix, ih]
    simp only [String.append_assoc]

/-- A path of keys that are identifiers, none of them the word of a negation. -/
def IsPath (path : List String) : Prop := ∀ k ∈ path, isIdentifier k = true ∧ k ≠ "not"

namespace IsPath
variable {path : List String}

theorem dot_not_mem (h : IsPath path) : ∀ k ∈ path.map String.toList, '.' ∉ k :=
  List.forall_mem_map.mpr fun k hk => not_mem_of_isIdentifier (h k hk).1 (by decide)

theorem append {k : String} (h : IsPath path) (hk : isIdentifier k = true ∧ k ≠ "not") :
    IsPath (path ++ [k]) :=
  List.forall_mem_append.mpr ⟨h, List.forall_mem_singleton.mpr hk⟩

end IsPath

/-- The keys of a path with dots between them. -/
def dotted (path : List String) : String := ".".intercalate path

theorem toList_dotted (path : List String) :
    (dotted path).toList = List.intercalate ['.'] (path.map String.toList) :=
  String.toList_intercalate ..

theorem pieces_dotted {path : List String} (hne : path ≠ []) (h : IsPath path) :
    Text.pieces '.' (dotted path).toList = path.map String.toList := by
  rw [toList_dotted]
  exact Text.pieces_intercalate (by simpa using hne) h.dot_not_mem

theorem dotted_ne_empty {path : List String} (hne : path ≠ []) (h : IsPath path) : dotted path ≠ "" := by
  intro heq
  obtain ⟨k, rest, rfl⟩ := List.exists_cons_of_ne_nil hne
  have hpieces := pieces_dotted hne h
  rw [heq] at hpieces
  have hk : [] = k.toList := (List.cons.inj hpieces).1
  exact ne_nil_of_isIdentifierText (h k List.mem_cons_self).1 hk.symm

/-- Paths with the same text are the same. -/
theorem dotted_inj {a b : List String} (ha : IsPath a) (hb : IsPath b) (h : dotted a = dotted b) : a = b := by
  by_cases hroot : a = []
  · subst hroot
    by_cases hb' : b = []
    · exact hb'.symm
    · exact absurd h.symm (dotted_ne_empty hb' hb)
  · have hb' : b ≠ [] := by
      rintro rfl
      exact dotted_ne_empty hroot ha h
    have hpieces := pieces_dotted hroot ha
    rw [h, pieces_dotted hb' hb] at hpieces
    exact ((List.map_inj_right fun _ _ => String.toList_inj.mp).mp hpieces).symm

/-- A name behind the prefix of a path is the path's text, a dot and the name. -/
theorem toList_prefixed (path : List String) (last : String) :
    (namePrefix path ++ last).toList = List.intercalate ['.'] (path.map String.toList ++ [last.toList]) := by
  induction path with
  | nil => simp [namePrefix]
  | cons k path ih =>
    have hne : path.map String.toList ++ [last.toList] ≠ [] := by simp
    obtain ⟨t, rest, hrest⟩ := List.exists_cons_of_ne_nil hne
    rw [List.map_cons, List.cons_append, hrest, List.intercalate_cons_cons, ← hrest, ← ih, namePrefix]
    simp

theorem toList_prefixed_of_ne_nil {path : List String} (h : path ≠ []) (last : String) :
    (namePrefix path ++ last).toList = (dotted path).toList ++ '.' :: last.toList := by
  rw [toList_prefixed, toList_dotted, Text.intercalate_concat (by simpa using h)]

namespace Server.Params

/-! ### Cutting a name -/

theorem pathBefore?_eq_some {last key path : List Char} (h : pathBefore? last key = some path) :
    key = last ∨ key = path ++ '.' :: last := by
  unfold pathBefore? at h
  split at h
  · next heq => exact .inl heq
  · obtain ⟨before, hbefore, rfl⟩ := Option.map_eq_some_iff.mp h
    have hkey := congrArg List.reverse (List.isPrefixOf?_eq_some_iff_append_eq.mp hbefore)
    rw [List.reverse_append, List.reverse_reverse, List.reverse_reverse] at hkey
    exact .inr hkey.symm

theorem pathBefore?_append (path last : List Char) : pathBefore? last (path ++ '.' :: last) = some path := by
  have hne : path ++ '.' :: last ≠ last := by
    intro heq
    have hlength := congrArg List.length heq
    rw [List.length_append, List.length_cons] at hlength
    omega
  have hprefix : ('.' :: last).reverse.isPrefixOf? (path ++ '.' :: last).reverse = some path.reverse := by
    rw [List.isPrefixOf?_eq_some_iff_append_eq, List.reverse_append]
  unfold pathBefore?
  rw [if_neg hne, hprefix]
  simp

/-- A text that ends in two words has them for its last two pieces. -/
theorem pieces_of_pathBefore? {negation word key before : List Char} (hnegation : '.' ∉ negation) (hword : '.' ∉ word)
    (h : pathBefore? (negation ++ '.' :: word) key = some before) :
    ∃ front, Text.pieces '.' key = front ++ [negation] ++ [word] := by
  have hwords : Text.pieces '.' (negation ++ '.' :: word) = [negation, word] := by
    rw [Text.pieces_append hnegation, Text.pieces_of_not_mem hword]
  rcases pathBefore?_eq_some h with rfl | rfl
  · exact ⟨[], hwords⟩
  · exact ⟨Text.pieces '.' before, by rw [Text.pieces_append_sep, hwords]; simp⟩

/-- A name behind a path has no negation before it, of which the word would be among the keys. -/
theorem pathBefore?_prefixed {path : List String} {last : String} (hpath : IsPath path) (hlast : '.' ∉ last.toList)
    {word : List Char} (hword : '.' ∉ word) :
    pathBefore? ("not".toList ++ '.' :: word) (namePrefix path ++ last).toList = none := by
  cases hbefore : pathBefore? ("not".toList ++ '.' :: word) (namePrefix path ++ last).toList with
  | none => rfl
  | some before =>
    obtain ⟨front, hends⟩ := pieces_of_pathBefore? (by decide) hword hbefore
    have hpieces : Text.pieces '.' (namePrefix path ++ last).toList = path.map String.toList ++ [last.toList] := by
      rw [toList_prefixed]
      exact Text.pieces_intercalate (by simp)
        (List.forall_mem_append.mpr ⟨hpath.dot_not_mem, List.forall_mem_singleton.mpr hlast⟩)
    have hkeys : path.map String.toList = front ++ ["not".toList] :=
      (List.append_inj' (hpieces.symm.trans hends) rfl).1
    obtain ⟨k, hk, heq⟩ := List.mem_map.mp (show "not".toList ∈ path.map String.toList by rw [hkeys]; simp)
    exact absurd (String.toList_inj.mp heq) (hpath k hk).2

/-- A name that is not behind the word of a negation is what follows the last dot. -/
theorem splitKey_prefixed {path : List String} {last : String} (hpath : IsPath path)
    (hlast : '.' ∉ last.toList) :
    splitKey (namePrefix path ++ last).toList = ((dotted path).toList, last.toList) := by
  unfold splitKey negatedJunctions
  rw [List.findSome?_cons, show "not.or".toList = "not".toList ++ '.' :: "or".toList by decide,
    pathBefore?_prefixed hpath hlast (by decide), List.findSome?_cons,
    show "not.and".toList = "not".toList ++ '.' :: "and".toList by decide,
    pathBefore?_prefixed hpath hlast (by decide)]
  by_cases hroot : path = []
  · subst hroot
    have hcut : Text.cutLast '.' (namePrefix [] ++ last).toList = none :=
      Text.cutLast_of_not_mem (by simpa [namePrefix] using hlast)
    rw [hcut]
    simp [namePrefix, dotted]
  · rw [toList_prefixed_of_ne_nil hroot, Text.cutLast_append hlast]
    rfl

/-- A negated junction stays whole. -/
theorem splitKey_negated (path : List String) (j : Junction) :
    splitKey (namePrefix path ++ ("not." ++ j.name)).toList =
      ((dotted path).toList, ("not." ++ j.name).toList) := by
  by_cases hroot : path = []
  · subst hroot
    cases j <;> decide
  · rw [toList_prefixed_of_ne_nil hroot]
    unfold splitKey negatedJunctions
    cases j with
    | any =>
      rw [List.findSome?_cons, show ("not." ++ Junction.any.name).toList = "not.or".toList by decide,
        pathBefore?_append]
      rfl
    | all =>
      have hother : pathBefore? "not.or".toList ((dotted path).toList ++ '.' :: "not.and".toList) = none := by
        cases hbefore : pathBefore? "not.or".toList ((dotted path).toList ++ '.' :: "not.and".toList) with
        | none => rfl
        | some before =>
          have hlast : ((dotted path).toList ++ '.' :: "not.and".toList).getLast? = some 'r' := by
            rcases pathBefore?_eq_some hbefore with heq | heq <;> rw [heq] <;> simp
          simp at hlast
      rw [List.findSome?_cons, show ("not." ++ Junction.all.name).toList = "not.and".toList by decide, hother,
        List.findSome?_cons, pathBefore?_append]
      rfl

end Server.Params
end TableQuery
