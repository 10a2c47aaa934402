import TableQuery.Proofs.Chained
import TableQuery.Proofs.Relation
import TableQuery.Proofs.Text.Padded

/-! Heads of relations, read and written again.

A head is written in words, an alias, a name and hints, with their marks between them and blanks around each
(`HeadWords.IsWritten`), and whatever is read as a relation is written so (`parse_eq_ok_iff`). Of the hints only the
foreign key and the last word on how to join count. So all spellings of a head are read alike, and the one that the
relation itself has for its head is among them (`parse_respelled`). -/
namespace TableQuery.Relation

/-! ### Hints -/

/-- How a hint says to join, in any letter case, if it says that. -/
def joinHint? (hint : List Char) : Option Join :=
  if equalsIgnoringCase hint "inner" then some .inner
  else if equalsIgnoringCase hint "left" then some .left
  else none

/-- The hints that name a foreign key. -/
def keyHints (hints : List (List Char)) : List (List Char) := hints.filter fun h => (joinHint? h).isNone

/-- What the last hint on how to join says; without one, rows are kept. -/
def lastJoin (hints : List (List Char)) : Join := (hints.filterMap joinHint?).getLast?.getD .left

theorem isIdentifierText_of_joinHint? {hint : List Char} {j : Join} (h : joinHint? hint = some j) :
    isIdentifierText hint = true := by
  unfold joinHint? at h
  split at h
  · next hinner => exact isIdentifierText_of_map_toLower (by decide) (by decide) (eq_of_beq hinner)
  split at h
  · next hleft => exact isIdentifierText_of_map_toLower (by decide) (by decide) (eq_of_beq hleft)
  · exact nomatch h

/-- Hints are identifiers where those are that name a foreign key. -/
theorem isIdentifierText_of_keyHints {hints : List (List Char)}
    (h : ∀ k ∈ keyHints hints, isIdentifierText k = true) : ∀ hint ∈ hints, isIdentifierText hint = true := by
  intro hint hmem
  cases hj : joinHint? hint with
  | some j => exact isIdentifierText_of_joinHint? hj
  | none => exact h hint (List.mem_filter.mpr ⟨hmem, by rw [hj]; rfl⟩)

theorem readHints_cons (shown : String) (h : List Char) (hs : List (List Char)) (e : Embedding) :
    readHints shown (h :: hs) e =
      match joinHint? (Text.trim h) with
      | some j => readHints shown hs { e with join := j }
      | none =>
        if isIdentifierText (Text.trim h) && e.hint?.isNone then
          readHints shown hs { e with hint? := some (String.ofList (Text.trim h)) }
        else .error (.unexpectedHint (String.ofList (Text.trim h)) shown) := by
  rw [readHints]
  unfold joinHint?
  split
  · rfl
  split <;> rfl

theorem keyHints_cons_of_some {h : List Char} {j : Join} (hj : joinHint? h = some j) (hs : List (List Char)) :
    keyHints (h :: hs) = keyHints hs := by
  simp [keyHints, hj]

theorem keyHints_cons_of_none {h : List Char} (hj : joinHint? h = none) (hs : List (List Char)) :
    keyHints (h :: hs) = h :: keyHints hs := by
  simp [keyHints, hj]

/-- Hints are read if at most one of them names a foreign key, and none where there is one already. -/
theorem readHints_eq_ok_iff {shown : String} {hints : List (List Char)} {e e' : Embedding} :
    readHints shown hints e = .ok e' ↔
      (∀ k ∈ keyHints (hints.map Text.trim), isIdentifierText k = true) ∧
        e.hint?.toList.length + (keyHints (hints.map Text.trim)).length ≤ 1 ∧
        e' = { e with
          join := ((hints.map Text.trim).filterMap joinHint?).getLast?.getD e.join
          hint? := e.hint?.or ((keyHints (hints.map Text.trim)).head?.map String.ofList) } := by
  induction hints generalizing e with
  | nil =>
    have hone : e.hint?.toList.length ≤ 1 := by cases e.hint? <;> simp
    have hsame : ({ e with join := e.join, hint? := e.hint?.or none } : Embedding) = e := by rw [Option.or_none]
    show Except.ok e = .ok e' ↔ (∀ k ∈ [], _) ∧ _ ≤ 1 ∧ e' = { e with join := e.join, hint? := e.hint?.or none }
    rw [hsame, Except.ok.injEq]
    exact ⟨fun h => ⟨fun _ hk => (nomatch hk), hone, h.symm⟩, fun h => h.2.2.symm⟩
  | cons h hs ih =>
    rw [readHints_cons, List.map_cons]
    cases hj : joinHint? (Text.trim h) with
    | some j =>
      rw [keyHints_cons_of_some hj, List.filterMap_cons_some hj, List.getLast?_cons]
      exact ih
    | none =>
      rw [keyHints_cons_of_none hj, List.filterMap_cons_none hj, List.forall_mem_cons]
      dsimp only
      split
      · next hfree =>
        obtain ⟨hid, hnone⟩ := Bool.and_eq_true_iff.mp hfree
        have hnone := Option.isNone_iff_eq_none.mp hnone
        have hlength (n : Nat) : e.hint?.toList.length + (n + 1) ≤ 1 ↔ 1 + n ≤ 1 := by
          rw [hnone]
          show 0 + (n + 1) ≤ 1 ↔ 1 + n ≤ 1
          omega
        rw [ih, List.length_cons, hlength, hnone, and_iff_right hid]
        exact Iff.rfl
      · next htaken =>
        refine iff_of_false (fun h => nomatch h) ?_
        rintro ⟨⟨hid, -⟩, hone, -⟩
        cases hhint : e.hint? with
        | none => simp [hid, hhint] at htaken
        | some k =>
          rw [hhint, Option.toList_some, List.length_singleton, List.length_cons] at hone
          omega

/-! ### Words -/

/-- What a head is written with. -/
structure HeadWords where
  alias? : Option (List Char)
  name : List Char
  hints : List (List Char)
  isIdentifier : ∀ w ∈ alias?.toList ++ name :: hints, isIdentifierText w = true

namespace HeadWords

/-- The text `alias:name!hint!…` in these words, with blanks around each. -/
def IsWritten (w : HeadWords) (raw : List Char) : Prop :=
  ∃ alias? texts, Option.Rel Text.IsPadded w.alias? alias? ∧ List.Forall₂ Text.IsPadded (w.name :: w.hints) texts ∧
    raw = (alias?.map (· ++ [':'])).getD [] ++ List.intercalate ['!'] texts

/-- The relation that a head in these words declares. -/
def relation (w : HeadWords) : Relation :=
  .node { Embedding.ofName (String.ofList w.name) with
    alias? := w.alias?.map String.ofList
    join := lastJoin w.hints
    hint? := (keyHints w.hints).head?.map String.ofList } []

end HeadWords

/-- The words of a text: what stands before the first colon, if there is one, and what stands between the exclamation
marks behind it. -/
def wordsOf (cs : List Char) : Option (List Char) × List (List Char) :=
  match Text.cutTrimmed ':' cs with
  | some (a, rest) => (some a, Text.piecesTrimmed '!' rest)
  | none => (none, Text.piecesTrimmed '!' cs)

theorem wordsOf_of_not_mem {cs : List Char} (h : ':' ∉ cs) : wordsOf cs = (none, Text.piecesTrimmed '!' cs) := by
  rw [wordsOf, Text.cutTrimmed, Text.cut_of_not_mem h]
  rfl

theorem wordsOf_append {a : List Char} (h : ':' ∉ a) (rest : List Char) :
    wordsOf (a ++ ':' :: rest) = (some (Text.trim a), Text.piecesTrimmed '!' rest) := by
  rw [wordsOf, Text.cutTrimmed, Text.cut_append h,
    Text.piecesTrimmed_of_isPadded (by decide) (Text.isPadded_trim rest)]
  rfl

/-- A text is cut at its first colon, if it has one. -/
theorem exists_wordsOf_eq (cs : List Char) :
    ∃ (alias? : Option (List Char)) (rest : List Char), cs = (alias?.map (· ++ [':'])).getD [] ++ rest ∧
      wordsOf cs = (alias?.map Text.trim, Text.piecesTrimmed '!' rest) := by
  by_cases hcolon : ':' ∈ cs
  · obtain ⟨a, rest, rfl, ha⟩ := List.eq_append_cons_of_mem hcolon
    exact ⟨some a, rest, by simp, wordsOf_append ha rest⟩
  · exact ⟨none, cs, rfl, wordsOf_of_not_mem hcolon⟩

theorem wordsOf_trim (cs : List Char) : wordsOf (Text.trim cs) = wordsOf cs := by
  have hpadded := Text.isPadded_trim cs
  unfold wordsOf
  rw [Text.cutTrimmed_of_isPadded (by decide) hpadded, Text.piecesTrimmed_of_isPadded (by decide) hpadded]

namespace HeadWords
variable {w : HeadWords}

theorem isTrimmed_of_mem {word : List Char} (h : word ∈ w.alias?.toList ++ w.name :: w.hints) : Text.IsTrimmed word :=
  Text.isTrimmed_of_isIdentifierText (w.isIdentifier word h)

/-- A mark that is neither a blank nor part of an identifier is not in a word with blanks around it. -/
theorem mark_not_mem {sep : Char} (hblank : Text.isBlank sep = false) (hpart : isIdentifierPart sep = false)
    {word t : List Char} (hword : word ∈ w.alias?.toList ++ w.name :: w.hints) (h : Text.IsPadded word t) :
    sep ∉ t := by
  obtain ⟨before, after, hbefore, hafter, rfl⟩ := h
  have hmem : sep ∉ word := fun hmem =>
    ne_of_isIdentifierPart (all_isIdentifierPart (w.isIdentifier word hword) sep hmem) hpart rfl
  simp [hmem, Text.not_mem_of_blanks hblank hbefore, Text.not_mem_of_blanks hblank hafter]

theorem isTrimmed_texts (w : HeadWords) : ∀ word ∈ w.name :: w.hints, Text.IsTrimmed word := fun _ hword =>
  isTrimmed_of_mem (List.mem_append_right _ hword)

theorem wordsOf_of_isWritten {raw : List Char} (h : w.IsWritten raw) :
    wordsOf raw = (w.alias?, w.name :: w.hints) := by
  obtain ⟨alias?, texts, halias, htexts, rfl⟩ := h
  have hwords := (Text.forall₂_isPadded_iff w.isTrimmed_texts).mp htexts
  have hne : texts ≠ [] := by
    rintro rfl
    exact nomatch hwords
  have hmark {sep : Char} (hblank : Text.isBlank sep = false) (hpart : isIdentifierPart sep = false) :
      ∀ t ∈ texts, sep ∉ t := fun t ht =>
    mark_not_mem hblank hpart (List.mem_append_right _ (hwords ▸ List.mem_map_of_mem ht)) (Text.isPadded_trim t)
  have hpieces : Text.piecesTrimmed '!' (List.intercalate ['!'] texts) = w.name :: w.hints := by
    rw [Text.piecesTrimmed, Text.pieces_intercalate hne (hmark (by decide) (by decide)), hwords]
  generalize halias? : w.alias? = wordAlias? at halias
  cases halias with
  | none =>
    show wordsOf (List.intercalate ['!'] texts) = _
    rw [wordsOf_of_not_mem (Text.not_mem_intercalate (by decide) (hmark (by decide) (by decide))), hpieces]
  | @some a t hpadded =>
    have hword : a ∈ w.alias?.toList ++ w.name :: w.hints := by simp [halias?]
    show wordsOf (t ++ [':'] ++ List.intercalate ['!'] texts) = _
    rw [List.append_assoc, List.singleton_append, wordsOf_append (mark_not_mem (by decide) (by decide) hword hpadded),
      (Text.trim_eq_iff (isTrimmed_of_mem hword)).mpr hpadded, hpieces]

theorem isWritten_of_wordsOf {raw : List Char} (h : wordsOf raw = (w.alias?, w.name :: w.hints)) :
    w.IsWritten raw := by
  obtain ⟨alias?, rest, hraw, hcut⟩ := exists_wordsOf_eq raw
  obtain ⟨halias, hwords⟩ := Prod.mk.inj (hcut.symm.trans h)
  refine ⟨alias?, Text.pieces '!' rest, ?_, (Text.forall₂_isPadded_iff w.isTrimmed_texts).mpr hwords, ?_⟩
  · rw [← halias]
    cases alias? with
    | none => exact .none
    | some a => exact .some (Text.isPadded_trim a)
  · rwa [Text.intercalate_pieces]

/-- A text is written in the words that are found in it. -/
theorem isWritten_iff {raw : List Char} : w.IsWritten raw ↔ wordsOf raw = (w.alias?, w.name :: w.hints) :=
  ⟨wordsOf_of_isWritten, isWritten_of_wordsOf⟩

end HeadWords

/-- What is read of a name, an alias and hints that a text was cut into. -/
theorem exists_parse_eq (raw : String) :
    ∃ (alias? : Option (List Char)) (name : List Char) (hints : List (List Char)),
      wordsOf raw.toList = (alias?, (name :: hints).map Text.trim) ∧
      parse raw =
        (let shown := String.ofList (Text.trim raw.toList)
         if !isIdentifierText (Text.trim name) then .error (.invalidRelationName shown)
         else if alias?.any fun a => !isIdentifierText a then .error (.invalidRelationAlias shown)
         else
           (readHints shown hints
             { Embedding.ofName (String.ofList (Text.trim name)) with alias? := alias?.map String.ofList }).map
             fun e => .node e []) := by
  unfold parse
  dsimp only
  rw [← wordsOf_trim]
  by_cases hcolon : ':' ∈ Text.trim raw.toList
  · obtain ⟨a, rest, hraw, ha⟩ := List.eq_append_cons_of_mem hcolon
    obtain ⟨name, hints, hpieces⟩ := List.exists_cons_of_ne_nil (Text.pieces_ne_nil '!' (Text.trim rest))
    rw [hraw, wordsOf_append ha, Text.cut_append ha,
      Text.piecesTrimmed_of_isPadded (by decide) (Text.isPadded_trim rest), Text.piecesTrimmed, hpieces]
    exact ⟨some (Text.trim a), name, hints, rfl, rfl⟩
  · obtain ⟨name, hints, hpieces⟩ := List.exists_cons_of_ne_nil (Text.pieces_ne_nil '!' (Text.trim raw.toList))
    rw [wordsOf_of_not_mem hcolon, Text.cut_of_not_mem hcolon, Text.piecesTrimmed, hpieces]
    exact ⟨none, name, hints, rfl, rfl⟩

/-- What is written in words is read as the relation they declare, where at most one of them is a foreign key. -/
theorem parse_of_isWritten {raw : String} {w : HeadWords} (hw : w.IsWritten raw.toList)
    (hone : (keyHints w.hints).length ≤ 1) : parse raw = .ok w.relation := by
  obtain ⟨alias?, name, hints, hwords, hparse⟩ := exists_parse_eq raw
  obtain ⟨halias, hlist⟩ := Prod.mk.inj (hwords.symm.trans (HeadWords.isWritten_iff.mp hw))
  obtain ⟨hname, hhints⟩ := List.cons.inj hlist
  subst halias
  have hisName : ¬(!isIdentifierText (Text.trim name)) = true := by
    simp [hname, w.isIdentifier w.name (by simp)]
  have hisAlias : ¬w.alias?.any (fun a => !isIdentifierText a) = true := by
    cases ha : w.alias? with
    | none => exact Bool.false_ne_true
    | some a => simp [w.isIdentifier a (by simp [ha])]
  have hkeys : ∀ k ∈ keyHints w.hints, isIdentifierText k = true := fun k hk =>
    w.isIdentifier k (by simp [List.mem_of_mem_filter hk])
  dsimp only at hparse
  rw [hparse, if_neg hisName, if_neg hisAlias]
  refine Chained.map_eq_ok.mpr ⟨_, readHints_eq_ok_iff.mpr ⟨by rwa [hhints], ?_, rfl⟩, ?_⟩
  · rw [hhints]
    simpa [Embedding.ofName] using hone
  · rw [hhints, hname]
    rfl

/-- **A relation is read from what is written in words**, of which at most one is a foreign key, and from nothing
else. -/
theorem parse_eq_ok_iff {raw : String} {r : Relation} :
    parse raw = .ok r ↔
      ∃ w : HeadWords, w.IsWritten raw.toList ∧ (keyHints w.hints).length ≤ 1 ∧ w.relation = r := by
  constructor
  · intro h
    obtain ⟨alias?, name, hints, hwords, hparse⟩ := exists_parse_eq raw
    dsimp only at hparse
    rw [hparse] at h
    split at h
    · exact nomatch h
    next hname =>
    split at h
    · exact nomatch h
    next halias =>
    obtain ⟨e, he, rfl⟩ := Chained.map_eq_ok.mp h
    obtain ⟨hkeys, hone, rfl⟩ := readHints_eq_ok_iff.mp he
    have hall : ∀ word ∈ alias?.toList ++ (name :: hints).map Text.trim, isIdentifierText word = true := by
      rw [List.map_cons, List.forall_mem_append, List.forall_mem_cons]
      refine ⟨fun a ha => ?_, by simpa using hname, isIdentifierText_of_keyHints hkeys⟩
      rw [Option.mem_toList.mp ha] at halias
      simpa using halias
    exact ⟨⟨alias?, Text.trim name, hints.map Text.trim, hall⟩, HeadWords.isWritten_iff.mpr hwords,
      by simpa [Embedding.ofName] using hone, rfl⟩
  · rintro ⟨w, hw, hone, rfl⟩
    exact parse_of_isWritten hw hone

/-! ### Spellings -/

namespace HeadWords
variable {w w' : HeadWords}

theorem IsWritten.eq {raw : List Char} (h : w.IsWritten raw) (h' : w'.IsWritten raw) : w = w' := by
  obtain ⟨halias, hlist⟩ := Prod.mk.inj ((isWritten_iff.mp h).symm.trans (isWritten_iff.mp h'))
  obtain ⟨hname, hhints⟩ := List.cons.inj hlist
  cases w
  cases w'
  subst halias hname hhints
  rfl

/-- The same alias and name, the same foreign keys, and the same last word on how to join. -/
structure IsAlike (w w' : HeadWords) : Prop where
  alias? : w'.alias? = w.alias?
  name : w'.name = w.name
  keyHints : keyHints w'.hints = keyHints w.hints
  lastJoin : lastJoin w'.hints = lastJoin w.hints

theorem IsAlike.relation (h : w.IsAlike w') : w'.relation = w.relation := by
  unfold HeadWords.relation
  rw [h.alias?, h.name, h.keyHints, h.lastJoin]

/-- The words of the head that the relation has itself. -/
def canonical (w : HeadWords) : HeadWords where
  alias? := w.alias?
  name := w.name
  hints := keyHints w.hints ++ if lastJoin w.hints = .inner then ["inner".toList] else []
  isIdentifier := by
    have hall := w.isIdentifier
    rw [List.forall_mem_append, List.forall_mem_cons] at hall ⊢
    refine ⟨hall.1, hall.2.1, List.forall_mem_append.mpr ⟨fun k hk => hall.2.2 k (List.mem_of_mem_filter hk), ?_⟩⟩
    split
    · decide
    · exact fun k hk => nomatch hk

theorem isAlike_canonical (w : HeadWords) : w.IsAlike w.canonical where
  alias? := rfl
  name := rfl
  keyHints := by
    have hinner : Relation.keyHints (if Relation.lastJoin w.hints = .inner then ["inner".toList] else []) = [] := by
      split
      · decide
      · rfl
    show Relation.keyHints (Relation.keyHints w.hints ++ _) = _
    unfold Relation.keyHints at hinner ⊢
    rw [List.filter_append, hinner, List.append_nil, List.filter_filter]
    simp
  lastJoin := by
    have hkeys : (Relation.keyHints w.hints).filterMap joinHint? = [] := by
      rw [List.filterMap_eq_nil_iff]
      intro k hk
      exact Option.isNone_iff_eq_none.mp (List.mem_filter.mp hk).2
    show ((Relation.keyHints w.hints ++ _).filterMap joinHint?).getLast?.getD .left = _
    rw [List.filterMap_append, hkeys, List.nil_append]
    cases Relation.lastJoin w.hints with
    | inner => decide
    | left => rfl

/-- Where at most one foreign key is named, the words are written in the relation's own head, with no blanks. -/
theorem isWritten_head (hone : (Relation.keyHints w.hints).length ≤ 1) :
    w.canonical.IsWritten w.relation.embedding.head.toList := by
  have hhints : w.relation.embedding.hints.map String.toList = w.canonical.hints := by
    unfold Embedding.hints canonical HeadWords.relation Relation.embedding
    dsimp only
    rw [List.map_append]
    congr 1
    · generalize Relation.keyHints w.hints = keys at hone
      cases keys with
      | nil => rfl
      | cons k keys =>
        obtain rfl : keys = [] := List.eq_nil_of_length_eq_zero (by simpa using hone)
        simp
    · split <;> rfl
  refine ⟨w.canonical.alias?, w.canonical.name :: w.canonical.hints, ?_, List.forall₂_same.mpr fun t _ => .refl t, ?_⟩
  · cases w.canonical.alias? with
    | none => exact .none
    | some a => exact .some (.refl a)
  · have hname : w.relation.embedding.name.toList = w.name := String.toList_ofList
    have halias : w.relation.embedding.aliasText = (w.alias?.map (· ++ [':'])).getD [] := by
      unfold Embedding.aliasText HeadWords.relation Relation.embedding
      cases w.alias? with
      | none => rfl
      | some a => simp
    rw [Embedding.toList_head, Embedding.nameText, hhints, hname, halias]
    rfl

end HeadWords

/-- Two texts of one head: blanks aside, their words are the same but for the hints on how to join, of which the last
says the same. -/
def IsRespelled (raw raw' : List Char) : Prop :=
  ∃ w w' : HeadWords, w.IsWritten raw ∧ w'.IsWritten raw' ∧ w.IsAlike w'

/-- **Every text of a head is read as the same relation**, and the relation's own head is one of these texts: it
leaves out blanks, says in small letters and once, behind the foreign key, that the join is an inner one, and says
nothing of one that keeps all rows. -/
theorem parse_respelled {raw : String} {r : Relation} (h : parse raw = .ok r) :
    parse r.embedding.head = .ok r ∧ IsRespelled raw.toList r.embedding.head.toList ∧
      ∀ raw' : String, IsRespelled raw.toList raw'.toList → parse raw' = .ok r := by
  obtain ⟨w, hw, hone, rfl⟩ := parse_eq_ok_iff.mp h
  have hrespelled (raw' : String) (h' : IsRespelled raw.toList raw'.toList) : parse raw' = .ok w.relation := by
    obtain ⟨v, w', hv, hw', halike⟩ := h'
    obtain rfl := hv.eq hw
    exact parse_eq_ok_iff.mpr ⟨w', hw', by rwa [halike.keyHints], halike.relation⟩
  have hhead : IsRespelled raw.toList w.relation.embedding.head.toList :=
    ⟨w, w.canonical, hw, HeadWords.isWritten_head hone, w.isAlike_canonical⟩
  exact ⟨hrespelled _ hhead, hhead, hrespelled⟩

/-- A head with blanks, capitals and two words on how to join, and one with the same foreign key between two others. -/
theorem parse_author_respelled :
    parse " author : users !LEFT! fk !Inner" = .ok (.node
      { Embedding.ofName "users" with alias? := some "author", join := .inner, hint? := some "fk" } []) ∧
    parse "author:users!fk!inner" = parse " author : users !LEFT! fk !Inner" ∧
    IsRespelled " author : users !LEFT! fk !Inner".toList "author:users!inner!fk!INNER".toList ∧
    parse "author:users!inner!fk!INNER" = parse " author : users !LEFT! fk !Inner" :=
  have hparse : parse " author : users !LEFT! fk !Inner" = .ok (.node
      { Embedding.ofName "users" with alias? := some "author", join := .inner, hint? := some "fk" } []) := rfl
  have hall := parse_respelled hparse
  have hrespelled : IsRespelled " author : users !LEFT! fk !Inner".toList "author:users!inner!fk!INNER".toList :=
    ⟨⟨some "author".toList, "users".toList, ["LEFT".toList, "fk".toList, "Inner".toList], by decide⟩,
      ⟨some "author".toList, "users".toList, ["inner".toList, "fk".toList, "INNER".toList], by decide⟩,
      HeadWords.isWritten_iff.mpr (by decide +kernel), HeadWords.isWritten_iff.mpr (by decide +kernel),
      ⟨rfl, rfl, by decide +kernel, by decide +kernel⟩⟩
  ⟨hparse, hall.1.trans hparse.symm, hrespelled, (hall.2.2 _ hrespelled).trans hparse.symm⟩

end TableQuery.Relation
