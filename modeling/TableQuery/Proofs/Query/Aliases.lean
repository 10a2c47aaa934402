import TableQuery.Proofs.Text.Padded
import TableQuery.Select

/-! Aliases of select items, in either spelling.

An expression that keeps its blanks and its single colons inside brackets (`IsExpression`) shows neither the
keyword nor the mark of an alias to what looks for them: the search goes past it, and what is found is found behind it
(`lastAs_append`, `aliasColon_append`). So `expression AS alias` and `alias:expression` are cut where they were put
together (`splitAlias_keyword`, `splitAlias_colon`), and both are read as the item that the expression is read as, with
the alias (`parse_aliased`). -/
namespace TableQuery.SelectItem

/-- What may follow inside so many brackets in an expression: no quote, every bracket is closed and none is closed that
was not opened, blanks stand inside brackets only, and outside of them colons come in pairs. -/
inductive IsExpression : Nat → List Char → Prop where
  | nil : IsExpression 0 []
  | opening {depth : Nat} {cs : List Char} (rest : IsExpression (depth + 1) cs) : IsExpression depth ('(' :: cs)
  | closing {depth : Nat} {cs : List Char} (rest : IsExpression depth cs) : IsExpression (depth + 1) (')' :: cs)
  | inside {depth : Nat} {c : Char} {cs : List Char} (plain : c ∉ ['"', '(', ')'])
      (rest : IsExpression (depth + 1) cs) : IsExpression (depth + 1) (c :: cs)
  | outside {c : Char} {cs : List Char} (plain : c ∉ ['"', '(', ')']) (notBlank : Text.isBlank c = false)
      (notColon : c ≠ ':') (rest : IsExpression 0 cs) : IsExpression 0 (c :: cs)
  | cast {cs : List Char} (rest : IsExpression 0 cs) : IsExpression 0 (':' :: ':' :: cs)

/-! ### Steps of the two searches -/

section
variable {depth : Int} {c : Char} {cs : List Char}

theorem ne_quote_of_plain (h : c ∉ ['"', '(', ')']) : c ≠ '"' := fun hc => h (by simp [hc])

theorem plain_of_isBlank (h : Text.isBlank c = true) : c ∉ ['"', '(', ')'] := by
  intro hc
  simp only [List.mem_cons, List.not_mem_nil, or_false] at hc
  rcases hc with rfl | rfl | rfl <;> exact absurd h (by decide)

theorem nest_of_plain (depth : Int) (h : c ∉ ['"', '(', ')']) : nest depth c = depth := by
  have hopen : c ≠ '(' := fun hc => h (by simp [hc])
  have hclose : c ≠ ')' := fun hc => h (by simp [hc])
  rw [nest, if_neg hopen, if_neg hclose]

/-- The keyword stands in front, with a blank and something more behind it. -/
def StartsAs (cs : List Char) : Prop :=
  ∃ a s b d rest, cs = a :: s :: b :: d :: rest ∧ isAsciiLetter a 'a' = true ∧ isAsciiLetter s 's' = true ∧
    Text.isAsciiBlank b = true

/-- A character is passed over unless it is the blank before a keyword outside brackets. -/
theorem lastAs_cons (hc : c ≠ '"') (h : depth = 0 → Text.isAsciiBlank c = true → ¬StartsAs cs) :
    lastAs depth false (c :: cs) = (lastAs (nest depth c) false cs).map fun r => (c :: r.1, r.2) := by
  conv_lhs => unfold lastAs
  simp only [Bool.false_eq_true, if_false, if_neg hc, Bool.not_false, true_and]
  cases lastAs (nest depth c) false cs with
  | some r => rfl
  | none =>
    dsimp only [Option.map_none]
    split
    · next hblank =>
      have hstart := h hblank.1 hblank.2
      split
      · next a s b d rest =>
        rw [if_neg]
        intro hall
        obtain ⟨⟨ha, hs⟩, hb⟩ : (isAsciiLetter a 'a' = true ∧ isAsciiLetter s 's' = true) ∧ _ := by
          simpa only [Bool.and_eq_true] using hall
        exact hstart ⟨a, s, b, d, rest, rfl, ha, hs, hb⟩
      · rfl
    · rfl

theorem lastAs_cons_of_not_isBlank (hc : c ≠ '"') (hblank : Text.isBlank c = false) :
    lastAs depth false (c :: cs) = (lastAs (nest depth c) false cs).map fun r => (c :: r.1, r.2) := by
  refine lastAs_cons hc fun _ hascii => ?_
  rw [Text.isBlank_of_isAsciiBlank hascii] at hblank
  exact nomatch hblank

/-- The blank before the last keyword ends the first text, and the one behind it starts the second. -/
theorem lastAs_keyword {a s b d : Char} {rest : List Char} (hc : Text.isAsciiBlank c = true)
    (ha : isAsciiLetter a 'a' = true) (hs : isAsciiLetter s 's' = true) (hb : Text.isAsciiBlank b = true)
    (h : lastAs 0 false (a :: s :: b :: d :: rest) = none) :
    lastAs 0 false (c :: a :: s :: b :: d :: rest) = some ([], b :: d :: rest) := by
  have plain := plain_of_isBlank (Text.isBlank_of_isAsciiBlank hc)
  conv_lhs => unfold lastAs
  simp only [Bool.false_eq_true, if_false, if_neg (ne_quote_of_plain plain), nest_of_plain _ plain, h, hc, ha, hs, hb,
    Bool.not_false, and_self, Bool.and_self, if_true]

theorem aliasColon_cons (h : ¬(c = ':' ∧ depth = 0)) :
    aliasColon depth (c :: cs) = (aliasColon (nest depth c) cs).map fun r => (c :: r.1, r.2) := by
  cases cs with
  | nil => exact if_neg h
  | cons d cs => rw [aliasColon, if_neg h]

theorem aliasColon_cast (cs : List Char) :
    aliasColon 0 (':' :: ':' :: cs) = (aliasColon 0 cs).map fun r => (':' :: ':' :: r.1, r.2) := rfl

/-- The text is cut at a single colon. -/
theorem aliasColon_colon (h : cs.head? ≠ some ':') : aliasColon 0 (':' :: cs) = some ([], cs) := by
  cases cs with
  | nil => rfl
  | cons d cs =>
    have hd : d ≠ ':' := fun hd => h (congrArg some hd)
    rw [aliasColon, if_pos ⟨rfl, rfl⟩, if_neg hd]

end

/-! ### Past an expression -/

theorem nest_opening (depth : Nat) : nest depth '(' = (depth + 1 : Nat) := by
  rw [nest, if_pos rfl]
  rfl

theorem nest_closing (depth : Nat) : nest (depth + 1 : Nat) ')' = depth := by
  rw [nest, if_neg (by decide), if_pos rfl]
  omega

namespace IsExpression
variable {depth : Nat} {cs : List Char}

/-- A keyword is looked for behind an expression. -/
theorem lastAs_append (h : IsExpression depth cs) (rest : List Char) :
    lastAs depth false (cs ++ rest) = (lastAs 0 false rest).map fun r => (cs ++ r.1, r.2) := by
  -- Induction on the expression: none of its characters is a blank outside brackets.
  induction h with
  | nil => simp
  | opening _ ih =>
    rw [List.cons_append, lastAs_cons_of_not_isBlank (by decide) (by decide), nest_opening, ih]
    simp [Function.comp_def]
  | closing _ ih =>
    rw [List.cons_append, lastAs_cons_of_not_isBlank (by decide) (by decide), nest_closing, ih]
    simp [Function.comp_def]
  | inside plain _ ih =>
    rw [List.cons_append, lastAs_cons (ne_quote_of_plain plain) (fun hdepth => by omega), nest_of_plain _ plain, ih]
    simp [Function.comp_def]
  | outside plain notBlank _ _ ih =>
    rw [List.cons_append, lastAs_cons_of_not_isBlank (ne_quote_of_plain plain) notBlank, nest_of_plain _ plain, ih]
    simp [Function.comp_def]
  | cast _ ih =>
    have hcolon : ':' ∉ ['"', '(', ')'] := by decide
    have hrest : lastAs 0 false _ = _ := ih
    rw [List.cons_append, List.cons_append, lastAs_cons_of_not_isBlank (by decide) (by decide), nest_of_plain _ hcolon,
      lastAs_cons_of_not_isBlank (by decide) (by decide), nest_of_plain _ hcolon]
    show Option.map _ (Option.map _ (lastAs 0 false _)) = _
    rw [hrest]
    simp [Function.comp_def]

/-- The mark of an alias is looked for behind an expression. -/
theorem aliasColon_append (h : IsExpression depth cs) (rest : List Char) :
    aliasColon depth (cs ++ rest) = (aliasColon 0 rest).map fun r => (cs ++ r.1, r.2) := by
  induction h with
  | nil => simp
  | opening _ ih =>
    rw [List.cons_append, aliasColon_cons (by simp), nest_opening, ih]
    simp [Function.comp_def]
  | closing _ ih =>
    rw [List.cons_append, aliasColon_cons (by simp), nest_closing, ih]
    simp [Function.comp_def]
  | inside plain _ ih =>
    rw [List.cons_append, aliasColon_cons (by omega), nest_of_plain _ plain, ih]
    simp [Function.comp_def]
  | outside plain _ notColon _ ih =>
    rw [List.cons_append, aliasColon_cons (by simp [notColon]), nest_of_plain _ plain, ih]
    simp [Function.comp_def]
  | cast _ ih =>
    have hrest : aliasColon 0 _ = _ := ih
    show aliasColon 0 (':' :: ':' :: (_ ++ rest)) = _
    rw [aliasColon_cast, hrest]
    simp [Function.comp_def]

theorem lastAs_eq_none (h : IsExpression 0 cs) : lastAs 0 false cs = none := by
  have hall := h.lastAs_append []
  rwa [List.append_nil] at hall

theorem aliasColon_eq_none (h : IsExpression 0 cs) : aliasColon 0 cs = none := by
  have hall := h.aliasColon_append []
  rwa [List.append_nil] at hall

/-- An expression does not end in a blank, as its last bracket would be open. -/
theorem last (h : IsExpression depth cs) {c : Char} (hc : cs.getLast? = some c) : Text.isBlank c = false := by
  induction h with
  | nil => exact nomatch hc
  | opening rest ih =>
    refine ih (?_ : List.getLast? _ = some c)
    cases rest <;> exact hc
  | @closing _ cs _ ih =>
    cases cs with
    | nil =>
      obtain rfl := Option.some.inj hc
      decide
    | cons d cs => exact ih hc
  | inside _ rest ih => cases rest <;> exact ih hc
  | @outside _ cs _ notBlank _ _ ih =>
    cases cs with
    | nil =>
      obtain rfl := Option.some.inj hc
      exact notBlank
    | cons d cs => exact ih hc
  | @cast cs _ ih =>
    cases cs with
    | nil =>
      obtain rfl := Option.some.inj hc
      decide
    | cons d cs => exact ih hc

theorem first (h : IsExpression 0 cs) {c : Char} (hc : cs.head? = some c) : Text.isBlank c = false := by
  cases h with
  | nil => exact nomatch hc
  | opening _ =>
    obtain rfl := Option.some.inj hc
    decide
  | outside _ notBlank _ _ =>
    obtain rfl := Option.some.inj hc
    exact notBlank
  | cast _ =>
    obtain rfl := Option.some.inj hc
    decide

theorem isTrimmed (h : IsExpression 0 cs) : Text.IsTrimmed cs :=
  Text.isTrimmed_of_ends (fun _ => h.first) fun _ => h.last

theorem tail {c : Char} (h : IsExpression 0 (c :: cs)) (hc : isIdentifierPart c = true) : IsExpression 0 cs := by
  cases h with
  | opening _ => exact absurd hc (by decide)
  | outside _ _ _ rest => exact rest
  | cast _ => exact absurd hc (by decide)

end IsExpression

/-! ### Blanks and words -/

section
variable {cs : List Char} {c : Char}

theorem isIdentifierPart_of_isAsciiLetter {letter : Char} (hletter : letter.isLower = true)
    (h : isAsciiLetter c letter = true) : isIdentifierPart c = true := by
  have hlower : c.toLower = letter := eq_of_beq h
  have hall := isLetter_of_isLower_toLower (c := c) (hlower ▸ hletter)
  unfold isIdentifierPart
  rw [hall]
  rfl

theorem not_startsAs_cons (hc : isIdentifierPart c = false) : ¬StartsAs (c :: cs) := by
  rintro ⟨a, s, b, d, rest, heq, ha, -⟩
  rw [(List.cons.inj heq).1, isIdentifierPart_of_isAsciiLetter (by decide) ha] at hc
  exact nomatch hc

/-- No expression starts with a keyword and a blank. -/
theorem IsExpression.not_startsAs (h : IsExpression 0 cs) : ¬StartsAs cs := by
  rintro ⟨a, s, b, d, rest, rfl, ha, hs, hb⟩
  have hrest := (h.tail (isIdentifierPart_of_isAsciiLetter (by decide) ha)).tail
    (isIdentifierPart_of_isAsciiLetter (by decide) hs)
  have hblank := hrest.first rfl
  rw [Text.isBlank_of_isAsciiBlank hb] at hblank
  exact nomatch hblank

theorem isExpression_of_isIdentifierText (h : isIdentifierText cs = true) : IsExpression 0 cs := by
  have hall := all_isIdentifierPart h
  clear h
  induction cs with
  | nil => exact .nil
  | cons c cs ih =>
    obtain ⟨hc, hcs⟩ := List.forall_mem_cons.mp hall
    refine .outside (fun hmem => ?_) (not_isBlank_of_isIdentifierPart hc) (ne_of_isIdentifierPart hc (by decide))
      (ih hcs)
    simp only [List.mem_cons, List.not_mem_nil, or_false] at hmem
    rcases hmem with rfl | rfl | rfl <;> exact absurd hc (by decide)

/-- Blanks in front of a text that does not start with the keyword are passed over. -/
theorem lastAs_blanks_append {blanks : List Char} (hblanks : ∀ c ∈ blanks, Text.isBlank c = true)
    (h : ¬StartsAs cs) :
    lastAs 0 false (blanks ++ cs) = (lastAs 0 false cs).map fun r => (blanks ++ r.1, r.2) := by
  induction blanks with
  | nil => simp
  | cons c blanks ih =>
    obtain ⟨hc, hrest⟩ := List.forall_mem_cons.mp hblanks
    have plain := plain_of_isBlank hc
    have hstart : ¬StartsAs (blanks ++ cs) := by
      cases blanks with
      | nil => exact h
      | cons b blanks => exact not_startsAs_cons (Text.not_isIdentifierPart_of_isBlank (hrest b List.mem_cons_self))
    rw [List.cons_append, lastAs_cons (ne_quote_of_plain plain) (fun _ _ => hstart), nest_of_plain _ plain, ih hrest]
    simp [Function.comp_def]

theorem aliasColon_blanks_append {blanks : List Char} (hblanks : ∀ c ∈ blanks, Text.isBlank c = true) :
    aliasColon 0 (blanks ++ cs) = (aliasColon 0 cs).map fun r => (blanks ++ r.1, r.2) := by
  induction blanks with
  | nil => simp
  | cons c blanks ih =>
    obtain ⟨hc, hrest⟩ := List.forall_mem_cons.mp hblanks
    have hcolon : c ≠ ':' := by
      rintro rfl
      exact absurd hc (by decide)
    rw [List.cons_append, aliasColon_cons (by simp [hcolon]), nest_of_plain _ (plain_of_isBlank hc), ih hrest]
    simp [Function.comp_def]

end

/-! ### Both spellings -/

section
variable {expression name keyword before after : List Char}

theorem exists_of_map_toLower {a s : Char} (h : keyword.map Char.toLower = [a, s]) :
    ∃ a' s', keyword = [a', s'] ∧ isAsciiLetter a' a = true ∧ isAsciiLetter s' s = true := by
  match keyword with
  | [] => exact nomatch h
  | [_] => simp at h
  | [a', s'] =>
    obtain ⟨ha, hrest⟩ := List.cons.inj h
    exact ⟨a', s', rfl, beq_iff_eq.mpr ha, beq_iff_eq.mpr (List.cons.inj hrest).1⟩
  | _ :: _ :: _ :: _ => simp at h

/-- The text is cut at its keyword. -/
theorem splitAlias_keyword (hexpression : IsExpression 0 expression) (hname : isIdentifierText name = true)
    (hkeyword : keyword.map Char.toLower = ['a', 's']) (hbefore : ∀ c ∈ before, Text.isAsciiBlank c = true)
    (hafter : ∀ c ∈ after, Text.isAsciiBlank c = true) (hbeforeNe : before ≠ []) (hafterNe : after ≠ []) :
    splitAlias (expression ++ before ++ keyword ++ after ++ name) = (expression, some name) := by
  have hblanks {blanks : List Char} (h : ∀ c ∈ blanks, Text.isAsciiBlank c = true) :
      ∀ c ∈ blanks, Text.isBlank c = true := fun c hc => Text.isBlank_of_isAsciiBlank (h c hc)
  have hnameExpression := isExpression_of_isIdentifierText hname
  -- Behind the keyword there is no other.
  have hrest : lastAs 0 false (keyword ++ (after ++ name)) = none := by
    have hkeywordExpression := isExpression_of_isIdentifierText
      (isIdentifierText_of_map_toLower (by decide) (by decide) hkeyword)
    have hall := hkeywordExpression.lastAs_append (after ++ name)
    rwa [lastAs_blanks_append (hblanks hafter) hnameExpression.not_startsAs, hnameExpression.lastAs_eq_none] at hall
  -- The text is cut at the last blank before it.
  obtain ⟨blanks, c, hlast⟩ := (List.eq_nil_or_concat before).resolve_left hbeforeNe
  rw [List.concat_eq_append] at hlast
  subst hlast
  obtain ⟨hblanksBefore, hc⟩ := List.forall_mem_append.mp hbefore
  have hc := hc c List.mem_cons_self
  have hcut : lastAs 0 false (c :: (keyword ++ (after ++ name))) = some ([], after ++ name) := by
    obtain ⟨a, s, rfl, ha, hs⟩ := exists_of_map_toLower hkeyword
    obtain ⟨b, after, rfl⟩ := List.exists_cons_of_ne_nil hafterNe
    obtain ⟨d, rest, hd⟩ := List.exists_cons_of_ne_nil
      (List.append_ne_nil_of_right_ne_nil after (ne_nil_of_isIdentifierText hname))
    simp only [List.cons_append, List.nil_append, hd] at hrest ⊢
    exact lastAs_keyword hc ha hs (hafter b List.mem_cons_self) hrest
  have hall : lastAs 0 false (expression ++ (blanks ++ [c]) ++ keyword ++ after ++ name) =
      some (expression ++ blanks, after ++ name) := by
    have hall := hexpression.lastAs_append (blanks ++ c :: (keyword ++ (after ++ name)))
    rw [lastAs_blanks_append (hblanks hblanksBefore)
      (not_startsAs_cons (Text.not_isIdentifierPart_of_isBlank (Text.isBlank_of_isAsciiBlank hc))), hcut] at hall
    simpa using hall
  have hnotEmpty : name.isEmpty = false := by simpa using ne_nil_of_isIdentifierText hname
  unfold splitAlias
  rw [hall]
  dsimp only [Option.bind_some]
  rw [Text.trim_blanks_append (hblanks hafter), Text.trim_append_blanks (hblanks hblanksBefore), hexpression.isTrimmed,
    hnameExpression.isTrimmed, hnotEmpty]
  rfl

/-- The text is cut at its single colon. -/
theorem splitAlias_colon (hexpression : IsExpression 0 expression) (hcolon : expression.head? ≠ some ':')
    (hname : isIdentifierText name = true) (hbefore : ∀ c ∈ before, Text.isBlank c = true)
    (hafter : ∀ c ∈ after, Text.isBlank c = true) :
    splitAlias (name ++ (before ++ ':' :: (after ++ expression))) = (expression, some name) := by
  have hnameExpression := isExpression_of_isIdentifierText hname
  have hkeyword : lastAs 0 false (name ++ (before ++ ':' :: (after ++ expression))) = none := by
    have hall := hnameExpression.lastAs_append (before ++ ':' :: (after ++ expression))
    rwa [lastAs_blanks_append hbefore (not_startsAs_cons (by decide)),
      lastAs_cons_of_not_isBlank (by decide) (by decide), nest_of_plain _ (by decide),
      lastAs_blanks_append hafter hexpression.not_startsAs, hexpression.lastAs_eq_none] at hall
  have hsingle : (after ++ expression).head? ≠ some ':' := by
    cases after with
    | nil => exact hcolon
    | cons b after =>
      intro hb
      obtain rfl := Option.some.inj hb
      exact absurd (hafter ':' List.mem_cons_self) (by decide)
  have hmark : aliasColon 0 (name ++ (before ++ ':' :: (after ++ expression))) =
      some (name ++ before, after ++ expression) := by
    have hall := hnameExpression.aliasColon_append (before ++ ':' :: (after ++ expression))
    rw [aliasColon_blanks_append hbefore, aliasColon_colon hsingle] at hall
    simpa using hall
  unfold splitAlias
  rw [hkeyword, hmark]
  dsimp only [Option.bind_none]
  rw [Text.trim_blanks_append hafter, Text.trim_append_blanks hbefore, hexpression.isTrimmed, hnameExpression.isTrimmed]

end

/-! ### Items -/

/-- The item that an expression is read as, behind its path. -/
def ofExpression (expression : List Char) (alias? : Option (List Char)) : SelectItem where
  expression := String.ofList (splitPath expression).2
  alias? := alias?.map String.ofList
  path := (splitPath expression).1.map String.ofList

theorem parse_of_splitAlias {raw : String} {expression : List Char} {alias? : Option (List Char)}
    (hraw : Text.IsTrimmed raw.toList) (hne : expression ≠ [])
    (hname : ∀ name, alias? = some name → isIdentifierText name = true)
    (h : splitAlias raw.toList = (expression, alias?)) : parse raw = .ok (ofExpression expression alias?) := by
  have hrawNe : raw.toList.isEmpty = false := by
    cases hlist : raw.toList with
    | nil =>
      rw [hlist] at h
      exact absurd (Prod.mk.inj h).1.symm hne
    | cons c cs => rfl
  have hexpressionNe : expression.isEmpty = false := by simpa using hne
  have hnoBad : alias?.filter (fun a => !isIdentifierText a) = none := by
    rw [Option.filter_eq_none_iff]
    intro name h
    simp [hname name h]
  unfold parse
  dsimp only
  rw [hraw, h, hrawNe]
  dsimp only
  rw [hexpressionNe, hnoBad]
  rfl

/-- **Both spellings of an alias mean the same**: an expression with an alias behind it or before it is read as the
item that the expression is read as, with that alias. -/
theorem parse_aliased {expression name : String} (hexpression : IsExpression 0 expression.toList)
    (hne : expression ≠ "") (hcolon : expression.toList.head? ≠ some ':') (hname : isIdentifier name = true) :
    ∃ item, parse expression = .ok item ∧ item.alias? = none ∧
      (∀ before keyword after : String, keyword.toList.map Char.toLower = ['a', 's'] →
        (∀ c ∈ before.toList ++ after.toList, Text.isAsciiBlank c = true) → before ≠ "" → after ≠ "" →
        parse (expression ++ before ++ keyword ++ after ++ name) = .ok { item with alias? := some name }) ∧
      ∀ before after : String, (∀ c ∈ before.toList ++ after.toList, Text.isBlank c = true) →
        parse (name ++ before ++ ":" ++ after ++ expression) = .ok { item with alias? := some name } := by
  have hne : expression.toList ≠ [] := fun h => hne (String.toList_eq_nil_iff.mp h)
  have hnameExpression := isExpression_of_isIdentifierText hname
  have hnameNe := ne_nil_of_isIdentifierText hname
  have hlone : splitAlias expression.toList = (expression.toList, none) := by
    unfold splitAlias
    rw [hexpression.lastAs_eq_none, hexpression.aliasColon_eq_none]
    rfl
  have haliased (raw : String) (hraw : Text.IsTrimmed raw.toList)
      (h : splitAlias raw.toList = (expression.toList, some name.toList)) :
      parse raw = .ok { ofExpression expression.toList none with alias? := some name } := by
    rw [parse_of_splitAlias hraw hne (fun n hn => Option.some.inj hn ▸ hname) h]
    simp [ofExpression]
  refine ⟨ofExpression expression.toList none, parse_of_splitAlias hexpression.isTrimmed hne (by simp) hlone, rfl,
    ?_, ?_⟩
  · intro before keyword after hkeyword hblank hbeforeNe hafterNe
    obtain ⟨hbefore, hafter⟩ := List.forall_mem_append.mp hblank
    apply haliased
    · have hraw := hexpression.isTrimmed.around hne hnameExpression.isTrimmed hnameNe
        (before.toList ++ keyword.toList ++ after.toList)
      simpa using hraw
    · simp only [String.toList_append]
      exact splitAlias_keyword hexpression hname hkeyword hbefore hafter
        (fun h => hbeforeNe (String.toList_eq_nil_iff.mp h)) (fun h => hafterNe (String.toList_eq_nil_iff.mp h))
  · intro before after hblank
    obtain ⟨hbefore, hafter⟩ := List.forall_mem_append.mp hblank
    apply haliased
    · have hraw := hnameExpression.isTrimmed.around hnameNe hexpression.isTrimmed hne
        (before.toList ++ ':' :: after.toList)
      simpa using hraw
    · have hcut := splitAlias_colon hexpression hcolon hname hbefore hafter
      simpa using hcut

/-- A call with a keyword inside its brackets and a cast behind them, under an alias that is the keyword itself. -/
theorem aliased_call_is_read :
    IsExpression 0 "f(a as b)::t".toList ∧ "f(a as b)::t" ≠ "" ∧ "f(a as b)::t".toList.head? ≠ some ':' ∧
      isIdentifier "as" = true ∧
      ∃ item, parse "f(a as b)::t" = .ok item ∧ item.alias? = none ∧
        parse "f(a as b)::t\tAs  as" = .ok { item with alias? := some "as" } ∧
        parse "as : f(a as b)::t" = .ok { item with alias? := some "as" } :=
  have hexpression : IsExpression 0 "f(a as b)::t".toList :=
    .outside (by decide) (by decide) (by decide) <| .opening <| .inside (by decide) <| .inside (by decide) <|
      .inside (by decide) <| .inside (by decide) <| .inside (by decide) <| .inside (by decide) <| .closing <| .cast <|
      .outside (by decide) (by decide) (by decide) .nil
  have hname : isIdentifier "as" = true := by decide
  have ⟨item, hitem, hlone, hkeyword, hcolon⟩ := parse_aliased hexpression (by decide) (by decide) hname
  ⟨hexpression, by decide, by decide, hname, item, hitem, hlone,
    hkeyword "\t" "As" "  " (by decide) (List.all_eq_true.mp (by decide)) (by decide) (by decide),
    hcolon " " " " (List.all_eq_true.mp (by decide))⟩

end TableQuery.SelectItem
