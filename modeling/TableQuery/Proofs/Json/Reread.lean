import TableQuery.Proofs.Json.Numeral
import TableQuery.Proofs.Text.Utf8

/-! What is read of a value that was written.

A reader takes the text of a value up to the comma or bracket behind it, whatever follows there, and makes the
same of it every time (`value_render`): strings come back as they are (`text_quote`), numbers as their texts
are read, and arrays and objects from their parts, as long as they are not nested too deep (`echo?`). So what
is read of an array is read of its items one by one (`read?_render_arr`). -/
namespace TableQuery.Json

/-! ### Strings -/

namespace Reader

theorem unit?_control {n : Nat} (hn : n < 32) :
    unit? '0' '0' (hexDigit (n / 16)) (hexDigit n) = some n := by
  have hall : ∀ m < 32, unit? '0' '0' (hexDigit (m / 16)) (hexDigit m) = some m := by decide
  exact hall n hn

/-- A character is written as an escape of its own, as a code unit, or as it is. -/
theorem escapeChar_cases (c : Char) :
    (∃ d, escaped? d = some c ∧ escapeChar c = ['\\', d]) ∨
      (c.toNat < 32 ∧
        escapeChar c = ['\\', 'u', '0', '0', hexDigit (c.toNat / 16), hexDigit c.toNat]) ∨
      ((c ≠ '"' ∧ c ≠ '\\' ∧ ¬c.toNat < 32) ∧ escapeChar c = [c]) := by
  unfold escapeChar
  split
  · next h => exact .inl ⟨'"', by rw [h]; rfl, rfl⟩
  split
  · next h => exact .inl ⟨'\\', by rw [h]; rfl, rfl⟩
  split
  · next h => exact .inl ⟨'b', by rw [h]; rfl, rfl⟩
  split
  · next h => exact .inl ⟨'f', by rw [h]; rfl, rfl⟩
  split
  · next h => exact .inl ⟨'n', by rw [h]; rfl, rfl⟩
  split
  · next h => exact .inl ⟨'r', by rw [h]; rfl, rfl⟩
  split
  · next h => exact .inl ⟨'t', by rw [h]; rfl, rfl⟩
  split
  · next h => exact .inr (.inl ⟨h, rfl⟩)
  · next hquote hslash _ _ _ _ _ hcontrol => exact .inr (.inr ⟨⟨hquote, hslash, hcontrol⟩, rfl⟩)

theorem string_escaped {c d : Char} (hescaped : escaped? d = some c) (fuel : Nat) (rest : List Char) :
    string (fuel + 1) ('\\' :: d :: rest) = (string fuel rest).map fun r => (c :: r.1, r.2) := by
  have hu : d ≠ 'u' := by
    rintro rfl
    exact nomatch hescaped
  rw [string.eq_def]
  simp only
  split
  · next h => exact absurd (List.cons.inj h).1 (by decide)
  · next h => exact absurd (List.cons.inj (List.cons.inj h).2).1 hu
  · next h =>
    obtain ⟨rfl, rfl⟩ := List.cons.inj (List.cons.inj h).2
    rw [hescaped]
    rfl
  · next hne h =>
    obtain ⟨rfl, rfl⟩ := List.cons.inj h
    exact (hne _ _ rfl rfl).elim
  · next h => exact nomatch h

theorem string_control {c : Char} (hc : c.toNat < 32) (fuel : Nat) (rest : List Char) :
    string (fuel + 1) ('\\' :: 'u' :: '0' :: '0' :: hexDigit (c.toNat / 16) :: hexDigit c.toNat :: rest) =
      (string fuel rest).map fun r => (c :: r.1, r.2) := by
  rw [string.eq_def]
  simp only [unit?_control hc]
  rw [if_neg (by omega), if_neg (by omega), Char.ofNat_toNat]

theorem string_plain {c : Char} (hc : c ≠ '"' ∧ c ≠ '\\' ∧ ¬c.toNat < 32) (fuel : Nat) (rest : List Char) :
    string (fuel + 1) (c :: rest) = (string fuel rest).map fun r => (c :: r.1, r.2) := by
  obtain ⟨hquote, hslash, hcontrol⟩ := hc
  rw [string.eq_def]
  simp only
  split
  · next h => exact absurd (List.cons.inj h).1 hquote
  · next h => exact absurd (List.cons.inj h).1 hslash
  · next h => exact absurd (List.cons.inj h).1 hslash
  · next h =>
    obtain ⟨rfl, rfl⟩ := List.cons.inj h
    rw [if_neg hcontrol]
  · next h => exact nomatch h

theorem string_escapeChar (c : Char) (fuel : Nat) (rest : List Char) :
    string (fuel + 1) (escapeChar c ++ rest) = (string fuel rest).map fun r => (c :: r.1, r.2) := by
  rcases escapeChar_cases c with ⟨d, hd, h⟩ | ⟨hc, h⟩ | ⟨hc, h⟩ <;> rw [h]
  · exact string_escaped hd fuel rest
  · exact string_control hc fuel rest
  · exact string_plain hc fuel rest

theorem string_flatMap (cs rest : List Char) {fuel : Nat} (hfuel : cs.length < fuel) :
    string fuel (cs.flatMap escapeChar ++ '"' :: rest) = some (cs, rest) := by
  induction cs generalizing fuel with
  | nil =>
    obtain ⟨fuel, rfl⟩ := Nat.exists_eq_add_one.mpr hfuel
    rfl
  | cons c cs ih =>
    obtain ⟨fuel, rfl⟩ := Nat.exists_eq_add_one.mpr (Nat.zero_lt_of_lt hfuel)
    rw [List.flatMap_cons, List.append_assoc, string_escapeChar, ih (Nat.lt_of_succ_lt_succ hfuel)]
    rfl

theorem length_le_flatMap (cs : List Char) : cs.length ≤ (cs.flatMap escapeChar).length := by
  induction cs with
  | nil => exact Nat.le_refl _
  | cons c cs ih =>
    have hone : 1 ≤ (escapeChar c).length := by
      rcases escapeChar_cases c with ⟨d, -, h⟩ | ⟨-, h⟩ | ⟨-, h⟩ <;> rw [h] <;> simp
    rw [List.flatMap_cons, List.length_append, List.length_cons]
    omega

end Reader

/-- A string as it is written, its opening quote apart. -/
def quoteTail (s : String) : List Char := s.toList.flatMap escapeChar ++ ['"']

theorem toList_quote (s : String) : (quote s).toList = '"' :: quoteTail s := by simp [quote, quoteTail]

theorem text_quoteTail (s : String) (rest : List Char) :
    Reader.text (quoteTail s ++ rest) = some (s.toList, rest) := by
  unfold Reader.text quoteTail
  rw [List.append_assoc]
  apply Reader.string_flatMap
  have hlength := Reader.length_le_flatMap s.toList
  simp only [List.length_append]
  omega

/-! ### What comes back -/

mutual

/-- What is read of the text of a value, objects as they were written. -/
def echo? (depth : Nat) : Json → Option Json
  | .num x => (Reader.value Reader.text 1 0 x.render.toList).map Prod.fst
  | .arr items => if depth = 0 then none else (echoItems? (depth - 1) items).map .arr
  | .obj members => if depth = 0 then none else (echoMembers? (depth - 1) members).map .obj
  | v => some v

def echoItems? (depth : Nat) : List Json → Option (List Json)
  | [] => some []
  | v :: vs => do
    let v ← echo? depth v
    let vs ← echoItems? depth vs
    pure (v :: vs)

def echoMembers? (depth : Nat) : List (String × Json) → Option (List (String × Json))
  | [] => some []
  | (k, v) :: ms => do
    let v ← echo? depth v
    let ms ← echoMembers? depth ms
    pure ((k, v) :: ms)

end

namespace Reader

theorem skip_cons {c : Char} (h : isSpace c = false) (cs : List Char) : skip (c :: cs) = c :: cs := by
  rw [skip, List.dropWhile_cons, h]
  rfl

/-- A value that starts as a number does is read as one. -/
theorem value_eq_number (str : List Char → Option (List Char × List Char)) {c : Char}
    (hc : c = '-' ∨ c.isDigit = true) (fuel depth : Nat) (cs : List Char) :
    value str (fuel + 1) depth (c :: cs) = (number (c :: cs)).map fun r => (.num r.1, r.2) := by
  have hne {d : Char} (hd : d ≠ '-' ∧ d.isDigit = false) : c ≠ d := by
    rintro rfl
    exact hc.elim hd.1 fun h => absurd (h.symm.trans hd.2) (by decide)
  have hspace : isSpace c = false := by
    simp [isSpace, hne (d := ' ') (by decide), hne (d := '\n') (by decide), hne (d := '\t') (by decide),
      hne (d := '\r') (by decide)]
  unfold value
  rw [skip_cons hspace]
  split
  · next h => exact absurd (List.cons.inj h).1 (hne (by decide))
  · next h => exact absurd (List.cons.inj h).1 (hne (by decide))
  · next h => exact absurd (List.cons.inj h).1 (hne (by decide))
  · next h => exact absurd (List.cons.inj h).1 (hne (by decide))
  · next h => exact absurd (List.cons.inj h).1 (hne (by decide))
  · next h => exact absurd (List.cons.inj h).1 (hne (by decide))
  · rfl

theorem value_signedText {n : Numeral} (hn : n.IsDecimal) (negative : Bool) (fuel depth : Nat)
    {rest : List Char} (hrest : Ends rest) :
    value text (fuel + 1) depth (n.signedText negative ++ rest) =
      (n.number? negative).map fun y => (.num y, rest) := by
  obtain ⟨c, cs, hcons, hc⟩ := Numeral.exists_signedText hn negative
  have hread := Numeral.number_signedText hn negative hrest
  rw [hcons, List.cons_append] at hread ⊢
  rw [value_eq_number text hc, hread, Option.map_map]
  rfl

/-- The text of a number is read up to what stands behind it, whatever that is. -/
theorem value_number (x : Number) {fuel depth : Nat} {rest : List Char} (hrest : Ends rest) :
    value text (fuel + 1) depth (x.render.toList ++ rest) = (echo? depth (.num x)).map fun v => (v, rest) := by
  unfold echo?
  rcases text_cases x with ⟨n, negative, hn, htext⟩ | hnull | hnull
  · have halone := value_signedText hn negative 0 0 ends_nil
    rw [List.append_nil] at halone
    rw [htext, value_signedText hn negative fuel depth hrest, halone]
    cases n.number? negative <;> rfl
  · rw [hnull]
    rfl
  · rw [hnull]
    rfl

/-- Items as they are written, with commas between them. -/
def itemsText (vs : List Json) : List Char := List.intercalate [','] (vs.map fun v => v.render.toList)

def memberText (m : String × Json) : List Char := '"' :: (quoteTail m.1 ++ ':' :: m.2.render.toList)

def membersText (ms : List (String × Json)) : List Char := List.intercalate [','] (ms.map memberText)

theorem toList_render_arr (items : List Json) :
    (Json.arr items).render.toList = '[' :: (itemsText items ++ [']']) := by
  have hitems : (renderItems items).map String.toList = items.map fun v => v.render.toList := by
    induction items with
    | nil => rfl
    | cons v vs ih => rw [renderItems, List.map_cons, List.map_cons, ih]
  rw [render, String.toList_append, String.toList_append, String.toList_intercalate, hitems]
  rfl

theorem toList_render_obj (members : List (String × Json)) :
    (Json.obj members).render.toList = '\x7b' :: (membersText members ++ ['\x7d']) := by
  have hmembers : (renderMembers members).map String.toList = members.map memberText := by
    induction members with
    | nil => rfl
    | cons m ms ih =>
      obtain ⟨k, v⟩ := m
      rw [renderMembers, List.map_cons, List.map_cons, ih]
      simp [memberText, toList_quote]
  rw [render, String.toList_append, String.toList_append, String.toList_intercalate, hmembers]
  rfl

/-- What a value starts with is no blank and closes nothing. -/
theorem render_head (v : Json) : ∃ c cs, v.render.toList = c :: cs ∧ isSpace c = false ∧ c ≠ ']' := by
  have hdigit {c : Char} (hc : c.isDigit = true) : isSpace c = false ∧ c ≠ ']' := by
    have hne {d : Char} (hd : d.isDigit = false) : c ≠ d := by
      rintro rfl
      exact absurd (hc.symm.trans hd) (by decide)
    simp [isSpace, hne (d := ' ') rfl, hne (d := '\n') rfl, hne (d := '\t') rfl, hne (d := '\r') rfl,
      hne (d := ']') rfl]
  cases v with
  | null => exact ⟨'n', _, rfl, by decide, by decide⟩
  | bool b => cases b <;> exact ⟨_, _, rfl, by decide, by decide⟩
  | num x =>
    show ∃ c cs, x.render.toList = c :: cs ∧ _
    rcases text_cases x with ⟨n, negative, hn, htext⟩ | h | h
    · obtain ⟨c, cs, hcons, rfl | hc⟩ := Numeral.exists_signedText hn negative <;> rw [htext, hcons]
      · exact ⟨'-', cs, rfl, by decide, by decide⟩
      · exact ⟨c, cs, rfl, hdigit hc⟩
    · exact ⟨'n', _, by rw [h]; rfl, by decide, by decide⟩
    · exact ⟨'-', _, by rw [h]; rfl, by decide, by decide⟩
  | str s => exact ⟨'"', _, toList_quote s, by decide, by decide⟩
  | arr items => exact ⟨'[', _, toList_render_arr items, by decide, by decide⟩
  | obj members => exact ⟨'\x7b', _, toList_render_obj members, by decide, by decide⟩

theorem value_items (str : List Char → Option (List Char × List Char)) {c : Char} (hspace : isSpace c = false)
    (hc : c ≠ ']') (fuel depth : Nat) (cs : List Char) :
    value str (fuel + 1) depth ('[' :: c :: cs) =
      if depth = 0 then none else (items str fuel (depth - 1) (c :: cs)).map fun r => (.arr r.1, r.2) := by
  rw [value, skip_cons (by decide)]
  simp only [skip_cons hspace]
  split
  · rfl
  split
  · next h => exact absurd (List.cons.inj h).1 hc
  · rfl

theorem value_members (str : List Char → Option (List Char × List Char)) (fuel depth : Nat) (cs : List Char) :
    value str (fuel + 1) depth ('\x7b' :: '"' :: cs) =
      if depth = 0 then none else (members str fuel (depth - 1) ('"' :: cs)).map fun r => (.obj r.1, r.2) := by
  have hquote : skip ('"' :: cs) = '"' :: cs := skip_cons (by decide) cs
  rw [value, skip_cons (by decide)]
  simp only [hquote]
  rfl

/-- The name of a member is read as it was written, then its value is. -/
theorem members_quoteTail (name : String) (fuel depth : Nat) (cs : List Char) :
    members text (fuel + 1) depth ('"' :: (quoteTail name ++ ':' :: cs)) =
      match value text fuel depth cs with
      | none => none
      | some (v, rest) =>
        match skip rest with
        | '\x7d' :: rest => some ([(name, v)], rest)
        | ',' :: rest => (members text fuel depth rest).map fun r => ((name, v) :: r.1, r.2)
        | _ => none := by
  have hcolon : skip (':' :: cs) = ':' :: cs := skip_cons (by decide) cs
  have hquote (rest : List Char) : skip ('"' :: rest) = '"' :: rest := skip_cons (by decide) rest
  have hread := members.eq_def text (fuel + 1) depth ('"' :: (quoteTail name ++ ':' :: cs))
  simp only [hquote, text_quoteTail, hcolon, String.ofList_toList] at hread
  exact hread

theorem itemsText_cons (v : Json) {vs : List Json} (hne : vs ≠ []) :
    itemsText (v :: vs) = v.render.toList ++ ',' :: itemsText vs := by
  obtain ⟨w, ws, rfl⟩ := List.exists_cons_of_ne_nil hne
  simp [itemsText, List.intercalate_cons_cons]

theorem membersText_cons (m : String × Json) {ms : List (String × Json)} (hne : ms ≠ []) :
    membersText (m :: ms) = memberText m ++ ',' :: membersText ms := by
  obtain ⟨w, ws, rfl⟩ := List.exists_cons_of_ne_nil hne
  simp [membersText, List.intercalate_cons_cons]

theorem exists_itemsText {vs : List Json} (hne : vs ≠ []) :
    ∃ c cs, itemsText vs = c :: cs ∧ isSpace c = false ∧ c ≠ ']' := by
  obtain ⟨v, vs, rfl⟩ := List.exists_cons_of_ne_nil hne
  obtain ⟨c, cs, hhead, hc⟩ := render_head v
  by_cases hvs : vs = []
  · exact ⟨c, cs, hvs ▸ (List.intercalate_singleton ..).trans hhead, hc⟩
  · rw [itemsText_cons v hvs, hhead]
    exact ⟨c, _, rfl, hc⟩

theorem exists_membersText {ms : List (String × Json)} (hne : ms ≠ []) : ∃ cs, membersText ms = '"' :: cs := by
  obtain ⟨m, ms, rfl⟩ := List.exists_cons_of_ne_nil hne
  by_cases hms : ms = []
  · subst hms
    exact ⟨_, List.intercalate_singleton ..⟩
  · rw [membersText_cons m hms]
    exact ⟨_, rfl⟩

mutual

/-- **A value is read up to what stands behind it**, and the same is made of it whatever that is. -/
theorem value_render (v : Json) {fuel : Nat} (hfuel : 2 * v.render.toList.length ≤ fuel) (depth : Nat)
    {rest : List Char} (hrest : Ends rest) :
    value text fuel depth (v.render.toList ++ rest) = (echo? depth v).map fun w => (w, rest) := by
  have hpos : 0 < fuel := by
    obtain ⟨c, cs, hhead, -⟩ := render_head v
    rw [hhead, List.length_cons] at hfuel
    omega
  obtain ⟨fuel, rfl⟩ := Nat.exists_eq_add_one.mpr hpos
  cases v with
  | null => rfl
  | bool b => cases b <;> rfl
  | num x => exact value_number x hrest
  | str s =>
    rw [render, toList_quote, List.cons_append, value, skip_cons (by decide)]
    simp [text_quoteTail, echo?]
  | arr vs =>
    rw [toList_render_arr, echo?] at *
    simp only [List.length_cons, List.length_append, List.length_nil] at hfuel
    by_cases hne : vs = []
    · subst hne
      cases depth <;> rfl
    · have hitems := items_render vs hne (by omega : 2 * (itemsText vs).length < fuel) (depth - 1) rest
      obtain ⟨c, cs, hcs, hspace, hc⟩ := exists_itemsText hne
      rw [hcs] at hitems ⊢
      rw [List.cons_append, List.append_assoc, List.cons_append, value_items text hspace hc]
      split
      · rfl
      · show (items text fuel (depth - 1) (c :: cs ++ ']' :: rest)).map _ = _
        rw [hitems]
        cases echoItems? (depth - 1) vs <;> rfl
  | obj ms =>
    rw [toList_render_obj, echo?] at *
    simp only [List.length_cons, List.length_append, List.length_nil] at hfuel
    by_cases hne : ms = []
    · subst hne
      cases depth <;> rfl
    · have hmembers := members_render ms hne (by omega : 2 * (membersText ms).length < fuel) (depth - 1) rest
      obtain ⟨cs, hcs⟩ := exists_membersText hne
      rw [hcs] at hmembers ⊢
      rw [List.cons_append, List.append_assoc, List.cons_append, value_members text]
      split
      · rfl
      · show (members text fuel (depth - 1) ('"' :: cs ++ '\x7d' :: rest)).map _ = _
        rw [hmembers]
        cases echoMembers? (depth - 1) ms <;> rfl
termination_by structural v

theorem items_render (vs : List Json) (hne : vs ≠ []) {fuel : Nat} (hfuel : 2 * (itemsText vs).length < fuel)
    (depth : Nat) (rest : List Char) :
    items text fuel depth (itemsText vs ++ ']' :: rest) = (echoItems? depth vs).map fun ws => (ws, rest) := by
  obtain ⟨fuel, rfl⟩ := Nat.exists_eq_add_one.mpr (Nat.zero_lt_of_lt hfuel)
  cases vs with
  | nil => exact absurd rfl hne
  | cons v vs =>
    rw [echoItems?]
    by_cases hvs : vs = []
    · have hone : itemsText (v :: vs) = v.render.toList := hvs ▸ List.intercalate_singleton ..
      rw [hone] at hfuel ⊢
      rw [items, value_render v (by omega) depth (ends_cons (by decide) rest), hvs]
      cases echo? depth v <;> rfl
    · rw [itemsText_cons v hvs] at hfuel ⊢
      simp only [List.length_append, List.length_cons] at hfuel
      have hmore := items_render vs hvs (by omega : 2 * (itemsText vs).length < fuel) depth rest
      rw [List.append_assoc, List.cons_append, items,
        value_render v (by omega) depth (ends_cons (by decide) _)]
      cases echo? depth v with
      | none => rfl
      | some v =>
        show (items text fuel depth (itemsText vs ++ ']' :: rest)).map _ = _
        rw [hmore]
        cases echoItems? depth vs <;> rfl
termination_by structural vs

theorem members_render (ms : List (String × Json)) (hne : ms ≠ []) {fuel : Nat}
    (hfuel : 2 * (membersText ms).length < fuel) (depth : Nat) (rest : List Char) :
    members text fuel depth (membersText ms ++ '\x7d' :: rest) =
      (echoMembers? depth ms).map fun ns => (ns, rest) := by
  obtain ⟨fuel, rfl⟩ := Nat.exists_eq_add_one.mpr (Nat.zero_lt_of_lt hfuel)
  cases ms with
  | nil => exact absurd rfl hne
  | cons m ms =>
    obtain ⟨k, v⟩ := m
    have hmember (rest : List Char) : memberText (k, v) ++ rest =
        '"' :: (quoteTail k ++ ':' :: (v.render.toList ++ rest)) := by
      simp [memberText]
    rw [echoMembers?]
    by_cases hms : ms = []
    · have hone : membersText ((k, v) :: ms) = memberText (k, v) := hms ▸ List.intercalate_singleton ..
      rw [hone] at hfuel ⊢
      simp only [memberText, List.length_cons, List.length_append] at hfuel
      rw [hmember, members_quoteTail, value_render v (by omega) depth (ends_cons (by decide) rest), hms]
      cases echo? depth v <;> rfl
    · rw [membersText_cons (k, v) hms] at hfuel ⊢
      simp only [memberText, List.length_append, List.length_cons] at hfuel
      have hmore := members_render ms hms (by omega : 2 * (membersText ms).length < fuel) depth rest
      rw [List.append_assoc, List.cons_append, hmember, members_quoteTail,
        value_render v (by omega) depth (ends_cons (by decide) _)]
      cases echo? depth v with
      | none => rfl
      | some v =>
        show (members text fuel depth (membersText ms ++ '\x7d' :: rest)).map _ = _
        rw [hmore]
        cases echoMembers? depth ms <;> rfl
termination_by structural ms

end

end Reader

/-! ### What is made of it -/

/-- What a value becomes that is written and read again, nested so deep at most; none if its text cannot be
read. -/
def reread? (depth : Nat) (v : Json) : Option Json := (echo? depth v).bind settle

theorem read?_render (v : Json) : read? v.render = v.reread? 127 := by
  have hvalue := Reader.value_render v (by omega : 2 * v.render.toList.length ≤ 2 * v.render.toList.length + 2)
    127 ends_nil
  rw [List.append_nil] at hvalue
  unfold read? Reader.document? Reader.whole reread?
  rw [hvalue]
  cases echo? 127 v <;> rfl

theorem ofBytes?_encode (v : Json) : ofBytes? (Text.Utf8.encode v.render) = v.reread? 127 := by
  rw [ofBytes?, Text.Utf8.decode?_encode, Option.bind_some, read?_render]

theorem settleItems_echoItems? (depth : Nat) (vs : List Json) :
    (echoItems? depth vs).bind settleItems = vs.mapM (reread? depth) := by
  induction vs with
  | nil => rfl
  | cons v vs ih =>
    rw [List.mapM_cons, ← ih, echoItems?, reread?]
    cases echo? depth v with
    | none => rfl
    | some w =>
      cases echoItems? depth vs with
      | none => cases h : settle w <;> simp [h]
      | some ws => rfl

theorem reread?_arr (depth : Nat) (vs : List Json) :
    reread? (depth + 1) (.arr vs) = (vs.mapM (reread? depth)).map .arr := by
  rw [← settleItems_echoItems?, reread?, echo?]
  simp only [Nat.add_one_ne_zero, if_false, Nat.add_sub_cancel]
  cases echoItems? depth vs <;> rfl

/-- Members one by one, their names kept. -/
def rereadMember? (depth : Nat) (m : String × Json) : Option (String × Json) :=
  (reread? depth m.2).map fun v => (m.1, v)

theorem settleMembers_echoMembers? (depth : Nat) (ms : List (String × Json)) :
    (echoMembers? depth ms).bind settleMembers = ms.mapM (rereadMember? depth) := by
  induction ms with
  | nil => rfl
  | cons m ms ih =>
    obtain ⟨k, v⟩ := m
    rw [List.mapM_cons, ← ih, echoMembers?, rereadMember?, reread?]
    cases echo? depth v with
    | none => rfl
    | some w =>
      cases echoMembers? depth ms with
      | none => cases h : settle w <;> simp [h]
      | some ws => cases h : settle w <;> simp [h, settleMembers]

theorem reread?_obj (depth : Nat) (ms : Fields) :
    reread? (depth + 1) (.obj ms) = (ms.mapM (rereadMember? depth)).map fun ns => .obj (Fields.ofList ns) := by
  rw [← settleMembers_echoMembers?, reread?, echo?]
  simp only [Nat.add_one_ne_zero, if_false, Nat.add_sub_cancel]
  cases echoMembers? depth ms <;> rfl

end TableQuery.Json
