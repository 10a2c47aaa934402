import TableQuery.Proofs.Url.Authority

/-! Addresses read from their parts.

A scheme that has been read is read again (`isScheme_of_splitScheme?`), and where nothing has to be cleaned away the
reading starts with what follows it (`parse_ofList`). Behind an authority, and without one, a path that is written of
segments (`Path.joined`) gives these segments, whatever query or fragment follows: each reader has its equation
(`parseWeb_joined`, `parseOther_authority`, `parseOther_rooted`, `parseOther_dotted`, `parseFile_joined`,
`parseFile_rooted`, `parseFile_host`). -/
namespace TableQuery.Url.Address
open Url.Path
variable {scheme text : String} {special : Bool} {a : Address} {auth cs rest path t tail : List Char}
  {ts : List (List Char)}

/-! ### What stands behind a path -/

/-- Nothing in the text is taken for a blank. -/
def IsVisible (cs : List Char) : Prop := ∀ c ∈ cs, 32 < c.toNat

/-- A query, a fragment, or nothing. -/
structure IsTail (cs : List Char) : Prop where
  marked : ∀ c ∈ cs.head?, c = '?' ∨ c = '#'
  visible : IsVisible cs

theorem splitTail_fst (h : IsTail tail) : (splitTail tail).1 = [] := by
  cases tail with
  | nil => rfl
  | cons c rest =>
    rcases h.marked c rfl with rfl | rfl
    · rw [splitTail, Text.cut, if_neg (by decide)]
      cases Text.cut '#' rest <;> rfl
    · rfl

/-- Without a mark, what stands before is a part of the path. -/
theorem splitTail_append_left (hpath : ∀ c ∈ path, c ≠ '?' ∧ c ≠ '#') (cs : List Char) :
    splitTail (path ++ cs) = (path ++ (splitTail cs).1, (splitTail cs).2) := by
  have hquery : '?' ∉ path := fun hmem => (hpath _ hmem).1 rfl
  have hfragment : '#' ∉ path := fun hmem => (hpath _ hmem).2 rfl
  unfold splitTail
  rw [Text.cut_append_left hfragment]
  cases Text.cut '#' cs with
  | none =>
    simp only [Option.map_none, Text.cut_append_left hquery]
    cases Text.cut '?' cs <;> rfl
  | some r =>
    simp only [Option.map_some, Text.cut_append_left hquery]
    cases Text.cut '?' r.1 <;> rfl

theorem splitTail_append (hpath : ∀ c ∈ path, c ≠ '?' ∧ c ≠ '#') (htail : IsTail tail) :
    splitTail (path ++ tail) = (path, (splitTail tail).2) := by
  rw [splitTail_append_left hpath, splitTail_fst htail, List.append_nil]

/-- The end of an authority is found at the first mark that ends one. -/
theorem splitAuthority_append (hinside : ∀ c ∈ auth, isInside c = true)
    (hrest : ∀ c ∈ rest.head?, endsAuthority special c = true) :
    splitAuthority special (auth ++ rest) = (auth, rest) := by
  have hin : ∀ c ∈ auth, (!endsAuthority special c) = true := by
    intro c hc
    obtain ⟨-, hslash, hquery, hfragment, hback⟩ := isInside_iff.mp (hinside c hc)
    simp [endsAuthority, isSlash, hslash, hquery, hfragment, hback]
  have htake : rest.takeWhile (fun c => !endsAuthority special c) = [] := by
    cases rest with
    | nil => rfl
    | cons c rest => rw [List.takeWhile_cons, hrest c rfl]; rfl
  have hdrop : rest.dropWhile (fun c => !endsAuthority special c) = rest := by
    cases rest with
    | nil => rfl
    | cons c rest => rw [List.dropWhile_cons, hrest c rfl]; rfl
  rw [splitAuthority, List.takeWhile_append_of_pos hin, htake, List.append_nil, List.dropWhile_append_of_pos hin, hdrop]

/-! ### Segments that can be written -/

/-- A segment that is read as it is meant: nothing in it ends it, and it is not taken for dots. -/
structure Fits (special : Bool) (t : List Char) : Prop where
  unbroken : IsUnbroken special t
  kept : IsKept (encode t)
  noMark : ∀ c ∈ t, c ≠ '?' ∧ c ≠ '#'
  visible : IsVisible t

theorem Fits.of_isSegment (h : IsSegment special t) : Fits special t where
  unbroken := h.unbroken
  kept := (encode_of_plain h.plain).symm ▸ h.toIsKept
  noMark c hc := by
    have hne {d : Char} (hd : plain d = false) : c ≠ d := ne_of_apply_ne plain (by simp [h.plain c hc, hd])
    exact ⟨hne (by decide), hne (by decide)⟩
  visible c hc := lt_of_isGraphic (isGraphic_of_plain (h.plain c hc))

theorem Fits.isSegment_encode (h : Fits special t) : IsSegment special (encode t) where
  toIsKept := h.kept
  plain _ hc := plain_of_mem_encode hc
  unbroken := h.unbroken.encode

/-- What fits where a backslash is a slash too fits everywhere. -/
theorem Fits.of_special (h : Fits true t) : Fits special t where
  unbroken c hc := by
    have hslash := h.unbroken c hc
    simp only [isSlash, Bool.true_and, Bool.or_eq_false_iff] at hslash
    simp [isSlash, hslash]
  kept := h.kept
  noMark := h.noMark
  visible := h.visible

theorem mem_joined {c : Char} (h : c ∈ joined ts) : c = '/' ∨ ∃ t ∈ ts, c ∈ t := by
  obtain ⟨t, ht, hc⟩ := List.mem_flatMap.mp h
  exact (List.mem_cons.mp hc).imp_right fun hct => ⟨t, ht, hct⟩

theorem noMark_joined (h : ∀ t ∈ ts, Fits special t) : ∀ c ∈ joined ts, c ≠ '?' ∧ c ≠ '#' := by
  intro c hc
  rcases mem_joined hc with rfl | ⟨t, ht, hct⟩
  · decide
  · exact (h t ht).noMark c hct

theorem endsAuthority_head? (htail : IsTail tail) :
    ∀ c ∈ (joined ts ++ tail).head?, endsAuthority special c = true := by
  cases ts with
  | nil =>
    intro c hc
    rcases htail.marked c hc with rfl | rfl <;> simp [endsAuthority]
  | cons t ts =>
    intro c hc
    obtain rfl := Option.some.inj hc
    simp [endsAuthority, isSlash]

/-! ### Reading behind an authority -/

theorem ne_nil_of_isTail_append (hts : ts ≠ []) : (joined ts ++ tail).isEmpty = false := by
  cases ts with
  | nil => exact absurd rfl hts
  | cons t ts => rfl

theorem parseWeb_joined (hinside : ∀ c ∈ auth, isInside c = true) (hne : auth ≠ []) (hts : ts ≠ [])
    (h : ∀ t ∈ ts, Fits true t) (htail : IsTail tail) :
    parseWeb scheme ('/' :: '/' :: (auth ++ (joined ts ++ tail))) = (readAuthority scheme auth false).map fun r =>
      assemble scheme (some r.1) true (Path.render (ts.map encode)) (splitTail tail).2 := by
  have hstart : ('/' :: '/' :: (auth ++ (joined ts ++ tail))).dropWhile (isSlash true) =
      auth ++ (joined ts ++ tail) := by
    cases auth with
    | nil => exact absurd rfl hne
    | cons c auth =>
      obtain ⟨-, hslash, -, -, hback⟩ := isInside_iff.mp (hinside c List.mem_cons_self)
      simp [isSlash, hslash, hback]
  unfold parseWeb
  rw [hstart, splitAuthority_append hinside (endsAuthority_head? htail)]
  dsimp only
  rw [ne_nil_of_isTail_append hts, splitTail_append (noMark_joined h) htail,
    readPath_joined hts (fun t ht => (h t ht).unbroken) fun t ht => (h t ht).kept]
  cases readAuthority scheme auth false <;> rfl

/-- The path as it is written, which is empty where there are no segments. -/
def pathOf (ts : List (List Char)) : String := if ts = [] then "" else Path.render ts

theorem readPath_eq_pathOf (h : ∀ t ∈ ts, Fits special t) :
    (if (joined ts).isEmpty then "" else readPath special (joined ts)) = pathOf (ts.map encode) := by
  cases ts with
  | nil => rfl
  | cons t ts =>
    exact readPath_joined (List.cons_ne_nil t ts) (fun t ht => (h t ht).unbroken) fun t ht => (h t ht).kept

theorem parseOther_authority (hinside : ∀ c ∈ auth, isInside c = true) (h : ∀ t ∈ ts, Fits false t)
    (htail : IsTail tail) :
    parseOther scheme ('/' :: '/' :: (auth ++ (joined ts ++ tail))) =
      (readAuthority scheme auth (joined ts ++ tail).isEmpty).map fun r =>
        assemble scheme (some r.1) true (pathOf (ts.map encode)) (splitTail tail).2 := by
  rw [parseOther, splitAuthority_append hinside (endsAuthority_head? htail)]
  dsimp only
  cases hread : readAuthority scheme auth (joined ts ++ tail).isEmpty with
  | error e => rfl
  | ok r =>
    have hslash : '\\' ∉ auth := fun hmem => absurd (hinside _ hmem) (by decide)
    have hleft : r.2 = [] := left_eq_nil_of_readAuthority hslash hread
    show Except.ok _ = Except.ok _
    rw [hleft, List.nil_append, splitTail_append (noMark_joined h) htail]
    dsimp only
    rw [readPath_eq_pathOf h]

/-! ### Reading without an authority -/

theorem parseOther_of_not_double (h : ∀ r, cs ≠ '/' :: '/' :: r) {r : Option (List Char) × Option (List Char)}
    (hpath : splitTail cs = ('/' :: path, r)) :
    parseOther scheme cs = .ok (assemble scheme none true (guardPath (readPath false ('/' :: path))) r) := by
  unfold parseOther
  split
  · exact absurd rfl (h _)
  · rw [hpath]
    rfl

/-- Whether the text of the segments begins with two slashes. -/
def isDouble : List (List Char) → Bool
  | [] :: _ :: _ => true
  | _ => false

theorem parseOther_rooted (hts : ts ≠ []) (hdouble : isDouble ts = false) (h : ∀ t ∈ ts, Fits false t)
    (htail : IsTail tail) :
    parseOther scheme (joined ts ++ tail) =
      .ok (assemble scheme none true (guardPath (Path.render (ts.map encode))) (splitTail tail).2) := by
  have hread := readPath_joined hts (fun t ht => (h t ht).unbroken) fun t ht => (h t ht).kept
  have hsplit := splitTail_append (noMark_joined h) htail
  cases ts with
  | nil => exact absurd rfl hts
  | cons t ts =>
    rw [← hread]
    rw [joined_cons] at hsplit ⊢
    refine parseOther_of_not_double ?_ hsplit
    intro r hr
    have hr : t ++ joined ts ++ tail = '/' :: r := (List.cons.inj hr).2
    cases t with
    | cons c t =>
      obtain rfl := (List.cons.inj hr).1
      exact (h _ List.mem_cons_self).unbroken.slash_not_mem List.mem_cons_self
    | nil =>
      cases ts with
      | cons u us => exact nomatch hdouble
      | nil =>
        have hr : tail = '/' :: r := hr
        rcases htail.marked '/' (by rw [hr]; rfl) with hc | hc <;> exact absurd hc (by decide)

/-- A dot before the path says nothing of it. -/
theorem parseOther_dotted (hts : ts ≠ []) (h : ∀ t ∈ ts, Fits false t) (htail : IsTail tail) :
    parseOther scheme ('/' :: '.' :: (joined ts ++ tail)) =
      .ok (assemble scheme none true (guardPath (Path.render (ts.map encode))) (splitTail tail).2) := by
  have hdot : IsUnbroken false ['.'] := fun c hc => by
    obtain rfl := List.mem_singleton.mp hc
    rfl
  have hread : readPath false ('/' :: '.' :: joined ts) = Path.render (ts.map encode) := by
    have hsegments := readSegments_joined false hdot fun t ht => (h t ht).unbroken
    have hpush : push false false [] (encode ['.']) = [] := by decide
    rw [readPath, show dropSlash false ('/' :: '.' :: joined ts) = ['.'] ++ joined ts from rfl, hsegments,
      List.map_cons, Path.normalize.eq_3 _ _ _ _ (by simpa using hts), hpush,
      normalize_of_isKept (List.forall_mem_map.mpr fun t ht => (h t ht).kept), List.nil_append]
  have hmark : ∀ c ∈ '/' :: '.' :: joined ts, c ≠ '?' ∧ c ≠ '#' :=
    List.forall_mem_cons.mpr ⟨by decide, List.forall_mem_cons.mpr ⟨by decide, noMark_joined h⟩⟩
  rw [← hread]
  refine parseOther_of_not_double (fun r hr => ?_) (splitTail_append hmark htail)
  exact absurd (List.cons.inj (List.cons.inj hr).2).1 (by decide)

/-! ### Files -/

theorem parseFile_of_split {host : String} (hsplit : splitFile cs = .ok (host, path ++ tail))
    (hpath : ∀ c ∈ path, c ≠ '?' ∧ c ≠ '#') (htail : IsTail tail)
    (hread : readSegments true true path = ts) :
    parseFile scheme cs = .ok (assemble scheme (some (if ts.head?.any isDrive then "" else host)) true
      (Path.render (trimFront ts)) (splitTail tail).2) := by
  unfold parseFile
  simp only [hsplit, bind, Except.bind, splitTail_append hpath htail, hread]

theorem splitFile_append (ts : List (List Char)) (hinside : ∀ c ∈ auth, isInside c = true) (htail : IsTail tail) :
    splitFile ('/' :: '/' :: (auth ++ (joined ts ++ tail))) =
      if isDrive auth then .ok ("", auth ++ (joined ts ++ tail))
      else (readFileHost auth).map fun host =>
        (host, if host = "" then joined ts ++ tail else dropSlash true (joined ts ++ tail)) := by
  rw [splitFile, if_pos (by decide), splitAuthority_append hinside (endsAuthority_head? htail)]

/-- Behind an empty host, a path keeps all its slashes. -/
theorem parseFile_joined (h : ∀ t ∈ ts, Fits true t) (htail : IsTail tail) :
    parseFile scheme ('/' :: '/' :: (joined ts ++ tail)) =
      .ok (assemble scheme (some "") true (Path.render (trimFront (ts.map encode))) (splitTail tail).2) := by
  have hnone : ∀ c ∈ ([] : List Char), isInside c = true := fun _ hc => nomatch hc
  have hsplit : splitFile ('/' :: '/' :: (joined ts ++ tail)) = .ok ("", joined ts ++ tail) :=
    splitFile_append ts hnone htail
  have hread : readSegments true true (joined ts) = [] :: ts.map encode := by
    have hempty : IsUnbroken true [] := fun _ hc => nomatch hc
    have hsegments := readSegments_joined true hempty fun t ht => (h t ht).unbroken
    rw [List.nil_append, List.map_cons, normalize_cons_of_isKept ⟨by decide, by decide⟩
      (List.forall_mem_map.mpr fun t ht => (h t ht).kept)] at hsegments
    exact hsegments
  rw [parseFile_of_split hsplit (noMark_joined h) htail hread]
  rfl

/-- A single segment behind the scheme is a path on this machine. -/
theorem parseFile_rooted (hne : t ≠ []) (hdrive : isDrive (encode t) = false) (h : Fits true t)
    (htail : IsTail tail) :
    parseFile scheme ('/' :: (t ++ tail)) =
      .ok (assemble scheme (some "") true (Path.render (trimFront ([t].map encode))) (splitTail tail).2) := by
  have hsplit : splitFile ('/' :: (t ++ tail)) = .ok ("", t ++ tail) := by
    cases t with
    | nil => exact absurd rfl hne
    | cons c t =>
      have hslash : isSlash true c = false := h.unbroken c List.mem_cons_self
      have hboth : ¬ (isSlash true '/' && isSlash true c) = true := by simp [hslash]
      rw [List.cons_append, splitFile, if_neg hboth]
      rfl
  have hread : readSegments true true t = [encode t] := by
    have hsegments : readSegments true true (t ++ joined []) = _ := readSegments_joined true h.unbroken (by simp)
    rw [joined_nil, List.append_nil, List.map_cons, List.map_nil, normalize_cons_of_isKept h.kept (by simp),
      enter_of_not_drive hdrive] at hsegments
    exact hsegments
  rw [parseFile_of_split hsplit h.noMark htail hread]
  simp [hdrive]

/-- Behind a host, a path begins with its first segment. -/
theorem parseFile_host {host : String} (hinside : ∀ c ∈ auth, isInside c = true) (hdrive : isDrive auth = false)
    (hhost : readFileHost auth = .ok host) (hne : host ≠ "") (ht : Fits true t) (h : ∀ t ∈ ts, Fits true t)
    (htail : IsTail tail) :
    parseFile scheme ('/' :: '/' :: (auth ++ (joined (t :: ts) ++ tail))) =
      .ok (assemble scheme (some (if isDrive (encode t) then "" else host)) true
        (Path.render (trimFront (enter true [] (encode t) :: ts.map encode))) (splitTail tail).2) := by
  have hsplit : splitFile ('/' :: '/' :: (auth ++ (joined (t :: ts) ++ tail))) =
      .ok (host, (t ++ joined ts) ++ tail) := by
    rw [splitFile_append _ hinside htail, hdrive, hhost]
    exact congrArg Except.ok (Prod.ext rfl (if_neg hne))
  have hread : readSegments true true (t ++ joined ts) = enter true [] (encode t) :: ts.map encode := by
    rw [readSegments_joined true ht.unbroken fun t ht => (h t ht).unbroken, List.map_cons,
      normalize_cons_of_isKept ht.kept (List.forall_mem_map.mpr fun t ht => (h t ht).kept)]
    rfl
  have hpath : ∀ c ∈ t ++ joined ts, c ≠ '?' ∧ c ≠ '#' :=
    List.forall_mem_append.mpr ⟨ht.noMark, noMark_joined h⟩
  rw [parseFile_of_split hsplit hpath htail hread, List.head?_cons, Option.any_some, isDrive_enter]

/-- The host of a file's address, where it has one, is the one that has been cut off. -/
theorem host_of_splitFile {a : Address} {host : String} (hsplit : splitFile cs = .ok (host, rest))
    (hread : parseFile scheme cs = .ok a) (hsome : a.authority = some text) (hne : text ≠ "") : host = text := by
  unfold parseFile at hread
  simp only [hsplit, bind, Except.bind] at hread
  have hauthority := congrArg authority (Except.ok.inj hread)
  have htext := Option.some.inj (hauthority.trans hsome)
  split at htext
  · exact absurd htext.symm hne
  · exact htext

/-- If a host is read, then it has not been taken for the letter of a drive, and no such letter follows. -/
theorem host_of_parseFile {a : Address} (hinside : ∀ c ∈ auth, isInside c = true) (ht : Fits true t)
    (h : ∀ t ∈ ts, Fits true t) (htail : IsTail tail)
    (hread : parseFile scheme ('/' :: '/' :: (auth ++ (joined (t :: ts) ++ tail))) = .ok a)
    (hsome : a.authority = some text) (hne : text ≠ "") :
    isDrive auth = false ∧ readFileHost auth = .ok text ∧ isDrive (encode t) = false := by
  have hsplit := splitFile_append (t :: ts) hinside htail
  cases hdrive : isDrive auth with
  | true =>
    rw [hdrive, if_pos rfl] at hsplit
    exact absurd (host_of_splitFile hsplit hread hsome hne).symm hne
  | false =>
    rw [hdrive, if_neg Bool.false_ne_true] at hsplit
    cases hhost : readFileHost auth with
    | error e =>
      rw [hhost] at hsplit
      unfold parseFile at hread
      rw [hsplit] at hread
      exact nomatch hread
    | ok host =>
      rw [hhost] at hsplit
      obtain rfl := host_of_splitFile hsplit hread hsome hne
      rw [parseFile_host hinside hdrive hhost hne ht h htail] at hread
      have htext := Option.some.inj ((congrArg authority (Except.ok.inj hread)).trans hsome)
      refine ⟨rfl, rfl, ?_⟩
      split at htext
      · exact absurd htext.symm hne
      · next hnot => simpa using hnot

/-! ### Schemes -/

theorem isSchemeChar_toLower {c : Char} (h : isSchemeChar c = true) :
    isSchemeChar c.toLower = true ∧ c.toLower.toLower = c.toLower ∧ 32 < c.toLower.toNat := by
  refine of_ascii (p := fun c => isSchemeChar c = true →
    isSchemeChar c.toLower = true ∧ c.toLower.toLower = c.toLower ∧ 32 < c.toLower.toNat) (by decide) ?_ h
  simp only [isSchemeChar, Bool.or_eq_true, beq_iff_eq] at h
  rcases h with ((h | rfl) | rfl) | rfl
  · exact lt_of_isAlphanum h
  · decide
  · decide
  · decide

theorem isAlpha_toLower {c : Char} (h : c.isAlpha = true) : c.toLower.isAlpha = true :=
  of_ascii (p := fun c => c.isAlpha = true → c.toLower.isAlpha = true) (by decide)
    (lt_of_isAlphanum (by rw [Char.isAlphanum, h, Bool.true_or])) h

/-- A scheme in small letters is read as it stands. -/
theorem splitScheme?_append {c : Char} {name : List Char} (hletter : c.isAlpha = true)
    (hname : ∀ d ∈ c :: name, isSchemeChar d = true) (hlower : ∀ d ∈ c :: name, d.toLower = d) (rest : List Char) :
    splitScheme? (c :: name ++ ':' :: rest) = some (String.ofList (c :: name), rest) := by
  have hcolon : ':' ∉ c :: name := fun hmem => absurd (hname _ hmem) (by decide)
  have hsame : (c :: name).map Char.toLower = c :: name := (List.map_congr_left hlower).trans (List.map_id _)
  have hrest : name.all isSchemeChar = true :=
    List.all_eq_true.mpr fun d hd => hname d (List.mem_cons_of_mem c hd)
  rw [splitScheme?, Text.cut_append hcolon]
  dsimp only
  rw [hletter, hrest, hsame]
  rfl

/-- A scheme that has been read is read again, whatever follows. -/
structure IsScheme (scheme : String) : Prop where
  again : ∀ rest, splitScheme? (scheme.toList ++ ':' :: rest) = some (scheme, rest)
  visible : IsVisible scheme.toList

theorem isScheme_of_splitScheme? (h : splitScheme? cs = some (scheme, rest)) : IsScheme scheme := by
  unfold splitScheme? at h
  split at h
  · next c name rest' hcut =>
    split at h
    · next hgood =>
      obtain ⟨rfl, rfl⟩ := Prod.mk.inj (Option.some.inj h)
      obtain ⟨hletter, hname⟩ := Bool.and_eq_true_iff.mp hgood
      have hall : ∀ d ∈ c :: name, isSchemeChar d = true :=
        List.forall_mem_cons.mpr ⟨by simp [isSchemeChar, Char.isAlphanum, hletter], List.all_eq_true.mp hname⟩
      have hlower : ∀ d ∈ (c :: name).map Char.toLower, isSchemeChar d = true ∧ d.toLower = d ∧ 32 < d.toNat :=
        List.forall_mem_map.mpr fun d hd => isSchemeChar_toLower (hall d hd)
      refine ⟨fun rest => ?_, fun d hd => ?_⟩
      · rw [String.toList_ofList]
        exact splitScheme?_append (isAlpha_toLower hletter) (fun d hd => (hlower d hd).1)
          (fun d hd => (hlower d hd).2.1) rest
      · rw [String.toList_ofList] at hd
        exact (hlower d hd).2.2
    · exact absurd h.symm (Option.some_ne_none _)
  · exact absurd h.symm (Option.some_ne_none _)

/-! ### Reading what has been written -/

/-- Nothing is taken away where there are no blanks. -/
theorem clean_ofList (h : IsVisible cs) : clean (String.ofList cs) = cs := by
  have hkeep {l : List Char} (hl : IsVisible l) : l.dropWhile (fun c => c.toNat ≤ 32) = l := by
    cases l with
    | nil => rfl
    | cons c l =>
      have hc := hl c List.mem_cons_self
      simp [hc]
  have hline : ∀ c ∈ cs, (!isLineBreak c) = true := fun c hc => by
    have hvisible := h c hc
    have hne (d : Char) (hd : d.toNat ≤ 32) : (c == d) = false := by
      rw [beq_eq_false_iff_ne]
      rintro rfl
      omega
    rw [isLineBreak, hne '\t' (by decide), hne '\n' (by decide), hne '\r' (by decide)]
    rfl
  rw [clean, String.toList_ofList, Text.trimWhile, hkeep h, hkeep (by simpa [IsVisible] using h), List.reverse_reverse,
    List.filter_eq_self.mpr hline]

theorem parse_ofList (hscheme : IsScheme scheme) (h : IsVisible cs) :
    parse (String.ofList (scheme.toList ++ ':' :: cs)) =
      if scheme = "file" then parseFile scheme cs
      else if isSpecial scheme then parseWeb scheme cs
      else parseOther scheme cs := by
  have hvisible : IsVisible (scheme.toList ++ ':' :: cs) :=
    List.forall_mem_append.mpr ⟨hscheme.visible, List.forall_mem_cons.mpr ⟨by decide, h⟩⟩
  rw [parse, clean_ofList hvisible, hscheme.again]

end TableQuery.Url.Address
