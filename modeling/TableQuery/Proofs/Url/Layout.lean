import TableQuery.Proofs.Url.Reading

/-! What addresses look like that have been read.

The text of an address is that of its scheme, authority and path (`front`), then of its query and fragment
(`tailText`). Whatever text it was read from, the address of a base is laid out in one of four ways (`Layout`), by what
its scheme asks for and whether it has an authority, and each part holds only what may stand there
(`isWritten_of_parse`). A path without an authority may have to be written with a dot before it, which is no part of it
(`pathname`). -/
namespace TableQuery.Url.Address
open Url.Path
variable {scheme text : String} {a : Address} {cs rest : List Char} {ts segs : List (List Char)}

/-! ### The parts of the text -/

/-- The text before the query and the fragment. -/
def front (a : Address) : List Char :=
  a.scheme.toList ++ ':' :: (a.authority.elim [] (fun text => '/' :: '/' :: text.toList) ++ a.path.toList)

/-- The text of the query and the fragment. -/
def tailText (a : Address) : List Char :=
  a.query.elim [] (fun text => '?' :: text.toList) ++ a.fragment.elim [] fun text => '#' :: text.toList

theorem render_eq (a : Address) : a.render = String.ofList (a.front ++ a.tailText) := by
  obtain ⟨scheme, authority, path, query, fragment, isBase⟩ := a
  rw [← String.toList_inj, String.toList_ofList]
  cases authority <;> cases query <;> cases fragment <;> simp [render, front, tailText]

theorem tailText_eq_nil_iff (a : Address) : a.tailText = [] ↔ a.query = none ∧ a.fragment = none := by
  unfold tailText
  cases a.query <;> cases a.fragment <;> simp

theorem isGraphic_of_plainInQuery {special : Bool} {c : Char} (h : plainInQuery special c = true) :
    isGraphic c = true := (Bool.and_eq_true_iff.mp (Bool.and_eq_true_iff.mp h).1).1

theorem visible_encodeWith {plain : Char → Bool} (hplain : ∀ c, plain c = true → isGraphic c = true)
    (cs : List Char) : IsVisible (encodeWith plain cs).toList := by
  intro c hc
  rw [encodeWith, String.toList_ofList] at hc
  exact lt_of_isGraphic (Form.forall_mem_encodeUnless hplain (by decide) cs c hc)

theorem isTail_tailText (scheme : String) (authority : Option String) (isBase : Bool) (path : String)
    (parts : Option (List Char) × Option (List Char)) :
    IsTail (assemble scheme authority isBase path parts).tailText := by
  obtain ⟨query, fragment⟩ := parts
  have hquery (text : List Char) : IsVisible (encodeWith (plainInQuery (isSpecial scheme)) text).toList :=
    visible_encodeWith (fun _ => isGraphic_of_plainInQuery) text
  have hfragment (text : List Char) : IsVisible (encodeWith plainInFragment text).toList :=
    visible_encodeWith (fun _ => isGraphic_of_plainInFragment) text
  constructor
  · intro c hc
    cases query with
    | some text => exact .inl (Option.some.inj hc).symm
    | none =>
      cases fragment with
      | some text => exact .inr (Option.some.inj hc).symm
      | none => exact nomatch hc
  · refine List.forall_mem_append.mpr ⟨?_, ?_⟩
    · cases query with
      | none => exact fun c hc => nomatch hc
      | some text => exact List.forall_mem_cons.mpr ⟨by decide, hquery text⟩
    · cases fragment with
      | none => exact fun c hc => nomatch hc
      | some text => exact List.forall_mem_cons.mpr ⟨by decide, hfragment text⟩

/-! ### What has been read -/

theorem isInside_of_readFileHost {host : String} (h : readFileHost cs = .ok host) :
    ∀ c ∈ host.toList, isInside c = true := by
  unfold readFileHost at h
  split at h
  · obtain rfl := Except.ok.inj h
    exact fun c hc => nomatch hc
  · obtain ⟨written, hwritten, rfl⟩ := Chained.map_eq_ok.mp h
    split
    · exact fun c hc => nomatch hc
    · exact Host.isInside_of_parse hwritten

theorem isInside_of_splitFile {host : String} (h : splitFile cs = .ok (host, rest)) :
    ∀ c ∈ host.toList, isInside c = true := by
  have hempty : ∀ c ∈ "".toList, isInside c = true := fun c hc => nomatch hc
  unfold splitFile at h
  split at h
  · split at h
    · dsimp only at h
      split at h
      · exact (Prod.mk.inj (Except.ok.inj h)).1 ▸ hempty
      · obtain ⟨written, hwritten, h⟩ := Chained.map_eq_ok.mp h
        exact (Prod.mk.inj h).1 ▸ isInside_of_readFileHost hwritten
    · exact (Prod.mk.inj (Except.ok.inj h)).1 ▸ hempty
  · exact (Prod.mk.inj (Except.ok.inj h)).1 ▸ hempty

/-- A file's path begins with no empty segment, if it has others. -/
def IsFront (segs : List (List Char)) : Prop := segs = [[]] ∨ ∃ s, s ≠ [] ∧ segs.head? = some s

theorem IsFront.ne_nil (h : IsFront segs) : segs ≠ [] := by
  rintro rfl
  rcases h with h | ⟨s, -, h⟩ <;> exact nomatch h

theorem isFront_trimFront (segs : List (List Char)) : IsFront (trimFront segs) := by
  induction segs with
  | nil => exact .inl rfl
  | cons s rest ih =>
    cases s with
    | nil => exact ih
    | cons c s => exact .inr ⟨c :: s, List.cons_ne_nil c s, rfl⟩

theorem trimFront_of_isFront (h : IsFront segs) : trimFront segs = segs := by
  rcases h with rfl | ⟨s, hs, hhead⟩
  · rfl
  · obtain ⟨rest, rfl⟩ := List.head?_eq_some_iff.mp hhead
    cases s with
    | nil => exact absurd rfl hs
    | cons c s => rfl

theorem mem_trimFront {s : List Char} (h : s ∈ trimFront segs) : s = [] ∨ s ∈ segs := by
  unfold trimFront at h
  split at h
  · exact .inl (List.mem_singleton.mp h)
  · exact .inr ((List.dropWhile_sublist _).subset h)

/-- How the address of a base is put together: what may stand in each of its parts. -/
inductive Layout (a : Address) : Prop
  | web {text : String} {segs : List (List Char)} (hspecial : isSpecial a.scheme = true) (hscheme : a.scheme ≠ "file")
    (hauthority : a.authority = some text) (hinside : ∀ c ∈ text.toList, isInside c = true) (hhost : text ≠ "")
    (hsegs : segs ≠ []) (hsegment : ∀ s ∈ segs, IsSegment true s) (hpath : a.path = Path.render segs)
  | file {text : String} {segs : List (List Char)} (hscheme : a.scheme = "file") (hauthority : a.authority = some text)
    (hinside : ∀ c ∈ text.toList, isInside c = true) (hfront : IsFront segs)
    (hsegment : ∀ s ∈ segs, IsSegment true s) (hpath : a.path = Path.render segs)
  | named {text : String} {segs : List (List Char)} (hspecial : isSpecial a.scheme = false)
    (hauthority : a.authority = some text) (hinside : ∀ c ∈ text.toList, isInside c = true)
    (hsegment : ∀ s ∈ segs, IsSegment false s) (hpath : a.path = pathOf segs)
  | rooted {segs : List (List Char)} (hspecial : isSpecial a.scheme = false) (hauthority : a.authority = none)
    (hsegs : segs ≠ []) (hsegment : ∀ s ∈ segs, IsSegment false s) (hpath : a.path = guardPath (Path.render segs))

theorem layout_of_parseWeb (hspecial : isSpecial scheme = true) (hscheme : scheme ≠ "file")
    (h : parseWeb scheme cs = .ok a) : a.scheme = scheme ∧ IsTail a.tailText ∧ Layout a := by
  unfold parseWeb at h
  obtain ⟨r, hr, h⟩ := Chained.bind_eq_ok.mp h
  obtain rfl := Except.ok.inj h
  exact ⟨rfl, isTail_tailText _ _ _ _ _, .web hspecial hscheme rfl (isInside_of_readAuthority hr)
    (ne_empty_of_readAuthority hspecial hr) (readSegments_ne_nil _)
    (fun s hs => isSegment_of_mem_readSegments hs) rfl⟩

theorem layout_of_parseFile (hscheme : scheme = "file") (h : parseFile scheme cs = .ok a) :
    a.scheme = scheme ∧ IsTail a.tailText ∧ Layout a := by
  unfold parseFile at h
  obtain ⟨⟨host, rest⟩, hsplit, h⟩ := Chained.bind_eq_ok.mp h
  dsimp only at h
  generalize splitTail rest = parts at h
  obtain rfl := Except.ok.inj h
  refine ⟨rfl, isTail_tailText _ _ _ _ _, .file hscheme rfl ?_ (isFront_trimFront _) (fun s hs => ?_) rfl⟩
  · split
    · simp
    · exact isInside_of_splitFile hsplit
  · rcases mem_trimFront hs with rfl | hs
    · exact isSegment_nil
    · exact isSegment_of_mem_readSegments hs

theorem layout_of_parseOther (hspecial : isSpecial scheme = false) (h : parseOther scheme cs = .ok a)
    (hbase : a.isBase = true) : a.scheme = scheme ∧ IsTail a.tailText ∧ Layout a := by
  unfold parseOther at h
  split at h
  · obtain ⟨⟨text, left⟩, hr, h⟩ := Chained.bind_eq_ok.mp h
    dsimp only at h
    generalize splitTail _ = parts at h
    obtain rfl := Except.ok.inj h
    have hinside := isInside_of_readAuthority hr
    by_cases hpath : parts.1.isEmpty = true
    · exact ⟨rfl, isTail_tailText _ _ _ _ _, .named hspecial rfl hinside (List.forall_mem_nil _) (if_pos hpath)⟩
    · have hsegment : ∀ s ∈ readSegments false false (dropSlash false parts.1), IsSegment false s :=
        fun s hs => isSegment_of_mem_readSegments hs
      refine ⟨rfl, isTail_tailText _ _ _ _ _, .named hspecial rfl hinside hsegment ?_⟩
      exact (if_neg hpath).trans (if_neg (readSegments_ne_nil _)).symm
  · dsimp only at h
    generalize splitTail cs = parts at h
    split at h
    · obtain rfl := Except.ok.inj h
      exact ⟨rfl, isTail_tailText _ _ _ _ _, .rooted hspecial rfl (readSegments_ne_nil _)
        (fun s hs => isSegment_of_mem_readSegments hs) rfl⟩
    · obtain rfl := Except.ok.inj h
      exact absurd hbase Bool.false_ne_true

/-- What is known of the address of a base, without reading it again. -/
structure IsWritten (a : Address) : Prop where
  scheme : IsScheme a.scheme
  tail : IsTail a.tailText
  layout : Layout a

theorem isWritten_of_parse (h : parse text = .ok a) (hbase : a.isBase = true) : IsWritten a := by
  unfold parse at h
  split at h
  · exact nomatch h
  next scheme rest hsplit =>
  have hall : a.scheme = scheme ∧ IsTail a.tailText ∧ Layout a := by
    split at h
    · next hfile => exact layout_of_parseFile hfile h
    next hfile =>
    split at h
    · next hspecial => exact layout_of_parseWeb hspecial hfile h
    · next hspecial => exact layout_of_parseOther (by simpa using hspecial) h hbase
  exact ⟨hall.1 ▸ isScheme_of_splitScheme? hsplit, hall.2.1, hall.2.2⟩

/-! ### Paths -/

/-- The path, without the dot that keeps it from being taken for an authority. -/
def pathname (a : Address) : String :=
  if a.authority.isNone && "/.//".isPrefixOf a.path then String.ofList (a.path.toList.drop 2) else a.path

theorem pathname_of_authority (h : a.authority = some text) : a.pathname = a.path := by
  rw [pathname, h]
  rfl

theorem toList_pathOf (ts : List (List Char)) : (pathOf ts).toList = joined ts := by
  unfold pathOf
  split
  · next hts => rw [hts]; rfl
  · next hts => exact toList_render hts

theorem isPrefixOf_iff (p s : String) : p.isPrefixOf s = true ↔ p.toList <+: s.toList :=
  String.startsWith_string_iff

theorem isDouble_iff (h : ∀ t ∈ ts, '/' ∉ t) : "//".toList <+: joined ts ↔ isDouble ts = true := by
  constructor
  · rintro ⟨rest, hrest⟩
    cases ts with
    | nil => exact nomatch hrest
    | cons t ts =>
      have hrest : '/' :: rest = t ++ joined ts := (List.cons.inj hrest).2
      cases t with
      | cons c t =>
        obtain rfl := (List.cons.inj hrest).1
        exact absurd List.mem_cons_self (h _ List.mem_cons_self)
      | nil =>
        cases ts with
        | nil => exact nomatch hrest
        | cons u us => rfl
  · intro hdouble
    match ts, hdouble with
    | [] :: _ :: _, _ => exact ⟨_, rfl⟩

theorem toList_guardPath (hts : ts ≠ []) (h : ∀ t ∈ ts, '/' ∉ t) : (guardPath (Path.render ts)).toList =
    if isDouble ts then '/' :: '.' :: joined ts else joined ts := by
  have hiff := isPrefixOf_iff "//" (Path.render ts)
  rw [toList_render hts, isDouble_iff h] at hiff
  unfold guardPath
  by_cases hdouble : isDouble ts = true
  · rw [if_pos (hiff.mpr hdouble), if_pos hdouble, String.toList_append, toList_render hts]
    rfl
  · rw [if_neg (mt hiff.mp hdouble), if_neg hdouble, toList_render hts]

theorem pathname_guardPath (hts : ts ≠ []) (h : ∀ t ∈ ts, IsSegment false t) (hauthority : a.authority = none)
    (hpath : a.path = guardPath (Path.render ts)) : a.pathname.toList = joined ts := by
  have hslash : ∀ t ∈ ts, '/' ∉ t := fun t ht => (h t ht).unbroken.slash_not_mem
  have hiff := isPrefixOf_iff "/.//" a.path
  rw [hpath, toList_guardPath hts hslash] at hiff
  rw [pathname, hauthority, Option.isNone_none, Bool.true_and, hpath]
  split at hiff
  · next hdouble =>
    have hbegin : "/.//".toList <+: '/' :: '.' :: joined ts := by
      obtain ⟨rest, hrest⟩ := (isDouble_iff hslash).mpr hdouble
      exact ⟨rest, by rw [← hrest]; rfl⟩
    rw [if_pos (hiff.mpr hbegin), String.toList_ofList, toList_guardPath hts hslash, if_pos hdouble]
    rfl
  · next hdouble =>
    -- A path that begins so would have a dot for its first segment.
    have hnot : ¬ "/.//".toList <+: joined ts := by
      rintro ⟨rest, hrest⟩
      cases ts with
      | nil => exact hts rfl
      | cons t ts =>
        have hrest : '.' :: '/' :: '/' :: rest = t ++ joined ts := (List.cons.inj hrest).2
        cases t with
        | nil => cases ts <;> exact absurd hrest (by simp [joined])
        | cons c t =>
          obtain ⟨rfl, hbehind⟩ := List.cons.inj hrest
          cases t with
          | nil => exact absurd (h _ List.mem_cons_self).single (by decide)
          | cons d t =>
            obtain rfl := (List.cons.inj hbehind).1
            exact hslash _ List.mem_cons_self (by simp)
    rw [if_neg (mt hiff.mp hnot), toList_guardPath hts hslash, if_neg hdouble]

end TableQuery.Url.Address
