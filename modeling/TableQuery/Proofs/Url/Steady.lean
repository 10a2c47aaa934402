import TableQuery.Proofs.Url.Layout

/-! Addresses that stay what they are when something is written behind them.

Where an address is read back from its own text, the text before its path leads to any other path in the same way
(`Leads`): for a web address, one of a file, one with an authority and one without, because the readers take the
authority alone (`leads_web`, `leads_file_host`, `leads_named`, `leads_rooted`). So its path stays as it is whatever
query or fragment follows, and a name written behind its last segment is one segment more (`steady_of_parse`). -/
namespace TableQuery.Url.Address
open Url.Path
variable {scheme text : String} {special : Bool} {a : Address} {auth cs t tail : List Char}
  {ts segs : List (List Char)}

/-- With this end, the text is read as an address with this path, and with the query of the end. -/
def IsReadAs (cs tail path : List Char) : Prop :=
  ∃ u, parse (String.ofList (cs ++ tail)) = .ok u ∧ u.pathname.toList = path ∧
    ∃ special, u.query = (splitTail tail).2.1.map (encodeWith (plainInQuery special))

theorem isReadAs_of_parse {text path : String}
    (h : parse (String.ofList (cs ++ tail)) = .ok (assemble scheme (some text) true path (splitTail tail).2)) :
    IsReadAs cs tail path.toList :=
  ⟨_, h, by rw [pathname_of_authority rfl]; rfl, _, rfl⟩

theorem isReadAs_of_guarded (h : parse (String.ofList (cs ++ tail)) =
    .ok (assemble scheme none true (guardPath (Path.render ts)) (splitTail tail).2)) (hts : ts ≠ [])
    (hsegment : ∀ t ∈ ts, IsSegment false t) : IsReadAs cs tail (joined ts) :=
  ⟨_, h, pathname_guardPath hts hsegment rfl rfl, _, rfl⟩

/-- Every path of a kind, written of segments behind the text, is read as it is meant. -/
def Leads (special : Bool) (start : List Char) (good : List (List Char) → List Char → Prop) : Prop :=
  ∀ ts tail, good ts tail → (∀ t ∈ ts, Fits special t) → IsTail tail →
    IsReadAs (start ++ joined ts) tail (joined (ts.map encode))

theorem visible_joined (h : ∀ t ∈ ts, Fits special t) : IsVisible (joined ts) := by
  intro c hc
  rcases mem_joined hc with rfl | ⟨t, ht, hct⟩
  · decide
  · exact (h t ht).visible c hct

theorem ne_file_of_not_special (h : isSpecial scheme = false) : scheme ≠ "file" := by
  rintro rfl
  exact absurd h (by decide)

/-! ### Behind an authority -/

/-- The beginning of an address with an authority. -/
def stem (scheme : String) (auth : List Char) : List Char := scheme.toList ++ ':' :: '/' :: '/' :: auth

theorem front_of_authority (h : a.authority = some text) :
    a.front = stem a.scheme text.toList ++ a.path.toList := by
  simp [front, h, stem]

theorem stem_append (scheme : String) (auth cs tail : List Char) :
    stem scheme auth ++ cs ++ tail = scheme.toList ++ ':' :: '/' :: '/' :: (auth ++ (cs ++ tail)) := by
  simp [stem]

theorem visible_authority (hinside : ∀ c ∈ auth, isInside c = true) (h : ∀ t ∈ ts, Fits special t)
    (htail : IsTail tail) : IsVisible ('/' :: '/' :: (auth ++ (joined ts ++ tail))) := by
  have hauth : IsVisible auth := fun c hc => lt_of_isGraphic (isInside_iff.mp (hinside c hc)).1
  exact List.forall_mem_cons.mpr ⟨by decide, List.forall_mem_cons.mpr ⟨by decide,
    List.forall_mem_append.mpr ⟨hauth, List.forall_mem_append.mpr ⟨visible_joined h, htail.visible⟩⟩⟩⟩

theorem parse_web (hscheme : IsScheme scheme) (hspecial : isSpecial scheme = true) (hfile : scheme ≠ "file")
    (hinside : ∀ c ∈ auth, isInside c = true) (hne : auth ≠ []) (hts : ts ≠ []) (h : ∀ t ∈ ts, Fits true t)
    (htail : IsTail tail) :
    parse (String.ofList (stem scheme auth ++ joined ts ++ tail)) = (readAuthority scheme auth false).map fun r =>
      assemble scheme (some r.1) true (Path.render (ts.map encode)) (splitTail tail).2 := by
  rw [stem_append, parse_ofList hscheme (visible_authority hinside h htail), if_neg hfile, if_pos hspecial,
    parseWeb_joined hinside hne hts h htail]

theorem leads_web (hscheme : IsScheme scheme) (hspecial : isSpecial scheme = true) (hfile : scheme ≠ "file")
    (hinside : ∀ c ∈ auth, isInside c = true) (hne : auth ≠ []) (hts : ts ≠ []) (h : ∀ t ∈ ts, Fits true t)
    (htail : IsTail tail) (hread : parse (String.ofList (stem scheme auth ++ joined ts ++ tail)) = .ok a) :
    Leads true (stem scheme auth) fun ts _ => ts ≠ [] := by
  rw [parse_web hscheme hspecial hfile hinside hne hts h htail] at hread
  obtain ⟨r, hr, -⟩ := Chained.map_eq_ok.mp hread
  intro us tail hus hfits htail
  have hparse := parse_web hscheme hspecial hfile hinside hne hus hfits htail
  rw [hr] at hparse
  have hresult := isReadAs_of_parse hparse
  rwa [toList_render (mt List.map_eq_nil_iff.mp hus)] at hresult

theorem parse_named (hscheme : IsScheme scheme) (hspecial : isSpecial scheme = false)
    (hinside : ∀ c ∈ auth, isInside c = true) (h : ∀ t ∈ ts, Fits false t) (htail : IsTail tail) :
    parse (String.ofList (stem scheme auth ++ joined ts ++ tail)) =
      (readAuthority scheme auth (joined ts ++ tail).isEmpty).map fun r =>
        assemble scheme (some r.1) true (pathOf (ts.map encode)) (splitTail tail).2 := by
  rw [stem_append, parse_ofList hscheme (visible_authority hinside h htail),
    if_neg (ne_file_of_not_special hspecial), if_neg (by simp [hspecial]), parseOther_authority hinside h htail]

theorem leads_named (hscheme : IsScheme scheme) (hspecial : isSpecial scheme = false)
    (hinside : ∀ c ∈ text.toList, isInside c = true) (h : ∀ t ∈ ts, Fits false t) (htail : IsTail tail)
    (hauthority : a.authority = some text)
    (hread : parse (String.ofList (stem scheme text.toList ++ joined ts ++ tail)) = .ok a) :
    Leads false (stem scheme text.toList) fun ts tail => (joined ts ++ tail).isEmpty = false := by
  rw [parse_named hscheme hspecial hinside h htail] at hread
  obtain ⟨⟨text', left⟩, hr, ha⟩ := Chained.map_eq_ok.mp hread
  obtain rfl : text' = text := Option.some.inj ((congrArg authority ha).trans hauthority)
  -- Read back as it is, it is no lone mark, which only the end of the address makes readable.
  have hlone : text'.toList ≠ ['@'] := by
    intro hlone
    rw [hlone] at hr
    exact ne_of_readAuthority_lone hr (String.toList_inj.mp hlone)
  rw [readAuthority_atEnd hlone] at hr
  intro us tail hus hfits htail
  have hparse := parse_named hscheme hspecial hinside hfits htail
  rw [hus, hr] at hparse
  have hresult := isReadAs_of_parse hparse
  rwa [toList_pathOf] at hresult

/-! ### Files -/

theorem leads_file (hscheme : IsScheme "file") : Leads true (stem "file" []) fun ts _ => IsFront (ts.map encode) := by
  intro ts tail hfront hfits htail
  have hnone : ∀ c ∈ ([] : List Char), isInside c = true := fun _ hc => nomatch hc
  have hparse := parse_ofList hscheme (visible_authority hnone hfits htail)
  rw [if_pos rfl, ← stem_append, List.nil_append, parseFile_joined hfits htail, trimFront_of_isFront hfront] at hparse
  have hresult := isReadAs_of_parse hparse
  rwa [toList_render hfront.ne_nil] at hresult

theorem leads_file_host (hscheme : IsScheme "file") (hinside : ∀ c ∈ text.toList, isInside c = true)
    (hne : text ≠ "") (ht : Fits true t) (h : ∀ t ∈ ts, Fits true t) (htail : IsTail tail)
    (hauthority : a.authority = some text)
    (hread : parse (String.ofList (stem "file" text.toList ++ joined (t :: ts) ++ tail)) = .ok a) :
    isDrive (encode t) = false ∧ Leads true (stem "file" text.toList) fun ts _ =>
      IsFront (ts.map encode) ∧ (ts.map encode).head?.any isDrive = false := by
  have hfits : ∀ s ∈ t :: ts, Fits true s := List.forall_mem_cons.mpr ⟨ht, h⟩
  rw [stem_append, parse_ofList hscheme (visible_authority hinside hfits htail), if_pos rfl] at hread
  obtain ⟨hdrive, hhost, hfirst⟩ := host_of_parseFile hinside ht h htail hread hauthority hne
  refine ⟨hfirst, ?_⟩
  rintro us tail ⟨hfront, hnone⟩ hfits htail
  cases us with
  | nil => exact absurd rfl hfront.ne_nil
  | cons u us =>
    obtain ⟨hu, hus⟩ := List.forall_mem_cons.mp hfits
    rw [List.map_cons, List.head?_cons, Option.any_some] at hnone
    have hparse := parse_ofList hscheme (visible_authority hinside hfits htail)
    rw [if_pos rfl, ← stem_append, parseFile_host hinside hdrive hhost hne hu hus htail, hnone,
      enter_of_not_drive hnone, ← List.map_cons, trimFront_of_isFront hfront] at hparse
    have hresult := isReadAs_of_parse hparse
    rwa [toList_render hfront.ne_nil] at hresult

/-! ### Without an authority -/

theorem leads_rooted (hscheme : IsScheme scheme) (hspecial : isSpecial scheme = false) :
    Leads false (scheme.toList ++ [':']) fun ts _ => ts ≠ [] ∧ isDouble ts = false := by
  rintro ts tail ⟨hts, hdouble⟩ hfits htail
  have hall : IsVisible (joined ts ++ tail) := List.forall_mem_append.mpr ⟨visible_joined hfits, htail.visible⟩
  have hparse := parse_ofList hscheme hall
  rw [if_neg (ne_file_of_not_special hspecial), if_neg (by simp [hspecial]), parseOther_rooted hts hdouble hfits htail,
    ← List.singleton_append, ← List.append_assoc, ← List.append_assoc] at hparse
  exact isReadAs_of_guarded hparse (mt List.map_eq_nil_iff.mp hts)
    (List.forall_mem_map.mpr fun t ht => (hfits t ht).isSegment_encode)

theorem leads_dotted (hscheme : IsScheme scheme) (hspecial : isSpecial scheme = false) :
    Leads false (scheme.toList ++ [':', '/', '.']) fun ts _ => ts ≠ [] := by
  intro ts tail hts hfits htail
  have hall : IsVisible ('/' :: '.' :: (joined ts ++ tail)) :=
    List.forall_mem_cons.mpr ⟨by decide, List.forall_mem_cons.mpr ⟨by decide,
      List.forall_mem_append.mpr ⟨visible_joined hfits, htail.visible⟩⟩⟩
  have htext : scheme.toList ++ [':', '/', '.'] ++ joined ts ++ tail =
      scheme.toList ++ ':' :: '/' :: '.' :: (joined ts ++ tail) := by simp
  have hparse := parse_ofList hscheme hall
  rw [if_neg (ne_file_of_not_special hspecial), if_neg (by simp [hspecial]), parseOther_dotted hts hfits htail,
    ← htext] at hparse
  exact isReadAs_of_guarded hparse (mt List.map_eq_nil_iff.mp hts)
    (List.forall_mem_map.mpr fun t ht => (hfits t ht).isSegment_encode)

/-! ### One segment more -/

/-- A name that can be added to a path. -/
structure IsName (t : List Char) : Prop extends Fits true t where
  ne_nil : encode t ≠ []
  not_drive : isDrive (encode t) = false

theorem IsName.isFront (h : IsName t) : IsFront ([t].map encode) := .inr ⟨encode t, h.ne_nil, rfl⟩

/-- An address whose path stays what it is with any query or fragment behind it, and grows by a name behind one
slash. -/
structure IsSteady (a : Address) : Prop where
  kept : ∀ tail, tail ≠ [] → IsTail tail → IsReadAs a.front tail a.pathname.toList
  grown : ∀ t tail, IsName t → IsTail tail →
    IsReadAs (a.front.rdropWhile (· == '/') ++ '/' :: t) tail
      (a.pathname.toList.rdropWhile (· == '/') ++ '/' :: encode t)

theorem map_encode_of_isSegment (h : ∀ s ∈ segs, IsSegment special s) : segs.map encode = segs :=
  (List.map_congr_left fun s hs => encode_of_plain (h s hs).plain).trans (List.map_id _)

theorem map_encode_trimBack (h : ∀ s ∈ segs, IsSegment special s) (t : List Char) :
    (trimBack segs ++ [t]).map encode = trimBack segs ++ [encode t] := by
  rw [List.map_append, map_encode_of_isSegment fun s hs => h s ((trimBack_isPrefix segs).subset hs)]
  rfl

theorem Leads.single {start : List Char} {good : List (List Char) → List Char → Prop}
    (hleads : Leads special start good) (ht : IsName t) (hgood : good [t] tail) (htail : IsTail tail) :
    IsReadAs (start ++ '/' :: t) tail ('/' :: encode t) := by
  have hread := hleads [t] tail hgood (fun s hs => List.mem_singleton.mp hs ▸ ht.toFits.of_special) htail
  simpa [joined_cons] using hread

/-- Where all segments are empty, so that the slashes before the path go too, the name has to be looked at by itself
(`hnone`). -/
theorem steady_of_leads {start : List Char} {good : List (List Char) → List Char → Prop}
    (hleads : Leads special start good) (hfront : a.front = start ++ joined segs)
    (hpath : a.pathname.toList = joined segs) (hsegment : ∀ s ∈ segs, IsSegment special s)
    (hkept : ∀ tail, tail ≠ [] → good segs tail)
    (hmore : ∀ t tail, trimBack segs ≠ [] → good (trimBack segs ++ [t]) tail)
    (hnone : ∀ t tail, IsName t → IsTail tail →
      IsReadAs (start.rdropWhile (· == '/') ++ '/' :: t) tail ('/' :: encode t)) : IsSteady a where
  kept tail hne htail := by
    have hread := hleads segs tail (hkept tail hne) (fun s hs => .of_isSegment (hsegment s hs)) htail
    rwa [map_encode_of_isSegment hsegment, ← hfront, ← hpath] at hread
  grown t tail ht htail := by
    have hslash : ∀ s ∈ segs, '/' ∉ s := fun s hs => (hsegment s hs).unbroken.slash_not_mem
    have htrim : (joined segs).rdropWhile (· == '/') = joined (trimBack segs) := by
      have h := rdropWhile_append_joined [] hslash
      rw [List.nil_append] at h
      rw [h]
      split
      · next hnil => rw [hnil]; rfl
      · rfl
    rw [hfront, hpath, htrim, rdropWhile_append_joined start hslash]
    split
    · next hnil =>
      rw [hnil]
      exact hnone t tail ht htail
    · next hne =>
      have hfits : ∀ s ∈ trimBack segs ++ [t], Fits special s := List.forall_mem_append.mpr
        ⟨fun s hs => .of_isSegment (hsegment s ((trimBack_isPrefix segs).subset hs)),
          fun s hs => List.mem_singleton.mp hs ▸ ht.toFits.of_special⟩
      have hread := hleads (trimBack segs ++ [t]) tail (hmore t tail hne) hfits htail
      rw [map_encode_trimBack hsegment, joined_append, joined_append] at hread
      simpa [joined_cons] using hread

/-! ### What is left of the segments -/

theorem isDouble_singleton (t : List Char) : isDouble [t] = false := by
  cases t <;> rfl

theorem head?_trimBack (h : trimBack segs ≠ []) : (trimBack segs).head? = segs.head? := by
  obtain ⟨rest, hrest⟩ := trimBack_isPrefix segs
  conv_rhs => rw [← hrest, List.head?_append_of_ne_nil _ h]

theorem isFront_of_trimBack (h : IsFront segs) (hne : trimBack segs ≠ []) : IsFront (trimBack segs ++ [t]) := by
  rcases h with rfl | ⟨s, hs, hhead⟩
  · exact absurd rfl hne
  · exact .inr ⟨s, hs, by rw [List.head?_append_of_ne_nil _ hne, head?_trimBack hne, hhead]⟩

/-- What is left of the segments ends in one that is not empty. -/
theorem isDouble_of_trimBack (h : isDouble segs = false) (hne : trimBack segs ≠ []) :
    isDouble (trimBack segs ++ [t]) = false := by
  have hlast : ¬ ((trimBack segs).getLast hne).isEmpty = true := List.rdropWhile_last_not List.isEmpty segs hne
  obtain ⟨rest, hrest⟩ := trimBack_isPrefix segs
  rw [← hrest] at h
  match hback : trimBack segs with
  | [] => exact absurd hback hne
  | (c :: s) :: us => rfl
  | [[]] => simp [hback] at hlast
  | [] :: u :: us => simp [hback, isDouble] at h

theorem rdropWhile_stem (hinside : ∀ c ∈ auth, isInside c = true) (hne : auth ≠ []) :
    (stem scheme auth).rdropWhile (· == '/') = stem scheme auth := by
  have hslash : '/' ∉ auth := fun hmem => absurd (hinside _ hmem) (by decide)
  have htext : stem scheme auth = (scheme.toList ++ [':', '/', '/']) ++ auth := by simp [stem]
  rw [htext, rdropWhile_append _ hne hslash]

/-- Without anything in it, an authority is taken away with the slashes before it. -/
theorem rdropWhile_stem_nil (scheme : String) : (stem scheme []).rdropWhile (· == '/') = scheme.toList ++ [':'] := by
  have htext : stem scheme [] = scheme.toList ++ [':'] ++ ['/'] ++ ['/'] := by simp [stem]
  rw [htext, List.rdropWhile_concat_pos _ _ _ (by decide), List.rdropWhile_concat_pos _ _ _ (by decide),
    rdropWhile_append _ (List.cons_ne_nil _ []) (by decide)]

/-! ### Steady addresses -/

/-- A name behind the scheme of a file is a path on this machine. -/
theorem isReadAs_file (hscheme : IsScheme "file") (ht : IsName t) (htail : IsTail tail) :
    IsReadAs ("file".toList ++ [':'] ++ '/' :: t) tail ('/' :: encode t) := by
  have hall : IsVisible ('/' :: (t ++ tail)) :=
    List.forall_mem_cons.mpr ⟨by decide, List.forall_mem_append.mpr ⟨ht.visible, htail.visible⟩⟩
  have hne : t ≠ [] := by
    rintro rfl
    exact ht.ne_nil rfl
  have htext : "file".toList ++ ':' :: '/' :: (t ++ tail) = "file".toList ++ [':'] ++ '/' :: t ++ tail := by simp
  have hparse := parse_ofList hscheme hall
  rw [if_pos rfl, parseFile_rooted hne ht.not_drive ht.toFits htail, trimFront_of_isFront ht.isFront, htext] at hparse
  have hresult := isReadAs_of_parse hparse
  rwa [toList_render ht.isFront.ne_nil, List.map_singleton, joined_cons, joined_nil, List.append_nil] at hresult

section File
variable (hscheme : IsScheme "file") (hfront : a.front = stem "file" text.toList ++ joined segs)
  (hpath : a.pathname.toList = joined segs) (hsegs : IsFront segs) (hsegment : ∀ s ∈ segs, IsSegment true s)
include hscheme hfront hpath hsegs hsegment

theorem steady_of_file (hhost : text = "") : IsSteady a := by
  rw [hhost] at hfront
  refine steady_of_leads (leads_file hscheme) hfront hpath hsegment (fun _ _ => ?_) (fun t _ hne => ?_)
    fun t tail ht htail => ?_
  · rwa [map_encode_of_isSegment hsegment]
  · rw [map_encode_trimBack hsegment]
    exact isFront_of_trimBack hsegs hne
  · rw [rdropWhile_stem_nil]
    exact isReadAs_file hscheme ht htail

theorem steady_of_file_host (hinside : ∀ c ∈ text.toList, isInside c = true) (hhost : text ≠ "")
    (hauthority : a.authority = some text) (hend : IsTail a.tailText)
    (hread : parse (String.ofList (a.front ++ a.tailText)) = .ok a) : IsSteady a := by
  have hne : text.toList ≠ [] := by simpa using hhost
  have hencode := map_encode_of_isSegment hsegment
  rw [hfront] at hread
  obtain ⟨hdrive, hleads⟩ : segs.head?.any isDrive = false ∧ Leads true (stem "file" text.toList) _ := by
    obtain ⟨s, rest, hcons⟩ := List.exists_cons_of_ne_nil hsegs.ne_nil
    rw [hcons] at hread hsegment hencode
    obtain ⟨hs, hrest⟩ := List.forall_mem_cons.mp fun u hu => Fits.of_isSegment (hsegment u hu)
    have h := leads_file_host hscheme hinside hhost hs hrest hend hauthority hread
    rw [(List.cons.inj hencode).1] at h
    rwa [hcons]
  refine steady_of_leads hleads hfront hpath hsegment (fun _ _ => ?_) (fun t _ hne => ?_) fun t tail ht htail => ?_
  · rw [hencode]
    exact ⟨hsegs, hdrive⟩
  · rw [map_encode_trimBack hsegment, List.head?_append_of_ne_nil _ hne, head?_trimBack hne]
    exact ⟨isFront_of_trimBack hsegs hne, hdrive⟩
  · rw [rdropWhile_stem hinside hne]
    exact hleads.single ht ⟨ht.isFront, by simpa using ht.not_drive⟩ htail

end File

theorem steady_of_web (hscheme : IsScheme a.scheme) (hspecial : isSpecial a.scheme = true) (hfile : a.scheme ≠ "file")
    (hauthority : a.authority = some text) (hinside : ∀ c ∈ text.toList, isInside c = true) (hhost : text ≠ "")
    (hsegs : segs ≠ []) (hsegment : ∀ s ∈ segs, IsSegment true s) (hpath : a.path = Path.render segs)
    (hend : IsTail a.tailText) (hread : parse (String.ofList (a.front ++ a.tailText)) = .ok a) : IsSteady a := by
  have hne : text.toList ≠ [] := by simpa using hhost
  have hfront : a.front = stem a.scheme text.toList ++ joined segs := by
    rw [front_of_authority hauthority, hpath, toList_render hsegs]
  have hpathname : a.pathname.toList = joined segs := by
    rw [pathname_of_authority hauthority, hpath, toList_render hsegs]
  rw [hfront] at hread
  have hleads := leads_web hscheme hspecial hfile hinside hne hsegs (fun s hs => .of_isSegment (hsegment s hs)) hend
    hread
  refine steady_of_leads hleads hfront hpathname hsegment (fun _ _ => hsegs) (fun _ _ _ => by simp)
    fun t tail ht htail => ?_
  rw [rdropWhile_stem hinside hne]
  exact hleads.single ht (List.cons_ne_nil t []) htail

theorem steady_of_named (hscheme : IsScheme a.scheme) (hspecial : isSpecial a.scheme = false)
    (hauthority : a.authority = some text) (hinside : ∀ c ∈ text.toList, isInside c = true)
    (hsegment : ∀ s ∈ segs, IsSegment false s) (hpath : a.path = pathOf segs) (hend : IsTail a.tailText)
    (hread : parse (String.ofList (a.front ++ a.tailText)) = .ok a) : IsSteady a := by
  have hfront : a.front = stem a.scheme text.toList ++ joined segs := by
    rw [front_of_authority hauthority, hpath, toList_pathOf]
  have hpathname : a.pathname.toList = joined segs := by
    rw [pathname_of_authority hauthority, hpath, toList_pathOf]
  rw [hfront] at hread
  have hleads := leads_named hscheme hspecial hinside (fun s hs => .of_isSegment (hsegment s hs)) hend hauthority hread
  refine steady_of_leads hleads hfront hpathname hsegment (fun tail hne => by simp [hne])
    (fun _ _ _ => by simp [joined_append, joined_cons]) fun t tail ht htail => ?_
  by_cases hne : text.toList = []
  · rw [hne, rdropWhile_stem_nil]
    exact (leads_rooted hscheme hspecial).single ht ⟨List.cons_ne_nil t [], isDouble_singleton t⟩ htail
  · rw [rdropWhile_stem hinside hne]
    exact hleads.single ht rfl htail

theorem steady_of_rooted (hscheme : IsScheme a.scheme) (hspecial : isSpecial a.scheme = false)
    (hauthority : a.authority = none) (hsegs : segs ≠ []) (hsegment : ∀ s ∈ segs, IsSegment false s)
    (hpath : a.path = guardPath (Path.render segs)) : IsSteady a := by
  have hslash : ∀ s ∈ segs, '/' ∉ s := fun s hs => (hsegment s hs).unbroken.slash_not_mem
  have hpathname := pathname_guardPath hsegs hsegment hauthority hpath
  cases hdouble : isDouble segs with
  | false =>
    have hfront : a.front = a.scheme.toList ++ [':'] ++ joined segs := by
      simp [front, hauthority, hpath, toList_guardPath hsegs hslash, hdouble]
    refine steady_of_leads (leads_rooted hscheme hspecial) hfront hpathname hsegment (fun _ _ => ⟨hsegs, hdouble⟩)
      (fun _ _ hne => ⟨by simp, isDouble_of_trimBack hdouble hne⟩) fun t tail ht htail => ?_
    rw [rdropWhile_append _ (List.cons_ne_nil _ []) (by decide)]
    exact (leads_rooted hscheme hspecial).single ht ⟨List.cons_ne_nil t [], isDouble_singleton t⟩ htail
  | true =>
    have hfront : a.front = a.scheme.toList ++ [':', '/', '.'] ++ joined segs := by
      simp [front, hauthority, hpath, toList_guardPath hsegs hslash, hdouble]
    have hdot : a.scheme.toList ++ [':', '/', '.'] = (a.scheme.toList ++ [':', '/']) ++ ['.'] := by simp
    refine steady_of_leads (leads_dotted hscheme hspecial) hfront hpathname hsegment (fun _ _ => hsegs)
      (fun _ _ _ => by simp) fun t tail ht htail => ?_
    rw [hdot, rdropWhile_append _ (List.cons_ne_nil _ []) (by decide), ← hdot]
    exact (leads_dotted hscheme hspecial).single ht (List.cons_ne_nil t []) htail

/-- **What is read back as it was written is steady.** -/
theorem steady_of_parse (hread : parse a.render = .ok a) (hbase : a.isBase = true) : IsSteady a := by
  obtain ⟨hscheme, hend, hlayout⟩ := isWritten_of_parse hread hbase
  rw [render_eq] at hread
  cases hlayout with
  | web hspecial hfile hauthority hinside hhost hsegs hsegment hpath =>
    exact steady_of_web hscheme hspecial hfile hauthority hinside hhost hsegs hsegment hpath hend hread
  | @file text segs hfile hauthority hinside hsegs hsegment hpath =>
    have hfront : a.front = stem "file" text.toList ++ joined segs := by
      rw [front_of_authority hauthority, hpath, toList_render hsegs.ne_nil, hfile]
    have hpathname : a.pathname.toList = joined segs := by
      rw [pathname_of_authority hauthority, hpath, toList_render hsegs.ne_nil]
    rw [hfile] at hscheme
    by_cases hhost : text = ""
    · exact steady_of_file hscheme hfront hpathname hsegs hsegment hhost
    · exact steady_of_file_host hscheme hfront hpathname hsegs hsegment hinside hhost hauthority hend hread
  | named hspecial hauthority hinside hsegment hpath =>
    exact steady_of_named hscheme hspecial hauthority hinside hsegment hpath hend hread
  | rooted hspecial hauthority hsegs hsegment hpath =>
    exact steady_of_rooted hscheme hspecial hauthority hsegs hsegment hpath

end TableQuery.Url.Address
