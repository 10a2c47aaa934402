import TableQuery.Proofs.Chained
import TableQuery.Proofs.Url.Path

/-! Where an authority ends.

Users, hosts and service numbers are written without slashes, question marks and number signs
(`isInside_of_readAuthority`), whatever form the host has, so that none of what follows is taken for a part of them.
For the name of a domain this is so because the labels that are not ASCII are written in small letters, digits and
hyphens (`Punycode.forall_mem_encode`). -/
namespace TableQuery.Url

/-! ### Punycode -/

namespace Punycode
variable {good : Char → Prop}

theorem forall_mem_digits (hdigit : ∀ n < 36, good (digit n)) (bias q k fuel : Nat) :
    ∀ c ∈ digits bias q k fuel, good c := by
  induction fuel generalizing q k with
  | zero => exact fun c hc => nomatch hc
  | succ fuel ih =>
    have hle := threshold_le bias k
    unfold digits
    dsimp only
    split
    · intro c hc
      obtain rfl := List.mem_singleton.mp hc
      exact hdigit q (by omega)
    · refine List.forall_mem_cons.mpr ⟨hdigit _ ?_, ih _ _⟩
      have hmod := Nat.mod_lt (q - threshold bias k) (show 0 < 36 - threshold bias k by omega)
      omega

theorem forall_mem_round (hdigit : ∀ n < 36, good (digit n)) (basic n : Nat) (label : List Nat) {w : Writer}
    (h : ∀ c ∈ w.output, good c) : ∀ c ∈ (round basic n label w).output, good c := by
  unfold round
  induction label generalizing w with
  | nil => exact h
  | cons d label ih =>
    refine ih ?_
    dsimp only
    split
    · exact h
    split
    · intro c hc
      rcases List.mem_append.mp hc with hc | hc
      · exact h c hc
      · exact forall_mem_digits hdigit _ _ _ _ c hc
    · exact h

/-- A label's form is written in what is ASCII of it, hyphens and digits. -/
theorem forall_mem_encode (hdigit : ∀ n < 36, good (digit n)) (hhyphen : good '-') {label : List Char}
    (hlabel : ∀ c ∈ label, c.toNat < 128 → good c) : ∀ c ∈ encode label, good c := by
  have hstart : ∀ c ∈ (if (label.filter fun c => c.toNat < 128).isEmpty then []
      else (label.filter fun c => c.toNat < 128) ++ ['-']), good c := by
    intro c hc
    split at hc
    · exact nomatch hc
    · rcases List.mem_append.mp hc with hc | hc
      · obtain ⟨hmem, hlt⟩ := List.mem_filter.mp hc
        exact hlabel c hmem (by simpa using hlt)
      · exact List.mem_singleton.mp hc ▸ hhyphen
  have hfold (others : List Nat) : ∀ w : Writer × Nat, (∀ c ∈ w.1.output, good c) →
      ∀ c ∈ (others.foldl (fun w m =>
        let next := { w.1 with delta := w.1.delta + (m - w.2) * (w.1.handled + 1) }
        let next := round (label.filter fun c => c.toNat < 128).length m (label.map Char.toNat) next
        ({ next with delta := next.delta + 1 }, m + 1)) w).1.output, good c := by
    induction others with
    | nil => exact fun w hw => hw
    | cons m others ih => exact fun w hw => ih _ (forall_mem_round hdigit _ _ _ hw)
  exact hfold _ ⟨_, _⟩ hstart

end Punycode

/-! ### Names -/

namespace Domain
variable {label name d : List Char}

/-- The characters that names are written in. -/
def isNameChar (c : Char) : Bool := c.toNat < 128 && !isForbidden c

theorem isNameChar_of_written? {w : List Char × List Char} (hlabel : ∀ c ∈ label, isForbidden c = false)
    (h : written? label = some w) : ∀ c ∈ w.2, isNameChar c = true := by
  have hself (hascii : isAscii label = true) : ∀ c ∈ label, isNameChar c = true := fun c hc => by
    rw [isNameChar, hlabel c hc, List.all_eq_true.mp hascii c hc]
    rfl
  have hmark : ∀ c ∈ formMark, isNameChar c = true := List.all_eq_true.mp (by decide)
  unfold written? at h
  split at h
  · next form hform =>
    obtain ⟨m, hm, rfl⟩ := Option.map_eq_some_iff.mp h
    have hform : label = formMark ++ form := (List.isPrefixOf?_eq_some_iff_append_eq.mp hform).symm
    -- A form that says something is ASCII.
    have hascii : isAscii form = true := by
      unfold meant? at hm
      split at hm
      · exact nomatch hm
      · next hgood =>
        simp only [Bool.or_eq_true, Bool.not_eq_true', not_or, Bool.not_eq_false] at hgood
        exact hgood.2
    refine hself ?_
    rw [hform, isAscii, List.all_append]
    exact Bool.and_eq_true_iff.mpr ⟨by decide, hascii⟩
  · split at h
    · exact nomatch h
    · obtain rfl := Option.some.inj h
      dsimp only
      split
      · next hascii => exact hself hascii
      · intro c hc
        rcases List.mem_append.mp hc with hc | hc
        · exact hmark c hc
        · have hlow : ∀ c ∈ label, c.toNat < 128 → isNameChar c = true := fun c hc hlt => by
            rw [isNameChar, hlabel c hc, decide_eq_true hlt]
            rfl
          exact Punycode.forall_mem_encode (by decide) (by decide) hlow c hc

theorem isNameChar_of_ascii? (h : ascii? name = some d) : ∀ c ∈ d, isNameChar c = true := by
  obtain ⟨spelled, -, h⟩ := Option.bind_eq_some_iff.mp h
  split at h
  · exact nomatch h
  next hforbidden =>
  obtain ⟨labels, hlabels, h⟩ := Option.bind_eq_some_iff.mp h
  split at h
  · exact nomatch h
  obtain rfl := Option.some.inj h
  intro c hc
  rcases Text.mem_intercalate hc with rfl | ⟨t, ht, hct⟩
  · decide
  · obtain ⟨w, hw, rfl⟩ := List.mem_map.mp ht
    obtain ⟨piece, hpiece, hwritten⟩ := Chained.exists_of_forall₂ (Chained.mapM_eq_some.mp hlabels) hw
    refine isNameChar_of_written? (fun c hc => ?_) hwritten c hct
    simpa using (List.any_eq_false.mp (by simpa using hforbidden)) c (Text.of_mem_of_mem_pieces hpiece hc).2

end Domain

/-! ### Hosts -/

/-- A character that may stand within an authority, because it does not end it. -/
def isInside (c : Char) : Bool := Path.isGraphic c && !(['/', '?', '#', '\\'].contains c)

theorem isInside_iff {c : Char} :
    isInside c = true ↔ Path.isGraphic c = true ∧ c ≠ '/' ∧ c ≠ '?' ∧ c ≠ '#' ∧ c ≠ '\\' := by
  simp [isInside]

theorem isInside_of_isDigit {c : Char} (h : c.isDigit = true) : isInside c = true :=
  of_ascii (p := fun c => c.isDigit = true → isInside c = true) (by decide)
    (lt_of_isAlphanum (by rw [Char.isAlphanum, h, Bool.or_true])) h

theorem isInside_of_not_isForbidden {c : Char} (hlt : c.toNat < 127) (h : Domain.isForbidden c = false) :
    isInside c = true :=
  of_ascii (p := fun c => c.toNat < 127 → Domain.isForbidden c = false → isInside c = true) (by decide)
    (Nat.lt_succ_of_lt hlt) hlt h

theorem isInside_of_isNameChar {c : Char} (h : Domain.isNameChar c = true) : isInside c = true := by
  simp only [Domain.isNameChar, Bool.and_eq_true, decide_eq_true_eq, Bool.not_eq_true'] at h
  obtain ⟨hlt, hforbidden⟩ := h
  refine isInside_of_not_isForbidden ?_ hforbidden
  by_contra hge
  have h127 : c.toNat = 127 := by omega
  simp [Domain.isForbidden, h127] at hforbidden

theorem isInside_of_mem_toString {n : Nat} {c : Char} (h : c ∈ (toString n).toList) : isInside c = true := by
  have htext : toString n = String.ofList (Nat.toDigits 10 n) := Nat.toString_eq_ofList_toDigits
  rw [htext, String.toList_ofList] at h
  exact isInside_of_isDigit (Nat.isDigit_of_mem_toDigits (by decide) (by decide) h)

namespace Host
variable {cs : List Char} {text : String}

theorem isInside_of_mem_toDigits {n : Nat} {c : Char} (h : c ∈ Nat.toDigits 16 n) : isInside c = true := by
  have hdigit : ∀ d < 16, isInside (Nat.digitChar d) = true := by decide
  induction n using Nat.strongRecOn with
  | _ n ih =>
    rw [Nat.toDigits_eq_if (by decide)] at h
    split at h
    · next hlt =>
      obtain rfl := List.mem_singleton.mp h
      exact hdigit n hlt
    · rcases List.mem_append.mp h with h | h
      · exact ih (n / 16) (by omega) h
      · obtain rfl := List.mem_singleton.mp h
        exact hdigit _ (Nat.mod_lt n (by decide))

/-- Texts inside an authority may be joined by a mark that may stand there. -/
theorem isInside_of_mem_intercalate {sep : String} {mark : Char} {texts : List String} (hsep : sep.toList = [mark])
    (hmark : isInside mark = true) (h : ∀ t ∈ texts, ∀ c ∈ t.toList, isInside c = true) :
    ∀ c ∈ (sep.intercalate texts).toList, isInside c = true := by
  intro c hc
  rw [String.toList_intercalate, hsep] at hc
  rcases Text.mem_intercalate hc with rfl | ⟨t, ht, hct⟩
  · exact hmark
  · obtain ⟨text, htext, rfl⟩ := List.mem_map.mp ht
    exact h text htext c hct

theorem isInside_of_mem_renderIpv4 (n : Nat) : ∀ c ∈ (renderIpv4 n).toList, isInside c = true := by
  have hdot : ".".toList = ['.'] := rfl
  refine isInside_of_mem_intercalate hdot (by decide) (List.forall_mem_map.mpr fun i _ c hc => ?_)
  exact isInside_of_mem_toString hc

theorem isInside_of_mem_renderIpv6 (groups : List Nat) : ∀ c ∈ (renderIpv6 groups).toList, isInside c = true := by
  have htext (gs : List Nat) : ∀ c ∈ (":".intercalate (gs.map hexText)).toList, isInside c = true := by
    have hcolon : ":".toList = [':'] := rfl
    refine isInside_of_mem_intercalate hcolon (by decide) (List.forall_mem_map.mpr fun g _ c hc => ?_)
    rw [hexText, String.toList_ofList] at hc
    exact isInside_of_mem_toDigits hc
  intro c hc
  unfold renderIpv6 at hc
  dsimp only at hc
  split at hc
  · exact htext _ c hc
  · simp only [String.toList_append, List.mem_append] at hc
    rcases hc with (hc | hc) | hc
    · exact htext _ c hc
    · exact List.all_eq_true.mp (by decide : "::".toList.all isInside = true) c hc
    · exact htext _ c hc

theorem isInside_of_parseBracketed (h : parseBracketed cs = .ok text) : ∀ c ∈ text.toList, isInside c = true := by
  unfold parseBracketed at h
  split at h
  · exact nomatch h
  split at h
  · obtain rfl := Except.ok.inj h
    intro c hc
    simp only [String.toList_append, List.mem_append] at hc
    rcases hc with (hc | hc) | hc
    · exact List.all_eq_true.mp (by decide : "[".toList.all isInside = true) c hc
    · exact isInside_of_mem_renderIpv6 _ c hc
    · exact List.all_eq_true.mp (by decide : "]".toList.all isInside = true) c hc
  · exact nomatch h

theorem isInside_of_parse (h : parse cs = .ok text) : ∀ c ∈ text.toList, isInside c = true := by
  unfold parse at h
  split at h
  · exact isInside_of_parseBracketed h
  split at h
  · exact nomatch h
  · exact nomatch h
  next domain _ hdomain =>
  split at h
  · split at h
    · obtain rfl := Except.ok.inj h
      exact isInside_of_mem_renderIpv4 _
    · exact nomatch h
  · obtain rfl := Except.ok.inj h
    obtain ⟨name, -, hascii⟩ := Option.bind_eq_some_iff.mp hdomain
    intro c hc
    rw [String.toList_ofList] at hc
    exact isInside_of_isNameChar (Domain.isNameChar_of_ascii? hascii c hc)

theorem isInside_of_parseOpaque (h : parseOpaque cs = .ok text) : ∀ c ∈ text.toList, isInside c = true := by
  unfold parseOpaque at h
  split at h
  · exact isInside_of_parseBracketed h
  split at h
  · next hopaque =>
    obtain rfl := Except.ok.inj h
    rw [String.toList_ofList]
    intro c hc
    rcases Form.of_mem_flatMap_encodeUnless hc with ⟨hmem, hplain⟩ | hmark
    · have hallowed := List.all_eq_true.mp hopaque c hmem
      simp only [Bool.and_eq_true, decide_eq_true_eq] at hplain
      simp only [Bool.or_eq_true, Bool.and_eq_true, beq_iff_eq, decide_eq_true_eq, Bool.not_eq_true'] at hallowed
      rcases hallowed with ((rfl | h127) | ⟨-, hlow⟩) | hforbidden
      · decide
      · omega
      · omega
      · exact isInside_of_not_isForbidden hplain.2 hforbidden
    · have hmarks : Form.escapeMarks.all isInside = true := by decide
      exact List.all_eq_true.mp hmarks c hmark
  · cases h

/-- A host that is asked for is not empty. -/
theorem ne_empty_of_parse (h : parse cs = .ok text) : text ≠ "" := by
  unfold parse at h
  split at h
  · unfold parseBracketed at h
    split at h
    · exact nomatch h
    split at h
    · obtain rfl := Except.ok.inj h
      exact fun hempty => by simpa using congrArg String.toList hempty
    · exact nomatch h
  split at h
  · exact nomatch h
  · exact nomatch h
  next domain hne _ =>
  split at h
  · split at h
    · obtain rfl := Except.ok.inj h
      intro hempty
      have hdot := congrArg String.toList hempty
      rw [renderIpv4, String.toList_intercalate] at hdot
      simp [List.intercalate_cons_cons] at hdot
    · exact nomatch h
  · obtain rfl := Except.ok.inj h
    intro hempty
    have hnil := congrArg String.toList hempty
    rw [String.toList_ofList] at hnil
    exact hne hnil

end Host

/-! ### Users, hosts and service numbers -/

namespace Address
variable {scheme text : String} {cs left : List Char}

theorem isInside_of_plainInUser {c : Char} (h : plainInUser c = true) : isInside c = true := by
  have hne {d : Char} (hd : plainInUser d = false) : c ≠ d := ne_of_apply_ne plainInUser (by simp [h, hd])
  exact isInside_iff.mpr ⟨Path.isGraphic_of_plain (Bool.and_eq_true_iff.mp h).1, hne (by decide), hne (by decide),
    hne (by decide), hne (by decide)⟩

theorem isInside_of_mem_renderUser (cs : List Char) : ∀ c ∈ (renderUser cs).toList, isInside c = true := by
  have hpart (part : List Char) : ∀ c ∈ (encodeWith plainInUser part).toList, isInside c = true := by
    rw [encodeWith, String.toList_ofList]
    exact Form.forall_mem_encodeUnless (fun c => isInside_of_plainInUser) (by decide) part
  have hcolon : ∀ c ∈ ":".toList, isInside c = true := List.all_eq_true.mp (by decide)
  have hat : ∀ c ∈ "@".toList, isInside c = true := List.all_eq_true.mp (by decide)
  intro c hc
  unfold renderUser at hc
  dsimp only at hc
  split at hc
  · exact nomatch hc
  · simp only [String.toList_append, List.mem_append] at hc
    rcases hc with (hc | hc) | hc
    · exact hpart _ c hc
    · split at hc
      · exact nomatch hc
      · simp only [String.toList_append, List.mem_append] at hc
        exact hc.elim (hcolon c) (hpart _ c)
    · exact hat c hc

theorem isInside_of_renderNumber {number : Option (List Char)} (h : renderNumber scheme number = .ok text) :
    ∀ c ∈ text.toList, isInside c = true := by
  have hcolon : ∀ c ∈ ":".toList, isInside c = true := List.all_eq_true.mp (by decide)
  unfold renderNumber at h
  split at h
  · obtain rfl := Except.ok.inj h
    exact fun c hc => nomatch hc
  · obtain rfl := Except.ok.inj h
    exact fun c hc => nomatch hc
  · split at h
    · exact nomatch h
    split at h
    · exact nomatch h
    · obtain rfl := Except.ok.inj h
      intro c hc
      split at hc
      · exact nomatch hc
      · rw [String.toList_append] at hc
        exact (List.mem_append.mp hc).elim (hcolon c) isInside_of_mem_toString

/-- The service number is a part of the text. -/
theorem number_subset (inside : Bool) (cs : List Char) : (splitNumber inside cs).2.getD [] ⊆ cs := by
  induction cs generalizing inside with
  | nil => exact List.Subset.refl []
  | cons c cs ih =>
    unfold splitNumber
    split
    · exact List.subset_cons_self c cs
    · exact List.subset_cons_of_subset c (ih _)

/-- What an authority that can be read is put together from, and what is left of it. -/
theorem parts_of_readAuthority {atEnd : Bool} (h : readAuthority scheme cs atEnd = .ok (text, left)) :
    ∃ (user : String) (host : List Char) (number : Option (List Char)) (written digits : String),
      (∀ c ∈ user.toList, isInside c = true) ∧ number.getD [] ⊆ cs ∧
      (if isSpecial scheme then Host.parse host else Host.parseOpaque host) = .ok written ∧
      renderNumber scheme (number.map fun n => n.takeWhile (· != '\\')) = .ok digits ∧
      text = user ++ written ++ digits ∧ left = (number.getD []).dropWhile (· != '\\') := by
  unfold readAuthority at h
  replace h := Chained.of_guard_eq_ok h
  replace h := Chained.of_guard_eq_ok h
  obtain ⟨written, hwritten, h⟩ := Chained.exists_of_ite_bind_eq_ok h
  obtain ⟨digits, hdigits, h⟩ := Chained.bind_eq_ok.mp h
  obtain ⟨htext, hleft⟩ := Prod.mk.inj (Except.ok.inj (Chained.of_guard_eq_ok h))
  refine ⟨_, _, _, written, digits, ?_, ?_, hwritten, hdigits, htext.symm, hleft.symm⟩
  · cases Text.cutLast '@' cs with
    | none => exact fun c hc => nomatch hc
    | some r => exact isInside_of_mem_renderUser r.1
  · refine List.Subset.trans (number_subset false _) ?_
    cases hcut : Text.cutLast '@' cs with
    | none => exact List.Subset.refl cs
    | some r =>
      obtain ⟨⟨b, a⟩, hr, rfl⟩ := Option.map_eq_some_iff.mp hcut
      intro c hc
      rw [← List.mem_reverse, (Text.cut_eq_some hr).1]
      exact List.mem_append_left _ (List.mem_reverse.mp hc)

theorem isInside_of_readAuthority {atEnd : Bool} (h : readAuthority scheme cs atEnd = .ok (text, left)) :
    ∀ c ∈ text.toList, isInside c = true := by
  obtain ⟨user, host, number, written, digits, huser, -, hwritten, hdigits, rfl, -⟩ := parts_of_readAuthority h
  have hhost : ∀ c ∈ written.toList, isInside c = true := by
    split at hwritten
    · exact Host.isInside_of_parse hwritten
    · exact Host.isInside_of_parseOpaque hwritten
  intro c hc
  simp only [String.toList_append, List.mem_append] at hc
  rcases hc with (hc | hc) | hc
  · exact huser c hc
  · exact hhost c hc
  · exact isInside_of_renderNumber hdigits c hc

/-- Where the scheme asks for a host, what has been read is not empty. -/
theorem ne_empty_of_readAuthority {atEnd : Bool} (hspecial : isSpecial scheme = true)
    (h : readAuthority scheme cs atEnd = .ok (text, left)) : text ≠ "" := by
  obtain ⟨user, host, number, written, digits, -, -, hwritten, -, rfl, -⟩ := parts_of_readAuthority h
  rw [if_pos hspecial] at hwritten
  have hne := Host.ne_empty_of_parse hwritten
  simpa using fun _ hnil _ => hne hnil

/-- Only a backslash leaves something of an authority for the path. -/
theorem left_eq_nil_of_readAuthority {atEnd : Bool} (hslash : '\\' ∉ cs)
    (h : readAuthority scheme cs atEnd = .ok (text, left)) : left = [] := by
  obtain ⟨user, host, number, written, digits, -, hsub, -, -, -, rfl⟩ := parts_of_readAuthority h
  rw [List.dropWhile_eq_nil_iff]
  intro c hc
  rw [bne_iff_ne]
  rintro rfl
  exact hslash (hsub hc)

/-- Whether something follows matters for a lone `@` only. -/
theorem readAuthority_atEnd (hne : cs ≠ ['@']) (atEnd : Bool) :
    readAuthority scheme cs atEnd = readAuthority scheme cs false := by
  unfold readAuthority
  rw [decide_eq_false hne, Bool.false_and, Bool.false_and]

theorem ne_of_readAuthority_lone {scheme : String} {atEnd : Bool} {text : String} {left : List Char}
    (h : readAuthority scheme ['@'] atEnd = .ok (text, left)) : text ≠ "@" := by
  rintro rfl
  have hnone : Text.cutLast '@' ['@'] = some ([], []) := by decide
  unfold readAuthority at h
  rw [hnone] at h
  replace h := Chained.of_guard_eq_ok h
  replace h := Chained.of_guard_eq_ok h
  obtain ⟨written, hwritten, h⟩ := Chained.exists_of_ite_bind_eq_ok h
  obtain ⟨digits, hdigits, h⟩ := Chained.bind_eq_ok.mp h
  replace h := Chained.of_guard_eq_ok h
  obtain rfl := Except.ok.inj hdigits
  have hopaque : written = "" := by
    split at hwritten
    · exact nomatch hwritten
    · exact (Except.ok.inj hwritten).symm
  subst hopaque
  exact absurd (Prod.mk.inj (Except.ok.inj h)).1 (by decide)

end Address
end TableQuery.Url
