import Mathlib.Data.List.DropRight
import Mathlib.Data.List.Infix
import TableQuery.Proofs.Text.Cut
import TableQuery.Proofs.Url.Form
import TableQuery.Url.Address

/-! Segments of a path, written and read again.

A path is written with a slash before each segment (`joined`). What has been read of a path holds no dots and no
character that would have to be escaped (`isSegment_of_mem_normalize`), so nothing happens to it when it is read once
more (`normalize_of_isKept`, `encode_of_plain`). Without the slashes at its end a path is that of its segments
without the empty ones at their end (`rdropWhile_append_joined`). -/
namespace TableQuery.Url

/-! ### Characters -/

/-- What holds of the first code points holds of the characters that they are of. -/
theorem of_ascii {p : Char → Prop} {c : Char} (hall : ∀ n < 128, p (Char.ofNat n)) (hlt : c.toNat < 128) : p c := by
  have hc := hall c.toNat hlt
  rwa [Char.ofNat_toNat] at hc

theorem lt_of_isAlphanum {c : Char} (h : c.isAlphanum = true) : c.toNat < 128 := by
  have hbelow {high : UInt32} (hhigh : high.toNat < 128) (hc : c.val ≤ high) : c.toNat < 128 :=
    Nat.lt_of_le_of_lt (UInt32.le_iff_toNat_le.mp hc) hhigh
  rcases Bool.or_eq_true_iff.mp h with hletter | hdigit
  · rcases Bool.or_eq_true_iff.mp hletter with hupper | hlower
    · exact hbelow (by decide) (of_decide_eq_true hupper).2
    · exact hbelow (by decide) (of_decide_eq_true (Bool.and_eq_true_iff.mp hlower).2)
  · exact hbelow (by decide) (of_decide_eq_true (Bool.and_eq_true_iff.mp hdigit).2)

/-! ### Escapes -/

namespace Form

/-- The characters that escapes are written with. -/
def escapeMarks : List Char :=
  ['%', '0', '1', '2', '3', '4', '5', '6', '7', '8', '9', 'A', 'B', 'C', 'D', 'E', 'F']

theorem hexUpper_mem_escapeMarks (n : Nat) : hexUpper n ∈ escapeMarks := by
  have hall : ∀ m < 16, hexUpper m ∈ escapeMarks := by decide
  rw [← hexUpper_mod]
  exact hall (n % 16) (Nat.mod_lt _ (by decide))

theorem mem_escapeMarks_of_percent {b : UInt8} {c : Char} (h : c ∈ percent b) : c ∈ escapeMarks := by
  simp only [percent, List.mem_cons, List.not_mem_nil, or_false] at h
  rcases h with rfl | rfl | rfl
  · decide
  · exact hexUpper_mem_escapeMarks _
  · exact hexUpper_mem_escapeMarks _

/-- A character that is written is a plain one of the text, or an escape is written with it. -/
theorem of_mem_flatMap_encodeUnless {plain : Char → Bool} {cs : List Char} {c : Char}
    (h : c ∈ cs.flatMap (encodeUnless plain)) : (c ∈ cs ∧ plain c = true) ∨ c ∈ escapeMarks := by
  obtain ⟨d, hd, hc⟩ := List.mem_flatMap.mp h
  unfold encodeUnless at hc
  split at hc
  · next hplain =>
    obtain rfl := List.mem_singleton.mp hc
    exact .inl ⟨hd, hplain⟩
  · obtain ⟨b, -, hb⟩ := List.mem_flatMap.mp hc
    exact .inr (mem_escapeMarks_of_percent hb)

/-- What holds of plain characters and of the marks of escapes holds of all that is written. -/
theorem forall_mem_encodeUnless {plain good : Char → Bool} (hplain : ∀ c, plain c = true → good c = true)
    (hmarks : escapeMarks.all good = true) (cs : List Char) :
    ∀ c ∈ cs.flatMap (encodeUnless plain), good c = true := fun c hc =>
  (of_mem_flatMap_encodeUnless hc).elim (fun h => hplain c h.2) (List.all_eq_true.mp hmarks c)

theorem flatMap_encodeUnless_of_plain {plain : Char → Bool} {cs : List Char} (h : ∀ c ∈ cs, plain c = true) :
    cs.flatMap (encodeUnless plain) = cs := by
  induction cs with
  | nil => rfl
  | cons c cs ih =>
    obtain ⟨hc, hcs⟩ := List.forall_mem_cons.mp h
    rw [List.flatMap_cons, ih hcs, encodeUnless, if_pos hc, List.singleton_append]

end Form

namespace Path
variable {cs s : List Char} {done segs : List (List Char)} {special file : Bool}

theorem lt_of_isGraphic {c : Char} (h : isGraphic c = true) : 32 < c.toNat :=
  of_decide_eq_true (Bool.and_eq_true_iff.mp h).1

theorem isGraphic_of_plainInFragment {c : Char} (h : plainInFragment c = true) : isGraphic c = true :=
  (Bool.and_eq_true_iff.mp h).1

theorem isGraphic_of_plain {c : Char} (h : plain c = true) : isGraphic c = true :=
  isGraphic_of_plainInFragment (Bool.and_eq_true_iff.mp h).1

theorem plain_of_mem_encode {c : Char} (h : c ∈ encode cs) : plain c = true :=
  Form.forall_mem_encodeUnless (fun _ hc => hc) (by decide) cs c h

theorem encode_of_plain (h : ∀ c ∈ cs, plain c = true) : encode cs = cs :=
  Form.flatMap_encodeUnless_of_plain h

/-- A character that no escape is written with comes from the text itself. -/
theorem mem_of_mem_encode {c : Char} (hc : c ∉ Form.escapeMarks) (h : c ∈ encode cs) : c ∈ cs :=
  ((Form.of_mem_flatMap_encodeUnless h).resolve_right hc).1

/-! ### Segments -/

/-- Neither of the two kinds of dots. -/
structure IsKept (s : List Char) : Prop where
  single : isSingleDot s = false
  double : isDoubleDot s = false

/-- No character ends the text as a segment. -/
def IsUnbroken (special : Bool) (s : List Char) : Prop := ∀ c ∈ s, Address.isSlash special c = false

/-- A segment as it is written. -/
structure IsSegment (special : Bool) (s : List Char) : Prop extends IsKept s where
  plain : ∀ c ∈ s, Path.plain c = true
  unbroken : IsUnbroken special s

theorem isSegment_nil : IsSegment special [] where
  single := by decide
  double := by decide
  plain := by simp
  unbroken := fun _ hc => nomatch hc

theorem not_mem_escapeMarks_of_isSlash {c : Char} (h : Address.isSlash special c = true) :
    c ∉ Form.escapeMarks := by
  simp only [Address.isSlash, Bool.or_eq_true, Bool.and_eq_true, beq_iff_eq] at h
  rcases h with rfl | ⟨-, rfl⟩ <;> decide

theorem IsUnbroken.encode (h : IsUnbroken special cs) : IsUnbroken special (encode cs) := by
  intro c hc
  cases hslash : Address.isSlash special c with
  | false => rfl
  | true =>
    have hmem := mem_of_mem_encode (not_mem_escapeMarks_of_isSlash hslash) hc
    rw [h c hmem] at hslash
    exact nomatch hslash

theorem IsUnbroken.slash_not_mem (h : IsUnbroken special cs) : '/' ∉ cs := fun hmem =>
  absurd (h '/' hmem) (by simp [Address.isSlash])

theorem isKept_cons {c : Char} (hdot : c.toLower ≠ '.') (hpercent : c.toLower ≠ '%') : IsKept (c :: s) := by
  constructor <;> simp [isSingleDot, isDoubleDot, hdot, hpercent]

theorem isKept_percent {d : Char} (h : d.toLower ≠ '2') : IsKept ('%' :: d :: s) := by
  constructor <;> simp [isSingleDot, isDoubleDot, h]

theorem encode_cons_of_plain {c : Char} (h : plain c = true) (cs : List Char) : encode (c :: cs) = c :: encode cs := by
  rw [encode, List.flatMap_cons, Form.encodeUnless, if_pos h]
  rfl

/-- A character that is not ASCII is escaped, and its escapes are not taken for a dot. -/
theorem isKept_encode_cons {c : Char} (h : 0x80 ≤ c.toNat) (cs : List Char) :
    IsKept (encode (c :: cs)) ∧ encode (c :: cs) ≠ [] := by
  have hplain : plain c = false := by
    simp only [plain, plainInFragment, isGraphic, Bool.and_eq_false_iff, decide_eq_false_iff_not]
    exact .inl (.inl (.inr (by omega)))
  obtain ⟨n, bs, hchar, hlow, hhigh⟩ := Text.Utf8.exists_utf8EncodeChar h
  have hdigit : ∀ m < 16, 8 ≤ m → (Form.hexUpper m).toLower ≠ '2' := by decide
  have htext : encode (c :: cs) = '%' :: Form.hexUpper (n / 16) :: Form.hexUpper n ::
      (bs.flatMap Form.percent ++ encode cs) := by
    rw [encode, List.flatMap_cons, Form.encodeUnless, hplain, Form.utf8Of, Text.Utf8.encode_singleton, hchar,
      List.flatMap_cons, Form.percent, UInt8.toNat_ofNat_of_lt' hhigh]
    rfl
  rw [htext]
  exact ⟨isKept_percent (hdigit _ (by omega) (by omega)), List.cons_ne_nil _ _⟩

theorem isDrive_encode (hcolon : ':' ∉ cs) (hbar : '|' ∉ cs) : isDrive (encode cs) = false := by
  have hcolon : ':' ∉ encode cs := mt (mem_of_mem_encode (by decide)) hcolon
  have hbar : '|' ∉ encode cs := mt (mem_of_mem_encode (by decide)) hbar
  unfold isDrive drive?
  split
  · next c mark htext =>
    rw [htext] at hcolon hbar
    simp only [List.mem_cons, List.not_mem_nil, or_false, not_or] at hcolon hbar
    simp [Ne.symm hcolon.2, Ne.symm hbar.2]
  · rfl

/-! ### Taking segments in -/

theorem push_of_isKept (h : IsKept s) (last : Bool) : push file last done s = done ++ [enter file done s] := by
  unfold push
  rw [h.double, h.single]
  rfl

theorem enter_of_not_file : enter false done s = s := by
  unfold enter
  split <;> rfl

theorem enter_of_ne_nil (h : done ≠ []) : enter file done s = s := by
  unfold enter
  split
  · rw [List.isEmpty_eq_false_iff.mpr h, Bool.and_false]
    rfl
  · rfl

theorem enter_of_not_drive (h : isDrive s = false) : enter file done s = s := by
  unfold enter
  rw [Option.isSome_eq_false_iff.mp h |> Option.isNone_iff_eq_none.mp]

/-- Segments without dots are taken in one after the other; only the first of a file's path may change. -/
theorem normalize_cons_of_isKept (hs : IsKept s) (h : ∀ t ∈ segs, IsKept t) :
    normalize file done (s :: segs) = done ++ enter file done s :: segs := by
  induction segs generalizing done s with
  | nil => rw [normalize, push_of_isKept hs]
  | cons t rest ih =>
    obtain ⟨ht, hrest⟩ := List.forall_mem_cons.mp h
    have hne : done ++ [enter file done s] ≠ [] := List.append_ne_nil_of_right_ne_nil _ (List.cons_ne_nil _ [])
    rw [normalize.eq_3 _ _ _ _ (by simp), push_of_isKept hs, ih ht hrest, enter_of_ne_nil hne, List.append_assoc,
      List.singleton_append]

theorem normalize_of_isKept (h : ∀ t ∈ segs, IsKept t) : normalize false done segs = done ++ segs := by
  cases segs with
  | nil => rw [normalize, List.append_nil]
  | cons s rest =>
    obtain ⟨hs, hrest⟩ := List.forall_mem_cons.mp h
    rw [normalize_cons_of_isKept hs hrest, enter_of_not_file]

theorem isAlpha_of_drive? {letter : Char} (h : drive? s = some letter) : letter.isAlpha = true := by
  unfold drive? at h
  split at h
  · split at h
    · next hc =>
      obtain rfl := Option.some.inj h
      exact (Bool.and_eq_true_iff.mp hc).1
    · exact nomatch h
  · exact nomatch h

theorem isDrive_enter : isDrive (enter file done s) = isDrive s := by
  unfold enter
  split
  · next letter hletter =>
    split
    · rw [isDrive, isDrive, hletter]
      simp [drive?, isAlpha_of_drive? hletter]
    · rfl
  · rfl

theorem isSegment_drive {letter : Char} (h : drive? s = some letter) : IsSegment special [letter, ':'] := by
  have halpha := isAlpha_of_drive? h
  have hletter := of_ascii (p := fun c => c.isAlpha = true →
    plain c = true ∧ Address.isSlash true c = false ∧ isSingleDot [c, ':'] = false ∧ isDoubleDot [c, ':'] = false)
    (by decide) (lt_of_isAlphanum (by rw [Char.isAlphanum, halpha]; rfl)) halpha
  obtain ⟨hplain, hslash, hsingle, hdouble⟩ := hletter
  refine ⟨⟨hsingle, hdouble⟩, by simpa using ⟨hplain, by decide⟩, ?_⟩
  simp only [Address.isSlash, Bool.true_and, Bool.or_eq_false_iff] at hslash
  simpa [IsUnbroken, Address.isSlash] using And.intro (by simpa using hslash.1) fun _ => by simpa using hslash.2

theorem mem_of_mem_back (h : s ∈ back done) : s ∈ done := by
  unfold back at h
  split at h
  · exact h
  · exact List.mem_of_mem_dropLast h

theorem isSegment_of_mem_push {last : Bool} (hdone : ∀ t ∈ done, IsSegment special t)
    (hplain : ∀ c ∈ s, plain c = true) (hs : IsUnbroken special s) :
    ∀ t ∈ push file last done s, IsSegment special t := by
  have hclose {done : List (List Char)} (hdone : ∀ t ∈ done, IsSegment special t) :
      ∀ t ∈ if last then done ++ [[]] else done, IsSegment special t := by
    intro t ht
    split at ht
    · rcases List.mem_append.mp ht with ht | ht
      · exact hdone t ht
      · exact List.mem_singleton.mp ht ▸ isSegment_nil
    · exact hdone t ht
  unfold push
  dsimp only
  split
  · exact hclose fun t ht => hdone t (mem_of_mem_back ht)
  split
  · exact hclose hdone
  next hdouble hsingle =>
  have hself : IsSegment special s := ⟨⟨by simpa using hsingle, by simpa using hdouble⟩, hplain, hs⟩
  intro t ht
  rcases List.mem_append.mp ht with ht | ht
  · exact hdone t ht
  · obtain rfl := List.mem_singleton.mp ht
    unfold enter
    split
    · next letter hletter =>
      split
      · exact isSegment_drive hletter
      · exact hself
    · exact hself

/-- What has been read of a path is made of segments. -/
theorem isSegment_of_mem_normalize (hdone : ∀ t ∈ done, IsSegment special t)
    (h : ∀ s ∈ segs, (∀ c ∈ s, plain c = true) ∧ IsUnbroken special s) :
    ∀ t ∈ normalize file done segs, IsSegment special t := by
  induction segs generalizing done with
  | nil => exact hdone
  | cons s rest ih =>
    obtain ⟨hs, hrest⟩ := List.forall_mem_cons.mp h
    cases rest with
    | nil => exact isSegment_of_mem_push hdone hs.1 hs.2
    | cons u rest =>
      rw [normalize.eq_3 _ _ _ _ (by simp)]
      exact ih (isSegment_of_mem_push hdone hs.1 hs.2) hrest

theorem normalize_ne_nil (h : segs ≠ []) : normalize file done segs ≠ [] := by
  induction segs generalizing done with
  | nil => exact absurd rfl h
  | cons s rest ih =>
    cases rest with
    | nil =>
      rw [normalize]
      unfold push
      dsimp only
      split <;> [skip; split] <;> simp
    | cons u rest =>
      rw [normalize.eq_3 _ _ _ _ (by simp)]
      exact ih (List.cons_ne_nil u rest)

/-! ### Reading a path -/

theorem readSegments_ne_nil (cs : List Char) : Address.readSegments special file cs ≠ [] :=
  normalize_ne_nil (by simpa using Text.pieces_ne_nil '/' _)

theorem isSegment_of_mem_readSegments (h : s ∈ Address.readSegments special file cs) : IsSegment special s := by
  refine isSegment_of_mem_normalize (by simp) (List.forall_mem_map.mpr fun t ht => ?_) s h
  refine ⟨fun c hc => plain_of_mem_encode hc, IsUnbroken.encode fun c hc => ?_⟩
  obtain ⟨hslash, hmem⟩ := Text.of_mem_of_mem_pieces ht hc
  cases special with
  | false => simpa [Address.isSlash] using hslash
  | true =>
    obtain ⟨d, -, rfl⟩ := List.mem_map.mp hmem
    split at hslash
    · exact absurd rfl hslash
    · next hd => simp [Address.isSlash, hd, hslash]

/-! ### Written paths -/

/-- The text of a path: a slash before each segment. -/
def joined (segs : List (List Char)) : List Char := segs.flatMap ('/' :: ·)

@[simp] theorem joined_nil : joined [] = [] := rfl

theorem joined_cons (s : List Char) (segs : List (List Char)) : joined (s :: segs) = '/' :: (s ++ joined segs) :=
  List.flatMap_cons

theorem joined_append (a b : List (List Char)) : joined (a ++ b) = joined a ++ joined b := List.flatMap_append

theorem toList_render (h : segs ≠ []) : (render segs).toList = joined segs := by
  rw [render, String.toList_ofList]
  induction segs with
  | nil => exact absurd rfl h
  | cons s rest ih =>
    cases rest with
    | nil => simp [joined]
    | cons t rest =>
      rw [List.intercalate_cons_cons, joined_cons, ← ih (List.cons_ne_nil t rest), List.append_assoc,
        List.singleton_append]

theorem pieces_joined (hs : '/' ∉ s) (h : ∀ t ∈ segs, '/' ∉ t) :
    Text.pieces '/' (s ++ joined segs) = s :: segs := by
  induction segs generalizing s with
  | nil =>
    rw [joined, List.flatMap_nil, List.append_nil]
    exact Text.pieces_of_not_mem hs
  | cons t rest ih =>
    obtain ⟨ht, hrest⟩ := List.forall_mem_cons.mp h
    rw [joined_cons, Text.pieces_append hs, ih ht hrest]

/-- What stands behind the last slash keeps it where it is. -/
theorem rdropWhile_append (front : List Char) (hne : s ≠ []) (hslash : '/' ∉ s) :
    (front ++ s).rdropWhile (· == '/') = front ++ s := by
  obtain ⟨init, c, rfl⟩ := (List.eq_nil_or_concat' s).resolve_left hne
  have hc : (c == '/') = false := by
    rw [beq_eq_false_iff_ne]
    rintro rfl
    exact hslash (by simp)
  rw [← List.append_assoc, List.rdropWhile_concat_neg _ _ _ (by simp [hc])]

/-- A text in which slashes have been taken away from the end, and one has come back before something else, is another
text. -/
theorem rdropWhile_append_ne (p : List Char) (hne : s ≠ []) (hslash : '/' ∉ s) :
    p.rdropWhile (· == '/') ++ '/' :: s ≠ p := by
  intro hp
  have hend := rdropWhile_append (p.rdropWhile (· == '/') ++ ['/']) hne hslash
  rw [List.append_assoc, List.singleton_append, hp] at hend
  have hlength := congrArg List.length hp
  rw [hend] at hlength
  simp at hlength

/-- The segments without the empty ones at their end. -/
def trimBack (segs : List (List Char)) : List (List Char) := segs.rdropWhile List.isEmpty

theorem trimBack_isPrefix (segs : List (List Char)) : trimBack segs <+: segs := List.rdropWhile_prefix _ segs

/-- The slashes at the end of a text, taken away, take the empty segments there with them; if no other is left, the
slashes before the path go too. -/
theorem rdropWhile_append_joined (front : List Char) (h : ∀ t ∈ segs, '/' ∉ t) :
    (front ++ joined segs).rdropWhile (· == '/') =
      if trimBack segs = [] then front.rdropWhile (· == '/') else front ++ joined (trimBack segs) := by
  unfold trimBack
  induction segs using List.reverseRecOn with
  | nil => simp
  | append_singleton segs s ih =>
    have hfront := ih fun t ht => h t (List.mem_append_left _ ht)
    rw [joined_append, joined_cons, joined_nil, List.append_nil, ← List.append_assoc]
    by_cases hs : s = []
    · rw [hs, List.rdropWhile_concat_pos _ _ _ (by decide), List.rdropWhile_concat_pos _ _ _ (by decide)]
      exact hfront
    · have hkept := rdropWhile_append (front ++ joined segs ++ ['/']) hs (h s (by simp))
      rw [List.append_assoc, List.singleton_append] at hkept
      rw [hkept, List.rdropWhile_concat_neg _ segs _ (by simpa using hs), if_neg (by simp), joined_append, joined_cons,
        joined_nil, List.append_nil, List.append_assoc]

end Path

namespace Address
open Url.Path
variable {special file : Bool} {s : List Char} {segs : List (List Char)}

/-- Where no segment is broken, reading a path gives each of them, with escapes where they are needed. -/
theorem readSegments_joined (file : Bool) (hs : IsUnbroken special s) (h : ∀ t ∈ segs, IsUnbroken special t) :
    readSegments special file (s ++ joined segs) = normalize file [] ((s :: segs).map encode) := by
  have hpieces : Text.pieces '/' (s ++ joined segs) = s :: segs :=
    pieces_joined hs.slash_not_mem fun t ht => (h t ht).slash_not_mem
  unfold readSegments segments
  cases special with
  | false => rw [if_neg Bool.false_ne_true, hpieces]
  | true =>
    have hid : (s ++ joined segs).map (fun c => if c = '\\' then '/' else c) = s ++ joined segs := by
      refine (List.map_congr_left fun c hc => if_neg ?_).trans (List.map_id _)
      rintro rfl
      have hbroken {t : List Char} (ht : IsUnbroken true t) : '\\' ∉ t := fun hmem =>
        absurd (ht _ hmem) (by decide)
      simp only [joined, List.mem_append, List.mem_flatMap, List.mem_cons] at hc
      rcases hc with hc | ⟨t, ht, hc | hc⟩
      · exact hbroken hs hc
      · exact absurd hc (by decide)
      · exact hbroken (h t ht) hc
    rw [if_pos rfl, hid, hpieces]

/-- A path whose segments are kept is read as it is written. -/
theorem readPath_joined (hne : segs ≠ []) (h : ∀ t ∈ segs, IsUnbroken special t)
    (hkept : ∀ t ∈ segs, IsKept (encode t)) :
    readPath special (joined segs) = Path.render (segs.map encode) := by
  cases segs with
  | nil => exact absurd rfl hne
  | cons s rest =>
    obtain ⟨hs, hrest⟩ := List.forall_mem_cons.mp h
    have hslash : dropSlash special ('/' :: (s ++ joined rest)) = s ++ joined rest := by
      simp [dropSlash, isSlash]
    rw [readPath, joined_cons, hslash, readSegments_joined false hs hrest,
      normalize_of_isKept (List.forall_mem_map.mpr hkept), List.nil_append]

end Address
end TableQuery.Url
