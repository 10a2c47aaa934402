import TableQuery.Proofs.Text.Cut
import TableQuery.Proofs.Text.Utf8
import TableQuery.Url.Form

/-! Query strings read back.

What is written of a name or a value consists of form characters (`isFormChar_of_mem_encodeText`), so the
marks between pairs and inside a pair are the only ones there, and reading gives back the pairs
(`decode_encode`). Two lists of pairs with the same query string are the same (`encode_injective`). -/
namespace TableQuery.Url.Form

/-- Characters that a written name or value consists of. -/
def isFormChar (c : Char) : Bool := c.isAlphanum || ['+', '%', '*', '-', '.', '_'].contains c

/-! ### Octets -/

theorem hexUpper_mod (n : Nat) : hexUpper (n % 16) = hexUpper n := by
  rw [hexUpper, Nat.mod_mod, hexUpper]

/-- Of the sixteen digits, those that may be plain are. -/
theorem isFormChar_hexUpper (n : Nat) : isFormChar (hexUpper n) = true ∧ hexUpper n ≠ '+' := by
  have hall : ∀ m < 16, isFormChar (hexUpper m) = true ∧ hexUpper m ≠ '+' := by decide
  have hn := hall (n % 16) (Nat.mod_lt _ (by decide))
  rwa [hexUpper_mod] at hn

theorem hexDigit?_hexUpper (n : Nat) : hexDigit? (hexUpper n) = some (n % 16) := by
  have hall : ∀ m < 16, hexDigit? (hexUpper m) = some m := by decide
  have hn := hall (n % 16) (Nat.mod_lt _ (by decide))
  rwa [hexUpper_mod] at hn

/-- An octet that stands for itself is that of a form character, and of no sign that stands for another. -/
theorem isPlain_spec {b : UInt8} (h : isPlain b = true) :
    b.toNat < 0x80 ∧ (Char.ofNat b.toNat).toNat = b.toNat ∧ isFormChar (Char.ofNat b.toNat) = true ∧
      Char.ofNat b.toNat ≠ '+' ∧ Char.ofNat b.toNat ≠ '%' := by
  simp only [isPlain, Bool.and_eq_true, decide_eq_true_eq, UInt8.lt_iff_toNat_lt] at h
  have hall : ∀ n < 0x80,
      ((Char.ofNat n).isAlphanum || Char.ofNat n == '*' || Char.ofNat n == '-' || Char.ofNat n == '.' ||
        Char.ofNat n == '_') = true →
      (Char.ofNat n).toNat = n ∧ isFormChar (Char.ofNat n) = true ∧
        Char.ofNat n ≠ '+' ∧ Char.ofNat n ≠ '%' := by decide
  exact ⟨h.1, hall b.toNat h.1 h.2⟩

theorem isFormChar_of_mem_encodeByte {b : UInt8} {c : Char} (h : c ∈ encodeByte b) :
    isFormChar c = true := by
  unfold encodeByte at h
  split at h
  · obtain rfl := List.mem_singleton.mp h
    decide
  split at h
  · next hplain =>
    obtain rfl := List.mem_singleton.mp h
    exact (isPlain_spec hplain).2.2.1
  · simp only [percent, List.mem_cons, List.not_mem_nil, or_false] at h
    rcases h with rfl | rfl | rfl
    · decide
    · exact (isFormChar_hexUpper _).1
    · exact (isFormChar_hexUpper _).1

/-- What stands for a plus sign before percent signs are read. -/
def blankPlus (c : Char) : Char := if c = '+' then ' ' else c

theorem percentDecode_cons_of_ne {c : Char} (hc : c ≠ '%') (cs : List Char) :
    percentDecode (c :: cs) = utf8Of c ++ percentDecode cs := by
  rw [percentDecode.eq_def]
  split
  · next heq => exact absurd (List.cons.inj heq).1 hc
  · next heq =>
    obtain ⟨rfl, rfl⟩ := List.cons.inj heq
    rfl
  · next heq => exact nomatch heq

theorem utf8Of_ascii {c : Char} (h : c.toNat < 0x80) : utf8Of c = [UInt8.ofNat c.toNat] := by
  rw [utf8Of, Text.Utf8.encode_singleton, Text.Utf8.utf8EncodeChar_ascii h]

/-- An octet is read back, whatever follows. -/
theorem percentDecode_encodeByte (b : UInt8) (rest : List Char) :
    percentDecode ((encodeByte b).map blankPlus ++ rest) = b :: percentDecode rest := by
  unfold encodeByte
  split
  · next hb =>
    rw [hb]
    -- The plus sign has become the blank that it stands for.
    show percentDecode (' ' :: rest) = _
    rw [percentDecode_cons_of_ne (by decide), utf8Of_ascii (by decide)]
    rfl
  split
  · next hplain =>
    obtain ⟨hlt, hn, -, hplus, hpercent⟩ := isPlain_spec hplain
    rw [List.map_singleton, blankPlus, if_neg hplus, List.singleton_append,
      percentDecode_cons_of_ne hpercent, utf8Of_ascii (by omega), hn, UInt8.ofNat_toNat]
    rfl
  · have hdigit (n : Nat) : blankPlus (hexUpper n) = hexUpper n := if_neg (isFormChar_hexUpper n).2
    have hpercent : blankPlus '%' = '%' := rfl
    simp only [percent, List.map_cons, List.map_nil, hdigit, hpercent, List.cons_append, List.nil_append]
    rw [percentDecode]
    simp only [hexDigit?_hexUpper]
    have hvalue : b.toNat / 16 % 16 * 16 + b.toNat % 16 = b.toNat := by
      have := b.toNat_lt
      omega
    rw [hvalue, UInt8.ofNat_toNat]

/-! ### Names and values -/

theorem isFormChar_of_mem_encodeText {s : String} {c : Char} (h : c ∈ encodeText s) :
    isFormChar c = true := by
  obtain ⟨b, -, hc⟩ := List.mem_flatMap.mp h
  exact isFormChar_of_mem_encodeByte hc

theorem not_mem_encodeText {c : Char} (hc : isFormChar c = false) (s : String) : c ∉ encodeText s := by
  intro h
  rw [isFormChar_of_mem_encodeText h] at hc
  exact nomatch hc

theorem percentDecode_flatMap (bs : List UInt8) :
    percentDecode ((bs.flatMap encodeByte).map blankPlus) = bs := by
  induction bs with
  | nil => rfl
  | cons b bs ih => rw [List.flatMap_cons, List.map_append, percentDecode_encodeByte, ih]

theorem decodeText_encodeText (s : String) : decodeText (encodeText s) = s :=
  (congrArg Text.Utf8.decode (percentDecode_flatMap (Text.Utf8.encode s))).trans
    (Text.Utf8.decode_encode s)

/-! ### Pairs -/

theorem encodePair_eq (p : String × String) :
    encodePair p = encodeText p.1 ++ '=' :: encodeText p.2 := by
  rw [encodePair, List.append_assoc, List.singleton_append]

theorem decodePair_encodePair (p : String × String) : decodePair (encodePair p) = p := by
  rw [encodePair_eq, decodePair, Text.cut_append (not_mem_encodeText (by decide) p.1)]
  simp only [decodeText_encodeText]

/-- Of the marks of a query string, a pair holds the one inside pairs only. -/
theorem not_mem_encodePair {c : Char} (hc : isFormChar c = false) (hne : c ≠ '=') (p : String × String) :
    c ∉ encodePair p := by
  simp only [encodePair_eq, List.mem_append, List.mem_cons, not_or]
  exact ⟨not_mem_encodeText hc p.1, hne, not_mem_encodeText hc p.2⟩

theorem encodePair_ne_nil (p : String × String) : encodePair p ≠ [] := by
  rw [encodePair_eq]
  exact List.append_ne_nil_of_right_ne_nil _ (List.cons_ne_nil _ _)

/-- **A query string gives back its pairs.** -/
theorem decode_encode (pairs : List (String × String)) : decode (encode pairs) = pairs := by
  cases pairs with
  | nil => rfl
  | cons p rest =>
    have hne : (p :: rest).map encodePair ≠ [] := List.cons_ne_nil _ _
    have hfree : ∀ t ∈ (p :: rest).map encodePair, '&' ∉ t :=
      List.forall_mem_map.mpr fun p _ => not_mem_encodePair (by decide) (by decide) p
    have hkeep : ∀ t ∈ (p :: rest).map encodePair, (!t.isEmpty) = true :=
      List.forall_mem_map.mpr fun p _ => by simpa using encodePair_ne_nil p
    rw [decode, encode, String.toList_ofList, Text.pieces_intercalate hne hfree,
      List.filter_eq_self.mpr hkeep, List.map_map]
    exact (List.map_congr_left fun p _ => decodePair_encodePair p).trans (List.map_id _)

theorem encode_injective : Function.Injective encode :=
  Function.LeftInverse.injective decode_encode

/-- A character of no name, no value and no mark is not in a query string. -/
theorem not_mem_encode {c : Char} (hc : isFormChar c = false) (heq : c ≠ '=') (hand : c ≠ '&')
    (pairs : List (String × String)) : c ∉ (encode pairs).toList := by
  rw [encode, String.toList_ofList]
  exact Text.not_mem_intercalate hand (List.forall_mem_map.mpr fun p _ => not_mem_encodePair hc heq p)

end TableQuery.Url.Form
