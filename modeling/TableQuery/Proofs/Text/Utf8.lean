import Mathlib.Tactic.IntervalCases
import TableQuery.Text.Utf8

/-! Texts as octets, and back.

The reader takes the octets of one character to that character, whatever follows
(`decodeFrom?_utf8EncodeChar`), so every text is read back from its octets (`decode_encode`), and two
texts with the same octets are the same (`encode_injective`). -/
namespace TableQuery.Text.Utf8

/-! ### The octets of a text -/

theorem toList_loop_eq (bs : ByteArray) (i : Nat) (taken : List UInt8) :
    ByteArray.toList.loop bs i taken = taken.reverse ++ bs.data.toList.drop i := by
  fun_induction ByteArray.toList.loop bs i taken with
  | case1 i taken h ih =>
    have hi : i < bs.data.toList.length := by simpa using h
    rw [ih, List.drop_eq_getElem_cons hi]
    simp [ByteArray.get!, h]
  | case2 i taken h =>
    rw [List.drop_eq_nil_of_le (by simpa using Nat.le_of_not_lt h), List.append_nil]

theorem encode_eq_flatMap (s : String) : encode s = s.toList.flatMap String.utf8EncodeChar := by
  have hbytes : s.toUTF8 = (s.toList.flatMap String.utf8EncodeChar).toByteArray :=
    String.utf8Encode_toList.symm
  rw [encode, ByteArray.toList, toList_loop_eq, hbytes, List.toList_data_toByteArray]
  rfl

theorem encode_singleton (c : Char) : encode (String.singleton c) = String.utf8EncodeChar c := by
  rw [encode_eq_flatMap, String.toList_singleton, List.flatMap_singleton]

theorem utf8EncodeChar_ascii {c : Char} (h : c.toNat < 0x80) :
    String.utf8EncodeChar c = [UInt8.ofNat c.toNat] :=
  if_pos (Nat.le_of_lt_succ h)

/-- A character that is not ASCII begins with an octet that is not. -/
theorem exists_utf8EncodeChar {c : Char} (h : 0x80 ≤ c.toNat) :
    ∃ n bs, String.utf8EncodeChar c = UInt8.ofNat n :: bs ∧ 0x80 ≤ n ∧ n < 256 := by
  unfold String.utf8EncodeChar
  simp only [Char.toNat_val]
  split
  · omega
  split
  · exact ⟨_, _, rfl, by omega, by omega⟩
  split
  · exact ⟨_, _, rfl, by omega, by omega⟩
  · exact ⟨_, _, rfl, by omega, by omega⟩

/-! ### Reading one octet -/

theorem decodeFrom?_of_more {r r' : Reading} {n : Nat} (hn : n < 256) (h : step r n = .more r')
    (bs : List UInt8) : decodeFrom? r (UInt8.ofNat n :: bs) = decodeFrom? r' bs := by
  rw [decodeFrom?, UInt8.toNat_ofNat_of_lt' hn, h]

theorem decodeFrom?_of_done {r : Reading} {n : Nat} {c : Char} (hn : n < 256) (h : step r n = .done c)
    (bs : List UInt8) :
    decodeFrom? r (UInt8.ofNat n :: bs) = (decodeFrom? .start bs).map (c :: ·) := by
  rw [decodeFrom?, UInt8.toNat_ofNat_of_lt' hn, h]

theorem step_start_two {n : Nat} (hlow : 2 ≤ n) (hhigh : n < 32) :
    step .start (n + 0xC0) = .more (.inside n 1 0x80 0xBF) := by
  interval_cases n <;> rfl

/-- The bounds of the second octet keep out what two octets can say, and the surrogates. -/
theorem step_start_three {n : Nat} (hn : n < 16) :
    step .start (n + 0xE0) =
      .more (.inside n 2 (if n = 0 then 0xA0 else 0x80) (if n = 0xD then 0x9F else 0xBF)) := by
  interval_cases n <;> rfl

theorem step_start_four {n : Nat} (hn : n ≤ 4) :
    step .start (n + 0xF0) =
      .more (.inside n 3 (if n = 0 then 0x90 else 0x80) (if n = 4 then 0x8F else 0xBF)) := by
  interval_cases n <;> rfl

/-- An octet inside a character, the last one if none is owed behind it. -/
theorem step_inside {value owed low high d : Nat} (hlow : low ≤ d + 0x80) (hhigh : d + 0x80 ≤ high) :
    step (.inside value owed low high) (d + 0x80) =
      if owed ≤ 1 then .done (Char.ofNat (value * 64 + d))
      else .more (.inside (value * 64 + d) (owed - 1) 0x80 0xBF) := by
  simp [step, hlow, hhigh]

/-! ### Reading a character -/

/-- The last octet completes the value, which is the character's. -/
theorem decodeFrom?_last {c : Char} {value d low high : Nat} (hlow : low ≤ d + 0x80)
    (hhigh : d + 0x80 ≤ high) (hd : d < 64) (hvalue : value * 64 + d = c.toNat) (bs : List UInt8) :
    decodeFrom? (.inside value 1 low high) (UInt8.ofNat (d + 0x80) :: bs) =
      (decodeFrom? .start bs).map (c :: ·) := by
  refine decodeFrom?_of_done (by omega) ?_ bs
  rw [step_inside hlow hhigh, if_pos (Nat.le_refl 1), hvalue, Char.ofNat_toNat]

theorem decodeFrom?_inside {value owed d low high : Nat} (hlow : low ≤ d + 0x80)
    (hhigh : d + 0x80 ≤ high) (hd : d < 64) (howed : 1 < owed) (bs : List UInt8) :
    decodeFrom? (.inside value owed low high) (UInt8.ofNat (d + 0x80) :: bs) =
      decodeFrom? (.inside (value * 64 + d) (owed - 1) 0x80 0xBF) bs := by
  refine decodeFrom?_of_more (by omega) ?_ bs
  rw [step_inside hlow hhigh, if_neg (Nat.not_le.mpr howed)]

theorem decodeFrom?_utf8EncodeChar (c : Char) (bs : List UInt8) :
    decodeFrom? .start (String.utf8EncodeChar c ++ bs) = (decodeFrom? .start bs).map (c :: ·) := by
  have hvalid : c.toNat < 0xD800 ∨ (0xDFFF < c.toNat ∧ c.toNat < 0x110000) := c.valid
  unfold String.utf8EncodeChar
  simp only [Char.toNat_val]
  -- One case for each number of octets. That the second octet keeps the bounds which the first one sets
  -- follows from the range of the case, the surrogates left out.
  split
  · next h1 =>
    refine decodeFrom?_of_done (by omega) ?_ bs
    rw [step, first, if_pos h1, Char.ofNat_toNat]
  split
  · next h1 h2 =>
    refine (decodeFrom?_of_more (by omega) (step_start_two (by omega) (by omega)) _).trans ?_
    exact decodeFrom?_last (by omega) (by omega) (by omega) (by omega) bs
  split
  · next h1 h2 h3 =>
    refine (decodeFrom?_of_more (by omega) (step_start_three (by omega)) _).trans ?_
    refine (decodeFrom?_inside ?_ ?_ (by omega) (by omega) _).trans ?_
    · split <;> omega
    · split <;> omega
    · exact decodeFrom?_last (by omega) (by omega) (by omega) (by omega) bs
  · next h1 h2 h3 =>
    refine (decodeFrom?_of_more (by omega) (step_start_four (by omega)) _).trans ?_
    refine (decodeFrom?_inside ?_ ?_ (by omega) (by omega) _).trans ?_
    · split <;> omega
    · split <;> omega
    refine (decodeFrom?_inside (by omega) (by omega) (by omega) (by omega) _).trans ?_
    exact decodeFrom?_last (by omega) (by omega) (by omega) (by omega) bs

/-! ### Reading a text -/

theorem decodeFrom?_flatMap (cs : List Char) :
    decodeFrom? .start (cs.flatMap String.utf8EncodeChar) = some cs := by
  induction cs with
  | nil => rfl
  | cons c cs ih => rw [List.flatMap_cons, decodeFrom?_utf8EncodeChar, ih, Option.map_some]

theorem decode_encode (s : String) : decode (encode s) = s := by
  rw [decode, encode_eq_flatMap, decodeFrom_of_decodeFrom? (decodeFrom?_flatMap s.toList),
    String.ofList_toList]

theorem decode?_encode (s : String) : decode? (encode s) = some s := by
  rw [decode?, encode_eq_flatMap, decodeFrom?_flatMap, Option.map_some, String.ofList_toList]

theorem encode_injective : Function.Injective encode :=
  Function.LeftInverse.injective decode_encode

end TableQuery.Text.Utf8
