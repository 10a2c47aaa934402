import TableQuery.Json.Reader
import TableQuery.Json.Writer
import TableQuery.Proofs.Decimal

/-! Numbers in a document.

The text of a number is a `Numeral`, maybe behind a minus sign: digits, maybe with digits behind a point, maybe
with an exponent (`text_cases`). A reader takes a numeral up to the comma or bracket that ends it, whatever
stands behind, and makes the same number of it every time (`unsigned_text`). -/
namespace TableQuery.Json

/-- What may stand behind a value inside a document. -/
def Ends (rest : List Char) : Prop := ∀ c, rest.head? = some c → c ∈ [',', ']', '\x7d']

theorem ends_nil : Ends [] := fun _ h => nomatch h

theorem ends_cons {c : Char} (h : c ∈ [',', ']', '\x7d']) (rest : List Char) : Ends (c :: rest) := fun _ hc =>
  Option.some.inj hc ▸ h

theorem Ends.ne {rest : List Char} (h : Ends rest) {c d : Char} (hc : rest.head? = some c)
    (hd : d ∉ [',', ']', '\x7d']) : c ≠ d := by
  rintro rfl
  exact hd (h c hc)

theorem Ends.not_isDigit {rest : List Char} (h : Ends rest) (c : Char) (hc : rest.head? = some c) :
    c.isDigit = false := by
  have hmem := h c hc
  simp only [List.mem_cons, List.not_mem_nil, or_false] at hmem
  rcases hmem with rfl | rfl | rfl <;> decide

/-- The digits of an unsigned number, maybe with digits behind a point, maybe with an exponent. -/
structure Numeral where
  whole : List Char
  places : Option (List Char)
  exponent : Option Int

namespace Numeral

def pointText (n : Numeral) : List Char := (n.places.map fun ds => '.' :: ds).getD []

def exponentText (n : Numeral) : List Char := (n.exponent.map fun e => 'e' :: (toString e).toList).getD []

def text (n : Numeral) : List Char := n.whole ++ (n.pointText ++ n.exponentText)

/-- Digits only, and some wherever there are to be any. -/
structure IsDecimal (n : Numeral) : Prop where
  nonempty : n.whole ≠ []
  whole : ∀ c ∈ n.whole, c.isDigit = true
  places : ∀ ds, n.places = some ds → ds ≠ [] ∧ ∀ c ∈ ds, c.isDigit = true

open Reader Decimal

variable {n : Numeral} {rest : List Char}

theorem afterE?_exponentText (n : Numeral) (hrest : Ends rest) :
    afterE? (n.exponentText ++ rest) = some (n.exponent, rest) := by
  unfold exponentText
  cases n.exponent with
  | none =>
    cases rest with
    | nil => rfl
    | cons c rest =>
      have he : ¬(c = 'e' ∨ c = 'E') := not_or.mpr ⟨hrest.ne rfl (by decide), hrest.ne rfl (by decide)⟩
      simp [afterE?, he]
  | some e =>
    have hdigits : digitRun (Nat.toDigits 10 e.natAbs ++ rest) = (Nat.toDigits 10 e.natAbs, rest) :=
      digitRun_append (fun _ => isDigit_of_mem_toDigits) hrest.not_isDigit
    have hsome : (Nat.toDigits 10 e.natAbs).isEmpty = false := by simp [Nat.toDigits_ne_nil]
    have hvalue : (if e < 0 then -(e.natAbs : Int) else e.natAbs) = e := by split <;> omega
    simp only [Option.map_some, Option.getD_some, List.cons_append, afterE?, true_or, if_true,
      signed_toString, hdigits, hsome, Bool.false_eq_true, if_false, valueOf_toDigits, decide_eq_true_eq,
      hvalue]

/-- A text that does not start with a digit. -/
theorem not_isDigit_exponentText (n : Numeral) (hrest : Ends rest) (c : Char)
    (hc : (n.exponentText ++ rest).head? = some c) : c.isDigit = false ∧ c ≠ '.' := by
  unfold exponentText at hc
  cases he : n.exponent with
  | none =>
    rw [he] at hc
    exact ⟨hrest.not_isDigit c hc, hrest.ne hc (by decide)⟩
  | some e =>
    rw [he] at hc
    obtain rfl : 'e' = c := Option.some.inj hc
    decide

theorem afterPoint?_pointText (hn : n.IsDecimal) (hrest : Ends rest) :
    afterPoint? (n.pointText ++ (n.exponentText ++ rest)) = some (n.places, n.exponentText ++ rest) := by
  have hnext := n.not_isDigit_exponentText hrest
  unfold pointText
  cases hplaces : n.places with
  | none =>
    show afterPoint? (n.exponentText ++ rest) = _
    unfold afterPoint?
    split
    · next h => exact absurd rfl (hnext '.' (by rw [h]; rfl)).2
    · rfl
  | some ds =>
    obtain ⟨hne, hdigits⟩ := hn.places ds hplaces
    have hempty : ds.isEmpty = false := by simpa using hne
    show afterPoint? ('.' :: (ds ++ (n.exponentText ++ rest))) = _
    unfold afterPoint?
    simp only [digitRun_append hdigits fun c hc => (hnext c hc).1, hempty, Bool.false_eq_true, if_false]

/-- The number that a numeral stands for where it is negated or not. -/
def number? (negative : Bool) (n : Numeral) : Option Number :=
  if n.whole.head? == some '0' && n.whole.length > 1 then none
  else
    let m := valueOf n.whole
    if n.places.isNone && n.exponent.isNone &&
        (if negative then 0 < m && m ≤ UInt64.size / 2 else m < UInt64.size) then
      some (.int (if negative then -(m : Int) else m))
    else
      let x := fraction (n.whole, n.places.getD []) (n.exponent.getD 0)
      some (.float (if negative then -x else x))

/-- A numeral is read up to what stands behind it, whatever that is. -/
theorem unsigned_text (hn : n.IsDecimal) (negative : Bool) (hrest : Ends rest) :
    unsigned negative (n.text ++ rest) = (n.number? negative).map fun x => (x, rest) := by
  have hpoint (c : Char) (hc : (n.pointText ++ (n.exponentText ++ rest)).head? = some c) :
      c.isDigit = false := by
    unfold pointText at hc
    cases hplaces : n.places with
    | none =>
      rw [hplaces] at hc
      exact (n.not_isDigit_exponentText hrest c hc).1
    | some ds =>
      rw [hplaces] at hc
      obtain rfl : '.' = c := Option.some.inj hc
      decide
  have hempty : n.whole.isEmpty = false := by simpa using hn.nonempty
  unfold unsigned number?
  rw [text, List.append_assoc, List.append_assoc, digitRun_append hn.whole hpoint]
  simp only [hempty, Bool.false_or]
  split
  · rfl
  · simp only [afterPoint?_pointText hn hrest, afterE?_exponentText n hrest, Option.bind_eq_bind,
      Option.bind_some, Option.pure_def]
    rw [apply_ite (Option.map fun x => (x, rest))]
    rfl

/-- A numeral behind a minus sign or not. -/
def signedText (negative : Bool) (n : Numeral) : List Char := (if negative then ['-'] else []) ++ n.text

theorem exists_signedText (hn : n.IsDecimal) (negative : Bool) :
    ∃ c cs, n.signedText negative = c :: cs ∧ (c = '-' ∨ c.isDigit = true) := by
  cases negative with
  | true => exact ⟨'-', n.text, rfl, .inl rfl⟩
  | false =>
    obtain ⟨c, ds, hds⟩ := List.exists_cons_of_ne_nil hn.nonempty
    refine ⟨c, ds ++ (n.pointText ++ n.exponentText), ?_, .inr (hn.whole c (hds ▸ List.mem_cons_self))⟩
    show n.whole ++ _ = _
    rw [hds]
    rfl

theorem number_signedText (hn : n.IsDecimal) (negative : Bool) (hrest : Ends rest) :
    number (n.signedText negative ++ rest) = (n.number? negative).map fun x => (x, rest) := by
  rw [← unsigned_text hn negative hrest]
  cases negative with
  | true => rfl
  | false =>
    obtain ⟨c, ds, hds⟩ := List.exists_cons_of_ne_nil hn.nonempty
    have hdigit := hn.whole c (hds ▸ List.mem_cons_self)
    show number (n.text ++ rest) = _
    unfold number
    split
    · next h =>
      rw [text, hds] at h
      obtain rfl := (List.cons.inj h).1
      exact absurd hdigit (by decide)
    · rfl

end Numeral

/-! ### Texts of numbers -/

/-- The digits of a number are themselves one. -/
theorem Numeral.isDecimal_toDigits (n : Nat) : (⟨Nat.toDigits 10 n, none, none⟩ : Numeral).IsDecimal :=
  ⟨Nat.toDigits_ne_nil, fun _ => Decimal.isDigit_of_mem_toDigits, fun _ h => nomatch h⟩

/-- What a format writes that puts a point into whole numbers is a numeral. -/
theorem exists_numeral_layoutPlain {f : Decimal.Format} (hpoint : f.pointZero = true) {digits : List Char}
    (hne : digits ≠ []) (hdigits : ∀ c ∈ digits, c.isDigit = true) (point : Int) :
    ∃ n : Numeral, n.IsDecimal ∧ Decimal.layoutPlain f digits point = n.text := by
  have hzeros (k : Nat) : ∀ c ∈ Decimal.zeros k, c.isDigit = true := fun c hc => by
    rw [List.eq_of_mem_replicate hc]
    decide
  have hzero : ∀ c ∈ ['0'], c.isDigit = true := List.forall_mem_singleton.mpr (by decide)
  unfold Decimal.layoutPlain
  split
  · refine ⟨⟨['0'], some (Decimal.zeros (-point).toNat ++ digits), none⟩, ⟨by simp, hzero, ?_⟩, ?_⟩
    · rintro ds ⟨⟩
      exact ⟨by simp [hne], List.forall_mem_append.mpr ⟨hzeros _, hdigits⟩⟩
    · simp [Numeral.text, Numeral.pointText, Numeral.exponentText]
  split
  · refine ⟨⟨digits ++ Decimal.zeros (point.toNat - digits.length), some ['0'], none⟩, ⟨by simp [hne],
      List.forall_mem_append.mpr ⟨hdigits, hzeros _⟩, ?_⟩, ?_⟩
    · rintro ds ⟨⟩
      exact ⟨by simp, hzero⟩
    · simp [Numeral.text, Numeral.pointText, Numeral.exponentText]
  · next hlow hhigh =>
    refine ⟨⟨digits.take point.toNat, some (digits.drop point.toNat), none⟩, ⟨?_,
      fun c hc => hdigits c (List.mem_of_mem_take hc), ?_⟩, ?_⟩
    · simp [hne]
      omega
    · rintro ds ⟨⟩
      refine ⟨?_, fun c hc => hdigits c (List.mem_of_mem_drop hc)⟩
      rw [ne_eq, List.drop_eq_nil_iff]
      omega
    · simp [Numeral.text, Numeral.pointText, Numeral.exponentText]

theorem exists_numeral_layoutScientific {digits : List Char}
    (hne : digits ≠ []) (hdigits : ∀ c ∈ digits, c.isDigit = true) (exponent : Int) :
    ∃ n : Numeral, n.IsDecimal ∧ Decimal.layoutScientific digits exponent = n.text := by
  refine ⟨⟨digits.take 1, if digits.length ≤ 1 then none else some (digits.drop 1), some exponent⟩,
    ⟨by simp [hne], fun c hc => hdigits c (List.mem_of_mem_take hc), ?_⟩, ?_⟩
  · intro ds hds
    dsimp only at hds
    split at hds
    · exact nomatch hds
    · obtain rfl := Option.some.inj hds
      refine ⟨?_, fun c hc => hdigits c (List.mem_of_mem_drop hc)⟩
      rw [ne_eq, List.drop_eq_nil_iff]
      omega
  · unfold Decimal.layoutScientific
    split <;> simp [Numeral.text, Numeral.pointText, Numeral.exponentText]

theorem layout_cases (f : Decimal.Format) (d : Decimal.Dec) :
    (∃ point, Decimal.layout f d = Decimal.layoutPlain f (Nat.toDigits 10 d.digits) point) ∨
      ∃ exponent, Decimal.layout f d = Decimal.layoutScientific (Nat.toDigits 10 d.digits) exponent := by
  unfold Decimal.layout
  dsimp only
  split
  · exact .inl ⟨_, if_pos rfl⟩
  split
  · exact .inl ⟨_, rfl⟩
  · exact .inr ⟨_, rfl⟩

theorem exists_numeral_magnitude (bits : UInt64) :
    ∃ n : Numeral, n.IsDecimal ∧ numberFormat.magnitude bits = n.text := by
  have hdigits (m : Nat) : ∀ c ∈ Nat.toDigits 10 m, c.isDigit = true := fun _ => Decimal.isDigit_of_mem_toDigits
  have hzero : ∀ c ∈ ['0'], c.isDigit = true := List.forall_mem_singleton.mpr (by decide)
  unfold Decimal.Format.magnitude
  dsimp only
  split
  · exact ⟨⟨['0'], some ['0'], none⟩, ⟨by simp, hzero, by rintro _ ⟨⟩; exact ⟨by simp, hzero⟩⟩, rfl⟩
  · rcases layout_cases numberFormat (Decimal.shortest numberFormat.tie (Decimal.Binary.ofBits bits)) with
      ⟨point, h⟩ | ⟨exponent, h⟩ <;> rw [h]
    · exact exists_numeral_layoutPlain rfl Nat.toDigits_ne_nil (hdigits _) point
    · exact exists_numeral_layoutScientific Nat.toDigits_ne_nil (hdigits _) exponent

theorem render_int (i : Int) :
    (Number.int i).render.toList =
      (⟨Nat.toDigits 10 i.natAbs, none, none⟩ : Numeral).signedText (decide (i < 0)) := by
  show (toString i).toList = _
  rw [Decimal.toList_toString_int]
  simp [Numeral.signedText, Numeral.text, Numeral.pointText, Numeral.exponentText]

theorem render_float (x : Float) :
    (Number.float x).render = if x.isNaN then "null" else
      String.ofList ((if Decimal.isNegative x then ['-'] else []) ++
        if x.isInf then ['n', 'u', 'l', 'l'] else numberFormat.magnitude x.toBits) := rfl

theorem exists_numeral_float {x : Float} (hnan : x.isNaN = false) (hinf : x.isInf = false) :
    ∃ (n : Numeral) (negative : Bool), n.IsDecimal ∧ (Number.float x).render.toList = n.signedText negative := by
  obtain ⟨n, hn, htext⟩ := exists_numeral_magnitude x.toBits
  refine ⟨n, Decimal.isNegative x, hn, ?_⟩
  simp only [render_float, hnan, hinf, htext, Bool.false_eq_true, if_false, String.toList_ofList]
  rfl

/-- The text of a number is a numeral, maybe behind a minus sign, or the word for no number. -/
theorem text_cases (x : Number) :
    (∃ (n : Numeral) (negative : Bool), n.IsDecimal ∧ x.render.toList = n.signedText negative) ∨
      x.render = "null" ∨ x.render = "-null" := by
  cases x with
  | int i => exact .inl ⟨_, _, Numeral.isDecimal_toDigits i.natAbs, render_int i⟩
  | float x =>
    cases hnan : x.isNaN with
    | true => exact .inr (.inl (if_pos hnan))
    | false =>
      cases hinf : x.isInf with
      | true =>
        rw [render_float, hnan, hinf]
        cases Decimal.isNegative x with
        | true => exact .inr (.inr rfl)
        | false => exact .inr (.inl rfl)
      | false => exact .inl (exists_numeral_float hnan hinf)

end TableQuery.Json
