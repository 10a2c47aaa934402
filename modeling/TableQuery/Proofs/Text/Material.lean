import TableQuery.Proofs.Text.Nested

/-! What the parts of a list are made of.

A part is put together from characters that mean nothing to a cut, from quoted texts, and from groups between
brackets that belong together; inside a group commas may stand, and groups again (`IsMaterial`). Reading such
material leads back to where it began, one case for each way it is put together (`IsMaterial.runsFrom`), so
joining and cutting are inverse on all of it (`split_joined`). -/
namespace TableQuery.Text.Nested

/-- Material for a part, or for what stands inside a group. -/
inductive IsMaterial : (inside : Bool) → List Char → Prop
  | nil {inside : Bool} : IsMaterial inside []
  | append {inside : Bool} {a b : List Char} (ha : IsMaterial inside a) (hb : IsMaterial inside b) :
    IsMaterial inside (a ++ b)
  | plain {inside : Bool} {c : Char} (h : isSafe c = true) : IsMaterial inside [c]
  | comma : IsMaterial true [',']
  | quoted {inside : Bool} (text : List Char) : IsMaterial inside ('"' :: (Quoted.escape text ++ ['"']))
  | round {inside : Bool} {body : List Char} (h : IsMaterial true body) :
    IsMaterial inside ('(' :: (body ++ [')']))
  | curly {inside : Bool} {body : List Char} (h : IsMaterial true body) :
    IsMaterial inside ('\x7b' :: (body ++ ['\x7d']))

/-- Inside a group one bracket at least is open, elsewhere none need be. -/
theorem IsMaterial.runsFrom {inside : Bool} {cs : List Char} (h : IsMaterial inside cs) :
    RunsFrom inside.toNat cs := by
  induction h with
  | nil => exact runsFrom_nil _
  | append _ _ iha ihb => exact iha.append ihb
  | plain hc => exact (runsFrom_of_safe (by simpa using hc)).mono (Nat.zero_le _)
  | comma => exact runsFrom_comma
  | quoted text => exact (runsFrom_quoted text).mono (Nat.zero_le _)
  | round _ ih => exact (ih.bracketed rfl rfl).mono (Nat.zero_le _)
  | curly _ ih => exact (ih.bracketed rfl rfl).mono (Nat.zero_le _)

/-- **Cutting undoes joining**, whatever the parts are made of. -/
theorem split_joined {parts : List (List Char)} (hne : parts ≠ []) (h : ∀ p ∈ parts, IsMaterial false p) :
    split (List.intercalate [','] parts) = parts :=
  split_intercalate_of_runsFrom hne fun p hp => (h p hp).runsFrom

/-- A group in a group with a comma in each, a quoted text that looks like the end of a part, and nothing. -/
def mixedParts : List (List Char) :=
  [['f', '(', 'a', ',', '\x7b', 'b', ',', '\x7d', ')'], ['"', ')', ',', '\\', '"', '"'], []]

theorem mixedParts_come_apart :
    mixedParts ≠ [] ∧ (∀ p ∈ mixedParts, IsMaterial false p) ∧
      split (List.intercalate [','] mixedParts) = mixedParts := by
  have hinner : IsMaterial true ['\x7b', 'b', ',', '\x7d'] := .curly (.append (.plain (c := 'b') rfl) .comma)
  have hbody : IsMaterial true ['a', ',', '\x7b', 'b', ',', '\x7d'] :=
    .append (.append (.plain (c := 'a') rfl) .comma) hinner
  have hcall : IsMaterial false ['f', '(', 'a', ',', '\x7b', 'b', ',', '\x7d', ')'] :=
    .append (.plain (c := 'f') rfl) (.round hbody)
  have hquoted : IsMaterial false ['"', ')', ',', '\\', '"', '"'] := .quoted [')', ',', '"']
  have hall : ∀ p ∈ mixedParts, IsMaterial false p := by
    simpa [mixedParts] using ⟨hcall, hquoted, IsMaterial.nil⟩
  exact ⟨by decide, hall, split_joined (by decide) hall⟩

end TableQuery.Text.Nested
