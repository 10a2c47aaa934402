/-! Octets read as UTF-8.

A reader stands between characters or inside one (`Reading`). An octet that no character allows where
it stands ends the character begun: `decode` then writes one replacement character for what was read
of it and looks at the octet afresh, while `decode?` gives up. -/
namespace TableQuery.Text.Utf8

/-- What has been read of the current character: its value so far, how many octets are owed, and the
least and the greatest octet that may come next. -/
inductive Reading where
  | start
  | inside (value owed low high : Nat)
deriving Repr, DecidableEq

/-- What the first octet of a character leads to: a whole character, the inside of one, or nothing. -/
inductive Step where
  | done (c : Char)
  | more (r : Reading)
  | refused

def first (b : Nat) : Step :=
  if b ≤ 0x7F then .done (Char.ofNat b)
  else if 0xC2 ≤ b && b ≤ 0xDF then .more (.inside (b - 0xC0) 1 0x80 0xBF)
  else if b == 0xE0 then .more (.inside 0 2 0xA0 0xBF)
  else if b == 0xED then .more (.inside 0xD 2 0x80 0x9F)
  else if 0xE1 ≤ b && b ≤ 0xEF then .more (.inside (b - 0xE0) 2 0x80 0xBF)
  else if b == 0xF0 then .more (.inside 0 3 0x90 0xBF)
  else if 0xF1 ≤ b && b ≤ 0xF3 then .more (.inside (b - 0xF0) 3 0x80 0xBF)
  else if b == 0xF4 then .more (.inside 4 3 0x80 0x8F)
  else .refused

def step (r : Reading) (b : Nat) : Step :=
  match r with
  | .start => first b
  | .inside value owed low high =>
    if low ≤ b && b ≤ high then
      let value := value * 64 + (b - 0x80)
      if owed ≤ 1 then .done (Char.ofNat value) else .more (.inside value (owed - 1) 0x80 0xBF)
    else .refused

def replacement : Char := '\ufffd'

/-- Reads on from `r`, writing a replacement character for each sequence that is cut short. -/
def decodeFrom (r : Reading) : List UInt8 → List Char
  | [] => if r = .start then [] else [replacement]
  | b :: bs =>
    match step r b.toNat with
    | .done c => c :: decodeFrom .start bs
    | .more r' => decodeFrom r' bs
    | .refused =>
      if r = .start then replacement :: decodeFrom .start bs
      else match first b.toNat with
        | .done c => replacement :: c :: decodeFrom .start bs
        | .more r' => replacement :: decodeFrom r' bs
        | .refused => replacement :: replacement :: decodeFrom .start bs

def decode (bs : List UInt8) : String := String.ofList (decodeFrom .start bs)

def decodeFrom? (r : Reading) : List UInt8 → Option (List Char)
  | [] => if r = .start then some [] else none
  | b :: bs =>
    match step r b.toNat with
    | .done c => (decodeFrom? .start bs).map (c :: ·)
    | .more r' => decodeFrom? r' bs
    | .refused => none

def decode? (bs : List UInt8) : Option String :=
  (decodeFrom? .start bs).map String.ofList

def encode (s : String) : List UInt8 := s.toUTF8.toList

/-- Where every octet fits, both readers agree. -/
theorem decodeFrom_of_decodeFrom? {r : Reading} {bs : List UInt8} {cs : List Char}
    (h : decodeFrom? r bs = some cs) : decodeFrom r bs = cs := by
  induction bs generalizing r cs with
  | nil =>
    unfold decodeFrom? at h
    unfold decodeFrom
    split at h <;> simp_all
  | cons b bs ih =>
    unfold decodeFrom? at h
    unfold decodeFrom
    cases hs : step r b.toNat with
    | done c =>
      rw [hs] at h
      obtain ⟨u, hu, rfl⟩ := Option.map_eq_some_iff.1 h
      simp [ih hu]
    | more r' =>
      rw [hs] at h
      simpa using ih h
    | refused =>
      rw [hs] at h
      simp at h

end TableQuery.Text.Utf8
