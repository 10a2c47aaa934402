import TableQuery.Url.Domain

/-! The host of an address, in the form it is compared in.

A host is an IPv6 address in brackets, an IPv4 address, or a domain name. A domain name whose last label
is a number has to be an IPv4 address, whose parts may be decimal, octal or hexadecimal. -/
namespace TableQuery.Url

/-- Why a text is not an address. -/
inductive AddressFault where
  | relative
  | emptyHost
  | invalidDomain
  | invalidCharacter
  | invalidNumber
  | invalidIpv4
  | invalidIpv6
deriving Repr, DecidableEq

def AddressFault.message : AddressFault → String
  | .relative => "relative URL without a base"
  | .emptyHost => "empty host"
  | .invalidDomain => "invalid international domain name"
  | .invalidCharacter => "invalid domain character"
  | .invalidNumber => "invalid port number"
  | .invalidIpv4 => "invalid IPv4 address"
  | .invalidIpv6 => "invalid IPv6 address"

namespace Host

/-! ### IPv4 -/

/-- A digit of a base up to sixteen. -/
def digitIn? (base : Nat) (c : Char) : Option Nat :=
  (Form.hexDigit? c).filter fun d => d < base

def numberIn? (base : Nat) (cs : List Char) : Option Nat :=
  cs.foldlM (fun n c => (digitIn? base c).map fun d => n * base + d) 0

/-- One part of an IPv4 address: hexadecimal behind `0x`, octal behind `0`, else decimal. A mark with
nothing behind it is zero. -/
def ipv4Part? : List Char → Option Nat
  | [] => none
  | '0' :: 'x' :: cs => numberIn? 16 cs
  | '0' :: 'X' :: cs => numberIn? 16 cs
  | '0' :: c :: cs => numberIn? 8 (c :: cs)
  | cs => numberIn? 10 cs

/-- Whether the last label, one empty label at the end left out, is a number. -/
def endsInNumber (domain : List Char) : Bool :=
  let labels := (Text.pieces '.' domain).reverse
  let labels := if labels.head? = some [] then labels.tail else labels
  match labels.head? with
  | some label =>
    !label.isEmpty && (label.all Char.isDigit ||
      (("0x".toList.isPrefixOf label || "0X".toList.isPrefixOf label) && (ipv4Part? label).isSome))
  | none => false

/-- All parts but the last are one octet each; the last fills the octets that are left. -/
def ipv4Value? (parts : List Nat) : Option Nat := do
  let last ← parts.getLast?
  let front := parts.dropLast
  if 4 < parts.length || front.any (255 < ·) || Nat.pow 256 (4 - front.length) ≤ last then none
  else
    let high := front.foldl (fun n p => n * 256 + p) 0
    some (high * Nat.pow 256 (4 - front.length) + last)

def ipv4? (domain : List Char) : Option Nat := do
  let labels := Text.pieces '.' domain
  let labels := if labels.getLast? = some [] then labels.dropLast else labels
  ipv4Value? (← labels.mapM ipv4Part?)

def renderIpv4 (n : Nat) : String :=
  ".".intercalate ([3, 2, 1, 0].map fun i => toString (n / Nat.pow 256 i % 256))

/-! ### IPv6 -/

def ipv6Group? (cs : List Char) : Option Nat :=
  if cs.isEmpty || 4 < cs.length then none else numberIn? 16 cs

def decimalOctet? (cs : List Char) : Option Nat :=
  if cs.isEmpty || !cs.all Char.isDigit || (1 < cs.length && cs.head? = some '0') then none
  else (numberIn? 10 cs).filter (· < 256)

/-- The groups between colons; the last may be an IPv4 address in place of two groups. -/
def ipv6Groups? (cs : List Char) : Option (List Nat) :=
  if cs.isEmpty then some []
  else
    let parts := Text.pieces ':' cs
    let last := parts.getLastD []
    if last.contains '.' then do
      let octets ← (Text.pieces '.' last).mapM decimalOctet?
      let front ← parts.dropLast.mapM ipv6Group?
      match octets with
      | [a, b, c, d] => some (front ++ [a * 256 + b, c * 256 + d])
      | _ => none
    else parts.mapM ipv6Group?

/-- The eight groups; a double colon stands for as many zeros as are missing, at least one. -/
def ipv6? (cs : List Char) : Option (List Nat) :=
  match Text.cutOn [':', ':'] cs with
  | none => (ipv6Groups? cs).filter (·.length == 8)
  | some (front, back) => do
    let front ← if front.contains '.' then none else ipv6Groups? front
    let back ← ipv6Groups? back
    let missing := 8 - (front.length + back.length)
    if missing = 0 then none else some (front ++ List.replicate missing 0 ++ back)

/-- The start and the length of the longest run of zeros, the first of several. -/
def longestZeros (groups : List Nat) : Nat × Nat :=
  let runs := (List.range groups.length).map fun i => (i, ((groups.drop i).takeWhile (· == 0)).length)
  runs.foldl (fun best r => if best.2 < r.2 then r else best) (0, 0)

def hexText (n : Nat) : String := String.ofList (Nat.toDigits 16 n)

/-- The longest run of two zeros or more is left out. -/
def renderIpv6 (groups : List Nat) : String :=
  let (start, length) := longestZeros groups
  let text (gs : List Nat) : String := ":".intercalate (gs.map hexText)
  if length < 2 then text groups
  else text (groups.take start) ++ "::" ++ text (groups.drop (start + length))

/-! ### Hosts -/

/-- What follows an opening bracket: an IPv6 address and a closing one. -/
def parseBracketed (rest : List Char) : Except AddressFault String :=
  if rest.getLast? ≠ some ']' then .error .invalidIpv6
  else match ipv6? rest.dropLast with
    | some groups => .ok ("[" ++ renderIpv6 groups ++ "]")
    | none => .error .invalidIpv6

/-- The host of an address, in its serialized form. -/
def parse (cs : List Char) : Except AddressFault String :=
  match cs with
  | '[' :: rest => parseBracketed rest
  | _ =>
    match (Text.Utf8.decode? (Form.percentDecode cs)).bind fun name => Domain.ascii? name.toList with
    | none => .error .invalidDomain
    | some [] => .error .emptyHost
    | some domain =>
      if endsInNumber domain then
        match ipv4? domain with
        | some n => .ok (renderIpv4 n)
        | none => .error .invalidIpv4
      else .ok (String.ofList domain)

/-- A text that may be the host of an address whose scheme says nothing of hosts. -/
def isOpaque (cs : List Char) : Bool :=
  cs.all fun c => c == '%' || c.toNat == 127 || (c != '\x00' && c.toNat < 32) || !Domain.isForbidden c

/-- The host of an address whose scheme says nothing of hosts: any text but for a few characters. -/
def parseOpaque (cs : List Char) : Except AddressFault String :=
  match cs with
  | '[' :: rest => parseBracketed rest
  | _ =>
    if isOpaque cs then
      .ok (String.ofList (cs.flatMap (Form.encodeUnless fun c => 32 ≤ c.toNat && c.toNat < 127)))
    else .error .invalidCharacter

end Host
end TableQuery.Url
