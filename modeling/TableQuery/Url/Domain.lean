import TableQuery.Text.Compose
import TableQuery.Text.Direction
import TableQuery.Text.Joining
import TableQuery.Url.Mapping
import TableQuery.Url.Punycode

/-! Domain names, in the form they are compared in.

A name is written with the characters that stand for its own (`Mapping.text?`), composed, and cut into
labels at its dots. A label with other characters than ASCII is written in its Punycode form behind
`xn--`; one that comes in this form has to be what its characters would be written as. Labels may not
begin with a mark, may hold the two joiners only where joiners mean something, and in a name that is
partly written from right to left each has to keep to one direction (`keepsDirection`). -/
namespace TableQuery.Url.Domain

/-- The characters that no domain name may hold. -/
def isForbidden (c : Char) : Bool :=
  c.toNat ≤ 32 || c.toNat == 127 ||
    ['#', '/', ':', '<', '>', '?', '@', '[', '\\', ']', '^', '|', '%'].contains c

def isAscii (cs : List Char) : Bool := cs.all fun c => c.toNat < 128

/-- A text in the characters that names are written with. -/
def spelled? (cs : List Char) : Option (List Char) := (Mapping.text? cs).map Text.compose

/-! ### Labels -/

def nonJoiner : Char := '\u200c'
def joiner : Char := '\u200d'

/-- A joiner follows a virama. The one that keeps letters apart may also stand between two letters that
would join. `before` is what comes before the text, last character first. -/
def joinersFit (before : List Char) : List Char → Bool
  | [] => true
  | c :: cs =>
    ((c != joiner && c != nonJoiner) ||
      before.head?.any (fun b => Text.combiningClass b == Text.viramaClass) ||
      (c == nonJoiner && Text.joinsOnward before && Text.joinsBack cs)) &&
      joinersFit (c :: before) cs

/-- The longest label that is turned into its Punycode form, and the longest form that is read. -/
def longestLabel : Nat := 1000
def longestForm : Nat := 2000

/-- Whether a label may stand as it is in a name. -/
def isLabel (label : List Char) : Bool :=
  isAscii label ||
    (!label.head?.any Text.isMark && joinersFit [] label && label.length ≤ longestLabel)

def formMark : List Char := ['x', 'n', '-', '-']

/-- What a Punycode form says, if it is one and the only one for its characters. -/
def meant? (form : List Char) : Option (List Char) := do
  if form.isEmpty || form.getLast? == some '-' || longestForm < form.length || !isAscii form then none
  else
    let label ← Punycode.decode? form
    if spelled? label = some label && isLabel label then some label else none

/-- A label beside the form it is written in. -/
def written? (label : List Char) : Option (List Char × List Char) :=
  match formMark.isPrefixOf? label with
  | some form => (meant? form).map fun meant => (meant, label)
  | none =>
    if !isLabel label then none
    else some (label, if isAscii label then label else formMark ++ Punycode.encode label)

/-! ### Direction

A label that begins with a letter of one direction goes on with characters that do not belong to the
other, and ends with one that has a direction; marks at its end do not count. From right to left it has
only one kind of number in it. -/

def fitsRight : Text.Direction → Bool
  | .left | .other => false
  | _ => true

def fitsLeft : Text.Direction → Bool
  | .left | .number | .mark | .neutral => true
  | _ => false

def keepsDirection (label : List Char) : Bool :=
  let ds := label.map Text.direction
  let last := ((ds.reverse.dropWhile (· == .mark)).head?).getD .left
  match ds with
  | [] => true
  | .right :: _ =>
    ds.all fitsRight && (last == .right || last == .number || last == .arabicNumber) &&
      !(ds.contains .number && ds.contains .arabicNumber)
  | .left :: _ => ds.all fitsLeft && (last == .left || last == .number)
  | _ => false

/-! ### Names -/

/-- The name in ASCII, if it is one. -/
def ascii? (name : List Char) : Option (List Char) := do
  let name ← spelled? name
  if name.any isForbidden then none
  else
    let labels ← (Text.pieces '.' name).mapM written?
    if labels.any (fun l => Text.runsBothWays l.1) && !labels.all (fun l => keepsDirection l.1) then none
    else some (List.intercalate ['.'] (labels.map Prod.snd))

end TableQuery.Url.Domain
