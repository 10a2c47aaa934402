import TableQuery.Text.Utf8
import TableQuery.Request

/-! Messages between a client and a server.

Header names are kept in small letters. Setting a header replaces every value it had. A value may hold
any character but controls, the tab excepted; one that is not plain ASCII reads as absent
(`Headers.text?`). -/
namespace TableQuery.Http

abbrev Headers := List (String × String)

/-- The marks that a header name may hold besides letters and digits. -/
def nameMarks : List Char :=
  ['!', '#', '$', '%', '&', '\'', '*', '+', '-', '.', '^', '_', '\x60', '|', '~']

def isNameChar (c : Char) : Bool := c.isAlphanum || nameMarks.contains c

/-- The name in small letters, if it is one. -/
def headerName? (name : String) : Option String :=
  if name.isEmpty || !name.toList.all isNameChar then none else some (asciiLower name)

def isValueChar (c : Char) : Bool := c == '\t' || (32 ≤ c.toNat && c.toNat != 127)

def isHeaderValue (value : String) : Bool := value.toList.all isValueChar

def isVisible (value : String) : Bool :=
  value.toList.all fun c => c == '\t' || (32 ≤ c.toNat && c.toNat < 127)

namespace Headers

/-- The first value of a header, its name given in small letters. -/
def get? (hs : Headers) (name : String) : Option String :=
  (hs.find? fun h => h.1 == name).map Prod.snd

/-- The first value of a header if it is plain ASCII. -/
def text? (hs : Headers) (name : String) : Option String := (hs.get? name).filter isVisible

def all (hs : Headers) (name : String) : List String :=
  (hs.filter fun h => h.1 == name).map Prod.snd

def set (hs : Headers) (name value : String) : Headers :=
  (hs.filter fun h => h.1 != name) ++ [(name, value)]

theorem get?_set_self (hs : Headers) (name value : String) :
    (hs.set name value).get? name = some value := by
  unfold get? set
  rw [List.find?_append]
  have : (hs.filter fun h => h.1 != name).find? (fun h => h.1 == name) = none := by
    rw [List.find?_eq_none]
    intro h hm
    have := (List.mem_filter.1 hm).2
    simpa using this
  simp [this]

end Headers

structure Message where
  method : String
  url : String
  headers : Headers
  body : Option (List UInt8)
deriving Repr, DecidableEq

structure Response where
  status : Nat
  headers : Headers
  body : List UInt8
deriving Repr, DecidableEq

end TableQuery.Http
