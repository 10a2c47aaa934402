/-! Sets of code points and properties of them, given as runs: the first and the last code point of each,
in ascending order, with the value that the run has if the property is more than being in the set. -/
namespace TableQuery.Text

def inRuns (runs : List (Nat × Nat)) (n : Nat) : Bool :=
  runs.any fun r => r.1 ≤ n && n ≤ r.2

/-- The value of the run that a code point lies in. -/
def runValue? {α : Type} (runs : List (Nat × Nat × α)) (n : Nat) : Option α :=
  (runs.find? fun r => r.1 ≤ n && n ≤ r.2.1).map fun r => r.2.2

end TableQuery.Text
