import TableQuery.Yaml.Token

/-! What happens along a YAML document.

Scalars come one after another, and a collection has an event where it begins and one where it ends; a
missing key or value is an empty plain scalar. Tags are resolved. A text is at most one document, which
directives may precede (`Event.ofTokens?`). In the end each alias tells the number of its anchor
(`Numbered.ofEvents?`).

The parser goes by fuel, one unit to each step down or to the next entry; every two such steps take a
token, so that it never runs out of it. -/
namespace TableQuery.Yaml

/-- What a node may have beside its content. -/
structure Properties where
  anchor : Option String
  tag : Option String
deriving Repr, DecidableEq

/-- An event; `α` is what an alias tells of its anchor. -/
inductive Event (α : Type) where
  | alias (target : α)
  | scalar (p : Properties) (plain : Bool) (text : String)
  | sequence (p : Properties)
  | sequenceEnd
  | mapping (p : Properties)
  | mappingEnd
deriving Repr, DecidableEq

namespace Event

/-- The events so far, the last one first, and the tokens left. -/
abbrev Progress := List (Event String) × List Token

def bare : Properties := ⟨none, none⟩

/-- Puts what stands for a missing node. -/
def missing (done : List (Event String)) : List (Event String) := .scalar bare true "" :: done

/-! ### Tags -/

/-- The handles of tags with what each stands for. -/
abbrev Handles := List (String × String)

def standardHandles : Handles := [("!", "!"), ("!!", "tag:yaml.org,2002:")]

def resolveTag? (handles : Handles) (handle : Option String) (suffix : String) : Option String :=
  match handle with
  | none => some suffix
  | some name => (handles.find? fun h => h.1 == name).map fun h => h.2 ++ suffix

/-- The properties that stand here, in any order, and the tokens behind them. -/
def properties? (handles : Handles) (ts : List Token) : Option (Properties × List Token) :=
  match ts with
  | .anchor a :: .tag h s :: ts => (resolveTag? handles h s).map fun t => (⟨some a, some t⟩, ts)
  | .tag h s :: .anchor a :: ts => (resolveTag? handles h s).map fun t => (⟨some a, some t⟩, ts)
  | .tag h s :: ts => (resolveTag? handles h s).map fun t => (⟨none, some t⟩, ts)
  | .anchor a :: ts => some (⟨some a, none⟩, ts)
  | ts => some (bare, ts)

/-! ### Nodes -/

/-- Whether a node of a sequence of lines is missing before this token. -/
def endsItem (t : Token) : Bool := t == .dash || t == .blockEnd

/-- Whether a key or a value of a mapping of lines is missing before this token. -/
def endsEntry (t : Token) : Bool := t == .key || t == .value || t == .blockEnd

def startsWith (p : Token → Bool) (ts : List Token) : Bool := ts.head?.any p

mutual

/-- A node. Only where `block` holds may it be a collection of lines; where `indentless` holds too, a
sequence may stand in the column of the key before it. -/
def node? (handles : Handles) (fuel : Nat) (block indentless : Bool) (done : List (Event String))
    (ts : List Token) : Option Progress :=
  match fuel with
  | 0 => none
  | fuel + 1 =>
    match ts with
    | .alias name :: ts => some (.alias name :: done, ts)
    | _ => do
      let (p, ts) ← properties? handles ts
      match ts with
      | .dash :: _ =>
        if indentless then indentlessItems? handles fuel (.sequence p :: done) ts
        else if p = bare then none else some (.scalar p true "" :: done, ts)
      | .scalar plain text :: ts => some (.scalar p plain text :: done, ts)
      | .flowSequence :: ts => flowItems? handles fuel true (.sequence p :: done) ts
      | .flowMapping :: ts => flowEntries? handles fuel true (.mapping p :: done) ts
      | .blockSequence :: rest =>
        if block then blockItems? handles fuel (.sequence p :: done) rest
        else if p = bare then none else some (.scalar p true "" :: done, ts)
      | .blockMapping :: rest =>
        if block then blockEntries? handles fuel (.mapping p :: done) rest
        else if p = bare then none else some (.scalar p true "" :: done, ts)
      | ts => if p = bare then none else some (.scalar p true "" :: done, ts)

/-- The items of a sequence of lines, up to its end. -/
def blockItems? (handles : Handles) (fuel : Nat) (done : List (Event String)) (ts : List Token) :
    Option Progress :=
  match fuel with
  | 0 => none
  | fuel + 1 =>
    match ts with
    | .dash :: ts => do
      let (done, ts) ← if startsWith endsItem ts then some (missing done, ts)
        else node? handles fuel true false done ts
      blockItems? handles fuel done ts
    | .blockEnd :: ts => some (.sequenceEnd :: done, ts)
    | _ => none

/-- The items of a sequence in the column of a key, as long as there are any. -/
def indentlessItems? (handles : Handles) (fuel : Nat) (done : List (Event String)) (ts : List Token) :
    Option Progress :=
  match fuel with
  | 0 => none
  | fuel + 1 =>
    match ts with
    | .dash :: ts => do
      let (done, ts) ← if startsWith (fun t => t == .dash || endsEntry t) ts then some (missing done, ts)
        else node? handles fuel true false done ts
      indentlessItems? handles fuel done ts
    | ts => some (.sequenceEnd :: done, ts)

/-- The entries of a mapping of lines, up to its end. -/
def blockEntries? (handles : Handles) (fuel : Nat) (done : List (Event String)) (ts : List Token) :
    Option Progress :=
  match fuel with
  | 0 => none
  | fuel + 1 =>
    match ts with
    | .key :: ts => do
      let (done, ts) ← if startsWith endsEntry ts then some (missing done, ts)
        else node? handles fuel true true done ts
      let (done, ts) ← match ts with
        | .value :: ts =>
          if startsWith endsEntry ts then some (missing done, ts)
          else node? handles fuel true true done ts
        | ts => some (missing done, ts)
      blockEntries? handles fuel done ts
    | .blockEnd :: ts => some (.mappingEnd :: done, ts)
    | _ => none

/-- The items of a sequence in brackets, up to its end; an item with a key is a mapping of its own. -/
def flowItems? (handles : Handles) (fuel : Nat) (first : Bool) (done : List (Event String))
    (ts : List Token) : Option Progress :=
  match fuel with
  | 0 => none
  | fuel + 1 => do
    let ts ← if first then some ts else match ts with
      | .comma :: ts => some ts
      | .flowSequenceEnd :: _ => some ts
      | _ => none
    match ts with
    | .flowSequenceEnd :: ts => some (.sequenceEnd :: done, ts)
    | .key :: ts => do
      let (done, ts) ← pairKey? handles fuel (.mapping bare :: done) ts
      let (done, ts) ← match ts with
        | .value :: ts =>
          if startsWith (fun t => t == .comma || t == .flowSequenceEnd) ts then some (missing done, ts)
          else node? handles fuel false false done ts
        | ts => some (missing done, ts)
      flowItems? handles fuel false (.mappingEnd :: done) ts
    | ts => do
      let (done, ts) ← node? handles fuel false false done ts
      flowItems? handles fuel false done ts

/-- The key of an item in brackets. Where it is missing, the token that shows that is taken with it. -/
def pairKey? (handles : Handles) (fuel : Nat) (done : List (Event String)) (ts : List Token) :
    Option Progress :=
  match fuel with
  | 0 => none
  | fuel + 1 =>
    if startsWith (fun t => t == .value || t == .comma || t == .flowSequenceEnd) ts then
      some (missing done, ts.drop 1)
    else node? handles fuel false false done ts

/-- The entries of a mapping in braces, up to its end; one without a key mark has no value. -/
def flowEntries? (handles : Handles) (fuel : Nat) (first : Bool) (done : List (Event String))
    (ts : List Token) : Option Progress :=
  match fuel with
  | 0 => none
  | fuel + 1 => do
    let ts ← if first then some ts else match ts with
      | .comma :: ts => some ts
      | .flowMappingEnd :: _ => some ts
      | _ => none
    match ts with
    | .flowMappingEnd :: ts => some (.mappingEnd :: done, ts)
    | .key :: ts => do
      let (done, ts) ←
        if startsWith (fun t => t == .value || t == .comma || t == .flowMappingEnd) ts then
          some (missing done, ts)
        else node? handles fuel false false done ts
      let (done, ts) ← match ts with
        | .value :: ts =>
          if startsWith (fun t => t == .comma || t == .flowMappingEnd) ts then some (missing done, ts)
          else node? handles fuel false false done ts
        | ts => some (missing done, ts)
      flowEntries? handles fuel false done ts
    | ts => do
      let (done, ts) ← node? handles fuel false false done ts
      flowEntries? handles fuel false (missing done) ts

end

/-! ### Documents -/

/-- Takes the directives in: one version at most, which has to be known, and each handle once. -/
def directives? (seen : Bool) (handles : Handles) : List Token → Option (Handles × List Token)
  | .version major minor :: ts =>
    if seen || major != 1 || !(minor == 1 || minor == 2) then none else directives? true handles ts
  | .handle name lead :: ts =>
    if handles.any fun h => h.1 == name then none else directives? seen ((name, lead) :: handles) ts
  | ts => some (handles, ts)

/-- Whether a token can only stand between documents. -/
def isBoundary : Token → Bool
  | .version .. | .handle .. | .documentStart | .documentEnd => true
  | _ => false

/-- The events of the content of a document that had a mark; it may be missing. -/
def content? (handles : Handles) (ts : List Token) : Option Progress :=
  if ts.isEmpty || startsWith isBoundary ts then some (missing [], ts)
  else node? handles (4 * ts.length + 4) true false [] ts

/-- The events of the only document that the tokens make up; no events if there is none. -/
def ofTokens? (ts : List Token) : Option (List (Event String)) := do
  if ts.isEmpty then some []
  else
    let (events, ts) ← match ts with
      | .documentStart :: ts => content? standardHandles ts
      | .version .. :: _ | .handle .. :: _ => do
        let (handles, ts) ← directives? false [] ts
        match ts with
        | .documentStart :: ts => content? (handles ++ standardHandles) ts
        | _ => none
      | ts => node? standardHandles (4 * ts.length + 4) true false [] ts
    if (ts.dropWhile (· == .documentEnd)).isEmpty then some events.reverse else none

end Event

/-! ### Anchors -/

/-- Events whose aliases tell the numbers of their anchors, and where in them each anchor is. -/
structure Numbered where
  events : List (Event Nat)
  /-- The number of an anchor with the place of its node, the latest first. -/
  places : List (Nat × Nat)

namespace Numbered

/-- What is known of anchors before an event: the number of each name, and the places. -/
structure Known where
  numbers : List (String × Nat)
  places : List (Nat × Nat)

/-- An anchor is numbered by how many names there were before it. -/
def Known.add (k : Known) (p : Properties) (place : Nat) : Known :=
  match p.anchor with
  | none => k
  | some name =>
    let number := k.numbers.length
    ⟨(name, number) :: k.numbers.filter fun n => n.1 != name, (number, place) :: k.places⟩

/-- Numbers the events from a place on; an alias has to follow its anchor. -/
def number? (k : Known) (place : Nat) : List (Event String) → Option (List (Event Nat) × Known)
  | [] => some ([], k)
  | e :: es => do
    let (k, numbered) ← match e with
      | .alias name => (k.numbers.find? fun n => n.1 == name).map fun n => (k, .alias n.2)
      | .scalar p plain text => some (k.add p place, .scalar p plain text)
      | .sequence p => some (k.add p place, .sequence p)
      | .mapping p => some (k.add p place, .mapping p)
      | .sequenceEnd => some (k, .sequenceEnd)
      | .mappingEnd => some (k, .mappingEnd)
    let (others, k) ← number? k (place + 1) es
    some (numbered :: others, k)

def ofEvents? (es : List (Event String)) : Option Numbered :=
  (number? ⟨[], []⟩ 0 es).map fun r => ⟨r.1, r.2.places⟩

/-- The events from a numbered anchor's node on. -/
def fromAnchor? (n : Numbered) (number : Nat) : Option (List (Event Nat)) :=
  (n.places.find? fun p => p.1 == number).map fun p => n.events.drop p.2

end Numbered
end TableQuery.Yaml
