import TableQuery.Yaml.Value

/-! YAML texts, read.

A text is one document or none. An alias stands for a copy of its anchor's node, and no text may have
more than a hundred copies for each of its events. Collections may be nested in each other 128 deep,
and no key may occur twice in a mapping. The answer is `none` for a text that is no document
(`Yaml.read?`). -/
namespace TableQuery.Yaml

/-- What has been read of a document: a value, the events behind it, and how many copies were made. -/
structure Reading (α : Type) where
  value : α
  rest : List (Event Nat)
  copies : Nat

def copyLimit (n : Numbered) : Nat := 100 * n.events.length

mutual

/-- The value that begins with an event. The fuel bounds the steps, `depth` is the nesting still
allowed; a value that is `tagged` keeps that tag alone. -/
def value? (n : Numbered) (fuel depth : Nat) (tagged : Bool) (copies : Nat) (es : List (Event Nat)) :
    Option (Reading Yaml) :=
  match fuel with
  | 0 => none
  | fuel + 1 =>
    match es with
    | .alias anchor :: es => do
      if copyLimit n ≤ copies then none
      let target ← n.fromAnchor? anchor
      let r ← value? n fuel depth false (copies + 1) target
      some { r with rest := es }
    | .scalar p plain text :: es =>
      if tagged then
        (if plain then ofPlain? text else some (.str text)).map fun v => ⟨v, es, copies⟩
      else match ownTag? p.tag with
        | some tag => (value? n fuel depth true copies (.scalar p plain text :: es)).map fun r =>
          { r with value := .tagged tag r.value }
        | none => (ofScalar? p.tag plain text).map fun v => ⟨v, es, copies⟩
    | .sequence p :: es =>
      match if tagged then none else ownTag? p.tag with
      | some tag => (value? n fuel depth true copies (.sequence p :: es)).map fun r =>
        { r with value := .tagged tag r.value }
      | none =>
        if depth = 0 then none
        else (items? n fuel (depth - 1) copies [] es).map fun r => { r with value := .seq r.value }
    | .mapping p :: es =>
      match if tagged then none else ownTag? p.tag with
      | some tag => (value? n fuel depth true copies (.mapping p :: es)).map fun r =>
        { r with value := .tagged tag r.value }
      | none =>
        if depth = 0 then none
        else (entries? n fuel (depth - 1) copies [] es).map fun r => { r with value := .map r.value }
    | _ => none

def items? (n : Numbered) (fuel depth copies : Nat) (done : List Yaml) (es : List (Event Nat)) :
    Option (Reading (List Yaml)) :=
  match fuel with
  | 0 => none
  | fuel + 1 =>
    match es with
    | .sequenceEnd :: es => some ⟨done.reverse, es, copies⟩
    | es => do
      let r ← value? n fuel depth false copies es
      items? n fuel depth r.copies (r.value :: done) r.rest

def entries? (n : Numbered) (fuel depth copies : Nat) (done : List (Yaml × Yaml))
    (es : List (Event Nat)) : Option (Reading (List (Yaml × Yaml))) :=
  match fuel with
  | 0 => none
  | fuel + 1 =>
    match es with
    | .mappingEnd :: es => some ⟨done, es, copies⟩
    | es => do
      let k ← value? n fuel depth false copies es
      let v ← value? n fuel depth false k.copies k.rest
      let done ← addEntry? done k.value v.value
      entries? n fuel depth v.copies done v.rest

end

def maxDepth : Nat := 128

/-- The value of a numbered document. At each depth there may be as many steps as there are events,
and three more to come to the next one. -/
def ofNumbered? (n : Numbered) : Option Yaml :=
  if n.events.isEmpty then some .null
  else (value? n ((maxDepth + 1) * (n.events.length + 3)) maxDepth false 0 n.events).map (·.value)

/-- The document a text holds; an empty one is nothing. -/
def read? (text : String) : Option Yaml := do
  let tokens ← Token.ofText? text
  let events ← Event.ofTokens? tokens
  let numbered ← Numbered.ofEvents? events
  ofNumbered? numbered

end TableQuery.Yaml
