import TableQuery.Proofs.Query.Placement
import TableQuery.Proofs.Server.Selections

/-! What the server reads of a selection.

A selection is read level by level (`parseSelect_of_compile`): the server finds what it would find in each
item alone, and behind the items of a level one embedded resource for each level below, as long as every
item closes what it opens. -/
namespace TableQuery.Select
open Server

namespace Level

/-! ### Texts -/

mutual

/-- A level's head, and what is selected there between brackets. -/
def text : Level → String
  | .node e items children => e.head ++ "(" ++ ",".intercalate (levelTexts items (texts children)) ++ ")"

def texts : List Level → List String
  | [] => []
  | l :: ls => text l :: texts ls

end

theorem texts_of_render (ls : List Level) {seen out : List String} (h : renderLevels seen ls = .ok out) :
    out = texts ls := by
  match ls with
  | [] =>
    rw [renderLevels] at h
    exact (Except.ok.inj h).symm
  | .node e items children :: rest =>
    obtain ⟨-, below, inner, others, hinner, hothers, rfl⟩ := renderLevels_cons h
    rw [texts_of_render children hinner, texts_of_render rest hothers]
    rfl
termination_by ls

mutual

/-- A level of a named relation whose items, and those below it, close what they open. -/
def IsReadable : Level → Prop
  | .node e items children =>
    e.IsNamed ∧ (∀ i ∈ items, Text.Nested.IsClosed i.render.toList) ∧ AllReadable children

def AllReadable : List Level → Prop
  | [] => True
  | l :: ls => IsReadable l ∧ AllReadable ls

end

theorem toList_text (e : Embedding) (items : List SelectItem) (children : List Level) :
    (text (.node e items children)).toList =
      embedText e.head.toList (",".intercalate (levelTexts items (texts children))).toList := by
  simp [text, embedText]

theorem isClosed_levelTexts {items : List SelectItem} {below : List String}
    (hitems : ∀ i ∈ items, Text.Nested.IsClosed i.render.toList)
    (hbelow : ∀ t ∈ below, Text.Nested.IsClosed t.toList) :
    ∀ t ∈ levelTexts items below, Text.Nested.IsClosed t.toList := by
  unfold levelTexts
  split
  · exact List.forall_mem_cons.mpr ⟨by decide, hbelow⟩
  · exact List.forall_mem_append.mpr ⟨List.forall_mem_map.mpr hitems, hbelow⟩

theorem isClosed_intercalate {texts : List String} (h : ∀ t ∈ texts, Text.Nested.IsClosed t.toList) :
    Text.Nested.IsClosed (",".intercalate texts).toList := by
  rw [String.toList_intercalate]
  exact .intercalate (List.forall_mem_map.mpr h)

mutual

theorem isClosed_text (l : Level) (h : l.IsReadable) : Text.Nested.IsClosed l.text.toList := by
  cases l with
  | node e items children =>
    obtain ⟨hnamed, hitems, hchildren⟩ := h
    rw [toList_text]
    exact isClosed_embedText (fun c hc => (hnamed.safe_head c hc).1)
      (isClosed_intercalate (isClosed_levelTexts hitems (isClosed_texts children hchildren)))
termination_by structural l

theorem isClosed_texts (ls : List Level) (h : AllReadable ls) :
    ∀ t ∈ texts ls, Text.Nested.IsClosed t.toList := by
  cases ls with
  | nil => exact fun _ ht => nomatch ht
  | cons l ls => exact List.forall_mem_cons.mpr ⟨isClosed_text l h.1, isClosed_texts ls h.2⟩
termination_by structural ls

end

/-! ### Readings -/

/-- What the server reads of a level's items, each read alone: everything where there are none. -/
def readItems (items : List SelectItem) : Except SyntaxFault (List Projection) :=
  if items.isEmpty then .ok [.star]
  else (items.mapM fun i => parseSelect i.render.toList).map List.flatten

/-- What the server reads of a text where it stands alone; nothing if it cannot read it. -/
def readAlone (text : String) : List Projection :=
  match parseSelect text.toList with
  | .ok ps => ps
  | .error _ => []

theorem readAlone_of_parseSelect {text : String} {ps : List Projection}
    (h : parseSelect text.toList = .ok ps) : readAlone text = ps := by
  unfold readAlone
  rw [h]

theorem flatten_of_mapM {items : List SelectItem} {readings : List (List Projection)}
    (h : (items.mapM fun i => parseSelect i.render.toList) = .ok readings) :
    readings.flatten = items.flatMap fun i => readAlone i.render := by
  induction items generalizing readings with
  | nil =>
    obtain rfl := Except.ok.inj h
    rfl
  | cons i items ih =>
    rw [List.mapM_cons] at h
    obtain ⟨first, hfirst, h⟩ := Chained.bind_eq_ok.mp h
    obtain ⟨others, hothers, h⟩ := Chained.bind_eq_ok.mp h
    obtain rfl := Except.ok.inj h
    rw [List.flatten_cons, ih hothers, List.flatMap_cons, readAlone_of_parseSelect hfirst]

/-- A level's items are read one by one. -/
theorem eq_of_readItems {items : List SelectItem} {own : List Projection} (h : readItems items = .ok own) :
    own = if items.isEmpty then [.star] else items.flatMap fun i => readAlone i.render := by
  unfold readItems at h
  split at h
  · next hempty => rw [if_pos hempty, ← Except.ok.inj h]
  · next hne =>
    obtain ⟨readings, hreadings, rfl⟩ := Chained.map_eq_ok.mp h
    rw [if_neg hne, flatten_of_mapM hreadings]

mutual

/-- What the server reads of a level: a resource with what is selected of it. -/
def read : Level → Except SyntaxFault Projection
  | .node e items children => do
    let own ← readItems items
    let below ← readAll children
    .ok (.embed e.key e.name e.keyHint? e.isInner (own ++ below))

def readAll : List Level → Except SyntaxFault (List Projection)
  | [] => .ok []
  | l :: ls => do
    let first ← read l
    let others ← readAll ls
    .ok (first :: others)

end

/-- What a level is read as, where it is read. -/
theorem of_read_node {e : Embedding} {items : List SelectItem} {children : List Level} {p : Projection}
    (h : (node e items children).read = .ok p) :
    ∃ own below, readItems items = .ok own ∧ readAll children = .ok below ∧
      p = .embed e.key e.name e.keyHint? e.isInner (own ++ below) := by
  rw [read] at h
  obtain ⟨own, hown, h⟩ := Chained.bind_eq_ok.mp h
  obtain ⟨below, hbelow, h⟩ := Chained.bind_eq_ok.mp h
  exact ⟨own, below, hown, hbelow, (Except.ok.inj h).symm⟩

theorem of_readAll_cons {l : Level} {ls : List Level} {ps : List Projection} (h : readAll (l :: ls) = .ok ps) :
    ∃ first others, l.read = .ok first ∧ readAll ls = .ok others ∧ ps = first :: others := by
  rw [readAll] at h
  obtain ⟨first, hfirst, h⟩ := Chained.bind_eq_ok.mp h
  obtain ⟨others, hothers, h⟩ := Chained.bind_eq_ok.mp h
  exact ⟨first, others, hfirst, hothers, (Except.ok.inj h).symm⟩

theorem parseSelect_levelTexts {items : List SelectItem} {below : List String}
    (hitems : ∀ i ∈ items, Text.Nested.IsClosed i.render.toList)
    (hbelow : ∀ t ∈ below, Text.Nested.IsClosed t.toList) :
    parseSelect (",".intercalate (levelTexts items below)).toList = (do
      let own ← readItems items
      let rest ← (below.mapM fun t => parseSelect t.toList).map List.flatten
      .ok (own ++ rest)) := by
  have hne : (levelTexts items below).map String.toList ≠ [] := by
    unfold levelTexts
    cases items <;> simp
  rw [String.toList_intercalate]
  show parseSelect (List.intercalate [','] _) = _
  rw [parseSelect_intercalate hne (List.forall_mem_map.mpr (isClosed_levelTexts hitems hbelow)),
    List.mapM_map]
  unfold levelTexts readItems
  split
  · have hstar : parseSelect "*".toList = .ok [.star] := parseSelect_star
    simp only [List.mapM_cons, Function.comp_def, hstar]
    cases below.mapM fun t => parseSelect t.toList <;> rfl
  · simp only [List.mapM_append, List.mapM_map, Function.comp_def]
    cases items.mapM fun i => parseSelect i.render.toList with
    | error f => rfl
    | ok own =>
      cases below.mapM fun t => parseSelect t.toList with
      | error f => rfl
      | ok rest => exact congrArg Except.ok List.flatten_append

mutual

/-- A level's text is read as the level. -/
theorem parseSelect_text (l : Level) (h : l.IsReadable) :
    parseSelect l.text.toList = l.read.map fun p => [p] := by
  cases l with
  | node e items children =>
    obtain ⟨hnamed, hitems, hchildren⟩ := h
    have hbelow := isClosed_texts children hchildren
    have hbody := isClosed_intercalate (isClosed_levelTexts hitems hbelow)
    rw [toList_text, parseSelect_embed hnamed.head_ne_nil hnamed.safe_head hbody.runsFrom,
      parseSelect_levelTexts hitems hbelow, mapM_parseSelect_texts children hchildren,
      Embedding.parseHead_head hnamed, read]
    cases readItems items with
    | error f => rfl
    | ok own =>
      cases readAll children <;> rfl
termination_by structural l

theorem mapM_parseSelect_texts (ls : List Level) (h : AllReadable ls) :
    ((texts ls).mapM fun t => parseSelect t.toList).map List.flatten = readAll ls := by
  cases ls with
  | nil => rfl
  | cons l ls =>
    rw [texts, List.mapM_cons, parseSelect_text l h.1, readAll, ← mapM_parseSelect_texts ls h.2]
    cases read l with
    | error f => rfl
    | ok first => cases (texts ls).mapM fun t => parseSelect t.toList <;> rfl
termination_by structural ls

end

end Level

/-! ### Selections that compile -/

theorem isClosed_placedAt {items : List SelectItem} (h : ∀ i ∈ items, Text.Nested.IsClosed i.render.toList)
    (path : List String) : ∀ i ∈ placedAt items path, Text.Nested.IsClosed i.render.toList :=
  List.forall_mem_map.mpr fun i hi => h i (List.mem_filter.mp hi).1

mutual

theorem isReadable_fill {items : List SelectItem} (hitems : ∀ i ∈ items, Text.Nested.IsClosed i.render.toList)
    (path : List String) (r : Relation)
    (h : ∀ e ∈ Relation.embeddings r, e.IsNamed ∧ ∀ c ∈ e.columns, Text.Nested.IsClosed c.toList) :
    (fill items path r).IsReadable := by
  cases r with
  | node e cs =>
    rw [Relation.embeddings] at h
    obtain ⟨⟨hnamed, hcolumns⟩, hbelow⟩ := List.forall_mem_cons.mp h
    exact ⟨hnamed, List.forall_mem_append.mpr ⟨List.forall_mem_map.mpr hcolumns, isClosed_placedAt hitems _⟩,
      allReadable_fillAll hitems _ cs hbelow⟩
termination_by structural r

theorem allReadable_fillAll {items : List SelectItem}
    (hitems : ∀ i ∈ items, Text.Nested.IsClosed i.render.toList) (path : List String) (rs : List Relation)
    (h : ∀ e ∈ Relation.embeddingsOf rs, e.IsNamed ∧ ∀ c ∈ e.columns, Text.Nested.IsClosed c.toList) :
    Level.AllReadable (fillAll items path rs) := by
  cases rs with
  | nil => exact trivial
  | cons r rs =>
    rw [Relation.embeddingsOf] at h
    obtain ⟨hr, hrs⟩ := List.forall_mem_append.mp h
    exact ⟨isReadable_fill hitems path r hr, allReadable_fillAll hitems path rs hrs⟩
termination_by structural rs

end

/-- Each relation is read as a resource with what its head says. -/
theorem forall₂_readAll_fillAll {items : List SelectItem} {path : List String} {rs : List Relation}
    {ps : List Projection} (h : Level.readAll (fillAll items path rs) = .ok ps) :
    List.Forall₂ (fun r p => ∃ content,
      p = .embed r.key r.embedding.name r.embedding.keyHint? r.embedding.isInner content) rs ps := by
  induction rs generalizing ps with
  | nil =>
    obtain rfl := Except.ok.inj h
    exact .nil
  | cons r rs ih =>
    obtain ⟨e, cs⟩ := r
    rw [fillAll, fill] at h
    obtain ⟨first, others, hfirst, hothers, rfl⟩ := Level.of_readAll_cons h
    obtain ⟨_, _, -, -, rfl⟩ := Level.of_read_node hfirst
    exact .cons ⟨_, rfl⟩ (ih hothers)

/-- **A selection that compiles is read level by level.** -/
theorem parseSelect_of_compile {items : List SelectItem} {relations : List Relation} {text : String}
    (hitems : ∀ i ∈ items, Text.Nested.IsClosed i.render.toList)
    (hrelations : ∀ e ∈ Relation.embeddingsOf relations,
      e.IsNamed ∧ ∀ c ∈ e.columns, Text.Nested.IsClosed c.toList)
    (h : compile items relations = .ok (some text)) :
    parseSelect text.toList = (do
      let own ← Level.readItems (placedAt items [])
      let below ← Level.readAll (fillAll items [] relations)
      .ok (own ++ below)) := by
  obtain ⟨-, -, seen, texts, htexts, rfl⟩ := text_of_compile h
  have hreadable := allReadable_fillAll hitems [] relations hrelations
  rw [Level.texts_of_render _ htexts, Level.parseSelect_levelTexts (isClosed_placedAt hitems [])
    (Level.isClosed_texts _ hreadable), Level.mapM_parseSelect_texts _ hreadable]

/-- What such a selection is read as, where it is read: its own items and the levels of its relations. -/
theorem readings_of_compile {items : List SelectItem} {relations : List Relation} {text : String}
    {ps : List Projection} (hitems : ∀ i ∈ items, Text.Nested.IsClosed i.render.toList)
    (hrelations : ∀ e ∈ Relation.embeddingsOf relations,
      e.IsNamed ∧ ∀ c ∈ e.columns, Text.Nested.IsClosed c.toList)
    (h : compile items relations = .ok (some text)) (hread : parseSelect text.toList = .ok ps) :
    ∃ own below, Level.readItems (placedAt items []) = .ok own ∧
      Level.readAll (fillAll items [] relations) = .ok below ∧ ps = own ++ below := by
  rw [parseSelect_of_compile hitems hrelations h] at hread
  obtain ⟨own, hown, hread⟩ := Chained.bind_eq_ok.mp hread
  obtain ⟨below, hbelow, hread⟩ := Chained.bind_eq_ok.mp hread
  exact ⟨own, below, hown, hbelow, (Except.ok.inj hread).symm⟩

end TableQuery.Select
