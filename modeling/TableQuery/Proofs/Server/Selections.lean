import TableQuery.Proofs.Chained
import TableQuery.Proofs.Relation
import TableQuery.Proofs.Text.Closed
import TableQuery.Server.Grammar

/-! Selections on the server.

A selection is read part by part (`parseSelect_eq`). Behind a closed text it goes on as if it began there
(`parseSelect_append_comma`), so a list of closed texts is read text by text (`parseSelect_intercalate`);
a head with a selection between brackets behind it is an embedded resource (`parseSelect_embed`), and what
is read of a relation's head is the relation's own key, name and hints (`parseHead_head`). -/
namespace TableQuery.Server

/-- The key that an item puts its value under; a star puts values under many. -/
def Projection.key? : Projection → Option String
  | .star => none
  | .column key _ _ | .embed key _ _ _ _ => some key

/-- Reads one part of a selection. -/
def parseProjection (part : List Char) : Except SyntaxFault Projection :=
  if part = ['*'] then .ok .star
  else if part.contains '(' then
    match between? '(' ')' (part.dropWhile (· != '(')) with
    | none => .error (.unbalancedEmbed (String.ofList part))
    | some body =>
      let (key, name, hint, inner) := parseHead (part.takeWhile (· != '('))
      (parseSelect body).map fun items => .embed key name hint inner items
  else parseColumn part

theorem parseSelect_eq (raw : List Char) :
    parseSelect raw = (Text.Nested.split raw).mapM fun part => parseProjection (Text.trim part) := by
  rw [parseSelect.eq_def]
  rw [List.mapM_subtype (g := fun part => parseProjection (Text.trim part)), List.unattach_attach]
  intro part hp
  unfold parseProjection
  dsimp only
  split
  · rfl
  split
  · split
    · next h => simp only [h]
    · next body h => simp only [h]
  · rfl

theorem parseSelect_star : parseSelect ['*'] = .ok [.star] := by
  have hsplit : Text.Nested.split ['*'] = [['*']] := by decide
  rw [parseSelect_eq, hsplit]
  rfl

/-! ### Lists -/

theorem parseSelect_append_comma {a : List Char} (h : Text.Nested.IsClosed a) (b : List Char) :
    parseSelect (a ++ ',' :: b) = (do
      let first ← parseSelect a
      let rest ← parseSelect b
      .ok (first ++ rest)) := by
  rw [parseSelect_eq, Text.Nested.split_append_comma h, List.mapM_append, parseSelect_eq a, parseSelect_eq b]
  rfl

/-- **Closed texts are read one by one**, whatever is in them. -/
theorem parseSelect_intercalate {texts : List (List Char)} (hne : texts ≠ [])
    (h : ∀ t ∈ texts, Text.Nested.IsClosed t) :
    parseSelect (List.intercalate [','] texts) = (texts.mapM parseSelect).map List.flatten := by
  induction texts with
  | nil => exact absurd rfl hne
  | cons t rest ih =>
    obtain ⟨ht, hrest⟩ := List.forall_mem_cons.mp h
    rw [List.mapM_cons]
    cases rest with
    | nil =>
      rw [List.intercalate_singleton]
      cases parseSelect t with
      | error f => rfl
      | ok items =>
        show Except.ok items = .ok (items ++ [])
        rw [List.append_nil]
    | cons u rest =>
      rw [List.intercalate_cons_cons, List.append_assoc, List.singleton_append,
        parseSelect_append_comma ht, ih (List.cons_ne_nil u rest) hrest]
      cases parseSelect t with
      | error f => rfl
      | ok items =>
        cases List.mapM parseSelect (u :: rest) with
        | error f => rfl
        | ok more => rfl

/-! ### Parts -/

/-- A trimmed text that runs to its end is one part. -/
theorem parseSelect_of_isPart {part : List Char} (h : Text.Nested.IsPart part) :
    parseSelect part = (parseProjection part).map fun item => [item] := by
  rw [parseSelect_eq, Text.Nested.split_of_runsFrom h.runsFrom, List.mapM_cons, h.trim_eq, List.mapM_nil]
  cases parseProjection part <;> rfl

theorem takeWhile_ne_append {c : Char} {head : List Char} (h : c ∉ head) (rest : List Char) :
    (head ++ c :: rest).takeWhile (· != c) = head ∧ (head ++ c :: rest).dropWhile (· != c) = c :: rest := by
  have hall : ∀ d ∈ head, (d != c) = true := by
    intro d hd
    rw [bne_iff_ne]
    rintro rfl
    exact h hd
  constructor
  · rw [List.takeWhile_append_of_pos hall, List.takeWhile_cons_of_neg (by simp), List.append_nil]
  · rw [List.dropWhile_append_of_pos hall, List.dropWhile_cons_of_neg (by simp)]

/-- The text of a resource with what is selected of it. -/
def embedText (head body : List Char) : List Char := head ++ '(' :: (body ++ [')'])

theorem isClosed_embedText {head body : List Char} (hhead : ∀ c ∈ head, Text.Nested.isSafe c = true)
    (hbody : Text.Nested.IsClosed body) : Text.Nested.IsClosed (embedText head body) :=
  (Text.Nested.IsClosed.of_safe hhead).append hbody.bracketed

/-- **A head with a selection between brackets** is an embedded resource. -/
theorem parseSelect_embed {head body : List Char} (hne : head ≠ [])
    (hhead : ∀ c ∈ head, Text.Nested.isSafe c = true ∧ Text.isBlank c = false)
    (hbody : Text.Nested.RunsFrom 1 body) :
    parseSelect (embedText head body) = (parseSelect body).map fun items =>
      [.embed (parseHead head).1 (parseHead head).2.1 (parseHead head).2.2.1 (parseHead head).2.2.2 items] := by
  have hparen : '(' ∉ head := fun hmem => absurd (hhead '(' hmem).1 (by decide)
  have hpart : Text.Nested.IsPart (embedText head body) := by
    obtain ⟨c, cs, rfl⟩ := List.exists_cons_of_ne_nil hne
    exact (hbody.isPart_bracketed (by decide) (by decide)).prefixed (hhead c List.mem_cons_self).2
      (Text.Nested.runsFrom_of_safe fun d hd => (hhead d hd).1)
  have hstar : embedText head body ≠ ['*'] := by
    intro heq
    have hmem : '(' ∈ embedText head body := by simp [embedText]
    rw [heq] at hmem
    exact absurd hmem (by decide)
  obtain ⟨htake, hdrop⟩ := takeWhile_ne_append hparen (body ++ [')'])
  have hbetween : between? '(' ')' ('(' :: (body ++ [')'])) = some body := by simp [between?]
  rw [parseSelect_of_isPart hpart, parseProjection, if_neg hstar, if_pos (by simp [embedText])]
  simp only [embedText, htake, hdrop, hbetween]
  cases parseSelect body <;> rfl

end Server

/-! ### Heads of relations -/

namespace Embedding
variable {e : Embedding}

theorem IsNamed.safe_head (h : e.IsNamed) :
    ∀ c ∈ e.head.toList, Text.Nested.isSafe c = true ∧ Text.isBlank c = false := by
  intro c hc
  rcases h.mem_head c hc with hpart | hmark
  · exact ⟨isSafe_of_isIdentifierPart hpart, not_isBlank_of_isIdentifierPart hpart⟩
  · simp only [List.mem_cons, List.not_mem_nil, or_false] at hmark
    rcases hmark with rfl | rfl <;> decide

/-- The hint that is not taken for a way of joining. -/
def keyHint? (e : Embedding) : Option String := e.hint?.filter fun h => h != "inner" && h != "left"

/-- Whether a row without related rows is dropped: asked for, or hinted at. -/
def isInner (e : Embedding) : Bool := e.hint? == some "inner" || e.join == .inner

theorem cut_head (h : e.IsNamed) :
    Text.cut ':' e.head.toList = e.alias?.map fun a => (a.toList, e.nameText) := by
  rw [toList_head]
  unfold aliasText
  cases ha : e.alias? with
  | none =>
    refine Text.cut_of_not_mem fun hmem => ?_
    rcases h.mem_nameText ':' hmem with hpart | heq
    · exact absurd hpart (by decide)
    · exact absurd heq (by decide)
  | some a =>
    have hcolon : ':' ∉ a.toList := not_mem_of_isIdentifier (h.alias? a ha) (by decide)
    show Text.cut ':' (a.toList ++ [':'] ++ e.nameText) = _
    rw [List.append_assoc, List.singleton_append, Text.cut_append hcolon]
    rfl

theorem pieces_nameText (h : e.IsNamed) :
    Text.pieces '!' e.nameText = e.name.toList :: e.hints.map String.toList := by
  refine Text.pieces_intercalate (List.cons_ne_nil _ _) (List.forall_mem_cons.mpr ⟨?_, ?_⟩)
  · exact not_mem_of_isIdentifier h.name (by decide)
  · exact List.forall_mem_map.mpr fun w hw => not_mem_of_isIdentifier (h.hints w hw) (by decide)

theorem getLast?_hints (e : Embedding) :
    (e.hints.filter fun h => h != "inner" && h != "left").getLast? = e.keyHint? := by
  unfold hints keyHint?
  have hinner :
      (if e.join = .inner then ["inner"] else []).filter (fun h => h != "inner" && h != "left") = [] := by
    split <;> rfl
  rw [List.filter_append, hinner, List.append_nil]
  cases e.hint? with
  | none => rfl
  | some h =>
    rw [Option.toList_some, Option.filter_some, List.filter_cons]
    split <;> rfl

theorem contains_hints (e : Embedding) : e.hints.contains "inner" = e.isInner := by
  unfold hints isInner
  rw [Bool.eq_iff_iff]
  cases e.hint? <;> cases e.join <;> simp [eq_comm (a := "inner")]

/-- What the server reads of a relation's head. -/
theorem parseHead_head (h : e.IsNamed) :
    Server.parseHead e.head.toList = (e.key, e.name, e.keyHint?, e.isInner) := by
  have hpieces (alias? : Option (List Char)) :
      (let parts := Text.pieces '!' e.nameText
       let hints := parts.tail.map String.ofList
       ((alias?.map String.ofList).getD (String.ofList (parts.headD [])), String.ofList (parts.headD []),
          (hints.filter fun h => h != "inner" && h != "left").getLast?, hints.contains "inner")) =
        ((alias?.map String.ofList).getD e.name, e.name, e.keyHint?, e.isInner) := by
    simp only [pieces_nameText h, List.tail_cons, List.headD_cons, List.map_map, Function.comp_def,
      String.ofList_toList, List.map_id', getLast?_hints, contains_hints]
  unfold Server.parseHead
  rw [cut_head h]
  unfold key
  cases ha : e.alias? with
  | none =>
    have hhead : e.head.toList = e.nameText := by
      rw [toList_head, aliasText, ha]
      rfl
    rw [hhead]
    exact hpieces none
  | some a =>
    refine (hpieces (some a.toList)).trans ?_
    simp

end Embedding
end TableQuery
