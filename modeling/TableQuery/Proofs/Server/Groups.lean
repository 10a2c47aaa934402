import Mathlib.Data.List.Forall2
import TableQuery.Proofs.Server.Leaves
import TableQuery.Server.Params

/-! Filter trees over the wire.

A tree has a truth value on a row (`Filter.eval`). The parameter of a tree that is a group, or the negation
of one, is read by the server as a condition with that value on every row (`holds_param`): however deep
groups and negations are nested, and whatever texts are among the operands, brackets apart. A request
with that parameter is for the rows of the root where the condition holds (`put_param`). -/
namespace TableQuery
open Server

namespace Filter

/-! ### Trees and their truth values -/

mutual

/-- What a tree says of a row. -/
def eval (row : Row) : Filter → Bool
  | .leaf l => l.eval row
  | .group j members => evalMembers row j members
  | .not f => !eval row f

/-- What the members of a group say of a row: whether all of them hold, or any does. -/
def evalMembers (row : Row) (j : Junction) : List Filter → Bool
  | [] => j == .all
  | f :: fs =>
    match j with
    | .all => eval row f && evalMembers row j fs
    | .any => eval row f || evalMembers row j fs

end

theorem eval_all (row : Row) (members : List Filter) :
    eval row (.group .all members) = members.all (eval row) := by
  rw [eval]
  induction members with
  | nil => rfl
  | cons f fs ih => rw [evalMembers, ih, List.all_cons]

theorem eval_any (row : Row) (members : List Filter) :
    eval row (.group .any members) = members.any (eval row) := by
  rw [eval]
  induction members with
  | nil => rfl
  | cons f fs ih => rw [evalMembers, ih, List.any_cons]

mutual

def leaves : Filter → List Leaf
  | .leaf l => [l]
  | .group _ members => leavesOf members
  | .not f => leaves f

def leavesOf : List Filter → List Leaf
  | [] => []
  | f :: fs => leaves f ++ leavesOf fs

end

/-- Whether a tree is a group once negations before it are taken away. -/
def isGroup : Filter → Bool
  | .leaf _ => false
  | .group _ _ => true
  | .not f => isGroup f

end Filter

/-! ### Members of a group -/

namespace Server

/-- Reads one member of a group. -/
def parseMember (part : List Char) : Except SyntaxFault Condition :=
  match groupStart? part with
  | some (j, n, rest) => parseGroup j n rest
  | none =>
    match Text.cut '.' part with
    | none => .error (.malformedElement (String.ofList part))
    | some (column, rest) => parseLeaf column rest true

theorem parseGroup_of_between? {j : Junction} {n : Bool} {body inner : List Char}
    (h : between? '(' ')' body = some inner) :
    parseGroup j n body =
      ((Text.Nested.split inner).mapM fun part => parseMember (Text.trim part)).map (.group j n) := by
  rw [parseGroup.eq_def]
  split
  · next hnone =>
    rw [h] at hnone
    cases hnone
  · next inner' hinner =>
    obtain rfl : inner = inner' := Option.some.inj (h.symm.trans hinner)
    rw [List.mapM_subtype (g := fun part => parseMember (Text.trim part)), List.unattach_attach]
    intro part hp
    unfold parseMember
    dsimp only
    split
    · next hg => rw [hg]
    · next hg => cases Text.cut '.' (Text.trim part) <;> simp only [hg]

theorem groupStart?_group (j : Junction) (n : Bool) (rest : List Char) :
    groupStart? ((Filter.notWord n).toList ++ (j.name.toList ++ '(' :: rest)) = some (j, n, '(' :: rest) := by
  cases j <;> cases n <;> rfl

end Server

namespace Filter

/-- The columns that a tree tests, in their order. -/
def columns (f : Filter) : List String := f.leaves.map Leaf.column

/-- A member of a group that the server reads as a condition on the tree's columns with its truth value. -/
def ReadsAs (f : Filter) (negated : Bool) (part : List Char) : Prop :=
  Text.Nested.IsPart part ∧ ∃ c, parseMember part = .ok c ∧ c.columns = f.columns ∧
    ∀ row, c.holds row = .ok (f.eval row != negated)

end Filter

/-- What is written of a leaf inside a group is read as that leaf. -/
def Leaf.ReadsBack (l : Leaf) : Prop :=
  ∀ negated part, Filter.renderGroupedAs negated (.leaf l) = .ok part →
    Filter.ReadsAs (.leaf l) negated part.toList

namespace Leaf
variable {l : Leaf}

theorem readsBack_of_isPart (hcolumn : isIdentifier l.column = true)
    (hconfig : ∀ config, l.operator.config? = some config → isIdentifier config = true)
    (hpart : ∀ t, l.token = .ok t → Text.Nested.IsPart t.groupedValue.toList)
    (hfree : ∀ items, l.operand = .list items → ∀ s ∈ items, s.HasNoBracket) : l.ReadsBack := by
  intro negated part h
  rw [Filter.renderGroupedAs] at h
  obtain ⟨t, ht, h⟩ := Chained.bind_eq_ok.mp h
  obtain rfl := Except.ok.inj h
  rw [toList_renderGrouped_leaf l.column negated ht]
  refine ⟨isPart_leafText hcolumn hconfig (hpart t ht), _, ?_, rfl, fun row => holds_leaf ht hfree negated row⟩
  unfold parseMember
  rw [groupStart?_leafText hcolumn, cut_leafText hcolumn]
  exact parseLeaf_leafText hconfig

theorem IsRegular.readsBack (hl : l.IsRegular) : l.ReadsBack :=
  readsBack_of_isPart hl.column hl.config (fun _ ht => Operator.isPart_groupedValue ht hl.operand)
    hl.operand.items

/-- A text is quoted for round brackets; only curly ones are left as they are. -/
theorem readsBack_of_scalar {s : Scalar} (hcolumn : isIdentifier l.column = true)
    (hconfig : ∀ config, l.operator.config? = some config → isIdentifier config = true)
    (hoperand : l.operand = .one s) (hs : s.ReservesBrackets groupReserved) : l.ReadsBack := by
  refine readsBack_of_isPart hcolumn hconfig (fun t ht => ?_) (fun items hitems => ?_)
  · rw [token, hoperand] at ht
    exact Operator.isPart_groupedValue_one ht hs
  · rw [hoperand] at hitems
    exact nomatch hitems

end Leaf

namespace Filter

/-- The conditions that the members are read as settle their group as the members do. -/
theorem settle_eq_evalMembers (row : Row) (j : Junction) {cs : List Condition} {fs : List Filter}
    (h : List.Forall₂ (fun c f => c.holds row = .ok (f.eval row)) cs fs) :
    Condition.settle j row cs = .ok (evalMembers row j fs) := by
  induction h with
  | nil => rfl
  | @cons c f cs fs hc _ ih =>
    rw [Condition.settle, hc]
    show (if f.eval row == (j == .any) then .ok (f.eval row) else Condition.settle j row cs) = _
    rw [ih]
    cases j <;> cases hf : f.eval row <;> simp [evalMembers, hf]

/-! ### Groups -/

/-- What the members between the parentheses of a group come to. -/
def bodyText (parts : List String) : List Char :=
  '(' :: (List.intercalate [','] (parts.map String.toList) ++ [')'])

theorem toList_renderBody {j : Junction} {fs : List Filter} {body : String}
    (h : renderBody j fs = .ok body) :
    ∃ parts, parts ≠ [] ∧ renderMembers fs = .ok parts ∧ body.toList = bodyText parts := by
  cases fs with
  | nil =>
    rw [renderBody] at h
    cases h
  | cons f fs =>
    rw [renderBody] at h
    obtain ⟨parts, hparts, h⟩ := Chained.bind_eq_ok.mp h
    obtain rfl := Except.ok.inj h
    refine ⟨parts, ?_, hparts, ?_⟩
    · rintro rfl
      rw [renderMembers] at hparts
      obtain ⟨_, -, hparts⟩ := Chained.bind_eq_ok.mp hparts
      obtain ⟨_, -, hparts⟩ := Chained.bind_eq_ok.mp hparts
      cases hparts
    · simp [bodyText, String.toList_intercalate]

theorem forall_isPart {fs : List Filter} {parts : List String}
    (h : List.Forall₂ (fun f part => ReadsAs f false part.toList) fs parts) :
    ∀ p ∈ parts.map String.toList, Text.Nested.IsPart p := by
  induction h with
  | nil => exact fun _ hp => nomatch hp
  | cons hpart _ ih => exact List.forall_mem_cons.mpr ⟨hpart.1, ih⟩

theorem mapM_parseMember {fs : List Filter} {parts : List String}
    (h : List.Forall₂ (fun f part => ReadsAs f false part.toList) fs parts) :
    ∃ cs, (parts.map String.toList).mapM (fun part => parseMember (Text.trim part)) = .ok cs ∧
      Condition.columnsOf cs = (leavesOf fs).map Leaf.column ∧
      ∀ row, List.Forall₂ (fun c f => c.holds row = .ok (f.eval row)) cs fs := by
  induction h with
  | nil => exact ⟨[], rfl, rfl, fun _ => .nil⟩
  | cons hpart _ ih =>
    obtain ⟨hpart, c, hc, hcolumns, hholds⟩ := hpart
    obtain ⟨cs, hcs, hothers, hrest⟩ := ih
    refine ⟨c :: cs, ?_, ?_, fun row => .cons (by simpa using hholds row) (hrest row)⟩
    · rw [List.map_cons, List.mapM_cons, hpart.trim_eq, hc, hcs]
      rfl
    · rw [Condition.columnsOf, hcolumns, hothers, leavesOf, List.map_append]
      rfl

/-- The members of a group are cut apart again, and the group holds where it should. -/
theorem parseGroup_bodyText {fs : List Filter} {parts : List String} (hne : parts ≠ [])
    (h : List.Forall₂ (fun f part => ReadsAs f false part.toList) fs parts) (j : Junction) (n : Bool) :
    ∃ c, parseGroup j n (bodyText parts) = .ok c ∧ c.columns = (leavesOf fs).map Leaf.column ∧
      ∀ row, c.holds row = .ok (evalMembers row j fs != n) := by
  obtain ⟨cs, hcs, hcolumns, hholds⟩ := mapM_parseMember h
  refine ⟨.group j n cs, ?_, hcolumns, fun row => ?_⟩
  · unfold bodyText
    rw [parseGroup_of_between? (between?_bracketed _ _ _),
      Text.Nested.split_intercalate (by simpa using hne) (forall_isPart h), hcs]
    rfl
  · rw [Condition.holds, settle_eq_evalMembers row j (hholds row)]
    rfl

theorem isPart_groupText {fs : List Filter} {parts : List String} (j : Junction) (n : Bool)
    (h : List.Forall₂ (fun f part => ReadsAs f false part.toList) fs parts) :
    Text.Nested.IsPart ((notWord n).toList ++ (j.name.toList ++ bodyText parts)) := by
  have hbody : Text.Nested.IsPart (bodyText parts) :=
    (Text.Nested.runsFrom_intercalate (forall_isPart h)).isPart_bracketed (by decide) (by decide)
  rw [← List.append_assoc]
  cases j <;> cases n <;>
    exact hbody.prefixed (by decide) (Text.Nested.runsFrom_of_all (by decide))

/-! ### Trees -/

-- A negation is handed down to the leaf or group below it, so a tree is read with the flag it is written
-- with; the members of a group start again without one.
mutual

theorem readsAs_of_renderGroupedAs (f : Filter) (negated : Bool) (part : String)
    (h : renderGroupedAs negated f = .ok part) (hleaves : ∀ l ∈ f.leaves, l.ReadsBack) :
    ReadsAs f negated part.toList := by
  cases f with
  | leaf l => exact hleaves l List.mem_cons_self negated part h
  | group j members =>
    rw [renderGroupedAs] at h
    obtain ⟨body, hbody, h⟩ := Chained.bind_eq_ok.mp h
    obtain rfl := Except.ok.inj h
    obtain ⟨parts, hne, hparts, htext⟩ := toList_renderBody hbody
    have hall := forall_readsAs_of_renderMembers members parts hparts hleaves
    obtain ⟨c, hc, hcolumns, hholds⟩ := parseGroup_bodyText hne hall j negated
    rw [String.toList_append, String.toList_append, htext, List.append_assoc]
    refine ⟨isPart_groupText j negated hall, c, ?_, hcolumns, hholds⟩
    unfold parseMember bodyText
    rw [groupStart?_group]
    exact hc
  | not f =>
    rw [renderGroupedAs] at h
    obtain ⟨hpart, c, hc, hcolumns, hholds⟩ := readsAs_of_renderGroupedAs f (!negated) part h hleaves
    refine ⟨hpart, c, hc, hcolumns, fun row => ?_⟩
    rw [hholds row, eval]
    cases f.eval row <;> cases negated <;> rfl
termination_by structural f

theorem forall_readsAs_of_renderMembers (fs : List Filter) (parts : List String)
    (h : renderMembers fs = .ok parts) (hleaves : ∀ l ∈ leavesOf fs, l.ReadsBack) :
    List.Forall₂ (fun f part => ReadsAs f false part.toList) fs parts := by
  cases fs with
  | nil =>
    rw [renderMembers] at h
    obtain rfl := Except.ok.inj h
    exact .nil
  | cons f fs =>
    rw [renderMembers] at h
    obtain ⟨part, hpart, h⟩ := Chained.bind_eq_ok.mp h
    obtain ⟨rest, hrest, h⟩ := Chained.bind_eq_ok.mp h
    obtain rfl := Except.ok.inj h
    rw [leavesOf] at hleaves
    obtain ⟨hf, hfs⟩ := List.forall_mem_append.mp hleaves
    exact .cons (readsAs_of_renderGroupedAs f false part hpart hf)
      (forall_readsAs_of_renderMembers fs rest hrest hfs)
termination_by structural fs

end

/-- The parameter of a tree with a group at its root is read as a condition on the tree's columns with its
truth value. -/
theorem parseGroup_paramAs (f : Filter) (path : String) (negated : Bool) {name value : String}
    (hroot : f.isGroup = true) (hleaves : ∀ l ∈ f.leaves, l.ReadsBack)
    (h : paramAs path negated f = .ok (name, value)) :
    ∃ j n c, name = path ++ notWord n ++ j.name ∧ parseGroup j n value.toList = .ok c ∧
      c.columns = f.columns ∧ ∀ row, c.holds row = .ok (f.eval row != negated) := by
  cases f with
  | leaf l => exact nomatch hroot
  | group j members =>
    rw [paramAs] at h
    obtain ⟨body, hbody, h⟩ := Chained.bind_eq_ok.mp h
    obtain ⟨rfl, rfl⟩ := Prod.mk.inj (Except.ok.inj h)
    obtain ⟨parts, hne, hparts, htext⟩ := toList_renderBody hbody
    have hall := forall_readsAs_of_renderMembers members parts hparts hleaves
    obtain ⟨c, hc, hcolumns, hholds⟩ := parseGroup_bodyText hne hall j negated
    exact ⟨j, negated, c, rfl, htext ▸ hc, hcolumns, hholds⟩
  | not f =>
    rw [paramAs] at h
    obtain ⟨j, n, c, hname, hc, hcolumns, hholds⟩ := parseGroup_paramAs f path (!negated) hroot hleaves h
    refine ⟨j, n, c, hname, hc, hcolumns, fun row => ?_⟩
    rw [hholds row, eval]
    cases f.eval row <;> cases negated <;> rfl
termination_by structural f

theorem holds_paramAs (f : Filter) (path : String) (negated : Bool) {name value : String}
    (hroot : f.isGroup = true) (hleaves : ∀ l ∈ f.leaves, l.IsRegular)
    (h : paramAs path negated f = .ok (name, value)) :
    ∃ j n c, name = path ++ notWord n ++ j.name ∧ parseGroup j n value.toList = .ok c ∧
      ∀ row, c.holds row = .ok (f.eval row != negated) := by
  obtain ⟨j, n, c, hname, hc, -, hholds⟩ :=
    parseGroup_paramAs f path negated hroot (fun l hl => (hleaves l hl).readsBack) h
  exact ⟨j, n, c, hname, hc, hholds⟩

/-- **The filter meaning theorem.** The parameter of a tree with a group at its root is named for a
junction and a negation of it, the server's reading of its value as that group succeeds, and the condition
that is read holds of a row where the tree does. -/
theorem holds_param {f : Filter} {path name value : String} (hroot : f.isGroup = true)
    (hleaves : ∀ l ∈ f.leaves, l.IsRegular) (h : f.param path = .ok (name, value)) :
    ∃ j n c, name = path ++ notWord n ++ j.name ∧ parseGroup j n value.toList = .ok c ∧
      ∀ row, c.holds row = .ok (f.eval row) := by
  obtain ⟨j, n, c, hname, hc, hholds⟩ := holds_paramAs f path false hroot hleaves h
  exact ⟨j, n, c, hname, hc, fun row => by simpa using hholds row⟩

/-- A tree with the punctuation of groups in its operands. -/
def punctuated : Filter :=
  .not (.group .any [
    test "title" .eq (.one (.text "a,\"b\\.c ")),
    .not (.group .all [
      test "tag" .isIn (.list [.text "", .text "x, y", .null]),
      .not (test "body" (.search .websearch (some "simple")) (.one (.text "not.or")))])])

theorem isRegular_punctuated : ∀ l ∈ punctuated.leaves, l.IsRegular := by
  intro l hl
  obtain rfl | rfl | rfl : l = ⟨"title", .eq, .one (.text "a,\"b\\.c ")⟩ ∨
      l = ⟨"tag", .isIn, .list [.text "", .text "x, y", .null]⟩ ∨
      l = ⟨"body", .search .websearch (some "simple"), .one (.text "not.or")⟩ := by
    simpa [punctuated, test, leaves, leavesOf] using hl
  · refine ⟨by decide, (fun _ h => nomatch h), ?_⟩
    simp [Operand.HasNoBracket, Scalar.HasNoBracket, Scalar.isText, Scalar.render]
  · refine ⟨by decide, (fun _ h => nomatch h), ?_⟩
    simp [Operand.HasNoBracket, Scalar.HasNoBracket, Scalar.isText, Scalar.render]
  · refine ⟨by decide, ?_, ?_⟩
    · rintro _ ⟨⟩
      decide
    · simp [Operand.HasNoBracket, Scalar.HasNoBracket, Scalar.isText, Scalar.render]

theorem param_punctuated : punctuated.param "" = .ok ("not.or",
    "(title.eq.\"a,\\\"b\\\\.c \",not.and(tag.in.(\"\",\"x, y\",null),body.not.wfts(simple).not.or))") := by
  simp only [punctuated, test, param, paramAs, renderBody, renderMembers, renderGroupedAs]
  rfl

theorem holds_punctuated :
    ∃ j n c, "not.or" = "" ++ notWord n ++ j.name ∧
      parseGroup j n
        "(title.eq.\"a,\\\"b\\\\.c \",not.and(tag.in.(\"\",\"x, y\",null),body.not.wfts(simple).not.or))".toList
          = .ok c ∧
      ∀ row, c.holds row = .ok (punctuated.eval row) :=
  holds_param rfl isRegular_punctuated param_punctuated

end Filter

/-! ### Requests -/

namespace Server.Params

theorem splitKey_group (j : Junction) (n : Bool) :
    splitKey (Filter.notWord n ++ j.name).toList = ([], (Filter.notWord n ++ j.name).toList) := by
  cases j <;> cases n <;> decide

/-- A parameter named for a group of the root adds a condition to what is asked of the root. -/
theorem put_group (p : Params) (j : Junction) (n : Bool) (value : String) :
    p.put (Filter.notWord n ++ j.name) value = (do
      let c ← orSyntax (parseGroup j n value.toList)
      .ok (p.modify "" fun s => { s with conditions := s.conditions ++ [c] })) := by
  have hput : p.put (Filter.notWord n ++ j.name) value =
      p.putScoped "" (Filter.notWord n ++ j.name) value := by
    have hname : Filter.notWord n ++ j.name ∉ ["select", "on_conflict", "columns"] := by
      cases j <;> cases n <;> decide
    simp only [List.mem_cons, List.not_mem_nil, or_false, not_or] at hname
    obtain ⟨hselect, hconflict, hcolumns⟩ := hname
    unfold put
    split
    · next heq => exact absurd heq hselect
    · next heq => exact absurd heq hconflict
    · next heq => exact absurd heq hcolumns
    · rw [splitKey_group]
      dsimp only
      rw [String.ofList_toList]
  rw [hput]
  cases j <;> cases n <;> rfl

end Server.Params

/-- The parameter of a tree asks for the rows of the root where the tree holds, by a condition on its columns. -/
theorem Filter.put_param_of_readsBack {f : Filter} {name value : String} (hroot : f.isGroup = true)
    (hleaves : ∀ l ∈ f.leaves, l.ReadsBack) (h : f.param "" = .ok (name, value)) :
    ∃ c : Condition, c.columns = f.columns ∧ (∀ row, c.holds row = .ok (f.eval row)) ∧
      ∀ p : Params, p.put name value =
        .ok (p.modify "" fun s => { s with conditions := s.conditions ++ [c] }) := by
  obtain ⟨j, n, c, rfl, hc, hcolumns, hholds⟩ := parseGroup_paramAs f "" false hroot hleaves h
  refine ⟨c, hcolumns, fun row => by simpa using hholds row, fun p => ?_⟩
  rw [String.empty_append, Params.put_group, hc]
  rfl

theorem Filter.put_param {f : Filter} {name value : String} (hroot : f.isGroup = true)
    (hleaves : ∀ l ∈ f.leaves, l.IsRegular) (h : f.param "" = .ok (name, value)) :
    ∃ c : Condition, (∀ row, c.holds row = .ok (f.eval row)) ∧
      ∀ p : Params, p.put name value =
        .ok (p.modify "" fun s => { s with conditions := s.conditions ++ [c] }) := by
  obtain ⟨c, -, hholds, hput⟩ := put_param_of_readsBack hroot (fun l hl => (hleaves l hl).readsBack) h
  exact ⟨c, hholds, hput⟩

end TableQuery
