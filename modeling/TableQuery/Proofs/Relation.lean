import TableQuery.Proofs.Identifier
import TableQuery.Proofs.Text.Cut
import TableQuery.Relation

/-! Forests of relations.

What is embedded is all the relations of a forest (`embeddingsOf`), and each has its place there, the keys
that lead to it (`sitesOf`). A relation whose name, alias and hint are identifiers has a head that holds
none of the marks of a selection but its own (`IsNamed.mem_head`). -/
namespace TableQuery

/-- A name, an alias and a hint that are identifiers, where they are given. -/
structure Embedding.IsNamed (e : Embedding) : Prop where
  name : isIdentifier e.name = true
  alias? : ∀ a, e.alias? = some a → isIdentifier a = true
  hint? : ∀ h, e.hint? = some h → isIdentifier h = true

instance (e : Embedding) : Decidable e.IsNamed :=
  decidable_of_iff (isIdentifier e.name = true ∧ (∀ a, e.alias? = some a → isIdentifier a = true) ∧
      ∀ h, e.hint? = some h → isIdentifier h = true)
    ⟨fun ⟨hname, halias, hhint⟩ => ⟨hname, halias, hhint⟩, fun h => ⟨h.name, h.alias?, h.hint?⟩⟩

namespace Relation

mutual

/-- A relation and those below it, depth first. -/
def embeddings : Relation → List Embedding
  | .node e cs => e :: embeddingsOf cs

def embeddingsOf : List Relation → List Embedding
  | [] => []
  | r :: rs => embeddings r ++ embeddingsOf rs

end

theorem embedding_mem_embeddingsOf {rs : List Relation} {r : Relation} (h : r ∈ rs) :
    r.embedding ∈ embeddingsOf rs := by
  induction h with
  | head rs =>
    cases r with
    | node e cs => exact List.mem_append_left _ List.mem_cons_self
  | tail s _ ih => exact List.mem_append_right (embeddings s) ih

mutual

/-- The relations of a forest, each with the keys that lead to it from a path. -/
def sites (path : List String) : Relation → List (List String × Embedding)
  | .node e cs => (path ++ [e.key], e) :: sitesOf (path ++ [e.key]) cs

def sitesOf (path : List String) : List Relation → List (List String × Embedding)
  | [] => []
  | r :: rs => sites path r ++ sitesOf path rs

end

theorem mem_sitesOf {path : List String} {rs : List Relation} {site : List String × Embedding} :
    site ∈ sitesOf path rs ↔ ∃ r ∈ rs, site ∈ sites path r := by
  induction rs with
  | nil => simp [sitesOf]
  | cons r rs ih => simp [sitesOf, ih]

mutual

theorem prefix_of_mem_sites {path : List String} (r : Relation) {site : List String × Embedding}
    (h : site ∈ sites path r) : path ++ [r.key] <+: site.1 := by
  cases r with
  | node e cs =>
    rw [sites] at h
    rcases List.mem_cons.mp h with rfl | h
    · exact List.prefix_rfl
    · obtain ⟨k, hk⟩ := prefix_of_mem_sitesOf cs h
      exact (List.prefix_append _ _).trans hk
termination_by structural r

/-- A relation of a forest lies below one of its keys. -/
theorem prefix_of_mem_sitesOf {path : List String} (rs : List Relation) {site : List String × Embedding}
    (h : site ∈ sitesOf path rs) : ∃ k, path ++ [k] <+: site.1 := by
  cases rs with
  | nil => exact nomatch h
  | cons r rs =>
    rcases List.mem_append.mp h with h | h
    · exact ⟨r.key, prefix_of_mem_sites r h⟩
    · exact prefix_of_mem_sitesOf rs h
termination_by structural rs

end

mutual

theorem embedding_of_mem_sites {path : List String} (r : Relation) {site : List String × Embedding}
    (h : site ∈ sites path r) : site.2 ∈ embeddings r := by
  cases r with
  | node e cs =>
    rw [sites] at h
    rw [embeddings]
    rcases List.mem_cons.mp h with rfl | h
    · exact List.mem_cons_self
    · exact List.mem_cons_of_mem _ (embedding_of_mem_sitesOf cs h)
termination_by structural r

theorem embedding_of_mem_sitesOf {path : List String} (rs : List Relation) {site : List String × Embedding}
    (h : site ∈ sitesOf path rs) : site.2 ∈ embeddingsOf rs := by
  cases rs with
  | nil => exact nomatch h
  | cons r rs =>
    rw [embeddingsOf]
    rcases List.mem_append.mp h with h | h
    · exact List.mem_append_left _ (embedding_of_mem_sites r h)
    · exact List.mem_append_right _ (embedding_of_mem_sitesOf rs h)
termination_by structural rs

end

/-! ### Resources -/

theorem mem_insertNew {name n : String} {names : List String} :
    n ∈ insertNew name names ↔ n ∈ names ∨ n = name := by
  unfold insertNew
  split
  · next h =>
    have hmem : name ∈ names := by simpa using h
    exact ⟨.inl, fun hn => hn.elim id fun heq => heq ▸ hmem⟩
  · rw [List.mem_append, List.mem_singleton]

mutual

theorem mem_resourcesOne {n : String} (known : List String) (r : Relation) :
    n ∈ resourcesOne known r ↔ n ∈ known ∨ ∃ e ∈ embeddings r, e.name = n := by
  cases r with
  | node e cs =>
    rw [resourcesOne, mem_resourcesFrom, mem_insertNew, embeddings, or_assoc, eq_comm (a := n)]
    simp only [List.mem_cons, or_and_right, exists_or, exists_eq_left]
termination_by structural r

/-- The resources of a forest are the names of its relations, beside those known before. -/
theorem mem_resourcesFrom {n : String} (known : List String) (rs : List Relation) :
    n ∈ resourcesFrom known rs ↔ n ∈ known ∨ ∃ e ∈ embeddingsOf rs, e.name = n := by
  cases rs with
  | nil => simp [resourcesFrom, embeddingsOf]
  | cons r rs =>
    rw [resourcesFrom, mem_resourcesFrom, mem_resourcesOne, embeddingsOf, or_assoc]
    simp only [List.mem_append, or_and_right, exists_or]
termination_by structural rs

end

end Relation

/-! ### Heads -/

namespace Embedding
variable {e : Embedding}

theorem IsNamed.key (h : e.IsNamed) : isIdentifier e.key = true := by
  unfold Embedding.key
  cases ha : e.alias? with
  | none => exact h.name
  | some a => exact h.alias? a ha

/-- The hints that stand behind the name. -/
def hints (e : Embedding) : List String :=
  e.hint?.toList ++ if e.join = .inner then ["inner"] else []

theorem IsNamed.hints (h : e.IsNamed) : ∀ w ∈ e.hints, isIdentifier w = true := by
  intro w hw
  unfold Embedding.hints at hw
  rcases List.mem_append.mp hw with hw | hw
  · exact h.hint? w (Option.mem_toList.mp hw)
  · split at hw
    · rw [List.mem_singleton.mp hw]
      decide
    · exact nomatch hw

/-- The name and the hints with their marks between them. -/
def nameText (e : Embedding) : List Char :=
  List.intercalate ['!'] (e.name.toList :: e.hints.map String.toList)

/-- The alias and its mark. -/
def aliasText (e : Embedding) : List Char :=
  match e.alias? with
  | some a => a.toList ++ [':']
  | none => []

theorem toList_head (e : Embedding) : e.head.toList = e.aliasText ++ e.nameText := by
  unfold head aliasText nameText hints
  cases e.alias? <;> cases e.hint? <;> cases e.join <;> simp

theorem IsNamed.mem_nameText (h : e.IsNamed) : ∀ c ∈ e.nameText, isIdentifierPart c = true ∨ c = '!' := by
  intro c hc
  rcases Text.mem_intercalate hc with hmark | ⟨t, ht, hct⟩
  · exact .inr hmark
  · have hid : isIdentifierText t = true := by
      rcases List.mem_cons.mp ht with rfl | ht
      · exact h.name
      · obtain ⟨w, hw, rfl⟩ := List.mem_map.mp ht
        exact h.hints w hw
    exact .inl (all_isIdentifierPart hid c hct)

theorem IsNamed.mem_aliasText (h : e.IsNamed) : ∀ c ∈ e.aliasText, isIdentifierPart c = true ∨ c = ':' := by
  intro c hc
  unfold aliasText at hc
  split at hc
  · next a ha =>
    rcases List.mem_append.mp hc with hc | hc
    · exact .inl (all_isIdentifierPart (h.alias? a ha) c hc)
    · exact .inr (List.mem_singleton.mp hc)
  · exact nomatch hc

/-- The characters of a head are those of identifiers and its own marks. -/
theorem IsNamed.mem_head (h : e.IsNamed) : ∀ c ∈ e.head.toList, isIdentifierPart c = true ∨ c ∈ [':', '!'] := by
  intro c hc
  rw [toList_head] at hc
  rcases List.mem_append.mp hc with hc | hc
  · exact (h.mem_aliasText c hc).imp_right fun heq => by simp [heq]
  · exact (h.mem_nameText c hc).imp_right fun heq => by simp [heq]

theorem IsNamed.head_ne_nil (h : e.IsNamed) : e.head.toList ≠ [] := by
  rw [toList_head]
  refine List.append_ne_nil_of_right_ne_nil _ ?_
  have hname : e.name.toList ≠ [] := ne_nil_of_isIdentifierText h.name
  unfold nameText
  cases e.hints.map String.toList with
  | nil => rwa [List.intercalate_singleton]
  | cons w ws =>
    rw [List.intercalate_cons_cons, List.append_assoc]
    exact List.append_ne_nil_of_left_ne_nil hname _

end Embedding
end TableQuery
