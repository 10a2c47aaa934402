import TableQuery.Json.Reader
import TableQuery.Proofs.Chained

/-! The members of an object in their order.

Every object that was read has its members in the order of their names, one for each name
(`Json.isOrdered_of_ofBytes?`), and it stays so when a member is put in (`Fields.isOrdered_insert`). In members in
order a name is looked up as it was put in: where others are put over them, the later one is found
(`Fields.get?_extend`). -/
namespace TableQuery

namespace Fields

/-- The names of the members ascend, as they do in every object that was read. -/
def IsOrdered (fs : Fields) : Prop := fs.names.Pairwise (· < ·)

instance (fs : Fields) : Decidable fs.IsOrdered := inferInstanceAs (Decidable (List.Pairwise _ _))

theorem isOrdered_nil : IsOrdered [] := List.Pairwise.nil

theorem insert_of_forall_lt {name : String} {fs : Fields} (h : ∀ k ∈ fs.names, k < name) (value : Json) :
    insert name value fs = fs ++ [(name, value)] := by
  induction fs with
  | nil => rfl
  | cons f fs ih =>
    obtain ⟨k, v⟩ := f
    obtain ⟨hk, hfs⟩ := List.forall_mem_cons.mp h
    have hne : k ≠ name := fun heq => String.lt_irrefl name (heq ▸ hk)
    rw [insert, if_neg hne, if_neg (String.lt_asymm hk), ih hfs]
    rfl

theorem extend_of_isOrdered {fs more : Fields} (h : IsOrdered (fs ++ more)) : fs.extend more = fs ++ more := by
  induction more generalizing fs with
  | nil => exact (List.append_nil fs).symm
  | cons m more ih =>
    obtain ⟨name, value⟩ := m
    have hlt : ∀ k ∈ fs.names, k < name := by
      intro k hk
      rw [IsOrdered, names, List.map_append] at h
      exact (List.pairwise_append.mp h).2.2 k hk name List.mem_cons_self
    have happend : fs ++ (name, value) :: more = (fs ++ [(name, value)]) ++ more := by simp
    show (insert name value fs).extend more = _
    rw [insert_of_forall_lt hlt, happend]
    exact ih (happend ▸ h)

theorem ofList_of_isOrdered {fs : Fields} (h : fs.IsOrdered) : ofList fs = fs := extend_of_isOrdered h

section Insert
variable {fs : Fields} {name : String}

theorem mem_names_insert {value : Json} {n : String} : n ∈ (insert name value fs).names ↔ n = name ∨ n ∈ fs.names := by
  induction fs with
  | nil => simp [insert, names]
  | cons f fs ih =>
    obtain ⟨k, v⟩ := f
    unfold names at ih
    rw [insert]
    split
    · next hk => simp [names, hk]
    split
    · simp [names]
    · simp only [names, List.map_cons, List.mem_cons, ih]
      exact or_left_comm

theorem mem_names_extend {more : Fields} {n : String} :
    n ∈ (fs.extend more).names ↔ n ∈ fs.names ∨ n ∈ more.names := by
  induction more generalizing fs with
  | nil => exact (or_iff_left List.not_mem_nil).symm
  | cons m more ih =>
    show n ∈ (extend (insert m.1 m.2 fs) more).names ↔ n ∈ fs.names ∨ n ∈ m.1 :: names more
    rw [ih, mem_names_insert, List.mem_cons, or_comm (a := n = m.1), or_assoc]

theorem isOrdered_insert (h : fs.IsOrdered) (value : Json) : (insert name value fs).IsOrdered := by
  induction fs with
  | nil => exact List.pairwise_singleton _ _
  | cons f fs ih =>
    obtain ⟨k, v⟩ := f
    obtain ⟨hk, hfs⟩ := List.pairwise_cons.mp h
    rw [insert]
    split
    · next heq =>
      subst heq
      exact List.pairwise_cons.mpr ⟨hk, hfs⟩
    split
    · next hlt =>
      exact List.pairwise_cons.mpr ⟨List.forall_mem_cons.mpr ⟨hlt, fun n hn => String.lt_trans hlt (hk n hn)⟩, h⟩
    · next hne hnot =>
      refine List.pairwise_cons.mpr ⟨fun n hn => ?_, ih hfs⟩
      rcases mem_names_insert.mp hn with rfl | hn
      · exact Std.lt_of_le_of_ne (String.not_lt.mp hnot) hne
      · exact hk n hn

theorem isOrdered_extend (h : fs.IsOrdered) (more : Fields) : (fs.extend more).IsOrdered := by
  induction more generalizing fs with
  | nil => exact h
  | cons m more ih => exact ih (isOrdered_insert h m.2)

end Insert

theorem get?_eq_none {fs : Fields} {name : String} (h : name ∉ fs.names) : get? name fs = none := by
  induction fs with
  | nil => rfl
  | cons f fs ih =>
    obtain ⟨hne, hfs⟩ := not_or.mp (mt List.mem_cons.mpr h)
    rw [get?, if_neg (Ne.symm hne), ih hfs]

/-- A member that is put in later is the one that is found. -/
theorem get?_extend {more : Fields} (h : more.IsOrdered) (fs : Fields) (name : String) :
    get? name (fs.extend more) = (get? name more).or (get? name fs) := by
  induction more generalizing fs with
  | nil => rfl
  | cons m more ih =>
    obtain ⟨k, v⟩ := m
    obtain ⟨hk, hmore⟩ := List.pairwise_cons.mp h
    show get? name ((insert k v fs).extend more) = _
    rw [ih hmore, get?]
    split
    · next heq =>
      subst heq
      rw [get?_eq_none fun hmem => String.lt_irrefl k (hk k hmem), get?_insert_self]
      rfl
    · next hne => rw [get?_insert_of_ne v fs (Ne.symm hne)]

end Fields

/-! ### Objects that were read -/

namespace Json

theorem isOrdered_of_settle {v : Json} {members : Fields} (h : settle v = some (.obj members)) :
    members.IsOrdered := by
  unfold settle at h
  split at h
  · split at h <;> exact nomatch h
  · obtain ⟨_, -, heq⟩ := Option.map_eq_some_iff.mp h
    exact nomatch heq
  · obtain ⟨ms, -, heq⟩ := Option.map_eq_some_iff.mp h
    obtain rfl := Json.obj.inj heq
    exact Fields.isOrdered_extend Fields.isOrdered_nil ms
  · next hobj => exact absurd (Option.some.inj h) (hobj members)

theorem exists_settle_of_mem {vs items : List Json} (h : settleItems vs = some items) {item : Json}
    (hitem : item ∈ items) : ∃ v, settle v = some item := by
  induction vs generalizing items with
  | nil =>
    obtain rfl := Option.some.inj h
    exact nomatch hitem
  | cons v vs ih =>
    obtain ⟨w, hw, h⟩ := Option.bind_eq_some_iff.mp h
    obtain ⟨ws, hws, h⟩ := Option.bind_eq_some_iff.mp h
    obtain rfl := Option.some.inj h
    rcases List.mem_cons.mp hitem with rfl | hitem
    · exact ⟨v, hw⟩
    · exact ih hws hitem

theorem exists_settleItems_of_settle {v : Json} {items : List Json} (h : settle v = some (.arr items)) :
    ∃ vs, settleItems vs = some items := by
  unfold settle at h
  split at h
  · split at h <;> exact nomatch h
  · next vs =>
    obtain ⟨items', hitems, heq⟩ := Option.map_eq_some_iff.mp h
    exact ⟨vs, Json.arr.inj heq ▸ hitems⟩
  · obtain ⟨_, -, heq⟩ := Option.map_eq_some_iff.mp h
    exact nomatch heq
  · next harr _ => exact absurd (Option.some.inj h) (harr items)

theorem exists_settle_of_ofBytes? {body : List UInt8} {v : Json} (h : ofBytes? body = some v) :
    ∃ w, settle w = some v := by
  obtain ⟨s, -, h⟩ := Option.bind_eq_some_iff.mp h
  obtain ⟨w, -, h⟩ := Option.bind_eq_some_iff.mp h
  exact ⟨w, h⟩

theorem isOrdered_of_ofBytes? {body : List UInt8} {members : Fields} (h : ofBytes? body = some (.obj members)) :
    members.IsOrdered := by
  obtain ⟨w, hw⟩ := exists_settle_of_ofBytes? h
  exact isOrdered_of_settle hw

theorem isOrdered_of_mem_items {body : List UInt8} {items : List Json} {members : Fields}
    (h : ofBytes? body = some (.arr items)) (hmem : .obj members ∈ items) : members.IsOrdered := by
  obtain ⟨w, hw⟩ := exists_settle_of_ofBytes? h
  obtain ⟨vs, hvs⟩ := exists_settleItems_of_settle hw
  obtain ⟨v, hv⟩ := exists_settle_of_mem hvs hmem
  exact isOrdered_of_settle hv

end Json

end TableQuery
