import TableQuery.Cache.Basic

/-! What a cache holds, and what its operations make of it.

Looking an entry up moves it to the front of the use order and changes nothing else about it, so what a
cache holds is said of its `contents`: the entries with their keys, leaving aside when each was last
used. Every operation keeps some of the contents; only `store` adds to them, and it adds one entry
(`mem_contents_store`). Epochs are raised by invalidations alone. -/
namespace TableQuery.Cache

/-- An entry as it was before any use of it was counted. -/
def Entry.unused (e : Entry) : Entry := { e with lastUse := 0 }

@[simp] theorem Entry.unused_value (e : Entry) : e.unused.value = e.value := rfl

@[simp] theorem Entry.unused_tables (e : Entry) : e.unused.tables = e.tables := rfl

@[simp] theorem Entry.isExpired_unused (e : Entry) (now : Nat) :
    e.unused.isExpired now = e.isExpired now := rfl

@[simp] theorem Pattern.matches_unused (p : Pattern) (e : Entry) : p.matches e.unused = p.matches e := by
  cases p <;> rfl

/-- The entries with their keys, leaving aside when each was last used. -/
def contents (c : Cache) : List (String × Entry) := c.entries.map fun x => (x.1, x.2.unused)

theorem mem_contents {c : Cache} {x : String × Entry} :
    x ∈ c.contents ↔ ∃ e, (x.1, e) ∈ c.entries ∧ e.unused = x.2 := by
  constructor
  · intro h
    obtain ⟨y, hy, rfl⟩ := List.mem_map.mp h
    exact ⟨y.2, hy, rfl⟩
  · rintro ⟨e, he, hx⟩
    exact List.mem_map.mpr ⟨(x.1, e), he, by rw [hx]⟩

/-- What tickets are checked against: the epoch of the whole cache and those of the tables. -/
def epochs (c : Cache) : Nat × List (String × Nat) := (c.globalEpoch, c.tableEpochs)

theorem tableEpoch_congr {c d : Cache} (h : c.epochs = d.epochs) (table : String) :
    c.tableEpoch table = d.tableEpoch table := by
  simp only [epochs, Prod.mk.injEq] at h
  simp only [tableEpoch, h.2]

theorem Ticket.isStale_congr {c d : Cache} (h : c.epochs = d.epochs) (t : Ticket) :
    t.isStale c = t.isStale d := by
  have hg : c.globalEpoch = d.globalEpoch := congrArg Prod.fst h
  simp only [Ticket.isStale, hg, tableEpoch_congr h]

/-! ### Entries leave -/

theorem contents_dropWhere (c : Cache) (p : String → Entry → Bool)
    (hp : ∀ k e, p k e.unused = p k e) :
    (c.dropWhere p).contents = c.contents.filter fun x => !p x.1 x.2 := by
  simp only [contents, dropWhere, List.filter_map, Function.comp_def, hp]

theorem contents_erase (c : Cache) (key : String) :
    (c.erase key).contents = c.contents.filter fun x => !(x.1 == key) :=
  contents_dropWhere c _ fun _ _ => rfl

theorem contents_erase_subset (c : Cache) (key : String) : (c.erase key).contents ⊆ c.contents := by
  rw [contents_erase]
  exact List.filter_sublist.subset

@[simp] theorem epochs_erase (c : Cache) (key : String) : (c.erase key).epochs = c.epochs := rfl

@[simp] theorem config_erase (c : Cache) (key : String) : (c.erase key).config = c.config := rfl

theorem contents_evictExpired_subset (c : Cache) (now : Nat) :
    (c.evictExpired now).2.contents ⊆ c.contents := by
  show (c.dropWhere fun _ e => e.isExpired now).contents ⊆ c.contents
  rw [contents_dropWhere _ _ fun _ e => e.isExpired_unused now]
  exact List.filter_sublist.subset

theorem contents_touch (c : Cache) (key : String) : (c.touch key).contents = c.contents := by
  simp only [contents, touch, List.map_map]
  apply List.map_congr_left
  intro x _
  show (fun x : String × Entry => (x.1, x.2.unused)) (if x.1 = key then _ else x) = _
  split <;> rfl

theorem contents_getKey_subset (c : Cache) (now : Nat) (key : String) :
    (c.getKey now key).2.contents ⊆ c.contents := by
  unfold getKey
  split
  · exact fun _ h => h
  · split
    · exact contents_erase_subset c key
    · show (c.touch key).contents ⊆ c.contents
      rw [contents_touch]
      exact fun _ h => h

@[simp] theorem epochs_getKey (c : Cache) (now : Nat) (key : String) :
    (c.getKey now key).2.epochs = c.epochs := by
  unfold getKey
  split
  · rfl
  · split <;> rfl

@[simp] theorem config_getKey (c : Cache) (now : Nat) (key : String) :
    (c.getKey now key).2.config = c.config := by
  unfold getKey
  split
  · rfl
  · split <;> rfl

theorem mem_of_find? {c : Cache} {key : String} {e : Entry} (h : c.find? key = some e) :
    (key, e) ∈ c.entries := by
  obtain ⟨x, hx, rfl⟩ := Option.map_eq_some_iff.1 h
  have hk : x.1 = key := by simpa using List.find?_some hx
  rw [← hk]
  exact List.mem_of_find?_eq_some hx

/-- An answer from the cache is the value of the entry under the key, which is not expired. -/
theorem find?_of_getKey {c : Cache} {now : Nat} {key : String} {v : Envelope Json}
    (h : (c.getKey now key).1 = some v) :
    ∃ e, c.find? key = some e ∧ e.value = v ∧ e.isExpired now = false := by
  unfold getKey at h
  split at h
  · exact nomatch h
  · next e he =>
    split at h
    · exact nomatch h
    · next hx => exact ⟨e, he, by simpa using h, by simpa using hx⟩

/-! ### Making room -/

theorem contents_evictOldest_subset (c : Cache) : c.evictOldest.contents ⊆ c.contents := by
  unfold evictOldest
  split
  · exact fun _ h => h
  · exact contents_erase_subset c _

@[simp] theorem epochs_evictOldest (c : Cache) : c.evictOldest.epochs = c.epochs := by
  unfold evictOldest
  split <;> rfl

@[simp] theorem config_evictOldest (c : Cache) : c.evictOldest.config = c.config := by
  unfold evictOldest
  split <;> rfl

theorem contents_makeRoom_subset (n : Nat) (c : Cache) : (c.makeRoom n).contents ⊆ c.contents := by
  induction n generalizing c with
  | zero => exact fun _ h => h
  | succ n ih =>
    unfold makeRoom
    split
    · exact fun x h => contents_evictOldest_subset c (ih c.evictOldest h)
    · exact fun _ h => h

@[simp] theorem epochs_makeRoom (n : Nat) (c : Cache) : (c.makeRoom n).epochs = c.epochs := by
  induction n generalizing c with
  | zero => rfl
  | succ n ih =>
    unfold makeRoom
    split
    · rw [ih, epochs_evictOldest]
    · rfl

@[simp] theorem config_makeRoom (n : Nat) (c : Cache) : (c.makeRoom n).config = c.config := by
  induction n generalizing c with
  | zero => rfl
  | succ n ih =>
    unfold makeRoom
    split
    · rw [ih, config_evictOldest]
    · rfl

/-! ### Storing -/

/-- Whether nothing is stored: of a failure, where nothing is kept, or for no time at all. -/
def refuses (c : Cache) (value : Envelope Json) (lifetime : Option Duration) : Bool :=
  !value.isOk || c.config.capacity = 0 || (lifetime.getD c.config.lifetime).micros = 0

/-- The cache without a key's entry, and with room for one more. -/
def room (c : Cache) (key : String) : Cache := (c.erase key).makeRoom (c.erase key).size

theorem contents_room {c : Cache} {key : String} {x : String × Entry} (h : x ∈ (c.room key).contents) :
    x.1 ≠ key ∧ x ∈ c.contents := by
  have h := contents_makeRoom_subset _ _ h
  rw [contents_erase] at h
  obtain ⟨hm, hk⟩ := List.mem_filter.mp h
  exact ⟨by simpa using hk, hm⟩

section Store
variable (c : Cache) (now : Nat) (key : String) (value : Envelope Json) (lifetime : Option Duration)
  (tables : List String) (params : List Param)

theorem store_eq : c.store now key value lifetime tables params =
    if c.refuses value lifetime then (false, c)
    else (true, { c.room key with
      uses := (c.room key).uses + 1
      entries := (key, ⟨value, now, lifetime.getD c.config.lifetime, (c.room key).uses + 1, tables,
        params⟩) :: (c.room key).entries }) := rfl

theorem store_refused (h : (c.store now key value lifetime tables params).1 = false) :
    (c.store now key value lifetime tables params).2 = c := by
  rw [store_eq] at h ⊢
  split at h
  · next hr => rw [if_pos hr]
  · exact nomatch h

theorem not_refuses_of_store (h : (c.store now key value lifetime tables params).1 = true) :
    c.refuses value lifetime = false := by
  rw [store_eq] at h
  split at h
  · exact nomatch h
  · next hr => exact Bool.eq_false_iff.mpr hr

/-- After something is stored, the cache holds it beside what it held under other keys. -/
theorem eq_or_mem_of_store (h : (c.store now key value lifetime tables params).1 = true)
    {x : String × Entry} (hx : x ∈ (c.store now key value lifetime tables params).2.contents) :
    x = (key, ⟨value, now, lifetime.getD c.config.lifetime, 0, tables, params⟩) ∨
      (x.1 ≠ key ∧ x ∈ c.contents) := by
  have hr := not_refuses_of_store c now key value lifetime tables params h
  rw [store_eq, hr, if_neg Bool.false_ne_true] at hx
  exact (List.mem_cons.mp hx).imp id contents_room

theorem mem_contents_store (h : (c.store now key value lifetime tables params).1 = true)
    {x : String × Entry} (hx : x ∈ (c.store now key value lifetime tables params).2.contents) :
    (x.1 = key ∧ x.2.value = value ∧ x.2.tables = tables) ∨ (x.1 ≠ key ∧ x ∈ c.contents) := by
  refine (eq_or_mem_of_store c now key value lifetime tables params h hx).imp_left ?_
  rintro rfl
  exact ⟨rfl, rfl, rfl⟩

theorem find?_store (h : (c.store now key value lifetime tables params).1 = true) :
    ((c.store now key value lifetime tables params).2.find? key).isSome = true := by
  rw [store_eq, not_refuses_of_store c now key value lifetime tables params h]
  simp [find?]

@[simp] theorem epochs_store : (c.store now key value lifetime tables params).2.epochs = c.epochs := by
  rw [store_eq]
  split
  · rfl
  · exact (epochs_makeRoom _ _).trans (epochs_erase c key)

@[simp] theorem config_store : (c.store now key value lifetime tables params).2.config = c.config := by
  rw [store_eq]
  split
  · rfl
  · exact (config_makeRoom _ _).trans (config_erase c key)

end Store

theorem set_of_isWrite {r : Request} (h : r.isWrite = true) (c : Cache) (now : Nat) (value : Envelope Json)
    (lifetime : Option Duration) : c.set now r value lifetime = (false, c) := if_pos h

theorem set_of_not_isWrite {r : Request} (h : r.isWrite = false) (c : Cache) (now : Nat)
    (value : Envelope Json) (lifetime : Option Duration) :
    c.set now r value lifetime = c.store now (c.keyFor r) value lifetime r.tables r.params :=
  if_neg (Bool.eq_false_iff.mp h)

theorem not_isWrite_of_set {c : Cache} {now : Nat} {r : Request} {value : Envelope Json}
    {lifetime : Option Duration} (h : (c.set now r value lifetime).1 = true) : r.isWrite = false := by
  cases hw : r.isWrite
  · rfl
  · rw [set_of_isWrite hw] at h
    exact h.symm

theorem set_refused {c : Cache} {now : Nat} {r : Request} {value : Envelope Json}
    {lifetime : Option Duration} (h : (c.set now r value lifetime).1 = false) :
    (c.set now r value lifetime).2 = c := by
  unfold set at h ⊢
  split
  · rfl
  · next hread =>
    rw [if_neg hread] at h
    exact store_refused _ _ _ _ _ _ _ h

theorem commit_of_stale {c : Cache} {t : Ticket} (h : t.isStale c = true) (now : Nat)
    (value : Envelope Json) (lifetime : Option Duration) :
    c.commit now t value lifetime = (false, c) := by
  simp [commit, h]

theorem not_stale_of_commit {c : Cache} {now : Nat} {t : Ticket} {value : Envelope Json}
    {lifetime : Option Duration} (h : (c.commit now t value lifetime).1 = true) :
    t.isStale c = false := by
  cases hs : t.isStale c
  · rfl
  · rw [commit_of_stale hs] at h
    exact h.symm

theorem commit_refused {c : Cache} {now : Nat} {t : Ticket} {value : Envelope Json}
    {lifetime : Option Duration} (h : (c.commit now t value lifetime).1 = false) :
    (c.commit now t value lifetime).2 = c := by
  unfold commit at h ⊢
  split
  · rfl
  · next hs =>
    rw [if_neg hs] at h
    exact store_refused _ _ _ _ _ _ _ h

theorem mem_contents_commit {c : Cache} {now : Nat} {t : Ticket} {value : Envelope Json}
    {lifetime : Option Duration} (h : (c.commit now t value lifetime).1 = true)
    {x : String × Entry} (hx : x ∈ (c.commit now t value lifetime).2.contents) :
    (x.1 = t.key ∧ x.2.value = value ∧ x.2.tables = t.tableEpochs.map Prod.fst) ∨
      (x.1 ≠ t.key ∧ x ∈ c.contents) := by
  have hs := not_stale_of_commit h
  simp only [commit, hs, Bool.false_eq_true, if_false] at h hx
  exact mem_contents_store _ _ _ _ _ _ _ h hx

@[simp] theorem epochs_commit (c : Cache) (now : Nat) (t : Ticket) (value : Envelope Json)
    (lifetime : Option Duration) : (c.commit now t value lifetime).2.epochs = c.epochs := by
  unfold commit
  split
  · rfl
  · exact epochs_store _ _ _ _ _ _ _

@[simp] theorem config_commit (c : Cache) (now : Nat) (t : Ticket) (value : Envelope Json)
    (lifetime : Option Duration) : (c.commit now t value lifetime).2.config = c.config := by
  unfold commit
  split
  · rfl
  · exact config_store _ _ _ _ _ _ _

/-! ### Invalidating -/

theorem contents_invalidate (c : Cache) (p : Pattern) :
    (c.invalidate p).2.contents = c.contents.filter fun x => !p.matches x.2 := by
  have hraise : (c.raise p).contents = c.contents := by cases p <;> rfl
  show ((c.raise p).dropWhere _).contents = _
  rw [contents_dropWhere _ _ fun _ e => p.matches_unused e, hraise]

theorem contents_invalidate_subset (c : Cache) (p : Pattern) :
    (c.invalidate p).2.contents ⊆ c.contents := by
  rw [contents_invalidate]
  exact List.filter_sublist.subset

/-- Invalidating a table leaves no entry that was read from it. -/
theorem not_mem_tables_of_invalidate (c : Cache) (table : String) {x : String × Entry}
    (hx : x ∈ (c.invalidate (.table table)).2.contents) : table ∉ x.2.tables := by
  rw [contents_invalidate] at hx
  simpa [Pattern.matches] using (List.mem_filter.mp hx).2

@[simp] theorem config_invalidate (c : Cache) (p : Pattern) : (c.invalidate p).2.config = c.config := by
  cases p <;> rfl

theorem tableEpoch_raise_of_ne (c : Cache) {name table : String} (h : table ≠ name) :
    (c.raise (.table name)).tableEpoch table = c.tableEpoch table := by
  unfold tableEpoch raise
  simp only
  induction c.tableEpochs with
  | nil => simp [raiseIn, h.symm]
  | cons e rest ih =>
    obtain ⟨t, n⟩ := e
    unfold raiseIn
    by_cases ht : t = name
    · subst ht
      simp [h.symm]
    · rw [if_neg ht]
      by_cases hte : t = table
      · simp [hte]
      · simp [hte, ih]

theorem tableEpoch_le_raise (c : Cache) (p : Pattern) (table : String) :
    c.tableEpoch table ≤ (c.raise p).tableEpoch table := by
  have hname (name : String) : c.tableEpoch table ≤ (c.raise (.table name)).tableEpoch table := by
    by_cases h : table = name
    · subst h
      rw [tableEpoch_raise_self]
      exact Nat.le_succ _
    · exact Nat.le_of_eq (tableEpoch_raise_of_ne c h).symm
  cases p with
  | all => exact Nat.le_refl _
  | table name => exact hname name
  | filter name column token => exact hname name

end TableQuery.Cache
