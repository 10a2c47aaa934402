import TableQuery.Proofs.Cache.Runs

/-! Tickets are dropped exactly when they must be.

No epoch of a ticket is ahead of the cache's (`Ticket.Behind`), and epochs only grow. So an invalidation of
everything or of one of the ticket's tables makes an epoch differ for good, and nothing else touches one:
after any calls a ticket is stale exactly if such an invalidation is among them (`isStale_run`). With it,
what is handed in under a ticket is stored exactly if none of them is (`commit_stores_iff`). -/
namespace TableQuery.Cache

/-- Whether an invalidation names one of the tables, or everything. -/
def Pattern.concerns (tables : List String) : Pattern → Bool
  | .all => true
  | .table name => tables.contains name
  | .filter name _ _ => tables.contains name

/-- Whether a call is an invalidation that names one of the tables, or everything. -/
def Op.concerns (tables : List String) : Op → Bool
  | .invalidate p => p.concerns tables
  | _ => false

def Ticket.tables (t : Ticket) : List String := t.tableEpochs.map Prod.fst

@[simp] theorem tables_reserve (c : Cache) (r : Request) : (c.reserve r).tables = r.tables :=
  map_fst_tableEpochs_reserve c r

/-! ### Behind the cache -/

/-- No epoch of the ticket is ahead of the cache's. -/
structure Ticket.Behind (t : Ticket) (c : Cache) : Prop where
  globalEpoch : t.globalEpoch ≤ c.globalEpoch
  tableEpochs : ∀ e ∈ t.tableEpochs, e.2 ≤ c.tableEpoch e.1

theorem Ticket.Behind.of_follows {t : Ticket} {c d : Cache} (h : t.Behind c) (hd : c.Follows d) :
    t.Behind d :=
  ⟨Nat.le_trans h.globalEpoch hd.globalEpoch,
    fun e he => Nat.le_trans (h.tableEpochs e he) (hd.tableEpoch e.1)⟩

theorem behind_reserve (c : Cache) (r : Request) : (c.reserve r).Behind c where
  globalEpoch := Nat.le_refl _
  tableEpochs e he := by
    obtain ⟨table, -, rfl⟩ := List.mem_map.mp he
    exact Nat.le_refl _

theorem isStale_reserve (c : Cache) (r : Request) : (c.reserve r).isStale c = false := by
  simp [Ticket.isStale, reserve]

/-! ### One call -/

theorem epochs_apply {c : Cache} {op : Op} (h : ∀ p, op ≠ .invalidate p) :
    (c.apply op).epochs = c.epochs := by
  cases op with
  | set now r value lifetime =>
    show (c.set now r value lifetime).2.epochs = c.epochs
    unfold set
    split
    · rfl
    · exact epochs_store ..
  | getKey now key => exact epochs_getKey c now key
  | reserve r => rfl
  | commit now t value lifetime => exact epochs_commit c now t value lifetime
  | invalidate p => exact absurd rfl (h p)
  | remove key => rfl
  | evictExpired now => rfl

theorem Ticket.isStale_iff (t : Ticket) (c : Cache) : t.isStale c = true ↔
    c.globalEpoch ≠ t.globalEpoch ∨ ∃ e ∈ t.tableEpochs, c.tableEpoch e.1 ≠ e.2 := by
  simp [Ticket.isStale, Bool.or_eq_true, List.any_eq_true]

/-- Raising a table's epoch makes the tickets stale that carry the table, and no others. -/
theorem isStale_raise_table {t : Ticket} {c : Cache} (h : t.Behind c) (name : String) :
    t.isStale (c.raise (.table name)) = (t.isStale c || t.tables.contains name) := by
  have hraised (e : String × Nat) (he : e ∈ t.tableEpochs) :
      (c.raise (.table name)).tableEpoch e.1 ≠ e.2 ↔ c.tableEpoch e.1 ≠ e.2 ∨ e.1 = name := by
    by_cases hname : e.1 = name
    · have hle := h.tableEpochs e he
      rw [hname] at hle ⊢
      rw [tableEpoch_raise_self]
      exact ⟨fun _ => .inr rfl, fun _ => Nat.ne_of_gt (Nat.lt_succ_of_le hle)⟩
    · rw [tableEpoch_raise_of_ne c hname]
      simp [hname]
  have htables : t.tables.contains name = true ↔ ∃ e ∈ t.tableEpochs, e.1 = name := by
    simp [Ticket.tables]
  rw [Bool.eq_iff_iff, Bool.or_eq_true, Ticket.isStale_iff, Ticket.isStale_iff, htables, or_assoc]
  refine or_congr_right ?_
  rw [exists_congr fun e => and_congr_right (hraised e)]
  simp only [and_or_left, exists_or]

theorem isStale_invalidate {t : Ticket} {c : Cache} (h : t.Behind c) (p : Pattern) :
    t.isStale (c.invalidate p).2 = (t.isStale c || p.concerns t.tables) := by
  cases p with
  | all =>
    have hlt : c.globalEpoch + 1 ≠ t.globalEpoch := Nat.ne_of_gt (Nat.lt_succ_of_le h.globalEpoch)
    show ((c.globalEpoch + 1 != t.globalEpoch) || _) = (_ || true)
    simp [hlt]
  | table name => exact isStale_raise_table h name
  | filter name column token => exact isStale_raise_table h name

theorem isStale_apply {t : Ticket} {c : Cache} (h : t.Behind c) (op : Op) :
    t.isStale (c.apply op) = (t.isStale c || op.concerns t.tables) := by
  cases op with
  | invalidate p => exact isStale_invalidate h p
  | _ =>
    rw [Ticket.isStale_congr (epochs_apply (by simp)) t]
    exact (Bool.or_false _).symm

/-! ### Runs -/

theorem isStale_run {t : Ticket} {c : Cache} (h : t.Behind c) (ops : List Op) :
    t.isStale (c.run ops) = (t.isStale c || ops.any (Op.concerns t.tables)) := by
  induction ops generalizing c with
  | nil => exact (Bool.or_false _).symm
  | cons op ops ih =>
    show t.isStale ((c.apply op).run ops) = _
    rw [ih (h.of_follows (follows_apply c op)), isStale_apply h, List.any_cons, Bool.or_assoc]

theorem isStale_reserve_run (c : Cache) (r : Request) (ops : List Op) :
    (c.reserve r).isStale (c.run ops) = ops.any (Op.concerns r.tables) := by
  rw [isStale_run (behind_reserve c r), isStale_reserve, Bool.false_or, tables_reserve]

/-! ### Handing in -/

theorem commit_of_not_stale {c : Cache} {t : Ticket} (h : t.isStale c = false) (now : Nat)
    (value : Envelope Json) (lifetime : Option Duration) :
    c.commit now t value lifetime = c.store now t.key value lifetime t.tables t.params := by
  unfold commit
  rw [h]
  rfl

theorem store_of_not_refuses {c : Cache} {value : Envelope Json} {lifetime : Option Duration}
    (h : c.refuses value lifetime = false) (now : Nat) (key : String) (tables : List String)
    (params : List Param) : (c.store now key value lifetime tables params).1 = true := by
  rw [store_eq, h]
  rfl

/-- What was stored is found under its key until its lifetime is over. -/
theorem getKey_store {c : Cache} {value : Envelope Json} {lifetime : Option Duration}
    (h : c.refuses value lifetime = false) (now : Nat) (key : String) (tables : List String)
    (params : List Param) {later : Nat}
    (hlater : later - now < (lifetime.getD c.config.lifetime).micros) :
    ((c.store now key value lifetime tables params).2.getKey later key).1 = some value := by
  rw [store_eq, h]
  simp only [Bool.false_eq_true, if_false, getKey, find?, List.find?_cons, beq_self_eq_true,
    Option.map_some, Entry.isExpired, Nat.not_le.mpr hlater, decide_false]

/-- **Tickets are dropped exactly when they must be.** Of what may be stored at all, what is handed in
under a ticket is stored, and found until its lifetime is over, if no invalidation since the ticket was
handed out named one of its tables or everything; if one did, the cache stays as it is. -/
theorem commit_stores_iff (c : Cache) (r : Request) (ops : List Op) (now : Nat) (value : Envelope Json)
    (lifetime : Option Duration) (hvalue : value.isOk = true) (hcapacity : 0 < c.config.capacity)
    (hlifetime : 0 < (lifetime.getD c.config.lifetime).micros) :
    let d := c.run ops
    let handedIn := d.commit now (c.reserve r) value lifetime
    (handedIn.1 = true ↔ ∀ p, .invalidate p ∈ ops → p.concerns r.tables = false) ∧
      (handedIn.1 = true → ∀ later, later - now < (lifetime.getD c.config.lifetime).micros →
        (handedIn.2.getKey later (c.keyFor r)).1 = some value) ∧
      (handedIn.1 = false → handedIn.2 = d) := by
  intro d handedIn
  have hconfig : d.config = c.config := (follows_run c ops).config
  have hrefuses : d.refuses value lifetime = false := by
    simp [refuses, hvalue, hconfig, Nat.ne_of_gt hcapacity, Nat.ne_of_gt hlifetime]
  have hnone : (ops.any (Op.concerns r.tables)) = false ↔
      ∀ p, .invalidate p ∈ ops → p.concerns r.tables = false := by
    rw [List.any_eq_false]
    refine ⟨fun h p hp => by simpa [Op.concerns] using h _ hp, fun h op hop => ?_⟩
    cases op with
    | invalidate p => simpa [Op.concerns] using h p hop
    | _ => exact Bool.false_ne_true
  have hstale : (c.reserve r).isStale d = ops.any (Op.concerns r.tables) := isStale_reserve_run c r ops
  have hstored (hfresh : (c.reserve r).isStale d = false) :
      handedIn = d.store now (c.keyFor r) value lifetime (c.reserve r).tables r.params :=
    commit_of_not_stale hfresh now value lifetime
  refine ⟨?_, fun h later hlater => ?_, commit_refused⟩
  · rw [← hnone, ← hstale]
    refine ⟨not_stale_of_commit, fun hfresh => ?_⟩
    rw [hstored hfresh]
    exact store_of_not_refuses hrefuses ..
  · rw [hstored (not_stale_of_commit h)]
    exact getKey_store hrefuses _ _ _ _ (by rw [hconfig]; exact hlater)

/-- In a cache with room for one entry: a ticket outlives a commit of its own, the invalidation of a table
its read does not touch, an entry that drives its own out, a removal and a sweep. The invalidation of some
entries of its second table ends it. -/
theorem ticket_outlives_other_calls :
    let c := Cache.empty ⟨.ofSeconds 60, 1, none⟩
    let read (table : String) : Request :=
      ⟨table, none, .get, .many, [], [], none, [table, "posts"]⟩
    let value : Envelope Json := .success none none 200
    let calls : List Op := [.commit 1 (c.reserve (read "users")) value none, .invalidate (.table "tags"),
      .set 2 (read "tags") value none, .remove "tags", .evictExpired 90000000]
    (value.isOk = true ∧ 0 < c.config.capacity ∧ 0 < c.config.lifetime.micros) ∧
      ((c.run calls).commit 3 (c.reserve (read "users")) value none).1 = true ∧
      ((c.run (calls ++ [.invalidate (.filter "posts" "id" "eq.7")])).commit 3
        (c.reserve (read "users")) value none).1 = false := by
  intro c read value calls
  refine ⟨⟨rfl, by decide, by decide⟩, ?_, ?_⟩
  · refine (commit_stores_iff c (read "users") calls 3 value none rfl (by decide) (by decide)).1.mpr ?_
    intro p hp
    obtain rfl : p = .table "tags" := by simpa [calls] using hp
    decide
  · rw [Bool.eq_false_iff]
    intro hstored
    have hnone := (commit_stores_iff c (read "users") _ 3 value none rfl (by decide) (by decide)).1.mp hstored
    exact absurd (hnone (.filter "posts" "id" "eq.7") (by simp)) (by decide)

end TableQuery.Cache
