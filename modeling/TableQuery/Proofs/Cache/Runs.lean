import TableQuery.Proofs.Cache.Contents

/-! Caches in the course of their operations.

An `Op` is one call on a cache, and a run is a list of them, whoever makes them. Along a run epochs only
grow (`follows_run`), so a ticket that an invalidation of one of its tables has made stale stays stale:
whatever happens afterwards, nothing is stored under it (`commit_refused_of_raised`). -/
namespace TableQuery.Cache

/-- A call on a cache. Looking a request up is looking up its key. -/
inductive Op where
  | set (now : Nat) (r : Request) (value : Envelope Json) (lifetime : Option Duration)
  | getKey (now : Nat) (key : String)
  | reserve (r : Request)
  | commit (now : Nat) (t : Ticket) (value : Envelope Json) (lifetime : Option Duration)
  | invalidate (p : Pattern)
  | remove (key : String)
  | evictExpired (now : Nat)

/-- The cache after a call. -/
def apply (c : Cache) : Op → Cache
  | .set now r value lifetime => (c.set now r value lifetime).2
  | .getKey now key => (c.getKey now key).2
  | .reserve _ => c
  | .commit now t value lifetime => (c.commit now t value lifetime).2
  | .invalidate p => (c.invalidate p).2
  | .remove key => (c.remove key).2
  | .evictExpired now => (c.evictExpired now).2

def run (c : Cache) (ops : List Op) : Cache := ops.foldl apply c

theorem run_append (c : Cache) (first later : List Op) : c.run (first ++ later) = (c.run first).run later :=
  List.foldl_append

/-- Whether a call may put something into the cache. -/
def Op.stores : Op → Bool
  | .set .. | .commit .. => true
  | _ => false

theorem contents_apply_subset (c : Cache) {op : Op} (h : op.stores = false) :
    (c.apply op).contents ⊆ c.contents := by
  cases op with
  | set now r value lifetime => exact nomatch h
  | getKey now key => exact contents_getKey_subset c now key
  | reserve r => exact fun _ hx => hx
  | commit now t value lifetime => exact nomatch h
  | invalidate p => exact contents_invalidate_subset c p
  | remove key => exact contents_erase_subset c key
  | evictExpired now => exact contents_evictExpired_subset c now

/-! ### Epochs only grow -/

/-- `d` may be what has become of `c`: the same configuration, and no epoch lower. -/
structure Follows (c d : Cache) : Prop where
  config : d.config = c.config
  globalEpoch : c.globalEpoch ≤ d.globalEpoch
  tableEpoch : ∀ table, c.tableEpoch table ≤ d.tableEpoch table

theorem Follows.refl (c : Cache) : Follows c c := ⟨rfl, Nat.le_refl _, fun _ => Nat.le_refl _⟩

theorem Follows.trans {a b c : Cache} (hab : Follows a b) (hbc : Follows b c) : Follows a c :=
  ⟨hbc.config.trans hab.config, Nat.le_trans hab.globalEpoch hbc.globalEpoch,
    fun table => Nat.le_trans (hab.tableEpoch table) (hbc.tableEpoch table)⟩

theorem Follows.of_epochs {c d : Cache} (hconfig : d.config = c.config) (h : d.epochs = c.epochs) :
    Follows c d :=
  ⟨hconfig, Nat.le_of_eq (congrArg Prod.fst h).symm,
    fun table => Nat.le_of_eq (tableEpoch_congr h.symm table)⟩

theorem follows_getKey (c : Cache) (now : Nat) (key : String) : Follows c (c.getKey now key).2 :=
  .of_epochs (config_getKey c now key) (epochs_getKey c now key)

theorem follows_commit (c : Cache) (now : Nat) (t : Ticket) (value : Envelope Json)
    (lifetime : Option Duration) : Follows c (c.commit now t value lifetime).2 :=
  .of_epochs (config_commit c now t value lifetime) (epochs_commit c now t value lifetime)

theorem follows_invalidate (c : Cache) (p : Pattern) : Follows c (c.invalidate p).2 where
  config := config_invalidate c p
  globalEpoch := by
    cases p with
    | all => exact Nat.le_succ _
    | table name => exact Nat.le_refl _
    | filter name column token => exact Nat.le_refl _
  tableEpoch := tableEpoch_le_raise c p

theorem follows_apply (c : Cache) (op : Op) : Follows c (c.apply op) := by
  cases op with
  | set now r value lifetime =>
    show Follows c (c.set now r value lifetime).2
    unfold set
    split
    · exact .refl c
    · exact .of_epochs (config_store ..) (epochs_store ..)
  | getKey now key => exact follows_getKey c now key
  | reserve r => exact .refl c
  | commit now t value lifetime => exact follows_commit c now t value lifetime
  | invalidate p => exact follows_invalidate c p
  | remove key => exact .of_epochs rfl rfl
  | evictExpired now => exact .of_epochs rfl rfl

theorem follows_run (c : Cache) (ops : List Op) : Follows c (c.run ops) := by
  induction ops generalizing c with
  | nil => exact .refl c
  | cons op ops ih => exact (follows_apply c op).trans (ih (c.apply op))

/-! ### Tickets -/

theorem map_fst_tableEpochs_reserve (c : Cache) (r : Request) :
    (c.reserve r).tableEpochs.map Prod.fst = r.tables := by
  simp [reserve, Function.comp_def]

/-- A ticket carries the epoch of each of its tables. -/
theorem mem_tableEpochs_reserve {c : Cache} {r : Request} {table : String} (h : table ∈ r.tables) :
    (table, c.tableEpoch table) ∈ (c.reserve r).tableEpochs :=
  List.mem_map.mpr ⟨table, h, rfl⟩

/-- A table of a ticket has reached a higher epoch than the ticket carries. -/
def Ticket.Overtaken (t : Ticket) (c : Cache) (table : String) : Prop :=
  ∃ n, (table, n) ∈ t.tableEpochs ∧ n < c.tableEpoch table

theorem Ticket.Overtaken.isStale {c : Cache} {t : Ticket} {table : String} (h : t.Overtaken c table) :
    t.isStale c = true := by
  obtain ⟨n, hn, hlt⟩ := h
  unfold Ticket.isStale
  rw [Bool.or_eq_true, List.any_eq_true]
  exact .inr ⟨(table, n), hn, by simpa using Nat.ne_of_gt hlt⟩

theorem Ticket.Overtaken.of_follows {c d : Cache} {t : Ticket} {table : String}
    (h : t.Overtaken c table) (hd : c.Follows d) : t.Overtaken d table := by
  obtain ⟨n, hn, hlt⟩ := h
  exact ⟨n, hn, Nat.lt_of_lt_of_le hlt (hd.tableEpoch table)⟩

theorem tableEpoch_lt_invalidate (c : Cache) (table : String) :
    c.tableEpoch table < (c.invalidate (.table table)).2.tableEpoch table := by
  show _ < (c.raise (.table table)).tableEpoch table
  rw [tableEpoch_raise_self]
  exact Nat.lt_succ_self _

/-- Nothing is stored under a ticket from before an invalidation of one of its tables. -/
theorem commit_refused_of_raised {c d : Cache} {r : Request} {table : String} (ht : table ∈ r.tables)
    (h : c.tableEpoch table < d.tableEpoch table) (now : Nat) (value : Envelope Json)
    (lifetime : Option Duration) : d.commit now (c.reserve r) value lifetime = (false, d) :=
  commit_of_stale (Ticket.Overtaken.isStale ⟨_, mem_tableEpochs_reserve ht, h⟩) now value lifetime

end TableQuery.Cache
