import TableQuery.Proofs.Cache.Runs
import TableQuery.Proofs.Cache.UseOrder

/-! A cache that finds its oldest entry by an index.

A cache looks through all its entries for the one whose last use lies furthest back. An `Indexed` one keeps an
index beside them, which leads from the number of each entry's last use to its key, and takes what comes first
in it. Entries and index change in steps of their own, so they have to be kept in step: the index holds the last
use of every entry and nothing else (`Indexed.InStep`). No call breaks that, and none has another effect than on
a cache without an index (`Indexed.inStep_run`). -/
namespace TableQuery.Cache

structure Indexed where
  cache : Cache
  /-- The key of the entry of which a use was the last. -/
  index : Std.TreeMap Nat String

namespace Indexed

def start (config : CacheConfig) : Indexed := ⟨.empty config, ∅⟩

/-! ### Operations -/

/-- Takes out the entry under a key, and its last use out of the index. -/
def drop (x : Indexed) (key : String) : Indexed :=
  match x.cache.find? key with
  | none => x
  | some e => ⟨x.cache.erase key, x.index.erase e.lastUse⟩

def dropAll (x : Indexed) (keys : List String) : Indexed := keys.foldl drop x

/-- The keys of the entries that satisfy `p`. -/
def keysWhere (x : Indexed) (p : Entry → Bool) : List String :=
  (x.cache.entries.filter fun e => p e.2).map Prod.fst

/-- Counts a use, and moves the entry under the key to it. -/
def touch (x : Indexed) (key : String) : Indexed :=
  match x.cache.find? key with
  | none => { x with cache := x.cache.touch key }
  | some e => ⟨x.cache.touch key, (x.index.erase e.lastUse).insert (x.cache.uses + 1) key⟩

def getKey (x : Indexed) (now : Nat) (key : String) : Option (Envelope Json) × Indexed :=
  match x.cache.find? key with
  | none => (none, { x with cache := x.cache.countMiss })
  | some e =>
    if e.isExpired now then
      let x := x.drop key
      (none, { x with cache := x.cache.countMiss })
    else
      let x := x.touch key
      (some e.value, { x with cache := x.cache.countHit })

/-- What comes first in the index. -/
def oldest? (x : Indexed) : Option (String × Nat) := do
  let use ← x.index.minKey?
  let key ← x.index[use]?
  some (key, use)

/-- Takes the first use out of the index, and the entry out to which it leads. -/
def evictOldest (x : Indexed) : Indexed :=
  match x.oldest? with
  | none => x
  | some (key, use) =>
    ⟨{ x.cache.erase key with stats := { x.cache.stats with evictions := x.cache.stats.evictions + 1 } },
      x.index.erase use⟩

/-- Evicts as long as there is no room for one entry more, until the index has nothing left. -/
def makeRoom (x : Indexed) : Nat → Indexed
  | 0 => x
  | n + 1 => if x.cache.config.capacity ≤ x.cache.size then x.evictOldest.makeRoom n else x

def room (x : Indexed) (key : String) : Indexed := (x.drop key).makeRoom (x.drop key).index.size

def store (x : Indexed) (now : Nat) (key : String) (value : Envelope Json) (lifetime : Option Duration)
    (tables : List String) (params : List Param) : Bool × Indexed :=
  if x.cache.refuses value lifetime then (false, x)
  else
    let y := x.room key
    let use := y.cache.uses + 1
    let entry : Entry := ⟨value, now, lifetime.getD x.cache.config.lifetime, use, tables, params⟩
    (true, ⟨{ y.cache with uses := use, entries := (key, entry) :: y.cache.entries }, y.index.insert use key⟩)

def set (x : Indexed) (now : Nat) (r : Request) (value : Envelope Json) (lifetime : Option Duration) :
    Bool × Indexed :=
  if r.isWrite then (false, x)
  else x.store now (x.cache.keyFor r) value lifetime r.tables r.params

def commit (x : Indexed) (now : Nat) (t : Ticket) (value : Envelope Json) (lifetime : Option Duration) :
    Bool × Indexed :=
  if t.isStale x.cache then (false, x)
  else x.store now t.key value lifetime (t.tableEpochs.map Prod.fst) t.params

/-- Raises epochs, and drops the matching entries one by one. -/
def invalidate (x : Indexed) (p : Pattern) : Nat × Indexed :=
  let keys := x.keysWhere p.matches
  (keys.length, { x with cache := x.cache.raise p }.dropAll keys)

def remove (x : Indexed) (key : String) : Bool × Indexed := ((x.cache.find? key).isSome, x.drop key)

def evictExpired (x : Indexed) (now : Nat) : Nat × Indexed :=
  let keys := x.keysWhere fun e => e.isExpired now
  (keys.length, x.dropAll keys)

/-- The cache after a call. -/
def apply (x : Indexed) : Op → Indexed
  | .set now r value lifetime => (x.set now r value lifetime).2
  | .getKey now key => (x.getKey now key).2
  | .reserve _ => x
  | .commit now t value lifetime => (x.commit now t value lifetime).2
  | .invalidate p => (x.invalidate p).2
  | .remove key => (x.remove key).2
  | .evictExpired now => (x.evictExpired now).2

def run (x : Indexed) (ops : List Op) : Indexed := ops.foldl apply x

/-- The key under which a call stores, if it is one that stores and what it brings is accepted. -/
def storedKey? (x : Indexed) : Op → Option String
  | .set now r value lifetime => if (x.set now r value lifetime).1 then some (x.cache.keyFor r) else none
  | .commit now t value lifetime => if (x.commit now t value lifetime).1 then some t.key else none
  | _ => none

/-! ### In step -/

/-- The books are in order: the entries have keys of their own and last uses of their own, none of them ahead of
the count, there are no more entries than are to be kept, and the index leads from each last use to its key. -/
structure InStep (x : Indexed) : Prop where
  keys : (x.cache.entries.map Prod.fst).Nodup
  uses : (x.cache.entries.map fun e => e.2.lastUse).Nodup
  counted : ∀ e ∈ x.cache.entries, e.2.lastUse ≤ x.cache.uses
  index : ∀ use key, x.index[use]? = some key ↔ ∃ e, x.cache.find? key = some e ∧ e.lastUse = use
  sizes : x.index.size = x.cache.size
  capacity : x.cache.size ≤ x.cache.config.capacity

/-- What a call comes to: no epoch is lower after it, and where it stores something, at most one entry has been
evicted, and its own is there. -/
structure Proceeds (x : Indexed) (op : Op) : Prop where
  follows : x.cache.Follows (x.apply op).cache
  stored : ∀ key, x.storedKey? op = some key →
    (x.apply op).cache.stats.evictions ≤ x.cache.stats.evictions + 1 ∧
      ((x.apply op).cache.find? key).isSome = true

/-! ### The index and the order of last uses -/

/-- The index leads from the last use of every entry to its key, and from no other number. -/
def Leads (index : Std.TreeMap Nat String) (order : List (String × Entry)) : Prop :=
  ∀ use key, index[use]? = some key ↔ ∃ e, (key, e) ∈ order ∧ e.lastUse = use

theorem leads_empty : Leads ∅ [] := fun use key => by simp

section Leads
variable {c : Cache} {index : Std.TreeMap Nat String} {order : List (String × Entry)} (hl : Leads index order)
include hl

theorem Leads.mem_iff {use : Nat} : use ∈ index ↔ ∃ x ∈ order, x.2.lastUse = use := by
  rw [Std.TreeMap.mem_iff_isSome_getElem?, Option.isSome_iff_exists]
  constructor
  · rintro ⟨key, hkey⟩
    obtain ⟨e, he, huse⟩ := (hl use key).mp hkey
    exact ⟨(key, e), he, huse⟩
  · rintro ⟨⟨key, e⟩, he, huse⟩
    exact ⟨key, (hl use key).mpr ⟨e, he, huse⟩⟩

theorem Leads.erase (h : UseOrder c order) {key : String} {e : Entry} (he : (key, e) ∈ order) :
    Leads (index.erase e.lastUse) (order.filter fun x => !(x.1 == key)) := by
  intro use k
  rw [Std.TreeMap.getElem?_erase]
  split
  · next heq =>
    obtain rfl := Nat.compare_eq_eq.mp heq
    refine iff_of_false (fun hnone => nomatch hnone) fun ⟨e', he', huse⟩ => ?_
    obtain ⟨hmem, hkey⟩ := List.mem_filter.mp he'
    obtain rfl : k = key := congrArg Prod.fst (h.eq_of_lastUse hmem he huse)
    simp at hkey
  · next hne =>
    rw [hl use k]
    refine exists_congr fun e' => and_congr_left fun huse => ⟨fun hmem => ?_, fun hmem => ?_⟩
    · refine List.mem_filter.mpr ⟨hmem, ?_⟩
      have hkey : k ≠ key := by
        rintro rfl
        obtain rfl : e' = e := congrArg Prod.snd (h.eq_of_key hmem he rfl)
        exact hne (Nat.compare_eq_eq.mpr huse)
      simpa using hkey
    · exact (List.mem_filter.mp hmem).1

theorem Leads.insert (e : Entry) (hfresh : ∀ x ∈ order, x.2.lastUse ≠ e.lastUse) (key : String) :
    Leads (index.insert e.lastUse key) ((key, e) :: order) := by
  intro use k
  rw [Std.TreeMap.getElem?_insert]
  split
  · next heq =>
    obtain rfl := Nat.compare_eq_eq.mp heq
    rw [Option.some_inj]
    constructor
    · rintro rfl
      exact ⟨e, List.mem_cons_self, rfl⟩
    · rintro ⟨e', hmem, huse⟩
      rcases List.mem_cons.mp hmem with heq | hmem
      · exact (congrArg Prod.fst heq).symm
      · exact absurd huse (hfresh _ hmem)
  · next hne =>
    rw [hl use k]
    refine exists_congr fun e' => and_congr_left fun huse => ?_
    refine ⟨List.mem_cons_of_mem _, fun hmem => (List.mem_cons.mp hmem).resolve_left fun heq => ?_⟩
    obtain rfl := congrArg Prod.snd heq
    exact hne (Nat.compare_eq_eq.mpr huse)

theorem Leads.size_eq (h : UseOrder c order) : index.size = order.length := by
  have hperm : index.keys.Perm (order.map fun x => x.2.lastUse) := by
    refine (List.perm_ext_iff_of_nodup Std.TreeMap.nodup_keys h.uses_nodup).mpr fun use => ?_
    rw [Std.TreeMap.mem_keys, hl.mem_iff, List.mem_map]
  rw [← Std.TreeMap.length_keys, hperm.length_eq, List.length_map]

/-- What comes first in the index is the last entry. -/
theorem Leads.minKey?_eq (h : UseOrder c order) :
    index.minKey? = order.getLast?.map fun x => x.2.lastUse := by
  rcases List.eq_nil_or_concat' order with rfl | ⟨front, last, rfl⟩
  · rw [List.getLast?_nil, Option.map_none, Std.TreeMap.minKey?_eq_none_iff,
      Std.TreeMap.isEmpty_eq_size_eq_zero, hl.size_eq h]
    rfl
  · rw [List.getLast?_concat, Option.map_some, Std.TreeMap.minKey?_eq_some_iff_mem_and_forall]
    refine ⟨hl.mem_iff.mpr ⟨last, List.mem_append_right _ List.mem_cons_self, rfl⟩, fun use huse => ?_⟩
    obtain ⟨x, hx, rfl⟩ := hl.mem_iff.mp huse
    rw [Nat.isLE_compare]
    rcases List.mem_append.mp hx with hfront | hlast
    · exact Nat.le_of_lt ((List.pairwise_append.mp h.sorted).2.2 x hfront last List.mem_cons_self)
    · rw [List.mem_singleton.mp hlast]

end Leads

/-- The entries in the order of their last uses, which the index knows, and no more than are to be kept. -/
structure Ordered (x : Indexed) (order : List (String × Entry)) : Prop where
  useOrder : UseOrder x.cache order
  leads : Leads x.index order
  capacity : order.length ≤ x.cache.config.capacity

theorem ordered_start (config : CacheConfig) : (start config).Ordered [] :=
  ⟨useOrder_empty config, leads_empty, Nat.zero_le _⟩

/-! ### Entries leave -/

theorem cache_drop (x : Indexed) (key : String) : (x.drop key).cache = x.cache.erase key := by
  unfold drop
  split
  · next hnone => exact (erase_of_find?_eq_none hnone).symm
  · rfl

theorem cache_dropAll (x : Indexed) (keys : List String) :
    (x.dropAll keys).cache = x.cache.dropWhere fun key _ => keys.contains key := by
  induction keys generalizing x with
  | nil => simp [dropAll, dropWhere]
  | cons key keys ih =>
    show ((x.drop key).dropAll keys).cache = _
    rw [ih, cache_drop]
    simp only [erase, dropWhere, List.filter_filter, List.contains_cons, Bool.not_or, Bool.and_comm]

theorem touch_of_find? {x : Indexed} {key : String} {e : Entry} (he : x.cache.find? key = some e) :
    x.touch key = ⟨x.cache.touch key, (x.index.erase e.lastUse).insert (x.cache.uses + 1) key⟩ := by
  unfold touch
  rw [he]

theorem makeRoom_of_lt {x : Indexed} (h : x.cache.size < x.cache.config.capacity) (n : Nat) :
    x.makeRoom n = x := by
  cases n with
  | zero => rfl
  | succ n => exact if_neg (Nat.not_le.mpr h)

namespace Ordered
variable {x : Indexed} {order : List (String × Entry)} (h : x.Ordered order)
include h

theorem inStep : x.InStep where
  keys := (h.useOrder.perm.map Prod.fst).nodup_iff.mp h.useOrder.keys
  uses := (h.useOrder.perm.map _).nodup_iff.mp h.useOrder.uses_nodup
  counted e he := h.useOrder.counted e (h.useOrder.perm.mem_iff.mpr he)
  index use key := by
    rw [h.leads use key]
    exact exists_congr fun e => and_congr_left fun _ => h.useOrder.mem_iff_find?
  sizes := (h.leads.size_eq h.useOrder).trans h.useOrder.size_eq.symm
  capacity := h.useOrder.size_eq ▸ h.capacity

/-- Of the cache only the entries, the count of uses and the configuration matter. -/
theorem congr {c : Cache} (hentries : c.entries = x.cache.entries) (huses : c.uses = x.cache.uses)
    (hconfig : c.config = x.cache.config) : Ordered { x with cache := c } order :=
  ⟨h.useOrder.congr hentries huses, h.leads, hconfig ▸ h.capacity⟩

theorem drop (key : String) : (x.drop key).Ordered (order.filter fun y => !(y.1 == key)) := by
  unfold Indexed.drop
  split
  · next hnone =>
    have hothers : order.filter (fun y => !(y.1 == key)) = order := by
      refine List.filter_eq_self.mpr fun y hy => ?_
      have hkey : y.1 ≠ key := by
        rintro rfl
        rw [h.useOrder.mem_iff_find?.mp hy] at hnone
        exact nomatch hnone
      simpa using hkey
    rwa [hothers]
  · next e he =>
    exact ⟨h.useOrder.erase key, h.leads.erase h.useOrder (h.useOrder.mem_iff_find?.mpr he),
      Nat.le_trans List.filter_sublist.length_le h.capacity⟩

theorem dropAll (keys : List String) : ∃ left, (x.dropAll keys).Ordered left := by
  induction keys generalizing x order with
  | nil => exact ⟨order, h⟩
  | cons key keys ih => exact ih (h.drop key)

theorem oldest?_eq : x.oldest? = Cache.oldest? x.cache.entries := by
  rw [h.useOrder.oldest?_eq]
  unfold Indexed.oldest?
  rw [h.leads.minKey?_eq h.useOrder]
  rcases List.eq_nil_or_concat' order with rfl | ⟨front, last, rfl⟩
  · rfl
  · have hkey := (h.leads last.2.lastUse last.1).mpr ⟨last.2, List.mem_append_right _ List.mem_cons_self, rfl⟩
    simp [hkey]

theorem cache_evictOldest : x.evictOldest.cache = x.cache.evictOldest := by
  unfold Indexed.evictOldest Cache.evictOldest
  rw [h.oldest?_eq]
  split <;> simp_all

theorem evictOldest (hne : order ≠ []) :
    x.evictOldest.Ordered order.dropLast ∧
      x.evictOldest.cache.stats.evictions = x.cache.stats.evictions + 1 := by
  obtain ⟨hleft, hstats⟩ := h.useOrder.evictOldest hne
  obtain ⟨front, last, rfl⟩ : ∃ front last, order = front ++ [last] :=
    ⟨_, _, (List.dropLast_append_getLast hne).symm⟩
  have hindex : x.evictOldest.index = x.index.erase last.2.lastUse := by
    unfold Indexed.evictOldest
    rw [h.oldest?_eq, h.useOrder.oldest?_eq, List.getLast?_concat]
    rfl
  have hleads := h.leads.erase h.useOrder (List.mem_append_right front List.mem_cons_self)
  rw [h.useOrder.filter_last rfl] at hleads
  rw [List.dropLast_concat] at hleft ⊢
  rw [← h.cache_evictOldest] at hleft hstats
  refine ⟨⟨hleft, hindex ▸ hleads, ?_⟩, by rw [hstats]⟩
  have hfront : front.length ≤ (front ++ [last]).length := by simp
  rw [h.cache_evictOldest, config_evictOldest]
  exact Nat.le_trans hfront h.capacity

theorem exists_evictOldest : ∃ left, x.evictOldest.Ordered left := by
  by_cases hne : order = []
  · subst hne
    have hnone : x.evictOldest = x := by
      unfold Indexed.evictOldest
      rw [h.oldest?_eq, h.useOrder.oldest?_eq]
      rfl
    exact ⟨[], by rwa [hnone]⟩
  · exact ⟨order.dropLast, (h.evictOldest hne).1⟩

/-- Dropping the keys of the entries that satisfy `p` drops these entries. -/
theorem dropWhere_keysWhere (p : Entry → Bool) {c : Cache} (hentries : c.entries = x.cache.entries) :
    (c.dropWhere fun key _ => (x.keysWhere p).contains key) = c.dropWhere fun _ e => p e := by
  have hfilter : x.cache.entries.filter (fun e => !(x.keysWhere p).contains e.1) =
      x.cache.entries.filter fun e => !p e.2 := by
    refine List.filter_congr fun y hy => congrArg (!·) (Bool.eq_iff_iff.mpr ?_)
    rw [List.contains_iff_mem, keysWhere, List.mem_map]
    constructor
    · rintro ⟨z, hz, hkey⟩
      obtain ⟨hmem, hp⟩ := List.mem_filter.mp hz
      rwa [← h.useOrder.eq_of_key (h.useOrder.perm.mem_iff.mpr hmem) (h.useOrder.perm.mem_iff.mpr hy) hkey]
    · exact fun hp => ⟨y, List.mem_filter.mpr ⟨hy, hp⟩, rfl⟩
  simp only [dropWhere, hentries, hfilter]

/-! ### Entries come to the front -/

theorem touch {key : String} {e : Entry} (he : x.cache.find? key = some e) :
    ∃ touched, (x.touch key).Ordered touched := by
  have hmem := h.useOrder.mem_iff_find?.mpr he
  have hfresh (y : String × Entry) (hy : y ∈ order.filter fun y => !(y.1 == key)) :
      y.2.lastUse ≠ x.cache.uses + 1 :=
    Nat.ne_of_lt (Nat.lt_succ_of_le (h.useOrder.counted y (List.mem_filter.mp hy).1))
  have hlength : (order.filter fun y => !(y.1 == key)).length < order.length :=
    List.length_filter_lt_length_iff_exists.mpr ⟨_, hmem, by simp⟩
  let touched : Entry := { e with lastUse := x.cache.uses + 1 }
  rw [touch_of_find? he]
  exact ⟨(key, touched) :: order.filter fun y => !(y.1 == key), h.useOrder.touch hmem,
    (h.leads.erase h.useOrder hmem).insert touched hfresh key, Nat.le_trans hlength h.capacity⟩

theorem getKey (now : Nat) (key : String) : ∃ order', (x.getKey now key).2.Ordered order' := by
  unfold Indexed.getKey
  split
  · exact ⟨order, h.congr rfl rfl rfl⟩
  · next e he =>
    split
    · exact ⟨_, (h.drop key).congr rfl rfl rfl⟩
    · obtain ⟨touched, htouched⟩ := h.touch he
      exact ⟨touched, htouched.congr rfl rfl rfl⟩

/-! ### Storing -/

theorem size_eq : x.index.size = order.length := h.leads.size_eq h.useOrder

/-- Where entries are kept at all, one eviction makes room. -/
theorem makeRoom (hpos : 0 < x.cache.config.capacity) :
    ∃ left, (x.makeRoom x.index.size).Ordered left ∧ left ⊆ order ∧
      left.length < x.cache.config.capacity ∧
      (x.makeRoom x.index.size).cache.stats.evictions ≤ x.cache.stats.evictions + 1 := by
  have hcapacity := h.capacity
  rw [h.size_eq]
  by_cases hfull : x.cache.config.capacity ≤ order.length
  · have hne : order ≠ [] := List.length_pos_iff.mp (Nat.lt_of_lt_of_le hpos hfull)
    obtain ⟨n, hn⟩ : ∃ n, order.length = n + 1 := Nat.exists_eq_succ_of_ne_zero (by simpa using hne)
    obtain ⟨hleft, hevictions⟩ := h.evictOldest hne
    have hconfig : x.evictOldest.cache.config = x.cache.config := by
      rw [h.cache_evictOldest, config_evictOldest]
    have hlt : order.dropLast.length < x.cache.config.capacity := by
      rw [List.length_dropLast]
      omega
    have hmake : x.makeRoom order.length = x.evictOldest := by
      rw [hn, Indexed.makeRoom, if_pos (by rwa [h.useOrder.size_eq])]
      exact makeRoom_of_lt (by rwa [hleft.useOrder.size_eq, hconfig]) n
    rw [hmake]
    exact ⟨order.dropLast, hleft, List.dropLast_subset order, hlt, Nat.le_of_eq hevictions⟩
  · rw [makeRoom_of_lt (by rw [h.useOrder.size_eq]; exact Nat.not_le.mp hfull)]
    exact ⟨order, h, fun _ hy => hy, Nat.not_le.mp hfull, Nat.le_succ _⟩

theorem cache_makeRoom (n : Nat) : (x.makeRoom n).cache = x.cache.makeRoom n := by
  induction n generalizing x order with
  | zero => rfl
  | succ n ih =>
    unfold Indexed.makeRoom Cache.makeRoom
    split
    · obtain ⟨left, hleft⟩ := h.exists_evictOldest
      rw [ih hleft, h.cache_evictOldest]
    · rfl

theorem cache_room (key : String) : (x.room key).cache = x.cache.room key := by
  have hdrop := h.drop key
  show ((x.drop key).makeRoom (x.drop key).index.size).cache = (x.cache.erase key).makeRoom _
  rw [hdrop.cache_makeRoom, hdrop.size_eq, ← hdrop.useOrder.size_eq, cache_drop]

theorem room (key : String) (hpos : 0 < x.cache.config.capacity) :
    ∃ left, (x.room key).Ordered left ∧ (∀ y ∈ left, y.1 ≠ key) ∧
      left.length < x.cache.config.capacity ∧
      (x.room key).cache.stats.evictions ≤ x.cache.stats.evictions + 1 := by
  have hcache := cache_drop x key
  obtain ⟨left, hleft, hsubset, hlt, hevictions⟩ := (h.drop key).makeRoom (by rwa [hcache])
  rw [hcache] at hlt hevictions
  exact ⟨left, hleft, fun y hy => by simpa using (List.mem_filter.mp (hsubset hy)).2, hlt, hevictions⟩

section Store
variable (now : Nat) (key : String) (value : Envelope Json) (lifetime : Option Duration)
  (tables : List String) (params : List Param)

theorem cache_store : Prod.map id cache (x.store now key value lifetime tables params) =
    x.cache.store now key value lifetime tables params := by
  rw [store_eq, ← h.cache_room]
  unfold Indexed.store
  split <;> rfl

/-- What is stored comes to the front, and at most one entry leaves for it. -/
theorem store : ∃ order', (x.store now key value lifetime tables params).2.Ordered order' ∧
    (x.store now key value lifetime tables params).2.cache.stats.evictions ≤
      x.cache.stats.evictions + 1 := by
  unfold Indexed.store
  split
  · exact ⟨order, h, Nat.le_succ _⟩
  · next haccepted =>
    have hpos : 0 < x.cache.config.capacity := by
      simp only [refuses, Bool.or_eq_true, decide_eq_true_eq, not_or] at haccepted
      exact Nat.pos_of_ne_zero haccepted.1.2
    obtain ⟨left, hleft, hkey, hlt, hevictions⟩ := h.room key hpos
    have hconfig : (x.room key).cache.config = x.cache.config := by
      rw [h.cache_room]
      exact (config_makeRoom _ _).trans (config_erase _ _)
    have hfresh (y : String × Entry) (hy : y ∈ left) : y.2.lastUse ≠ (x.room key).cache.uses + 1 :=
      Nat.ne_of_lt (Nat.lt_succ_of_le (hleft.useOrder.counted y hy))
    let entry : Entry :=
      ⟨value, now, lifetime.getD x.cache.config.lifetime, (x.room key).cache.uses + 1, tables, params⟩
    exact ⟨(key, entry) :: left, ⟨hleft.useOrder.cons (hleft.useOrder.perm.cons _) rfl rfl hkey,
      hleft.leads.insert entry hfresh key, hconfig ▸ hlt⟩, hevictions⟩

theorem kept_store (haccepted : (x.store now key value lifetime tables params).1 = true) :
    (x.store now key value lifetime tables params).2.cache.stats.evictions ≤ x.cache.stats.evictions + 1 ∧
      ((x.store now key value lifetime tables params).2.cache.find? key).isSome = true := by
  obtain ⟨-, -, hevictions⟩ := h.store now key value lifetime tables params
  have hcache := h.cache_store now key value lifetime tables params
  have hanswer : (x.cache.store now key value lifetime tables params).1 = true := by
    rw [← hcache]
    exact haccepted
  have hfound := find?_store x.cache now key value lifetime tables params hanswer
  rw [← hcache] at hfound
  exact ⟨hevictions, hfound⟩

end Store

/-! ### Calls -/

theorem cache_set (now : Nat) (r : Request) (value : Envelope Json) (lifetime : Option Duration) :
    Prod.map id cache (x.set now r value lifetime) = x.cache.set now r value lifetime := by
  unfold Indexed.set Cache.set
  split
  · rfl
  · exact h.cache_store now _ value lifetime r.tables r.params

theorem cache_commit (now : Nat) (t : Ticket) (value : Envelope Json) (lifetime : Option Duration) :
    Prod.map id cache (x.commit now t value lifetime) = x.cache.commit now t value lifetime := by
  unfold Indexed.commit Cache.commit
  split
  · rfl
  · exact h.cache_store now _ value lifetime _ t.params

theorem cache_invalidate (p : Pattern) :
    Prod.map id cache (x.invalidate p) = x.cache.invalidate p := by
  have hentries : (x.cache.raise p).entries = x.cache.entries := by cases p <;> rfl
  unfold Indexed.invalidate Cache.invalidate
  rw [← h.dropWhere_keysWhere p.matches hentries]
  refine Prod.ext ?_ (cache_dropAll _ _)
  exact List.length_map _

theorem cache_evictExpired (now : Nat) :
    Prod.map id cache (x.evictExpired now) = x.cache.evictExpired now := by
  unfold Indexed.evictExpired Cache.evictExpired
  rw [← h.dropWhere_keysWhere (fun e => e.isExpired now) rfl]
  refine Prod.ext ?_ (cache_dropAll _ _)
  exact List.length_map _

end Ordered

theorem cache_getKey (x : Indexed) (now : Nat) (key : String) :
    Prod.map id cache (x.getKey now key) = x.cache.getKey now key := by
  unfold Indexed.getKey Cache.getKey
  cases he : x.cache.find? key with
  | none => rfl
  | some e =>
    dsimp only
    split
    · exact congrArg (fun c => (none, c.countMiss)) (cache_drop x key)
    · rw [touch_of_find? he]
      rfl

namespace Ordered
variable {x : Indexed} {order : List (String × Entry)} (h : x.Ordered order)
include h

/-- The index changes nothing about what a call does to the cache. -/
theorem cache_apply (op : Op) : (x.apply op).cache = x.cache.apply op := by
  cases op with
  | set now r value lifetime => exact congrArg Prod.snd (h.cache_set now r value lifetime)
  | getKey now key => exact congrArg Prod.snd (x.cache_getKey now key)
  | reserve r => rfl
  | commit now t value lifetime => exact congrArg Prod.snd (h.cache_commit now t value lifetime)
  | invalidate p => exact congrArg Prod.snd (h.cache_invalidate p)
  | remove key => exact cache_drop x key
  | evictExpired now => exact congrArg Prod.snd (h.cache_evictExpired now)

theorem apply (op : Op) : ∃ order', (x.apply op).Ordered order' := by
  cases op with
  | set now r value lifetime =>
    show ∃ order', (x.set now r value lifetime).2.Ordered order'
    unfold Indexed.set
    split
    · exact ⟨order, h⟩
    · exact (h.store now _ value lifetime r.tables r.params).imp fun _ hstore => hstore.1
  | getKey now key => exact h.getKey now key
  | reserve r => exact ⟨order, h⟩
  | commit now t value lifetime =>
    show ∃ order', (x.commit now t value lifetime).2.Ordered order'
    unfold Indexed.commit
    split
    · exact ⟨order, h⟩
    · exact (h.store now t.key value lifetime _ t.params).imp fun _ hstore => hstore.1
  | invalidate p =>
    have hraised : Ordered { x with cache := x.cache.raise p } order := by
      cases p <;> exact h.congr rfl rfl rfl
    exact hraised.dropAll _
  | remove key => exact ⟨_, h.drop key⟩
  | evictExpired now => exact h.dropAll _

theorem proceeds (op : Op) : x.Proceeds op := by
  refine ⟨h.cache_apply op ▸ follows_apply x.cache op, fun key hkey => ?_⟩
  cases op with
  | set now r value lifetime =>
    obtain ⟨haccepted, hkey⟩ := Option.ite_none_right_eq_some.mp hkey
    obtain rfl := Option.some_inj.mp hkey
    rw [Indexed.apply]
    unfold Indexed.set at haccepted ⊢
    split at haccepted
    · exact nomatch haccepted
    · next hread =>
      rw [if_neg hread]
      exact h.kept_store _ _ _ _ _ _ haccepted
  | commit now t value lifetime =>
    obtain ⟨haccepted, hkey⟩ := Option.ite_none_right_eq_some.mp hkey
    obtain rfl := Option.some_inj.mp hkey
    rw [Indexed.apply]
    unfold Indexed.commit at haccepted ⊢
    split at haccepted
    · exact nomatch haccepted
    · next hfresh =>
      rw [if_neg hfresh]
      exact h.kept_store _ _ _ _ _ _ haccepted
  | _ => exact nomatch hkey

theorem run (ops : List Op) :
    (x.run ops).cache = x.cache.run ops ∧ ∃ order', (x.run ops).Ordered order' := by
  induction ops generalizing x order with
  | nil => exact ⟨rfl, order, h⟩
  | cons op ops ih =>
    obtain ⟨order', h'⟩ := h.apply op
    obtain ⟨hcache, hordered⟩ := ih h'
    exact ⟨by rw [Indexed.run, List.foldl_cons, ← Indexed.run, hcache, h.cache_apply]; rfl, hordered⟩

end Ordered

/-- **The index is always in step.** Whatever calls are made on an empty cache, the one with the index comes to
hold what the one without holds, its books are in order, and every further call leaves the epochs no lower and,
where it stores something, costs one eviction at most and leaves what it stored. -/
theorem inStep_run (config : CacheConfig) (ops : List Op) :
    ((start config).run ops).cache = (Cache.empty config).run ops ∧
      ((start config).run ops).InStep ∧
      ∀ op, ((start config).run ops).Proceeds op := by
  obtain ⟨hcache, order, h⟩ := (ordered_start config).run ops
  exact ⟨hcache, h.inStep, h.proceeds⟩

end Indexed

end TableQuery.Cache
