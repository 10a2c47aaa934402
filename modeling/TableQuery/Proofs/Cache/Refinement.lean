import TableQuery.Proofs.Cache.Recency
import TableQuery.Proofs.Cache.UseOrder

/-! A cache answers as one that keeps its slots in a list by recency.

The list mirrors the cache if it holds the cache's entries in the order of their last uses, with the same
counters, and marks those tickets that are stale (`Mirrors`). Every call is answered alike by both and
leaves them mirroring each other (`Mirrors.call`), so that no sequence of calls can tell them apart
(`trace_eq_recency`). -/
namespace TableQuery.Cache

def Slot.of (x : String × Entry) : Slot :=
  ⟨x.1, x.2.value, x.2.storedAt, x.2.lifetime, x.2.tables, x.2.params⟩

@[simp] theorem Slot.key_of (x : String × Entry) : (Slot.of x).key = x.1 := rfl

@[simp] theorem Slot.isLive_of (x : String × Entry) (now : Nat) :
    (Slot.of x).isLive now = !x.2.isExpired now := by
  unfold isLive Entry.isExpired
  rw [← decide_not]
  exact decide_eq_decide.mpr Nat.not_le.symm

@[simp] theorem Slot.matches_of (x : String × Entry) (p : Pattern) :
    (Slot.of x).matches p = p.matches x.2 := by
  cases p with
  | all => rfl
  | table name =>
    show decide (name ∈ x.2.tables) = x.2.tables.contains name
    simp
  | filter name column token =>
    show decide (name ∈ x.2.tables ∧ (column, token) ∈ x.2.params) =
      (x.2.tables.contains name && x.2.params.contains (column, token))
    simp

theorem RecencyCache.others_eq {r : RecencyCache} {order : List (String × Entry)}
    (hslots : r.slots = order.map Slot.of) (key : String) :
    r.others key = (order.filter fun x => !(x.1 == key)).map Slot.of := by
  unfold others
  rw [hslots, List.filter_map]
  refine congrArg (List.map Slot.of) (List.filter_congr fun x _ => ?_)
  show decide (x.1 ≠ key) = !(x.1 == key)
  rw [decide_not]
  rfl

/-- What is known of a ticket without its epochs. -/
def Promise.of (c : Cache) (t : Ticket) : Promise := ⟨t.key, t.tables, t.params, t.isStale c⟩

theorem Promise.of_congr {c d : Cache} (h : c.epochs = d.epochs) : Promise.of c = Promise.of d := by
  funext t
  simp only [Promise.of, Ticket.isStale_congr h t]

structure Mirrors (s : Issuing) (r : RecencyCache) : Prop where
  config : r.config = s.cache.config
  stats : r.stats = s.cache.stats
  slots : ∃ order, s.cache.UseOrder order ∧ r.slots = order.map Slot.of
  promises : r.promises = s.tickets.map (Promise.of s.cache)
  behind : ∀ t ∈ s.tickets, t.Behind s.cache

namespace Mirrors

theorem start (config : CacheConfig) : Mirrors (.start config) (.start config) where
  config := rfl
  stats := rfl
  slots := ⟨[], useOrder_empty config, rfl⟩
  promises := rfl
  behind _ h := nomatch h

variable {s : Issuing} {r : RecencyCache} (h : Mirrors s r)
include h

theorem look_eq : s.look = r.look := by
  obtain ⟨order, horder, hslots⟩ := h.slots
  simp only [Issuing.look, RecencyCache.look, h.stats, hslots, List.length_map, horder.size_eq]

theorem keyFor_eq (q : Request) : r.keyFor q = s.cache.keyFor q := by
  cases hkey : s.cache.config.keyOf <;> simp only [RecencyCache.keyFor, Cache.keyFor, h.config, hkey]

/-- A cache that has raised no epoch keeps its tickets as they are. -/
theorem withCache {d : Cache} {slots : List Slot} {stats : Stats} {order : List (String × Entry)}
    (hconfig : d.config = s.cache.config) (hepochs : d.epochs = s.cache.epochs)
    (horder : d.UseOrder order) (hslots : slots = order.map Slot.of) (hstats : stats = d.stats) :
    Mirrors { s with cache := d } { r with slots := slots, stats := stats } where
  config := h.config.trans hconfig.symm
  stats := hstats
  slots := ⟨order, horder, hslots⟩
  promises := by
    show r.promises = s.tickets.map (Promise.of d)
    rw [Promise.of_congr hepochs, h.promises]
  behind t ht := (h.behind t ht).of_follows (.of_epochs hconfig hepochs)

/-! ### Looking up -/

theorem lookUp (now : Nat) (key : String) :
    (s.cache.getKey now key).1 = (r.lookUp now key).1 ∧
      Mirrors { s with cache := (s.cache.getKey now key).2 } (r.lookUp now key).2 := by
  obtain ⟨order, horder, hslots⟩ := h.slots
  have hfind : (r.slots.find? fun x => decide (x.key = key)) =
      (order.find? fun x => x.1 == key).map Slot.of := by
    rw [hslots, List.find?_map]
    rfl
  unfold getKey RecencyCache.lookUp
  rw [hfind, horder.find?_eq key]
  cases hx : order.find? fun x => x.1 == key with
  | none =>
    show none = none ∧ Mirrors { s with cache := s.cache.countMiss } r.countMiss
    exact ⟨rfl, h.withCache rfl rfl (horder.congr rfl rfl) hslots (by rw [h.stats]; rfl)⟩
  | some x =>
    have hmem : x ∈ order := List.mem_of_find?_eq_some hx
    obtain rfl : x.1 = key := by simpa using List.find?_some hx
    simp only [Option.map_some, Slot.isLive_of]
    cases hexpired : x.2.isExpired now
    · show some x.2.value = some x.2.value ∧
        Mirrors { s with cache := (s.cache.touch x.1).countHit } { r with
          slots := Slot.of x :: r.others x.1
          stats := { r.stats with hits := r.stats.hits + 1 } }
      refine ⟨rfl, h.withCache rfl rfl ((horder.touch hmem).congr rfl rfl) ?_ (by rw [h.stats]; rfl)⟩
      rw [RecencyCache.others_eq hslots]
      rfl
    · show none = none ∧ Mirrors { s with cache := (s.cache.erase x.1).countMiss }
        { r with slots := r.others x.1 }.countMiss
      exact ⟨rfl, h.withCache rfl rfl ((horder.erase x.1).congr rfl rfl) (RecencyCache.others_eq hslots x.1)
        (by rw [h.stats]; rfl)⟩

/-! ### Storing -/

omit h in
/-- Making room drops the slots from the back that shedding drops. -/
theorem makeRoom {c : Cache} {order : List (String × Entry)} (horder : c.UseOrder order)
    (hcapacity : 0 < c.config.capacity) {n : Nat} (hn : order.length ≤ n) :
    ∃ left, (c.makeRoom n).UseOrder left ∧ left ⊆ order ∧
      RecencyCache.shed c.config.capacity (order.map Slot.of) c.stats =
        (left.map Slot.of, (c.makeRoom n).stats) := by
  induction n generalizing c order with
  | zero =>
    obtain rfl := List.eq_nil_of_length_eq_zero (Nat.le_zero.mp hn)
    exact ⟨[], horder, List.Subset.refl _, RecencyCache.shed_of_lt hcapacity _⟩
  | succ n ih =>
    unfold Cache.makeRoom
    rw [horder.size_eq]
    split
    · next hfull =>
      have hne : order ≠ [] := List.ne_nil_of_length_pos (Nat.lt_of_lt_of_le hcapacity hfull)
      obtain ⟨hevicted, hstats⟩ := horder.evictOldest hne
      have hlength : order.dropLast.length ≤ n := by
        rw [List.length_dropLast]
        omega
      obtain ⟨left, hleft, hsubset, hshed⟩ := ih hevicted (by rwa [config_evictOldest]) hlength
      rw [config_evictOldest, hstats] at hshed
      refine ⟨left, hleft, List.Subset.trans hsubset (List.dropLast_subset _), ?_⟩
      rw [RecencyCache.shed_of_le (by simpa using hne) (by simpa using hfull), ← List.map_dropLast, hshed]
    · next hroom =>
      refine ⟨order, horder, List.Subset.refl _, RecencyCache.shed_of_lt ?_ _⟩
      simpa using hroom

theorem keep (now : Nat) (key : String) (value : Envelope Json) (lifetime : Option Duration)
    (tables : List String) (params : List Param) :
    (s.cache.store now key value lifetime tables params).1 =
        (r.keep ⟨key, value, now, lifetime.getD r.config.lifetime, tables, params⟩).1 ∧
      Mirrors { s with cache := (s.cache.store now key value lifetime tables params).2 }
        (r.keep ⟨key, value, now, lifetime.getD r.config.lifetime, tables, params⟩).2 := by
  obtain ⟨order, horder, hslots⟩ := h.slots
  have hrefuses : s.cache.refuses value lifetime = true ↔ ¬(value.isOk = true ∧
      0 < r.config.capacity ∧ 0 < (lifetime.getD r.config.lifetime).micros) := by
    rw [h.config]
    simp [refuses, Nat.pos_iff_ne_zero, or_assoc, imp_iff_not_or]
  rw [store_eq]
  unfold RecencyCache.keep
  by_cases hkept : s.cache.refuses value lifetime = true
  · rw [if_pos hkept, if_neg (hrefuses.mp hkept)]
    exact ⟨rfl, h⟩
  · have haccepted := Decidable.not_not.mp (mt hrefuses.mpr hkept)
    rw [if_neg hkept, if_pos haccepted]
    have hcapacity : 0 < s.cache.config.capacity := h.config ▸ haccepted.2.1
    have herase := horder.erase key
    obtain ⟨left, hleft, hsubset, hshed⟩ := makeRoom herase hcapacity (Nat.le_of_eq herase.size_eq.symm)
    have hfresh (y : String × Entry) (hy : y ∈ left) : y.1 ≠ key := by
      simpa using (List.mem_filter.mp (hsubset hy)).2
    let entry : Entry := ⟨value, now, lifetime.getD s.cache.config.lifetime, (s.cache.room key).uses + 1,
      tables, params⟩
    let stored : Cache := { s.cache.room key with
      uses := (s.cache.room key).uses + 1
      entries := (key, entry) :: (s.cache.room key).entries }
    have hstored : stored.UseOrder ((key, entry) :: left) :=
      hleft.cons (hleft.perm.cons _) rfl rfl hfresh
    have hshed' : RecencyCache.shed r.config.capacity (r.others key) r.stats =
        (left.map Slot.of, stored.stats) := by
      rw [h.config, h.stats, RecencyCache.others_eq hslots]
      exact hshed
    refine ⟨rfl, ?_⟩
    show Mirrors { s with cache := stored } { r with
      slots := _ :: (RecencyCache.shed r.config.capacity (r.others key) r.stats).1
      stats := (RecencyCache.shed r.config.capacity (r.others key) r.stats).2 }
    rw [hshed']
    refine h.withCache (config_makeRoom _ _) (epochs_makeRoom _ _) hstored ?_ rfl
    rw [h.config]
    rfl

/-! ### Dropping -/

theorem dropWhere (p : Slot → Bool) (q : Entry → Bool) (hpq : ∀ x, p (Slot.of x) = q x.2) :
    (s.cache.entries.filter fun x => q x.2).length = (r.dropWhere p).1 ∧
      Mirrors { s with cache := s.cache.dropWhere fun _ e => q e } (r.dropWhere p).2 := by
  obtain ⟨order, horder, hslots⟩ := h.slots
  have hp : p ∘ Slot.of = fun x => q x.2 := funext hpq
  constructor
  · show _ = r.slots.countP p
    rw [horder.countP_eq, hslots, List.countP_map, hp]
  · refine h.withCache rfl rfl (horder.dropWhere fun _ e => q e) ?_ h.stats
    rw [hslots, List.filter_map]
    refine congrArg (List.map Slot.of) (List.filter_congr fun x _ => ?_)
    rw [Function.comp_apply, hpq]

theorem raise (p : Pattern) : Mirrors { s with cache := s.cache.raise p }
    { r with promises := r.promises.map (Promise.mark p) } where
  config := h.config.trans (config_invalidate s.cache p).symm
  stats := h.stats.trans (by cases p <;> rfl)
  slots := by
    obtain ⟨order, horder, hslots⟩ := h.slots
    exact ⟨order, horder.congr (by cases p <;> rfl) (by cases p <;> rfl), hslots⟩
  promises := by
    rw [h.promises, List.map_map]
    refine List.map_congr_left fun t ht => ?_
    have hstale : t.isStale (s.cache.raise p) = (t.isStale s.cache || p.concerns t.tables) :=
      isStale_invalidate (h.behind t ht) p
    show _ = Promise.of (s.cache.raise p) t
    rw [Promise.of, hstale]
    rfl
  behind t ht := by
    have hbehind := (h.behind t ht).of_follows (follows_invalidate s.cache p)
    exact ⟨hbehind.globalEpoch, hbehind.tableEpochs⟩

theorem invalidate (p : Pattern) : (s.cache.invalidate p).1 = (r.invalidate p).1 ∧
    Mirrors { s with cache := (s.cache.invalidate p).2 } (r.invalidate p).2 := by
  have hdrop := (h.raise p).dropWhere (Slot.matches p) p.matches fun x => Slot.matches_of x p
  have hentries : (s.cache.raise p).entries = s.cache.entries := by cases p <;> rfl
  rw [hentries] at hdrop
  exact hdrop

theorem remove (key : String) : (s.cache.remove key).1 = (r.remove key).1 ∧
    Mirrors { s with cache := (s.cache.remove key).2 } (r.remove key).2 := by
  obtain ⟨order, horder, hslots⟩ := h.slots
  constructor
  · show (s.cache.find? key).isSome = r.slots.any fun x => x.key = key
    rw [horder.find?_eq, hslots, Option.isSome_map, List.any_map, Bool.eq_iff_iff, List.find?_isSome,
      List.any_eq_true]
    exact exists_congr fun x => and_congr_right fun _ => by
      rw [beq_iff_eq]
      exact decide_eq_true_iff.symm
  · exact h.withCache rfl rfl (horder.erase key) (RecencyCache.others_eq hslots key) h.stats

theorem evictExpired (now : Nat) : (s.cache.evictExpired now).1 = (r.evictExpired now).1 ∧
    Mirrors { s with cache := (s.cache.evictExpired now).2 } (r.evictExpired now).2 := by
  have hexpired (x : String × Entry) : (!(Slot.of x).isLive now) = x.2.isExpired now := by
    rw [Slot.isLive_of, Bool.not_not]
  exact h.dropWhere (fun x => !x.isLive now) (fun e => e.isExpired now) hexpired

/-! ### Tickets -/

theorem reserve (q : Request) : Mirrors { s with tickets := s.tickets ++ [s.cache.reserve q] }
    { r with promises := r.promises ++ [r.reserve q] } where
  config := h.config
  stats := h.stats
  slots := h.slots
  promises := by
    show r.promises ++ _ = (s.tickets ++ [s.cache.reserve q]).map _
    rw [List.map_append, List.map_singleton, h.promises, Promise.of, tables_reserve, isStale_reserve,
      RecencyCache.reserve, h.keyFor_eq]
    rfl
  behind := by
    refine List.forall_mem_append.mpr ⟨h.behind, ?_⟩
    exact List.forall_mem_singleton.mpr (behind_reserve s.cache q)

theorem commit (now : Nat) (t : Ticket) (value : Envelope Json) (lifetime : Option Duration) :
    (s.cache.commit now t value lifetime).1 =
        (r.commit now (Promise.of s.cache t) value lifetime).1 ∧
      Mirrors { s with cache := (s.cache.commit now t value lifetime).2 }
        (r.commit now (Promise.of s.cache t) value lifetime).2 := by
  unfold Cache.commit RecencyCache.commit
  rw [show (Promise.of s.cache t).stale = t.isStale s.cache from rfl]
  split
  · exact ⟨rfl, h⟩
  · exact h.keep now t.key value lifetime t.tables t.params

/-! ### Calls -/

theorem set (now : Nat) (q : Request) (value : Envelope Json) (lifetime : Option Duration) :
    (s.cache.set now q value lifetime).1 = (r.set now q value lifetime).1 ∧
      Mirrors { s with cache := (s.cache.set now q value lifetime).2 }
        (r.set now q value lifetime).2 := by
  unfold Cache.set RecencyCache.set
  rw [h.keyFor_eq]
  split
  · exact ⟨rfl, h⟩
  · exact h.keep now (s.cache.keyFor q) value lifetime q.tables q.params

omit h in
theorem after {α : Type} {x : α × Cache} {y : α × RecencyCache}
    (hxy : x.1 = y.1 ∧ Mirrors { s with cache := x.2 } y.2) (answer : α → Answer) :
    (s.after answer x).1 = (y.map answer id).1 ∧ Mirrors (s.after answer x).2 (y.map answer id).2 :=
  ⟨congrArg answer hxy.1, hxy.2⟩

/-- Every call is answered alike. -/
theorem call (now : Nat) (c : Call) :
    (s.call now c).1 = (r.call now c).1 ∧ Mirrors (s.call now c).2 (r.call now c).2 := by
  cases c with
  | set q value lifetime => exact after (h.set now q value lifetime) .flag
  | get q =>
    show _ = ((r.lookUp now (r.keyFor q)).map Answer.found id).1 ∧
      Mirrors _ ((r.lookUp now (r.keyFor q)).map Answer.found id).2
    rw [h.keyFor_eq]
    exact after (h.lookUp now (s.cache.keyFor q)) .found
  | getKey key => exact after (h.lookUp now key) .found
  | reserve q => exact ⟨congrArg Answer.ticket (h.keyFor_eq q).symm, h.reserve q⟩
  | commit n value lifetime =>
    have hpromise : r.promises[n]? = s.tickets[n]?.map (Promise.of s.cache) := by
      rw [h.promises, List.getElem?_map]
    unfold Issuing.call RecencyCache.call
    simp only [hpromise]
    cases s.tickets[n]? with
    | none => exact ⟨rfl, h⟩
    | some t => exact after (h.commit now t value lifetime) .flag
  | invalidate p => exact after (h.invalidate p) .number
  | remove key => exact after (h.remove key) .flag
  | clear => exact after (h.invalidate .all) fun _ => .done
  | evictExpired => exact after (h.evictExpired now) .number

end Mirrors

/-- **A cache is a list by recency.** Whatever calls are made, and at whatever times, the cache gives the
answers of the list, and has its size and its counters after each. -/
theorem trace_eq_recency (config : CacheConfig) (calls : List (Nat × Call)) :
    trace Issuing.call Issuing.look (.start config) calls =
      trace RecencyCache.call RecencyCache.look (.start config) calls :=
  trace_eq Mirrors Mirrors.look_eq Mirrors.call (.start config) calls

end TableQuery.Cache
