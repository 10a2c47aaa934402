import TableQuery.Proofs.Cache.Tickets

/-! A cache as its users see it, and a cache kept as one list.

Users make calls and get answers (`Issuing.call`); a ticket they know by its number only. What the answers
ought to be is said by a cache that keeps its slots in one list, the one used last in front
(`RecencyCache`): it has no counters for uses and no epochs, the end of the list is what goes first, and a
ticket is marked when an invalidation concerns it. -/
namespace TableQuery.Cache

/-! ### Calls and answers -/

/-- A call, a ticket being named by its number in the order they were handed out. -/
inductive Call where
  | set (r : Request) (value : Envelope Json) (lifetime : Option Duration)
  | get (r : Request)
  | getKey (key : String)
  | reserve (r : Request)
  | commit (ticket : Nat) (value : Envelope Json) (lifetime : Option Duration)
  | invalidate (p : Pattern)
  | remove (key : String)
  | clear
  | evictExpired

inductive Answer where
  | done
  | flag (b : Bool)
  | found (value : Option (Envelope Json))
  | number (n : Nat)
  /-- A ticket was handed out for this key. -/
  | ticket (key : String)

/-- What is seen of each call: its answer, and the size and the counters after it. -/
def trace {σ : Type} (call : σ → Nat → Call → Answer × σ) (look : σ → Nat × Stats) (s : σ) :
    List (Nat × Call) → List (Answer × Nat × Stats)
  | [] => []
  | (now, c) :: rest => ((call s now c).1, look (call s now c).2) :: trace call look (call s now c).2 rest

/-- Two machines answer alike if some relation between their states does so call by call. -/
theorem trace_eq {σ τ : Type} {call : σ → Nat → Call → Answer × σ} {call' : τ → Nat → Call → Answer × τ}
    {look : σ → Nat × Stats} {look' : τ → Nat × Stats} (R : σ → τ → Prop)
    (hlook : ∀ {s t}, R s t → look s = look' t)
    (hcall : ∀ {s t}, R s t → ∀ now c, (call s now c).1 = (call' t now c).1 ∧
      R (call s now c).2 (call' t now c).2)
    {s : σ} {t : τ} (h : R s t) (calls : List (Nat × Call)) :
    trace call look s calls = trace call' look' t calls := by
  induction calls generalizing s t with
  | nil => rfl
  | cons x rest ih =>
    obtain ⟨hanswer, hnext⟩ := hcall h x.1 x.2
    show (_, _) :: _ = (_, _) :: _
    rw [hanswer, hlook hnext, ih hnext]

/-- A cache with the tickets it has handed out, in their order. -/
structure Issuing where
  cache : Cache
  tickets : List Ticket

namespace Issuing

def start (config : CacheConfig) : Issuing := ⟨.empty config, []⟩

def look (s : Issuing) : Nat × Stats := (s.cache.size, s.cache.stats)

/-- Goes on with the cache an operation leaves, answering what it returns. -/
def after {α : Type} (s : Issuing) (answer : α → Answer) (x : α × Cache) : Answer × Issuing :=
  (answer x.1, { s with cache := x.2 })

def call (s : Issuing) (now : Nat) : Call → Answer × Issuing
  | .set r value lifetime => s.after .flag (s.cache.set now r value lifetime)
  | .get r => s.after .found (s.cache.get now r)
  | .getKey key => s.after .found (s.cache.getKey now key)
  | .reserve r => (.ticket (s.cache.keyFor r), { s with tickets := s.tickets ++ [s.cache.reserve r] })
  | .commit n value lifetime =>
    match s.tickets[n]? with
    | some t => s.after .flag (s.cache.commit now t value lifetime)
    | none => (.done, s)
  | .invalidate p => s.after .number (s.cache.invalidate p)
  | .remove key => s.after .flag (s.cache.remove key)
  | .clear => s.after (fun _ => .done) (s.cache.invalidate .all)
  | .evictExpired => s.after .number (s.cache.evictExpired now)

end Issuing

/-! ### One list -/

/-- An entry with its key, and without the number of its last use. -/
structure Slot where
  key : String
  value : Envelope Json
  storedAt : Nat
  lifetime : Duration
  tables : List String
  params : List Param

def Slot.isLive (now : Nat) (s : Slot) : Bool := now - s.storedAt < s.lifetime.micros

def Slot.matches (p : Pattern) (s : Slot) : Bool :=
  match p with
  | .all => true
  | .table name => name ∈ s.tables
  | .filter name column token => name ∈ s.tables ∧ (column, token) ∈ s.params

/-- A ticket that knows whether it has been made stale. -/
structure Promise where
  key : String
  tables : List String
  params : List Param
  stale : Bool

def Promise.mark (p : Pattern) (t : Promise) : Promise := { t with stale := t.stale || p.concerns t.tables }

structure RecencyCache where
  config : CacheConfig
  /-- The slot used last is in front. -/
  slots : List Slot
  promises : List Promise
  stats : Stats

namespace RecencyCache

def start (config : CacheConfig) : RecencyCache := ⟨config, [], [], ⟨0, 0, 0⟩⟩

def look (r : RecencyCache) : Nat × Stats := (r.slots.length, r.stats)

def keyFor (r : RecencyCache) (q : Request) : String :=
  match r.config.keyOf with
  | some f => f q
  | none => q.canonical

def others (r : RecencyCache) (key : String) : List Slot := r.slots.filter fun s => s.key ≠ key

def countMiss (r : RecencyCache) : RecencyCache :=
  { r with stats := { r.stats with misses := r.stats.misses + 1 } }

/-- A hit moves its slot to the front; an expired slot is dropped. -/
def lookUp (r : RecencyCache) (now : Nat) (key : String) : Option (Envelope Json) × RecencyCache :=
  match r.slots.find? fun s => s.key = key with
  | none => (none, r.countMiss)
  | some s =>
    if s.isLive now then
      (some s.value, { r with
        slots := s :: r.others key
        stats := { r.stats with hits := r.stats.hits + 1 } })
    else (none, { r with slots := r.others key }.countMiss)

/-- Drops slots from the back, each an eviction, while the list is at capacity. -/
def shed (capacity : Nat) (slots : List Slot) (stats : Stats) : List Slot × Stats :=
  if slots ≠ [] ∧ capacity ≤ slots.length then
    shed capacity slots.dropLast { stats with evictions := stats.evictions + 1 }
  else (slots, stats)
termination_by slots.length
decreasing_by
  rw [List.length_dropLast]
  exact Nat.sub_lt (List.length_pos_iff.mpr (And.left ‹_›)) Nat.one_pos

theorem shed_of_lt {capacity : Nat} {slots : List Slot} (h : slots.length < capacity) (stats : Stats) :
    shed capacity slots stats = (slots, stats) := by
  rw [shed, if_neg fun hfull => Nat.not_le.mpr h hfull.2]

theorem shed_of_le {capacity : Nat} {slots : List Slot} (hne : slots ≠ []) (h : capacity ≤ slots.length)
    (stats : Stats) : shed capacity slots stats =
      shed capacity slots.dropLast { stats with evictions := stats.evictions + 1 } := by
  rw [shed, if_pos ⟨hne, h⟩]

/-- Puts a slot in front in place of its key's old one, when it may be kept at all. -/
def keep (r : RecencyCache) (slot : Slot) : Bool × RecencyCache :=
  if slot.value.isOk ∧ 0 < r.config.capacity ∧ 0 < slot.lifetime.micros then
    let left := shed r.config.capacity (r.others slot.key) r.stats
    (true, { r with slots := slot :: left.1, stats := left.2 })
  else (false, r)

/-- Takes in the result of a read. -/
def set (r : RecencyCache) (now : Nat) (q : Request) (value : Envelope Json) (lifetime : Option Duration) :
    Bool × RecencyCache :=
  if q.isWrite then (false, r)
  else r.keep ⟨r.keyFor q, value, now, lifetime.getD r.config.lifetime, q.tables, q.params⟩

def reserve (r : RecencyCache) (q : Request) : Promise := ⟨r.keyFor q, q.tables, q.params, false⟩

def commit (r : RecencyCache) (now : Nat) (t : Promise) (value : Envelope Json)
    (lifetime : Option Duration) : Bool × RecencyCache :=
  if t.stale then (false, r)
  else r.keep ⟨t.key, value, now, lifetime.getD r.config.lifetime, t.tables, t.params⟩

def dropWhere (r : RecencyCache) (p : Slot → Bool) : Nat × RecencyCache :=
  (r.slots.countP p, { r with slots := r.slots.filter fun s => !p s })

def invalidate (r : RecencyCache) (p : Pattern) : Nat × RecencyCache :=
  { r with promises := r.promises.map (Promise.mark p) }.dropWhere (Slot.matches p)

def remove (r : RecencyCache) (key : String) : Bool × RecencyCache :=
  (r.slots.any fun s => s.key = key, { r with slots := r.others key })

def evictExpired (r : RecencyCache) (now : Nat) : Nat × RecencyCache := r.dropWhere fun s => !s.isLive now

def call (r : RecencyCache) (now : Nat) : Call → Answer × RecencyCache
  | .set q value lifetime => (r.set now q value lifetime).map .flag id
  | .get q => (r.lookUp now (r.keyFor q)).map .found id
  | .getKey key => (r.lookUp now key).map .found id
  | .reserve q => (.ticket (r.keyFor q), { r with promises := r.promises ++ [r.reserve q] })
  | .commit n value lifetime =>
    match r.promises[n]? with
    | some t => (r.commit now t value lifetime).map .flag id
    | none => (.done, r)
  | .invalidate p => (r.invalidate p).map .number id
  | .remove key => (r.remove key).map .flag id
  | .clear => (r.invalidate .all).map (fun _ => .done) id
  | .evictExpired => (r.evictExpired now).map .number id

end RecencyCache
end TableQuery.Cache
