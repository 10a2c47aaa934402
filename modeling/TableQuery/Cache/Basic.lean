import TableQuery.Envelope
import TableQuery.Query.Basic

/-! Results kept for reads that come again.

An entry is stored under a key, the canonical text of its read unless the configuration derives
another. It is good until its lifetime is over, counted from when it was stored, and remembers the
tables it was read from, so that a write can drop it. Where there is no room, the entry whose last use
lies furthest back goes.

A read that misses reserves a ticket before it is sent. Each invalidation raises the epoch of the table
it names, or the epoch of the whole cache; a ticket whose epochs have been raised since is stale, and
what was read under it is not stored (`Ticket.isStale`). -/
namespace TableQuery

structure CacheConfig where
  lifetime : Duration
  /-- How many entries are kept; zero keeps none. -/
  capacity : Nat
  /-- How keys are derived from requests, where not by their canonical text. -/
  keyOf : Option (Request → String)

def CacheConfig.standard : CacheConfig := ⟨.ofSeconds 60, 1000, none⟩

namespace Cache

structure Entry where
  value : Envelope Json
  /-- When the entry was stored, in microseconds. -/
  storedAt : Nat
  lifetime : Duration
  /-- The number of the use that was made of it last. -/
  lastUse : Nat
  tables : List String
  params : List Param

def Entry.isExpired (e : Entry) (now : Nat) : Bool := e.lifetime.micros ≤ now - e.storedAt

/-- Which entries an invalidation drops. -/
inductive Pattern where
  | all
  | table (name : String)
  /-- Entries of a table whose request has exactly this filter parameter. -/
  | filter (table column token : String)
deriving Repr, DecidableEq

def Pattern.matches (p : Pattern) (e : Entry) : Bool :=
  match p with
  | .all => true
  | .table name => e.tables.contains name
  | .filter name column token => e.tables.contains name && e.params.contains (column, token)

structure Stats where
  hits : Nat
  misses : Nat
  evictions : Nat
deriving Repr, DecidableEq

/-- Taken before a read is sent, and handed in with what it returned. -/
structure Ticket where
  key : String
  params : List Param
  globalEpoch : Nat
  /-- Every table of the read with its epoch at the time. -/
  tableEpochs : List (String × Nat)
deriving Repr, DecidableEq

end Cache

structure Cache where
  config : CacheConfig
  entries : List (String × Cache.Entry)
  /-- How many uses have been made of entries so far. -/
  uses : Nat
  globalEpoch : Nat
  tableEpochs : List (String × Nat)
  stats : Cache.Stats

namespace Cache

def empty (config : CacheConfig) : Cache := ⟨config, [], 0, 0, [], ⟨0, 0, 0⟩⟩

def size (c : Cache) : Nat := c.entries.length

def keyFor (c : Cache) (r : Request) : String :=
  match c.config.keyOf with
  | some f => f r
  | none => r.canonical

def find? (c : Cache) (key : String) : Option Entry :=
  (c.entries.find? fun e => e.1 == key).map Prod.snd

/-- Drops the entries that satisfy `p`. -/
def dropWhere (c : Cache) (p : String → Entry → Bool) : Cache :=
  { c with entries := c.entries.filter fun e => !p e.1 e.2 }

def erase (c : Cache) (key : String) : Cache := c.dropWhere fun k _ => k == key

def countMiss (c : Cache) : Cache := { c with stats := { c.stats with misses := c.stats.misses + 1 } }

def countHit (c : Cache) : Cache := { c with stats := { c.stats with hits := c.stats.hits + 1 } }

/-- Marks an entry as the last one used. -/
def touch (c : Cache) (key : String) : Cache :=
  { c with
    uses := c.uses + 1
    entries := c.entries.map fun e =>
      if e.1 = key then (e.1, { e.2 with lastUse := c.uses + 1 }) else e }

/-- Looks a key up. An entry past its lifetime is dropped and counts as a miss. -/
def getKey (c : Cache) (now : Nat) (key : String) : Option (Envelope Json) × Cache :=
  match c.find? key with
  | none => (none, c.countMiss)
  | some e =>
    if e.isExpired now then (none, (c.erase key).countMiss)
    else (some e.value, (c.touch key).countHit)

def get (c : Cache) (now : Nat) (r : Request) : Option (Envelope Json) × Cache :=
  c.getKey now (c.keyFor r)

/-- The key of the entry whose last use lies furthest back. -/
def oldest? : List (String × Entry) → Option (String × Nat)
  | [] => none
  | (k, e) :: rest =>
    match oldest? rest with
    | none => some (k, e.lastUse)
    | some (k', use) => if e.lastUse < use then some (k, e.lastUse) else some (k', use)

def evictOldest (c : Cache) : Cache :=
  match oldest? c.entries with
  | none => c
  | some (key, _) =>
    { c.erase key with stats := { c.stats with evictions := c.stats.evictions + 1 } }

/-- Evicts until there is room for one entry more. -/
def makeRoom (c : Cache) : Nat → Cache
  | 0 => c
  | n + 1 => if c.config.capacity ≤ c.size then c.evictOldest.makeRoom n else c

/-- Stores an entry unless it is a failure, nothing is to be kept, or its lifetime is nothing. -/
def store (c : Cache) (now : Nat) (key : String) (value : Envelope Json) (lifetime : Option Duration)
    (tables : List String) (params : List Param) : Bool × Cache :=
  let lifetime := lifetime.getD c.config.lifetime
  if !value.isOk || c.config.capacity = 0 || lifetime.micros = 0 then (false, c)
  else
    let c := c.erase key
    let c := c.makeRoom c.size
    let entry : Entry := ⟨value, now, lifetime, c.uses + 1, tables, params⟩
    (true, { c with uses := c.uses + 1, entries := (key, entry) :: c.entries })

/-- Stores the result of a read; a write's is refused. -/
def set (c : Cache) (now : Nat) (r : Request) (value : Envelope Json) (lifetime : Option Duration) :
    Bool × Cache :=
  if r.isWrite then (false, c)
  else c.store now (c.keyFor r) value lifetime r.tables r.params

/-! ### Epochs -/

def tableEpoch (c : Cache) (table : String) : Nat :=
  ((c.tableEpochs.find? fun e => e.1 == table).map Prod.snd).getD 0

def raiseIn (table : String) : List (String × Nat) → List (String × Nat)
  | [] => [(table, 1)]
  | (t, n) :: rest => if t = table then (t, n + 1) :: rest else (t, n) :: raiseIn table rest

/-- Raises the epoch of what a pattern names. -/
def raise (c : Cache) : Pattern → Cache
  | .all => { c with globalEpoch := c.globalEpoch + 1 }
  | .table name => { c with tableEpochs := raiseIn name c.tableEpochs }
  | .filter table _ _ => { c with tableEpochs := raiseIn table c.tableEpochs }

def reserve (c : Cache) (r : Request) : Ticket where
  key := c.keyFor r
  params := r.params
  globalEpoch := c.globalEpoch
  tableEpochs := r.tables.map fun t => (t, c.tableEpoch t)

/-- Whether an invalidation has touched one of the ticket's tables, or everything, since. -/
def Ticket.isStale (t : Ticket) (c : Cache) : Bool :=
  c.globalEpoch != t.globalEpoch || t.tableEpochs.any fun e => c.tableEpoch e.1 != e.2

/-- Stores what was read under a ticket, unless the ticket is stale. -/
def commit (c : Cache) (now : Nat) (t : Ticket) (value : Envelope Json) (lifetime : Option Duration) :
    Bool × Cache :=
  if t.isStale c then (false, c)
  else c.store now t.key value lifetime (t.tableEpochs.map Prod.fst) t.params

/-- Drops the entries a pattern matches; gives how many there were. -/
def invalidate (c : Cache) (p : Pattern) : Nat × Cache :=
  ((c.entries.filter fun e => p.matches e.2).length, (c.raise p).dropWhere fun _ e => p.matches e)

def remove (c : Cache) (key : String) : Bool × Cache := ((c.find? key).isSome, c.erase key)

/-- Drops every entry past its lifetime; gives how many there were. -/
def evictExpired (c : Cache) (now : Nat) : Nat × Cache :=
  ((c.entries.filter fun e => e.2.isExpired now).length, c.dropWhere fun _ e => e.isExpired now)

theorem raise_all_globalEpoch (c : Cache) : (c.raise .all).globalEpoch = c.globalEpoch + 1 := rfl

theorem tableEpoch_raise_self (c : Cache) (name : String) :
    (c.raise (.table name)).tableEpoch name = c.tableEpoch name + 1 := by
  unfold tableEpoch raise
  simp only
  induction c.tableEpochs with
  | nil => simp [raiseIn]
  | cons e rest ih =>
    obtain ⟨t, n⟩ := e
    unfold raiseIn
    by_cases h : t = name
    · simp [h]
    · simp [h, ih]

end Cache
end TableQuery
