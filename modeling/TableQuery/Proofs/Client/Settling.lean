import TableQuery.Client.Dispatch
import TableQuery.Proofs.Cache.Runs

/-! What a dispatch does to the cache.

Of the steps of a dispatch three touch the cache: the look-up (`lookup_eq`), the ticket (`reserve_eq`),
and the last one, which first drops what a write may have changed and then stores what a read has brought
(`cache_settle`). None of them lowers an epoch. -/
namespace TableQuery.Client

variable {c : Client} {cache : Cache} {now : Nat}

/-! ### The steps on the cache -/

theorem lookup_eq (hc : c.cache = some cache) (now : Nat) (r : Request) (options : Options) :
    c.lookup now r options =
      if usesCache r options then
        ((cache.get now r).1, { c with cache := some (cache.get now r).2 })
      else (none, c) := by
  unfold lookup
  rw [hc]

theorem reserve_eq (hc : c.cache = some cache) (r : Request) (options : Options) :
    c.reserve r options = if usesCache r options then some (cache.reserve r) else none := by
  unfold reserve
  rw [hc]
  rfl

theorem not_isWrite_of_usesCache {r : Request} {options : Options} (h : usesCache r options = true) :
    r.isWrite = false := by
  simp only [usesCache, Bool.and_eq_true, Bool.not_eq_true'] at h
  exact h.2

theorem not_usesCache_of_isWrite {r : Request} (h : r.isWrite = true) (options : Options) :
    usesCache r options = false := by
  simp [usesCache, h]

/-- A message goes out for the request it was made of, under the ticket that was taken. -/
theorem eq_of_send_sent {r : Request} {options : Options} {ticket : Option Cache.Ticket}
    {withdrawn : Bool} {d : Dispatch} {m : Http.Message}
    (h : (c.send r options ticket withdrawn).1 = .sent d m) : d = ⟨r, options, ticket⟩ := by
  unfold send at h
  split at h
  · exact nomatch h
  · split at h
    · exact nomatch h
    · exact (Start.sent.inj h).1.symm

/-- What is answered before sending is a failure. -/
theorem isOk_of_send_answered {r : Request} {options : Options} {ticket : Option Cache.Ticket}
    {withdrawn : Bool} {e : Envelope Json} (h : (c.send r options ticket withdrawn).1 = .answered e) :
    e.isOk = false := by
  unfold send at h
  split at h
  · exact Start.answered.inj h ▸ rfl
  · split at h
    · exact Start.answered.inj h ▸ rfl
    · exact nomatch h

theorem eq_of_start_sent {r : Request} {options : Options} {withdrawn : Bool} {d : Dispatch}
    {m : Http.Message} (h : (c.start now r options withdrawn).1 = .sent d m) :
    d = ⟨r, options, (c.lookup now r options).2.reserve r options⟩ := by
  unfold start at h
  split at h
  · exact nomatch h
  · next hl =>
    rw [hl]
    exact eq_of_send_sent h

theorem mayBeApplied_of_isOk {e : Envelope Json} (h : e.isOk = true) : mayBeApplied e = true := by
  cases e with
  | success data count status => rfl
  | failure error status => exact nomatch h

/-- Only a response can make a success. -/
theorem response_of_settle_isOk {d : Dispatch} {a : Arrival} {withdrawn : Bool}
    (h : (c.settle now d a withdrawn).1.isOk = true) :
    ∃ r, a = .response r ∧
      (c.settle now d a withdrawn).1 = (Envelope.ofResponse r).shape d.request.mode := by
  cases a with
  | response r => exact ⟨r, rfl, rfl⟩
  | networkFailure reason => exact nomatch h
  | timedOut => exact nomatch h
  | withdrawn => exact nomatch h

/-- What is left of a cache by a write with this outcome; all of it by a read. -/
def cacheLeft (cache : Cache) (r : Request) (e : Envelope Json) : Cache :=
  if r.isWrite && mayBeApplied e then (cache.invalidate (.table r.table)).2 else cache

/-- Stores an outcome under the ticket of its dispatch, unless it was withdrawn; says whether it was
stored. -/
def cacheStored (cache : Cache) (now : Nat) (d : Dispatch) (e : Envelope Json) (withdrawn : Bool) :
    Bool × Cache :=
  match d.ticket with
  | some t =>
    if e.isOk && !withdrawn then cache.commit now t e (storedLifetime d.options) else (false, cache)
  | none => (false, cache)

theorem cacheStored_refused {now : Nat} {d : Dispatch} {e : Envelope Json} {withdrawn : Bool}
    (h : (cacheStored cache now d e withdrawn).1 = false) :
    (cacheStored cache now d e withdrawn).2 = cache := by
  unfold cacheStored at h ⊢
  split at h
  · split at h
    · next hok => rw [if_pos hok]; exact Cache.commit_refused h
    · next hok => rw [if_neg hok]
  · rfl

theorem eq_of_cacheStored {now : Nat} {d : Dispatch} {e : Envelope Json} {withdrawn : Bool}
    (h : (cacheStored cache now d e withdrawn).1 = true) :
    ∃ t, d.ticket = some t ∧ e.isOk = true ∧
      cacheStored cache now d e withdrawn = cache.commit now t e (storedLifetime d.options) := by
  unfold cacheStored at h ⊢
  split at h
  · next t ht =>
    split at h
    · next hok => exact ⟨t, ht, (Bool.and_eq_true_iff.mp hok).1, by rw [if_pos hok]⟩
    · exact nomatch h
  · exact nomatch h

theorem cache_settle (hc : c.cache = some cache) (now : Nat) (d : Dispatch) (a : Arrival)
    (withdrawn : Bool) :
    (c.settle now d a withdrawn).2.cache =
      some (cacheStored (cacheLeft cache d.request (c.settle now d a withdrawn).1) now d
        (c.settle now d a withdrawn).1 withdrawn).2 := by
  have hdrop (e : Envelope Json) :
      (c.dropTable d.request e).cache = some (cacheLeft cache d.request e) := by
    unfold dropTable cacheLeft
    split
    · simp only [invalidate, hc]
    · exact hc
  simp only [settle]
  generalize ((outcome (c.waitingTime d.options) a).shape d.request.mode) = e
  unfold store cacheStored
  rw [hdrop]
  cases d.ticket with
  | none => cases withdrawn <;> exact hdrop e
  | some t => cases withdrawn <;> cases e.isOk <;> first | exact hdrop e | rfl

theorem follows_cacheLeft (cache : Cache) (r : Request) (e : Envelope Json) :
    cache.Follows (cacheLeft cache r e) := by
  unfold cacheLeft
  split
  · exact Cache.follows_invalidate cache _
  · exact .refl cache

theorem follows_cacheStored (cache : Cache) (now : Nat) (d : Dispatch) (e : Envelope Json)
    (withdrawn : Bool) : cache.Follows (cacheStored cache now d e withdrawn).2 := by
  unfold cacheStored
  split
  · split
    · exact Cache.follows_commit ..
    · exact .refl cache
  · exact .refl cache

/-! ### Beside the cache -/

/-- A look-up leaves a client as it is, but for the cache. -/
theorem client_lookup (c : Client) (now : Nat) (r : Request) (options : Options) :
    ∃ cache, (c.lookup now r options).2 = { c with cache := cache } := by
  unfold lookup
  split
  · split
    · exact ⟨_, rfl⟩
    · exact ⟨c.cache, rfl⟩
  · exact ⟨c.cache, rfl⟩

theorem client_settle (c : Client) (now : Nat) (d : Dispatch) (a : Arrival) (withdrawn : Bool) :
    ∃ cache, (c.settle now d a withdrawn).2 = { c with cache := cache } := by
  have hdrop (e : Envelope Json) : ∃ cache, c.dropTable d.request e = { c with cache := cache } := by
    unfold dropTable
    split
    · unfold invalidate
      split
      · exact ⟨c.cache, rfl⟩
      · exact ⟨_, rfl⟩
    · exact ⟨c.cache, rfl⟩
  have hstore (c : Client) (e : Envelope Json) : ∃ cache, c.store now d e = { c with cache := cache } := by
    unfold store
    split
    · split
      · exact ⟨_, rfl⟩
      · exact ⟨c.cache, rfl⟩
    · exact ⟨c.cache, rfl⟩
  obtain ⟨cache, hcache⟩ := hdrop ((outcome (c.waitingTime d.options) a).shape d.request.mode)
  simp only [settle, hcache]
  split
  · exact ⟨cache, rfl⟩
  · exact hstore { c with cache := cache } _

/-- A client of one address that sends nothing along with its requests. -/
def plain (cache : Cache) : Client where
  address := ⟨"http", some "localhost", "/", none, none, true⟩
  headers := []
  credentials := .none
  schema := none
  timeout := none
  cache := some cache
  sent := 0

end TableQuery.Client
