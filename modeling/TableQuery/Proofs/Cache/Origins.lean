import Mathlib.Data.List.Forall2
import Mathlib.Data.List.Induction
import Mathlib.Logic.Function.Basic
import TableQuery.Proofs.Cache.Recency

/-! For which requests the entries of a cache were stored.

An entry does not tell which request its value was stored for, nor does a ticket whether its request was a
write. A `Ledger` keeps both beside the cache. By it every entry is a success that is to be kept for some time,
and was brought for the request on record (`Ledger.Sound`), and so is what a lookup finds. A write's own result
is refused when it is brought with the request; brought under a ticket it is not. So all that is ever stored or
found was brought for reads exactly if nothing was handed in, and accepted, under a ticket reserved for a write
(`Ledger.sound_and_ofReads_iff`). -/
namespace TableQuery.Cache

/-- A cache with its tickets, and beside it what it does not remember. -/
structure Ledger where
  issuing : Issuing
  /-- The requests the tickets were reserved for, in the order of the tickets. -/
  reserved : List Request
  /-- What was stored last under a key, and the request it was stored for. -/
  origin : String → Option (Request × Envelope Json)

namespace Ledger

def start (config : CacheConfig) : Ledger := ⟨.start config, [], fun _ => none⟩

def cache (l : Ledger) : Cache := l.issuing.cache

/-- What a call stores, if it stores something, and the request it stores it for. -/
def storing? (l : Ledger) (now : Nat) : Call → Option (Request × Envelope Json)
  | .set r value lifetime => if (l.cache.set now r value lifetime).1 then some (r, value) else none
  | .commit n value lifetime =>
    match l.issuing.tickets[n]?, l.reserved[n]? with
    | some t, some r => if (l.cache.commit now t value lifetime).1 then some (r, value) else none
    | _, _ => none
  | _ => none

def call (l : Ledger) (now : Nat) (c : Call) : Ledger where
  issuing := (l.issuing.call now c).2
  reserved :=
    match c with
    | .reserve r => l.reserved ++ [r]
    | _ => l.reserved
  origin :=
    match l.storing? now c with
    | some (r, value) => Function.update l.origin (l.cache.keyFor r) (some (r, value))
    | none => l.origin

def run (l : Ledger) (calls : List (Nat × Call)) : Ledger := calls.foldl (fun l c => l.call c.1 c.2) l

theorem run_concat (l : Ledger) (calls : List (Nat × Call)) (c : Nat × Call) :
    l.run (calls ++ [c]) = (l.run calls).call c.1 c.2 := by
  simp [run]

/-! ### Entries and lookups -/

/-- An entry is a success, to be kept for some time, and what the ledger has on record under its key. -/
structure Entered (origin : String → Option (Request × Envelope Json)) (x : String × Entry) : Prop where
  success : x.2.value.isOk = true
  lifetime : x.2.lifetime.micros ≠ 0
  recorded : ∃ r, origin x.1 = some (r, x.2.value) ∧ x.2.tables = r.tables ∧ x.2.params = r.params

/-- Every entry is a success on record, and so is what is found. -/
structure Sound (l : Ledger) : Prop where
  entries : ∀ x ∈ l.cache.entries, Entered l.origin x
  lookups : ∀ now key value, (l.cache.getKey now key).1 = some value →
    value.isOk = true ∧ ∃ r, l.origin key = some (r, value)

/-- No entry was stored for a write, and what was stored for one is not found. -/
structure OfReads (l : Ledger) : Prop where
  entries : ∀ x ∈ l.cache.entries, ∀ r value, l.origin x.1 = some (r, value) → r.isWrite = false
  lookups : ∀ now key value r, (l.cache.getKey now key).1 = some value → l.origin key = some (r, value) →
    r.isWrite = false

/-- The call hands a result in under a ticket that was reserved for a write, and it is stored. -/
def CommitsWrite (l : Ledger) (now : Nat) (c : Call) : Prop :=
  ∃ n value lifetime t r, c = .commit n value lifetime ∧ l.issuing.tickets[n]? = some t ∧
    l.reserved[n]? = some r ∧ r.isWrite = true ∧ (l.cache.commit now t value lifetime).1 = true

/-- What holds after each call: the tickets are those of the requests on record, and the contents are. -/
structure Kept (l : Ledger) : Prop where
  tickets : List.Forall₂ (fun t r => t.key = l.cache.keyFor r ∧ t.tables = r.tables ∧ t.params = r.params)
    l.issuing.tickets l.reserved
  contents : ∀ x ∈ l.cache.contents, Entered l.origin x

theorem kept_start (config : CacheConfig) : (start config).Kept := ⟨.nil, fun _ hx => nomatch hx⟩

theorem Kept.sound {l : Ledger} (h : l.Kept) : l.Sound := by
  have hentries (x : String × Entry) (hx : x ∈ l.cache.entries) : Entered l.origin x := by
    have hentered := h.contents (x.1, x.2.unused) (mem_contents.mpr ⟨x.2, hx, rfl⟩)
    exact ⟨hentered.success, hentered.lifetime, hentered.recorded⟩
  refine ⟨hentries, fun now key value hfound => ?_⟩
  obtain ⟨e, he, rfl, -⟩ := find?_of_getKey hfound
  have hentered := hentries _ (mem_of_find? he)
  exact ⟨hentered.success, hentered.recorded.imp fun r hr => hr.1⟩

/-! ### One call -/

theorem keyFor_congr {c d : Cache} (h : d.config = c.config) (r : Request) : d.keyFor r = c.keyFor r := by
  simp only [keyFor, h]

namespace Kept
variable {l : Ledger} (h : l.Kept)
include h

/-- Calls that store nothing take nothing off the record. -/
theorem of_subset {after : Ledger} (htickets : after.issuing.tickets = l.issuing.tickets)
    (hreserved : after.reserved = l.reserved) (horigin : after.origin = l.origin)
    (hconfig : after.cache.config = l.cache.config) (hcontents : after.cache.contents ⊆ l.cache.contents) :
    after.Kept where
  tickets := by
    rw [htickets, hreserved]
    exact h.tickets.imp fun t r ht => ⟨ht.1.trans (keyFor_congr hconfig r).symm, ht.2⟩
  contents x hx := horigin ▸ h.contents x (hcontents hx)

theorem of_cache_eq {after : Ledger} (htickets : after.issuing.tickets = l.issuing.tickets)
    (hreserved : after.reserved = l.reserved) (horigin : after.origin = l.origin)
    (hcache : after.cache = l.cache) : after.Kept :=
  h.of_subset htickets hreserved horigin (congrArg Cache.config hcache) (hcache ▸ List.Subset.refl _)

/-- What is stored for a request goes on record under its key. -/
theorem of_store {after : Ledger} {now : Nat} {r : Request} {value : Envelope Json}
    {lifetime : Option Duration}
    (hstored : (l.cache.store now (l.cache.keyFor r) value lifetime r.tables r.params).1 = true)
    (htickets : after.issuing.tickets = l.issuing.tickets) (hreserved : after.reserved = l.reserved)
    (horigin : after.origin = Function.update l.origin (l.cache.keyFor r) (some (r, value)))
    (hcache : after.cache = (l.cache.store now (l.cache.keyFor r) value lifetime r.tables r.params).2) :
    after.Kept where
  tickets := by
    have hconfig : after.cache.config = l.cache.config := by rw [hcache, config_store]
    rw [htickets, hreserved]
    exact h.tickets.imp fun t r ht => ⟨ht.1.trans (keyFor_congr hconfig r).symm, ht.2⟩
  contents x hx := by
    have hrefuses := not_refuses_of_store _ _ _ _ _ _ _ hstored
    simp only [refuses, Bool.or_eq_false_iff, Bool.not_eq_false', decide_eq_false_iff_not] at hrefuses
    rw [hcache] at hx
    rw [horigin]
    rcases eq_or_mem_of_store _ _ _ _ _ _ _ hstored hx with rfl | ⟨hkey, hx⟩
    · exact ⟨hrefuses.1.1, hrefuses.2, r, Function.update_self .., rfl, rfl⟩
    · have hentered := h.contents x hx
      refine ⟨hentered.success, hentered.lifetime, ?_⟩
      rw [Function.update_of_ne hkey]
      exact hentered.recorded

/-- A ticket is for what its request on record says. -/
theorem ticket {n : Nat} {t : Ticket} (ht : l.issuing.tickets[n]? = some t) :
    ∃ r, l.reserved[n]? = some r ∧ t.key = l.cache.keyFor r ∧ t.tables = r.tables ∧ t.params = r.params := by
  obtain ⟨hn, rfl⟩ := List.getElem?_eq_some_iff.mp ht
  have hreserved : n < l.reserved.length := h.tickets.length_eq ▸ hn
  exact ⟨l.reserved[n], List.getElem?_eq_getElem hreserved, h.tickets.get hn hreserved⟩

/-- A ticket hands in what setting its request would store. -/
theorem commit_eq {n : Nat} {t : Ticket} {r : Request} (ht : l.issuing.tickets[n]? = some t)
    (hr : l.reserved[n]? = some r) (hfresh : t.isStale l.cache = false) (now : Nat) (value : Envelope Json)
    (lifetime : Option Duration) : l.cache.commit now t value lifetime =
      l.cache.store now (l.cache.keyFor r) value lifetime r.tables r.params := by
  obtain ⟨r', hr', hkey, htables, hparams⟩ := h.ticket ht
  obtain rfl : r' = r := Option.some_inj.mp (hr'.symm.trans hr)
  rw [commit_of_not_stale hfresh, hkey, htables, hparams]

theorem set (now : Nat) (r : Request) (value : Envelope Json) (lifetime : Option Duration) :
    (l.call now (.set r value lifetime)).Kept := by
  cases hstored : (l.cache.set now r value lifetime).1 with
  | false =>
    have horigin : l.storing? now (.set r value lifetime) = none := by simp [storing?, hstored]
    exact h.of_cache_eq rfl rfl (by simp only [Ledger.call, horigin]) (set_refused hstored)
  | true =>
    have horigin : l.storing? now (.set r value lifetime) = some (r, value) := by simp [storing?, hstored]
    have hset := set_of_not_isWrite (not_isWrite_of_set hstored) l.cache now value lifetime
    exact h.of_store (hset ▸ hstored) rfl rfl (by simp only [Ledger.call, horigin]) (congrArg Prod.snd hset)

theorem commit (now n : Nat) (value : Envelope Json) (lifetime : Option Duration) :
    (l.call now (.commit n value lifetime)).Kept := by
  cases ht : l.issuing.tickets[n]? with
  | none =>
    have hcall : l.issuing.call now (.commit n value lifetime) = (.done, l.issuing) := by
      simp only [Issuing.call, ht]
    have horigin : l.storing? now (.commit n value lifetime) = none := by simp [storing?, ht]
    refine h.of_cache_eq ?_ rfl (by simp only [Ledger.call, horigin]) ?_ <;>
      simp only [Ledger.call, cache, hcall]
  | some t =>
    obtain ⟨r, hr, -⟩ := h.ticket ht
    have hcall : l.issuing.call now (.commit n value lifetime) =
        l.issuing.after .flag (l.cache.commit now t value lifetime) := by
      simp only [Issuing.call, ht, cache]
    have hcache : (l.call now (.commit n value lifetime)).cache = (l.cache.commit now t value lifetime).2 := by
      simp only [Ledger.call, cache, hcall, Issuing.after]
    have htickets : (l.call now (.commit n value lifetime)).issuing.tickets = l.issuing.tickets := by
      simp only [Ledger.call, hcall, Issuing.after]
    cases hstored : (l.cache.commit now t value lifetime).1 with
    | false =>
      have horigin : l.storing? now (.commit n value lifetime) = none := by simp [storing?, ht, hr, hstored]
      exact h.of_cache_eq htickets rfl (by simp only [Ledger.call, horigin])
        (hcache.trans (commit_refused hstored))
    | true =>
      have horigin : l.storing? now (.commit n value lifetime) = some (r, value) := by
        simp [storing?, ht, hr, hstored]
      have hcommit := h.commit_eq ht hr (not_stale_of_commit hstored) now value lifetime
      exact h.of_store (hcommit ▸ hstored) htickets rfl (by simp only [Ledger.call, horigin])
        (hcache.trans (congrArg Prod.snd hcommit))

theorem call (now : Nat) (c : Call) : (l.call now c).Kept := by
  cases c with
  | set r value lifetime => exact h.set now r value lifetime
  | get r =>
    exact h.of_subset rfl rfl rfl (config_getKey ..) (contents_getKey_subset ..)
  | getKey key =>
    exact h.of_subset rfl rfl rfl (config_getKey ..) (contents_getKey_subset ..)
  | reserve r =>
    exact ⟨List.rel_append h.tickets (.cons ⟨rfl, tables_reserve .., rfl⟩ .nil), h.contents⟩
  | commit n value lifetime => exact h.commit now n value lifetime
  | invalidate p => exact h.of_subset rfl rfl rfl (config_invalidate ..) (contents_invalidate_subset ..)
  | remove key => exact h.of_subset rfl rfl rfl rfl (contents_erase_subset ..)
  | clear => exact h.of_subset rfl rfl rfl (config_invalidate ..) (contents_invalidate_subset ..)
  | evictExpired => exact h.of_subset rfl rfl rfl rfl (contents_evictExpired_subset ..)

/-- What a write's ticket brought in is there, and known to be a write's. -/
theorem not_ofReads {now : Nat} {c : Call} (hwrite : l.CommitsWrite now c) : ¬(l.call now c).OfReads := by
  obtain ⟨n, value, lifetime, t, r, rfl, ht, hr, hwrite, hstored⟩ := hwrite
  have hcommit := h.commit_eq ht hr (not_stale_of_commit hstored) now value lifetime
  have hcache : (l.call now (.commit n value lifetime)).cache = (l.cache.commit now t value lifetime).2 := by
    simp only [Ledger.call, cache, Issuing.call, ht, Issuing.after]
  have horigin : (l.call now (.commit n value lifetime)).origin (l.cache.keyFor r) = some (r, value) := by
    have hstoring : l.storing? now (.commit n value lifetime) = some (r, value) := by
      simp [storing?, ht, hr, hstored]
    simp only [Ledger.call, hstoring, Function.update_self]
  have hfound := find?_store _ _ _ _ _ _ _ (hcommit ▸ hstored)
  rw [← hcommit, ← hcache] at hfound
  obtain ⟨e, he⟩ := Option.isSome_iff_exists.mp hfound
  intro hreads
  rw [hreads.entries _ (mem_of_find? he) r value horigin] at hwrite
  exact nomatch hwrite

end Kept

theorem not_isWrite_of_storing? {l : Ledger} {now : Nat} {c : Call} {r : Request} {value : Envelope Json}
    (hstoring : l.storing? now c = some (r, value)) (hreads : ¬l.CommitsWrite now c) : r.isWrite = false := by
  cases c with
  | set r' value' lifetime =>
    obtain ⟨hstored, heq⟩ := Option.ite_none_right_eq_some.mp hstoring
    obtain ⟨rfl, rfl⟩ := Prod.mk.inj (Option.some_inj.mp heq)
    exact not_isWrite_of_set hstored
  | commit n value' lifetime =>
    unfold storing? at hstoring
    dsimp only at hstoring
    split at hstoring
    · next t r' ht hr =>
      obtain ⟨hstored, heq⟩ := Option.ite_none_right_eq_some.mp hstoring
      obtain ⟨rfl, rfl⟩ := Prod.mk.inj (Option.some_inj.mp heq)
      by_contra hwrite
      exact hreads ⟨n, _, lifetime, t, _, rfl, ht, hr, by simpa using hwrite, hstored⟩
    · exact nomatch hstoring
  | _ => exact nomatch hstoring

/-- Whatever is on record is on record for a read. -/
def RecordsReads (l : Ledger) : Prop := ∀ key r value, l.origin key = some (r, value) → r.isWrite = false

theorem RecordsReads.ofReads {l : Ledger} (h : l.RecordsReads) : l.OfReads :=
  ⟨fun x _ r value hr => h x.1 r value hr, fun _ key value r _ hr => h key r value hr⟩

theorem RecordsReads.call {l : Ledger} (h : l.RecordsReads) {now : Nat} {c : Call}
    (hreads : ¬l.CommitsWrite now c) : (l.call now c).RecordsReads := by
  intro key r value hr
  cases hstoring : l.storing? now c with
  | none =>
    simp only [Ledger.call, hstoring] at hr
    exact h key r value hr
  | some stored =>
    simp only [Ledger.call, hstoring] at hr
    by_cases hkey : key = l.cache.keyFor stored.1
    · rw [hkey, Function.update_self, Option.some_inj] at hr
      obtain rfl : stored = (r, value) := hr
      exact not_isWrite_of_storing? hstoring hreads
    · rw [Function.update_of_ne hkey] at hr
      exact h key r value hr

/-! ### Runs -/

theorem kept_run (config : CacheConfig) (calls : List (Nat × Call)) : ((start config).run calls).Kept := by
  induction calls using List.reverseRecOn with
  | nil => exact kept_start config
  | append_singleton calls c ih => exact run_concat _ calls c ▸ ih.call c.1 c.2

/-- **Only successes are stored, and only tickets let a write's in.** After any calls every entry and every
answer to a lookup is a success on record, to be kept for some time. In no state on the way has one been stored
for a write exactly if no call on the way hands in what is stored under a ticket that was reserved for a
write. -/
theorem sound_and_ofReads_iff (config : CacheConfig) (calls : List (Nat × Call)) :
    ((start config).run calls).Sound ∧
      ((∀ first later, calls = first ++ later → ((start config).run first).OfReads) ↔
        ∀ first c later, calls = first ++ c :: later →
          ¬((start config).run first).CommitsWrite c.1 c.2) := by
  refine ⟨(kept_run config calls).sound, fun hreads first c later hcalls hwrite => ?_, ?_⟩
  · refine (kept_run config first).not_ofReads hwrite ?_
    rw [← run_concat]
    exact hreads (first ++ [c]) later (by simp [hcalls])
  · intro hnone first later hcalls
    refine RecordsReads.ofReads ?_
    induction first using List.reverseRecOn generalizing later with
    | nil => exact fun _ _ _ hr => nomatch hr
    | append_singleton first c ih =>
      have hcalls : calls = first ++ c :: later := by simpa using hcalls
      rw [run_concat]
      exact (ih (c :: later) hcalls).call (hnone first c later hcalls)

/-- The result of an insert, handed in under a ticket that was reserved for the insert: it is an entry, and the
next lookup finds it. Brought with the insert itself, it is refused. -/
theorem created_row_is_found :
    let insertion : Request := ⟨"t", none, .post, .many, [], [], none, ["t"]⟩
    let created : Envelope Json := .success (some (.arr [.bool true])) none 201
    let l := (start .standard).run [(0, .reserve insertion), (0, .commit 0 created none)]
    insertion.method = .post ∧ l.origin "t|many|POST||" = some (insertion, created) ∧
      (l.cache.get 1 insertion).1 = some created ∧
      ((start .standard).cache.set 0 insertion created none).1 = false := by
  exact ⟨rfl, rfl, rfl, rfl⟩

end Ledger
end TableQuery.Cache
