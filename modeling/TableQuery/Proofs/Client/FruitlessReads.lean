import TableQuery.Proofs.Client.Flight

/-! What reads that come to nothing leave in the cache.

A read looks into the cache once, and stores at most once: when it settles. The calls on the cache in the
course of a flight are therefore those of others with the look-up in between (`cacheCalls`), and the
dispatch adds one of its own only where a response was there, made a success, and was not withdrawn
(`HasStored`). That it was there in time is for the clock to see to: a dispatch that waits is looked after at
its limit at the latest (`isPunctual`), which nothing here can force. Whatever else happens, in whatever
order, leaves nothing behind (`cache_of_fruitless`): not an entry, not an epoch, and so no ticket that it has
made stale. -/
namespace TableQuery.Client

/-- The call that somebody else makes on the cache. -/
def Event.call? : Event → Option Cache.Op
  | .call op => some op
  | _ => none

def Event.isLook : Event → Bool
  | .look _ => true
  | _ => false

namespace Flight

/-! ### The calls of others and the look-up -/

/-- The calls on the cache that a flight comes by: those of others and, with its first look, the look-up. -/
def cacheCalls (key? : Option String) : List Event → List Cache.Op
  | [] => []
  | .look l :: events => key?.toList.map (.getKey l.now) ++ events.filterMap Event.call?
  | e :: events => e.call?.toList ++ cacheCalls key? events

/-- What one event more adds to the calls. -/
def callsOf (key? : Option String) (before : List Event) : Event → List Cache.Op
  | .look l => if before.any Event.isLook then [] else key?.toList.map (.getKey l.now)
  | e => e.call?.toList

theorem cacheCalls_concat (key? : Option String) (before : List Event) (e : Event) :
    cacheCalls key? (before ++ [e]) = cacheCalls key? before ++ callsOf key? before e := by
  induction before with
  | nil => cases e <;> simp [cacheCalls, callsOf, Event.call?]
  | cons first before ih =>
    cases first with
    | look l => cases e <;> simp [cacheCalls, callsOf, Event.call?, Event.isLook]
    | withdraw | call op | otherSend =>
      simp only [List.cons_append, cacheCalls, ih, List.append_assoc]
      cases e <;> simp [callsOf, Event.isLook]

/-- The key a read is looked up under, if it is looked up. -/
def lookupKey? (cache : Cache) (r : Request) (options : Options) : Option String :=
  if usesCache r options then some (cache.keyFor r) else none

theorem cacheCalls_first {key? : Option String} {before : List Event} (h : before.any Event.isLook = false)
    (l : Look) : cacheCalls key? (before ++ [.look l]) =
      cacheCalls key? before ++ key?.toList.map (.getKey l.now) := by
  rw [cacheCalls_concat, callsOf, h]
  rfl

theorem cacheCalls_later {key? : Option String} {before : List Event} (h : before.any Event.isLook = true)
    (l : Look) : cacheCalls key? (before ++ [.look l]) = cacheCalls key? before := by
  rw [cacheCalls_concat, callsOf, h]
  exact List.append_nil _

theorem cacheCalls_aside {key? : Option String} {before : List Event} {e : Event} (h : e.isLook = false) :
    cacheCalls key? (before ++ [e]) = cacheCalls key? before ++ e.call?.toList := by
  rw [cacheCalls_concat]
  cases e with
  | look l => exact nomatch h
  | withdraw | call op | otherSend => rfl

/-! ### Looks in time -/

/-- While a dispatch waits, a look after it comes by its limit. -/
def isInTime (f : Flight) : Event → Bool
  | .look l =>
    match f.stage with
    | .waiting _ since => (f.limit since).all (l.time ≤ ·)
    | _ => true
  | _ => true

/-- What a dispatch relies on the clock for: it is woken at its limit and looked after then, if not before. -/
def isPunctual (f : Flight) : List Event → Bool
  | [] => true
  | e :: events => f.isInTime e && (f.step e).all (·.isPunctual events)

theorem isPunctual_concat {start f : Flight} {before : List Event} {e : Event} (hrun : start.run before = some f)
    (h : start.isPunctual (before ++ [e]) = true) : start.isPunctual before = true ∧ f.isInTime e = true := by
  induction before generalizing start with
  | nil =>
    obtain rfl := Option.some.inj hrun
    exact ⟨rfl, (Bool.and_eq_true_iff.mp h).1⟩
  | cons first before ih =>
    obtain ⟨f', hstep, hrun⟩ := Option.bind_eq_some_iff.mp hrun
    obtain ⟨hfirst, hrest⟩ := Bool.and_eq_true_iff.mp h
    rw [hstep] at hrest
    obtain ⟨hbefore, he⟩ := ih hrun hrest
    exact ⟨Bool.and_eq_true_iff.mpr ⟨hfirst, by rw [hstep]; exact hbefore⟩, he⟩

theorem le_limit_of_isInTime {f : Flight} {l : Look} {ticket : Option Cache.Ticket} {since : Nat}
    (hs : f.stage = .waiting ticket since) (h : f.isInTime (.look l) = true) :
    ∀ n, f.limit since = some n → l.time ≤ n := by
  intro n hn
  simp only [isInTime, hs, hn, Option.all_some, decide_eq_true_eq] at h
  exact h

/-- A look comes no later than the limit of the waiting. -/
def InTime (f : Flight) (l : Look) : Prop := ∃ s ∈ f.sent, ∀ n, f.limit s.1 = some n → l.time ≤ n

/-- One of these looks found a response in time, if none came too late. -/
def Heard (start : Flight) (events : List Event) (f : Flight) : Prop :=
  start.isPunctual events = true → ∃ l r, Event.look l ∈ events ∧ l.reply = some (.response r) ∧ f.InTime l

/-! ### What is stored, and what is not -/

/-- A success that a response made and that was not withdrawn. -/
structure HasStored (start : Flight) (events : List Event) (f : Flight) : Prop where
  kept : f.withdrawn = false
  landed : ∃ e, f.stage = .landed e ∧ e.isOk = true
  heard : start.Heard events f

/-- Why nothing comes of a read: its caller has withdrawn it, it is looked after in time and finds a response only
after its limit, if at all, or what it lands with is a failure. -/
inductive Fruitless (start : Flight) (events : List Event) (f : Flight) : Prop where
  | withdrawn (h : f.withdrawn = true)
  | unheard (hpunctual : start.isPunctual events = true)
      (h : ∀ l r, Event.look l ∈ events → l.reply = some (.response r) →
        ∀ s ∈ f.sent, ∃ n, f.limit s.1 = some n ∧ n < l.time)
  | failed (h : ∀ e, f.stage = .landed e → e.isOk = false)

theorem Fruitless.not_hasStored {start f : Flight} {events : List Event} (h : Fruitless start events f) :
    ¬HasStored start events f := by
  intro hstored
  cases h with
  | withdrawn h => exact nomatch hstored.kept.symm.trans h
  | unheard hpunctual h =>
    obtain ⟨l, r, hl, hr, s, hs, hlimit⟩ := hstored.heard hpunctual
    obtain ⟨n, hn, hlt⟩ := h l r hl hr s hs
    exact Nat.not_lt.mpr (hlimit n hn) hlt
  | failed h =>
    obtain ⟨e, he, hok⟩ := hstored.landed
    exact nomatch hok.symm.trans (h e he)

theorem not_withdrawn_of_cacheStored {cache : Cache} {now : Nat} {d : Dispatch} {e : Envelope Json}
    {withdrawn : Bool} (h : (cacheStored cache now d e withdrawn).1 = true) : withdrawn = false := by
  cases withdrawn with
  | false => rfl
  | true =>
    unfold cacheStored at h
    split at h
    · simp at h
    · exact nomatch h

/-- What is known of a read after these events. -/
structure Traced (start : Flight) (cache : Cache) (key? : Option String) (before : List Event) (f : Flight) :
    Prop where
  begun : f.stage = .ready ↔ before.any Event.isLook = false
  since : ∀ ticket since, f.stage = .waiting ticket since → ∃ m, (since, m) ∈ f.sent
  heard : ∀ ticket r, f.stage = .arrived ticket (.response r) → start.Heard before f
  cache : f.client.cache = some (cache.run (cacheCalls key? before)) ∨ start.HasStored before f

section Steps
variable {start f g : Flight} {c : Client} {cache : Cache} {r : Request} {options : Options} {l : Look}
  {before : List Event} {e : Event} {key? : Option String}

theorem InTime.congr (hf : f.Of c r options) (hg : g.Of c r options) (hsent : f.sent ⊆ g.sent) (h : f.InTime l) :
    g.InTime l := by
  obtain ⟨s, hs, hlimit⟩ := h
  refine ⟨s, hsent hs, fun n hn => hlimit n ?_⟩
  rw [hf.limit, ← hg.limit, hn]

theorem Heard.mono (hrun : start.run before = some f) (hf : f.Of c r options) (hg : g.Of c r options)
    (hsent : f.sent ⊆ g.sent) (h : start.Heard before f) (e : Event) : start.Heard (before ++ [e]) g := by
  intro hpunctual
  obtain ⟨l, r, hl, hr, hin⟩ := h (isPunctual_concat hrun hpunctual).1
  exact ⟨l, r, List.mem_append_left _ hl, hr, hin.congr hf hg hsent⟩

/-- A look that finds a response has been heard, if it came by the limit. -/
theorem heard_of_awaited {ticket ticket' : Option Cache.Ticket} {since : Nat} {m : Http.Message} {r' : Http.Response}
    (hf : f.Of c r options) (hg : g.Of c r options) (hsent : (since, m) ∈ g.sent)
    (hlimit : start.isPunctual (before ++ [.look l]) = true → ∀ n, f.limit since = some n → l.time ≤ n)
    (h : f.awaited l ticket since = .arrived ticket' (.response r')) : start.Heard (before ++ [.look l]) g := by
  intro hpunctual
  unfold awaited at h
  split at h
  · next reply hreply =>
    obtain ⟨-, h⟩ := Stage.arrived.inj h
    cases reply with
    | response r'' =>
      refine ⟨l, r'', by simp, hreply, _, hsent, fun n hn => hlimit hpunctual n ?_⟩
      rw [hf.limit, ← hg.limit, hn]
    | networkFailure reason => exact nomatch h
    | timedOut => exact nomatch h
  · split at h
    · exact nomatch (Stage.arrived.inj h).2
    · exact nomatch h

/-- What is stored has gone past every check. -/
theorem hasStored_of_settle {ticket : Option Cache.Ticket} {a : Arrival} {k : Cache}
    (h : start.Traced cache key? before f) (hrun : start.run before = some f) (hf : f.Of c r options)
    (hread : r.isWrite = false) (hs : f.stage = .arrived ticket a) (hk : f.client.cache = some k) {l : Look}
    {g : Flight} (hg : g = { f with
      client := (f.client.settle l.now (f.dispatch ticket) a f.withdrawn).2
      stage := .landed (f.client.settle l.now (f.dispatch ticket) a f.withdrawn).1 }) (hof : g.Of c r options) :
    g.client.cache = some k ∨ start.HasStored (before ++ [.look l]) g := by
  have hcache := cache_settle hk l.now (f.dispatch ticket) a f.withdrawn
  have hleft (e : Envelope Json) : cacheLeft k (f.dispatch ticket).request e = k := by
    unfold cacheLeft
    rw [show (f.dispatch ticket).request = r from hf.request, hread]
    rfl
  rw [hleft] at hcache
  cases hstored : (cacheStored k l.now (f.dispatch ticket)
      (f.client.settle l.now (f.dispatch ticket) a f.withdrawn).1 f.withdrawn).1 with
  | false =>
    left
    rw [hg, hcache, cacheStored_refused hstored]
  | true =>
    right
    obtain ⟨-, -, hok, -⟩ := eq_of_cacheStored hstored
    obtain ⟨r', rfl, -⟩ := response_of_settle_isOk hok
    refine ⟨?_, ⟨_, by rw [hg], hok⟩, (h.heard ticket r' hs).mono hrun hf hof (by rw [hg]; exact List.Subset.refl _) _⟩
    rw [hg]
    exact not_withdrawn_of_cacheStored hstored

/-- A later look that does not touch the cache. -/
theorem Traced.quiet (h : start.Traced cache key? before f) (hready : f.stage ≠ .ready)
    (hlanded : ∀ e, f.stage ≠ .landed e) (hcache : g.client.cache = f.client.cache) (hstage : g.stage ≠ .ready)
    (hwaiting : ∀ ticket since, g.stage = .waiting ticket since → ∃ m, (since, m) ∈ g.sent)
    (harrived : ∀ ticket r', g.stage = .arrived ticket (.response r') → start.Heard (before ++ [.look l]) g) :
    start.Traced cache key? (before ++ [.look l]) g where
  begun := by simp [Event.isLook, hstage]
  since := hwaiting
  heard := harrived
  cache := by
    rcases h.cache with hk | hstored
    · left
      rw [cacheCalls_later (by simpa using fun hnone => hready (h.begun.mpr hnone)), hcache]
      exact hk
    · obtain ⟨e, he, -⟩ := hstored.landed
      exact absurd he (hlanded e)

/-- Waiting touches nothing, and a response that it finds was there in time. -/
theorem Traced.awaited {ticket : Option Cache.Ticket} {since : Nat} {m : Http.Message}
    (h : start.Traced cache key? before f) (hf : f.Of c r options) (hg : g.Of c r options) (hready : f.stage ≠ .ready)
    (hlanded : ∀ e, f.stage ≠ .landed e) (hcache : g.client.cache = f.client.cache)
    (hstage : g.stage = f.awaited l ticket since) (hsent : (since, m) ∈ g.sent)
    (hlimit : start.isPunctual (before ++ [.look l]) = true → ∀ n, f.limit since = some n → l.time ≤ n) :
    start.Traced cache key? (before ++ [.look l]) g := by
  refine h.quiet hready hlanded hcache ?_ ?_ ?_
  · rcases awaited_cases f l ticket since with ⟨a, ha⟩ | hw
    · rw [hstage, ha]
      exact Stage.noConfusion
    · rw [hstage, hw]
      exact Stage.noConfusion
  · intro ticket' since' hwaiting
    rcases awaited_cases f l ticket since with ⟨a, ha⟩ | hw
    · exact nomatch (hstage.symm.trans hwaiting).symm.trans ha
    · obtain ⟨-, rfl⟩ := Stage.waiting.inj ((hstage.symm.trans hwaiting).symm.trans hw)
      exact ⟨m, hsent⟩
  · intro ticket' r' harrived
    exact heard_of_awaited hf hg hsent hlimit (hstage.symm.trans harrived)

/-- The first look. -/
theorem Traced.lookup {hit : Option (Envelope Json)} {c' : Client}
    (h : start.Traced cache (lookupKey? cache r options) before f) (hf : f.Of c r options) (hs : f.stage = .ready)
    (hl : f.client.lookup l.now f.request f.options = (hit, c')) (hg : g.client = c')
    (hstage : g.stage = (hit.map Stage.landed).getD .missed) :
    start.Traced cache (lookupKey? cache r options) (before ++ [.look l]) g where
  begun := by
    rw [hstage]
    cases hit <;> simp [Event.isLook]
  since := by
    rw [hstage]
    cases hit <;> simp
  heard := by
    rw [hstage]
    cases hit <;> simp
  cache := by
    rcases h.cache with hk | hstored
    · left
      rw [hf.request, hf.options, lookup_eq hk] at hl
      rw [hg, cacheCalls_first (h.begun.mp hs)]
      split at hl
      · next huses =>
        obtain ⟨-, rfl⟩ := Prod.mk.inj hl
        have hkey : lookupKey? cache r options = some (cache.keyFor r) := if_pos huses
        have hsame : (cache.run (cacheCalls (lookupKey? cache r options) before)).keyFor r = cache.keyFor r := by
          unfold Cache.keyFor
          rw [(Cache.follows_run cache _).config]
        rw [hkey] at hsame ⊢
        rw [Cache.run_append, Cache.get, hsame]
        rfl
      · next huses =>
        obtain ⟨-, rfl⟩ := Prod.mk.inj hl
        have hkey : lookupKey? cache r options = none := if_neg huses
        rw [hk, hkey, Option.toList_none, List.map_nil, List.append_nil]
    · obtain ⟨e, he, -⟩ := hstored.landed
      exact nomatch hs.symm.trans he

theorem Traced.looks (h : start.Traced cache (lookupKey? cache r options) before f)
    (hrun : start.run before = some f) (hf : f.Of c r options) (hg : g.Of c r options) (hread : r.isWrite = false)
    (hlooks : f.Looks l g) : start.Traced cache (lookupKey? cache r options) (before ++ [.look l]) g := by
  cases hlooks with
  | hit hs hl => exact h.lookup hf hs hl rfl rfl
  | miss hs hl => exact h.lookup hf hs hl rfl rfl
  | reserve hs | refuse hs | proceed hs | poll hs | unfit hs | undecided hs | unusable hs | make hs =>
    exact h.quiet (by simp [hs]) (by simp [hs]) rfl (by simp) (by simp) (by simp)
  | notice hs =>
    rcases hs with hs | ⟨since, hs⟩ <;>
      exact h.quiet (by simp [hs]) (by simp [hs]) rfl (by simp) (by simp) (by simp)
  | @handOver ticket m hs =>
    refine h.awaited (m := m) hf hg (by simp [hs]) (by simp [hs]) rfl rfl (by simp [Flight.handOver]) fun _ n hn => ?_
    obtain ⟨d, -, rfl⟩ := Option.map_eq_some_iff.mp hn
    exact Nat.le_add_right _ _
  | @await ticket since hs =>
    obtain ⟨m, hm⟩ := h.since ticket since hs
    exact h.awaited hf hg (by simp [hs]) (by simp [hs]) rfl rfl hm fun hpunctual =>
      le_limit_of_isInTime hs (isPunctual_concat hrun hpunctual).2
  | @settle ticket a hs =>
    rcases h.cache with hk | hstored
    · rcases hasStored_of_settle h hrun hf hread hs hk rfl hg with hcache | hstored
      · exact h.quiet (by simp [hs]) (by simp [hs]) (hcache.trans hk.symm) (by simp) (by simp) (by simp)
      · exact ⟨by simp [Event.isLook], by simp, by simp, .inr hstored⟩
    · obtain ⟨e, he, -⟩ := hstored.landed
      exact nomatch hs.symm.trans he

/-- What others do, and a withdrawal, which comes too late after the landing. -/
theorem Traced.aside (h : start.Traced cache key? before f) (hrun : start.run before = some f)
    (hf : f.Of c r options) (hg : g.Of c r options) (he : e.isLook = false) (hstage : g.stage = f.stage)
    (hsent : g.sent = f.sent) (hwithdrawn : f.isLanded = true → g.withdrawn = f.withdrawn)
    (hcache : g.client.cache = f.client.cache.map (·.run e.call?.toList)) :
    start.Traced cache key? (before ++ [e]) g where
  begun := by
    rw [hstage, List.any_append]
    simpa [he] using h.begun
  since := by
    rw [hstage, hsent]
    exact h.since
  heard := by
    rw [hstage]
    exact fun ticket r' hs => (h.heard ticket r' hs).mono hrun hf hg (hsent ▸ List.Subset.refl _) e
  cache := by
    rcases h.cache with hk | hstored
    · left
      rw [cacheCalls_aside he, Cache.run_append, hcache, hk]
      rfl
    · right
      obtain ⟨x, hx, hok⟩ := hstored.landed
      have hlanded : f.isLanded = true := by rw [isLanded, hx]
      exact ⟨(hwithdrawn hlanded).trans hstored.kept, ⟨x, hstage.trans hx, hok⟩,
        hstored.heard.mono hrun hf hg (hsent ▸ List.Subset.refl _) e⟩

theorem Traced.leads (h : start.Traced cache (lookupKey? cache r options) before f)
    (hrun : start.run before = some f) (hf : f.Of c r options) (hread : r.isWrite = false) (hleads : f.Leads e g) :
    start.Traced cache (lookupKey? cache r options) (before ++ [e]) g := by
  have hg := hf.leads hleads
  cases hleads with
  | look hlooks => exact h.looks hrun hf hg hread hlooks
  | withdraw =>
    refine h.aside hrun hf hg rfl rfl rfl (fun hlanded => ?_) (congrFun Option.map_id _).symm
    simp [hlanded]
  | call op => exact h.aside hrun hf hg rfl rfl rfl (fun _ => rfl) rfl
  | otherSend => exact h.aside hrun hf hg rfl rfl rfl (fun _ => rfl) (congrFun Option.map_id _).symm

end Steps

/-- **A read of which nothing comes leaves nothing behind.** Its caller may withdraw it at any moment, credentials
and answers may come at any look or never, and others may use the cache in between: where it was withdrawn before
it landed, or no response was there within the limit and it was looked after in time, or it landed with a failure,
the cache is what the calls of the others and its one look-up have made of it. -/
theorem cache_of_fruitless {c : Client} {cache : Cache} {r : Request} {options : Options} {events : List Event}
    {f : Flight} (hcache : c.cache = some cache) (hread : r.isWrite = false)
    (hrun : (start c r options).run events = some f) (h : (start c r options).Fruitless events f) :
    f.client.cache = some (cache.run (cacheCalls (lookupKey? cache r options) events)) := by
  have htraced : (start c r options).Traced cache (lookupKey? cache r options) events f := by
    refine run_induction (P := fun before f =>
      (start c r options).Traced cache (lookupKey? cache r options) before f) ?_ ?_ hrun
    · exact ⟨by simp [start], by simp [start], by simp [start], .inl hcache⟩
    · exact fun before e f g hbefore h hleads => h.leads hbefore (of_run hbefore) hread hleads
  exact htraced.cache.resolve_right h.not_hasStored

/-- A read that is withdrawn when its response is there already, and one that is looked after at its limit, with no
response there: each time the cache has counted a miss. -/
theorem cache_of_fruitless_withdrawn_late :
    let read : Request := ⟨"users", none, .get, .many, [], [], none, ["users"]⟩
    let brief : Options := ⟨some (.ofMillis 5), .standard⟩
    let given : Look := ⟨0, 0, some (.ok none), none⟩
    let answered : Look := ⟨0, 5, none, some (.response ⟨200, [], Text.Utf8.encode "[]"⟩)⟩
    let unanswered : Look := ⟨0, 5, none, none⟩
    let withdrawn := List.replicate 6 (.look given) ++ [.look answered, .withdraw, .look answered]
    let expired := List.replicate 6 (.look given) ++ [.look unanswered, .look unanswered]
    (∃ f, (start (.plain (.empty .standard)) read brief).run withdrawn = some f ∧
      f.isLanded = true ∧ f.client.cache = some (Cache.empty .standard).countMiss) ∧
    ∃ f, (start (.plain (.empty .standard)) read brief).run expired = some f ∧
      (start (.plain (.empty .standard)) read brief).isPunctual expired = true ∧
      f.isLanded = true ∧ f.client.cache = some (Cache.empty .standard).countMiss := by
  intro read brief given answered unanswered withdrawn expired
  obtain ⟨f, hrun, hlanded, hwithdrawn⟩ : ∃ f, (start (.plain (.empty .standard)) read brief).run withdrawn = some f ∧
      f.isLanded = true ∧ f.withdrawn = true := ⟨_, rfl, rfl, rfl⟩
  obtain ⟨g, hrun', hlanded'⟩ : ∃ g, (start (.plain (.empty .standard)) read brief).run expired = some g ∧
      g.isLanded = true := ⟨_, rfl, rfl⟩
  refine ⟨⟨f, hrun, hlanded, (cache_of_fruitless rfl rfl hrun (.withdrawn hwithdrawn)).trans rfl⟩,
    g, hrun', rfl, hlanded', (cache_of_fruitless rfl rfl hrun' (.unheard rfl fun l r hl hr => ?_)).trans rfl⟩
  have hnone : ∀ e ∈ expired, ∀ l, e = .look l → l.reply = none := by
    simp [expired, given, unanswered]
  exact nomatch (hnone _ hl l rfl).symm.trans hr

end Flight
end TableQuery.Client
