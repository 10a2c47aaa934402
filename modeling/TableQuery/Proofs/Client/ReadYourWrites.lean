import TableQuery.Proofs.Client.Consistent
import TableQuery.Proofs.Client.WriteOutcome

/-! Callers read what was written.

Once a write has succeeded, a look-up is answered from no entry that the server made before it handled the
write (`read_your_writes`), in whatever order tasks look up, take tickets, send, are handled and settle,
and whichever of them fail or are given up. Every step keeps `Consistent`, so every run does, and the entry
that a look-up finds has what the invariant says of entries. -/
namespace TableQuery.Client.World
variable {w : World}

/-! ### The steps -/

theorem afterLookup_eq (w : World) (i : Nat) :
    ∃ cache hit, w.afterLookup i = ({ w with cache := cache }).setTask i
        { w.task i with stage := (hit.map Stage.returned).getD .missed } ∧
      w.cache.Follows cache ∧ cache.contents ⊆ w.cache.contents ∧
      ∀ e, hit = some e → (w.task i).job.request.isWrite = false ∧
        ∃ x ∈ w.cache.contents, x.1 = w.cache.keyFor (w.task i).job.request ∧ x.2.value = e := by
  unfold afterLookup
  rw [lookup_eq rfl]
  by_cases huse : usesCache (w.task i).job.request (w.task i).job.options = true
  · rw [if_pos huse]
    refine ⟨_, _, rfl, Cache.follows_getKey .., Cache.contents_getKey_subset .., fun e he => ⟨?_, ?_⟩⟩
    · exact not_isWrite_of_usesCache huse
    · obtain ⟨entry, hfind, hvalue, -⟩ := Cache.find?_of_getKey he
      exact ⟨(_, entry.unused), Cache.mem_contents.mpr ⟨entry, Cache.mem_of_find? hfind, rfl⟩, rfl,
        hvalue⟩
  · rw [if_neg huse]
    exact ⟨w.cache, none, rfl, .refl _, fun _ h => h, fun _ h => nomatch h⟩

theorem Consistent.afterLookup (h : w.Consistent) {i : Nat} (hs : (w.task i).stage = .ready) :
    (w.afterLookup i).Consistent := by
  obtain ⟨cache, hit, heq, hf, hsub, hread⟩ := afterLookup_eq w i
  rw [heq]
  have hi := h.sound i
  have hnone := hi.unsent (by rw [hs]; rfl)
  have hfail : ¬({ w.task i with stage := (hit.map Stage.returned).getD .missed } : Task).Succeeded := by
    rintro ⟨hwrite, e, he, -⟩
    cases hit with
    | none => exact nomatch he
    | some e' =>
      rw [(hread e' rfl).1] at hwrite
      exact nomatch hwrite
  refine (h.setCache hf hsub w.now).setTask (i := i) (fun e => by rw [hs]; exact nofun) rfl rfl ?_
    (fun t _ => .inr hnone.2) (fun hk => absurd hk hfail)
  refine (hi.of_follows hf).withStage ?_ (fun _ => by rw [hs]; rfl) (fun hk => absurd hk hfail)
  cases hit <;> rfl

theorem Consistent.afterReserve (h : w.Consistent) {i : Nat} (hs : (w.task i).stage = .missed) :
    (w.afterReserve i).Consistent := by
  have hi := h.sound i
  have hnone := hi.unsent (by rw [hs]; rfl)
  have hreserve : ∀ t, (w.client i).reserve (w.task i).job.request (w.task i).job.options = some t →
      (w.task i).job.request.isWrite = false ∧ t = w.cache.reserve (w.task i).job.request := by
    intro t ht
    rw [reserve_eq rfl] at ht
    split at ht
    · next huse =>
      exact ⟨not_isWrite_of_usesCache huse, (Option.some.inj ht).symm⟩
    · exact nomatch ht
  refine h.setTask (fun e => by rw [hs]; exact nofun) rfl rfl ?_ (fun t _ => .inr hnone.2)
    (fun hk => nomatch hk.2)
  exact {
    unsent := fun _ => hnone
    once := hi.once
    request := fun _ hd => nomatch hd
    tables := fun t ht => by
      rw [(hreserve t ht).2]
      exact Cache.map_fst_tableEpochs_reserve ..
    epochs := fun t ht x hx => by
      rw [(hreserve t ht).2] at hx
      obtain ⟨table, -, rfl⟩ := List.mem_map.mp hx
      exact Nat.le_refl _
    reads := fun t ht => (hreserve t ht).1
    answered := fun hk => nomatch hk.2 }

theorem Consistent.afterSend (h : w.Consistent) {i : Nat} {ticket : Option Cache.Ticket}
    (withdrawn : Bool) (hs : (w.task i).stage = .reserved ticket) :
    (w.afterSend i ticket withdrawn).Consistent := by
  have hi := h.sound i
  have hnone := hi.unsent (by rw [hs]; rfl)
  have hticket : (w.task i).stage.ticket? = ticket := by rw [hs]; rfl
  have hopen : ∀ e, (w.task i).stage ≠ .returned e := fun e => by rw [hs]; exact nofun
  unfold World.afterSend
  split
  · next e he =>
    have hfail : e.isOk = false := isOk_of_send_answered he
    have hk : ¬({ w.task i with stage := .returned e } : Task).Succeeded := by
      rintro ⟨-, e', he', hok⟩
      obtain rfl := Stage.returned.inj he'
      rw [hfail] at hok
      exact nomatch hok
    exact h.setTask hopen rfl rfl (hi.withStage rfl (fun hb => nomatch hb) fun h => absurd h hk)
      (fun _ ht => nomatch ht) (fun h => absurd h hk)
  · next d m hd =>
    obtain rfl := eq_of_send_sent hd
    exact h.setTask hopen rfl rfl
      { unsent := fun hb => nomatch hb
        once := fun _ => hnone.2
        request := fun _ hd => Stage.waiting.inj hd ▸ rfl
        tables := fun t ht => hi.tables t (hticket.trans ht)
        epochs := fun t ht => hi.epochs t (hticket.trans ht)
        reads := fun t ht => hi.reads t (hticket.trans ht)
        answered := fun hk => nomatch hk.2 }
      (fun _ _ => .inr hnone.2) (fun hk => nomatch hk.2)

theorem contents_cacheLeft_subset (cache : Cache) (r : Request) (e : Envelope Json) :
    (cacheLeft cache r e).contents ⊆ cache.contents := by
  unfold cacheLeft
  split
  · exact Cache.contents_invalidate_subset _ _
  · exact fun _ h => h

/-- A write that has succeeded leaves nothing of its table. -/
theorem Consistent.cleared (h : w.Consistent) {r : Request} {e : Envelope Json}
    (hw : r.isWrite = true) (he : e.isOk = true) :
    Cleared { w with cache := cacheLeft w.cache r e } r.table := by
  have hleft : cacheLeft w.cache r e = (w.cache.invalidate (.table r.table)).2 := by
    unfold cacheLeft
    rw [hw, mayBeApplied_of_isOk he]
    rfl
  rw [hleft]
  constructor
  · exact fun x hx => Cache.not_mem_tables_of_invalidate w.cache r.table hx
  · intro i t ht htable
    rw [← (h.sound i).tables t ht] at htable
    obtain ⟨x, hx, hname⟩ := List.mem_map.mp htable
    obtain ⟨table, n⟩ := x
    obtain rfl : table = r.table := hname
    exact ⟨n, hx, Nat.lt_of_le_of_lt ((h.sound i).epochs t ht _ hx)
      (Cache.tableEpoch_lt_invalidate w.cache r.table)⟩

theorem afterSettle_eq (w : World) (i : Nat) (d : Dispatch) (a : Arrival) (withdrawn : Bool) :
    w.afterSettle i d a withdrawn =
      let e := ((w.client i).settle w.now d a withdrawn).1
      { ({ w with cache := cacheLeft w.cache d.request e }).setTask i
          { w.task i with stage := .returned e } with
        cache := (cacheStored (cacheLeft w.cache d.request e) w.now d e withdrawn).2
        source := fun key => if w.storedKey? d e withdrawn = some key then some i else w.source key } := by
  unfold afterSettle setCache
  simp only
  rw [cache_settle rfl]
  rfl

/-- A success that a task receives is the server's answer. -/
theorem answer_of_settle {i : Nat} {d : Dispatch} {a : Arrival} {withdrawn : Bool} {e : Envelope Json}
    (hd : d.request = (w.task i).job.request) (ha : (w.task i).mayReceive a = true)
    (he : ((w.client i).settle w.now d a withdrawn).1 = e) (hok : e.isOk = true) :
    ∃ n r, (w.task i).handled = some (n, r) ∧
      e = (Envelope.ofResponse r).shape (w.task i).job.request.mode := by
  obtain ⟨r, rfl, hr⟩ := response_of_settle_isOk (by rw [he]; exact hok)
  obtain ⟨⟨n, r'⟩, hn, hr'⟩ := Option.map_eq_some_iff.mp (beq_iff_eq.mp ha)
  obtain rfl : r' = r := hr'
  exact ⟨n, r', hn, by rw [← he, hr, hd]⟩

/-- A task returns what it has received, and clears the cache for it. -/
theorem Consistent.afterReturn (h : w.Consistent) {i : Nat} {d : Dispatch} {e : Envelope Json}
    (hs : (w.task i).stage = .waiting d)
    (hanswer : e.isOk = true → ∃ n r, (w.task i).handled = some (n, r) ∧
      e = (Envelope.ofResponse r).shape (w.task i).job.request.mode) :
    (({ w with cache := cacheLeft w.cache d.request e }).setTask i
      { w.task i with stage := .returned e }).Consistent := by
  have hi := h.sound i
  have hd := hi.request d hs
  refine (h.setCache (follows_cacheLeft ..) (contents_cacheLeft_subset ..) w.now).setTask
    (fun e => by rw [hs]; exact nofun) rfl rfl ?_ (fun _ ht => nomatch ht) ?_
  · refine (hi.of_follows (follows_cacheLeft ..)).withStage rfl (fun hb => nomatch hb) ?_
    rintro ⟨-, e', he', hok⟩
    obtain rfl := Stage.returned.inj he'
    obtain ⟨n, r, hn, -⟩ := hanswer hok
    rw [hn]
    rfl
  · rintro ⟨hwrite, e', he', hok⟩
    obtain rfl := Stage.returned.inj he'
    rw [← hd] at hwrite ⊢
    exact h.cleared hwrite hok

theorem Consistent.afterSettle (h : w.Consistent) {i : Nat} {d : Dispatch} {a : Arrival}
    (withdrawn : Bool) (hs : (w.task i).stage = .waiting d) (ha : (w.task i).mayReceive a = true) :
    (w.afterSettle i d a withdrawn).Consistent := by
  have hi := h.sound i
  have hd := hi.request d hs
  have hticket : (w.task i).stage.ticket? = d.ticket := by rw [hs]; rfl
  rw [afterSettle_eq]
  simp only
  generalize he : ((w.client i).settle w.now d a withdrawn).1 = e
  have hanswer := answer_of_settle hd ha he
  have hreturned := h.afterReturn hs hanswer
  cases hstored : (cacheStored (cacheLeft w.cache d.request e) w.now d e withdrawn).1
  · rw [cacheStored_refused hstored]
    simp only [storedKey?, hstored, Bool.false_eq_true, if_false, reduceCtorEq]
    exact hreturned
  · obtain ⟨t, ht, hok, hcommit⟩ := eq_of_cacheStored hstored
    have hread : d.request.isWrite = false := hd ▸ hi.reads t (hticket.trans ht)
    have hleft : cacheLeft w.cache d.request e = w.cache := by
      unfold cacheLeft
      rw [hread]
      rfl
    rw [hleft] at hcommit hreturned hstored ⊢
    rw [hcommit] at hstored ⊢
    have hkey : w.storedKey? d e withdrawn = some t.key := by
      unfold storedKey?
      rw [hleft, hcommit, hstored, ht]
      rfl
    rw [hkey]
    have hself : (w.setTask i { w.task i with stage := .returned e }).task i =
        { w.task i with stage := .returned e } := setTask_self ..
    refine hreturned.store (e := e) (by rw [hself]) (by rw [hself]; exact hanswer hok) ?_
      (Cache.follows_commit ..) ?_
    · -- The ticket is not overtaken, or the cache would have refused.
      intro k hk htable
      have hki : k ≠ i := by
        rintro rfl
        rw [hself] at hk
        exact absurd (hd ▸ hk.1) (by rw [hread]; exact Bool.false_ne_true)
      rw [setTask_ne _ _ hki] at hk htable ⊢
      rw [hself] at htable ⊢
      refine (h.fresh i t k (hticket.trans ht) hk htable).resolve_left fun hover => ?_
      have hfresh := Cache.not_stale_of_commit hstored
      rw [hover.isStale] at hfresh
      exact nomatch hfresh
    · intro x hx
      rw [hself, ← hi.tables t (hticket.trans ht)]
      exact Cache.mem_contents_commit hstored hx

theorem Consistent.leads {w' : World} (h : w.Consistent) (hw : w.Leads w') : w'.Consistent := by
  cases hw with
  | lookup hs => exact h.afterLookup hs
  | reserve hs => exact h.afterReserve hs
  | send withdrawn hs => exact h.afterSend withdrawn hs
  | handle answer hs => exact h.afterHandle answer hs
  | settle withdrawn hs ha => exact h.afterSettle withdrawn hs ha
  | @giveUp i hs =>
    exact h.setTask hs rfl rfl
      ((h.sound i).withStage rfl (fun hb => nomatch hb) fun hk => nomatch hk.2)
      (fun _ ht => nomatch ht) (fun hk => nomatch hk.2)
  | wait micros => exact h.setCache (.refl w.cache) (fun _ hx => hx) _
  | call hop => exact h.setCache (Cache.follows_apply ..) (Cache.contents_apply_subset _ hop) w.now

theorem consistent_run {config : CacheConfig} {jobs : Nat → Job} {actions : List Action}
    (h : (start config jobs).run actions = some w) : w.Consistent :=
  run_of_leads (fun _ _ hw hleads => hw.leads hleads) (consistent_start config jobs) h

/-! ### What stays -/

/-- Nothing changes about a task's job, nor about what it has returned. -/
structure Keeps (w w' : World) : Prop where
  job : ∀ i, (w'.task i).job = (w.task i).job
  returned : ∀ i e, (w.task i).stage = .returned e → (w'.task i).stage = .returned e

theorem keeps_of_update {w' : World} {i : Nat} {t' : Task}
    (htask : w'.task = Function.update w.task i t') (hjob : t'.job = (w.task i).job)
    (hopen : ∀ e, (w.task i).stage = .returned e → t'.stage = .returned e) : w.Keeps w' where
  job := update_congr htask Task.job hjob
  returned j e he := by
    rw [htask]
    by_cases hj : j = i
    · subst hj
      rw [Function.update_self]
      exact hopen e he
    · rwa [Function.update_of_ne hj]

theorem keeps_of_leads {w' : World} (h : w.Leads w') : w.Keeps w' := by
  cases h with
  | @lookup i hs =>
    obtain ⟨cache, hit, heq, -⟩ := afterLookup_eq w i
    rw [heq]
    exact keeps_of_update rfl rfl fun e he => by rw [hs] at he; exact nomatch he
  | reserve hs => exact keeps_of_update rfl rfl fun e he => by rw [hs] at he; exact nomatch he
  | send withdrawn hs =>
    unfold afterSend
    split <;> exact keeps_of_update rfl rfl fun e he => by rw [hs] at he; exact nomatch he
  | handle answer hs => exact keeps_of_update rfl rfl fun e he => he
  | settle withdrawn hs ha => exact keeps_of_update rfl rfl fun e he => by rw [hs] at he; exact nomatch he
  | giveUp hs => exact keeps_of_update rfl rfl fun e he => absurd he (hs e)
  | wait micros => exact ⟨fun _ => rfl, fun _ _ he => he⟩
  | call hop => exact ⟨fun _ => rfl, fun _ _ he => he⟩

theorem keeps_run {w' : World} {actions : List Action} (h : w.run actions = some w') : w.Keeps w' :=
  run_of_leads (P := w.Keeps)
    (fun _ _ hw hleads =>
      have hk := keeps_of_leads hleads
      ⟨fun i => (hk.job i).trans (hw.job i), fun i e he => hk.returned i e (hw.returned i e he)⟩)
    ⟨fun _ => rfl, fun _ _ he => he⟩ h

/-- **Read your writes.** Let a write have succeeded, and a task look up afterwards and be answered from
the cache. The entry it is answered with was stored by a task with the server's answer to it; and if that
task read from the written table, the server handled it after the write. -/
theorem read_your_writes {config : CacheConfig} {jobs : Nat → Job} {before after : List Action}
    {w w' w'' : World} {k i : Nat} {e : Envelope Json}
    (hbefore : (start config jobs).run before = some w) (hk : (w.task k).Succeeded)
    (hafter : w.run after = some w') (hlookup : w'.step (.lookup i) = some w'')
    (hhit : (w''.task i).stage = .returned e) :
    ∃ x ∈ w'.cache.entries, x.1 = w'.cache.keyFor (jobs i).request ∧ x.2.value = e ∧
      ∃ j n r, w'.source x.1 = some j ∧ x.2.tables = (jobs j).request.tables ∧
        (w'.task j).handled = some (n, r) ∧
        e = (Envelope.ofResponse r).shape (jobs j).request.mode ∧
        ((jobs k).request.table ∈ x.2.tables →
          ∃ m r', (w'.task k).handled = some (m, r') ∧ m < n) := by
  have hcons : w'.Consistent := run_of_leads (fun _ _ hw hl => hw.leads hl) (consistent_run hbefore) hafter
  have hjob (j : Nat) : (w'.task j).job = jobs j :=
    ((keeps_run hafter).job j).trans ((keeps_run hbefore).job j)
  have hk' : (w'.task k).Succeeded := by
    obtain ⟨hwrite, e', he', hok⟩ := hk
    exact ⟨(keeps_run hafter).job k ▸ hwrite, e', (keeps_run hafter).returned k e' he', hok⟩
  have hstep : w'.afterLookup i = w'' := by
    simp only [step] at hlookup
    split at hlookup
    · exact Option.some.inj hlookup
    · cases hlookup
  obtain ⟨cache, hit, heq, -, -, hread⟩ := afterLookup_eq w' i
  have hsome : hit = some e := by
    rw [← hstep, heq, setTask_self] at hhit
    cases hit with
    | none => cases hhit
    | some e' => rw [Stage.returned.inj hhit]
  obtain ⟨-, x, hx, hkey, hvalue⟩ := hread e hsome
  obtain ⟨j, hj, hb⟩ := hcons.stored x hx
  obtain ⟨n, r, hn, hr⟩ := hb.answer
  obtain ⟨entry, hmem, hentry⟩ := Cache.mem_contents.mp hx
  have htables : entry.tables = (jobs j).request.tables := by
    rw [← hjob, ← hb.tables, ← hentry]
    rfl
  refine ⟨(x.1, entry), hmem, by rw [hkey, hjob], ?_, j, n, r, hj, htables, hn, ?_, ?_⟩
  · rw [← hvalue, ← hentry]
    rfl
  · rw [← hjob, ← hr, hvalue]
  · intro htable
    rw [htables, ← hjob j, ← hjob k] at htable
    exact hb.later k hk' htable n r hn

/-- A read of the table `t`. -/
def oneSelection : Request := ⟨"t", none, .get, .many, [], [], none, ["t"]⟩

/-- Task 1 inserts a row into the table `t`; the others read the table. -/
def oneWriter (i : Nat) : Job :=
  ⟨Client.plain (.empty .standard), if i = 1 then oneInsertion else oneSelection, ⟨none, .standard⟩⟩

/-- The read of task 0 is answered before the write of task 1, which succeeds first. -/
def slowRead : List Action :=
  [.lookup 0, .reserve 0, .send 0 false, .handle 0 ⟨200, [], [91, 93]⟩, .lookup 1, .reserve 1,
    .send 1 false, .handle 1 ⟨201, [], []⟩, .settle 1 (.response ⟨201, [], []⟩) false]

/-- The slow read ends; task 2 reads the table again. -/
def secondRead : List Action :=
  [.settle 0 (.response ⟨200, [], [91, 93]⟩) false, .lookup 2, .reserve 2, .send 2 false,
    .handle 2 ⟨200, [], [91, 49, 93]⟩, .settle 2 (.response ⟨200, [], [91, 49, 93]⟩) false]

/-- The slow read is not stored; task 3 is answered with what the server made after the write. -/
theorem slow_read_is_not_seen :
    ∃ w w' w'' e, (start .standard oneWriter).run slowRead = some w ∧ (w.task 1).Succeeded ∧
      w.run secondRead = some w' ∧ w'.step (.lookup 3) = some w'' ∧
      (w''.task 3).stage = .returned e ∧
      ∃ x ∈ w'.cache.entries, x.2.value = e ∧ ∃ j n r, w'.source x.1 = some j ∧
        (w'.task j).handled = some (n, r) ∧ ∃ m r', (w'.task 1).handled = some (m, r') ∧ m < n := by
  refine ⟨_, _, _, _, rfl, ⟨rfl, _, rfl, rfl⟩, rfl, rfl, rfl, ?_⟩
  obtain ⟨x, hx, -, hvalue, j, n, r, hj, htables, hn, -, hlater⟩ :=
    @read_your_writes .standard oneWriter slowRead secondRead _ _ _ 1 3 _ rfl ⟨rfl, _, rfl, rfl⟩ rfl rfl
      rfl
  refine ⟨x, hx, hvalue, j, n, r, hj, hn, hlater ?_⟩
  have hall : (oneWriter j).request.tables = ["t"] := by
    unfold oneWriter
    split <;> rfl
  rw [htables, hall]
  exact List.mem_cons_self

end TableQuery.Client.World
