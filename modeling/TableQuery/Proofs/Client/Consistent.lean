import TableQuery.Proofs.Client.Interleaving

/-! An invariant of tasks that share a cache.

The order of things that has to be watched for is that of a slow read: it takes its ticket before a write
and settles after it, with rows from before. `Consistent` says that the ticket of such a read is overtaken
by the time the write's caller is told, and that what is stored under a ticket that is not overtaken comes
from after every write known to have succeeded.

The steps of a task are made of four changes, and each keeps the invariant: the cache loses entries
(`Consistent.setCache`), a task gets further (`Consistent.setTask`), the server answers
(`Consistent.afterHandle`), and a task stores what it has returned (`Consistent.store`). -/
namespace TableQuery.Client

/-- The ticket a task holds. -/
def Stage.ticket? : Stage → Option Cache.Ticket
  | .reserved ticket => ticket
  | .waiting d => d.ticket
  | _ => none

/-- Whether a task may hold a ticket. -/
def Stage.hasTicket : Stage → Bool
  | .reserved _ | .waiting _ => true
  | _ => false

theorem Stage.ticket?_of_hasTicket {s : Stage} (h : s.hasTicket = false) : s.ticket? = none := by
  cases s with
  | reserved ticket => exact nomatch h
  | waiting d => exact nomatch h
  | ready => rfl
  | missed => rfl
  | returned e => rfl
  | givenUp => rfl

/-- Whether the message of a task is still to be made. -/
def Stage.isBeforeSending : Stage → Bool
  | .ready | .missed | .reserved _ => true
  | _ => false

namespace Task

/-- The caller was told that a write has succeeded. -/
def Succeeded (t : Task) : Prop :=
  t.job.request.isWrite = true ∧ ∃ e, t.stage = .returned e ∧ e.isOk = true

/-- The server handled the message of `t` before that of `u`, if it has handled that of `u`. -/
def Precedes (t u : Task) : Prop :=
  ∀ n r, u.handled = some (n, r) → ∃ m r', t.handled = some (m, r') ∧ m < n

/-- What is true of a task by itself. -/
structure Sound (t : Task) (cache : Cache) : Prop where
  unsent : t.stage.isBeforeSending = true → t.onTheWay = none ∧ t.handled = none
  once : t.onTheWay.isSome = true → t.handled = none
  request : ∀ d, t.stage = .waiting d → d.request = t.job.request
  tables : ∀ k, t.stage.ticket? = some k → k.tableEpochs.map Prod.fst = t.job.request.tables
  epochs : ∀ k, t.stage.ticket? = some k → ∀ x ∈ k.tableEpochs, x.2 ≤ cache.tableEpoch x.1
  reads : ∀ k, t.stage.ticket? = some k → t.job.request.isWrite = false
  answered : t.Succeeded → t.handled.isSome = true

theorem Sound.of_follows {t : Task} {c d : Cache} (h : t.Sound c) (hd : c.Follows d) : t.Sound d where
  unsent := h.unsent
  once := h.once
  request := h.request
  tables := h.tables
  reads := h.reads
  epochs k hk x hx := Nat.le_trans (h.epochs k hk x hx) (hd.tableEpoch x.1)
  answered := h.answered

/-- A task may get to any stage at which it has no ticket. -/
theorem Sound.withStage {t : Task} {cache : Cache} (h : t.Sound cache) {s : Stage}
    (hs : s.hasTicket = false) (hunsent : s.isBeforeSending = true → t.stage.isBeforeSending = true)
    (hanswered : ({ t with stage := s } : Task).Succeeded → t.handled.isSome = true) :
    ({ t with stage := s } : Task).Sound cache := by
  have hticket (k : Cache.Ticket) : s.ticket? ≠ some k := by
    rw [Stage.ticket?_of_hasTicket hs]
    exact nofun
  constructor
  case unsent => exact fun hb => h.unsent (hunsent hb)
  case once => exact h.once
  case request =>
    rintro d rfl
    exact nomatch hs
  case tables => exact fun k hk => absurd hk (hticket k)
  case epochs => exact fun k hk => absurd hk (hticket k)
  case reads => exact fun k hk => absurd hk (hticket k)
  case answered => exact hanswered

/-- A message that was on its way may be handled. -/
theorem Sound.withAnswer {t : Task} {cache : Cache} (h : t.Sound cache) (hway : t.onTheWay.isSome = true)
    (answer : Nat × Http.Response) :
    ({ t with onTheWay := none, handled := some answer } : Task).Sound cache where
  unsent hb := by
    rw [(h.unsent hb).1] at hway
    exact nomatch hway
  once hb := nomatch hb
  request := h.request
  tables := h.tables
  epochs := h.epochs
  reads := h.reads
  answered _ := rfl

theorem Succeeded.ticket? {t : Task} (h : t.Succeeded) : t.stage.ticket? = none := by
  obtain ⟨-, e, he, -⟩ := h
  rw [he]
  rfl

end Task

namespace World
variable {w : World}

/-- Where an entry comes from: a task that returned it to its caller too, and that the server answered
after every write of one of its tables that is known to have succeeded. -/
structure Backs (w : World) (j : Nat) (entry : Cache.Entry) : Prop where
  tables : entry.tables = (w.task j).job.request.tables
  returned : (w.task j).stage = .returned entry.value
  answer : ∃ n r, (w.task j).handled = some (n, r) ∧
    entry.value = (Envelope.ofResponse r).shape (w.task j).job.request.mode
  later : ∀ k, (w.task k).Succeeded → (w.task k).job.request.table ∈ (w.task j).job.request.tables →
    (w.task k).Precedes (w.task j)

/-- Tasks other than the one that an entry comes from may go on. -/
theorem Backs.of_task {w' : World} {j : Nat} {entry : Cache.Entry} (h : w.Backs j entry)
    (hjobs : ∀ i, (w'.task i).job = (w.task i).job) (hstage : (w'.task j).stage = (w.task j).stage)
    (hhandled : (w'.task j).handled = (w.task j).handled)
    (hlater : ∀ k, (w'.task k).Succeeded →
      (w.task k).job.request.table ∈ (w.task j).job.request.tables →
      (w'.task k).Precedes (w'.task j)) : w'.Backs j entry where
  tables := by
    rw [hjobs]
    exact h.tables
  returned := by
    rw [hstage]
    exact h.returned
  answer := by
    rw [hhandled, hjobs]
    exact h.answer
  later k hk htable := by
    rw [hjobs, hjobs] at htable
    exact hlater k hk htable

/-- What is true of every world that can be reached. -/
structure Consistent (w : World) : Prop where
  sound : ∀ i, (w.task i).Sound w.cache
  number_lt : ∀ i n r, (w.task i).handled = some (n, r) → n < w.handled
  fresh : ∀ i t k, (w.task i).stage.ticket? = some t → (w.task k).Succeeded →
    (w.task k).job.request.table ∈ (w.task i).job.request.tables →
    t.Overtaken w.cache (w.task k).job.request.table ∨ (w.task k).Precedes (w.task i)
  stored : ∀ x ∈ w.cache.contents, ∃ j, w.source x.1 = some j ∧ w.Backs j x.2

theorem consistent_start (config : CacheConfig) (jobs : Nat → Job) : (start config jobs).Consistent where
  sound _ := {
    unsent := fun _ => ⟨rfl, rfl⟩
    once := fun _ => rfl
    request := fun _ h => nomatch h
    tables := fun _ h => nomatch h
    epochs := fun _ h => nomatch h
    reads := fun _ h => nomatch h
    answered := fun h => nomatch h.2 }
  number_lt _ _ _ h := nomatch h
  fresh _ _ _ h := nomatch h
  stored _ h := nomatch h

/-! ### Changes a step is made of -/

/-- The cache may lose entries, as long as no epoch falls. -/
theorem Consistent.setCache {cache : Cache} (h : w.Consistent) (hf : w.cache.Follows cache)
    (hsub : cache.contents ⊆ w.cache.contents) (now : Nat) :
    Consistent { w with cache := cache, now := now } where
  sound i := (h.sound i).of_follows hf
  number_lt := h.number_lt
  fresh i t k ht hk htable := (h.fresh i t k ht hk htable).imp_left (·.of_follows hf)
  stored x hx := by
    obtain ⟨j, hj, hb⟩ := h.stored x (hsub hx)
    exact ⟨j, hj, hb.tables, hb.returned, hb.answer, hb.later⟩

/-- Nothing that a table was read for is left: no entry lists it, and the tickets that do are
overtaken. -/
structure Cleared (w : World) (table : String) : Prop where
  entries : ∀ x ∈ w.cache.contents, table ∉ x.2.tables
  tickets : ∀ i t, (w.task i).stage.ticket? = some t → table ∈ (w.task i).job.request.tables →
    t.Overtaken w.cache table

/-- A task that has not returned may go on. If it returns the success of a write, then of the table
nothing is left. -/
theorem Consistent.setTask (h : w.Consistent) {i : Nat} (hopen : ∀ e, (w.task i).stage ≠ .returned e)
    {t' : Task} (hjob : t'.job = (w.task i).job) (hhandled : t'.handled = (w.task i).handled)
    (hsound : t'.Sound w.cache)
    (hticket : ∀ t, t'.stage.ticket? = some t →
      (w.task i).stage.ticket? = some t ∨ t'.handled = none)
    (hcleared : t'.Succeeded → w.Cleared t'.job.request.table) : (w.setTask i t').Consistent := by
  have hjobs (j : Nat) : ((w.setTask i t').task j).job = (w.task j).job :=
    update_congr rfl Task.job hjob j
  have hnumbers (j : Nat) : ((w.setTask i t').task j).handled = (w.task j).handled :=
    update_congr rfl Task.handled hhandled j
  have hprecedes {k j : Nat} (hkj : (w.task k).Precedes (w.task j)) :
      ((w.setTask i t').task k).Precedes ((w.setTask i t').task j) := by
    unfold Task.Precedes
    rw [hnumbers, hnumbers]
    exact hkj
  constructor
  case sound =>
    intro j
    by_cases hj : j = i
    · rw [hj, setTask_self]
      exact hsound
    · rw [setTask_ne w t' hj]
      exact h.sound j
  case number_lt =>
    intro j n r hj
    rw [hnumbers] at hj
    exact h.number_lt j n r hj
  case fresh =>
    intro j t k ht hk htable
    rw [hjobs] at htable ⊢
    rw [hjobs] at htable
    by_cases hki : k = i
    · subst hki
      rw [setTask_self] at hk
      have hjk : j ≠ k := by
        rintro rfl
        rw [setTask_self, hk.ticket?] at ht
        exact nomatch ht
      rw [setTask_ne w t' hjk] at ht
      have hc := hcleared hk
      rw [hjob] at hc
      exact .inl (hc.tickets j t ht htable)
    · rw [setTask_ne w t' hki] at hk
      by_cases hji : j = i
      · subst hji
        rw [setTask_self] at ht
        rcases hticket t ht with hold | hnone
        · exact (h.fresh j t k hold hk htable).imp_right hprecedes
        · refine .inr fun n r hn => ?_
          rw [setTask_self, hnone] at hn
          exact nomatch hn
      · rw [setTask_ne w t' hji] at ht
        exact (h.fresh j t k ht hk htable).imp_right hprecedes
  case stored =>
    intro x hx
    obtain ⟨j, hj, hb⟩ := h.stored x hx
    have hji : j ≠ i := by
      rintro rfl
      exact hopen _ hb.returned
    refine ⟨j, hj, hb.of_task hjobs (by rw [setTask_ne w t' hji]) (hnumbers j) fun k hk htable => ?_⟩
    by_cases hki : k = i
    · subst hki
      rw [setTask_self] at hk
      rw [← hb.tables, ← hjob] at htable
      exact absurd htable ((hcleared hk).entries x hx)
    · rw [setTask_ne w t' hki] at hk
      exact hprecedes (hb.later k hk htable)

/-- A write that has succeeded was handled before the message that is handled now. -/
theorem Consistent.precedes_afterHandle (h : w.Consistent) {i : Nat} (answer : Http.Response)
    (hway : (w.task i).onTheWay.isSome = true) {k j : Nat} (hk : (w.task k).Succeeded)
    (hkj : (w.task k).Precedes (w.task j)) :
    ((w.afterHandle i answer).task k).Precedes ((w.afterHandle i answer).task j) := by
  have hsome := (h.sound k).answered hk
  have hki : k ≠ i := by
    rintro rfl
    rw [(h.sound k).once hway] at hsome
    exact nomatch hsome
  have htask : (w.afterHandle i answer).task k = w.task k := setTask_ne _ _ hki
  intro n r hn
  rw [htask]
  by_cases hj : j = i
  · have hself : (w.afterHandle i answer).task i =
        { w.task i with onTheWay := none, handled := some (w.handled, answer) } := setTask_self ..
    rw [hj, hself] at hn
    obtain ⟨rfl, -⟩ := Prod.mk.inj (Option.some.inj hn)
    obtain ⟨⟨m, r'⟩, hm⟩ := Option.isSome_iff_exists.mp hsome
    exact ⟨m, r', hm, h.number_lt k m r' hm⟩
  · have hother : (w.afterHandle i answer).task j = w.task j := setTask_ne _ _ hj
    rw [hother] at hn
    exact hkj n r hn

/-- The server's next answer. -/
theorem Consistent.afterHandle (h : w.Consistent) {i : Nat} (answer : Http.Response)
    (hway : (w.task i).onTheWay.isSome = true) : (w.afterHandle i answer).Consistent := by
  have htask : (w.afterHandle i answer).task = Function.update w.task i
      { w.task i with onTheWay := none, handled := some (w.handled, answer) } := rfl
  have hself : (w.afterHandle i answer).task i =
      { w.task i with onTheWay := none, handled := some (w.handled, answer) } := setTask_self ..
  have hother {j : Nat} (hj : j ≠ i) : (w.afterHandle i answer).task j = w.task j :=
    setTask_ne _ _ hj
  have hstage (j : Nat) : ((w.afterHandle i answer).task j).stage = (w.task j).stage :=
    update_congr htask Task.stage rfl j
  have hjob (j : Nat) : ((w.afterHandle i answer).task j).job = (w.task j).job :=
    update_congr htask Task.job rfl j
  have hsucceeded {j : Nat} (hj : ((w.afterHandle i answer).task j).Succeeded) :
      (w.task j).Succeeded := by
    unfold Task.Succeeded at hj
    rwa [hstage, hjob] at hj
  constructor
  case sound =>
    intro j
    by_cases hj : j = i
    · rw [hj, hself]
      exact (h.sound i).withAnswer hway _
    · rw [hother hj]
      exact h.sound j
  case number_lt =>
    intro j n r hn
    by_cases hj : j = i
    · rw [hj, hself] at hn
      obtain ⟨rfl, -⟩ := Prod.mk.inj (Option.some.inj hn)
      exact Nat.lt_succ_self _
    · rw [hother hj] at hn
      exact Nat.lt_succ_of_lt (h.number_lt j n r hn)
  case fresh =>
    intro j t k ht hk htable
    rw [hjob, hjob] at htable
    rw [hstage] at ht
    rw [hjob]
    exact (h.fresh j t k ht (hsucceeded hk) htable).imp_right
      (h.precedes_afterHandle answer hway (hsucceeded hk))
  case stored =>
    intro x hx
    obtain ⟨j, hj, hb⟩ := h.stored x hx
    have hji : j ≠ i := by
      rintro rfl
      obtain ⟨n, r, hn, -⟩ := hb.answer
      rw [(h.sound j).once hway] at hn
      exact nomatch hn
    exact ⟨j, hj, hb.of_task hjob (hstage j) (by rw [hother hji]) fun k hk htable =>
      h.precedes_afterHandle answer hway (hsucceeded hk) (hb.later k (hsucceeded hk) htable)⟩

/-- A task that has returned the answer to a read may store it, if the server has handled no write of its
tables since. -/
theorem Consistent.store (h : w.Consistent) {j : Nat} {e : Envelope Json} {key : String} {cache : Cache}
    (hreturned : (w.task j).stage = .returned e)
    (hanswer : ∃ n r, (w.task j).handled = some (n, r) ∧
      e = (Envelope.ofResponse r).shape (w.task j).job.request.mode)
    (hlater : ∀ k, (w.task k).Succeeded →
      (w.task k).job.request.table ∈ (w.task j).job.request.tables → (w.task k).Precedes (w.task j))
    (hf : w.cache.Follows cache)
    (hcontents : ∀ x ∈ cache.contents,
      (x.1 = key ∧ x.2.value = e ∧ x.2.tables = (w.task j).job.request.tables) ∨
        (x.1 ≠ key ∧ x ∈ w.cache.contents)) :
    Consistent { w with
      cache := cache
      source := fun k => if some key = some k then some j else w.source k } where
  sound i := (h.sound i).of_follows hf
  number_lt := h.number_lt
  fresh i t k ht hk htable := (h.fresh i t k ht hk htable).imp_left (·.of_follows hf)
  stored x hx := by
    rcases hcontents x hx with ⟨hkey, hvalue, htables⟩ | ⟨hkey, hold⟩
    · refine ⟨j, if_pos (by rw [hkey]), htables, ?_, ?_, hlater⟩
      · rw [hvalue]
        exact hreturned
      · rw [hvalue]
        exact hanswer
    · obtain ⟨i, hi, hb⟩ := h.stored x hold
      refine ⟨i, ?_, hb.tables, hb.returned, hb.answer, hb.later⟩
      show (if some key = some x.1 then some j else w.source x.1) = some i
      rw [if_neg fun h => hkey (Option.some.inj h).symm]
      exact hi

end World
end TableQuery.Client
