import Mathlib.Logic.Function.Basic
import TableQuery.Proofs.Client.Settling

/-! Dispatches that share a cache, in any order of their steps.

A `World` is one cache, any number of tasks that use it, and the order in which a server has handled their
messages. A task is one dispatch, of whichever client, and how far it has got. An `Action` is one atomic
step: a task looks into the cache, takes its ticket, sends its message, has it handled by the server, or
settles with what arrived for it; it may be given up at any time; and others may call the cache as long as
they store nothing. `World.step` plays an action where it is possible, and a run is a list of actions, so
every interleaving of the tasks is a run.

What the server answers is left open, and so is when: it may handle a message long after its task has
given up waiting. `World.source` is written down for the statements only, and no step reads it. -/
namespace TableQuery.Client

/-- What a task is to do, and through which client. -/
structure Job where
  client : Client
  request : Request
  options : Options

/-- How far a task has got. -/
inductive Stage where
  | ready
  /-- The look-up gave nothing. -/
  | missed
  | reserved (ticket : Option Cache.Ticket)
  | waiting (d : Dispatch)
  | returned (e : Envelope Json)
  | givenUp

structure Task where
  job : Job
  stage : Stage
  /-- The message that the server has still to handle. -/
  onTheWay : Option Http.Message
  /-- What the server answered, and how many messages it had handled before. -/
  handled : Option (Nat × Http.Response)

structure World where
  cache : Cache
  /-- The cache's clock, in microseconds. -/
  now : Nat
  task : Nat → Task
  /-- How many messages the server has handled. -/
  handled : Nat
  /-- The task whose outcome was stored last under a key. -/
  source : String → Option Nat

/-- One step of one task, or of somebody else. -/
inductive Action where
  | lookup (i : Nat)
  | reserve (i : Nat)
  | send (i : Nat) (withdrawn : Bool)
  | handle (i : Nat) (answer : Http.Response)
  | settle (i : Nat) (a : Arrival) (withdrawn : Bool)
  | giveUp (i : Nat)
  | wait (micros : Nat)
  /-- A call on the cache past the tasks. -/
  | call (op : Cache.Op)

/-- A response arrives only once the server has given it; anything else may at any time. -/
def Task.mayReceive (t : Task) : Arrival → Bool
  | .response r => t.handled.map Prod.snd == some r
  | .networkFailure _ | .timedOut | .withdrawn => true

namespace World

def start (config : CacheConfig) (jobs : Nat → Job) : World where
  cache := .empty config
  now := 0
  task := fun i => ⟨jobs i, .ready, none, none⟩
  handled := 0
  source := fun _ => none

/-- The client of a task with the shared cache. -/
def client (w : World) (i : Nat) : Client := { (w.task i).job.client with cache := some w.cache }

def setTask (w : World) (i : Nat) (t : Task) : World := { w with task := Function.update w.task i t }

/-- Takes over the cache that a client is left with. -/
def setCache (w : World) (c : Client) : World := { w with cache := c.cache.getD w.cache }

def afterLookup (w : World) (i : Nat) : World :=
  let (hit, c) := (w.client i).lookup w.now (w.task i).job.request (w.task i).job.options
  (w.setCache c).setTask i { w.task i with stage := (hit.map Stage.returned).getD .missed }

def afterReserve (w : World) (i : Nat) : World :=
  w.setTask i { w.task i with
    stage := .reserved ((w.client i).reserve (w.task i).job.request (w.task i).job.options) }

def afterSend (w : World) (i : Nat) (ticket : Option Cache.Ticket) (withdrawn : Bool) : World :=
  match ((w.client i).send (w.task i).job.request (w.task i).job.options ticket withdrawn).1 with
  | .answered e => w.setTask i { w.task i with stage := .returned e }
  | .sent d m => w.setTask i { w.task i with stage := .waiting d, onTheWay := some m }

def afterHandle (w : World) (i : Nat) (answer : Http.Response) : World :=
  { w.setTask i { w.task i with onTheWay := none, handled := some (w.handled, answer) } with
    handled := w.handled + 1 }

/-- The key under which a settling task stores its outcome, if it does. -/
def storedKey? (w : World) (d : Dispatch) (e : Envelope Json) (withdrawn : Bool) : Option String :=
  if (cacheStored (cacheLeft w.cache d.request e) w.now d e withdrawn).1 then
    d.ticket.map Cache.Ticket.key
  else none

def afterSettle (w : World) (i : Nat) (d : Dispatch) (a : Arrival) (withdrawn : Bool) : World :=
  let (e, c) := (w.client i).settle w.now d a withdrawn
  { (w.setCache c).setTask i { w.task i with stage := .returned e } with
    source := fun key => if w.storedKey? d e withdrawn = some key then some i else w.source key }

/-- The world after an action; none if the action is not possible. -/
def step (w : World) : Action → Option World
  | .lookup i =>
    match (w.task i).stage with
    | .ready => some (w.afterLookup i)
    | _ => none
  | .reserve i =>
    match (w.task i).stage with
    | .missed => some (w.afterReserve i)
    | _ => none
  | .send i withdrawn =>
    match (w.task i).stage with
    | .reserved ticket => some (w.afterSend i ticket withdrawn)
    | _ => none
  | .handle i answer => if (w.task i).onTheWay.isSome then some (w.afterHandle i answer) else none
  | .settle i a withdrawn =>
    match (w.task i).stage with
    | .waiting d => if (w.task i).mayReceive a then some (w.afterSettle i d a withdrawn) else none
    | _ => none
  | .giveUp i =>
    match (w.task i).stage with
    | .returned _ => none
    | _ => some (w.setTask i { w.task i with stage := .givenUp })
  | .wait micros => some { w with now := w.now + micros }
  | .call op => if op.stores then none else some { w with cache := w.cache.apply op }

def run (w : World) (actions : List Action) : Option World := actions.foldlM step w

/-! ### What a step may do -/

@[simp] theorem setTask_self (w : World) (i : Nat) (t : Task) : (w.setTask i t).task i = t := by
  unfold setTask
  exact Function.update_self ..

theorem setTask_ne (w : World) {i j : Nat} (t : Task) (h : j ≠ i) :
    (w.setTask i t).task j = w.task j := by
  unfold setTask
  exact Function.update_of_ne h ..

/-- What a step on one task keeps of it is kept of all tasks. -/
theorem update_congr {α : Sort _} {w w' : World} {i : Nat} {t : Task}
    (htask : w'.task = Function.update w.task i t) (f : Task → α) (h : f t = f (w.task i)) (j : Nat) :
    f (w'.task j) = f (w.task j) := by
  rw [htask]
  by_cases hj : j = i
  · rw [hj, Function.update_self, h]
  · rw [Function.update_of_ne hj]

/-- The steps that are possible, each with its result. -/
inductive Leads (w : World) : World → Prop where
  | lookup {i : Nat} (h : (w.task i).stage = .ready) : Leads w (w.afterLookup i)
  | reserve {i : Nat} (h : (w.task i).stage = .missed) : Leads w (w.afterReserve i)
  | send {i : Nat} {ticket : Option Cache.Ticket} (withdrawn : Bool)
      (h : (w.task i).stage = .reserved ticket) : Leads w (w.afterSend i ticket withdrawn)
  | handle {i : Nat} (answer : Http.Response) (h : (w.task i).onTheWay.isSome = true) :
      Leads w (w.afterHandle i answer)
  | settle {i : Nat} {d : Dispatch} {a : Arrival} (withdrawn : Bool)
      (h : (w.task i).stage = .waiting d) (ha : (w.task i).mayReceive a = true) :
      Leads w (w.afterSettle i d a withdrawn)
  | giveUp {i : Nat} (h : ∀ e, (w.task i).stage ≠ .returned e) :
      Leads w (w.setTask i { w.task i with stage := .givenUp })
  | wait (micros : Nat) : Leads w { w with now := w.now + micros }
  | call {op : Cache.Op} (h : op.stores = false) : Leads w { w with cache := w.cache.apply op }

theorem leads_of_step {w w' : World} {a : Action} (h : w.step a = some w') : w.Leads w' := by
  cases a with
  | lookup i =>
    simp only [step] at h
    split at h
    · next hs => exact Option.some.inj h ▸ .lookup hs
    · exact nomatch h
  | reserve i =>
    simp only [step] at h
    split at h
    · next hs => exact Option.some.inj h ▸ .reserve hs
    · exact nomatch h
  | send i withdrawn =>
    simp only [step] at h
    split at h
    · next hs => exact Option.some.inj h ▸ .send withdrawn hs
    · exact nomatch h
  | handle i answer =>
    simp only [step] at h
    split at h
    · next hs => exact Option.some.inj h ▸ .handle answer hs
    · exact nomatch h
  | settle i a withdrawn =>
    simp only [step] at h
    split at h
    · next hs =>
      split at h
      · next ha => exact Option.some.inj h ▸ .settle withdrawn hs ha
      · exact nomatch h
    · exact nomatch h
  | giveUp i =>
    simp only [step] at h
    split at h
    · exact nomatch h
    · next hs => exact Option.some.inj h ▸ .giveUp hs
  | wait micros => exact Option.some.inj h ▸ .wait micros
  | call op =>
    simp only [step] at h
    split at h
    · exact nomatch h
    · next hs => exact Option.some.inj h ▸ .call (eq_false_of_ne_true hs)

/-- What every step keeps is kept by a run. -/
theorem run_of_leads {P : World → Prop} (hstep : ∀ w w', P w → w.Leads w' → P w') {w w' : World}
    {actions : List Action} (h : P w) (hrun : w.run actions = some w') : P w' := by
  induction actions generalizing w with
  | nil => exact Option.some.inj hrun ▸ h
  | cons a actions ih =>
    rw [run, List.foldlM_cons] at hrun
    obtain ⟨v, hv, hrest⟩ := Option.bind_eq_some_iff.mp hrun
    exact ih (hstep w v h (leads_of_step hv)) hrest

end World
end TableQuery.Client
