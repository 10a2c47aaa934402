import TableQuery.Cache.Basic

/-! A cache under a clock, with a sweeper that drops what has expired at regular times.

Time moves by `Timed.advance` only. If it reaches or passes one of the sweeper's times, what has
expired at the new time is dropped once. -/
namespace TableQuery.Cache

/-- Sweeps fall on `start + k · period` for `k ≥ 1`, in microseconds. -/
structure Sweeper where
  start : Nat
  period : Nat
deriving Repr, DecidableEq

/-- Whether a sweep falls after `before` and no later than `now`. A period of nothing sweeps never. -/
def Sweeper.due (s : Sweeper) (before now : Nat) : Bool :=
  s.period != 0 && (before - s.start) / s.period < (now - s.start) / s.period

structure Timed where
  cache : Cache
  now : Nat
  sweepers : List Sweeper

namespace Timed

def start (config : CacheConfig) : Timed := ⟨.empty config, 0, []⟩

def advance (t : Timed) (step : Duration) : Timed :=
  let now := t.now + step.micros
  let cache := if t.sweepers.any fun s => s.due t.now now then (t.cache.evictExpired now).2 else t.cache
  { t with cache := cache, now := now }

def startSweeper (t : Timed) (period : Duration) : Timed :=
  { t with sweepers := ⟨t.now, period.micros⟩ :: t.sweepers }

def stopSweepers (t : Timed) : Timed := { t with sweepers := [] }

end Timed
end TableQuery.Cache
