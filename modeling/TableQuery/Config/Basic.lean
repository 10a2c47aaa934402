import TableQuery.Cache.Basic
import TableQuery.Decimal.Read

/-! How a client is set up.

A configuration is made in code or read from settings, a list of dotted keys with a text each
(`ClientConfig.ofSettings`). Only the address is needed. A cache is set up if it is enabled, or if it is
not said whether it is but one of its limits is given. -/
namespace TableQuery

structure ClientConfig where
  /-- The address of the interface, without the tables' paths. -/
  url : String
  schema : Option String
  /-- Sent in a header of its own, and as the token where there are no other credentials. -/
  apiKey : Option String
  timeout : Option Duration
  headers : List Param
  cache : Option CacheConfig

/-- Why no client can be set up. -/
inductive ConfigFault where
  | missing (key : String)
  /-- The document could not be read. -/
  | unreadable (reason : String)
  | invalid (key reason : String)
deriving Repr, DecidableEq

def ConfigFault.message : ConfigFault → String
  | .missing key => "Config key not found: " ++ key
  | .unreadable reason => "Config load error: " ++ reason
  | .invalid key reason => "Invalid config value for '" ++ key ++ "': " ++ reason

/-- Dotted keys with their texts. A later setting of a key stands for the earlier ones. -/
abbrev Settings := List (String × String)

namespace Settings

def get? (s : Settings) (key : String) : Option String :=
  (s.reverse.find? fun e => e.1 == key).map Prod.snd

def set (s : Settings) (key value : String) : Settings := s ++ [(key, value)]

theorem get?_set_self (s : Settings) (key value : String) : (s.set key value).get? key = some value := by
  simp [get?, set]

/-- The keys below a path, without the path, each once, in ascending order. -/
def below (s : Settings) (path : String) : List String :=
  let keys := s.filterMap fun e => (path.toList.isPrefixOf? e.1.toList).map String.ofList
  (keys.mergeSort fun a b => decide (a ≤ b)).eraseDups

end Settings

namespace ClientConfig

/-! ### Keys -/

def urlKey : String := "rowlink.url"

def schemaKey : String := "rowlink.schema"

def apiKeyKey : String := "rowlink.api_key"

def timeoutKey : String := "rowlink.timeout_ms"

def headersPath : String := "rowlink.headers."

def cacheEnabledKey : String := "rowlink.cache.enabled"

def cacheLifetimeKey : String := "rowlink.cache.ttl_secs"

def cacheCapacityKey : String := "rowlink.cache.max_entries"

/-! ### Reading settings -/

def readWord (s : Settings) (key : String) : Except ConfigFault (Option Nat) :=
  match s.get? key with
  | none => .ok none
  | some raw =>
    match Decimal.natural (UInt64.size - 1) (Text.trim raw.toList) with
    | .ok n => .ok (some n)
    | .error fault => .error (.invalid key ("'" ++ raw ++ "': " ++ fault.message))

def readFlag (s : Settings) (key : String) : Except ConfigFault (Option Bool) :=
  match s.get? key with
  | none => .ok none
  | some "true" => .ok (some true)
  | some "false" => .ok (some false)
  | some _ => .error (.invalid key "provided string was not \x60true\x60 or \x60false\x60")

/-- The address without the blanks around it; a blank one counts as none. -/
def readUrl (s : Settings) : Except ConfigFault String :=
  match (s.get? urlKey).map Text.strip with
  | none | some "" => .error (.missing urlKey)
  | some url => .ok url

def readHeaders (s : Settings) : List Param :=
  (s.below headersPath).map fun name => (name, (s.get? (headersPath ++ name)).getD "")

def readCache (s : Settings) : Except ConfigFault (Option CacheConfig) := do
  let enabled ← readFlag s cacheEnabledKey
  let lifetime ← readWord s cacheLifetimeKey
  let capacity ← readWord s cacheCapacityKey
  if enabled.getD (lifetime.isSome || capacity.isSome) then
    .ok (some {
      lifetime := (lifetime.map Duration.ofSeconds).getD CacheConfig.standard.lifetime
      capacity := capacity.getD CacheConfig.standard.capacity
      keyOf := none })
  else .ok none

def ofSettings (s : Settings) : Except ConfigFault ClientConfig := do
  let url ← readUrl s
  let timeout ← readWord s timeoutKey
  let cache ← readCache s
  .ok {
    url := url
    schema := s.get? schemaKey
    apiKey := s.get? apiKeyKey
    timeout := timeout.map Duration.ofMillis
    headers := readHeaders s
    cache := cache }

end ClientConfig
end TableQuery
