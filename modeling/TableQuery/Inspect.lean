import TableQuery.Client.Basic
import TableQuery.Mutation
import TableQuery.Text.Visible

/-! How queries, writes and clients are made up, shown as text for whoever looks into them.

Every value is shown as a term: a word, a name with arguments, a name with fields, or a list. Tokens and
keys are never shown, only whether there is one. -/
namespace TableQuery

inductive Shown where
  | word (text : String)
  /-- A name with arguments; without a name a tuple. -/
  | apply (name : String) (arguments : List Shown)
  | record (name : String) (fields : List (String × Shown))
  | list (items : List Shown)

instance : Inhabited Shown := ⟨.word ""⟩

namespace Shown

mutual

def render : Shown → String
  | .word text => text
  | .apply name arguments => name ++ "(" ++ ", ".intercalate (renderAll arguments) ++ ")"
  | .record name fields => name ++ " \x7b " ++ ", ".intercalate (renderFields fields) ++ " \x7d"
  | .list items => "[" ++ ", ".intercalate (renderAll items) ++ "]"

def renderAll : List Shown → List String
  | [] => []
  | t :: ts => t.render :: renderAll ts

def renderFields : List (String × Shown) → List String
  | [] => []
  | (name, t) :: rest => (name ++ ": " ++ t.render) :: renderFields rest

end

def text (s : String) : Shown := .word (Text.inspect s)

def flag (b : Bool) : Shown := .word (if b then "true" else "false")

def natural (n : Nat) : Shown := .word (toString n)

def option {α : Type} (f : α → Shown) : Option α → Shown
  | some a => .apply "Some" [f a]
  | none => .word "None"

def all {α : Type} (f : α → Shown) (items : List α) : Shown := .list (items.map f)

def counter (n : UInt64) : Shown := natural n.toNat

def duration (d : Duration) : Shown := .word d.render

/-! ### Operands and filters -/

/-- Fractions are positional while the leading digit has an exponent from -4 to 15. -/
def floatFormat : Decimal.Format where
  plain := some (-4, 15)
  pointZero := true
  tie := .up
  nan := "NaN"
  infinity := "inf"

def scalar : Scalar → Shown
  | .null => .word "Null"
  | .bool b => .apply "Bool" [flag b]
  | .int n => .apply "Int" [.word (toString n.toInt)]
  | .float x => .apply "Float" [.word (floatFormat.render x)]
  | .text s => .apply "Text" [text s]

def operand : Operand → Shown
  | .one s => .apply "Scalar" [scalar s]
  | .list items => .apply "List" [all scalar items]

def searchKind : SearchKind → String
  | .basic => "Fts"
  | .plain => "Plain"
  | .phrase => "Phrase"
  | .websearch => "Websearch"

def operator : Operator → Shown
  | .eq => .word "Eq"
  | .neq => .word "Neq"
  | .gt => .word "Gt"
  | .gte => .word "Gte"
  | .lt => .word "Lt"
  | .lte => .word "Lte"
  | .like => .word "Like"
  | .ilike => .word "Ilike"
  | .isIn => .word "In"
  | .is => .word "Is"
  | .contains => .word "Contains"
  | .containedBy => .word "ContainedBy"
  | .overlaps => .word "Overlaps"
  | .search kind config =>
    .record "TextSearch" [("kind", .word (searchKind kind)), ("config", option text config)]

def leaf (l : Leaf) : Shown :=
  .record "Leaf" [("column", text l.column), ("operator", operator l.operator),
    ("value", operand l.operand)]

mutual

def filter : Filter → Shown
  | .leaf l => .apply "Leaf" [leaf l]
  | .group .all members => .apply "And" [.list (filters members)]
  | .group .any members => .apply "Or" [.list (filters members)]
  | .not f => .apply "Not" [filter f]

def filters : List Filter → List Shown
  | [] => []
  | f :: fs => filter f :: filters fs

end

/-! ### Errors -/

def transportKind : TransportKind → String
  | .network => "Network"
  | .timeout => "Timeout"
  | .cancelled => "Cancelled"

def authOrigin : AuthOrigin → String
  | .credentials => "Credentials"
  | .server => "Server"

def serverError (e : ServerError) : Shown :=
  .record "ServerError" [("code", option text e.code), ("message", text e.message),
    ("details", option text e.details), ("hint", option text e.hint)]

def error : Error → Shown
  | .invalidArgument m => .apply "InvalidArgument" [text m]
  | .invalidState m => .apply "InvalidState" [text m]
  | .undeclaredRelation p => .apply "UndeclaredRelation" [text p]
  | .duplicateAlias n => .apply "DuplicateAlias" [text n]
  | .transport kind m =>
    .record "Transport" [("kind", .word (transportKind kind)), ("message", text m)]
  | .auth origin status code m =>
    .record "Auth" [("origin", .word (authOrigin origin)), ("status", option natural status),
      ("code", option text code), ("message", text m)]
  | .notFound => .word "NotFound"
  | .multipleRows n => .apply "MultipleRowsFound" [natural n]
  | .database status e => .record "Database" [("status", natural status), ("error", serverError e)]
  | .decode m => .apply "Decode" [text m]

/-! ### Queries and writes -/

def selectItem (i : SelectItem) : Shown :=
  .record "SelectItem" [("expression", text i.expression), ("alias", option text i.alias?),
    ("relation_path", all text i.path)]

def direction : Direction → Shown
  | .asc => .word "Asc"
  | .desc => .word "Desc"

def nulls : Nulls → Shown
  | .first => .word "First"
  | .last => .word "Last"

def sortKey (k : SortKey) : Shown :=
  .record "OrderSpec" [("column", text k.column), ("direction", direction k.direction),
    ("nulls", option nulls k.nulls)]

def pagination : Pagination → Shown
  | .page number size => .record "PageSize" [("page", counter number), ("size", counter size)]
  | .window offset limit =>
    .record "OffsetLimit" [("offset", counter offset), ("limit", option counter limit)]
  | .range first last => .record "Range" [("start", counter first), ("end", counter last)]
  | .cursor c =>
    .record "Cursor" [("column", text c.column), ("value", scalar c.value),
      ("direction", direction c.direction), ("limit", option counter c.limit),
      ("tiebreaker", option (fun t => .apply "" [text t.1, scalar t.2]) c.tiebreaker)]

def join : Join → Shown
  | .inner => .word "Inner"
  | .left => .word "Left"

mutual

def relation : Relation → Shown
  | .node e children =>
    .record "RelationSpec" [("name", text e.name), ("alias", option text e.alias?),
      ("join", join e.join), ("fk_hint", option text e.hint?), ("columns", all text e.columns),
      ("filters", .list (filters e.filters)), ("order", all sortKey e.order),
      ("limit", option counter e.limit), ("offset", option counter e.offset),
      ("children", .list (relations children)), ("deferred", option error e.fault)]

def relations : List Relation → List Shown
  | [] => []
  | r :: rs => relation r :: relations rs

end

def countStrategy : CountStrategy → Shown
  | .exact => .word "Exact"
  | .planned => .word "Planned"
  | .estimated => .word "Estimated"

def cachePolicy : CachePolicy → Shown
  | .standard => .word "Default"
  | .bypass => .word "Bypass"
  | .lifetime d => .apply "Ttl" [duration d]

def options (o : Options) : Shown :=
  .record "ExecOptions" [("timeout", option duration o.timeout), ("cancel", .word "None"),
    ("cache", cachePolicy o.cache)]

def query (q : Query) : Shown :=
  .record "QueryBuilder"
    [("spec", .record "QuerySpec"
      [("table", text q.table), ("schema", option text q.schema), ("select", all selectItem q.select),
        ("filters", .list (filters q.filters)), ("order", all sortKey q.order),
        ("pagination", option pagination q.pagination), ("relations", .list (relations q.relations)),
        ("count", option countStrategy q.count), ("head", flag q.head)]),
      ("bound", flag q.bound), ("options", options q.options), ("deferred", option error q.fault)]

def writeKind : WriteKind → Shown
  | .insert => .word "Insert"
  | .update => .word "Update"
  | .upsert target skip =>
    .record "Upsert" [("on_conflict", all text target), ("ignore_duplicates", flag skip)]
  | .delete => .word "Delete"

def mutation (m : Mutation) : Shown :=
  .record "MutationBuilder" [("table", text m.table), ("kind", writeKind m.kind),
    ("filters", .list (filters m.filters)), ("returning", option (all selectItem) m.returning),
    ("bound", flag m.bound)]

/-! ### Clients -/

def cacheConfig (c : CacheConfig) : Shown :=
  .record "CacheConfig" [("ttl", duration c.lifetime), ("max_entries", natural c.capacity),
    ("key_generator", flag c.keyOf.isSome)]

def cache (c : Cache) : Shown :=
  .record "QueryCache" [("config", cacheConfig c.config), ("len", natural c.size)]

def client (c : Client) : Shown :=
  .record "Client" [("schema", option text c.schema), ("cache", option cache c.cache)]

def redacted : String := "<redacted>"

def clientConfig (c : ClientConfig) : Shown :=
  .record "ClientConfig" [("url", text c.url), ("schema", option text c.schema),
    ("api_key", option (fun _ => text redacted) c.apiKey), ("timeout", option duration c.timeout),
    ("headers", all (fun h => text h.1) c.headers), ("cache", option cacheConfig c.cache)]

/-- A token, which is not to be seen. -/
def token : Shown := .apply "StaticToken" [.word redacted]

end Shown
end TableQuery
