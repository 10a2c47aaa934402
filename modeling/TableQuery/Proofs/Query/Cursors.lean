import TableQuery.Proofs.Server.Sorted

/-! Cursors and the orders that they go with.

A cursor goes with any order that has a key for its column in its direction, wherever that key stands. Its
filter looks at that column and at the tiebreaker's, and at no other (`eval_filter`). So it is true of the rows
behind the one with its values if and only if the first key of the order is for its column and every other is
for one of the two (`cursorAgrees_iff`); and that whatever the rows are that hold cells of one kind in each of
the two columns: texts, truth values, or numbers (`Cursor.StandsIn`). -/
namespace TableQuery
open Server

namespace SortKey
variable {keys : List SortKey} {k : SortKey} {a b : Row} {column : String}

/-- How two rows stand to each other by one key. -/
def compare (k : SortKey) (a b : Row) : Ordering := k.term.compare (a.cell k.column) (b.cell k.column)

theorem compareRows_cons (k : SortKey) (keys : List SortKey) (a b : Row) :
    compareRows ((k :: keys).map term) a b = (k.compare a b).then (compareRows (keys.map term) a b) := rfl

theorem compareRows_of_all_eq (h : ∀ k ∈ keys, k.compare a b = .eq) : compareRows (keys.map term) a b = .eq :=
  compareRows_eq_eq.mpr (List.forall_mem_map.mpr h)

/-- Where the rows differ in one column alone, its first key decides. -/
theorem compareRows_of_find? (hfind : keys.find? (fun k => k.column == column) = some k)
    (hothers : ∀ k' ∈ keys, k'.column ≠ column → k'.compare a b = .eq)
    (hsame : k.compare a b = .eq → ∀ k' ∈ keys, k'.column = column → k'.compare a b = .eq) :
    compareRows (keys.map term) a b = k.compare a b := by
  by_cases heq : k.compare a b = .eq
  · rw [heq]
    refine compareRows_of_all_eq fun k' hk' => ?_
    by_cases hcolumn : k'.column = column
    · exact hsame heq k' hk' hcolumn
    · exact hothers k' hk' hcolumn
  · clear hsame
    induction keys with
    | nil => exact nomatch hfind
    | cons k₀ keys ih =>
      obtain ⟨hk₀, hkeys⟩ := List.forall_mem_cons.mp hothers
      rw [compareRows_cons]
      by_cases hcolumn : k₀.column = column
      · rw [List.find?_cons, beq_iff_eq.mpr hcolumn] at hfind
        obtain rfl := Option.some.inj hfind
        cases hk : k₀.compare a b with
        | eq => exact absurd hk heq
        | lt => rfl
        | gt => rfl
      · rw [List.find?_cons, beq_eq_false_iff_ne.mpr hcolumn] at hfind
        rw [hk₀ hcolumn, ih hfind hkeys]
        rfl

end SortKey

/-! ### The rows a cursor is for -/

/-- The cursor has the values of one of these rows, which keys tell apart and leave no cell of null; and the
cells in its columns are of the kind of that row's. -/
structure Cursor.StandsIn (c : Cursor) (keys : List SortKey) (rows : List Row) (r : Row) : Prop where
  mem : r ∈ rows
  filled : ∀ row ∈ rows, ∀ k ∈ keys, (row.cell k.column).isNull = false
  distinct : rows.Pairwise fun a b => compareRows (keys.map SortKey.term) a b ≠ .eq
  value : c.value.IsOf (r.cell c.column)
  alike : ∀ row ∈ rows, Alike (row.cell c.column) (r.cell c.column)
  tiebreaker : ∀ column value, c.tiebreaker = some (column, value) →
    value.IsOf (r.cell column) ∧ ∀ row ∈ rows, Alike (row.cell column) (r.cell column)

namespace Pagination
variable {c : Cursor} {order : List SortKey} {key : SortKey} {w : Rendered} {column tie : String}
  {value : Scalar} {direction : Direction}

theorem render_cursor (hnull : c.value.isNull = false)
    (hkey : order.find? (fun k => k.column == c.column) = some key) (hdirection : key.direction = c.direction) :
    (Pagination.cursor c).render order =
      .ok ⟨some (Cursor.filter c order).1, (Cursor.filter c order).2, limitParam c.limit, []⟩ := by
  have hvalid : (Pagination.cursor c).validate = .ok () := by
    rw [validate, hnull]
    rfl
  refine Chained.bind_eq_ok.mpr ⟨(), hvalid, ?_⟩
  dsimp only
  rw [hkey]
  exact if_neg (not_not_intro hdirection)

/-- What a cursor is rendered to, where it goes with the order. -/
theorem of_render_cursor (h : (Pagination.cursor c).render order = .ok w) :
    ∃ key, order.find? (fun k => k.column == c.column) = some key ∧ key.direction = c.direction ∧
      w = ⟨some (Cursor.filter c order).1, (Cursor.filter c order).2, limitParam c.limit, []⟩ := by
  obtain ⟨_, -, h⟩ := Chained.bind_eq_ok.mp h
  simp only at h
  split at h
  · exact nomatch h
  next key hkey =>
  split at h
  · exact nomatch h
  next hdirection => exact ⟨key, hkey, not_not.mp hdirection, (Except.ok.inj h).symm⟩

/-- The key that decides between the rows that share the cursor's value. -/
def tieKey (c : Cursor) (order : List SortKey) (tie : String) : SortKey :=
  (order.find? fun k => k.column == tie).getD (SortKey.on tie c.direction)

theorem filter_of_tiebreaker (order : List SortKey) (htie : c.tiebreaker = some (tie, value)) :
    (Cursor.filter c order).1 = .group .any [after c.column c.value c.direction,
        .group .all [.test c.column .eq (.one c.value), after tie value (tieKey c order tie).direction]] ∧
      (order ++ (Cursor.filter c order).2).find? (fun k => k.column == tie) = some (tieKey c order tie) ∧
      ∀ k ∈ (Cursor.filter c order).2, k.column = tie := by
  unfold Cursor.filter tieKey
  rw [htie]
  dsimp only
  cases hfind : order.find? fun k => k.column == tie with
  | none => exact ⟨rfl, by simp [hfind, SortKey.on], List.forall_mem_singleton.mpr rfl⟩
  | some k => exact ⟨rfl, by simp [hfind], fun _ hk => nomatch hk⟩

/-- What a cursor's filter says of a row: it comes behind the cursor's own in the cursor's column, or is not
told apart from it there and comes behind it in the tiebreaker's. -/
theorem eval_filter {rows : List Row} {r row : Row} {keys : List SortKey}
    (hkey : order.find? (fun k => k.column == c.column) = some key) (hdirection : key.direction = c.direction)
    (htie : c.tiebreaker = some (tie, value)) (hrows : c.StandsIn keys rows r) (hrow : row ∈ rows) :
    (Cursor.filter c order).1.eval row =
      (key.compare r row == .lt || (key.compare r row == .eq && (tieKey c order tie).compare r row == .lt)) := by
  obtain ⟨htieValue, htieAlike⟩ := hrows.tiebreaker tie value htie
  have hcolumn : key.column = c.column := by simpa using List.find?_some hkey
  have htieColumn : (tieKey c order tie).column = tie := by
    simpa using List.find?_some (filter_of_tiebreaker order htie).2.1
  have hdescending : key.term.descending = (c.direction == .desc) := congrArg (· == Direction.desc) hdirection
  have hafter := eval_after hdescending hrows.value (hrows.alike row hrow)
  have hwith := eval_with key.term hrows.value (hrows.alike row hrow)
  have htieDescending : (tieKey c order tie).term.descending = ((tieKey c order tie).direction == .desc) := rfl
  have hbehind := eval_after htieDescending htieValue (htieAlike row hrow)
  rw [(filter_of_tiebreaker order htie).1, Filter.eval_any]
  simp only [List.any_cons, List.any_nil, Bool.or_false, Filter.eval_all, List.all_cons, List.all_nil,
    Bool.and_true, hafter, hwith, hbehind]
  rw [SortKey.compare, SortKey.compare, hcolumn, htieColumn]

/-! ### Agreement -/

/-- A cursor and a tiebreaker on these columns, wherever they are taken with this order, leave of any rows of one
kind those that come behind the one whose values they have. -/
def CursorAgrees (column tie : String) (direction : Direction) (order : List SortKey) : Prop :=
  ∀ (value tieValue : Scalar) (limit : Option UInt64) (w : Rendered) (rows : List Row) (r : Row),
    let c : Cursor := ⟨column, value, direction, limit, some (tie, tieValue)⟩
    (Pagination.cursor c).render order = .ok w → c.StandsIn (order ++ w.order) rows r →
      ∃ f, w.filter = some f ∧
        ∀ row ∈ rows, f.eval row = (compareRows ((order ++ w.order).map SortKey.term) r row == .lt)

/-- The first key is for the cursor's column, and each of the others for it or for the tiebreaker's. -/
def Leads (column tie : String) (order : List SortKey) : Prop :=
  order.head?.map SortKey.column = some column ∧ ∀ k ∈ order, k.column = column ∨ k.column = tie

theorem cursorAgrees_of_leads (hleads : Leads column tie order) : CursorAgrees column tie direction order := by
  intro value tieValue limit w rows r c hrender hrows
  obtain ⟨key, hkey, hdirection, rfl⟩ := of_render_cursor hrender
  obtain ⟨hhead, hcolumns⟩ := hleads
  obtain ⟨rest, rfl⟩ : ∃ rest, order = key :: rest := by
    cases order with
    | nil => exact nomatch hhead
    | cons k rest =>
      have hk : (k.column == c.column) = true := beq_iff_eq.mpr (Option.some.inj hhead)
      rw [List.find?_cons, hk] at hkey
      exact ⟨rest, by rw [Option.some.inj hkey]⟩
  refine ⟨_, rfl, fun row hrow => ?_⟩
  have htie : c.tiebreaker = some (tie, tieValue) := rfl
  obtain ⟨-, hfind, hadded⟩ := filter_of_tiebreaker (key :: rest) htie
  have hcolumn : key.column = c.column := Option.some.inj hhead
  have hall : ∀ k ∈ key :: rest ++ (Cursor.filter c (key :: rest)).2, k.column = c.column ∨ k.column = tie :=
    List.forall_mem_append.mpr ⟨hcolumns, fun k hk => .inr (hadded k hk)⟩
  -- Of two keys for one column, neither tells apart what the other does not.
  have hsame {k k' : SortKey} (hk : k'.column = k.column) (h : Alike (row.cell k.column) (r.cell k.column))
      (heq : k.compare r row = .eq) : k'.compare r row = .eq := by
    rw [SortKey.compare, OrderTerm.compare_eq_eq _ h.symm.not_isNull h.not_isNull] at heq
    rwa [SortKey.compare, hk, OrderTerm.compare_eq_eq _ h.symm.not_isNull h.not_isNull]
  have halike : Alike (row.cell key.column) (r.cell key.column) := hcolumn ▸ hrows.alike row hrow
  have htieColumn : (tieKey c (key :: rest) tie).column = tie := by simpa using List.find?_some hfind
  have htieAlike := (hrows.tiebreaker tie tieValue rfl).2 row hrow
  rw [← htieColumn] at htieAlike
  rw [eval_filter hkey hdirection rfl hrows hrow]
  cases hfirst : key.compare r row with
  | eq =>
    have hdecides := SortKey.compareRows_of_find? hfind
      (fun k hk hne => hsame (((hall k hk).resolve_right hne).trans hcolumn.symm) halike hfirst)
      (fun heq k _ hk => hsame (hk.trans htieColumn.symm) htieAlike heq)
    rw [hdecides]
    rfl
  | lt =>
    rw [List.cons_append, SortKey.compareRows_cons, hfirst]
    rfl
  | gt =>
    rw [List.cons_append, SortKey.compareRows_cons, hfirst]
    rfl

/-! Rows of texts that show an order to be none of these. -/

/-- A row with a text in each of these columns. -/
def rowOf (columns : List String) (text : String → String) : Row := columns.map fun c => (c, .str (text c))

theorem cell_rowOf {columns : List String} (h : column ∈ columns) (text : String → String) :
    (rowOf columns text).cell column = .str (text column) := by
  have hget : Fields.get? column (rowOf columns text) = some (.str (text column)) := by
    unfold rowOf
    induction columns with
    | nil => exact nomatch h
    | cons c columns ih =>
      rw [List.map_cons, Fields.get?]
      by_cases hc : c = column
      · rw [if_pos hc, hc]
      · rw [if_neg hc, ih ((List.mem_cons.mp h).resolve_left (Ne.symm hc))]
  rw [Row.cell, hget]
  rfl

/-- A text that `"b"` stands to in this way in a direction. -/
def beside : Ordering → Direction → String
  | .eq, _ => "b"
  | .lt, .asc | .gt, .desc => "c"
  | .gt, .asc | .lt, .desc => "a"

theorem compare_beside (k : SortKey) (o : Ordering) :
    k.term.compare (.str "b") (.str (beside o k.direction)) = o := by
  have hless : compareCells (.str "b") (.str "c") = .lt := by decide
  have hgreater : compareCells (.str "b") (.str "a") = .gt := by decide
  have hsame : compareCells (.str "b") (.str "b") = .eq := by decide
  rw [OrderTerm.compare_of_not_null _ rfl rfl, SortKey.term]
  cases k.direction <;> cases o <;> simp [beside, hless, hgreater, hsame]

/-- The cursor at a row of which every text is `"b"`. -/
def cursorAtB (column tie : String) (direction : Direction) : Cursor :=
  ⟨column, .text "b", direction, none, some (tie, .text "b")⟩

/-- The columns that a cursor, its tiebreaker and an order are about. -/
def columnsOf (column tie : String) (order : List SortKey) : List String :=
  column :: tie :: order.map SortKey.column

/-- The keys that a read is ordered by with a cursor. -/
def keysOf (column tie : String) (direction : Direction) (order : List SortKey) : List SortKey :=
  order ++ (Cursor.filter (cursorAtB column tie direction) order).2

theorem mem_columnsOf {k : SortKey} (hk : k ∈ keysOf column tie direction order) :
    k.column ∈ columnsOf column tie order := by
  rcases List.mem_append.mp hk with hk | hk
  · exact List.mem_cons_of_mem _ (List.mem_cons_of_mem _ (List.mem_map_of_mem hk))
  · rw [(filter_of_tiebreaker order rfl).2.2 k hk]
    exact List.mem_cons_of_mem _ List.mem_cons_self

theorem compare_rowOf {k : SortKey} {columns : List String} (hk : k.column ∈ columns) (text : String → String) :
    k.compare (rowOf columns fun _ => "b") (rowOf columns text) =
      k.term.compare (.str "b") (.str (text k.column)) := by
  rw [SortKey.compare, cell_rowOf hk, cell_rowOf hk]

/-- The cursor stands at the row of which every text is `"b"`, next to a row of texts that comes behind it. -/
theorem standsIn_rowOf {text : String → String}
    (hbehind : compareRows ((keysOf column tie direction order).map SortKey.term)
      (rowOf (columnsOf column tie order) fun _ => "b") (rowOf (columnsOf column tie order) text) = .lt) :
    (cursorAtB column tie direction).StandsIn (keysOf column tie direction order)
      [rowOf (columnsOf column tie order) fun _ => "b", rowOf (columnsOf column tie order) text]
      (rowOf (columnsOf column tie order) fun _ => "b") := by
  have hcolumn : column ∈ columnsOf column tie order := List.mem_cons_self
  have htie : tie ∈ columnsOf column tie order := List.mem_cons_of_mem _ List.mem_cons_self
  have halike {c : String} (hc : c ∈ columnsOf column tie order) :
      ∀ row ∈ [rowOf (columnsOf column tie order) fun _ => "b", rowOf (columnsOf column tie order) text],
        Alike (row.cell c) ((rowOf (columnsOf column tie order) fun _ => "b").cell c) := by
    rw [cell_rowOf hc]
    refine List.forall_mem_cons.mpr ⟨?_, List.forall_mem_singleton.mpr ?_⟩ <;> rw [cell_rowOf hc] <;>
      exact .texts _ _
  constructor
  case mem => exact List.mem_cons_self
  case filled => exact fun row hrow k hk => (halike (mem_columnsOf hk) row hrow).not_isNull
  case distinct =>
    refine List.pairwise_pair.mpr ?_
    rw [hbehind]
    exact fun h => nomatch h
  case value =>
    show Scalar.IsOf (.text "b") (Row.cell _ column)
    rw [cell_rowOf hcolumn]
    rfl
  case alike => exact halike hcolumn
  case tiebreaker =>
    intro c value hc
    obtain ⟨rfl, rfl⟩ := Prod.mk.inj (Option.some.inj hc)
    rw [cell_rowOf htie]
    exact ⟨rfl, fun row hrow => cell_rowOf htie (fun _ => "b") ▸ halike htie row hrow⟩

/-- What an agreeing cursor sees of a row of texts that comes behind the one of which every text is `"b"`. -/
theorem compare_of_cursorAgrees (hagrees : CursorAgrees column tie direction order)
    (hkey : order.find? (fun k => k.column == column) = some key) (hdirection : key.direction = direction)
    {text : String → String}
    (hbehind : compareRows ((keysOf column tie direction order).map SortKey.term)
      (rowOf (columnsOf column tie order) fun _ => "b") (rowOf (columnsOf column tie order) text) = .lt) :
    key.term.compare (.str "b") (.str (text column)) = .lt ∨
      (key.term.compare (.str "b") (.str (text column)) = .eq ∧
        (tieKey (cursorAtB column tie direction) order tie).term.compare (.str "b") (.str (text tie)) = .lt) := by
  have htieColumn : (tieKey (cursorAtB column tie direction) order tie).column = tie := by
    simpa using List.find?_some (filter_of_tiebreaker order rfl).2.1
  have hkeyColumn : key.column = column := by simpa using List.find?_some hkey
  have hrender := render_cursor (c := cursorAtB column tie direction) rfl hkey hdirection
  have hrows := standsIn_rowOf hbehind
  obtain ⟨f, hf, heval⟩ := hagrees _ _ _ _ _ _ hrender hrows
  obtain rfl := Option.some.inj hf
  have hmem : rowOf (columnsOf column tie order) text ∈
      [rowOf (columnsOf column tie order) fun _ => "b", rowOf (columnsOf column tie order) text] :=
    List.mem_cons_of_mem _ List.mem_cons_self
  have hrow := heval _ hmem
  rw [show order ++ (Cursor.filter (cursorAtB column tie direction) order).2 =
      keysOf column tie direction order from rfl, hbehind, eval_filter hkey hdirection rfl hrows hmem,
    compare_rowOf (by rw [hkeyColumn]; exact List.mem_cons_self),
    compare_rowOf (by rw [htieColumn]; exact List.mem_cons_of_mem _ List.mem_cons_self), hkeyColumn,
    htieColumn] at hrow
  simpa using hrow

/-- The first key is for the cursor's column, as a row may come behind in the first key's and before in the
cursor's. -/
theorem head_of_cursorAgrees (hagrees : CursorAgrees column tie direction order)
    (hkey : order.find? (fun k => k.column == column) = some key) (hdirection : key.direction = direction) :
    order.head?.map SortKey.column = some column := by
  obtain ⟨first, rest, rfl⟩ : ∃ first rest, order = first :: rest := by
    cases order with
    | nil => exact nomatch hkey
    | cons first rest => exact ⟨first, rest, rfl⟩
  by_contra hne
  have hfirst : first.column ≠ column := fun h => hne (congrArg some h)
  let text (c : String) : String :=
    if c = column then beside .gt direction else if c = first.column then beside .lt first.direction else "b"
  have hbehind : compareRows ((keysOf column tie direction (first :: rest)).map SortKey.term)
      (rowOf (columnsOf column tie (first :: rest)) fun _ => "b")
      (rowOf (columnsOf column tie (first :: rest)) text) = .lt := by
    have hfirstKey : first ∈ keysOf column tie direction (first :: rest) :=
      List.mem_append_left _ List.mem_cons_self
    rw [keysOf, List.cons_append, SortKey.compareRows_cons,
      compare_rowOf (mem_columnsOf hfirstKey),
      show text first.column = beside .lt first.direction from (if_neg hfirst).trans (if_pos rfl), compare_beside]
    rfl
  have hcompare := compare_of_cursorAgrees hagrees hkey hdirection hbehind
  rw [show text column = beside .gt key.direction from hdirection ▸ if_pos rfl, compare_beside] at hcompare
  simp at hcompare

/-- No key is for a third column, as it tells rows apart that the filter does not. -/
theorem column_of_cursorAgrees (hagrees : CursorAgrees column tie direction order)
    (hkey : order.find? (fun k => k.column == column) = some key) (hdirection : key.direction = direction)
    {k : SortKey} (hk : k ∈ order) : k.column = column ∨ k.column = tie := by
  by_contra hne
  obtain ⟨hcolumn, htie⟩ := not_or.mp hne
  obtain ⟨third, hthird⟩ : ∃ third, order.find? (fun k' => k'.column == k.column) = some third :=
    Option.isSome_iff_exists.mp (List.find?_isSome.mpr ⟨k, hk, beq_self_eq_true _⟩)
  have hthirdColumn : third.column = k.column := by simpa using List.find?_some hthird
  let text (c : String) : String := if c = k.column then beside .lt third.direction else "b"
  have hbehind : compareRows ((keysOf column tie direction order).map SortKey.term)
      (rowOf (columnsOf column tie order) fun _ => "b") (rowOf (columnsOf column tie order) text) = .lt := by
    have hfind : (keysOf column tie direction order).find? (fun k' => k'.column == k.column) = some third := by
      rw [keysOf, List.find?_append, hthird]
      rfl
    have hdecided : third.compare (rowOf (columnsOf column tie order) fun _ => "b")
        (rowOf (columnsOf column tie order) text) = .lt := by
      rw [compare_rowOf (mem_columnsOf (List.mem_of_find?_eq_some hfind)),
        show text third.column = beside .lt third.direction from if_pos hthirdColumn, compare_beside]
    rw [SortKey.compareRows_of_find? hfind (fun k' hk' hother => ?_) fun heq => ?_, hdecided]
    · rw [compare_rowOf (mem_columnsOf hk'), show text k'.column = beside .eq k'.direction from if_neg hother,
        compare_beside]
    · rw [hdecided] at heq
      exact nomatch heq
  have hcompare := compare_of_cursorAgrees hagrees hkey hdirection hbehind
  have hsame (k' : SortKey) : k'.term.compare (.str "b") (.str "b") = .eq := compare_beside k' .eq
  rw [show text column = "b" from if_neg (Ne.symm hcolumn), show text tie = "b" from if_neg (Ne.symm htie),
    hsame, hsame] at hcompare
  simp at hcompare

theorem leads_of_cursorAgrees (hkey : order.find? (fun k => k.column == column) = some key)
    (hdirection : key.direction = direction) (hagrees : CursorAgrees column tie direction order) :
    Leads column tie order :=
  ⟨head_of_cursorAgrees hagrees hkey hdirection, fun _ hk => column_of_cursorAgrees hagrees hkey hdirection hk⟩

/-- **Cursors that agree with their order.** Of the orders that a cursor with a tiebreaker is taken with, it
leaves the rows behind the one whose values it has with those that have their first key for its column and
each of the others for it or for the tiebreaker's, and with no others. The rows are such as hold cells of one
kind in the two columns; what they hold elsewhere, and how many they are, is left open. -/
theorem cursorAgrees_iff (hkey : order.find? (fun k => k.column == column) = some key)
    (hdirection : key.direction = direction) : CursorAgrees column tie direction order ↔ Leads column tie order :=
  ⟨leads_of_cursorAgrees hkey hdirection, cursorAgrees_of_leads⟩

/-- A row of three numbers. -/
def numbered (id a c : Int) : Row := [("id", .ofInt id), ("a", .ofInt a), ("c", .ofInt c)]

def threeRows : List Row := [numbered 1 1 2, numbered 2 2 1, numbered 3 3 3]

/-- The cursor at the first of them. -/
def cursorAtFirst (column : String) (value : Int64) : Cursor :=
  ⟨column, .int value, .asc, none, some ("id", .int 1)⟩

theorem keyColumn_threeRows (hcolumn : column ∈ ["id", "a", "c"]) : KeyColumn column threeRows := by
  have hints : ∀ row ∈ threeRows, ∀ name ∈ ["id", "a", "c"],
      ∃ n ∈ [(1 : Int), 2, 3], row.cell name = .num (.int n) := by
    intro row hrow name hname
    simp only [threeRows, List.mem_cons, List.not_mem_nil, or_false] at hrow hname
    rcases hrow with rfl | rfl | rfl <;> rcases hname with rfl | rfl | rfl <;>
      exact ⟨_, by decide, rfl⟩
  refine .inr fun row hrow => ?_
  obtain ⟨n, hn, hcell⟩ := hints row hrow column hcolumn
  have hsmall : ∀ n ∈ [(1 : Int), 2, 3], n.natAbs ≤ 2 ^ 53 := by decide
  exact ⟨n, hcell, hsmall n hn⟩

theorem standsIn_threeRows {value : Int64} {keys : List SortKey} (hcolumn : column ∈ ["id", "a", "c"])
    (hvalue : (numbered 1 1 2).cell column = .num (.int value.toInt))
    (hkeys : ∀ k ∈ keys, k.column ∈ ["id", "a", "c"])
    (hdistinct : threeRows.Pairwise fun a b => compareRows (keys.map SortKey.term) a b ≠ .eq) :
    (cursorAtFirst column value).StandsIn keys threeRows (numbered 1 1 2) where
  mem := List.mem_cons_self
  filled := fun row hrow k hk => ((keyColumn_threeRows (hkeys k hk)).alike hrow hrow).not_isNull
  distinct := hdistinct
  value := by
    show (Scalar.int value).IsOf ((numbered 1 1 2).cell column)
    rw [hvalue]
    exact Scalar.isOf_int value
  alike := fun row hrow => (keyColumn_threeRows hcolumn).alike hrow List.mem_cons_self
  tiebreaker := by
    intro tie tieValue htie
    obtain ⟨rfl, rfl⟩ := Prod.mk.inj (Option.some.inj htie)
    exact ⟨Scalar.isOf_int 1, fun row hrow => (keyColumn_threeRows (by decide)).alike hrow List.mem_cons_self⟩

/-- A cursor on the leading column leaves the rows behind the one it is at. -/
theorem leading_cursor_leaves_rest :
    [SortKey.on "a" .asc].find? (fun k => k.column == "a") = some (SortKey.on "a" .asc) ∧
      Leads "a" "id" [SortKey.on "a" .asc] ∧
      threeRows.map (Filter.eval · (Cursor.filter (cursorAtFirst "a" 1) [SortKey.on "a" .asc]).1) =
        [false, true, true] := by
  have hkey : [SortKey.on "a" .asc].find? (fun k => k.column == "a") = some (SortKey.on "a" .asc) := by decide
  have hleads : Leads "a" "id" [SortKey.on "a" .asc] :=
    ⟨rfl, List.forall_mem_singleton.mpr (.inl rfl)⟩
  have hrows : (cursorAtFirst "a" 1).StandsIn
      ([SortKey.on "a" .asc] ++ (Cursor.filter (cursorAtFirst "a" 1) [SortKey.on "a" .asc]).2) threeRows
      (numbered 1 1 2) :=
    standsIn_threeRows (by decide) rfl (by decide) (by decide +kernel)
  obtain ⟨f, hf, heval⟩ := (cursorAgrees_iff hkey rfl).mpr hleads _ _ _ _ _ _
    (render_cursor (c := cursorAtFirst "a" 1) rfl hkey rfl) hrows
  obtain rfl := Option.some.inj hf
  refine ⟨hkey, hleads, (List.map_congr_left heval).trans ?_⟩
  decide +kernel

/-- A cursor behind another key is taken, and skips a row that comes behind its own by that key. -/
theorem trailing_cursor_skips_row :
    ∃ w f, (Pagination.cursor (cursorAtFirst "c" 2)).render [SortKey.on "a" .asc, SortKey.on "c" .asc] = .ok w ∧
      w.filter = some f ∧
      (cursorAtFirst "c" 2).StandsIn ([SortKey.on "a" .asc, SortKey.on "c" .asc] ++ w.order) threeRows
        (numbered 1 1 2) ∧
      numbered 2 2 1 ∈ threeRows ∧ f.eval (numbered 2 2 1) = false ∧
      compareRows (([SortKey.on "a" .asc, SortKey.on "c" .asc] ++ w.order).map SortKey.term) (numbered 1 1 2)
        (numbered 2 2 1) = .lt := by
  have hkey : [SortKey.on "a" .asc, SortKey.on "c" .asc].find? (fun k => k.column == "c") = some (.on "c" .asc) := by
    decide
  refine ⟨_, _, render_cursor rfl hkey rfl, rfl,
    standsIn_threeRows (by decide) rfl (by decide) ?_, ?_, ?_, ?_⟩
  · decide +kernel
  · exact List.mem_cons_of_mem _ List.mem_cons_self
  · decide +kernel
  · decide +kernel

end Pagination
end TableQuery
