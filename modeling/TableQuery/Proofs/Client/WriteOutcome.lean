import TableQuery.Proofs.Client.Settling

/-! What a write leaves in the cache.

A write may have been carried out if the server answered it with success, and also if nothing was heard
of it: the network failed, the time was over, the caller withdrew it. Then a later read must not be
answered from before it. `write_clears_table_iff` says for which of these arrivals the cache is cleared of
the written table: for all but a success that the client cannot read, one whose body is neither blank nor
JSON or has a number of rows that the request does not take. Such a write was carried out, and the cache
stays as it was (`unread_success_keeps_entries`). -/
namespace TableQuery.Client

/-- Whether the body of a success can be read: it is blank or JSON. -/
def bodyReads (body : List UInt8) : Bool :=
  body.all Text.isAsciiBlankByte || (Json.ofBytes? body).isSome

/-- The data of a body that can be read. -/
def bodyData (body : List UInt8) : Option Json :=
  if body.all Text.isAsciiBlankByte then none else Json.ofBytes? body

/-- Whether a mode takes so many rows. -/
def fits : Mode → Nat → Bool
  | .many, _ | .count, _ => true
  | .single, n => n == 1
  | .maybeSingle, n => n ≤ 1

/-- Whether a success is one to the client too: its body can be read and has as many rows as the mode
asks for. -/
def understands (mode : Mode) (r : Http.Response) : Bool :=
  bodyReads r.body && fits mode (Envelope.rowsOf (bodyData r.body)).length

/-- Whether the server carried a request out, or may have: it answered with success, or nothing of it was
heard. -/
def Arrival.mayFollowEffect : Arrival → Bool
  | .response r => Envelope.isSuccessStatus r.status
  | .networkFailure _ | .timedOut | .withdrawn => true

/-- The answers after which a write drops what the cache holds of its table. -/
def Arrival.keepsNothing (mode : Mode) : Arrival → Bool
  | .response r => understands mode r
  | .networkFailure _ | .timedOut | .withdrawn => true

theorem mayBeApplied_shape (mode : Mode) (data : Option Json) (count : Option Nat) (status : Nat) :
    mayBeApplied ((Envelope.success data count status).shape mode) =
      fits mode (Envelope.rowsOf data).length := by
  -- The two modes that count rows tell none, one and more of them apart.
  have hrows : ∀ rows : List Json, rows = [] ∨ (∃ row, rows = [row]) ∨ ∃ x y rest, rows = x :: y :: rest
    | [] => .inl rfl
    | [row] => .inr (.inl ⟨row, rfl⟩)
    | x :: y :: rest => .inr (.inr ⟨x, y, rest, rfl⟩)
  cases mode with
  | many => rfl
  | count => rfl
  | single =>
    rcases hrows (Envelope.rowsOf data) with h | ⟨row, h⟩ | ⟨x, y, rest, h⟩ <;>
      simp [Envelope.shape, h, fits, mayBeApplied, Envelope.error?, Error.isTransport]
  | maybeSingle =>
    rcases hrows (Envelope.rowsOf data) with h | ⟨row, h⟩ | ⟨x, y, rest, h⟩ <;>
      simp [Envelope.shape, h, fits, mayBeApplied, Envelope.error?, Error.isTransport]

/-- Of all arrivals after which the write may have been carried out, those that the client reads as
such. -/
theorem mayBeApplied_outcome (limit : Option Duration) (mode : Mode) {a : Arrival}
    (ha : a.mayFollowEffect = true) :
    mayBeApplied ((outcome limit a).shape mode) = a.keepsNothing mode := by
  cases a with
  | response r =>
    replace ha : Envelope.isSuccessStatus r.status = true := ha
    simp only [outcome, Envelope.ofResponse, ha, if_true, Arrival.keepsNothing, understands, bodyReads,
      bodyData]
    cases hb : r.body.all Text.isAsciiBlankByte
    · cases hj : Json.ofBytes? r.body
      · rfl
      · simp [mayBeApplied_shape]
    · simp [mayBeApplied_shape]
  | networkFailure reason => rfl
  | timedOut => rfl
  | withdrawn => rfl

/-- **What a write leaves in the cache.** Of the arrivals after which a write may have been carried out,
those the client understands leave no entry of its table and no ticket of use that was taken before, for
whatever is done with the cache afterwards. The others leave the cache untouched. -/
theorem write_clears_table_iff {c₀ c : Client} {start : Nat} {r : Request} {options : Options}
    {withdrawn : Bool} {d : Dispatch} {m : Http.Message} {cache : Cache} {a : Arrival}
    (hw : r.isWrite = true) (hs : (c₀.start start r options withdrawn).1 = .sent d m)
    (hc : c.cache = some cache) (ha : a.mayFollowEffect = true) (now : Nat) (late : Bool) :
    ∃ after, (c.settle now d a late).2.cache = some after ∧
      (a.keepsNothing r.mode = true →
        (∀ x ∈ after.entries, r.table ∉ x.2.tables) ∧
        ∀ (older : Cache) (before later : List Cache.Op) (q : Request) (t : Nat) (value : Envelope Json)
          (lifetime : Option Duration), older.run before = cache → r.table ∈ q.tables →
          ((after.run later).commit t (older.reserve q) value lifetime).1 = false) ∧
      (a.keepsNothing r.mode = false → after = cache) := by
  have hd : d = ⟨r, options, none⟩ := by
    have hticket (c : Client) : c.reserve r options = none := by
      unfold reserve
      rw [not_usesCache_of_isWrite hw]
      rfl
    rw [eq_of_start_sent hs, hticket]
  subst hd
  have hmay := mayBeApplied_outcome (c.waitingTime options) r.mode ha
  have hleft : (c.settle now ⟨r, options, none⟩ a late).2.cache =
      some (if a.keepsNothing r.mode then (cache.invalidate (.table r.table)).2 else cache) := by
    rw [cache_settle hc]
    simp only [settle, cacheStored, cacheLeft, hw, hmay, Bool.true_and]
  refine ⟨_, hleft, fun hk => ?_, fun hk => by rw [hk]; rfl⟩
  simp only [hk, if_true]
  constructor
  · intro x hx
    have hx : (x.1, x.2.unused) ∈ (cache.invalidate (.table r.table)).2.contents :=
      Cache.mem_contents.mpr ⟨x.2, hx, rfl⟩
    have := Cache.not_mem_tables_of_invalidate cache r.table hx
    exact this
  · intro older before later q t value lifetime hbefore hq
    have hraised : older.tableEpoch r.table <
        (((cache.invalidate (.table r.table)).2).run later).tableEpoch r.table :=
      calc older.tableEpoch r.table
        _ ≤ cache.tableEpoch r.table := by
          rw [← hbefore]
          exact (Cache.follows_run older before).tableEpoch _
        _ < ((cache.invalidate (.table r.table)).2).tableEpoch r.table :=
          Cache.tableEpoch_lt_invalidate cache r.table
        _ ≤ _ := (Cache.follows_run _ later).tableEpoch _
    rw [Cache.commit_refused_of_raised hq hraised]

/-- A cache that holds one read of the table `t`. -/
def oneRead : Cache :=
  { Cache.empty .standard with
    entries := [("k", ⟨.success (some (.arr [])) none 200, 0, .ofSeconds 60, 1, ["t"], []⟩)], uses := 1 }

/-- The insertion of one row into the table `t`. -/
def oneInsertion : Request := ⟨"t", none, .post, .many, [], [], some "{}", ["t"]⟩

/-- A server that answers `201` without a body: the read of the table is gone. -/
theorem created_clears_table :
    ∃ m after, ((Client.plain oneRead).start 0 oneInsertion ⟨none, .bypass⟩ false).1 =
        .sent ⟨oneInsertion, ⟨none, .bypass⟩, none⟩ m ∧
      ((Client.plain oneRead).settle 0 ⟨oneInsertion, ⟨none, .bypass⟩, none⟩
        (.response ⟨201, [], []⟩) false).2.cache = some after ∧
      ∀ x ∈ after.entries, "t" ∉ x.2.tables := by
  obtain ⟨m, hm⟩ : ∃ m, ((Client.plain oneRead).start 0 oneInsertion ⟨none, .bypass⟩ false).1 =
    .sent ⟨oneInsertion, ⟨none, .bypass⟩, none⟩ m := ⟨_, rfl⟩
  obtain ⟨after, hafter, hclear, -⟩ := write_clears_table_iff (c := Client.plain oneRead)
    (a := .response ⟨201, [], []⟩) rfl hm rfl rfl 0 false
  exact ⟨m, after, hm, hafter, (hclear rfl).1⟩

/-- A server that answers `200` with a body that is no JSON: the read of the table stays. -/
theorem unread_success_keeps_entries :
    (Arrival.response ⟨200, [], [110]⟩).mayFollowEffect = true ∧
    ∃ m after, ((Client.plain oneRead).start 0 oneInsertion ⟨none, .bypass⟩ false).1 =
        .sent ⟨oneInsertion, ⟨none, .bypass⟩, none⟩ m ∧
      ((Client.plain oneRead).settle 0 ⟨oneInsertion, ⟨none, .bypass⟩, none⟩
        (.response ⟨200, [], [110]⟩) false).2.cache = some after ∧
      ∃ x ∈ after.entries, "t" ∈ x.2.tables :=
  ⟨rfl, _, oneRead, rfl, rfl, _, List.mem_cons_self, List.mem_cons_self⟩

end TableQuery.Client
