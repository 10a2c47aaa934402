import Mathlib.Data.List.Induction
import TableQuery.Proofs.Server.Changes
import TableQuery.Proofs.Server.Keys

/-! Tables whose rows have distinct keys.

Of the writes only an insertion under the key as its conflict target looks whether a key is there already, and is
turned down for it. An insertion under another target, a merge under it and a patch bring keys that nothing is
compared with. So the keys of a table stay distinct along a run of requests if each of them spares them, and where
no request merges several rows, only then (`keysDistinct_serve`). A patch that does not is answered like any other
(`patch_repeats_key`). -/
namespace TableQuery.Server

namespace Store
variable {s : Store} {p : Params} {name other : String} {body : List UInt8} {t : Table}

/-- An insertion under another target than the key brings keys that no row has. -/
def InsertSparesKeys (s : Store) (p : Params) (name : String) (body : List UInt8) : Prop :=
  p.conflict.getD [keyColumn] ≠ [keyColumn] → ∀ incoming t staged, rowsOfBody body = .ok incoming →
    s.stage p name body = .ok (t, staged) →
      Staged.AllSpareKeys name t (p.conflict.getD [keyColumn]) p.resolution ⟨t.rows, []⟩ incoming

def UpdateSparesKeys (s : Store) (p : Params) (name : String) (body : List UInt8) : Prop :=
  ∀ t patch, s.checkUpdate p name body = .ok (t, patch) →
    PatchSparesKeys (p.scope "").conditions patch t.rows

/-! ### The rows that a write leaves -/

theorem rows_of_table (h : s.table name = .ok t) : s.rows name = t.rows :=
  rows_of_table? (table?_of_table h)

theorem rows_setRows_of_ne (rows : List Row) (h : other ≠ name) :
    (s.setRows name t rows).rows other = s.rows other := by
  unfold Store.rows
  rw [table?_setRows_of_ne s t rows h]

theorem rowOf_eq_ok {v : Json} {row : Row} (h : rowOf v = .ok row) : v = .obj row := by
  cases v with
  | obj members => exact congrArg Json.obj (Except.ok.inj h)
  | _ => exact nomatch h

theorem isOrdered_of_rowsOfBody {incoming : List Row} (h : rowsOfBody body = .ok incoming) :
    ∀ row ∈ incoming, Fields.IsOrdered row := by
  unfold rowsOfBody at h
  split at h
  · exact nomatch h
  · next members hbody =>
    obtain rfl := Except.ok.inj h
    simpa using Json.isOrdered_of_ofBytes? hbody
  · next items hbody =>
    intro row hrow
    obtain ⟨v, hv, hitem⟩ := Chained.exists_of_mem_mapM h hrow
    exact Json.isOrdered_of_mem_items hbody (rowOf_eq_ok hitem ▸ hv)
  · exact nomatch h

theorem isOrdered_of_patchOfBody {patch : Row} (h : patchOfBody body = .ok patch) : patch.IsOrdered := by
  unfold patchOfBody at h
  split at h
  · exact nomatch h
  · next members hbody =>
    obtain rfl := Except.ok.inj h
    exact Json.isOrdered_of_ofBytes? hbody
  · exact nomatch h

/-- Rows that have been read and checked go in, or are turned down, one by one. -/
theorem stage_of_checked (p : Params) {incoming : List Row} (hincoming : rowsOfBody body = .ok incoming)
    (ht : s.table name = .ok t) (hpayload : incoming.forM (checkPayload name t) = .ok ()) :
    s.stage p name body =
      (incoming.foldlM (Staged.put name t (p.conflict.getD [keyColumn]) p.resolution) ⟨t.rows, []⟩).map
        (t, ·) := by
  unfold stage
  rw [hincoming, ht]
  show (orRefusal (incoming.forM (checkPayload name t)) >>= fun _ => _) = _
  rw [hpayload]
  show (_ >>= fun staged => Except.ok (t, staged)) = _
  cases incoming.foldlM (Staged.put name t (p.conflict.getD [keyColumn]) p.resolution) ⟨t.rows, []⟩ <;> rfl

theorem insert_snd_of_ok {staged : Staged} (h : s.stage p name body = .ok (t, staged)) :
    (s.insert p name body).2 = s.setRows name t staged.rows := by
  unfold insert
  rw [h]

theorem insert_of_stage_error {halt : Halt} (h : s.stage p name body = .error halt) :
    s.insert p name body = (.error halt, s) := by
  unfold insert
  rw [h]

theorem update_snd_of_ok {patch : Row} (h : s.checkUpdate p name body = .ok (t, patch)) :
    (s.update p name body).2 = s.setRows name t (patchRows (p.scope "").conditions patch t.rows).2 := by
  unfold update
  rw [h]
  dsimp only
  split <;> rfl

theorem update_snd_of_error {r : Rejection} (h : s.checkUpdate p name body = .error r) :
    (s.update p name body).2 = s := by
  unfold update
  rw [h]

/-- A deletion keeps some of the rows, or all, or none. -/
theorem sublist_delete : ((s.delete p name).2.rows name).Sublist (s.rows name) := by
  unfold delete
  split
  · exact List.Sublist.refl _
  · next t ht =>
    have hrows := rows_of_table (table_of_checkDelete ht)
    split
    · rw [rows_setRows]
      exact List.nil_sublist _
    · next kept gone hdivide =>
      rcases testable_or_fault (p.scope "").conditions t.rows with htest | ⟨_, _, _, _, hfault, hbefore, hrow⟩
      · rw [divide_of_testable htest] at hdivide
        obtain ⟨rfl, -⟩ := Prod.mk.inj (Except.ok.inj hdivide)
        rw [rows_setRows, hrows]
        exact List.filter_sublist
      · rw [hfault, divide_of_fault hbefore hrow] at hdivide
        exact nomatch hdivide

/-! ### The keys that a write leaves -/

/-- The keys stay distinct where an insertion spares them; and only there, unless it merges several rows. -/
theorem keysDistinct_insert (p : Params) (body : List UInt8) (hkeys : KeysDistinct (s.rows name)) :
    (s.InsertSparesKeys p name body → KeysDistinct ((s.insert p name body).2.rows name)) ∧
      (KeysDistinct ((s.insert p name body).2.rows name) →
        (p.resolution = some .merge → ∀ incoming, rowsOfBody body = .ok incoming → incoming.length ≤ 1) →
          s.InsertSparesKeys p name body) := by
  cases hstage : s.stage p name body with
  | error r =>
    rw [insert_of_stage_error hstage]
    refine ⟨fun _ => hkeys, fun _ _ _ incoming t staged _ hok => ?_⟩
    exact nomatch hstage.symm.trans hok
  | ok x =>
    obtain ⟨t, staged⟩ := x
    obtain ⟨incoming, hincoming, ht, -, hput⟩ := stage_eq_ok.mp hstage
    have hrows := isOrdered_of_rowsOfBody hincoming
    have hbefore : KeysDistinct (Staged.rows ⟨t.rows, []⟩) := rows_of_table ht ▸ hkeys
    rw [insert_snd_of_ok hstage, rows_setRows]
    constructor
    · intro hspares
      by_cases htarget : p.conflict.getD [keyColumn] = [keyColumn]
      · rw [htarget] at hput
        exact keysDistinct_putAll hrows hput hbefore (allSpareKeys_of_keyTarget hrows hbefore)
      · exact keysDistinct_putAll hrows hput hbefore (hspares htarget incoming t staged hincoming hstage)
    · intro hafter hsingle _ incoming' t' staged' hincoming' hstage'
      obtain rfl := Except.ok.inj (hincoming.symm.trans hincoming')
      obtain ⟨rfl, rfl⟩ := Prod.mk.inj (Except.ok.inj (hstage.symm.trans hstage'))
      refine allSpareKeys_of_keysDistinct hrows ?_ hput hbefore hafter
      by_cases hmerge : p.resolution = some .merge
      · exact .inr (hsingle hmerge incoming hincoming)
      · exact .inl hmerge

theorem keysDistinct_update (hkeys : KeysDistinct (s.rows name)) :
    KeysDistinct ((s.update p name body).2.rows name) ↔ s.UpdateSparesKeys p name body := by
  cases hcheck : s.checkUpdate p name body with
  | error r =>
    rw [update_snd_of_error hcheck]
    exact iff_of_true hkeys fun t patch hok => nomatch hcheck.symm.trans hok
  | ok x =>
    obtain ⟨t, patch⟩ := x
    obtain ⟨hbody, ht, -, -⟩ := checkUpdate_eq_ok.mp hcheck
    rw [rows_of_table ht] at hkeys
    have hpatch := isOrdered_of_patchOfBody hbody
    rw [update_snd_of_ok hcheck, rows_setRows, keysDistinct_patchRows hpatch hkeys]
    refine ⟨fun hspares t' patch' hok => ?_, fun hspares => hspares t patch hcheck⟩
    obtain ⟨rfl, rfl⟩ := Prod.mk.inj (Except.ok.inj (hcheck.symm.trans hok))
    exact hspares

/-! ### Other tables -/

theorem rows_insert_of_ne (h : other ≠ name) : (s.insert p name body).2.rows other = s.rows other := by
  unfold insert
  split
  · rfl
  · exact rows_setRows_of_ne _ h

theorem rows_update_of_ne (h : other ≠ name) : (s.update p name body).2.rows other = s.rows other := by
  unfold update
  split
  · rfl
  · dsimp only
    split <;> exact rows_setRows_of_ne _ h

theorem rows_delete_of_ne (h : other ≠ name) : (s.delete p name).2.rows other = s.rows other := by
  unfold delete
  split
  · rfl
  · split <;> exact rows_setRows_of_ne _ h

end Store
variable {server : Server} {name : String} {t : Http.Target} {m : Http.Message}

/-! ### Requests -/

/-- Whatever a request puts into a table, or sets there, leaves the keys distinct. -/
def SparesKeys (server : Server) (name : String) (t : Http.Target) (m : Http.Message) : Prop :=
  route t.path = .table name → ∀ p, server.vet m.method name t.query m.headers = .ok p →
    (m.method = "POST" → server.store.InsertSparesKeys p name (m.body.getD [])) ∧
      (m.method = "PATCH" → server.store.UpdateSparesKeys p name (m.body.getD []))

/-- The request merges several rows into a table. One of them can undo what another has done. -/
def MergesSeveral (server : Server) (name : String) (t : Http.Target) (m : Http.Message) : Prop :=
  route t.path = .table name ∧ m.method = "POST" ∧ ∃ p incoming,
    server.vet m.method name t.query m.headers = .ok p ∧ p.resolution = some .merge ∧
      Store.rowsOfBody (m.body.getD []) = .ok incoming ∧ 1 < incoming.length

theorem rows_process_of_ne {method query other : String} {headers : Http.Headers} {body : List UInt8}
    (h : other ≠ name) :
    (server.process method name query headers body).2.rows other = server.store.rows other :=
  process_snd_of (P := fun s => s.rows other = server.store.rows other) rfl
    (fun _ => Store.rows_insert_of_ne h) (fun _ => Store.rows_update_of_ne h) fun _ => Store.rows_delete_of_ne h

/-- A request that does not lead to the table leaves its rows alone. -/
theorem rows_respond_of_ne (h : route t.path ≠ .table name) :
    (server.respond t m).2.store.rows name = server.store.rows name := by
  by_cases htable : ∃ other, route t.path = .table other
  · obtain ⟨other, hroute⟩ := htable
    rw [(respond_of_route server m hroute).2]
    exact rows_process_of_ne fun heq => h (heq ▸ hroute)
  · rw [respond_of_not_table server m (not_exists.mp htable)]

/-- A request that was admitted inserts, patches or deletes rows, or leaves the store alone. -/
theorem process_snd {method query : String} {headers : Http.Headers} {body : List UInt8} {p : Params}
    (hvet : server.vet method name query headers = .ok p) :
    (server.process method name query headers body).2 =
      if method = "POST" then (server.store.insert p name body).2
      else if method = "PATCH" then (server.store.update p name body).2
      else if method = "DELETE" then (server.store.delete p name).2
      else server.store := by
  unfold process
  rw [hvet]
  dsimp only
  split
  · rfl
  · rfl
  · rfl
  · rfl
  · rfl
  · next hpost hpatch hdelete => rw [if_neg hpost, if_neg hpatch, if_neg hdelete]

/-- **One request.** The keys of a table stay distinct if the request spares them; and only then, unless it
merges several rows. -/
theorem keysDistinct_respond (hkeys : KeysDistinct (server.store.rows name)) :
    (server.SparesKeys name t m → KeysDistinct ((server.respond t m).2.store.rows name)) ∧
      (KeysDistinct ((server.respond t m).2.store.rows name) → ¬server.MergesSeveral name t m →
        server.SparesKeys name t m) := by
  by_cases hroute : route t.path = .table name
  · rw [(respond_of_route server m hroute).2]
    unfold SparesKeys
    rw [imp_iff_right hroute]
    cases hvet : server.vet m.method name t.query m.headers with
    | error r =>
      rw [process_of_vet_error hvet]
      exact ⟨fun _ => hkeys, fun _ _ p hok => nomatch hok⟩
    | ok p =>
      rw [process_snd hvet]
      by_cases hpost : m.method = "POST"
      · rw [if_pos hpost]
        have hinsert := Store.keysDistinct_insert p (m.body.getD []) hkeys
        refine ⟨fun hspares => hinsert.1 ((hspares p rfl).1 hpost), fun hafter hsingle p' hok => ?_⟩
        obtain rfl := Except.ok.inj hok
        refine ⟨fun _ => hinsert.2 hafter fun hmerge incoming hincoming => ?_, fun hpatch => ?_⟩
        · exact Nat.not_lt.mp fun hseveral =>
            hsingle ⟨hroute, hpost, _, incoming, hvet, hmerge, hincoming, hseveral⟩
        · exact absurd (hpost.symm.trans hpatch) (by decide)
      rw [if_neg hpost]
      by_cases hpatch : m.method = "PATCH"
      · rw [if_pos hpatch, Store.keysDistinct_update hkeys]
        refine ⟨fun hspares => (hspares p rfl).2 hpatch, fun hafter _ p' hok => ?_⟩
        obtain rfl := Except.ok.inj hok
        exact ⟨fun h => absurd h hpost, fun _ => hafter⟩
      rw [if_neg hpatch]
      refine ⟨fun _ => ?_, fun _ _ _ _ => ⟨fun h => absurd h hpost, fun h => absurd h hpatch⟩⟩
      split
      · exact hkeys.sublist Store.sublist_delete
      · exact hkeys
  · rw [rows_respond_of_ne hroute]
    exact ⟨fun _ => hkeys, fun _ _ hname => absurd hname hroute⟩

/-! ### Insertions under the key -/

/-- The request inserts rows under the key as the conflict target, and does not say what to do about a
conflict; its rows have columns of the table only. -/
structure InsertsByKey (server : Server) (name : String) (t : Http.Target) (m : Http.Message) (table : Table)
    (incoming : List Row) : Prop where
  route : route t.path = .table name
  method : m.method = "POST"
  params : ∃ p, server.vet "POST" name t.query m.headers = .ok p ∧
    p.conflict.getD [keyColumn] = [keyColumn] ∧ p.resolution = none
  rows : Store.rowsOfBody (m.body.getD []) = .ok incoming
  found : server.store.table name = .ok table
  payload : incoming.forM (Store.checkPayload name table) = .ok ()

/-- Such a request is turned down exactly if a key would be there twice, as long as there are keys to give. Whatever is
not put in changes nothing. -/
theorem respond_of_insertsByKey {table : Table} {incoming : List Row}
    (h : server.InsertsByKey name t m table incoming) (hkeys : KeysDistinct (server.store.rows name)) :
    (Store.KeysSuffice table table.rows incoming →
      if KeysDistinct (Store.appended table table.rows incoming) then
        (server.respond t m).2.store.rows name = Store.appended table table.rows incoming
      else ∃ values,
        server.respond t m = (some (Rejection.duplicateKey name keyColumn values).toResponse, server)) ∧
    (¬Store.KeysSuffice table table.rows incoming → (server.respond t m).2 = server) := by
  obtain ⟨p, hvet, htarget, hresolution⟩ := h.params
  have hstage := Store.stage_of_checked p h.rows h.found h.payload
  rw [htarget, hresolution] at hstage
  have hprocess : server.process m.method name t.query m.headers (m.body.getD []) =
      server.store.insert p name (m.body.getD []) := by
    rw [h.method]
    exact process_post hvet
  have hserver := (respond_of_route server m h.route).2
  rw [hprocess] at hserver
  refine ⟨fun hsuffice => ?_, fun hshort => ?_⟩
  · have hbefore : KeysDistinct (Store.Staged.mk table.rows []).rows := Store.rows_of_table h.found ▸ hkeys
    have hputs := Store.putAll_keyTarget name table incoming hbefore hsuffice
    split at hputs
    · next hdistinct =>
      obtain ⟨affected, hput⟩ := hputs
      rw [hput] at hstage
      rw [if_pos hdistinct, hserver, Store.insert_snd_of_ok hstage, Store.rows_setRows]
    · next hrepeated =>
      obtain ⟨values, hput⟩ := hputs
      rw [hput] at hstage
      have hanswer : server.answer t m =
          (some (Rejection.duplicateKey name keyColumn values).toResponse, server) := by
        unfold answer
        rw [h.route]
        dsimp only
        rw [hprocess, Store.insert_of_stage_error hstage]
        rfl
      rw [if_neg hrepeated]
      refine ⟨values, ?_⟩
      unfold respond
      rw [hanswer, h.method]
      rfl
  · cases hput : incoming.foldlM (Store.Staged.put name table [keyColumn] none) ⟨table.rows, []⟩ with
    | ok staged => exact absurd (Store.keysSuffice_of_putAll hput) hshort
    | error halt =>
      rw [hput] at hstage
      rw [hserver, Store.insert_of_stage_error hstage]

/-! ### Runs -/

/-- The server after a run of requests. -/
def serve (server : Server) (requests : List (Http.Target × Http.Message)) : Server :=
  requests.foldl (fun s r => (s.respond r.1 r.2).2) server

theorem serve_concat (server : Server) (requests : List (Http.Target × Http.Message))
    (r : Http.Target × Http.Message) :
    server.serve (requests ++ [r]) = ((server.serve requests).respond r.1 r.2).2 := by
  simp [serve]

/-- **Keys stay distinct where they are spared.** In a table whose rows have distinct keys they are distinct after
every request of a run if each request spares them; and if they are, each request has spared them that does not
merge several rows. An insertion under the key as the conflict target always does: as long as there are keys to give it
is turned down, and changes nothing, exactly if a key would be there twice, and it changes nothing where there are
none. -/
theorem keysDistinct_serve (server : Server) (name : String) (hkeys : KeysDistinct (server.store.rows name)) :
    (∀ requests : List (Http.Target × Http.Message),
      ((∀ first r later, requests = first ++ r :: later → (server.serve first).SparesKeys name r.1 r.2) →
        ∀ first later, requests = first ++ later → KeysDistinct ((server.serve first).store.rows name)) ∧
      ((∀ first later, requests = first ++ later → KeysDistinct ((server.serve first).store.rows name)) →
        ∀ first r later, requests = first ++ r :: later →
          ¬(server.serve first).MergesSeveral name r.1 r.2 → (server.serve first).SparesKeys name r.1 r.2)) ∧
    ∀ t m table incoming, server.InsertsByKey name t m table incoming →
      (Store.KeysSuffice table table.rows incoming →
        if KeysDistinct (Store.appended table table.rows incoming) then
          (server.respond t m).2.store.rows name = Store.appended table table.rows incoming
        else ∃ values,
          server.respond t m = (some (Rejection.duplicateKey name keyColumn values).toResponse, server)) ∧
      (¬Store.KeysSuffice table table.rows incoming → (server.respond t m).2 = server) := by
  refine ⟨fun requests => ⟨fun hspares first later hrequests => ?_,
    fun hdistinct first r later hrequests => ?_⟩,
    fun t m table incoming h => respond_of_insertsByKey h hkeys⟩
  · induction first using List.reverseRecOn generalizing later with
    | nil => exact hkeys
    | append_singleton first r ih =>
      have hrequests : requests = first ++ r :: later := by simpa using hrequests
      rw [serve_concat]
      exact (keysDistinct_respond (ih (r :: later) hrequests)).1 (hspares first r later hrequests)
  · have hafter := hdistinct (first ++ [r]) later (by simpa using hrequests)
    rw [serve_concat] at hafter
    exact (keysDistinct_respond (hdistinct first (r :: later) hrequests)).2 hafter

/-- The insertion of a row whose key is there already leaves the keys distinct: it is turned down. -/
theorem keysDistinct_serve_secondOne :
    KeysDistinct (twoRows.store.rows "t") ∧
      KeysDistinct ((twoRows.serve [(⟨['/', 't'], ""⟩, secondOne)]).store.rows "t") ∧
      twoRows.status? ⟨['/', 't'], ""⟩ secondOne = some 409 := by
  have hkeys : KeysDistinct (twoRows.store.rows "t") := by decide +kernel
  have htarget : (twoRows.vet "POST" "t" "" []).toOption.map Params.conflict = some none := by decide +kernel
  have hspares : twoRows.SparesKeys "t" ⟨['/', 't'], ""⟩ secondOne := by
    intro _ p hvet
    replace hvet : twoRows.vet "POST" "t" "" [] = .ok p := hvet
    rw [hvet] at htarget
    have hnone : p.conflict = none := Option.some.inj htarget
    exact ⟨fun _ hother => absurd (by rw [hnone]; rfl) hother, fun hpatch => absurd hpatch (by decide)⟩
  have hrun := ((keysDistinct_serve twoRows "t" hkeys).1 [(⟨['/', 't'], ""⟩, secondOne)]).1
  refine ⟨hkeys, hrun ?_ _ [] rfl, by decide +kernel⟩
  intro first r later hrequests
  obtain ⟨rfl, rfl, rfl⟩ : first = [] ∧ r = (⟨['/', 't'], ""⟩, secondOne) ∧ later = [] := by
    cases first with
    | nil => exact ⟨rfl, (List.cons.inj hrequests).1.symm, (List.cons.inj hrequests).2.symm⟩
    | cons _ first => simp at hrequests
  exact hspares

/-- A patch that gives the second row the key of the first. -/
def patchOfKey : Http.Message := ⟨"PATCH", "/t?id=eq.2", [], some [123, 34, 105, 100, 34, 58, 49, 125]⟩

/-- It is carried out and answered with a success, and both rows have the key then. -/
theorem patch_repeats_key :
    KeysDistinct (twoRows.store.rows "t") ∧
      twoRows.status? ⟨['/', 't'], "id=eq.2"⟩ patchOfKey = some 204 ∧
      ¬KeysDistinct ((twoRows.respond ⟨['/', 't'], "id=eq.2"⟩ patchOfKey).2.store.rows "t") := by
  refine ⟨?_, ?_, ?_⟩ <;> decide +kernel

end TableQuery.Server
