import TableQuery.Proofs.Json.Members
import TableQuery.Proofs.Server.Reads
import TableQuery.Proofs.Server.Sorted

/-! Reads of whole rows.

With no selection the listing of a table is its rows themselves, those that pass what is asked of the root, in
the order asked for (`Store.listing_of_asksRows`). A client that receives such a row finds the texts and the
integers in it that the table has (`Envelope.scalar?_of_receives`). -/
namespace TableQuery
open Server

/-! ### What a client finds -/

namespace Json

/-- The text or the word that a member of an object is. -/
def scalar? (name : String) : Json → Option Scalar
  | .obj members =>
    match Fields.get? name members with
    | some (.str t) => some (.text t)
    | some (.num n) => ((num n).asInt64?).map fun n => .int (Int64.ofInt n)
    | _ => none
  | _ => none

variable {depth : Nat} {row received : Fields}

theorem names_of_rereadMember? (h : List.Forall₂ (fun m n => rereadMember? depth m = some n) row received) :
    received.names = row.names := by
  induction h with
  | nil => rfl
  | cons hm _ ih =>
    obtain ⟨v, -, rfl⟩ := Option.map_eq_some_iff.mp hm
    exact congrArg (_ :: ·) ih

theorem get?_of_rereadMember? (h : List.Forall₂ (fun m n => rereadMember? depth m = some n) row received)
    {name : String} {cell : Json} (hcell : Fields.get? name row = some cell) :
    ∃ v, reread? depth cell = some v ∧ Fields.get? name received = some v := by
  induction h with
  | nil => exact nomatch hcell
  | @cons m _ row received hm _ ih =>
    obtain ⟨v, hv, rfl⟩ := Option.map_eq_some_iff.mp hm
    obtain ⟨k, w⟩ := m
    rw [Fields.get?] at hcell ⊢
    split at hcell
    · next hk =>
      obtain rfl := Option.some.inj hcell
      exact ⟨v, hv, if_pos hk⟩
    · next hk =>
      obtain ⟨u, hu, hget⟩ := ih hcell
      exact ⟨u, hu, (if_neg hk).trans hget⟩

end Json

/-- A text without braces, or an integer that is exactly a binary64 value. -/
inductive Json.IsKey : Json → Prop where
  | text {t : String} (h : ∀ c ∈ t.toList, c ∉ ['\x7b', '\x7d']) : IsKey (.str t)
  | int {n : Int} (h : n.natAbs ≤ 2 ^ 53) : IsKey (.num (.int n))

/-- A text without braces, or a word. -/
inductive Scalar.IsKey : Scalar → Prop where
  | text {t : String} (h : ∀ c ∈ t.toList, c ∉ ['\x7b', '\x7d']) : IsKey (.text t)
  | int (n : Int64) : IsKey (.int n)

namespace Scalar.IsKey
variable {s : Scalar}

theorem isNull (h : s.IsKey) : s.isNull = false := by
  cases h <;> rfl

/-- Of the brackets only the round ones can be in it, which groups reserve. -/
theorem reservesBrackets (h : s.IsKey) : s.ReservesBrackets groupReserved := by
  cases h with
  | text hbraces =>
    intro _ c hc hbracket
    have hbrace := hbraces c hc
    simp only [List.mem_cons, List.not_mem_nil, or_false, not_or] at hbracket hbrace
    rcases hbracket with rfl | rfl | rfl | rfl
    · decide
    · decide
    · exact absurd rfl hbrace.1
    · exact absurd rfl hbrace.2
  | int n =>
    intro htext
    cases htext

end Scalar.IsKey

/-- A client finds under each name of a row that it was sent what is made of the cell. -/
theorem Envelope.exists_get?_of_receives {row : Row} {received : Json} (hordered : row.IsOrdered)
    (h : Receives Json.Decode.any (.obj row) received) :
    ∃ members : Fields, received = .obj members ∧ ∀ name cell, Fields.get? name row = some cell →
      ∃ v, cell.reread? 125 = some v ∧ Fields.get? name members = some v := by
  obtain ⟨v, hv, hany⟩ := h
  obtain rfl := Except.ok.inj hany
  rw [Json.reread?_obj, Option.map_eq_some_iff] at hv
  obtain ⟨members, hmembers, rfl⟩ := hv
  rw [Chained.mapM_eq_some] at hmembers
  have hmembersOrdered : Fields.IsOrdered members := by
    rw [Fields.IsOrdered, Json.names_of_rereadMember? hmembers]
    exact hordered
  rw [Fields.ofList_of_isOrdered hmembersOrdered]
  exact ⟨members, rfl, fun name cell => Json.get?_of_rereadMember? hmembers⟩

namespace Server
variable {p : Params} {cs : List Condition} {order : List OrderTerm} {limit : Option UInt64}

/-- Whole rows are asked for, the first so many that pass the conditions. -/
structure Params.AsksRows (p : Params) (cs : List Condition) (order : List OrderTerm)
    (limit : Option UInt64) : Prop where
  select : p.select = none
  range : p.range = none
  root : p.scope "" = ⟨cs, order, none, limit⟩

theorem Params.AsksRows.window (h : p.AsksRows cs order limit) : p.window "" = (0, limit) := by
  rw [window_of_range h.range, h.root]
  rfl

namespace Params
variable {p' : Params}

theorem keeps_put {name value : String} (h : p.put name value = .ok p') (hname : name ≠ "select") :
    p'.select = p.select ∧ p'.range = p.range := by
  cases puts_of_put h with
  | select _ hselect => exact absurd hselect hname
  | conflict => exact ⟨rfl, rfl⟩
  | columns => exact ⟨rfl, rfl⟩
  | scope => exact ⟨rfl, rfl⟩

theorem keeps_putAll {params : List Param} (h : p.putAll params = .ok p')
    (hnames : ∀ param ∈ params, param.1 ≠ "select") : p'.select = p.select ∧ p'.range = p.range := by
  induction params generalizing p with
  | nil => exact Except.ok.inj h ▸ ⟨rfl, rfl⟩
  | cons param params ih =>
    obtain ⟨hfirst, hrest⟩ := List.forall_mem_cons.mp hnames
    obtain ⟨p₁, hput, h⟩ := putAll_cons_ok h
    obtain ⟨hselect, hrange⟩ := keeps_put hput hfirst
    obtain ⟨hselect', hrange'⟩ := ih h hrest
    exact ⟨hselect'.trans hselect, hrange'.trans hrange⟩

end Params
end Server
end TableQuery
