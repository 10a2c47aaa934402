import TableQuery.Client.Basic
import TableQuery.Proofs.Identifier
import TableQuery.Proofs.Query.Compile
import TableQuery.Proofs.Url.Steady

/-! Where a request goes.

A table's name is one segment of a path (`isName_of_isIdentifierText`), and a query string is read as it is written
(`splitTail_queryTail`). The address of a request is written behind the client's. If that has no query and no fragment,
the table comes behind its path (`urlFor_of_bare`); if it has, the table is taken for a part of these, and the path is
still the client's (`urlFor_of_tail`). -/
namespace TableQuery
open Url Url.Address Url.Path

/-! ### Tables in paths -/

theorem plain_of_isIdentifierPart {c : Char} (h : isIdentifierPart c = true) (hlt : c.toNat < 0x80) :
    Path.plain c = true ∧ 32 < c.toNat := by
  rw [isIdentifierPart, Text.isLetter_ascii hlt, Text.isNumeral_ascii hlt] at h
  exact of_ascii (p := fun c => (c.isAlpha || c.isDigit || c == '_' || c == '-') = true →
    Path.plain c = true ∧ 32 < c.toNat) (by decide) hlt h

theorem ne_dot_of_isIdentifierStart {c : Char} (h : isIdentifierStart c = true) (hlt : c.toNat < 0x80) :
    c.toLower ≠ '.' ∧ c.toLower ≠ '%' := by
  rw [isIdentifierStart, Text.isLetter_ascii hlt] at h
  exact of_ascii (p := fun c => (c.isAlpha || c == '_') = true → c.toLower ≠ '.' ∧ c.toLower ≠ '%') (by decide) hlt
    h

theorem isName_of_isIdentifierText {t : List Char} (h : isIdentifierText t = true) : IsName t := by
  have hpart := all_isIdentifierPart h
  have hmark {m : Char} (hm : isIdentifierPart m = false) : m ∉ t := fun hmem =>
    ne_of_isIdentifierPart (hpart m hmem) hm rfl
  have hfirst : IsKept (Path.encode t) ∧ Path.encode t ≠ [] := by
    cases t with
    | nil => exact nomatch h
    | cons c cs =>
      rcases Nat.lt_or_ge c.toNat 0x80 with hlt | hge
      · obtain ⟨hdot, hpercent⟩ := ne_dot_of_isIdentifierStart (Bool.and_eq_true_iff.mp h).1 hlt
        rw [encode_cons_of_plain (plain_of_isIdentifierPart (hpart c List.mem_cons_self) hlt).1]
        exact ⟨isKept_cons hdot hpercent, List.cons_ne_nil _ _⟩
      · exact isKept_encode_cons hge cs
  exact {
    unbroken := fun c hc => by
      simp only [isSlash, Bool.true_and, Bool.or_eq_false_iff, beq_eq_false_iff_ne]
      exact ⟨fun heq => hmark (by decide) (heq ▸ hc), fun heq => hmark (by decide) (heq ▸ hc)⟩
    kept := hfirst.1
    noMark := fun c hc => ⟨fun heq => hmark (by decide) (heq ▸ hc), fun heq => hmark (by decide) (heq ▸ hc)⟩
    visible := fun c hc => by
      rcases Nat.lt_or_ge c.toNat 0x80 with hlt | hge
      · exact (plain_of_isIdentifierPart (hpart c hc) hlt).2
      · omega
    ne_nil := hfirst.2
    not_drive := isDrive_encode (hmark (by decide)) (hmark (by decide)) }

namespace Client
variable {config : ClientConfig} {credentials : Option Credentials} {cache : Option Cache} {c : Client} {r : Request}

/-! ### Query strings behind a table -/

/-- What stands behind the table in the address of a request. -/
def queryTail (r : Request) : List Char := if r.params = [] then [] else '?' :: r.queryString.toList

theorem queryString_isEmpty (r : Request) : r.queryString.isEmpty = decide (r.params = []) := by
  have hiff : r.queryString = "" ↔ r.params = [] :=
    ⟨fun h => Form.encode_injective h, fun h => congrArg Form.encode h⟩
  rw [Bool.eq_iff_iff, String.isEmpty_iff, decide_eq_true_iff, hiff]

/-- No character of a query string is escaped once more. -/
theorem plain_of_mem_queryString {d : Char} (special : Bool) (h : d ∈ r.queryString.toList) :
    plainInQuery special d = true := by
  have hchar : Form.isFormChar d = true ∨ d = '=' ∨ d = '&' := by
    by_contra hnot
    simp only [not_or, Bool.not_eq_true] at hnot
    exact Form.not_mem_encode hnot.1 hnot.2.1 hnot.2.2 _ h
  rcases hchar with hform | rfl | rfl
  · have hlt : d.toNat < 0x80 := by
      rcases Bool.or_eq_true_iff.mp hform with h | h
      · exact lt_of_isAlphanum h
      · have hall : ['+', '%', '*', '-', '.', '_'].all (fun m => m.toNat < 0x80) = true := by decide
        simpa using List.all_eq_true.mp hall d (List.contains_iff_mem.mp h)
    exact of_ascii (p := fun d => ∀ special, Form.isFormChar d = true → plainInQuery special d = true) (by decide)
      hlt special hform
  · revert special
    decide
  · revert special
    decide

theorem isTail_queryTail (r : Request) : IsTail (queryTail r) := by
  unfold queryTail
  split
  · exact ⟨fun d hd => (nomatch hd), fun d hd => (nomatch hd)⟩
  · refine ⟨fun d hd => .inl (Option.some.inj hd).symm, List.forall_mem_cons.mpr ⟨by decide, fun d hd => ?_⟩⟩
    exact lt_of_isGraphic (isGraphic_of_plainInQuery (plain_of_mem_queryString false hd))

theorem splitTail_queryTail (r : Request) :
    (splitTail (queryTail r)).2.1 = if r.params = [] then none else some r.queryString.toList := by
  unfold queryTail
  split
  · rfl
  · have hmark : '#' ∉ '?' :: r.queryString.toList := by
      rintro (_ | ⟨_, h⟩)
      exact absurd (plain_of_mem_queryString false h) (by decide)
    rw [splitTail, Text.cut_of_not_mem hmark]
    rfl

/-! ### Behind the client's address -/

theorem toList_trimSlashes (text : String) : (trimSlashes text).toList = text.toList.rdropWhile (· == '/') := by
  rw [trimSlashes, String.toList_ofList, List.rdropWhile]

theorem urlFor_eq (c : Client) (r : Request) : c.urlFor r =
    String.ofList (c.address.render.toList.rdropWhile (· == '/') ++ '/' :: r.table.toList ++ queryTail r) := by
  rw [← String.toList_inj, String.toList_ofList, urlFor, urlBelow, queryString_isEmpty, queryTail]
  by_cases hparams : r.params = [] <;> simp [toList_trimSlashes, hparams]

theorem urlFor_of_bare (hsteady : IsSteady c.address) (hname : IsName r.table.toList)
    (hbare : c.address.tailText = []) :
    ∃ u, Address.parse (c.urlFor r) = .ok u ∧
      u.pathname = trimSlashes c.address.pathname ++ "/" ++ String.ofList (Path.encode r.table.toList) ∧
      u.query = if r.params = [] then none else some r.queryString := by
  obtain ⟨u, hu, hpath, special, hquery⟩ := hsteady.grown r.table.toList (queryTail r) hname (isTail_queryTail r)
  refine ⟨u, ?_, ?_, ?_⟩
  · rw [urlFor_eq, render_eq, hbare, List.append_nil, String.toList_ofList]
    exact hu
  · rw [← String.toList_inj, hpath]
    simp [toList_trimSlashes]
  · rw [hquery, splitTail_queryTail]
    split
    · rfl
    · have hkept := Form.flatMap_encodeUnless_of_plain fun d hd => plain_of_mem_queryString (r := r) special hd
      rw [Option.map_some, encodeWith, hkept, String.ofList_toList]

/-- Slashes are taken away behind the mark of a query or a fragment only. -/
theorem rdropWhile_append_tail (cs : List Char) {tail : List Char} (htail : IsTail tail) (hne : tail ≠ []) :
    ∃ rest, rest ≠ [] ∧ rest <+: tail ∧ (cs ++ tail).rdropWhile (· == '/') = cs ++ rest := by
  have hrest : tail.rdropWhile (· == '/') ≠ [] := by
    obtain ⟨mark, tail, rfl⟩ := List.exists_cons_of_ne_nil hne
    intro hnil
    have hslash := List.rdropWhile_eq_nil_iff.mp hnil mark List.mem_cons_self
    rcases htail.marked mark rfl with rfl | rfl <;> exact absurd hslash (by decide)
  refine ⟨_, hrest, List.rdropWhile_prefix _ tail, ?_⟩
  rw [List.rdropWhile, ne_eq, List.reverse_eq_nil_iff] at hrest
  rw [List.rdropWhile, List.reverse_append, List.dropWhile_append, if_neg (by simpa using hrest), List.reverse_append,
    List.reverse_reverse, List.rdropWhile]

theorem urlFor_of_tail (hsteady : IsSteady c.address) (hname : IsName r.table.toList)
    (hend : IsTail c.address.tailText) (htail : c.address.tailText ≠ []) :
    ∃ u, Address.parse (c.urlFor r) = .ok u ∧ u.pathname = c.address.pathname := by
  obtain ⟨rest, hne, hbegin, htext⟩ := rdropWhile_append_tail c.address.front hend htail
  have hrest : IsTail (rest ++ '/' :: r.table.toList ++ queryTail r) := by
    refine ⟨fun d hd => hend.marked d ?_, List.forall_mem_append.mpr ⟨List.forall_mem_append.mpr
      ⟨fun d hd => hend.visible d (hbegin.subset hd), List.forall_mem_cons.mpr ⟨by decide, hname.visible⟩⟩,
      (isTail_queryTail r).visible⟩⟩
    obtain ⟨more, hmore⟩ := hbegin
    rwa [← hmore, List.head?_append_of_ne_nil _ hne, ← List.head?_append_of_ne_nil _ hne, ← List.append_assoc]
  obtain ⟨u, hu, hpath, -⟩ := hsteady.kept _ (by simp [hne]) hrest
  refine ⟨u, ?_, String.toList_inj.mp hpath⟩
  rw [urlFor_eq, render_eq, String.toList_ofList, htext]
  simpa using hu

/-! ### Requests of a client -/

theorem isBase_of_build (hbuild : build config credentials cache = .ok c) : c.address.isBase = true := by
  obtain ⟨address, haddress, h⟩ := Chained.bind_eq_ok.mp hbuild
  obtain ⟨headers, -, h⟩ := Chained.bind_eq_ok.mp h
  obtain rfl := Except.ok.inj h
  unfold buildAddress at haddress
  split at haddress
  · exact nomatch haddress
  · split at haddress
    · next hbase => exact Except.ok.inj haddress ▸ hbase
    · exact nomatch haddress

theorem isIdentifier_of_compile
    (h : (∃ (q : Query) (mode : Mode), q.compileAs mode = .ok r) ∨ ∃ m : Mutation, m.compile = .ok r) :
    isIdentifier r.table = true := by
  rcases h with ⟨q, mode, h⟩ | ⟨m, h⟩
  · exact (Query.isRead_of_compileAs h).table
  · obtain ⟨-, htable, _, _, _, -, -, -, rfl⟩ := Mutation.parts_of_compile h
    exact htable

/-- **The address of a request is its table's below the client's, with the query of the request, if and only if the
client's has neither a query nor a fragment.** It can be read in any case. Addresses are taken to be read back from
what is written of them (`hread`), and the table is escaped in the path where it is not ASCII. -/
theorem urlFor_below_iff (hbuild : build config credentials cache = .ok c)
    (hread : Address.parse c.address.render = .ok c.address)
    (hcompile : (∃ (q : Query) (mode : Mode), q.compileAs mode = .ok r) ∨ ∃ m : Mutation, m.compile = .ok r) :
    ∃ u, Address.parse (c.urlFor r) = .ok u ∧
      ((u.pathname = trimSlashes c.address.pathname ++ "/" ++ String.ofList (Path.encode r.table.toList) ∧
          u.query = if r.params = [] then none else some r.queryString) ↔
        c.address.query = none ∧ c.address.fragment = none) := by
  have hbase := isBase_of_build hbuild
  have hsteady := steady_of_parse hread hbase
  have hname : IsName r.table.toList := isName_of_isIdentifierText (isIdentifier_of_compile hcompile)
  have hbare := tailText_eq_nil_iff c.address
  by_cases htail : c.address.tailText = []
  · obtain ⟨u, hu, hpath, hquery⟩ := urlFor_of_bare hsteady hname htail
    exact ⟨u, hu, iff_of_true ⟨hpath, hquery⟩ (hbare.mp htail)⟩
  · obtain ⟨u, hu, hpath⟩ := urlFor_of_tail hsteady hname (isWritten_of_parse hread hbase).tail htail
    refine ⟨u, hu, iff_of_false (fun h => ?_) (mt hbare.mpr htail)⟩
    have hslash : '/' ∉ Path.encode r.table.toList := hname.unbroken.encode.slash_not_mem
    refine rdropWhile_append_ne c.address.pathname.toList hname.ne_nil hslash ?_
    have htext := congrArg String.toList (h.1.symm.trans hpath)
    simpa [toList_trimSlashes] using htext

/-- What a client is built from of which only the address is given. -/
def addressOnly (url : String) : ClientConfig where
  url := url
  schema := none
  apiKey := none
  timeout := none
  headers := []
  cache := none

/-- The client of an interface on this machine, perhaps with a query in its address. -/
def localClient (query : Option String) : Client where
  address := ⟨"http", some "localhost:3000", "/rest/v1/", query, none, true⟩
  headers := []
  credentials := .none
  schema := none
  timeout := none
  cache := none
  sent := 0

theorem build_addressOnly {url : String} {query : Option String}
    (h : Address.parse url = .ok (localClient query).address) :
    build (addressOnly url) none none = .ok (localClient query) := by
  have haddress : buildAddress (addressOnly url) = .ok (localClient query).address := by
    unfold buildAddress
    rw [show (addressOnly url).url = url from rfl, h]
    rfl
  unfold build
  rw [haddress]
  rfl

/-- A read of one user. -/
def userById : Query := { Query.on "users" with filters := [Filter.test "id" .eq (.one (.int 1))] }

def userRequest : Request := ⟨"users", none, .get, .many, [("id", "eq.1")], [], none, ["users"]⟩

theorem compile_userById : userById.compileAs .many = .ok userRequest := by decide +kernel

/-- The slash at the end of the path is not doubled. -/
theorem urlFor_below_local :
    build (addressOnly "http://localhost:3000/rest/v1/") none none = .ok (localClient none) ∧
      Address.parse (localClient none).address.render = .ok (localClient none).address ∧
      userById.compileAs .many = .ok userRequest ∧
      ∃ u, Address.parse ((localClient none).urlFor userRequest) = .ok u ∧ u.pathname = "/rest/v1/users" ∧
        u.query = some "id=eq.1" := by
  have hparse : Address.parse "http://localhost:3000/rest/v1/" = .ok (localClient none).address := by decide +kernel
  have hread : Address.parse (localClient none).address.render = .ok (localClient none).address := by decide +kernel
  have hbuild := build_addressOnly hparse
  obtain ⟨u, hu, hiff⟩ := urlFor_below_iff hbuild hread (.inl ⟨userById, .many, compile_userById⟩)
  obtain ⟨hpath, hquery⟩ := hiff.mpr ⟨rfl, rfl⟩
  exact ⟨hbuild, hread, compile_userById, u, hu, hpath.trans (by decide +kernel), hquery.trans (by decide +kernel)⟩

/-- A key in the query of the client's address takes the table in. -/
theorem urlFor_not_below_keyed :
    build (addressOnly "http://localhost:3000/rest/v1/?apikey=k") none none = .ok (localClient (some "apikey=k")) ∧
      Address.parse (localClient (some "apikey=k")).address.render = .ok (localClient (some "apikey=k")).address ∧
      userById.compileAs .many = .ok userRequest ∧
      ∃ u, Address.parse ((localClient (some "apikey=k")).urlFor userRequest) = .ok u ∧
        u.pathname = "/rest/v1/" ∧ u.query = some "apikey=k/users?id=eq.1" ∧
        u.pathname ≠ trimSlashes (localClient (some "apikey=k")).address.pathname ++ "/" ++ userRequest.table ∧
        u.query ≠ some userRequest.queryString := by
  have hparse : Address.parse "http://localhost:3000/rest/v1/?apikey=k" =
      .ok (localClient (some "apikey=k")).address := by decide +kernel
  refine ⟨build_addressOnly hparse, by decide +kernel, compile_userById,
    ⟨"http", some "localhost:3000", "/rest/v1/", some "apikey=k/users?id=eq.1", none, true⟩, by decide +kernel,
    by decide +kernel, rfl, by decide +kernel, by decide +kernel⟩

end Client
end TableQuery
