import Mathlib.Data.List.Forall2

/-! Computations that may fail, one after the other.

A chain has succeeded if each of its parts has (`bind_eq_ok`, `map_eq_ok`), and so has a computation for each
item of a list (`mapM_eq_ok`, `mapM_eq_some`). Where none of them fails, what they keep of the list is what a plain
filter does (`filterM_of_ok`, `filterMapM_of_ok`). Where one fails, its error is the chain's (`bind_eq_error`,
`exists_of_filterMapM_eq_error`, `exists_of_foldlM_eq_error`). -/
namespace TableQuery.Chained
variable {ε α β : Type}

theorem bind_eq_ok {x : Except ε α} {f : α → Except ε β} {b : β} :
    (x >>= f) = .ok b ↔ ∃ a, x = .ok a ∧ f a = .ok b := by
  cases x with
  | error e => exact ⟨fun h => (nomatch h), fun ⟨_, h, _⟩ => nomatch h⟩
  | ok a => exact ⟨fun h => ⟨a, rfl, h⟩, fun ⟨_, ha, h⟩ => Except.ok.inj ha ▸ h⟩

theorem bind_eq_error {x : Except ε α} {f : α → Except ε β} {e : ε} :
    (x >>= f) = .error e ↔ x = .error e ∨ ∃ a, x = .ok a ∧ f a = .error e := by
  cases x with
  | error e' =>
    refine ⟨fun h => .inl (congrArg Except.error (Except.error.inj h)), ?_⟩
    rintro (h | ⟨_, h, -⟩)
    · exact congrArg Except.error (Except.error.inj h)
    · exact nomatch h
  | ok a =>
    refine ⟨fun h => .inr ⟨a, rfl, h⟩, ?_⟩
    rintro (h | ⟨_, ha, h⟩)
    · exact nomatch h
    · exact Except.ok.inj ha ▸ h

theorem map_eq_ok {x : Except ε α} {f : α → β} {b : β} : x.map f = .ok b ↔ ∃ a, x = .ok a ∧ f a = b := by
  cases x with
  | error e => exact ⟨fun h => (nomatch h), fun ⟨_, h, _⟩ => nomatch h⟩
  | ok a => exact ⟨fun h => ⟨a, rfl, Except.ok.inj h⟩, fun ⟨_, ha, h⟩ => Except.ok.inj ha ▸ h ▸ rfl⟩

/-- What follows a guard has succeeded if the whole has. -/
theorem of_guard_eq_ok {p : Prop} [Decidable p] {e : ε} {f : Unit → Except ε α} {a : α}
    (h : (if p then (Except.error e >>= f) else f ()) = .ok a) : f () = .ok a := by
  split at h
  · exact nomatch h
  · exact h

theorem exists_of_ite_bind_eq_ok {p : Prop} [Decidable p] {x y : Except ε α} {f : α → Except ε β} {b : β}
    (h : (if p then x >>= f else y >>= f) = .ok b) : ∃ a, (if p then x else y) = .ok a ∧ f a = .ok b := by
  split at h
  · next hp => simpa only [if_pos hp] using bind_eq_ok.mp h
  · next hp => simpa only [if_neg hp] using bind_eq_ok.mp h

theorem mapM_eq_ok {f : α → Except ε β} {as : List α} {bs : List β} :
    as.mapM f = .ok bs ↔ List.Forall₂ (fun a b => f a = .ok b) as bs := by
  induction as generalizing bs with
  | nil => exact ⟨fun h => Except.ok.inj h ▸ .nil, fun h => by cases h; rfl⟩
  | cons a as ih =>
    rw [List.mapM_cons, bind_eq_ok]
    constructor
    · rintro ⟨b, hb, h⟩
      obtain ⟨bs, hbs, h⟩ := bind_eq_ok.mp h
      obtain rfl := Except.ok.inj h
      exact .cons hb (ih.mp hbs)
    · intro h
      cases h with
      | cons hb hbs => exact ⟨_, hb, bind_eq_ok.mpr ⟨_, ih.mpr hbs, rfl⟩⟩

/-- Whatever stands on the right is related to something on the left. -/
theorem exists_of_forall₂ {R : α → β → Prop} {as : List α} {bs : List β} (h : List.Forall₂ R as bs) {b : β}
    (hb : b ∈ bs) : ∃ a ∈ as, R a b := by
  induction h with
  | nil => exact nomatch hb
  | cons ha _ ih =>
    rcases List.mem_cons.mp hb with rfl | hb
    · exact ⟨_, List.mem_cons_self, ha⟩
    · obtain ⟨a, hmem, hab⟩ := ih hb
      exact ⟨a, List.mem_cons_of_mem _ hmem, hab⟩

/-- Every result is one of some item's. -/
theorem exists_of_mem_mapM {f : α → Except ε β} {as : List α} {bs : List β} (h : as.mapM f = .ok bs) {b : β}
    (hb : b ∈ bs) : ∃ a ∈ as, f a = .ok b := exists_of_forall₂ (mapM_eq_ok.mp h) hb

theorem mapM_eq_some {f : α → Option β} {as : List α} {bs : List β} :
    as.mapM f = some bs ↔ List.Forall₂ (fun a b => f a = some b) as bs := by
  induction as generalizing bs with
  | nil => exact ⟨fun h => Option.some.inj h ▸ .nil, fun h => by cases h; rfl⟩
  | cons a as ih =>
    rw [List.mapM_cons, Option.bind_eq_bind, Option.bind_eq_some_iff]
    constructor
    · rintro ⟨b, hb, h⟩
      obtain ⟨bs, hbs, h⟩ := Option.bind_eq_some_iff.mp h
      obtain rfl := Option.some.inj h
      exact .cons hb (ih.mp hbs)
    · intro h
      cases h with
      | cons hb hbs => exact ⟨_, hb, Option.bind_eq_some_iff.mpr ⟨_, ih.mpr hbs, rfl⟩⟩

theorem filterM_of_ok {f : α → Except ε Bool} {keep : α → Bool} {as : List α}
    (h : ∀ a ∈ as, f a = .ok (keep a)) : as.filterM f = .ok (as.filter keep) := by
  have haux (acc : List α) : List.filterAuxM f as acc = .ok ((as.filter keep).reverse ++ acc) := by
    induction as generalizing acc with
    | nil => rfl
    | cons a as ih =>
      obtain ⟨ha, has⟩ := List.forall_mem_cons.mp h
      rw [List.filterAuxM, ha]
      show List.filterAuxM f as (cond (keep a) (a :: acc) acc) = _
      rw [ih has]
      cases hkeep : keep a <;> simp [hkeep]
  rw [List.filterM, haux []]
  simp [bind, Except.bind, pure, Except.pure]

/-- What has been kept of a list is what a plain filter keeps, and no test has failed. -/
theorem exists_of_filterM_eq_ok {f : α → Except ε Bool} {as kept : List α} (h : as.filterM f = .ok kept) :
    ∃ keep : α → Bool, (∀ a ∈ as, f a = .ok (keep a)) ∧ as.filter keep = kept := by
  have htested {bs acc out : List α} (h : List.filterAuxM f bs acc = .ok out) : ∀ a ∈ bs, ∃ hit, f a = .ok hit := by
    induction bs generalizing acc with
    | nil => exact fun _ ha => nomatch ha
    | cons a bs ih =>
      obtain ⟨hit, hhit, hrest⟩ := bind_eq_ok.mp h
      exact List.forall_mem_cons.mpr ⟨⟨hit, hhit⟩, ih hrest⟩
  let keep (a : α) : Bool :=
    match f a with
    | .ok hit => hit
    | .error _ => false
  have hall : ∀ a ∈ as, f a = .ok (keep a) := by
    intro a ha
    obtain ⟨out, hout, -⟩ := bind_eq_ok.mp h
    obtain ⟨hit, hhit⟩ := htested hout a ha
    simp only [keep, hhit]
  exact ⟨keep, hall, Except.ok.inj ((filterM_of_ok hall).symm.trans h)⟩

theorem filterMapM_of_ok {f : α → Except ε (Option β)} {g : α → Option β} {as : List α}
    (h : ∀ a ∈ as, f a = .ok (g a)) : as.filterMapM f = .ok (as.filterMap g) := by
  induction as with
  | nil => rfl
  | cons a as ih =>
    obtain ⟨ha, has⟩ := List.forall_mem_cons.mp h
    rw [List.filterMapM_cons, ha, List.filterMap_cons]
    show (match g a with | none => as.filterMapM f | some b => _) = _
    rw [ih has]
    cases g a <;> rfl

/-- What has been kept of a list is what none of the computations failed to keep. -/
theorem exists_of_filterMapM_eq_ok {f : α → Except ε (Option β)} {as : List α} {bs : List β}
    (h : as.filterMapM f = .ok bs) :
    ∃ g : α → Option β, (∀ a ∈ as, f a = .ok (g a)) ∧ as.filterMap g = bs := by
  let g (a : α) : Option β :=
    match f a with
    | .ok b => b
    | .error _ => none
  have hall : ∀ a ∈ as, f a = .ok (g a) := by
    induction as generalizing bs with
    | nil => exact fun _ ha => nomatch ha
    | cons a as ih =>
      rw [List.filterMapM_cons] at h
      obtain ⟨b, hb, h⟩ := bind_eq_ok.mp h
      have hfirst : f a = .ok (g a) := by simp only [g, hb]
      cases b with
      | none => exact List.forall_mem_cons.mpr ⟨hfirst, ih h⟩
      | some b =>
        obtain ⟨bs, hbs, -⟩ := bind_eq_ok.mp h
        exact List.forall_mem_cons.mpr ⟨hfirst, ih hbs⟩
  exact ⟨g, hall, Except.ok.inj ((filterMapM_of_ok hall).symm.trans h)⟩

theorem exists_of_filterMapM_eq_error {f : α → Except ε (Option β)} {as : List α} {e : ε}
    (h : as.filterMapM f = .error e) : ∃ a ∈ as, f a = .error e := by
  induction as with
  | nil => exact nomatch h
  | cons a as ih =>
    rw [List.filterMapM_cons] at h
    rcases bind_eq_error.mp h with ha | ⟨b, -, h⟩
    · exact ⟨a, List.mem_cons_self, ha⟩
    have hrest : as.filterMapM f = .error e := by
      cases b with
      | none => exact h
      | some b =>
        rcases bind_eq_error.mp h with hrest | ⟨_, -, h⟩
        · exact hrest
        · exact nomatch h
    obtain ⟨a', hmem, ha'⟩ := ih hrest
    exact ⟨a', List.mem_cons_of_mem _ hmem, ha'⟩

theorem forM_eq_ok {f : α → Except ε Unit} {as : List α} (h : as.forM f = .ok ()) : ∀ a ∈ as, f a = .ok () := by
  induction as with
  | nil => exact fun _ ha => nomatch ha
  | cons a as ih =>
    obtain ⟨⟨⟩, ha, has⟩ := bind_eq_ok.mp h
    exact List.forall_mem_cons.mpr ⟨ha, ih has⟩

theorem exists_of_forM_eq_error {f : α → Except ε Unit} {as : List α} {e : ε} (h : as.forM f = .error e) :
    ∃ a ∈ as, f a = .error e := by
  induction as with
  | nil => exact nomatch h
  | cons a as ih =>
    rcases bind_eq_error.mp h with ha | ⟨_, -, has⟩
    · exact ⟨a, List.mem_cons_self, ha⟩
    · obtain ⟨a', hmem, ha'⟩ := ih has
      exact ⟨a', List.mem_cons_of_mem _ hmem, ha'⟩

theorem exists_of_foldlM_eq_error {f : β → α → Except ε β} {as : List α} {b : β} {e : ε}
    (h : as.foldlM f b = .error e) : ∃ b', ∃ a ∈ as, f b' a = .error e := by
  induction as generalizing b with
  | nil => exact nomatch h
  | cons a as ih =>
    rw [List.foldlM_cons] at h
    rcases bind_eq_error.mp h with ha | ⟨next, -, has⟩
    · exact ⟨b, a, List.mem_cons_self, ha⟩
    · obtain ⟨b', a', hmem, ha'⟩ := ih has
      exact ⟨b', a', List.mem_cons_of_mem _ hmem, ha'⟩

end TableQuery.Chained
