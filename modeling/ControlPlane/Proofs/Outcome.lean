import Mathlib.Data.List.Forall2
import Mathlib.Data.List.Perm.Basic

/-!
Laws of outcomes: how a success and a failure pass through the operations on outcomes. The library
states most of them for monads at large, where they do not apply by themselves.
-/

namespace ControlPlane.Outcome

variable {ε ε' α β : Type}

@[simp] theorem ok_bind (a : α) (f : α → Except ε β) : (Except.ok a >>= f) = f a := rfl

@[simp] theorem error_bind (e : ε) (f : α → Except ε β) :
    ((Except.error e : Except ε α) >>= f) = .error e := rfl

@[simp] theorem ok_mapError (f : ε → ε') (a : α) :
    (Except.ok a : Except ε α).mapError f = .ok a := rfl

@[simp] theorem error_mapError (f : ε → ε') (e : ε) :
    (Except.error e : Except ε α).mapError f = .error (f e) := rfl

@[simp] theorem ok_map (f : α → β) (a : α) :
    (Except.ok a : Except ε α).map f = .ok (f a) := rfl

@[simp] theorem error_map (f : α → β) (e : ε) :
    (Except.error e : Except ε α).map f = .error e := rfl

/-- What a chain that succeeds went through. -/
theorem bind_eq_ok_iff {x : Except ε α} {f : α → Except ε β} {b : β} :
    (x >>= f) = .ok b ↔ ∃ a, x = .ok a ∧ f a = .ok b := by
  cases x <;> simp

theorem map_bind {γ : Type} (x : Except ε α) (f : α → β) (g : β → Except ε γ) :
    (x.map f >>= g) = x >>= fun a => g (f a) := by
  cases x <;> rfl

theorem mapError_eq_ok_iff {x : Except ε α} {f : ε → ε'} {a : α} :
    x.mapError f = .ok a ↔ x = .ok a := by
  cases x <;> simp

theorem map_eq_ok_iff {x : Except ε α} {f : α → β} {b : β} :
    x.map f = .ok b ↔ ∃ a, x = .ok a ∧ f a = b := by
  cases x <;> simp

theorem toOption_eq_some_iff {x : Except ε α} {a : α} : x.toOption = some a ↔ x = .ok a := by
  cases x <;> simp [Except.toOption]

theorem exists_eq_error_iff {x : Except ε α} : (∃ e, x = .error e) ↔ ¬ ∃ a, x = .ok a := by
  cases x <;> simp

/-- What is known of a success by a fact that was computed from it. -/
theorem exists_of_toOption_map {x : Except ε α} {f : α → β} {b : β}
    (h : x.toOption.map f = some b) : ∃ a, x = .ok a ∧ f a = b := by
  obtain ⟨a, success, fact⟩ := Option.map_eq_some_iff.mp h
  exact ⟨a, toOption_eq_some_iff.mp success, fact⟩

/-- What a list is turned into, element by element. -/
theorem mapM_eq_ok_iff {f : α → Except ε β} {as : List α} {bs : List β} :
    as.mapM f = .ok bs ↔ List.Forall₂ (fun a b => f a = .ok b) as bs := by
  induction as generalizing bs with
  | nil =>
    rw [List.mapM_nil, List.forall₂_nil_left_iff]
    exact ⟨fun h => (Except.ok.inj h).symm, fun h => h ▸ rfl⟩
  | cons a as ih =>
    rw [List.mapM_cons, List.forall₂_cons_left_iff, bind_eq_ok_iff]
    simp only [bind_eq_ok_iff, ih]
    constructor
    · rintro ⟨b, first, rest, tail, eq⟩
      exact ⟨b, rest, first, tail, (Except.ok.inj eq).symm⟩
    · rintro ⟨b, rest, first, tail, rfl⟩
      exact ⟨b, first, rest, tail, rfl⟩

/-- A list can be turned into another one if each of its elements can. -/
theorem exists_forall₂_iff {R : α → β → Prop} {as : List α} :
    (∃ bs, List.Forall₂ R as bs) ↔ ∀ a ∈ as, ∃ b, R a b := by
  induction as with
  | nil => simp
  | cons a as ih =>
    rw [List.forall_mem_cons, ← ih]
    simp only [List.forall₂_cons_left_iff]
    constructor
    · rintro ⟨_, b, bs, first, tail, -⟩
      exact ⟨⟨b, first⟩, bs, tail⟩
    · rintro ⟨⟨b, first⟩, bs, tail⟩
      exact ⟨b :: bs, b, bs, first, tail, rfl⟩

/-- Whatever a list is turned into has an element that it was made from. -/
theorem exists_of_mem_mapM {f : α → Except ε β} {as : List α} {bs : List β}
    (made : as.mapM f = .ok bs) {b : β} (mem : b ∈ bs) : ∃ a ∈ as, f a = .ok b := by
  have pairs := mapM_eq_ok_iff.mp made
  induction pairs with
  | nil => cases mem
  | cons one tail ih =>
    rcases List.mem_cons.mp mem with rfl | mem
    · exact ⟨_, List.mem_cons_self, one⟩
    · obtain ⟨a, isOld, made⟩ := ih (mapM_eq_ok_iff.mpr tail) mem
      exact ⟨a, List.mem_cons_of_mem _ isOld, made⟩

/-- Entries with distinct keys are folded in any order, if two of them are in either one. -/
theorem foldlM_perm {κ : Type} {step : α → κ × β → Except ε α}
    (swap : ∀ x y, x.1 ≠ y.1 → ∀ a b,
      (step a x >>= fun c => step c y) = .ok b → (step a y >>= fun c => step c x) = .ok b)
    {l l' : List (κ × β)} (perm : l.Perm l') (distinct : (l.map Prod.fst).Nodup) {a b : α}
    (folded : l.foldlM step a = .ok b) : l'.foldlM step a = .ok b := by
  induction perm generalizing a with
  | nil => exact folded
  | cons x _ ih =>
    rw [List.foldlM_cons, bind_eq_ok_iff] at folded ⊢
    obtain ⟨c, first, rest⟩ := folded
    exact ⟨c, first, ih (List.nodup_cons.mp distinct).2 rest⟩
  | swap x y rest =>
    have ne : y.1 ≠ x.1 := by
      intro same
      simp [same] at distinct
    simp only [List.foldlM_cons] at folded ⊢
    rw [← bind_assoc] at folded ⊢
    obtain ⟨c, both, tail⟩ := bind_eq_ok_iff.mp folded
    rw [swap y x ne a c both]
    exact tail
  | trans first _ ih ih' => exact ih' ((first.map _).nodup_iff.mp distinct) (ih distinct folded)

end ControlPlane.Outcome
