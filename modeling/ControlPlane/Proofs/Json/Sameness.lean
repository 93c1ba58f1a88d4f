import ControlPlane.Proofs.Dictionary
import ControlPlane.Proofs.Outcome
import ControlPlane.Yaml.Data

/-!
Sameness of values: it is symmetric (`same_symm`) and transitive (`same_trans`), and a value whose
numbers are all finite is the same as itself (`same_self`). Whatever a text can declare is such a
value (`Yaml.Value.isFinite_of_toJson`), though what is not a number would be like nothing.
-/

namespace ControlPlane

namespace Binary64

theorem alike_symm {x y : Binary64} (h : x.alike y = true) : y.alike x = true := by
  simp only [alike, Bool.and_eq_true, Bool.or_eq_true, beq_iff_eq] at h ⊢
  obtain ⟨⟨hx, hy⟩, same | ⟨zx, zy⟩⟩ := h
  · exact ⟨⟨hy, hx⟩, .inl same.symm⟩
  · exact ⟨⟨hy, hx⟩, .inr ⟨zy, zx⟩⟩

theorem isZero_congr {x y : Binary64} (h : x.bits = y.bits) : x.isZero = y.isZero := by
  simp only [isZero, exponentField, fractionField, h]

theorem alike_trans {x y z : Binary64} (h : x.alike y = true) (h' : y.alike z = true) :
    x.alike z = true := by
  simp only [alike, Bool.and_eq_true, Bool.or_eq_true, beq_iff_eq] at h h' ⊢
  obtain ⟨⟨hx, -⟩, h⟩ := h
  obtain ⟨⟨-, hz⟩, h'⟩ := h'
  refine ⟨⟨hx, hz⟩, ?_⟩
  rcases h with same | ⟨zx, zy⟩
  · rcases h' with same' | ⟨zy, zz⟩
    · exact .inl (same.trans same')
    · exact .inr ⟨(isZero_congr same).trans zy, zz⟩
  · rcases h' with same' | ⟨-, zz⟩
    · exact .inr ⟨zx, (isZero_congr same').symm.trans zy⟩
    · exact .inr ⟨zx, zz⟩

theorem alike_self {x : Binary64} (h : x.isFinite = true) : x.alike x = true := by
  simp only [isFinite, bne_iff_ne, ne_eq] at h
  simp [alike, isNaN, h]

end Binary64

namespace Json

/-! ### Symmetry and transitivity -/

mutual

theorem same_symm : ∀ {a b : Json}, a.same b = true → b.same a = true
  | .null, b, h => by cases b <;> simp_all [same]
  | .bool _, b, h => by cases b <;> simp_all [same]
  | .int _, b, h => by cases b <;> simp_all [same]
  | .float _, b, h => by
      cases b <;> simp only [same, Bool.false_eq_true] at h ⊢
      exact Binary64.alike_symm h
  | .str _, b, h => by cases b <;> simp_all [same]
  | .arr _, b, h => by
      cases b <;> simp only [same, Bool.false_eq_true] at h ⊢
      exact sameItems_symm h
  | .obj _, b, h => by
      cases b <;> simp only [same, Bool.false_eq_true] at h ⊢
      exact sameFields_symm h

theorem sameItems_symm : ∀ {xs ys : List Json}, sameItems xs ys = true → sameItems ys xs = true
  | [], ys, h => by cases ys <;> simp_all [sameItems]
  | x :: xs, ys, h => by
      cases ys with
      | nil => simp [sameItems] at h
      | cons y ys =>
        simp only [sameItems, Bool.and_eq_true] at h ⊢
        exact ⟨same_symm h.1, sameItems_symm h.2⟩

theorem sameFields_symm : ∀ {xs ys : List (String × Json)}, sameFields xs ys = true →
    sameFields ys xs = true
  | [], ys, h => by cases ys <;> simp_all [sameFields]
  | (k, x) :: xs, ys, h => by
      cases ys with
      | nil => simp [sameFields] at h
      | cons y ys =>
        simp only [sameFields, Bool.and_eq_true, beq_iff_eq] at h ⊢
        exact ⟨⟨h.1.1.symm, same_symm h.1.2⟩, sameFields_symm h.2⟩

end

mutual

theorem same_trans : ∀ {a b c : Json}, a.same b = true → b.same c = true → a.same c = true
  | .null, b, c, h, h' => by cases b <;> cases c <;> simp_all [same]
  | .bool _, b, c, h, h' => by cases b <;> cases c <;> simp_all [same]
  | .int _, b, c, h, h' => by cases b <;> cases c <;> simp_all [same]
  | .float _, b, c, h, h' => by
      cases b <;> cases c <;> simp only [same, Bool.false_eq_true] at h h' ⊢
      exact Binary64.alike_trans h h'
  | .str _, b, c, h, h' => by cases b <;> cases c <;> simp_all [same]
  | .arr _, b, c, h, h' => by
      cases b <;> cases c <;> simp only [same, Bool.false_eq_true] at h h' ⊢
      exact sameItems_trans h h'
  | .obj _, b, c, h, h' => by
      cases b <;> cases c <;> simp only [same, Bool.false_eq_true] at h h' ⊢
      exact sameFields_trans h h'

theorem sameItems_trans : ∀ {xs ys zs : List Json}, sameItems xs ys = true →
    sameItems ys zs = true → sameItems xs zs = true
  | [], ys, zs, h, h' => by cases ys <;> cases zs <;> simp_all [sameItems]
  | x :: xs, ys, zs, h, h' => by
      cases ys with
      | nil => simp [sameItems] at h
      | cons y ys =>
        cases zs with
        | nil => simp [sameItems] at h'
        | cons z zs =>
          simp only [sameItems, Bool.and_eq_true] at h h' ⊢
          exact ⟨same_trans h.1 h'.1, sameItems_trans h.2 h'.2⟩

theorem sameFields_trans : ∀ {xs ys zs : List (String × Json)}, sameFields xs ys = true →
    sameFields ys zs = true → sameFields xs zs = true
  | [], ys, zs, h, h' => by cases ys <;> cases zs <;> simp_all [sameFields]
  | (k, x) :: xs, ys, zs, h, h' => by
      cases ys with
      | nil => simp [sameFields] at h
      | cons y ys =>
        cases zs with
        | nil => simp [sameFields] at h'
        | cons z zs =>
          simp only [sameFields, Bool.and_eq_true, beq_iff_eq] at h h' ⊢
          exact ⟨⟨h.1.1.trans h'.1.1, same_trans h.1.2 h'.1.2⟩, sameFields_trans h.2 h'.2⟩

end

/-! ### Finite values -/

mutual

/-- Whether every double-precision number in a value is finite. -/
def isFinite : Json → Bool
  | .float x => x.isFinite
  | .arr items => areFinite items
  | .obj fields => areFiniteFields fields
  | _ => true
termination_by structural x => x

/-- Whether all values of a list are finite. -/
def areFinite : List Json → Bool
  | [] => true
  | v :: rest => v.isFinite && areFinite rest
termination_by structural x => x

/-- Whether the values of all fields are finite. -/
def areFiniteFields : List (String × Json) → Bool
  | [] => true
  | (_, v) :: rest => v.isFinite && areFiniteFields rest
termination_by structural x => x

end

theorem areFinite_iff {items : List Json} :
    areFinite items = true ↔ ∀ v ∈ items, v.isFinite = true := by
  induction items with
  | nil => simp [areFinite]
  | cons v rest ih => simp [areFinite, ih]

theorem areFiniteFields_iff {fields : List (String × Json)} :
    areFiniteFields fields = true ↔ ∀ e ∈ fields, e.2.isFinite = true := by
  induction fields with
  | nil => simp [areFiniteFields]
  | cons e rest ih => simp [areFiniteFields, ih]

mutual

theorem same_self : ∀ {a : Json}, a.isFinite = true → a.same a = true
  | .null, _ => rfl
  | .bool _, _ => by simp [same]
  | .int _, _ => by simp [same]
  | .float _, h => Binary64.alike_self h
  | .str _, _ => by simp [same]
  | .arr _, h => by
      rw [isFinite] at h
      rw [same]
      exact sameItems_self h
  | .obj _, h => by
      rw [isFinite] at h
      rw [same]
      exact sameFields_self h

theorem sameItems_self : ∀ {xs : List Json}, areFinite xs = true → sameItems xs xs = true
  | [], _ => rfl
  | x :: xs, h => by
      rw [areFinite, Bool.and_eq_true] at h
      rw [sameItems, Bool.and_eq_true]
      exact ⟨same_self h.1, sameItems_self h.2⟩

theorem sameFields_self : ∀ {xs : List (String × Json)}, areFiniteFields xs = true →
    sameFields xs xs = true
  | [], _ => rfl
  | (k, x) :: xs, h => by
      rw [areFiniteFields, Bool.and_eq_true] at h
      simp only [sameFields, Bool.and_eq_true, beq_self_eq_true, true_and]
      exact ⟨same_self h.1, sameFields_self h.2⟩

end

end Json

/-! ### Declared values -/

namespace Yaml.Value

open Json (isFinite areFinite areFiniteFields areFiniteFields_iff)

mutual

/-- What a value stands for holds finite numbers only. -/
theorem isFinite_of_toJson : ∀ {v : Value} {j : Json}, v.toJson = .ok j → j.isFinite = true
  | .null, j, h => by
      obtain rfl := Except.ok.inj h
      rfl
  | .bool _, j, h => by
      obtain rfl := Except.ok.inj h
      rfl
  | .int _, j, h => by
      obtain rfl := Except.ok.inj h
      rfl
  | .float x, j, h => by
      obtain rfl := Except.ok.inj h
      cases finite : x.isFinite
      · rfl
      · simpa [isFinite] using finite
  | .str _, j, h => by
      obtain rfl := Except.ok.inj h
      rfl
  | .sequence items, j, h => by
      rw [toJson] at h
      obtain ⟨js, read, rfl⟩ := Outcome.map_eq_ok_iff.mp h
      rw [isFinite]
      exact areFinite_of_itemsToJson read
  | .mapping entries, j, h => by
      rw [toJson] at h
      obtain ⟨fields, read, rfl⟩ := Outcome.map_eq_ok_iff.mp h
      have finite := areFiniteFields_iff.mp (areFiniteFields_of_entriesToJson read)
      rw [isFinite, areFiniteFields_iff]
      exact fun e mem => finite e (Entries.mem_of_mem_ofList mem)
  | .tagged tag v, j, h => by
      rw [toJson] at h
      obtain ⟨inner, read, rfl⟩ := Outcome.map_eq_ok_iff.mp h
      simp only [isFinite, areFiniteFields, Bool.and_true]
      exact isFinite_of_toJson read

theorem areFinite_of_itemsToJson : ∀ {items : List Value} {js : List Json},
    itemsToJson items = .ok js → areFinite js = true
  | [], js, h => by
      obtain rfl := Except.ok.inj h
      rfl
  | v :: rest, js, h => by
      rw [itemsToJson] at h
      obtain ⟨j, first, h⟩ := Outcome.bind_eq_ok_iff.mp h
      obtain ⟨js', tail, h⟩ := Outcome.bind_eq_ok_iff.mp h
      obtain rfl := Except.ok.inj h
      rw [areFinite, Bool.and_eq_true]
      exact ⟨isFinite_of_toJson first, areFinite_of_itemsToJson tail⟩

theorem areFiniteFields_of_entriesToJson : ∀ {entries : List (Value × Value)}
    {fields : List (String × Json)}, entriesToJson entries = .ok fields →
    areFiniteFields fields = true
  | [], fields, h => by
      obtain rfl := Except.ok.inj h
      rfl
  | (k, v) :: rest, fields, h => by
      rw [entriesToJson] at h
      obtain ⟨key, -, h⟩ := Outcome.bind_eq_ok_iff.mp h
      obtain ⟨j, first, h⟩ := Outcome.bind_eq_ok_iff.mp h
      obtain ⟨fields', tail, h⟩ := Outcome.bind_eq_ok_iff.mp h
      obtain rfl := Except.ok.inj h
      rw [areFiniteFields, Bool.and_eq_true]
      exact ⟨isFinite_of_toJson first, areFiniteFields_of_entriesToJson tail⟩

end

end Yaml.Value

end ControlPlane
