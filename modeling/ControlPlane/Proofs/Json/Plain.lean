import ControlPlane.Json.Basic

/-!
Plain values: those without double-precision numbers. Main statement: sameness of any value with
a plain one is equality (`same_iff_eq`). Sameness of values at large is weaker, since the two zeros
are alike and what is not a number is like nothing.
-/

namespace ControlPlane.Json

mutual

/-- Whether a value holds no double-precision number. -/
def isPlain : Json → Bool
  | .float _ => false
  | .arr items => arePlain items
  | .obj fields => arePlainFields fields
  | _ => true
termination_by structural x => x

/-- Whether all values of a list are plain. -/
def arePlain : List Json → Bool
  | [] => true
  | v :: rest => v.isPlain && arePlain rest
termination_by structural x => x

/-- Whether the values of all fields are plain. -/
def arePlainFields : List (String × Json) → Bool
  | [] => true
  | (_, v) :: rest => v.isPlain && arePlainFields rest
termination_by structural x => x

end

theorem arePlain_iff {items : List Json} :
    arePlain items = true ↔ ∀ v ∈ items, v.isPlain = true := by
  induction items with
  | nil => simp [arePlain]
  | cons v rest ih => simp [arePlain, ih]

theorem arePlainFields_iff {fields : List (String × Json)} :
    arePlainFields fields = true ↔ ∀ e ∈ fields, e.2.isPlain = true := by
  induction fields with
  | nil => simp [arePlainFields]
  | cons e rest ih => simp [arePlainFields, ih]

mutual

/-- A value is the same as a plain one exactly when the two are equal. -/
theorem same_iff_eq : ∀ {b : Json}, b.isPlain = true → ∀ {a : Json}, a.same b = true ↔ a = b
  | .null, _, a => by cases a <;> simp [same]
  | .bool _, _, a => by cases a <;> simp [same]
  | .int _, _, a => by cases a <;> simp [same]
  | .float _, plain, _ => by simp [isPlain] at plain
  | .str _, _, a => by cases a <;> simp [same]
  | .arr items, plain, a => by
      rw [isPlain] at plain
      cases a <;> simp [same, sameItems_iff_eq plain]
  | .obj fields, plain, a => by
      rw [isPlain] at plain
      cases a <;> simp [same, sameFields_iff_eq plain]

theorem sameItems_iff_eq : ∀ {ys : List Json}, arePlain ys = true →
    ∀ {xs : List Json}, sameItems xs ys = true ↔ xs = ys
  | [], _, xs => by cases xs <;> simp [sameItems]
  | y :: ys, plain, xs => by
      rw [arePlain, Bool.and_eq_true] at plain
      cases xs with
      | nil => simp [sameItems]
      | cons x xs => simp [sameItems, same_iff_eq plain.1, sameItems_iff_eq plain.2]

theorem sameFields_iff_eq : ∀ {ys : List (String × Json)}, arePlainFields ys = true →
    ∀ {xs : List (String × Json)}, sameFields xs ys = true ↔ xs = ys
  | [], _, xs => by cases xs <;> simp [sameFields]
  | (k, y) :: ys, plain, xs => by
      rw [arePlainFields, Bool.and_eq_true] at plain
      cases xs with
      | nil => simp [sameFields]
      | cons x xs =>
        obtain ⟨l, x⟩ := x
        simp [sameFields, same_iff_eq plain.1, sameFields_iff_eq plain.2, and_assoc]

end

theorem beq_iff_eq_of_isPlain {a b : Json} (plain : b.isPlain = true) :
    (a == b) = true ↔ a = b :=
  same_iff_eq plain

end ControlPlane.Json
