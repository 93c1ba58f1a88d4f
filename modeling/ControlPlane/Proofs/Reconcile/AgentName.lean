import ControlPlane.Reconcile.AgentName

/-!
Agent names become exactly the identifiers. Whatever the name, what it becomes is of the grammar
`[A-Za-z_][A-Za-z0-9_]*` (`isIdentifier_identifierOf`) and has one character for each character of
the name, behind an underscore if the name is empty or starts with a digit (`identifierOf_eq`).
Identifiers, and nothing else, are left as they are (`identifierOf_eq_self_iff`), so to apply it
twice changes nothing more. All of it together is `identifier_canonical`.
-/

namespace ControlPlane.AgentName

/-! ### The grammar -/

/-- The letters of the basic Latin alphabet and the underscore: what an identifier starts with. -/
def Opens (c : Char) : Prop := ('A' ≤ c ∧ c ≤ 'Z') ∨ ('a' ≤ c ∧ c ≤ 'z') ∨ c = '_'

/-- The ten digits. -/
def Counts (c : Char) : Prop := '0' ≤ c ∧ c ≤ '9'

/-- What an identifier goes on with. -/
def Continues (c : Char) : Prop := Opens c ∨ Counts c

instance : DecidablePred Opens := fun _ => inferInstanceAs (Decidable (_ ∨ _))
instance : DecidablePred Counts := fun _ => inferInstanceAs (Decidable (_ ∧ _))
instance : DecidablePred Continues := fun _ => inferInstanceAs (Decidable (_ ∨ _))

/-- The texts of the grammar `[A-Za-z_][A-Za-z0-9_]*`. -/
inductive IsIdentifier : List Char → Prop where
  | of {c : Char} {rest : List Char} (first : Opens c) (others : ∀ d ∈ rest, Continues d) :
      IsIdentifier (c :: rest)

/-! ### Single characters -/

variable {c : Char} {cs : List Char}

theorem isDigit_iff : c.isDigit = true ↔ Counts c := by
  simp [Char.isDigit, Counts, Char.le_def]

theorem isInitial_iff : isInitial c = true ↔ Opens c := by
  have letter : c.isAlpha = (decide (c.val ≥ 'A'.val ∧ c.val ≤ 'Z'.val) ||
      (decide (c.val ≥ 'a'.val) && decide (c.val ≤ 'z'.val))) := rfl
  simp [isInitial, letter, Opens, Char.le_def, or_assoc]

theorem isInner_iff : isInner c = true ↔ Continues c := by
  have split : isInner c = (isInitial c || c.isDigit) := by
    simp only [isInner, isInitial, Char.isAlphanum]
    exact Bool.or_right_comm ..
  rw [split, Bool.or_eq_true, isInitial_iff, isDigit_iff, Continues]

/-- No digit opens an identifier. -/
theorem not_counts_of_opens (h : Opens c) : ¬ Counts c := by
  simp only [Opens, Counts, Char.le_def, UInt32.le_iff_toNat_le] at h ⊢
  have A : 'A'.val.toNat = 65 := rfl
  have a : 'a'.val.toNat = 97 := rfl
  have nine : '9'.val.toNat = 57 := rfl
  rcases h with upper | lower | rfl
  · omega
  · omega
  · decide

/-- A character is kept where it may stand. -/
theorem inner_eq (c : Char) : inner c = if Continues c then c else '_' := by
  simp only [inner, isInner_iff]

theorem continues_inner (c : Char) : Continues (inner c) := by
  rw [inner_eq]
  split
  · assumption
  · decide

theorem inner_of_continues (h : Continues c) : inner c = c := by
  rw [inner_eq, if_pos h]

/-- Whatever is no digit stands inside an identifier as something that can open one. -/
theorem opens_inner (h : ¬ Counts c) : Opens (inner c) := by
  rw [inner_eq]
  split
  · rename_i continues
    exact continues.resolve_right h
  · decide

/-! ### Names -/

/-- By how many places the characters of a name move: one if the name is empty or starts with a
digit. -/
def shift : List Char → Nat
  | [] => 1
  | c :: _ => if Counts c then 1 else 0

/-- The identifier is the name, character for character, behind an underscore if they move. -/
theorem identifierOf_eq (cs : List Char) :
    identifierOf cs = List.replicate (shift cs) '_' ++ cs.map inner := by
  cases cs with
  | nil => rfl
  | cons c rest =>
    simp only [identifierOf, shift, isDigit_iff]
    split
    · rename_i digit
      simp [inner_of_continues (.inr digit)]
    · simp

theorem isIdentifier_identifierOf (cs : List Char) : IsIdentifier (identifierOf cs) := by
  have inside : ∀ l : List Char, ∀ d ∈ l.map inner, Continues d := by
    intro l d mem
    obtain ⟨c, -, rfl⟩ := List.mem_map.mp mem
    exact continues_inner c
  rw [identifierOf_eq]
  cases cs with
  | nil => exact .of (by decide) (inside [])
  | cons c rest =>
    by_cases digit : Counts c
    · simp only [shift, if_pos digit]
      exact .of (by decide) (inside (c :: rest))
    · simp only [shift, if_neg digit]
      exact .of (opens_inner digit) (inside rest)

/-- Exactly the identifiers are left as they are. -/
theorem identifierOf_eq_self_iff : identifierOf cs = cs ↔ IsIdentifier cs := by
  constructor
  · intro same
    exact same ▸ isIdentifier_identifierOf cs
  · intro isIdentifier
    cases isIdentifier with
    | @of c rest first others =>
      have unmoved : shift (c :: rest) = 0 := if_neg (not_counts_of_opens first)
      have kept : (c :: rest).map inner = c :: rest := by
        rw [List.map_congr_left (g := id), List.map_id]
        intro d mem
        rcases List.mem_cons.mp mem with rfl | mem
        · exact inner_of_continues (.inl first)
        · exact inner_of_continues (others d mem)
      rw [identifierOf_eq, unmoved, kept]
      rfl

/-- Every name becomes an identifier, with one character for each of its own and one more if it is
empty or starts with a digit. A character that may stand in an identifier is kept at its place,
which is one further on in the second case, and any other is an underscore there. Exactly the
identifiers are left as they are, and twice is as once. -/
theorem identifier_canonical (name : String) :
    IsIdentifier (identifier name).toList ∧
    (identifier name).length = name.length + shift name.toList ∧
    (∀ i, (identifier name).toList[i + shift name.toList]? =
      name.toList[i]?.map fun c => if Continues c then c else '_') ∧
    (identifier name = name ↔ IsIdentifier name.toList) ∧
    identifier (identifier name) = identifier name := by
  have letters : (identifier name).toList = identifierOf name.toList := by simp [identifier]
  have kept_iff : ∀ s : String, identifier s = s ↔ IsIdentifier s.toList := by
    intro s
    rw [← identifierOf_eq_self_iff, ← String.toList_inj]
    simp [identifier]
  have isIdentifier : IsIdentifier (identifier name).toList :=
    letters ▸ isIdentifier_identifierOf name.toList
  refine ⟨isIdentifier, ?_, ?_, kept_iff name, (kept_iff _).mpr isIdentifier⟩
  · rw [← String.length_toList, ← String.length_toList, letters, identifierOf_eq]
    simp [Nat.add_comm]
  · intro i
    rw [letters, identifierOf_eq, List.getElem?_append_right (by simp)]
    simp [← inner_eq]

end ControlPlane.AgentName
