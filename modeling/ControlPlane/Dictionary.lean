/-!
Dictionaries: finite maps held as lists of entries in strictly increasing key order. The order is
part of the type, so two dictionaries that answer every lookup alike are equal, and listing one
lists its keys in order.
-/

namespace ControlPlane

universe u v w

/-! ### Sorted entry lists -/

namespace Entries

variable {κ : Type u} {υ : Type v} [Ord κ]

/-- The first key is below the second. -/
abbrev Below (a b : κ × υ) : Prop := compare a.1 b.1 = .lt

/-- The value at a key. -/
def find? (k : κ) : List (κ × υ) → Option υ
  | [] => none
  | (j, v) :: rest => if compare k j = .eq then some v else find? k rest

/-- Puts a value at a key, replacing the value already there. -/
def insert (k : κ) (v : υ) : List (κ × υ) → List (κ × υ)
  | [] => [(k, v)]
  | (j, w) :: rest =>
    match compare k j with
    | .lt => (k, v) :: (j, w) :: rest
    | .eq => (k, v) :: rest
    | .gt => (j, w) :: insert k v rest

/-- Drops the entry at a key. -/
def erase (k : κ) (entries : List (κ × υ)) : List (κ × υ) :=
  entries.filter fun e => compare k e.1 != .eq

/-- The entries of a list put in one after another, so that a later one wins. -/
def ofList (entries : List (κ × υ)) : List (κ × υ) :=
  entries.foldl (fun acc e => insert e.1 e.2 acc) []

theorem mem_insert {k : κ} {v : υ} {entries : List (κ × υ)} {e : κ × υ}
    (h : e ∈ insert k v entries) : e = (k, v) ∨ e ∈ entries := by
  induction entries with
  | nil => simpa [insert] using h
  | cons head rest ih =>
    obtain ⟨j, w⟩ := head
    simp only [insert] at h
    split at h
    · simpa using h
    · rcases List.mem_cons.mp h with h | h
      · exact .inl h
      · exact .inr (List.mem_cons_of_mem _ h)
    · rcases List.mem_cons.mp h with h | h
      · exact .inr (h ▸ List.mem_cons_self)
      · exact (ih h).imp_right (List.mem_cons_of_mem _)

theorem insert_sorted [Std.TransOrd κ] [Std.LawfulEqOrd κ] (k : κ) (v : υ)
    {entries : List (κ × υ)} (h : entries.Pairwise Below) :
    (insert k v entries).Pairwise Below := by
  induction entries with
  | nil => simp [insert]
  | cons head rest ih =>
    obtain ⟨j, w⟩ := head
    obtain ⟨first, tail⟩ := List.pairwise_cons.mp h
    simp only [insert]
    split
    · rename_i lt
      refine List.pairwise_cons.mpr ⟨fun e he => ?_, h⟩
      rcases List.mem_cons.mp he with rfl | he
      · exact lt
      · exact Std.TransCmp.lt_trans lt (first e he)
    · rename_i eq
      have same : k = j := Std.LawfulEqCmp.eq_of_compare eq
      subst same
      exact List.pairwise_cons.mpr ⟨first, tail⟩
    · rename_i gt
      refine List.pairwise_cons.mpr ⟨fun e he => ?_, ih tail⟩
      rcases mem_insert he with rfl | he
      · exact Std.OrientedCmp.gt_iff_lt.mp gt
      · exact first e he

theorem erase_sorted (k : κ) {entries : List (κ × υ)} (h : entries.Pairwise Below) :
    (erase k entries).Pairwise Below :=
  List.Pairwise.filter _ h

theorem ofList_sorted [Std.TransOrd κ] [Std.LawfulEqOrd κ] (entries : List (κ × υ)) :
    (ofList entries).Pairwise Below := by
  have step : ∀ (todo acc : List (κ × υ)), acc.Pairwise Below →
      (todo.foldl (fun acc e => insert e.1 e.2 acc) acc).Pairwise Below := by
    intro todo
    induction todo with
    | nil => exact fun _ h => h
    | cons e rest ih => exact fun acc h => ih _ (insert_sorted e.1 e.2 h)
  exact step entries [] List.Pairwise.nil

/-- A lookup after an insertion sees the new value at its key and the old ones elsewhere. -/
theorem find?_insert [Std.TransOrd κ] [Std.LawfulEqOrd κ] (j k : κ) (v : υ)
    (entries : List (κ × υ)) :
    find? j (insert k v entries) = if compare j k = .eq then some v else find? j entries := by
  induction entries with
  | nil => simp [insert, find?]
  | cons head rest ih =>
    obtain ⟨i, w⟩ := head
    simp only [insert]
    split
    · simp [find?]
    · rename_i eq
      have same : k = i := Std.LawfulEqCmp.eq_of_compare eq
      subst same
      by_cases h : compare j k = .eq
      · simp [find?, h]
      · simp [find?, h]
    · rename_i gt
      by_cases h : compare j i = .eq
      · have same : j = i := Std.LawfulEqCmp.eq_of_compare h
        subst same
        have ne : compare j k ≠ .eq := by
          intro eq
          have same : j = k := Std.LawfulEqCmp.eq_of_compare eq
          subst same
          simp at gt
        simp [find?, ne]
      · simp [find?, h, ih]

/-- A lookup after an erasure sees nothing at that key and the old values elsewhere. -/
theorem find?_erase [Std.LawfulEqOrd κ] (j k : κ) (entries : List (κ × υ)) :
    find? j (erase k entries) = if compare j k = .eq then none else find? j entries := by
  induction entries with
  | nil => simp [erase, find?]
  | cons head rest ih =>
    obtain ⟨i, w⟩ := head
    simp only [erase] at ih ⊢
    by_cases h : compare k i = .eq
    · have same : k = i := Std.LawfulEqCmp.eq_of_compare h
      subst same
      rw [List.filter_cons_of_neg (by simp), ih]
      by_cases hj : compare j k = .eq <;> simp [find?, hj]
    · rw [List.filter_cons_of_pos (by simpa using h)]
      by_cases hj : compare j i = .eq
      · have same : j = i := Std.LawfulEqCmp.eq_of_compare hj
        subst same
        have ne : compare j k ≠ .eq := by
          intro eq
          rw [Std.LawfulEqCmp.eq_of_compare eq] at h
          simp at h
        simp [find?, ne]
      · simp [find?, hj, ih]

/-- An erasure at a key that has a value makes the list shorter. -/
theorem length_erase_lt [Std.LawfulEqOrd κ] {k : κ} {v : υ} {entries : List (κ × υ)}
    (h : find? k entries = some v) : (erase k entries).length < entries.length := by
  induction entries with
  | nil => simp [find?] at h
  | cons head rest ih =>
    obtain ⟨i, w⟩ := head
    by_cases hk : compare k i = .eq
    · simp only [erase, List.filter_cons, hk, bne_self_eq_false, Bool.false_eq_true, if_false,
        List.length_cons]
      exact Nat.lt_succ_of_le (List.length_filter_le ..)
    · simp only [find?, hk, if_false] at h
      simp only [erase] at ih ⊢
      rw [List.filter_cons_of_pos (by simpa using hk)]
      simpa using ih h

end Entries

/-! ### Dictionaries -/

/-- A finite map from keys to values, listed in key order. -/
structure Dictionary (κ : Type u) (υ : Type v) [Ord κ] where
  entries : List (κ × υ)
  sorted : entries.Pairwise Entries.Below

namespace Dictionary

variable {κ : Type u} {υ : Type v} {ω : Type w} [Ord κ]

/-- Dictionaries with the same entries are equal. -/
theorem ext_entries {a b : Dictionary κ υ} (h : a.entries = b.entries) : a = b := by
  cases a; cases b; cases h; rfl

instance [BEq κ] [BEq υ] : BEq (Dictionary κ υ) := ⟨fun a b => a.entries == b.entries⟩

instance [DecidableEq κ] [DecidableEq υ] : DecidableEq (Dictionary κ υ) := fun a b =>
  if h : a.entries = b.entries then .isTrue (ext_entries h)
  else .isFalse fun eq => h (eq ▸ rfl)

/-- The dictionary without entries. -/
def empty : Dictionary κ υ := ⟨[], List.Pairwise.nil⟩

instance : EmptyCollection (Dictionary κ υ) := ⟨empty⟩
instance : Inhabited (Dictionary κ υ) := ⟨empty⟩

/-- Whether there is no entry. -/
def isEmpty (d : Dictionary κ υ) : Bool := d.entries.isEmpty

/-- The number of entries. -/
def size (d : Dictionary κ υ) : Nat := d.entries.length

/-- The value at a key. -/
def find? (d : Dictionary κ υ) (k : κ) : Option υ := Entries.find? k d.entries

/-- Whether the key has a value. -/
def contains (d : Dictionary κ υ) (k : κ) : Bool := (d.find? k).isSome

/-- Puts a value at a key. -/
def insert [Std.TransOrd κ] [Std.LawfulEqOrd κ] (d : Dictionary κ υ) (k : κ) (v : υ) :
    Dictionary κ υ :=
  ⟨Entries.insert k v d.entries, Entries.insert_sorted k v d.sorted⟩

/-- Drops the entry at a key. -/
def erase (d : Dictionary κ υ) (k : κ) : Dictionary κ υ :=
  ⟨Entries.erase k d.entries, Entries.erase_sorted k d.sorted⟩

/-- The dictionary of a list of entries, of which a later one wins. -/
def ofList [Std.TransOrd κ] [Std.LawfulEqOrd κ] (entries : List (κ × υ)) : Dictionary κ υ :=
  ⟨Entries.ofList entries, Entries.ofList_sorted entries⟩

/-- The values in key order. -/
def values (d : Dictionary κ υ) : List υ := d.entries.map Prod.snd

/-- The keys in order. -/
def keys (d : Dictionary κ υ) : List κ := d.entries.map Prod.fst

/-- Applies a function to every value. -/
def map (f : υ → ω) (d : Dictionary κ υ) : Dictionary κ ω :=
  ⟨d.entries.map fun e => (e.1, f e.2), List.pairwise_map.mpr (d.sorted.imp id)⟩

@[simp] theorem find?_empty (k : κ) : (empty : Dictionary κ υ).find? k = none := rfl

theorem find?_insert [Std.TransOrd κ] [Std.LawfulEqOrd κ] (d : Dictionary κ υ) (j k : κ) (v : υ) :
    (d.insert k v).find? j = if compare j k = .eq then some v else d.find? j :=
  Entries.find?_insert j k v d.entries

theorem size_erase_lt [Std.LawfulEqOrd κ] {d : Dictionary κ υ} {k : κ} {v : υ}
    (h : d.find? k = some v) : (d.erase k).size < d.size :=
  Entries.length_erase_lt h

theorem find?_erase [Std.LawfulEqOrd κ] (d : Dictionary κ υ) (j k : κ) :
    (d.erase k).find? j = if compare j k = .eq then none else d.find? j :=
  Entries.find?_erase j k d.entries

/-- What is found after an erasure was found before it. -/
theorem find?_of_find?_erase [Std.LawfulEqOrd κ] {d : Dictionary κ υ} {j k : κ} {v : υ}
    (h : (d.erase k).find? j = some v) : d.find? j = some v := by
  rw [find?_erase] at h
  split at h
  · cases h
  · exact h

end Dictionary

end ControlPlane
