import ControlPlane.Dictionary
import Mathlib.Data.List.Basic

/-!
Laws of dictionaries. A dictionary has an entry exactly where a lookup finds it
(`mem_entries_iff`), a list of entries with distinct keys is only put in order by being made a
dictionary (`ofList_perm`), and an ordered list is its own dictionary (`ofList_eq_self`). Under other
keys in the same order, everything is found, put and dropped as under the old ones (`find?_rekey`,
`insert_rekey`, `erase_rekey`).
-/

namespace ControlPlane

universe u v

namespace Entries

variable {κ : Type u} {υ : Type v}

/-- Among entries with distinct keys, whatever their order, a lookup finds exactly the entries. -/
theorem find?_key_eq_some_iff [BEq κ] [LawfulBEq κ] {entries : List (κ × υ)}
    (distinct : (entries.map Prod.fst).Nodup) {k : κ} {v : υ} :
    (entries.find? fun e => e.1 == k).map Prod.snd = some v ↔ (k, v) ∈ entries := by
  induction entries with
  | nil => simp
  | cons head rest ih =>
    obtain ⟨fresh, tail⟩ := List.nodup_cons.mp distinct
    obtain ⟨j, w⟩ := head
    by_cases same : j = k
    · subst same
      have absent : (j, v) ∉ rest := fun mem => fresh (List.mem_map.mpr ⟨_, mem, rfl⟩)
      simp [absent, eq_comm]
    · rw [List.find?_cons_of_neg (by simpa using same), ih tail]
      simp [Ne.symm same]

variable [Ord κ]

theorem compare_eq_iff [Std.LawfulEqOrd κ] {j k : κ} : compare j k = .eq ↔ j = k :=
  ⟨Std.LawfulEqCmp.eq_of_compare, fun h => h ▸ Std.ReflCmp.compare_self⟩

/-- In a sorted list, a lookup finds exactly the entries of the list. -/
theorem find?_eq_some_iff [Std.TransOrd κ] [Std.LawfulEqOrd κ]
    {entries : List (κ × υ)} (sorted : entries.Pairwise Below) {k : κ}
    {v : υ} : find? k entries = some v ↔ (k, v) ∈ entries := by
  induction entries with
  | nil => simp [find?]
  | cons head rest ih =>
    obtain ⟨j, w⟩ := head
    obtain ⟨first, tail⟩ := List.pairwise_cons.mp sorted
    by_cases eq : k = j
    · subst eq
      have absent : (k, v) ∉ rest := by
        intro mem
        have lt : compare k k = .lt := first _ mem
        simp at lt
      simp [find?, absent, eq_comm]
    · have ne : compare k j ≠ .eq := fun h => eq (compare_eq_iff.mp h)
      simp [find?, ne, ih tail, eq]

/-- A new key comes into the list beside the entries that are there. -/
theorem insert_perm [Std.TransOrd κ] [Std.LawfulEqOrd κ]
    {k : κ} {v : υ} {entries : List (κ × υ)} (new : k ∉ entries.map Prod.fst) :
    (insert k v entries).Perm ((k, v) :: entries) := by
  induction entries with
  | nil => exact .refl _
  | cons head rest ih =>
    obtain ⟨j, w⟩ := head
    simp only [List.map_cons, List.mem_cons, not_or] at new
    simp only [insert]
    split
    · exact .refl _
    · rename_i eq
      exact absurd (compare_eq_iff.mp eq) new.1
    · exact (List.Perm.cons _ (ih new.2)).trans (.swap ..)

theorem foldl_insert_perm [Std.TransOrd κ] [Std.LawfulEqOrd κ] (todo : List (κ × υ))
    {acc : List (κ × υ)} (distinct : ((todo ++ acc).map Prod.fst).Nodup) :
    (todo.foldl (fun acc e => insert e.1 e.2 acc) acc).Perm (todo ++ acc) := by
  induction todo generalizing acc with
  | nil => exact .refl _
  | cons e rest ih =>
    simp only [List.cons_append, List.map_cons, List.nodup_cons] at distinct
    have new : e.1 ∉ acc.map Prod.fst := by
      intro mem
      exact distinct.1 (by simpa using Or.inr (by simpa using mem))
    have moved : (rest ++ insert e.1 e.2 acc).Perm (e :: (rest ++ acc)) :=
      ((insert_perm new).append_left rest).trans List.perm_middle
    have distinct' : ((rest ++ insert e.1 e.2 acc).map Prod.fst).Nodup := by
      rw [(moved.map Prod.fst).nodup_iff]
      exact List.nodup_cons.mpr distinct
    exact (ih distinct').trans moved

/-- Entries with distinct keys are only put in order. -/
theorem ofList_perm [Std.TransOrd κ] [Std.LawfulEqOrd κ]
    {entries : List (κ × υ)} (distinct : (entries.map Prod.fst).Nodup) :
    (ofList entries).Perm entries := by
  have unmixed : ((entries ++ []).map Prod.fst).Nodup := by rwa [List.append_nil]
  rw [ofList, ← List.append_nil entries]
  simpa using foldl_insert_perm entries unmixed

/-- Whatever is in the dictionary of a list was in the list. -/
theorem mem_of_mem_ofList {entries : List (κ × υ)} {e : κ × υ} (h : e ∈ ofList entries) :
    e ∈ entries := by
  have step : ∀ (todo acc : List (κ × υ)),
      e ∈ todo.foldl (fun acc e => insert e.1 e.2 acc) acc → e ∈ todo ∨ e ∈ acc := by
    intro todo
    induction todo with
    | nil => exact fun _ h => .inr h
    | cons x rest ih =>
      intro acc h
      rcases ih _ h with h | h
      · exact .inl (List.mem_cons_of_mem _ h)
      · rcases mem_insert h with h | h
        · exact .inl (h ▸ List.mem_cons_self)
        · exact .inr h
  simpa using step entries [] h

theorem insert_of_above [Std.TransOrd κ] {k : κ} {v : υ} {entries : List (κ × υ)}
    (above : ∀ e ∈ entries, compare e.1 k = .lt) : insert k v entries = entries ++ [(k, v)] := by
  induction entries with
  | nil => rfl
  | cons head rest ih =>
    obtain ⟨j, w⟩ := head
    have gt : compare k j = .gt := Std.OrientedCmp.gt_iff_lt.mpr (above _ List.mem_cons_self)
    simp [insert, gt, ih fun e he => above e (List.mem_cons_of_mem _ he)]

/-- An insertion puts its value, whatever that is, in front of the entries with later keys: as a new
entry or in place of one. -/
theorem insert_split [Std.TransOrd κ] [Std.LawfulEqOrd κ] (k : κ) {entries : List (κ × υ)}
    (sorted : entries.Pairwise Below) :
    ∃ before after, (∀ v, insert k v entries = before ++ (k, v) :: after) ∧
      (entries = before ++ after ∨ ∃ w, entries = before ++ (k, w) :: after) ∧
      ∀ e ∈ after, compare k e.1 = .lt := by
  induction entries with
  | nil => exact ⟨[], [], fun _ => rfl, .inl rfl, nofun⟩
  | cons head rest ih =>
    obtain ⟨j, w⟩ := head
    obtain ⟨first, tail⟩ := List.pairwise_cons.mp sorted
    cases order : compare k j with
    | lt =>
      refine ⟨[], (j, w) :: rest, fun v => by simp [insert, order], .inl rfl, ?_⟩
      rw [List.forall_mem_cons]
      exact ⟨order, fun e mem => Std.TransCmp.lt_trans order (first e mem)⟩
    | eq =>
      obtain rfl := compare_eq_iff.mp order
      exact ⟨[], rest, fun v => by simp [insert], .inr ⟨w, rfl⟩, first⟩
    | gt =>
      obtain ⟨before, after, split, origin, later⟩ := ih tail
      refine ⟨(j, w) :: before, after, fun v => by simp [insert, order, split], ?_, later⟩
      rcases origin with rfl | ⟨u, rfl⟩
      · exact .inl rfl
      · exact .inr ⟨u, rfl⟩

/-- A sorted list is its own dictionary. -/
theorem ofList_eq_self [Std.TransOrd κ] [Std.LawfulEqOrd κ]
    {entries : List (κ × υ)} (sorted : entries.Pairwise Below) :
    ofList entries = entries := by
  have step : ∀ (todo acc : List (κ × υ)), (acc ++ todo).Pairwise Below →
      todo.foldl (fun acc e => insert e.1 e.2 acc) acc = acc ++ todo := by
    intro todo
    induction todo with
    | nil => intro acc _; simp
    | cons e rest ih =>
      intro acc sorted
      have above : ∀ x ∈ acc, compare x.1 e.1 = .lt := fun x hx =>
        (List.pairwise_append.mp sorted).2.2 x hx e List.mem_cons_self
      rw [List.foldl_cons, insert_of_above above, ih _ (by simpa using sorted)]
      simp
  simpa [ofList] using step entries [] (by simpa using sorted)

/-! ### Entries under other keys -/

/-- The entries under the keys that a function gives them. -/
def rekey {ι : Type*} (f : κ → ι) (entries : List (κ × υ)) : List (ι × υ) :=
  entries.map fun e => (f e.1, e.2)

section

variable {ι : Type*} [Ord ι] {f : κ → ι} {k : κ} {entries : List (κ × υ)}

/-- A function that keeps the order of a key and the keys of the entries keeps what is found. -/
theorem find?_rekey (keeps : ∀ e ∈ entries, compare (f k) (f e.1) = compare k e.1) :
    find? (f k) (rekey f entries) = find? k entries := by
  induction entries with
  | nil => rfl
  | cons head rest ih =>
    have next := ih fun e mem => keeps e (List.mem_cons_of_mem _ mem)
    have first := keeps head List.mem_cons_self
    simp only [rekey, List.map_cons, find?] at next ⊢
    rw [first, next]

theorem insert_rekey (v : υ) (keeps : ∀ e ∈ entries, compare (f k) (f e.1) = compare k e.1) :
    insert (f k) v (rekey f entries) = rekey f (insert k v entries) := by
  induction entries with
  | nil => rfl
  | cons head rest ih =>
    have next := ih fun e mem => keeps e (List.mem_cons_of_mem _ mem)
    have first := keeps head List.mem_cons_self
    simp only [rekey, List.map_cons, insert, first] at next ⊢
    cases compare k head.1 with
    | lt => rfl
    | eq => rfl
    | gt => exact congrArg _ next

theorem erase_rekey (keeps : ∀ e ∈ entries, compare (f k) (f e.1) = compare k e.1) :
    erase (f k) (rekey f entries) = rekey f (erase k entries) := by
  rw [erase, rekey, List.filter_map, erase, rekey]
  congr 1
  apply List.filter_congr
  intro e mem
  simp only [Function.comp_apply, keeps e mem]

end

end Entries

namespace Dictionary

variable {κ : Type u} {υ : Type v} [Ord κ]

/-- A dictionary has the entries that its lookups find. -/
theorem mem_entries_iff [Std.TransOrd κ] [Std.LawfulEqOrd κ] {d : Dictionary κ υ} {k : κ} {v : υ} :
    (k, v) ∈ d.entries ↔ d.find? k = some v :=
  (Entries.find?_eq_some_iff d.sorted).symm

theorem find?_insert_self [Std.TransOrd κ] [Std.LawfulEqOrd κ]
    (d : Dictionary κ υ) (k : κ) (v : υ) :
    (d.insert k v).find? k = some v := by
  rw [find?_insert, if_pos Std.ReflCmp.compare_self]

theorem find?_insert_of_ne [Std.TransOrd κ] [Std.LawfulEqOrd κ]
    (d : Dictionary κ υ) {j k : κ} (v : υ) (h : j ≠ k) :
    (d.insert k v).find? j = d.find? j := by
  rw [find?_insert, if_neg fun eq => h (Entries.compare_eq_iff.mp eq)]

theorem find?_erase_self [Std.LawfulEqOrd κ]
    (d : Dictionary κ υ) (k : κ) : (d.erase k).find? k = none := by
  rw [find?_erase, if_pos Std.ReflCmp.compare_self]

theorem find?_erase_of_ne [Std.LawfulEqOrd κ] (d : Dictionary κ υ) {j k : κ} (h : j ≠ k) :
    (d.erase k).find? j = d.find? j := by
  rw [find?_erase, if_neg fun eq => h (Entries.compare_eq_iff.mp eq)]

theorem contains_insert_iff [Std.TransOrd κ] [Std.LawfulEqOrd κ] {d : Dictionary κ υ} {j k : κ}
    {v : υ} : (d.insert k v).contains j = true ↔ j = k ∨ d.contains j = true := by
  by_cases same : j = k
  · subst same
    simp [contains, find?_insert_self]
  · simp [contains, find?_insert_of_ne d v same, same]

theorem contains_erase_iff [Std.LawfulEqOrd κ] {d : Dictionary κ υ} {j k : κ} :
    (d.erase k).contains j = true ↔ j ≠ k ∧ d.contains j = true := by
  by_cases same : j = k
  · subst same
    simp [contains, find?_erase_self]
  · simp [contains, find?_erase_of_ne d same, same]

/-- To erase a key that is absent is to do nothing. -/
theorem erase_of_absent [Std.TransOrd κ] [Std.LawfulEqOrd κ] {d : Dictionary κ υ} {k : κ}
    (absent : ¬ d.contains k = true) : d.erase k = d := by
  apply ext_entries
  refine List.filter_eq_self.mpr fun e mem => bne_iff_ne.mpr fun same => absent ?_
  obtain rfl := Entries.compare_eq_iff.mp same
  rw [contains, mem_entries_iff.mp mem]
  rfl

/-- Dictionaries that compare equal are equal. -/
theorem beq_eq_true_iff [BEq κ] [LawfulBEq κ] [BEq υ] [LawfulBEq υ] {a b : Dictionary κ υ} :
    (a == b) = true ↔ a = b := by
  show (a.entries == b.entries) = true ↔ _
  rw [beq_iff_eq]
  exact ⟨ext_entries, congrArg _⟩

theorem ofList_entries [Std.TransOrd κ] [Std.LawfulEqOrd κ]
    (d : Dictionary κ υ) : ofList d.entries = d :=
  ext_entries (Entries.ofList_eq_self d.sorted)

/-- A dictionary has each of its keys once. -/
theorem nodup_keys [Std.LawfulEqOrd κ] (d : Dictionary κ υ) : d.keys.Nodup := by
  refine List.pairwise_map.mpr (d.sorted.imp fun {a b} below same => ?_)
  rw [Entries.Below, same] at below
  simp at below

/-- Whatever order the entries of a dictionary are put in, they make it up. -/
theorem ofList_of_perm [Std.TransOrd κ] [Std.LawfulEqOrd κ] {d : Dictionary κ υ}
    {entries : List (κ × υ)} (perm : entries.Perm d.entries) : ofList entries = d := by
  have unmixed := Entries.ofList_perm ((perm.map Prod.fst).nodup_iff.mpr d.nodup_keys)
  apply ext_entries
  refine List.Perm.eq_of_pairwise ?_ (Entries.ofList_sorted entries) d.sorted (unmixed.trans perm)
  intro a b _ _ below above
  exact absurd (Std.TransCmp.lt_trans below above) (by simp)

theorem eq_empty_of_isEmpty {d : Dictionary κ υ} (h : d.isEmpty = true) : d = ∅ :=
  ext_entries (List.isEmpty_iff.mp h)

end Dictionary

end ControlPlane
