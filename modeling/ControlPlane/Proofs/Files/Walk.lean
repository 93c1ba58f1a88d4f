import ControlPlane.Files.Tree
import ControlPlane.Proofs.Files.Path
import ControlPlane.Proofs.Store.ByteOrder
import Mathlib.Data.List.Sort

/-!
The walk through a tree of files. In a tree as file systems have them (`FileTree.Proper`), the walk
meets every file once (`FileTree.mem_files_iff`), and in the order of the paths taken name by name
(`FileTree.files_ordered`): the names of the entries of a directory are ordered by their bytes, and
what is below an entry stays together. As texts the paths need not be in order, since a slash is
above other characters that a name may have.
-/

namespace ControlPlane

namespace Path

/-! ### The order of paths -/

/-- One path is before another one: their names are compared in turn, each by its bytes. -/
def Before (a b : List String) : Prop :=
  compare (a.map ByteAddress.encode) (b.map ByteAddress.encode) = .lt

theorem compare_map_encode (a b : List String) :
    compare (a.map ByteAddress.encode) (b.map ByteAddress.encode) = compare a b := by
  induction a generalizing b with
  | nil => cases b <;> rfl
  | cons name rest ih =>
    cases b with
    | nil => rfl
    | cons name' rest' =>
      rw [List.map_cons, List.map_cons, List.compare_cons_cons, List.compare_cons_cons,
        ByteAddress.compare_encode, ih]

theorem before_iff {a b : List String} : Before a b ↔ compare a b = .lt := by
  rw [Before, compare_map_encode]

theorem before_of_lt {name name' : String} (lt : compare name name' = .lt)
    (rest rest' : List String) : Before (name :: rest) (name' :: rest') := by
  rw [before_iff, List.compare_cons_cons, lt]
  rfl

theorem before_cons_iff {name : String} {rest rest' : List String} :
    Before (name :: rest) (name :: rest') ↔ Before rest rest' := by
  rw [before_iff, before_iff, List.compare_cons_cons, Std.ReflOrd.compare_self]
  rfl

instance : Std.Asymm Before where
  asymm a b below above := by
    rw [before_iff] at below above
    exact absurd (Std.TransCmp.lt_trans below above) (by simp)

/-- What stands at paths in order is told by what there is. -/
theorem ext_of_ordered {α : Type} {l l' : List (List String × α)}
    (ordered : l.Pairwise fun f g => Before f.1 g.1)
    (ordered' : l'.Pairwise fun f g => Before f.1 g.1) (same : ∀ f, f ∈ l ↔ f ∈ l') : l = l' := by
  have : Std.Asymm fun f g : List String × α => Before f.1 g.1 :=
    ⟨fun f g => Std.Asymm.asymm (r := Before) f.1 g.1⟩
  exact ordered.eq_of_mem_iff ordered' same

end Path

namespace FileTree

variable {t : FileTree} {names : List String} {content : ByteArray}
  {entries : List (String × FileTree)}

/-! ### Files of a tree -/

/-- The file with a content stands where some names lead. -/
inductive At : FileTree → List String → ByteArray → Prop where
  | file (content : ByteArray) : At (file content) [] content
  | entry {entries : List (String × FileTree)} {name : String} {t : FileTree}
      {names : List String} {content : ByteArray} (isEntry : (name, t) ∈ entries)
      (inside : At t names content) : At (directory entries) (name :: names) content

/-- The entries of every directory have names, and different ones. -/
inductive Proper : FileTree → Prop where
  | file (content : ByteArray) : Proper (file content)
  | directory {entries : List (String × FileTree)} (distinct : (entries.map Prod.fst).Nodup)
      (named : ∀ e ∈ entries, Path.IsName e.1) (inside : ∀ e ∈ entries, Proper e.2) :
      Proper (directory entries)

theorem filesOf_eq_map (entries : List (String × FileTree)) :
    filesOf entries = entries.map fun e => (e.1, e.2.files.map fun f => (e.1 :: f.1, f.2)) := by
  induction entries with
  | nil => rfl
  | cons e rest ih =>
    rw [filesOf, ih]
    rfl

/-- The files of a directory are those of its entries. -/
theorem mem_files_directory_iff (distinct : (entries.map Prod.fst).Nodup) :
    (names, content) ∈ (directory entries).files ↔
      ∃ e ∈ entries, ∃ below, names = e.1 :: below ∧ (below, content) ∈ e.2.files := by
  have once : ((filesOf entries).map Prod.fst).Nodup := by
    rw [filesOf_eq_map, List.map_map]
    exact distinct
  rw [files, List.mem_flatMap]
  constructor
  · rintro ⟨d, listed, mem⟩
    rw [(Entries.ofList_perm once).mem_iff, filesOf_eq_map] at listed
    obtain ⟨e, isEntry, rfl⟩ := List.mem_map.mp listed
    obtain ⟨f, isFile, same⟩ := List.mem_map.mp mem
    obtain ⟨rfl, rfl⟩ := Prod.mk.inj same
    exact ⟨e, isEntry, f.1, rfl, isFile⟩
  · rintro ⟨e, isEntry, below, rfl, isFile⟩
    refine ⟨(e.1, e.2.files.map fun f => (e.1 :: f.1, f.2)), ?_, ?_⟩
    · rw [(Entries.ofList_perm once).mem_iff, filesOf_eq_map]
      exact List.mem_map_of_mem isEntry
    · exact List.mem_map.mpr ⟨_, isFile, rfl⟩

theorem mem_files_iff (proper : t.Proper) : (names, content) ∈ t.files ↔ t.At names content := by
  induction proper generalizing names with
  | file stored =>
    rw [files, List.mem_singleton, Prod.mk.injEq]
    constructor
    · rintro ⟨rfl, rfl⟩
      exact .file _
    · intro stands
      cases stands
      exact ⟨rfl, rfl⟩
  | directory distinct named inside ih =>
    rw [mem_files_directory_iff distinct]
    constructor
    · rintro ⟨e, isEntry, below, rfl, mem⟩
      exact .entry isEntry ((ih e isEntry).mp mem)
    · intro stands
      cases stands with
      | entry isEntry inside => exact ⟨_, isEntry, _, rfl, (ih _ isEntry).mpr inside⟩

/-- The walk through a tree meets its files in the order of their paths. -/
theorem files_ordered (proper : t.Proper) :
    t.files.Pairwise fun f g => Path.Before f.1 g.1 := by
  induction proper with
  | file stored => exact List.pairwise_singleton _ _
  | @directory entries distinct named inside ih =>
    rw [files, List.pairwise_flatMap]
    have listed : ∀ d ∈ Entries.ofList (filesOf entries), ∃ e ∈ entries,
        d = (e.1, e.2.files.map fun f => (e.1 :: f.1, f.2)) := by
      intro d mem
      have mem := Entries.mem_of_mem_ofList mem
      rw [filesOf_eq_map, List.mem_map] at mem
      obtain ⟨e, isEntry, rfl⟩ := mem
      exact ⟨e, isEntry, rfl⟩
    constructor
    · intro d mem
      obtain ⟨e, isEntry, rfl⟩ := listed d mem
      exact List.pairwise_map.mpr ((ih e isEntry).imp Path.before_cons_iff.mpr)
    · have sorted := Entries.ofList_sorted (filesOf entries)
      refine sorted.imp_of_mem fun {a b} ha hb below f hf g hg => ?_
      obtain ⟨e, -, rfl⟩ := listed a ha
      obtain ⟨e', -, rfl⟩ := listed b hb
      obtain ⟨f, -, rfl⟩ := List.mem_map.mp hf
      obtain ⟨g, -, rfl⟩ := List.mem_map.mp hg
      exact Path.before_of_lt below _ _

/-- In a directory, every file has a name. -/
theorem At.lastName (stands : t.At names content) (proper : t.Proper) (inside : names ≠ []) :
    ∃ above name, names = above ++ [name] ∧ Path.IsName name := by
  induction stands with
  | file => exact absurd rfl inside
  | @entry entries name t names content isEntry stands ih =>
    cases proper with
    | directory distinct named proper =>
      by_cases last : names = []
      · exact ⟨[], name, by rw [last]; rfl, named _ isEntry⟩
      · obtain ⟨above, deep, rfl, isName⟩ := ih (proper _ isEntry) last
        exact ⟨name :: above, deep, rfl, isName⟩

end FileTree

end ControlPlane
