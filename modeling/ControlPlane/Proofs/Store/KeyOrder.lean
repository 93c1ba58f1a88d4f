import ControlPlane.Proofs.Store.ByteOrder
import ControlPlane.Proofs.Store.OwnKeys

/-!
The order of listings. Where the addresses of a kind are in the order of the keys
(`Address.InKeyOrder`), as they are in memory and in a durable store, a listing has the records of
its namespace in key order, each once (`Store.ascending_select`, `Store.mem_keys_select_iff`).
-/

namespace ControlPlane

/-! ### Keys in order -/

/-- Keys are in strictly increasing order. -/
def RecordKey.Ascending (keys : List RecordKey) : Prop :=
  keys.Pairwise fun a b => compare a b = .lt

namespace RecordKey

variable {keys : List RecordKey}

theorem Ascending.nodup (h : Ascending keys) : keys.Nodup := by
  refine h.imp fun {a b} below same => ?_
  rw [same] at below
  simp at below

/-- What stands under keys in order is told by what there is. -/
theorem Ascending.ext {α : Type} {l l' : List (RecordKey × α)} (h : Ascending (l.map Prod.fst))
    (h' : Ascending (l'.map Prod.fst)) (same : ∀ e, e ∈ l ↔ e ∈ l') : l = l' := by
  have perm := (List.perm_ext_iff_of_nodup h.nodup.of_map h'.nodup.of_map).mpr same
  refine List.Perm.eq_of_pairwise ?_ (List.pairwise_map.mp h) (List.pairwise_map.mp h') perm
  intro a b _ _ below above
  exact absurd (Std.TransCmp.lt_trans below above) (by simp)

section

variable {α β : Type} {f : α → Option β} {l : List (RecordKey × α)}

/-- What a list under keys is turned into, where some of it is dropped. -/
theorem mem_filterMap_iff {key : RecordKey} {b : β} :
    (key, b) ∈ (l.filterMap fun e => (f e.2).map fun b => (e.1, b)) ↔
      ∃ a, (key, a) ∈ l ∧ f a = some b := by
  simp only [List.mem_filterMap, Option.map_eq_some_iff, Prod.mk.injEq, Prod.exists]
  constructor
  · rintro ⟨k, a, mem, b', made, rfl, rfl⟩
    exact ⟨a, mem, made⟩
  · rintro ⟨a, mem, made⟩
    exact ⟨key, a, mem, b, made, rfl, rfl⟩

/-- What is left of a list in key order is in key order. -/
theorem Ascending.filterMap (h : Ascending (l.map Prod.fst)) :
    Ascending ((l.filterMap fun e => (f e.2).map fun b => (e.1, b)).map Prod.fst) := by
  rw [Ascending, List.pairwise_map] at h ⊢
  rw [List.pairwise_filterMap]
  refine h.imp fun {a b} below x isX y isY => ?_
  obtain ⟨_, -, rfl⟩ := Option.map_eq_some_iff.mp isX
  obtain ⟨_, -, rfl⟩ := Option.map_eq_some_iff.mp isY
  exact below

end

end RecordKey

/-! ### Addresses in the order of keys -/

/-- Addresses are in the order of the keys that are not refused, and a listing of a namespace covers
the addresses of its keys. -/
class Address.InKeyOrder (κ : Type) [Address κ] : Prop where
  compare_of : ∀ (kind : Kind) {a b : RecordKey}, refusal? κ a = none → refusal? κ b = none →
    compare (of (κ := κ) kind a) (of kind b) = compare a b
  isWithin_of_iff : ∀ (kind : Kind) {ns : String} {key : RecordKey},
    refusal? κ ⟨ns, ""⟩ = none → refusal? κ key = none →
      (isWithin ns (of (κ := κ) kind key) = true ↔ key.namespace = ns)

instance : Address.InKeyOrder RecordId where
  compare_of kind a b _ _ := by
    show compare (RecordId.mk kind a) (RecordId.mk kind b) = _
    rw [RecordId.compare_def, Std.ReflOrd.compare_self]
    rfl
  isWithin_of_iff kind ns key _ _ := beq_iff_eq

instance : Address.InKeyOrder ByteAddress where
  compare_of kind a b ha hb := by
    have order := ByteAddress.compare_of (a := ⟨kind, a⟩) (b := ⟨kind, b⟩)
      (ByteAddress.refusal?_eq_none_iff.mp ha) (ByteAddress.refusal?_eq_none_iff.mp hb)
    rw [order, RecordId.compare_def, Std.ReflOrd.compare_self]
    rfl
  isWithin_of_iff kind ns key plain accepted :=
    ByteAddress.isPrefixOf_keyBytes_iff (ByteAddress.refusal?_eq_none_iff.mp plain)
      (ByteAddress.refusal?_eq_none_iff.mp accepted)

/-! ### Listings -/

namespace Store

variable {κ : Type} [Address κ] {s : Store κ} {kind : Kind} {ns : Option String} {r : Record}

/-- A listing has the records that are found at their keys and that it covers. -/
theorem mem_select_within_iff : r ∈ s.select kind ns ↔
    s.find? kind r.key = some r ∧
      ∀ n ∈ ns, Address.isWithin n (Address.of (κ := κ) kind r.key) = true := by
  rw [← mem_select_iff]
  simp only [select, List.mem_map, List.mem_filter, Bool.and_eq_true, beq_iff_eq,
    Option.all_eq_true, Option.all_none, and_true]
  constructor
  · rintro ⟨⟨a, q⟩, ⟨entry, isKind, within⟩, rfl⟩
    have filed := (s.filed a q (Dictionary.mem_entries_iff.mp entry)).1
    rw [show Address.kind a = kind from isKind] at filed
    exact ⟨⟨(a, q), ⟨entry, isKind⟩, rfl⟩, fun n mem => filed ▸ within n mem⟩
  · rintro ⟨⟨⟨a, q⟩, ⟨entry, isKind⟩, rfl⟩, within⟩
    have filed := (s.filed a q (Dictionary.mem_entries_iff.mp entry)).1
    rw [show Address.kind a = kind from isKind] at filed
    exact ⟨(a, q), ⟨entry, isKind, fun n mem => filed.symm ▸ within n mem⟩, rfl⟩

/-- The key of a listed record is not refused. -/
theorem accepted_of_mem_select (mem : r ∈ s.select kind ns) : Address.refusal? κ r.key = none :=
  (filed_find? (mem_select_within_iff.mp mem).1).2

variable [Address.InKeyOrder κ]

/-- A listing is in key order, and has no key twice. -/
theorem ascending_select (s : Store κ) (kind : Kind) (ns : Option String) :
    RecordKey.Ascending ((s.select kind ns).map RecordOf.key) := by
  rw [select, List.map_map, RecordKey.Ascending, List.pairwise_map]
  refine (s.records.sorted.filter _).imp_of_mem fun {a b} ha hb below => ?_
  simp only [List.mem_filter, Bool.and_eq_true, beq_iff_eq] at ha hb
  have filedA := s.filed a.1 a.2 (Dictionary.mem_entries_iff.mp ha.1)
  have filedB := s.filed b.1 b.2 (Dictionary.mem_entries_iff.mp hb.1)
  rw [ha.2.1] at filedA
  rw [hb.2.1] at filedB
  rw [Entries.Below, filedA.1, filedB.1,
    Address.InKeyOrder.compare_of kind filedA.2 filedB.2] at below
  exact below

/-- The keys of a listing are the keys in its namespace at which a record is found, if the namespace
is one in which records can be created. -/
theorem mem_keys_select_iff {key : RecordKey}
    (usable : ∀ n ∈ ns, Address.refusal? κ ⟨n, ""⟩ = none) :
    key ∈ (s.select kind ns).map RecordOf.key ↔
      Address.refusal? κ key = none ∧ (s.find? kind key).isSome ∧ ∀ n ∈ ns, key.namespace = n := by
  rw [List.mem_map]
  constructor
  · rintro ⟨r, mem, rfl⟩
    obtain ⟨found, within⟩ := mem_select_within_iff.mp mem
    have accepted := accepted_of_mem_select mem
    refine ⟨accepted, Option.isSome_of_eq_some found, fun n isNs => ?_⟩
    exact (Address.InKeyOrder.isWithin_of_iff kind (usable n isNs) accepted).mp (within n isNs)
  · rintro ⟨accepted, isSome, inside⟩
    obtain ⟨r, found⟩ := Option.isSome_iff_exists.mp isSome
    obtain rfl := key_of_find? accepted found
    refine ⟨r, mem_select_within_iff.mpr ⟨found, fun n isNs => ?_⟩, rfl⟩
    exact (Address.InKeyOrder.isWithin_of_iff kind (usable n isNs) accepted).mpr (inside n isNs)

end Store

end ControlPlane
