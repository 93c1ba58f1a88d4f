import ControlPlane.Proofs.Store.Versions
import ControlPlane.Proofs.Store.Typed

/-!
Keys on a durable store. The bytes of a key are its namespace, a zero byte and its name, so a key
whose namespace holds a zero byte has the bytes of another key. No record can be created there, but
the other calls do not look: they find the record of the other key. So a durable store keeps to the
record with exactly the key of a call precisely where the namespace holds no zero byte or nothing is
stored at those bytes (`Store.keepsTo_iff`), and a listing keeps to its namespace precisely where the
namespace holds no zero byte or the listing is empty (`Store.keys_told_apart_iff`).
-/

namespace ControlPlane

variable {κ : Type} [Address κ]

/-! ### Calls about a stored record -/

/-- A lookup, a write or a deletion of the record at a key. -/
structure Call.IsAbout (c : Call) (kind : Kind) (key : RecordKey) : Prop where
  kind : c.kind = kind
  key : c.key? = some key
  stored : c.method ≠ .create

namespace Store

/-- The calls about a key concern the record with exactly that key, and no other. -/
structure KeepsTo (s : Store κ) (kind : Kind) (key : RecordKey) : Prop where
  given : ∀ r, (s.answer (.get kind key)).1 = .ok r → r.key = key
  absent : (∀ r ∈ s.select kind none, r.key ≠ key) → ∀ c : Call, c.IsAbout kind key →
    (s.answer c).1 = .error (.notFound kind key)
  /-- A write leaves every other record as it is. -/
  written : ∀ c : Call, c.IsAbout kind key → c.method ≠ .delete → ∀ k, ∀ r ∈ s.select k none,
    (k = kind → r.key ≠ key) → r ∈ (s.answer c).2.store.select k none
  /-- What a deletion drops first is that record. -/
  dropped : ∀ a rest, (s.answer (.delete kind key)).2.announced = a :: rest →
    a.kind = kind ∧ a.record.key = key

variable {s : Store κ} {kind : Kind} {key : RecordKey}

/-- A call about a key at which nothing is found fails, and changes nothing. -/
theorem answer_of_absent {c : Call} (about : c.IsAbout kind key) (absent : s.find? kind key = none) :
    (s.answer c).1 = .error (.notFound kind key) ∧ (s.answer c).2 = ⟨s, []⟩ := by
  obtain ⟨rfl, named, stored⟩ := about
  cases c with
  | get k key' =>
    obtain rfl := Option.some.inj named
    rw [answer_get, show s.find? k key' = none from absent]
    exact ⟨rfl, rfl⟩
  | list k ns => cases named
  | create k r => exact absurd rfl stored
  | update k r =>
    obtain rfl := Option.some.inj named
    have failed := commit_replace_of_absent Record.updated (fun _ _ => rfl) absent
    exact ⟨congrArg Prod.fst failed, congrArg Prod.snd failed⟩
  | updateStatus k r =>
    obtain rfl := Option.some.inj named
    have failed := commit_replace_of_absent Record.statusUpdated (fun _ _ => rfl) absent
    exact ⟨congrArg Prod.fst failed, congrArg Prod.snd failed⟩
  | delete k key' =>
    obtain rfl := Option.some.inj named
    have none : s.find? k key' = none := absent
    simp [answer, delete, none, commit, Call.kind]

/-- A write of the record at a key leaves the records at all other addresses as they are. -/
theorem find?_of_other {c : Call} (about : c.IsAbout kind key) (keeps : c.method ≠ .delete)
    {k : Kind} {other : RecordKey}
    (apart : Address.of (κ := κ) k other ≠ Address.of kind key) :
    (s.answer c).2.store.find? k other = s.find? k other := by
  rcases s.stores_or_stays keeps with ⟨stays, -⟩ | ⟨r, stores⟩
  · exact find?_of_records stays.records k other
  · obtain ⟨named, isNamed, there⟩ := stores.there
    obtain rfl := Option.some.inj (isNamed.symm.trans about.key)
    refine stores.puts.others k other ?_
    rwa [← there, about.kind]

/-- Where nothing is found, the calls about a key concern no record. -/
theorem keepsTo_of_absent (absent : s.find? kind key = none) : s.KeepsTo kind key where
  given r given := by
    rw [answer_get, absent] at given
    cases given
  absent _ c about := (answer_of_absent about absent).1
  written c about _ k r mem _ := by
    rwa [(answer_of_absent about absent).2]
  dropped a rest dropped := by
    rw [(answer_of_absent ⟨rfl, rfl, by rintro ⟨⟩⟩ absent).2] at dropped
    cases dropped

/-- The calls about a key that is not refused concern the record with exactly that key. -/
theorem keepsTo_of_accepted (accepted : Address.refusal? κ key = none) : s.KeepsTo kind key := by
  cases found : s.find? kind key with
  | none => exact keepsTo_of_absent found
  | some r =>
    have own : r.key = key := key_of_find? accepted found
    refine ⟨fun q given => ?_, fun none => ?_, fun c about keeps k q mem other => ?_,
      fun a rest dropped => ?_⟩
    · rw [answer_get, found] at given
      obtain rfl := Except.ok.inj given
      exact own
    · exact absurd own (none r (mem_select_of_find? found))
    · rw [mem_select_iff] at mem ⊢
      rw [find?_of_other about keeps, mem]
      intro same
      have sameKind : k = kind := by rw [← Address.kind_of (κ := κ) k q.key, same, Address.kind_of]
      subst sameKind
      exact other rfl (Address.of_inj (filed_find? mem).2 accepted same)
    · obtain ⟨rest', first⟩ := dropped_first found
      obtain ⟨rfl, -⟩ := List.cons.inj (first.symm.trans dropped)
      exact ⟨rfl, own⟩

/-- The calls about a key concern the record with exactly that key, and no other, precisely where the
key is not refused or nothing is found at it. -/
theorem keepsTo_iff :
    s.KeepsTo kind key ↔ Address.refusal? κ key = none ∨ s.find? kind key = none := by
  constructor
  · intro keeps
    cases found : s.find? kind key with
    | none => exact .inr rfl
    | some r =>
      left
      rw [← keeps.given r (by rw [answer_get, found]; rfl)]
      exact (filed_find? found).2
  · rintro (accepted | absent)
    · exact keepsTo_of_accepted accepted
    · exact keepsTo_of_absent absent

end Store

/-! ### Listings of a durable store -/

open ByteAddress in
/-- The bytes of a key begin with those of a namespace without a zero byte, and the one that ends it,
exactly if that is the key's namespace. -/
theorem ByteAddress.isPrefixOf_keyBytes_iff {ns : String} {key : RecordKey} (plain : 0 ∉ encode ns)
    (accepted : 0 ∉ encode key.namespace) :
    (namespaceBytes ns).isPrefixOf (keyBytes key) = true ↔ key.namespace = ns := by
  rw [List.isPrefixOf_iff_prefix]
  constructor
  · rintro ⟨rest, same⟩
    exact (encode_inj (split_at_zero plain accepted same).1).symm
  · rintro rfl
    exact ⟨encode key.name, rfl⟩

namespace Store

open ByteAddress

variable {s : Store ByteAddress} {kind : Kind} {ns : String} {r : Record}

theorem namespace_of_stored (mem : r ∈ s.select kind (some ns)) : 0 ∉ encode r.key.namespace := by
  simp only [select, List.mem_map, List.mem_filter] at mem
  obtain ⟨⟨a, q⟩, ⟨entry, -⟩, rfl⟩ := mem
  exact refusal?_eq_none_iff.mp (s.filed a q (Dictionary.mem_entries_iff.mp entry)).2

/-- A listing of a namespace without a zero byte has records of that namespace only. -/
theorem namespace_of_mem_select (plain : 0 ∉ encode ns) (mem : r ∈ s.select kind (some ns)) :
    r.metadata.namespace = ns := by
  have accepted := namespace_of_stored mem
  simp only [select, List.mem_map, List.mem_filter, Bool.and_eq_true, Option.all_some] at mem
  obtain ⟨⟨a, q⟩, ⟨entry, -, within⟩, rfl⟩ := mem
  have filed := (s.filed a q (Dictionary.mem_entries_iff.mp entry)).1
  rw [filed] at within
  exact (isPrefixOf_keyBytes_iff plain accepted).mp within

/-- On a durable store, the calls about a key concern the record with exactly that key, and no other,
precisely where the key's namespace holds no zero byte or nothing is found; and a listing has records
of its namespace only precisely where the namespace holds no zero byte or the listing is empty. -/
theorem keys_told_apart_iff (s : Store ByteAddress) (kind : Kind) :
    (∀ key, s.KeepsTo kind key ↔ 0 ∉ encode key.namespace ∨ s.find? kind key = none) ∧
      ∀ ns, (∀ r ∈ s.select kind (some ns), r.metadata.namespace = ns) ↔
        0 ∉ encode ns ∨ s.select kind (some ns) = [] := by
  constructor
  · intro key
    rw [keepsTo_iff, ← refusal?_eq_none_iff]
    rfl
  · intro ns
    constructor
    · intro own
      rcases List.eq_nil_or_concat (s.select kind (some ns)) with empty | ⟨_, r, listed⟩
      · exact .inr empty
      · left
        have mem : r ∈ s.select kind (some ns) := by simp [listed]
        rw [← own r mem]
        exact namespace_of_stored mem
    · rintro (plain | empty) r mem
      · exact namespace_of_mem_select plain mem
      · rw [empty] at mem
        cases mem

/-- A durable store that holds one agent, in whose name stands a zero byte. -/
def zeroInName : Store ByteAddress :=
  (empty ⟨fun n => "gen-" ++ toString (n + 1), 0⟩).after
    [.create .agent ⟨{ name := "b\x00c", «namespace» := "a" }, .obj [], .null⟩]

/-- The agent is given, listed and dropped under the key of no record. -/
theorem zeroInName_aliased :
    let key : RecordKey := ⟨"a\x00b", "c"⟩
    let own : RecordKey := ⟨"a", "b\x00c"⟩
    (∀ r ∈ zeroInName.select .agent none, r.key ≠ key) ∧
      (zeroInName.answer (.get .agent key)).1.map RecordOf.key = .ok own ∧
      (zeroInName.select .agent (some key.namespace)).map RecordOf.key = [own] ∧
      (zeroInName.answer (.delete .agent key)).2.announced.head?.map (·.record.key) = some own ∧
      ¬ zeroInName.KeepsTo .agent key := by
  intro key own
  have found : (zeroInName.find? .agent key).map RecordOf.key = some own := by decide +kernel
  obtain ⟨r, at_key, r_own⟩ := Option.map_eq_some_iff.mp found
  have given : zeroInName.answer (.get .agent key) = (.ok r, ⟨zeroInName, []⟩) := by
    rw [answer_get, at_key]
    rfl
  refine ⟨by decide +kernel, ?_, by decide +kernel, ?_, ?_⟩
  · rw [given]
    exact congrArg Except.ok r_own
  · obtain ⟨rest, first⟩ := dropped_first at_key
    rw [first]
    exact congrArg some r_own
  · intro keeps
    have same := keeps.given r (by rw [given])
    rw [r_own] at same
    exact absurd same (by decide)

end Store

end ControlPlane
