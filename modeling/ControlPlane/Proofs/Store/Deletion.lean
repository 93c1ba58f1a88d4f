import ControlPlane.Proofs.Store.Calls

/-!
Deletions: what is dropped, what is left and what is announced (`Store.drops_delete`). Nothing that
is left is owned by anything that was dropped.
-/

namespace ControlPlane

variable {κ : Type} [Address κ]

namespace Holdings

variable {records : Holdings κ} {pending : List κ}

theorem mem_dependents_iff {uid : String} {a : κ} :
    a ∈ records.dependents uid ↔
      ∃ r, records.find? a = some r ∧ r.metadata.isOwnedBy uid = true := by
  simp only [dependents, List.mem_map, List.mem_filter]
  constructor
  · rintro ⟨⟨b, r⟩, ⟨mem, owned⟩, rfl⟩
    exact ⟨r, Dictionary.mem_entries_iff.mp mem, owned⟩
  · rintro ⟨r, found, owned⟩
    exact ⟨(a, r), ⟨Dictionary.mem_entries_iff.mpr found, owned⟩, rfl⟩

/-- A record is left as it was, or it is dropped. -/
theorem find?_dropAll (records : Holdings κ) (pending : List κ) (a : κ) :
    (records.dropAll pending).2.find? a = records.find? a ∨
      (records.dropAll pending).2.find? a = none ∧
        ∃ r, records.find? a = some r ∧ (a, r) ∈ (records.dropAll pending).1 := by
  induction records, pending using dropAll.induct with
  | case1 records =>
    rw [dropAll_nil]
    exact .inl rfl
  | case2 records b pending absent ih =>
    rw [dropAll_absent absent]
    exact ih
  | case3 records b pending q present rest _ _ _ ih =>
    rw [dropAll_present present]
    simp only [List.mem_cons, Prod.mk.injEq]
    by_cases same : a = b
    · subst same
      refine .inr ⟨?_, q, present, .inl ⟨rfl, rfl⟩⟩
      have gone : rest.find? a = none := Dictionary.find?_erase_self records a
      rcases ih with kept | ⟨none, -⟩
      · exact kept.trans gone
      · exact none
    · have other : rest.find? a = records.find? a := Dictionary.find?_erase_of_ne records same
      rw [other] at ih
      rcases ih with kept | ⟨none, r, found, dropped⟩
      · exact .inl kept
      · exact .inr ⟨none, r, found, .inr dropped⟩

/-- What is dropped was there. -/
theorem find?_of_mem_dropped {a : κ} {r : Record} (h : (a, r) ∈ (records.dropAll pending).1) :
    records.find? a = some r := by
  induction records, pending using dropAll.induct with
  | case1 records =>
    rw [dropAll_nil] at h
    cases h
  | case2 records b pending absent ih =>
    rw [dropAll_absent absent] at h
    exact ih h
  | case3 records b pending q present rest _ _ _ ih =>
    rw [dropAll_present present] at h
    rcases List.mem_cons.mp h with eq | h
    · obtain ⟨rfl, rfl⟩ := Prod.mk.inj eq
      exact present
    · exact Dictionary.find?_of_find?_erase (ih h)

/-- Nothing is left at a pending address. -/
theorem find?_of_mem_pending {a : κ} (h : a ∈ pending) :
    (records.dropAll pending).2.find? a = none := by
  induction records, pending using dropAll.induct with
  | case1 records => cases h
  | case2 records b pending absent ih =>
    rw [dropAll_absent absent]
    rcases List.mem_cons.mp h with rfl | h
    · rcases find?_dropAll records pending a with kept | ⟨none, -⟩
      · exact kept.trans absent
      · exact none
    · exact ih h
  | case3 records b pending q present rest _ _ _ ih =>
    rw [dropAll_present present]
    rcases List.mem_cons.mp h with rfl | h
    · have gone : rest.find? a = none := Dictionary.find?_erase_self records a
      rcases find?_dropAll rest ((dependents rest q.metadata.uid).reverse ++ pending) a with
          kept | ⟨none, -⟩
      · exact kept.trans gone
      · exact none
    · exact ih (List.mem_append_right _ h)

/-- Nothing that is left is owned by what was dropped: the dependents of a dropped record were
pending after it. -/
theorem not_isOwnedBy_dropped {a b : κ} {r q : Record}
    (dropped : (a, r) ∈ (records.dropAll pending).1)
    (left : (records.dropAll pending).2.find? b = some q) :
    q.metadata.isOwnedBy r.metadata.uid = false := by
  induction records, pending using dropAll.induct with
  | case1 records =>
    rw [dropAll_nil] at dropped
    cases dropped
  | case2 records c pending absent ih =>
    rw [dropAll_absent absent] at dropped left
    exact ih dropped left
  | case3 records c pending x present rest _ _ _ ih =>
    rw [dropAll_present present] at dropped left
    rcases List.mem_cons.mp dropped with eq | dropped
    · obtain ⟨rfl, rfl⟩ := Prod.mk.inj eq
      cases owned : q.metadata.isOwnedBy r.metadata.uid with
      | false => rfl
      | true =>
        have found := find?_of_find?_dropAll rest _ b q left
        have mem : b ∈ (dependents rest r.metadata.uid).reverse ++ pending := by
          rw [List.mem_append, List.mem_reverse]
          exact .inl (mem_dependents_iff.mpr ⟨q, found, owned⟩)
        rw [find?_of_mem_pending mem] at left
        cases left
    · exact ih dropped left

end Holdings

namespace Store

/-- One store is another from which records were dropped, and this was announced. -/
structure Drops (s s' : Store κ) (announced : List Announcement) : Prop where
  find? : ∀ kind key, s'.find? kind key = s.find? kind key ∨
    s'.find? kind key = none ∧
      ∃ r, s.find? kind key = some r ∧ ⟨.deleted, kind, r⟩ ∈ announced
  was : ∀ a ∈ announced, s.find? a.kind a.record.key = some a.record
  closed : ∀ a ∈ announced, ∀ kind key q, s'.find? kind key = some q →
    q.metadata.isOwnedBy a.record.metadata.uid = false
  uids : s'.uids = s.uids

theorem Drops.refl (s : Store κ) : s.Drops s [] :=
  ⟨fun _ _ => .inl rfl, nofun, nofun, rfl⟩

/-- What is left was there before. -/
theorem Drops.of_find? {s s' : Store κ} {announced : List Announcement} (h : s.Drops s' announced)
    {kind : Kind} {key : RecordKey} {r : Record} (left : s'.find? kind key = some r) :
    s.find? kind key = some r := by
  rcases h.find? kind key with same | ⟨none, -⟩
  · rwa [same] at left
  · rw [none] at left
    cases left

/-- A deletion drops records, if only none because it fails. -/
theorem drops_delete (s : Store κ) (kind : Kind) (key : RecordKey) :
    s.Drops (s.answer (.delete kind key)).2.store (s.answer (.delete kind key)).2.announced := by
  simp only [answer, delete]
  split
  · exact .refl s
  · refine ⟨fun kind' key' => ?_, fun a mem => ?_, fun a mem kind' key' q left => ?_, rfl⟩
    · rcases s.records.find?_dropAll [Address.of kind key] (Address.of kind' key') with
          kept | ⟨none, r, found, dropped⟩
      · exact .inl kept
      · refine .inr ⟨none, r, found, ?_⟩
        have entry := List.mem_map_of_mem (f := fun d : κ × Record =>
          (⟨.deleted, Address.kind d.1, d.2⟩ : Announcement)) dropped
        rw [Address.kind_of] at entry
        exact entry
    · obtain ⟨⟨a, r⟩, dropped, rfl⟩ := List.mem_map.mp mem
      have found := Holdings.find?_of_mem_dropped dropped
      rw [Store.find?, ← (s.filed a r found).1, found]
    · obtain ⟨⟨a, r⟩, dropped, rfl⟩ := List.mem_map.mp mem
      exact Holdings.not_isOwnedBy_dropped dropped left

/-- The first record that a deletion drops is the one that it finds. -/
theorem dropped_first {s : Store κ} {kind : Kind} {key : RecordKey} {r : Record}
    (found : s.find? kind key = some r) :
    ∃ rest, (s.answer (.delete kind key)).2.announced = ⟨.deleted, kind, r⟩ :: rest := by
  simp only [answer, delete, found, Option.isNone_some, Bool.false_eq_true, if_false, commit,
    Holdings.dropAll_present found, List.map_cons, Address.kind_of]
  exact ⟨_, rfl⟩

/-- Whatever is called, no record changes and nothing is announced, or one record of the call's kind
is put and announced, or records are dropped. -/
theorem answer_cases (s : Store κ) (c : Call) :
    s.Stays (s.answer c).2 ∨
      (∃ change r, (s.answer c).2.announced = [⟨change, c.kind, r⟩] ∧
        s.Puts (s.answer c).2.store c.kind r) ∨
      s.Drops (s.answer c).2.store (s.answer c).2.announced := by
  cases c with
  | get kind key => exact .inl (.of_eq rfl)
  | list kind ns => exact .inl (.of_eq rfl)
  | create kind r =>
    rcases s.answer_create kind r with ⟨e, uids, failed, goesOn⟩ | ⟨uid, t, done, -, puts, -⟩
    · exact .inl ⟨uids, goesOn, congrArg Prod.snd failed⟩
    · rw [done]
      exact .inr (.inl ⟨_, _, rfl, puts⟩)
  | update kind r =>
    rcases s.answer_update kind r with ⟨e, failed⟩ | ⟨q, t, done, -, -, puts, -⟩
    · exact .inl (.of_eq (congrArg Prod.snd failed))
    · rw [done]
      exact .inr (.inl ⟨_, _, rfl, puts⟩)
  | updateStatus kind r =>
    rcases s.answer_updateStatus kind r with ⟨e, failed⟩ | ⟨q, t, done, -, -, puts, -⟩
    · exact .inl (.of_eq (congrArg Prod.snd failed))
    · rw [done]
      exact .inr (.inl ⟨_, _, rfl, puts⟩)
  | delete kind key => exact .inr (.inr (s.drops_delete kind key))

/-- The store without the record at a key, whatever that record owns. -/
def without (s : Store κ) (kind : Kind) (key : RecordKey) : Store κ :=
  { s with
    records := s.records.erase (Address.of kind key)
    filed := s.filed.of_subset fun _ _ => Dictionary.find?_of_find?_erase }

/-- A record that owns nothing is dropped alone. -/
theorem answer_delete_of_alone {s : Store κ} {kind : Kind} {key : RecordKey} {r : Record}
    (found : s.find? kind key = some r)
    (alone : Holdings.dependents (s.without kind key).records r.metadata.uid = []) :
    s.answer (.delete kind key) = (.ok (), ⟨s.without kind key, [⟨.deleted, kind, r⟩]⟩) := by
  have dropped : s.records.dropAll [Address.of kind key] =
      ([(Address.of kind key, r)], (s.without kind key).records) := by
    have rest : Holdings.dependents (s.records.erase (Address.of kind key)) r.metadata.uid = [] :=
      alone
    rw [Holdings.dropAll_present found, rest, List.reverse_nil, List.nil_append,
      Holdings.dropAll_nil]
    rfl
  simp only [answer, delete, found, Option.isNone_some, Bool.false_eq_true, if_false, dropped,
    commit, List.map_cons, List.map_nil, Address.kind_of]
  rfl

end Store

end ControlPlane
