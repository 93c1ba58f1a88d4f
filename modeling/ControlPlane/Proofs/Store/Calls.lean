import ControlPlane.Proofs.Dictionary
import ControlPlane.Proofs.Outcome
import ControlPlane.Store.Basic
import ControlPlane.Store.Client

/-!
What the calls on a store leave behind. A write that succeeds puts one record at its address, leaves
every other address alone and announces that record; one that fails leaves everything alone. The
statements are about lookups, so that the proofs which use them never open the records of a store.
-/

namespace ControlPlane

variable {κ : Type} [Address κ]

/-! ### Addresses -/

namespace Address

theorem of_ne_of_kind {k l : Kind} (h : k ≠ l) (a b : RecordKey) :
    of (κ := κ) k a ≠ of l b := by
  intro eq
  apply h
  rw [← kind_of (κ := κ) k a, eq, kind_of]

theorem function_ne_agent (a b : RecordKey) : of (κ := κ) .function a ≠ of .agent b :=
  of_ne_of_kind (by decide) a b

end Address

/-! ### Supplies of identities -/

namespace UidSupply

/-- A supply is what is left of another one after some identities were given or lost. -/
structure GoesOn (before after : UidSupply) : Prop where
  text : after.text = before.text
  drawn : before.drawn ≤ after.drawn

theorem GoesOn.refl (u : UidSupply) : u.GoesOn u := ⟨rfl, Nat.le_refl _⟩

theorem GoesOn.trans {u v w : UidSupply} (h : u.GoesOn v) (h' : v.GoesOn w) : u.GoesOn w :=
  ⟨h'.text.trans h.text, Nat.le_trans h.drawn h'.drawn⟩

theorem goesOn_identify {supply next : UidSupply} {uid given : String}
    (identified : (given, next) = supply.identify uid) : supply.GoesOn next := by
  rw [identify] at identified
  split at identified
  · obtain ⟨-, rfl⟩ := Prod.mk.inj identified
    exact ⟨rfl, Nat.le_succ _⟩
  · obtain ⟨-, rfl⟩ := Prod.mk.inj identified
    exact .refl _

end UidSupply

namespace Store

/-! ### Lookups after a write -/

theorem find?_put (s : Store κ) (kind : Kind) (r : Record)
    (accepted : Address.refusal? κ r.key = none) :
    (s.put kind r accepted).find? kind r.key = some r :=
  Dictionary.find?_insert_self ..

theorem find?_put_of_ne (s : Store κ) {kind kind' : Kind} {r : Record} {key : RecordKey}
    (accepted : Address.refusal? κ r.key = none)
    (h : Address.of (κ := κ) kind' key ≠ Address.of kind r.key) :
    (s.put kind r accepted).find? kind' key = s.find? kind' key :=
  Dictionary.find?_insert_of_ne _ _ h

/-- Two keys with one address find the same record. -/
theorem find?_congr (s : Store κ) {kind : Kind} {a b : RecordKey}
    (h : Address.of (κ := κ) kind a = Address.of kind b) : s.find? kind a = s.find? kind b := by
  rw [find?, h, find?]

/-- A record whose key is told apart from others is stored under that key. -/
theorem key_of_find? {s : Store κ} {kind : Kind} {key : RecordKey} {r : Record}
    (accepted : Address.refusal? κ key = none) (h : s.find? kind key = some r) : r.key = key :=
  (Address.of_inj accepted (filed_find? h).2 (filed_find? h).1).symm

/-- A listing of a kind has the records that are found at their keys. -/
theorem mem_select_iff {s : Store κ} {kind : Kind} {r : Record} :
    r ∈ s.select kind none ↔ s.find? kind r.key = some r := by
  simp only [select, Option.all_none, Bool.and_true, List.mem_map, List.mem_filter, beq_iff_eq]
  constructor
  · rintro ⟨⟨a, q⟩, ⟨mem, isKind⟩, rfl⟩
    have found := Dictionary.mem_entries_iff.mp mem
    have filed := (s.filed a q found).1
    simp only at isKind
    rw [isKind] at filed
    rw [find?, ← filed, found]
  · intro found
    exact ⟨(Address.of kind r.key, r), ⟨Dictionary.mem_entries_iff.mpr found, Address.kind_of ..⟩,
      rfl⟩

theorem mem_select_of_find? {s : Store κ} {kind : Kind} {key : RecordKey} {r : Record}
    (found : s.find? kind key = some r) : r ∈ s.select kind none := by
  rw [mem_select_iff, ← found]
  exact find?_congr s (filed_find? found).1.symm

/-- One store is another with a record put at the address of its kind and key. -/
structure Puts (s s' : Store κ) (kind : Kind) (r : Record) : Prop where
  found : s'.find? kind r.key = some r
  others : ∀ kind' key, Address.of (κ := κ) kind' key ≠ Address.of kind r.key →
    s'.find? kind' key = s.find? kind' key

theorem puts_put (s : Store κ) (kind : Kind) (r : Record)
    (accepted : Address.refusal? κ r.key = none) : s.Puts (s.put kind r accepted) kind r :=
  ⟨s.find?_put kind r accepted, fun _ _ => s.find?_put_of_ne accepted⟩

theorem Puts.of_kind {s s' : Store κ} {kind kind' : Kind} {r : Record} (h : s.Puts s' kind r)
    (ne : kind' ≠ kind) (key : RecordKey) : s'.find? kind' key = s.find? kind' key :=
  h.others kind' key (Address.of_ne_of_kind ne key r.key)

/-! ### Identities left to give -/

@[simp] theorem find?_giving (s : Store κ) (uids : UidSupply) (kind : Kind) (key : RecordKey) :
    (s.giving uids).find? kind key = s.find? kind key := rfl

theorem Puts.of_giving {s s' : Store κ} {uids : UidSupply} {kind : Kind} {r : Record}
    (h : (s.giving uids).Puts s' kind r) : s.Puts s' kind r :=
  ⟨h.found, h.others⟩

/-- A record that is put in place of one with its key is put where that one was. -/
theorem Puts.again {s t u : Store κ} {kind : Kind} {r q : Record} (h : s.Puts t kind r)
    (h' : t.Puts u kind q) (same : q.key = r.key) : s.Puts u kind q :=
  ⟨h'.found, fun kind' key ne => (h'.others kind' key ne).trans (h.others kind' key (same ▸ ne))⟩

/-- The record put is also found under every other key of its address. -/
theorem Puts.found_at {s s' : Store κ} {kind : Kind} {r : Record} {key : RecordKey}
    (h : s.Puts s' kind r) (same : Address.of (κ := κ) kind key = Address.of kind r.key) :
    s'.find? kind key = some r := by
  rw [find?_congr s' same, h.found]

theorem find?_of_records {s t : Store κ} (same : t.records = s.records) (kind : Kind)
    (key : RecordKey) : t.find? kind key = s.find? kind key := by
  rw [find?, same, find?]

/-- Stores with the same records differ only in the identities that are left to give. -/
theorem eq_giving_of_records {s t : Store κ} (same : t.records = s.records) :
    t = s.giving t.uids := by
  cases t
  subst same
  rfl

/-- After a call nothing is announced, and the store has the records that it had; identities may be
lost. -/
def Stays (s : Store κ) (w : Written κ) : Prop :=
  ∃ uids, s.uids.GoesOn uids ∧ w = ⟨s.giving uids, []⟩

theorem Stays.of_eq {s : Store κ} {w : Written κ} (eq : w = ⟨s, []⟩) : s.Stays w :=
  ⟨s.uids, .refl _, eq⟩

theorem Stays.records {s : Store κ} {w : Written κ} (stays : s.Stays w) :
    w.store.records = s.records := by
  obtain ⟨uids, -, rfl⟩ := stays
  rfl

theorem Stays.announced {s : Store κ} {w : Written κ} (stays : s.Stays w) : w.announced = [] := by
  obtain ⟨uids, -, rfl⟩ := stays
  rfl

/-! ### Creations -/

/-- The identities that a creation leaves which fails at the key of a stored record: one is lost
where the identity of the record was drawn beforehand. -/
def uidsAfterRefusal (s : Store κ) (r : Record) : UidSupply :=
  match Address.drawing κ with
  | .onceFree => s.uids
  | .beforehand => (s.uids.identify r.metadata.uid).2

theorem goesOn_uidsAfterRefusal (s : Store κ) (r : Record) :
    s.uids.GoesOn (s.uidsAfterRefusal r) := by
  rw [uidsAfterRefusal]
  cases Address.drawing κ with
  | onceFree => exact .refl _
  | beforehand => exact UidSupply.goesOn_identify rfl

/-- A creation at a refused key does nothing at all. -/
theorem answer_create_of_refused {s : Store κ} {kind : Kind} {r : Record} {e : StoreError}
    (refused : Address.refusal? κ r.key = some e) :
    s.answer (.create kind r) = (.error e, ⟨s, []⟩) := by
  simp only [answer, create]
  split <;> simp_all

/-- A creation at the key of a stored record, which is not refused, is a conflict. -/
theorem answer_create_of_found {s : Store κ} {kind : Kind} {r current : Record}
    (accepted : Address.refusal? κ r.key = none)
    (found : s.find? kind r.key = some current) :
    s.answer (.create kind r) =
      (.error (.alreadyExists kind r.key), ⟨s.giving (s.uidsAfterRefusal r), []⟩) := by
  have there : (s.find? kind r.key).isSome = true := by rw [found]; rfl
  simp only [answer, create]
  split
  · simp_all
  · rw [uidsAfterRefusal]
    cases Address.drawing κ with
    | onceFree => exact if_pos there
    | beforehand => exact if_pos there

/-- A creation puts the record, admitted under the identity that is drawn for it, where none was. -/
theorem answer_create_eq {s : Store κ} {kind : Kind} {r : Record}
    (accepted : Address.refusal? κ r.key = none) (absent : s.find? kind r.key = none) :
    let given := s.uids.identify r.metadata.uid
    s.answer (.create kind r) = (.ok (r.admitted given.1),
      ⟨(s.giving given.2).put kind (r.admitted given.1) accepted,
        [⟨.added, kind, r.admitted given.1⟩]⟩) := by
  have free : ¬(s.find? kind r.key).isSome = true := by rw [absent]; simp
  simp only [answer, create]
  split
  · simp_all
  · cases Address.drawing κ with
    | onceFree => exact if_neg free
    | beforehand => exact if_neg free

/-- A creation either fails, leaving every record, or puts the record, admitted under an identity,
where none was. -/
theorem answer_create (s : Store κ) (kind : Kind) (r : Record) :
    (∃ e uids, s.answer (.create kind r) = (.error e, ⟨s.giving uids, []⟩) ∧
        s.uids.GoesOn uids) ∨
      ∃ uid s', s.answer (.create kind r) =
          (.ok (r.admitted uid), ⟨s', [⟨.added, kind, r.admitted uid⟩]⟩) ∧
        s.find? kind r.key = none ∧ s.Puts s' kind (r.admitted uid) ∧
        (uid, s'.uids) = s.uids.identify r.metadata.uid := by
  cases accepted : Address.refusal? κ r.key with
  | some e => exact .inl ⟨e, s.uids, answer_create_of_refused accepted, .refl _⟩
  | none =>
    cases found : s.find? kind r.key with
    | some current =>
      exact .inl ⟨_, _, answer_create_of_found accepted found, s.goesOn_uidsAfterRefusal r⟩
    | none =>
      exact .inr ⟨_, _, answer_create_eq accepted found, rfl, (puts_put ..).of_giving, rfl⟩

/-- A creation succeeds where no record is and the key is not refused. -/
theorem answer_create_of_absent {s : Store κ} {kind : Kind} {r : Record}
    (accepted : Address.refusal? κ r.key = none) (absent : s.find? kind r.key = none) :
    ∃ uid s', s.answer (.create kind r) =
        (.ok (r.admitted uid), ⟨s', [⟨.added, kind, r.admitted uid⟩]⟩) ∧
      s.Puts s' kind (r.admitted uid) := by
  exact ⟨_, _, answer_create_eq accepted absent, (puts_put ..).of_giving⟩

/-- A record that comes without an identity is created under one that the store gives. -/
theorem answer_create_of_unidentified {s : Store κ} {kind : Kind} {r : Record}
    (accepted : Address.refusal? κ r.key = none) (absent : s.find? kind r.key = none)
    (unidentified : r.metadata.uid = "") :
    ∃ n s', s.answer (.create kind r) =
        (.ok (r.admitted (s.uids.text n)), ⟨s', [⟨.added, kind, r.admitted (s.uids.text n)⟩]⟩) ∧
      s.Puts s' kind (r.admitted (s.uids.text n)) := by
  obtain ⟨uid, s', done, puts⟩ := answer_create_of_absent accepted absent
  rcases s.answer_create kind r with ⟨e, uids, failed, -⟩ | ⟨uid', s'', done', -, -, identified⟩
  · rw [failed] at done
    cases done
  · rw [unidentified, UidSupply.identify, if_pos (by rfl)] at identified
    obtain ⟨rfl, -⟩ := Prod.mk.inj identified
    obtain ⟨same, -⟩ := Prod.mk.inj (done.symm.trans done')
    obtain rfl := congrArg (·.metadata.uid) (Except.ok.inj same)
    exact ⟨s.uids.drawn, s', done, puts⟩

/-! ### Replacements -/

section

variable {s : Store κ} {kind : Kind} {r current : Record} (change : Record → Record → Record)
  (keeps : ∀ current incoming, (change current incoming).key = current.key)

theorem commit_replace_of_absent (absent : s.find? kind r.key = none) :
    s.commit (s.replace kind r change keeps) = (.error (.notFound kind r.key), ⟨s, []⟩) := by
  simp only [replace]
  split
  · rfl
  · simp_all

/-- A replacement that carries another version than the stored one is a conflict. -/
theorem commit_replace_of_stale (found : s.find? kind r.key = some current)
    (stale : r.metadata.resourceVersion ≠ current.metadata.resourceVersion) :
    s.commit (s.replace kind r change keeps) =
      (.error (.conflict kind current.key r.metadata.resourceVersion
        current.metadata.resourceVersion), ⟨s, []⟩) := by
  simp only [replace]
  split
  · simp_all
  · rename_i q found'
    obtain rfl := Option.some.inj (found.symm.trans found')
    rw [Record.checkVersion, if_neg stale]
    rfl

/-- A replacement that carries the stored version puts what the change makes of the stored record. -/
theorem commit_replace_eq (found : s.find? kind r.key = some current)
    (version : r.metadata.resourceVersion = current.metadata.resourceVersion) :
    ∃ accepted, s.commit (s.replace kind r change keeps) = (.ok (change current r),
      ⟨s.put kind (change current r) accepted, [⟨.modified, kind, change current r⟩]⟩) := by
  refine ⟨keeps current r ▸ (filed_find? found).2, ?_⟩
  simp only [replace]
  split
  · simp_all
  · rename_i found'
    obtain rfl := Option.some.inj (found.symm.trans found')
    simp [Record.checkVersion, version, commit]

/-- A replacement succeeds where the incoming record carries the version of the stored one. -/
theorem commit_replace_of_found (found : s.find? kind r.key = some current)
    (version : r.metadata.resourceVersion = current.metadata.resourceVersion) :
    ∃ s', s.commit (s.replace kind r change keeps) =
        (.ok (change current r), ⟨s', [⟨.modified, kind, change current r⟩]⟩) ∧
      s.Puts s' kind (change current r) := by
  obtain ⟨accepted, done⟩ := commit_replace_eq change keeps found version
  exact ⟨_, done, puts_put ..⟩

end

/-- A replacement either fails or puts what the change makes of the stored record, of which the
incoming one carries the version. -/
theorem commit_replace (s : Store κ) (kind : Kind) (r : Record)
    (change : Record → Record → Record)
    (keeps : ∀ current incoming, (change current incoming).key = current.key) :
    (∃ e, s.commit (s.replace kind r change keeps) = (.error e, ⟨s, []⟩)) ∨
      ∃ current s', s.commit (s.replace kind r change keeps) =
          (.ok (change current r), ⟨s', [⟨.modified, kind, change current r⟩]⟩) ∧
        s.find? kind r.key = some current ∧
        r.metadata.resourceVersion = current.metadata.resourceVersion ∧
        s.Puts s' kind (change current r) ∧ s'.uids = s.uids := by
  cases found : s.find? kind r.key with
  | none => exact .inl ⟨_, commit_replace_of_absent change keeps found⟩
  | some current =>
    by_cases version : r.metadata.resourceVersion = current.metadata.resourceVersion
    · obtain ⟨accepted, done⟩ := commit_replace_eq change keeps found version
      exact .inr ⟨current, _, done, rfl, version, puts_put .., rfl⟩
    · exact .inl ⟨_, commit_replace_of_stale change keeps found version⟩

/-- What a replacement comes to, and what it leaves, depends on the record that it replaces. -/
theorem commit_replace_congr {s t : Store κ} {kind : Kind} {r : Record} {key : RecordKey}
    (change : Record → Record → Record)
    (keeps : ∀ current incoming, (change current incoming).key = current.key)
    (there : Address.of (κ := κ) kind key = Address.of kind r.key)
    (same : t.find? kind key = s.find? kind key) :
    (t.commit (t.replace kind r change keeps)).1 = (s.commit (s.replace kind r change keeps)).1 ∧
      (t.commit (t.replace kind r change keeps)).2.store.find? kind key =
        (s.commit (s.replace kind r change keeps)).2.store.find? kind key := by
  rw [find?_congr t there, find?_congr s there] at same
  rw [find?_congr _ there, find?_congr _ there]
  cases found : s.find? kind r.key with
  | none =>
    rw [found] at same
    rw [commit_replace_of_absent change keeps found, commit_replace_of_absent change keeps same]
    exact ⟨rfl, same.trans found.symm⟩
  | some current =>
    rw [found] at same
    by_cases version : r.metadata.resourceVersion = current.metadata.resourceVersion
    · obtain ⟨s', done, puts⟩ := commit_replace_of_found change keeps found version
      obtain ⟨t', done', puts'⟩ := commit_replace_of_found change keeps same version
      have next : Address.of (κ := κ) kind r.key = Address.of kind (change current r).key := by
        rw [keeps]
        exact (filed_find? found).1
      rw [done, done']
      exact ⟨rfl, (puts'.found_at next).trans (puts.found_at next).symm⟩
    · rw [commit_replace_of_stale change keeps found version,
        commit_replace_of_stale change keeps same version]
      exact ⟨rfl, same.trans found.symm⟩

/-- A replacement has nothing to do with the identities that are left to give. -/
theorem commit_replace_giving (s : Store κ) (uids : UidSupply) (kind : Kind) (r : Record)
    (change : Record → Record → Record)
    (keeps : ∀ current incoming, (change current incoming).key = current.key) :
    (s.giving uids).commit ((s.giving uids).replace kind r change keeps) =
      ((s.commit (s.replace kind r change keeps)).1,
        ⟨(s.commit (s.replace kind r change keeps)).2.store.giving uids,
          (s.commit (s.replace kind r change keeps)).2.announced⟩) := by
  cases found : s.find? kind r.key with
  | none =>
    have found' : (s.giving uids).find? kind r.key = none := found
    rw [commit_replace_of_absent change keeps found', commit_replace_of_absent change keeps found]
  | some current =>
    have found' : (s.giving uids).find? kind r.key = some current := found
    by_cases version : r.metadata.resourceVersion = current.metadata.resourceVersion
    · obtain ⟨accepted, done⟩ := commit_replace_eq change keeps found version
      obtain ⟨accepted', done'⟩ := commit_replace_eq change keeps found' version
      rw [done, done']
      rfl
    · rw [commit_replace_of_stale change keeps found' version,
        commit_replace_of_stale change keeps found version]

/-- Only a creation has to do with the identities that are left to give. -/
theorem answer_giving (s : Store κ) (uids : UidSupply) {c : Call} (other : c.method ≠ .create) :
    (s.giving uids).answer c =
      ((s.answer c).1, ⟨(s.answer c).2.store.giving uids, (s.answer c).2.announced⟩) := by
  cases c with
  | get kind key => rfl
  | list kind ns => rfl
  | create kind r => exact absurd rfl other
  | update kind r => exact s.commit_replace_giving uids kind r Record.updated fun _ _ => rfl
  | updateStatus kind r =>
    exact s.commit_replace_giving uids kind r Record.statusUpdated fun _ _ => rfl
  | delete kind key =>
    cases absent : (s.find? kind key).isNone with
    | true =>
      have absent' : ((s.giving uids).find? kind key).isNone = true := absent
      simp only [answer, delete, absent, absent', if_true]
      rfl
    | false =>
      have there : ((s.giving uids).find? kind key).isNone = false := absent
      simp only [answer, delete, absent, there, Bool.false_eq_true, if_false]
      rfl

/-- An update either fails or puts the stored record with the specification, the labels and the
owners of the incoming one. -/
theorem answer_update (s : Store κ) (kind : Kind) (r : Record) :
    (∃ e, s.answer (.update kind r) = (.error e, ⟨s, []⟩)) ∨
      ∃ current s', s.answer (.update kind r) =
          (.ok (current.updated r), ⟨s', [⟨.modified, kind, current.updated r⟩]⟩) ∧
        s.find? kind r.key = some current ∧
        r.metadata.resourceVersion = current.metadata.resourceVersion ∧
        s.Puts s' kind (current.updated r) ∧ s'.uids = s.uids :=
  s.commit_replace kind r Record.updated fun _ _ => rfl

/-- A write of a status either fails or puts the stored record with the status of the incoming
one. -/
theorem answer_updateStatus (s : Store κ) (kind : Kind) (r : Record) :
    (∃ e, s.answer (.updateStatus kind r) = (.error e, ⟨s, []⟩)) ∨
      ∃ current s', s.answer (.updateStatus kind r) =
          (.ok (current.statusUpdated r), ⟨s', [⟨.modified, kind, current.statusUpdated r⟩]⟩) ∧
        s.find? kind r.key = some current ∧
        r.metadata.resourceVersion = current.metadata.resourceVersion ∧
        s.Puts s' kind (current.statusUpdated r) ∧ s'.uids = s.uids :=
  s.commit_replace kind r Record.statusUpdated fun _ _ => rfl

end Store

end ControlPlane
