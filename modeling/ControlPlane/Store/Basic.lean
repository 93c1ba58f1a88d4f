import ControlPlane.Store.Address
import ControlPlane.Store.Admission
import ControlPlane.Store.Routine

/-!
The store: records under addresses. Every write that succeeds announces what it changed; a deletion
also drops, and announces, whatever the dropped records owned. What a durable store keeps its bytes
in is assumed to be reliable here (`Engine.IsReliable`).
-/

namespace ControlPlane

/-! ### Announcements -/

/-- What happened to a record. -/
inductive Change where
  | added
  | modified
  | deleted
  deriving DecidableEq, Inhabited

/-- What a store tells those who watch it. -/
structure Announcement where
  change : Change
  kind : Kind
  record : Record

/-! ### Records under addresses -/

/-- The records of a store by their addresses. -/
abbrev Holdings (κ : Type) [Address κ] := Dictionary κ Record

namespace Holdings

variable {κ : Type} [Address κ]

/-- Every record is at the address of its kind and key, and its key is not refused. -/
def Filed (records : Holdings κ) : Prop :=
  ∀ a r, records.find? a = some r →
    a = Address.of (Address.kind a) r.key ∧ Address.refusal? κ r.key = none

/-- The records that a uid owns, in the order of their addresses. -/
def dependents (records : Holdings κ) (uid : String) : List κ :=
  (records.entries.filter fun e => e.2.metadata.isOwnedBy uid).map Prod.fst

/-- Drops the records at the pending addresses and all that they own. The dependents of a dropped
record are dropped before what was pending already, the last of them first. -/
def dropAll (records : Holdings κ) : List κ → List (κ × Record) × Holdings κ
  | [] => ([], records)
  | a :: pending =>
    match _found : records.find? a with
    | none => dropAll records pending
    | some r =>
      let rest := records.erase a
      let (dropped, left) :=
        dropAll rest ((dependents rest r.metadata.uid).reverse ++ pending)
      ((a, r) :: dropped, left)
  termination_by pending => (records.size, pending.length)
  decreasing_by
    · exact Prod.Lex.right _ (Nat.lt_succ_self _)
    · exact Prod.Lex.left _ _ (Dictionary.size_erase_lt _found)

theorem filed_empty : Filed (∅ : Holdings κ) := by
  intro a r h
  cases h

theorem Filed.insert {records : Holdings κ} (h : records.Filed) (kind : Kind) {r : Record}
    (accepted : Address.refusal? κ r.key = none) :
    Filed (records.insert (Address.of kind r.key) r) := by
  intro a q found
  rw [Dictionary.find?_insert] at found
  split at found
  · rename_i eq
    obtain rfl := Option.some.inj found
    rw [Std.LawfulEqCmp.eq_of_compare eq, Address.kind_of]
    exact ⟨rfl, accepted⟩
  · exact h a q found

theorem Filed.of_subset {records left : Holdings κ} (h : records.Filed)
    (sub : ∀ a r, left.find? a = some r → records.find? a = some r) : left.Filed :=
  fun a r found => h a r (sub a r found)

theorem dropAll_nil (records : Holdings κ) : records.dropAll [] = ([], records) := by
  rw [dropAll]

theorem dropAll_absent {records : Holdings κ} {a : κ} (h : records.find? a = none)
    (pending : List κ) : records.dropAll (a :: pending) = records.dropAll pending := by
  rw [dropAll]
  split
  · rfl
  · simp_all

/-- The pending addresses after a record was dropped. -/
theorem dropAll_present {records : Holdings κ} {a : κ} {r : Record}
    (h : records.find? a = some r) (pending : List κ) :
    records.dropAll (a :: pending) =
      let after := dropAll (records.erase a)
        ((dependents (records.erase a) r.metadata.uid).reverse ++ pending)
      ((a, r) :: after.1, after.2) := by
  rw [dropAll]
  split
  · simp_all
  · rename_i q found
    obtain rfl := Option.some.inj (h.symm.trans found)
    rfl

/-- What is left after records were dropped was there before. -/
theorem find?_of_find?_dropAll (records : Holdings κ) (pending : List κ) (a : κ) (r : Record)
    (left : (records.dropAll pending).2.find? a = some r) : records.find? a = some r := by
  induction records, pending using dropAll.induct with
  | case1 records => rwa [dropAll_nil] at left
  | case2 records b pending absent ih =>
    rw [dropAll_absent absent] at left
    exact ih left
  | case3 records b pending q present rest _ _ _ ih =>
    rw [dropAll_present present] at left
    exact Dictionary.find?_of_find?_erase (ih left)

end Holdings

/-! ### The store -/

/-- The records of a store and the identities it has left to give. -/
structure Store (κ : Type) [Address κ] where
  records : Holdings κ
  uids : UidSupply
  filed : records.Filed

/-- A store with what it announced. -/
structure Written (κ : Type) [Address κ] where
  store : Store κ
  announced : List Announcement

namespace Store

variable {κ : Type} [Address κ]

/-- The store without records. -/
def empty (uids : UidSupply) : Store κ := ⟨∅, uids, Holdings.filed_empty⟩

/-- The record at a key. -/
def find? (s : Store κ) (kind : Kind) (key : RecordKey) : Option Record :=
  s.records.find? (Address.of kind key)

/-- The records of a kind, of one namespace or of all, in the order of their addresses. -/
def select (s : Store κ) (kind : Kind) (ns : Option String) : List Record :=
  (s.records.entries.filter fun e =>
    Address.kind e.1 == kind && ns.all fun ns => Address.isWithin ns e.1).map Prod.snd

/-- A stored record is at the address of its own key, which is not refused. -/
theorem filed_find? {s : Store κ} {kind : Kind} {key : RecordKey} {r : Record}
    (h : s.find? kind key = some r) :
    Address.of (κ := κ) kind key = Address.of kind r.key ∧ Address.refusal? κ r.key = none := by
  have filed := s.filed _ _ h
  rwa [Address.kind_of] at filed

/-- The store with other identities left to give. -/
def giving (s : Store κ) (uids : UidSupply) : Store κ := { s with uids }

/-- Puts a record at its address. -/
def put (s : Store κ) (kind : Kind) (r : Record) (accepted : Address.refusal? κ r.key = none) :
    Store κ :=
  { s with
    records := s.records.insert (Address.of kind r.key) r
    filed := s.filed.insert kind accepted }

/-- The outcome of a write of stored records, and the store and the announcements after it; a write
that fails changes nothing and announces nothing. -/
def commit {α : Type} (s : Store κ) :
    Except StoreError (α × Written κ) → Except StoreError α × Written κ
  | .ok (a, written) => (.ok a, written)
  | .error e => (.error e, ⟨s, []⟩)

/-- Stores a new record under an identity that is drawn once its key was found free. -/
def createOnceFree (s : Store κ) (kind : Kind) (r : Record)
    (accepted : Address.refusal? κ r.key = none) : Except StoreError Record × Written κ :=
  if (s.find? kind r.key).isSome then (.error (.alreadyExists kind r.key), ⟨s, []⟩)
  else
    let (uid, uids) := s.uids.identify r.metadata.uid
    let created := r.admitted uid
    (.ok created, ⟨(s.giving uids).put kind created accepted, [⟨.added, kind, created⟩]⟩)

/-- Draws an identity for a new record, and stores the record if its key is free. -/
def createBeforehand (s : Store κ) (kind : Kind) (r : Record)
    (accepted : Address.refusal? κ r.key = none) : Except StoreError Record × Written κ :=
  let (uid, uids) := s.uids.identify r.metadata.uid
  let created := r.admitted uid
  if (s.find? kind r.key).isSome then
    (.error (.alreadyExists kind r.key), ⟨s.giving uids, []⟩)
  else (.ok created, ⟨(s.giving uids).put kind created accepted, [⟨.added, kind, created⟩]⟩)

/-- Stores a new record. -/
def create (s : Store κ) (kind : Kind) (r : Record) : Except StoreError Record × Written κ :=
  match accepted : Address.refusal? κ r.key with
  | some e => (.error e, ⟨s, []⟩)
  | none =>
    match Address.drawing κ with
    | .onceFree => s.createOnceFree kind r accepted
    | .beforehand => s.createBeforehand kind r accepted

/-- Replaces a record by what a change makes of it and of an incoming record; the change keeps the
key. -/
def replace (s : Store κ) (kind : Kind) (r : Record) (change : Record → Record → Record)
    (keeps : ∀ current incoming, (change current incoming).key = current.key := by
      intros; rfl) : Except StoreError (Record × Written κ) :=
  match found : s.find? kind r.key with
  | none => .error (.notFound kind r.key)
  | some current => do
    Record.checkVersion kind current r
    let next := change current r
    have accepted := (keeps current r).symm ▸ (filed_find? found).2
    pure (next, ⟨s.put kind next accepted, [⟨.modified, kind, next⟩]⟩)

/-- Drops a record and all that it owns, the record first. -/
def delete (s : Store κ) (kind : Kind) (key : RecordKey) :
    Except StoreError (Unit × Written κ) :=
  if (s.find? kind key).isNone then .error (.notFound kind key)
  else
    let dropping := s.records.dropAll [Address.of kind key]
    have kept := s.filed.of_subset (s.records.find?_of_find?_dropAll [Address.of kind key])
    .ok ((), ⟨{ s with records := dropping.2, filed := kept },
      dropping.1.map fun d => ⟨.deleted, Address.kind d.1, d.2⟩⟩)

/-- Answers a call. -/
def answer (s : Store κ) : (c : Call) → c.Outcome × Written κ
  | .get kind key =>
    ((s.find? kind key).elim (.error (.notFound kind key)) .ok, ⟨s, []⟩)
  | .list kind ns => (.ok (s.select kind ns), ⟨s, []⟩)
  | .create kind r => s.create kind r
  | .update kind r => s.commit (s.replace kind r Record.updated)
  | .updateStatus kind r => s.commit (s.replace kind r Record.statusUpdated)
  | .delete kind key => s.commit (s.delete kind key)

end Store

namespace Written

variable {κ : Type} [Address κ]

/-- Answers a call and adds to what was announced. -/
def answer (c : Call) (w : Written κ) : c.Outcome × Written κ :=
  let (outcome, next) := w.store.answer c
  (outcome, ⟨next.store, w.announced ++ next.announced⟩)

end Written

/-- Runs a routine on a store with nobody else at work. -/
def Routine.runOn {α κ : Type} [Address κ] (r : Routine α) (s : Store κ) : α × Written κ :=
  r.run Written.answer ⟨s, []⟩

end ControlPlane
