import ControlPlane.Store.Basic

/-!
A durable store on the engine that keeps its bytes. To answer a call the store makes calls of the
engine, one after another, and any of them may fail. The call of the store fails then as well; what
was written before stays written, and what was not announced before is not announced.
-/

namespace ControlPlane

/-! ### The engine -/

/-- A call that a store makes of its engine while it answers one call. -/
inductive EngineCall where
  /-- A tree is opened and read. -/
  | look
  /-- The bytes at an address are swapped for others. -/
  | swap
  /-- The bytes at the address that is the n-th of a deletion are removed. -/
  | remove (n : Nat)
  /-- All trees are read after the n-th removal, for what the removed record owned. -/
  | scan (n : Nat)
  | flush
  deriving DecidableEq

/-- An engine, told by the calls that fail, with the words for their failures. -/
structure Engine where
  failure? : EngineCall → Option String

namespace Engine

/-- No call fails. -/
def IsReliable (e : Engine) : Prop := ∀ call, e.failure? call = none

/-- Makes a call before something else; if it fails, a store is left as it is then. -/
def before {α κ : Type} [Address κ] (e : Engine) (call : EngineCall) (w : Written κ)
    (next : Except StoreError α × Written κ) : Except StoreError α × Written κ :=
  match e.failure? call with
  | some cause => (.error (.backend cause), w)
  | none => next

/-- Flushes what was written if the write succeeded; what cannot be flushed is not announced. -/
def flushed {α κ : Type} [Address κ] (e : Engine) (written : Except StoreError α × Written κ) :
    Except StoreError α × Written κ :=
  match written.1 with
  | .ok _ => e.before .flush ⟨written.2.store, []⟩ written
  | .error _ => written

end Engine

/-! ### Deletions -/

/-- What is done of a deletion, and the failure that ended it. -/
structure Dropping (κ : Type) [Address κ] where
  failure? : Option String := none
  dropped : List (κ × Record) := []
  left : Holdings κ

namespace Holdings

variable {κ : Type} [Address κ]

/-- Drops the records at the pending addresses and all that they own, as far as the engine goes
along; the number counts the removals. -/
def dropThrough (e : Engine) (n : Nat) (records : Holdings κ) : List κ → Dropping κ
  | [] => { left := records }
  | a :: pending =>
    match e.failure? (.remove n) with
    | some cause => { failure? := some cause, left := records }
    | none =>
      match _found : records.find? a with
      | none => dropThrough e (n + 1) records pending
      | some r =>
        let rest := records.erase a
        match e.failure? (.scan n) with
        | some cause => { failure? := some cause, left := rest }
        | none =>
          let later := dropThrough e (n + 1) rest
            ((dependents rest r.metadata.uid).reverse ++ pending)
          { later with dropped := (a, r) :: later.dropped }
  termination_by pending => (records.size, pending.length)
  decreasing_by
    · exact Prod.Lex.right _ (Nat.lt_succ_self _)
    · exact Prod.Lex.left _ _ (Dictionary.size_erase_lt _found)

section

variable {e : Engine} {n : Nat} {records : Holdings κ} {a : κ} {r : Record} {cause : String}

theorem dropThrough_nil (e : Engine) (n : Nat) (records : Holdings κ) :
    records.dropThrough e n [] = { left := records } := by
  rw [dropThrough]

theorem dropThrough_unremoved (failed : e.failure? (.remove n) = some cause) (pending : List κ) :
    records.dropThrough e n (a :: pending) = { failure? := some cause, left := records } := by
  rw [dropThrough, failed]

theorem dropThrough_absent (goes : e.failure? (.remove n) = none)
    (absent : records.find? a = none) (pending : List κ) :
    records.dropThrough e n (a :: pending) = records.dropThrough e (n + 1) pending := by
  rw [dropThrough]
  simp only [goes]
  split
  · rfl
  · simp_all

/-- A record whose dependents could not be looked for is dropped all the same. -/
theorem dropThrough_unscanned (goes : e.failure? (.remove n) = none)
    (present : records.find? a = some r) (failed : e.failure? (.scan n) = some cause)
    (pending : List κ) : records.dropThrough e n (a :: pending) =
      { failure? := some cause, left := records.erase a } := by
  rw [dropThrough]
  simp only [goes, failed]
  split
  · simp_all
  · rfl

theorem dropThrough_present (goes : e.failure? (.remove n) = none)
    (present : records.find? a = some r) (scanned : e.failure? (.scan n) = none)
    (pending : List κ) : records.dropThrough e n (a :: pending) =
      let later := dropThrough e (n + 1) (records.erase a)
        ((dependents (records.erase a) r.metadata.uid).reverse ++ pending)
      { later with dropped := (a, r) :: later.dropped } := by
  rw [dropThrough]
  simp only [goes, scanned]
  split
  · simp_all
  · rename_i q found
    obtain rfl := Option.some.inj (present.symm.trans found)
    rfl

end

/-- What is left of a deletion was there before. -/
theorem find?_of_find?_dropThrough (e : Engine) (n : Nat) (records : Holdings κ)
    (pending : List κ) (a : κ) (r : Record)
    (left : (records.dropThrough e n pending).left.find? a = some r) :
    records.find? a = some r := by
  induction n, records, pending using dropThrough.induct e with
  | case1 n records => rwa [dropThrough_nil] at left
  | case2 n records b pending cause failed => rwa [dropThrough_unremoved failed] at left
  | case3 n records b pending goes absent ih =>
    rw [dropThrough_absent goes absent] at left
    exact ih left
  | case4 n records b pending goes q present cause failed =>
    rw [dropThrough_unscanned goes present failed] at left
    exact Dictionary.find?_of_find?_erase left
  | case5 n records b pending goes q present rest scanned ih =>
    rw [dropThrough_present goes present scanned] at left
    exact Dictionary.find?_of_find?_erase (ih left)

end Holdings

/-! ### The store -/

namespace Store

variable (s : Store ByteAddress) (e : Engine)

/-- Stores a new record; the identity that was drawn for it is lost with a swap that fails. -/
def createThrough (kind : Kind) (r : Record) : Except StoreError Record × Written ByteAddress :=
  match Address.refusal? ByteAddress r.key with
  | some refused => (.error refused, ⟨s, []⟩)
  | none =>
    e.before .swap ⟨s.giving (s.uids.identify r.metadata.uid).2, []⟩ (e.flushed (s.create kind r))

/-- Writes what replaces a record. -/
def replaceThrough (replaced : Except StoreError Record × Written ByteAddress) :
    Except StoreError Record × Written ByteAddress :=
  match replaced.1 with
  | .ok _ => e.before .swap ⟨s, []⟩ (e.flushed replaced)
  | .error _ => replaced

/-- Drops a record and all that it owns; every record is announced when what it owned is known. -/
def deleteThrough (kind : Kind) (key : RecordKey) :
    Except StoreError Unit × Written ByteAddress :=
  if (s.find? kind key).isNone then (.error (.notFound kind key), ⟨s, []⟩)
  else
    let dropping := s.records.dropThrough e 0 [Address.of kind key]
    have kept := s.filed.of_subset
      (s.records.find?_of_find?_dropThrough e 0 [Address.of kind key])
    let written : Written ByteAddress := ⟨{ s with records := dropping.left, filed := kept },
      dropping.dropped.map fun d => ⟨.deleted, Address.kind d.1, d.2⟩⟩
    match dropping.failure? with
    | some cause => (.error (.backend cause), written)
    | none => e.before .flush written (.ok (), written)

/-- Answers a call by calls of the engine. -/
def answerThrough (c : Call) : c.Outcome × Written ByteAddress :=
  e.before .look ⟨s, []⟩
    (match c with
    | .get kind key => s.answer (.get kind key)
    | .list kind ns => s.answer (.list kind ns)
    | .create kind r => s.createThrough e kind r
    | .update kind r => s.replaceThrough e (s.answer (.update kind r))
    | .updateStatus kind r => s.replaceThrough e (s.answer (.updateStatus kind r))
    | .delete kind key => s.deleteThrough e kind key)

end Store

end ControlPlane
