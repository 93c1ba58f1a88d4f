import ControlPlane.Proofs.Record.Shapes
import ControlPlane.Proofs.Store.Deletion
import ControlPlane.Proofs.Store.Tracking

/-!
Readable stores: every record is of the form of its kind. A call that writes what is of the form of
its kind leaves a readable store readable and is answered with records that can be read
(`Store.Readable.answer`). A routine that makes only such calls as long as it is answered so
(`Routine.Upholds`) does its part beside others: in whatever order such routines make their calls,
the store stays readable and each of them ends as it promises (`Pool.Reaches.upheld`).
-/

namespace ControlPlane

/-! ### Failures of reading -/

/-- Whether a record could not be read as the type of its kind. -/
def StoreError.isSerialization : StoreError → Bool
  | serialization _ => true
  | _ => false

/-- Every stored record is of the form of its kind. -/
def Store.Readable {κ : Type} [Address κ] (s : Store κ) : Prop :=
  ∀ kind key r, s.find? kind key = some r → r.conforms kind = .ok ()

/-! ### Calls -/

/-- What an outcome promises: a failure is none of a bad sort, and a success has a property. -/
def Ends {ε α : Type} (isBad : ε → Bool) (P : α → Prop) : Except ε α → Prop
  | .ok a => P a
  | .error e => isBad e = false

theorem Ends.mono {ε α : Type} {isBad : ε → Bool} {P Q : α → Prop} {o : Except ε α}
    (h : Ends isBad P o) (sub : ∀ a, P a → Q a) : Ends isBad Q o := by
  cases o with
  | ok a => exact sub a h
  | error e => exact h

namespace Call

/-- What the call writes of a record is of the form of the record's kind. -/
def Conforms : Call → Prop
  | .create kind r => r.conforms kind = .ok ()
  | .update kind r => kind.ReadsSpec r.spec
  | .updateStatus kind r => kind.ReadsStatus r.status
  | _ => True

/-- The outcome is no failure of reading, and its records are of the form of their kind. -/
def Returns : (c : Call) → c.Outcome → Prop
  | .get kind _, o | .create kind _, o | .update kind _, o | .updateStatus kind _, o =>
    Ends StoreError.isSerialization (fun r : Record => r.conforms kind = .ok ()) o
  | .list kind _, o =>
    Ends StoreError.isSerialization (fun rs : List Record => ∀ r ∈ rs, r.conforms kind = .ok ()) o
  | .delete .., o => Ends StoreError.isSerialization (fun _ : Unit => True) o

end Call

namespace Store

variable {κ : Type} [Address κ] {s s' : Store κ} {kind : Kind} {r : Record}

theorem readable_empty (uids : UidSupply) : (empty uids : Store κ).Readable := by
  intro kind key r found
  cases found

/-- A record of the form of its kind is put into a readable store. -/
theorem Readable.puts (readable : s.Readable) (puts : s.Puts s' kind r)
    (conforms : r.conforms kind = .ok ()) : s'.Readable := by
  intro kind' key q found
  by_cases there : Address.of (κ := κ) kind' key = Address.of kind r.key
  · have sameKind : kind' = kind := by
      rw [← Address.kind_of (κ := κ) kind' key, there, Address.kind_of]
    subst sameKind
    rw [puts.found_at there] at found
    obtain rfl := Option.some.inj found
    exact conforms
  · rw [puts.others kind' key there] at found
    exact readable kind' key q found

/-- Admission keeps the specification and the status. -/
theorem conforms_admitted (conforms : r.conforms kind = .ok ()) (uid : String) :
    (r.admitted uid).conforms kind = .ok () := by
  rw [Record.conforms_iff] at conforms ⊢
  exact conforms

theorem conforms_updated {current : Record} (conforms : current.conforms kind = .ok ())
    (spec : kind.ReadsSpec r.spec) : (current.updated r).conforms kind = .ok () :=
  Record.conforms_iff.mpr ⟨spec, (Record.conforms_iff.mp conforms).2⟩

theorem conforms_statusUpdated {current : Record} (conforms : current.conforms kind = .ok ())
    (status : kind.ReadsStatus r.status) : (current.statusUpdated r).conforms kind = .ok () :=
  Record.conforms_iff.mpr ⟨(Record.conforms_iff.mp conforms).1, status⟩

theorem mem_select_none {ns : Option String} (mem : r ∈ s.select kind ns) :
    r ∈ s.select kind none := by
  simp only [select, List.mem_map, List.mem_filter, Bool.and_eq_true] at mem ⊢
  obtain ⟨e, ⟨isEntry, ofKind, -⟩, eq⟩ := mem
  exact ⟨e, ⟨isEntry, ofKind, rfl⟩, eq⟩

section

variable (refusals : ∀ key e, Address.refusal? κ key = some e → e.isSerialization = false)

/-- A replacement fails for want of the record or of its version. -/
theorem not_serialization_of_replace {change : Record → Record → Record}
    {keeps : ∀ current incoming, (change current incoming).key = current.key} {e : StoreError}
    (failed : (s.commit (s.replace kind r change keeps)).1 = .error e) :
    e.isSerialization = false := by
  cases found : s.find? kind r.key with
  | none =>
    rw [commit_replace_of_absent change keeps found] at failed
    obtain rfl := Except.error.inj failed
    rfl
  | some current =>
    by_cases version : r.metadata.resourceVersion = current.metadata.resourceVersion
    · obtain ⟨s', done, -⟩ := commit_replace_of_found change keeps found version
      rw [done] at failed
      cases failed
    · rw [commit_replace_of_stale change keeps found version] at failed
      obtain rfl := Except.error.inj failed
      rfl

include refusals in
/-- No call that the store answers fails to read anything: records are kept as values. -/
theorem not_serialization_of_answer {c : Call} {e : StoreError}
    (failed : (s.answer c).1 = .error e) : e.isSerialization = false := by
  cases c with
  | get kind key =>
    rw [answer_get] at failed
    cases found : s.find? kind key with
    | none =>
      rw [found] at failed
      obtain rfl := Except.error.inj failed
      rfl
    | some r =>
      rw [found] at failed
      cases failed
  | list kind ns => cases failed
  | create kind r =>
    cases refused : Address.refusal? κ r.key with
    | some cause =>
      rw [answer_create_of_refused refused] at failed
      obtain rfl := Except.error.inj failed
      exact refusals r.key cause refused
    | none =>
      cases found : s.find? kind r.key with
      | some current =>
        rw [answer_create_of_found refused found] at failed
        obtain rfl := Except.error.inj failed
        rfl
      | none =>
        rw [answer_create_eq refused found] at failed
        cases failed
  | update kind r => exact not_serialization_of_replace failed
  | updateStatus kind r => exact not_serialization_of_replace failed
  | delete kind key =>
    simp only [answer, delete] at failed
    split at failed
    · obtain rfl := Except.error.inj failed
      rfl
    · cases failed

include refusals in
/-- What a call leaves is readable, and a record that it answers with can be read. -/
theorem Readable.answer (readable : s.Readable) {c : Call} (conforms : c.Conforms) :
    (s.answer c).2.store.Readable ∧ c.Returns (s.answer c).1 := by
  have clean : ∀ e, (s.answer c).1 = .error e → e.isSerialization = false := fun e =>
    not_serialization_of_answer refusals
  cases c with
  | get kind key =>
    refine ⟨readable, ?_⟩
    simp only [answer_get] at clean ⊢
    cases found : s.find? kind key with
    | none => rfl
    | some r => exact readable kind key r found
  | list kind ns =>
    refine ⟨readable, fun r mem => ?_⟩
    exact readable kind r.key r (mem_select_iff.mp (mem_select_none mem))
  | create kind r =>
    rcases s.answer_create kind r with ⟨e, uids, failed, -⟩ | ⟨uid, s', done, -, puts, -⟩
    · rw [failed] at clean ⊢
      exact ⟨readable, clean e rfl⟩
    · have admitted := conforms_admitted conforms uid
      rw [done]
      exact ⟨readable.puts puts admitted, admitted⟩
  | update kind r =>
    rcases s.answer_update kind r with ⟨e, failed⟩ | ⟨current, s', done, found, -, puts, -⟩
    · rw [failed] at clean ⊢
      exact ⟨readable, clean e rfl⟩
    · have updated := conforms_updated (readable _ _ _ found) conforms
      rw [done]
      exact ⟨readable.puts puts updated, updated⟩
  | updateStatus kind r =>
    rcases s.answer_updateStatus kind r with ⟨e, failed⟩ | ⟨current, s', done, found, -, puts, -⟩
    · rw [failed] at clean ⊢
      exact ⟨readable, clean e rfl⟩
    · have updated := conforms_statusUpdated (readable _ _ _ found) conforms
      rw [done]
      exact ⟨readable.puts puts updated, updated⟩
  | delete kind key =>
    have dropped := s.drops_delete kind key
    refine ⟨fun kind' key' r left => readable kind' key' r (dropped.of_find? left), ?_⟩
    cases ended : (s.answer (.delete kind key)).1 with
    | ok => trivial
    | error e => exact clean e ended

end

end Store

/-! ### Routines -/

section

variable {α β ε ε' : Type}

namespace Routine

/-- As long as its calls are answered with records that can be read, the routine writes records of
the form of their kind, and what it ends with is as promised. -/
def Upholds (P : α → Prop) : Routine α → Prop
  | done a => P a
  | call c resume => c.Conforms ∧ ∀ o, c.Returns o → (resume o).Upholds P

theorem Upholds.bind {P : α → Prop} {Q : β → Prop} {r : Routine α} {f : α → Routine β}
    (h : r.Upholds P) (next : ∀ a, P a → (f a).Upholds Q) : (r.bind f).Upholds Q := by
  induction r with
  | done a => exact next a h
  | call c resume ih => exact ⟨h.1, fun o returned => ih o (h.2 o returned)⟩

end Routine

namespace Attempt

/-- The attempt writes records of the form of their kind, never fails in a bad way and succeeds as
promised. -/
def Upholds (isBad : ε → Bool) (P : α → Prop) (a : Attempt ε α) : Prop :=
  a.run.Upholds (Ends isBad P)

variable {isBad : ε → Bool} {isBad' : ε' → Bool} {P : α → Prop} {Q : β → Prop}

theorem upholds_pure {x : α} (h : P x) : (pure x : Attempt ε α).Upholds isBad P := h

theorem upholds_throw {e : ε} (h : isBad e = false) : (throw e : Attempt ε α).Upholds isBad P := h

theorem upholds_ofExcept {o : Except ε α} (h : Ends isBad P o) : (ofExcept o).Upholds isBad P := h

theorem upholds_bind {a : Attempt ε α} {f : α → Attempt ε β} (first : a.Upholds isBad P)
    (next : ∀ x, P x → (f x).Upholds isBad Q) : (a >>= f).Upholds isBad Q := by
  rw [Upholds, bind_run]
  refine Routine.Upholds.bind first fun o ended => ?_
  cases o with
  | ok x => exact next x ended
  | error e => exact ended

theorem upholds_mapError {f : ε → ε'} {a : Attempt ε α} (h : a.Upholds isBad P)
    (told : ∀ e, isBad e = false → isBad' (f e) = false) : (a.mapError f).Upholds isBad' P := by
  rw [Upholds, mapError_run]
  refine Routine.Upholds.bind h fun o ended => ?_
  cases o with
  | ok x => exact ended
  | error e => exact told e ended

theorem upholds_result {a : Attempt ε α} (h : a.Upholds isBad P) :
    (a.result : Attempt ε' (Except ε α)).Upholds isBad' (Ends isBad P) := by
  rw [Upholds, result_run]
  exact Routine.Upholds.bind h fun o ended => ended

theorem upholds_outcome {c : Call} (conforms : c.Conforms) :
    (outcome c : Attempt ε c.Outcome).Upholds isBad c.Returns :=
  ⟨conforms, fun _ returned => returned⟩

theorem upholds_answer {c : Call} {P : c.Answer → Prop} (conforms : c.Conforms)
    (h : ∀ o, c.Returns o → Ends StoreError.isSerialization P o) :
    (answer c).Upholds StoreError.isSerialization P :=
  ⟨conforms, h⟩

end Attempt

end

/-! ### Typed calls -/

namespace Client

open Attempt (Upholds)

variable {σ τ : Type} [shape : RecordShape σ τ] [lawful : LawfulShape σ τ]

theorem ends_typed {r : Record} (conforms : r.conforms shape.kind = .ok ()) :
    Ends StoreError.isSerialization (fun _ => True)
      (typed r : Except StoreError (RecordOf σ τ)) := by
  obtain ⟨t, read⟩ := typed_of_conforms (σ := σ) conforms
  rw [read]
  trivial

theorem ends_typed_list {rs : List Record} (conforms : ∀ r ∈ rs, r.conforms shape.kind = .ok ()) :
    Ends StoreError.isSerialization (fun _ => True)
      (rs.mapM typed : Except StoreError (List (RecordOf σ τ))) := by
  induction rs with
  | nil => trivial
  | cons r rest ih =>
    obtain ⟨first, others⟩ := List.forall_mem_cons.mp conforms
    obtain ⟨t, read⟩ := typed_of_conforms (σ := σ) first
    have tail := ih others
    rw [List.mapM_cons, read, Outcome.ok_bind]
    cases ended : (rest.mapM typed : Except StoreError (List (RecordOf σ τ))) with
    | ok ts => trivial
    | error e =>
      rw [ended] at tail
      exact tail

theorem upholds_get (key : RecordKey) :
    (get σ key).Upholds StoreError.isSerialization fun _ => True :=
  Attempt.upholds_bind (Attempt.upholds_answer trivial fun _ returned => returned)
    fun _ conforms => Attempt.upholds_ofExcept (ends_typed conforms)

theorem upholds_list (ns : Option String) :
    (list σ ns).Upholds StoreError.isSerialization fun _ => True :=
  Attempt.upholds_bind (Attempt.upholds_answer trivial fun _ returned => returned)
    fun _ conforms => Attempt.upholds_ofExcept (ends_typed_list conforms)

theorem upholds_create (r : RecordOf σ τ) :
    (create r).Upholds StoreError.isSerialization fun _ => True :=
  Attempt.upholds_bind (Attempt.upholds_answer r.conforms_untyped fun _ returned => returned)
    fun _ conforms => Attempt.upholds_ofExcept (ends_typed conforms)

theorem upholds_update (r : RecordOf σ τ) :
    (update r).Upholds StoreError.isSerialization fun _ => True :=
  Attempt.upholds_bind (Attempt.upholds_answer r.readsSpec_untyped fun _ returned => returned)
    fun _ conforms => Attempt.upholds_ofExcept (ends_typed conforms)

theorem upholds_updateStatus (r : RecordOf σ τ) :
    (updateStatus r).Upholds StoreError.isSerialization fun _ => True :=
  Attempt.upholds_bind (Attempt.upholds_answer r.readsStatus_untyped fun _ returned => returned)
    fun _ conforms => Attempt.upholds_ofExcept (ends_typed conforms)

omit lawful in
theorem upholds_delete (key : RecordKey) :
    (delete σ key).Upholds StoreError.isSerialization fun _ => True :=
  Attempt.upholds_answer trivial fun _ returned => returned

/-- A declared record that is of the form of its kind may be applied. -/
theorem upholds_apply {kind : Kind} {declared : Record}
    (conforms : declared.conforms kind = .ok ()) :
    (apply kind declared).Upholds StoreError.isSerialization fun _ => True := by
  obtain ⟨spec, status⟩ := Record.conforms_iff.mp conforms
  refine Attempt.upholds_bind (Attempt.upholds_outcome trivial) fun o returned => ?_
  cases o with
  | ok current =>
    simp only
    split
    · exact Attempt.upholds_pure trivial
    · exact Attempt.upholds_answer spec fun _ returned => returned.mono fun _ _ => trivial
  | error e =>
    simp only
    split
    · refine Attempt.upholds_bind
        (Attempt.upholds_answer conforms fun _ returned => returned) fun created _ => ?_
      split
      · exact Attempt.upholds_pure trivial
      · exact Attempt.upholds_answer status fun _ returned => returned.mono fun _ _ => trivial
    · exact Attempt.upholds_throw returned

end Client

/-! ### Routines beside others -/

/-- In whatever order routines make their calls, the store stays readable and each routine does its
part. -/
theorem Pool.Reaches.upheld {ι α κ : Type} [DecidableEq ι] [Address κ] {P : ι → α → Prop}
    (refusals : ∀ key e, Address.refusal? κ key = some e → e.isSerialization = false)
    {p q : Pool ι α (Store κ)} (readable : p.world.Readable)
    (upholds : ∀ i, (p.routines i).Upholds (P i)) (reached : Pool.Reaches Store.respond p q) :
    q.world.Readable ∧ ∀ i, (q.routines i).Upholds (P i) := by
  induction reached with
  | refl => exact ⟨readable, upholds⟩
  | @tail q _ _ last ih =>
    obtain ⟨readable, upholds⟩ := ih
    cases last with
    | @call i c resume waits =>
      have here := upholds i
      rw [waits] at here
      obtain ⟨left, returned⟩ := readable.answer refusals here.1
      refine ⟨left, fun j => ?_⟩
      by_cases same : j = i
      · subst same
        rw [answered_self]
        exact here.2 _ returned
      · rw [answered_of_ne same]
        exact upholds j

end ControlPlane
