import ControlPlane.Proofs.Store.Cascade
import ControlPlane.Proofs.Store.Unreliable
import ControlPlane.Store.Engine

/-!
What a durable store makes of an engine that may fail. On a reliable engine it answers every call as
a store does (`Store.answerThrough_of_reliable`). A call other than a deletion is all or nothing: it
is answered so, or fails and announces nothing, and the write is carried out as a whole or not at
all (`Store.answerThrough_makes`); so the store is one of those that may fail any call
(`Store.unreliable_answerThrough`). A deletion may stop half-way; what it announces is a beginning
of what it would have announced, and at most one record is dropped without a word
(`Store.answerThrough_delete`).
-/

namespace ControlPlane

variable {α κ : Type} [Address κ]

/-! ### Calls of an engine -/

namespace Engine

variable {e : Engine} {s : Store κ} {answer reached : Except StoreError α × Written κ}

/-- What becomes of an answer of a store on an engine. -/
inductive Makes (s : Store κ) (answer : Except StoreError α × Written κ) :
    Except StoreError α × Written κ → Prop where
  | done : Makes s answer answer
  | unwritten (cause : String) (uids : UidSupply) :
      Makes s answer (.error (.backend cause), ⟨s.giving uids, []⟩)
  /-- The write succeeded, but was not flushed. -/
  | unflushed (cause : String) {a : α} (succeeded : answer.1 = .ok a) :
      Makes s answer (.error (.backend cause), ⟨answer.2.store, []⟩)

theorem Makes.before (makes : Makes s answer reached) (call : EngineCall) (uids : UidSupply) :
    Makes s answer (e.before call ⟨s.giving uids, []⟩ reached) := by
  rw [Engine.before]
  split
  · exact .unwritten _ uids
  · exact makes

theorem makes_flushed (s : Store κ) (answer : Except StoreError α × Written κ) :
    Makes s answer (e.flushed answer) := by
  rw [flushed]
  split
  · rename_i succeeded
    rw [Engine.before]
    split
    · exact .unflushed _ succeeded
    · exact .done
  · exact .done

theorem IsReliable.before (reliable : e.IsReliable) (call : EngineCall) (w : Written κ) :
    e.before call w reached = reached := by
  rw [Engine.before, reliable]

theorem IsReliable.flushed (reliable : e.IsReliable) : e.flushed answer = answer := by
  rw [Engine.flushed]
  split
  · exact reliable.before _ _
  · rfl

end Engine

/-! ### Deletions -/

namespace Holdings

variable {e : Engine} {n : Nat} {records : Holdings κ} {pending : List κ} {a : κ} {r : Record}

theorem failure?_dropThrough (reliable : e.IsReliable) (n : Nat) (records : Holdings κ)
    (pending : List κ) : (records.dropThrough e n pending).failure? = none := by
  induction n, records, pending using dropThrough.induct e with
  | case1 n records => rw [dropThrough_nil]
  | case2 n records b pending cause failed =>
    rw [reliable] at failed
    cases failed
  | case3 n records b pending goes absent ih => rwa [dropThrough_absent goes absent]
  | case4 n records b pending goes q present cause failed =>
    rw [reliable] at failed
    cases failed
  | case5 n records b pending goes q present rest scanned ih =>
    rwa [dropThrough_present goes present scanned]

/-- A deletion that nothing ended drops all that it has to. -/
theorem dropAll_of_unfailed (whole : (records.dropThrough e n pending).failure? = none) :
    records.dropAll pending =
      ((records.dropThrough e n pending).dropped, (records.dropThrough e n pending).left) := by
  induction n, records, pending using dropThrough.induct e with
  | case1 n records => rw [dropThrough_nil, dropAll_nil]
  | case2 n records b pending cause failed =>
    rw [dropThrough_unremoved failed] at whole
    cases whole
  | case3 n records b pending goes absent ih =>
    rw [dropThrough_absent goes absent] at whole ⊢
    rw [dropAll_absent absent, ih whole]
  | case4 n records b pending goes q present cause failed =>
    rw [dropThrough_unscanned goes present failed] at whole
    cases whole
  | case5 n records b pending goes q present rest scanned ih =>
    rw [dropThrough_present goes present scanned] at whole ⊢
    rw [dropAll_present present, ih whole]

/-- What a deletion drops, wherever it ends, is a beginning of what it has to drop. -/
theorem dropped_prefix (e : Engine) (n : Nat) (records : Holdings κ) (pending : List κ) :
    (records.dropThrough e n pending).dropped <+: (records.dropAll pending).1 := by
  induction n, records, pending using dropThrough.induct e with
  | case1 n records =>
    rw [dropThrough_nil]
    exact List.nil_prefix
  | case2 n records b pending cause failed =>
    rw [dropThrough_unremoved failed]
    exact List.nil_prefix
  | case3 n records b pending goes absent ih =>
    rwa [dropThrough_absent goes absent, dropAll_absent absent]
  | case4 n records b pending goes q present cause failed =>
    rw [dropThrough_unscanned goes present failed]
    exact List.nil_prefix
  | case5 n records b pending goes q present rest scanned ih =>
    rw [dropThrough_present goes present scanned, dropAll_present present]
    exact (List.prefix_cons_inj _).mpr ih

/-- What was dropped is gone. -/
theorem find?_of_mem_dropThrough (mem : (a, r) ∈ (records.dropThrough e n pending).dropped) :
    (records.dropThrough e n pending).left.find? a = none := by
  induction n, records, pending using dropThrough.induct e with
  | case1 n records =>
    rw [dropThrough_nil] at mem
    cases mem
  | case2 n records b pending cause failed =>
    rw [dropThrough_unremoved failed] at mem
    cases mem
  | case3 n records b pending goes absent ih =>
    rw [dropThrough_absent goes absent] at mem ⊢
    exact ih mem
  | case4 n records b pending goes q present cause failed =>
    rw [dropThrough_unscanned goes present failed] at mem
    cases mem
  | case5 n records b pending goes q present rest scanned ih =>
    rw [dropThrough_present goes present scanned] at mem ⊢
    rcases List.mem_cons.mp mem with here | later
    · obtain ⟨rfl, rfl⟩ := Prod.mk.inj here
      refine Option.eq_none_iff_forall_not_mem.mpr fun q left => ?_
      have stays := find?_of_find?_dropThrough _ _ _ _ _ q left
      rw [Dictionary.find?_erase_self] at stays
      cases stays
    · exact ih later

/-- At most one record is gone without being counted among the dropped ones. -/
theorem exists_lost (e : Engine) (n : Nat) (records : Holdings κ) (pending : List κ) :
    ∃ lost : Option (κ × Record), ∀ a r, records.find? a = some r →
      (records.dropThrough e n pending).left.find? a = some r ∨
        (a, r) ∈ (records.dropThrough e n pending).dropped ∨ lost = some (a, r) := by
  induction n, records, pending using dropThrough.induct e with
  | case1 n records =>
    rw [dropThrough_nil]
    exact ⟨none, fun a r found => .inl found⟩
  | case2 n records b pending cause failed =>
    rw [dropThrough_unremoved failed]
    exact ⟨none, fun a r found => .inl found⟩
  | case3 n records b pending goes absent ih => rwa [dropThrough_absent goes absent]
  | case4 n records b pending goes q present cause failed =>
    rw [dropThrough_unscanned goes present failed]
    refine ⟨some (b, q), fun a r found => ?_⟩
    by_cases same : a = b
    · subst same
      obtain rfl := Option.some.inj (present.symm.trans found)
      exact .inr (.inr rfl)
    · exact .inl ((Dictionary.find?_erase_of_ne records same).trans found)
  | case5 n records b pending goes q present rest scanned ih =>
    rw [dropThrough_present goes present scanned]
    obtain ⟨lost, accounted⟩ := ih
    refine ⟨lost, fun a r found => ?_⟩
    by_cases same : a = b
    · subst same
      obtain rfl := Option.some.inj (present.symm.trans found)
      exact .inr (.inl List.mem_cons_self)
    · rcases accounted a r ((Dictionary.find?_erase_of_ne records same).trans found) with
        left | dropped | isLost
      · exact .inl left
      · exact .inr (.inl (List.mem_cons_of_mem _ dropped))
      · exact .inr (.inr isLost)

end Holdings

/-! ### The store -/

namespace Store

variable {s : Store ByteAddress} {e : Engine} {c : Call}

theorem replaceThrough_makes (s : Store ByteAddress) (e : Engine)
    (replaced : Except StoreError Record × Written ByteAddress) :
    Engine.Makes s replaced (s.replaceThrough e replaced) := by
  rw [replaceThrough]
  split
  · exact (Engine.makes_flushed s replaced).before .swap s.uids
  · exact .done

theorem createThrough_makes (s : Store ByteAddress) (e : Engine) (kind : Kind) (r : Record) :
    Engine.Makes s (s.answer (.create kind r)) (s.createThrough e kind r) := by
  rw [createThrough]
  split
  · rename_i refused isRefused
    rw [answer_create_of_refused isRefused]
    exact .done
  · exact (Engine.makes_flushed s _).before .swap _

/-- A call other than a deletion is answered as by a store, or fails and announces nothing; the
write is then carried out as a whole or not at all. -/
theorem answerThrough_makes (s : Store ByteAddress) (e : Engine) (other : c.method ≠ .delete) :
    Engine.Makes s (s.answer c) (s.answerThrough e c) := by
  refine Engine.Makes.before ?_ .look s.uids
  cases c with
  | get kind key => exact .done
  | list kind ns => exact .done
  | create kind r => exact s.createThrough_makes e kind r
  | update kind r => exact s.replaceThrough_makes e _
  | updateStatus kind r => exact s.replaceThrough_makes e _
  | delete kind key => exact absurd rfl other

/-- On any engine, a durable store that is asked for no deletion is one that may fail any call, and
may carry out later what has failed. -/
theorem unreliable_answerThrough (s : Store ByteAddress) (e : Engine) (failed : List Call)
    (other : c.method ≠ .delete) :
    ∃ v u, unreliable.answers c (s, failed) (s.answerThrough e c).1 v ∧ unreliable.drift v u ∧
      u.1.records = (s.answerThrough e c).2.store.records := by
  generalize reached : s.answerThrough e c = answered
  have makes := s.answerThrough_makes e other
  rw [reached] at makes
  cases makes with
  | done => exact ⟨_, _, .inl ⟨rfl, rfl⟩, .refl, rfl⟩
  | unwritten cause uids => exact ⟨_, _, .inr ⟨.backend cause, rfl, rfl, rfl⟩, .refl, rfl⟩
  | unflushed cause succeeded =>
    exact ⟨_, _, .inr ⟨.backend cause, rfl, rfl, rfl⟩,
      .single (.carriedOut List.mem_cons_self), rfl⟩

theorem createThrough_of_reliable (reliable : e.IsReliable) (kind : Kind) (r : Record) :
    s.createThrough e kind r = s.answer (.create kind r) := by
  rw [createThrough]
  split
  · rename_i refused isRefused
    rw [answer_create_of_refused isRefused]
  · rw [reliable.before, reliable.flushed]
    rfl

theorem replaceThrough_of_reliable (reliable : e.IsReliable)
    (replaced : Except StoreError Record × Written ByteAddress) :
    s.replaceThrough e replaced = replaced := by
  rw [replaceThrough]
  split
  · exact (reliable.before _ _).trans reliable.flushed
  · rfl

theorem deleteThrough_of_reliable (reliable : e.IsReliable) (kind : Kind) (key : RecordKey) :
    s.deleteThrough e kind key = s.answer (.delete kind key) := by
  simp only [deleteThrough, answer, delete]
  split
  · rfl
  · have unfailed :=
      Holdings.failure?_dropThrough reliable 0 s.records [Address.of kind key]
    simp only [unfailed, reliable.before, Holdings.dropAll_of_unfailed unfailed]
    rfl

/-- On an engine of which no call fails, a durable store answers as a store does. -/
theorem answerThrough_of_reliable (reliable : e.IsReliable) (s : Store ByteAddress) (c : Call) :
    s.answerThrough e c = s.answer c := by
  refine (reliable.before .look ⟨s, []⟩).trans ?_
  cases c with
  | get kind key => rfl
  | list kind ns => rfl
  | create kind r => exact createThrough_of_reliable reliable kind r
  | update kind r => exact replaceThrough_of_reliable reliable _
  | updateStatus kind r => exact replaceThrough_of_reliable reliable _
  | delete kind key => exact deleteThrough_of_reliable reliable kind key

/-- How far a deletion came before the engine stopped it, if it did. -/
structure ComesTo (s : Store ByteAddress)
    (whole reached : Except StoreError Unit × Written ByteAddress) : Prop where
  beginning : reached.2.announced <+: whole.2.announced
  gone : ∀ a ∈ reached.2.announced, reached.2.store.find? a.kind a.record.key = none
  /-- At most one record is gone without a word. -/
  lost : ∃ lost : Option (ByteAddress × Record), ∀ kind key r, s.find? kind key = some r →
    reached.2.store.find? kind key = some r ∨ ⟨.deleted, kind, r⟩ ∈ reached.2.announced ∨
      lost = some (Address.of kind key, r)
  whole : reached.1 = .ok () → reached = whole

theorem comesTo_nothing (s : Store ByteAddress)
    (whole : Except StoreError Unit × Written ByteAddress) (failed : StoreError) :
    ComesTo s whole (.error failed, ⟨s, []⟩) :=
  ⟨List.nil_prefix, nofun, ⟨none, fun _ _ _ found => .inl found⟩, nofun⟩

/-- A deletion that finds a record leaves and announces what the dropping does, and succeeds only
as a whole. -/
theorem deleteThrough_of_found {kind : Kind} {key : RecordKey} {r : Record}
    (found : s.find? kind key = some r) :
    let dropping := s.records.dropThrough e 0 [Address.of kind key]
    let reached := s.deleteThrough e kind key
    reached.2.store.records = dropping.left ∧
      reached.2.announced = dropping.dropped.map (fun d => ⟨.deleted, Address.kind d.1, d.2⟩) ∧
      (reached.1 = .ok () → reached = s.answer (.delete kind key)) := by
  simp only [deleteThrough, found, Option.isNone_some, Bool.false_eq_true, if_false]
  split
  · exact ⟨rfl, rfl, nofun⟩
  · rename_i unfailed
    rw [Engine.before]
    split
    · exact ⟨rfl, rfl, nofun⟩
    · refine ⟨rfl, rfl, fun _ => ?_⟩
      simp only [answer, delete, found, Option.isNone_some, Bool.false_eq_true, if_false, commit,
        Holdings.dropAll_of_unfailed unfailed]

/-- Wherever a deletion ends, it has announced a beginning of what it would announce. What it has
announced is gone, and at most one other record is. If it succeeds it is whole. -/
theorem answerThrough_delete (s : Store ByteAddress) (e : Engine) (kind : Kind) (key : RecordKey) :
    ComesTo s (s.answer (.delete kind key)) (s.answerThrough e (.delete kind key)) := by
  rw [answerThrough, Engine.before]
  split
  · exact comesTo_nothing s _ _
  cases found : s.find? kind key with
  | none =>
    simp only [deleteThrough, found, Option.isNone_none, if_true]
    exact comesTo_nothing s _ _
  | some r =>
    obtain ⟨left, told, whole⟩ := s.deleteThrough_of_found (e := e) found
    have beginning : (s.deleteThrough e kind key).2.announced <+:
        (s.answer (.delete kind key)).2.announced := by
      rw [told, (answer_delete_of_found found).2.2]
      exact (Holdings.dropped_prefix e 0 s.records _).map _
    refine ⟨beginning, fun a announced => ?_, ?_, whole⟩
    · rw [told, List.mem_map] at announced
      obtain ⟨d, dropped, rfl⟩ := announced
      have present := Holdings.find?_of_mem_dropped
        ((Holdings.dropped_prefix e 0 s.records [Address.of kind key]).subset dropped)
      rw [find?, left, ← (s.filed _ _ present).1]
      exact Holdings.find?_of_mem_dropThrough dropped
    · obtain ⟨lost, accounted⟩ := Holdings.exists_lost e 0 s.records [Address.of kind key]
      refine ⟨lost, fun k l q stored => ?_⟩
      rcases accounted (Address.of k l) q stored with stays | dropped | isLost
      · rw [find?, left]
        exact .inl stays
      · rw [told, List.mem_map]
        refine .inr (.inl ⟨_, dropped, ?_⟩)
        rw [Address.kind_of]
      · exact .inr (.inr isLost)

end Store

end ControlPlane
