import ControlPlane.Proofs.Store.Interference
import ControlPlane.Proofs.Store.Typed
import Mathlib.Logic.Relation

/-!
A store that may fail any call. A call that fails, because it is given up or because the records
cannot be reached, is not carried out then, but may be at any later moment (`unreliable`). Such a
store changes by itself only as the calls that have failed change it (`unreliable_drift`). Where a
routine fails with every write that fails (`Routine.Strict`), its success leaves no write behind
(`Routine.Strict.reads`).
-/

namespace ControlPlane

variable {α β ε ε' κ : Type} [Address κ]

/-! ### Failing calls -/

/-- A call that has failed is carried out after all. -/
inductive Store.CatchesUp : Store κ × List Call → Store κ × List Call → Prop where
  | carriedOut {s : Store κ} {failed : List Call} {c : Call} (mem : c ∈ failed) :
      CatchesUp (s, failed) ((s.answer c).2.store, failed)

/-- A store beside the calls that have failed. A call is answered as it should be, or it fails, though
not by finding nothing, and may be carried out later. -/
def unreliable : Interference (Store κ × List Call) where
  drift := Relation.ReflTransGen Store.CatchesUp
  answers c u o v := (o = (u.1.answer c).1 ∧ v = ((u.1.answer c).2.store, u.2)) ∨
    ∃ e : StoreError, e.isNotFound = false ∧ o = .error e ∧ v = (u.1, c :: u.2)
  refl _ := .refl
  trans := .trans

/-- What is kept by every call that has failed is kept while nothing else happens. -/
theorem unreliable_drift {P : Store κ → Prop} {w v : Store κ × List Call}
    (drifted : unreliable.drift w v)
    (keeps : ∀ c ∈ w.2, ∀ s : Store κ, P s → P (s.answer c).2.store) (start : P w.1) :
    P v.1 ∧ v.2 = w.2 := by
  induction drifted with
  | refl => exact ⟨start, rfl⟩
  | tail _ step ih =>
    cases step with
    | carriedOut mem => exact ⟨keeps _ (ih.2 ▸ mem) _ ih.1, ih.2⟩

/-- None of the calls that have failed can change the store. -/
def FailedReads (failed : List Call) : Prop := ∀ c ∈ failed, c.isWrite = false

/-- Where no write has failed there is nothing to catch up with. -/
theorem FailedReads.drift {w v : Store κ × List Call} (reads : FailedReads w.2)
    (drifted : unreliable.drift w v) : v = w := by
  have same := unreliable_drift (P := (· = w.1)) drifted
    (fun c mem s eq => by rw [s.answer_of_read (reads c mem), eq]) rfl
  exact Prod.ext same.1 same.2

namespace Routine

/-- A run in which every call is answered is one of those that can happen. -/
theorem interleaved_runOn (r : Routine α) (s : Store κ) (failed : List Call) :
    r.Interleaved unreliable (s, failed) (r.runOn s).1 ((r.runOn s).2.store, failed) := by
  induction r generalizing s with
  | done a => exact .done .refl
  | call c resume ih =>
    rw [runOn_call]
    exact .call .refl (.inl ⟨rfl, rfl⟩) (ih _ _)

/-- Calls that have failed stay on record. -/
theorem Interleaved.suffix {r : Routine α} {w v : Store κ × List Call} {a : α}
    (run : r.Interleaved unreliable w a v) : w.2 <:+ v.2 := by
  have drift : ∀ {w v : Store κ × List Call}, unreliable.drift w v → w.2 <:+ v.2 := fun drifted =>
    (unreliable_drift (P := fun _ => True) drifted (fun _ _ _ _ => trivial) trivial).2 ▸
      List.suffix_refl _
  induction run with
  | done drifted => exact drift drifted
  | call drifted answered _ ih =>
    refine (drift drifted).trans (List.IsSuffix.trans ?_ ih)
    rcases answered with ⟨-, rfl⟩ | ⟨e, -, -, rfl⟩
    · exact List.suffix_refl _
    · exact List.suffix_cons _ _

/-- Where no call fails, a routine ends as it does with nobody else at work. -/
theorem Interleaved.eq_runOn {r : Routine α} {s t : Store κ} {a : α}
    (run : r.Interleaved unreliable (s, []) a (t, [])) :
    a = (r.runOn s).1 ∧ t = (r.runOn s).2.store := by
  have nothing : FailedReads ([] : List Call) := fun _ mem => absurd mem List.not_mem_nil
  induction r generalizing s with
  | done b =>
    obtain ⟨rfl, drifted⟩ := interleaved_done_iff.mp run
    obtain ⟨rfl, -⟩ := Prod.mk.inj (nothing.drift drifted)
    exact ⟨rfl, rfl⟩
  | call c resume ih =>
    cases run with
    | call drifted answered rest =>
      obtain rfl := nothing.drift drifted
      rcases answered with ⟨rfl, rfl⟩ | ⟨e, -, -, rfl⟩
      · rw [runOn_call]
        exact ih _ rest
      · exact absurd (List.eq_nil_of_suffix_nil rest.suffix) (List.cons_ne_nil _ _)

/-! ### Routines that fail with their writes -/

/-- Whatever write of the routine fails, the routine fails with it. -/
def Strict : Routine (Except ε α) → Prop
  | done _ => True
  | call c resume =>
    (c.isWrite = true → ∀ e : StoreError, e.isNotFound = false →
      ∃ e', resume (.error e) = done (.error e')) ∧ ∀ o, (resume o).Strict

theorem Strict.bind {r : Routine (Except ε α)} {f : Except ε α → Routine (Except ε' β)}
    (h : r.Strict) (fails : ∀ e, ∃ e', f (.error e) = done (.error e'))
    (next : ∀ o, (f o).Strict) : (r.bind f).Strict := by
  induction r with
  | done a => exact next a
  | call c resume ih =>
    refine ⟨fun isWrite e other => ?_, fun o => ih o (h.2 o)⟩
    obtain ⟨e', failed⟩ := h.1 isWrite e other
    obtain ⟨e'', failed'⟩ := fails e'
    refine ⟨e'', ?_⟩
    show (resume (.error e)).bind f = _
    rw [failed, done_bind, failed']

/-- A strict routine that succeeds leaves no write behind. -/
theorem Strict.reads {r : Routine (Except ε α)} (strict : r.Strict) {w v : Store κ × List Call}
    {a : α} (run : r.Interleaved unreliable w (.ok a) v) (reads : FailedReads w.2) :
    FailedReads v.2 := by
  induction r generalizing w with
  | done o =>
    cases run with
    | done drifted => exact reads.drift drifted ▸ reads
  | call c resume ih =>
    cases run with
    | call drifted answered rest =>
      obtain rfl := reads.drift drifted
      rcases answered with ⟨rfl, rfl⟩ | ⟨e, other, rfl, rfl⟩
      · exact ih _ (strict.2 _) rest reads
      · by_cases isWrite : c.isWrite = true
        · obtain ⟨e', failed⟩ := strict.1 isWrite e other
          rw [failed] at rest
          cases rest
        · refine ih _ (strict.2 _) rest (List.forall_mem_cons.mpr ⟨?_, reads⟩)
          exact Bool.not_eq_true _ ▸ isWrite

end Routine

/-! ### Attempts -/

namespace Attempt

variable {ω : Type} {I : Interference ω} {w v : ω}

/-- What two attempts in a row went through if they succeeded, whatever disturbed them. -/
theorem interleaved_bind_ok_iff {a : Attempt ε α} {f : α → Attempt ε β} {y : β} :
    (a >>= f).run.Interleaved I w (.ok y) v ↔
      ∃ x u, a.run.Interleaved I w (.ok x) u ∧ (f x).run.Interleaved I u (.ok y) v := by
  rw [bind_run, Routine.interleaved_bind_iff]
  constructor
  · rintro ⟨e | x, u, first, next⟩
    · cases next
    · exact ⟨x, u, first, next⟩
  · rintro ⟨x, u, first, next⟩
    exact ⟨.ok x, u, first, next⟩

/-- An attempt that succeeds does so however its failures are told. -/
theorem interleaved_mapError_ok {f : ε → ε'} {a : Attempt ε α} {x : α}
    (run : (a.mapError f).run.Interleaved I w (.ok x) v) : a.run.Interleaved I w (.ok x) v := by
  obtain ⟨o, u, first, last⟩ := Routine.interleaved_bind_iff.mp run
  obtain ⟨same, drifted⟩ := Routine.interleaved_done_iff.mp last
  cases o with
  | error e => cases same
  | ok y =>
    obtain rfl := Except.ok.inj same
    exact first.drift drifted

end Attempt

/-- A read that succeeded was answered with what was there at its moment. -/
theorem Routine.interleaved_read {c : Call} {g : c.Outcome → Except ε α} {w v : Store κ × List Call}
    {a : α} (reads : c.isWrite = false) (fails : ∀ e, ∃ e', g (.error e) = .error e')
    (run : (Routine.call c fun o => .done (g o)).Interleaved unreliable w (.ok a) v) :
    ∃ u, unreliable.drift w u ∧ g (u.1.answer c).1 = .ok a ∧ unreliable.drift u v := by
  cases run with
  | @call _ _ _ u x o _ _ drifted answered rest =>
    obtain ⟨ended, drifted'⟩ := interleaved_done_iff.mp rest
    rcases answered with ⟨rfl, rfl⟩ | ⟨e, -, rfl, rfl⟩
    · rw [u.1.answer_of_read reads] at drifted'
      exact ⟨u, drifted, ended.symm, drifted'⟩
    · obtain ⟨e', failed⟩ := fails e
      cases ended.trans failed

end ControlPlane
