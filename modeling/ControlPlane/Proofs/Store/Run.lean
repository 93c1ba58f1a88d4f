import ControlPlane.Proofs.Outcome
import ControlPlane.Store.Basic

/-!
Routines run on a store with nobody else at work. A run is taken apart call by call
(`Routine.runOn_call`, `Routine.runOn_bind`); a routine that only reads leaves the store as it was
(`Routine.ReadsOn`), and one whose reads are answered alike by other stores ends there as it does
here (`Routine.Steady`).
-/

namespace ControlPlane

variable {α β ε ε' κ : Type} [Address κ]

/-! ### Runs -/

/-- A store reached by a part of a run, with what was announced before that part. -/
def Written.after (w : Written κ) (announced : List Announcement) : Written κ :=
  ⟨w.store, announced ++ w.announced⟩

@[simp] theorem Written.after_nil (w : Written κ) : w.after [] = w := rfl

@[simp] theorem Written.after_store (w : Written κ) (announced : List Announcement) :
    (w.after announced).store = w.store := rfl

@[simp] theorem Written.after_announced (w : Written κ) (announced : List Announcement) :
    (w.after announced).announced = announced ++ w.announced := rfl

/-- What is read lies in the records alone. -/
theorem Store.outcome_of_read {s t : Store κ} (same : t.records = s.records) {c : Call}
    (h : c.isWrite = false) : (t.answer c).1 = (s.answer c).1 := by
  cases c with
  | get kind key => simp only [answer, find?, same]
  | list kind ns => simp only [answer, select, same]
  | _ => cases h

/-- A call that cannot change the store does not. -/
theorem Store.answer_of_read (s : Store κ) {c : Call} (h : c.isWrite = false) :
    (s.answer c).2 = ⟨s, []⟩ := by
  cases c <;> simp_all [Call.isWrite, Store.answer]

namespace Routine

/-- What was announced before a run is kept in front. -/
theorem run_after (r : Routine α) (s : Store κ) (announced : List Announcement) :
    r.run Written.answer ⟨s, announced⟩ =
      ((r.runOn s).1, (r.runOn s).2.after announced) := by
  induction r generalizing s announced with
  | done a => simp [run, runOn, Written.after]
  | call c resume ih =>
    show (resume (s.answer c).1).run Written.answer
      ⟨(s.answer c).2.store, announced ++ (s.answer c).2.announced⟩ = _
    have alone : (call c resume).runOn s = (resume (s.answer c).1).run Written.answer
      ⟨(s.answer c).2.store, (s.answer c).2.announced⟩ := rfl
    rw [alone, ih, ih]
    simp [Written.after]

@[simp] theorem runOn_done (a : α) (s : Store κ) : (done a).runOn s = (a, ⟨s, []⟩) := rfl

theorem runOn_call (c : Call) (resume : c.Outcome → Routine α) (s : Store κ) :
    (call c resume).runOn s =
      (((resume (s.answer c).1).runOn (s.answer c).2.store).1,
        ((resume (s.answer c).1).runOn (s.answer c).2.store).2.after (s.answer c).2.announced) :=
  (resume (s.answer c).1).run_after (s.answer c).2.store (s.answer c).2.announced

/-- A routine of a single call ends with its answer. -/
@[simp] theorem runOn_call_done (c : Call) (s : Store κ) : (call c done).runOn s = s.answer c := by
  rw [runOn_call]
  simp [Written.after]

/-- A run of two routines in a row is the run of the first and then of the second. -/
theorem runOn_bind (r : Routine α) (f : α → Routine β) (s : Store κ) :
    (r.bind f).runOn s =
      (((f (r.runOn s).1).runOn (r.runOn s).2.store).1,
        ((f (r.runOn s).1).runOn (r.runOn s).2.store).2.after (r.runOn s).2.announced) := by
  rw [runOn, run_bind]
  exact run_after ..

/-! ### Routines that only read -/

/-- Along its run on a store, a routine makes no call that can change the store. -/
def ReadsOn : Routine α → Store κ → Prop
  | done _, _ => True
  | call c resume, s => c.isWrite = false ∧ (resume (s.answer c).1).ReadsOn s

/-- A routine that only reads leaves the store as it was and announces nothing. -/
theorem ReadsOn.runOn {r : Routine α} {s : Store κ} (h : r.ReadsOn s) :
    (r.runOn s).2 = ⟨s, []⟩ := by
  induction r with
  | done a => rfl
  | call c resume ih =>
    have read := s.answer_of_read h.1
    rw [runOn_call, read]
    simpa using ih _ h.2

theorem ReadsOn.bind {r : Routine α} {f : α → Routine β} {s : Store κ} (h : r.ReadsOn s)
    (next : (f (r.runOn s).1).ReadsOn s) : (r.bind f).ReadsOn s := by
  induction r with
  | done a => exact next
  | call c resume ih =>
    rw [runOn_call, s.answer_of_read h.1] at next
    exact ⟨h.1, ih _ h.2 next⟩

/-- No call of the routine, whatever it is answered, can change the store. -/
def ReadsOnly : Routine α → Prop
  | done _ => True
  | call c resume => c.isWrite = false ∧ ∀ o, (resume o).ReadsOnly

theorem ReadsOnly.bind {r : Routine α} {f : α → Routine β} (h : r.ReadsOnly)
    (next : ∀ a, (f a).ReadsOnly) : (r.bind f).ReadsOnly := by
  induction r with
  | done a => exact next a
  | call c resume ih => exact ⟨h.1, fun o => ih o (h.2 o)⟩

theorem ReadsOnly.readsOn {r : Routine α} (h : r.ReadsOnly) (s : Store κ) : r.ReadsOn s := by
  induction r with
  | done a => trivial
  | call c resume ih => exact ⟨h.1, ih _ (h.2 _)⟩

/-- Along its run on a store, a routine only reads, and each of its calls is answered alike by all
stores of a class. -/
def Steady (alike : Store κ → Prop) : Routine α → Store κ → Prop
  | done _, _ => True
  | call c resume, s => c.isWrite = false ∧ (∀ t, alike t → (t.answer c).1 = (s.answer c).1) ∧
    (resume (s.answer c).1).Steady alike s

variable {alike : Store κ → Prop}

/-- Fewer stores are answered alike, the more so. -/
theorem Steady.mono {alike' : Store κ → Prop} {r : Routine α} {s : Store κ}
    (h : r.Steady alike s) (sub : ∀ t, alike' t → alike t) : r.Steady alike' s := by
  induction r with
  | done a => trivial
  | call c resume ih => exact ⟨h.1, fun t ht => h.2.1 t (sub t ht), ih _ h.2.2⟩

theorem Steady.bind {r : Routine α} {f : α → Routine β} {s : Store κ} (h : r.Steady alike s)
    (next : (f (r.runOn s).1).Steady alike s) : (r.bind f).Steady alike s := by
  induction r with
  | done a => exact next
  | call c resume ih =>
    rw [runOn_call, s.answer_of_read h.1] at next
    exact ⟨h.1, h.2.1, ih _ h.2.2 next⟩

/-- What a routine reads on a store it reads on every store with the same records. -/
theorem ReadsOn.steady {r : Routine α} {s : Store κ} (h : r.ReadsOn s) :
    r.Steady (fun t => t.records = s.records) s := by
  induction r with
  | done a => trivial
  | call c resume ih => exact ⟨h.1, fun t same => Store.outcome_of_read same h.1, ih _ h.2⟩

/-- A steady routine ends alike on all stores of the class. -/
theorem Steady.runOn_eq {r : Routine α} {s t : Store κ} (h : r.Steady alike s) (ht : alike t) :
    (r.runOn t).1 = (r.runOn s).1 := by
  induction r with
  | done a => rfl
  | call c resume ih =>
    rw [runOn_call, runOn_call, h.2.1 t ht, s.answer_of_read h.1, t.answer_of_read h.1]
    exact ih _ h.2.2

end Routine

/-! ### Attempts -/

namespace Attempt

/-- What an attempt ends with on a store. -/
def endOn (a : Attempt ε α) (s : Store κ) : Except ε α := (a.run.runOn s).1

theorem bind_run (a : Attempt ε α) (f : α → Attempt ε β) :
    (a >>= f).run = a.run.bind fun
      | .ok x => (f x).run
      | .error e => .done (.error e) := by
  show a.run.bind _ = _
  congr 1
  funext o
  cases o <;> rfl

/-- What the run of two attempts in a row went through if it succeeded. -/
theorem runOn_bind_eq_ok_iff {a : Attempt ε α} {f : α → Attempt ε β} {s : Store κ} {y : β}
    {w : Written κ} :
    (a >>= f).run.runOn s = (.ok y, w) ↔ ∃ x w₁ w₂, a.run.runOn s = (.ok x, w₁) ∧
      (f x).run.runOn w₁.store = (.ok y, w₂) ∧ w = w₂.after w₁.announced := by
  rw [bind_run, Routine.runOn_bind]
  obtain ⟨o, w₁⟩ := a.run.runOn s
  cases o with
  | error e => simp
  | ok x =>
    simp only [Prod.mk.injEq, Except.ok.injEq]
    constructor
    · rintro ⟨result, rfl⟩
      exact ⟨x, w₁, _, ⟨rfl, rfl⟩, Prod.ext result rfl, rfl⟩
    · rintro ⟨_, _, w₂, ⟨rfl, rfl⟩, next, rfl⟩
      rw [next]
      exact ⟨rfl, rfl⟩

theorem mapError_run (f : ε → ε') (a : Attempt ε α) :
    (a.mapError f).run = a.run.bind fun e => .done (e.mapError f) := rfl

theorem result_run (a : Attempt ε α) :
    (a.result : Attempt ε' (Except ε α)).run = a.run.bind fun e => .done (.ok e) := rfl

@[simp] theorem ofExcept_run (e : Except ε α) : (ofExcept e).run = .done e := rfl

@[simp] theorem pure_run (x : α) : (pure x : Attempt ε α).run = .done (.ok x) := rfl

@[simp] theorem throw_run (e : ε) : (throw e : Attempt ε α).run = .done (.error e) := rfl

/-- A call whose outcome is looked at, a failure included. -/
theorem outcome_bind_run (c : Call) (f : c.Outcome → Attempt ε β) :
    (outcome c >>= f).run = .call c fun o => (f o).run := rfl

/-- A call whose failure ends the attempt. -/
theorem answer_bind_run (c : Call) (f : c.Answer → Attempt StoreError β) :
    (answer c >>= f).run = .call c fun
      | .ok a => (f a).run
      | .error e => .done (.error e) := by
  rw [bind_run]
  show Routine.call _ _ = _
  congr 1
  funext o
  cases o <;> rfl

theorem endOn_bind {a : Attempt ε α} (reads : a.run.ReadsOnly) (f : α → Attempt ε β)
    (s : Store κ) : (a >>= f).endOn s = a.endOn s >>= fun x => (f x).endOn s := by
  rw [endOn, bind_run, Routine.runOn_bind, (reads.readsOn s).runOn]
  simp only [endOn]
  cases (a.run.runOn s).1 <;> rfl

theorem endOn_mapError (f : ε → ε') (a : Attempt ε α) (s : Store κ) :
    (a.mapError f).endOn s = (a.endOn s).mapError f := by
  rw [endOn, mapError_run, Routine.runOn_bind]
  rfl

theorem steady_bind {alike : Store κ → Prop} {a : Attempt ε α} {f : α → Attempt ε β}
    {s : Store κ} (first : a.run.Steady alike s)
    (next : ∀ x, a.endOn s = .ok x → (f x).run.Steady alike s) :
    (a >>= f).run.Steady alike s := by
  refine first.bind ?_
  have next' := next
  simp only [endOn] at next'
  cases ended : (a.run.runOn s).1 with
  | ok x => exact next' x ended
  | error e => trivial

theorem readsOnly_bind {a : Attempt ε α} {f : α → Attempt ε β} (first : a.run.ReadsOnly)
    (next : ∀ x, (f x).run.ReadsOnly) : (a >>= f).run.ReadsOnly := by
  refine first.bind fun o => ?_
  cases o with
  | ok x => exact next x
  | error e => trivial

theorem readsOnly_mapError {f : ε → ε'} {a : Attempt ε α} (h : a.run.ReadsOnly) :
    (a.mapError f).run.ReadsOnly :=
  h.bind fun _ => trivial

theorem steady_mapError {alike : Store κ → Prop} {f : ε → ε'} {a : Attempt ε α} {s : Store κ}
    (h : a.run.Steady alike s) : (a.mapError f).run.Steady alike s :=
  h.bind trivial

end Attempt

end ControlPlane
