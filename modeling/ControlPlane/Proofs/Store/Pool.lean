import ControlPlane.Proofs.Store.Interference
import Mathlib.Data.DFinsupp.WellFounded
import Mathlib.Logic.Relation

/-!
Routines that share a world and make their calls in any order. A run of finitely many routines
cannot go on for ever (`Pool.inevitably_finished`), a routine may run to its end while the others
wait (`Pool.reaches_run`), and what each routine ensures beside the others holds in every run
(`Pool.Reaches.ensures`).
-/

namespace ControlPlane

variable {ι α ω : Type}

/-- Routines that share a world. -/
structure Pool (ι α ω : Type) where
  routines : ι → Routine α
  world : ω

namespace Pool

/-- The result of a routine that has ended. -/
def result? (p : Pool ι α ω) (i : ι) : Option α :=
  match p.routines i with
  | .done a => some a
  | .call .. => none

theorem result?_eq_some_iff {p : Pool ι α ω} {i : ι} {a : α} :
    p.result? i = some a ↔ p.routines i = .done a := by
  rw [result?]
  split <;> simp_all

/-- Every routine has ended. -/
def Finished (p : Pool ι α ω) : Prop := ∀ i, (p.result? i).isSome

variable [DecidableEq ι] {answer : (c : Call) → ω → c.Outcome × ω} {p q : Pool ι α ω}

/-- The pool after one of the routines had a call answered. -/
def answered (answer : (c : Call) → ω → c.Outcome × ω) (p : Pool ι α ω) (i : ι) (c : Call)
    (resume : c.Outcome → Routine α) : Pool ι α ω :=
  ⟨Function.update p.routines i (resume (answer c p.world).1), (answer c p.world).2⟩

section Answered

variable {i j : ι} {c : Call} {resume : c.Outcome → Routine α}

@[simp] theorem answered_self :
    (p.answered answer i c resume).routines i = resume (answer c p.world).1 :=
  Function.update_self ..

theorem answered_of_ne (ne : j ≠ i) :
    (p.answered answer i c resume).routines j = p.routines j :=
  Function.update_of_ne ne ..

end Answered

/-- Any of the routines makes its next call. -/
inductive Step (answer : (c : Call) → ω → c.Outcome × ω) : Pool ι α ω → Pool ι α ω → Prop where
  | call {p : Pool ι α ω} {i : ι} {c : Call} {resume : c.Outcome → Routine α}
      (waits : p.routines i = .call c resume) : Step answer p (p.answered answer i c resume)

/-- Some calls were made, in any order. -/
abbrev Reaches (answer : (c : Call) → ω → c.Outcome × ω) : Pool ι α ω → Pool ι α ω → Prop :=
  Relation.ReflTransGen (Step answer)

/-- In whatever order the calls are made, the pool gets to where something holds. -/
inductive Inevitably (answer : (c : Call) → ω → c.Outcome × ω) (P : Pool ι α ω → Prop) :
    Pool ι α ω → Prop where
  | now {p : Pool ι α ω} (holds : P p) : Inevitably answer P p
  | later {p : Pool ι α ω} (goesOn : ∃ q, Step answer p q)
      (next : ∀ q, Step answer p q → Inevitably answer P q) : Inevitably answer P p

/-! ### Every run ends -/

/-- One routine is left of another after a single call. -/
def Remains (rest r : Routine α) : Prop := ∃ c resume o, r = .call c resume ∧ rest = resume o

theorem wellFounded_remains : WellFounded (Remains (α := α)) := by
  refine ⟨fun r => ?_⟩
  induction r with
  | done a =>
    refine ⟨_, ?_⟩
    rintro - ⟨c, resume, o, ⟨⟩, -⟩
  | call c resume ih =>
    refine ⟨_, ?_⟩
    rintro - ⟨c', resume', o, eq, rfl⟩
    cases eq
    exact ih o

/-- Every call shortens one routine and leaves the others as they are. -/
theorem wellFounded_step [Finite ι] (answer : (c : Call) → ω → c.Outcome × ω) :
    WellFounded fun q p : Pool ι α ω => Step answer p q := by
  have lex : WellFounded (Pi.Lex (β := fun _ : ι => Routine α) WellOrderingRel Remains) :=
    Pi.Lex.wellFounded _ fun _ => wellFounded_remains
  refine Subrelation.wf ?_ (InvImage.wf Pool.routines lex)
  rintro - p ⟨waits⟩
  rename_i i c resume
  refine ⟨i, fun j before => ?_, ?_⟩
  · refine answered_of_ne ?_
    rintro rfl
    exact irrefl j before
  · show Remains ((p.answered answer i c resume).routines i) (p.routines i)
    rw [answered_self, waits]
    exact ⟨c, resume, _, rfl, rfl⟩

theorem finished_or_step (answer : (c : Call) → ω → c.Outcome × ω) (p : Pool ι α ω) :
    p.Finished ∨ ∃ q, Step answer p q := by
  by_cases finished : p.Finished
  · exact .inl finished
  · obtain ⟨i, waiting⟩ := not_forall.mp finished
    cases waits : p.routines i with
    | done a =>
      rw [result?_eq_some_iff.mpr waits] at waiting
      exact absurd rfl waiting
    | call c resume => exact .inr ⟨_, .call waits⟩

/-- All routines of a pool end, in whatever order they make their calls. -/
theorem inevitably_finished [Finite ι] (answer : (c : Call) → ω → c.Outcome × ω)
    (p : Pool ι α ω) : p.Inevitably answer Finished := by
  refine (wellFounded_step answer).induction p fun p ih => ?_
  rcases p.finished_or_step answer with finished | goesOn
  · exact .now finished
  · exact .later goesOn ih

/-! ### One routine after another -/

/-- A routine may run to its end while the others wait. -/
theorem reaches_run (answer : (c : Call) → ω → c.Outcome × ω) (p : Pool ι α ω) (i : ι) :
    Reaches answer p
      ⟨Function.update p.routines i (.done ((p.routines i).run answer p.world).1),
        ((p.routines i).run answer p.world).2⟩ := by
  generalize left : p.routines i = r
  induction r generalizing p with
  | done a =>
    rw [Routine.run, ← left, Function.update_eq_self]
  | call c resume ih =>
    have rest := ih _ (p.answered answer i c resume) answered_self
    rw [answered, Function.update_idem] at rest
    exact .head (.call left) rest

/-- Two routines may run one after the other while the rest wait. -/
theorem reaches_run_run (answer : (c : Call) → ω → c.Outcome × ω) (p : Pool ι α ω) {i j : ι}
    (ne : i ≠ j) : ∃ q, Reaches answer p q ∧
      q.result? i = some ((p.routines i).run answer p.world).1 ∧
      q.result? j = some ((p.routines j).run answer ((p.routines i).run answer p.world).2).1 ∧
      q.world = ((p.routines j).run answer ((p.routines i).run answer p.world).2).2 := by
  have first := p.reaches_run answer i
  have second := reaches_run answer ⟨Function.update p.routines i
    (.done ((p.routines i).run answer p.world).1), ((p.routines i).run answer p.world).2⟩ j
  simp only [Function.update_of_ne ne.symm] at second
  refine ⟨_, first.trans second, result?_eq_some_iff.mpr ?_, result?_eq_some_iff.mpr ?_, rfl⟩
  · exact (Function.update_of_ne ne ..).trans (Function.update_self ..)
  · exact Function.update_self ..

/-- The pool after calls of the routines in a given order; a routine that has ended makes none. -/
def play (answer : (c : Call) → ω → c.Outcome × ω) : List ι → Pool ι α ω → Pool ι α ω
  | [], p => p
  | i :: rest, p =>
    match p.routines i with
    | .done _ => play answer rest p
    | .call c resume => play answer rest (p.answered answer i c resume)

theorem reaches_play (answer : (c : Call) → ω → c.Outcome × ω) (order : List ι)
    (p : Pool ι α ω) : Reaches answer p (p.play answer order) := by
  induction order generalizing p with
  | nil => exact .refl
  | cons i rest ih =>
    simp only [play]
    split
    · exact ih p
    · rename_i c resume waits
      exact .head (.call waits) (ih _)

/-- An order of calls in which two routines take turns. -/
def turns : Nat → List (Fin 2)
  | 0 => []
  | n + 1 => 0 :: 1 :: turns n

/-! ### What the routines ensure -/

variable {I : ι → Interference ω} {guar : ι → ω → ω → Prop} {post : ι → α → ω → Prop}

/-- Where what each routine guarantees is drift for the others, every routine ensures in every run
what it ensures by itself. -/
theorem Reaches.ensures (answers : ∀ i c w, (I i).answers c w (answer c w).1 (answer c w).2)
    (fits : ∀ i j, i ≠ j → ∀ u v, guar i u v → (I j).drift u v)
    (start : ∀ i, (p.routines i).Ensures (I i) (guar i) (post i) p.world)
    (reached : Reaches answer p q) :
    (∀ i, (q.routines i).Ensures (I i) (guar i) (post i) q.world) ∧
      Relation.ReflTransGen (fun u v => ∃ i, guar i u v) p.world q.world := by
  induction reached with
  | refl => exact ⟨start, .refl⟩
  | @tail q _ _ last ih =>
    obtain ⟨ensured, before⟩ := ih
    cases last with
    | @call i c resume waits =>
    have here := ensured i
    rw [waits] at here
    obtain ⟨allowed, next⟩ := here q.world ((I i).refl _) _ _ (answers i c q.world)
    refine ⟨fun j => ?_, before.tail ⟨i, allowed⟩⟩
    by_cases same : j = i
    · subst same
      rw [answered_self]
      exact next
    · rw [answered_of_ne same]
      exact (ensured j).drift (fits i j (Ne.symm same) _ _ allowed)

/-- What a routine ensured holds once it has ended. -/
theorem Reaches.post_of_done (answers : ∀ i c w, (I i).answers c w (answer c w).1 (answer c w).2)
    (fits : ∀ i j, i ≠ j → ∀ u v, guar i u v → (I j).drift u v)
    (start : ∀ i, (p.routines i).Ensures (I i) (guar i) (post i) p.world)
    (reached : Reaches answer p q) {i : ι} {a : α} (ended : q.result? i = some a) :
    post i a q.world := by
  have ensured := (Reaches.ensures answers fits start reached).1 i
  rw [result?_eq_some_iff.mp ended] at ensured
  exact ensured q.world ((I i).refl _)

/-- Routines that guarantee one another what they rely on. -/
theorem Reaches.ensures_alike {I : Interference ω} {post : α → ω → Prop}
    (answers : ∀ c w, I.answers c w (answer c w).1 (answer c w).2)
    (start : ∀ i, (p.routines i).Ensures I I.drift post p.world) (reached : Reaches answer p q) :
    I.drift p.world q.world ∧ ∀ i a, q.result? i = some a → post a q.world := by
  have fits : ∀ i j : ι, i ≠ j → ∀ u v, I.drift u v → I.drift u v := fun _ _ _ _ _ h => h
  constructor
  · have guaranteed := (Reaches.ensures (fun _ => answers) fits start reached).2
    generalize q.world = w at guaranteed
    induction guaranteed with
    | refl => exact I.refl _
    | tail _ last ih =>
      obtain ⟨-, drifted⟩ := last
      exact I.trans ih drifted
  · intro i a ended
    exact Reaches.post_of_done (fun _ => answers) fits start reached ended

end Pool

end ControlPlane
