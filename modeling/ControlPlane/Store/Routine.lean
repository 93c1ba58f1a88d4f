import ControlPlane.Store.Call

/-!
Routines: computations that make store calls. A routine is a tree whose nodes are calls and whose
branches are their outcomes, so it can be run at once, interleaved with others or cut off anywhere.
-/

namespace ControlPlane

/-- A computation that makes store calls, one after another. -/
inductive Routine (α : Type) where
  | done (result : α)
  | call (next : Call) (resume : next.Outcome → Routine α)

namespace Routine

variable {α β : Type}

/-- Goes on with the result of a routine. -/
def bind : Routine α → (α → Routine β) → Routine β
  | done a, f => f a
  | call c resume, f => call c fun outcome => (resume outcome).bind f

instance : Monad Routine where
  pure := done
  bind := bind

instance [Inhabited α] : Inhabited (Routine α) := ⟨done default⟩

/-- The routine of a single call. -/
def ofCall (c : Call) : Routine c.Outcome := call c done

/-- Runs a routine where every call is answered. -/
def run {ω : Type} (answer : (c : Call) → ω → c.Outcome × ω) : Routine α → ω → α × ω
  | done a, w => (a, w)
  | call c resume, w =>
    let (outcome, w) := answer c w
    (resume outcome).run answer w

/-- Runs a routine as far as its calls are answered. -/
def pursue {ω : Type} (answer? : (c : Call) → ω → Option c.Outcome × ω) :
    Routine α → ω → Routine α × ω
  | done a, w => (done a, w)
  | call c resume, w =>
    match answer? c w with
    | (some outcome, w) => (resume outcome).pursue answer? w
    | (none, w) => (call c resume, w)

/-- Goes on where the call that is waited for is given up. -/
def giveUp : Routine α → Routine α
  | done a => done a
  | call _ resume => resume (.error .timeout)

@[simp] theorem done_bind (a : α) (f : α → Routine β) : (done a).bind f = f a := rfl

@[simp] theorem bind_done (r : Routine α) : r.bind done = r := by
  induction r with
  | done a => rfl
  | call c resume ih => simp [bind, ih]

theorem bind_assoc {γ : Type} (r : Routine α) (f : α → Routine β) (g : β → Routine γ) :
    (r.bind f).bind g = r.bind fun a => (f a).bind g := by
  induction r with
  | done a => rfl
  | call c resume ih => simp [bind, ih]

instance : LawfulMonad Routine := LawfulMonad.mk' _ bind_done done_bind bind_assoc

/-- A run of two routines in a row is the run of the first and then of the second. -/
theorem run_bind {ω : Type} (answer : (c : Call) → ω → c.Outcome × ω) (r : Routine α)
    (f : α → Routine β) (w : ω) :
    (r.bind f).run answer w = (f (r.run answer w).1).run answer (r.run answer w).2 := by
  induction r generalizing w with
  | done a => rfl
  | call c resume ih => simp [bind, run, ih]

end Routine

/-! ### Routines that fail -/

/-- A computation on the store that may fail. -/
abbrev Attempt (ε : Type) := ExceptT ε Routine

namespace Attempt

variable {ε ε' α : Type}

/-- The outcome of a call, a failure included. -/
def outcome (c : Call) : Attempt ε c.Outcome := ExceptT.lift (Routine.ofCall c)

/-- The answer of a call. -/
def answer (c : Call) : Attempt StoreError c.Answer := ExceptT.mk (Routine.ofCall c)

/-- A result that is known already. -/
def ofExcept (e : Except ε α) : Attempt ε α := ExceptT.mk (.done e)

/-- The result of an attempt, a failure included. -/
def result (a : Attempt ε α) : Attempt ε' (Except ε α) := ExceptT.lift a.run

/-- An attempt whose failures are told as other failures. -/
def mapError (f : ε → ε') (a : Attempt ε α) : Attempt ε' α :=
  ExceptT.mk (a.run.bind fun e => .done (e.mapError f))

end Attempt

end ControlPlane
