import ControlPlane.Store.Basic

/-!
A store with interceptors: rules that stand between the callers and the store. The first rule that
matches a call is used up by it; it may let others act on the store before the call, and make the
call fail or never return.
-/

namespace ControlPlane

/-! ### Interceptors -/

/-- How a call is made to fail. -/
inductive Fault where
  | error (make : Kind → RecordKey → StoreError)
  /-- The call never returns. -/
  | stall

/-- A rule for one call. -/
structure Interceptor (β : Type) where
  method : Method
  kind : Option Kind := none
  /-- The name of the record that the call is about. -/
  name : Option String := none
  /-- How many matching calls are passed over first. -/
  skip : Nat := 0
  /-- What others do to the store before the call. -/
  before : List (Routine β) := []
  fault : Option Fault := none

namespace Interceptor

variable {β : Type}

/-- Whether a rule is meant for a call. -/
def hits (i : Interceptor β) (c : Call) : Bool :=
  i.method == c.method && i.kind.all (· == c.kind) &&
    i.name.all fun name => name == (c.key?.map (·.name)).getD ""

/-- The first rule that a call meets, taken out; the rules before it are passed over. -/
def meet (c : Call) : List (Interceptor β) → Option (Interceptor β) × List (Interceptor β)
  | [] => (none, [])
  | i :: rest =>
    if i.hits c then
      if i.skip = 0 then (some i, rest)
      else
        let (met, rest) := meet c rest
        (met, { i with skip := i.skip - 1 } :: rest)
    else
      let (met, rest) := meet c rest
      (met, i :: rest)

end Interceptor

/-! ### The intercepted store -/

/-- A store, the interceptors before it, what it announced and what interceptors did. -/
structure World (β κ : Type) [Address κ] where
  store : Store κ
  interceptors : List (Interceptor β) := []
  announced : List Announcement := []
  intercepted : List β := []

namespace World

variable {α β κ : Type} [Address κ]

/-- Runs a routine on the store itself. -/
def runInside (w : World β κ) (r : Routine α) : α × World β κ :=
  let (a, written) := r.runOn w.store
  (a, { w with store := written.store, announced := w.announced ++ written.announced })

/-- Lets others act on the store. -/
def letAct (w : World β κ) (acts : List (Routine β)) : World β κ :=
  acts.foldl (fun w act =>
    let (b, w) := w.runInside act
    { w with intercepted := w.intercepted ++ [b] }) w

/-- Makes a call; nothing is answered by one that never returns. -/
def perform (c : Call) (w : World β κ) : Option c.Outcome × World β κ :=
  let (met, interceptors) := Interceptor.meet c w.interceptors
  let w := { w with interceptors }
  match met with
  | none => proceed w
  | some i =>
    let w := w.letAct i.before
    match i.fault with
    | none => proceed w
    | some (.error make) => (some (.error (make c.kind (c.key?.getD ⟨"", ""⟩))), w)
    | some .stall => (none, w)
where
  proceed (w : World β κ) : Option c.Outcome × World β κ :=
    let (outcome, w) := w.runInside (Routine.ofCall c)
    (some outcome, w)

/-- Makes a call that is given up if it never returns. -/
def answer (c : Call) (w : World β κ) : c.Outcome × World β κ :=
  let (outcome, w) := w.perform c
  (outcome.getD (.error .timeout), w)

/-- Runs a routine whose calls are intercepted. -/
def run (w : World β κ) (r : Routine α) : α × World β κ := r.run answer w

end World

end ControlPlane
