import ControlPlane.Controller.Basic
import ControlPlane.Proofs.Controller.Listing
import ControlPlane.Proofs.Reconcile.Unnoticed
import ControlPlane.Proofs.WorkQueue.Discipline
import Mathlib.Data.List.Perm.Basic

/-!
The loop of a controller that runs beside others, one step at a time. A move names the next step and,
by an index, which announcement, invocation, key or alarm it takes, so announcements may overtake each
other and workers and timers go on in any order; a call that an invocation gave up may still be
carried out later, or never. A loop begins by watching the store and then listing the agents
(`Loop.Reached`).
-/

namespace ControlPlane

variable {α κ : Type} [Address κ]

/-! ### States -/

/-- A controller at work on a store, between two steps. -/
structure Loop (κ : Type) [Address κ] where
  store : Store κ
  controller : Controller
  /-- What was announced and has yet to be dispatched. -/
  channel : List Announcement := []
  /-- The keys whose invocations have ended and that workers have yet to release. -/
  returned : List RecordKey := []
  /-- The keys of a listing that have yet to be added. -/
  listed : List RecordKey := []
  /-- The calls that were given up and may yet be carried out. -/
  abandoned : List Call := []

namespace Loop

/-- An element of a list, and the others. -/
def pick? (l : List α) (n : Nat) : Option (α × List α) :=
  l[n]?.map fun a => (a, l.eraseIdx n)

theorem perm_of_pick? {l rest : List α} {n : Nat} {a : α} (h : pick? l n = some (a, rest)) :
    l.Perm (a :: rest) := by
  obtain ⟨b, found, eq⟩ := Option.map_eq_some_iff.mp h
  obtain ⟨rfl, rfl⟩ := Prod.mk.inj eq
  obtain ⟨lt, rfl⟩ := List.getElem?_eq_some_iff.mp found
  exact (List.getElem_cons_eraseIdx_perm lt).symm

/-- The keys that workers hold. -/
def held (l : Loop κ) : List RecordKey := l.controller.waiting.map Invocation.key ++ l.returned

/-- The loop after a call was carried out. -/
def answered (l : Loop κ) (c : Call) : Loop κ :=
  { l with
    store := (l.store.answer c).2.store
    channel := l.channel ++ (l.store.answer c).2.announced }

/-- The loop with other invocations that wait for the store. -/
def withWaiting (l : Loop κ) (waiting : List Invocation) : Loop κ :=
  { l with controller := { l.controller with waiting } }

/-- The loop with another queue and other alarms. -/
def withTimed (l : Loop κ) (timed : TimedQueue) : Loop κ :=
  { l with controller := { l.controller with timed } }

/-! ### Steps -/

/-- What happens next. -/
inductive Move where
  /-- Others make a call on agents. -/
  | act (c : Call)
  /-- An announcement is dispatched. -/
  | dispatch (n : Nat)
  /-- A worker begins the invocation of the next key. -/
  | begin
  /-- An invocation's call is answered. -/
  | call (n : Nat)
  /-- An invocation gives its call up. -/
  | giveUp (n : Nat)
  /-- A call that was given up is carried out. -/
  | carryOut (n : Nat)
  /-- The outcome of an invocation is taken note of. -/
  | note (n : Nat)
  /-- A key is released. -/
  | release (n : Nat)
  /-- An alarm goes off. -/
  | alarm (n : Nat)
  /-- All agents are listed again. -/
  | list
  /-- A key that was listed is added. -/
  | add (n : Nat)
  /-- Time passes. -/
  | wait (now : Nat)

/-- The loop after a move that is possible. -/
def step? (l : Loop κ) : Move → Option (Loop κ)
  | .act c => if c.kind = .agent then some (l.answered c) else none
  | .dispatch n =>
    (pick? l.channel n).map fun (a, channel) =>
      { l with channel, controller := l.controller.notice a }
  | .begin => l.controller.begin?.map fun (i, controller) =>
      { l with controller := controller.hold i }
  | .call n => do
    let (i, others) ← pick? l.controller.waiting n
    match i.rest with
    | .done _ => none
    | .call c resume =>
      some ((l.answered c).withWaiting
        ({ i with rest := resume (l.store.answer c).1 } :: others))
  | .giveUp n => do
    let (i, others) ← pick? l.controller.waiting n
    match i.rest with
    | .done _ => none
    | .call c _ =>
      some { l.withWaiting ({ i with rest := i.rest.giveUp } :: others) with
        abandoned := c :: l.abandoned }
  | .carryOut n =>
    (pick? l.abandoned n).map fun (c, abandoned) => { l.answered c with abandoned }
  | .note n => do
    let (i, waiting) ← pick? l.controller.waiting n
    match i.rest with
    | .done result =>
      some { l with
        controller := { l.controller.note i.key result with waiting }
        returned := i.key :: l.returned }
    | .call .. => none
  | .release n =>
    (pick? l.returned n).map fun (key, returned) =>
      { l.withTimed (l.controller.timed.modify (·.release key)) with returned }
  | .alarm n =>
    (pick? l.controller.timed.alarms n).map fun (a, alarms) =>
      l.withTimed { l.controller.timed with queue := l.controller.queue.add a.key, alarms }
  | .list =>
    match Pass.agentKeys.endOn l.store with
    | .ok keys => some { l with listed := l.listed ++ keys }
    | .error _ => none
  | .add n =>
    (pick? l.listed n).map fun (key, listed) =>
      { l with listed, controller := l.controller.enqueue [key] }
  | .wait now => some (l.withTimed { l.controller.timed with now })

/-! ### Runs -/

/-- Others make calls on agents, one after another. -/
inductive ActsOnAgents : Store κ → Store κ → List Announcement → Prop where
  | nil (s : Store κ) : ActsOnAgents s s []
  | cons {s t : Store κ} {announced : List Announcement} (c : Call) (agents : c.kind = .agent)
      (rest : ActsOnAgents (s.answer c).2.store t announced) :
      ActsOnAgents s t ((s.answer c).2.announced ++ announced)

/-- The loop that begins to work on a store, with what was announced since it began to watch and the
agents that it listed. -/
def begun (settings : ControllerSettings) (broker : BrokerSettings) (store : Store κ)
    (channel : List Announcement) (keys : List RecordKey) : Loop κ where
  store
  controller := (Controller.idle settings broker).enqueue keys
  channel

/-- The loops that a controller reaches: it watches a store and then lists the agents, while others
act on agents all the time; and no step changes a tool of a stored agent. -/
inductive Reached (settings : ControllerSettings) (broker : BrokerSettings) : Loop κ → Prop where
  | begun {s₀ s₁ s₂ : Store κ} {announced₁ announced₂ : List Announcement} {keys : List RecordKey}
      (before : ActsOnAgents s₀ s₁ announced₁) (listed : Pass.agentKeys.endOn s₁ = .ok keys)
      (after : ActsOnAgents s₁ s₂ announced₂) :
      Reached settings broker (begun settings broker s₂ (announced₁ ++ announced₂) keys)
  | step {l l' : Loop κ} (reached : Reached settings broker l) (m : Move)
      (moved : l.step? m = some l') (kept : l.store.ToolsKept l'.store) :
      Reached settings broker l'

/-- Nothing is left to do: every announcement was dispatched, no key is pending or held, and no alarm
is set. -/
structure Quiescent (l : Loop κ) : Prop where
  channel : l.channel = []
  pending : l.controller.queue.pending = []
  processing : l.controller.queue.processing.isEmpty = true
  alarms : l.controller.timed.alarms = []

theorem quiescent_iff {l : Loop κ} : l.Quiescent ↔ l.channel.isEmpty = true ∧
    l.controller.queue.pending.isEmpty = true ∧ l.controller.queue.processing.isEmpty = true ∧
      l.controller.timed.alarms.isEmpty = true := by
  simp only [List.isEmpty_iff]
  exact ⟨fun ⟨c, q, p, a⟩ => ⟨c, q, p, a⟩, fun ⟨c, q, p, a⟩ => ⟨c, q, p, a⟩⟩

instance (l : Loop κ) : Decidable l.Quiescent := decidable_of_iff' _ quiescent_iff

end Loop

end ControlPlane
