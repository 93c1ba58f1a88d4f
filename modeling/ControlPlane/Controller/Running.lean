import ControlPlane.Controller.Basic
import ControlPlane.Store.World

/-!
A controller at work on a store, against a clock that only moves when nothing is left to do at a
moment. At every moment notifications are dispatched and workers take keys until neither is possible
any more; then the clock jumps to the next alarm, deadline or resync.
-/

namespace ControlPlane

/-- What the dispatcher of notifications does. -/
inductive Dispatcher where
  | listening
  /-- It waits for a listing that never returns. -/
  | stuck
  | stopped
  deriving DecidableEq, Inhabited

/-- A controller at work on a store. -/
structure Running (β κ : Type) [Address κ] where
  world : World β κ
  controller : Controller
  /-- How many announcements were dispatched or lost. -/
  seen : Nat
  /-- When every agent is looked at again, in milliseconds. -/
  nextResync : Nat
  dispatcher : Dispatcher := .listening

namespace Running

variable {β κ : Type} [Address κ]

/-- How many announcements are held for the dispatcher; older ones are lost. -/
def channelCapacity : Nat := 1024

/-- How many announcements are dispatched before the workers have their turn. -/
def batchSize : Nat := 128

/-- How many turns are taken at one moment, and how many moments in one stretch of time. -/
def patience : Nat := 1000000

/-! ### Dispatching -/

/-- Adds every agent to the queue; a listing that fails is passed over. -/
def resync (r : Running β κ) : Running β κ :=
  match Pass.agentKeys.run.pursue World.perform r.world with
  | (.done (.ok keys), world) => { r with world, controller := r.controller.enqueue keys }
  | (.done (.error _), world) => { r with world }
  | (.call .., world) => { r with world, dispatcher := .stuck }

/-- Dispatches one announcement; when announcements were lost, adds every agent instead. -/
def dispatch? (r : Running β κ) : Option (Running β κ) :=
  match r.dispatcher, r.world.announced[r.seen]? with
  | .listening, some a =>
    let count := r.world.announced.length
    if r.seen + channelCapacity < count then
      some { r with seen := count - channelCapacity }.resync
    else some { r with seen := r.seen + 1, controller := r.controller.notice a }
  | _, _ => none

/-- Dispatches up to a number of announcements. -/
def dispatchUpTo : Nat → Running β κ → Running β κ
  | 0, r => r
  | n + 1, r =>
    match r.dispatch? with
    | some r => dispatchUpTo n r
    | none => r

/-! ### Working -/

/-- Lets the next worker begin an invocation and go on with it as far as the store answers. -/
def work? (r : Running β κ) : Option (Running β κ) := do
  let (i, controller) ← r.controller.begin?
  match i.rest.pursue World.perform r.world with
  | (.done result, world) => pure { r with world, controller := controller.settle i.key result }
  | (rest, world) => pure { r with world, controller := controller.hold { i with rest } }

/-- Lets workers begin invocations while they can. -/
def workOn : Nat → Running β κ → Running β κ
  | 0, r => r
  | n + 1, r =>
    match r.work? with
    | some r => workOn n r
    | none => r

/-- Dispatches and works until nothing is left to do at this moment. -/
def quiesce : Nat → Running β κ → Running β κ
  | 0, r => r
  | n + 1, r =>
    let r := workOn patience (dispatchUpTo batchSize r)
    if r.dispatch?.isSome then quiesce n r else r

/-! ### Time -/

/-- Ends an invocation whose deadline has come: its calls are given up unless they are answered at
once. -/
def expire (r : Running β κ) (i : Invocation) : Running β κ :=
  let (result, world) := r.world.run i.rest.giveUp
  { r with world, controller := r.controller.settle i.key result }

/-- The next moment at which something happens by itself. -/
def nextMoment? (r : Running β κ) : Option Nat :=
  ((r.controller.timed.alarms.map (·.due)) ++ r.controller.waiting.map (·.deadline) ++
    (if r.dispatcher = .listening then [r.nextResync] else [])).min?

/-- Lets happen what is due at a moment. -/
def arrive (r : Running β κ) (time : Nat) : Running β κ :=
  let c := r.controller
  let (expired, waiting) := c.waiting.partition (·.deadline ≤ time)
  let r := { r with controller := { c with timed := c.timed.sleepUntil time, waiting } }
  let r := expired.foldl expire r
  let r :=
    if r.dispatcher = .listening ∧ r.nextResync ≤ time then
      { r with
        nextResync := r.nextResync + 1000 * c.settings.resyncIntervalSecs.toNat }.resync
    else r
  quiesce patience r

/-- Moment by moment, lets everything happen that is due up to a time. -/
def passUntil (time : Nat) : Nat → Running β κ → Running β κ
  | 0, r => r
  | n + 1, r =>
    match r.nextMoment? with
    | some moment => if moment ≤ time then passUntil time n (r.arrive moment) else r
    | none => r

/-- Lets time pass until a moment. -/
def advanceTo (r : Running β κ) (time : Nat) : Running β κ :=
  let r := passUntil time patience (quiesce patience r)
  { r with controller := { r.controller with timed := r.controller.timed.sleepUntil time } }

/-! ### Start and stop -/

/-- Starts a controller on a store: it watches the store first and then lists the agents. -/
def start (world : World β κ) (controller : Controller) :
    Except StoreError (Running β κ) × World β κ :=
  let seen := world.announced.length
  match world.run Pass.agentKeys.run with
  | (.error e, world) => (.error e, world)
  | (.ok keys, world) =>
    let nextResync := 1000 * controller.settings.resyncIntervalSecs.toNat
    (.ok { world, controller := controller.enqueue keys, seen, nextResync }, world)

/-- Stops a controller; the invocations that wait for the store end by their deadlines. -/
def stop (r : Running β κ) : Running β κ :=
  let r := { r with dispatcher := .stopped, controller := r.controller.shutDown }
  match (r.controller.waiting.map (·.deadline)).max? with
  | some last => r.advanceTo (max last r.controller.now)
  | none => r

end Running

end ControlPlane
