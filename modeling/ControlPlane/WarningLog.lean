import ControlPlane.Record.Key

/-!
The warning log: the failures of every key since it last succeeded. A failure that repeats the
latest one of its key is counted with it; of each key the latest few are kept.
-/

namespace ControlPlane

/-- A failure, and how often it came in a row. -/
structure Warning where
  reason : String
  message : String
  count : Nat
  deriving DecidableEq, Inhabited

namespace Warning

/-- Whether a warning has a reason and a message. -/
def agrees (w : Warning) (reason message : String) : Bool :=
  w.reason == reason && w.message == message

/-- Adds a failure to the warnings of a key, of which the oldest is dropped if there is no room. -/
def record (capacity : Nat) (reason message : String) (log : List Warning) : List Warning :=
  match log.getLast? with
  | some last =>
    if last.agrees reason message then log.dropLast ++ [{ last with count := last.count + 1 }]
    else (if log.length = capacity then log.tail else log) ++ [⟨reason, message, 1⟩]
  | none => [⟨reason, message, 1⟩]

end Warning

/-- The warnings of every key, the oldest first. -/
structure WarningLog where
  /-- How many warnings are kept of one key. -/
  capacity : Nat := 16
  logs : Dictionary RecordKey (List Warning) := ∅
  deriving Inhabited

namespace WarningLog

/-- An empty log that keeps a number of warnings, and one at least. -/
def withCapacity (capacity : Nat) : WarningLog := { capacity := max capacity 1 }

/-- The warnings of a key, the oldest first. -/
def warnings (l : WarningLog) (key : RecordKey) : List Warning := (l.logs.find? key).getD []

/-- Records a failure of a key. -/
def warn (l : WarningLog) (key : RecordKey) (reason message : String) : WarningLog :=
  { l with logs := l.logs.insert key (Warning.record l.capacity reason message (l.warnings key)) }

/-- Drops the warnings of a key. -/
def clear (l : WarningLog) (key : RecordKey) : WarningLog := { l with logs := l.logs.erase key }

/-- The latest warning of a key. -/
def latest? (l : WarningLog) (key : RecordKey) : Option Warning := (l.warnings key).getLast?

/-- The latest warning of every key that has one, in key order. -/
def outstanding (l : WarningLog) : List (RecordKey × Warning) :=
  l.logs.entries.filterMap fun e => e.2.getLast?.map fun w => (e.1, w)

end WarningLog

end ControlPlane
