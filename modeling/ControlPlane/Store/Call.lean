import ControlPlane.Record.Basic
import ControlPlane.Store.Error

/-!
The calls that a store answers.
-/

namespace ControlPlane

/-- What a call does. -/
inductive Method where
  | get
  | list
  | create
  | update
  | updateStatus
  | delete
  deriving DecidableEq, Inhabited

/-- A call on the store. -/
inductive Call where
  /-- The record at a key. -/
  | get (kind : Kind) (key : RecordKey)
  /-- The records of a kind, of one namespace or of all. -/
  | list (kind : Kind) («namespace» : Option String)
  | create (kind : Kind) (record : Record)
  /-- Replaces the specification, the labels and the owners of a record. -/
  | update (kind : Kind) (record : Record)
  /-- Replaces the status of a record. -/
  | updateStatus (kind : Kind) (record : Record)
  /-- Drops a record and everything that it owns. -/
  | delete (kind : Kind) (key : RecordKey)
  deriving Inhabited

namespace Call

/-- What a call answers when it succeeds. -/
abbrev Answer : Call → Type
  | get .. | create .. | update .. | updateStatus .. => Record
  | list .. => List Record
  | delete .. => Unit

/-- The outcome of a call. -/
abbrev Outcome (c : Call) : Type := Except StoreError c.Answer

def method : Call → Method
  | get .. => .get
  | list .. => .list
  | create .. => .create
  | update .. => .update
  | updateStatus .. => .updateStatus
  | delete .. => .delete

def kind : Call → Kind
  | get k _ | list k _ | create k _ | update k _ | updateStatus k _ | delete k _ => k

/-- The key of the record that a call is about; a listing is about none. -/
def key? : Call → Option RecordKey
  | get _ key | delete _ key => some key
  | list .. => none
  | create _ r | update _ r | updateStatus _ r => some r.key

/-- Whether a call can change the store. -/
def isWrite : Call → Bool
  | get .. | list .. => false
  | _ => true

end Call

end ControlPlane
