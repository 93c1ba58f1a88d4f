import ControlPlane.Form.Basic

/-!
The identity of records: a kind, and within a kind a namespace and a name. Keys are ordered by
namespace first.
-/

namespace ControlPlane

/-! ### Kinds -/

/-- The kinds of record. -/
inductive Kind where
  /-- What a user wants. -/
  | agent
  /-- What is executed: derived from an agent, or deployed on its own as a tool. -/
  | function
  /-- Modules that functions are made from. -/
  | package
  deriving DecidableEq, Inhabited

namespace Kind

/-- The kinds in their order. -/
def all : List Kind := [.agent, .function, .package]

/-- The name of a kind. -/
def text : Kind → String
  | .agent => "Agent"
  | .function => "Function"
  | .package => "Package"

/-- The kind of a name. -/
def ofText? (s : String) : Option Kind := all.find? fun k => k.text == s

/-- The place of a kind among the kinds. -/
def index : Kind → Nat
  | .agent => 0
  | .function => 1
  | .package => 2

instance : Ord Kind := ⟨compareOn index⟩

instance : Std.TransOrd Kind := inferInstanceAs (Std.TransCmp (compareOn index))

instance : Std.LawfulEqOrd Kind where
  compare_self {a} := by cases a <;> rfl
  eq_of_compare {a b} h := by cases a <;> cases b <;> first | rfl | cases h

/-- A kind is written as its name. -/
def form : Form Kind := .choice (all.map fun k => (k.text, k)) text

end Kind

/-! ### Keys -/

/-- The namespace and name of a record. -/
structure RecordKey where
  «namespace» : String
  name : String
  deriving DecidableEq, Inhabited

namespace RecordKey

/-- The key as one text. -/
def text (k : RecordKey) : String := k.namespace ++ "/" ++ k.name

instance : Ord RecordKey := ⟨compareLex (compareOn (·.namespace)) (compareOn (·.name))⟩

theorem compare_def (a b : RecordKey) :
    compare a b = (compare a.namespace b.namespace).then (compare a.name b.name) := rfl

instance : Std.TransOrd RecordKey :=
  inferInstanceAs (Std.TransCmp (compareLex
    (compareOn fun k : RecordKey => k.namespace) (compareOn fun k : RecordKey => k.name)))

instance : Std.LawfulEqOrd RecordKey where
  compare_self {a} := by simp
  eq_of_compare {a b} h := by
    rw [compare_def, Ordering.then_eq_eq] at h
    obtain ⟨h₁, h₂⟩ := h
    have e₁ : a.namespace = b.namespace := Std.LawfulEqCmp.eq_of_compare h₁
    have e₂ : a.name = b.name := Std.LawfulEqCmp.eq_of_compare h₂
    cases a; cases b; simp_all

/-- The fields of a key. -/
def schema : Schema RecordKey where
  name := "ObjectKey"
  start := ⟨"", ""⟩
  fields := [
    .of "namespace" .refused .text (·.namespace) fun k v => { k with «namespace» := v },
    .of "name" .refused .text (·.name) fun k v => { k with name := v }]

def form : Form RecordKey := schema.form

end RecordKey

/-! ### Kinds and keys together -/

/-- The full identity of a record: keys within kinds. -/
structure RecordId where
  kind : Kind
  key : RecordKey
  deriving DecidableEq, Inhabited

namespace RecordId

/-- The identity as one text. -/
def text (i : RecordId) : String := i.kind.text ++ " " ++ i.key.text

instance : Ord RecordId := ⟨compareLex (compareOn (·.kind)) (compareOn (·.key))⟩

theorem compare_def (a b : RecordId) :
    compare a b = (compare a.kind b.kind).then (compare a.key b.key) := rfl

instance : Std.TransOrd RecordId :=
  inferInstanceAs (Std.TransCmp (compareLex
    (compareOn fun i : RecordId => i.kind) (compareOn fun i : RecordId => i.key)))

instance : Std.LawfulEqOrd RecordId where
  compare_self {a} := by simp
  eq_of_compare {a b} h := by
    rw [compare_def, Ordering.then_eq_eq] at h
    obtain ⟨h₁, h₂⟩ := h
    have e₁ : a.kind = b.kind := Std.LawfulEqCmp.eq_of_compare h₁
    have e₂ : a.key = b.key := Std.LawfulEqCmp.eq_of_compare h₂
    cases a; cases b; simp_all

end RecordId

end ControlPlane
