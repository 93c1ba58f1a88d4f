import ControlPlane.Text.Characters

/-!
Directives for the log. A directive names a level, a target, a span with some of its fields, or a
target or span and the level for it: `level`, `target`, `target=level`, `target[span{field}]=level`.
A directive is read character by character, each of which leads from one place in it to the next.
-/

namespace ControlPlane

/-- Why a text is no directive. -/
inductive DirectiveFault where
  | shape
  | level
  deriving DecidableEq, Inhabited

/-- The words for a text that is no directive. -/
def DirectiveFault.message : DirectiveFault → String
  | shape => "invalid filter directive"
  | level =>
    "error parsing level filter: expected one of \"off\", \"error\", \"warn\", \"info\", " ++
      "\"debug\", \"trace\", or a number 0-5"

namespace LogDirective

/-- The names of levels. -/
def levelNames : List String := ["off", "error", "warn", "info", "debug", "trace"]

/-- Whether a text is the number of a level. -/
def isLevelNumber (s : String) : Bool :=
  let digits := if s.startsWith "+" then (s.drop 1).toString else s
  !digits.isEmpty && digits.all Char.isDigit &&
    digits.foldl (fun n c => 10 * n + (c.toNat - 48)) 0 ≤ 5

/-- Whether a text names a level. -/
def isLevel (s : String) : Bool := levelNames.contains (s.map Char.toLower) || isLevelNumber s

/-- A place in a directive. -/
inductive Place where
  | start
  /-- In a level or a target. -/
  | name
  | span
  /-- In a field, of which something was read or not. -/
  | field (begun : Bool)
  | afterFields
  | afterSpan
  /-- In the level behind a target or span, of which some text was read. -/
  | level (text : String)
  | complete
  deriving DecidableEq, Inhabited

/-- Whether a target may start with a character; all that is not ASCII counts as a letter. -/
def startsTarget (c : Char) : Bool :=
  c == '-' || c == ':' || c == '_' || c.isAlphanum || 128 ≤ c.toNat

/-- Refuses a text that is not empty and names no level. -/
def checkLevel (text : String) : Except DirectiveFault Unit :=
  if text.isEmpty || isLevel text then .ok () else .error .level

/-- The place behind a character. -/
def Place.next : Place → Char → Except DirectiveFault Place
  | start, c =>
    if c = '[' then .ok span else if startsTarget c then .ok name else .error .shape
  | name, c =>
    .ok (if c = '=' then level "" else if c = '[' then span else if c = ',' then complete else name)
  | span, c => .ok (if c = ']' then afterSpan else if c = '\x7b' then field false else span)
  | field begun, c =>
    if c ≠ '\x7d' ∧ c ≠ ',' then .ok (field true)
    else if !begun then .error .shape
    else .ok (if c = ',' then field false else afterFields)
  | afterFields, c => if c = ']' then .ok afterSpan else .error .shape
  | afterSpan, c => if c = '=' then .ok (level "") else .error .shape
  | level text, c =>
    if c = ',' then (checkLevel text).map fun _ => complete else .ok (level (text.push c))
  | complete, _ => .error .shape

/-- Refuses a directive that ends at a place. A level that stands last is taken with the blanks
around the directive, so none may be there. -/
def Place.finish (blanks : Bool) : Place → Except DirectiveFault Unit
  | name | afterSpan | complete => .ok ()
  | level text => if blanks then .error .level else checkLevel text
  | _ => .error .shape

/-- Refuses a text that is no directive. -/
def check (s : String) : Except DirectiveFault Unit := do
  let trimmed := Text.trim s
  (← trimmed.toList.foldlM Place.next .start).finish (trimmed != s)

/-- Whether a text is a list of directives. -/
def isList (s : String) : Bool :=
  ((s.splitOn ",").filter (!·.isEmpty)).all fun directive => (check directive).toBool

end LogDirective

end ControlPlane
