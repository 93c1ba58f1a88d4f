import ControlPlane.Decimal.Layout
import ControlPlane.Settings.Basic
import ControlPlane.Settings.Setting
import ControlPlane.Text.Quoted

/-!
Reading settings: a value is taken for what is wanted as far as it can be. Texts are read as truth
values and numbers, numbers are rounded, and truth values and numbers are written as texts.
-/

namespace ControlPlane

/-- Why a setting cannot be read. -/
inductive SettingFault where
  /-- A value is not what is wanted; where it stands and where it is given are told. -/
  | mismatch (found expected : String) (key : Option String) (origin : Option String)
  /-- A value is no table, or no name of a choice. -/
  | misshapen (words : String)
  deriving DecidableEq, Inhabited

namespace SettingFault

/-- The words for a setting that cannot be read. -/
def message : SettingFault → String
  | mismatch found expected key origin =>
    "invalid type: " ++ found ++ ", expected " ++ expected ++
      (match key with | some key => " for key \x60" ++ key ++ "\x60" | none => "") ++
      (match origin with | some origin => " in " ++ origin | none => "")
  | misshapen words => words

/-- Tells that a fault lies at an entry of a table. -/
def atKey (name : String) : SettingFault → SettingFault
  | mismatch found expected key origin =>
    let key := key.getD ""
    let point := if key.startsWith "[" || key.isEmpty then "" else "."
    mismatch found expected (some (name ++ point ++ key)) origin
  | e => e

/-- Tells that a fault lies at an item of a list. -/
def atItem (place : Nat) : SettingFault → SettingFault
  | mismatch found expected key origin =>
    mismatch found expected (some ("[" ++ toString place ++ "]" ++ key.getD "")) origin
  | e => e

end SettingFault

namespace Setting

/-- The words for a value where another one is wanted. -/
def found (integer : String) : Setting → String
  | nothing _ => "unit value"
  | flag _ b => "boolean \x60" ++ (if b then "true" else "false") ++ "\x60"
  | int _ i => integer ++ " \x60" ++ toString i ++ "\x60"
  | float _ x => "floating point \x60" ++ Decimal.Layout.pointed.render x ++ "\x60"
  | text _ s => "string " ++ Text.quoted s
  | list .. => "sequence"
  | table .. => "map"

/-- The fault of a value that is not what is wanted. -/
def mismatch (s : Setting) (expected : String) : SettingFault :=
  .mismatch (s.found "64-bit integer") expected none s.origin?

/-! ### Single values -/

/-- The truth value that a word means. -/
def wordFlag? : String → Option Bool
  | "true" | "on" | "yes" => some true
  | "false" | "off" | "no" => some false
  | _ => none

/-- Reads a truth value. -/
def readFlag : Setting → Except SettingFault Bool
  | flag _ b => .ok b
  | int _ i => .ok (i != 0)
  | float _ x => .ok (!x.isZero)
  | text o s =>
    let word := Text.lower s
    match wordFlag? word with
    | some b => .ok b
    | none =>
      if word == "1" then .ok true
      else if word == "0" then .ok false
      else .error ((text o word).mismatch "a boolean")
  | s => .error (s.mismatch "a boolean")

/-- The natural number of 64 bits that a text means. -/
def natural? (s : String) : Option UInt64 :=
  let ds := match s.toList with
    | '+' :: ds => ds
    | ds => ds
  if ds.isEmpty || !ds.all Char.isDigit then none
  else
    let n := Decimal.digitsToNat ds
    if n < UInt64.size then some (.ofNat n) else none

/-- Reads a natural number of 64 bits. -/
def readCount : Setting → Except SettingFault UInt64
  | int o i =>
    if 0 ≤ i then .ok (.ofNat i.toNat)
    else .error ((int o i).mismatch "an unsigned 64 bit or less integer")
  | flag _ b => .ok (if b then 1 else 0)
  | float _ x => .ok (.ofNat (x.roundWithin 0 (UInt64.size - 1)).toNat)
  | text o s =>
    match wordFlag? (Text.lower s), natural? s with
    | some b, _ => .ok (if b then 1 else 0)
    | none, some n => .ok n
    | none, none => .error ((text o s).mismatch "an integer")
  | s => .error (s.mismatch "an integer")

/-- Reads a text. -/
def readText : Setting → Except SettingFault String
  | text _ s => .ok s
  | flag _ b => .ok (if b then "true" else "false")
  | int _ i => .ok (toString i)
  | float _ x => .ok (Decimal.Layout.positional.render x)
  | s => .error (s.mismatch "a string")

/-- Reads a text that may be left out. -/
def readOptionalText : Setting → Except SettingFault (Option String)
  | nothing _ => .ok none
  | s => s.readText.map some

/-- Reads a choice among names, which count without regard to case: a name, or a table whose only
key is one. -/
def readChoice (choice : String) (known : List (String × α)) (s : Setting) :
    Except SettingFault α :=
  let pick (name : String) : Except SettingFault α :=
    match known.find? fun k => Text.lower k.1 == Text.lower name with
    | some k => .ok k.2
    | none => .error (.misshapen
        ("enum " ++ choice ++ " does not have variant constructor " ++ name))
  match s with
  | text _ name => pick name
  | table _ [(name, _)] => pick name
  | _ => .error (.misshapen ("value of enum " ++ choice ++
      " should be represented by either string or table with exactly one key"))

/-- Reads a table of texts. -/
def readTexts : Setting → Except SettingFault (Dictionary String String)
  | table _ entries => do
    let entries ← entries.mapM fun e => do
      let s ← (e.2.readText).mapError (.atKey e.1)
      pure (e.1, s)
    pure (.ofList entries)
  | s => .error (.misshapen ("invalid type: " ++ s.found "integer" ++ ", expected a map"))

/-! ### Records -/

/-- A part of a record of settings: its name and how a value is put into the record. -/
structure Slot (α : Type) where
  name : String
  fill : Setting → α → Except SettingFault α

/-- The part of a record that a reader and a setter make. -/
def Slot.of (name : String) (read : Setting → Except SettingFault β) (set : α → β → α) : Slot α :=
  ⟨name, fun s a => (read s).map (set a)⟩

/-- Puts the entries of a table into a record; other keys are passed over. -/
def fillEntries (slots : List (Slot α)) : List (String × Setting) → α → Except SettingFault α
  | [], a => .ok a
  | (key, v) :: rest, a =>
    match slots.find? fun s => s.name == key with
    | some s => do
      let a ← (s.fill v a).mapError (.atKey key)
      fillEntries slots rest a
    | none => fillEntries slots rest a

/-- Puts the items of a list into the parts of a record, one after another. -/
def fillItems : List (Slot α) → List Setting → Nat → α → Except SettingFault α
  | s :: slots, v :: rest, place, a => do
    let a ← (s.fill v a).mapError (.atItem place)
    fillItems slots rest (place + 1) a
  | _, _, _, a => .ok a

/-- Reads a record from a table or from a list of its parts; what is not given is as it is at the
start. -/
def readRecord (name : String) (start : α) (slots : List (Slot α)) :
    Setting → Except SettingFault α
  | table _ entries => fillEntries slots entries start
  | list _ items => fillItems slots items 0 start
  | s => .error (.misshapen ("invalid type: " ++ s.found "integer" ++ ", expected struct " ++ name))

end Setting

/-! ### The settings of the program -/

namespace Settings

open Setting

/-- Reads how the message broker is reached. -/
def readBroker : Setting → Except SettingFault BrokerSettings :=
  readRecord "PulsarRpcConfig" {} [
    .of "service_url" readText fun s v => { s with serviceUrl := v },
    .of "auth_plugin" readText fun s v => { s with authPlugin := v },
    .of "auth_params" readText fun s v => { s with authParams := v }]

/-- Reads how the controller works. -/
def readController : Setting → Except SettingFault ControllerSettings :=
  readRecord "ControllerConfig" {} [
    .of "workers" readCount fun s v => { s with workers := v },
    .of "base_retry_delay_ms" readCount fun s v => { s with baseRetryDelayMs := v },
    .of "max_retry_delay_ms" readCount fun s v => { s with maxRetryDelayMs := v },
    .of "reconcile_timeout_secs" readCount fun s v => { s with reconcileTimeoutSecs := v },
    .of "resync_interval_secs" readCount fun s v => { s with resyncIntervalSecs := v }]

/-- Reads where records are kept. -/
def readBackend : Setting → Except SettingFault StoreBackend :=
  readChoice "StoreBackend" ([StoreBackend.memory, .durable].map fun b => (b.text, b))

/-- Reads where and how records are kept. -/
def readStore : Setting → Except SettingFault StoreSettings :=
  readRecord "StoreConfig" {} [
    .of "backend" readBackend fun s v => { s with backend := v },
    .of "path" readOptionalText fun s v => { s with path := v }]

/-- Reads what is logged, and where to. -/
def readLog : Setting → Except SettingFault LogSettings :=
  readRecord "LoggingConfig" {} [
    .of "enabled" readFlag fun s v => { s with enabled := v },
    .of "level" readText fun s v => { s with level := v },
    .of "format" readText fun s v => { s with format := v },
    .of "output" readText fun s v => { s with output := v },
    .of "file" readOptionalText fun s v => { s with file := v },
    .of "color" readFlag fun s v => { s with color := v },
    .of "modules" readTexts fun s v => { s with modules := v }]

/-- Reads all settings. -/
def ofSetting : Setting → Except SettingFault Settings :=
  readRecord "OperatorConfig" {} [
    .of "pulsar" readBroker fun s v => { s with broker := v },
    .of "controller" readController fun s v => { s with controller := v },
    .of "store" readStore fun s v => { s with store := v },
    .of "logging" readLog fun s v => { s with log := v }]

end Settings

end ControlPlane
