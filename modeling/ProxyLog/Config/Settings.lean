import ProxyLog.Log.Notice
import ProxyLog.Transaction.Set
import ProxyLog.Yaml.Value

/-!
# Settings

A setting comes from its environment variable, else from the configuration file, else it has its
default.

* `Settings`: the settings of a run; `Settings.initial` are the defaults.
* `Environment`: variables and their values.
* `Settings.ofEntries entries env`: the settings from a configuration mapping and the environment.
* `textOf`, `integerOf`, `booleanOf`: the conversions of values.
* `SettingFault`: why a value does not fit its setting; `SettingFault.kind` is what that is raised as.
-/

set_option autoImplicit false

namespace ProxyLog

open Yaml (Value)

structure Settings where
  logLevel : String
  maxDepth : Int
  encoding : Value
  includeSessions : Bool

namespace Settings

/-- The settings that hold unless something else is said. -/
def initial : Settings := ⟨"INFO", defaultDepth, .text "utf-8", true⟩

end Settings

/-! ## Environment -/

structure Environment where
  bindings : List (String × String)

def Environment.get? (env : Environment) (name : String) : Option String := env.bindings.lookup name

/-! ## Values of settings -/

/-- Why a value does not fit its setting. -/
inductive SettingFault
  /-- An integer that is too long to be written as a text. -/
  | unwritable
  /-- A text that writes no integer. -/
  | notInteger (fault : Number.IntegerFault)
  /-- A value of a type that has no integer. -/
  | noNumber (typeName : String)
  /-- The number that is none. -/
  | undefined
  /-- An infinite number. -/
  | infinite
  /-- What a value of another type raises when it is asked for an integer. -/
  | foreign (raised : Raised)
  /-- A value that is no truth value, as it is shown. -/
  | notBoolean (shown : String)
  deriving DecidableEq, Repr

def SettingFault.kind : SettingFault → FaultKind
  | .unwritable | .notInteger _ | .undefined | .notBoolean _ => .value
  | .noNumber _ => .type
  | .infinite => .overflow
  | .foreign raised => raised.kind

def SettingFault.message : SettingFault → String
  | .unwritable => Number.unwritableMessage
  | .notInteger fault => fault.message
  | .noNumber typeName => Yaml.noIntegerMessage typeName
  | .undefined => "cannot convert float NaN to integer"
  | .infinite => "cannot convert float infinity to integer"
  | .foreign raised => raised.message
  | .notBoolean shown => "invalid boolean value " ++ shown

/-- The text that a value stands for. -/
def textOf (v : Value) : Except SettingFault String :=
  if v.hasLongInteger then .error .unwritable else .ok v.plain

/-- The integer that a value stands for: truth values count as one and zero, numbers lose their
fraction, and texts are read. -/
def integerOf : Value → Except SettingFault Int
  | .bool b => .ok (if b then 1 else 0)
  | .int n => .ok n
  | .float (.finite negative mantissa exponent) => .ok (Number.Binary64.truncate negative mantissa exponent)
  | .float (.infinite _) => .error .infinite
  | .float .nan => .error .undefined
  | .text s => (Number.readInteger s).mapError .notInteger
  | .foreign v => v.integer.mapError .foreign
  | value => .error (.noNumber value.typeName)

def trueWords : List String := ["1", "true", "yes", "on"]

def falseWords : List String := ["0", "false", "no", "off"]

/-- The truth value that a value stands for, by itself or by a word in any case. -/
def booleanOf : Value → Except SettingFault Bool
  | .bool b => .ok b
  | value => do
    let word := Text.toLower (Text.strip (← textOf value))
    if trueWords.contains word then .ok true
    else if falseWords.contains word then .ok false
    else .error (.notBoolean value.shown)

/-! ## Settings from all sources -/

/-- The entries of a configuration file. -/
abbrev Entries := List (Value × Value)

/-- The value of a key. -/
def valueAt? (entries : Entries) (key : String) : Option Value :=
  (entries.find? fun e => Value.sameKey e.1 (.text key)).map (·.2)

/-- A setting as it is given: by its variable, by its key, or by default. -/
def given (entries : Entries) (env : Environment) (key variableName : String) (default : Value) : Value :=
  match env.get? variableName with
  | some s => .text s
  | none => (valueAt? entries key).getD default

def Settings.ofEntries (entries : Entries) (env : Environment) : Except SettingFault Settings := do
  let logLevel ← textOf (given entries env "log_level" "VSL_LOG_LEVEL" (.text initial.logLevel))
  let maxDepth ←
    integerOf (given entries env "max_parent_depth" "VSL_MAX_PARENT_DEPTH" (.int initial.maxDepth))
  let encoding := given entries env "encoding" "VSL_ENCODING" initial.encoding
  let includeSessions ←
    booleanOf (given entries env "include_sessions" "VSL_INCLUDE_SESSIONS" (.bool initial.includeSessions))
  pure ⟨Text.toUpper logLevel, maxDepth, encoding, includeSessions⟩

/-! ## Keys -/

def knownKeys : List String := ["log_level", "max_parent_depth", "encoding", "include_sessions"]

def isKnownKey : Value → Bool
  | .text s => knownKeys.contains s
  | _ => false

/-- What is noticed about the keys of a configuration mapping. -/
def keyRemarks (entries : Entries) : List Notice :=
  ((entries.map (·.1)).filter (!isKnownKey ·)).map fun key => .unknownSetting key.shown

end ProxyLog
