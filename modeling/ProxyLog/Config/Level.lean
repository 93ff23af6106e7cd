import ProxyLog.Log.Notice

/-!
# Levels of the message log

A level is asked for by name. Most names that stand for no level are passed over; some belong to
other things of the message log, which are not passed over but refused, or count as a number.

* `messageForm`: the form of a line of the message log.
* `NameMeaning`, `meaningOf name`: what a name stands for.
* `levelOf name`: the number of a level.
* `Notice.isShown level n`: whether a notice is written to the log at some level.
-/

set_option autoImplicit false

namespace ProxyLog

/-- The form of a line of the message log. -/
def messageForm : String := "%(asctime)s [VSL] %(levelname)s %(message)s"

/-! ## Names -/

def levelNames : List (String × Int) := [
  ("NOTSET", 0), ("DEBUG", 10), ("INFO", 20), ("WARN", 30), ("WARNING", 30), ("ERROR", 40),
  ("FATAL", 50), ("CRITICAL", 50)]

/-- The switches of the message log. All are on, and one that is on counts as a one. -/
def switchNames : List String := ["raiseExceptions", "logThreads", "logProcesses", "logMultiprocessing"]

/-- The texts that have a name: the form of a line unless it is said otherwise, and what the message
log says about itself. -/
def textNames : List (String × String) := [
  ("BASIC_FORMAT", "%(levelname)s:%(name)s:%(message)s"), ("__name__", "logging"),
  ("__package__", "logging"), ("__status__", "production"), ("__version__", "0.5.1.2"),
  ("__date__", "07 February 2010")]

/-- The kinds of things in the message log that go by their own name. -/
def kindNames : List String := [
  "BufferingFormatter", "FileHandler", "Filter", "Filterer", "Formatter", "Handler", "LogRecord",
  "Logger", "LoggerAdapter", "Manager", "NullHandler", "PercentStyle", "PlaceHolder", "RootLogger",
  "StrFormatStyle", "StreamHandler", "StringTemplateStyle", "_StderrHandler"]

def shownKind (name : String) : String := s!"<class '{name}'>"

def shownTable (entries : List (String × String)) : String :=
  "\x7b" ++ ", ".intercalate (entries.map fun (key, value) => s!"{key}: {value}") ++ "\x7d"

/-- The styles of a line as they are shown: each with its sign, its kind and its form. -/
def shownStyles : String :=
  let style (sign kind form : String) : String × String :=
    (Text.quote sign, s!"({shownKind kind}, {Text.quote form})")
  shownTable [
    style "%" "logging.PercentStyle" "%(levelname)s:%(name)s:%(message)s",
    style "\x7b" "logging.StrFormatStyle" "\x7blevelname\x7d:\x7bname\x7d:\x7bmessage\x7d",
    style "$" "logging.StringTemplateStyle" "$\x7blevelname\x7d:$\x7bname\x7d:$\x7bmessage\x7d"]

def shownNumbers : String :=
  shownTable ([50, 40, 30, 20, 10, 0].zip ["CRITICAL", "ERROR", "WARNING", "INFO", "DEBUG", "NOTSET"] |>.map
    fun (number, name) => (toString (number : Nat), Text.quote name))

/-- The levels by name, as they are shown: from the gravest on. -/
def shownNames : String :=
  shownTable (["CRITICAL", "FATAL", "ERROR", "WARN", "WARNING", "INFO", "DEBUG", "NOTSET"].map fun name =>
    (Text.quote name, toString ((levelNames.lookup name).getD 0)))

def shownThings : List (String × String) := [
  ("Template", shownKind "string.Template"), ("GenericAlias", shownKind "types.GenericAlias"),
  ("_loggerClass", shownKind "logging.Logger"), ("_logRecordFactory", shownKind "logging.LogRecord"),
  ("__class__", shownKind "module"), ("root", "<RootLogger root (WARNING)>"), ("_STYLES", shownStyles),
  ("_levelToName", shownNumbers), ("_nameToLevel", shownNames),
  ("lastResort", "<_StderrHandler <stderr> (WARNING)>"),
  ("_defaultLastResort", "<_StderrHandler <stderr> (WARNING)>"),
  ("atexit", "<module 'atexit' (built-in)>"), ("sys", "<module 'sys' (built-in)>"),
  ("time", "<module 'time' (built-in)>"), ("io", "<module 'io' (frozen)>"), ("os", "<module 'os' (frozen)>")]

/-- What a name stands for in the message log. -/
inductive NameMeaning
  | number (n : Int)
  /-- Nothing is said about the level. -/
  | silent
  | text (s : String)
  /-- Something that is neither number nor text, as it is shown. -/
  | thing (shown : String)
  deriving DecidableEq, Repr

/-- What a name stands for; one without a meaning stands for `INFO`. -/
def meaningOf (name : String) : NameMeaning :=
  match levelNames.lookup name, textNames.lookup name, shownThings.lookup name with
  | some n, _, _ => .number n
  | none, some s, _ => .text s
  | none, none, some shown => .thing shown
  | none, none, none =>
    if switchNames.contains name then .number 1
    else if kindNames.contains name then .thing (shownKind ("logging." ++ name))
    else if name = "_warnings_showwarning" then .silent
    else .number 20

/-! ## Levels -/

/-- A name that stands for something else than a level. -/
inductive LevelFault
  | text (s : String)
  | thing (shown : String)
  deriving DecidableEq, Repr

def LevelFault.message : LevelFault → String
  | text s => "Unknown level: " ++ Text.quote s
  | thing shown => "Level not an integer or a valid string: " ++ shown

/-- The level of the message log unless something is said about it. -/
def presentLevel : Int := 30

/-- The number of the level that a name asks for. -/
def levelOf (name : String) : Except LevelFault Int :=
  match meaningOf name with
  | .number n => .ok n
  | .silent => .ok presentLevel
  | .text s => .error (.text s)
  | .thing shown => .error (.thing shown)

/-- A notice is written if it is at least as grave as the level. -/
def Notice.isShown (level : Int) (n : Notice) : Bool :=
  level ≤ (levelNames.lookup n.severity.name).getD 0

end ProxyLog
