import ProxyLog.Text.Digit

/-!
# Arguments of the command

The command takes the names of log files, all in one place, and at most one configuration file by
`-c FILE` or `--config FILE`, the long name also shortened, with the file also behind an equals
sign or directly behind the short name. Behind `--` everything is the name of a file. A question about
the command, `-h` or `--help`, may have more short options in the same argument.

* `Argument`: what a single argument can be; `Argument.ofText?` tells.
* `Arguments`: the configuration file and the log files.
* `Arguments.read args`: the arguments of the command, or why there is nothing to do.
-/

set_option autoImplicit false

namespace ProxyLog.Report

/-! ## Single arguments -/

/-- What a single argument can be. -/
inductive Argument
  /-- The name of a file. -/
  | operand (name : String)
  /-- The option for the configuration file, maybe with the file. -/
  | config (file : Option String)
  /-- A question about the command. -/
  | help
  /-- A question and, in the same argument, the option for the configuration file, which follows. -/
  | helpBeforeConfig
  /-- A question with a value, which it cannot have. -/
  | helpWithValue
  /-- An option that there is not. -/
  | unknown
  /-- What makes everything behind it the name of a file. -/
  | divider
  deriving DecidableEq, Repr

/-- A negative number, with or without a decimal point. -/
def isNegativeNumber (cs : List Char) : Bool :=
  match cs with
  | '-' :: rest =>
    let body := if rest.getLast? = some '\n' then rest.dropLast else rest
    let isDigit := fun c => (Text.digitValue? c).isSome
    match body.dropWhile isDigit with
    | [] => !body.isEmpty
    | '.' :: places => !places.isEmpty && places.all isDigit
    | _ => false
  | _ => false

/-- An argument that starts with a hyphen and is no known option: the name of a file if it is a
negative number or has a space. -/
def otherOption (arg : String) : Argument :=
  if isNegativeNumber arg.toList || arg.toList.contains ' ' then .operand arg else .unknown

/-- An argument that starts with two hyphens; none if it may be several options. -/
def longOption? (arg : String) : Option Argument :=
  let name := String.ofList (arg.toList.takeWhile (· ≠ '='))
  let value := (arg.toList.dropWhile (· ≠ '=')).tail?.map String.ofList
  let isConfig := "--config".startsWith name
  let isHelp := "--help".startsWith name
  if isConfig && isHelp then none
  else if isConfig then some (.config value)
  else if isHelp then some (if value.isSome then .helpWithValue else .help)
  else some (otherOption arg)

/-- A question about the command with what follows it in the same argument: more questions, and perhaps
the option for the configuration file with the file. -/
def questionWith : List Char → Argument
  | [] => .help
  | 'h' :: rest => questionWith rest
  | ['c'] => .helpBeforeConfig
  | 'c' :: _ => .help
  | _ => .helpWithValue

/-- An argument that starts with one hyphen and something else. -/
def shortOption (arg : String) : Argument :=
  match arg.toList with
  | ['-', 'c'] => .config none
  | '-' :: 'c' :: '=' :: value => .config (some (String.ofList value))
  | '-' :: 'c' :: value => .config (some (String.ofList value))
  | ['-', 'h', '='] => .helpWithValue
  | '-' :: 'h' :: '=' :: rest => questionWith rest
  | '-' :: 'h' :: rest => questionWith rest
  | _ => otherOption arg

/-- What an argument in front of `--` is; none if it may be several options. -/
def Argument.ofText? (arg : String) : Option Argument :=
  match arg.toList with
  | '-' :: '-' :: rest => if rest.isEmpty then some .divider else longOption? arg
  | '-' :: _ :: _ => some (shortOption arg)
  | _ => some (.operand arg)

/-- What the arguments are, one by one. -/
def classify : List String → Option (List Argument)
  | [] => some []
  | arg :: rest => do
    match ← Argument.ofText? arg with
    | .divider => pure (.divider :: rest.map .operand)
    | a => pure (a :: (← classify rest))

/-! ## All arguments -/

/-- Why the arguments ask for no report. -/
inductive ArgumentFault
  | misused
  | helpAsked
  deriving DecidableEq, Repr

structure Arguments where
  config : Option String
  files : List String
  deriving DecidableEq, Repr

/-- The configuration file that an option has in the same argument; `--` there means none. -/
def attachedFile (value : String) : Option String := if value = "--" then none else some value

def Argument.name? : Argument → Option String
  | .operand name => some name
  | _ => none

/-- What was read of the arguments. -/
structure ArgumentReading where
  config : Option String
  /-- The first run of files. -/
  files : Option (List String)
  /-- The files of the present run and the divider among them, last first. -/
  run : List Argument
  /-- There were arguments too many. -/
  excess : Bool

namespace ArgumentReading

def start : ArgumentReading := ⟨none, none, [], false⟩

/-- A run of files ends; the command takes only one. -/
def endRun (s : ArgumentReading) : ArgumentReading :=
  if s.run.isEmpty then s
  else if s.files.isSome then { s with run := [], excess := true }
  else { s with run := [], files := some (s.run.reverse.filterMap Argument.name?) }

/-- Reads arguments in order. -/
def readAll (s : ArgumentReading) : List Argument → Except ArgumentFault ArgumentReading
  | [] => .ok s.endRun
  | .config none :: .operand name :: rest => { s.endRun with config := some name }.readAll rest
  | .config none :: _ => .error .misused
  | .config (some file) :: rest => { s.endRun with config := attachedFile file }.readAll rest
  | .helpBeforeConfig :: .operand _ :: _ => .error .helpAsked
  | .helpBeforeConfig :: _ => .error .misused
  | .help :: _ => .error .helpAsked
  | .helpWithValue :: _ => .error .misused
  | .unknown :: rest => { s.endRun with excess := true }.readAll rest
  | a :: rest => { s with run := a :: s.run }.readAll rest

end ArgumentReading

def Arguments.read (args : List String) : Except ArgumentFault Arguments :=
  match classify args with
  | none => .error .misused
  | some arguments => do
    let s ← ArgumentReading.start.readAll arguments
    if s.excess then .error .misused else pure ⟨s.config, s.files.getD []⟩

end ProxyLog.Report
