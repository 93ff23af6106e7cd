import ProxyLog.Report.Run
import ProxyLog.Yaml.Document

/-!
# The command

Reports on log files, or on a sample log when none is named:

```
report [-c CONFIG] [FILE ...]
```

The report goes to standard output, notices and faults go to standard error. Everything but reading
files and variables is `ProxyLog.Report.run`.
-/

set_option autoImplicit false

namespace ProxyLog.Main

def programName : String := "report"

/-- What a path leads to. -/
def itemAt (path : String) : IO (Option File.Item) := do
  try
    return some (.file (← IO.FS.readBinFile path).toList)
  catch
    | .noFileOrDirectory .. => return none
    | _ => return some .folder

/-- The beginnings of a path up to a slash, and the path itself at the end. -/
def beginningsOf (path : String) : List String :=
  let parts := path.splitOn "/"
  (List.range parts.length).map fun n => "/".intercalate (parts.take (n + 1))

/-- What some paths lead to and lead through. -/
def directoryOf (paths : List String) : IO File.Directory := do
  let beginnings := (paths.flatMap beginningsOf).eraseDups
  let items ← beginnings.filterMapM fun path => do return (← itemAt path).map (path, ·)
  return ⟨items⟩

/-- The variables that the command looks at. -/
def variableNames : List String :=
  ["CONFIG_PATH", "VSL_LOG_LEVEL", "VSL_MAX_PARENT_DEPTH", "VSL_ENCODING", "VSL_INCLUDE_SESSIONS"]

/-- The environment of the command. -/
def environment : IO Environment := do
  let bindings ← variableNames.filterMapM fun name => do return (← IO.getEnv name).map (name, ·)
  return ⟨bindings⟩

/-- The paths that a run may read. -/
def pathsOf (args : List String) (env : Environment) : List String :=
  match Report.Arguments.read args with
  | .error _ => []
  | .ok arguments => (env.get? "CONFIG_PATH").toList ++ arguments.config.toList ++ arguments.files

/-- The level of the message log in a run. -/
def levelIn (d : File.Directory) (args : List String) (env : Environment) : Int :=
  match Report.Arguments.read args with
  | .error _ => 0
  | .ok arguments =>
    match (loadSettings Yaml.read d env arguments.config).result with
    | .error _ => 0
    | .ok settings => (levelOf settings.logLevel).toOption.getD 0

def noticeLine (n : Notice) : String := s!"[VSL] {n.severity.name} {n.message}"

end ProxyLog.Main

open ProxyLog ProxyLog.Main in
def main (args : List String) : IO UInt32 := do
  let env ← environment
  let d ← directoryOf (pathsOf args env)
  let r := Report.run Yaml.read programName args env d
  IO.print r.output
  for n in r.notices do
    if n.isShown (levelIn d args env) then IO.eprintln (noticeLine n)
  match r.exit with
  | .failed fault => IO.eprintln fault.message
  | .notStarted .misused => IO.eprintln (Report.usageLine programName)
  | _ => pure ()
  return r.exit.code.toUInt32
