import ProxyLog.Config.Level
import ProxyLog.Config.Source
import ProxyLog.Log.File
import ProxyLog.Report.Arguments
import ProxyLog.Report.Description
import ProxyLog.Report.Help
import ProxyLog.Report.Sample

/-!
# Running the command

* `Exit`: how a run ends; `Exit.code` is its status.
* `Run`: the output of a run, its notices and its end.
* `run read program args env d`: the run of the command under some name, with some arguments, in an
  environment, on some files, with a reader of configuration files.
-/

set_option autoImplicit false

namespace ProxyLog.Report

open File (Directory)

/-! ## Ends -/

/-- What breaks a run off. -/
inductive RunFault
  | config (fault : ConfigFault)
  | level (fault : LevelFault)
  | file (fault : LogFileFault)

def RunFault.message : RunFault → String
  | .config fault => fault.message
  | .level fault => fault.message
  | .file fault => fault.message

/-- How a run ends. -/
inductive Exit
  | done
  /-- The command was not used as it should be, or only asked about. -/
  | notStarted (fault : ArgumentFault)
  /-- A file was missing or no log, which was noticed. -/
  | refused
  | failed (fault : RunFault)

def Exit.code : Exit → UInt8
  | .done | .notStarted .helpAsked => 0
  | .notStarted .misused => 2
  | .refused | .failed _ => 1

/-- The output of a run, line by line, its notices and its end. -/
structure Run where
  lines : List String
  notices : List Notice
  exit : Exit

namespace Run

def output (r : Run) : String := String.join (r.lines.map (· ++ "\n"))

/-- Some output and notices in front of the rest of a run. -/
def after (lines : List String) (notices : List Notice) (rest : Run) : Run :=
  ⟨lines ++ rest.lines, notices ++ rest.notices, rest.exit⟩

def ended (exit : Exit) : Run := ⟨[], [], exit⟩

end Run

/-! ## Reports -/

def banner : List String :=
  let rule := String.ofList (List.replicate 60 '=')
  [rule, "Varnishlog Parser — Demo", rule]

/-- A missing file and a log with a fault are noticed; anything else breaks the run off. -/
def endOfFault (fault : LogFileFault) : Run :=
  match fault with
  | .file (.absent _) | .log (.malformed _) => Run.after [] [.fileRefused fault.message] (.ended .refused)
  | _ => .ended (.failed (.file fault))

/-- A log and the rest of the run behind it. -/
def reportLog {ε : Type} (settings : Settings) (log : Outcome ε TransactionSet) (bad : ε → Run)
    (rest : Run) : Run :=
  match log.result with
  | .error fault => Run.after [] log.notices (bad fault)
  | .ok ts =>
    rest.after (describe ts settings.includeSessions)
      (log.notices ++ describeRemarks ts settings.includeSessions)

/-- Reports on files one after another. -/
def reportFiles (d : Directory) (settings : Settings) : List String → Run
  | [] => .ended .done
  | path :: rest =>
    Run.after ["", "Parsing file: " ++ path] []
      (reportLog settings (readLogFile d path settings) endOfFault (reportFiles d settings rest))

def reportSample (settings : Settings) : Run :=
  reportLog settings (readText settings.maxDepth sampleLog) (fun e => .ended (.failed (.file (.log e))))
    (.ended .done)

/-- The run with some arguments, once there are settings. -/
def runWith (d : Directory) (settings : Settings) (files : List String) : Run :=
  match levelOf settings.logLevel with
  | .error fault => .ended (.failed (.level fault))
  | .ok _ =>
    Run.after banner [] (if files.isEmpty then reportSample settings else reportFiles d settings files)

/-- A run without a report: the command is told about if it was asked about. -/
def runWithoutReport (program : String) (fault : ArgumentFault) : Run :=
  match fault with
  | .misused => .ended (.notStarted .misused)
  | .helpAsked => Run.after (helpLines program) [] (.ended (.notStarted .helpAsked))

/-- The run of the command under the name `program`. -/
def run (read : Yaml.Reader) (program : String) (args : List String) (env : Environment) (d : Directory) : Run :=
  match Arguments.read args with
  | .error fault => runWithoutReport program fault
  | .ok arguments =>
    let settings := loadSettings read d env arguments.config
    Run.after [] settings.notices
      (match settings.result with
      | .error fault => .ended (.failed (.config fault))
      | .ok settings => runWith d settings arguments.files)

end ProxyLog.Report
