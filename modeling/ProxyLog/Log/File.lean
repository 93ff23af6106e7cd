import ProxyLog.Config.Settings
import ProxyLog.File.Contents
import ProxyLog.Log.Reading

/-!
# Log files

* `LogFileFault`: why a log file has no transactions.
* `readLogFile d path settings`: the transactions of a log file.
-/

set_option autoImplicit false

namespace ProxyLog

open File (Directory FileFault)

/-- Why a log file has no transactions. -/
inductive LogFileFault
  /-- The file has no text. -/
  | file (fault : FileFault)
  /-- The text is no log. -/
  | log (failure : Failure)

def LogFileFault.message : LogFileFault → String
  | .file fault => fault.message
  | .log failure => failure.message

/-- The transactions of a log file. -/
def readLogFile (d : Directory) (path : String) (settings : Settings) :
    Outcome LogFileFault TransactionSet := do
  let text ← Outcome.ofExcept ((File.contents d path settings.encoding).mapError .file)
  let ts ← (readText settings.maxDepth text).mapFault .log
  Outcome.note (.fileRead ts.size path)
  pure ts

end ProxyLog
