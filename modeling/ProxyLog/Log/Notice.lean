import ProxyLog.Text.Quoted

/-!
# Notices

What the library remarks on while it works, besides its results.

* `Severity`: how grave a notice is; `Severity.name` is the word for it.
* `Notice`: the things that are noticed; `Notice.severity` and `Notice.message` say how each is
  reported.
-/

set_option autoImplicit false

namespace ProxyLog

/-- How grave a notice is. -/
inductive Severity
  | debug
  | info
  | warning
  | error
  deriving DecidableEq, Repr

def Severity.name : Severity → String
  | debug => "DEBUG"
  | info => "INFO"
  | warning => "WARNING"
  | error => "ERROR"

/-- Something worth a remark. -/
inductive Notice
  /-- A line has a tag without a grammar. -/
  | unknownTag (tag line : String)
  /-- A transaction links a child that it has linked before. -/
  | repeatedChild (child txid : String)
  /-- A header is unset before any processing and is not one that the proxy manages. -/
  | strayUnset (name txid : String)
  /-- A transaction was read to its end. -/
  | transactionRead (txid : String) (records : Nat)
  /-- A transaction takes the place of an earlier one with the same id. -/
  | transactionReplaced (vxid : Int) (txid : String)
  /-- A linked transaction is not in the log. -/
  | childAbsent (txid : String)
  /-- A parent is not in the log. -/
  | parentAbsent (parent : Int) (txid : String)
  /-- The way up to the root is longer than allowed. -/
  | possibleLoop (txid : String) (depth : Nat)
  /-- There is no configuration file. -/
  | configAbsent (path : String)
  /-- The configuration file was read. -/
  | configRead (path : String)
  /-- A key of the configuration file is none of the settings; the key is given as it is shown. -/
  | unknownSetting (key : String)
  /-- A log file was read. -/
  | fileRead (transactions : Nat) (path : String)
  /-- A log file was refused. -/
  | fileRefused (reason : String)
  deriving DecidableEq, Repr

namespace Notice

def severity : Notice → Severity
  | transactionRead .. | childAbsent .. | parentAbsent .. => .debug
  | configRead .. | fileRead .. => .info
  | fileRefused .. => .error
  | _ => .warning

def message : Notice → String
  | unknownTag tag line => s!"Unknown tag {Text.quote tag} on line {Text.quote line}"
  | repeatedChild child txid => s!"Duplicate child {child} linked from transaction {txid}"
  | strayUnset name txid => s!"Unset found for non-tracked header {name} in {txid}"
  | transactionRead txid records => s!"Parsed transaction {txid} with {records} records"
  | transactionReplaced vxid txid =>
    s!"Duplicate transaction vxid {vxid} ({txid}), replacing previous one"
  | childAbsent txid => s!"Linked transaction {txid} not found, using placeholder"
  | parentAbsent parent txid => s!"Parent {parent} of {txid} not in the log, treating it as root"
  | possibleLoop txid depth => s!"Possible loop detected at transaction {txid} - depth: {depth}"
  | configAbsent path => s!"Config file {path} not found, using defaults"
  | configRead path => s!"Loaded YAML config from {path}"
  | unknownSetting key => s!"Ignoring unknown config key {key}"
  | fileRead transactions path => s!"Parsed {transactions} transactions from {path}"
  | fileRefused reason => reason

end Notice

end ProxyLog
