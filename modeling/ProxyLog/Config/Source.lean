import ProxyLog.Config.Settings
import ProxyLog.File.Directory
import ProxyLog.Log.Outcome
import ProxyLog.Text.Encoding
import ProxyLog.Text.Lines

/-!
# Configuration files

The notation of configuration files is that of whatever reader is given.

* `ConfigFault`: why there are no settings; `ConfigFault.kind` is what that is raised as, and `ConfigFault.message`
  what is said about it.
* `readEntries read d path`: the mapping in a configuration file.
* `loadSettings read d env path`: the settings from a configuration file and the environment.
-/

set_option autoImplicit false

namespace ProxyLog

open File (Directory)

/-- Why there are no settings. -/
inductive ConfigFault
  /-- The path leads to a folder. -/
  | isFolder (path : String)
  /-- The path goes on behind a file. -/
  | notFolder (path : String)
  /-- The path is too long. -/
  | pathTooLong (path : String)
  /-- The path holds the null character. -/
  | nullInPath
  /-- The file is no text. -/
  | undecodable (fault : Text.DecodeError)
  /-- The text breaks the notation. -/
  | malformed (path : String)
  /-- Something that the reader raised and nobody caught. -/
  | escaped (raised : Raised)
  /-- The document is no mapping. -/
  | notMapping (path : String)
  /-- A value does not fit its setting. -/
  | setting (fault : SettingFault)
  deriving DecidableEq, Repr

def ConfigFault.kind : ConfigFault → FaultKind
  | .isFolder _ | .notFolder _ | .pathTooLong _ => .platform
  | .nullInPath | .undecodable _ | .malformed _ | .notMapping _ => .value
  | .escaped raised => raised.kind
  | .setting fault => fault.kind

def ConfigFault.message : ConfigFault → String
  | .isFolder path => "[Errno 21] Is a directory: " ++ Text.quote path
  | .notFolder path => "[Errno 20] Not a directory: " ++ Text.quote path
  | .pathTooLong path => "[Errno 36] File name too long: " ++ Text.quote path
  | .nullInPath => "embedded null byte"
  | .undecodable fault => fault.message
  | .malformed path => "invalid YAML in config file " ++ path
  | .escaped raised => raised.message
  | .notMapping path => s!"config file {path} must contain a mapping"
  | .setting fault => fault.message

/-- A configuration file is read in blocks of so many octets. -/
def blockSize : Nat := 8192

/-- How many octets from a fault on show that it is one. The second half of a pair in the wide form,
which begins with `ed`, is told only by its third octet; a truncated character, by the end of the
file. -/
def octetsToTell (octets : List UInt8) (fault : Text.Utf8.FaultAt) : Nat :=
  match fault.fault with
  | .badStart => 1
  | .badContinuation =>
    let halfOfPair := match octets.drop fault.start with
      | 0xED :: second :: _ => fault.size == 1 && Text.Utf8.isTail second
      | _ => false
    if halfOfPair then 3 else fault.size + 1
  | .truncated => octets.length + 1

/-- Where the block begins in which a fault is told: at a multiple of the block size, or at the start
of the character that lies across it. What is undecided at the end of the file is a block of its
own. -/
def blockStart (octets : List UInt8) (fault : Text.Utf8.FaultAt) : Nat :=
  let told := fault.start + octetsToTell octets fault
  let edge := (told - 1) / blockSize * blockSize
  if octets.length < told ∨ fault.start ≤ edge then fault.start
  else if (octets.drop edge).head?.any Text.Utf8.isTail then
    edge - (((octets.take edge).reverse.takeWhile Text.Utf8.isTail).length + 1)
  else edge

/-- The text of a configuration file, in which every line end counts as one line feed. A fault is placed by its
distance from the start of its block. -/
def configText (octets : List UInt8) : Except ConfigFault String :=
  match Text.Encoding.decode .utf8 octets with
  | .ok cs => .ok (String.ofList (Text.joinLineEnds cs))
  | .error (.utf8 fault first) =>
    let place := fault.start - blockStart octets fault
    .error (.undecodable (.utf8 { fault with start := place } first))
  | .error fault => .error (.undecodable fault)

variable (read : Yaml.Reader)

/-- The mapping in the text of a configuration file. A document that says nothing counts as an
empty one. Of the faults of the reader only one is caught. -/
def entriesOfText (path text : String) : Except ConfigFault Entries :=
  match read text with
  | .error .malformed => .error (.malformed path)
  | .error (.escaped raised) => .error (.escaped raised)
  | .ok (.mapping entries) => .ok entries
  | .ok value => if value.isFalsy then .ok [] else .error (.notMapping path)

/-- The mapping in a configuration file; an empty one if there is none. -/
def readEntries (d : Directory) (path : Option String) : Outcome ConfigFault Entries :=
  match path with
  | none | some "" => pure []
  | some path =>
    match d.resolve path with
    | .error .absent => do
      Outcome.note (.configAbsent path)
      pure []
    | .error .notFolder => .fail (.notFolder path)
    | .error .tooLong => .fail (.pathTooLong path)
    | .error .embeddedNull => .fail .nullInPath
    | .ok .folder => .fail (.isFolder path)
    | .ok (.file octets) => do
      let text ← Outcome.ofExcept (configText octets)
      let entries ← Outcome.ofExcept (entriesOfText read path text)
      Outcome.note (.configRead path)
      pure entries

/-- The settings of a run. The environment may name another configuration file. -/
def loadSettings (d : Directory) (env : Environment) (path : Option String) :
    Outcome ConfigFault Settings := do
  let entries ← readEntries read d ((env.get? "CONFIG_PATH").or path)
  (⟨keyRemarks entries, .ok ()⟩ : Outcome ConfigFault Unit)
  Outcome.ofExcept ((Settings.ofEntries entries env).mapError .setting)

end ProxyLog
