import ProxyLog.Header.Name
import ProxyLog.Record.Fault

/-!
# Value grammars

Each tag has a grammar for its value, and most grammars serve several tags.

* `Grammar`: the grammars; `Grammar.family` is the family of the records that one makes.
* `Grammar.read g value`: the payload that a value says.
* `readInt`, `readVxid`, `readDuration`, `readInstant`, `readAddress`: the fields of a value.
-/

set_option autoImplicit false

namespace ProxyLog

/-! ## Fields -/

/-- The digits of a text that is nothing but digits, with at most one line feed behind them. -/
def plainDigits? (cs : List Char) : Option (List Char) :=
  let ds := dropFinalFeed cs
  if ds.isEmpty || !ds.all Text.isAsciiDigit then none else some ds

/-- The greatest transaction id, which has 32 bits. -/
def maxVxid : Nat := 0xffffffff

/-- The transaction id that a text writes. -/
def readVxid (s : String) : Except VxidFault Nat :=
  match plainDigits? s.toList with
  | none => .error (.notDecimal s)
  | some ds =>
    if ds.length > Number.digitLimit then .error (.tooManyDigits ds.length)
    else if Number.digitsValue ds > maxVxid then .error (.outOfRange s)
    else .ok (Number.digitsValue ds)

def readVxidField (s : String) : Except ValueFault Nat :=
  catching [.value] VxidFault.raised (fun fault => .field (.badVxid fault)) .escaped (readVxid s)

def readInt (what : String) (s : String) : Except ValueFault Int :=
  let (negative, body) := Number.takeSign s.toList
  match plainDigits? body with
  | none => .error (.field (.badField what))
  | some ds =>
    if ds.length > Number.digitLimit then .error (.tooManyDigits ds.length)
    else .ok (if negative then -(Number.digitsValue ds : Int) else Number.digitsValue ds)

/-- Reads a time of some sort, of whose faults the kinds are caught. -/
def readTime {τ : Type} (kinds : List FaultKind) (what : String) (time : Except TimeFault τ) : Except ValueFault τ :=
  catching kinds TimeFault.raised (fun _ => .field (.badField what)) .escaped time

def readDuration (what : String) (s : String) : Except ValueFault Duration :=
  readTime [.value, .overflow] what (Duration.ofText s)

/-- An instant is asked of the platform, which may refuse it. -/
def readInstant (what : String) (s : String) : Except ValueFault Instant :=
  readTime [.value, .overflow, .platform] what (Instant.ofText s)

/-- An address; all that can be wrong with one is that it is a bad value, which is caught. -/
def readAddress (what : String) (s : String) : Except ValueFault Net.Address :=
  match Net.Address.ofText? s with
  | some address => .ok address
  | none => .error (.field (.badAddress what))

def countFault {α : Type} : Except ValueFault α := .error (.field .wrongCount)

/-- Space or tab. -/
def isPadding (c : Char) : Bool := c == ' ' || c == '\t'

/-- The name in front of the first colon and the value behind it, without padding between them. -/
def splitAtColon (cs : List Char) : Option (List Char × List Char) :=
  match Net.cutFirst ':' cs with
  | (name, some value) =>
    some (Text.dropTrailing isPadding (name.dropWhile isPadding), value.dropWhile isPadding)
  | (_, none) => none

/-! ## Values -/

/-- A link: kind, number and reason, and for an ESI subrequest its level. -/
def readEdge (value : String) : Except ValueFault Edge :=
  match Text.words value with
  | [kind, vxid, reason] => do
    let vxid ← readVxidField vxid
    pure ⟨kind, vxid, reason, 0⟩
  | [kind, vxid, reason, level] => do
    let vxid ← readVxidField vxid
    if reason ≠ "esi" then throw (.field .notEsi)
    let level ← readInt "esi level" level
    pure ⟨kind, vxid, reason, level⟩
  | _ => countFault

/-- A header: name, colon and value. -/
def readHeader (direction : Direction) (value : String) : Except ValueFault HeaderLine :=
  match splitAtColon value.toList with
  | some (name, text) =>
    .ok ⟨String.ofList (canonicalChars name), String.ofList text, direction⟩
  | none => .error (.field .noSeparator)

def readTraffic (value : String) : Except ValueFault Traffic :=
  match Text.words value with
  | [a, b, c, d, e, f] => do
    pure ⟨← readInt "part[0]" a, ← readInt "part[1]" b, ← readInt "part[2]" c,
      ← readInt "part[3]" d, ← readInt "part[4]" e, ← readInt "part[5]" f⟩
  | _ => countFault

def readPipedTraffic (value : String) : Except ValueFault PipedTraffic :=
  match Text.words value with
  | [a, b, c, d] => do
    pure ⟨← readInt "part[0]" a, ← readInt "part[1]" b, ← readInt "part[2]" c, ← readInt "part[3]" d⟩
  | _ => countFault

/-- A timing: its label up to the colons, and three times. -/
def readTiming (value : String) : Except ValueFault Timing :=
  match Text.words value with
  | [label, time, sinceStart, sinceLast] => do
    let time ← readInstant "absolute time" time
    let sinceStart ← readDuration "since start" sinceStart
    let sinceLast ← readDuration "since last" sinceLast
    pure ⟨String.ofList (Text.dropTrailing (· == ':') label.toList), time, sinceStart, sinceLast⟩
  | _ => countFault

/-- The client of a request: its end of the connection, and the listener. -/
def readClientStart (value : String) : Except ValueFault ClientStart :=
  match Text.words value with
  | [address, clientPort, listener] => do
    let address ← readAddress "client address" address
    let clientPort ← readInt "client port" clientPort
    pure ⟨address, clientPort, listener⟩
  | _ => countFault

def readSessionOpening (value : String) : Except ValueFault SessionOpening :=
  match Text.words value with
  | [remote, remotePort, socket, localEnd, localPort, start, descriptor] => do
    let remote ← readAddress "remote address" remote
    let remotePort ← readInt "remote port" remotePort
    let localEnd ← readAddress "local address" localEnd
    let localPort ← readInt "local port" localPort
    let start ← readInstant "session start" start
    let descriptor ← readInt "file descriptor" descriptor
    pure ⟨remote, remotePort, socket, localEnd, localPort, start, descriptor⟩
  | _ => countFault

/-- The closing of a session: its reason and how long it lasted. -/
def readSessionClosing (value : String) : Except ValueFault SessionClosing :=
  match Text.words value with
  | [reason, duration] => do
    let duration ← readDuration "duration" duration
    pure ⟨reason, duration⟩
  | _ => countFault

/-- A connection to a backend; its reason may be missing, and what follows it is ignored. -/
def readBackendOpening (value : String) : Except ValueFault BackendOpening :=
  match Text.words value with
  | descriptor :: name :: remote :: remotePort :: localEnd :: localPort :: rest => do
    let descriptor ← readInt "file descriptor" descriptor
    let remote ← readAddress "remote address" remote
    let remotePort ← readInt "remote port" remotePort
    let localEnd ← readAddress "local address" localEnd
    let localPort ← readInt "local port" localPort
    pure ⟨descriptor, name, remote, remotePort, localEnd, localPort, rest.headD "-"⟩
  | _ => countFault

def readBackendStart (value : String) : Except ValueFault BackendStart :=
  match Text.words value with
  | remote :: remotePort :: _ => do
    let remote ← readAddress "remote address" remote
    let remotePort ← readInt "remote port" remotePort
    pure ⟨remote, remotePort⟩
  | _ => countFault

/-- A connection to a backend that is given back; its reason may be missing. -/
def readBackendClosing (value : String) : Except ValueFault BackendClosing :=
  match Text.words value with
  | descriptor :: name :: rest => do
    let descriptor ← readInt "file descriptor" descriptor
    pure ⟨descriptor, name, rest.headD "unknown"⟩
  | _ => countFault

/-- A cached object: its number and lifetime, and grace and keep when both are there, which
`complete` demands. -/
def readHit (complete : Bool) (value : String) : Except ValueFault Hit :=
  match Text.words value with
  | object :: ttl :: grace :: keep :: _ => do
    let grace ← readDuration "grace" grace
    let keep ← readDuration "keep" keep
    let object ← readVxidField object
    let ttl ← readDuration "TTL" ttl
    pure ⟨object, ttl, some grace, some keep⟩
  | object :: ttl :: _ => do
    if complete then throw (.field .wrongCount)
    let object ← readVxidField object
    let ttl ← readDuration "TTL" ttl
    pure ⟨object, ttl, none, none⟩
  | _ => countFault

/-- The part of a lifetime that every source gives. -/
def readLifetimeBase (source ttl grace keep reference status : String) : Except ValueFault Lifetime := do
  let ttl ← readDuration "ttl" ttl
  let grace ← readDuration "grace" grace
  let keep ← readDuration "keep" keep
  let reference ← readInstant "reference" reference
  pure ⟨source, ttl, grace, keep, reference, status, none⟩

/-- A lifetime, with or without the dates of the response. -/
def readLifetime (value : String) : Except ValueFault Lifetime :=
  match Text.words value with
  | [source, ttl, grace, keep, reference, status] =>
    readLifetimeBase source ttl grace keep reference status
  | [source, ttl, grace, keep, reference, age, date, expires, maxAge, status] => do
    let base ← readLifetimeBase source ttl grace keep reference status
    let age ← readInstant "age" age
    let date ← readInstant "date" date
    let expires ← readInstant "expires" expires
    let maxAge ← readDuration "max age" maxAge
    pure { base with dates := some ⟨age, date, expires, maxAge⟩ }
  | _ => countFault

def readStorage (value : String) : Except ValueFault Storage :=
  match Text.words value with
  | kind :: name :: _ => .ok ⟨kind, name⟩
  | _ => countFault

/-- A run of the compressor: three letters and five numbers. -/
def readGzipRun (value : String) : Except ValueFault GzipRun :=
  match Text.words value with
  | [action, stage, object, a, b, c, d, e] => do
    pure ⟨action, stage, object, ← readInt "part[3]" a, ← readInt "part[4]" b,
      ← readInt "part[5]" c, ← readInt "part[6]" d, ← readInt "part[7]" e⟩
  | _ => countFault

/-- How a body was fetched; the last part says whether it was streamed. -/
def readBodyFetch (value : String) : Except ValueFault BodyFetch :=
  match Text.words value with
  | [mode, description, stream] => do
    if stream ≠ "stream" ∧ stream ≠ "-" then throw (.field .unknownStream)
    let mode ← readInt "mode" mode
    pure ⟨mode, description, stream == "stream"⟩
  | _ => countFault

/-- A logged message, with a key when it has a colon. -/
def readLogMessage (value : String) : LogMessage :=
  match splitAtColon value.toList with
  | some (key, text) => ⟨String.ofList key, String.ofList text⟩
  | none => ⟨"", value⟩

/-! ## Grammars -/

/-- How a value is read. -/
inductive Grammar
  /-- The value has no fields. -/
  | free (payload : Payload)
  | opening
  | link
  | header (direction : Direction)
  | unset (direction : Direction)
  | status
  | url
  | traffic
  | pipedTraffic
  | timing
  | clientStart
  | sessionOpen
  | sessionClose
  | backendOpen
  | backendStart
  | backendClose
  | hit (complete : Bool)
  | lifetime
  | storage
  | length
  | gzip
  | filters
  | fetchBody
  | vclLog
  deriving DecidableEq, Repr

def Grammar.family : Grammar → Family
  | free payload => payload.family
  | opening => .opening
  | link => .link
  | header _ => .header
  | unset _ => .unset
  | status => .status
  | url => .url
  | traffic => .traffic
  | pipedTraffic => .pipedTraffic
  | timing => .timing
  | clientStart => .clientStart
  | sessionOpen => .sessionOpen
  | sessionClose => .sessionClose
  | backendOpen => .backendOpen
  | backendStart => .backendStart
  | backendClose => .backendClose
  | hit _ => .hit
  | lifetime => .lifetime
  | storage => .storage
  | length => .length
  | gzip => .gzip
  | filters => .filters
  | fetchBody => .fetchBody
  | vclLog => .vclLog

/-- The payload that a value says. -/
def Grammar.read (g : Grammar) (value : String) : Except ValueFault Payload :=
  match g with
  | free payload => .ok payload
  | opening => (readEdge value).map .opening
  | link => (readEdge value).map .link
  | header direction => (readHeader direction value).map .header
  | unset direction => (readHeader direction value).map .unset
  | status => (readInt "status" value).map .status
  | url =>
    -- as with an address, nothing but a bad value, which is caught
    match Net.Url.ofText? value with
    | some parts => .ok (.url parts)
    | none => .error (.field .badUrl)
  | traffic => (readTraffic value).map .traffic
  | pipedTraffic => (readPipedTraffic value).map .pipedTraffic
  | timing => (readTiming value).map .timing
  | clientStart => (readClientStart value).map .clientStart
  | sessionOpen => (readSessionOpening value).map .sessionOpen
  | sessionClose => (readSessionClosing value).map .sessionClose
  | backendOpen => (readBackendOpening value).map .backendOpen
  | backendStart => (readBackendStart value).map .backendStart
  | backendClose => (readBackendClosing value).map .backendClose
  | hit complete => (readHit complete value).map .hit
  | lifetime => (readLifetime value).map .lifetime
  | storage => (readStorage value).map .storage
  | length => (readInt "size" value).map .length
  | gzip => (readGzipRun value).map .gzip
  | filters => .ok (.filters (Text.words value))
  | fetchBody => (readBodyFetch value).map .fetchBody
  | vclLog => .ok (.vclLog (readLogMessage value))

/-- A mapped result that succeeds comes from a success. -/
theorem exists_of_map_eq_ok {ε α β : Type} {x : Except ε α} {f : α → β} {b : β}
    (h : x.map f = .ok b) : ∃ a, x = .ok a ∧ f a = b := by
  cases x with
  | error e => cases h
  | ok a => exact ⟨a, rfl, by cases h; rfl⟩

theorem Grammar.family_of_read {g : Grammar} {value : String} {p : Payload}
    (h : g.read value = .ok p) : p.family = g.family := by
  cases g with
  | url =>
    simp only [read] at h
    split at h <;> cases h
    rfl
  | free | filters | vclLog => cases h; rfl
  | _ =>
    obtain ⟨a, _, rfl⟩ := exists_of_map_eq_ok h
    rfl

end ProxyLog
