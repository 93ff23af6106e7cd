import ProxyLog.Net.Url
import ProxyLog.Record.Family
import ProxyLog.Time.Instant

/-!
# Log records

A record keeps the tag, the value and the whole line that it was read from, and what the value says.

* `Side`, `Direction`: which headers a header record is about.
* `Edge`: one end of a link between transactions; `txidOf` composes the id of a transaction.
* `Traffic`, `Timing`, `SessionOpening`, …: the fields of the larger families.
* `Payload`: what a value says, by family; `Payload.family` forgets the fields.
* `Record`: a payload with its tag, value and line.
-/

set_option autoImplicit false

namespace ProxyLog

/-! ## Headers -/

/-- The two header sets of a transaction. -/
inductive Side
  | request
  | response
  deriving DecidableEq, Repr

/-- The message that a header belongs to. -/
inductive Direction
  | request
  | response
  | backendRequest
  | backendResponse
  | object
  deriving DecidableEq, Repr

def Direction.name : Direction → String
  | request => "request"
  | response => "response"
  | backendRequest => "backend-request"
  | backendResponse => "backend-response"
  | object => "object"

/-- The header set that a direction is about; the headers of a stored object are in neither. -/
def Direction.side? : Direction → Option Side
  | request | backendRequest => some .request
  | response | backendResponse => some .response
  | object => none

/-- A header as a record tells it; the name is in canonical form. -/
structure HeaderLine where
  name : String
  value : String
  direction : Direction
  deriving DecidableEq, Repr

/-- The header belongs to a response. -/
def HeaderLine.isResponse (h : HeaderLine) : Bool := h.direction.side? == some .response

/-! ## Links -/

/-- The composite id of a transaction: its number, its kind, and its ESI level when that is
positive. -/
def txidOf (vxid : Int) (kind : String) (esiLevel : Int) : String :=
  if 0 < esiLevel then s!"{vxid}_{kind}_esi_{esiLevel}" else s!"{vxid}_{kind}"

/-- One end of a link: the kind and number of the transaction there, why it was made, and its ESI
level, zero when it is no ESI subrequest. -/
structure Edge where
  kind : String
  vxid : Int
  reason : String
  esiLevel : Int
  deriving DecidableEq, Repr

def Edge.txid (e : Edge) : String := txidOf e.vxid e.kind e.esiLevel

/-! ## Fields of the larger families -/

/-- Octets sent and received. -/
structure Traffic where
  headerSent : Int
  bodySent : Int
  totalSent : Int
  headerReceived : Int
  bodyReceived : Int
  totalReceived : Int
  deriving DecidableEq, Repr

/-- Octets of a piped connection. -/
structure PipedTraffic where
  clientRequestHeaders : Int
  backendRequestHeaders : Int
  fromClient : Int
  toClient : Int
  deriving DecidableEq, Repr

/-- A labelled point in the life of a transaction. -/
structure Timing where
  label : String
  time : Instant
  sinceStart : Duration
  sinceLast : Duration
  deriving DecidableEq, Repr

/-- When the work that a timing ends was begun. -/
def Timing.startTime (t : Timing) : Except TimeFault Instant := t.time.before t.sinceLast

/-- The client of a request. -/
structure ClientStart where
  address : Net.Address
  clientPort : Int
  listener : String
  deriving DecidableEq, Repr

/-- A session's socket. -/
structure SessionOpening where
  remote : Net.Address
  remotePort : Int
  socket : String
  localEnd : Net.Address
  localPort : Int
  start : Instant
  descriptor : Int
  deriving DecidableEq, Repr

/-- The end of a session. -/
structure SessionClosing where
  reason : String
  duration : Duration
  deriving DecidableEq, Repr

/-- A connection to a backend. -/
structure BackendOpening where
  descriptor : Int
  name : String
  remote : Net.Address
  remotePort : Int
  localEnd : Net.Address
  localPort : Int
  reason : String
  deriving DecidableEq, Repr

/-- The backend that a request goes to. -/
structure BackendStart where
  remote : Net.Address
  remotePort : Int
  deriving DecidableEq, Repr

/-- A connection to a backend that is given back. -/
structure BackendClosing where
  descriptor : Int
  name : String
  reason : String
  deriving DecidableEq, Repr

/-- A cached object that was found. -/
structure Hit where
  object : Nat
  ttl : Duration
  grace : Option Duration
  keep : Option Duration
  deriving DecidableEq, Repr

/-- The dates that the headers of a response gave for a lifetime. -/
structure LifetimeDates where
  age : Instant
  date : Instant
  expires : Instant
  maxAge : Duration
  deriving DecidableEq, Repr

/-- How long an object may be used. -/
structure Lifetime where
  source : String
  ttl : Duration
  grace : Duration
  keep : Duration
  reference : Instant
  status : String
  dates : Option LifetimeDates
  deriving DecidableEq, Repr

/-- Where an object is stored. -/
structure Storage where
  kind : String
  name : String
  deriving DecidableEq, Repr

/-- A run of the compressor. -/
structure GzipRun where
  action : String
  stage : String
  object : String
  inputOctets : Int
  outputOctets : Int
  firstBit : Int
  lastBit : Int
  bitLength : Int
  deriving DecidableEq, Repr

/-- How a body was fetched. -/
structure BodyFetch where
  mode : Int
  description : String
  stream : Bool
  deriving DecidableEq, Repr

/-- A message logged by the configuration; the key is empty unless it has the form `key: text`. -/
structure LogMessage where
  key : String
  text : String
  deriving DecidableEq, Repr

/-! ## Records -/

/-- What the value of a record says. -/
inductive Payload
  | generic
  | opening (parent : Edge)
  | closing
  | link (child : Edge)
  | header (line : HeaderLine)
  | unset (line : HeaderLine)
  | method
  | protocol
  | reason
  | status (code : Int)
  | url (url : Net.Url)
  | traffic (octets : Traffic)
  | pipedTraffic (octets : PipedTraffic)
  | timing (point : Timing)
  | clientStart (client : ClientStart)
  | sessionOpen (session : SessionOpening)
  | sessionClose (session : SessionClosing)
  | backendOpen (backend : BackendOpening)
  | backendStart (backend : BackendStart)
  | backendClose (backend : BackendClosing)
  | hit (hit : Hit)
  | lifetime (lifetime : Lifetime)
  | storage (storage : Storage)
  | length (octets : Int)
  | gzip (run : GzipRun)
  | filters (names : List String)
  | fetchBody (body : BodyFetch)
  | fetchError
  | failure
  | vclCall
  | vclReturn
  | vclUse
  | vclLog (message : LogMessage)
  deriving DecidableEq, Repr

def Payload.family : Payload → Family
  | generic => .generic
  | opening _ => .opening
  | closing => .closing
  | link _ => .link
  | header _ => .header
  | unset _ => .unset
  | method => .method
  | protocol => .protocol
  | reason => .reason
  | status _ => .status
  | url _ => .url
  | traffic _ => .traffic
  | pipedTraffic _ => .pipedTraffic
  | timing _ => .timing
  | clientStart _ => .clientStart
  | sessionOpen _ => .sessionOpen
  | sessionClose _ => .sessionClose
  | backendOpen _ => .backendOpen
  | backendStart _ => .backendStart
  | backendClose _ => .backendClose
  | hit _ => .hit
  | lifetime _ => .lifetime
  | storage _ => .storage
  | length _ => .length
  | gzip _ => .gzip
  | filters _ => .filters
  | fetchBody _ => .fetchBody
  | fetchError => .fetchError
  | failure => .failure
  | vclCall => .vclCall
  | vclReturn => .vclReturn
  | vclUse => .vclUse
  | vclLog _ => .vclLog

/-- A record: what a line says, with the tag, the value and the line itself. -/
structure Record where
  tag : String
  value : String
  line : String
  payload : Payload
  deriving DecidableEq, Repr

def Record.family (r : Record) : Family := r.payload.family

end ProxyLog
