/-!
# Record families

A log record belongs to one of a closed list of families; each has its own fields.

* `Family`: the families.
* `Family.name`: the name under which messages speak of a family.
-/

set_option autoImplicit false

namespace ProxyLog

/-- The families of log records. -/
inductive Family
  | generic | opening | closing | link
  | header | unset
  | method | protocol | reason | status | url
  | traffic | pipedTraffic | timing | clientStart
  | sessionOpen | sessionClose | backendOpen | backendStart | backendClose
  | hit | lifetime | storage | length | gzip | filters | fetchBody | fetchError | failure
  | vclCall | vclReturn | vclUse | vclLog
  deriving DecidableEq, Repr

def Family.name : Family → String
  | generic => "GenericRecord"
  | opening => "BeginRecord"
  | closing => "EndRecord"
  | link => "LinkRecord"
  | header => "HeaderRecord"
  | unset => "HeaderUnsetRecord"
  | method => "MethodRecord"
  | protocol => "ProtocolRecord"
  | reason => "ReasonRecord"
  | status => "StatusRecord"
  | url => "URLRecord"
  | traffic => "AcctRecord"
  | pipedTraffic => "PipeAcctRecord"
  | timing => "TimestampRecord"
  | clientStart => "ReqStartRecord"
  | sessionOpen => "SessOpenRecord"
  | sessionClose => "SessCloseRecord"
  | backendOpen => "BackendOpenRecord"
  | backendStart => "BackendStartRecord"
  | backendClose => "BackendCloseRecord"
  | hit => "HitRecord"
  | lifetime => "TTLRecord"
  | storage => "StorageRecord"
  | length => "LengthRecord"
  | gzip => "GzipRecord"
  | filters => "FiltersRecord"
  | fetchBody => "FetchBodyRecord"
  | fetchError => "FetchErrorRecord"
  | failure => "ErrorRecord"
  | vclCall => "VCLCallRecord"
  | vclReturn => "VCLReturnRecord"
  | vclUse => "VCLUseRecord"
  | vclLog => "VCLLogRecord"

end ProxyLog
