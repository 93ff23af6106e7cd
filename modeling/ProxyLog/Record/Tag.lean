import ProxyLog.Record.Grammar

/-!
# Tags

* `tagGrammars`: the known tags with the grammars of their values.
* `grammarOf? tag`, `isKnownTag tag`: look-up by tag.
* `directionOf? tag`: the direction of a header tag.
* `beginTag`, `endTag`, `linkTag`, `missingTag`: tags that are spoken of elsewhere.
-/

set_option autoImplicit false

namespace ProxyLog

def beginTag : String := "Begin"

def endTag : String := "End"

def linkTag : String := "Link"

/-- The tag of the only record of a transaction that the log lacks. -/
def missingTag : String := "__MISSING"

/-- The tags of set and unset headers, with their directions. -/
def headerTags : List (String × Grammar) := [
  ("ReqHeader", .header .request), ("RespHeader", .header .response),
  ("BereqHeader", .header .backendRequest), ("BerespHeader", .header .backendResponse),
  ("ObjHeader", .header .object), ("ReqUnset", .unset .request), ("RespUnset", .unset .response),
  ("BereqUnset", .unset .backendRequest), ("BerespUnset", .unset .backendResponse),
  ("ObjUnset", .unset .object)]

/-- The tags of the request and response lines. -/
def messageTags : List (String × Grammar) := [
  ("ReqMethod", .free .method), ("BereqMethod", .free .method), ("ReqURL", .url), ("BereqURL", .url),
  ("ReqProtocol", .free .protocol), ("RespProtocol", .free .protocol),
  ("BereqProtocol", .free .protocol), ("BerespProtocol", .free .protocol),
  ("ObjProtocol", .free .protocol), ("RespStatus", .status), ("BerespStatus", .status),
  ("ObjStatus", .status), ("RespReason", .free .reason), ("BerespReason", .free .reason),
  ("ObjReason", .free .reason)]

/-- The tags of connections, accounts and times. -/
def connectionTags : List (String × Grammar) := [
  ("ReqAcct", .traffic), ("BereqAcct", .traffic), ("PipeAcct", .pipedTraffic), ("Timestamp", .timing),
  ("ReqStart", .clientStart), ("SessOpen", .sessionOpen), ("SessClose", .sessionClose),
  ("BackendOpen", .backendOpen), ("BackendStart", .backendStart), ("BackendClose", .backendClose),
  ("BackendReuse", .backendClose)]

/-- The tags of cached objects and their bodies. -/
def objectTags : List (String × Grammar) := [
  ("Hit", .hit true), ("HitMiss", .hit false), ("HitPass", .hit false), ("TTL", .lifetime),
  ("Storage", .storage), ("Length", .length), ("Gzip", .gzip), ("Filters", .filters),
  ("Fetch_Body", .fetchBody), ("FetchError", .free .fetchError), ("Brotli", .free .generic),
  ("MSE4_NewObject", .free .generic), ("MSE4_ObjIter", .free .generic),
  ("MSE4_ChunkFault", .free .generic)]

/-- The tags of the configuration's own steps, and of errors. -/
def vclTags : List (String × Grammar) := [
  ("VCL_call", .free .vclCall), ("VCL_return", .free .vclReturn), ("VCL_use", .free .vclUse),
  ("VCL_Log", .vclLog), ("VCL_Error", .free .failure), ("Error", .free .failure)]

/-- The known tags, with the grammars of their values. -/
def tagGrammars : List (String × Grammar) :=
  [(beginTag, .opening), (endTag, .free .closing), (linkTag, .link)] ++ headerTags ++ messageTags ++
    connectionTags ++ objectTags ++ vclTags

def grammarOf? (tag : String) : Option Grammar := tagGrammars.lookup tag

def isKnownTag (tag : String) : Bool := (grammarOf? tag).isSome

def directionOf? (tag : String) : Option Direction :=
  match grammarOf? tag with
  | some (.header direction) | some (.unset direction) => some direction
  | _ => none

end ProxyLog
