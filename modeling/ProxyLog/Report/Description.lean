import ProxyLog.Transaction.Group

/-!
# Describing a log

* `describe ts includeSessions`: the lines of the report on a log. First comes one line for each
  group, then the changes of the headers of each request.
* `describeRemarks`: what is noticed on the way.
-/

set_option autoImplicit false

namespace ProxyLog.Report

def groupLine (group : List Transaction) : String :=
  "  " ++ " -> ".intercalate (group.map (·.txid))

def sideLabel : Side → String
  | .request => "request"
  | .response => "response"

def changeLine (side : Side) (c : HeaderChange) : String :=
  s!"  [{sideLabel side}] {c.name}: {Text.quote c.incoming} -> {Text.quote c.final} ({c.state.name})"

def requestLines (t : Transaction) : List String :=
  ["", s!"--- {t.txid} ---"] ++
    (t.changes .request).map (changeLine .request) ++ (t.changes .response).map (changeLine .response)

/-- The lines of the report on a log. -/
def describe (ts : TransactionSet) (includeSessions : Bool) : List String :=
  let groups := ts.groups includeSessions
  s!"{ts.size} transactions in {groups.length} group(s)" :: groups.map groupLine ++
    (ts.sorted.filter fun t => t.kind != .session).flatMap requestLines

/-- What is noticed in describing a log. -/
def describeRemarks (ts : TransactionSet) (includeSessions : Bool) : List Notice :=
  ts.rootsRemarks includeSessions

end ProxyLog.Report
