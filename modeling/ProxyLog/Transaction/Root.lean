import ProxyLog.Transaction.Set

/-!
# Roots

From a transaction the way leads up from parent to parent until it stops: at a transaction without a
parent, at one that is its own parent or whose parent is not in the log, and, when sessions do not
count, below a session. Logs can hold loops, so the way is also cut after a number of hops.

* `TransactionSet.parentOf?`: the next transaction on the way up.
* `TransactionSet.climb`: the way up, of at most so many hops, with a remark if it ends early.
* `TransactionSet.root`, `TransactionSet.rootRemarks`: the end of the way and what is noticed.
* `TransactionSet.roots`: the roots of all transactions, in the order of their ids.
* `TransactionSet.ancestor?`: the way up without a limit, hop by hop.
-/

set_option autoImplicit false

namespace ProxyLog

namespace TransactionSet

/-! ## One hop -/

/-- Where the way up leads from a transaction. -/
inductive Hop
  | top
  /-- The parent is not in the log. -/
  | absent (parent : Int)
  | up (parent : Transaction)

/-- Where the way up leads from a transaction. -/
def hop (ts : TransactionSet) (includeSessions : Bool) (t : Transaction) : Hop :=
  match t.parent with
  | none => .top
  | some parent =>
    if parent = t.vxid then .top
    else match ts.get? parent with
      | none => .absent parent
      | some p => if !includeSessions && p.kind == .session then .top else .up p

/-- The next transaction on the way up. -/
def parentOf? (ts : TransactionSet) (includeSessions : Bool) (t : Transaction) : Option Transaction :=
  match ts.hop includeSessions t with
  | .up p => some p
  | _ => none

/-! ## The way up -/

/-- The end of the way up from a transaction, with what is noticed there. `done` hops were made and
`left` more are allowed. -/
def climb (ts : TransactionSet) (includeSessions : Bool) (done : Nat) :
    Nat → Transaction → Transaction × List Notice
  | left, t =>
    match ts.hop includeSessions t, left with
    | .top, _ => (t, [])
    | .absent parent, _ => (t, [.parentAbsent parent t.txid])
    | .up _, 0 => (t, [.possibleLoop t.txid (done + 1)])
    | .up p, left + 1 => climb ts includeSessions (done + 1) left p

/-- The hops that are allowed; a negative limit allows none. -/
def hopLimit (ts : TransactionSet) : Nat := ts.maxDepth.toNat

def root (ts : TransactionSet) (includeSessions : Bool) (t : Transaction) : Transaction :=
  (ts.climb includeSessions 0 ts.hopLimit t).1

def rootRemarks (ts : TransactionSet) (includeSessions : Bool) (t : Transaction) : List Notice :=
  (ts.climb includeSessions 0 ts.hopLimit t).2

/-- The transaction that `n` hops lead to, if the way goes that far. -/
def ancestor? (ts : TransactionSet) (includeSessions : Bool) : Nat → Transaction → Option Transaction
  | 0, t => some t
  | n + 1, t => (ts.parentOf? includeSessions t).bind (ancestor? ts includeSessions n)

/-! ## All roots -/

/-- The roots of all transactions, one for each composite id, in the order of their ids. -/
def roots (ts : TransactionSet) (includeSessions : Bool) : List Transaction :=
  let byTxid := ts.sorted.map fun t =>
    let r := ts.root includeSessions t
    (r.txid, r)
  sortByVxid (OrderedMap.ofList byTxid).values

def rootsRemarks (ts : TransactionSet) (includeSessions : Bool) : List Notice :=
  ts.sorted.flatMap (ts.rootRemarks includeSessions)

end TransactionSet

end ProxyLog
