import ProxyLog.Transaction.Basic

/-!
# Sets of transactions

* `TransactionSet`: the transactions of a log by id, in the order in which they were read, and how
  far the way up to a root may go.
* `TransactionSet.add`: puts a transaction in; one with the same id gives way to it. `addAll` and
  `ofList` put in many.
* `sorted`, `childrenOf`, `resolve`: what is asked of a set.
* `rawLog`: the text of the log, with a blank line after each transaction and another one in front
  of each session but the first.
-/

set_option autoImplicit false

namespace ProxyLog

/-- How far the way up to a root may go unless it is said otherwise. -/
def defaultDepth : Int := 100

structure TransactionSet where
  maxDepth : Int
  byVxid : OrderedMap Int Transaction
  deriving DecidableEq, Repr

namespace TransactionSet

def empty (maxDepth : Int) : TransactionSet := ⟨maxDepth, .empty⟩

def get? (ts : TransactionSet) (vxid : Int) : Option Transaction := ts.byVxid.get? vxid

def contains (ts : TransactionSet) (vxid : Int) : Bool := ts.byVxid.contains vxid

/-- The transactions in the order in which their ids were first read. -/
def toList (ts : TransactionSet) : List Transaction := ts.byVxid.values

def size (ts : TransactionSet) : Nat := ts.byVxid.size

/-- Puts a transaction in, in the place of one with the same id if there is one. -/
def add (ts : TransactionSet) (t : Transaction) : TransactionSet :=
  { ts with byVxid := ts.byVxid.insert t.vxid t }

/-- Puts transactions in, one after the other. -/
def addAll (ts : TransactionSet) (txs : List Transaction) : TransactionSet := txs.foldl add ts

/-- The set of transactions that were read in some order. -/
def ofList (maxDepth : Int) (txs : List Transaction) : TransactionSet := (empty maxDepth).addAll txs

@[simp] theorem get?_add_self (ts : TransactionSet) (t : Transaction) : (ts.add t).get? t.vxid = some t := by
  simp [add, get?]

theorem get?_add_of_ne (ts : TransactionSet) {t : Transaction} {vxid : Int} (h : vxid ≠ t.vxid) :
    (ts.add t).get? vxid = ts.get? vxid := by
  simp [add, get?, OrderedMap.get?_insert_of_ne _ h]

@[simp] theorem maxDepth_addAll (ts : TransactionSet) (txs : List Transaction) :
    (ts.addAll txs).maxDepth = ts.maxDepth := by
  induction txs generalizing ts with
  | nil => rfl
  | cons t txs ih => exact ih (ts.add t)

def addRemarks (ts : TransactionSet) (t : Transaction) : List Notice :=
  if ts.contains t.vxid then [.transactionReplaced t.vxid t.txid] else []

/-- Transactions in the order of their ids; equal ones stay in order. -/
def sortByVxid (txs : List Transaction) : List Transaction :=
  txs.mergeSort fun a b => decide (a.vxid ≤ b.vxid)

/-- The transactions in the order of their ids. Ids are distinct, so nothing else decides. -/
def sorted (ts : TransactionSet) : List Transaction := sortByVxid ts.toList

/-- The children of a transaction that are in the set, in the order of their ids. -/
def childrenOf (ts : TransactionSet) (t : Transaction) : List Transaction :=
  sortByVxid (t.children.filterMap ts.get?)

/-- The transaction that a link leads to, or its placeholder. -/
def resolve (ts : TransactionSet) (link : Edge) : Transaction :=
  (ts.get? link.vxid).getD (.placeholder link)

def resolveRemarks (ts : TransactionSet) (link : Edge) : List Notice :=
  if ts.contains link.vxid then [] else [.childAbsent link.txid]

/-! ## The log again -/

/-- The text of one transaction: its lines and a blank line. -/
def transactionText (t : Transaction) : String :=
  String.join (t.rawLines.map (· ++ "\n")) ++ "\n"

/-- The text of transactions that follow others. -/
def followingText (t : Transaction) : String :=
  (if t.kind = .session then "\n" else "") ++ transactionText t

def rawLog (ts : TransactionSet) : String :=
  match ts.toList with
  | [] => ""
  | t :: rest => transactionText t ++ String.join (rest.map followingText)

end TransactionSet

end ProxyLog
