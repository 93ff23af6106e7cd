import ProxyLog.Transaction.Root

/-!
# Groups

A group is a root with everything that can be reached from it through children, each transaction
once, depth first and children in the order of their ids. Links can form loops and meet again.

* `TransactionSet.search`: the search from a stack of transactions, with the pool of ids that were
  not yet visited.
* `TransactionSet.groupOf`: the group of a root.
* `TransactionSet.groups`: the groups of all roots.
-/

set_option autoImplicit false

namespace ProxyLog

namespace TransactionSet

/-- Searches from the transactions on a stack. A transaction is visited if its id is in the pool of
ids not yet visited; its children then go on top of the stack. -/
def search (ts : TransactionSet) (pool : List Int) (stack : List Transaction) : List Transaction :=
  match stack with
  | [] => []
  | t :: rest =>
    if t.vxid ∈ pool then t :: search ts (pool.erase t.vxid) (ts.childrenOf t ++ rest)
    else search ts pool rest
termination_by (pool.length, stack.length)
decreasing_by
  · have h := List.length_erase_of_mem ‹t.vxid ∈ pool›
    have hp := List.length_pos_of_mem ‹t.vxid ∈ pool›
    exact Prod.Lex.left _ _ (by omega)
  · exact Prod.Lex.right _ (by simp)

/-- The group of a root: the root, and what is reached from its children. -/
def groupOf (ts : TransactionSet) (root : Transaction) : List Transaction :=
  root :: ts.search (ts.byVxid.keys.erase root.vxid) (ts.childrenOf root)

/-- One group for each root. -/
def groups (ts : TransactionSet) (includeSessions : Bool) : List (List Transaction) :=
  (ts.roots includeSessions).map ts.groupOf

end TransactionSet

end ProxyLog
