import ProxyLog.Transaction.Root

/-!
# Consistent logs

A log can name a parent that does not name the child, or a child that names another parent, and its
parents can form loops. These are the properties of logs that do not.

* `TransactionSet.ParentsKnowChildren`: every parent in the set has its children among its own.
* `TransactionSet.ChildrenKnowParents`: every child in the set has its parent as its own.
* `TransactionSet.WaysEnd`: the way up from each transaction ends within the hops that are allowed.
-/

set_option autoImplicit false

namespace ProxyLog.TransactionSet

/-- Whoever names a parent in the set, other than itself, is among the children of that parent. -/
def ParentsKnowChildren (ts : TransactionSet) : Prop :=
  ∀ t ∈ ts.toList, ∀ p ∈ ts.toList, t.parent = some p.vxid → p.vxid ≠ t.vxid → t.vxid ∈ p.children

/-- Whoever is a child of a transaction and in the set names it as parent. -/
def ChildrenKnowParents (ts : TransactionSet) : Prop :=
  ∀ p ∈ ts.toList, ∀ c ∈ ts.toList, c.vxid ∈ p.children → c.parent = some p.vxid

/-- Some transaction on the way up, sessions included, has no parent to go to, and no more hops lead
there than are allowed. -/
def WaysEnd (ts : TransactionSet) : Prop :=
  ∀ t ∈ ts.toList, ∃ (k : Nat) (top : Transaction),
    (k : Int) ≤ ts.maxDepth ∧ ts.ancestor? true k t = some top ∧ ts.parentOf? true top = none

end ProxyLog.TransactionSet
