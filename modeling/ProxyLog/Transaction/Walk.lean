import ProxyLog.Transaction.Group

/-!
# Preorder walks

The group of a root, told by recursion: a transaction that was not visited yet comes first, then all
that is below it, child by child in the order of their ids, then what stands beside it.

* `TransactionSet.walk ts pool txs`: the walk over `txs` and what is below them, with the ids that
  stay unvisited.
* `TransactionSet.preorder ts root`: the walk from a root.
* `TransactionSet.Below ts a b`: children that are in the set lead from `a` to `b`.
-/

set_option autoImplicit false

namespace ProxyLog

/-- The transactions that a walk meets and the ids that it leaves unvisited, no more than there were. -/
structure Walk (size : Nat) where
  visited : List Transaction
  pool : List Int
  length_pool_le : pool.length ≤ size

namespace TransactionSet

/-- Walks over transactions and what is below them, where the ids in the pool were not visited yet. -/
def walk (ts : TransactionSet) (pool : List Int) (txs : List Transaction) : Walk pool.length :=
  match txs with
  | [] => ⟨[], pool, Nat.le_refl _⟩
  | t :: rest =>
    if h : t.vxid ∈ pool then
      have hlt : (pool.erase t.vxid).length < pool.length := by
        rw [List.length_erase_of_mem h]
        exact Nat.sub_lt (List.length_pos_of_mem h) (by decide)
      match walk ts (pool.erase t.vxid) (ts.childrenOf t) with
      | ⟨below, left, hleft⟩ =>
        match walk ts left rest with
        | ⟨beside, last, hlast⟩ => ⟨t :: (below ++ beside), last, by omega⟩
    else walk ts pool rest
termination_by (pool.length, txs.length)
decreasing_by
  · exact Prod.Lex.left _ _ hlt
  · exact Prod.Lex.left _ _ (Nat.lt_of_le_of_lt hleft hlt)
  · exact Prod.Lex.right _ (Nat.lt_succ_self _)

/-- The walk from a root. The root comes first whether or not it is in the set. -/
def preorder (ts : TransactionSet) (root : Transaction) : List Transaction :=
  root :: (ts.walk (ts.byVxid.keys.erase root.vxid) (ts.childrenOf root)).visited

/-- Children that are in the set lead from one transaction to another. -/
inductive Below (ts : TransactionSet) : Transaction → Transaction → Prop
  | refl (t : Transaction) : Below ts t t
  | child {a b c : Transaction} (h : Below ts a b) (hc : c ∈ ts.childrenOf b) : Below ts a c

theorem Below.trans {ts : TransactionSet} {a b c : Transaction} (hab : ts.Below a b) (hbc : ts.Below b c) :
    ts.Below a c := by
  induction hbc with
  | refl => exact hab
  | child _ hc ih => exact ih.child hc

end TransactionSet

end ProxyLog
