import Mathlib
import ProxyLog.Proofs.Transaction.Search

/-!
# The order of a log

A set keeps its transactions in the order in which they were read, and that order is seen when the set is listed
and in the text of the log. The questions about the graph do not see it.

* `SameTransactions a b`: two sets hold the same transactions, each in an order of its own.
* `sortByVxid_eq_of_perm`: transactions of distinct ids have one sorted list.
* `search_congr`: a search sees the ids that were not visited yet as a collection only.
* `queries_eq_of_perm`: the questions have the same answers whatever the order.
-/

set_option autoImplicit false

namespace ProxyLog.TransactionSet

/-- The sets hold the same transactions, with the same limit on the way up. -/
structure SameTransactions (a b : TransactionSet) : Prop where
  left : a.Filed
  right : b.Filed
  maxDepth : a.maxDepth = b.maxDepth
  perm : a.toList.Perm b.toList

theorem sameTransactions_ofList (maxDepth : Int) {txs txs' : List Transaction} (h : txs.Perm txs')
    (hids : (txs.map (·.vxid)).Nodup) : SameTransactions (ofList maxDepth txs) (ofList maxDepth txs') where
  left := filed_ofList maxDepth txs
  right := filed_ofList maxDepth txs'
  maxDepth := (maxDepth_addAll _ txs).trans (maxDepth_addAll _ txs').symm
  perm := by
    have hids' : (txs'.map (·.vxid)).Nodup := (h.map (·.vxid)).nodup_iff.mp hids
    rw [toList_ofList maxDepth hids, toList_ofList maxDepth hids']
    exact h

/-! ## Sorting -/

/-- Transactions of distinct ids have one sorted list. -/
theorem sortByVxid_eq_of_perm {txs txs' : List Transaction} (h : txs.Perm txs') (hids : (txs.map (·.vxid)).Nodup) :
    sortByVxid txs = sortByVxid txs' := by
  have hperm : (sortByVxid txs).Perm (sortByVxid txs') :=
    ((List.mergeSort_perm txs _).trans h).trans (List.mergeSort_perm txs' _).symm
  refine List.Perm.eq_of_pairwise ?_ (pairwise_sortByVxid txs) (pairwise_sortByVxid txs') hperm
  intro a b ha hb hab hba
  have ha' : a ∈ txs := mem_sortByVxid.mp ha
  have hb' : b ∈ txs := h.mem_iff.mpr (mem_sortByVxid.mp hb)
  exact List.inj_on_of_nodup_map hids ha' hb' (le_antisymm hab hba)

/-! ## The search -/

theorem search_congr {a b : TransactionSet} (hchildren : ∀ t, a.childrenOf t = b.childrenOf t)
    {pool pool' : List Int} (hpool : pool.Perm pool') (stack : List Transaction) :
    a.search pool stack = b.search pool' stack := by
  fun_induction search a pool stack generalizing pool' with
  | case1 pool => rw [search]
  | case2 pool t rest hmem ih =>
    rw [search_cons_of_mem (hpool.mem_iff.mp hmem), ih (hpool.erase t.vxid), hchildren]
  | case3 pool t rest hmem ih =>
    have hmem' : t.vxid ∉ pool' := fun h => hmem (hpool.mem_iff.mpr h)
    rw [search, if_neg hmem', ih hpool]

/-! ## The questions -/

namespace SameTransactions
variable {a b : TransactionSet} (h : SameTransactions a b)
include h

theorem get?_eq (vxid : Int) : a.get? vxid = b.get? vxid := by
  refine Option.ext fun t => ⟨fun ht => ?_, fun ht => ?_⟩
  · obtain ⟨hmem, rfl⟩ := h.left.mem_of_get? ht
    exact h.right.get?_of_mem (h.perm.mem_iff.mp hmem)
  · obtain ⟨hmem, rfl⟩ := h.right.mem_of_get? ht
    exact h.left.get?_of_mem (h.perm.mem_iff.mpr hmem)

theorem keys_perm : a.byVxid.keys.Perm b.byVxid.keys := by
  rw [← h.left.map_vxid_toList, ← h.right.map_vxid_toList]
  exact h.perm.map _

theorem sorted_eq : a.sorted = b.sorted := by
  refine sortByVxid_eq_of_perm h.perm ?_
  rw [h.left.map_vxid_toList]
  exact h.left.nodup

theorem childrenOf_eq (t : Transaction) : a.childrenOf t = b.childrenOf t := by
  have hget : a.get? = b.get? := funext h.get?_eq
  rw [childrenOf, childrenOf, hget]

theorem hop_eq (s : Bool) (t : Transaction) : a.hop s t = b.hop s t := by
  unfold hop
  simp only [h.get?_eq]

theorem climb_eq (s : Bool) (done left : Nat) (t : Transaction) : a.climb s done left t = b.climb s done left t := by
  induction left generalizing done t with
  | zero =>
    unfold climb
    rw [h.hop_eq]
    cases b.hop s t <;> rfl
  | succ left ih =>
    unfold climb
    rw [h.hop_eq]
    cases b.hop s t with
    | top => rfl
    | absent parent => rfl
    | up p => exact ih (done + 1) p

theorem root_eq (s : Bool) (t : Transaction) : a.root s t = b.root s t := by
  rw [root, root, hopLimit, hopLimit, h.maxDepth, h.climb_eq]

theorem roots_eq (s : Bool) : a.roots s = b.roots s := by
  have hroot : a.root s = b.root s := funext (h.root_eq s)
  rw [roots, roots, h.sorted_eq, hroot]

theorem groupOf_eq (root : Transaction) : a.groupOf root = b.groupOf root := by
  rw [groupOf, groupOf, h.childrenOf_eq, search_congr h.childrenOf_eq (h.keys_perm.erase root.vxid)]

theorem groups_eq (s : Bool) : a.groups s = b.groups s := by
  rw [groups, groups, h.roots_eq]
  exact List.map_congr_left fun root _ => h.groupOf_eq root

end SameTransactions

/-- However the transactions of distinct ids are ordered that are put into a set, it has them in the same sorted
list, and every transaction has the same children and the same root there. The roots and the groups are the
same. -/
theorem queries_eq_of_perm (maxDepth : Int) {txs txs' : List Transaction} (h : txs.Perm txs')
    (hids : (txs.map (·.vxid)).Nodup) :
    (ofList maxDepth txs).sorted = (ofList maxDepth txs').sorted ∧
      (∀ t, (ofList maxDepth txs).childrenOf t = (ofList maxDepth txs').childrenOf t) ∧
      ∀ s, (∀ t, (ofList maxDepth txs).root s t = (ofList maxDepth txs').root s t) ∧
        (ofList maxDepth txs).roots s = (ofList maxDepth txs').roots s ∧
        (ofList maxDepth txs).groups s = (ofList maxDepth txs').groups s := by
  have hsame := sameTransactions_ofList maxDepth h hids
  exact ⟨hsame.sorted_eq, hsame.childrenOf_eq, fun s => ⟨hsame.root_eq s, hsame.roots_eq s, hsame.groups_eq s⟩⟩

/-- Three requests on a loop, two of them under one composite id, and a session. -/
def loopedRequests : List Transaction := [
  { Transaction.started 5 .request 2 "" with txid := "a", parent := some 7, children := [6, 7] },
  { Transaction.started 6 .request 2 "" with txid := "a", parent := some 5, children := [7, 5] },
  { Transaction.started 1 .session 1 "" with txid := "b", children := [9, 5] },
  { Transaction.started 7 .request 2 "" with txid := "c", parent := some 6, children := [5] }]

theorem queries_eq_of_perm_looped :
    loopedRequests.Perm loopedRequests.reverse ∧ (loopedRequests.map (·.vxid)).Nodup ∧
      (ofList 1 loopedRequests).toList ≠ (ofList 1 loopedRequests.reverse).toList ∧
      ((ofList 1 loopedRequests).groups true).map (·.map (·.vxid)) = [[1, 5, 6, 7], [6, 5, 7], [7, 5, 6]] ∧
      (ofList 1 loopedRequests).sorted = (ofList 1 loopedRequests.reverse).sorted ∧
      (∀ t, (ofList 1 loopedRequests).childrenOf t = (ofList 1 loopedRequests.reverse).childrenOf t) ∧
      ∀ s, (∀ t, (ofList 1 loopedRequests).root s t = (ofList 1 loopedRequests.reverse).root s t) ∧
        (ofList 1 loopedRequests).roots s = (ofList 1 loopedRequests.reverse).roots s ∧
        (ofList 1 loopedRequests).groups s = (ofList 1 loopedRequests.reverse).groups s := by
  have hperm : loopedRequests.Perm loopedRequests.reverse := (List.reverse_perm _).symm
  have hids : (loopedRequests.map (·.vxid)).Nodup := by decide
  have hgroups : ((ofList 1 loopedRequests).groups true).map (·.map (·.vxid)) =
      [[1, 5, 6, 7], [6, 5, 7], [7, 5, 6]] := by cbv
  exact ⟨hperm, hids, by decide +kernel, hgroups, queries_eq_of_perm 1 hperm hids⟩

end ProxyLog.TransactionSet
