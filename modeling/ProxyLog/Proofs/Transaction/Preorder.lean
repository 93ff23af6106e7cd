import Mathlib
import ProxyLog.Proofs.Transaction.Search

/-!
# Depth first order

A search takes one transaction after the other from a stack, on which one can stand many times. What it finds is in
the order of the walk by recursion: the stack is walked from its top.

* `search_append`: the top of a stack is walked before the rest of it is searched; `groupOf_eq_preorder`: a group is
  the walk from its root.
* `searchStep`: one round of a search that keeps the ids it visited; `searches_search`: the rounds come to an end.
* `Visits`: the walk by recursion that keeps the ids it visited; `visits_walk`, `Visits.unique`: it has one outcome.
* `groupOf_depthFirst`: the group of a root is what both of them find.
-/

set_option autoImplicit false

namespace ProxyLog.TransactionSet
variable {ts : TransactionSet} {pool visited last last' : List Int} {t root : Transaction}
variable {stack txs out out' : List Transaction}

/-! ## The top of a stack -/

-- What is below the top goes onto the same stack, so the rest of the stack is general in the induction.
theorem search_append (ts : TransactionSet) (pool : List Int) (front back : List Transaction) :
    ts.search pool (front ++ back) = (ts.walk pool front).visited ++ ts.search (ts.walk pool front).pool back := by
  fun_induction walk ts pool front generalizing back with
  | case1 pool => rfl
  | case2 pool t rest hmem hlt below left hleft hbelow beside last hlast hbeside ih ih' =>
    rw [hbelow] at ih
    rw [hbeside] at ih'
    have hsearch : ts.search (pool.erase t.vxid) (ts.childrenOf t ++ (rest ++ back)) =
        below ++ (beside ++ ts.search last back) := by
      rw [ih (rest ++ back), ih' back]
    rw [List.cons_append, search_cons_of_mem hmem, hsearch, List.cons_append, List.append_assoc]
  | case3 pool t rest hmem ih =>
    rw [List.cons_append, search, if_neg hmem]
    exact ih back

theorem search_eq_walk (ts : TransactionSet) (pool : List Int) (stack : List Transaction) :
    ts.search pool stack = (ts.walk pool stack).visited := by
  have h := ts.search_append pool stack []
  rwa [List.append_nil, search, List.append_nil] at h

theorem groupOf_eq_preorder (ts : TransactionSet) (root : Transaction) : ts.groupOf root = ts.preorder root := by
  rw [groupOf, preorder, search_eq_walk]

/-! ## Ids that were visited -/

/-- The ids in the pool are those of the set that were not visited. -/
structure Unvisited (ts : TransactionSet) (pool visited : List Int) : Prop where
  nodup : pool.Nodup
  mem_iff : ∀ vxid, vxid ∈ pool ↔ vxid ∈ ts.byVxid.keys ∧ vxid ∉ visited

theorem Filed.unvisited (hf : ts.Filed) : ts.Unvisited ts.byVxid.keys [] where
  nodup := hf.nodup
  mem_iff := fun vxid => by simp

theorem Unvisited.erase (h : ts.Unvisited pool visited) (vxid : Int) :
    ts.Unvisited (pool.erase vxid) (vxid :: visited) where
  nodup := h.nodup.erase vxid
  mem_iff := by
    intro other
    rw [h.nodup.mem_erase_iff, h.mem_iff, List.mem_cons, not_or]
    exact and_left_comm

theorem Unvisited.mem_pool_iff (h : ts.Unvisited pool visited) (hf : ts.Filed) (ht : t ∈ ts.toList) :
    t.vxid ∈ pool ↔ t.vxid ∉ visited := by
  rw [h.mem_iff, and_iff_right (hf.mem_keys_iff.mpr ⟨t, ht, rfl⟩)]

/-! ## Rounds of a search -/

/-- A search under way: the ids it visited, the transactions it found, and the stack. -/
structure Searching where
  visited : List Int
  found : List Transaction
  stack : List Transaction

/-- One round takes a transaction from the stack. If its id was not visited yet, it is found, and its children go on
top of the stack. -/
def searchStep (ts : TransactionSet) (now : Searching) : Option Searching :=
  match now.stack with
  | [] => none
  | t :: rest =>
    if t.vxid ∈ now.visited then some { now with stack := rest }
    else some ⟨t.vxid :: now.visited, now.found ++ [t], ts.childrenOf t ++ rest⟩

/-- Rounds lead from one state of a search to another. -/
def Searches (ts : TransactionSet) : Searching → Searching → Prop :=
  Relation.ReflTransGen fun now next => ts.searchStep now = some next

theorem searchStep_of_mem (h : t.vxid ∈ visited) (found rest : List Transaction) :
    ts.searchStep ⟨visited, found, t :: rest⟩ = some ⟨visited, found, rest⟩ :=
  if_pos h

theorem searchStep_of_notMem (h : t.vxid ∉ visited) (found rest : List Transaction) :
    ts.searchStep ⟨visited, found, t :: rest⟩ =
      some ⟨t.vxid :: visited, found ++ [t], ts.childrenOf t ++ rest⟩ :=
  if_neg h

theorem searches_search (hf : ts.Filed) (hu : ts.Unvisited pool visited) (hstack : stack ⊆ ts.toList)
    (found : List Transaction) :
    ∃ last, ts.Searches ⟨visited, found, stack⟩ ⟨last, found ++ ts.search pool stack, []⟩ := by
  fun_induction search ts pool stack generalizing visited found with
  | case1 pool =>
    rw [List.append_nil]
    exact ⟨visited, .refl⟩
  | case2 pool t rest hmem ih =>
    obtain ⟨ht, hrest⟩ := List.cons_subset.mp hstack
    have hnew : t.vxid ∉ visited := (hu.mem_pool_iff hf ht).mp hmem
    have hnext := List.append_subset.mpr ⟨hf.childrenOf_subset t, hrest⟩
    obtain ⟨last, hlast⟩ := ih (hu.erase t.vxid) hnext (found ++ [t])
    rw [List.append_assoc, List.singleton_append] at hlast
    exact ⟨last, .head (searchStep_of_notMem hnew found rest) hlast⟩
  | case3 pool t rest hmem ih =>
    obtain ⟨ht, hrest⟩ := List.cons_subset.mp hstack
    have hold : t.vxid ∈ visited := not_not.mp (mt (hu.mem_pool_iff hf ht).mpr hmem)
    obtain ⟨last, hlast⟩ := ih hu hrest found
    exact ⟨last, .head (searchStep_of_mem hold found rest) hlast⟩

/-! ## The walk by recursion -/

/-- The walk over transactions, from the ids visited before to those visited after it, with the transactions that it
visits: one whose id was visited is passed over, any other comes before all that is below it, and that before what
stands beside it. -/
inductive Visits (ts : TransactionSet) : List Int → List Transaction → List Transaction → List Int → Prop
  | done (visited : List Int) : Visits ts visited [] [] visited
  | pass {visited last : List Int} {t : Transaction} {rest out : List Transaction} (hold : t.vxid ∈ visited)
      (hrest : Visits ts visited rest out last) : Visits ts visited (t :: rest) out last
  | visit {visited between last : List Int} {t : Transaction} {rest below beside : List Transaction}
      (hnew : t.vxid ∉ visited) (hbelow : Visits ts (t.vxid :: visited) (ts.childrenOf t) below between)
      (hbeside : Visits ts between rest beside last) : Visits ts visited (t :: rest) (t :: (below ++ beside)) last

theorem visits_walk (hf : ts.Filed) (hu : ts.Unvisited pool visited) (htxs : txs ⊆ ts.toList) :
    ∃ last, ts.Visits visited txs (ts.walk pool txs).visited last ∧ ts.Unvisited (ts.walk pool txs).pool last := by
  fun_induction walk ts pool txs generalizing visited with
  | case1 pool => exact ⟨visited, .done visited, hu⟩
  | case2 pool t rest hmem hlt below left hleft hbelow beside last hlast hbeside ih ih' =>
    rw [hbelow] at ih
    rw [hbeside] at ih'
    obtain ⟨ht, hrest⟩ := List.cons_subset.mp htxs
    have hnew : t.vxid ∉ visited := (hu.mem_pool_iff hf ht).mp hmem
    obtain ⟨between, hvisits, hleft⟩ := ih (hu.erase t.vxid) (hf.childrenOf_subset t)
    obtain ⟨after, hvisits', hafter⟩ := ih' hleft hrest
    exact ⟨after, .visit hnew hvisits hvisits', hafter⟩
  | case3 pool t rest hmem ih =>
    obtain ⟨ht, hrest⟩ := List.cons_subset.mp htxs
    have hold : t.vxid ∈ visited := not_not.mp (mt (hu.mem_pool_iff hf ht).mpr hmem)
    obtain ⟨last, hvisits, hlast⟩ := ih hu hrest
    exact ⟨last, .pass hold hvisits, hlast⟩

theorem Visits.unique (h : ts.Visits visited txs out last) (h' : ts.Visits visited txs out' last') :
    out = out' ∧ last = last' := by
  induction h generalizing out' last' with
  | done => cases h'; exact ⟨rfl, rfl⟩
  | pass hold _ ih =>
    cases h' with
    | pass _ hrest => exact ih hrest
    | visit hnew => exact absurd hold hnew
  | visit hnew _ _ ih ih' =>
    cases h' with
    | pass hold => exact absurd hold hnew
    | visit _ hbelow hbeside =>
      obtain ⟨rfl, rfl⟩ := ih hbelow
      obtain ⟨rfl, rfl⟩ := ih' hbeside
      exact ⟨rfl, rfl⟩

/-! ## Groups -/

/-- Whatever children the transactions of a set name, the search from one of them comes to an end, and it finds what
the walk by recursion visits: that transaction first, and each one that children in the set lead to, once. Children
are visited in the order of their ids. -/
theorem groupOf_depthFirst {maxDepth : Int} (hts : ts = ofList maxDepth txs) (hr : root ∈ ts.toList) :
    (∃ visited, ts.Searches ⟨[], [], [root]⟩ ⟨visited, ts.groupOf root, []⟩) ∧
      ts.groupOf root = ts.preorder root ∧
      (∀ out, (∃ visited, ts.Visits [] [root] out visited) ↔ out = ts.groupOf root) ∧
      (ts.groupOf root).head? = some root ∧ ((ts.groupOf root).map (·.vxid)).Nodup ∧
      (∀ u, u ∈ ts.groupOf root ↔ ts.Below root u) ∧
      ∀ p, (ts.childrenOf p).Pairwise (fun a b => a.vxid ≤ b.vxid) ∧
        ∀ c, c ∈ ts.childrenOf p ↔ c ∈ ts.toList ∧ c.vxid ∈ p.children := by
  have hf : ts.Filed := hts ▸ filed_ofList maxDepth txs
  have hroot : [root] ⊆ ts.toList := by simpa using hr
  have hgroup := hf.groupOf_eq_search hr
  refine ⟨?_, ts.groupOf_eq_preorder root, ?_, rfl, ?_, fun u => hf.mem_groupOf_iff hr, ?_⟩
  · rw [hgroup]
    exact searches_search hf hf.unvisited hroot []
  · intro out
    obtain ⟨last, hvisits, -⟩ := visits_walk hf hf.unvisited hroot
    rw [← search_eq_walk, ← hgroup] at hvisits
    constructor
    · rintro ⟨visited, h⟩
      exact (h.unique hvisits).1
    · rintro rfl
      exact ⟨last, hvisits⟩
  · rw [hgroup]
    exact ts.nodup_vxid_search hf.nodup [root]
  · exact fun p => ⟨pairwise_sortByVxid _, fun c => hf.mem_childrenOf_iff⟩

/-- A session that is a child of its own and names one request twice. -/
def entangledRoot : Transaction := { Transaction.started 1 .session 1 "" with children := [3, 2, 3, 1] }

/-- The session with three requests, two of which are on a loop; one names a child that is not there. -/
def entangledSet : TransactionSet := ofList 100 [
  { Transaction.started 4 .request 2 "" with children := [3] },
  { Transaction.started 3 .request 2 "" with children := [4, 1] },
  entangledRoot,
  { Transaction.started 2 .request 2 "" with children := [4, 2, 9] }]

theorem groupOf_depthFirst_entangled :
    entangledRoot ∈ entangledSet.toList ∧ (entangledSet.childrenOf entangledRoot).map (·.vxid) = [1, 2, 3, 3] ∧
      (entangledSet.groupOf entangledRoot).map (·.vxid) = [1, 2, 4, 3] ∧
      (∃ visited, entangledSet.Searches ⟨[], [], [entangledRoot]⟩ ⟨visited, entangledSet.groupOf entangledRoot, []⟩) ∧
      entangledSet.groupOf entangledRoot = entangledSet.preorder entangledRoot ∧
      (∀ out, (∃ visited, entangledSet.Visits [] [entangledRoot] out visited) ↔
        out = entangledSet.groupOf entangledRoot) ∧
      (entangledSet.groupOf entangledRoot).head? = some entangledRoot ∧
      ((entangledSet.groupOf entangledRoot).map (·.vxid)).Nodup ∧
      (∀ u, u ∈ entangledSet.groupOf entangledRoot ↔ entangledSet.Below entangledRoot u) ∧
      ∀ p, (entangledSet.childrenOf p).Pairwise (fun a b => a.vxid ≤ b.vxid) ∧
        ∀ c, c ∈ entangledSet.childrenOf p ↔ c ∈ entangledSet.toList ∧ c.vxid ∈ p.children := by
  have hroot : entangledRoot ∈ entangledSet.toList := by decide +kernel
  have hchildren : (entangledSet.childrenOf entangledRoot).map (·.vxid) = [1, 2, 3, 3] := by cbv
  have hgroup : (entangledSet.groupOf entangledRoot).map (·.vxid) = [1, 2, 4, 3] := by cbv
  exact ⟨hroot, hchildren, hgroup, groupOf_depthFirst rfl hroot⟩

end ProxyLog.TransactionSet
