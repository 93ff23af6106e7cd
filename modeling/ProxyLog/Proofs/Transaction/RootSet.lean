import ProxyLog.Proofs.Transaction.Groups

/-!
# All roots

The roots are gathered by composite id and then put in the order of their ids. In a set that was read no two
transactions have one composite id, so no root gives way to another, and no two have one id, so the order is strict.

* `pairwise_vxid_roots`: the roots stand in the order of their ids, and no two of them have one id.
* `roots_enumerate`: they are the roots of all transactions of the set, each once and in order.
-/

set_option autoImplicit false

namespace ProxyLog.TransactionSet
variable {ts : TransactionSet} {maxDepth : Int} {lines : List String}

theorem pairwise_vxid_roots (h : (readLines maxDepth lines).result = .ok ts) (s : Bool) :
    (ts.roots s).Pairwise fun r r' => r.vxid < r'.vxid := by
  have hle : (ts.roots s).Pairwise fun r r' => r.vxid ≤ r'.vxid := pairwise_sortByVxid _
  refine (hle.and (ts.nodup_roots s)).imp_of_mem ?_
  rintro r r' hr hr' ⟨hle, hne⟩
  have heq : r.vxid = r'.vxid → r = r' :=
    (filed_of_readLines h).eq_of_vxid_eq (mem_of_mem_roots h hr) (mem_of_mem_roots h hr')
  exact lt_of_le_of_ne hle (mt heq hne)

/-- The roots of a set that was read are just the transactions that are the root of some transaction of the set, each
of them once and by increasing ids, however far the way up may go and whether or not sessions count. -/
theorem roots_enumerate (h : (readLines maxDepth lines).result = .ok ts) (s : Bool) :
    (∀ r, r ∈ ts.roots s ↔ r ∈ ts.toList ∧ ∃ t ∈ ts.toList, ts.root s t = r) ∧
      (ts.roots s).Nodup ∧ (ts.roots s).Pairwise fun r r' => r.vxid < r'.vxid := by
  refine ⟨fun r => ?_, ts.nodup_roots s, pairwise_vxid_roots h s⟩
  constructor
  · intro hr
    exact ⟨mem_of_mem_roots h hr, exists_of_mem_roots hr⟩
  · rintro ⟨-, t, ht, rfl⟩
    exact root_mem_roots h s ht

/-- A request and a session whose kind makes their composite ids look alike, and two requests that are each the parent
of the other. -/
def alikeLines : List String :=
  ["**  << Request  >> 12", "--  Begin  req 1 rxreq", "--  End",
   "*   << Session  >> 1", "-   Begin  2_req 0 HTTP/1", "-   Link  req 12 rxreq", "-   End",
   "**  << Request  >> 6", "--  Begin  req 5 restart", "--  End",
   "**  << Request  >> 5", "--  Begin  req 6 restart", "--  End"]

/-- The set that is read from these lines, with one hop up. -/
def alikeSet : TransactionSet :=
  match (readLines 1 alikeLines).result with
  | .ok ts => ts
  | .error _ => empty 1

theorem roots_enumerate_alike :
    (readLines 1 alikeLines).result = .ok alikeSet ∧
      alikeSet.toList.map (fun t => (t.txid, (alikeSet.root true t).vxid, (alikeSet.root false t).vxid)) =
        [("12_req", 1, 12), ("1_2_req", 1, 1), ("6_req", 5, 5), ("5_req", 6, 6)] ∧
      (∀ r, r ∈ alikeSet.roots true ↔ r ∈ alikeSet.toList ∧ ∃ t ∈ alikeSet.toList, alikeSet.root true t = r) ∧
      (alikeSet.roots true).Nodup ∧ (alikeSet.roots true).Pairwise fun r r' => r.vxid < r'.vxid := by
  have hread : (readLines 1 alikeLines).result = .ok alikeSet := by decide +kernel
  refine ⟨hread, ?_, roots_enumerate hread true⟩
  decide +kernel

end ProxyLog.TransactionSet
