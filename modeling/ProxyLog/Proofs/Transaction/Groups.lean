import ProxyLog.Proofs.Transaction.Search
import ProxyLog.Proofs.Transaction.Txid

/-!
# Groups are a partition

Where parents and children name each other and every way up ends, the group of a root holds just the
transactions of which it is the root.

* `mem_groupOf_root_iff`: what is in the group of a root.
* `countP_groups`, `perm_flatten_groups`: how many groups a transaction is in, and what they hold together.
* `groups_partition`: every transaction is in one group, once, and its root comes first there.
-/

set_option autoImplicit false

namespace ProxyLog.TransactionSet
variable {ts : TransactionSet} {t r : Transaction} {maxDepth : Int} {lines : List String}

theorem Filed.mem_groupOf_top_iff (hf : ts.Filed) (hp : ts.ParentsKnowChildren) (hc : ts.ChildrenKnowParents)
    (hw : ts.WaysEnd) (hr : r ∈ ts.toList) (htop : ts.parentOf? true r = none) (ht : t ∈ ts.toList) :
    t ∈ ts.groupOf r ↔ ts.root true t = r := by
  rw [hf.mem_groupOf_iff hr]
  constructor
  · intro hbelow
    obtain ⟨k, hup⟩ := hf.ancestor?_of_below hc hr hbelow
    obtain ⟨k', -, hroot⟩ := ts.ancestor?_root true t
    exact top_unique hroot (hw.parentOf?_root ht) hup htop
  · rintro rfl
    obtain ⟨k, -, hroot⟩ := ts.ancestor?_root true t
    exact hf.below_of_ancestor? hp ht hroot

/-! ## The groups of a log that was read -/

section Read
variable {s : Bool} (h : (readLines maxDepth lines).result = .ok ts)
include h

theorem mem_of_mem_roots (hr : r ∈ ts.roots s) : r ∈ ts.toList := by
  obtain ⟨t, ht, rfl⟩ := exists_of_mem_roots hr
  exact (filed_of_readLines h).root_mem ht

theorem root_mem_roots (s : Bool) (ht : t ∈ ts.toList) : ts.root s t ∈ ts.roots s :=
  ((filed_of_readLines h).mem_roots_iff fun _ hu _ hv => eq_of_txid_eq h hu hv).mpr ⟨t, ht, rfl⟩

theorem nodup_of_mem_groups {g : List Transaction} (hg : g ∈ ts.groups s) : g.Nodup := by
  obtain ⟨r, hr, rfl⟩ := List.mem_map.mp hg
  exact (filed_of_readLines h).nodup_groupOf (mem_of_mem_roots h hr)

theorem mem_of_mem_groupOf (hr : r ∈ ts.roots s) (ht : t ∈ ts.groupOf r) : t ∈ ts.toList := by
  have hf := filed_of_readLines h
  have hmem := mem_of_mem_roots h hr
  exact hf.mem_of_below hmem ((hf.mem_groupOf_iff hmem).mp ht)

variable (hp : ts.ParentsKnowChildren) (hc : ts.ChildrenKnowParents) (hw : ts.WaysEnd)
include hp hc hw

theorem mem_groupOf_root_iff (hr : r ∈ ts.roots true) (ht : t ∈ ts.toList) :
    t ∈ ts.groupOf r ↔ ts.root true t = r := by
  have hf := filed_of_readLines h
  obtain ⟨u, hu, rfl⟩ := exists_of_mem_roots hr
  exact hf.mem_groupOf_top_iff hp hc hw (hf.root_mem hu) (hw.parentOf?_root hu) ht

/-- As many groups have a transaction as there are roots that are its own. -/
theorem countP_groups (ht : t ∈ ts.toList) : (ts.groups true).countP (t ∈ ·) = 1 := by
  have hcount : (ts.roots true).countP (fun r => decide (t ∈ ts.groupOf r)) =
      (ts.roots true).count (ts.root true t) := by
    refine List.countP_congr fun r hr => ?_
    rw [decide_eq_true_iff, beq_iff_eq, mem_groupOf_root_iff h hp hc hw hr ht]
    exact eq_comm
  rw [groups, List.countP_map]
  exact hcount.trans (List.count_eq_one_of_mem (ts.nodup_roots true) (root_mem_roots h true ht))

theorem disjoint_groups : (ts.groups true).Pairwise List.Disjoint := by
  refine List.pairwise_map.mpr ((ts.nodup_roots true).imp_of_mem ?_)
  intro r r' hr hr' hne t ht ht'
  have hmem := mem_of_mem_groupOf h hr ht
  have hroot := (mem_groupOf_root_iff h hp hc hw hr hmem).mp ht
  have hroot' := (mem_groupOf_root_iff h hp hc hw hr' hmem).mp ht'
  exact hne (hroot.symm.trans hroot')

theorem mem_flatten_groups : t ∈ (ts.groups true).flatten ↔ t ∈ ts.toList := by
  constructor
  · intro ht
    obtain ⟨g, hg, htg⟩ := List.mem_flatten.mp ht
    obtain ⟨r, hr, rfl⟩ := List.mem_map.mp hg
    exact mem_of_mem_groupOf h hr htg
  · intro ht
    have hr := root_mem_roots h true ht
    exact List.mem_flatten.mpr ⟨_, List.mem_map_of_mem hr, (mem_groupOf_root_iff h hp hc hw hr ht).mpr rfl⟩

theorem perm_flatten_groups : (ts.groups true).flatten.Perm ts.toList := by
  have hnodup : (ts.groups true).flatten.Nodup :=
    List.nodup_flatten.mpr ⟨fun _ hg => nodup_of_mem_groups h hg, disjoint_groups h hp hc hw⟩
  have hall := (filed_of_readLines h).nodup_toList
  exact (List.perm_ext_iff_of_nodup hnodup hall).mpr fun _ => mem_flatten_groups h hp hc hw

end Read

/-- The groups of a consistent log that was read are a partition of it: every transaction is in one group only,
and there once, and the first of its group is its root. -/
theorem groups_partition {maxDepth : Int} {lines : List String} (h : (readLines maxDepth lines).result = .ok ts)
    (hp : ts.ParentsKnowChildren) (hc : ts.ChildrenKnowParents) (hw : ts.WaysEnd) :
    (ts.groups true).flatten.Perm ts.toList ∧
      ∀ t ∈ ts.toList, (ts.groups true).countP (t ∈ ·) = 1 ∧
        ∀ g ∈ ts.groups true, t ∈ g → g.count t = 1 ∧ g.head? = some (ts.root true t) := by
  refine ⟨perm_flatten_groups h hp hc hw, fun t ht => ⟨countP_groups h hp hc hw ht, ?_⟩⟩
  intro g hg htg
  have hnodup := nodup_of_mem_groups h hg
  obtain ⟨r, hr, rfl⟩ := List.mem_map.mp hg
  rw [(mem_groupOf_root_iff h hp hc hw hr ht).mp htg]
  exact ⟨List.count_eq_one_of_mem hnodup htg, rfl⟩

/-- A session with a request that fetches, and a request whose session is not in the log. -/
def relatedLines : List String :=
  ["***  << BeReq    >> 3", "---  Begin  bereq 2 fetch", "---  End",
   "**  << Request  >> 2", "--  Begin  req 1 rxreq", "--  Link  bereq 3 fetch", "--  Link  bereq 9 fetch", "--  End",
   "*   << Session  >> 1", "-   Begin  sess 0 HTTP/1", "-   Link  req 2 rxreq", "-   End",
   "**  << Request  >> 6", "--  Begin  req 5 rxreq", "--  End"]

/-- The set that is read from these lines. -/
def relatedSet : TransactionSet :=
  match (readLines 100 relatedLines).result with
  | .ok ts => ts
  | .error _ => empty 100

theorem groups_partition_related :
    (readLines 100 relatedLines).result = .ok relatedSet ∧ relatedSet.ParentsKnowChildren ∧
      relatedSet.ChildrenKnowParents ∧ relatedSet.WaysEnd ∧
      relatedSet.toList.map (fun t => (t.vxid, (relatedSet.root true t).vxid)) = [(3, 1), (2, 1), (1, 1), (6, 6)] ∧
      (relatedSet.groups true).flatten.Perm relatedSet.toList ∧
      ∀ t ∈ relatedSet.toList, (relatedSet.groups true).countP (t ∈ ·) = 1 ∧
        ∀ g ∈ relatedSet.groups true, t ∈ g → g.count t = 1 ∧ g.head? = some (relatedSet.root true t) := by
  have hread : (readLines 100 relatedLines).result = .ok relatedSet := by decide +kernel
  obtain ⟨hparents, hchildren, hways, hroots⟩ : relatedSet.ParentsKnowChildren ∧ relatedSet.ChildrenKnowParents ∧
      relatedSet.WaysEnd ∧ relatedSet.toList.map (fun t => (t.vxid, (relatedSet.root true t).vxid)) =
        [(3, 1), (2, 1), (1, 1), (6, 6)] := by decide +kernel
  exact ⟨hread, hparents, hchildren, hways, hroots, groups_partition hread hparents hchildren hways⟩

end ProxyLog.TransactionSet
