import ProxyLog.Proofs.Transaction.Groups

/-!
# No transaction is left out

On a loop, or on a way that is longer than allowed, the way up stops anywhere. Wherever it stops, the children
lead the same way down again if parents know their children, so a transaction is in the group of its root.

* `mem_groupOf_root`: a transaction is below its root.
* `groups_cover`: every transaction of a log that was read is in the group of its root, which is one of the
  groups.
-/

set_option autoImplicit false

namespace ProxyLog.TransactionSet
variable {ts : TransactionSet} {t : Transaction}

theorem Filed.mem_groupOf_root (hf : ts.Filed) (hp : ts.ParentsKnowChildren) (s : Bool) (ht : t ∈ ts.toList) :
    t ∈ ts.groupOf (ts.root s t) := by
  obtain ⟨k, -, hup⟩ := ts.ancestor?_root s t
  have hbelow : ts.Below (ts.root s t) t := hf.below_of_ancestor? hp ht hup
  exact (hf.mem_groupOf_iff (hf.root_mem ht)).mpr hbelow

/-- Where parents know their children every transaction of a log that was read is in some group, whatever loops
there are, however far the way up may go, and whether or not sessions count. -/
theorem groups_cover {maxDepth : Int} {lines : List String} (h : (readLines maxDepth lines).result = .ok ts)
    (hp : ts.ParentsKnowChildren) (s : Bool) :
    ∀ t ∈ ts.toList, ∃ g ∈ ts.groups s, g.head? = some (ts.root s t) ∧ t ∈ g := by
  intro t ht
  have hroot := root_mem_roots h s ht
  exact ⟨ts.groupOf (ts.root s t), List.mem_map_of_mem hroot, rfl, (filed_of_readLines h).mem_groupOf_root hp s ht⟩

/-- A session with a request, and three requests that are each the parent of the next. -/
def loopedLines : List String :=
  ["*   << Session  >> 1", "-   Begin  sess 0 HTTP/1", "-   Link  req 2 rxreq", "-   End",
   "**  << Request  >> 2", "--  Begin  req 1 rxreq", "--  End",
   "**  << Request  >> 5", "--  Begin  req 7 restart", "--  Link  req 6 restart", "--  End",
   "**  << Request  >> 6", "--  Begin  req 5 restart", "--  Link  req 7 restart", "--  End",
   "**  << Request  >> 7", "--  Begin  req 6 restart", "--  Link  req 5 restart", "--  End"]

/-- The set that is read from these lines, with one hop up. -/
def loopedSet : TransactionSet :=
  match (readLines 1 loopedLines).result with
  | .ok ts => ts
  | .error _ => empty 1

theorem groups_cover_looped :
    (readLines 1 loopedLines).result = .ok loopedSet ∧ loopedSet.ParentsKnowChildren ∧ ¬ loopedSet.WaysEnd ∧
      loopedSet.toList.map (fun t => (t.vxid, (loopedSet.root false t).vxid)) =
        [(1, 1), (2, 2), (5, 7), (6, 5), (7, 6)] ∧
      ∀ t ∈ loopedSet.toList,
        ∃ g ∈ loopedSet.groups false, g.head? = some (loopedSet.root false t) ∧ t ∈ g := by
  have hread : (readLines 1 loopedLines).result = .ok loopedSet := by decide +kernel
  obtain ⟨hparents, hways, hroots⟩ : loopedSet.ParentsKnowChildren ∧ ¬ loopedSet.WaysEnd ∧
      loopedSet.toList.map (fun t => (t.vxid, (loopedSet.root false t).vxid)) =
        [(1, 1), (2, 2), (5, 7), (6, 5), (7, 6)] := by decide +kernel
  exact ⟨hread, hparents, hways, hroots, groups_cover hread hparents false⟩

end ProxyLog.TransactionSet
