import ProxyLog.Proofs.Transaction.Txid

/-!
# Sets that are read

* `readLines_wellFormed`: in a set that was read each transaction is filed under its own id, is well-formed and
  has a composite id of its own.
-/

set_option autoImplicit false

namespace ProxyLog

/-- In a set that was read from any lines, each transaction is filed under its own id, and under that id alone.
Its records stand between one that opens and one that closes it, all its ids have 32 bits, its parent is not zero,
its children are those of its links, each once and in the order in which they first came, and no other transaction
has its composite id. -/
theorem readLines_wellFormed {maxDepth : Int} {lines : List String} {ts : TransactionSet}
    (h : (readLines maxDepth lines).result = .ok ts) :
    ts.byVxid.keys.Nodup ∧ (∀ vxid t, (vxid, t) ∈ ts.byVxid.toList → vxid = t.vxid ∧ t.WellFormed) ∧
      ∀ t ∈ ts.toList, ∀ u ∈ ts.toList, t.txid = u.txid → t = u := by
  have hfiled := TransactionSet.filed_of_readLines h
  refine ⟨hfiled.nodup, ?_, fun t ht u hu => TransactionSet.eq_of_txid_eq h ht hu⟩
  intro vxid t hmem
  have ht : t ∈ ts.toList := List.mem_map_of_mem hmem
  obtain ⟨b, hb⟩ := TransactionSet.exists_yields_of_readLines h ht
  exact ⟨hfiled.own _ hmem, hb.wellFormed⟩

/-- A session that links one request twice, and two transactions of one id whose composite ids read the same. -/
def relinkedLines : List String :=
  ["*   << Session  >> 1", "-   Begin  sess 0 HTTP/1", "-   Link  req 4294967295 rxreq", "-   Link  req 2 rxreq",
   "-   Link  req 4294967295 rxreq", "-   End",
   "**  << Request  >> 2", "--  Begin  req 1 esi 1", "--  End",
   "**  << Request  >> 2", "--  Begin  req_esi_1 1 rxreq", "--  Link  bereq 2 fetch", "--  End"]

/-- The set that is read from these lines. -/
def relinkedSet : TransactionSet :=
  match (readLines 100 relinkedLines).result with
  | .ok ts => ts
  | .error _ => .empty 100

theorem readLines_wellFormed_relinked :
    (readLines 100 relinkedLines).result = .ok relinkedSet ∧
      relinkedSet.byVxid.toList.map (fun q => (q.1, q.2.txid, q.2.parent, q.2.children, q.2.reason)) =
        [(1, "1_sess", none, [4294967295, 2], "HTTP/1"), (2, "2_req_esi_1", some 1, [2], "rxreq")] ∧
      relinkedSet.byVxid.keys.Nodup ∧
      (∀ vxid t, (vxid, t) ∈ relinkedSet.byVxid.toList → vxid = t.vxid ∧ t.WellFormed) ∧
      ∀ t ∈ relinkedSet.toList, ∀ u ∈ relinkedSet.toList, t.txid = u.txid → t = u := by
  have hread : (readLines 100 relinkedLines).result = .ok relinkedSet := by decide +kernel
  refine ⟨hread, ?_, readLines_wellFormed hread⟩
  decide +kernel

end ProxyLog
