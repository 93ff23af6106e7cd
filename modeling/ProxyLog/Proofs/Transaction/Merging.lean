import ProxyLog.Proofs.OrderedMap
import ProxyLog.Transaction.Set

/-!
# Sets put into sets

* `TransactionSet.Filed ts`: every transaction is filed under its own id, once; `filed_ofList`: the sets
  that are read are such sets.
* `TransactionSet.Merges a b c`: `c` is `a` with the transactions of `b` put in; `merges_addAll` is the set that
  results.
* `Filed.get?_of_mem`, `Filed.mem_of_get?`: in such a set look-up finds just its transactions.
* `addAll_toList_ofList`: transactions that are gathered in a set of their own first end up at the same
  place.
-/

set_option autoImplicit false

namespace ProxyLog.TransactionSet

/-- Every transaction is filed under its own id, once. -/
structure Filed (ts : TransactionSet) : Prop where
  nodup : ts.byVxid.keys.Nodup
  own : ts.byVxid.All fun vxid t => vxid = t.vxid

/-- The set `a` with the transactions of `b` put in: an id of `a` keeps its place, and new ids follow in the
order of `b`; where both have a transaction, that of `b` counts. -/
structure Merges (a b c : TransactionSet) : Prop where
  maxDepth : c.maxDepth = a.maxDepth
  vxids : c.byVxid.keys = a.byVxid.keys ++ b.byVxid.keys.filter (· ∉ a.byVxid.keys)
  get? : ∀ vxid, c.get? vxid = (b.get? vxid).or (a.get? vxid)

variable {ts : TransactionSet}

theorem filed_empty (maxDepth : Int) : (empty maxDepth).Filed := ⟨List.nodup_nil, OrderedMap.all_empty _⟩

theorem Filed.add (h : ts.Filed) (t : Transaction) : (ts.add t).Filed :=
  ⟨OrderedMap.nodup_keys_alter h.nodup _ _, h.own.insert rfl⟩

theorem Filed.addAll (h : ts.Filed) (txs : List Transaction) : (ts.addAll txs).Filed := by
  induction txs generalizing ts with
  | nil => exact h
  | cons t txs ih => exact ih (h.add t)

theorem filed_ofList (maxDepth : Int) (txs : List Transaction) : (ofList maxDepth txs).Filed :=
  (filed_empty maxDepth).addAll txs

def entry (t : Transaction) : Int × Transaction := (t.vxid, t)

theorem addAll_eq_insertAll (ts : TransactionSet) (txs : List Transaction) :
    ts.addAll txs = ⟨ts.maxDepth, ts.byVxid.insertAll (txs.map entry)⟩ := by
  induction txs generalizing ts with
  | nil => rfl
  | cons t txs ih => exact ih (ts.add t)

/-- Transactions of distinct ids are a set as they stand. -/
theorem toList_ofList (maxDepth : Int) {txs : List Transaction} (h : (txs.map (·.vxid)).Nodup) :
    (ofList maxDepth txs).toList = txs := by
  have hkeys : ((txs.map entry).map (·.1)).Nodup := by
    rw [List.map_map]
    exact h
  have hmap : (ofList maxDepth txs).byVxid = ⟨txs.map entry⟩ := by
    rw [ofList, addAll_eq_insertAll]
    exact OrderedMap.insertAll_empty hkeys
  rw [toList, hmap, OrderedMap.values, List.map_map]
  exact List.map_id txs

theorem Filed.map_entry_toList (h : ts.Filed) : ts.toList.map entry = ts.byVxid.toList := by
  rw [toList, OrderedMap.values, List.map_map]
  conv_rhs => rw [← List.map_id ts.byVxid.toList]
  refine List.map_congr_left fun q hq => ?_
  exact Prod.ext (h.own q hq).symm rfl

theorem ofList_append (maxDepth : Int) (front back : List Transaction) :
    ofList maxDepth (front ++ back) = (ofList maxDepth front).addAll back := by
  rw [ofList, addAll, List.foldl_append]
  rfl

theorem addAll_toList_ofList (h : ts.byVxid.keys.Nodup) (maxDepth : Int) (txs : List Transaction) :
    ts.addAll (ofList maxDepth txs).toList = ts.addAll txs := by
  rw [addAll_eq_insertAll, addAll_eq_insertAll, (filed_ofList maxDepth txs).map_entry_toList, ofList,
    addAll_eq_insertAll]
  exact congrArg (mk ts.maxDepth) (OrderedMap.insertAll_toList_insertAll h _)

/-- A set that was read is put together again from its transactions. -/
theorem ofList_toList_ofList (maxDepth : Int) (txs : List Transaction) :
    ofList maxDepth (ofList maxDepth txs).toList = ofList maxDepth txs :=
  addAll_toList_ofList (filed_empty maxDepth).nodup maxDepth txs

theorem merges_addAll (a : TransactionSet) {b : TransactionSet} (hb : b.Filed) :
    Merges a b (a.addAll b.toList) where
  maxDepth := maxDepth_addAll a _
  vxids := by
    rw [addAll_eq_insertAll, hb.map_entry_toList]
    exact OrderedMap.keys_insertAll _ hb.nodup
  get? := by
    intro vxid
    rw [addAll_eq_insertAll, hb.map_entry_toList]
    exact OrderedMap.get?_insertAll _ hb.nodup vxid

/-! ## Transactions of a set -/

variable {t u : Transaction} {vxid : Int}

theorem Filed.map_vxid_toList (h : ts.Filed) : ts.toList.map (·.vxid) = ts.byVxid.keys := by
  have hfst := congrArg (List.map Prod.fst) h.map_entry_toList
  rw [List.map_map] at hfst
  exact hfst

theorem Filed.nodup_toList (h : ts.Filed) : ts.toList.Nodup := by
  have hkeys := h.nodup
  rw [← h.map_vxid_toList] at hkeys
  exact hkeys.of_map _

theorem Filed.get?_of_mem (h : ts.Filed) (ht : t ∈ ts.toList) : ts.get? t.vxid = some t := by
  refine OrderedMap.get?_of_mem h.nodup ?_
  rw [← h.map_entry_toList]
  exact List.mem_map_of_mem ht

theorem Filed.mem_of_get? (h : ts.Filed) (hget : ts.get? vxid = some t) : t ∈ ts.toList ∧ t.vxid = vxid :=
  ⟨List.mem_map_of_mem (OrderedMap.mem_of_get? hget), (h.own.get? hget).symm⟩

theorem Filed.eq_of_vxid_eq (h : ts.Filed) (ht : t ∈ ts.toList) (hu : u ∈ ts.toList) (heq : t.vxid = u.vxid) :
    t = u := by
  have hget := h.get?_of_mem ht
  rw [heq, h.get?_of_mem hu] at hget
  exact (Option.some.inj hget).symm

theorem mem_of_mem_ofList {maxDepth : Int} {txs : List Transaction} {t : Transaction}
    (h : t ∈ (ofList maxDepth txs).toList) : t ∈ txs := by
  have hall : (ofList maxDepth txs).byVxid.All fun _ t => t ∈ txs := by
    rw [ofList, addAll_eq_insertAll]
    refine (OrderedMap.all_empty _).insertAll fun q hq => ?_
    obtain ⟨u, hu, rfl⟩ := List.mem_map.mp hq
    exact hu
  obtain ⟨q, hq, rfl⟩ := List.mem_map.mp h
  exact hall q hq

end ProxyLog.TransactionSet
