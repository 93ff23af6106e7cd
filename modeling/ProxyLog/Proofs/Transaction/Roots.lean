import ProxyLog.Proofs.Transaction.Merging
import ProxyLog.Transaction.Consistency
import ProxyLog.Transaction.Walk

/-!
# The way up

The root of a transaction is the end of the hops that are allowed. Where the way ends before, it is the only
transaction on the way that has no parent to go to.

* `parentOf?_eq_some_iff`: where a hop leads.
* `ancestor?_root`: the root is on the way up, no more hops away than are allowed.
* `root_of_ancestor?`: where the way ends within these hops, its end is the root.
* `ancestor?_of_below`, `below_of_ancestor?`: in a consistent log the children lead down the same way.
* `mem_roots_iff`, `nodup_roots`: the roots are the ends of all ways, and each comes once.
-/

set_option autoImplicit false

namespace ProxyLog.TransactionSet
variable {ts : TransactionSet} {s : Bool} {t u p top : Transaction} {k left done : Nat}

/-! ## Hops -/

theorem hop_of_parentOf? (h : ts.parentOf? s t = some p) : ts.hop s t = .up p := by
  unfold parentOf? at h
  split at h
  · next q hq => rw [hq, Option.some.inj h]
  · cases h

/-- The next transaction on the way up is the one under the id of the parent, if that is another id. It is no session
unless sessions count. -/
theorem parentOf?_eq_some_iff : ts.parentOf? s t = some p ↔
    ∃ parent, t.parent = some parent ∧ parent ≠ t.vxid ∧ ts.get? parent = some p ∧
      (s = true ∨ p.kind ≠ .session) := by
  constructor
  · intro h
    have hup := hop_of_parentOf? h
    unfold hop at hup
    split at hup
    · cases hup
    · next parent hparent =>
      split at hup
      · cases hup
      · next hne =>
        split at hup
        · cases hup
        · next q hq =>
          split at hup
          · cases hup
          · next hkind =>
            obtain rfl := Hop.up.inj hup
            exact ⟨parent, hparent, hne, hq, by simpa [or_iff_not_imp_left] using hkind⟩
  · rintro ⟨parent, hparent, hne, hget, hkind⟩
    have hcounts : ¬((!s && p.kind == .session) = true) := by simpa [or_iff_not_imp_left] using hkind
    simp only [parentOf?, hop, hparent, hget, if_neg hne, if_neg hcounts]

theorem Filed.of_parentOf? (hf : ts.Filed) (h : ts.parentOf? s t = some p) :
    p ∈ ts.toList ∧ t.parent = some p.vxid ∧ p.vxid ≠ t.vxid := by
  obtain ⟨parent, hparent, hne, hget, -⟩ := parentOf?_eq_some_iff.mp h
  obtain ⟨hmem, rfl⟩ := hf.mem_of_get? hget
  exact ⟨hmem, hparent, hne⟩

/-- With sessions, every other transaction of the set that is named as parent is one to go to. -/
theorem Filed.parentOf?_of_mem (hf : ts.Filed) (hp : p ∈ ts.toList) (hparent : t.parent = some p.vxid)
    (hne : p.vxid ≠ t.vxid) : ts.parentOf? true t = some p :=
  parentOf?_eq_some_iff.mpr ⟨p.vxid, hparent, hne, hf.get?_of_mem hp, Or.inl rfl⟩

/-! ## Ancestors -/

theorem ancestor?_succ (ts : TransactionSet) (s : Bool) (k : Nat) (t : Transaction) :
    ts.ancestor? s (k + 1) t = (ts.parentOf? s t).bind (ts.ancestor? s k) := rfl

theorem ancestor?_succ_of_parentOf? (h : ts.parentOf? s t = some p) (k : Nat) :
    ts.ancestor? s (k + 1) t = ts.ancestor? s k p := by
  rw [ancestor?_succ, h, Option.bind_some]

theorem Filed.mem_of_ancestor? (hf : ts.Filed) (ht : t ∈ ts.toList) (h : ts.ancestor? s k t = some u) :
    u ∈ ts.toList := by
  induction k generalizing t with
  | zero => exact Option.some.inj h ▸ ht
  | succ k ih =>
    obtain ⟨p, hp, hu⟩ := Option.bind_eq_some_iff.mp h
    exact ih (hf.of_parentOf? hp).1 hu

theorem top_unique {k' : Nat} {top' : Transaction} (h : ts.ancestor? s k t = some top)
    (htop : ts.parentOf? s top = none) (h' : ts.ancestor? s k' t = some top')
    (htop' : ts.parentOf? s top' = none) : top = top' := by
  induction k generalizing t k' with
  | zero =>
    obtain rfl := Option.some.inj h
    cases k' with
    | zero => exact Option.some.inj h'
    | succ k' =>
      rw [ancestor?_succ, htop] at h'
      cases h'
  | succ k ih =>
    obtain ⟨p, hp, hup⟩ := Option.bind_eq_some_iff.mp h
    cases k' with
    | zero =>
      obtain rfl := Option.some.inj h'
      rw [htop'] at hp
      cases hp
    | succ k' =>
      rw [ancestor?_succ_of_parentOf? hp] at h'
      exact ih hup h'

/-! ## The root -/

/-- What is noticed where a way ends: that the parent is not in the log. -/
def topRemarks (ts : TransactionSet) (s : Bool) (t : Transaction) : List Notice :=
  match ts.hop s t with
  | .absent parent => [.parentAbsent parent t.txid]
  | _ => []

theorem climb_of_parentOf?_none (h : ts.parentOf? s t = none) (done left : Nat) :
    ts.climb s done left t = (t, ts.topRemarks s t) := by
  cases hop : ts.hop s t with
  | top => simp [climb, topRemarks, hop]
  | absent parent => simp [climb, topRemarks, hop]
  | up p => simp [parentOf?, hop] at h

theorem climb_zero (ts : TransactionSet) (s : Bool) (done : Nat) (t : Transaction) : (ts.climb s done 0 t).1 = t := by
  cases hop : ts.hop s t <;> simp [climb, hop]

theorem climb_succ_of_parentOf? (h : ts.parentOf? s t = some p) (done left : Nat) :
    ts.climb s done (left + 1) t = ts.climb s (done + 1) left p := by
  have hup := hop_of_parentOf? h
  simp [climb, hup]

theorem ancestor?_climb (ts : TransactionSet) (s : Bool) (done left : Nat) (t : Transaction) :
    ∃ k ≤ left, ts.ancestor? s k t = some (ts.climb s done left t).1 := by
  induction left generalizing done t with
  | zero => exact ⟨0, Nat.le_refl 0, by rw [climb_zero]; rfl⟩
  | succ left ih =>
    cases hp : ts.parentOf? s t with
    | none => exact ⟨0, Nat.zero_le _, by rw [climb_of_parentOf?_none hp]; rfl⟩
    | some p =>
      obtain ⟨k, hk, hup⟩ := ih (done + 1) p
      refine ⟨k + 1, by omega, ?_⟩
      rw [ancestor?_succ_of_parentOf? hp, climb_succ_of_parentOf? hp]
      exact hup

theorem ancestor?_root (ts : TransactionSet) (s : Bool) (t : Transaction) :
    ∃ k ≤ ts.hopLimit, ts.ancestor? s k t = some (ts.root s t) :=
  ancestor?_climb ts s 0 ts.hopLimit t

theorem climb_of_ancestor? (h : ts.ancestor? s k t = some top) (htop : ts.parentOf? s top = none) (hk : k ≤ left)
    (done : Nat) : ts.climb s done left t = (top, ts.topRemarks s top) := by
  induction k generalizing t left done with
  | zero =>
    obtain rfl := Option.some.inj h
    exact climb_of_parentOf?_none htop done left
  | succ k ih =>
    obtain ⟨p, hp, hup⟩ := Option.bind_eq_some_iff.mp h
    cases left with
    | zero => omega
    | succ left =>
      rw [climb_succ_of_parentOf? hp]
      exact ih hup (by omega) (done + 1)

/-- Where the way ends within the hops that are allowed, its end is the root. -/
theorem root_of_ancestor? (h : ts.ancestor? s k t = some top) (htop : ts.parentOf? s top = none)
    (hk : k ≤ ts.hopLimit) : ts.root s t = top := by
  rw [root, climb_of_ancestor? h htop hk]

theorem Filed.root_mem (hf : ts.Filed) (ht : t ∈ ts.toList) : ts.root s t ∈ ts.toList := by
  obtain ⟨k, -, hk⟩ := ts.ancestor?_root s t
  exact hf.mem_of_ancestor? ht hk

theorem WaysEnd.parentOf?_root (hw : ts.WaysEnd) (ht : t ∈ ts.toList) : ts.parentOf? true (ts.root true t) = none := by
  obtain ⟨k, top, hk, hup, htop⟩ := hw t ht
  rw [root_of_ancestor? hup htop (by unfold hopLimit; omega)]
  exact htop

/-- All ways end within the hops that are allowed just when no root has a parent to go to. -/
theorem waysEnd_iff : ts.WaysEnd ↔
    ∀ t ∈ ts.toList, 0 ≤ ts.maxDepth ∧ (ts.parentOf? true (ts.root true t)).isNone = true := by
  constructor
  · intro hw t ht
    obtain ⟨k, top, hk, -, -⟩ := hw t ht
    exact ⟨by omega, Option.isNone_iff_eq_none.mpr (hw.parentOf?_root ht)⟩
  · intro h t ht
    obtain ⟨hdepth, hnone⟩ := h t ht
    obtain ⟨k, hk, hroot⟩ := ts.ancestor?_root true t
    unfold hopLimit at hk
    exact ⟨k, ts.root true t, by omega, hroot, Option.isNone_iff_eq_none.mp hnone⟩

instance (ts : TransactionSet) : Decidable ts.WaysEnd := decidable_of_iff _ waysEnd_iff.symm

instance (ts : TransactionSet) : Decidable ts.ParentsKnowChildren := by
  unfold ParentsKnowChildren
  infer_instance

instance (ts : TransactionSet) : Decidable ts.ChildrenKnowParents := by
  unfold ChildrenKnowParents
  infer_instance

/-! ## The way down -/

theorem mem_sortByVxid {txs : List Transaction} : t ∈ sortByVxid txs ↔ t ∈ txs := List.mem_mergeSort

theorem pairwise_sortByVxid (txs : List Transaction) : (sortByVxid txs).Pairwise fun a b => a.vxid ≤ b.vxid := by
  have hsorted : (sortByVxid txs).Pairwise fun a b => decide (a.vxid ≤ b.vxid) = true := by
    refine List.pairwise_mergeSort ?_ ?_ txs
    · exact fun a b c hab hbc => decide_eq_true (Int.le_trans (of_decide_eq_true hab) (of_decide_eq_true hbc))
    · exact fun a b => by simpa using Int.le_total a.vxid b.vxid
  exact hsorted.imp of_decide_eq_true

theorem Filed.mem_childrenOf_iff (hf : ts.Filed) : t ∈ ts.childrenOf p ↔ t ∈ ts.toList ∧ t.vxid ∈ p.children := by
  rw [childrenOf, mem_sortByVxid, List.mem_filterMap]
  constructor
  · rintro ⟨vxid, hvxid, hget⟩
    obtain ⟨hmem, rfl⟩ := hf.mem_of_get? hget
    exact ⟨hmem, hvxid⟩
  · rintro ⟨hmem, hvxid⟩
    exact ⟨t.vxid, hvxid, hf.get?_of_mem hmem⟩

theorem Filed.childrenOf_subset (hf : ts.Filed) (t : Transaction) : ts.childrenOf t ⊆ ts.toList :=
  fun _ hc => (hf.mem_childrenOf_iff.mp hc).1

theorem Filed.mem_of_below (hf : ts.Filed) (ht : t ∈ ts.toList) (h : ts.Below t u) : u ∈ ts.toList := by
  induction h with
  | refl => exact ht
  | child _ hc _ => exact hf.childrenOf_subset _ hc

/-- What the way up meets has the transaction below it, where parents know their children. -/
theorem Filed.below_of_ancestor? (hf : ts.Filed) (hp : ts.ParentsKnowChildren) (ht : t ∈ ts.toList)
    (h : ts.ancestor? s k t = some u) : ts.Below u t := by
  induction k generalizing t with
  | zero =>
    obtain rfl := Option.some.inj h
    exact .refl _
  | succ k ih =>
    obtain ⟨p, hup, hu⟩ := Option.bind_eq_some_iff.mp h
    obtain ⟨hmem, hparent, hne⟩ := hf.of_parentOf? hup
    have hchild : t ∈ ts.childrenOf p := hf.mem_childrenOf_iff.mpr ⟨ht, hp t ht p hmem hparent hne⟩
    exact (ih hmem hu).child hchild

/-- What is below a transaction meets it on its way up, where children know their parents. -/
theorem Filed.ancestor?_of_below (hf : ts.Filed) (hc : ts.ChildrenKnowParents) (ht : t ∈ ts.toList)
    (h : ts.Below t u) : ∃ k, ts.ancestor? true k u = some t := by
  induction h with
  | refl => exact ⟨0, rfl⟩
  | child hb hchild ih =>
    rename_i b c
    obtain ⟨k, hk⟩ := ih
    obtain ⟨hmem, hvxid⟩ := hf.mem_childrenOf_iff.mp hchild
    have hbmem := hf.mem_of_below ht hb
    by_cases hself : b.vxid = c.vxid
    · -- A transaction may be a child of its own; that is no hop.
      rw [hf.eq_of_vxid_eq hmem hbmem hself.symm]
      exact ⟨k, hk⟩
    · have hup := hf.parentOf?_of_mem hbmem (hc b hbmem c hmem hvxid) hself
      exact ⟨k + 1, by rw [ancestor?_succ_of_parentOf? hup, hk]⟩

/-! ## All roots -/

/-- The roots of all transactions by composite id. -/
def rootsByTxid (ts : TransactionSet) (s : Bool) : OrderedMap String Transaction :=
  OrderedMap.empty.insertAll (ts.sorted.map fun t => ((ts.root s t).txid, ts.root s t))

theorem all_rootsByTxid (ts : TransactionSet) (s : Bool) :
    (ts.rootsByTxid s).All fun txid r => txid = r.txid ∧ ∃ t ∈ ts.toList, ts.root s t = r := by
  refine (OrderedMap.all_empty _).insertAll fun q hq => ?_
  obtain ⟨t, ht, rfl⟩ := List.mem_map.mp hq
  exact ⟨rfl, t, mem_sortByVxid.mp ht, rfl⟩

theorem mem_roots : p ∈ ts.roots s ↔ p ∈ (ts.rootsByTxid s).values := mem_sortByVxid

theorem nodup_roots (ts : TransactionSet) (s : Bool) : (ts.roots s).Nodup := by
  have hkeys : (ts.rootsByTxid s).keys.Nodup := OrderedMap.nodup_keys_insertAll (m := .empty) List.nodup_nil _
  have htxid : (ts.rootsByTxid s).values.map (·.txid) = (ts.rootsByTxid s).keys := by
    rw [OrderedMap.values, OrderedMap.keys, List.map_map]
    exact List.map_congr_left fun q hq => (all_rootsByTxid ts s q hq).1.symm
  have hvalues : (ts.rootsByTxid s).values.Nodup := by
    rw [← htxid] at hkeys
    exact hkeys.of_map _
  exact (List.mergeSort_perm _ _).nodup_iff.mpr hvalues

theorem exists_of_mem_roots (h : p ∈ ts.roots s) : ∃ t ∈ ts.toList, ts.root s t = p := by
  obtain ⟨q, hq, rfl⟩ := List.mem_map.mp (mem_roots.mp h)
  exact (all_rootsByTxid ts s q hq).2

theorem exists_mem_roots (ht : t ∈ ts.toList) : ∃ r ∈ ts.roots s, r.txid = (ts.root s t).txid := by
  have hkey : (ts.root s t).txid ∈ (ts.rootsByTxid s).keys := by
    refine OrderedMap.mem_keys_insertAll.mpr (Or.inr ?_)
    rw [List.map_map]
    exact List.mem_map.mpr ⟨t, mem_sortByVxid.mpr ht, rfl⟩
  obtain ⟨q, hq, hfst⟩ := List.mem_map.mp hkey
  refine ⟨q.2, mem_roots.mpr (List.mem_map_of_mem hq), ?_⟩
  rw [← (all_rootsByTxid ts s q hq).1, hfst]

/-- Where composite ids tell transactions apart, the roots are the ends of all ways. -/
theorem Filed.mem_roots_iff (hf : ts.Filed) (hid : ∀ t ∈ ts.toList, ∀ u ∈ ts.toList, t.txid = u.txid → t = u) :
    p ∈ ts.roots s ↔ ∃ t ∈ ts.toList, ts.root s t = p := by
  refine ⟨exists_of_mem_roots, ?_⟩
  rintro ⟨t, ht, rfl⟩
  obtain ⟨r, hr, htxid⟩ := exists_mem_roots (s := s) ht
  obtain ⟨u, hu, rfl⟩ := exists_of_mem_roots hr
  rw [← hid _ (hf.root_mem hu) _ (hf.root_mem ht) htxid]
  exact hr

end ProxyLog.TransactionSet
