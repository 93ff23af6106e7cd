import ProxyLog.Proofs.Transaction.Roots

/-!
# The way down

A search visits a transaction when its id was not visited yet, and then what is below it. So it visits each id
once, and, whatever loops there are, all that is below a root.

* `search_sound`: what is visited is below the stack, and was not visited before.
* `search_stack`, `search_child`: the search leaves out nothing on the stack and no child of what it visits.
* `mem_groupOf_iff`, `nodup_groupOf`: the group of a root is what is below it, each transaction once.
-/

set_option autoImplicit false

namespace ProxyLog.TransactionSet
variable {ts : TransactionSet} {pool : List Int} {stack : List Transaction} {t u c root : Transaction}

theorem search_cons_of_mem (h : t.vxid ∈ pool) (rest : List Transaction) :
    ts.search pool (t :: rest) = t :: ts.search (pool.erase t.vxid) (ts.childrenOf t ++ rest) := by
  rw [search, if_pos h]

/-! ## What is visited -/

theorem search_sound (h : u ∈ ts.search pool stack) : u.vxid ∈ pool ∧ ∃ t ∈ stack, ts.Below t u := by
  fun_induction search ts pool stack with
  | case1 pool => cases h
  | case2 pool t rest hmem ih =>
    rcases List.mem_cons.mp h with rfl | h
    · exact ⟨hmem, u, List.mem_cons_self, .refl u⟩
    · obtain ⟨hpool, v, hv, hbelow⟩ := ih h
      refine ⟨List.mem_of_mem_erase hpool, ?_⟩
      rcases List.mem_append.mp hv with hv | hv
      · exact ⟨t, List.mem_cons_self, ((Below.refl t).child hv).trans hbelow⟩
      · exact ⟨v, List.mem_cons_of_mem _ hv, hbelow⟩
  | case3 pool t rest hmem ih =>
    obtain ⟨hpool, v, hv, hbelow⟩ := ih h
    exact ⟨hpool, v, List.mem_cons_of_mem _ hv, hbelow⟩

theorem nodup_vxid_search (ts : TransactionSet) (hpool : pool.Nodup) (stack : List Transaction) :
    ((ts.search pool stack).map (·.vxid)).Nodup := by
  fun_induction search ts pool stack with
  | case1 pool => exact List.nodup_nil
  | case2 pool t rest hmem ih =>
    refine List.nodup_cons.mpr ⟨?_, ih (hpool.erase _)⟩
    intro hagain
    obtain ⟨u, hu, heq⟩ := List.mem_map.mp hagain
    have herased := (search_sound hu).1
    rw [heq] at herased
    exact hpool.not_mem_erase herased
  | case3 pool t rest hmem ih => exact ih hpool

/-! ## Nothing is left out -/

theorem search_stack (ht : t ∈ stack) (hpool : t.vxid ∈ pool) :
    t.vxid ∈ (ts.search pool stack).map (·.vxid) := by
  fun_induction search ts pool stack with
  | case1 pool => cases ht
  | case2 pool u rest hmem ih =>
    by_cases hsame : t.vxid = u.vxid
    · rw [hsame]
      exact List.mem_cons_self
    · have hrest : t ∈ ts.childrenOf u ++ rest := by
        rcases List.mem_cons.mp ht with rfl | ht
        · exact absurd rfl hsame
        · exact List.mem_append_right _ ht
      exact List.mem_cons_of_mem _ (ih hrest ((List.mem_erase_of_ne hsame).mpr hpool))
  | case3 pool u rest hmem ih =>
    rcases List.mem_cons.mp ht with rfl | ht
    · exact absurd hpool hmem
    · exact ih ht hpool

theorem search_child (hu : u ∈ ts.search pool stack) (hc : c ∈ ts.childrenOf u) (hpool : c.vxid ∈ pool) :
    c.vxid ∈ (ts.search pool stack).map (·.vxid) := by
  fun_induction search ts pool stack with
  | case1 pool => cases hu
  | case2 pool t rest hmem ih =>
    by_cases hsame : c.vxid = t.vxid
    · rw [hsame]
      exact List.mem_cons_self
    · have herased : c.vxid ∈ pool.erase t.vxid := (List.mem_erase_of_ne hsame).mpr hpool
      rcases List.mem_cons.mp hu with rfl | hu
      · exact List.mem_cons_of_mem _ (search_stack (List.mem_append_left _ hc) herased)
      · exact List.mem_cons_of_mem _ (ih hu herased)
  | case3 pool t rest hmem ih => exact ih hu hpool

/-! ## The group of a root -/

theorem Filed.mem_keys_iff (hf : ts.Filed) {vxid : Int} :
    vxid ∈ ts.byVxid.keys ↔ ∃ t ∈ ts.toList, t.vxid = vxid := by
  rw [← hf.map_vxid_toList, List.mem_map]

theorem Filed.groupOf_eq_search (hf : ts.Filed) (hr : root ∈ ts.toList) :
    ts.groupOf root = ts.search ts.byVxid.keys [root] := by
  have hkey := hf.mem_keys_iff.mpr ⟨root, hr, rfl⟩
  rw [search_cons_of_mem hkey, List.append_nil]
  rfl

/-- The group of a root is all that is below it. -/
theorem Filed.mem_groupOf_iff (hf : ts.Filed) (hr : root ∈ ts.toList) : u ∈ ts.groupOf root ↔ ts.Below root u := by
  rw [hf.groupOf_eq_search hr]
  constructor
  · intro hu
    obtain ⟨-, t, ht, hbelow⟩ := search_sound hu
    rwa [List.mem_singleton.mp ht] at hbelow
  · intro hbelow
    -- An id that is visited is that of the one transaction with this id.
    have hvisited {v : Transaction} (hv : v ∈ ts.toList)
        (hid : v.vxid ∈ (ts.search ts.byVxid.keys [root]).map (·.vxid)) : v ∈ ts.search ts.byVxid.keys [root] := by
      obtain ⟨w, hw, heq⟩ := List.mem_map.mp hid
      obtain ⟨-, t, ht, hw'⟩ := search_sound hw
      rw [List.mem_singleton.mp ht] at hw'
      rwa [hf.eq_of_vxid_eq hv (hf.mem_of_below hr hw') heq.symm]
    induction hbelow with
    | refl => exact hvisited hr (search_stack List.mem_cons_self (hf.mem_keys_iff.mpr ⟨_, hr, rfl⟩))
    | child _ hc ih =>
      have hmem := hf.childrenOf_subset _ hc
      exact hvisited hmem (search_child ih hc (hf.mem_keys_iff.mpr ⟨_, hmem, rfl⟩))

theorem Filed.nodup_groupOf (hf : ts.Filed) (hr : root ∈ ts.toList) : (ts.groupOf root).Nodup := by
  have hids := ts.nodup_vxid_search hf.nodup [root]
  rw [hf.groupOf_eq_search hr]
  exact hids.of_map _

end ProxyLog.TransactionSet
