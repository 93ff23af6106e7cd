import Mathlib
import ProxyLog.Proofs.Text.Quoted
import ProxyLog.Proofs.Transaction.Merging
import ProxyLog.Proofs.Transaction.WellFormed

/-!
# Composite ids

The composite id of a transaction starts with its number, and no number holds the mark that follows. So the
composite id tells the number, whatever the kind holds that the log names.

* `vxid_of_txidOf_eq`: equal composite ids are of equal numbers.
* `exists_yields_of_readLines`: every transaction of a set that was read is what some block yields.
* `eq_of_txid_eq`: no two transactions of such a set have one composite id.
-/

set_option autoImplicit false

namespace ProxyLog

theorem exists_toList_txidOf (vxid : Int) (kind : String) (esiLevel : Int) :
    ∃ rest, (txidOf vxid kind esiLevel).toList = vxid.repr.toList ++ '_' :: rest := by
  have hmark (rest : String) : (vxid.repr ++ "_" ++ rest).toList = vxid.repr.toList ++ '_' :: rest.toList := by
    simp [String.toList_append]
  unfold txidOf
  split
  · refine ⟨_, Eq.trans ?_ (hmark (kind ++ ("_esi_" ++ toString esiLevel)))⟩
    simp only [← String.append_assoc]
    rfl
  · exact ⟨kind.toList, hmark kind⟩

theorem vxid_of_txidOf_eq {vxid other esiLevel esiLevel' : Int} {kind kind' : String}
    (h : txidOf vxid kind esiLevel = txidOf other kind' esiLevel') : vxid = other := by
  have hmark (n : Int) : '_' ∉ n.repr.toList := Text.notMem_repr (by decide) (by decide) n
  obtain ⟨rest, hrest⟩ := exists_toList_txidOf vxid kind esiLevel
  obtain ⟨rest', hrest'⟩ := exists_toList_txidOf other kind' esiLevel'
  have hlist : vxid.repr.toList ++ '_' :: rest = other.repr.toList ++ '_' :: rest' := by
    rw [← hrest, ← hrest', h]
  have hrepr := (Text.append_mark_inj (hmark vxid) (hmark other) hlist).1
  exact Int.repr_injective (String.toList_inj.mp hrepr)

namespace TransactionSet
variable {maxDepth : Int} {lines : List String} {ts : TransactionSet} {t u : Transaction}

theorem exists_yields_of_readLines (h : (readLines maxDepth lines).result = .ok ts) (ht : t ∈ ts.toList) :
    ∃ b : Block, b.Yields t := by
  obtain ⟨txs, hdeliver, rfl⟩ := readLines_eq_ok_iff.mp h
  obtain ⟨parts, -, hparts⟩ := exists_logYields hdeliver
  exact hparts.exists_yields (mem_of_mem_ofList ht)

theorem filed_of_readLines (h : (readLines maxDepth lines).result = .ok ts) : ts.Filed := by
  obtain ⟨txs, -, rfl⟩ := readLines_eq_ok_iff.mp h
  exact filed_ofList maxDepth txs

theorem exists_txid_of_readLines (h : (readLines maxDepth lines).result = .ok ts) (ht : t ∈ ts.toList) :
    ∃ kind esiLevel, t.txid = txidOf t.vxid kind esiLevel := by
  obtain ⟨b, hb⟩ := exists_yields_of_readLines h ht
  obtain ⟨first, body, last, parent, hframed⟩ := hb.wellFormed.framed
  exact ⟨parent.kind, parent.esiLevel, hframed.txid⟩

/-- No two transactions of a set that was read have one composite id. -/
theorem eq_of_txid_eq (h : (readLines maxDepth lines).result = .ok ts) (ht : t ∈ ts.toList) (hu : u ∈ ts.toList)
    (heq : t.txid = u.txid) : t = u := by
  obtain ⟨kind, esiLevel, htxid⟩ := exists_txid_of_readLines h ht
  obtain ⟨kind', esiLevel', htxid'⟩ := exists_txid_of_readLines h hu
  rw [htxid, htxid'] at heq
  exact (filed_of_readLines h).eq_of_vxid_eq ht hu (vxid_of_txidOf_eq heq)

end TransactionSet
end ProxyLog
