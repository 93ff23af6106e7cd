import Mathlib.Data.ENat.Lattice
import Mathlib.Data.Fintype.Pigeonhole
import Mathlib.Order.CompletePartialOrder
import ProxyLog.Proofs.Transaction.Roots

/-!
# How far it is to the top

The way up ends at a transaction without a parent to go to, or it goes round and has no end. The root is as many hops
up as there are and as are allowed, and the remark on a loop is made just when there are more than are allowed.

* `ancestor?_add`: the way up goes on from what it has met.
* `hopsUp ts s t`: the number of hops to the end of the way; `le_hopsUp_iff`: those that can be made.
* `hopsUp_eq_coe_iff`, `hopsUp_eq_top_iff`: where a way ends, and that it has no end only where it goes round.
* `root_of_hopsUp`: the root and the remark.
-/

set_option autoImplicit false

namespace ProxyLog.TransactionSet
variable {ts : TransactionSet} {s : Bool} {t u p top : Transaction} {i j k n left : ℕ}

/-! ## The way up -/

theorem ancestor?_add (ts : TransactionSet) (s : Bool) (i j : ℕ) (t : Transaction) :
    ts.ancestor? s (i + j) t = (ts.ancestor? s i t).bind (ts.ancestor? s j) := by
  induction i generalizing t with
  | zero => rw [Nat.zero_add, ancestor?, Option.bind_some]
  | succ i ih =>
    rw [Nat.add_right_comm, ancestor?_succ, ancestor?_succ, Option.bind_assoc]
    exact Option.bind_congr fun p _ => ih p

theorem ancestor?_add_of_eq (h : ts.ancestor? s i t = some u) (j : ℕ) :
    ts.ancestor? s (i + j) t = ts.ancestor? s j u := by
  rw [ancestor?_add, h, Option.bind_some]

theorem ancestor?_one (ts : TransactionSet) (s : Bool) (t : Transaction) : ts.ancestor? s 1 t = ts.parentOf? s t :=
  Option.bind_fun_some _

theorem isSome_ancestor?_of_le (h : (ts.ancestor? s n t).isSome) (hk : k ≤ n) : (ts.ancestor? s k t).isSome := by
  obtain ⟨j, rfl⟩ := Nat.exists_eq_add_of_le hk
  rw [ancestor?_add] at h
  exact Option.isSome_of_isSome_bind h

theorem mem_toList_of_parentOf? (h : ts.parentOf? s t = some p) : p ∈ ts.toList := by
  obtain ⟨vxid, -, -, hget, -⟩ := parentOf?_eq_some_iff.mp h
  exact List.mem_map_of_mem (OrderedMap.mem_of_get? hget)

/-! ## The number of hops -/

/-- The number of hops on the way up from a transaction; where the way has no end, there is none to them either. -/
noncomputable def hopsUp (ts : TransactionSet) (s : Bool) (t : Transaction) : ℕ∞ :=
  ⨆ (k : ℕ) (_ : (ts.ancestor? s k t).isSome), (k : ℕ∞)

theorem le_hopsUp_iff : (n : ℕ∞) ≤ ts.hopsUp s t ↔ (ts.ancestor? s n t).isSome := by
  constructor
  · contrapose
    intro hnone
    cases n with
    | zero => exact absurd rfl hnone
    | succ n =>
      -- No number of hops that can be made is above `n`.
      have hle : ts.hopsUp s t ≤ n := by
        refine iSup₂_le fun k hk => ?_
        have hlt : k < n + 1 := not_le.mp fun hle => hnone (isSome_ancestor?_of_le hk hle)
        exact Nat.cast_le.mpr (Nat.le_of_lt_succ hlt)
      exact not_le.mpr (lt_of_le_of_lt hle (Nat.cast_lt.mpr n.lt_succ_self))
  · intro h
    exact le_iSup₂_of_le n h le_rfl

theorem hopsUp_eq_coe_iff :
    ts.hopsUp s t = n ↔ ∃ top, ts.ancestor? s n t = some top ∧ ts.parentOf? s top = none := by
  have hnext : (ts.hopsUp s t ≤ n) ↔ ts.ancestor? s (n + 1) t = none := by
    rw [← not_lt, ← ENat.natCast_add_one_le_iff, ← Nat.cast_succ, le_hopsUp_iff, Option.not_isSome_iff_eq_none]
  rw [le_antisymm_iff, le_hopsUp_iff, hnext, Option.isSome_iff_exists]
  constructor
  · rintro ⟨hnone, top, htop⟩
    rw [ancestor?_add_of_eq htop, ancestor?_one] at hnone
    exact ⟨top, htop, hnone⟩
  · rintro ⟨top, htop, hnone⟩
    rw [ancestor?_add_of_eq htop, ancestor?_one]
    exact ⟨hnone, top, htop⟩

/-- A way that meets a transaction again comes back to it as often as one likes. -/
theorem ancestor?_add_mul (hi : ts.ancestor? s i t = some u) (hj : ts.ancestor? s (i + j) t = some u) (m : ℕ) :
    ts.ancestor? s (i + j * m) t = some u := by
  induction m with
  | zero => exact hi
  | succ m ih =>
    rw [Nat.mul_succ, ← Nat.add_assoc, ancestor?_add_of_eq ih, ← ancestor?_add_of_eq hi]
    exact hj

theorem hopsUp_eq_top_iff :
    ts.hopsUp s t = ⊤ ↔ ∃ i j u, i < j ∧ ts.ancestor? s i t = some u ∧ ts.ancestor? s j t = some u := by
  rw [ENat.eq_top_iff_forall_ge]
  simp only [le_hopsUp_iff]
  constructor
  · intro hall
    -- From the first hop on the way is in the set, which is finite.
    have hmet (k : ℕ) : ∃ p ∈ ts.toList, ts.ancestor? s (k + 1) t = some p := by
      obtain ⟨q, hq⟩ := Option.isSome_iff_exists.mp (hall k)
      obtain ⟨p, hp⟩ := Option.isSome_iff_exists.mp (hall (k + 1))
      have hup := hp
      rw [ancestor?_add_of_eq hq, ancestor?_one] at hup
      exact ⟨p, mem_toList_of_parentOf? hup, hp⟩
    choose met hmem hmet using hmet
    have hfinite : Finite {p // p ∈ ts.toList} := List.finite_toSet ts.toList
    obtain ⟨i, j, hne, hsame⟩ := Finite.exists_ne_map_eq_of_infinite fun k => (⟨met k, hmem k⟩ : {p // p ∈ ts.toList})
    have hsame : met i = met j := Subtype.ext_iff.mp hsame
    rcases lt_or_gt_of_ne hne with hlt | hlt
    · exact ⟨i + 1, j + 1, met i, by omega, hmet i, hsame ▸ hmet j⟩
    · exact ⟨j + 1, i + 1, met i, by omega, hsame ▸ hmet j, hmet i⟩
  · rintro ⟨i, j, u, hlt, hi, hj⟩ n
    obtain ⟨d, rfl⟩ := Nat.exists_eq_add_of_lt hlt
    have hround : (ts.ancestor? s (i + (d + 1) * n) t).isSome := by
      rw [ancestor?_add_mul hi (by rwa [← Nat.add_assoc])]
      rfl
    exact isSome_ancestor?_of_le hround (le_trans (Nat.le_mul_of_pos_left n d.succ_pos) (Nat.le_add_left _ _))

/-! ## The root -/

theorem climb_of_ancestor?_up (h : ts.ancestor? s left t = some u) (hup : ts.parentOf? s u = some p) (done : ℕ) :
    ts.climb s done left t = (u, [.possibleLoop u.txid (done + left + 1)]) := by
  induction left generalizing t done with
  | zero =>
    obtain rfl := Option.some.inj h
    simp [climb, hop_of_parentOf? hup]
  | succ left ih =>
    obtain ⟨q, hq, hu⟩ := Option.bind_eq_some_iff.mp h
    rw [climb_succ_of_parentOf? hq, ih hu (done + 1), Nat.add_right_comm done 1 left, Nat.add_assoc done left 1]

theorem rootRemarks_of_lt_hopsUp (h : ts.hopLimit < ts.hopsUp s t) :
    ts.ancestor? s ts.hopLimit t = some (ts.root s t) ∧
      ts.rootRemarks s t = [.possibleLoop (ts.root s t).txid (ts.hopLimit + 1)] := by
  have hnext : (ts.ancestor? s (ts.hopLimit + 1) t).isSome := by
    rw [← le_hopsUp_iff, Nat.cast_succ]
    exact ENat.natCast_add_one_le_iff.mpr h
  obtain ⟨u, hu⟩ := Option.isSome_iff_exists.mp (le_hopsUp_iff.mp h.le)
  rw [ancestor?_add_of_eq hu, ancestor?_one] at hnext
  obtain ⟨p, hp⟩ := Option.isSome_iff_exists.mp hnext
  rw [root, rootRemarks, climb_of_ancestor?_up hu hp, Nat.zero_add]
  exact ⟨hu, rfl⟩

theorem rootRemarks_of_hopsUp_le (h : ts.hopsUp s t ≤ ts.hopLimit) :
    ∃ n : ℕ, ts.hopsUp s t = n ∧ ts.ancestor? s n t = some (ts.root s t) ∧ ts.parentOf? s (ts.root s t) = none ∧
      ts.rootRemarks s t = ts.topRemarks s (ts.root s t) := by
  obtain ⟨n, hn⟩ := ENat.ne_top_iff_exists.mp (ne_top_of_le_ne_top (ENat.natCast_ne_top _) h)
  obtain ⟨top, hup, htop⟩ := hopsUp_eq_coe_iff.mp hn.symm
  rw [← hn, Nat.cast_le] at h
  rw [root, rootRemarks, climb_of_ancestor? hup htop h]
  exact ⟨n, hn.symm, hup, htop, rfl⟩

theorem possibleLoop_notMem_topRemarks (txid : String) (depth : ℕ) : .possibleLoop txid depth ∉ ts.topRemarks s t := by
  unfold topRemarks
  split <;> simp

/-- Where the way ends within the hops that are allowed, it has one root from everywhere. -/
theorem root_of_hopsUp_le (h : ts.hopsUp s t ≤ ts.hopLimit) (hu : ts.ancestor? s k t = some u) :
    ts.root s u = ts.root s t := by
  obtain ⟨n, hn, hup, htop, -⟩ := rootRemarks_of_hopsUp_le h
  have hk : k ≤ n := by
    rw [← Nat.cast_le (α := ℕ∞), ← hn, le_hopsUp_iff, hu]
    rfl
  obtain ⟨j, rfl⟩ := Nat.exists_eq_add_of_le hk
  rw [ancestor?_add_of_eq hu] at hup
  rw [hn, Nat.cast_le] at h
  exact root_of_ancestor? hup htop (by omega)

/-- The root of a transaction is as many hops up as there are, but no more than are allowed, and a negative limit
allows none. A possible loop is noticed just when there are more. The way up goes from parent to parent, where the
parent is another transaction of the set, and a session only if sessions count. Its hops are those to the one
transaction where it ends, and where it has no end it goes round. A root within the hops that are allowed is its own
root, and the root of all that the way up meets. -/
theorem root_of_hopsUp (ts : TransactionSet) (s : Bool) (t : Transaction) :
    (∃ n : ℕ, (n : ℕ∞) = min (ts.hopsUp s t) ts.hopLimit ∧ ts.ancestor? s n t = some (ts.root s t)) ∧
      ((∃ txid depth, .possibleLoop txid depth ∈ ts.rootRemarks s t) ↔ ts.hopLimit < ts.hopsUp s t) ∧
      (ts.hopLimit : Int) = max ts.maxDepth 0 ∧
      (∀ u p, ts.parentOf? s u = some p ↔
        ∃ parent, u.parent = some parent ∧ parent ≠ u.vxid ∧ ts.get? parent = some p ∧
          (s = true ∨ p.kind ≠ .session)) ∧
      (∀ n : ℕ, ts.hopsUp s t = n ↔ ∃ top, ts.ancestor? s n t = some top ∧ ts.parentOf? s top = none) ∧
      (ts.hopsUp s t = ⊤ ↔ ∃ i j u, i < j ∧ ts.ancestor? s i t = some u ∧ ts.ancestor? s j t = some u) ∧
      (ts.hopsUp s t ≤ ts.hopLimit → ts.root s (ts.root s t) = ts.root s t ∧
        ∀ k u, ts.ancestor? s k t = some u → ts.root s u = ts.root s t) := by
  refine ⟨?_, ?_, Int.toNat_eq_max ts.maxDepth, fun u p => parentOf?_eq_some_iff, fun n => hopsUp_eq_coe_iff,
    hopsUp_eq_top_iff, ?_⟩
  · rcases le_or_gt (ts.hopsUp s t) ts.hopLimit with hle | hlt
    · obtain ⟨n, hn, hup, -⟩ := rootRemarks_of_hopsUp_le hle
      exact ⟨n, by rw [min_eq_left hle, hn], hup⟩
    · exact ⟨ts.hopLimit, (min_eq_right hlt.le).symm, (rootRemarks_of_lt_hopsUp hlt).1⟩
  · constructor
    · rintro ⟨txid, depth, hmem⟩
      by_contra hle
      obtain ⟨n, -, -, -, hremarks⟩ := rootRemarks_of_hopsUp_le (not_lt.mp hle)
      rw [hremarks] at hmem
      exact possibleLoop_notMem_topRemarks txid depth hmem
    · intro hlt
      rw [(rootRemarks_of_lt_hopsUp hlt).2]
      exact ⟨_, _, List.mem_singleton_self _⟩
  · intro hle
    obtain ⟨n, -, hup, -⟩ := rootRemarks_of_hopsUp_le hle
    exact ⟨root_of_hopsUp_le hle hup, fun k u hu => root_of_hopsUp_le hle hu⟩

def climbedSession : Transaction := Transaction.started 1 .session 1 ""

/-- A fetch, two hops below the session. -/
def climbedFetch : Transaction := { Transaction.started 3 .backendRequest 3 "" with txid := "c", parent := some 2 }

/-- One of two requests that are each the parent of the other. -/
def climbedRestart : Transaction := { Transaction.started 5 .request 2 "" with txid := "e", parent := some 6 }

/-- The set of these, with two hops up. -/
def climbedSet : TransactionSet := ofList 2 [
  climbedSession, { Transaction.started 2 .request 2 "" with parent := some 1 }, climbedFetch,
  climbedRestart, { Transaction.started 6 .request 2 "" with parent := some 5 }]

theorem root_of_hopsUp_climbed :
    climbedSet.hopsUp true climbedFetch = (2 : ℕ) ∧ climbedSet.root true climbedFetch = climbedSession ∧
      climbedSet.rootRemarks true climbedFetch = [] ∧
      climbedSet.hopsUp true climbedRestart = ⊤ ∧ climbedSet.root true climbedRestart = climbedRestart ∧
      climbedSet.rootRemarks true climbedRestart = [.possibleLoop "e" 3] ∧
      (climbedSet.root true (climbedSet.root true climbedFetch) = climbedSet.root true climbedFetch ∧
        ∀ k u, climbedSet.ancestor? true k climbedFetch = some u →
          climbedSet.root true u = climbedSet.root true climbedFetch) := by
  obtain ⟨-, -, -, -, hends, -, hroot⟩ := root_of_hopsUp climbedSet true climbedFetch
  obtain ⟨-, -, -, -, -, hround, -⟩ := root_of_hopsUp climbedSet true climbedRestart
  have htwo : climbedSet.hopsUp true climbedFetch = (2 : ℕ) :=
    (hends 2).mpr ⟨climbedSession, by decide +kernel, by decide +kernel⟩
  have hloop : climbedSet.hopsUp true climbedRestart = ⊤ :=
    hround.mpr ⟨0, 2, climbedRestart, by decide, rfl, by decide +kernel⟩
  refine ⟨htwo, by decide +kernel, by decide +kernel, hloop, by decide +kernel, by decide +kernel, hroot ?_⟩
  rw [htwo]
  exact le_rfl

end ProxyLog.TransactionSet
