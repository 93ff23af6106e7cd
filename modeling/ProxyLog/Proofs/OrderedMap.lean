import Mathlib.Data.List.Induction
import Mathlib.Data.List.Nodup
import ProxyLog.OrderedMap

/-!
# Parts of an ordered map, and its keys

* `OrderedMap.restrict m p`: the keys that pass a test, in their order. Every operation on a key
  either shows in the part as the same operation or not at all.
* `OrderedMap.All m P`: every pair has a property; the operations keep what they put in.
* `OrderedMap.insertAll m items`: many pairs put in at once; `get?_insertAll` is the look-up after it and
  `keys_insertAll` the order.
* `eq_of_get?`: keys and look-up make up the map.
* `insertAll_toList_insertAll`: what is gathered in a map of its own first ends up at the same place.
-/

set_option autoImplicit false

namespace ProxyLog.OrderedMap

universe u v
variable {κ : Type u} {α : Type v}

/-- The part of the map whose keys pass a test. -/
def restrict (m : OrderedMap κ α) (p : κ → Bool) : OrderedMap κ α := ⟨m.toList.filter fun q => p q.1⟩

/-- A property of every key with its value. -/
def All (m : OrderedMap κ α) (P : κ → α → Prop) : Prop := ∀ q ∈ m.toList, P q.1 q.2

theorem all_empty (P : κ → α → Prop) : (empty : OrderedMap κ α).All P := by
  intro q hq
  cases hq

variable [DecidableEq κ]

/-! ## Parts -/

theorem filter_alterIn_of_pos {p : κ → Bool} {k : κ} (hk : p k = true) (f : Option α → α)
    (items : List (κ × α)) :
    (alterIn k f items).filter (fun q => p q.1) = alterIn k f (items.filter fun q => p q.1) := by
  induction items with
  | nil => simp [alterIn, hk]
  | cons q rest ih =>
    by_cases h : q.1 = k
    · have hq : p q.1 = true := by rw [h, hk]
      simp [alterIn, h, hk]
    · cases hq : p q.1 <;> simp [alterIn, h, hq, ih]

theorem filter_alterIn_of_neg {p : κ → Bool} {k : κ} (hk : p k = false) (f : Option α → α)
    (items : List (κ × α)) :
    (alterIn k f items).filter (fun q => p q.1) = items.filter fun q => p q.1 := by
  induction items with
  | nil => simp [alterIn, hk]
  | cons q rest ih =>
    by_cases h : q.1 = k
    · have hq : p q.1 = false := by rw [h, hk]
      simp [alterIn, h, hk]
    · cases hq : p q.1 <;> simp [alterIn, h, hq, ih]

theorem restrict_insert_of_pos {p : κ → Bool} {k : κ} (hk : p k = true) (m : OrderedMap κ α) (v : α) :
    (m.insert k v).restrict p = (m.restrict p).insert k v := by
  simp only [restrict, insert, alter, filter_alterIn_of_pos hk]

theorem restrict_insert_of_neg {p : κ → Bool} {k : κ} (hk : p k = false) (m : OrderedMap κ α) (v : α) :
    (m.insert k v).restrict p = m.restrict p := by
  simp only [restrict, insert, alter, filter_alterIn_of_neg hk]

theorem restrict_erase (m : OrderedMap κ α) (p : κ → Bool) (k : κ) :
    (m.erase k).restrict p = (m.restrict p).erase k := by
  simp only [restrict, erase, List.filter_filter, Bool.and_comm]

theorem restrict_erase_of_neg {p : κ → Bool} {k : κ} (hk : p k = false) (m : OrderedMap κ α) :
    (m.erase k).restrict p = m.restrict p := by
  simp only [restrict, erase, List.filter_filter]
  congr 1
  refine List.filter_congr fun q _ => ?_
  by_cases h : q.1 = k
  · simp [h, hk]
  · simp [h]

theorem get?_restrict (m : OrderedMap κ α) (p : κ → Bool) (k : κ) :
    (m.restrict p).get? k = if p k then m.get? k else none := by
  unfold restrict get?
  induction m.toList with
  | nil => simp
  | cons q rest ih =>
    obtain ⟨a, b⟩ := q
    by_cases h : k = a
    · subst h
      cases hp : p k with
      | true => simp [hp]
      | false =>
        rw [hp] at ih
        simpa [List.filter_cons, hp] using ih
    · have hka : (k == a) = false := by simpa using h
      cases hp : p a <;> simp [hp, List.lookup_cons, hka, ih]

theorem contains_restrict_of_pos {p : κ → Bool} {k : κ} (hk : p k = true) (m : OrderedMap κ α) :
    (m.restrict p).contains k = m.contains k := by
  rw [contains, get?_restrict, if_pos hk, contains]

/-! ## What holds of every pair -/

theorem mem_of_get? {m : OrderedMap κ α} {k : κ} {v : α} (h : m.get? k = some v) : (k, v) ∈ m.toList := by
  obtain ⟨before, after, hl, -⟩ := List.lookup_eq_some_iff.mp h
  rw [hl]
  simp

theorem contains_iff_mem_keys {m : OrderedMap κ α} {k : κ} : m.contains k = true ↔ k ∈ m.keys := by
  constructor
  · intro h
    obtain ⟨v, hv⟩ := Option.isSome_iff_exists.mp h
    exact List.mem_map.mpr ⟨_, mem_of_get? hv, rfl⟩
  · intro h
    obtain ⟨q, hq, rfl⟩ := List.mem_map.mp h
    by_contra hnone
    have hlookup : m.toList.lookup q.1 = none := Option.not_isSome_iff_eq_none.mp hnone
    have hne := List.lookup_eq_none_iff.mp hlookup q hq
    simp at hne

theorem All.get? {m : OrderedMap κ α} {P : κ → α → Prop} (hm : m.All P) {k : κ} {v : α}
    (h : m.get? k = some v) : P k v :=
  hm _ (mem_of_get? h)

/-- The pairs after a change are old ones or the changed one. -/
theorem mem_alterIn {k : κ} {f : Option α → α} {items : List (κ × α)} {q : κ × α}
    (h : q ∈ alterIn k f items) : q ∈ items ∨ q = (k, f (items.lookup k)) := by
  induction items with
  | nil => exact Or.inr (by simpa [alterIn] using h)
  | cons p rest ih =>
    obtain ⟨a, b⟩ := p
    by_cases ha : a = k
    · subst ha
      rw [alterIn, if_pos rfl] at h
      rcases List.mem_cons.mp h with rfl | hq
      · exact Or.inr (by simp)
      · exact Or.inl (List.mem_cons_of_mem _ hq)
    · rw [alterIn, if_neg ha] at h
      rcases List.mem_cons.mp h with rfl | hq
      · exact Or.inl List.mem_cons_self
      · have hka : (k == a) = false := by simpa using Ne.symm ha
        rcases ih hq with hq | rfl
        · exact Or.inl (List.mem_cons_of_mem _ hq)
        · exact Or.inr (by rw [List.lookup_cons, hka])

theorem All.alter {m : OrderedMap κ α} {P : κ → α → Prop} (hm : m.All P) {k : κ} {f : Option α → α}
    (h : P k (f (m.get? k))) : (m.alter k f).All P := by
  intro q hq
  rcases mem_alterIn hq with hq | rfl
  · exact hm q hq
  · exact h

theorem All.insert {m : OrderedMap κ α} {P : κ → α → Prop} (hm : m.All P) {k : κ} {v : α} (h : P k v) :
    (m.insert k v).All P :=
  hm.alter h

theorem All.erase {m : OrderedMap κ α} {P : κ → α → Prop} (hm : m.All P) (k : κ) : (m.erase k).All P :=
  fun q hq => hm q (List.mem_filter.mp hq).1

theorem All.modify {m : OrderedMap κ α} {P : κ → α → Prop} (hm : m.All P) (k : κ) {f : α → α}
    (hf : ∀ v, P k v → P k (f v)) : (m.modify k f).All P := by
  intro q hq
  obtain ⟨a, ha, rfl⟩ := List.mem_map.mp hq
  have hpa := hm a ha
  by_cases hk : a.1 = k
  · rw [if_pos hk]
    rw [hk] at hpa ⊢
    exact hf a.2 hpa
  · rw [if_neg hk]
    exact hpa

/-- Among distinct keys every pair of the map is found. -/
theorem get?_of_mem {m : OrderedMap κ α} (h : m.keys.Nodup) {k : κ} {v : α} (hq : (k, v) ∈ m.toList) :
    m.get? k = some v := by
  obtain ⟨before, after, hl⟩ := List.mem_iff_append.mp hq
  refine List.lookup_eq_some_iff.mpr ⟨before, after, hl, ?_⟩
  intro p hp
  rw [keys, hl, List.map_append, List.nodup_append] at h
  have hne : p.1 ≠ k := h.2.2 p.1 (List.mem_map_of_mem hp) k (by simp)
  simpa using hne.symm

/-! ## Many keys at once -/

/-- Puts the pairs of a list into the map, one after the other. -/
def insertAll (m : OrderedMap κ α) (items : List (κ × α)) : OrderedMap κ α :=
  items.foldl (fun m q => m.insert q.1 q.2) m

theorem restrict_insertAll (m : OrderedMap κ α) (p : κ → Bool) (items : List (κ × α)) :
    (m.insertAll items).restrict p = (m.restrict p).insertAll (items.filter fun q => p q.1) := by
  induction items generalizing m with
  | nil => rfl
  | cons q rest ih =>
    have h := ih (m.insert q.1 q.2)
    cases hq : p q.1 with
    | true =>
      rw [restrict_insert_of_pos hq] at h
      simpa [insertAll, List.filter_cons, hq] using h
    | false =>
      rw [restrict_insert_of_neg hq] at h
      simpa [insertAll, List.filter_cons, hq] using h

theorem All.insertAll {m : OrderedMap κ α} {P : κ → α → Prop} (hm : m.All P) {items : List (κ × α)}
    (h : ∀ q ∈ items, P q.1 q.2) : (m.insertAll items).All P := by
  induction items generalizing m with
  | nil => exact hm
  | cons q rest ih =>
    exact ih (hm.insert (h q List.mem_cons_self)) fun a ha => h a (List.mem_cons_of_mem _ ha)

/-- Among distinct keys the one that is put in last is the only one. -/
theorem get?_insertAll (m : OrderedMap κ α) {items : List (κ × α)} (h : (items.map (·.1)).Nodup) (k : κ) :
    (m.insertAll items).get? k = (items.lookup k).or (m.get? k) := by
  induction items generalizing m with
  | nil => rfl
  | cons q rest ih =>
    obtain ⟨a, b⟩ := q
    obtain ⟨ha, hrest⟩ := List.nodup_cons.mp h
    have h1 : (m.insertAll ((a, b) :: rest)).get? k = (rest.lookup k).or ((m.insert a b).get? k) :=
      ih (m.insert a b) hrest
    by_cases hka : k = a
    · subst hka
      have hnone : rest.lookup k = none := by
        rw [List.lookup_eq_none_iff]
        intro p hp
        have hk : k ≠ p.1 := fun hk => ha (List.mem_map.mpr ⟨p, hp, hk.symm⟩)
        simpa using hk
      rw [h1, hnone, get?_insert_self]
      simp
    · rw [h1, get?_insert_of_ne m hka, List.lookup_cons, show (k == a) = false by simpa using hka]

/-! ## Order -/

theorem nodup_keys_insertAll {m : OrderedMap κ α} (h : m.keys.Nodup) (items : List (κ × α)) :
    (m.insertAll items).keys.Nodup := by
  induction items generalizing m with
  | nil => exact h
  | cons q rest ih => exact ih (nodup_keys_alter h q.1 _)

theorem mem_keys_insertAll {m : OrderedMap κ α} {items : List (κ × α)} {k : κ} :
    k ∈ (m.insertAll items).keys ↔ k ∈ m.keys ∨ k ∈ items.map (·.1) := by
  induction items generalizing m with
  | nil => simp [insertAll]
  | cons q rest ih =>
    have hkeys : k ∈ (m.insert q.1 q.2).keys ↔ k ∈ m.keys ∨ k = q.1 := by
      rw [keys_insert]
      split
      · next hq => exact ⟨Or.inl, fun h => h.elim id fun heq => heq ▸ hq⟩
      · rw [List.mem_append, List.mem_singleton]
    have hih : k ∈ (m.insertAll (q :: rest)).keys ↔ k ∈ (m.insert q.1 q.2).keys ∨ k ∈ rest.map (·.1) := ih
    rw [hih, hkeys, List.map_cons, List.mem_cons, or_assoc]

/-- Among distinct keys the new ones come last, in their order. -/
theorem keys_insertAll (m : OrderedMap κ α) {items : List (κ × α)} (h : (items.map (·.1)).Nodup) :
    (m.insertAll items).keys = m.keys ++ (items.map (·.1)).filter (· ∉ m.keys) := by
  induction items generalizing m with
  | nil => exact (List.append_nil _).symm
  | cons q rest ih =>
    obtain ⟨hq, hrest⟩ := List.nodup_cons.mp h
    have hih : (m.insertAll (q :: rest)).keys =
        (m.insert q.1 q.2).keys ++ (rest.map (·.1)).filter (· ∉ (m.insert q.1 q.2).keys) :=
      ih (m.insert q.1 q.2) hrest
    rw [hih, keys_insert]
    by_cases hmem : q.1 ∈ m.keys
    · rw [if_pos hmem, List.map_cons, List.filter_cons_of_neg (by simpa using hmem)]
    · have hfilter : (rest.map (·.1)).filter (· ∉ m.keys ++ [q.1]) = (rest.map (·.1)).filter (· ∉ m.keys) := by
        refine List.filter_congr fun k hk => ?_
        have hne : k ≠ q.1 := by
          rintro rfl
          exact hq hk
        simp [hne]
      rw [if_neg hmem, hfilter, List.map_cons, List.filter_cons_of_pos (by simpa using hmem),
        List.append_assoc, List.singleton_append]

theorem toList_eq_filterMap {m : OrderedMap κ α} (h : m.keys.Nodup) :
    m.toList = m.keys.filterMap fun k => (m.get? k).map fun v => (k, v) := by
  have hself : m.toList = m.toList.filterMap fun q => (m.get? q.1).map fun v => (q.1, v) := by
    conv_lhs => rw [← List.filterMap_some (l := m.toList)]
    refine List.filterMap_congr fun q hq => ?_
    rw [get?_of_mem h hq, Option.map_some]
  rw [keys, List.filterMap_map]
  exact hself

theorem eq_of_get? {m n : OrderedMap κ α} (hm : m.keys.Nodup) (hkeys : m.keys = n.keys)
    (hget : ∀ k, m.get? k = n.get? k) : m = n := by
  have hlist : m.toList = n.toList := by
    rw [toList_eq_filterMap hm, toList_eq_filterMap (hkeys ▸ hm), hkeys]
    exact List.filterMap_congr fun k _ => by rw [hget]
  cases m
  cases n
  exact congrArg mk hlist

/-- Pairs of distinct keys are a map as they stand. -/
theorem insertAll_empty {items : List (κ × α)} (h : (items.map (·.1)).Nodup) : empty.insertAll items = ⟨items⟩ := by
  have hkeys : (empty.insertAll items).keys = items.map (·.1) := by
    rw [keys_insertAll _ h]
    simp [keys, empty]
  refine eq_of_get? (hkeys ▸ h) hkeys fun k => ?_
  rw [get?_insertAll _ h, get?_empty, Option.or_none]
  rfl

theorem insert_insertAll_toList {m n : OrderedMap κ α} (hm : m.keys.Nodup) (hn : n.keys.Nodup) (k : κ) (v : α) :
    (m.insertAll n.toList).insert k v = m.insertAll (n.insert k v).toList := by
  have hinserted : (n.insert k v).keys.Nodup := nodup_keys_alter hn k _
  refine eq_of_get? (nodup_keys_alter (nodup_keys_insertAll hm _) k _) ?_ ?_
  · have hleft : (m.insertAll n.toList).keys = m.keys ++ n.keys.filter (· ∉ m.keys) := keys_insertAll m hn
    have hright : (m.insertAll (n.insert k v).toList).keys =
        m.keys ++ (n.insert k v).keys.filter (· ∉ m.keys) := keys_insertAll m hinserted
    rw [keys_insert, hleft, hright, keys_insert]
    by_cases hkm : k ∈ m.keys <;> by_cases hkn : k ∈ n.keys <;> simp [hkm, hkn]
  · intro j
    have hright : (m.insertAll (n.insert k v).toList).get? j = ((n.insert k v).get? j).or (m.get? j) :=
      get?_insertAll m hinserted j
    rw [hright]
    by_cases hj : j = k
    · subst hj
      rw [get?_insert_self, get?_insert_self, Option.some_or]
    · rw [get?_insert_of_ne _ hj, get?_insert_of_ne _ hj]
      exact get?_insertAll m hn j

/-- Pairs that are gathered in a map of their own first end up at the same place. -/
theorem insertAll_toList_insertAll {m : OrderedMap κ α} (hm : m.keys.Nodup) (items : List (κ × α)) :
    m.insertAll (empty.insertAll items).toList = m.insertAll items := by
  induction items using List.reverseRecOn with
  | nil => rfl
  | append_singleton items q ih =>
    have hsnoc (n : OrderedMap κ α) : n.insertAll (items ++ [q]) = (n.insertAll items).insert q.1 q.2 := by
      rw [insertAll, List.foldl_append]
      rfl
    have hempty : (empty : OrderedMap κ α).keys.Nodup := List.nodup_nil
    have hgathered : (empty.insertAll items : OrderedMap κ α).keys.Nodup := nodup_keys_insertAll hempty items
    rw [hsnoc, hsnoc, ← insert_insertAll_toList hm hgathered, ih]

end ProxyLog.OrderedMap
