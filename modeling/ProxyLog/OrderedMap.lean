/-!
# Maps in order of insertion

A map whose keys keep the place at which they were first put in.

* `OrderedMap κ α`: keys with values.
* `get? m k`, `contains m k`: look-up.
* `insert m k v`: a known key keeps its place and takes the new value; a new key comes last.
* `alter m k f`: `insert` of a value that depends on the one that is there.
* `erase m k`: the map without the key.
* `keys`, `values`, `toList`, `size`: the map in order.

Look-up after each operation is said by the lemmas named `get?_…`; the order by `keys_insert`.
-/

set_option autoImplicit false

namespace ProxyLog

universe u v

/-- A map that remembers the order in which its keys were put in. -/
structure OrderedMap (κ : Type u) (α : Type v) where
  toList : List (κ × α)
  deriving DecidableEq, Repr

namespace OrderedMap

variable {κ : Type u} {α : Type v} [DecidableEq κ]

/-! ## Operations -/

def empty : OrderedMap κ α := ⟨[]⟩

instance : Inhabited (OrderedMap κ α) := ⟨empty⟩

def get? (m : OrderedMap κ α) (k : κ) : Option α := m.toList.lookup k

def contains (m : OrderedMap κ α) (k : κ) : Bool := (m.get? k).isSome

def keys (m : OrderedMap κ α) : List κ := m.toList.map (·.1)

def values (m : OrderedMap κ α) : List α := m.toList.map (·.2)

def size (m : OrderedMap κ α) : Nat := m.toList.length

/-- Replaces the value of a key in place, or puts the key at the end. -/
def alterIn (k : κ) (f : Option α → α) : List (κ × α) → List (κ × α)
  | [] => [(k, f none)]
  | p :: rest => if p.1 = k then (p.1, f (some p.2)) :: rest else p :: alterIn k f rest

/-- Gives a key the value that `f` makes of the present one. -/
def alter (m : OrderedMap κ α) (k : κ) (f : Option α → α) : OrderedMap κ α := ⟨alterIn k f m.toList⟩

def insert (m : OrderedMap κ α) (k : κ) (v : α) : OrderedMap κ α := m.alter k fun _ => v

def erase (m : OrderedMap κ α) (k : κ) : OrderedMap κ α := ⟨m.toList.filter fun p => p.1 ≠ k⟩

/-- Applies a function to the value of a key, if it has one. -/
def modify (m : OrderedMap κ α) (k : κ) (f : α → α) : OrderedMap κ α :=
  ⟨m.toList.map fun p => if p.1 = k then (p.1, f p.2) else p⟩

/-- The map of keys and values put in one after the other. -/
def ofList (items : List (κ × α)) : OrderedMap κ α := items.foldl (fun m p => m.insert p.1 p.2) empty

/-! ## Look-up -/

@[simp] theorem get?_empty (k : κ) : (empty : OrderedMap κ α).get? k = none := rfl

theorem lookup_alterIn_self (k : κ) (f : Option α → α) (items : List (κ × α)) :
    (alterIn k f items).lookup k = some (f (items.lookup k)) := by
  induction items with
  | nil => simp [alterIn]
  | cons p rest ih =>
    obtain ⟨a, b⟩ := p
    by_cases h : a = k
    · subst h; simp [alterIn]
    · simp [alterIn, h, List.lookup_cons, ih, show (k == a) = false by simpa using Ne.symm h]

theorem lookup_alterIn_of_ne {k j : κ} (h : j ≠ k) (f : Option α → α) (items : List (κ × α)) :
    (alterIn k f items).lookup j = items.lookup j := by
  induction items with
  | nil => simp [alterIn, List.lookup_cons, show (j == k) = false by simpa using h]
  | cons p rest ih =>
    obtain ⟨a, b⟩ := p
    by_cases ha : a = k
    · subst ha
      simp [alterIn, List.lookup_cons, show (j == a) = false by simpa using h]
    · simp [alterIn, ha, List.lookup_cons, ih]

@[simp] theorem get?_alter_self (m : OrderedMap κ α) (k : κ) (f : Option α → α) :
    (m.alter k f).get? k = some (f (m.get? k)) :=
  lookup_alterIn_self k f m.toList

theorem get?_alter_of_ne (m : OrderedMap κ α) {k j : κ} (h : j ≠ k) (f : Option α → α) :
    (m.alter k f).get? j = m.get? j :=
  lookup_alterIn_of_ne h f m.toList

theorem lookup_map_modify (k j : κ) (f : α → α) (items : List (κ × α)) :
    (items.map fun p => if p.1 = k then (p.1, f p.2) else p).lookup j =
      if j = k then (items.lookup j).map f else items.lookup j := by
  induction items with
  | nil => simp
  | cons p rest ih =>
    obtain ⟨a, b⟩ := p
    by_cases ha : a = k
    · by_cases hj : j = a
      · subst ha; subst hj; simp
      · subst ha
        simp [List.lookup_cons, show (j == a) = false by simpa using hj, hj, ih]
    · by_cases hj : j = a
      · subst hj; simp [ha]
      · simp [ha, List.lookup_cons, show (j == a) = false by simpa using hj, ih]

@[simp] theorem get?_modify_self (m : OrderedMap κ α) (k : κ) (f : α → α) :
    (m.modify k f).get? k = (m.get? k).map f := by
  simp [modify, get?, lookup_map_modify]

theorem get?_modify_of_ne (m : OrderedMap κ α) {k j : κ} (h : j ≠ k) (f : α → α) :
    (m.modify k f).get? j = m.get? j := by
  simp [modify, get?, lookup_map_modify, h]

@[simp] theorem get?_insert_self (m : OrderedMap κ α) (k : κ) (v : α) :
    (m.insert k v).get? k = some v := by
  simp [insert]

theorem get?_insert_of_ne (m : OrderedMap κ α) {k j : κ} (h : j ≠ k) (v : α) :
    (m.insert k v).get? j = m.get? j :=
  get?_alter_of_ne m h _

@[simp] theorem get?_erase_self (m : OrderedMap κ α) (k : κ) : (m.erase k).get? k = none := by
  unfold erase get?
  induction m.toList with
  | nil => rfl
  | cons p rest ih =>
    obtain ⟨a, b⟩ := p
    by_cases h : a = k
    · simpa [List.filter_cons, h] using ih
    · simpa [List.filter_cons, h, List.lookup_cons, show (k == a) = false by simpa using Ne.symm h] using ih

theorem get?_erase_of_ne (m : OrderedMap κ α) {k j : κ} (h : j ≠ k) : (m.erase k).get? j = m.get? j := by
  unfold erase get?
  induction m.toList with
  | nil => rfl
  | cons p rest ih =>
    obtain ⟨a, b⟩ := p
    by_cases ha : a = k
    · subst ha
      simpa [List.filter_cons, List.lookup_cons, show (j == a) = false by simpa using h] using ih
    · by_cases hj : j = a
      · subst hj; simp [ha]
      · simpa [List.filter_cons, ha, List.lookup_cons, show (j == a) = false by simpa using hj] using ih

/-! ## Order -/

theorem map_fst_alterIn (k : κ) (f : Option α → α) (items : List (κ × α)) :
    (alterIn k f items).map (·.1) =
      if k ∈ items.map (·.1) then items.map (·.1) else items.map (·.1) ++ [k] := by
  induction items with
  | nil => simp [alterIn]
  | cons p rest ih =>
    obtain ⟨a, b⟩ := p
    by_cases h : a = k
    · subst h; simp [alterIn]
    · by_cases hk : k ∈ rest.map (·.1)
      · simp [alterIn, h, ih, hk]
      · simp [alterIn, h, ih, hk, Ne.symm h]

/-- A new key comes last, a known one keeps its place. -/
theorem keys_alter (m : OrderedMap κ α) (k : κ) (f : Option α → α) :
    (m.alter k f).keys = if k ∈ m.keys then m.keys else m.keys ++ [k] :=
  map_fst_alterIn k f m.toList

theorem keys_insert (m : OrderedMap κ α) (k : κ) (v : α) :
    (m.insert k v).keys = if k ∈ m.keys then m.keys else m.keys ++ [k] :=
  keys_alter m k _

@[simp] theorem keys_modify (m : OrderedMap κ α) (k : κ) (f : α → α) : (m.modify k f).keys = m.keys := by
  unfold modify keys
  rw [List.map_map]
  refine List.map_congr_left fun p _ => ?_
  by_cases h : p.1 = k <;> simp [h]

theorem nodup_keys_alter {m : OrderedMap κ α} (h : m.keys.Nodup) (k : κ) (f : Option α → α) :
    (m.alter k f).keys.Nodup := by
  rw [keys_alter]
  split
  · exact h
  · rename_i hk
    rw [List.nodup_append]
    refine ⟨h, by simp, ?_⟩
    intro a ha b hb hab
    rw [List.mem_singleton] at hb
    exact hk (hb ▸ hab ▸ ha)

end OrderedMap

end ProxyLog
