import ProxyLog.Header.Set
import ProxyLog.Proofs.Header.Name
import ProxyLog.Proofs.OrderedMap

/-!
# Laws of header sets

* `HeaderSet.WellFormed hs`: each header stands under its own canonical name, and no name twice.
* `get?_merge_of_none`, `exists_get?_merge`: a merge changes the names of the buffer only, and each
  of them by its own buffered header.
* `HeaderSet.lastLive? hs name`: the last value of a name that is not deleted.
* `contains_merge`: the names that a merge brings.
* `lastLive?_merge`: after a merge a buffered name has the value with which it ended in the buffer.
-/

set_option autoImplicit false

namespace ProxyLog.HeaderSet

/-! ## Well-formed sets -/

/-- Each header stands under its own canonical name, and no name stands twice. -/
structure WellFormed (hs : HeaderSet) : Prop where
  keyed : hs.byName.All fun key h => h.name = key ∧ canonicalName key = key
  distinct : hs.names.Nodup

theorem wellFormed_empty : empty.WellFormed := ⟨OrderedMap.all_empty _, List.nodup_nil⟩

variable {hs target buffer : HeaderSet} {name other text : String} {state : HeaderState}

theorem WellFormed.add (h : hs.WellFormed) (name text : String) (state : HeaderState) :
    (hs.add name text state).WellFormed := by
  refine ⟨h.keyed.alter ⟨?_, canonicalName_canonicalName name⟩, OrderedMap.nodup_keys_alter h.distinct _ _⟩
  cases hg : hs.byName.get? (canonicalName name) with
  | none => rfl
  | some g => exact (h.keyed.get? hg).1

theorem WellFormed.addProcessed (h : hs.WellFormed) (name text : String) :
    (hs.addProcessed name text).WellFormed :=
  h.add name text _

theorem WellFormed.delete (h : hs.WellFormed) (name : String) (alsoReceived : Bool) :
    (hs.delete name alsoReceived).WellFormed := by
  refine ⟨h.keyed.modify _ fun g hg => hg, ?_⟩
  rw [names_delete]
  exact h.distinct

/-- What adding and deleting values of a name keep, taking over a buffered header keeps. -/
theorem absorb_induct {P : HeaderSet → Prop} {g : Header}
    (add : ∀ hs text state, P hs → P (hs.add g.name text state))
    (delete : ∀ hs, P hs → P (hs.delete g.name true)) {hs : HeaderSet} (h : P hs) : P (hs.absorb g) := by
  have hvalue : ∀ hs v, P hs → P (absorbValue g.name hs v) := by
    intro hs v h
    unfold absorbValue
    split
    · exact delete hs h
    · exact add hs v.text v.state h
  have hvalues : ∀ (vs : List HeaderValue) (hs : HeaderSet), P hs → P (vs.foldl (absorbValue g.name) hs) := by
    intro vs
    induction vs with
    | nil => exact fun _ h => h
    | cons v vs ih => exact fun hs h => ih _ (hvalue hs v h)
  have hreceived : ∀ (vs : List HeaderValue) (hs : HeaderSet), P hs →
      P (vs.foldl (fun t v => t.add g.name v.text .received) hs) := by
    intro vs
    induction vs with
    | nil => exact fun _ h => h
    | cons v vs ih => exact fun hs h => ih _ (add hs v.text .received h)
  exact hvalues _ _ (hreceived _ _ h)

theorem merge_induct {P : HeaderSet → Prop} (add : ∀ hs name text state, P hs → P (hs.add name text state))
    (delete : ∀ hs name, P hs → P (hs.delete name true)) (h : P target) (buffer : HeaderSet) :
    P (target.merge buffer) := by
  unfold merge
  induction buffer.headers generalizing target with
  | nil => exact h
  | cons g gs ih =>
    exact ih (absorb_induct (fun hs text state => add hs g.name text state) (fun hs => delete hs g.name) h)

theorem WellFormed.merge (h : target.WellFormed) (buffer : HeaderSet) : (target.merge buffer).WellFormed :=
  merge_induct (fun _ name text state h => h.add name text state) (fun _ name h => h.delete name true) h buffer

theorem WellFormed.name_of_get? (h : hs.WellFormed) {g : Header} (hg : hs.get? name = some g) :
    g.name = canonicalName name :=
  (h.keyed.get? hg).1

/-- The headers of a set are what look-up finds. -/
theorem WellFormed.get?_of_mem (h : hs.WellFormed) {g : Header} (hg : g ∈ hs.headers) :
    canonicalName g.name = g.name ∧ hs.get? g.name = some g := by
  obtain ⟨⟨key, g'⟩, hq, rfl⟩ := List.mem_map.mp hg
  obtain ⟨hname, hkey⟩ := h.keyed _ hq
  have hkey' : canonicalName g'.name = g'.name := by rw [hname]; exact hkey
  refine ⟨hkey', ?_⟩
  change hs.byName.get? (canonicalName g'.name) = some g'
  rw [hkey', hname]
  exact OrderedMap.get?_of_mem h.distinct hq

/-! ## Other names -/

theorem get?_congr (h : canonicalName name = canonicalName other) (hs : HeaderSet) :
    hs.get? name = hs.get? other := by
  rw [get?, get?, h]

theorem get?_absorb_of_ne {g : Header} (h : canonicalName other ≠ canonicalName g.name) (hs : HeaderSet) :
    (hs.absorb g).get? other = hs.get? other := by
  refine absorb_induct (P := fun t => t.get? other = hs.get? other) ?_ ?_ rfl
  · intro t text state ht
    rw [get?_add_of_ne t h, ht]
  · intro t ht
    rw [get?_delete_of_ne t h, ht]

theorem get?_foldl_absorb_of_ne {gs : List Header} (h : ∀ g ∈ gs, canonicalName other ≠ canonicalName g.name)
    (hs : HeaderSet) : (gs.foldl absorb hs).get? other = hs.get? other := by
  induction gs generalizing hs with
  | nil => rfl
  | cons g gs ih =>
    have h1 := ih (fun g' hg' => h g' (List.mem_cons_of_mem _ hg')) (hs.absorb g)
    exact h1.trans (get?_absorb_of_ne (h g List.mem_cons_self) hs)

/-- A merge leaves the names that are not in the buffer as they are. -/
theorem get?_merge_of_none (hb : buffer.WellFormed) (h : buffer.get? name = none) (target : HeaderSet) :
    (target.merge buffer).get? name = target.get? name := by
  refine get?_foldl_absorb_of_ne ?_ target
  intro g hg heq
  obtain ⟨hcanonical, hget⟩ := hb.get?_of_mem hg
  have hsame : buffer.get? name = buffer.get? g.name := by
    rw [get?, get?, heq]
  rw [hsame, hget] at h
  cases h

/-- A merge changes a buffered name by its own header alone. -/
theorem exists_get?_merge (hb : buffer.WellFormed) {g : Header} (h : buffer.get? name = some g)
    (target : HeaderSet) : ∃ base : HeaderSet, base.get? name = target.get? name ∧
      (target.merge buffer).get? name = (base.absorb g).get? name := by
  -- The header is folded in once; what comes before it and after it has other names.
  obtain ⟨before, after, hl⟩ := List.mem_iff_append.mp (OrderedMap.mem_of_get? h)
  have hdistinct := hb.distinct
  rw [names, OrderedMap.keys, hl, List.map_append, List.map_cons, List.nodup_append] at hdistinct
  obtain ⟨-, hafter, hbefore⟩ := hdistinct
  have hcanonical : ∀ q ∈ buffer.byName.toList, canonicalName q.2.name = q.1 := by
    intro q hq
    obtain ⟨hname, hkey⟩ := hb.keyed q hq
    rw [hname]
    exact hkey
  have h1 : ∀ g' ∈ before.map (·.2), canonicalName name ≠ canonicalName g'.name := by
    intro g' hg'
    obtain ⟨q, hq, rfl⟩ := List.mem_map.mp hg'
    rw [hcanonical q (by rw [hl]; exact List.mem_append_left _ hq)]
    exact (hbefore q.1 (List.mem_map_of_mem hq) (canonicalName name) List.mem_cons_self).symm
  have h2 : ∀ g' ∈ after.map (·.2), canonicalName name ≠ canonicalName g'.name := by
    intro g' hg'
    obtain ⟨q, hq, rfl⟩ := List.mem_map.mp hg'
    rw [hcanonical q (by rw [hl]; exact List.mem_append_right _ (List.mem_cons_of_mem _ hq))]
    intro heq
    exact (List.nodup_cons.mp hafter).1 (List.mem_map.mpr ⟨q, hq, heq.symm⟩)
  refine ⟨(before.map (·.2)).foldl absorb target, get?_foldl_absorb_of_ne h1 target, ?_⟩
  unfold merge headers OrderedMap.values
  rw [hl, List.map_append, List.map_cons, List.foldl_append, List.foldl_cons]
  exact get?_foldl_absorb_of_ne h2 _

/-! ## The last live value -/

/-- The last value of a name that is not deleted. -/
def lastLive? (hs : HeaderSet) (name : String) : Option String :=
  (hs.live name false).getLast?.map (·.text)

theorem lastLive?_congr {hs hs' : HeaderSet} (h : hs.get? name = hs'.get? name) :
    hs.lastLive? name = hs'.lastLive? name := by
  unfold lastLive? live values
  rw [h]

theorem lastLive?_congr_name (h : canonicalName name = canonicalName other) (hs : HeaderSet) :
    hs.lastLive? name = hs.lastLive? other := by
  unfold lastLive? live values get?
  rw [h]

theorem values_add_self (hs : HeaderSet) (name text : String) (state : HeaderState) :
    ∃ vs, (hs.add name text state).values name false = vs ++ [⟨text, state⟩] := by
  unfold values
  rw [get?_add_self]
  exact ⟨_, rfl⟩

theorem getLast?_live_add_self (hs : HeaderSet) (name text : String) (hstate : state ≠ .deleted) :
    ((hs.add name text state).live name false).getLast? = some ⟨text, state⟩ := by
  obtain ⟨vs, hvs⟩ := values_add_self hs name text state
  have hlive : HeaderValue.isLive ⟨text, state⟩ = true := by simpa [HeaderValue.isLive] using hstate
  unfold live
  rw [hvs, List.filter_append, List.filter_cons_of_pos hlive, List.filter_nil, List.getLast?_concat]

theorem lastLive?_add_self (hs : HeaderSet) (name text : String) (hstate : state ≠ .deleted) :
    (hs.add name text state).lastLive? name = some text := by
  rw [lastLive?, getLast?_live_add_self hs name text hstate]
  rfl

theorem lastLive?_delete_self (hs : HeaderSet) (name : String) (alsoReceived : Bool) :
    (hs.delete name alsoReceived).lastLive? name = none := by
  unfold lastLive? live values
  rw [get?_delete_self]
  cases hs.get? name with
  | none => rfl
  | some g => simp [Header.delete, Header.list, HeaderValue.kill, HeaderValue.isLive]

/-- The text of a value that is not deleted. -/
def liveText? (v : HeaderValue) : Option String := if v.isLive then some v.text else none

theorem liveText?_kill (v : HeaderValue) : liveText? v.kill = none := by
  simp [liveText?, HeaderValue.kill, HeaderValue.isLive]

theorem getLast?_values_add {g : Header} (h : (hs.add name text state).get? name = some g) :
    g.values.getLast? = some ⟨text, state⟩ := by
  rw [get?_add_self] at h
  obtain rfl := Option.some.inj h
  exact List.getLast?_concat

theorem liveText?_getLast?_delete {g : Header} {alsoReceived : Bool}
    (h : (hs.delete name alsoReceived).get? name = some g) : g.values.getLast?.bind liveText? = none := by
  rw [get?_delete_self] at h
  obtain ⟨g', -, rfl⟩ := Option.map_eq_some_iff.mp h
  have hlast : (g'.delete alsoReceived).values.getLast? = g'.values.getLast?.map (·.kill) := List.getLast?_map
  rw [hlast]
  cases g'.values.getLast? with
  | none => rfl
  | some v => exact liveText?_kill v

/-- Of the values that are taken over only the last one counts in the end. -/
theorem lastLive?_absorb {g : Header} {v : HeaderValue} (hg : canonicalName g.name = canonicalName name)
    (hv : g.values.getLast? = some v) (hs : HeaderSet) : (hs.absorb g).lastLive? name = liveText? v := by
  obtain ⟨before, hbefore⟩ := List.getLast?_eq_some_iff.mp hv
  unfold absorb
  simp only [hbefore, List.foldl_append, List.foldl_cons, List.foldl_nil]
  rw [lastLive?_congr_name hg.symm]
  unfold absorbValue liveText?
  by_cases hd : v.state = .deleted
  · have hdead : v.isLive = false := by simp [HeaderValue.isLive, hd]
    rw [if_pos hd, hdead, lastLive?_delete_self]
    rfl
  · have hlive : v.isLive = true := by simp [HeaderValue.isLive, hd]
    rw [if_neg hd, hlive, lastLive?_add_self _ _ _ hd]
    rfl

/-- After a merge a buffered name has the value with which it ended in the buffer. -/
theorem lastLive?_merge (hb : buffer.WellFormed) {g : Header} (h : buffer.get? name = some g)
    {v : HeaderValue} (hv : g.values.getLast? = some v) (target : HeaderSet) :
    (target.merge buffer).lastLive? name = liveText? v := by
  obtain ⟨base, -, hmerge⟩ := exists_get?_merge hb h target
  have hg : canonicalName g.name = canonicalName name := by
    rw [hb.name_of_get? h, canonicalName_canonicalName]
  rw [lastLive?_congr hmerge, lastLive?_absorb hg hv]

/-! ## Names of a set -/

theorem contains_congr {hs' : HeaderSet} (h : hs'.get? name = hs.get? name) :
    hs'.contains name = hs.contains name := by
  rw [contains, contains, h]

theorem contains_add_self (hs : HeaderSet) (name text : String) (state : HeaderState) :
    (hs.add name text state).contains name = true := by
  rw [contains, get?_add_self]
  rfl

theorem contains_add (h : canonicalName name = canonicalName other) (hs : HeaderSet) (text : String)
    (state : HeaderState) : (hs.add other text state).contains name = true := by
  have hsame := contains_add_self hs other text state
  rw [contains, get?, ← h] at hsame
  exact hsame

theorem contains_delete (hs : HeaderSet) (name other : String) (alsoReceived : Bool) :
    (hs.delete other alsoReceived).contains name = hs.contains name := by
  by_cases h : canonicalName name = canonicalName other
  · rw [contains, contains, get?, get?, h]
    change ((hs.delete other alsoReceived).get? other).isSome = (hs.get? other).isSome
    rw [get?_delete_self, Option.isSome_map]
  · exact contains_congr (get?_delete_of_ne hs h alsoReceived)

/-- The names of a well-formed set are the canonical names that it contains. -/
theorem WellFormed.mem_names (h : hs.WellFormed) :
    name ∈ hs.names ↔ canonicalName name = name ∧ hs.contains name = true := by
  constructor
  · intro hmem
    obtain ⟨q, hq, rfl⟩ := List.mem_map.mp hmem
    obtain ⟨-, hkey⟩ := h.keyed q hq
    refine ⟨hkey, ?_⟩
    have hget := OrderedMap.get?_of_mem h.distinct (k := q.1) (v := q.2) hq
    rw [contains, get?, hkey, hget]
    rfl
  · rintro ⟨hcanonical, hcontains⟩
    obtain ⟨g, hg⟩ := Option.isSome_iff_exists.mp hcontains
    have hmem := OrderedMap.mem_of_get? hg
    rw [hcanonical] at hmem
    exact List.mem_map.mpr ⟨_, hmem, rfl⟩

/-! ## What a merge brings -/

/-- A value of the name was received. -/
def holdsReceived (hs : HeaderSet) (name : String) : Bool := (hs.values name true).any (·.state == .received)

/-- A value of the name is not deleted. -/
def holdsLive (hs : HeaderSet) (name : String) : Bool := (hs.values name false).any (·.isLive)

theorem holds_congr {hs' : HeaderSet} (h : hs'.get? name = hs.get? name) :
    hs'.holdsReceived name = hs.holdsReceived name ∧ hs'.holdsLive name = hs.holdsLive name := by
  unfold holdsReceived holdsLive values
  rw [h]
  exact ⟨rfl, rfl⟩

theorem holdsReceived_add_self (hs : HeaderSet) (name text : String) (state : HeaderState) :
    (hs.add name text state).holdsReceived name = (hs.holdsReceived name || state == .received) := by
  unfold holdsReceived values
  rw [get?_add_self]
  cases hs.get? name <;> cases state <;> simp [Header.add, Header.list, Header.empty]

theorem holdsLive_add_self (hs : HeaderSet) (name text : String) (hstate : state ≠ .deleted) :
    (hs.add name text state).holdsLive name = true := by
  obtain ⟨vs, hvs⟩ := values_add_self hs name text state
  have hlive : HeaderValue.isLive ⟨text, state⟩ = true := by simpa [HeaderValue.isLive] using hstate
  rw [holdsLive, hvs, List.any_append, List.any_cons, hlive, Bool.true_or, Bool.or_true]

theorem holdsReceived_delete_self (hs : HeaderSet) (name : String) :
    (hs.delete name false).holdsReceived name = hs.holdsReceived name := by
  unfold holdsReceived values
  rw [get?_delete_self]
  cases hs.get? name <;> rfl

theorem holdsLive_delete_self (hs : HeaderSet) (name : String) (alsoReceived : Bool) :
    (hs.delete name alsoReceived).holdsLive name = false := by
  unfold holdsLive values
  rw [get?_delete_self]
  cases hs.get? name with
  | none => rfl
  | some g => simp [Header.delete, Header.list, HeaderValue.kill, HeaderValue.isLive]

theorem contains_foldl_add {g : Header} (hg : canonicalName name = canonicalName g.name)
    (vs : List HeaderValue) (hs : HeaderSet) :
    (vs.foldl (fun t v => t.add g.name v.text .received) hs).contains name = (hs.contains name || !vs.isEmpty) := by
  induction vs generalizing hs with
  | nil => rw [List.foldl_nil, List.isEmpty_nil, Bool.not_true, Bool.or_false]
  | cons v vs ih =>
    rw [List.foldl_cons, ih, contains_add hg]
    simp

theorem contains_foldl_absorbValue {g : Header} (hg : canonicalName name = canonicalName g.name)
    (vs : List HeaderValue) (hs : HeaderSet) :
    (vs.foldl (absorbValue g.name) hs).contains name = (hs.contains name || vs.any (·.isLive)) := by
  induction vs generalizing hs with
  | nil => rw [List.foldl_nil, List.any_nil, Bool.or_false]
  | cons v vs ih =>
    rw [List.foldl_cons, ih, absorbValue, List.any_cons]
    by_cases hd : v.state = .deleted
    · have hdead : v.isLive = false := by simp [HeaderValue.isLive, hd]
      rw [if_pos hd, contains_delete, hdead, Bool.false_or]
    · have hlive : v.isLive = true := by simp [HeaderValue.isLive, hd]
      rw [if_neg hd, contains_add hg, hlive]
      simp

/-- A buffered header brings its name if it holds a received value or one that is not deleted. -/
theorem contains_absorb {g : Header} (hg : canonicalName name = canonicalName g.name) (hs : HeaderSet) :
    (hs.absorb g).contains name =
      (hs.contains name || g.received.any (·.state == .received) || g.values.any (·.isLive)) := by
  have hreceived : (g.received.filter fun v => v.state == .received).isEmpty =
      !g.received.any (·.state == .received) := by
    rw [Bool.eq_iff_iff]
    simp [List.filter_eq_nil_iff]
  rw [absorb, contains_foldl_absorbValue hg, contains_foldl_add hg, hreceived, Bool.not_not]

/-- A merge keeps the names of the target, and brings those that hold a received value or one that is
not deleted. -/
theorem contains_merge (hb : buffer.WellFormed) (name : String) (target : HeaderSet) :
    (target.merge buffer).contains name =
      (target.contains name || buffer.holdsReceived name || buffer.holdsLive name) := by
  cases hg : buffer.get? name with
  | none =>
    have hvalues : ∀ received, buffer.values name received = [] := by
      intro received
      rw [values, hg]
    rw [contains_congr (get?_merge_of_none hb hg target), holdsReceived, holdsLive, hvalues, hvalues]
    simp
  | some g =>
    obtain ⟨base, hbase, hmerge⟩ := exists_get?_merge hb hg target
    have hname : canonicalName name = canonicalName g.name := by
      rw [hb.name_of_get? hg, canonicalName_canonicalName]
    rw [contains_congr hmerge, contains_absorb hname, contains_congr hbase, holdsReceived, holdsLive, values,
      values, hg]
    rfl

end ProxyLog.HeaderSet
