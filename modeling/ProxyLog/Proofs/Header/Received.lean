import ProxyLog.Proofs.Header.Set

/-!
# Received values

A received value keeps its text for ever: a delete marks it, and further values come behind it.

* `HeaderSet.receivedTexts hs name`: the values that a name received, whatever became of them.
* `receivedTexts_add_self`, `receivedTexts_delete`: adding and deleting.
* `HeaderSet.Clean hs`: what was received is marked so, and apart from what became of it.
* `receivedTexts_merge`: a merge of a clean buffer puts its received values behind those of the target.
-/

set_option autoImplicit false

namespace ProxyLog

/-! ## What an add puts in -/

namespace Header
variable {h : Header} {v : HeaderValue} {text : String} {state : HeaderState}

theorem mem_values_add (hv : v ∈ (h.add text state).values) : v ∈ h.values ∨ v = ⟨text, state⟩ := by
  rcases List.mem_append.mp hv with hv | hv
  · split at hv
    · cases hv
    · exact Or.inl hv
  · exact Or.inr (List.mem_singleton.mp hv)

theorem mem_received_add (hv : v ∈ (h.add text state).received) :
    v ∈ h.received ∨ state = .received ∧ v = ⟨text, state⟩ := by
  simp only [add] at hv
  split at hv
  · next hstate =>
    rcases List.mem_append.mp hv with hv | hv
    · exact Or.inl hv
    · exact Or.inr ⟨hstate, List.mem_singleton.mp hv⟩
  · exact Or.inl hv

/-! ## Clean headers -/

/-- What was received is marked so, and what became of a value is that it was added, modified or deleted. -/
structure Clean (h : Header) : Prop where
  received : ∀ v ∈ h.received, v.state = .received
  processed : ∀ v ∈ h.values, v.state ≠ .received

theorem clean_empty (name : String) : (empty name).Clean := ⟨fun _ hv => (nomatch hv), fun _ hv => (nomatch hv)⟩

theorem Clean.add_processed (hc : h.Clean) (text : String) {state : HeaderState} (hstate : state ≠ .received) :
    (h.add text state).Clean where
  received := by
    intro v hv
    rcases mem_received_add hv with hv | ⟨hreceived, -⟩
    · exact hc.received v hv
    · exact absurd hreceived hstate
  processed := by
    intro v hv
    rcases mem_values_add hv with hv | rfl
    · exact hc.processed v hv
    · exact hstate

theorem Clean.received_add (hc : h.Clean) (text : String) :
    ∀ v ∈ (h.add text .received).received, v.state = .received := by
  intro v hv
  rcases mem_received_add hv with hv | ⟨-, rfl⟩
  · exact hc.received v hv
  · rfl

theorem clean_delete (hr : ∀ v ∈ h.received, v.state = .received) : (h.delete false).Clean where
  received := hr
  processed := by
    intro v hv
    obtain ⟨u, -, rfl⟩ := List.mem_map.mp hv
    simp [HeaderValue.kill]

end Header

namespace HeaderSet

/-! ## Received values -/

/-- The values that a name received, whatever became of them. -/
def receivedTexts (hs : HeaderSet) (name : String) : List String := (hs.values name true).map (·.text)

variable {hs target buffer : HeaderSet} {name other text : String} {state : HeaderState}

theorem values_congr {hs' : HeaderSet} (h : hs'.get? name = hs.get? name) (received : Bool) :
    hs'.values name received = hs.values name received := by
  rw [values, values, h]

theorem values_of_none (h : hs.get? name = none) (received : Bool) : hs.values name received = [] := by
  rw [values, h]

theorem receivedTexts_congr {hs' : HeaderSet} (h : hs'.get? name = hs.get? name) :
    hs'.receivedTexts name = hs.receivedTexts name := by
  rw [receivedTexts, receivedTexts, values_congr h]

theorem receivedTexts_of_none (h : hs.get? name = none) : hs.receivedTexts name = [] := by
  rw [receivedTexts, values_of_none h]
  rfl

theorem receivedTexts_congr_name (h : canonicalName name = canonicalName other) (hs : HeaderSet) :
    hs.receivedTexts name = hs.receivedTexts other := by
  rw [receivedTexts, receivedTexts, values, values, get?, get?, h]

theorem receivedTexts_add_self (hs : HeaderSet) (name text : String) (state : HeaderState) :
    (hs.add name text state).receivedTexts name =
      hs.receivedTexts name ++ if state = .received then [text] else [] := by
  unfold receivedTexts values
  rw [get?_add_self]
  cases hs.get? name <;> cases state <;> simp [Header.add, Header.list, Header.empty]

theorem receivedTexts_addProcessed_self (hs : HeaderSet) (name text : String) :
    (hs.addProcessed name text).receivedTexts name = hs.receivedTexts name := by
  rw [addProcessed, receivedTexts_add_self, if_neg, List.append_nil]
  split <;> simp

theorem receivedTexts_delete (hs : HeaderSet) (name other : String) (alsoReceived : Bool) :
    (hs.delete other alsoReceived).receivedTexts name = hs.receivedTexts name := by
  by_cases hsame : canonicalName name = canonicalName other
  · rw [receivedTexts_congr_name hsame, receivedTexts_congr_name hsame hs]
    unfold receivedTexts values
    rw [get?_delete_self]
    cases hs.get? other <;> cases alsoReceived <;> simp [Header.delete, Header.list, HeaderValue.kill]
  · exact receivedTexts_congr (get?_delete_of_ne hs hsame alsoReceived)

/-! ## Clean sets -/

/-- All headers of the set are clean. -/
def Clean (hs : HeaderSet) : Prop := ∀ name g, hs.get? name = some g → g.Clean

theorem clean_set_empty : empty.Clean := fun _ _ hg => (nomatch hg)

/-- A step that is about one name keeps a set clean if it leaves the name clean. -/
theorem Clean.of_name {hs' : HeaderSet} (h : hs.Clean) (name : String)
    (hother : ∀ other, canonicalName other ≠ canonicalName name → hs'.get? other = hs.get? other)
    (hself : ∀ g, hs'.get? name = some g → g.Clean) : hs'.Clean := by
  intro other g hg
  by_cases hsame : canonicalName other = canonicalName name
  · rw [get?_congr hsame] at hg
    exact hself g hg
  · rw [hother other hsame] at hg
    exact h other g hg

theorem Clean.getD (h : hs.Clean) (name : String) : ((hs.get? name).getD (.empty (canonicalName name))).Clean := by
  cases hg : hs.get? name with
  | none => exact Header.clean_empty _
  | some g => exact h name g hg

theorem Clean.addProcessed (h : hs.Clean) (name text : String) : (hs.addProcessed name text).Clean := by
  refine h.of_name name (fun other hne => get?_add_of_ne hs hne _ _) ?_
  intro g hg
  rw [HeaderSet.addProcessed, get?_add_self] at hg
  obtain rfl := Option.some.inj hg
  refine (h.getD name).add_processed text ?_
  split <;> simp

theorem Clean.delete (h : hs.Clean) (name : String) : (hs.delete name false).Clean := by
  refine h.of_name name (fun other hne => get?_delete_of_ne hs hne _) ?_
  intro g hg
  rw [get?_delete_self] at hg
  obtain ⟨g', hg', rfl⟩ := Option.map_eq_some_iff.mp hg
  exact Header.clean_delete (h name g' hg').received

theorem Clean.add_delete (h : hs.Clean) (name text : String) :
    ((hs.add name text .received).delete name false).Clean := by
  refine h.of_name name (fun other hne => ?_) ?_
  · rw [get?_delete_of_ne _ hne, get?_add_of_ne hs hne]
  · intro g hg
    rw [get?_delete_self, get?_add_self] at hg
    obtain rfl := Option.some.inj hg
    exact Header.clean_delete ((h.getD name).received_add text)

/-! ## Merges -/

theorem receivedTexts_foldl_add {g : Header} (hg : canonicalName g.name = canonicalName name)
    (vs : List HeaderValue) (hs : HeaderSet) :
    (vs.foldl (fun t v => t.add g.name v.text .received) hs).receivedTexts name =
      hs.receivedTexts name ++ vs.map (·.text) := by
  induction vs generalizing hs with
  | nil => simp
  | cons v vs ih =>
    rw [List.foldl_cons, ih, receivedTexts_congr_name hg.symm, receivedTexts_add_self, if_pos rfl,
      receivedTexts_congr_name hg, List.append_assoc]
    rfl

theorem receivedTexts_foldl_absorbValue {g : Header} (hg : canonicalName g.name = canonicalName name)
    {vs : List HeaderValue} (hvs : ∀ v ∈ vs, v.state ≠ .received) (hs : HeaderSet) :
    (vs.foldl (absorbValue g.name) hs).receivedTexts name = hs.receivedTexts name := by
  induction vs generalizing hs with
  | nil => rfl
  | cons v vs ih =>
    rw [List.foldl_cons, ih (fun u hu => hvs u (List.mem_cons_of_mem _ hu)), receivedTexts_congr_name hg.symm]
    unfold absorbValue
    split
    · rw [receivedTexts_delete, receivedTexts_congr_name hg]
    · rw [receivedTexts_add_self, if_neg (hvs v List.mem_cons_self), List.append_nil, receivedTexts_congr_name hg]

theorem receivedTexts_merge (hb : buffer.WellFormed) (hclean : buffer.Clean) (name : String) (target : HeaderSet) :
    (target.merge buffer).receivedTexts name = target.receivedTexts name ++ buffer.receivedTexts name := by
  cases hg : buffer.get? name with
  | none => rw [receivedTexts_congr (get?_merge_of_none hb hg target), receivedTexts_of_none hg, List.append_nil]
  | some g =>
    obtain ⟨base, hbase, hmerge⟩ := exists_get?_merge hb hg target
    have hname : canonicalName g.name = canonicalName name := by
      rw [hb.name_of_get? hg, canonicalName_canonicalName]
    have hall : g.received.filter (fun v => v.state == .received) = g.received :=
      List.filter_eq_self.mpr fun v hv => beq_iff_eq.mpr ((hclean name g hg).received v hv)
    have hwaiting : buffer.receivedTexts name = g.received.map (·.text) := by
      rw [receivedTexts, values, hg]
      rfl
    rw [receivedTexts_congr hmerge, absorb, hall, receivedTexts_foldl_absorbValue hname (hclean name g hg).processed,
      receivedTexts_foldl_add hname, receivedTexts_congr hbase, hwaiting]

end HeaderSet
end ProxyLog
