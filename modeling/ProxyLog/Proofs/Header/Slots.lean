import ProxyLog.Proofs.Header.Order

/-!
# Reserved places and the result

A place is reserved when the first header of a name is held back, and filled when the held headers are put in their
places. In between each held name has one reserved place, and there are no others, so none is left when the result is
told.

* `DiffState.reservedNames s`: the names of the reserved places, in order.
* `DiffState.Slotted s`: they are the names that are held; `slotted_reading`: this is so after any records.
* `WellFormedChanges cs`: no name comes twice, the views leave out what they should, and their lengths balance.
* `headerChanges_wellFormed`: no reserved place is left, and the result is well-formed.
-/

set_option autoImplicit false

namespace ProxyLog

def Mark.reserved? : Mark → Option String
  | .change _ => none
  | .reserved name => some name

namespace DiffState
variable {s : DiffState}

/-! ## Reserved places -/

def reservedNames (s : DiffState) : List String := s.history.filterMap Mark.reserved?

/-- The reserved places are those of the held names, one for each and in their order. -/
def Slotted (s : DiffState) : Prop := s.reservedNames = s.held.keys

theorem slotted_start : start.Slotted := rfl

theorem Slotted.record (h : s.Slotted) (c : HeaderChange) : (s.record c).Slotted := by
  have hsame : (s.record c).reservedNames = s.reservedNames := by
    simp [reservedNames, DiffState.record, Mark.reserved?]
  exact hsame.trans h

theorem Slotted.hold (h : s.Slotted) (c : HeaderChange) : (s.hold c).Slotted := by
  have hkeys : (s.hold c).held.keys = if c.name ∈ s.held.keys then s.held.keys else s.held.keys ++ [c.name] :=
    OrderedMap.keys_insert s.held c.name c
  have hhistory : (s.hold c).history =
      if c.name ∈ s.held.keys then s.history else s.history ++ [.reserved c.name] := by
    simp only [DiffState.hold, OrderedMap.contains_iff_mem_keys]
  -- The name is new to the places and to the held names, or to neither.
  rw [Slotted, reservedNames, hkeys, hhistory]
  split
  · exact h
  · rw [List.filterMap_append, ← h]
    rfl

theorem Slotted.onCall (h : s.Slotted) (hm : s.Marked) : s.onCall.Slotted := by
  unfold DiffState.onCall
  split
  · exact h
  · -- The flush leaves nothing held and no place reserved.
    refine List.filterMap_eq_nil_iff.mpr fun m hmem => ?_
    obtain ⟨c, rfl⟩ := hm.exists_change m hmem
    rfl

theorem Slotted.onHeader (h : s.Slotted) (l : HeaderLine) : (s.onHeader l).Slotted := by
  unfold DiffState.onHeader
  split
  · exact h.hold _
  · exact h.record _

theorem Slotted.onUnset (h : s.Slotted) (l : HeaderLine) : (s.onUnset l).Slotted := by
  unfold DiffState.onUnset
  split
  · exact h.hold _
  · split
    · exact h
    · split
      · exact h.record _
      · exact h

theorem Slotted.step (h : s.Slotted) (hm : s.Marked) (side : Side) (r : Record) : (s.step side r).Slotted := by
  unfold DiffState.step
  split
  · split
    · exact h.onCall hm
    · exact h
  · exact h
  · split
    · exact h.onHeader _
    · exact h
  · split
    · exact h.onUnset _
    · exact h
  · exact h

theorem slotted_reading (side : Side) (rs : List Record) : (reading side rs).Slotted := by
  induction rs using List.reverseRecOn with
  | nil => exact slotted_start
  | append_singleton rs r ih =>
    rw [reading_snoc]
    exact ih.step (marked_reading side rs) side r

end DiffState

/-! ## Well-formed results -/

/-- No name comes twice, a deleted header is none of the final ones and an added one none of those that came in, and
there are as many final headers as came in and were added and not deleted. -/
structure WellFormedChanges (cs : List HeaderChange) : Prop where
  distinct : (cs.map (·.name)).Nodup
  deleted : ∀ c ∈ cs, c.state = .deleted → c.name ∉ (finalHeaders cs).map (·.name)
  added : ∀ c ∈ cs, c.state = .added → c.name ∉ (incomingHeaders cs).map (·.name)
  balance : (finalHeaders cs).length + cs.countP (·.state == .deleted) =
    (incomingHeaders cs).length + cs.countP (·.state == .added)

section
variable {cs : List HeaderChange} {c : HeaderChange}

theorem map_name_finalHeaders (cs : List HeaderChange) :
    (finalHeaders cs).map (·.name) = (cs.filter (·.state != .deleted)).map (·.name) :=
  List.map_map

theorem map_name_incomingHeaders (cs : List HeaderChange) :
    (incomingHeaders cs).map (·.name) = (cs.filter (·.cameIn)).map (·.name) :=
  List.map_map

theorem notMem_names_filter (hcs : (cs.map (·.name)).Nodup) (hc : c ∈ cs) {p : HeaderChange → Bool}
    (hp : p c = false) : c.name ∉ (cs.filter p).map (·.name) := by
  intro hmem
  obtain ⟨d, hd, hname⟩ := List.mem_map.mp hmem
  obtain ⟨hd, hpd⟩ := List.mem_filter.mp hd
  obtain rfl : d = c := List.inj_on_of_nodup_map hcs hd hc hname
  rw [hp] at hpd
  cases hpd

/-- The changes of a state and the others are all the changes. -/
theorem length_filter_state (state : HeaderState) (cs : List HeaderChange) :
    (cs.filter (·.state != state)).length + cs.countP (·.state == state) = cs.length := by
  have hothers : cs.countP (fun c => ¬(c.state == state) = true) = (cs.filter (·.state != state)).length := by
    rw [← List.countP_eq_length_filter]
    exact List.countP_congr fun c _ => by simp
  rw [← hothers, Nat.add_comm]
  exact (List.length_eq_countP_add_countP _).symm

theorem wellFormedChanges_of_nodup (hcs : (cs.map (·.name)).Nodup) : WellFormedChanges cs where
  distinct := hcs
  deleted c hc hstate := by
    rw [map_name_finalHeaders]
    exact notMem_names_filter hcs hc (by simp [hstate])
  added c hc hstate := by
    rw [map_name_incomingHeaders]
    exact notMem_names_filter hcs hc (by simp [hstate, HeaderChange.cameIn])
  balance := by
    have hfinal := length_filter_state .deleted cs
    have hincoming := length_filter_state .added cs
    rw [finalHeaders, incomingHeaders, List.length_map, List.length_map, hfinal]
    exact hincoming.symm

end

/-! ## The result of any records -/

/-- After any records the reserved places are those of the held names, one for each, so that none is left when what is
held back is put in its places, and the result is well-formed. -/
theorem headerChanges_wellFormed (side : Side) (rs : List Record) :
    ((DiffState.reading side rs).Slotted ∧ (DiffState.reading side rs).held.keys.Nodup ∧
      ∀ m ∈ (DiffState.reading side rs).flush.history, ∃ c, m = .change c) ∧
      WellFormedChanges (headerChanges side rs) := by
  have hm := DiffState.marked_reading side rs
  refine ⟨⟨DiffState.slotted_reading side rs, hm.distinct, hm.exists_change⟩, wellFormedChanges_of_nodup ?_⟩
  rw [map_name_headerChanges]
  exact (List.nodup_dedup _).filter _

/-- Two requests in a row: the first adds a header and unsets another, the second comes in after a status line with a
managed header that was not there before. -/
def reopenedRecords : List Record := [
  ⟨"ReqHeader", "Via: a", "-- ReqHeader Via: a", .header ⟨"Via", "a", .request⟩⟩,
  ⟨"ReqHeader", "Host: h", "-- ReqHeader Host: h", .header ⟨"Host", "h", .request⟩⟩,
  ⟨"VCL_call", "RECV", "-- VCL_call RECV", .vclCall⟩,
  ⟨"ReqHeader", "Id: 1", "-- ReqHeader Id: 1", .header ⟨"Id", "1", .request⟩⟩,
  ⟨"ReqUnset", "Host: h", "-- ReqUnset Host: h", .unset ⟨"Host", "h", .request⟩⟩,
  ⟨"RespStatus", "200", "-- RespStatus 200", .status 200⟩,
  ⟨"ReqHeader", "X-Forwarded-For: b", "-- ReqHeader X-Forwarded-For: b",
    .header ⟨"X-Forwarded-For", "b", .request⟩⟩]

theorem headerChanges_wellFormed_reopened :
    (DiffState.reading .request reopenedRecords).reservedNames = ["X-Forwarded-For"] ∧
      (DiffState.reading .request reopenedRecords).held.keys = ["X-Forwarded-For"] ∧
      headerChanges .request reopenedRecords = [⟨"Via", "a", "a", .received⟩, ⟨"Id", "1", "1", .added⟩,
        ⟨"Host", "h", "h", .deleted⟩, ⟨"X-Forwarded-For", "b", "b", .received⟩] ∧
      (∀ m ∈ (DiffState.reading .request reopenedRecords).flush.history, ∃ c, m = .change c) ∧
      WellFormedChanges (headerChanges .request reopenedRecords) := by
  obtain ⟨⟨_, _, hfilled⟩, hresult⟩ := headerChanges_wellFormed .request reopenedRecords
  exact ⟨by decide +kernel, by decide +kernel, by decide +kernel, hfilled, hresult⟩

end ProxyLog
