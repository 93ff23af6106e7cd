import ProxyLog.Proofs.Header.OneName

/-!
# The final view of one name

The last event of a name alone decides how its header ends: with the value that it sets, or not at
all when it is an unset. This holds for every order of calls and status lines around the events.

* `lastValue? es`: the value that the last of some events leaves.
* `filter_finalHeaders`: the final headers of a name are the value that its last event leaves.
-/

set_option autoImplicit false

namespace ProxyLog

/-- The value that an event leaves: an unset leaves none. -/
def HeaderEvent.value? (e : HeaderEvent) : Option String := if e.isUnset then none else some e.line.value

/-- The value that the last of some events leaves. -/
def lastValue? (es : List HeaderEvent) : Option String := es.getLast?.bind (·.value?)

theorem lastValue?_snoc (es : List HeaderEvent) (e : HeaderEvent) : lastValue? (es ++ [e]) = e.value? := by
  rw [lastValue?, List.getLast?_concat, Option.bind_some]

/-- The value with which a header ends, if it is not deleted. -/
def HeaderChange.finalValue? (c : HeaderChange) : Option String :=
  if c.state = .deleted then none else some c.final

namespace DiffState
variable {side : Side} {name : String}

theorem finalValue?_onEvent {s : DiffState} {e : HeaderEvent} (hs : s.Tracks e.line.name)
    (ha : s.Admits e.line) :
    ((s.onEvent e).current? e.line.name).bind (·.finalValue?) = e.value? := by
  unfold onEvent HeaderEvent.value?
  cases he : e.isUnset with
  | false =>
    rw [if_neg (by simp), if_neg (by simp), current?_onHeader hs ha, Option.bind_some]
    unfold HeaderChange.finalValue?
    have hstate : (if !s.processing then HeaderState.received
        else if (s.current? e.line.name).any (·.cameIn) then .modified else .added) ≠ .deleted := by
      split
      · simp
      · split <;> simp
    rw [if_neg hstate]
  | true =>
    rw [if_pos rfl, if_pos rfl, current?_onUnset hs ha]
    split
    · rfl
    · cases hc : s.current? e.line.name with
      | none => rfl
      | some previous =>
        rw [Option.bind_some]
        split <;> rfl

/-- At every point the current change of a name ends with the value that its last event left. -/
theorem finalValue?_reading {rs : List Record} (hall : AllAbout side name rs)
    (hu : Uniform (headerEvents side name rs)) :
    ((reading side rs).current? name).bind (·.finalValue?) = lastValue? (headerEvents side name rs) := by
  induction rs using List.reverseRecOn with
  | nil => rfl
  | append_singleton rs r ih =>
    have hs := (tracks_reading hall.of_append hu.of_headerEvents_append).1
    have hrs := ih hall.of_append hu.of_headerEvents_append
    rw [reading_snoc]
    rcases cases_of_bearsOn (hall r (by simp)) with hr | ⟨code, hr⟩ | ⟨e, hr, he⟩
    · rw [headerEvents_snoc_of_none (by simp [Record.headerEvent?, hr]), ← hrs]
      rcases step_of_call hr (reading side rs) with h1 | h1
      · rw [h1, current?_onCall hs.distinct]
      · rw [h1]
    · rw [headerEvents_snoc_of_none (by simp [Record.headerEvent?, hr]), ← hrs, step_of_status hr]
      rfl
    · obtain ⟨-, rfl⟩ := HeaderEvent.isOf_iff.mp he
      have ha := admits_reading hall hr he hu
      rw [headerEvents_snoc_of_isOf hr he, lastValue?_snoc, step_of_event hr he]
      exact finalValue?_onEvent hs ha

end DiffState

theorem finalHeaders_toList (c? : Option HeaderChange) :
    finalHeaders c?.toList = ((c?.bind fun c => c.finalValue?.map fun v => ⟨c.name, v⟩)).toList := by
  cases c? with
  | none => rfl
  | some c =>
    by_cases hc : c.state = .deleted <;> simp [finalHeaders, HeaderChange.finalValue?, hc]

theorem filter_name_finalHeaders (changes : List HeaderChange) (name : String) :
    (finalHeaders changes).filter (fun h => h.name == name) =
      finalHeaders (changes.filter fun c => c.name == name) := by
  rw [finalHeaders, finalHeaders, List.filter_map, List.filter_filter, List.filter_filter]
  congr 1
  refine List.filter_congr fun c _ => ?_
  rw [Function.comp_apply, Bool.and_comm]

/-- How a header ends is decided by its last event: the final headers of a name are the value that
this event sets, and none if it is an unset or there is no event. -/
theorem filter_finalHeaders {side : Side} {name : String} {rs : List Record}
    (hu : Uniform (headerEvents side name rs)) :
    (finalHeaders (headerChanges side rs)).filter (fun h => h.name == name) =
      ((lastValue? (headerEvents side name rs)).map fun v => ⟨name, v⟩).toList := by
  have hall := DiffState.allAbout_recordsAbout side name rs
  have hu' := hu
  rw [← headerEvents_recordsAbout] at hu'
  have hs := (DiffState.tracks_reading hall hu').1
  have hlast := DiffState.finalValue?_reading hall hu'
  rw [headerEvents_recordsAbout] at hlast
  rw [filter_name_finalHeaders, filter_headerChanges hu, finalHeaders_toList, ← hlast, Option.map_bind]
  congr 1
  cases hc : (DiffState.reading side (recordsAbout side name rs)).current? name with
  | none => rfl
  | some c =>
    have hname : c.name = name := by
      rcases Option.or_eq_some_iff.mp hc with h | ⟨-, h⟩
      · exact hs.named.held.get? h
      · exact hs.named.known.get? h
    simp [hname]

end ProxyLog
