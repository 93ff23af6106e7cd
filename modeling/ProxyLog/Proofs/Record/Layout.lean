import ProxyLog.Proofs.Log.Line
import ProxyLog.Record.Layout

/-!
# Lines in any layout

Neither the marker of a line nor the blanks around its parts say anything: a line is its tag and its value. The
blanks within a value are kept as they are.

* `splitChars_parts`: the tag and the value of a text that starts with its marker.
* `trim_chars`: a line without the blanks at its ends.
* `splitLine_line`: splitting a line is the inverse of laying it out.
* `ReadAlike x y`: two lines were read as records that differ in the line only, or failed in the same way.
* `readAlike_ofParts`: the line that a record is read from bears on no other field of it.
* `readAlike_of_layouts`: lines with the same tag and value are read alike, and the line of a record as this record.
-/

set_option autoImplicit false

namespace ProxyLog

open Text

/-! ## Parts of a text -/

theorem IsField.isBlank_head {w : List Char} (h : IsField w) : ∀ c ∈ w.head?, isBlank c = false :=
  fun c hc => h.2 c (List.mem_of_head? hc)

theorem IsField.isBlank_getLast {w : List Char} (h : IsField w) : ∀ c ∈ w.getLast?, isBlank c = false :=
  fun c hc => h.2 c (List.mem_of_getLast? hc)

/-- The gap has a first character, and it is blank. -/
theorem isBlank_head_of_gap {gap : List Char} (h : IsGap gap) (hne : gap ≠ []) (rest : List Char) :
    ∀ c ∈ (gap ++ rest).head?, isBlank c = true := by
  intro c hc
  rw [List.head?_append_of_ne_nil _ hne] at hc
  exact h c (List.mem_of_head? hc)

theorem trimStart_field_append {w : List Char} (h : IsField w) (rest : List Char) :
    trimStart (w ++ rest) = w ++ rest := by
  apply trimStart_eq_self
  rw [List.head?_append_of_ne_nil _ h.1]
  exact h.isBlank_head

/-- A text that starts with a field and ends without a blank has nothing to trim. -/
theorem trim_field_append {first last : List Char} (hfirst : IsField first) (hne : last ≠ [])
    (hlast : ∀ c ∈ last.getLast?, isBlank c = false) (middle : List Char) :
    trim (first ++ (middle ++ last)) = first ++ (middle ++ last) := by
  apply trim_eq_self
  · rw [List.head?_append_of_ne_nil _ hfirst.1]
    exact hfirst.isBlank_head
  · rw [← List.append_assoc, List.getLast?_append_of_ne_nil _ hne]
    exact hlast

theorem splitChars_parts {marker gap tag rest : List Char} (hmarker : IsField marker) (hgap : IsGap gap)
    (hne : gap ≠ []) (htag : IsField tag) (hrest : ∀ c ∈ rest.head?, isBlank c = true) :
    splitChars (marker ++ (gap ++ (tag ++ rest))) = some (tag, trimStart rest) := by
  have hafter : afterWord (marker ++ (gap ++ (tag ++ rest))) = tag ++ rest := by
    rw [afterWord_append hmarker.2 (isBlank_head_of_gap hgap hne _), trimStart_append_of_blank hgap,
      trimStart_field_append htag]
  unfold splitChars
  rw [hafter]
  split
  · next hnil => exact absurd (List.append_eq_nil_iff.mp hnil).1 htag.1
  · rw [firstWord_append htag.2 hrest, afterWord_append htag.2 hrest]

/-! ## Lines -/

section Lines
variable {l l' : Layout} {tag value : String}

/-- What stands behind the tag once the line is trimmed. -/
def Layout.valuePart (l : Layout) (value : List Char) : List Char := if value = [] then [] else l.afterTag ++ value

theorem trim_chars (hl : l.IsValid value) (htag : IsField tag.toList) (hvalue : IsTrimmed value.toList) :
    trim (l.chars tag.toList value.toList) =
      l.marker ++ (l.afterMarker ++ (tag.toList ++ l.valuePart value.toList)) := by
  have hchars : l.chars tag.toList value.toList =
      l.before ++ (l.marker ++ (l.afterMarker ++ (tag.toList ++ (l.afterTag ++ value.toList)))) ++ l.behind := by
    simp only [Layout.chars, List.append_assoc]
  have hbefore (cs : List Char) : trim (l.before ++ cs) = trim cs := by
    rw [trim, trimStart_append_of_blank hl.before, ← trim]
  rw [hchars, trim_append_of_blank hl.behind, hbefore, Layout.valuePart]
  split
  · next hempty =>
    -- Behind the tag there are only blanks, so the trimmed line ends with the tag.
    have htrim := trim_field_append hl.marker htag.1 htag.isBlank_getLast l.afterMarker
    rw [hempty, List.append_nil, List.append_nil, ← List.append_assoc, ← List.append_assoc,
      trim_append_of_blank hl.afterTag.1, List.append_assoc, htrim]
  · next hne =>
    have htrim := trim_field_append hl.marker hne hvalue.2 (l.afterMarker ++ (tag.toList ++ l.afterTag))
    simpa only [List.append_assoc] using htrim

theorem isBlank_head_valuePart (hl : l.IsValid value) :
    ∀ c ∈ (l.valuePart value.toList).head?, isBlank c = true := by
  unfold Layout.valuePart
  split
  · simp
  · next hne =>
    exact isBlank_head_of_gap hl.afterTag.1 (hl.afterTag.2 (by simpa using hne)) value.toList

theorem trimStart_valuePart (hl : l.IsValid value) (hvalue : IsTrimmed value.toList) :
    trimStart (l.valuePart value.toList) = value.toList := by
  unfold Layout.valuePart
  split
  · next hempty => rw [hempty]; rfl
  · rw [trimStart_append_of_blank hl.afterTag.1, trimStart_eq_self hvalue.1]

theorem splitLine_strip_of_ok {line : String} {parts : String × String} (h : splitLine line = .ok parts) :
    splitLine (strip line) = .ok parts := by
  unfold splitLine at h ⊢
  rw [toList_strip, trim_trim]
  cases hsplit : splitChars (trim line.toList) with
  | none =>
    rw [hsplit] at h
    cases h
  | some found =>
    rw [hsplit] at h
    exact h

/-- Whatever the layout, the line is split into its tag and its value. -/
theorem splitLine_line (hl : l.IsValid value) (htag : IsField tag.toList) (hvalue : IsTrimmed value.toList) :
    splitLine (l.line tag value) = .ok (tag, value) := by
  have hsplit := splitChars_parts hl.marker hl.afterMarker.1 hl.afterMarker.2 htag (isBlank_head_valuePart hl)
  rw [← trim_chars hl htag hvalue, trimStart_valuePart hl hvalue] at hsplit
  simp only [splitLine, Layout.line, String.toList_ofList, hsplit, String.ofList_toList]

/-! ## Records -/

/-- The record of a line is that of its tag and its value, with the trimmed line. -/
theorem ofLine_line (hl : l.IsValid value) (htag : IsField tag.toList) (hvalue : IsTrimmed value.toList) :
    (Record.ofLine (l.line tag value)).result =
      (Record.ofParts tag value (strip (l.line tag value))).result := by
  rw [Record.ofLine_result, splitLine_strip_of_ok (splitLine_line hl htag hvalue)]
  rfl

end Lines

/-- Both failures are faults of the log, or both are integers of too many digits, or both escaped as the same kind. -/
def Failure.SameKind : Failure → Failure → Prop
  | .malformed _, .malformed _ => True
  | .tooManyDigits _, .tooManyDigits _ => True
  | .escaped raised, .escaped raised' => raised.kind = raised'.kind
  | _, _ => False

/-- Both lines are records, with the same tag, value and payload, or both fail, and in the same way. -/
inductive ReadAlike : Except Failure Record → Except Failure Record → Prop
  | record {r r' : Record} (h : r.withoutLine = r'.withoutLine) : ReadAlike (.ok r) (.ok r')
  | failure {e e' : Failure} (h : e.SameKind e') : ReadAlike (.error e) (.error e')

theorem ValueFault.sameKind_toFailure (fault : ValueFault) (family : Family) (line line' : String) :
    (fault.toFailure family line).SameKind (fault.toFailure family line') := by
  cases fault <;> trivial

theorem readAlike_ofParts (tag value line line' : String) :
    ReadAlike (Record.ofParts tag value line).result (Record.ofParts tag value line').result := by
  unfold Record.ofParts
  cases grammarOf? tag with
  | none => exact .record rfl
  | some g =>
    cases hread : g.read value with
    | ok payload =>
      simp only [hread]
      exact .record rfl
    | error fault =>
      simp only [hread]
      exact .failure (fault.sameKind_toFailure g.family line line')

/-- A line of any layout is split into its tag and its value, and with these two it is read alike in any other layout.
The line that a record keeps is read as this record again. -/
theorem readAlike_of_layouts :
    (∀ (l : Layout) (tag value : String), l.IsValid value → IsField tag.toList → IsTrimmed value.toList →
        splitLine (l.line tag value) = .ok (tag, value) ∧
          ∀ l' : Layout, l'.IsValid value →
            ReadAlike (Record.ofLine (l.line tag value)).result (Record.ofLine (l'.line tag value)).result) ∧
      ∀ (line : String) (r : Record), (Record.ofLine line).result = .ok r → (Record.ofLine r.line).result = .ok r := by
  refine ⟨?_, fun line r h => Reads.self h⟩
  intro l tag value hl htag hvalue
  refine ⟨splitLine_line hl htag hvalue, ?_⟩
  intro l' hl'
  rw [ofLine_line hl htag hvalue, ofLine_line hl' htag hvalue]
  exact readAlike_ofParts tag value _ _

/-- Blanks of several kinds on all sides. -/
def wideLayout : Layout := ⟨['\u2003', '\t'], ['-', '-'], [' ', '\u00a0'], ['\u3000', '\x0b'], ['\u2028', ' ']⟩

/-- One space between the parts. -/
def narrowLayout : Layout := ⟨[], ['*'], [' '], [' '], []⟩

/-- Nothing behind the tag, as in the line of a record without a value. -/
def bareLayout : Layout := ⟨[], ['-', '-'], [' '], [], []⟩

/-- A header whose value has blanks inside, a status that is no number, and a record without a value. -/
theorem readAlike_of_layouts_wide :
    splitLine (wideLayout.line "ReqHeader" "Via: a \u2003 b") = .ok ("ReqHeader", "Via: a \u2003 b") ∧
      ReadAlike (Record.ofLine (wideLayout.line "ReqHeader" "Via: a \u2003 b")).result
        (Record.ofLine (narrowLayout.line "ReqHeader" "Via: a \u2003 b")).result ∧
      ReadAlike (Record.ofLine (wideLayout.line "RespStatus" "20x")).result
        (Record.ofLine (narrowLayout.line "RespStatus" "20x")).result ∧
      ReadAlike (Record.ofLine (wideLayout.line "End" "")).result (Record.ofLine (bareLayout.line "End" "")).result ∧
      (Record.ofLine "-- End  ").result = .ok ⟨"End", "", "-- End", .closing⟩ ∧
      (Record.ofLine "-- End").result = .ok ⟨"End", "", "-- End", .closing⟩ := by
  obtain ⟨hlayouts, hlines⟩ := readAlike_of_layouts
  obtain ⟨hsplit, hvia⟩ := hlayouts wideLayout "ReqHeader" "Via: a \u2003 b" (by decide) (by decide) (by decide)
  obtain ⟨-, hfailing⟩ := hlayouts wideLayout "RespStatus" "20x" (by decide) (by decide) (by decide)
  obtain ⟨-, hbare⟩ := hlayouts wideLayout "End" "" (by decide) (by decide) (by decide)
  have hend : (Record.ofLine "-- End  ").result = .ok ⟨"End", "", "-- End", .closing⟩ := by decide +kernel
  have hagain := hlines _ _ hend
  exact ⟨hsplit, hvia narrowLayout (by decide), hfailing narrowLayout (by decide), hbare bareLayout (by decide),
    hend, hagain⟩

end ProxyLog
