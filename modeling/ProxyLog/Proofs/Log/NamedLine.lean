import ProxyLog.Proofs.Log.Stop
import ProxyLog.Proofs.Text.Quoted

/-!
# The line that a fault names

A fault is reported with a line, and its message quotes that line. Two faults are reported otherwise: with a bad
marker the marker stands in for the line, and the message about a second opening record quotes the tag only.

* `LogFault.Names fault line`: the fault is reported with the line, and its message quotes it.
* `LogFault.names_line`, `LogFault.not_names_beginRepeated`: which messages quote the line.
* `OpensTwice lines`, `HasBadMarker lines marker`: the reader comes to a second opening record, or to a bad marker.
* `malformed_cases`: it stops for one of these, or for a fault of a line that it has read.
* `exists_names_iff`: when the fault of a log names a line of the log.
-/

set_option autoImplicit false

namespace ProxyLog

open Text

/-! ## Messages -/

theorem exists_blank_of_hasTwoFields {line : String} (h : hasTwoFields line = true) :
    ∃ c ∈ line.toList, isBlank c = true := by
  by_contra hnone
  have hspan : ∀ c ∈ line.toList, (!isBlank c) = true := by simpa using hnone
  have hrest : line.toList.dropWhile (fun c => !isBlank c) = [] := List.dropWhile_eq_nil_iff.mpr hspan
  refine splitChars_isSome_iff.mp h ?_
  rw [afterWord, hrest]
  rfl

namespace LogFault

/-- The fault is reported with the line, and its message quotes it. -/
def Names (fault : LogFault) (line : String) : Prop :=
  fault.line = line ∧ (quote line).toList <:+: fault.message.toList

instance (fault : LogFault) (line : String) : Decidable (fault.Names line) :=
  inferInstanceAs (Decidable (_ ∧ _))

theorem names_line {fault : LogFault} (h : ∀ vxid line, fault ≠ .beginRepeated vxid line) :
    fault.Names fault.line := by
  refine ⟨rfl, ?_⟩
  unfold message
  cases fault with dsimp only
  | tooFewFields line => exact infix_right _ _
  | badValue family fault line => exact infix_right _ _
  | badStartLine line => exact infix_right _ _
  | unknownKind kind line => exact infix_left (infix_left (infix_right _ _) _) _
  | badStartVxid fault line => exact infix_left (infix_left (infix_right _ _) _) _
  | badLevel marker => exact infix_right _ _
  | beginExpected tag line => exact infix_right _ _
  | beginMissing startLine => exact infix_right _ _
  | beginBlank startLine => exact infix_right _ _
  | beginRepeated vxid line => exact absurd rfl (h vxid line)
  | endMissing startLine => exact infix_left (infix_left (infix_left (infix_right _ _) _) _) _

theorem exists_message_beginRepeated (vxid : Int) (line : String) :
    ∃ front back, (beginRepeated vxid line).message.toList = front ++ '\'' :: beginTag.toList ++ '\'' :: back ∧
      '\'' ∉ front ∧ '\'' ∉ back ∧ '"' ∉ front ∧ '"' ∉ back := by
  have hsingle : '\'' ∉ vxid.repr.toList := notMem_repr (by decide) (by decide) vxid
  have hdouble : '"' ∉ vxid.repr.toList := notMem_repr (by decide) (by decide) vxid
  refine ⟨"parser error: duplicate ".toList,
    " tag found in the middle of transaction ".toList ++ vxid.repr.toList, ?_, by decide, ?_, by decide, ?_⟩
  · have hquote : (quote beginTag).toList = '\'' :: beginTag.toList ++ ['\''] := by decide +kernel
    have hmessage : (beginRepeated vxid line).message = "parser error: duplicate " ++ quote beginTag ++
        " tag found in the middle of transaction " ++ vxid.repr := rfl
    rw [hmessage, String.toList_append, String.toList_append, String.toList_append, hquote]
    simp only [List.append_assoc, List.cons_append, List.nil_append]
  · exact fun h => (List.mem_append.mp h).elim (by decide) hsingle
  · exact fun h => (List.mem_append.mp h).elim (by decide) hdouble

/-- A line of two fields has a blank, and the only text that the message quotes has none. -/
theorem not_names_beginRepeated {vxid : Int} {line other : String} (h : hasTwoFields line = true) :
    ¬ (beginRepeated vxid line).Names other := by
  rintro ⟨rfl, hinfix⟩
  obtain ⟨front, back, hmessage, hfront, hback, hfront', hback'⟩ := exists_message_beginRepeated vxid line
  rw [hmessage, quote, String.toList_ofList] at hinfix
  have hescaped : escaped line.toList = beginTag.toList := by
    refine escaped_eq_of_infix hfront (by decide) hback ?_ hinfix
    simp [hfront', hback', beginTag]
  obtain ⟨c, hc, hblank⟩ := exists_blank_of_hasTwoFields h
  have htag : beginTag.toList.all (fun c => !isBlank c && c != '\\') = true := by decide
  simp only [List.all_eq_true, Bool.and_eq_true, Bool.not_eq_true', bne_iff_ne] at htag
  rcases mem_escaped_or hc with hmem | hmem <;> rw [hescaped] at hmem
  · rw [(htag c hmem).1] at hblank
    cases hblank
  · exact (htag _ hmem).2 rfl

end LogFault

/-! ## Where the reader stops -/

/-- The reader comes to a second opening record in an open transaction. -/
def OpensTwice (lines : List String) : Prop :=
  ∃ b line r, Arrives lines (.inside b) line ∧ Reads line r ∧ r.family = .opening

/-- The reader comes to a start line of a known kind and a good id, whose first field is no marker. -/
def HasBadMarker (lines : List String) (marker : String) : Prop :=
  ∃ line bracket kind closing vxid, Arrives lines .between line ∧ isStartLine line = true ∧
    words line = [marker, bracket, kind, closing, vxid] ∧ (∃ k, TransactionKind.ofName? kind = some k) ∧
    (∃ n, readVxid vxid = .ok n) ∧ ¬ IsMarker marker.toList

theorem line_of_ofLine {line : String} {fault : LogFault}
    (h : (Record.ofLine line).result = .error (.malformed fault)) :
    fault.line = strip line ∧ ∀ vxid other, fault ≠ .beginRepeated vxid other := by
  rcases ofLine_eq_error_cases h with heq | ⟨tag, value, grammar, valueFault, -, -, heq⟩
  · cases heq
    exact ⟨rfl, nofun⟩
  · cases valueFault with
    | field fieldFault =>
      cases heq
      exact ⟨rfl, nofun⟩
    | tooManyDigits count => cases heq
    | escaped raised => cases heq

section
variable {maxDepth : Int} {lines : List String} {fault : LogFault}
  (h : (readLines maxDepth lines).result = .error (.malformed fault))
include h

theorem OpensTwice.exists_fault (ho : OpensTwice lines) :
    ∃ vxid line, hasTwoFields line = true ∧ fault = .beginRepeated vxid line := by
  obtain ⟨b, line, r, harrives, hr, hopening⟩ := ho
  have hline := (Phase.deliver_inside_eq_error_iff (b := b)).mpr (Or.inr ⟨r, hr, hopening, rfl⟩)
  have hstop : (readLines maxDepth lines).result = _ :=
    readLines_eq_error_iff.mpr (Or.inl ⟨_, line, harrives, hline⟩)
  cases h.symm.trans hstop
  exact ⟨_, _, hr.self.hasTwoFields, rfl⟩

theorem HasBadMarker.fault_eq {marker : String} (hm : HasBadMarker lines marker) : fault = .badLevel marker := by
  obtain ⟨line, bracket, kind, closing, vxid, harrives, hstart, hwords, ⟨k, hk⟩, ⟨n, hn⟩, hmarker⟩ := hm
  obtain ⟨marker', _, _, _, _, hwords', hhead, -⟩ := isStartLine_iff.mp hstart
  obtain rfl : marker' = marker := (List.cons.inj (hwords'.symm.trans hwords)).1
  have hlevel := (readLevel_eq_malformed_iff hhead).mpr ⟨rfl, hmarker⟩
  have hline := Phase.deliver_between_eq_error_iff.mpr
    ⟨hstart, (ofStartLine_eq_error_iff hwords).mpr (Or.inr (Or.inr ⟨k, n, hk, hn, hlevel⟩))⟩
  have hstop : (readLines maxDepth lines).result = _ :=
    readLines_eq_error_iff.mpr (Or.inl ⟨_, line, harrives, hline⟩)
  cases h.symm.trans hstop
  rfl

/-- A malformed log has a bad marker, or a second opening record, or its fault is reported with one of its lines. -/
theorem malformed_cases :
    (∃ marker, HasBadMarker lines marker ∧ fault = .badLevel marker) ∨ OpensTwice lines ∨
      (fault.line ∈ lines.map strip ∧ ∀ vxid line, fault ≠ .beginRepeated vxid line) := by
  rcases readLines_eq_error_iff.mp h with ⟨p, line, harrives, hline⟩ | ⟨d, f, hall, hend, heq⟩
  · have htrimmed : strip line = line := strip_of_mem_map_strip lines line harrives.mem
    cases p with
    | between =>
      obtain ⟨hstart, hline⟩ := Phase.deliver_between_eq_error_iff.mp hline
      obtain ⟨marker, bracket, kind, closing, vxid, hwords, hhead, -⟩ := isStartLine_iff.mp hstart
      rcases (ofStartLine_eq_error_iff hwords).mp hline with ⟨-, heq⟩ | ⟨-, _, -, -, heq⟩ | ⟨k, n, hk, hn, hlevel⟩
      · cases heq
        exact Or.inr (Or.inr ⟨harrives.mem, nofun⟩)
      · cases heq
        exact Or.inr (Or.inr ⟨harrives.mem, nofun⟩)
      · obtain ⟨rfl, hmarker⟩ := (readLevel_eq_malformed_iff hhead).mp hlevel
        exact Or.inl ⟨marker,
          ⟨line, bracket, kind, closing, vxid, harrives, hstart, hwords, ⟨k, hk⟩, ⟨n, hn⟩, hmarker⟩, rfl⟩
    | started t =>
      right; right
      rcases Phase.deliver_started_eq_error_iff.mp hline with ⟨-, heq⟩ | ⟨-, hrecord⟩ | ⟨r, -, -, heq⟩
      · cases heq
        exact ⟨harrives.startLine?_mem rfl, nofun⟩
      · obtain ⟨hfault, hne⟩ := line_of_ofLine hrecord
        exact ⟨hfault ▸ htrimmed.symm ▸ harrives.mem, hne⟩
      · cases heq
        exact ⟨harrives.mem, nofun⟩
    | inside b =>
      right
      rcases Phase.deliver_inside_eq_error_iff.mp hline with ⟨-, hrecord⟩ | ⟨r, hr, hopening, -⟩
      · obtain ⟨hfault, hne⟩ := line_of_ofLine hrecord
        exact Or.inr ⟨hfault ▸ htrimmed.symm ▸ harrives.mem, hne⟩
      · exact Or.inl ⟨b, line, r, harrives, hr, hopening⟩
  · cases heq
    have hstart := Phase.startLine?_of_endFault hend
    refine Or.inr (Or.inr ⟨(Phase.startLine?_of_deliverAll hall hstart).resolve_right nofun, ?_⟩)
    rintro vxid line rfl
    cases hd : d.phase <;> rw [hd] at hend <;> cases hend

end

/-- The fault of a malformed log names one of its lines, unless the reader stops at a second opening record, or at a
bad marker that is not itself a line. -/
theorem exists_names_iff {maxDepth : Int} {lines : List String} {fault : LogFault}
    (h : (readLines maxDepth lines).result = .error (.malformed fault)) :
    (∃ line ∈ lines, fault.Names (strip line)) ↔
      ¬ OpensTwice lines ∧ ∀ marker, HasBadMarker lines marker → ∃ line ∈ lines, strip line = marker := by
  constructor
  · rintro ⟨line, hline, hnames⟩
    refine ⟨fun ho => ?_, fun marker hm => ⟨line, hline, ?_⟩⟩
    · obtain ⟨vxid, other, hfields, rfl⟩ := ho.exists_fault h
      exact LogFault.not_names_beginRepeated hfields hnames
    · obtain rfl := hm.fault_eq h
      exact hnames.1.symm
  · rintro ⟨ho, hm⟩
    rcases malformed_cases h with ⟨marker, hbad, rfl⟩ | htwice | ⟨hmem, hne⟩
    · obtain ⟨line, hline, rfl⟩ := hm marker hbad
      exact ⟨line, hline, LogFault.names_line nofun⟩
    · exact absurd htwice ho
    · obtain ⟨line, hline, heq⟩ := List.mem_map.mp hmem
      exact ⟨line, hline, heq ▸ LogFault.names_line hne⟩

/-- A session that ends after no number of seconds, on a line with blanks around it. -/
def misspeltLines : List String :=
  ["*   << Session  >> 1", "-   Begin      sess 0 HTTP/1", "  -   SessClose  REM_CLOSE nan\t", "-   End"]

theorem exists_names_misspelt :
    (readLines 100 misspeltLines).result = .error (.malformed
      (.badValue .sessionClose (.badField "duration") "-   SessClose  REM_CLOSE nan")) ∧
      (∃ line ∈ misspeltLines, (LogFault.badValue .sessionClose (.badField "duration")
        "-   SessClose  REM_CLOSE nan").Names (strip line)) ∧
      ((∃ line ∈ misspeltLines, (LogFault.badValue .sessionClose (.badField "duration")
        "-   SessClose  REM_CLOSE nan").Names (strip line)) ↔
        ¬ OpensTwice misspeltLines ∧
          ∀ marker, HasBadMarker misspeltLines marker → ∃ line ∈ misspeltLines, strip line = marker) := by
  have hread : (readLines 100 misspeltLines).result = .error (.malformed
      (.badValue .sessionClose (.badField "duration") "-   SessClose  REM_CLOSE nan")) := by decide +kernel
  exact ⟨hread, by decide +kernel, exists_names_iff hread⟩

/-- A marker with a letter among its stars. -/
def mismarkedLines : List String := ["*x*  << Request  >> 2", "--  Begin  req 1 rxreq", "--  End"]

/-- A transaction with two opening records. -/
def twiceOpenedLines : List String :=
  ["**  << Request  >> 2", "--  Begin  req 1 rxreq", "--  Begin  req 1 rxreq", "--  End"]

theorem not_names_mismarked_twiceOpened :
    (readLines 100 mismarkedLines).result = .error (.malformed (.badLevel "*x*")) ∧
      (¬ ∃ line ∈ mismarkedLines, (LogFault.badLevel "*x*").Names (strip line)) ∧
      (readLines 100 twiceOpenedLines).result = .error (.malformed (.beginRepeated 2 "--  Begin  req 1 rxreq")) ∧
      ¬ ∃ line ∈ twiceOpenedLines, (LogFault.beginRepeated 2 "--  Begin  req 1 rxreq").Names (strip line) := by
  decide +kernel

end ProxyLog
