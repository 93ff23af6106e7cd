import ProxyLog.Proofs.Log.Stop
import ProxyLog.Proofs.Record.Digits
import ProxyLog.Proofs.Transaction.Refusal

/-!
# Malformed logs

A log that is not read breaks the grammar somewhere, unless an integer of it has too many digits. Nothing else that is
raised on the way escapes.

* `failsWith_ofStartLine`, `Phase.failsWith_deliver`: start lines, and all lines in every phase.
* `failsWith_readLines`: whole logs.
* `Draft.Refuses x d`: the action breaks off for want of a place for its record only.
* `readLines_ok_or_malformed`: a log of short fields is read or malformed, and drafts refuse records and no more.
-/

set_option autoImplicit false

namespace ProxyLog

open Text

theorem failsWith_readLevel {ws : List String} {marker : String} (h : marker ∈ ws) :
    FailsWith (readLevel marker) (Failure.StandsIn ws) := by
  unfold readLevel
  simp only
  split
  · exact .ok _
  · split
    · exact .error trivial
    · split
      · rename_i hlimit
        refine .error ⟨hlimit, marker, h, ?_⟩
        exact (List.length_filter_le _ _).trans_eq String.length_toList
      · exact .ok _

theorem failsWith_ofStartLine {line : String} (h : isStartLine line = true) :
    FailsWith (Transaction.ofStartLine line) (Failure.StandsIn (words line)) := by
  intro e hline
  obtain ⟨marker, bracket, kind, closing, vxid, hwords, -⟩ := isStartLine_iff.mp h
  rcases (ofStartLine_eq_error_iff hwords).mp hline with ⟨-, rfl⟩ | ⟨-, fault, -, -, rfl⟩ | ⟨-, -, -, -, hlevel⟩
  · exact trivial
  · exact trivial
  · rw [hwords]
    exact failsWith_readLevel List.mem_cons_self e hlevel

namespace Phase

/-- In every phase, when a line is not read, digits that are too many stand in one word of the line. -/
theorem failsWith_deliver (p : Phase) (line : String) :
    FailsWith (p.deliver line) (Failure.StandsIn (words line)) := by
  intro e h
  cases p with
  | between =>
    obtain ⟨hstart, hline⟩ := deliver_between_eq_error_iff.mp h
    exact failsWith_ofStartLine hstart e hline
  | started t =>
    rcases deliver_started_eq_error_iff.mp h with ⟨-, rfl⟩ | ⟨-, hline⟩ | ⟨r, -, -, rfl⟩
    · exact trivial
    · exact failsWith_ofLine line e hline
    · exact trivial
  | inside b =>
    rcases deliver_inside_eq_error_iff.mp h with ⟨-, hline⟩ | ⟨r, -, -, rfl⟩
    · exact failsWith_ofLine line e hline
    · exact trivial

end Phase

theorem failsWith_readLines (maxDepth : Int) (lines : List String) :
    FailsWith (readLines maxDepth lines).result (Failure.StandsIn (lines.flatMap words)) := by
  intro e h
  rcases readLines_eq_error_iff.mp h with ⟨p, line, harrives, hline⟩ | ⟨d, fault, -, -, rfl⟩
  · obtain ⟨raw, hraw, rfl⟩ := List.mem_map.mp harrives.mem
    have hfails := p.failsWith_deliver (strip raw) e hline
    rw [words_strip] at hfails
    exact hfails.mono fun w hw => List.mem_flatMap.mpr ⟨raw, hraw, hw⟩
  · exact trivial

/-- When the action breaks off, the record had no place there. -/
def Draft.Refuses {α : Type} (x : Drafting α) (d : Draft) : Prop :=
  ∀ e d', x.run d = .error e d' → ∃ fault, e = .refused fault

/-- A log none of whose fields has room for an integer of too many digits is read to its end, or it breaks the
grammar of logs. Of the drafts on the way, `begin` and `feed` refuse records and break off for no other reason. -/
theorem readLines_ok_or_malformed (maxDepth : Int) {lines : List String}
    (h : ∀ line ∈ lines, ∀ field ∈ words line, field.length ≤ Number.digitLimit) :
    ((∃ ts, (readLines maxDepth lines).result = .ok ts) ∨
      ∃ fault, (readLines maxDepth lines).result = .error (.malformed fault)) ∧
    ∀ t d, Draft.Reached t d → ∀ (r : Record) (line : String),
      Draft.Refuses (Draft.begin r line) d ∧ Draft.Refuses (Draft.feed r) d := by
  constructor
  · cases hread : (readLines maxDepth lines).result with
    | ok ts => exact Or.inl ⟨ts, rfl⟩
    | error e =>
      have hfails := failsWith_readLines maxDepth lines e hread
      cases e with
      | malformed fault => exact Or.inr ⟨fault, rfl⟩
      | escaped raised => exact hfails.elim
      | tooManyDigits count =>
        obtain ⟨hlimit, field, hfield, hcount⟩ := hfails
        obtain ⟨line, hline, hfield⟩ := List.mem_flatMap.mp hfield
        exact absurd (hcount.trans (h line hline field hfield)) (Nat.not_le.mpr hlimit)
  · intro t d hd r line
    have hsided := Draft.sided_of_reached hd
    exact ⟨fun e d' hrun => ((Draft.takes_begin hsided r line).refuses.untouched e d' hrun).2,
      fun e d' hrun => ((Draft.takes_feed hsided r).refuses.untouched e d' hrun).2⟩

/-- A session that opens in a year for which the platform has no room. -/
def timelessLines : List String :=
  ["*   << Session  >> 1", "-   Begin      sess 0 HTTP/1",
   "-   SessOpen   192.168.65.1 38144 a0 172.17.0.2 8001 1e17 24", "-   SessClose  REM_CLOSE nan"]

/-- A request of which only the start line was read. -/
def unopenedDraft : Draft := .start (.started 2 .request 2 "**  << Request  >> 2")

/-- A refusal of the platform is caught where an instant is read. From a duration it would escape. -/
theorem readLines_ok_or_malformed_timeless :
    (∀ line ∈ timelessLines, ∀ field ∈ words line, field.length ≤ Number.digitLimit) ∧
      Instant.ofText "1e17" = .error .yearTooWide ∧
      readTime [.value, .overflow] "duration" (Instant.ofText "1e17") =
        .error (.escaped ⟨.platform, TimeFault.yearTooWide.message⟩) ∧
      (readLines 100 timelessLines).result = .error (.malformed (.badValue .sessionOpen (.badField "session start")
        "-   SessOpen   192.168.65.1 38144 a0 172.17.0.2 8001 1e17 24")) ∧
      ((∃ ts, (readLines 100 timelessLines).result = .ok ts) ∨
        ∃ fault, (readLines 100 timelessLines).result = .error (.malformed fault)) ∧
      ∃ e, (Draft.begin Draft.callRecord "").run unopenedDraft = .error e unopenedDraft ∧
        ∃ fault, e = .refused fault := by
  have hshort : ∀ line ∈ timelessLines, ∀ field ∈ words line, field.length ≤ Number.digitLimit := by decide +kernel
  have htime : Instant.ofText "1e17" = .error .yearTooWide := by decide +kernel
  have hescapes : readTime [.value, .overflow] "duration" (Instant.ofText "1e17") =
      .error (.escaped ⟨.platform, TimeFault.yearTooWide.message⟩) := by
    rw [htime]
    rfl
  have hmalformed : (readLines 100 timelessLines).result =
      .error (.malformed (.badValue .sessionOpen (.badField "session start")
        "-   SessOpen   192.168.65.1 38144 a0 172.17.0.2 8001 1e17 24")) := by decide +kernel
  have hbegin : (Draft.begin Draft.callRecord "").run unopenedDraft =
      .error (.refused (.beginExpected "VCL_call" "")) unopenedDraft := rfl
  obtain ⟨hread, hdrafts⟩ := readLines_ok_or_malformed 100 hshort
  have hrefuses := (hdrafts _ unopenedDraft .start Draft.callRecord "").1 _ _ hbegin
  exact ⟨hshort, htime, hescapes, hmalformed, hread, _, hbegin, hrefuses⟩

end ProxyLog
