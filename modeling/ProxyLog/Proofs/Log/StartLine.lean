import ProxyLog.Log.Block
import ProxyLog.Proofs.Text.Blank

/-!
# Start lines

A line is taken as the start of a transaction by its shape, and it names one if its fields are as they
should be. Integers of too many digits are refused whatever their value, so the two halves meet only
for lines whose fields are no longer than that.

* `Starts line t`: the reader takes the line as the start of `t`.
* `exists_readVxid_iff`, `exists_readLevel_iff`: which fields are ids and markers.
* `exists_starts_iff`: which lines start a transaction.
-/

set_option autoImplicit false

namespace ProxyLog

open Text

/-- The line is taken as the start of a transaction, and names it. -/
structure Starts (line : String) (t : Transaction) : Prop where
  isStart : isStartLine line = true
  names : Transaction.ofStartLine line = .ok t

instance (marker : List Char) : Decidable (IsMarker marker) :=
  haveI := List.decidableBAll (fun c => c = '*' ∨ isAsciiDigit c = true) marker
  inferInstanceAs (Decidable (_ ∧ _))

instance (text : List Char) : Decidable (IsVxid text) :=
  haveI := List.decidableBAll (fun c => isAsciiDigit c = true) text
  inferInstanceAs (Decidable (_ ∧ _ ∧ _))

/-! ## Fields -/

theorem dropFinalFeed_of_not_mem {cs : List Char} (h : '\n' ∉ cs) : dropFinalFeed cs = cs := by
  unfold dropFinalFeed
  rw [if_neg]
  intro hlast
  exact h (List.mem_of_getLast? hlast)

/-- A field has no line feed for a number to leave out. -/
theorem plainDigits?_eq_some_iff {cs ds : List Char} (h : '\n' ∉ cs) :
    plainDigits? cs = some ds ↔ cs = ds ∧ ds ≠ [] ∧ ∀ c ∈ ds, isAsciiDigit c = true := by
  unfold plainDigits?
  simp only [dropFinalFeed_of_not_mem h]
  split
  · rename_i hbad
    constructor
    · intro hnone
      cases hnone
    · rintro ⟨rfl, hne, hdigits⟩
      rw [List.all_eq_true.mpr hdigits] at hbad
      simp [hne] at hbad
  · rename_i hgood
    simp only [Bool.or_eq_true, List.isEmpty_iff, Bool.not_eq_true', not_or, Bool.not_eq_false,
      List.all_eq_true] at hgood
    constructor
    · intro hsome
      obtain rfl := Option.some.inj hsome
      exact ⟨rfl, hgood⟩
    · rintro ⟨rfl, -⟩
      rfl

theorem exists_readVxid_iff {s : String} (hfeed : '\n' ∉ s.toList) (hshort : s.length ≤ Number.digitLimit) :
    (∃ vxid, readVxid s = .ok vxid) ↔ IsVxid s.toList := by
  have hlength : ¬ s.toList.length > Number.digitLimit := by
    rw [String.length_toList]
    omega
  unfold readVxid
  cases hplain : plainDigits? s.toList with
  | none =>
    constructor
    · rintro ⟨vxid, h⟩
      cases h
    · intro h
      have hsome := (plainDigits?_eq_some_iff hfeed).mpr ⟨rfl, h.1, h.2.1⟩
      rw [hplain] at hsome
      cases hsome
  | some ds =>
    obtain ⟨rfl, hne, hdigits⟩ := (plainDigits?_eq_some_iff hfeed).mp hplain
    simp only [if_neg hlength]
    by_cases hrange : Number.digitsValue s.toList > maxVxid
    · rw [if_pos hrange]
      constructor
      · rintro ⟨vxid, h⟩
        cases h
      · intro h
        exact absurd hrange (Nat.not_lt.mpr h.2.2)
    · rw [if_neg hrange]
      exact ⟨fun _ => ⟨hne, hdigits, Nat.not_lt.mp hrange⟩, fun _ => ⟨_, rfl⟩⟩

theorem isMarker_iff_of_head {marker : String} (hhead : marker.toList.head? = some '*') :
    IsMarker marker.toList ↔ ∀ c ∈ marker.toList.filter (· != '*'), isAsciiDigit c = true := by
  simp only [IsMarker, hhead, true_and, List.mem_filter, bne_iff_ne, ne_eq]
  constructor
  · rintro h c ⟨hc, hstar⟩
    exact (h c hc).resolve_left hstar
  · intro h c hc
    exact or_iff_not_imp_left.mpr fun hstar => h c ⟨hc, hstar⟩

theorem exists_readLevel_iff {marker : String} (hhead : marker.toList.head? = some '*')
    (hshort : marker.length ≤ Number.digitLimit) :
    (∃ level, readLevel marker = .ok level) ↔ IsMarker marker.toList := by
  have hlength : ¬ (marker.toList.filter (· != '*')).length > Number.digitLimit := by
    have hle := List.length_filter_le (· != '*') marker.toList
    rw [String.length_toList] at hle
    omega
  rw [isMarker_iff_of_head hhead]
  unfold readLevel
  simp only
  split
  · rename_i hempty
    rw [List.isEmpty_iff.mp hempty]
    exact ⟨fun _ c hc => (List.not_mem_nil hc).elim, fun _ => ⟨_, rfl⟩⟩
  · split
    · rename_i hall
      constructor
      · rintro ⟨level, h⟩
        cases h
      · intro h
        rw [List.all_eq_true.mpr h] at hall
        cases hall
    · rename_i hall
      rw [Bool.not_eq_true', Bool.not_eq_false] at hall
      exact ⟨fun _ => List.all_eq_true.mp hall, fun _ => ⟨_, rfl⟩⟩

theorem readLevel_eq_malformed_iff {marker : String} {fault : LogFault} (hhead : marker.toList.head? = some '*') :
    readLevel marker = .error (.malformed fault) ↔ fault = .badLevel marker ∧ ¬ IsMarker marker.toList := by
  rw [isMarker_iff_of_head hhead, ← List.all_eq_true]
  unfold readLevel
  simp only
  generalize marker.toList.filter (· != '*') = digits
  cases hall : digits.all isAsciiDigit with
  | false =>
    have hne : digits.isEmpty = false := by
      cases digits with
      | nil => cases hall
      | cons c cs => rfl
    simpa [hne] using eq_comm
  | true =>
    simp only [not_true, and_false, iff_false]
    split
    · exact nofun
    · rw [if_neg (by simp)]
      split <;> exact nofun

/-! ## Lines -/

theorem words_eq_five_iff {line marker bracket kind closing vxid : String} :
    words line = [marker, bracket, kind, closing, vxid] ↔
      wordsOf line.toList = [marker.toList, bracket.toList, kind.toList, closing.toList, vxid.toList] := by
  have hinj : Function.Injective String.ofList := fun a b h => by simpa using congrArg String.toList h
  rw [words, ← (List.map_injective_iff.mpr hinj).eq_iff]
  simp

theorem isStartLine_iff {line : String} : isStartLine line = true ↔
    ∃ marker bracket kind closing vxid, words line = [marker, bracket, kind, closing, vxid] ∧
      marker.toList.head? = some '*' ∧ bracket.toList.head? = some '<' := by
  unfold isStartLine
  constructor
  · intro h
    split at h
    · rename_i marker bracket kind closing vxid hwords
      refine ⟨.ofList marker, .ofList bracket, .ofList kind, .ofList closing, .ofList vxid, ?_, ?_⟩
      · rw [words, hwords]
        rfl
      · simpa using h
    · cases h
  · rintro ⟨marker, bracket, kind, closing, vxid, hwords, hmarker, hbracket⟩
    rw [words_eq_five_iff.mp hwords]
    simp [hmarker, hbracket]

theorem isStartLine_strip (line : String) : isStartLine (strip line) = isStartLine line := by
  rw [isStartLine, toList_strip, wordsOf_trim]
  rfl

theorem ofStartLine_eq_ok_iff {line marker bracket kind closing vxid : String} {t : Transaction}
    (hwords : words line = [marker, bracket, kind, closing, vxid]) :
    Transaction.ofStartLine line = .ok t ↔
      ∃ k n level, TransactionKind.ofName? kind = some k ∧ readVxid vxid = .ok n ∧
        readLevel marker = .ok level ∧ t = .started n k level line := by
  unfold Transaction.ofStartLine
  simp only [hwords]
  cases hkind : TransactionKind.ofName? kind with
  | none => simp [throw, throwThe, MonadExceptOf.throw, bind, Except.bind]
  | some k =>
    cases hvxid : readVxid vxid with
    | error fault => simp [bind, Except.bind, Except.mapError, pure, Except.pure]
    | ok n =>
      cases hlevel : readLevel marker with
      | error fault => simp [bind, Except.bind, pure, Except.pure]
      | ok level => simp [bind, Except.bind, pure, Except.pure, eq_comm]

theorem exists_starts_iff {line : String} (hshort : ∀ field ∈ words line, field.length ≤ Number.digitLimit) :
    (∃ t, Starts line t) ↔ IsProperStart line := by
  have hfeed : ∀ field ∈ words line, '\n' ∉ field.toList := by
    intro field hfield hmem
    obtain ⟨w, hw, rfl⟩ := List.mem_map.mp hfield
    rw [String.toList_ofList] at hmem
    exact absurd (isBlank_of_mem_wordsOf hw '\n' hmem) (by decide)
  constructor
  · rintro ⟨t, hstart, hnames⟩
    obtain ⟨marker, bracket, kind, closing, vxid, hwords, hmarker, hbracket⟩ := isStartLine_iff.mp hstart
    obtain ⟨k, n, level, hkind, hvxid, hlevel, -⟩ := (ofStartLine_eq_ok_iff hwords).mp hnames
    rw [hwords] at hshort hfeed
    exact ⟨marker, bracket, kind, closing, vxid, hwords,
      (exists_readLevel_iff hmarker (hshort marker (by simp))).mp ⟨level, hlevel⟩, hbracket,
      by rw [hkind, Option.isSome_some],
      (exists_readVxid_iff (hfeed vxid (by simp)) (hshort vxid (by simp))).mp ⟨n, hvxid⟩⟩
  · rintro ⟨marker, bracket, kind, closing, vxid, hwords, hmarker, hbracket, hkind, hvxid⟩
    rw [hwords] at hshort hfeed
    obtain ⟨k, hkind⟩ := Option.isSome_iff_exists.mp hkind
    obtain ⟨n, hvxid⟩ := (exists_readVxid_iff (hfeed vxid (by simp)) (hshort vxid (by simp))).mpr hvxid
    obtain ⟨level, hlevel⟩ := (exists_readLevel_iff hmarker.1 (hshort marker (by simp))).mpr hmarker
    exact ⟨.started n k level line,
      isStartLine_iff.mpr ⟨marker, bracket, kind, closing, vxid, hwords, hmarker.1, hbracket⟩,
      (ofStartLine_eq_ok_iff hwords).mpr ⟨k, n, level, hkind, hvxid, hlevel, rfl⟩⟩

/-- A started transaction has its heading from the start line, and nothing else yet. -/
theorem Starts.exists_started {line : String} {t : Transaction} (h : Starts line t) :
    ∃ vxid kind level, t = .started vxid kind level line := by
  obtain ⟨marker, bracket, kind, closing, vxid, hwords, -⟩ := isStartLine_iff.mp h.isStart
  obtain ⟨k, n, level, -, -, -, rfl⟩ := (ofStartLine_eq_ok_iff hwords).mp h.names
  exact ⟨n, k, level, rfl⟩

end ProxyLog
