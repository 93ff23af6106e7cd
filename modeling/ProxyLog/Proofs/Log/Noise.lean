import ProxyLog.Log.Edit
import ProxyLog.Proofs.Log.Delivery

/-!
# Noise and padding

The reader passes over noise where no transaction is open, and over lines of fewer than two fields everywhere but
directly behind a start line, where a record has to come. Such lines can be put in or left out, and every line can be
padded with blanks, and the log is read as before.

* `isBetween_iff_readLines`, `isStarted_iff_starts`: the two kinds of places, told without the reader's phase.
* `Reading.step_of_noise`, `Reading.step_of_short`: a line that is passed over leaves the reading as it is.
* `Reading.readAll_insert`: such a line can stand in any log at that place.
* `Edit.readAll_eq`, `SameLog.readAll_eq`: one edit changes nothing, and neither do many.
* `readLines_of_sameLog`: this for whole logs.
-/

set_option autoImplicit false

namespace ProxyLog

open Text

variable {maxDepth : Int} {front back lines old new : List String} {line : String}

/-! ## Lines that are passed over -/

theorem isStartLine_of_short (h : hasTwoFields line = false) : isStartLine line = false := by
  by_contra hstart
  obtain ⟨marker, bracket, kind, closing, vxid, hwords, -⟩ := isStartLine_iff.mp (Bool.of_not_eq_false hstart)
  have htwo : hasTwoFields line = true := hasTwoFields_of_two_le (by rw [hwords]; simp)
  rw [h] at htwo
  cases htwo

namespace Reading
variable {s : Reading}

theorem step_of_noise (hs : s.phase = .between) (h : isStartLine (strip line) = false) : s.step line = pure s := by
  obtain ⟨set, phase⟩ := s
  obtain rfl : phase = .between := hs
  simp [step, betweenLine, h, goOn]

/-- A line of fewer than two fields starts no transaction and is no record of one. -/
theorem step_of_short (hs : ∀ t, s.phase ≠ .started t) (h : hasTwoFields (strip line) = false) :
    s.step line = pure s := by
  obtain ⟨set, phase⟩ := s
  cases phase with
  | between => exact step_of_noise rfl (isStartLine_of_short h)
  | started t => exact absurd rfl (hs t)
  | inside b => simp [step, bodyLine, h, goOn]

theorem bind_step_of_passes {x : Outcome Failure Reading} (h : ∀ s, x.result = .ok s → s.step line = pure s) :
    x >>= (·.step line) = x := by
  obtain ⟨notices, result⟩ := x
  cases result with
  | error e => exact Outcome.bind_of_error rfl _
  | ok s =>
    have hstep : s.step line = pure s := h s rfl
    rw [Outcome.bind_of_ok rfl, hstep, Outcome.pure_notices, List.append_nil, Outcome.pure_result]

theorem readAll_insert {x : Outcome Failure Reading}
    (h : ∀ s, (readAll x front).result = .ok s → s.step line = pure s) (back : List String) :
    readAll x (front ++ line :: back) = readAll x (front ++ back) := by
  rw [readAll_append, readAll_cons, bind_step_of_passes h, ← readAll_append]

theorem readAll_pad {padded : String} (h : strip line = strip padded) (x : Outcome Failure Reading)
    (front back : List String) : readAll x (front ++ line :: back) = readAll x (front ++ padded :: back) := by
  have hstep : (fun s : Reading => s.step line) = fun s => s.step padded := funext fun s => s.step_congr h
  rw [readAll_append, readAll_append, readAll_cons, readAll_cons, hstep]

end Reading

/-! ## Places -/

theorem isBetween_iff : isBetween maxDepth lines = true ↔
    ∃ s, (Reading.readAll (pure (.start maxDepth)) lines).result = .ok s ∧ s.phase = .between := by
  rw [isBetween]
  cases (Reading.readAll (pure (.start maxDepth)) lines).result with
  | error e => simp
  | ok s =>
    obtain ⟨set, phase⟩ := s
    cases phase <;> simp

theorem isStarted_iff : isStarted maxDepth lines = true ↔
    ∃ s t, (Reading.readAll (pure (.start maxDepth)) lines).result = .ok s ∧ s.phase = .started t := by
  rw [isStarted]
  cases (Reading.readAll (pure (.start maxDepth)) lines).result with
  | error e => simp
  | ok s =>
    obtain ⟨set, phase⟩ := s
    cases phase <;> simp

/-- No transaction is open behind lines that are a log of their own. -/
theorem isBetween_iff_readLines :
    isBetween maxDepth lines = true ↔ ∃ ts, (readLines maxDepth lines).result = .ok ts := by
  rw [isBetween_iff, readLines, Outcome.bind_result]
  cases (Reading.readAll (pure (.start maxDepth)) lines).result with
  | error e => simp [Except.bind]
  | ok s =>
    obtain ⟨set, phase⟩ := s
    cases phase <;> simp [Except.bind, Outcome.ofExcept, Reading.finish]

theorem exists_deliver_started_iff {p : Phase} :
    (∃ d t, p.deliver line = .ok d ∧ d.phase = .started t) ↔ p = .between ∧ ∃ t, Starts line t := by
  constructor
  · rintro ⟨d, t, hd, ht⟩
    cases p with
    | between =>
      rcases Phase.deliver_between_cases hd with ⟨-, rfl⟩ | ⟨u, hu, -⟩
      · cases ht
      · exact ⟨rfl, u, hu⟩
    | started u =>
      obtain ⟨r, -, -, rfl⟩ := Phase.deliver_started_cases hd
      cases ht
    | inside b =>
      rcases Phase.deliver_inside_cases hd with ⟨-, rfl⟩ | ⟨r, -, -, rfl⟩
      · cases ht
      · split at ht <;> cases ht
  · rintro ⟨rfl, t, ht⟩
    exact ⟨_, t, Phase.deliver_between_of_starts ht, rfl⟩

/-- A line is taken as a start line if it is one and no transaction is open in front of it. -/
theorem isStarted_iff_starts : isStarted maxDepth lines = true ↔
    ∃ front line t, lines = front ++ [line] ∧ isBetween maxDepth front = true ∧ Starts (strip line) t := by
  rw [isStarted_iff]
  induction lines using List.reverseRecOn with
  | nil =>
    constructor
    · rintro ⟨s, t, hs, ht⟩
      cases hs
      cases ht
    · rintro ⟨front, line, t, hlines, -⟩
      exact absurd hlines.symm (List.concat_ne_nil line front)
  | append_singleton front line _ =>
    have hresult : (Reading.readAll (pure (.start maxDepth)) (front ++ [line])).result =
        (Reading.readAll (pure (.start maxDepth)) front).result.bind fun s =>
          (s.phase.deliver (strip line)).map s.receive := by
      rw [Reading.readAll_append, Reading.readAll_cons, Reading.readAll_nil, Outcome.bind_result]
      exact congrArg _ (funext fun s => s.step_eq_deliver line)
    rw [hresult]
    constructor
    · rintro ⟨s, t, hs, ht⟩
      obtain ⟨u, hu, hs⟩ := exists_of_bind_eq_ok hs
      obtain ⟨d, hd, rfl⟩ := exists_of_map_eq_ok hs
      obtain ⟨hbetween, t', ht'⟩ := exists_deliver_started_iff.mp ⟨d, t, hd, ht⟩
      exact ⟨front, line, t', rfl, isBetween_iff.mpr ⟨u, hu, hbetween⟩, ht'⟩
    · rintro ⟨front', line', t, hlines, hbetween, ht⟩
      obtain ⟨rfl, hline⟩ := List.append_inj' hlines rfl
      obtain rfl := List.singleton_inj.mp hline
      obtain ⟨s, hs, hphase⟩ := isBetween_iff.mp hbetween
      refine ⟨s.receive ⟨[], .started t⟩, t, ?_, rfl⟩
      rw [hs]
      show (s.phase.deliver (strip line)).map s.receive = _
      rw [hphase, Phase.deliver_between_of_starts ht]
      rfl

/-! ## Edits -/

theorem Edit.readAll_eq (h : Edit maxDepth old new) :
    Reading.readAll (pure (.start maxDepth)) new = Reading.readAll (pure (.start maxDepth)) old := by
  cases h with
  | pad front back h => exact (Reading.readAll_pad h _ front back).symm
  | short front back h hplace =>
    -- The reader has failed in front of the line, or it is in one of the two phases that pass it over.
    refine Reading.readAll_insert (fun s hs => Reading.step_of_short (fun t ht => ?_) h) back
    rw [isStarted_iff.mpr ⟨s, t, hs, ht⟩] at hplace
    cases hplace
  | noise front back h hplace =>
    obtain ⟨s, hs, hphase⟩ := isBetween_iff.mp hplace
    refine Reading.readAll_insert (fun s' hs' => Reading.step_of_noise ?_ h) back
    rw [hs] at hs'
    rw [← Except.ok.inj hs', hphase]

theorem SameLog.readAll_eq (h : SameLog maxDepth old new) :
    Reading.readAll (pure (.start maxDepth)) new = Reading.readAll (pure (.start maxDepth)) old := by
  induction h with
  | refl => rfl
  | edit _ he ih => rw [he.readAll_eq, ih]
  | undo _ he ih => rw [← he.readAll_eq, ih]

/-- Logs that differ only in noise and padding are read alike: into the same set or with the same failure, and with
the same notices on the way. The places for noise are those behind lines that are a log of their own. Short lines may
stand everywhere but behind a line that follows such lines and starts a transaction. -/
theorem readLines_of_sameLog (maxDepth : Int) :
    (∀ old new, SameLog maxDepth old new → readLines maxDepth new = readLines maxDepth old) ∧
      (∀ lines, isBetween maxDepth lines = true ↔ ∃ ts, (readLines maxDepth lines).result = .ok ts) ∧
      ∀ lines, isStarted maxDepth lines = true ↔
        ∃ front line t, lines = front ++ [line] ∧ isBetween maxDepth front = true ∧ Starts (strip line) t := by
  refine ⟨fun old new h => ?_, fun lines => isBetween_iff_readLines, fun lines => isStarted_iff_starts⟩
  rw [readLines, readLines, h.readAll_eq]

def quietLines : List String :=
  ["*   << Session  >> 1", "-   Begin  sess 0 HTTP/1", "-   Link  req 2 rxreq", "-   End"]

/-- The same with noise around it, a start line that is padded, and a short line among the records. -/
def noisedLines : List String :=
  ["-   Link  req 3 rxreq", "\t*   << Session  >> 1 ", "-   Begin  sess 0 HTTP/1", "-", "-   Link  req 2 rxreq",
   "-   End", "-   Link  req 4"]

/-- A link without its fields. -/
def brokenLines : List String := ["*   << Session  >> 1", "-   Begin  sess 0 HTTP/1", "-   Link  req"]

/-- The same behind a blank line and a short one. -/
def noisedBrokenLines : List String := ["", "*   << Session  >> 1", "-   Begin  sess 0 HTTP/1", "End", "-   Link  req"]

theorem readLines_of_sameLog_noised :
    SameLog 100 quietLines noisedLines ∧ readLines 100 noisedLines = readLines 100 quietLines ∧
      (∃ ts, (readLines 100 quietLines).result = .ok ts) ∧
      SameLog 100 brokenLines noisedBrokenLines ∧ readLines 100 noisedBrokenLines = readLines 100 brokenLines ∧
      (readLines 100 noisedBrokenLines).result =
        .error (.malformed (.badValue .link .wrongCount "-   Link  req")) := by
  obtain ⟨hsame, hbetween, -⟩ := readLines_of_sameLog 100
  have hquiet : isBetween 100 quietLines = true := by decide +kernel
  have hnoised : SameLog 100 quietLines noisedLines := by
    have hfront : Edit 100 quietLines ("-   Link  req 3 rxreq" :: quietLines) :=
      .noise [] quietLines (by decide +kernel) (by decide +kernel)
    have hpad : Edit 100 ("-   Link  req 3 rxreq" :: quietLines)
        ("-   Link  req 3 rxreq" :: "\t*   << Session  >> 1 " :: quietLines.tail) :=
      .pad ["-   Link  req 3 rxreq"] quietLines.tail (by decide +kernel)
    have hshort : Edit 100 ("-   Link  req 3 rxreq" :: "\t*   << Session  >> 1 " :: quietLines.tail)
        noisedLines.dropLast :=
      .short (noisedLines.take 3) ["-   Link  req 2 rxreq", "-   End"] (by decide +kernel) (by decide +kernel)
    have hback : Edit 100 noisedLines.dropLast noisedLines :=
      .noise noisedLines.dropLast [] (by decide +kernel) (by decide +kernel)
    exact (((SameLog.refl _).edit hfront).edit hpad).edit hshort |>.edit hback
  have hbroken : SameLog 100 brokenLines noisedBrokenLines := by
    have hblank : Edit 100 brokenLines ("" :: brokenLines) :=
      .short [] brokenLines (by decide +kernel) (by decide +kernel)
    have hshort : Edit 100 ("" :: brokenLines) noisedBrokenLines :=
      .short (noisedBrokenLines.take 3) ["-   Link  req"] (by decide +kernel) (by decide +kernel)
    exact ((SameLog.refl _).edit hblank).edit hshort
  exact ⟨hnoised, hsame _ _ hnoised, (hbetween _).mp hquiet, hbroken, hsame _ _ hbroken, by decide +kernel⟩

end ProxyLog
