import Mathlib.Data.List.Basic
import ProxyLog.Proofs.Log.Line

/-!
# Integers of too many digits

A value that is not read breaks the grammar of its tag, or it has an integer of too many digits, and then one
of its words is as long. Times, durations, addresses and ids that cannot be read break the grammar: whatever is raised
about them is of a kind that is caught.

* `FailsWith x P`: every failure of `x` satisfies `P`.
* `failsWith_durationOfText`, `failsWith_instantOfText`: the kinds of what is raised about times.
* `ValueFault.StandsIn words`, `Failure.StandsIn words`: only digits that are too many escape, and they stand in one of
  the words.
* `failsWith_read`: the faults of every grammar stand in the words of the value.
* `failsWith_ofLine`: the failures of a record stand in the words of its line.
-/

set_option autoImplicit false

namespace ProxyLog

open Text

/-! ## Failures -/

/-- Every failure of `x` satisfies `P`. -/
def FailsWith {ε α : Type} (x : Except ε α) (P : ε → Prop) : Prop := ∀ e, x = .error e → P e

namespace FailsWith
variable {ε α β : Type} {P : ε → Prop}

theorem ok (a : α) : FailsWith (.ok a) P := by
  intro e h
  cases h

theorem mono {x : Except ε α} {Q : ε → Prop} (hx : FailsWith x P) (h : ∀ e, P e → Q e) : FailsWith x Q :=
  fun e he => h e (hx e he)

theorem error {e : ε} (h : P e) : FailsWith (.error e : Except ε α) P := by
  intro e' h'
  cases h'
  exact h

theorem bind {x : Except ε α} {f : α → Except ε β} (hx : FailsWith x P) (hf : ∀ a, FailsWith (f a) P) :
    FailsWith (x >>= f) P := by
  cases x with
  | error e => exact .error (hx e rfl)
  | ok a => exact hf a

theorem guard {c : Prop} [Decidable c] {e : ε} {f : PUnit → Except ε β} (he : P e) (hf : FailsWith (f ⟨⟩) P) :
    FailsWith (if c then throw e >>= f else f ⟨⟩) P := by
  split
  · exact .error he
  · exact hf

theorem map {x : Except ε α} (hx : FailsWith x P) (f : α → β) : FailsWith (x.map f) P := by
  cases x with
  | error e => exact .error (hx e rfl)
  | ok a => exact .ok (f a)

/-- What is of a kind that is caught does not escape. -/
theorem catching {δ : Type} {Q : δ → Prop} {x : Except ε α} {kinds : List FaultKind} {raised : ε → Raised}
    {told : ε → δ} {escaped : Raised → δ} (hx : FailsWith x fun e => (raised e).kind ∈ kinds) (h : ∀ e, Q (told e)) :
    FailsWith (ProxyLog.catching kinds raised told escaped x) Q := by
  rw [catching_eq_mapError hx]
  cases x with
  | error e => exact .error (h e)
  | ok a => exact .ok a

end FailsWith

/-- One of the words has room for that many digits, which are too many for an integer. -/
def HasDigits (ws : List String) (count : Nat) : Prop :=
  Number.digitLimit < count ∧ ∃ w ∈ ws, count ≤ w.length

def ValueFault.StandsIn (ws : List String) : ValueFault → Prop
  | field _ => True
  | tooManyDigits count => HasDigits ws count
  | escaped _ => False

def Failure.StandsIn (ws : List String) : Failure → Prop
  | malformed _ => True
  | tooManyDigits count => HasDigits ws count
  | escaped _ => False

/-! ## Times -/

theorem failsWith_readSeconds (s : String) :
    FailsWith (readSeconds s) fun fault => fault.kind ∈ [.value, .overflow] := by
  unfold readSeconds
  split
  · exact .error (by simp [TimeFault.kind])
  · exact .error (by decide)
  · exact .error (by decide)
  · exact .ok _

/-- The platform is not asked about a duration. -/
theorem failsWith_durationOfText (s : String) :
    FailsWith (Duration.ofText s) fun fault => fault.kind ∈ [.value, .overflow] := by
  refine .bind (failsWith_readSeconds s) fun p => ?_
  unfold Duration.ofMicros
  simp only
  split
  · exact .error (by decide)
  · split
    · exact .error (by simp [TimeFault.kind])
    · exact .ok _

theorem failsWith_checkSeconds (seconds : Int) :
    FailsWith (checkSeconds seconds) fun fault => fault.kind ∈ [.value, .overflow, .platform] := by
  unfold checkSeconds
  simp only
  split
  · exact .error (by decide)
  · split
    · exact .error (by decide)
    · split
      · exact .ok _
      · exact .error (by simp [TimeFault.kind])

theorem failsWith_instantOfText (s : String) :
    FailsWith (Instant.ofText s) fun fault => fault.kind ∈ [.value, .overflow, .platform] := by
  refine .bind ((failsWith_readSeconds s).mono ?_) fun p => .bind (failsWith_checkSeconds p.1) fun _ => ?_
  · intro fault h
    exact List.mem_append_left [.platform] h
  · unfold Instant.ofMicros
    split
    · exact .ok _
    · exact .error (by decide)

/-! ## Fields -/

theorem isBlank_of_isAsciiDigit {c : Char} (h : isAsciiDigit c = true) : isBlank c = false := by
  simp only [isAsciiDigit, Bool.and_eq_true, decide_eq_true_eq] at h
  simp only [isBlank]
  grind

theorem exists_of_plainDigits {cs ds : List Char} (h : plainDigits? cs = some ds) :
    (∀ c ∈ ds, isAsciiDigit c = true) ∧ ∃ feed, (∀ c ∈ feed, isBlank c = true) ∧ cs = ds ++ feed := by
  unfold plainDigits? at h
  simp only at h
  split at h
  · cases h
  · rename_i hgood
    obtain rfl := Option.some.inj h
    simp only [Bool.or_eq_true, Bool.not_eq_true', not_or, Bool.not_eq_false, List.all_eq_true] at hgood
    refine ⟨hgood.2, ?_⟩
    unfold dropFinalFeed
    split
    · rename_i hlast
      exact ⟨['\n'], List.forall_mem_singleton.mpr (by decide), (List.dropLast_append_getLast? '\n' hlast).symm⟩
    · exact ⟨[], by simp, by simp⟩

theorem exists_of_takeSign (cs : List Char) :
    ∃ sign, (∀ c ∈ sign, isBlank c = false) ∧ cs = sign ++ (Number.takeSign cs).2 := by
  unfold Number.takeSign
  split
  · exact ⟨['+'], List.forall_mem_singleton.mpr (by decide), rfl⟩
  · exact ⟨['-'], List.forall_mem_singleton.mpr (by decide), rfl⟩
  · exact ⟨[], by simp, rfl⟩

/-- Nothing but digits that are too many escapes. -/
theorem readInt_ne_escaped {what s : String} {raised : Raised} : readInt what s ≠ .error (.escaped raised) := by
  unfold readInt
  simp only
  split
  · exact nofun
  · split <;> exact nofun

/-- An integer of too many digits is one word, up to blanks behind it. -/
theorem exists_of_readInt {what s : String} {count : Nat} (h : readInt what s = .error (.tooManyDigits count)) :
    Number.digitLimit < count ∧ ∃ word blanks, s.toList = word ++ blanks ∧ count ≤ word.length ∧
      (∀ c ∈ word, isBlank c = false) ∧ ∀ c ∈ blanks, isBlank c = true := by
  obtain ⟨sign, hsign, hs⟩ := exists_of_takeSign s.toList
  unfold readInt at h
  simp only at h
  split at h
  · cases h
  · rename_i ds hplain
    obtain ⟨hdigits, feed, hfeed, hbody⟩ := exists_of_plainDigits hplain
    split at h
    · rename_i hlimit
      cases h
      have hword : ∀ c ∈ sign ++ ds, isBlank c = false := by
        intro c hc
        rcases List.mem_append.mp hc with hc | hc
        · exact hsign c hc
        · exact isBlank_of_isAsciiDigit (hdigits c hc)
      refine ⟨hlimit, sign ++ ds, feed, ?_, by simp, hword, hfeed⟩
      rw [hs, hbody, List.append_assoc]
    · cases h

section Fields
variable {ws : List String} {w : String}

theorem failsWith_countFault {α : Type} : FailsWith (countFault : Except ValueFault α) (ValueFault.StandsIn ws) :=
  .error trivial

/-- A value that is nothing but an integer. -/
theorem failsWith_readInt_self (what value : String) :
    FailsWith (readInt what value) (ValueFault.StandsIn (words value)) := by
  intro fault h
  cases fault with
  | field fault => exact trivial
  | escaped raised => exact readInt_ne_escaped h
  | tooManyDigits count =>
    obtain ⟨hlimit, word, blanks, hvalue, hcount, hword, hblanks⟩ := exists_of_readInt h
    have hne : word ≠ [] := List.ne_nil_of_length_pos (by omega)
    refine ⟨hlimit, String.ofList word, ?_, by simpa using hcount⟩
    rw [words, hvalue, wordsOf_append_of_blank hblanks, wordsOf_of_not_blank hne hword]
    exact List.mem_singleton_self _

theorem failsWith_readInt (what : String) (hw : w ∈ ws) : FailsWith (readInt what w) (ValueFault.StandsIn ws) := by
  intro fault h
  cases fault with
  | field fault => exact trivial
  | escaped raised => exact readInt_ne_escaped h
  | tooManyDigits count =>
    obtain ⟨hlimit, word, blanks, hvalue, hcount, -⟩ := exists_of_readInt h
    refine ⟨hlimit, w, hw, ?_⟩
    rw [← String.length_toList, hvalue, List.length_append]
    omega

theorem failsWith_readVxidField : FailsWith (readVxidField w) (ValueFault.StandsIn ws) :=
  .catching (fun _ _ => List.mem_singleton_self _) fun _ => trivial

theorem failsWith_readDuration (what : String) : FailsWith (readDuration what w) (ValueFault.StandsIn ws) :=
  .catching (failsWith_durationOfText w) fun _ => trivial

theorem failsWith_readInstant (what : String) : FailsWith (readInstant what w) (ValueFault.StandsIn ws) :=
  .catching (failsWith_instantOfText w) fun _ => trivial

theorem failsWith_readAddress (what : String) : FailsWith (readAddress what w) (ValueFault.StandsIn ws) := by
  unfold readAddress
  cases Net.Address.ofText? w with
  | none => exact .error trivial
  | some address => exact .ok address

end Fields

/-! ## Values -/

theorem failsWith_readEdge (value : String) : FailsWith (readEdge value) (ValueFault.StandsIn (words value)) := by
  unfold readEdge
  split
  · exact .bind failsWith_readVxidField fun _ => .ok _
  · rename_i hwords
    rw [hwords]
    exact .bind failsWith_readVxidField fun _ => .guard trivial <|
      .bind (failsWith_readInt _ (by simp)) fun _ => .ok _
  · exact failsWith_countFault

theorem failsWith_readHeader (direction : Direction) (value : String) :
    FailsWith (readHeader direction value) (ValueFault.StandsIn (words value)) := by
  unfold readHeader
  split
  · exact .ok _
  · exact .error trivial

theorem failsWith_readTraffic (value : String) :
    FailsWith (readTraffic value) (ValueFault.StandsIn (words value)) := by
  unfold readTraffic
  split
  · rename_i hwords
    rw [hwords]
    exact .bind (failsWith_readInt _ (by simp)) fun _ => .bind (failsWith_readInt _ (by simp)) fun _ =>
      .bind (failsWith_readInt _ (by simp)) fun _ => .bind (failsWith_readInt _ (by simp)) fun _ =>
      .bind (failsWith_readInt _ (by simp)) fun _ => .bind (failsWith_readInt _ (by simp)) fun _ => .ok _
  · exact failsWith_countFault

theorem failsWith_readPipedTraffic (value : String) :
    FailsWith (readPipedTraffic value) (ValueFault.StandsIn (words value)) := by
  unfold readPipedTraffic
  split
  · rename_i hwords
    rw [hwords]
    exact .bind (failsWith_readInt _ (by simp)) fun _ => .bind (failsWith_readInt _ (by simp)) fun _ =>
      .bind (failsWith_readInt _ (by simp)) fun _ => .bind (failsWith_readInt _ (by simp)) fun _ => .ok _
  · exact failsWith_countFault

theorem failsWith_readTiming (value : String) :
    FailsWith (readTiming value) (ValueFault.StandsIn (words value)) := by
  unfold readTiming
  split
  · exact .bind (failsWith_readInstant _) fun _ => .bind (failsWith_readDuration _) fun _ =>
      .bind (failsWith_readDuration _) fun _ => .ok _
  · exact failsWith_countFault

theorem failsWith_readClientStart (value : String) :
    FailsWith (readClientStart value) (ValueFault.StandsIn (words value)) := by
  unfold readClientStart
  split
  · rename_i hwords
    rw [hwords]
    exact .bind (failsWith_readAddress _) fun _ => .bind (failsWith_readInt _ (by simp)) fun _ => .ok _
  · exact failsWith_countFault

theorem failsWith_readSessionOpening (value : String) :
    FailsWith (readSessionOpening value) (ValueFault.StandsIn (words value)) := by
  unfold readSessionOpening
  split
  · rename_i hwords
    rw [hwords]
    exact .bind (failsWith_readAddress _) fun _ => .bind (failsWith_readInt _ (by simp)) fun _ =>
      .bind (failsWith_readAddress _) fun _ => .bind (failsWith_readInt _ (by simp)) fun _ =>
      .bind (failsWith_readInstant _) fun _ => .bind (failsWith_readInt _ (by simp)) fun _ => .ok _
  · exact failsWith_countFault

theorem failsWith_readSessionClosing (value : String) :
    FailsWith (readSessionClosing value) (ValueFault.StandsIn (words value)) := by
  unfold readSessionClosing
  split
  · exact .bind (failsWith_readDuration _) fun _ => .ok _
  · exact failsWith_countFault

theorem failsWith_readBackendOpening (value : String) :
    FailsWith (readBackendOpening value) (ValueFault.StandsIn (words value)) := by
  unfold readBackendOpening
  split
  · rename_i hwords
    rw [hwords]
    exact .bind (failsWith_readInt _ (by simp)) fun _ => .bind (failsWith_readAddress _) fun _ =>
      .bind (failsWith_readInt _ (by simp)) fun _ => .bind (failsWith_readAddress _) fun _ =>
      .bind (failsWith_readInt _ (by simp)) fun _ => .ok _
  · exact failsWith_countFault

theorem failsWith_readBackendStart (value : String) :
    FailsWith (readBackendStart value) (ValueFault.StandsIn (words value)) := by
  unfold readBackendStart
  split
  · rename_i hwords
    rw [hwords]
    exact .bind (failsWith_readAddress _) fun _ => .bind (failsWith_readInt _ (by simp)) fun _ => .ok _
  · exact failsWith_countFault

theorem failsWith_readBackendClosing (value : String) :
    FailsWith (readBackendClosing value) (ValueFault.StandsIn (words value)) := by
  unfold readBackendClosing
  split
  · rename_i hwords
    rw [hwords]
    exact .bind (failsWith_readInt _ (by simp)) fun _ => .ok _
  · exact failsWith_countFault

theorem failsWith_readHit (complete : Bool) (value : String) :
    FailsWith (readHit complete value) (ValueFault.StandsIn (words value)) := by
  unfold readHit
  split
  · exact .bind (failsWith_readDuration _) fun _ => .bind (failsWith_readDuration _) fun _ =>
      .bind failsWith_readVxidField fun _ => .bind (failsWith_readDuration _) fun _ => .ok _
  · exact .guard trivial <|
      .bind failsWith_readVxidField fun _ => .bind (failsWith_readDuration _) fun _ => .ok _
  · exact failsWith_countFault

theorem failsWith_readLifetimeBase {ws : List String} {source ttl grace keep reference status : String} :
    FailsWith (readLifetimeBase source ttl grace keep reference status) (ValueFault.StandsIn ws) :=
  .bind (failsWith_readDuration _) fun _ => .bind (failsWith_readDuration _) fun _ =>
    .bind (failsWith_readDuration _) fun _ => .bind (failsWith_readInstant _) fun _ => .ok _

theorem failsWith_readLifetime (value : String) :
    FailsWith (readLifetime value) (ValueFault.StandsIn (words value)) := by
  unfold readLifetime
  split
  · exact failsWith_readLifetimeBase
  · exact .bind failsWith_readLifetimeBase fun _ => .bind (failsWith_readInstant _) fun _ =>
      .bind (failsWith_readInstant _) fun _ => .bind (failsWith_readInstant _) fun _ =>
      .bind (failsWith_readDuration _) fun _ => .ok _
  · exact failsWith_countFault

theorem failsWith_readStorage (value : String) :
    FailsWith (readStorage value) (ValueFault.StandsIn (words value)) := by
  unfold readStorage
  split
  · exact .ok _
  · exact failsWith_countFault

theorem failsWith_readGzipRun (value : String) :
    FailsWith (readGzipRun value) (ValueFault.StandsIn (words value)) := by
  unfold readGzipRun
  split
  · rename_i hwords
    rw [hwords]
    exact .bind (failsWith_readInt _ (by simp)) fun _ => .bind (failsWith_readInt _ (by simp)) fun _ =>
      .bind (failsWith_readInt _ (by simp)) fun _ => .bind (failsWith_readInt _ (by simp)) fun _ =>
      .bind (failsWith_readInt _ (by simp)) fun _ => .ok _
  · exact failsWith_countFault

theorem failsWith_readBodyFetch (value : String) :
    FailsWith (readBodyFetch value) (ValueFault.StandsIn (words value)) := by
  unfold readBodyFetch
  split
  · rename_i hwords
    rw [hwords]
    exact .guard trivial <| .bind (failsWith_readInt _ (by simp)) fun _ => .ok _
  · exact failsWith_countFault

/-- Whatever the grammar, digits that are too many stand in one word of the value. -/
theorem failsWith_read (g : Grammar) (value : String) :
    FailsWith (g.read value) (ValueFault.StandsIn (words value)) := by
  cases g with
  | free payload => exact .ok payload
  | opening => exact (failsWith_readEdge value).map _
  | link => exact (failsWith_readEdge value).map _
  | header direction => exact (failsWith_readHeader direction value).map _
  | unset direction => exact (failsWith_readHeader direction value).map _
  | status => exact (failsWith_readInt_self _ value).map _
  | url =>
    rw [Grammar.read]
    cases Net.Url.ofText? value with
    | none => exact .error trivial
    | some parts => exact .ok _
  | traffic => exact (failsWith_readTraffic value).map _
  | pipedTraffic => exact (failsWith_readPipedTraffic value).map _
  | timing => exact (failsWith_readTiming value).map _
  | clientStart => exact (failsWith_readClientStart value).map _
  | sessionOpen => exact (failsWith_readSessionOpening value).map _
  | sessionClose => exact (failsWith_readSessionClosing value).map _
  | backendOpen => exact (failsWith_readBackendOpening value).map _
  | backendStart => exact (failsWith_readBackendStart value).map _
  | backendClose => exact (failsWith_readBackendClosing value).map _
  | hit complete => exact (failsWith_readHit complete value).map _
  | lifetime => exact (failsWith_readLifetime value).map _
  | storage => exact (failsWith_readStorage value).map _
  | length => exact (failsWith_readInt_self _ value).map _
  | gzip => exact (failsWith_readGzipRun value).map _
  | filters => exact .ok _
  | fetchBody => exact (failsWith_readBodyFetch value).map _
  | vclLog => exact .ok _

/-! ## Lines -/

theorem words_subset_of_splitLine {line tag value : String} (h : splitLine line = .ok (tag, value)) :
    words value ⊆ words line := by
  unfold splitLine at h
  split at h
  · rename_i tagChars valueChars hsplit
    cases h
    unfold splitChars at hsplit
    split at hsplit
    · cases hsplit
    · cases hsplit
      rw [words, words, String.toList_ofList, ← wordsOf_trim line.toList]
      exact List.map_subset _ fun w hw => mem_wordsOf_of_afterWord (mem_wordsOf_of_afterWord hw)
  · cases h

theorem HasDigits.mono {ws ws' : List String} {count : Nat} (h : HasDigits ws count) (hsub : ws ⊆ ws') :
    HasDigits ws' count := by
  obtain ⟨hlimit, w, hw, hcount⟩ := h
  exact ⟨hlimit, w, hsub hw, hcount⟩

theorem Failure.StandsIn.mono {ws ws' : List String} {e : Failure} (h : e.StandsIn ws) (hsub : ws ⊆ ws') :
    e.StandsIn ws' := by
  cases e with
  | malformed fault => exact trivial
  | tooManyDigits count => exact HasDigits.mono h hsub
  | escaped raised => exact h

/-- A fault of a value stands where it stood when it becomes a failure of the line. -/
theorem ValueFault.StandsIn.toFailure {ws : List String} {fault : ValueFault} (h : fault.StandsIn ws)
    (family : Family) (line : String) : (fault.toFailure family line).StandsIn ws := by
  cases fault with
  | field fault => exact trivial
  | tooManyDigits count => exact h
  | escaped raised => exact h

/-- When a line is not read as a record, digits that are too many stand in one word of the line. -/
theorem failsWith_ofLine (line : String) :
    FailsWith (Record.ofLine line).result (Failure.StandsIn (words line)) := by
  intro e h
  rcases ofLine_eq_error_cases h with rfl | ⟨tag, value, grammar, fault, hsplit, hread, rfl⟩
  · exact trivial
  · have hsub : words value ⊆ words line := words_strip line ▸ words_subset_of_splitLine hsplit
    exact ((failsWith_read grammar value fault hread).toFailure grammar.family (strip line)).mono hsub

end ProxyLog
