import ProxyLog.Record.Line

/-!
# Records that are read from lines

* `Record.FromLine.payload_cases`: a record that is not generic says what the grammar of its tag reads in its
  value.
* `free_of_grammarOf?`: no value without fields is a header or a link.
* `vxid_of_readEdge`, `edge?_of_fromLine`: the links of a log name ids of 32 bits.
-/

set_option autoImplicit false

namespace ProxyLog

theorem Record.FromLine.payload_cases {r : Record} (hr : r.FromLine) :
    r.payload = .generic ∨ ∃ g, grammarOf? r.tag = some g ∧ g.read r.value = .ok r.payload := by
  obtain ⟨line, hline⟩ := hr
  rw [Record.ofLine_result] at hline
  cases hsplit : splitLine (Text.strip line) with
  | error e =>
    rw [hsplit] at hline
    cases hline
  | ok parts =>
    rw [hsplit, Except.bind] at hline
    unfold Record.ofParts at hline
    split at hline
    · obtain rfl := Except.ok.inj hline
      exact Or.inl rfl
    · next g hg =>
      split at hline
      · next payload hread =>
        obtain rfl := Except.ok.inj hline
        exact Or.inr ⟨g, hg, hread⟩
      · cases hline

theorem free_of_grammarOf? {tag : String} {payload : Payload} {family : Family}
    (h : grammarOf? tag = some (.free payload)) (hf : family ∈ [Family.header, .unset, .opening, .link]) :
    payload.family ≠ family := by
  have hall : tagGrammars.all (fun q => match q.2 with
      | .free payload => [Family.header, .unset, .opening, .link].all (payload.family != ·)
      | _ => true) = true := by decide
  obtain ⟨before, after, hl, -⟩ := List.lookup_eq_some_iff.mp h
  have hq := List.all_eq_true.mp hall (tag, .free payload) (by rw [hl]; simp)
  simpa using List.all_eq_true.mp hq family hf

/-! ## Links -/

/-- The number can be a transaction id. -/
def InVxidRange (n : Int) : Prop := 0 ≤ n ∧ n ≤ maxVxid

instance (n : Int) : Decidable (InVxidRange n) := inferInstanceAs (Decidable (_ ∧ _))

theorem inVxidRange_of_readVxid {s : String} {n : Nat} (h : readVxid s = .ok n) : InVxidRange n := by
  unfold readVxid at h
  split at h
  · cases h
  · split at h
    · cases h
    · split at h
      · cases h
      · next hle =>
        obtain rfl := Except.ok.inj h
        unfold InVxidRange
        omega

/-- The end of a link that a record names. -/
def Payload.edge? : Payload → Option Edge
  | opening parent => some parent
  | link child => some child
  | _ => none

theorem exists_of_bind_eq_ok {ε α β : Type} {x : Except ε α} {f : α → Except ε β} {b : β}
    (h : x >>= f = .ok b) : ∃ a, x = .ok a ∧ f a = .ok b := by
  cases x with
  | error e => cases h
  | ok a => exact ⟨a, rfl, h⟩

theorem vxid_of_readEdge {value : String} {e : Edge} (h : readEdge value = .ok e) : InVxidRange e.vxid := by
  have hfield {s : String} {n : Nat} (hn : readVxidField s = .ok n) : InVxidRange n := by
    unfold readVxidField at hn
    cases hread : readVxid s with
    | error fault =>
      rw [hread] at hn
      cases hn
    | ok m =>
      rw [hread] at hn
      obtain rfl := Except.ok.inj hn
      exact inVxidRange_of_readVxid hread
  unfold readEdge at h
  split at h
  · obtain ⟨n, hn, h⟩ := exists_of_bind_eq_ok h
    obtain rfl := Except.ok.inj h
    exact hfield hn
  · obtain ⟨n, hn, h⟩ := exists_of_bind_eq_ok h
    split at h
    · cases h
    · obtain ⟨level, -, h⟩ := exists_of_bind_eq_ok h
      obtain rfl := Except.ok.inj h
      exact hfield hn
  · cases h

theorem Payload.family_of_edge? {p : Payload} {e : Edge} (h : p.edge? = some e) :
    p.family = .opening ∨ p.family = .link := by
  cases p with
  | opening parent => exact Or.inl rfl
  | link child => exact Or.inr rfl
  | _ => cases h

theorem readEdge_of_read {g : Grammar} {tag value : String} {p : Payload} {e : Edge}
    (hg : grammarOf? tag = some g) (hread : g.read value = .ok p) (he : p.edge? = some e) :
    readEdge value = .ok e := by
  have hfamily := p.family_of_edge? he
  rw [Grammar.family_of_read hread] at hfamily
  cases g with
  | opening | link =>
    obtain ⟨e', he', rfl⟩ := exists_of_map_eq_ok hread
    obtain rfl : e' = e := Option.some.inj he
    exact he'
  | free payload =>
    rcases hfamily with h | h
    · exact absurd h (free_of_grammarOf? hg (by decide))
    · exact absurd h (free_of_grammarOf? hg (by decide))
  | _ => rcases hfamily with h | h <;> cases h

theorem edge?_of_fromLine {r : Record} {e : Edge} (hr : r.FromLine) (he : r.payload.edge? = some e) :
    InVxidRange e.vxid := by
  rcases hr.payload_cases with hgeneric | ⟨g, hg, hread⟩
  · rw [hgeneric] at he
    cases he
  · exact vxid_of_readEdge (readEdge_of_read hg hread he)

end ProxyLog
