import ProxyLog.Header.Account
import ProxyLog.Proofs.Record.FromLine
import ProxyLog.Proofs.Text.Case

/-!
# Canonical names

* `canonicalName_canonicalName`: the canonical form of a name is its own canonical form.
* `canonicalName_of_fromLine`: the headers that a log tells of have canonical names.
-/

set_option autoImplicit false

namespace ProxyLog
open Text

/-! ## Case of one character -/

/-- A change of case makes no token of what is none. -/
theorem isTokenChar_of_alphanum {c d : Char} (h : c = d ∨ (c.isAlphanum = true ∧ d.isAlphanum = true)) :
    isTokenChar c = isTokenChar d := by
  rcases h with rfl | ⟨hc, hd⟩
  · rfl
  · rw [isTokenChar, isTokenChar, hc, hd, Bool.true_or, Bool.true_or]

/-- The letter at the start of a part, or within one. -/
def recaseChar (start : Bool) (c : Char) : Char := if start then asciiUpper c else asciiLower c

theorem recaseChar_cases (start : Bool) (c : Char) :
    recaseChar start c = c ∨ ((recaseChar start c).isAlphanum = true ∧ c.isAlphanum = true) := by
  cases start with
  | true => exact asciiUpper_cases c
  | false => exact asciiLower_cases c

theorem recaseChar_recaseChar (start : Bool) (c : Char) :
    recaseChar start (recaseChar start c) = recaseChar start c := by
  cases start with
  | true => exact asciiUpper_asciiUpper c
  | false => exact asciiLower_asciiLower c

/-- A change of case leaves what is neither letter nor digit as it is. -/
theorem recaseChar_eq_iff (start : Bool) (c : Char) {d : Char} (hd : d.isAlphanum = false) :
    recaseChar start c = d ↔ c = d := by
  rcases recaseChar_cases start c with h | ⟨h1, h2⟩
  · rw [h]
  · constructor
    · intro h
      rw [h, hd] at h1
      cases h1
    · intro h
      rw [h, hd] at h2
      cases h2

/-! ## Case of a name -/

theorem recase_cons (start : Bool) (c : Char) (cs : List Char) :
    recase start (c :: cs) = recaseChar start c :: recase (c == '-') cs := rfl

theorem recase_recase (start : Bool) (cs : List Char) : recase start (recase start cs) = recase start cs := by
  induction cs generalizing start with
  | nil => rfl
  | cons c cs ih =>
    have hhyphen : (recaseChar start c == '-') = (c == '-') := by
      rw [Bool.eq_iff_iff, beq_iff_eq, beq_iff_eq]
      exact recaseChar_eq_iff start c (by decide)
    rw [recase_cons, recase_cons, recaseChar_recaseChar, hhyphen, ih]

theorem getLast?_recase (start : Bool) (cs : List Char) :
    (recase start cs).getLast? = some '\n' ↔ cs.getLast? = some '\n' := by
  induction cs generalizing start with
  | nil => exact Iff.rfl
  | cons c cs ih =>
    cases cs with
    | nil =>
      rw [recase_cons, recase, List.getLast?_singleton, List.getLast?_singleton, Option.some.injEq,
        Option.some.injEq]
      exact recaseChar_eq_iff start c (by decide)
    | cons d ds =>
      have h := ih (c == '-')
      rw [recase_cons, recase_cons, List.getLast?_cons_cons, List.getLast?_cons_cons]
      exact h

theorem dropLast_recase (start : Bool) (cs : List Char) :
    (recase start cs).dropLast = recase start cs.dropLast := by
  induction cs generalizing start with
  | nil => rfl
  | cons c cs ih =>
    cases cs with
    | nil => rfl
    | cons d ds =>
      have h := ih (c == '-')
      rw [recase_cons] at h
      rw [recase_cons, recase_cons, List.dropLast_cons_cons, List.dropLast_cons_cons, recase_cons, ← h]

theorem all_isTokenChar_recase (start : Bool) (cs : List Char) :
    (recase start cs).all isTokenChar = cs.all isTokenChar := by
  induction cs generalizing start with
  | nil => rfl
  | cons c cs ih =>
    rw [recase_cons, List.all_cons, List.all_cons, ih, isTokenChar_of_alphanum (recaseChar_cases start c)]

theorem isEmpty_recase (start : Bool) (cs : List Char) : (recase start cs).isEmpty = cs.isEmpty := by
  cases cs <;> rfl

theorem isTokenName_recase (start : Bool) (cs : List Char) : isTokenName (recase start cs) = isTokenName cs := by
  have hdrop : dropFinalFeed (recase start cs) = recase start (dropFinalFeed cs) := by
    unfold dropFinalFeed
    by_cases h : cs.getLast? = some '\n'
    · rw [if_pos h, if_pos ((getLast?_recase start cs).mpr h), dropLast_recase]
    · rw [if_neg h, if_neg fun h' => h ((getLast?_recase start cs).mp h')]
  rw [isTokenName, isTokenName, hdrop, isEmpty_recase, all_isTokenChar_recase]

theorem canonicalChars_canonicalChars (cs : List Char) :
    canonicalChars (canonicalChars cs) = canonicalChars cs := by
  unfold canonicalChars
  cases h : isTokenName cs with
  | true => rw [if_pos rfl, isTokenName_recase, h, if_pos rfl, recase_recase]
  | false => simp [h]

theorem canonicalName_canonicalName (name : String) :
    canonicalName (canonicalName name) = canonicalName name := by
  unfold canonicalName
  rw [String.toList_ofList, canonicalChars_canonicalChars]

/-! ## Headers that the proxy manages -/

theorem isProxyManaged_congr {name other : String} (h : canonicalName name = canonicalName other) :
    isProxyManaged name = isProxyManaged other := by
  rw [isProxyManaged, isProxyManaged, h]

theorem isProxyManaged_canonicalName (name : String) :
    isProxyManaged (canonicalName name) = isProxyManaged name :=
  isProxyManaged_congr (canonicalName_canonicalName name)

theorem HeaderLine.isManaged_iff {h : HeaderLine} :
    h.isManaged = true ↔ h.direction = .request ∧ isProxyManaged h.name = true := by
  simp [isManaged]

theorem HeaderLine.side?_of_isManaged {h : HeaderLine} (hm : h.isManaged = true) :
    h.direction.side? = some .request := by
  rw [(HeaderLine.isManaged_iff.mp hm).1]
  rfl

theorem HeaderLine.isManaged_of_name {h : HeaderLine} (hm : isProxyManaged h.name = false) : h.isManaged = false := by
  rw [isManaged, hm, Bool.and_false]

theorem HeaderLine.isManaged_of_side {h : HeaderLine} (hside : h.direction.side? ≠ some .request) :
    h.isManaged = false := by
  rw [Bool.eq_false_iff]
  exact fun hm => hside (side?_of_isManaged hm)

/-! ## Names in a log -/

theorem Record.headerEvent?_set_iff {r : Record} {h : HeaderLine} :
    r.headerEvent? = some ⟨h, false⟩ ↔ r.payload = .header h := by
  cases hp : r.payload <;> simp [headerEvent?, hp]

theorem Record.headerEvent?_unset_iff {r : Record} {h : HeaderLine} :
    r.headerEvent? = some ⟨h, true⟩ ↔ r.payload = .unset h := by
  cases hp : r.payload <;> simp [headerEvent?, hp]

theorem canonicalName_of_readHeader {direction : Direction} {value : String} {h : HeaderLine}
    (hr : readHeader direction value = .ok h) : canonicalName h.name = h.name := by
  unfold readHeader at hr
  split at hr
  · next name text _ =>
    obtain rfl := Except.ok.inj hr
    unfold canonicalName
    rw [String.toList_ofList, canonicalChars_canonicalChars]
  · cases hr

theorem direction_of_readHeader {direction : Direction} {value : String} {h : HeaderLine}
    (hr : readHeader direction value = .ok h) : h.direction = direction := by
  unfold readHeader at hr
  split at hr
  · obtain rfl := Except.ok.inj hr
    rfl
  · cases hr

/-- No tag takes its headers from anything but the grammar of headers. -/
theorem exists_readHeader_of_read {g : Grammar} {tag value : String} {r : Record} {e : HeaderEvent}
    (hg : grammarOf? tag = some g) (hread : g.read value = .ok r.payload) (he : r.headerEvent? = some e) :
    ∃ direction, directionOf? tag = some direction ∧ readHeader direction value = .ok e.line := by
  have hfamily := Grammar.family_of_read hread
  unfold Record.headerEvent? at he
  split at he
  · next l hl =>
    obtain rfl := Option.some.inj he
    rw [hl] at hread hfamily
    cases g with
    | header direction =>
      obtain ⟨l', hl', hp⟩ := exists_of_map_eq_ok hread
      obtain rfl := Payload.header.inj hp
      exact ⟨direction, by rw [directionOf?, hg], hl'⟩
    | free payload => exact absurd hfamily.symm (free_of_grammarOf? hg (by simp [Payload.family]))
    | _ => cases hfamily
  · next l hl =>
    obtain rfl := Option.some.inj he
    rw [hl] at hread hfamily
    cases g with
    | unset direction =>
      obtain ⟨l', hl', hp⟩ := exists_of_map_eq_ok hread
      obtain rfl := Payload.unset.inj hp
      exact ⟨direction, by rw [directionOf?, hg], hl'⟩
    | free payload => exact absurd hfamily.symm (free_of_grammarOf? hg (by simp [Payload.family]))
    | _ => cases hfamily
  · cases he

/-- Canonical names that differ do not become the same. -/
theorem canonicalName_ne {name other : String} (hn : canonicalName name = name)
    (ho : canonicalName other = other) (hne : other ≠ name) : canonicalName name ≠ canonicalName other := by
  rw [hn, ho]
  exact hne.symm

/-- A header that a log tells of is the one that its value reads, in the direction of its tag. -/
theorem exists_readHeader_of_fromLine {r : Record} (hr : r.FromLine) {e : HeaderEvent}
    (he : r.headerEvent? = some e) :
    ∃ direction, directionOf? r.tag = some direction ∧ readHeader direction r.value = .ok e.line := by
  rcases hr.payload_cases with hgeneric | ⟨g, hg, hread⟩
  · unfold Record.headerEvent? at he
    rw [hgeneric] at he
    cases he
  · exact exists_readHeader_of_read hg hread he

/-- The headers that a log tells of have canonical names. -/
theorem canonicalName_of_fromLine {r : Record} (hr : r.FromLine) {e : HeaderEvent}
    (he : r.headerEvent? = some e) : canonicalName e.line.name = e.line.name := by
  obtain ⟨direction, -, hread⟩ := exists_readHeader_of_fromLine hr he
  exact canonicalName_of_readHeader hread

end ProxyLog
