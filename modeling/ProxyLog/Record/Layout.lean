import ProxyLog.Record.Line

/-!
# The layout of a line

* `Layout`: the marker of a line and the blanks around its parts; `Layout.IsValid l value` says that they
  keep the parts of a line with this value apart.
* `Layout.line l tag value`: the line of a tag and a value.
* `IsField`, `IsTrimmed`: what the parts of a line are like.
* `Record.withoutLine r`: the record without the line that it was read from.
-/

set_option autoImplicit false

namespace ProxyLog

/-! ## Parts -/

/-- The text is one field: not empty, and without blanks. -/
def IsField (cs : List Char) : Prop := cs ≠ [] ∧ ∀ c ∈ cs, Text.isBlank c = false

instance (cs : List Char) : Decidable (IsField cs) :=
  decidable_of_iff (cs.isEmpty = false ∧ cs.all (fun c => !Text.isBlank c) = true) (by simp [IsField])

/-- The text is blank throughout. -/
def IsGap (cs : List Char) : Prop := ∀ c ∈ cs, Text.isBlank c = true

instance (cs : List Char) : Decidable (IsGap cs) :=
  decidable_of_iff (cs.all Text.isBlank = true) List.all_eq_true

/-- The text has no blank at either end. -/
def IsTrimmed (cs : List Char) : Prop :=
  (∀ c ∈ cs.head?, Text.isBlank c = false) ∧ ∀ c ∈ cs.getLast?, Text.isBlank c = false

instance (cs : List Char) : Decidable (IsTrimmed cs) :=
  decidable_of_iff
    (cs.head?.all (fun c => !Text.isBlank c) = true ∧ cs.getLast?.all (fun c => !Text.isBlank c) = true)
    (by simp [IsTrimmed, Option.all_eq_true])

/-! ## Layouts -/

/-- The marker of a line and the blanks before, between and behind its parts. -/
structure Layout where
  before : List Char
  marker : List Char
  afterMarker : List Char
  afterTag : List Char
  behind : List Char
  deriving DecidableEq, Repr

/-- The marker is a field, and there are blanks on both sides of the tag; in front of an empty value none
are needed. -/
structure Layout.IsValid (l : Layout) (value : String) : Prop where
  before : IsGap l.before
  marker : IsField l.marker
  afterMarker : IsGap l.afterMarker ∧ l.afterMarker ≠ []
  afterTag : IsGap l.afterTag ∧ (value ≠ "" → l.afterTag ≠ [])
  behind : IsGap l.behind

theorem Layout.isValid_iff {l : Layout} {value : String} :
    l.IsValid value ↔
      IsGap l.before ∧ IsField l.marker ∧ (IsGap l.afterMarker ∧ l.afterMarker.isEmpty = false) ∧
        (IsGap l.afterTag ∧ (value == "" || !l.afterTag.isEmpty) = true) ∧ IsGap l.behind := by
  have hmarker : l.afterMarker.isEmpty = false ↔ l.afterMarker ≠ [] := by simp
  have htag : (value == "" || !l.afterTag.isEmpty) = true ↔ (value ≠ "" → l.afterTag ≠ []) := by
    simp [Decidable.or_iff_not_imp_left]
  rw [hmarker, htag]
  exact ⟨fun h => ⟨h.before, h.marker, h.afterMarker, h.afterTag, h.behind⟩,
    fun ⟨before, marker, afterMarker, afterTag, behind⟩ => ⟨before, marker, afterMarker, afterTag, behind⟩⟩

instance (l : Layout) (value : String) : Decidable (l.IsValid value) :=
  decidable_of_iff _ Layout.isValid_iff.symm

/-- The line of a tag and a value, as characters. -/
def Layout.chars (l : Layout) (tag value : List Char) : List Char :=
  l.before ++ l.marker ++ l.afterMarker ++ tag ++ l.afterTag ++ value ++ l.behind

/-- The line of a tag and a value. -/
def Layout.line (l : Layout) (tag value : String) : String :=
  String.ofList (l.chars tag.toList value.toList)

/-! ## Records -/

/-- The record without the line that it was read from. -/
def Record.withoutLine (r : Record) : Record := { r with line := "" }

end ProxyLog
