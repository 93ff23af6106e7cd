import ProxyLog.Proofs.Header.Set

/-!
# Spellings of a name

* `recase_eq_iff`: two texts are the same after a change of case exactly when they differ in the case of letters only.
* `canonicalName_eq_iff`: the canonical form tells names apart, and only spellings of one name are not told apart.
* `HeaderSet.Alike hs a b`: the set answers and changes in the same way for both names.
* `isManagedUnder tag name`: the proxy manages headers of the name under the tag.
* `sameName_iff_alike`: a set, whatever it holds, does not tell two names apart exactly when they are spellings of one.
-/

set_option autoImplicit false

namespace ProxyLog
open Text

/-! ## Letters -/

theorem asciiLower_recaseChar (start : Bool) (c : Char) : asciiLower (recaseChar start c) = asciiLower c := by
  cases start with
  | false => exact asciiLower_asciiLower c
  | true => exact asciiLower_asciiUpper c

theorem recaseChar_asciiLower (start : Bool) (c : Char) : recaseChar start (asciiLower c) = recaseChar start c := by
  cases start with
  | false => exact asciiLower_asciiLower c
  | true => exact asciiUpper_asciiLower c

theorem asciiLower_beq_hyphen (c : Char) : (asciiLower c == '-') = (c == '-') := by
  rw [Bool.eq_iff_iff, beq_iff_eq, beq_iff_eq]
  exact recaseChar_eq_iff false c (by decide)

/-! ## Texts -/

theorem map_asciiLower_recase (start : Bool) (cs : List Char) :
    (recase start cs).map asciiLower = cs.map asciiLower := by
  induction cs generalizing start with
  | nil => rfl
  | cons c cs ih => rw [recase_cons, List.map_cons, List.map_cons, asciiLower_recaseChar, ih]

theorem recase_map_asciiLower (start : Bool) (cs : List Char) : recase start (cs.map asciiLower) = recase start cs := by
  induction cs generalizing start with
  | nil => rfl
  | cons c cs ih => rw [List.map_cons, recase_cons, recase_cons, recaseChar_asciiLower, asciiLower_beq_hyphen, ih]

theorem recase_eq_iff (start : Bool) {cs ds : List Char} :
    recase start cs = recase start ds ↔ cs.map asciiLower = ds.map asciiLower := by
  constructor
  · intro h
    rw [← map_asciiLower_recase start cs, h, map_asciiLower_recase]
  · intro h
    rw [← recase_map_asciiLower start cs, h, recase_map_asciiLower]

theorem isTokenName_canonicalChars (cs : List Char) : isTokenName (canonicalChars cs) = isTokenName cs := by
  unfold canonicalChars
  split
  · exact isTokenName_recase true cs
  · rfl

theorem canonicalChars_eq_iff {cs ds : List Char} :
    canonicalChars cs = canonicalChars ds ↔
      cs = ds ∨ (isTokenName cs = true ∧ isTokenName ds = true ∧ cs.map asciiLower = ds.map asciiLower) := by
  constructor
  · intro h
    have htoken : isTokenName cs = isTokenName ds := by
      rw [← isTokenName_canonicalChars, h, isTokenName_canonicalChars]
    cases hcs : isTokenName cs with
    | false =>
      rw [canonicalChars, canonicalChars, ← htoken, hcs] at h
      exact Or.inl h
    | true =>
      rw [canonicalChars, canonicalChars, ← htoken, hcs] at h
      exact Or.inr ⟨rfl, htoken.symm.trans hcs, (recase_eq_iff true).mp h⟩
  · rintro (rfl | ⟨hcs, hds, h⟩)
    · rfl
    · rw [canonicalChars, canonicalChars, hcs, hds]
      exact (recase_eq_iff true).mpr h

/-- Only spellings of one name have the same canonical form. -/
theorem canonicalName_eq_iff {a b : String} : canonicalName a = canonicalName b ↔ SameName a b := by
  rw [canonicalName, canonicalName, String.ofList_inj, canonicalChars_eq_iff, String.toList_inj, SameName]

/-! ## Header sets -/

namespace HeaderSet

/-- The set does the same under both names. -/
structure Alike (hs : HeaderSet) (a b : String) : Prop where
  contains : hs.contains a = hs.contains b
  values : ∀ received, hs.values a received = hs.values b received
  first : ∀ received, hs.first a received = hs.first b received
  delete : ∀ alsoReceived, hs.delete a alsoReceived = hs.delete b alsoReceived
  add : ∀ text state, hs.add a text state = hs.add b text state

theorem alike_of_canonicalName {a b : String} (h : canonicalName a = canonicalName b) (hs : HeaderSet) :
    hs.Alike a b where
  contains := by rw [HeaderSet.contains, get?_congr h, HeaderSet.contains]
  values := fun received => by rw [HeaderSet.values, get?_congr h, HeaderSet.values]
  first := fun received => by
    have hvalues : hs.values a received = hs.values b received := by
      rw [HeaderSet.values, get?_congr h, HeaderSet.values]
    rw [HeaderSet.first, hvalues, HeaderSet.first]
  delete := fun alsoReceived => by rw [HeaderSet.delete, h, HeaderSet.delete]
  add := fun text state => by
    unfold HeaderSet.add
    rw [h]

/-- A value that was received under one name is not seen under another. -/
theorem Alike.canonicalName_eq {hs : HeaderSet} {a b : String} (h : hs.Alike a b) :
    canonicalName a = canonicalName b := by
  refine Decidable.byContradiction fun hne => ?_
  have hself := hs.get?_add_self a "" .received
  rw [h.add, get?_add_of_ne hs hne] at hself
  cases hg : hs.get? a with
  | none =>
    rw [hg] at hself
    cases hself
  | some g =>
    rw [hg, Option.getD_some, Option.some.injEq] at hself
    have hlength := congrArg (·.received.length) hself
    simp [Header.add] at hlength

end HeaderSet

/-! ## Headers that the proxy manages -/

/-- The proxy manages headers of the name under the tag. -/
def isManagedUnder (tag name : String) : Bool := directionOf? tag == some .request && isProxyManaged name

theorem isManagedUnder_congr {a b : String} (h : canonicalName a = canonicalName b) (tag : String) :
    isManagedUnder tag a = isManagedUnder tag b := by
  rw [isManagedUnder, isManagedUnder, isProxyManaged_congr h]

/-- A header that a log tells of is managed if its name is, under the tag of its record. -/
theorem isManaged_of_fromLine {r : Record} (hr : r.FromLine) {e : HeaderEvent} (he : r.headerEvent? = some e) :
    e.line.isManaged = isManagedUnder r.tag e.line.name := by
  obtain ⟨direction, htag, hread⟩ := exists_readHeader_of_fromLine hr he
  rw [HeaderLine.isManaged, isManagedUnder, htag, direction_of_readHeader hread]
  rfl

/-! ## Names -/

/-- The canonical form of a name is its own canonical form, and only spellings of one name share it. Whatever a set
holds, it does the same under two names exactly when they are spellings of one, and these are managed alike under any
tag. -/
theorem sameName_iff_alike (a b : String) :
    canonicalName (canonicalName a) = canonicalName a ∧
      (canonicalName a = canonicalName b ↔ SameName a b) ∧
      (∀ hs : HeaderSet, hs.Alike a b ↔ SameName a b) ∧
      (SameName a b → ∀ tag, isManagedUnder tag a = isManagedUnder tag b) := by
  refine ⟨canonicalName_canonicalName a, canonicalName_eq_iff, fun hs => ?_, fun h tag => ?_⟩
  · rw [← canonicalName_eq_iff]
    exact ⟨fun h => h.canonicalName_eq, fun h => hs.alike_of_canonicalName h⟩
  · exact isManagedUnder_congr (canonicalName_eq_iff.mpr h) tag

/-- A header under one spelling of its name. A space makes no token, so there the case of a letter counts. -/
def forwardedSet : HeaderSet := (HeaderSet.empty.add "x-forwarded-FOR" "a" .received).add "x forwarded" "b" .added

theorem sameName_iff_alike_forwarded :
    SameName "x-forwarded-FOR" "X-Forwarded-For" ∧ forwardedSet.Alike "x-forwarded-FOR" "X-Forwarded-For" ∧
      isManagedUnder "ReqUnset" "x-forwarded-FOR" = isManagedUnder "ReqUnset" "X-Forwarded-For" ∧
      isManagedUnder "ReqUnset" "X-Forwarded-For" = true ∧
      ¬SameName "x forwarded" "X forwarded" ∧ ¬forwardedSet.Alike "x forwarded" "X forwarded" := by
  have hsame : SameName "x-forwarded-FOR" "X-Forwarded-For" := by decide +kernel
  have hother : ¬SameName "x forwarded" "X forwarded" := by decide +kernel
  obtain ⟨-, -, halike, hmanaged⟩ := sameName_iff_alike "x-forwarded-FOR" "X-Forwarded-For"
  obtain ⟨-, -, hapart, -⟩ := sameName_iff_alike "x forwarded" "X forwarded"
  exact ⟨hsame, (halike forwardedSet).mpr hsame, hmanaged hsame "ReqUnset", by decide +kernel, hother,
    fun h => hother ((hapart forwardedSet).mp h)⟩

end ProxyLog
