import Mathlib
import ProxyLog.Proofs.Text.Case
import ProxyLog.Proofs.Text.Utf8
import ProxyLog.Record.Text

/-!
# Queries in canonical form

A field that is written is read back, so a query in canonical form has the fields of the query it was made of, in order.

* `unescape_escape`: the plain form of a text in escaped form is that text.
* `fieldsOf_write`: the fields of a query that was written.
* `mergeSort_le_eq_iff_perm`: fields have one order.
* `canonicalQuery_normal_form`: the order of the parts of a query does not matter to its canonical form, what is in
  canonical form stays as it is, and two queries share it exactly when they have the same fields, each as often.
-/

set_option autoImplicit false

namespace ProxyLog.Net
open Text

/-! ## Parts between separators -/

theorem pieces_of_notMem {sep : Char} {cs : List Char} (h : sep ∉ cs) : pieces sep cs = [cs] := by
  induction cs with
  | nil => rfl
  | cons c cs ih =>
    obtain ⟨hc, hcs⟩ := List.ne_and_not_mem_of_not_mem_cons h
    rw [pieces, if_neg hc.symm, ih hcs]
    rfl

theorem pieces_append {sep : Char} {cs : List Char} (h : sep ∉ cs) (rest : List Char) :
    pieces sep (cs ++ sep :: rest) = cs :: pieces sep rest := by
  induction cs with
  | nil => rw [List.nil_append, pieces, if_pos rfl]
  | cons c cs ih =>
    obtain ⟨hc, hcs⟩ := List.ne_and_not_mem_of_not_mem_cons h
    rw [List.cons_append, pieces, if_neg hc.symm, ih hcs]
    rfl

/-- What is joined is cut again at the separators. -/
theorem pieces_intercalate {sep : Char} {parts : List (List Char)} (hne : parts ≠ [])
    (h : ∀ part ∈ parts, sep ∉ part) : pieces sep ([sep].intercalate parts) = parts := by
  induction parts with
  | nil => exact absurd rfl hne
  | cons part parts ih =>
    have hpart : sep ∉ part := h part List.mem_cons_self
    cases parts with
    | nil => rw [List.intercalate_singleton, pieces_of_notMem hpart]
    | cons next parts =>
      have hrest := ih (List.cons_ne_nil _ _) fun q hq => h q (List.mem_cons_of_mem _ hq)
      rw [List.intercalate_cons_cons, List.append_assoc, List.singleton_append, pieces_append hpart, hrest]

theorem cutFirst_append {sep : Char} {cs : List Char} (h : sep ∉ cs) (rest : List Char) :
    cutFirst sep (cs ++ sep :: rest) = (cs, some rest) := by
  induction cs with
  | nil => rw [List.nil_append, cutFirst, if_pos rfl]
  | cons c cs ih =>
    obtain ⟨hc, hcs⟩ := List.ne_and_not_mem_of_not_mem_cons h
    rw [List.cons_append, cutFirst, if_neg hc.symm, ih hcs]

namespace Query

/-! ## Characters of an escaped text -/

/-- The character may stand in the name or the value of a field that is written. -/
def IsWritten (c : Char) : Prop := c.toNat < 0x80 ∧ c ≠ '&' ∧ c ≠ '='

instance (c : Char) : Decidable (IsWritten c) := inferInstanceAs (Decidable (_ ∧ _))

theorem isPlain_cases {c : Char} (h : isPlain c = true) : IsWritten c ∧ c ≠ '+' ∧ c ≠ '%' := by
  simp only [isPlain, Bool.or_eq_true, beq_iff_eq, isAlphanum_iff] at h
  obtain (((hc | rfl) | rfl) | rfl) | rfl := h
  · refine ⟨⟨by omega, ?_, ?_⟩, ?_, ?_⟩ <;> rintro rfl <;> revert hc <;> decide
  all_goals decide

theorem upperHexDigit_cases {n : Nat} (h : n < 16) :
    IsWritten (upperHexDigit n) ∧ upperHexDigit n ≠ '+' ∧ hexValue? (upperHexDigit n) = some n := by
  decide +revert

theorem mem_escapeOctet {b : UInt8} {c : Char} (h : c ∈ escapeOctet b) : IsWritten c ∧ c ≠ '+' := by
  have hb : b.toNat < 256 := b.toNat_lt
  have hhigh := upperHexDigit_cases (show b.toNat / 16 < 16 by omega)
  have hlow := upperHexDigit_cases (show b.toNat % 16 < 16 by omega)
  simp only [escapeOctet, List.mem_cons, List.not_mem_nil, or_false] at h
  obtain rfl | rfl | rfl := h
  · decide
  · exact ⟨hhigh.1, hhigh.2.1⟩
  · exact ⟨hlow.1, hlow.2.1⟩

theorem isWritten_of_mem_escape {cs : List Char} {c : Char} (h : c ∈ escape cs) : IsWritten c := by
  obtain ⟨d, -, hd⟩ := List.mem_flatMap.mp h
  unfold escapeChar at hd
  split at hd
  · rw [List.mem_singleton.mp hd]
    decide
  split at hd
  · next hplain =>
    rw [List.mem_singleton.mp hd]
    exact (isPlain_cases hplain).1
  · obtain ⟨b, -, hb⟩ := List.mem_flatMap.mp hd
    exact (mem_escapeOctet hb).1

/-! ## Octets of an escaped text -/

/-- A plus sign stands for a space. -/
def spaced (c : Char) : Char := if c = '+' then ' ' else c

theorem spaced_of_ne {c : Char} (h : c ≠ '+') : spaced c = c := if_neg h

theorem octetsOf_cons_of_ne {c : Char} (h : c ≠ '%') (cs : List Char) :
    octetsOf (c :: cs) = UInt8.ofNat c.toNat :: octetsOf cs := by
  rw [octetsOf]
  rintro a b rest rfl
  exact absurd rfl h

theorem octetsOf_escapeOctet (b : UInt8) (rest : List Char) :
    octetsOf (escapeOctet b ++ rest) = b :: octetsOf rest := by
  have hb : b.toNat < 256 := b.toNat_lt
  have hhigh := (upperHexDigit_cases (show b.toNat / 16 < 16 by omega)).2.2
  have hlow := (upperHexDigit_cases (show b.toNat % 16 < 16 by omega)).2.2
  show octetsOf ('%' :: upperHexDigit (b.toNat / 16) :: upperHexDigit (b.toNat % 16) :: rest) = _
  rw [octetsOf]
  simp only [hhigh, hlow]
  rw [Nat.div_add_mod, UInt8.ofNat_toNat]

theorem octetsOf_flatMap_escapeOctet (bytes : List UInt8) (rest : List Char) :
    octetsOf (bytes.flatMap escapeOctet ++ rest) = bytes ++ octetsOf rest := by
  induction bytes with
  | nil => rfl
  | cons b bytes ih => rw [List.flatMap_cons, List.append_assoc, octetsOf_escapeOctet, ih, List.cons_append]

theorem map_spaced_escapeOctet (bytes : List UInt8) :
    (bytes.flatMap escapeOctet).map spaced = bytes.flatMap escapeOctet := by
  have hsame : ∀ c ∈ bytes.flatMap escapeOctet, spaced c = id c := by
    intro c hc
    obtain ⟨b, -, hb⟩ := List.mem_flatMap.mp hc
    exact spaced_of_ne (mem_escapeOctet hb).2
  rw [List.map_congr_left hsame, List.map_id]

theorem octetsOf_escapeChar (c : Char) (rest : List Char) :
    octetsOf ((escapeChar c).map spaced ++ rest) = Utf8.encodeChar c ++ octetsOf rest := by
  unfold escapeChar
  split
  · next hspace =>
    subst hspace
    exact octetsOf_cons_of_ne (by decide) rest
  split
  · next hplain =>
    obtain ⟨⟨hascii, -, -⟩, hplus, hpercent⟩ := isPlain_cases hplain
    rw [List.map_singleton, spaced_of_ne hplus, List.singleton_append, octetsOf_cons_of_ne hpercent, Utf8.encodeChar]
    simp only [if_pos hascii]
    rfl
  · rw [map_spaced_escapeOctet, octetsOf_flatMap_escapeOctet]

theorem octetsOf_escape (cs : List Char) : octetsOf ((escape cs).map spaced) = Utf8.encode cs := by
  induction cs with
  | nil => rfl
  | cons c cs ih =>
    rw [escape, List.flatMap_cons, List.map_append, octetsOf_escapeChar]
    exact congrArg (Utf8.encodeChar c ++ ·) ih

/-! ## Plain texts -/

theorem unescapeFrom_of_ascii {run cs : List Char} (h : ∀ c ∈ cs, c.toNat < 0x80) :
    unescapeFrom run cs = Utf8.decodeLossy (octetsOf (run.reverse ++ cs)) := by
  induction cs generalizing run with
  | nil => rw [unescapeFrom, List.append_nil]
  | cons c cs ih =>
    have hc := h c List.mem_cons_self
    rw [unescapeFrom, if_pos hc, ih fun d hd => h d (List.mem_cons_of_mem _ hd), List.reverse_cons, List.append_assoc,
      List.singleton_append]

/-- The plain form of a text in escaped form is that text. -/
theorem unescape_escape (cs : List Char) : unescape (escape cs) = cs := by
  have hascii : ∀ c ∈ (escape cs).map spaced, c.toNat < 0x80 := by
    intro c hc
    obtain ⟨d, hd, rfl⟩ := List.mem_map.mp hc
    unfold spaced
    split
    · decide
    · exact (isWritten_of_mem_escape hd).1
  calc unescape (escape cs) = unescapeFrom [] ((escape cs).map spaced) := rfl
    _ = Utf8.decodeLossy (octetsOf ((escape cs).map spaced)) := unescapeFrom_of_ascii hascii
    _ = cs := by rw [octetsOf_escape, Utf8.decodeLossy_encode]

/-! ## Fields that are written -/

theorem notMem_escape {mark : Char} (h : ¬IsWritten mark) (cs : List Char) : mark ∉ escape cs :=
  fun hmem => h (isWritten_of_mem_escape hmem)

theorem fieldOf_writeField (f : Field) : fieldOf (writeField f) = f := by
  have hcut : cutFirst '=' (writeField f) = (escape f.name.toList, some (escape f.value.toList)) :=
    cutFirst_append (notMem_escape (by decide) _) _
  rw [fieldOf, hcut]
  simp only [Option.getD_some, unescape_escape, String.ofList_toList]

theorem notMem_writeField (f : Field) : '&' ∉ writeField f := by
  intro h
  rcases List.mem_append.mp h with hname | hvalue
  · exact notMem_escape (by decide) _ hname
  · rcases List.mem_cons.mp hvalue with hmark | hvalue
    · exact absurd hmark (by decide)
    · exact notMem_escape (by decide) _ hvalue

theorem toList_write (fields : List Field) : (write fields).toList = ['&'].intercalate (fields.map writeField) := by
  have hfield : String.toList ∘ (fun f => String.ofList (writeField f)) = writeField :=
    funext fun _ => String.toList_ofList
  rw [write, String.toList_intercalate, List.map_map, hfield]
  rfl

theorem partsOf_write (fields : List Field) : partsOf (write fields).toList = fields.map writeField := by
  rw [toList_write, partsOf]
  by_cases hfields : fields = []
  · subst hfields
    rfl
  have hpieces : pieces '&' (['&'].intercalate (fields.map writeField)) = fields.map writeField := by
    refine pieces_intercalate (by simpa using hfields) fun part hpart => ?_
    obtain ⟨f, -, rfl⟩ := List.mem_map.mp hpart
    exact notMem_writeField f
  rw [hpieces, List.filter_eq_self]
  intro part hpart
  obtain ⟨f, -, rfl⟩ := List.mem_map.mp hpart
  simp [writeField]

/-- The fields of a query that was written. -/
theorem fieldsOf_write (fields : List Field) : fieldsOf (write fields) = fields := by
  rw [fieldsOf, partsOf_write, List.map_map]
  exact List.map_id'' fieldOf_writeField fields

/-! ## The order of fields -/

/-- A field as a pair, names before values. -/
def Field.key (f : Field) : String ×ₗ String := toLex (f.name, f.value)

theorem Field.key_injective : Function.Injective Field.key := by
  rintro ⟨name, value⟩ ⟨name', value'⟩ h
  obtain ⟨rfl, rfl⟩ := Prod.mk.inj (toLex.injective h)
  rfl

theorem Field.le_iff {a b : Field} : a.le b = true ↔ a.key ≤ b.key := by
  simp [le, key, Prod.Lex.toLex_le_toLex]

theorem pairwise_mergeSort_le (fields : List Field) :
    (fields.mergeSort Field.le).Pairwise fun a b => a.key ≤ b.key := by
  refine (List.pairwise_mergeSort ?_ ?_ fields).imp Field.le_iff.mp
  · intro a b c hab hbc
    exact Field.le_iff.mpr ((Field.le_iff.mp hab).trans (Field.le_iff.mp hbc))
  · intro a b
    rw [Bool.or_eq_true, Field.le_iff, Field.le_iff]
    exact le_total a.key b.key

/-- Fields have one order. -/
theorem mergeSort_le_eq_iff_perm {fields fields' : List Field} :
    fields.mergeSort Field.le = fields'.mergeSort Field.le ↔ fields.Perm fields' := by
  have hperm (fs : List Field) := List.mergeSort_perm fs Field.le
  constructor
  · intro h
    exact ((hperm fields).symm.trans (List.Perm.of_eq h)).trans (hperm fields')
  · intro h
    refine List.Perm.eq_of_pairwise ?_ (pairwise_mergeSort_le fields) (pairwise_mergeSort_le fields')
      (((hperm fields).trans h).trans (hperm fields').symm)
    intro a b _ _ hab hba
    exact Field.key_injective (le_antisymm hab hba)

/-! ## Canonical form -/

theorem fieldsOf_canonical (query : String) : fieldsOf (canonical query) = (fieldsOf query).mergeSort Field.le :=
  fieldsOf_write _

theorem canonical_eq_iff_perm {query query' : String} :
    canonical query = canonical query' ↔ (fieldsOf query).Perm (fieldsOf query') := by
  rw [← mergeSort_le_eq_iff_perm]
  constructor
  · intro h
    rw [← fieldsOf_canonical, h, fieldsOf_canonical]
  · intro h
    rw [canonical, h, canonical]

theorem canonical_canonical (query : String) : canonical (canonical query) = canonical query := by
  rw [canonical_eq_iff_perm, fieldsOf_canonical]
  exact List.mergeSort_perm _ _

theorem fieldsOf_perm {query query' : String} (h : (pieces '&' query.toList).Perm (pieces '&' query'.toList)) :
    (fieldsOf query).Perm (fieldsOf query') :=
  (h.filter _).map fieldOf

end Query

/-- The parts of a query may stand in any order: its canonical form is the same. What is in canonical form stays as it
is when it is read, put in order and written again. Two queries share the canonical form exactly when they have the same
fields, each as often. -/
theorem canonicalQuery_normal_form (u v : Url) :
    ((pieces '&' u.query.toList).Perm (pieces '&' v.query.toList) → u.canonicalQuery = v.canonicalQuery) ∧
      Query.canonical u.canonicalQuery = u.canonicalQuery ∧
      (u.canonicalQuery = v.canonicalQuery ↔ (Query.fieldsOf u.query).Perm (Query.fieldsOf v.query)) := by
  refine ⟨fun h => ?_, Query.canonical_canonical u.query, Query.canonical_eq_iff_perm⟩
  exact Query.canonical_eq_iff_perm.mpr (Query.fieldsOf_perm h)

/-- A query with an escaped umlaut in two spellings, a plus sign, an empty part, an empty name and a repeated one. -/
def scatteredUrl : Url := ⟨"", "", "/i", "b=2&a=%C3%A4+x&&=&b=1&a=ä%20x", ""⟩

/-- The same parts in another order. -/
def gatheredUrl : Url := ⟨"", "", "/i", "&a=%C3%A4+x&a=ä%20x&=&b=1&b=2", ""⟩

theorem canonicalQuery_normal_form_scattered :
    Url.ofText? "/i?b=2&a=%C3%A4+x&&=&b=1&a=ä%20x" = some scatteredUrl ∧
      (pieces '&' scatteredUrl.query.toList).Perm (pieces '&' gatheredUrl.query.toList) ∧
      scatteredUrl.canonicalQuery = gatheredUrl.canonicalQuery ∧
      Query.canonical scatteredUrl.canonicalQuery = scatteredUrl.canonicalQuery ∧
      scatteredUrl.canonicalQuery = "=&a=%C3%A4+x&a=%C3%A4+x&b=1&b=2" := by
  have hperm : (pieces '&' scatteredUrl.query.toList).Perm (pieces '&' gatheredUrl.query.toList) := by decide +kernel
  obtain ⟨hsame, hfixed, -⟩ := canonicalQuery_normal_form scatteredUrl gatheredUrl
  exact ⟨by decide +kernel, hperm, hsame hperm, hfixed, by cbv⟩

end ProxyLog.Net
