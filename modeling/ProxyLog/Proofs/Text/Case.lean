import ProxyLog.Text.Case

/-!
# Case of ASCII letters

* `toNat_asciiUpper`, `toNat_asciiLower`: the code point of a letter in the other case.
* `asciiUpper_cases`, `asciiLower_cases`: what is neither letter nor digit stays, and letters become letters.
* `asciiLower_asciiUpper`, `asciiUpper_asciiLower`: the first of two changes of case does not matter.
* `isAlphanum_iff`: letters and digits by code point.
-/

set_option autoImplicit false

namespace ProxyLog.Text

theorem toNat_ofNat_of_lt {n : Nat} (h : n < 0xd800) : (Char.ofNat n).toNat = n := by
  have hv : n.isValidChar := Or.inl h
  unfold Char.ofNat
  rw [dif_pos hv]
  rfl

theorem toNat_asciiUpper (c : Char) :
    (asciiUpper c).toNat = if 0x61 ≤ c.toNat ∧ c.toNat ≤ 0x7a then c.toNat - 0x20 else c.toNat := by
  unfold asciiUpper
  split
  · exact toNat_ofNat_of_lt (by omega)
  · rfl

theorem toNat_asciiLower (c : Char) :
    (asciiLower c).toNat = if 0x41 ≤ c.toNat ∧ c.toNat ≤ 0x5a then c.toNat + 0x20 else c.toNat := by
  unfold asciiLower
  split
  · exact toNat_ofNat_of_lt (by omega)
  · rfl

theorem asciiUpper_asciiUpper (c : Char) : asciiUpper (asciiUpper c) = asciiUpper c := by
  have hc := toNat_asciiUpper c
  apply Char.toNat_inj.mp
  rw [toNat_asciiUpper, if_neg]
  split at hc <;> omega

theorem asciiLower_asciiLower (c : Char) : asciiLower (asciiLower c) = asciiLower c := by
  have hc := toNat_asciiLower c
  apply Char.toNat_inj.mp
  rw [toNat_asciiLower, if_neg]
  split at hc <;> omega

theorem asciiLower_asciiUpper (c : Char) : asciiLower (asciiUpper c) = asciiLower c := by
  have hc := toNat_asciiUpper c
  apply Char.toNat_inj.mp
  rw [toNat_asciiLower, toNat_asciiLower, hc]
  by_cases h : 0x61 ≤ c.toNat ∧ c.toNat ≤ 0x7a
  · rw [if_pos h, if_pos (by omega), if_neg (by omega)]
    omega
  · rw [if_neg h]

theorem asciiUpper_asciiLower (c : Char) : asciiUpper (asciiLower c) = asciiUpper c := by
  have hc := toNat_asciiLower c
  apply Char.toNat_inj.mp
  rw [toNat_asciiUpper, toNat_asciiUpper, hc]
  by_cases h : 0x41 ≤ c.toNat ∧ c.toNat ≤ 0x5a
  · rw [if_pos h, if_pos (by omega), if_neg (by omega)]
    omega
  · rw [if_neg h]

theorem isAlphanum_iff (c : Char) : c.isAlphanum = true ↔
    (0x41 ≤ c.toNat ∧ c.toNat ≤ 0x5a) ∨ (0x61 ≤ c.toNat ∧ c.toNat ≤ 0x7a) ∨
      (0x30 ≤ c.toNat ∧ c.toNat ≤ 0x39) := by
  have hranges : c.isAlphanum = (decide (65 ≤ c.val ∧ c.val ≤ 90) ||
      decide (97 ≤ c.val) && decide (c.val ≤ 122) || decide (48 ≤ c.val) && decide (c.val ≤ 57)) := rfl
  simp only [hranges, Bool.or_eq_true, Bool.and_eq_true, decide_eq_true_eq, or_assoc, UInt32.le_iff_toNat_le]
  exact Iff.rfl

theorem asciiUpper_cases (c : Char) :
    asciiUpper c = c ∨ ((asciiUpper c).isAlphanum = true ∧ c.isAlphanum = true) := by
  have h := toNat_asciiUpper c
  by_cases hc : 0x61 ≤ c.toNat ∧ c.toNat ≤ 0x7a
  · rw [if_pos hc] at h
    exact Or.inr ⟨(isAlphanum_iff _).mpr (by omega), (isAlphanum_iff _).mpr (by omega)⟩
  · rw [if_neg hc] at h
    exact Or.inl (Char.toNat_inj.mp h)

theorem asciiLower_cases (c : Char) :
    asciiLower c = c ∨ ((asciiLower c).isAlphanum = true ∧ c.isAlphanum = true) := by
  have h := toNat_asciiLower c
  by_cases hc : 0x41 ≤ c.toNat ∧ c.toNat ≤ 0x5a
  · rw [if_pos hc] at h
    exact Or.inr ⟨(isAlphanum_iff _).mpr (by omega), (isAlphanum_iff _).mpr (by omega)⟩
  · rw [if_neg hc] at h
    exact Or.inl (Char.toNat_inj.mp h)

end ProxyLog.Text
