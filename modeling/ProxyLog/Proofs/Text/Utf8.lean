import ProxyLog.Text.Utf8

/-!
# Texts in UTF-8

* `nextPiece_one`, `nextPiece_two`, `nextPiece_three`, `nextPiece_four`: the sizes of a character.
* `nextPiece_encodeChar`: the octets of a character, whatever follows them, are read as that character.
* `decodeLossy_encode`: a text in UTF-8 is read back, and nothing of it is taken for a fault.
-/

set_option autoImplicit false

namespace ProxyLog.Text.Utf8

/-! ## One character -/

theorem toNat_ofNat_of_lt_size {n : Nat} (h : n < 256) : (UInt8.ofNat n).toNat = n := by
  rw [UInt8.toNat_ofNat', Nat.mod_eq_of_lt h]

/-- The code points of characters: the surrogates are none. -/
theorem toNat_cases (c : Char) : c.toNat < 0xd800 ∨ (0xe000 ≤ c.toNat ∧ c.toNat < 0x110000) := by
  have hc : c.toNat.isValidChar := c.valid
  unfold Nat.isValidChar at hc
  omega

theorem readTail_zero (done value low high : Nat) (rest : List UInt8) :
    readTail 0 done value low high rest = .char (Char.ofNat value) done := by
  unfold readTail
  rfl

/-- An octet in the span that is wanted adds six bits to the number. -/
theorem readTail_succ (need done value : Nat) {low high unit : Nat} (rest : List UInt8)
    (hlow : low ≤ 0x80 + unit) (hhigh : 0x80 + unit ≤ high) (hunit : unit < 0x40) :
    readTail (need + 1) done value low high (UInt8.ofNat (0x80 + unit) :: rest) =
      readTail need (done + 1) (value * 64 + unit) 0x80 0xbf rest := by
  have hn : (UInt8.ofNat (0x80 + unit)).toNat = 0x80 + unit := toNat_ofNat_of_lt_size (by omega)
  rw [readTail]
  simp only [hn]
  rw [if_pos ⟨hlow, hhigh⟩, Nat.add_sub_cancel_left]

section Sizes
variable {n : Nat} (rest : List UInt8)

theorem nextPiece_one (hhigh : n < 0x80) : nextPiece (UInt8.ofNat n) rest = .char (Char.ofNat n) 1 := by
  simp only [nextPiece, toNat_ofNat_of_lt_size (show n < 256 by omega), if_pos hhigh]

theorem nextPiece_two (hlow : 0x80 ≤ n) (hhigh : n < 0x800) :
    nextPiece (UInt8.ofNat (0xc0 + n / 0x40)) (UInt8.ofNat (0x80 + n / 1 % 0x40) :: rest) =
      .char (Char.ofNat n) 2 := by
  have hvalue : (0xc0 + n / 0x40 - 0xc0) * 64 + n / 1 % 0x40 = n := by omega
  simp only [nextPiece, toNat_ofNat_of_lt_size (show 0xc0 + n / 0x40 < 256 by omega)]
  rw [if_neg (by omega), if_neg (by omega), if_pos (by omega),
    readTail_succ _ _ _ _ (by omega) (by omega) (by omega), readTail_zero, hvalue]

/-- The span of the second octet leaves out the surrogates, which no character has. -/
theorem nextPiece_three (hlow : 0x800 ≤ n) (hhigh : n < 0x10000) (hpair : n < 0xd800 ∨ 0xe000 ≤ n) :
    nextPiece (UInt8.ofNat (0xe0 + n / 0x1000))
        (UInt8.ofNat (0x80 + n / 0x40 % 0x40) :: UInt8.ofNat (0x80 + n / 1 % 0x40) :: rest) =
      .char (Char.ofNat n) 3 := by
  have hvalue : ((0xe0 + n / 0x1000 - 0xe0) * 64 + n / 0x40 % 0x40) * 64 + n / 1 % 0x40 = n := by omega
  simp only [nextPiece, toNat_ofNat_of_lt_size (show 0xe0 + n / 0x1000 < 256 by omega)]
  rw [if_neg (by omega), if_neg (by omega), if_neg (by omega), if_pos (by omega),
    readTail_succ _ _ _ _ (by split <;> omega) (by split <;> omega) (by omega),
    readTail_succ _ _ _ _ (by omega) (by omega) (by omega), readTail_zero, hvalue]

theorem nextPiece_four (hlow : 0x10000 ≤ n) (hhigh : n < 0x110000) :
    nextPiece (UInt8.ofNat (0xf0 + n / 0x40000))
        (UInt8.ofNat (0x80 + n / 0x1000 % 0x40) :: UInt8.ofNat (0x80 + n / 0x40 % 0x40) ::
          UInt8.ofNat (0x80 + n / 1 % 0x40) :: rest) =
      .char (Char.ofNat n) 4 := by
  have hvalue : (((0xf0 + n / 0x40000 - 0xf0) * 64 + n / 0x1000 % 0x40) * 64 + n / 0x40 % 0x40) * 64 +
      n / 1 % 0x40 = n := by omega
  simp only [nextPiece, toNat_ofNat_of_lt_size (show 0xf0 + n / 0x40000 < 256 by omega)]
  rw [if_neg (by omega), if_neg (by omega), if_neg (by omega), if_neg (by omega), if_pos (by omega),
    readTail_succ _ _ _ _ (by split <;> omega) (by split <;> omega) (by omega),
    readTail_succ _ _ _ _ (by omega) (by omega) (by omega),
    readTail_succ _ _ _ _ (by omega) (by omega) (by omega), readTail_zero, hvalue]

end Sizes

/-- The octets of a character are read as that character, whatever follows them. -/
theorem nextPiece_encodeChar (c : Char) (rest : List UInt8) :
    ∃ first tail, encodeChar c = first :: tail ∧ nextPiece first (tail ++ rest) = .char c (tail.length + 1) := by
  have hc := toNat_cases c
  have hback : Char.ofNat c.toNat = c := Char.ofNat_toNat c
  unfold encodeChar
  simp only
  split
  · next hone => exact ⟨_, [], rfl, (nextPiece_one rest hone).trans (by rw [hback]; rfl)⟩
  split
  · next hone htwo => exact ⟨_, _, rfl, (nextPiece_two rest (by omega) htwo).trans (by rw [hback]; rfl)⟩
  split
  · next hone htwo hthree =>
    exact ⟨_, _, rfl, (nextPiece_three rest (by omega) hthree (by omega)).trans (by rw [hback]; rfl)⟩
  · next hone htwo hthree =>
    exact ⟨_, _, rfl, (nextPiece_four rest (by omega) (by omega)).trans (by rw [hback]; rfl)⟩

/-! ## Texts -/

/-- The octets of a character that was read are passed over. -/
theorem decodeLossyFrom_append (out : List Char) (read rest : List UInt8) :
    decodeLossyFrom read.length out (read ++ rest) = decodeLossyFrom 0 out rest := by
  induction read with
  | nil => rfl
  | cons b read ih => exact ih

theorem decodeLossyFrom_encodeChar (out : List Char) (c : Char) (rest : List UInt8) :
    decodeLossyFrom 0 out (encodeChar c ++ rest) = decodeLossyFrom 0 (c :: out) rest := by
  obtain ⟨first, tail, hoctets, hpiece⟩ := nextPiece_encodeChar c rest
  rw [hoctets, List.cons_append, decodeLossyFrom]
  simp only [hpiece]
  exact decodeLossyFrom_append (c :: out) tail rest

theorem decodeLossyFrom_encode (out cs : List Char) :
    decodeLossyFrom 0 out (encode cs) = out.reverse ++ cs := by
  induction cs generalizing out with
  | nil => exact (List.append_nil _).symm
  | cons c cs ih =>
    rw [encode, List.flatMap_cons, decodeLossyFrom_encodeChar]
    exact (ih (c :: out)).trans (by rw [List.reverse_cons, List.append_assoc]; rfl)

/-- A text in UTF-8 is read back. -/
theorem decodeLossy_encode (cs : List Char) : decodeLossy (encode cs) = cs := decodeLossyFrom_encode [] cs

end ProxyLog.Text.Utf8
