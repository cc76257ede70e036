import LineRules.Text.Utf8

/-!
# Decoding what was encoded

Bytes that encode a text decode to that text: `decode_encode`. So a text that is written to
a file is read back as it was, line endings included.
-/

namespace LineRules.Text.Utf8

/-- The code points of characters leave out the surrogates. -/
theorem toNat_valid (c : Char) : c.toNat < 0xD800 ∨ 0xE000 ≤ c.toNat ∧ c.toNat < 0x110000 := by
  have valid : c.toNat.isValidChar := c.valid
  unfold Nat.isValidChar at valid
  omega

section Steps

variable {code : Nat} (rest : List Nat)

theorem decodeStep_two (least : 0x80 ≤ code) (most : code < 0x800) :
    decodeStep (0xC0 + code / 0x40) ((0x80 + code % 0x40) :: rest) = .char (Char.ofNat code) 2 := by
  have good : badSecond (0xC0 + code / 0x40) (0x80 + code % 0x40) = false := by
    simp [badSecond, isContinuation]; omega
  have value : (0xC0 + code / 0x40 - 0xC0) * 0x40 + (0x80 + code % 0x40 - 0x80) = code := by omega
  unfold decodeStep
  rw [if_neg (by omega), if_neg (by simp; omega)]
  simp only [good, Bool.false_eq_true, if_false, value]
  rw [if_pos (by omega)]

theorem decodeStep_three (least : 0x800 ≤ code) (most : code < 0x10000)
    (valid : code < 0xD800 ∨ 0xE000 ≤ code) :
    decodeStep (0xE0 + code / 0x1000)
        ((0x80 + code / 0x40 % 0x40) :: (0x80 + code % 0x40) :: rest) =
      .char (Char.ofNat code) 3 := by
  have good : badSecond (0xE0 + code / 0x1000) (0x80 + code / 0x40 % 0x40) = false := by
    simp [badSecond, isContinuation]; omega
  have third : isContinuation (0x80 + code % 0x40) = true := by
    simp [isContinuation]; omega
  have value : (0xE0 + code / 0x1000 - 0xE0) * 0x1000 + (0x80 + code / 0x40 % 0x40 - 0x80) * 0x40 +
      (0x80 + code % 0x40 - 0x80) = code := by omega
  unfold decodeStep
  rw [if_neg (by omega), if_neg (by simp; omega)]
  simp only [good, third, Bool.false_eq_true, Bool.not_true, if_false, value]
  rw [if_neg (by omega), if_pos (by omega)]

theorem decodeStep_four (least : 0x10000 ≤ code) (most : code < 0x110000) :
    decodeStep (0xF0 + code / 0x40000)
        ((0x80 + code / 0x1000 % 0x40) :: (0x80 + code / 0x40 % 0x40) ::
          (0x80 + code % 0x40) :: rest) =
      .char (Char.ofNat code) 4 := by
  have good : badSecond (0xF0 + code / 0x40000) (0x80 + code / 0x1000 % 0x40) = false := by
    simp [badSecond, isContinuation]; omega
  have third : isContinuation (0x80 + code / 0x40 % 0x40) = true := by
    simp [isContinuation]; omega
  have fourth : isContinuation (0x80 + code % 0x40) = true := by
    simp [isContinuation]; omega
  have value : (0xF0 + code / 0x40000 - 0xF0) * 0x40000 +
      (0x80 + code / 0x1000 % 0x40 - 0x80) * 0x1000 + (0x80 + code / 0x40 % 0x40 - 0x80) * 0x40 +
      (0x80 + code % 0x40 - 0x80) = code := by omega
  unfold decodeStep
  rw [if_neg (by omega), if_neg (by simp; omega)]
  simp only [good, third, fourth, Bool.false_eq_true, Bool.not_true, if_false, value]
  rw [if_neg (by omega), if_neg (by omega)]

end Steps

/-- The bytes of a character are read as that character, whatever follows them. -/
theorem decodeStep_encodeChar (c : Char) : ∃ lead others : _,
    (encodeChar c).map UInt8.toNat = lead :: others ∧
      ∀ rest, decodeStep lead (others ++ rest) = .char c (others.length + 1) := by
  have valid := toNat_valid c
  have self : Char.ofNat c.toNat = c := Char.ofNat_toNat c
  simp only [encodeChar]
  generalize c.toNat = code at valid self
  subst self
  split
  case isTrue ascii =>
    refine ⟨code, [], ?_, fun rest => ?_⟩
    · simp; omega
    · simp [decodeStep, ascii]
  case isFalse wide =>
    split
    case isTrue two =>
      refine ⟨0xC0 + code / 0x40, [0x80 + code % 0x40], ?_, fun rest => ?_⟩
      · simp; omega
      · exact decodeStep_two rest (by omega) two
    case isFalse wider =>
      split
      case isTrue three =>
        refine ⟨0xE0 + code / 0x1000, [0x80 + code / 0x40 % 0x40, 0x80 + code % 0x40], ?_,
          fun rest => ?_⟩
        · simp; omega
        · exact decodeStep_three rest (by omega) three (by omega)
      case isFalse widest =>
        refine ⟨0xF0 + code / 0x40000,
          [0x80 + code / 0x1000 % 0x40, 0x80 + code / 0x40 % 0x40, 0x80 + code % 0x40], ?_,
          fun rest => ?_⟩
        · simp; omega
        · exact decodeStep_four rest (by omega) (by omega)

/-- The bytes of a character that was read are passed over. -/
theorem decodeFrom_skip (position : Nat) (skipped rest : List Nat) :
    decodeFrom position skipped.length (skipped ++ rest) =
      decodeFrom (position + skipped.length) 0 rest := by
  induction skipped generalizing position with
  | nil => rfl
  | cons byte skipped hyp =>
      rw [List.cons_append, List.length_cons, decodeFrom, hyp]
      congr 1
      omega

theorem decodeFrom_encode (position : Nat) (text : List Char) :
    decodeFrom position 0 ((encode text).map UInt8.toNat) = .ok text := by
  induction text generalizing position with
  | nil => rfl
  | cons c text hyp =>
      obtain ⟨lead, others, bytes, read⟩ := decodeStep_encodeChar c
      have whole : (encode (c :: text)).map UInt8.toNat =
          lead :: (others ++ (encode text).map UInt8.toNat) := by
        rw [encode, List.flatMap_cons, List.map_append, bytes]
        rfl
      rw [whole, decodeFrom, read]
      simp only [Nat.add_sub_cancel, decodeFrom_skip, hyp]
      rfl

/-- Bytes that encode a text decode to that text. -/
theorem decode_encode (text : List Char) : decode (encode text) = .ok text :=
  decodeFrom_encode 0 text

end LineRules.Text.Utf8
