import RailsNavigator.Text.Utf16

/-!
# Code units of a text

The UTF-16 code units of a text, of which editors count the columns: one for a character of the basic
plane and a surrogate pair for any other. The text is read back from them.
-/

namespace RailsNavigator.Text

/-- The UTF-16 code units of a character. -/
def encodeChar16 (character : Char) : List Nat :=
  if character.toNat < 0x10000 then [character.toNat]
  else [(surrogatePair character.toNat).1, (surrogatePair character.toNat).2]

/-- The UTF-16 code units of a text. -/
def encode16 (text : List Char) : List Nat := text.flatMap encodeChar16

theorem length_encodeChar16 (character : Char) :
    (encodeChar16 character).length = units16 character := by
  simp only [encodeChar16, units16]
  split
  · rfl
  · rfl

@[simp]
theorem length_encode16 (text : List Char) : (encode16 text).length = length16 text := by
  induction text with
  | nil => rfl
  | cons character rest hypothesis =>
      simp only [encode16, length16, List.flatMap_cons, List.length_append, List.foldr_cons,
        length_encodeChar16] at hypothesis ⊢
      omega

theorem scalar_toNat (character : Char) : scalar character.toNat = character := by
  have valid : character.toNat.isValidChar := character.valid
  simp [scalar, valid]

theorem isHighSurrogate_surrogatePair {value : Nat} (least : 0x10000 ≤ value)
    (most : value < 0x110000) : isHighSurrogate (surrogatePair value).1 = true := by
  rw [isHighSurrogate, Bool.and_eq_true, decide_eq_true_iff, decide_eq_true_iff, surrogatePair]
  omega

theorem isLowSurrogate_surrogatePair (value : Nat) :
    isLowSurrogate (surrogatePair value).2 = true := by
  rw [isLowSurrogate, Bool.and_eq_true, decide_eq_true_iff, decide_eq_true_iff, surrogatePair]
  omega

theorem joinSurrogates_surrogatePair {value : Nat} (least : 0x10000 ≤ value) :
    joinSurrogates (surrogatePair value).1 (surrogatePair value).2 = value := by
  unfold joinSurrogates surrogatePair
  simp only [Nat.add_sub_cancel_left]
  omega

/-- A unit that opens no surrogate pair is a character of its own. -/
theorem ofUnits16_cons_of_not_isHighSurrogate {unit : Nat} (plain : isHighSurrogate unit = false)
    (rest : List Nat) : ofUnits16 (unit :: rest) = scalar unit :: ofUnits16 rest := by
  cases rest with
  | nil => rfl
  | cons next others => simp [ofUnits16, plain]

theorem ofUnits16_encodeChar16_append (character : Char) (rest : List Nat) :
    ofUnits16 (encodeChar16 character ++ rest) = character :: ofUnits16 rest := by
  have valid : character.toNat < 0xD800 ∨ 0xDFFF < character.toNat ∧ character.toNat < 0x110000 :=
    character.valid
  unfold encodeChar16
  split
  · have plain : isHighSurrogate character.toNat = false := by
      simp only [isHighSurrogate, Bool.and_eq_false_iff, decide_eq_false_iff_not]
      omega
    rw [List.singleton_append, ofUnits16_cons_of_not_isHighSurrogate plain, scalar_toNat]
  · have least : 0x10000 ≤ character.toNat := by omega
    simp [ofUnits16, isHighSurrogate_surrogatePair least (by omega), isLowSurrogate_surrogatePair,
      joinSurrogates_surrogatePair least, scalar_toNat]

/-- A text is read back from its code units. -/
theorem ofUnits16_encode16 (text : List Char) : ofUnits16 (encode16 text) = text := by
  induction text with
  | nil => rfl
  | cons character rest hypothesis =>
      rw [encode16, List.flatMap_cons, ofUnits16_encodeChar16_append, ← encode16, hypothesis]

end RailsNavigator.Text
