import RailsNavigator.Proofs.Source
import RailsNavigator.Proofs.Text.Utf16

/-!
# Columns and characters

A column in bytes that lies between two characters of a line becomes the number of UTF-16 code units
of the characters before it. Two ways lead there. In front of the first character beyond ASCII the
byte column is taken as it is, and it counts the units since each of these characters has one byte
and one unit. Behind it the bytes are decoded, and bytes that end between two characters decode to
the characters they were made from. The lines of a text are the same whether its characters or its
bytes are divided, since a line feed is one byte and no other character has this byte in it.
-/

namespace RailsNavigator

section Lines

theorem splitLines_ne_nil (bytes : List UInt8) : splitLines bytes ≠ [] := by
  cases bytes with
  | nil => simp [splitLines]
  | cons byte rest =>
      rw [splitLines]
      split
      · simp
      · split
        · simp
        · simp

/-- Bytes without a line feed belong to the first line of what follows them. -/
theorem splitLines_append {bytes : List UInt8} (noFeed : ∀ byte ∈ bytes, byte ≠ 0x0A)
    (rest : List UInt8) :
    splitLines (bytes ++ rest) = (splitLines rest).modifyHead (bytes ++ ·) := by
  induction bytes with
  | nil =>
      rw [List.nil_append]
      cases splitLines rest with
      | nil => rfl
      | cons line lines => rfl
  | cons byte others hypothesis =>
      rw [List.forall_mem_cons] at noFeed
      rw [List.cons_append, splitLines, if_neg noFeed.1, hypothesis noFeed.2]
      cases found : splitLines rest with
      | nil => exact absurd found (splitLines_ne_nil rest)
      | cons line lines => rfl

/-- The lines of the bytes of a text are the bytes of its lines. -/
theorem splitLines_encode (text : List Char) :
    splitLines (Text.Utf8.encode text) = (text.splitOn '\n').map Text.Utf8.encode := by
  induction text with
  | nil => rfl
  | cons character rest hypothesis =>
      have split : Text.Utf8.encode (character :: rest)
          = Text.Utf8.encodeChar character ++ Text.Utf8.encode rest := rfl
      rw [List.splitOn] at hypothesis ⊢
      rw [split, List.splitOnP_cons_eq_if_modifyHead]
      by_cases isFeed : character = '\n'
      · subst isFeed
        change [] :: splitLines (Text.Utf8.encode rest) = _
        rw [hypothesis]
        rfl
      · rw [splitLines_append fun byte member =>
            Text.Utf8.ne_lineFeed_of_mem_encodeChar isFeed member,
          hypothesis, if_neg (by simpa using isFeed)]
        cases List.splitOnP (· == '\n') rest with
        | nil => rfl
        | cons line lines => rfl

end Lines

namespace Source

open Text Text.Utf8

/-- Between two characters of a line the column is the number of code units of the characters before
it, whether the bytes are all ASCII or are decoded. Everywhere it grows with the byte column, inside
of characters and beyond the end of the line too. -/
theorem column_eq_length_encode16 (text : String) {row : Nat} {line : List Char}
    (isLine : (text.toList.splitOn '\n')[row]? = some line) :
    (∀ before after, line = before ++ after →
      ofUnits16 (encode16 before) = before ∧
      (ofText text).column ⟨row, (encode before).length⟩ = (encode16 before).length ∧
      length16 (decodeLossy ((encode line).take (encode before).length))
        = (encode16 before).length ∧
      ((∀ byte ∈ encode before, byte < 0x80) →
        (encode before).length = (encode16 before).length)) ∧
    Monotone fun byteColumn => (ofText text).column ⟨row, byteColumn⟩ := by
  have found : (ofText text).lines[row]? = some (encode line) := by
    change (splitLines (encode text.toList))[row]? = _
    rw [splitLines_encode, List.getElem?_map, isLine]
    rfl
  refine ⟨?_, fun first second inOrder => (ofText text).column_le inOrder⟩
  rintro before after rfl
  have cut : (encode (before ++ after)).take (encode before).length = encode before := by
    rw [encode_append, List.take_left]
  simp only [length_encode16, cut, decodeLossy_encode]
  refine ⟨ofUnits16_encode16 before, ?_, trivial, length_encode_of_ascii⟩
  simp only [column, found, cut, decodeLossy_encode]
  split
  · rename_i isAscii
    apply length_encode_of_ascii
    simpa using isAscii
  · rfl

theorem column_eq_length_encode16_mixed :
    ("aé😀\nx".toList.splitOn '\n')[0]? = some ['a', 'é', '😀'] ∧
      (ofText "aé😀\nx").column ⟨0, 7⟩ = 4 ∧
      (encode16 ['a', 'é', '😀']).length = 4 ∧
      (ofText "aé😀\nx").column ⟨0, 5⟩ ≤ (ofText "aé😀\nx").column ⟨0, 9⟩ := by
  have isLine : ("aé😀\nx".toList.splitOn '\n')[0]? = some ['a', 'é', '😀'] := by
    rfl
  rcases column_eq_length_encode16 "aé😀\nx" isLine with ⟨atBoundary, grows⟩
  exact ⟨isLine, (atBoundary ['a', 'é', '😀'] [] rfl).2.1, rfl, grows (by decide)⟩

end Source

end RailsNavigator
