import Mathlib.Data.List.Infix
import RailsNavigator.Text.Utf16
import RailsNavigator.Text.Utf8

/-!
# Decoding UTF-8

A text is read back from its bytes. Bytes that are cut off anywhere, also inside a character, decode
to no more UTF-16 code units than before the cut: what is left of a character counts as one, and
every character has at least one. A character has no more units than bytes, and where all bytes are
ASCII there are as many of the one as of the other.
-/

namespace RailsNavigator.Text

theorem one_le_units16 (character : Char) : 1 ≤ units16 character := by
  unfold units16
  split <;> omega

theorem length16_append (first second : List Char) :
    length16 (first ++ second) = length16 first + length16 second := by
  induction first with
  | nil => simp [length16]
  | cons character rest hypothesis =>
      simp only [length16, List.cons_append, List.foldr_cons] at hypothesis ⊢
      omega

theorem length_le_length16 (text : List Char) : text.length ≤ length16 text := by
  induction text with
  | nil => exact Nat.le_refl 0
  | cons character rest hypothesis =>
      have one := one_le_units16 character
      simp only [length16, List.length_cons, List.foldr_cons] at hypothesis ⊢
      omega

namespace Utf8

theorem run_cons (progress : Progress) (byte : UInt8) (rest : List UInt8) :
    run progress (byte :: rest)
      = (step progress byte).1 ++ run (step progress byte).2 rest := by
  cases progress with
  | idle => rfl
  | within bits owed low high => rfl

section Reading

theorem step_within_last {bits : Nat} {low high byte : UInt8}
    (inRange : low ≤ byte ∧ byte ≤ high) :
    step (.within bits 1 low high) byte
      = ([some (Char.ofNat (bits * 64 + (byte.toNat - 0x80)))], .idle) := by
  simp [step, inRange]

theorem step_within_more {bits owed : Nat} {low high byte : UInt8}
    (inRange : low ≤ byte ∧ byte ≤ high) :
    step (.within bits (owed + 2) low high) byte
      = ([], .within (bits * 64 + (byte.toNat - 0x80)) (owed + 1) 0x80 0xBF) := by
  simp [step, inRange]

theorem toNat_ofNat {value : Nat} (small : value < 256) : (UInt8.ofNat value).toNat = value :=
  UInt8.toNat_ofNat_of_lt' small

theorem start_one {value : Nat} (small : value < 0x80) :
    start (UInt8.ofNat value) = ([some (Char.ofNat value)], .idle) := by
  have same := toNat_ofNat (show value < 256 by omega)
  have isAscii : UInt8.ofNat value < 0x80 := by rwa [UInt8.lt_iff_toNat_lt, same]
  rw [start, if_pos isAscii, same]

theorem start_two : ∀ lead < 32, 2 ≤ lead →
    start (UInt8.ofNat (0xC0 + lead)) = ([], .within lead 1 0x80 0xBF) := by
  decide

/-- After the first byte of three the range of the next one keeps out what two bytes can hold, and
surrogates. -/
theorem start_three : ∀ lead < 16,
    start (UInt8.ofNat (0xE0 + lead)) = ([], .within lead 2 (if lead = 0 then 0xA0 else 0x80)
      (if lead = 0xD then 0x9F else 0xBF)) := by
  decide

/-- After the first byte of four the range of the next one keeps out what three bytes can hold, and
what lies beyond the last character. -/
theorem start_four : ∀ lead < 5,
    start (UInt8.ofNat (0xF0 + lead)) = ([], .within lead 3 (if lead = 0 then 0x90 else 0x80)
      (if lead = 4 then 0x8F else 0xBF)) := by
  decide

theorem ofNat_inRange {low high : UInt8} {value : Nat} (atLeast : low.toNat ≤ value)
    (atMost : value ≤ high.toNat) : low ≤ UInt8.ofNat value ∧ UInt8.ofNat value ≤ high := by
  have bound := high.toNat_lt
  rw [UInt8.le_iff_toNat_le, UInt8.le_iff_toNat_le, toNat_ofNat (by omega)]
  exact ⟨atLeast, atMost⟩

theorem toNat_continuation {bits : Nat} (small : bits < 64) :
    (UInt8.ofNat (0x80 + bits)).toNat - 0x80 = bits := by
  rw [toNat_ofNat (by omega)]
  omega

theorem continuation_inRange {bits : Nat} (small : bits < 64) :
    0x80 ≤ UInt8.ofNat (0x80 + bits) ∧ UInt8.ofNat (0x80 + bits) ≤ 0xBF := by
  apply ofNat_inRange
  · simp
  · simp
    omega

variable {value : Nat} (rest : List UInt8)

theorem run_two (least : 0x80 ≤ value) (most : value < 0x800) :
    run .idle (UInt8.ofNat (0xC0 + value / 64) :: UInt8.ofNat (0x80 + value % 64) :: rest)
      = some (Char.ofNat value) :: run .idle rest := by
  have last : value % 64 < 64 := Nat.mod_lt _ (by decide)
  have joined : value / 64 * 64 + value % 64 = value := by omega
  rw [run_cons, step, start_two _ (by omega) (by omega), run_cons,
    step_within_last (continuation_inRange last), toNat_continuation last, joined]
  rfl

theorem run_three (least : 0x800 ≤ value) (most : value < 0x10000)
    (valid : value < 0xD800 ∨ 0xDFFF < value) :
    run .idle (UInt8.ofNat (0xE0 + value / 4096) :: UInt8.ofNat (0x80 + value / 64 % 64)
        :: UInt8.ofNat (0x80 + value % 64) :: rest)
      = some (Char.ofNat value) :: run .idle rest := by
  have last : value % 64 < 64 := Nat.mod_lt _ (by decide)
  have middle : value / 64 % 64 < 64 := Nat.mod_lt _ (by decide)
  have inRange : (if value / 4096 = 0 then 0xA0 else 0x80) ≤ UInt8.ofNat (0x80 + value / 64 % 64) ∧
      UInt8.ofNat (0x80 + value / 64 % 64) ≤ if value / 4096 = 0xD then 0x9F else 0xBF := by
    apply ofNat_inRange
    · split
      · simp
        omega
      · simp
    · split
      · simp
        omega
      · simp
        omega
  have joined : (value / 4096 * 64 + value / 64 % 64) * 64 + value % 64 = value := by omega
  rw [run_cons, step, start_three _ (by omega), run_cons, step_within_more inRange,
    toNat_continuation middle, run_cons, step_within_last (continuation_inRange last),
    toNat_continuation last, joined]
  rfl

theorem run_four (least : 0x10000 ≤ value) (most : value < 0x110000) :
    run .idle (UInt8.ofNat (0xF0 + value / 262144) :: UInt8.ofNat (0x80 + value / 4096 % 64)
        :: UInt8.ofNat (0x80 + value / 64 % 64) :: UInt8.ofNat (0x80 + value % 64) :: rest)
      = some (Char.ofNat value) :: run .idle rest := by
  have last : value % 64 < 64 := Nat.mod_lt _ (by decide)
  have third : value / 64 % 64 < 64 := Nat.mod_lt _ (by decide)
  have second : value / 4096 % 64 < 64 := Nat.mod_lt _ (by decide)
  have inRange : (if value / 262144 = 0 then 0x90 else 0x80)
        ≤ UInt8.ofNat (0x80 + value / 4096 % 64) ∧
      UInt8.ofNat (0x80 + value / 4096 % 64) ≤ if value / 262144 = 4 then 0x8F else 0xBF := by
    apply ofNat_inRange
    · split
      · simp
        omega
      · simp
    · split
      · simp
        omega
      · simp
        omega
  have joined : ((value / 262144 * 64 + value / 4096 % 64) * 64 + value / 64 % 64) * 64
      + value % 64 = value := by omega
  rw [run_cons, step, start_four _ (by omega), run_cons, step_within_more inRange,
    toNat_continuation second, run_cons, step_within_more (continuation_inRange third),
    toNat_continuation third, run_cons, step_within_last (continuation_inRange last),
    toNat_continuation last, joined]
  rfl

/-- The bytes of a character are read as this character. -/
theorem run_encodeChar_append (character : Char) :
    run .idle (encodeChar character ++ rest) = some character :: run .idle rest := by
  have valid : character.toNat < 0xD800 ∨ 0xDFFF < character.toNat ∧ character.toNat < 0x110000 :=
    character.valid
  have same := Char.ofNat_toNat character
  simp only [encodeChar]
  split
  · rename_i one
    rw [List.singleton_append, run_cons, step, start_one one, same]
    rfl
  · split
    · exact (run_two rest (by omega) (by omega)).trans (by rw [same])
    · split
      · exact (run_three rest (by omega) (by omega) (by omega)).trans (by rw [same])
      · exact (run_four rest (by omega) (by omega)).trans (by rw [same])

theorem run_idle_encode (text : List Char) : run .idle (encode text) = text.map some := by
  induction text with
  | nil => rfl
  | cons character text hypothesis =>
      rw [encode, List.flatMap_cons, run_encodeChar_append, ← encode, hypothesis, List.map_cons]

theorem decodeLossy_encode (text : List Char) : decodeLossy (encode text) = text := by
  rw [decodeLossy, run_idle_encode, List.map_map]
  exact List.map_id text

end Reading

section Cutting

theorem length_run_of_ascii {bytes : List UInt8} (isAscii : ∀ byte ∈ bytes, byte < 0x80) :
    (run .idle bytes).length = bytes.length := by
  induction bytes with
  | nil => rfl
  | cons byte rest hypothesis =>
      have first : step .idle byte = ([some (Char.ofNat byte.toNat)], .idle) :=
        if_pos (isAscii byte List.mem_cons_self)
      have others := hypothesis fun other member => isAscii other (List.mem_cons_of_mem _ member)
      rw [run_cons, first, List.length_append, others, List.length_singleton, List.length_cons]
      omega

/-- What is left of a character that was begun is read as something. -/
theorem run_within_ne_nil (bits owed : Nat) (low high : UInt8) (bytes : List UInt8) :
    run (.within bits owed low high) bytes ≠ [] := by
  induction bytes generalizing bits owed low high with
  | nil => simp [run]
  | cons byte rest hypothesis =>
      rw [run_cons, step]
      split
      · dsimp only
        split
        · simp
        · simpa using hypothesis _ _ _ _
      · simp

/-- Decoding more bytes gives at least as many code units. -/
theorem length16_run_le_append (progress : Progress) (bytes more : List UInt8) :
    length16 ((run progress bytes).map (·.getD replacement))
      ≤ length16 ((run progress (bytes ++ more)).map (·.getD replacement)) := by
  induction bytes generalizing progress with
  | nil =>
      cases progress with
      | idle => exact Nat.zero_le _
      | within bits owed low high =>
          -- The character that was begun counts as one unit, and so does what becomes of it.
          have something := List.length_pos_iff.mpr (run_within_ne_nil bits owed low high more)
          have count := length_le_length16
            ((run (.within bits owed low high) more).map (·.getD replacement))
          rw [List.length_map] at count
          exact Nat.le_trans something count
  | cons byte rest hypothesis =>
      rw [List.cons_append, run_cons, run_cons, List.map_append, List.map_append, length16_append,
        length16_append]
      exact Nat.add_le_add_left (hypothesis _) _

theorem length16_decodeLossy_take_le (bytes : List UInt8) {fewer count : Nat}
    (fewerLe : fewer ≤ count) :
    length16 (decodeLossy (bytes.take fewer)) ≤ length16 (decodeLossy (bytes.take count)) := by
  rcases List.take_prefix_take_left fewerLe (l := bytes) with ⟨more, isMore⟩
  rw [← isMore]
  exact length16_run_le_append .idle _ more

theorem length_le_length16_decodeLossy {bytes : List UInt8}
    (isAscii : ∀ byte ∈ bytes, byte < 0x80) : bytes.length ≤ length16 (decodeLossy bytes) := by
  rw [← length_run_of_ascii isAscii, ← List.length_map (·.getD replacement)]
  exact length_le_length16 _

end Cutting

section Bytes

theorem encode_append (first second : List Char) :
    encode (first ++ second) = encode first ++ encode second :=
  List.flatMap_append

/-- The bytes of a character beyond ASCII are beyond ASCII. -/
theorem le_toNat_of_mem_encodeChar {character : Char} (wide : 0x80 ≤ character.toNat)
    {byte : UInt8} (member : byte ∈ encodeChar character) : 0x80 ≤ byte.toNat := by
  have valid : character.toNat < 0xD800 ∨ 0xDFFF < character.toNat ∧ character.toNat < 0x110000 :=
    character.valid
  have beyond : ∀ value, 0x80 ≤ value → value < 256 → 0x80 ≤ (UInt8.ofNat value).toNat := by
    intro value least most
    rwa [toNat_ofNat most]
  simp only [encodeChar] at member
  rw [if_neg (by omega)] at member
  split at member
  · simp only [List.mem_cons, List.not_mem_nil, or_false] at member
    rcases member with rfl | rfl <;> exact beyond _ (by omega) (by omega)
  · split at member
    · simp only [List.mem_cons, List.not_mem_nil, or_false] at member
      rcases member with rfl | rfl | rfl <;> exact beyond _ (by omega) (by omega)
    · simp only [List.mem_cons, List.not_mem_nil, or_false] at member
      rcases member with rfl | rfl | rfl | rfl <;> exact beyond _ (by omega) (by omega)

theorem encodeChar_of_ascii {character : Char} (isAscii : character.toNat < 0x80) :
    encodeChar character = [UInt8.ofNat character.toNat] := if_pos isAscii

/-- Beside the line feed no character has the byte of the line feed in it. -/
theorem ne_lineFeed_of_mem_encodeChar {character : Char} (different : character ≠ '\n')
    {byte : UInt8} (member : byte ∈ encodeChar character) : byte ≠ 0x0A := by
  rintro rfl
  by_cases wide : 0x80 ≤ character.toNat
  · exact absurd (le_toNat_of_mem_encodeChar wide member) (by decide)
  · apply different
    rw [encodeChar_of_ascii (by omega), List.mem_singleton] at member
    have number := congrArg UInt8.toNat member
    rw [toNat_ofNat (by omega)] at number
    rw [← Char.ofNat_toNat character, ← number]
    rfl

theorem units16_le_length_encodeChar (character : Char) :
    units16 character ≤ (encodeChar character).length := by
  simp only [units16, encodeChar]
  grind

theorem length16_le_length_encode (text : List Char) : length16 text ≤ (encode text).length := by
  induction text with
  | nil => exact Nat.le_refl 0
  | cons character rest hypothesis =>
      have first := units16_le_length_encodeChar character
      simp only [length16, encode, List.foldr_cons, List.flatMap_cons, List.length_append]
        at hypothesis ⊢
      omega

/-- Bytes that are all ASCII are as many as the code units of the text they encode. -/
theorem length_encode_of_ascii {text : List Char}
    (isAscii : ∀ byte ∈ encode text, byte < 0x80) : (encode text).length = length16 text := by
  have oneEach : text.length = (encode text).length := by
    have asMany := length_run_of_ascii isAscii
    rwa [run_idle_encode, List.length_map] at asMany
  have atLeast := length_le_length16 text
  have atMost := length16_le_length_encode text
  omega

end Bytes

end Utf8

end RailsNavigator.Text
