import Mathlib.Data.List.Infix
import RailsNavigator.Json.Encoding
import RailsNavigator.Json.Printer
import RailsNavigator.Proofs.Text.Utf8

/-!
# Written JSON is ASCII

Every value is written with characters of ASCII only, whatever its strings hold. Such a text is one
byte for each character, and an object begins with a brace, so that its bytes are recognised as
UTF-8 and decode to the text itself.
-/

namespace RailsNavigator

namespace Text

/-- All characters of a text are of ASCII. -/
def IsAscii (text : List Char) : Prop :=
  ∀ character ∈ text, character.toNat < 0x80

theorem isAscii_nil : IsAscii [] := by simp [IsAscii]

@[simp]
theorem isAscii_cons {character : Char} {text : List Char} :
    IsAscii (character :: text) ↔ character.toNat < 0x80 ∧ IsAscii text := by
  simp [IsAscii]

@[simp]
theorem isAscii_append {text more : List Char} :
    IsAscii (text ++ more) ↔ IsAscii text ∧ IsAscii more := by
  simp [IsAscii, or_imp, forall_and]

theorem IsAscii.mono {text part : List Char} (isAscii : IsAscii text) (subset : part ⊆ text) :
    IsAscii part :=
  fun character member => isAscii character (subset member)

theorem isAscii_flatMap {α : Type} {pieceOf : α → List Char} {items : List α}
    (each : ∀ item ∈ items, IsAscii (pieceOf item)) : IsAscii (items.flatMap pieceOf) := by
  intro character member
  rcases List.mem_flatMap.mp member with ⟨item, itemMem, inPiece⟩
  exact each item itemMem character inPiece

theorem isAscii_toDigits (number : Nat) : IsAscii (Nat.toDigits 10 number) := by
  intro character member
  have isDigit := Nat.isDigit_of_mem_toDigits (by decide) (by decide) member
  simp only [Char.isDigit, Bool.and_eq_true, decide_eq_true_eq] at isDigit
  have : character.val.toNat ≤ 57 := isDigit.2
  exact Nat.lt_of_le_of_lt this (by decide)

/-- A text of ASCII takes one byte for each character. -/
theorem Utf8.encode_eq_map {text : List Char} (isAscii : IsAscii text) :
    Utf8.encode text = text.map fun character => UInt8.ofNat character.toNat := by
  induction text with
  | nil => rfl
  | cons character text hypothesis =>
      rw [isAscii_cons] at isAscii
      simp only [Utf8.encode, List.flatMap_cons, List.map_cons] at hypothesis ⊢
      rw [hypothesis isAscii.2]
      simp [Utf8.encodeChar, isAscii.1]

theorem toNat_ofNat_of_isAscii {character : Char} (isAscii : character.toNat < 0x80) :
    (UInt8.ofNat character.toNat).toNat = character.toNat := by
  rw [UInt8.toNat_ofNat']
  omega

end Text

namespace Decimal

open Text

theorem isAscii_positional {digits : List Char} (isAscii : IsAscii digits) (before : Int) :
    IsAscii (positional digits before) := by
  have zeros (count : Nat) : IsAscii (List.replicate count '0') := by
    intro character member
    rw [List.eq_of_mem_replicate member]
    decide
  unfold positional
  split
  · simp only [List.cons_append, isAscii_cons, isAscii_append]
    exact ⟨by decide, by decide, zeros _, isAscii⟩
  · simp only [isAscii_append, isAscii_cons]
    refine ⟨⟨isAscii.mono (List.take_subset _ _), zeros _⟩, by decide, ?_⟩
    split
    · simp [isAscii_nil]
    · exact isAscii.mono (List.drop_subset _ _)

theorem isAscii_exponentMark (exponent : Int) : IsAscii (exponentMark exponent) := by
  have digits := isAscii_toDigits exponent.natAbs
  unfold exponentMark
  simp only [isAscii_cons]
  refine ⟨by decide, by split <;> decide, ?_⟩
  split
  · exact isAscii_cons.mpr ⟨by decide, digits⟩
  · exact digits

theorem isAscii_scientific {digits : List Char} (isAscii : IsAscii digits) (exponent : Int) :
    IsAscii (scientific digits exponent) := by
  unfold scientific
  refine isAscii_append.mpr ⟨?_, isAscii_exponentMark exponent⟩
  split
  · simp only [isAscii_cons] at isAscii ⊢
    exact ⟨isAscii.1, by decide, isAscii.2⟩
  · exact isAscii

theorem isAscii_write (format : Format) (value : Float) : IsAscii (format.write value) := by
  have body : IsAscii (if value.abs == 0 then "0.0".toList
      else
        let decimal := shortest value.abs
        let digits := Nat.toDigits 10 decimal.digits
        let leading := decimal.exponent + digits.length - 1
        let digits := trimEnd (· == '0') digits
        if format.lowest ≤ leading && leading ≤ format.highest then positional digits (leading + 1)
        else scientific digits leading) := by
    have digits : IsAscii (trimEnd (· == '0') (Nat.toDigits 10 (shortest value.abs).digits)) := by
      refine (isAscii_toDigits (shortest value.abs).digits).mono ?_
      intro character member
      simp only [trimEnd, List.mem_reverse] at member
      simpa using (List.dropWhile_sublist _).subset member
    split
    · simp [IsAscii]
    · dsimp only
      split
      · exact isAscii_positional digits _
      · exact isAscii_scientific digits _
  unfold Format.write
  dsimp only
  split
  · exact isAscii_cons.mpr ⟨by decide, body⟩
  · exact body

end Decimal

namespace Json

open Text

theorem isAscii_hex4 (unit : Nat) : IsAscii (hex4 unit) := by
  have digit : ∀ number < 16, (Nat.digitChar number).toNat < 0x80 := by decide
  simp only [hex4, List.map_cons, List.map_nil, isAscii_cons]
  exact ⟨digit _ (Nat.mod_lt _ (by decide)), digit _ (Nat.mod_lt _ (by decide)),
    digit _ (Nat.mod_lt _ (by decide)), digit _ (Nat.mod_lt _ (by decide)), isAscii_nil⟩

theorem isAscii_escapeUnit (unit : Nat) : IsAscii (escapeUnit unit) := by
  simp only [escapeUnit, isAscii_cons]
  exact ⟨by decide, by decide, isAscii_hex4 unit⟩

theorem isAscii_writeChar (character : Char) : IsAscii (writeChar character) := by
  unfold writeChar
  split
  case h_8 =>
    dsimp only
    split
    · rename_i printable
      simp only [Bool.and_eq_true, decide_eq_true_eq] at printable
      exact isAscii_cons.mpr ⟨by omega, isAscii_nil⟩
    · split
      · exact isAscii_escapeUnit _
      · exact isAscii_append.mpr ⟨isAscii_escapeUnit _, isAscii_escapeUnit _⟩
  all_goals simp [IsAscii]

theorem isAscii_writeString (text : String) : IsAscii (writeString text) := by
  simp only [writeString, List.cons_append, isAscii_cons, isAscii_append]
  exact ⟨by decide, isAscii_flatMap fun character _ => isAscii_writeChar character, by decide,
    isAscii_nil⟩

theorem isAscii_commaSeparated {pieces : List (List Char)}
    (each : ∀ piece ∈ pieces, IsAscii piece) : IsAscii (commaSeparated pieces) := by
  unfold commaSeparated
  induction pieces with
  | nil => simp [isAscii_nil]
  | cons piece pieces hypothesis =>
      have first := each piece List.mem_cons_self
      have others := hypothesis fun other member => each other (List.mem_cons_of_mem _ member)
      cases pieces with
      | nil => simpa using first
      | cons next pieces =>
          rw [List.intercalate_cons_cons]
          simp only [isAscii_append]
          exact ⟨⟨first, by simp [IsAscii]⟩, others⟩

theorem isAscii_int (value : Int) : IsAscii (toString value).toList := by
  cases value with
  | ofNat number =>
      simpa [Int.toString_eq_repr, Int.repr, Nat.repr_eq_ofList_toDigits] using
        isAscii_toDigits number
  | negSucc number =>
      simpa [Int.toString_eq_repr, Int.repr, Nat.repr_eq_ofList_toDigits] using
        isAscii_toDigits (number + 1)

theorem isAscii_writeFloat (value : Float) : IsAscii (writeFloat value) := by
  unfold writeFloat
  split
  · simp [IsAscii]
  · split
    · split <;> simp [IsAscii]
    · exact Decimal.isAscii_write _ value

mutual

/-- Whatever a value holds, it is written in ASCII. -/
theorem isAscii_write : (value : Json) → IsAscii value.write
  | null => by simp [write, IsAscii]
  | bool value => by cases value <;> simp [write, IsAscii]
  | int value => by simpa [write] using isAscii_int value
  | float value => by simpa [write] using isAscii_writeFloat value
  | string value => by simpa [write] using isAscii_writeString value
  | array items => by
      simp only [write, List.cons_append, isAscii_cons, isAscii_append]
      exact ⟨by decide, isAscii_commaSeparated (isAscii_of_mem_writeItems items), by decide,
        isAscii_nil⟩
  | object fields => by
      simp only [write, List.cons_append, isAscii_cons, isAscii_append]
      exact ⟨by decide, isAscii_commaSeparated (isAscii_of_mem_writeFields fields), by decide,
        isAscii_nil⟩

theorem isAscii_of_mem_writeItems :
    (items : List Json) → ∀ piece ∈ writeItems items, IsAscii piece
  | [] => by simp [writeItems]
  | item :: rest => by
      simp only [writeItems, List.forall_mem_cons]
      exact ⟨isAscii_write item, isAscii_of_mem_writeItems rest⟩

theorem isAscii_of_mem_writeFields :
    (fields : List (String × Json)) → ∀ piece ∈ writeFields fields, IsAscii piece
  | [] => by simp [writeFields]
  | (key, value) :: rest => by
      simp only [writeFields, List.forall_mem_cons, isAscii_append, isAscii_cons]
      exact ⟨⟨isAscii_writeString key, by decide, by decide, isAscii_write value⟩,
        isAscii_of_mem_writeFields rest⟩

end

theorem head?_commaSeparated_writeFields (key : String) (value : Json)
    (rest : List (String × Json)) :
    (commaSeparated (writeFields ((key, value) :: rest))).head? = some '"' := by
  rw [writeFields, commaSeparated]
  cases writeFields rest with
  | nil => simp [writeString]
  | cons next pieces => simp [List.intercalate_cons_cons, writeString]

/-- An object begins with a brace, and what comes next is a brace or a quote. -/
theorem write_object_eq (fields : List (String × Json)) :
    ∃ second rest, (object fields).write = '\x7b' :: second :: rest ∧
      (second = '\x7d' ∨ second = '"') := by
  rw [write]
  cases fields with
  | nil => exact ⟨'\x7d', [], by simp [writeFields, commaSeparated], Or.inl rfl⟩
  | cons field rest =>
      have first := head?_commaSeparated_writeFields field.1 field.2 rest
      rcases List.head?_eq_some_iff.mp first with ⟨others, begins⟩
      refine ⟨'"', others ++ ['\x7d'], ?_, Or.inr rfl⟩
      rw [begins]
      rfl

theorem Encoding.replaceSurrogates_eq_self {bytes : List UInt8}
    (none : ∀ byte ∈ bytes, byte ≠ 0xED) :
    replaceSurrogates bytes = bytes := by
  fun_induction replaceSurrogates bytes with
  | case1 first second third rest isSurrogate hypothesis =>
      exact absurd isSurrogate.1 (none first List.mem_cons_self)
  | case2 first second third rest noSurrogate hypothesis =>
      rw [hypothesis fun byte member => none byte (List.mem_cons_of_mem _ member)]
  | case3 => rfl

theorem Encoding.ofZeros_eq_utf8 {first second : UInt8} (firstNonzero : first ≠ 0)
    (secondNonzero : second ≠ 0) (rest : List UInt8) :
    ofZeros (first :: second :: rest) = utf8 := by
  rcases rest with _ | ⟨third, _ | ⟨fourth, rest⟩⟩
  · simp [ofZeros, firstNonzero, secondNonzero]
  · rfl
  · simp [ofZeros, firstNonzero, secondNonzero]

/-- The bytes of a written object are recognised as UTF-8. -/
theorem Encoding.detect_encode_write (fields : List (String × Json)) :
    detect (Utf8.encode (object fields).write) = (utf8, Utf8.encode (object fields).write) := by
  rcases write_object_eq fields with ⟨second, rest, begins, isSecond⟩
  have isAscii := isAscii_write (object fields)
  rw [begins] at isAscii ⊢
  rw [Utf8.encode_eq_map isAscii]
  have brace : UInt8.ofNat '\x7b'.toNat ≠ 0 := by decide
  have nonzero : UInt8.ofNat second.toNat ≠ 0 := by
    rcases isSecond with rfl | rfl <;> decide
  have noMark : marks.find? (·.1.isPrefixOf (List.map (fun character => UInt8.ofNat character.toNat)
      ('\x7b' :: second :: rest))) = none := by
    simp [marks, List.isPrefixOf]
  rw [detect, noMark]
  simp only [List.map_cons, ofZeros_eq_utf8 brace nonzero]

/-- The bytes of a written object decode to its text. -/
theorem decode?_encode_write (fields : List (String × Json)) :
    decode? (Utf8.encode (object fields).write) = some (object fields).write := by
  have isAscii := isAscii_write (object fields)
  have noSurrogate : ∀ byte ∈ Utf8.encode (object fields).write, byte ≠ 0xED := by
    rw [Utf8.encode_eq_map isAscii]
    intro byte member
    rcases List.mem_map.mp member with ⟨character, characterMem, rfl⟩
    intro isMark
    have value := toNat_ofNat_of_isAscii (isAscii character characterMem)
    have small := isAscii character characterMem
    rw [isMark] at value
    simp at value
    omega
  unfold decode?
  rw [Encoding.detect_encode_write]
  simp only [Encoding.decode?, Encoding.replaceSurrogates_eq_self noSurrogate, Utf8.decode?,
    Utf8.run_idle_encode]
  have collected : (object fields).write.mapM (fun character => (pure character : Option Char))
      = pure (List.map id (object fields).write) := List.mapM_pure
  rw [List.mapM_map]
  simpa using collected

end Json

end RailsNavigator
