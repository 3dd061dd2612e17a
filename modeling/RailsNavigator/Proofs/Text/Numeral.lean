import Mathlib.Algebra.Group.Nat.Defs
import Mathlib.Data.List.TakeWhile
import RailsNavigator.Text.Numeral

/-!
# Decimal numerals are read back

A number that is written in decimal is read as the same number, as long as it has no more digits
than are admitted.
-/

namespace RailsNavigator.Text

theorem dropWhile_eq_self {drop : Char → Bool} {text : List Char}
    (kept : ∀ character ∈ text, drop character = false) : text.dropWhile drop = text := by
  cases text with
  | nil => rfl
  | cons first rest =>
      rw [List.dropWhile_cons_of_neg (by simp [kept first List.mem_cons_self])]

theorem trim_eq_self {drop : Char → Bool} {text : List Char}
    (kept : ∀ character ∈ text, drop character = false) : trim drop text = text := by
  rw [trim, dropWhile_eq_self kept, trimEnd, dropWhile_eq_self (by simpa using kept),
    List.reverse_reverse]

theorem toNat_of_isDigit {character : Char} (isDigit : character.isDigit = true) :
    48 ≤ character.toNat ∧ character.toNat ≤ 57 := by
  simp only [Char.isDigit, Bool.and_eq_true, decide_eq_true_eq, ge_iff_le,
    UInt32.le_iff_toNat_le] at isDigit
  exact isDigit

theorem isBlank_of_isDigit {character : Char} (isDigit : character.isDigit = true) :
    isBlank character = false := by
  have range := toNat_of_isDigit isDigit
  simp only [isBlank, Bool.or_eq_false_iff, Bool.and_eq_false_iff, decide_eq_false_iff_not,
    beq_eq_false_iff_ne]
  omega

theorem isAsciiBlank_of_isDigit {character : Char} (isDigit : character.isDigit = true) :
    isAsciiBlank character = false := by
  have range := toNat_of_isDigit isDigit
  have notSpace : character ≠ ' ' := by
    rintro rfl
    simp at range
  simp only [isAsciiBlank, Bool.or_eq_false_iff, Bool.and_eq_false_iff, decide_eq_false_iff_not,
    beq_eq_false_iff_ne]
  exact ⟨Or.inr (by omega), notSpace⟩

theorem asciiDigit?_of_isDigit {character : Char} (isDigit : character.isDigit = true) :
    asciiDigit? 10 character = some (character.toNat - 48) := by
  have range := toNat_of_isDigit isDigit
  have small : character.toNat - 48 < 10 := by omega
  simp [asciiDigit?, range, small]

namespace Numeral

theorem toAscii_of_isDigit {character : Char} (isDigit : character.isDigit = true) :
    toAscii character = character := by
  have range := toNat_of_isDigit isDigit
  exact if_pos (by omega)

theorem digits?_eq_some {text : List Char}
    (areDigits : ∀ character ∈ text, character.isDigit = true)
    {afterDigit : Bool} (someDigit : text ≠ [] ∨ afterDigit = true) :
    digits? 10 afterDigit text = some (text.map (·.toNat - 48)) := by
  induction text generalizing afterDigit with
  | nil =>
      rcases someDigit with absurdity | rfl
      · exact absurd rfl absurdity
      · rfl
  | cons first rest hypothesis =>
      have isDigit := areDigits first List.mem_cons_self
      have notDivider : first ≠ '_' := by
        rintro rfl
        simp at isDigit
      have others := hypothesis
        (fun other member => areDigits other (List.mem_cons_of_mem _ member)) (Or.inr rfl)
      simp [digits?, notDivider, asciiDigit?_of_isDigit isDigit, others]

theorem ofDigits_map (text : List Char) :
    ofDigits 10 (text.map (·.toNat - 48)) = Nat.ofDigitChars 10 text 0 := by
  rw [ofDigits, List.foldl_map, Nat.ofDigitChars]
  congr 1
  funext value character
  rw [Nat.mul_comm]
  rfl

theorem sign_eq_self {text : List Char} (areDigits : ∀ character ∈ text, character.isDigit = true) :
    sign text = (false, text) := by
  unfold sign
  split
  · simp at areDigits
  · simp at areDigits
  · rfl

/-- A number within the limit is read back from its decimal digits. -/
theorem readDecimal_toDigits {number : Nat} (short : number < 10 ^ digitLimit) :
    readDecimal (Nat.toDigits 10 number) = .ok number := by
  have areDigits : ∀ character ∈ Nat.toDigits 10 number, character.isDigit = true :=
    fun character member => Nat.isDigit_of_mem_toDigits (by decide) (by decide) member
  have ascii : (Nat.toDigits 10 number).map toAscii = Nat.toDigits 10 number :=
    List.map_congr_left (fun character member => toAscii_of_isDigit (areDigits character member))
      |>.trans (List.map_id' _)
  have unblank := dropWhile_eq_self fun character member =>
    isAsciiBlank_of_isDigit (areDigits character member)
  have inRun : ∀ character ∈ Nat.toDigits 10 number, inRun 10 character = true :=
    fun character member => by
      simp [Numeral.inRun, asciiDigit?_of_isDigit (areDigits character member)]
  have limited : ¬digitLimit < (Nat.toDigits 10 number).length :=
    Nat.not_lt.mpr ((Nat.length_toDigits_le_iff (by decide) (by decide)).mpr short)
  have read : readDigits 10 (some digitLimit) (Nat.toDigits 10 number) = .ok number := by
    rw [readDigits, List.takeWhile_eq_self_iff.mpr inRun, List.dropWhile_eq_nil_iff.mpr inRun,
      digits?_eq_some areDigits (Or.inl Nat.toDigits_ne_nil)]
    simp [limited, ofDigits_map, Nat.ofDigitChars_ten_toDigits]
  simp only [readDecimal, ascii, unblank, sign_eq_self areDigits, read]
  rfl

end Numeral

end RailsNavigator.Text
