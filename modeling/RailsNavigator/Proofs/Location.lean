import Mathlib.Data.List.TakeWhile
import RailsNavigator.Location

/-!
# Texts that give a location

The runner writes a location as a path and a line. `Gives` says which texts give which location, and
`Refuses` why any other text gives none. The reader decides between the two for every text: what it
reads is what the text gives, and what it complains of is what is wrong with the text.
-/

namespace RailsNavigator

/-- A text has nothing from a character on exactly if it does not have that character. -/
theorem Text.dropWhile_bne_eq_nil_iff {mark : Char} {text : List Char} :
    text.dropWhile (· != mark) = [] ↔ mark ∉ text := by
  rw [List.dropWhile_eq_nil_iff]
  constructor
  · intro others member
    simpa using others mark member
  · rintro notMem character member
    rw [bne_iff_ne]
    rintro rfl
    exact notMem member

namespace Uri

theorem splitHost_eq_error_iff (path : List Char) (error : LocationError) :
    splitHost path = .error error ↔
      error = .pathWithoutShare ∧ ∃ host, path = '/' :: '/' :: host ∧ '/' ∉ host := by
  unfold splitHost
  split
  · next rest =>
      split
      · next noShare =>
          have noSlash := Text.dropWhile_bne_eq_nil_iff.mp noShare
          simp [noSlash, eq_comm]
      · next hasShare =>
          have slash : '/' ∈ rest :=
            Decidable.not_not.mp (mt Text.dropWhile_bne_eq_nil_iff.mpr hasShare)
          simp [slash]
  · next noHost =>
      simp only [reduceCtorEq, false_iff, not_and, not_exists]
      rintro - host rfl
      exact absurd rfl (noHost host)

/-- Only a path that begins with a host and goes no further has no URI. -/
theorem ofPath_eq_error_iff (path : String) (error : LocationError) :
    ofPath path = .error error ↔
      error = .pathWithoutShare ∧ ∃ host, path.toList = '/' :: '/' :: host ∧ '/' ∉ host := by
  rw [← splitHost_eq_error_iff]
  unfold ofPath
  cases splitHost path.toList with
  | error other => simp [bind, Except.bind]
  | ok parts => simp [bind, Except.bind, pure, Except.pure]

end Uri

namespace Location

/-- A text is a path and a line with a colon between them, which is its last. -/
def IsDivided (text : String) (path line : List Char) : Prop :=
  text.toList = path ++ ':' :: line ∧ ':' ∉ line

/-- A text gives the start of a line, from one, in the file at its path. -/
inductive Gives (text : String) : Location → Prop where
  | atLine {path line : List Char} {number : Int} {uri : String} :
      IsDivided text path line → path ≠ [] →
      Text.Numeral.readDecimal line = .ok number → 1 ≤ number → number - 1 ≤ positionLimit →
      Uri.ofPath (String.ofList path) = .ok uri →
      Gives text ⟨uri, ⟨(number - 1).toNat, 0, (number - 1).toNat, 0⟩⟩

/-- What is wrong with a text that gives no location. Of several faults one counts: the line is read
before the path, and its range is looked at last. -/
inductive Refuses (text : String) : LocationError → Prop where
  | noColon : ':' ∉ text.toList → Refuses text .malformed
  | noPath {line : List Char} : IsDivided text [] line → Refuses text .malformed
  | notInteger {path line : List Char} :
      IsDivided text path line → path ≠ [] →
      Text.Numeral.readDecimal line = .error .malformed → Refuses text .lineNotInteger
  | tooLong {path line : List Char} :
      IsDivided text path line → path ≠ [] →
      Text.Numeral.readDecimal line = .error .tooLong → Refuses text .lineTooLong
  | notPositive {path line : List Char} {number : Int} :
      IsDivided text path line → path ≠ [] →
      Text.Numeral.readDecimal line = .ok number → number < 1 → Refuses text .lineNotPositive
  | noShare {host line : List Char} {number : Int} :
      IsDivided text ('/' :: '/' :: host) line → '/' ∉ host →
      Text.Numeral.readDecimal line = .ok number → 1 ≤ number → Refuses text .pathWithoutShare
  | outOfRange {path line : List Char} {number : Int} {uri : String} :
      IsDivided text path line → path ≠ [] →
      Text.Numeral.readDecimal line = .ok number → Uri.ofPath (String.ofList path) = .ok uri →
      positionLimit < number - 1 → Refuses text (.lineOutOfRange (number - 1))

theorem splitLastColon?_eq_none {text : List Char} (noColon : ':' ∉ text) :
    splitLastColon? text = none := by
  have nothing : text.reverse.dropWhile (· != ':') = [] :=
    Text.dropWhile_bne_eq_nil_iff.mpr (by simpa using noColon)
  simp [splitLastColon?, nothing]

theorem splitLastColon?_append {path line : List Char} (noColon : ':' ∉ line) :
    splitLastColon? (path ++ ':' :: line) = some (path, line) := by
  have plain : ∀ character ∈ line.reverse, (character != ':') = true := by
    intro character member
    rw [bne_iff_ne]
    rintro rfl
    exact noColon (List.mem_reverse.mp member)
  simp [splitLastColon?, List.takeWhile_append_of_pos plain, List.dropWhile_append_of_pos plain]

theorem exists_isDivided {text : String} (colon : ':' ∈ text.toList) :
    ∃ path line, IsDivided text path line := by
  -- The last colon is the first one from behind.
  rcases List.eq_append_cons_of_mem (List.mem_reverse.mpr colon) with
    ⟨behind, before, reversed, noColon⟩
  refine ⟨before.reverse, behind.reverse, ?_, by simpa using noColon⟩
  rw [← List.reverse_reverse text.toList, reversed]
  simp

variable {text : String} {path line : List Char}

/-- The line of a divided text is read first, then its path. -/
theorem ofText_of_isDivided (divided : IsDivided text path line) (hasPath : path ≠ []) :
    ofText text = (do
      let number ← readLine line
      let uri ← Uri.ofPath (String.ofList path)
      atLine uri (number - 1)) := by
  unfold ofText
  rw [divided.1, splitLastColon?_append divided.2]
  cases path with
  | nil => exact absurd rfl hasPath
  | cons first rest => rfl

theorem readLine_of_pos {number : Int} (reads : Text.Numeral.readDecimal line = .ok number)
    (positive : 1 ≤ number) : readLine line = .ok number := by
  have notLess : ¬number < 1 := by omega
  simp [readLine, reads, notLess]

theorem Gives.ofText_eq {location : Location} (gives : Gives text location) :
    ofText text = .ok location := by
  cases gives with
  | atLine divided hasPath reads positive inRange located =>
      rw [ofText_of_isDivided divided hasPath, readLine_of_pos reads positive, located]
      exact if_neg (by omega)

theorem Refuses.ofText_eq {error : LocationError} (refuses : Refuses text error) :
    ofText text = .error error := by
  cases refuses with
  | noColon noColon =>
      unfold ofText
      rw [splitLastColon?_eq_none noColon]
  | noPath divided =>
      unfold ofText
      rw [divided.1, splitLastColon?_append divided.2]
  | notInteger divided hasPath reads =>
      rw [ofText_of_isDivided divided hasPath, readLine, reads]
      rfl
  | tooLong divided hasPath reads =>
      rw [ofText_of_isDivided divided hasPath, readLine, reads]
      rfl
  | notPositive divided hasPath reads small =>
      rw [ofText_of_isDivided divided hasPath, readLine, reads]
      simp only [small, if_true]
      rfl
  | @noShare host _ _ divided noSlash reads positive =>
      have refused := (Uri.ofPath_eq_error_iff (String.ofList ('/' :: '/' :: host))
        .pathWithoutShare).mpr ⟨rfl, host, by simp, noSlash⟩
      rw [ofText_of_isDivided divided (by simp), readLine_of_pos reads positive, refused]
      rfl
  | @outOfRange _ _ number _ divided hasPath reads located beyond =>
      have positive : 1 ≤ number := by
        unfold positionLimit at beyond
        omega
      rw [ofText_of_isDivided divided hasPath, readLine_of_pos reads positive, located]
      exact if_pos beyond

/-- Every text gives a location or is refused. -/
theorem gives_or_refuses (text : String) :
    (∃ location, Gives text location) ∨ ∃ error, Refuses text error := by
  by_cases colon : ':' ∈ text.toList
  · rcases exists_isDivided colon with ⟨path, line, divided⟩
    by_cases hasPath : path = []
    · subst hasPath
      exact .inr ⟨_, .noPath divided⟩
    · cases reads : Text.Numeral.readDecimal line with
      | error refusal =>
          cases refusal with
          | malformed => exact .inr ⟨_, .notInteger divided hasPath reads⟩
          | tooLong => exact .inr ⟨_, .tooLong divided hasPath reads⟩
      | ok number =>
          by_cases positive : 1 ≤ number
          · cases located : Uri.ofPath (String.ofList path) with
            | error error =>
                rcases (Uri.ofPath_eq_error_iff _ _).mp located with ⟨-, host, isHost, noSlash⟩
                rw [String.toList_ofList] at isHost
                subst isHost
                exact .inr ⟨_, .noShare divided noSlash reads positive⟩
            | ok uri =>
                by_cases inRange : number - 1 ≤ positionLimit
                · exact .inl ⟨_, .atLine divided hasPath reads positive inRange located⟩
                · exact .inr ⟨_, .outOfRange divided hasPath reads located (by omega)⟩
          · exact .inr ⟨_, .notPositive divided hasPath reads (by omega)⟩
  · exact .inr ⟨_, .noColon colon⟩

theorem ofText_eq_ok_iff {location : Location} :
    ofText text = .ok location ↔ Gives text location := by
  constructor
  · intro reads
    rcases gives_or_refuses text with ⟨other, gives⟩ | ⟨error, refuses⟩
    · rw [gives.ofText_eq, Except.ok.injEq] at reads
      rwa [← reads]
    · rw [refuses.ofText_eq] at reads
      cases reads
  · exact Gives.ofText_eq

theorem ofText_eq_error_iff {error : LocationError} :
    ofText text = .error error ↔ Refuses text error := by
  constructor
  · intro fails
    rcases gives_or_refuses text with ⟨location, gives⟩ | ⟨other, refuses⟩
    · rw [gives.ofText_eq] at fails
      cases fails
    · rw [refuses.ofText_eq, Except.error.injEq] at fails
      rwa [← fails]
  · exact Refuses.ofText_eq

end Location

end RailsNavigator
