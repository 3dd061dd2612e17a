import RailsNavigator.Proofs.Location
import RailsNavigator.Proofs.Text.Numeral
import RailsNavigator.Proofs.Text.Utf8
import RailsNavigator.Uri

/-!
# Paths are read back from URIs

Writing a text as part of a URI loses nothing: every byte is decoded again, and no character that
divides the parts of a URI or that is passed over is ever written. So a path that begins with one
slash and with no drive is the path of its own URI, whatever characters it has. A location that is
written as such a path and a line is therefore read as just this path and this line.
-/

namespace RailsNavigator

namespace Uri

section Bytes

/-- Whether a character is taken for itself wherever it stands in the path of a URI: it neither ends
the path nor is passed over. -/
def isTaken (character : Char) : Bool :=
  0x20 < character.toNat && character != '#' && character != '?'

/-- What has been checked for every number below 256 holds of every byte. -/
theorem of_checked (check : UInt8 → Bool)
    (checked : ((List.range 256).all fun value => check (UInt8.ofNat value)) = true)
    (byte : UInt8) : check byte = true := by
  have holds := List.all_eq_true.mp checked byte.toNat (List.mem_range.mpr byte.toNat_lt)
  rwa [UInt8.ofNat_toNat] at holds

theorem isTaken_of_mem_encodeByte {byte : UInt8} {character : Char}
    (member : character ∈ encodeByte byte) : isTaken character = true := by
  have all := of_checked (fun byte => (encodeByte byte).all isTaken) (by decide +kernel) byte
  exact List.all_eq_true.mp all character member

theorem isTaken_of_mem_encode {text : List Char} {character : Char}
    (member : character ∈ encode text) : isTaken character = true := by
  rcases List.mem_flatMap.mp member with ⟨byte, -, written⟩
  exact isTaken_of_mem_encodeByte written

theorem encodeChar_of_isPlain {byte : UInt8} (plain : isPlain byte = true) :
    Text.Utf8.encodeChar (Char.ofNat byte.toNat) = [byte] ∧ Char.ofNat byte.toNat ≠ '%' := by
  have checked := of_checked (fun byte => !isPlain byte
    || Text.Utf8.encodeChar (Char.ofNat byte.toNat) == [byte] && Char.ofNat byte.toNat != '%')
    (by decide +kernel) byte
  simpa [plain] using checked

theorem asciiDigit?_hexDigit : ∀ value < 16,
    Text.asciiDigit? 16 (hexDigit value) = some value := by
  decide

theorem decodeBytes_cons {character : Char} (notEscape : character ≠ '%') (rest : List Char) :
    decodeBytes (character :: rest) = Text.Utf8.encodeChar character ++ decodeBytes rest := by
  rw [decodeBytes]
  rintro high low more ⟨⟩
  exact absurd rfl notEscape

theorem decodeBytes_encodeByte_append (byte : UInt8) (rest : List Char) :
    decodeBytes (encodeByte byte ++ rest) = byte :: decodeBytes rest := by
  unfold encodeByte
  split
  case isTrue plain =>
    rcases encodeChar_of_isPlain plain with ⟨itself, notEscape⟩
    rw [List.singleton_append, decodeBytes_cons notEscape, itself, List.singleton_append]
  case isFalse =>
    have small := byte.toNat_lt
    have high := asciiDigit?_hexDigit (byte.toNat / 16) (by omega)
    have low := asciiDigit?_hexDigit (byte.toNat % 16) (by omega)
    have whole : byte.toNat / 16 * 16 + byte.toNat % 16 = byte.toNat := Nat.div_add_mod' _ _
    simp only [List.cons_append, List.nil_append, decodeBytes, high, low, whole,
      UInt8.ofNat_toNat]

theorem decodeBytes_flatMap_encodeByte (bytes : List UInt8) :
    decodeBytes (bytes.flatMap encodeByte) = bytes := by
  induction bytes with
  | nil => rfl
  | cons byte rest hypothesis =>
      rw [List.flatMap_cons, decodeBytes_encodeByte_append, hypothesis]

theorem decode_encode (text : List Char) : decode (encode text) = text := by
  rw [decode, encode, decodeBytes_flatMap_encodeByte, Text.Utf8.decodeLossy_encode]

theorem encode_slash (rest : List Char) : encode ('/' :: rest) = '/' :: encode rest := rfl

theorem decode_slash (rest : List Char) : decode ('/' :: rest) = '/' :: decode rest := rfl

/-- A text that does not begin with a slash is not written with one at its start. -/
theorem head?_encode_ne_slash {text : List Char} (noSlash : text.head? ≠ some '/') :
    (encode text).head? ≠ some '/' := by
  intro slash
  rcases List.head?_eq_some_iff.mp slash with ⟨rest, written⟩
  have read := decode_encode text
  rw [written, decode_slash] at read
  rw [← read] at noSlash
  exact noSlash rfl

end Bytes

/-- A path begins with one slash, and with no letter of a drive behind it. -/
structure IsRooted (path : String) : Prop where
  slash : path.toList.head? = some '/'
  single : path.toList.tail.head? ≠ some '/'
  noDrive : ∀ letter rest, path.toList = '/' :: letter :: ':' :: rest → letter.isAlpha = false

namespace IsRooted

variable {path : String}

theorem exists_eq_cons (rooted : IsRooted path) :
    ∃ rest, path.toList = '/' :: rest ∧ rest.head? ≠ some '/' := by
  rcases List.head?_eq_some_iff.mp rooted.slash with ⟨rest, isCons⟩
  have single := rooted.single
  rw [isCons] at single
  exact ⟨rest, isCons, single⟩

theorem drive?_eq_none (rooted : IsRooted path) : drive? path.toList = none := by
  unfold drive?
  split
  · next letter rest isDrive => simp [rooted.noDrive letter rest isDrive]
  · rfl

theorem splitHost_eq (rooted : IsRooted path) :
    splitHost path.toList = .ok ([], path.toList) := by
  unfold splitHost
  split
  · next rest hasHost =>
      have single := rooted.single
      rw [hasHost] at single
      exact absurd rfl single
  · rfl

theorem ofPath_eq (rooted : IsRooted path) :
    ofPath path = .ok ("file://" ++ String.ofList (encode path.toList)) := by
  rcases rooted.exists_eq_cons with ⟨rest, isCons, single⟩
  -- A path that is written with two slashes would be taken for a host.
  have oneSlash : ['/', '/'].isPrefixOf (encode path.toList) = false := by
    have other := head?_encode_ne_slash single
    rw [isCons, encode_slash, List.isPrefixOf_cons_cons, beq_self_eq_true, Bool.true_and]
    cases written : encode rest with
    | nil => rfl
    | cons first more =>
        have different : '/' ≠ first := by
          rintro rfl
          exact other (congrArg List.head? written)
        simp [List.isPrefixOf, different]
  unfold ofPath
  rw [rooted.splitHost_eq]
  simp only [bind, Except.bind, rooted.slash, if_true, rooted.drive?_eq_none, oneSlash]
  rfl

end IsRooted

section Reading

variable {written : List Char}

/-- Nothing of a URI is passed over if every character of its path is taken for itself. -/
theorem significant_file (taken : ∀ character ∈ written, isTaken character = true) :
    significant ("file://" ++ String.ofList written) = "file://".toList ++ written := by
  have kept : ∀ character ∈ written,
      (character != '\t' && character != '\r' && character != '\n') = true := by
    intro character member
    have visible := taken character member
    simp only [isTaken, Bool.and_eq_true, decide_eq_true_eq] at visible
    simp only [Bool.and_eq_true, bne_iff_ne]
    refine ⟨⟨?_, ?_⟩, ?_⟩ <;> rintro rfl <;> simp at visible
  rw [significant, String.toList_append, String.toList_ofList (l := written)]
  change ("file://".toList ++ written).filter _ = _
  rw [List.filter_append, List.filter_eq_self.mpr kept]
  rfl

theorem splitAuthority_slash (rest : List Char) :
    splitAuthority ('/' :: '/' :: '/' :: rest) = ([], '/' :: rest) := rfl

theorem takeWhile_eq_self (taken : ∀ character ∈ written, isTaken character = true) :
    (written.takeWhile (· != '#')).takeWhile (· != '?') = written := by
  have noFragment : ∀ character ∈ written, (character != '#') = true := by
    intro character member
    have visible := taken character member
    simp only [isTaken, Bool.and_eq_true] at visible
    exact visible.1.2
  have noQuery : ∀ character ∈ written, (character != '?') = true := by
    intro character member
    have visible := taken character member
    simp only [isTaken, Bool.and_eq_true] at visible
    exact visible.2
  rw [List.takeWhile_eq_self_iff.mpr noFragment, List.takeWhile_eq_self_iff.mpr noQuery]

theorem split_file {rest : List Char} (isCons : written = '/' :: rest)
    (taken : ∀ character ∈ written, isTaken character = true) :
    split ("file://" ++ String.ofList written) = .ok ⟨some "file".toList, [], decode written⟩ := by
  have scheme : splitScheme ("file://".toList ++ written)
      = (some "file".toList, '/' :: '/' :: written) := rfl
  unfold split
  rw [significant_file taken, scheme]
  simp only [isCons, splitAuthority_slash]
  rw [← isCons, takeWhile_eq_self taken]
  rfl

end Reading

theorem IsRooted.path?_eq {path : String} (rooted : IsRooted path) :
    path? ("file://" ++ String.ofList (encode path.toList)) = pure (some path) := by
  rcases rooted.exists_eq_cons with ⟨rest, isCons, -⟩
  have written : encode path.toList = '/' :: encode rest := by rw [isCons, encode_slash]
  have parts := split_file written fun _ => isTaken_of_mem_encode
  rw [decode_encode] at parts
  have isPath : Parts.toPath ⟨some "file".toList, [], path.toList⟩ = path := by
    simp [Parts.toPath, rooted.drive?_eq_none]
  simp only [path?, parts, isPath]
  rfl

end Uri

namespace Location

/-- A path and a line, from one, as the runner writes them. -/
def written (path : String) (line : Nat) : String :=
  path ++ ":" ++ toString line

theorem isDivided_written (path : String) (line : Nat) :
    IsDivided (written path line) path.toList (Nat.toDigits 10 line) := by
  constructor
  · simp [written, Nat.repr]
  · intro colon
    have isDigit := Nat.isDigit_of_mem_toDigits (by decide) (by decide) colon
    simp at isDigit

theorem ofText_written_eq {path : String} {line : Nat} (rooted : Uri.IsRooted path)
    (positive : 1 ≤ line) (inRange : line ≤ 2147483648) :
    ofText (written path line) = .ok ⟨"file://" ++ String.ofList (Uri.encode path.toList),
      ⟨line - 1, 0, line - 1, 0⟩⟩ := by
  have hasPath : path.toList ≠ [] := by
    intro empty
    simpa [empty] using rooted.slash
  have short : line < 10 ^ Text.Numeral.digitLimit := calc
    line ≤ 2147483648 := inRange
    _ < 10 ^ 10 := by decide
    _ ≤ 10 ^ Text.Numeral.digitLimit := Nat.pow_le_pow_right (by decide) (by decide)
  have located := rooted.ofPath_eq
  rw [← String.ofList_toList (s := path), String.toList_ofList] at located
  have gives := Gives.atLine (isDivided_written path line) hasPath
    (Text.Numeral.readDecimal_toDigits short) (by omega) (by unfold positionLimit; omega) located
  have fromZero : ((line : Int) - 1).toNat = line - 1 := by omega
  rw [gives.ofText_eq, fromZero]

/-- A location that is written as a rooted path and a line is read, its URI is that of the same
path, and its range is the start of the same line. No other path or line gives this location. -/
theorem ofText_written {path : String} {line : Nat} (rooted : Uri.IsRooted path)
    (positive : 1 ≤ line) (inRange : line ≤ 2147483648) :
    ∃ location, ofText (written path line) = .ok location ∧
      Uri.path? location.uri = pure (some path) ∧
      location.range = ⟨line - 1, 0, line - 1, 0⟩ ∧
      ∀ otherPath otherLine, Uri.IsRooted otherPath → 1 ≤ otherLine → otherLine ≤ 2147483648 →
        ofText (written otherPath otherLine) = .ok location →
        otherPath = path ∧ otherLine = line := by
  refine ⟨_, ofText_written_eq rooted positive inRange, rooted.path?_eq, rfl, ?_⟩
  intro otherPath otherLine otherRooted otherPositive otherInRange same
  rw [ofText_written_eq otherRooted otherPositive otherInRange, Except.ok.injEq,
    Location.mk.injEq, Span.mk.injEq] at same
  rcases same with ⟨sameUri, sameLine, -⟩
  constructor
  · have samePath := otherRooted.path?_eq
    rw [sameUri, rooted.path?_eq] at samePath
    exact Option.some.inj (congrArg Traced.value samePath).symm
  · omega

theorem ofText_written_awkward :
    Uri.IsRooted "/é:a?b#c%41/ \t\n:𝒳.rb" ∧
      ∃ location, ofText "/é:a?b#c%41/ \t\n:𝒳.rb:2147483648" = .ok location ∧
        Uri.path? location.uri = pure (some "/é:a?b#c%41/ \t\n:𝒳.rb") ∧
        location.range = ⟨2147483647, 0, 2147483647, 0⟩ := by
  have rooted : Uri.IsRooted "/é:a?b#c%41/ \t\n:𝒳.rb" := by
    refine ⟨by decide, by decide, ?_⟩
    intro letter rest isDrive
    rw [String.toList_ofList, List.cons.injEq, List.cons.injEq] at isDrive
    rw [← isDrive.2.1]
    decide
  have text : written "/é:a?b#c%41/ \t\n:𝒳.rb" 2147483648
      = "/é:a?b#c%41/ \t\n:𝒳.rb:2147483648" := by
    cbv
  rcases ofText_written rooted (by decide : 1 ≤ 2147483648) (by decide) with
    ⟨location, reads, isPath, atLine, -⟩
  exact ⟨rooted, location, text ▸ reads, isPath, atLine⟩

end Location

end RailsNavigator
