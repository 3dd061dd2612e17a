import RailsNavigator.Proofs.Json.Printer
import RailsNavigator.Proofs.Runner.Stream
import RailsNavigator.Proofs.Text.Numeral

/-!
# Frames that are written can be read

A message is written as a header, which gives the length of the body in decimal, and the body, which
may hold anything. The main result of this file is that messages written one after another are read
back one after another, whatever follows them and however the output is divided, and that exactly
what follows them is left. It rests on JSON texts being read as the values they were written for.
-/

namespace RailsNavigator.Runner

namespace Frame

open Text

/-- Before the first carriage return there is no blank line. -/
theorem isHeader_append_blankLine {start : List UInt8} (unbroken : 13 ∉ start) :
    IsHeader (start ++ blankLine) := by
  refine ⟨List.suffix_append start blankLine, ?_⟩
  rintro shorter ⟨rest, whole⟩ ⟨earlier, rfl⟩
  -- A blank line begins with a carriage return, and the first one stands after `start`.
  have place : (start ++ blankLine)[earlier.length]? = some 13 := by
    rw [← whole]
    simp [blankLine]
  have late : start.length ≤ earlier.length := by
    by_contra early
    rw [List.getElem?_append_left (by omega)] at place
    exact unbroken (List.mem_of_getElem? place)
  have lengths := congrArg List.length whole
  simp only [List.length_append] at lengths
  have nothing : rest = [] := List.length_eq_zero_iff.mp (by omega)
  rw [← whole, nothing, List.append_nil]

theorem headerText_encode {text : List Char} (isAscii : IsAscii text) :
    headerText (Utf8.encode text) = text := by
  rw [Utf8.encode_eq_map isAscii, headerText, List.map_map]
  refine (List.map_congr_left fun character member => ?_).trans (List.map_id' text)
  have value := toNat_ofNat_of_isAscii (isAscii character member)
  have small : UInt8.ofNat character.toNat < 0x80 := by
    rw [UInt8.lt_iff_toNat_lt, value]
    exact isAscii character member
  simp only [Function.comp_apply, if_pos small, value, Char.ofNat_toNat]

/-- A line ends with the first carriage return before a line feed. -/
theorem linesFrom_append {text : List Char} (unbroken : '\r' ∉ text) (line rest : List Char) :
    linesFrom line (text ++ '\r' :: '\n' :: rest)
      = (line.reverse ++ text) :: linesFrom [] rest := by
  induction text generalizing line with
  | nil => simp [linesFrom]
  | cons first text hypothesis =>
      simp only [List.mem_cons, not_or] at unbroken
      have notBreak : first ≠ '\r' := Ne.symm unbroken.1
      rw [List.cons_append, linesFrom, hypothesis unbroken.2]
      · simp
      · intro others isBreak
        exact absurd isBreak notBreak

/-- The line of a header that gives the length of the body. -/
def lengthLine (length : Nat) : List Char :=
  "Content-Length: ".toList ++ Nat.toDigits 10 length

theorem isDigit_of_mem_toDigits {length : Nat} {character : Char}
    (member : character ∈ Nat.toDigits 10 length) : character.isDigit = true :=
  Nat.isDigit_of_mem_toDigits (by decide) (by decide) member

theorem isAscii_lengthLine (length : Nat) : IsAscii (lengthLine length) :=
  isAscii_append.mpr ⟨by simp [IsAscii], isAscii_toDigits length⟩

theorem return_notMem_lengthLine (length : Nat) : '\r' ∉ lengthLine length := by
  intro member
  rcases List.mem_append.mp member with inName | inDigits
  · simp at inName
  · simpa using isDigit_of_mem_toDigits inDigits

theorem lengthField?_lengthLine (length : Nat) :
    lengthField? (lengthLine length) = some (' ' :: Nat.toDigits 10 length) := by
  have parts : lengthLine length
      = "Content-Length".toList ++ ':' :: ' ' :: Nat.toDigits 10 length := rfl
  have inName : ∀ character ∈ "Content-Length".toList, decide (character ≠ ':') = true :=
    List.all_eq_true.mp (by decide)
  have known : (trim isBlank ("Content-Length".toList ++ [])).map Char.toLower
      = "content-length".toList := by
    decide
  rw [lengthField?, parts, List.takeWhile_append_of_pos inName,
    List.dropWhile_append_of_pos inName, List.takeWhile_cons_of_neg (by decide),
    List.dropWhile_cons_of_neg (by decide)]
  exact if_pos known

theorem readLength_toDigits {length : Nat} (short : length < 10 ^ Numeral.digitLimit) :
    readLength (' ' :: Nat.toDigits 10 length) = .ok length := by
  have unblank : ∀ character ∈ Nat.toDigits 10 length, isBlank character = false :=
    fun character member => isBlank_of_isDigit (isDigit_of_mem_toDigits member)
  have trimmed : trim isBlank (' ' :: Nat.toDigits 10 length) = Nat.toDigits 10 length := by
    have space : isBlank ' ' = true := by decide
    rw [trim, List.dropWhile_cons_of_pos space]
    exact trim_eq_self unblank
  rw [readLength, trimmed, Numeral.readDecimal_toDigits short]

/-- The header of a message whose body has a given length. -/
def headerOf (length : Nat) : List Char :=
  lengthLine length ++ ['\r', '\n', '\r', '\n']

theorem bodyLength_headerOf {length : Nat} (short : length < 10 ^ Numeral.digitLimit) :
    bodyLength (headerOf length) = .ok length := by
  have inLines : lines (headerOf length) = [lengthLine length, [], []] := by
    rw [lines, headerOf, linesFrom_append (return_notMem_lengthLine length)]
    rfl
  have noField : lengthField? [] = none := by decide
  simp only [bodyLength, inLines, List.filterMap_cons, List.filterMap_nil,
    lengthField?_lengthLine, noField, List.mapM_cons, List.mapM_nil, readLength_toDigits short]
  rfl

theorem isHeader_headerOf (length : Nat) : IsHeader (Utf8.encode (headerOf length)) := by
  have start := Utf8.encode_eq_map (isAscii_lengthLine length)
  have parts : Utf8.encode (headerOf length) = Utf8.encode (lengthLine length) ++ blankLine := by
    simp only [headerOf, Utf8.encode, List.flatMap_append]
    rfl
  rw [parts]
  apply isHeader_append_blankLine
  rw [start]
  intro member
  rcases List.mem_map.mp member with ⟨character, characterMem, isReturn⟩
  have value := toNat_ofNat_of_isAscii (isAscii_lengthLine length character characterMem)
  rw [isReturn] at value
  have same : character = '\r' := Char.toNat_inj.mp value.symm
  exact return_notMem_lengthLine length (same ▸ characterMem)

/-- A message that can be read back: its JSON text is read as the object for which it was written,
and the length of this text is within the limit for numerals, as that of every text in memory is. -/
structure Readable (fields : List (String × Json)) : Prop where
  read_write : Json.read (Json.object fields).write = .ok (.object fields)
  short : (Utf8.encode (Json.object fields).write).length < 10 ^ Numeral.digitLimit

/-- The frame of a message. -/
def Readable.frame {fields : List (String × Json)} (readable : Readable fields) : Whole where
  header := Utf8.encode (headerOf (Utf8.encode (Json.object fields).write).length)
  body := Utf8.encode (Json.object fields).write
  length := (Utf8.encode (Json.object fields).write).length
  fields := fields
  isHeader := isHeader_headerOf _
  bodyLength_eq := by
    rw [headerText_encode]
    · exact bodyLength_headerOf readable.short
    · exact isAscii_append.mpr ⟨isAscii_lengthLine _, by simp [IsAscii]⟩
  length_body := by simp
  readBody_eq := by simp only [readBody, Json.decode?_encode_write, readable.read_write]

theorem Readable.bytes_frame {fields : List (String × Json)} (readable : Readable fields) :
    readable.frame.bytes = Utf8.encode (write (.object fields)) := by
  have parts : write (.object fields)
      = headerOf (Utf8.encode (Json.object fields).write).length
          ++ (Json.object fields).write := rfl
  rw [parts]
  exact List.flatMap_append.symm

/-- Messages that can be read back are whole frames. -/
theorem exists_frames {messages : List (List (String × Json))}
    (readable : ∀ fields ∈ messages, Readable fields) :
    ∃ frames : List Whole, frames.map (·.fields) = messages ∧
      frames.flatMap Whole.bytes
        = messages.flatMap fun fields => Utf8.encode (write (.object fields)) := by
  induction messages with
  | nil => exact ⟨[], rfl, rfl⟩
  | cons fields messages hypothesis =>
      have first := readable fields List.mem_cons_self
      rcases hypothesis fun other member => readable other (List.mem_cons_of_mem _ member) with
        ⟨frames, sameFields, sameBytes⟩
      refine ⟨first.frame :: frames, ?_, ?_⟩
      · rw [List.map_cons, sameFields]
        rfl
      · rw [List.flatMap_cons, List.flatMap_cons, sameBytes, first.bytes_frame]

end Frame

namespace Host

/-- Reads frames one after another, up to the first that cannot be read. -/
def receiveEach (timeout : Float) :
    Nat → Host → Except TransportError (List (List (String × Json))) × Host
  | 0, host => (.ok [], host)
  | count + 1, host =>
      match host.receive timeout with
      | (.error error, later) => (.error error, later)
      | (.ok fields, later) =>
          match receiveEach timeout count later with
          | (.error error, last) => (.error error, last)
          | (.ok others, last) => (.ok (fields :: others), last)

/-- Whole frames at the head of the stream are received, and nothing more is read. -/
theorem receiveEach_frames {frames : List Frame.Whole} {rest : List UInt8} {host : Host}
    {timeout : Float} (arrives : host.stream = frames.flatMap Frame.Whole.bytes ++ rest)
    (inTime : (host.receiveEach timeout frames.length).1 ≠ .error .timeout ∨
      host.IsPrompt (host.clock + timeout)) :
    ∃ later, host.receiveEach timeout frames.length = (.ok (frames.map (·.fields)), later) ∧
      later.stream = rest := by
  induction frames generalizing host with
  | nil => exact ⟨host, rfl, arrives⟩
  | cons frame frames hypothesis =>
      rw [List.flatMap_cons, List.append_assoc] at arrives
      have atHead : frame.bytes <+: host.stream := arrives ▸ List.prefix_append _ _
      have outcome := host.outcome_receive timeout
      simp only [List.length_cons, receiveEach] at inTime ⊢
      generalize host.receive timeout = result at outcome inTime ⊢
      cases outcome with
      | late hasRead isLate lacks =>
          rcases inTime with notLate | isPrompt
          · exact absurd rfl notLate
          · rw [isPrompt.stream_eq_of_isLate hasRead isLate] at atHead
            exact absurd atHead ((lacks_fieldsOfFrame_iff _).mp lacks frame)
      | failed _ _ lacks => exact absurd atHead ((lacks_fieldsOfFrame_iff _).mp lacks frame)
      | @complete bytes fields later hasRead isWanted =>
          rcases isWanted with ⟨taken, rfl, rfl⟩
          have next := hasRead.stream_eq
          rw [arrives] at next
          obtain rfl := Frame.Whole.eq_of_append_eq next
          have arrivesLater := (List.append_cancel_left next).symm
          have inTimeLater : (later.receiveEach timeout frames.length).1 ≠ .error .timeout ∨
              later.IsPrompt (later.clock + timeout) := by
            rcases inTime with notLate | isPrompt
            · left
              intro late
              apply notLate
              rcases others : later.receiveEach timeout frames.length with ⟨result, last⟩
              simp only [others] at late ⊢
              rw [late]
            · right
              rcases isPrompt.after frame.bytes.length with ⟨laterPrompt, sameClock⟩
              rwa [hasRead.later_eq, sameClock]
          rcases hypothesis arrivesLater inTimeLater with ⟨last, others, left⟩
          exact ⟨last, by simp only [others, List.map_cons], left⟩

/-- Messages that were written one after another are read back in order, and exactly what follows
them is left, however the output is divided and whatever the messages hold, unless the time for one
of them runs out. It does not if the output comes without pauses. -/
theorem receiveEach_written {messages : List (List (String × Json))} {rest : List UInt8}
    {host : Host} {timeout : Float} (readable : ∀ fields ∈ messages, Frame.Readable fields)
    (arrives : host.stream
      = messages.flatMap (fun fields => Text.Utf8.encode (Frame.write (.object fields))) ++ rest)
    (inTime : (host.receiveEach timeout messages.length).1 ≠ .error .timeout ∨
      host.IsPrompt (host.clock + timeout)) :
    ∃ later, host.receiveEach timeout messages.length = (.ok messages, later) ∧
      later.stream = rest := by
  rcases Frame.exists_frames readable with ⟨frames, rfl, sameBytes⟩
  rw [← sameBytes] at arrives
  rw [List.length_map] at inTime ⊢
  exact receiveEach_frames arrives inTime

/-- Two messages, the first with what looks like a frame in it. -/
def deceptiveMessages : List (List (String × Json)) :=
  [[("result", .string "\r\n\r\nContent-Length: 2\r\n\r\n\x7b\x7d")], [("error", .null)]]

/-- A runner that has written them, and one more byte, in pieces that end within header and body. -/
def deceptiveHost : Host :=
  let written := deceptiveMessages.flatMap fun fields =>
    Text.Utf8.encode (Frame.write (.object fields))
  { output := [.bytes (written.take 7), .bytes ((written.drop 7).take 50),
      .bytes (written.drop 57 ++ [13]), .eof] }

theorem receiveEach_written_deceptive :
    ∃ later, deceptiveHost.receiveEach 5 2 = (.ok deceptiveMessages, later) ∧
      later.stream = [13] := by
  have readable : ∀ fields ∈ deceptiveMessages, Frame.Readable fields := by
    simp only [deceptiveMessages, List.forall_mem_cons, List.not_mem_nil, false_imp_iff,
      implies_true, and_true]
    exact ⟨⟨by rfl, by decide +kernel⟩, ⟨by rfl, by decide +kernel⟩⟩
  have isPrompt : deceptiveHost.IsPrompt (deceptiveHost.clock + 5) :=
    ⟨by decide +kernel, by simp [deceptiveHost]⟩
  exact @receiveEach_written deceptiveMessages [13] deceptiveHost 5 readable (by decide +kernel)
    (Or.inr isPrompt)

end Host

end RailsNavigator.Runner
