import RailsNavigator.Pattern.Escape
import RailsNavigator.Pattern.Group
import RailsNavigator.Text.Numeral

/-!
# Reading patterns

Patterns are written in the usual notation: alternatives, groups, sets, anchors, repetitions and
flags. The reader goes through the text with a stack of open groups. What it can only judge at the
end, such as a reference to a group that may come later, it notes on the way.
-/

namespace RailsNavigator.Pattern

/-- What has been read of a pattern. -/
structure Reader where
  /-- The innermost open group. -/
  group : Group := {}
  /-- The open groups around it, innermost first. -/
  outer : List Group := []
  /-- The number of captures opened so far. -/
  captures : Nat := 0
  /-- The captures that have names. -/
  names : List (List Char × Nat) := []
  /-- How long the matches of the closed captures are. -/
  widths : List (Nat × Width) := []
  /-- The number of captures opened before the outermost condition on what comes before. -/
  barrier : Option Nat := none
  /-- The greatest number by which a choice refers to a capture. -/
  reference : Nat := 0
  /-- Whether a condition on what comes before has no fixed length. -/
  unfixed : Bool := false
  /-- The number of characters that conditions look back at most. -/
  reach : Nat := 0
  /-- Whether something is repeated. -/
  repeats : Bool := false

namespace Reader

/-- Refuses what breaks the rules. -/
def demand {α : Type} : Option α → Except Fault α
  | some value => .ok value
  | none => .error .malformed

/-- Adds an operand to the innermost group. -/
def pushOperand (reader : Reader) (operand : Operand) : Reader :=
  { reader with group := reader.group.push operand }

/-- Adds a piece to the innermost group. -/
def push (reader : Reader) (piece : Pattern) : Reader :=
  reader.pushOperand ⟨[piece], .free⟩

/-- Adds a condition on a place. -/
def pushAnchor (reader : Reader) (condition : Anchor) : Reader :=
  reader.pushOperand ⟨[.anchor condition], .anchor⟩

/-- Adds a character. -/
def pushCharacter (reader : Reader) (value : Nat) : Reader :=
  reader.push (.one ⟨[.single value], false, reader.group.folding⟩)

/-- Opens a group. -/
def openGroup (reader : Reader) (purpose : Purpose) (flags : List Char) : Reader :=
  { reader with group := { purpose, flags }, outer := reader.group :: reader.outer }

/-- Whether a capture may be referred to where the reader stands: only closed ones may, and within a
condition on what comes before only those that were opened before it. -/
def mayReferTo (reader : Reader) (group : Nat) : Bool :=
  (reader.widths.lookup group).isSome && !reader.barrier.any (· < group)

/-- Adds a reference to a capture. -/
def referTo (reader : Reader) (group : Nat) : Except Fault Reader :=
  if reader.mayReferTo group then .ok (reader.push (.sameAs group reader.group.folding))
  else .error .malformed

/-- Reads an escape by digits that does not begin with a zero. Three octal digits stand for a
character, and one or two digits for a capture. -/
def readDigits (reader : Reader) (text : List Char) : Except Fault (Reader × List Char) := do
  let (octal, rest) := takeDigits 8 3 text
  if octal.length = 3 then
    if numberIn 8 octal ≤ octalLimit then
      return (reader.pushCharacter (numberIn 8 octal), rest)
    else throw .malformed
  else
    let (digits, rest) := takeDigits 10 2 text
    return (← reader.referTo (numberIn 10 digits), rest)

/-- Reads an escape. -/
def readEscape (reader : Reader) : List Char → Except Fault (Reader × List Char)
  | [] => .error .malformed
  | 'A' :: rest => .ok (reader.pushAnchor .start, rest)
  | 'Z' :: rest => .ok (reader.pushAnchor .textEnd, rest)
  | 'b' :: rest => .ok (reader.pushAnchor (.wordEdge reader.group.isAscii false), rest)
  | 'B' :: rest => .ok (reader.pushAnchor (.wordEdge reader.group.isAscii true), rest)
  | '0' :: rest =>
      let (digits, rest) := takeDigits 8 2 rest
      .ok (reader.pushCharacter (numberIn 8 digits), rest)
  | character :: rest =>
      match classEscape? reader.group.isAscii character with
      | some item =>
          .ok (reader.push (.one ⟨[item], false, reader.group.folding⟩), rest)
      | none =>
          if character.isDigit then reader.readDigits (character :: rest)
          else do
            let (value, rest) ← demand (characterEscape? (character :: rest))
            return (reader.pushCharacter value, rest)

/-- The number from which on repetitions cannot be counted. -/
def timesLimit : Nat := 4294967295

/-- Reads what a repetition prefers. -/
def preference : List Char → Preference × List Char
  | '?' :: rest => (.reluctant, rest)
  | '+' :: rest => (.possessive, rest)
  | text => (.greedy, text)

/-- Repeats the last operand. -/
def repeatLast (reader : Reader) (least : Nat) (most : Option Nat) (text : List Char) :
    Except Fault (Reader × List Char) :=
  match reader.group.operands with
  | ⟨pieces, .free⟩ :: operands =>
      let (preference, rest) := preference text
      let operand := ⟨[.times (ofPieces pieces) least most preference], .repeated⟩
      let group := { reader.group with operands := operand :: operands }
      .ok ({ reader with group, repeats := true }, rest)
  | _ => .error .malformed

/-- A number of times; no digits give none. -/
def timesOf (digits : List Char) : Except Fault (Option Nat) :=
  if digits.isEmpty then .ok none
  else if digits.length > Text.Numeral.digitLimit then .error .longNumber
  else if numberIn 10 digits ≥ timesLimit then .error .tooManyTimes
  else .ok (some (numberIn 10 digits))

/-- Splits bounds off that stand before a closing brace. A brace without bounds is a character. -/
def bounds? (text : List Char) : Option (List Char × List Char × List Char) :=
  let least := text.takeWhile Char.isDigit
  let (most, rest) := match text.dropWhile Char.isDigit with
    | ',' :: rest => (rest.takeWhile Char.isDigit, rest.dropWhile Char.isDigit)
    | rest => (least, rest)
  match text, rest with
  | '\x7d' :: _, _ => none
  | _, '\x7d' :: rest => some (least, most, rest)
  | _, _ => none

/-- Reads the bounds of a repetition. A backslash that ends the pattern is noticed before them. -/
def readBounds (reader : Reader) (text : List Char) : Except Fault (Reader × List Char) := do
  match bounds? text with
  | none => return (reader.pushCharacter 0x7B, text)
  | some (_, _, ['\\']) => throw .malformed
  | some (least, most, rest) =>
      let least := (← timesOf least).getD 0
      let most ← timesOf most
      if most.any (· < least) then throw .malformed
      reader.repeatLast least most rest

/-- Opens a capture. -/
def openCapture (reader : Reader) (name : Option (List Char)) : Except Fault Reader :=
  let group := reader.captures + 1
  if name.any fun name => (reader.names.lookup name).isSome then .error .malformed
  else
    let names := (name.map fun name => (name, group)).toList ++ reader.names
    .ok <| { reader with captures := group, names }.openGroup (.capture group) reader.group.flags

/-- The flags that a pattern for text may turn on. -/
def flagLetters : List Char := ['i', 'm', 's', 'x', 'a', 't', 'u']

/-- Whether flags call for classes of ASCII and of Unicode at once. -/
def areMixed (flags : List Char) : Bool :=
  flags.contains 'a' && flags.contains 'u'

/-- The flags within a group that turns some on and some off. -/
def combine (flags on off : List Char) : List Char :=
  let flags := if on.contains 'a' || on.contains 'u' then
      flags.filter fun flag => flag != 'a' && flag != 'u'
    else flags
  (flags ++ on).filter fun flag => !off.contains flag

/-- Reads flags for the whole pattern, which must come first, or for a group. -/
def readFlags (reader : Reader) (text : List Char) : Except Fault (Reader × List Char) := do
  let on := text.takeWhile flagLetters.contains
  if areMixed on then throw .malformed
  match text.dropWhile flagLetters.contains with
  | ')' :: rest =>
      if on.isEmpty || !reader.outer.isEmpty || !reader.group.alternatives.isEmpty
          || !reader.group.operands.isEmpty then
        throw .malformed
      let group := { reader.group with flags := reader.group.flags ++ on }
      return ({ reader with group }, rest)
  | ':' :: rest =>
      if on.isEmpty || on.contains 't' then throw .malformed
      return (reader.openGroup .flagged (combine reader.group.flags on []), rest)
  | '-' :: rest =>
      let off := rest.takeWhile ['i', 'm', 's', 'x'].contains
      match rest.dropWhile ['i', 'm', 's', 'x'].contains with
      | ':' :: rest =>
          if off.isEmpty || on.contains 't' || on.any off.contains then throw .malformed
          return (reader.openGroup .flagged (combine reader.group.flags on off), rest)
      | _ => throw .malformed
  | _ => throw .malformed

/-- Opens a choice by whether a capture, given by name or number, has matched. -/
def openChoice (reader : Reader) (name : List Char) : Except Fault Reader := do
  let group ←
    if Text.isIdentifier name then demand (reader.names.lookup name)
    else match Text.Numeral.readDecimal name with
      | .ok number => if number ≤ 0 then throw .malformed else pure number.toNat
      | .error _ => throw .malformed
  if reader.barrier.isSome && !reader.mayReferTo group then throw .malformed
  return { reader with reference := max reader.reference group }.openGroup (.ifKept group)
    reader.group.flags

/-- Opens a condition on what comes before. -/
def openBehind (reader : Reader) (negated : Bool) : Reader :=
  { reader with barrier := some (reader.barrier.getD reader.captures) }.openGroup
    (.look true negated reader.barrier.isNone) reader.group.flags

/-- Goes on to a character in a comment; `none` if a lone backslash ends the text. What follows a
backslash does not count. -/
def skipTo (terminator : Char) : List Char → Option (List Char)
  | [] => some []
  | ['\\'] => none
  | '\\' :: _ :: rest => skipTo terminator rest
  | character :: rest =>
      if character = terminator then some (character :: rest) else skipTo terminator rest

/-- Reads the opening of a group. -/
def readOpening (reader : Reader) : List Char → Except Fault (Reader × List Char)
  | '?' :: 'P' :: '<' :: rest => do
      let (name, rest) ← demand (name? '>' rest)
      if !Text.isIdentifier name then throw .malformed
      return (← reader.openCapture (some name), rest)
  | '?' :: 'P' :: '=' :: rest => do
      let (name, rest) ← demand (name? ')' rest)
      return (← reader.referTo (← demand (reader.names.lookup name)), rest)
  | '?' :: ':' :: rest => .ok (reader.openGroup .plain reader.group.flags, rest)
  | '?' :: '>' :: rest => .ok (reader.openGroup .atomic reader.group.flags, rest)
  | '?' :: '=' :: rest => .ok (reader.openGroup (.look false false false) reader.group.flags, rest)
  | '?' :: '!' :: rest => .ok (reader.openGroup (.look false true false) reader.group.flags, rest)
  | '?' :: '<' :: '=' :: rest => .ok (reader.openBehind false, rest)
  | '?' :: '<' :: '!' :: rest => .ok (reader.openBehind true, rest)
  | '?' :: '#' :: rest =>
      match skipTo ')' rest with
      | some (_ :: rest) => .ok (reader, rest)
      | _ => .error .malformed
  | '?' :: '(' :: rest => do
      let (name, rest) ← demand (name? ')' rest)
      return (← reader.openChoice name, rest)
  | '?' :: rest => reader.readFlags rest
  | rest => do return (← reader.openCapture none, rest)

/-- Whether the flags of the whole pattern contradict each other; they are those of the outermost
group. -/
def hasMixedFlags (reader : Reader) : Bool :=
  areMixed ((reader.outer.getLast?.getD reader.group).flags)

/-- Closes the innermost group. -/
def closeGroup (reader : Reader) : Except Fault Reader :=
  match reader.outer with
  | [] => .error (if reader.hasMixedFlags then .mixedAlphabets else .malformed)
  | outer :: rest =>
      let group := reader.group
      let width := group.pattern.width fun group => (reader.widths.lookup group).getD {}
      let closed := { reader with group := outer, outer := rest }
      .ok <| match group.purpose with
      | .plain => closed.pushOperand ⟨group.pieces, .free⟩
      | .flagged => closed.push (.seq group.pattern .empty)
      | .atomic => closed.push (.atomic group.pattern)
      | .capture number =>
          { closed with widths := (number, width) :: closed.widths }.push
            (.capture number group.pattern)
      | .look false negated _ => closed.push (.look none negated group.pattern)
      | .look true negated outermost =>
          { closed with
            barrier := if outermost then none else closed.barrier
            unfixed := closed.unfixed || width.fixed?.isNone
            reach := max closed.reach width.least }.push
            (.look (some width.least) negated group.pattern)
      | .ifKept number => closed.push <| match group.alternatives with
          | [first] => .ifKept number (ofPieces first) (ofPieces group.sequence)
          | _ => .ifKept number (ofPieces group.sequence) .empty

/-- Begins another alternative. A choice has two at most. -/
def nextAlternative (reader : Reader) : Except Fault Reader :=
  let group := reader.group
  match group.purpose, group.alternatives with
  | .ifKept _, _ :: _ => .error .malformed
  | _, _ =>
      let alternatives := group.sequence :: group.alternatives
      .ok { reader with group := { group with alternatives, operands := [] } }

/-- Whether blanks and comments are passed over. -/
def isVerbose (reader : Reader) : Bool := reader.group.flags.contains 'x'

/-- Reads on from a character. -/
def step (reader : Reader) (character : Char) (rest : List Char) :
    Except Fault (Reader × List Char) :=
  if reader.isVerbose && Text.isAsciiBlank character then .ok (reader, rest)
  else if reader.isVerbose && character == '#' then
    do return (reader, (← demand (skipTo '\n' rest)).drop 1)
  else match character with
    | '\\' => reader.readEscape rest
    | '[' => do
        let (set, rest) ← demand (set? reader.group.isAscii reader.group.folding rest)
        return (reader.push (.one set), rest)
    | '(' => reader.readOpening rest
    | ')' => do return (← reader.closeGroup, rest)
    | '|' => do return (← reader.nextAlternative, rest)
    | '.' =>
        let items := if reader.group.flags.contains 's' then [] else [.single 0x0A]
        .ok (reader.push (.one ⟨items, true, .exact⟩), rest)
    | '^' =>
        let place := if reader.group.flags.contains 'm' then .lineStart else .start
        .ok (reader.pushAnchor place, rest)
    | '$' =>
        let place := if reader.group.flags.contains 'm' then .lineFinish else .finish
        .ok (reader.pushAnchor place, rest)
    | '*' => reader.repeatLast 0 none rest
    | '+' => reader.repeatLast 1 none rest
    | '?' => reader.repeatLast 0 (some 1) rest
    | '\x7b' => reader.readBounds rest
    | _ => .ok (reader.pushCharacter character.toNat, rest)

/-- Reads a text in at most `bound` steps. -/
def readAll : (bound : Nat) → Reader → List Char → Except Fault Reader
  | _, reader, [] => .ok reader
  | 0, _, _ => .error .malformed
  | bound + 1, reader, character :: rest => do
      let (reader, rest) ← reader.step character rest
      readAll bound reader rest

/-- The set that the first character of a match belongs to, if a set comes first. -/
def firstSet? : Pattern → Option CharSet
  | .one set => some set
  | .seq first _ | .capture _ first => firstSet? first
  | _ => none

/-- A part of a set with classes of the given alphabet, if it has others. -/
def inAlphabet? (ascii : Bool) : SetItem → Option SetItem
  | .named charClass other negated =>
      if other = ascii then none else some (.named charClass ascii negated)
  | _ => none

/-- A pattern, kept to the places where it is looked for. If a set comes first and lists nothing
that has another case, it must hold the character there also with the classes of the alphabet that
the whole pattern has. -/
def atStartingPlaces (ascii : Bool) (pattern : Pattern) : Pattern :=
  match firstSet? pattern with
  | none => pattern
  | some set =>
      if set.items.all (fun item => (inAlphabet? ascii item).isNone)
          || set.items.any (·.isCased set.folding) then
        pattern
      else
        let items := set.items.map fun item => (inAlphabet? ascii item).getD item
        .seq (.look none false (.one ⟨items, set.negated, .exact⟩)) pattern

/-- The number of characters from which on conditions cannot look back. -/
def reachLimit : Nat := 2147483648

/-- The pattern that has been read when the text ends. -/
def finish (reader : Reader) : Except Fault Pattern :=
  if !reader.outer.isEmpty then .error .malformed
  else if reader.hasMixedFlags then .error .mixedAlphabets
  else if reader.captures < reader.reference || reader.unfixed
      || (reader.repeats && reader.group.flags.contains 't') then
    .error .malformed
  else if reachLimit ≤ reader.reach then .error .tooFarBack
  else .ok (atStartingPlaces reader.group.isAscii reader.group.pattern)

end Reader

/-- The pattern that a text is written for. Each step of the reader reads a character at least. -/
def ofText (text : String) : Except Fault Pattern := do
  (← Reader.readAll text.length {} text.toList).finish

end RailsNavigator.Pattern
