import RailsNavigator.Pattern.Basic

/-!
# Searching

Where patterns match. A pattern is matched together with what follows it: of the ways in which it
can match, the first one counts with which the rest succeeds. Conditions and atomic parts are
matched with nothing following, and so keep to their first way.
-/

namespace RailsNavigator.Pattern

/-- How far a match has got, and where captures, by number, were opened and closed the last time. -/
structure Progress where
  place : Nat
  opened : List (Nat × Nat) := []
  closed : List (Nat × Nat) := []
  deriving DecidableEq, Repr

namespace Progress

/-- Goes on to another place. -/
def goTo (progress : Progress) (place : Nat) : Progress :=
  { progress with place }

/-- Opens a capture here. -/
def openCapture (progress : Progress) (group : Nat) : Progress :=
  { progress with
    opened := (group, progress.place) :: progress.opened.filter (·.1 != group) }

/-- Closes a capture here. -/
def closeCapture (progress : Progress) (group : Nat) : Progress :=
  { progress with
    closed := (group, progress.place) :: progress.closed.filter (·.1 != group) }

/-- The ends of a match that was kept. A capture that is open again counts only if it was closed no
earlier than where it begins now. -/
def kept? (progress : Progress) (group : Nat) : Option (Nat × Nat) := do
  let start ← progress.opened.lookup group
  let finish ← progress.closed.lookup group
  if start ≤ finish then some (start, finish) else none

end Progress

/-- What is left to do after a match. -/
abbrev Rest := Progress → Option Progress

/-- Whether the character at a place belongs to a word. -/
def inWordAt (text : Array Char) (ascii : Bool) (place : Nat) : Bool :=
  text[place]?.any fun character =>
    if ascii then CharClass.word.containsAscii character else CharClass.word.contains character

/-- Whether a place satisfies a condition. In an empty text there is no edge of a word and nothing
else either. -/
def Anchor.holds (text : Array Char) (place : Nat) : Anchor → Bool
  | start => place == 0
  | lineStart => place == 0 || text[place - 1]? == some '\n'
  | finish => place == text.size || (place + 1 == text.size && text[place]? == some '\n')
  | lineFinish => place == text.size || text[place]? == some '\n'
  | textEnd => place == text.size
  | wordEdge ascii negated =>
      !text.isEmpty
        && ((place != 0 && inWordAt text ascii (place - 1)) != inWordAt text ascii place) != negated

/-- Repeats a step, after it was done `count` times, and does the rest. Beyond the least number of
times a step is not repeated where the one before it began, so `bound` rounds are enough. -/
def repeated (step : Progress → Rest → Option Progress) (least : Nat) (most : Option Nat)
    (reluctant : Bool) (rest : Rest) : (bound count : Nat) → (last : Option Nat) → Rest
  | 0, _, _, _ => none
  | bound + 1, count, last, progress =>
      if count < least then
        step progress (repeated step least most reluctant rest bound (count + 1) last)
      else
        let again (_ : Unit) : Option Progress :=
          if most.any (· ≤ count) || last == some progress.place then none
          else step progress
            (repeated step least most reluctant rest bound (count + 1) (some progress.place))
        if reluctant then (rest progress).orElse again
        else (again ()).orElse fun _ => rest progress

/-- Repeats a step as often as possible, each time in the first way that it can be done. -/
def exhausted (step : Rest) (least : Nat) (most : Option Nat) :
    (bound count : Nat) → (last : Option Nat) → Rest
  | 0, _, _, _ => none
  | bound + 1, count, last, progress =>
      if count < least then
        (step progress).bind (exhausted step least most bound (count + 1) last)
      else if most.any (· ≤ count) || last == some progress.place then some progress
      else match step progress with
        | none => some progress
        | some later => exhausted step least most bound (count + 1) (some progress.place) later

/-- Whether the characters from two places on are the same, as many as given. -/
def sameFrom (text : Array Char) (folding : Folding) (first second : Nat) : Nat → Bool
  | 0 => true
  | count + 1 =>
      match text[first]?, text[second]? with
      | some left, some right =>
          folding.small left.toNat == folding.small right.toNat
            && sameFrom text folding (first + 1) (second + 1) count
      | _, _ => false

/-- The first way to match a pattern such that the rest succeeds. -/
def run (text : Array Char) : Pattern → Progress → Rest → Option Progress
  | empty, progress, rest => rest progress
  | one set, progress, rest =>
      if text[progress.place]?.any set.contains then rest (progress.goTo (progress.place + 1))
      else none
  | anchor condition, progress, rest =>
      if condition.holds text progress.place then rest progress else none
  | seq first second, progress, rest =>
      run text first progress fun later => run text second later rest
  | alt first second, progress, rest =>
      (run text first progress rest).orElse fun _ => run text second progress rest
  | times body least most preference, progress, rest =>
      let bound := text.size + least + 3
      if preference = .possessive then
        (exhausted (fun progress => run text body progress some) least most bound 0 none
          progress).bind rest
      else
        repeated (run text body) least most (preference == .reluctant) rest bound 0 none progress
  | look behind negated body, progress, rest =>
      let found := if progress.place < behind.getD 0 then none
        else run text body (progress.goTo (progress.place - behind.getD 0)) some
      match found, negated with
      | some later, false => rest (later.goTo progress.place)
      | none, true => rest progress
      | _, _ => none
  | atomic body, progress, rest => (run text body progress some).bind rest
  | capture group body, progress, rest =>
      run text body (progress.openCapture group) fun later => rest (later.closeCapture group)
  | sameAs group folding, progress, rest =>
      match progress.kept? group with
      | none => none
      | some (start, finish) =>
          if sameFrom text folding start progress.place (finish - start) then
            rest (progress.goTo (progress.place + (finish - start)))
          else none
  | ifKept group first second, progress, rest =>
      if (progress.kept? group).isSome then run text first progress rest
      else run text second progress rest

/-- Whether a text holds a match. -/
def occursIn (pattern : Pattern) (text : List Char) : Bool :=
  (List.range (text.length + 1)).any fun place =>
    (pattern.run text.toArray { place } some).isSome

end RailsNavigator.Pattern
