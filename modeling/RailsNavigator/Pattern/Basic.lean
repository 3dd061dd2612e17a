import RailsNavigator.Pattern.CharSet

/-!
# Search patterns

The patterns by which route files are told from others, and how long their matches can be.
-/

namespace RailsNavigator

namespace Pattern

/-- A condition on a place. -/
inductive Anchor where
  /-- The start of the text. -/
  | start
  /-- The start of a line. -/
  | lineStart
  /-- The end of the text, or before a line feed at its end. -/
  | finish
  /-- The end of a line. -/
  | lineFinish
  /-- The very end of the text. -/
  | textEnd
  /-- Between a character of a word and one that is none, or the opposite. -/
  | wordEdge (ascii negated : Bool)
  deriving DecidableEq, Repr

/-- What a repetition prefers. -/
inductive Preference where
  /-- As many times as possible. -/
  | greedy
  /-- As few times as possible. -/
  | reluctant
  /-- As many times as possible, and no second thoughts. -/
  | possessive
  deriving DecidableEq, Repr

end Pattern

/-- A search pattern. -/
inductive Pattern where
  | empty
  | one (set : Pattern.CharSet)
  | anchor (anchor : Pattern.Anchor)
  | seq (first second : Pattern)
  | alt (first second : Pattern)
  | times (body : Pattern) (least : Nat) (most : Option Nat) (preference : Pattern.Preference)
  /-- A condition on what follows, or on as many characters before as are given. -/
  | look (behind : Option Nat) (negated : Bool) (body : Pattern)
  /-- The preferred match only. -/
  | atomic (body : Pattern)
  /-- A match that is kept under a number. -/
  | capture (group : Nat) (body : Pattern)
  /-- The same characters as a match that was kept. -/
  | sameAs (group : Nat) (folding : Pattern.Folding)
  /-- A choice by whether a match was kept. -/
  | ifKept (group : Nat) (first second : Pattern)

namespace Pattern

/-- The length from which on matches count as boundless. -/
def lengthLimit : Nat := 4294967295

/-- The least and the greatest length of matches; `none` if there is no greatest one. -/
structure Width where
  least : Nat := 0
  most : Option Nat := some 0
  deriving DecidableEq, Repr

namespace Width

/-- A greatest length, unless it is boundless. -/
def bounded (length : Nat) : Option Nat :=
  if length < lengthLimit then some length else none

/-- The lengths of two matches side by side. -/
def add (first second : Width) : Width :=
  ⟨first.least + second.least, do bounded ((← first.most) + (← second.most))⟩

/-- The lengths of either match. -/
def join (first second : Width) : Width :=
  ⟨min first.least second.least, do return max (← first.most) (← second.most)⟩

/-- The lengths of repeated matches. Nothing, however often, and anything no times are nothing. -/
def times (width : Width) (least : Nat) (most : Option Nat) : Width :=
  ⟨width.least * least,
    if width.most = some 0 || most = some 0 then some 0
    else do bounded ((← width.most) * (← most))⟩

/-- The length of all matches, if it is the same. -/
def fixed? (width : Width) : Option Nat :=
  if width.most = some width.least then some width.least else none

end Width

/-- The pattern of pieces in a row. -/
def ofPieces : List Pattern → Pattern
  | [] => .empty
  | [piece] => piece
  | piece :: rest => .seq piece (ofPieces rest)

/-- How long matches can be, given how long the matches are that were kept. -/
def width (kept : Nat → Width) : Pattern → Width
  | empty | anchor _ | look .. => {}
  | one _ => ⟨1, some 1⟩
  | seq first second => (first.width kept).add (second.width kept)
  | alt first second | ifKept _ first second => (first.width kept).join (second.width kept)
  | times body least most _ => (body.width kept).times least most
  | atomic body | capture _ body => body.width kept
  | sameAs group _ => kept group

end Pattern

end RailsNavigator
