import RailsNavigator.Pattern.Basic

/-!
# Groups in patterns

What is read between two parentheses: alternatives, and within them pieces in a row. The pieces of a
group without a purpose take its place, what all alternatives begin with is split off, and
alternatives that are single characters or sets become one set.
-/

namespace RailsNavigator.Pattern

/-- What the closing parenthesis makes of a group. -/
inductive Purpose where
  | plain
  /-- A group with flags of its own. -/
  | flagged
  | capture (group : Nat)
  /-- A condition on what follows or comes before, and whether it is the outermost of the latter. -/
  | look (behind negated outermost : Bool)
  | atomic
  | ifKept (group : Nat)

/-- Whether a repetition may follow. -/
inductive Repeatability where
  | free
  /-- Conditions on a place are not repeated. -/
  | anchor
  /-- What is repeated is not repeated again. -/
  | repeated
  deriving DecidableEq

/-- What a repetition takes hold of: pieces in a row, just one unless a group stood around them. -/
structure Operand where
  pieces : List Pattern
  repeatability : Repeatability := .free

/-- Whether two pieces are single and the same. -/
def isSamePiece : Pattern → Pattern → Bool
  | .one first, .one second => first = second
  | .anchor first, .anchor second => first = second
  | .sameAs first folding, .sameAs second other => first = second && folding = other
  | _, _ => false

/-- Splits off the pieces that an alternative and all others begin with. -/
def splitCommon : List Pattern → List (List Pattern) →
    List Pattern × List Pattern × List (List Pattern)
  | [], others => ([], [], others)
  | piece :: rest, others =>
      if others.all (·.head?.any (isSamePiece piece)) then
        let (common, rest, others) := splitCommon rest (others.map (·.drop 1))
        (piece :: common, rest, others)
      else ([], piece :: rest, others)

/-- The members of an alternative that is nothing but a set. -/
def members? : List Pattern → Option (List SetItem)
  | [.one set] => if set.negated then none else some set.items
  | _ => none

/-- The choice between alternatives. Single characters and sets are taken together to one set. -/
def choiceOf (folding : Folding) (alternatives : List (List Pattern)) : Pattern :=
  match alternatives.mapM members? with
  | some items => .one ⟨items.flatten.eraseDups, false, folding⟩
  | none => match alternatives.reverse with
      | [] => .empty
      | last :: others =>
          others.foldl (fun rest alternative => .alt (ofPieces alternative) rest) (ofPieces last)

/-- An open group: its flags, the pieces of its earlier alternatives, and the operands of the
current one, last ones first. -/
structure Group where
  purpose : Purpose := .plain
  flags : List Char := []
  alternatives : List (List Pattern) := []
  operands : List Operand := []

namespace Group

/-- Whether classes are those of ASCII. -/
def isAscii (group : Group) : Bool := group.flags.contains 'a'

/-- Which characters count as the same. -/
def folding (group : Group) : Folding :=
  if group.flags.contains 'i' then if group.isAscii then .ascii else .full else .exact

/-- The pieces of the current alternative. -/
def sequence (group : Group) : List Pattern :=
  group.operands.reverse.flatMap (·.pieces)

/-- The pieces of the whole group. What all alternatives begin with is not chosen. -/
def pieces (group : Group) : List Pattern :=
  match (group.sequence :: group.alternatives).reverse with
  | [] => []
  | [sequence] => sequence
  | first :: others =>
      let (common, first, others) := splitCommon first others
      common ++ [choiceOf group.folding (first :: others)]

/-- The pattern of the whole group. -/
def pattern (group : Group) : Pattern := ofPieces group.pieces

/-- Adds an operand to the current alternative. -/
def push (group : Group) (operand : Operand) : Group :=
  { group with operands := operand :: group.operands }

end Group

end RailsNavigator.Pattern
