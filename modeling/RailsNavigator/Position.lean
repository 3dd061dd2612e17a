import RailsNavigator.Source

/-!
# Positions

The lines and columns that editors accept, and what is wrong with others.
-/

namespace RailsNavigator

/-- The greatest line and column that editors accept. -/
def positionLimit : Int := 2147483647

/-- One of the two numbers of a position. -/
inductive Coordinate where
  | line
  | character
  deriving DecidableEq, Repr

/-- The word for a coordinate. -/
def Coordinate.word : Coordinate → String
  | line => "line"
  | character => "character"

/-- A coordinate that editors do not accept. -/
structure PositionError where
  coordinate : Coordinate
  value : Int
  deriving DecidableEq, Repr

/-- The wording of what is wrong with a position. -/
def PositionError.message (error : PositionError) : String :=
  let coordinate := error.coordinate.word
  s!"Position.{coordinate} should be in range [0:{positionLimit}], but was {error.value}."

/-- Whether a coordinate is one that editors accept. -/
def isCoordinate (value : Int) : Bool :=
  0 ≤ value && value ≤ positionLimit

/-- What is wrong with a position; the line is looked at first. -/
def positionError? (line character : Int) : Option PositionError :=
  if !isCoordinate line then some ⟨.line, line⟩
  else if !isCoordinate character then some ⟨.character, character⟩
  else none

/-- What is wrong with the ends of a range; the start is looked at first. -/
def Span.positionError? (span : Span) : Option PositionError :=
  RailsNavigator.positionError? span.startLine span.startColumn
    <|> RailsNavigator.positionError? span.endLine span.endColumn

end RailsNavigator
