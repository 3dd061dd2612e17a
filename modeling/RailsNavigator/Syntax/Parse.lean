import RailsNavigator.Syntax.Conversion
import RailsNavigator.Trace

/-!
# Parsing

A grammar gives the concrete tree of every text, or fails. Parsing converts that tree; errors in the
syntax are only reported, since the grammar recovers from them.
-/

namespace RailsNavigator

/-- What a grammar makes of a text. -/
structure Parsed where
  tree : Concrete
  /-- Whether there are errors in the syntax. -/
  hasErrors : Bool

/-- A grammar of Ruby; `none` stands for a parser that gives up. -/
abbrev Grammar := String → Option Parsed

/-- The program of a text. -/
def Grammar.parse (grammar : Grammar) (text : String) : Traced (Except ParseError Program) := do
  match grammar text with
  | none => return .error .crashed
  | some parsed =>
      if parsed.hasErrors then Traced.notice .syntaxErrors
      return (Program.convert text parsed.tree).mapError .conversion

end RailsNavigator
