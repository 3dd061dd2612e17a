import RailsNavigator.Concrete.Node
import RailsNavigator.Text.Utf16
import RailsNavigator.Text.Utf8

/-!
# Source texts

The bytes of a source text and their lines. Trees count columns in bytes and editors count them in
UTF-16 code units; `Source.column` goes from one to the other.
-/

namespace RailsNavigator

/-- A range of the text in lines and UTF-16 columns, both from zero. The end is not part of it. -/
structure Span where
  startLine : Nat
  startColumn : Nat
  endLine : Nat
  endColumn : Nat
  deriving DecidableEq, Repr

/-- Whether a range holds a position. Any integers may be asked about. -/
def Span.covers (span : Span) (line character : Int) : Bool :=
  let startsBefore : Bool :=
    span.startLine < line || (line == span.startLine && span.startColumn ≤ character)
  let endsAfter : Bool :=
    line < span.endLine || (line == span.endLine && character < span.endColumn)
  startsBefore && endsAfter

/-- The bytes of a text between line feeds. -/
def splitLines : List UInt8 → List (List UInt8)
  | [] => [[]]
  | byte :: rest =>
      if byte = 0x0A then
        [] :: splitLines rest
      else match splitLines rest with
        | [] => [[byte]]
        | line :: lines => (byte :: line) :: lines

/-- The bytes of a source text, and its lines. -/
structure Source where
  bytes : List UInt8
  lines : List (List UInt8)

namespace Source

/-- The source with the given bytes. -/
def ofBytes (bytes : List UInt8) : Source :=
  ⟨bytes, splitLines bytes⟩

/-- The source with the given text. -/
def ofText (text : String) : Source :=
  ofBytes (Text.Utf8.encode text.toList)

/-- The text between two byte offsets. Offsets beyond the end are cut back to it, and what is left
of a character that an offset cuts is replaced. -/
def slice (source : Source) (start stop : Nat) : List Char :=
  Text.Utf8.decodeLossy ((source.bytes.drop start).take (stop - start))

/-- The text of a concrete node. -/
def textOf (source : Source) (tree : Concrete) : List Char :=
  source.slice tree.head.startByte tree.head.endByte

/-- The UTF-16 column of a byte column. In a line of ASCII the two agree, also beyond its end, and
so they do on rows that the text does not have. -/
def column (source : Source) (point : Point) : Nat :=
  match source.lines[point.row]? with
  | none => point.column
  | some line =>
      let before := line.take point.column
      if before.all (· < 0x80) then point.column
      else Text.length16 (Text.Utf8.decodeLossy before)

/-- The range of a concrete node. -/
def spanOf (source : Source) (tree : Concrete) : Span where
  startLine := tree.head.startPoint.row
  startColumn := source.column tree.head.startPoint
  endLine := tree.head.endPoint.row
  endColumn := source.column tree.head.endPoint

end Source

end RailsNavigator
