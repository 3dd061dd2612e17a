import Mathlib.Data.Prod.Lex
import RailsNavigator.Proofs.Text.Utf8
import RailsNavigator.Source

/-!
# Order of places

Places of a text are ordered by line and then by column. Going from byte columns to UTF-16 columns
keeps the order, on every row and wherever a column cuts a character, so a range in bytes becomes a
range in code units, and what lies within it stays there.
-/

namespace RailsNavigator

/-- A point by row and column, in lexicographic order. -/
def Point.place (point : Point) : ℕ ×ₗ ℕ := toLex (point.row, point.column)

namespace Span

/-- Where a range starts; places are in lexicographic order. -/
def start (span : Span) : ℕ ×ₗ ℕ := toLex (span.startLine, span.startColumn)

def stop (span : Span) : ℕ ×ₗ ℕ := toLex (span.endLine, span.endColumn)

/-- A range does not end before it starts. -/
def Ordered (span : Span) : Prop := span.start ≤ span.stop

/-- A range lies within another one. -/
def Within (inner outer : Span) : Prop := outer.start ≤ inner.start ∧ inner.stop ≤ outer.stop

theorem Within.refl (span : Span) : span.Within span := ⟨le_rfl, le_rfl⟩

theorem Within.trans {inner middle outer : Span} (first : inner.Within middle)
    (second : middle.Within outer) : inner.Within outer :=
  ⟨second.1.trans first.1, first.2.trans second.2⟩

theorem covers_of_within {inner outer : Span} {line character : Int} (within : inner.Within outer)
    (covers : inner.covers line character = true) : outer.covers line character = true := by
  simp only [Within, start, stop, Prod.Lex.toLex_le_toLex] at within
  simp only [Span.covers, Bool.and_eq_true, Bool.or_eq_true, decide_eq_true_eq,
    beq_iff_eq] at covers ⊢
  omega

/-- No position is covered by both of two ranges. -/
def Disjoint (first second : Span) : Prop :=
  ∀ line character, first.covers line character = true → second.covers line character = false

theorem Disjoint.symm {first second : Span} (disjoint : first.Disjoint second) :
    second.Disjoint first := by
  intro line character inSecond
  by_contra inFirst
  rw [Bool.not_eq_false] at inFirst
  simp [disjoint line character inFirst] at inSecond

/-- A range has no position in common with one that starts where it ends or later. -/
theorem disjoint_of_stop_le_start {first second : Span} (apart : first.stop ≤ second.start) :
    first.Disjoint second := by
  intro line character inFirst
  rw [start, stop, Prod.Lex.toLex_le_toLex] at apart
  simp only [covers, Bool.and_eq_true, Bool.or_eq_true, decide_eq_true_eq, beq_iff_eq,
    Bool.and_eq_false_iff, Bool.or_eq_false_iff, decide_eq_false_iff_not,
    beq_eq_false_iff_ne] at inFirst ⊢
  omega

end Span

namespace Source

/-- The UTF-16 column grows with the byte column. -/
theorem column_le (source : Source) {row first second : Nat} (inOrder : first ≤ second) :
    source.column ⟨row, first⟩ ≤ source.column ⟨row, second⟩ := by
  unfold column
  cases source.lines[row]? with
  | none => exact inOrder
  | some line =>
      dsimp only
      split
      · rename_i firstAscii
        split
        · exact inOrder
        · -- The line goes on behind the first column, or both columns would cut it alike.
          rename_i secondWide
          have inLine : first ≤ line.length := by
            by_contra beyond
            rw [List.take_of_length_le (by omega)] at firstAscii secondWide
            exact secondWide firstAscii
          have isAscii : ∀ byte ∈ line.take first, byte < 0x80 := by
            simpa using firstAscii
          calc first = (line.take first).length := by simp [inLine]
            _ ≤ Text.length16 (Text.Utf8.decodeLossy (line.take first)) :=
              Text.Utf8.length_le_length16_decodeLossy isAscii
            _ ≤ Text.length16 (Text.Utf8.decodeLossy (line.take second)) :=
              Text.Utf8.length16_decodeLossy_take_le line inOrder
      · rename_i firstWide
        split
        · rename_i secondAscii
          refine absurd ?_ firstWide
          rw [List.all_eq_true] at secondAscii ⊢
          intro byte member
          exact secondAscii byte ((List.take_prefix_take_left inOrder).subset member)
        · exact Text.Utf8.length16_decodeLossy_take_le line inOrder

theorem place_column_le (source : Source) {first second : Point}
    (inOrder : first.place ≤ second.place) :
    toLex (first.row, source.column first) ≤ toLex (second.row, source.column second) := by
  rcases first with ⟨firstRow, firstColumn⟩
  rcases second with ⟨secondRow, secondColumn⟩
  rw [Point.place, Point.place, Prod.Lex.toLex_le_toLex] at inOrder
  rw [Prod.Lex.toLex_le_toLex]
  rcases inOrder with earlier | ⟨sameRow, inRow⟩
  · exact .inl earlier
  · dsimp only at sameRow inRow
    subst sameRow
    exact .inr ⟨rfl, source.column_le inRow⟩

end Source

end RailsNavigator
