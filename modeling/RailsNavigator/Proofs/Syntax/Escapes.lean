import RailsNavigator.Proofs.Syntax.Order
import RailsNavigator.Syntax.Parse

/-!
# Escapes that cannot be converted

Conversion has a place for every kind of node, for fields that are missing and for escapes that make
no sense. One thing is left that it gives up on: a code point that does not fit into 32 bits. This
file says exactly when that happens. Whether a node can be built depends on the escapes in it alone,
and not on what was built before, so a tree can be converted if and only if no literal in it holds
such an escape where it is read.
-/

namespace RailsNavigator

/-- A result that is only rewritten is an error if and only if it was one. -/
theorem bind_pure_eq_error_iff {ε α β : Type} (result : Except ε α) (rewrite : α → β)
    (error : ε) :
    (result >>= fun value => pure (rewrite value)) = .error error ↔ result = .error error := by
  cases result with
  | error other => simp [bind, Except.bind]
  | ok value => simp [bind, Except.bind, pure, Except.pure]

namespace Literal

/-- Whether a numeral is that of a code point. -/
def isCodePoint (digits : List Char) : Bool :=
  (Text.Numeral.readHex? digits).any fun value => 0 ≤ value && value ≤ 0x10FFFF

/-- Whether a numeral is that of a number beyond 32 bits. -/
def isHuge (digits : List Char) : Bool :=
  (Text.Numeral.readHex? digits).any fun value => !inWord32 value

/-- Whether an escape in double quotes holds a number beyond 32 bits. What follows the first numeral
that is not that of a code point does not count. -/
def overflows (escape : List Char) : Bool :=
  match escape.drop 1 with
  | 'u' :: digits =>
      ((Text.words (Text.trim isBrace digits)).find? fun numeral => !isCodePoint numeral).any isHuge
  | 'x' :: digits => isHuge digits
  | _ => false

theorem isCodePoint_eq_false_of_isHuge {digits : List Char} (huge : isHuge digits = true) :
    isCodePoint digits = false := by
  unfold isHuge at huge
  unfold isCodePoint
  cases read : Text.Numeral.readHex? digits with
  | none => rfl
  | some value =>
      simp only [read, Option.any_some, inWord32] at huge ⊢
      grind

theorem codePoint_of_isHuge {digits : List Char} (huge : isHuge digits = true) :
    codePoint digits = .error .codePointOverflow := by
  unfold isHuge at huge
  unfold codePoint
  cases read : Text.Numeral.readHex? digits with
  | none => simp [read] at huge
  | some value =>
      simp only [read, Option.any_some] at huge
      simp [huge]

theorem codePoint_of_isCodePoint {digits : List Char} (valid : isCodePoint digits = true) :
    ∃ character, codePoint digits = .ok (some character) := by
  have notHuge : isHuge digits = false := by
    cases huge : isHuge digits with
    | false => rfl
    | true => rw [isCodePoint_eq_false_of_isHuge huge] at valid; cases valid
  unfold isCodePoint at valid
  unfold isHuge at notHuge
  unfold codePoint
  cases read : Text.Numeral.readHex? digits with
  | none => simp [read] at valid
  | some value =>
      simp only [read, Option.any_some] at valid notHuge
      exact ⟨Text.scalar value.toNat, by simp only [notHuge, valid]; rfl⟩

theorem codePoint_of_neither {digits : List Char} (notHuge : isHuge digits = false)
    (invalid : isCodePoint digits = false) : codePoint digits = .ok none := by
  unfold isCodePoint at invalid
  unfold isHuge at notHuge
  unfold codePoint
  cases read : Text.Numeral.readHex? digits with
  | none => rfl
  | some value =>
      simp only [read, Option.any_some] at invalid notHuge
      simp only [notHuge, invalid]
      rfl

theorem codePoint_eq_error_iff (digits : List Char) :
    codePoint digits = .error .codePointOverflow ↔ isHuge digits = true := by
  constructor
  · intro fails
    by_contra notHuge
    rw [Bool.not_eq_true] at notHuge
    cases valid : isCodePoint digits with
    | true =>
        rcases codePoint_of_isCodePoint valid with ⟨character, succeeds⟩
        rw [succeeds] at fails
        cases fails
    | false =>
        rw [codePoint_of_neither notHuge valid] at fails
        cases fails
  · exact codePoint_of_isHuge

/-- Reading stops at the first numeral that is not that of a code point. -/
theorem codePoints_eq_error_iff (numerals : List (List Char)) :
    codePoints numerals = .error .codePointOverflow
      ↔ ((numerals.find? fun numeral => !isCodePoint numeral).any isHuge) = true := by
  induction numerals with
  | nil => simp [codePoints]
  | cons numeral rest hypothesis =>
      rw [codePoints, List.find?_cons]
      cases valid : isCodePoint numeral with
      | true =>
          rcases codePoint_of_isCodePoint valid with ⟨character, succeeds⟩
          rw [succeeds]
          simp only [Bool.not_true, ← hypothesis]
          exact bind_pure_eq_error_iff _ _ _
      | false =>
          simp only [Bool.not_false, Option.any_some]
          cases huge : isHuge numeral with
          | true => simp [codePoint_of_isHuge huge, bind, Except.bind]
          | false => simp [codePoint_of_neither huge valid, bind, Except.bind, pure, Except.pure]

theorem unescapeDouble_eq_error_iff (escape : List Char) :
    unescapeDouble escape = .error .codePointOverflow ↔ overflows escape = true := by
  unfold unescapeDouble overflows
  generalize escape.drop 1 = body
  split
  case h_1 => simp
  case h_2 digits =>
      exact (bind_pure_eq_error_iff _ _ _).trans (codePoints_eq_error_iff _)
  case h_3 digits =>
      exact (bind_pure_eq_error_iff _ _ _).trans (codePoint_eq_error_iff _)
  case h_4 => split <;> simp_all
  case h_5 => split <;> simp_all

end Literal

namespace Build

/-- The escapes in a literal that are read one by one. There are none in single quotes, and reading
ends at the first interpolation. -/
def escapesIn (source : Source) (tree : Concrete) : List (List Char) :=
  if Literal.isSingleQuoted (source.textOf tree) then []
  else
    ((tree.namedChildren.takeWhile fun part => part.kind != "interpolation").filter
      fun part => part.kind == "escape_sequence").map source.textOf

/-- The escapes that are read when a node is built. A string with interpolation is not read. -/
def escapes (source : Source) (tree : Concrete) : List (List Char) :=
  match Construct.ofKind tree.kind with
  | .delimitedSymbol => escapesIn source tree
  | .string => if isInterpolated tree then [] else escapesIn source tree
  | _ => []

theorem partText_eq_error_iff (source : Source) (singleQuoted : Bool) (part : Concrete) :
    partText source singleQuoted part = .error .codePointOverflow
      ↔ singleQuoted = false ∧ part.kind = "escape_sequence" ∧
        Literal.overflows (source.textOf part) = true := by
  rw [← Literal.unescapeDouble_eq_error_iff]
  unfold partText
  cases singleQuoted with
  | true => by_cases isEscape : part.kind = "escape_sequence" <;> simp [isEscape]
  | false => by_cases isEscape : part.kind = "escape_sequence" <;> simp [isEscape]

/-- The parts of a literal can be read unless one of its escapes overflows before the first
interpolation. -/
theorem partsText?_eq_error_iff (source : Source) (singleQuoted : Bool) (parts : List Concrete) :
    partsText? source singleQuoted parts = .error .codePointOverflow
      ↔ ∃ part ∈ parts.takeWhile fun part => part.kind != "interpolation",
          partText source singleQuoted part = .error .codePointOverflow := by
  induction parts with
  | nil => simp [partsText?]
  | cons part rest hypothesis =>
      rw [partsText?]
      by_cases interpolated : part.kind = "interpolation"
      · simp [interpolated]
      · simp only [interpolated, beq_iff_eq, if_false, List.takeWhile_cons, bne_iff_ne, ne_eq,
          not_false_eq_true, if_true, List.mem_cons, exists_eq_or_imp, ← hypothesis]
        cases partText source singleQuoted part with
        | error error => simp [bind, Except.bind]
        | ok text =>
            cases partsText? source singleQuoted rest with
            | error error => simp [bind, Except.bind]
            | ok further => simp [bind, Except.bind, pure, Except.pure]

theorem content?_eq_error_iff (source : Source) (tree : Concrete) :
    content? source tree = .error .codePointOverflow
      ↔ ∃ escape ∈ escapesIn source tree, Literal.overflows escape = true := by
  have asParts : content? source tree = .error .codePointOverflow
      ↔ partsText? source (Literal.isSingleQuoted (source.textOf tree)) tree.namedChildren
          = .error .codePointOverflow :=
    bind_pure_eq_error_iff _ _ _
  rw [asParts, partsText?_eq_error_iff]
  simp only [partText_eq_error_iff]
  unfold escapesIn
  cases Literal.isSingleQuoted (source.textOf tree) with
  | true => simp
  | false => simp [and_assoc]

end Build

/-- Whether a node can be built depends on its escapes alone. -/
theorem build_eq_error_iff (source : Source) (converted : Converted) (expression : Bool)
    (tree : Concrete) :
    build source converted expression tree = .error .codePointOverflow
      ↔ ∃ escape ∈ Build.escapes source tree, Literal.overflows escape = true := by
  unfold build Build.escapes
  cases Construct.ofKind tree.kind with
  | delimitedSymbol =>
      exact (bind_pure_eq_error_iff _ _ _).trans (Build.content?_eq_error_iff source tree)
  | string =>
      dsimp only
      split
      · simp
      · exact (bind_pure_eq_error_iff _ _ _).trans (Build.content?_eq_error_iff source tree)
  | _ => simp

/-- A construct below a tree that has a meaning: neither itself nor anything above it is a comment
or made up by error recovery. -/
inductive Concrete.Holds : Concrete → Concrete → Prop
  | child {tree child : Concrete} (isChild : child ∈ tree.namedChildren)
      (loud : ¬child.isSilent = true) : Holds tree child
  | deeper {tree child node : Concrete} (isChild : child ∈ tree.namedChildren)
      (loud : ¬child.isSilent = true) (holds : Holds child node) : Holds tree node

namespace Conversion

/-- The nodes that are built are those that a tree holds. -/
theorem mem_orderBelow_iff {tree node : Concrete} :
    (∃ expression, (node, expression) ∈ orderBelow tree) ↔ tree.Holds node := by
  constructor
  · rintro ⟨expression, member⟩
    induction tree using Concrete.childInduction with
    | step tree hypothesis =>
        rcases List.mem_flatMap.mp member with ⟨child, isChild, ofChild⟩
        by_cases silent : child.isSilent = true
        · simp [order_of_isSilent silent] at ofChild
        · rw [order_of_not_isSilent silent, List.mem_append, List.mem_singleton] at ofChild
          rcases ofChild with lower | same
          · exact .deeper isChild silent
              (hypothesis child (Concrete.mem_children_of_mem_namedChildren isChild) lower)
          · cases same
            exact .child isChild silent
  · intro holds
    induction holds with
    | @child tree child isChild loud =>
        refine ⟨Build.isExpression tree child, List.mem_flatMap.mpr ⟨_, isChild, ?_⟩⟩
        rw [order_of_not_isSilent loud]
        exact List.mem_append_right _ (List.mem_singleton.mpr rfl)
    | deeper isChild loud holds hypothesis =>
        rcases hypothesis with ⟨expression, member⟩
        refine ⟨expression, List.mem_flatMap.mpr ⟨_, isChild, ?_⟩⟩
        rw [order_of_not_isSilent loud]
        exact List.mem_append_left _ member

theorem foldlM_buildNext_eq_error_iff (source : Source) (todo : List (Concrete × Bool))
    (progress : Progress) :
    todo.foldlM (buildNext source) progress = .error .codePointOverflow
      ↔ ∃ next ∈ todo, ∃ escape ∈ Build.escapes source next.1,
          Literal.overflows escape = true := by
  induction todo generalizing progress with
  | nil => simp [pure, Except.pure]
  | cons next rest hypothesis =>
      simp only [List.foldlM_cons, List.mem_cons, exists_eq_or_imp]
      rw [← build_eq_error_iff source (progress.table[·]?) next.2, buildNext]
      -- The hypothesis is for any progress, so it does not matter what was built.
      cases build source (progress.table[·]?) next.2 next.1 with
      | error error => simp [bind, Except.bind]
      | ok node => simpa [bind, Except.bind] using hypothesis _

/-- A tree cannot be converted if and only if it holds an escape that overflows. -/
theorem convert_eq_error_iff (source : Source) (tree : Concrete) :
    convert source tree = .error .codePointOverflow
      ↔ ∃ node, tree.Holds node ∧ ∃ escape ∈ Build.escapes source node,
          Literal.overflows escape = true := by
  have asRun : convert source tree = .error .codePointOverflow
      ↔ (orderBelow tree).foldlM (buildNext source) {} = .error .codePointOverflow := by
    unfold convert
    rw [run_visits]
    exact bind_pure_eq_error_iff _ _ _
  rw [asRun, foldlM_buildNext_eq_error_iff]
  simp only [← mem_orderBelow_iff, Prod.exists]
  grind

/-- A text has a program if and only if its tree holds no escape that overflows. -/
theorem exists_program_iff (text : String) (tree : Concrete) :
    (∃ program, Program.convert text tree = .ok program)
      ↔ ∀ node, tree.Holds node → ∀ escape ∈ Build.escapes (Source.ofText text) node,
          Literal.overflows escape = false := by
  have fails := convert_eq_error_iff (Source.ofText text) tree
  unfold Program.convert
  cases converted : RailsNavigator.convert (Source.ofText text) tree with
  | error error =>
      cases error with
      | codePointOverflow =>
          rcases fails.mp converted with ⟨node, holds, escape, member, overflows⟩
          simp only [reduceCtorEq, exists_false, false_iff]
          intro none
          rw [none node holds escape member] at overflows
          cases overflows
  | ok program =>
      simp only [Except.ok.injEq, exists_eq', true_iff]
      intro node holds escape member
      by_contra overflows
      rw [fails.mpr ⟨node, holds, escape, member, by simpa using overflows⟩] at converted
      cases converted

end Conversion

end RailsNavigator
