import RailsNavigator.Proofs.Syntax.Recursion

/-!
# Identifiers that are evaluated

An identifier that is evaluated converts to a call without arguments, and one that names what is
being bound converts to a node without a meaning. Which of the two it is, is seen from the kind of
its parent and from the field that it fills. The field `left` is that of what an assignment assigns
to, but the left operand of a binary expression fills a field of this name too. So the operands of
an operator are not treated alike: the right one becomes a call and the left one does not.
-/

namespace RailsNavigator

namespace Concrete

/-- The constructs that assign to what is on their left. -/
def assignmentForms : List String := ["assignment", "operator_assignment", "for"]

/-- A child of a construct stands where names are evaluated, and not where they are bound. -/
structure Evaluates (parent child : Concrete) : Prop where
  parent_unbound : parent.kind ∉ Build.bindingParents
  not_name : child.head.field ≠ some "name"
  not_pattern : child.head.field ≠ some "pattern"
  not_assigned : ¬(parent.kind ∈ assignmentForms ∧ child.head.field = some "left")

/-- Of the places where names are evaluated, those on the left of something are left out. -/
theorem isExpression_iff (parent child : Concrete) :
    Build.isExpression parent child = true ↔
      parent.Evaluates child ∧ child.head.field ≠ some "left" := by
  have fields : (!child.head.field.any Build.bindingFields.contains) = true ↔
      child.head.field ≠ some "left" ∧ child.head.field ≠ some "name" ∧
        child.head.field ≠ some "pattern" := by
    cases child.head.field with
    | none => simp
    | some field => simp [Build.bindingFields]
  simp only [Build.isExpression, Bool.and_eq_true, fields]
  constructor
  · rintro ⟨unbound, notLeft, notName, notPattern⟩
    refine ⟨⟨by simpa using unbound, notName, notPattern, ?_⟩, notLeft⟩
    intro assigned
    exact notLeft assigned.2
  · rintro ⟨evaluates, notLeft⟩
    exact ⟨by simpa using evaluates.parent_unbound, notLeft, evaluates.not_name,
      evaluates.not_pattern⟩

end Concrete

theorem build_identifier (source : Source) (converted : Converted) (expression : Bool)
    {tree : Concrete} (isIdentifier : tree.kind = "identifier") :
    build source converted expression tree
      = .ok (if expression then
          .call (Build.info source tree) (some (String.ofList (source.textOf tree))) none none none
        else .generic (Build.info source tree) []) := by
  have construct : Construct.ofKind tree.kind = .identifier := by
    rw [isIdentifier]
    rfl
  simp only [build, construct]

namespace Conversion

variable {source : Source} {tree parent child : Concrete} {done : Progress}

theorem getElem?_identifier (distinct : tree.DistinctIds)
    (succeeds : run source {} (visits tree) = .ok done) (parentMem : parent ∈ tree.subtrees)
    (isChild : child ∈ parent.children) (isIdentifier : child.kind = "identifier")
    (holds : tree.Holds child) :
    done.table[child.id]?
      = some (if Build.isExpression parent child then
          .call (Build.info source child) (some (String.ofList (source.textOf child)))
            none none none
        else .generic (Build.info source child) []) := by
  have member := mem_orderBelow_of_holds distinct parentMem isChild holds
  rcases getElem?_of_mem_orderBelow distinct succeeds member with ⟨node, built, entry⟩
  have kept : child.isLeftOut = false := by simp [Concrete.isLeftOut, isIdentifier]
  rw [build_identifier source _ _ isIdentifier, Except.ok.injEq] at built
  rw [entry, built, kept]
  rfl

theorem evaluates_operand (isBinary : parent.kind = "binary")
    (isOperand : child.head.field = some "left" ∨ child.head.field = some "right") :
    parent.Evaluates child where
  parent_unbound := by simp [isBinary, Build.bindingParents]
  not_name := by rcases isOperand with field | field <;> simp [field]
  not_pattern := by rcases isOperand with field | field <;> simp [field]
  not_assigned := by simp [isBinary, Concrete.assignmentForms]

/-- An identifier with a meaning becomes a call with its text for its name exactly if it stands where
names are evaluated and is not on the left of anything, and else a node without children. So both
operands of a binary expression are evaluated, but only the right one becomes a call. -/
theorem identifier_called_iff (distinct : tree.DistinctIds)
    (succeeds : run source {} (visits tree) = .ok done) (parentMem : parent ∈ tree.subtrees)
    (isChild : child ∈ parent.namedChildren) (isIdentifier : child.kind = "identifier") :
    (done.table[child.id]? = none ↔ ¬tree.Holds child) ∧
    (done.table[child.id]?
        = some (.call (Build.info source child) (some (String.ofList (source.textOf child)))
            none none none)
      ↔ tree.Holds child ∧ parent.Evaluates child ∧ child.head.field ≠ some "left") ∧
    (done.table[child.id]? = some (.generic (Build.info source child) [])
      ↔ tree.Holds child ∧ (parent.Evaluates child → child.head.field = some "left")) ∧
    (parent.kind = "binary" → child.head.field = some "left" ∨ child.head.field = some "right" →
      parent.Evaluates child) := by
  have childMem := Concrete.mem_children_of_mem_namedChildren isChild
  have expression_iff := Concrete.isExpression_iff parent child
  have operand : parent.kind = "binary" →
      child.head.field = some "left" ∨ child.head.field = some "right" →
        parent.Evaluates child := evaluates_operand
  by_cases holds : tree.Holds child
  · have entry := getElem?_identifier distinct succeeds parentMem childMem isIdentifier holds
    cases expression : Build.isExpression parent child with
    | true =>
        have called := expression_iff.mp expression
        rw [expression] at entry
        exact ⟨by simp [entry, holds], by simp [entry, holds, called],
          by simp [entry, called], operand⟩
    | false =>
        have onLeft : parent.Evaluates child → child.head.field = some "left" := by
          intro evaluates
          by_contra notLeft
          rw [expression_iff.mpr ⟨evaluates, notLeft⟩] at expression
          cases expression
        rw [expression] at entry
        exact ⟨by simp [entry, holds], by simpa [entry, holds] using onLeft,
          by simpa [entry, holds] using onLeft, operand⟩
  · have inTree := Concrete.child_mem_subtrees parentMem childMem
    have none := getElem?_eq_none_of_not_holds distinct succeeds inTree holds
    exact ⟨by simp [none, holds], by simp [none, holds], by simp [none, holds], operand⟩

/-- The left operand of `a_path + b_path`. -/
def leftHelper : Concrete :=
  .node ⟨2, "identifier", true, false, some "left", 0, 6, ⟨0, 0⟩, ⟨0, 6⟩⟩ []

def rightHelper : Concrete :=
  .node ⟨4, "identifier", true, false, some "right", 9, 15, ⟨0, 9⟩, ⟨0, 15⟩⟩ []

def sumOfHelpers : Concrete :=
  .node ⟨1, "binary", true, false, none, 0, 15, ⟨0, 0⟩, ⟨0, 15⟩⟩
    [leftHelper, .node ⟨3, "+", false, false, some "operator", 7, 8, ⟨0, 7⟩, ⟨0, 8⟩⟩ [], rightHelper]

def programOfSum : Concrete :=
  .node ⟨0, "program", true, false, none, 0, 16, ⟨0, 0⟩, ⟨1, 0⟩⟩ [sumOfHelpers]

/-- Of two operands that are evaluated the left one does not become a call. -/
theorem identifier_called_iff_sumOfHelpers :
    programOfSum.DistinctIds ∧ sumOfHelpers.Evaluates leftHelper ∧
      sumOfHelpers.Evaluates rightHelper ∧
      ∃ done, run (Source.ofText "a_path + b_path\n") {} (visits programOfSum) = .ok done ∧
        done.table[2]? = some (.generic ⟨.converted 2, "identifier", ⟨0, 0, 0, 6⟩⟩ []) ∧
        done.table[4]? = some (.call ⟨.converted 4, "identifier", ⟨0, 9, 0, 15⟩⟩ (some "b_path")
          none none none) := by
  have distinct : programOfSum.DistinctIds := by
    unfold Concrete.DistinctIds
    decide
  have noEscapes : ∀ next ∈ orderBelow programOfSum,
      Build.escapes (Source.ofText "a_path + b_path\n") next.1 = [] := by decide
  rcases exists_run_eq_ok noEscapes with ⟨done, succeeds⟩
  have inTree : sumOfHelpers ∈ programOfSum.subtrees := by
    simp [programOfSum, Concrete.subtrees, Concrete.subtreesAll]
  have held : ∀ child ∈ sumOfHelpers.namedChildren, ¬child.isSilent = true →
      programOfSum.Holds child := by
    intro child isChild loud
    have sumMem : sumOfHelpers ∈ programOfSum.namedChildren := by
      simp [programOfSum, Concrete.namedChildren, Concrete.children, sumOfHelpers, Concrete.head]
    exact .deeper sumMem (by decide) (.child isChild loud)
  have leftMem : leftHelper ∈ sumOfHelpers.namedChildren := by
    simp [sumOfHelpers, Concrete.namedChildren, Concrete.children, leftHelper, Concrete.head]
  have rightMem : rightHelper ∈ sumOfHelpers.namedChildren := by
    simp [sumOfHelpers, Concrete.namedChildren, Concrete.children, rightHelper, Concrete.head]
  rcases identifier_called_iff distinct succeeds inTree leftMem rfl with ⟨-, -, bound, operand⟩
  rcases identifier_called_iff distinct succeeds inTree rightMem rfl with
    ⟨-, called, -, rightOperand⟩
  have left := operand rfl (.inl rfl)
  have right := rightOperand rfl (.inr rfl)
  refine ⟨distinct, left, right, done, succeeds, ?_, ?_⟩
  · exact bound.mpr ⟨held leftHelper leftMem (by decide), fun _ => rfl⟩
  · exact called.mpr ⟨held rightHelper rightMem (by decide), right, by decide⟩

end Conversion

end RailsNavigator
