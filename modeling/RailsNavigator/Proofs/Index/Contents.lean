import RailsNavigator.Proofs.Index.Workspace
import RailsNavigator.Proofs.Syntax.Escapes

/-!
# Contents that end a walk

Texts of all kinds can be converted, whatever their trees look like and whatever their literals
hold, with the one exception of escapes that overflow. This file follows the exception into a walk
through a workspace. What ends a walk is the content of a file: an escape that overflows, or a
method beyond the lines and columns that editors accept. Then the files after it are left out.
-/

namespace RailsNavigator

/-- No escape that is read in a tree overflows. -/
def Concrete.IsConvertible (text : String) (tree : Concrete) : Prop :=
  ∀ node, tree.Holds node → ∀ escape ∈ Build.escapes (Source.ofText text) node,
    Literal.overflows escape = false

namespace Indexing

theorem value_parse_of_some {grammar : Grammar} {text : String} {parsed : Parsed}
    (given : grammar text = some parsed) :
    (grammar.parse text).value = (Program.convert text parsed.tree).mapError .conversion := by
  unfold Grammar.parse
  rw [given]
  dsimp only
  split <;> rfl

/-- A text is taken if and only if it has a tree whose escapes do not overflow, a URI, and methods
in range only. -/
theorem takes_iff (grammar : Grammar) (path text : String) :
    Takes grammar path text ↔
      ∃ parsed uri, grammar text = some parsed ∧ Uri.ofPath path = .ok uri ∧
        parsed.tree.IsConvertible text ∧
        ∀ program, Program.convert text parsed.tree = .ok program →
          (Collector.collect uri program.root).IsInRange := by
  constructor
  · rintro ⟨uri, program, located, hasProgram, inRange⟩
    cases given : grammar text with
    | none => simp [Grammar.parse, given] at hasProgram
    | some parsed =>
        rw [value_parse_of_some given] at hasProgram
        cases converted : Program.convert text parsed.tree with
        | error error => simp [converted, Except.mapError] at hasProgram
        | ok other =>
            rw [converted, Except.mapError, Except.ok.injEq] at hasProgram
            subst hasProgram
            refine ⟨parsed, uri, rfl, located, ?_, ?_⟩
            · exact (Conversion.exists_program_iff text parsed.tree).mp ⟨other, converted⟩
            · intro program isProgram
              rw [converted, Except.ok.injEq] at isProgram
              exact isProgram ▸ inRange
  · rintro ⟨parsed, uri, given, located, convertible, inRange⟩
    rcases (Conversion.exists_program_iff text parsed.tree).mpr convertible with
      ⟨program, converted⟩
    refine ⟨uri, program, located, ?_, inRange program converted⟩
    rw [value_parse_of_some given, converted]
    rfl

/-- A walk does nothing more once it comes by a file that is not taken. -/
theorem after_indexEach_append (grammar : Grammar) (files : FileTree) (skip : String → Bool)
    {path : String} (failed : (Outcome.ofFile grammar files skip path).isFailed = true)
    (earlier rest : List String) (index : Index) :
    (indexEach grammar files skip 0 (earlier ++ path :: rest)).after index
      = (indexEach grammar files skip 0 earlier).after index := by
  rw [Outcome.after_indexEach, Outcome.after_indexEach]
  unfold Outcome.changesOfEach
  rw [List.map_append, List.takeWhile_append]
  split
  case isTrue whole =>
      rw [(List.takeWhile_prefix _).eq_of_length whole]
      simp [failed]
  case isFalse => rfl

/-- A text has a program if and only if no escape that is read in its tree overflows. A walk comes
to its end if and only if every Ruby file that can be read has a tree without such escapes, a URI,
and no method out of range. If a file does not, the walk fails, and what the index has afterwards
is what it would have without that file and those after it. -/
theorem contents_end_walk (grammar : Grammar) (exclude : List String) (skip : String → Bool)
    (index : Index) {files tree : FileTree} {root : String} (found : files.find root = .ok tree)
    (proper : tree.IsProper) :
    (∀ (text : String) (tree : Concrete),
      (∃ program, Program.convert text tree = .ok program) ↔ tree.IsConvertible text) ∧
    ((∃ count, (indexWorkspace grammar files exclude skip root).result index = .ok count) ↔
      ∀ path text, files.HasRubyFile exclude root path → files.readText path = .ok text →
        ∃ parsed uri, grammar text = some parsed ∧ Uri.ofPath path = .ok uri ∧
          parsed.tree.IsConvertible text ∧
          ∀ program, Program.convert text parsed.tree = .ok program →
            (Collector.collect uri program.root).IsInRange) ∧
    ∀ earlier path rest text,
      (files.walk exclude root tree).filter isRubyFile = earlier ++ path :: rest →
      files.readText path = .ok text → ¬Takes grammar path text →
        (∃ failure,
          (indexWorkspace grammar files exclude skip root).result index = .error failure) ∧
        (indexWorkspace grammar files exclude skip root).after index
          = (indexEach grammar files skip 0 earlier).after index := by
  refine ⟨Conversion.exists_program_iff, ?_, ?_⟩
  · simp only [← takes_iff]
    exact exists_count_iff found proper
  · intro earlier path rest text listed read refused
    have member : path ∈ (files.walk exclude root tree).filter isRubyFile := by simp [listed]
    constructor
    · cases result : (indexWorkspace grammar files exclude skip root).result index with
      | error failure => exact ⟨failure, rfl⟩
      | ok count =>
          have taken := (exists_count_iff found proper).mp ⟨count, result⟩
          exact absurd (taken path text (hasRubyFile_of_mem_walk found member) read) refused
    · have failed : (Outcome.ofFile grammar files skip path).isFailed = true :=
        (Outcome.isFailed_ofFile_iff (contains_of_mem_walk found proper member)).mpr
          ⟨text, read, refused⟩
      rw [after_indexWorkspace found, listed]
      exact after_indexEach_append grammar files skip failed earlier rest index

/-- A string with an escape that overflows. -/
def overflowingText : String := "\"\\u\x7b80000000\x7d\""

def overflowingString : Concrete :=
  .node ⟨0, "program", true, false, none, 0, 14, ⟨0, 0⟩, ⟨0, 14⟩⟩
    [.node ⟨1, "string", true, false, none, 0, 14, ⟨0, 0⟩, ⟨0, 14⟩⟩
      [.node ⟨2, "\"", false, false, none, 0, 1, ⟨0, 0⟩, ⟨0, 1⟩⟩ [],
        .node ⟨3, "escape_sequence", true, false, none, 1, 13, ⟨0, 1⟩, ⟨0, 13⟩⟩ [],
        .node ⟨4, "\"", false, false, none, 13, 14, ⟨0, 13⟩, ⟨0, 14⟩⟩ []]]

theorem not_isConvertible_overflowingString :
    ¬overflowingString.IsConvertible overflowingText := by
  intro convertible
  have overflows : (overflowingString.namedChildren.flatMap
      (Build.escapes (Source.ofText overflowingText))).any Literal.overflows = true := by cbv
  rcases List.any_eq_true.mp overflows with ⟨escape, member, isOverflow⟩
  rcases List.mem_flatMap.mp member with ⟨node, isChild, isEscape⟩
  have loud : ∀ node ∈ overflowingString.namedChildren, ¬node.isSilent = true := by decide
  rw [convertible node (.child isChild (loud node isChild)) escape isEscape] at isOverflow
  cases isOverflow

/-- A grammar for which one text is a method, and every other a string that overflows. -/
def methodOrOverflow : Grammar := fun text =>
  some ⟨if text = "def a; end" then Request.methodInRow 0 else overflowingString, false⟩

/-- A workspace in which a file with a method comes after one that overflows. -/
def overflowAndMethod : FileTree :=
  .directory [("a.rb", .file (Text.Utf8.encode overflowingText.toList)),
    ("b.rb", .file (Text.Utf8.encode "def a; end".toList))]

theorem isProper_overflowAndMethod : overflowAndMethod.IsProper := by
  refine .directory (by decide) ?_ ?_
  · simp [FileTree.IsName]
  · simp only [List.mem_cons, List.not_mem_nil, or_false, forall_eq_or_imp, forall_eq]
    exact ⟨.file _, .file _⟩

/-- The files around the workspace. -/
def aroundOverflow : FileTree := .directory [("ws", overflowAndMethod)]

/-- The file that overflows cannot be converted, and the method after it is not put in. -/
theorem contents_end_walk_overflowAndMethod :
    (¬∃ program, Program.convert overflowingText overflowingString = .ok program) ∧
    (∃ failure, (indexWorkspace methodOrOverflow aroundOverflow [] (fun _ => false) "/ws").result {}
      = .error failure) ∧
    (indexWorkspace methodOrOverflow aroundOverflow [] (fun _ => false) "/ws").after {} = {} := by
  have listed : (aroundOverflow.walk [] "/ws" overflowAndMethod).filter isRubyFile
      = [] ++ "/ws/a.rb" :: ["/ws/b.rb"] := by cbv
  have read : aroundOverflow.readText "/ws/a.rb" = .ok overflowingText := by decide +kernel
  have given : methodOrOverflow overflowingText = some ⟨overflowingString, false⟩ := by
    rw [methodOrOverflow, if_neg (by decide)]
  have refused : ¬Takes methodOrOverflow "/ws/a.rb" overflowingText := by
    rw [takes_iff]
    rintro ⟨parsed, uri, isParsed, -, convertible, -⟩
    rw [given, Option.some_inj] at isParsed
    subst isParsed
    exact not_isConvertible_overflowingString convertible
  have found : aroundOverflow.find "/ws" = .ok overflowAndMethod := rfl
  rcases contents_end_walk methodOrOverflow [] (fun _ => false) {} found
    isProper_overflowAndMethod with ⟨converts, -, ends⟩
  refine ⟨mt (converts _ _).mp not_isConvertible_overflowingString, ?_⟩
  exact ends [] _ _ _ listed read refused

end Indexing

end RailsNavigator
