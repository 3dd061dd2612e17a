import RailsNavigator.Proofs.Index.Agreement
import RailsNavigator.Proofs.Index.Scopes
import RailsNavigator.Proofs.Workspace.Listing

/-!
# Indexing a workspace

A walk through a workspace puts its Ruby files into the index one after another. This file says what
it leaves behind: every file that can be read, and whose document is not skipped, is there with its
own entries and nothing else, all other documents are as they were, and the answer is the number of
the documents that were replaced. None of this depends on the order in which directories list their
entries.

A file that cannot be read is passed over. A file that can be read must be taken, however: where one
has no program, no URI, or a method beyond the lines and columns that editors accept, the walk ends,
and the files after it stay as they were. All this is about file trees, in which every directory can
be listed and every name is a text.
-/

namespace RailsNavigator

/-- A Ruby file that a walk from a root is to come by. -/
def FileTree.HasRubyFile (files : FileTree) (exclude : List String) (root path : String) : Prop :=
  Indexing.isRubyFile path = true ∧
    ∃ tree, files.find root = .ok tree ∧ Lists files exclude root tree path

namespace Indexing

/-- What can be read at a path has a URI and a program. -/
structure Supplies (grammar : Grammar) (files : FileTree) (path uri : String)
    (program : Program) : Prop where
  located : Uri.ofPath path = .ok uri
  parsed : ∃ text, files.readText path = .ok text ∧ (grammar.parse text).value = .ok program

/-- A text can be put into the index as that of a path. -/
def Takes (grammar : Grammar) (path text : String) : Prop :=
  ∃ uri program, Uri.ofPath path = .ok uri ∧ (grammar.parse text).value = .ok program ∧
    (Collector.collect uri program.root).IsInRange

end Indexing

namespace Outcome

theorem ofTree_eq (skip : String → Bool) (uri : String) (program : Program) :
    ofTree skip uri program
      = if (Collector.collect uri program.root).IsInRange then
          if skip uri then unchanged else replaced uri (Collector.collect uri program.root)
        else failed := by
  unfold ofTree
  by_cases inRange : (Collector.collect uri program.root).IsInRange
  · rw [if_neg (mt (Collector.not_isInRange_iff _).mpr (not_not.mpr inRange)), if_pos inRange]
  · rw [if_pos ((Collector.not_isInRange_iff _).mp inRange), if_neg inRange]

variable {grammar : Grammar} {files : FileTree} {skip : String → Bool} {path uri : String}
  {program : Program} {change : Change}

theorem ofFile_eq_ofTree (supplies : Indexing.Supplies grammar files path uri program) :
    ofFile grammar files skip path = ofTree skip uri program := by
  rcases supplies with ⟨located, text, read, parsed⟩
  simp [ofFile, ofRead, read, located, ofText, parsed]

theorem changes_ofFile_of_isInRange (supplies : Indexing.Supplies grammar files path uri program)
    (inRange : (Collector.collect uri program.root).IsInRange) (taken : skip uri = false) :
    (ofFile grammar files skip path).changes
      = [.replaced uri (Collector.collect uri program.root)] := by
  rw [ofFile_eq_ofTree supplies, ofTree_eq, if_pos inRange, taken]
  rfl

theorem isInRange_of_isFailed_eq_false
    (supplies : Indexing.Supplies grammar files path uri program)
    (goesOn : (ofFile grammar files skip path).isFailed = false) :
    (Collector.collect uri program.root).IsInRange := by
  rw [ofFile_eq_ofTree supplies, ofTree_eq] at goesOn
  by_contra notInRange
  simp [notInRange, isFailed] at goesOn

/-- A file that changes the index supplies what it puts in. -/
theorem exists_supplies_of_mem_changes
    (member : change ∈ (ofFile grammar files skip path).changes) :
    ∃ uri program, Indexing.Supplies grammar files path uri program ∧ skip uri = false ∧
      change = .replaced uri (Collector.collect uri program.root) := by
  have outcome : ∃ uri program, Indexing.Supplies grammar files path uri program := by
    simp only [ofFile, ofRead] at member
    cases read : files.readText path with
    | error error => cases error <;> simp [read, changes] at member
    | ok text =>
        simp only [read, Option.filter_none] at member
        cases located : Uri.ofPath path with
        | error error => simp [located, changes] at member
        | ok uri =>
            simp only [located, ofText] at member
            cases parsed : (grammar.parse text).value with
            | error error => simp [parsed, changes] at member
            | ok program => exact ⟨uri, program, located, text, read, parsed⟩
  rcases outcome with ⟨uri, program, supplies⟩
  rw [ofFile_eq_ofTree supplies, ofTree_eq] at member
  refine ⟨uri, program, supplies, ?_⟩
  split at member
  case isFalse => cases member
  case isTrue =>
      split at member
      case isTrue => cases member
      case isFalse taken => exact ⟨Bool.eq_false_iff.mpr taken, List.mem_singleton.mp member⟩

theorem ofPath_of_mem_changes (member : change ∈ (ofFile grammar files skip path).changes) :
    Uri.ofPath path = .ok change.uri := by
  rcases exists_supplies_of_mem_changes member with ⟨uri, program, supplies, -, rfl⟩
  exact supplies.located

/-- A walk ends at a file that can be read and is not taken. -/
theorem isFailed_ofFile_iff (without : path.toList.contains '\x00' = false) :
    (ofFile grammar files skip path).isFailed = true
      ↔ ∃ text, files.readText path = .ok text ∧ ¬Indexing.Takes grammar path text := by
  cases read : files.readText path with
  | error error =>
      -- The character zero in a path is the only reason not to pass over it.
      have notNul : error ≠ .nulInPath := by
        rintro rfl
        rw [FileTree.contains_of_readText_eq_nulInPath read] at without
        cases without
      cases error <;> simp_all [ofFile, ofRead, isFailed]
  | ok text =>
      simp only [Except.ok.injEq, exists_eq_left', Indexing.Takes]
      cases located : Uri.ofPath path with
      | error error => simp [ofFile, ofRead, read, located, isFailed]
      | ok uri =>
          cases parsed : (grammar.parse text).value with
          | error error => simp [ofFile, ofRead, read, located, ofText, parsed, isFailed]
          | ok program =>
              rw [ofFile_eq_ofTree ⟨located, text, read, parsed⟩, ofTree_eq]
              by_cases inRange : (Collector.collect uri program.root).IsInRange
              · cases skip uri <;> simp [inRange, isFailed]
              · simp [inRange, isFailed]

theorem answer?_eq (outcome : Outcome) :
    outcome.answer? = if outcome.isFailed then none else some (!outcome.changes.isEmpty) := by
  cases outcome <;> rfl

/-- At most one document is replaced for a file. -/
theorem add_length_changes (outcome : Outcome) (count : Nat) :
    (if (!outcome.changes.isEmpty) = true then count + 1 else count)
      = count + outcome.changes.length := by
  cases outcome <;> rfl

end Outcome

namespace Indexing

variable (grammar : Grammar) (files : FileTree) (exclude : List String) (skip : String → Bool)
  (root : String) (index : Index)

/-- Files are counted that are replaced, unless the operation ends at one of them. -/
theorem toOption_result_indexEach (count : Nat) (found : List String) :
    ((indexEach grammar files skip count found).result index).toOption
      = if found.any fun path => (Outcome.ofFile grammar files skip path).isFailed then none
        else some (count +
          (found.flatMap fun path => (Outcome.ofFile grammar files skip path).changes).length) := by
  induction found generalizing count index with
  | nil => rfl
  | cons path rest hypothesis =>
      have described := Outcome.describes_indexFile grammar files skip path
      have answered := described.result_eq index
      rw [Outcome.answer?_eq] at answered
      rw [indexEach, result_bind]
      cases result : (indexFile grammar files skip path none).result index with
      | error failure =>
          rw [result] at answered
          cases failed : (Outcome.ofFile grammar files skip path).isFailed with
          | true => simp [failed, Except.toOption]
          | false => simp [failed, Except.toOption] at answered
      | ok replaced =>
          rw [result] at answered
          cases failed : (Outcome.ofFile grammar files skip path).isFailed with
          | true => simp [failed, Except.toOption] at answered
          | false =>
              simp only [failed, Except.toOption, Bool.false_eq_true, if_false,
                Option.some_inj] at answered
              subst answered
              dsimp only
              rw [hypothesis, Outcome.add_length_changes]
              simp [failed, Nat.add_assoc]

variable {grammar files exclude skip root index} {tree : FileTree}

/-- A walk from a root puts in the Ruby files that it lists, and nothing else. -/
theorem after_indexWorkspace (found : files.find root = .ok tree) :
    (indexWorkspace grammar files exclude skip root).after index
      = (indexEach grammar files skip 0
          ((files.walk exclude root tree).filter isRubyFile)).after index := by
  simp only [indexWorkspace, FileTree.filesBelow, found]
  rw [after_bind]
  split <;> rfl

theorem result_indexWorkspace (found : files.find root = .ok tree) :
    (indexWorkspace grammar files exclude skip root).result index
      = (indexEach grammar files skip 0
          ((files.walk exclude root tree).filter isRubyFile)).result index := by
  simp only [indexWorkspace, FileTree.filesBelow, found]
  rw [result_bind]
  cases (indexEach grammar files skip 0
    ((files.walk exclude root tree).filter isRubyFile)).result index <;> rfl

theorem hasRubyFile_of_mem_walk (found : files.find root = .ok tree) {path : String}
    (member : path ∈ (files.walk exclude root tree).filter isRubyFile) :
    files.HasRubyFile exclude root path :=
  ⟨(List.mem_filter.mp member).2, tree, found,
    FileTree.lists_of_mem_walk (List.mem_filter.mp member).1⟩

theorem mem_walk_of_hasRubyFile (found : files.find root = .ok tree) {path text : String}
    (hasFile : files.HasRubyFile exclude root path) (read : files.readText path = .ok text) :
    path ∈ (files.walk exclude root tree).filter isRubyFile := by
  rcases hasFile with ⟨isRuby, other, otherFound, lists⟩
  rw [found, Except.ok.injEq] at otherFound
  subst otherFound
  exact List.mem_filter.mpr
    ⟨lists.mem_walk (FileTree.utf8ByteSize_le_of_readText read), isRuby⟩

theorem contains_of_mem_walk (found : files.find root = .ok tree) (proper : tree.IsProper)
    {path : String} (member : path ∈ (files.walk exclude root tree).filter isRubyFile) :
    path.toList.contains '\x00' = false :=
  FileTree.contains_eq_false_of_lists
    (FileTree.lists_of_mem_walk (List.mem_filter.mp member).1) proper
    (FileTree.contains_eq_false_of_find found)

/-- A walk comes to its end if and only if it takes every Ruby file that can be read. -/
theorem exists_count_iff (found : files.find root = .ok tree) (proper : tree.IsProper) :
    (∃ count, (indexWorkspace grammar files exclude skip root).result index = .ok count)
      ↔ ∀ path text, files.HasRubyFile exclude root path → files.readText path = .ok text →
          Takes grammar path text := by
  have counted := toOption_result_indexEach grammar files skip index 0
    ((files.walk exclude root tree).filter isRubyFile)
  rw [← result_indexWorkspace found] at counted
  have noneFails : ((files.walk exclude root tree).filter isRubyFile).any
      (fun path => (Outcome.ofFile grammar files skip path).isFailed) = false
      ↔ ∀ path text, files.HasRubyFile exclude root path → files.readText path = .ok text →
          Takes grammar path text := by
    rw [List.any_eq_false]
    constructor
    · intro noFailure path text hasFile read
      have member := mem_walk_of_hasRubyFile found hasFile read
      have goesOn := noFailure path member
      rw [Outcome.isFailed_ofFile_iff (contains_of_mem_walk found proper member)] at goesOn
      by_contra refused
      exact goesOn ⟨text, read, refused⟩
    · intro taken path member fails
      rcases (Outcome.isFailed_ofFile_iff (contains_of_mem_walk found proper member)).mp fails with
        ⟨text, read, refused⟩
      exact refused (taken path text (hasRubyFile_of_mem_walk found member) read)
  rw [← noneFails]
  generalize (indexWorkspace grammar files exclude skip root).result index = result at counted ⊢
  generalize ((files.walk exclude root tree).filter isRubyFile).any _ = fails at counted ⊢
  cases result <;> cases fails <;> simp_all [Except.toOption]

theorem Supplies.unique {path uri other : String} {program otherProgram : Program}
    (first : Supplies grammar files path uri program)
    (second : Supplies grammar files path other otherProgram) :
    uri = other ∧ program = otherProgram := by
  rcases first with ⟨located, text, read, parsed⟩
  rcases second with ⟨otherLocated, otherText, otherRead, otherParsed⟩
  rw [located, Except.ok.injEq] at otherLocated
  rw [read, Except.ok.injEq] at otherRead
  subst otherLocated otherRead
  rw [parsed, Except.ok.injEq] at otherParsed
  exact ⟨rfl, otherParsed⟩

end Indexing

namespace Operation

open Indexing

variable {grammar : Grammar} {files : FileTree} {exclude : List String} {skip : String → Bool}
  {root : String} {tree : FileTree}

/-- A walk makes the changes of the files before the first one that is not taken. -/
theorem changes_indexWorkspace (found : files.find root = .ok tree) :
    (indexWorkspace grammar files exclude skip root).changes
      = (((files.walk exclude root tree).filter isRubyFile).takeWhile fun path =>
          !(Outcome.ofFile grammar files skip path).isFailed).flatMap fun path =>
            (Outcome.ofFile grammar files skip path).changes := by
  simp only [changes, FileTree.filesBelow, found, Outcome.changesOfEach, List.takeWhile_map,
    List.flatMap_map]
  rfl

theorem exists_supplies_of_mem_indexWorkspace (found : files.find root = .ok tree)
    {change : Change}
    (member : change ∈ (indexWorkspace grammar files exclude skip root).changes) :
    ∃ path uri program, files.HasRubyFile exclude root path ∧
      Supplies grammar files path uri program ∧ skip uri = false ∧
      change = .replaced uri (Collector.collect uri program.root) := by
  rw [changes_indexWorkspace found] at member
  rcases List.mem_flatMap.mp member with ⟨path, taken, ofFile⟩
  rcases Outcome.exists_supplies_of_mem_changes ofFile with ⟨uri, program, supplies, rest⟩
  exact ⟨path, uri, program,
    hasRubyFile_of_mem_walk found ((List.takeWhile_sublist _).subset taken), supplies, rest⟩

/-- No two of the Ruby files of a workspace have one URI. -/
def HasOwnUris (files : FileTree) (exclude : List String) (root : String) : Prop :=
  ∀ first second uri, files.HasRubyFile exclude root first →
    files.HasRubyFile exclude root second → Uri.ofPath first = .ok uri →
      Uri.ofPath second = .ok uri → first = second

/-- Where files have their own URIs, no document is replaced twice. -/
theorem nodup_map_uri_changes (grammar : Grammar) (skip : String → Bool)
    (found : files.find root = .ok tree) (proper : tree.IsProper)
    (own : HasOwnUris files exclude root) :
    ((indexWorkspace grammar files exclude skip root).changes.map Change.uri).Nodup := by
  rw [changes_indexWorkspace found, List.map_flatMap, List.nodup_flatMap]
  constructor
  · intro path _
    cases Outcome.ofFile grammar files skip path <;> simp [Outcome.changes]
  · have distinct := ((FileTree.nodup_walk files exclude proper root).filter isRubyFile).sublist
      (List.takeWhile_sublist fun path => !(Outcome.ofFile grammar files skip path).isFailed)
    refine distinct.imp_of_mem ?_
    intro first second firstMem secondMem differ uri inFirst inSecond
    rcases List.mem_map.mp inFirst with ⟨change, changeMem, rfl⟩
    rcases List.mem_map.mp inSecond with ⟨other, otherMem, same⟩
    have otherUri := Outcome.ofPath_of_mem_changes otherMem
    rw [same] at otherUri
    exact differ (own first second change.uri
      (hasRubyFile_of_mem_walk found ((List.takeWhile_sublist _).subset firstMem))
      (hasRubyFile_of_mem_walk found ((List.takeWhile_sublist _).subset secondMem))
      (Outcome.ofPath_of_mem_changes changeMem) otherUri)

/-- What a walk replaces has the entries of some file afterwards. -/
theorem exists_records_indexWorkspace {index : Index} {documents : List (String × Collector)}
    (made : index.IsMadeFrom documents) (found : files.find root = .ok tree) {uri : String}
    (replaced : uri ∈ (indexWorkspace grammar files exclude skip root).changes.map Change.uri) :
    skip uri = false ∧ ∃ path program, files.HasRubyFile exclude root path ∧
      Supplies grammar files path uri program ∧
      ((indexWorkspace grammar files exclude skip root).run index).Records uri
        (Collector.collect uri program.root) := by
  rcases Change.exists_last replaced with ⟨earlier, change, rest, changes, rfl, last⟩
  have member : change ∈ (indexWorkspace grammar files exclude skip root).changes := by
    rw [changes]
    exact List.mem_append_right _ List.mem_cons_self
  rcases exists_supplies_of_mem_indexWorkspace found member with
    ⟨path, uri, program, hasFile, supplies, taken, rfl⟩
  exact ⟨taken, path, program, hasFile, supplies, made.records_run changes last⟩

/-- If no other file has its URI, that is its own file. -/
theorem records_indexWorkspace {index : Index} {documents : List (String × Collector)}
    (made : index.IsMadeFrom documents) (found : files.find root = .ok tree)
    {path uri : String} {program : Program}
    (only : ∀ other, files.HasRubyFile exclude root other → Uri.ofPath other = .ok uri →
      other = path)
    (supplies : Supplies grammar files path uri program)
    (replaced : uri ∈ (indexWorkspace grammar files exclude skip root).changes.map Change.uri) :
    ((indexWorkspace grammar files exclude skip root).run index).Records uri
      (Collector.collect uri program.root) := by
  rcases exists_records_indexWorkspace made found replaced with
    ⟨-, other, otherProgram, hasFile, otherSupplies, records⟩
  have same := only other hasFile otherSupplies.located
  subst same
  rw [(supplies.unique otherSupplies).2]
  exact records

/-- A walk that comes to its end replaces all documents that are not skipped, and counts them. -/
theorem replaced_of_result {index : Index} (found : files.find root = .ok tree) {count : Nat}
    (result : (Indexing.indexWorkspace grammar files exclude skip root).result index = .ok count) :
    count = ((indexWorkspace grammar files exclude skip root).changes.map Change.uri).length ∧
    ∀ path uri program, files.HasRubyFile exclude root path →
      Supplies grammar files path uri program → skip uri = false →
        uri ∈ (indexWorkspace grammar files exclude skip root).changes.map Change.uri := by
  have counted := toOption_result_indexEach grammar files skip index 0
    ((files.walk exclude root tree).filter isRubyFile)
  rw [← result_indexWorkspace found, result] at counted
  split at counted
  case isTrue => cases counted
  case isFalse noneFails =>
      have goesOn : ∀ path ∈ (files.walk exclude root tree).filter isRubyFile,
          (Outcome.ofFile grammar files skip path).isFailed = false := by
        simpa using noneFails
      have whole : ((files.walk exclude root tree).filter isRubyFile).takeWhile
          (fun path => !(Outcome.ofFile grammar files skip path).isFailed)
            = (files.walk exclude root tree).filter isRubyFile := by
        rw [List.takeWhile_eq_self_iff]
        intro path member
        rw [goesOn path member]
        rfl
      rw [changes_indexWorkspace found, whole]
      constructor
      · simpa [Except.toOption] using counted
      · intro path uri program hasFile supplies taken
        rcases supplies.parsed with ⟨text, read, -⟩
        have member := mem_walk_of_hasRubyFile found hasFile read
        have inRange := Outcome.isInRange_of_isFailed_eq_false supplies (goesOn path member)
        refine List.mem_map.mpr ⟨.replaced uri (Collector.collect uri program.root), ?_, rfl⟩
        refine List.mem_flatMap.mpr ⟨path, member, ?_⟩
        rw [Outcome.changes_ofFile_of_isInRange supplies inRange taken]
        exact List.mem_singleton.mpr rfl

end Operation

namespace Indexing

variable {grammar : Grammar} {files later : FileTree} {exclude : List String}
  {skip : String → Bool} {root : String}

theorem indexEach_of_relisted (relisted : files.Relisted later) (count : Nat)
    (found : List String) :
    indexEach grammar later skip count found = indexEach grammar files skip count found := by
  induction found generalizing count with
  | nil => rfl
  | cons path rest hypothesis =>
      rw [indexEach, indexEach, indexFile, indexFile, relisted.readText]
      simp only [hypothesis]

/-- A walk does and reports the same in whatever order directories list their entries. -/
theorem indexWorkspace_of_relisted (relisted : files.Relisted later) :
    indexWorkspace grammar later exclude skip root
      = indexWorkspace grammar files exclude skip root := by
  unfold indexWorkspace
  rw [relisted.filesBelow]
  simp only [indexEach_of_relisted relisted]

/-- After any operations, a walk through a workspace comes to its end if and only if it takes every
Ruby file that can be read. It replaces documents of such files that are not skipped, each once and
by its own entries, and leaves all others as they are. If it comes to its end, these are all the
files that are not skipped, and their number is the answer. The order in which directories list
their entries plays no part in this. -/
theorem indexWorkspace_replaces (operations : List Operation) (grammar : Grammar)
    (skip : String → Bool) {tree : FileTree} (found : files.find root = .ok tree)
    (proper : tree.IsProper) (own : Operation.HasOwnUris files exclude root) :
    let index := operations.foldl Operation.run {}
    let walk := indexWorkspace grammar files exclude skip root
    ((∃ count, walk.result index = .ok count) ↔
      ∀ path text, files.HasRubyFile exclude root path → files.readText path = .ok text →
        Takes grammar path text) ∧
    (∃ replaced : List String, replaced.Nodup ∧ index.AgreeExcept replaced (walk.after index) ∧
      (∀ uri ∈ replaced, skip uri = false ∧ ∃ path program,
        files.HasRubyFile exclude root path ∧ Supplies grammar files path uri program) ∧
      (∀ path uri program, files.HasRubyFile exclude root path →
        Supplies grammar files path uri program → uri ∈ replaced →
          (walk.after index).Records uri (Collector.collect uri program.root)) ∧
      ∀ count, walk.result index = .ok count → count = replaced.length ∧
        ∀ path uri program, files.HasRubyFile exclude root path →
          Supplies grammar files path uri program → skip uri = false → uri ∈ replaced) ∧
    ∀ later, files.Relisted later → indexWorkspace grammar later exclude skip root = walk := by
  intro index walk
  rcases Operation.exists_isMadeFrom operations with ⟨documents, made⟩
  refine ⟨exists_count_iff found proper,
    ⟨(Operation.indexWorkspace grammar files exclude skip root).changes.map Change.uri,
      ?_, ?_, ?_, ?_, ?_⟩,
    fun later relisted => indexWorkspace_of_relisted relisted⟩
  · exact Operation.nodup_map_uri_changes grammar skip found proper own
  · exact made.agreeExcept_run (.indexWorkspace grammar files exclude skip root)
      fun change member => List.mem_map.mpr ⟨change, member, rfl⟩
  · intro uri member
    rcases Operation.exists_records_indexWorkspace made found member with
      ⟨taken, path, program, hasFile, supplies, -⟩
    exact ⟨taken, path, program, hasFile, supplies⟩
  · intro path uri program hasFile supplies replaced
    exact Operation.records_indexWorkspace made found
      (fun other otherHas located => own other path uri otherHas hasFile located supplies.located)
      supplies replaced
  · intro count result
    exact Operation.replaced_of_result found result

end Indexing

namespace Request

/-- The definition of a method in a given row. -/
def methodInRow (row : Nat) : Concrete :=
  .node ⟨0, "program", true, false, none, 0, 10, ⟨row, 0⟩, ⟨row, 10⟩⟩
    [.node ⟨1, "method", true, false, none, 0, 10, ⟨row, 0⟩, ⟨row, 10⟩⟩
      [.node ⟨2, "identifier", true, false, some "name", 4, 5, ⟨row, 4⟩, ⟨row, 5⟩⟩ []]]

/-- A grammar for which one text is a method in the first row, and every other a method in the first
row that editors do not accept. -/
def farGrammar : Grammar := fun text =>
  some ⟨methodInRow (if text = "def a; end" then 0 else 2147483648), false⟩

/-- A text that can be parsed has the same methods out of range in every document. -/
theorem exists_of_positionErrors {grammar : Grammar} {text : String}
    {errors : List (Option PositionError)}
    (evaluated : ∀ uri, ((grammar.parse text).value.toOption.map fun program =>
      ((Events.Visit.walk program.root).foldl (Collector.step uri) {}).methods.map
        fun entry => entry.range.positionError?) = some errors) :
    ∃ program, (grammar.parse text).value = .ok program ∧
      ∀ uri, ((Collector.collect uri program.root).methods.map
        fun entry => entry.range.positionError?) = errors := by
  simp only [← Collector.collect_eq_foldl_walk] at evaluated
  cases parsed : (grammar.parse text).value with
  | error error => simp [parsed, Except.toOption] at evaluated
  | ok program =>
      simp only [parsed, Except.toOption, Option.map_some, Option.some_inj] at evaluated
      exact ⟨program, rfl, evaluated⟩

theorem exists_near :
    ∃ near, (farGrammar.parse "def a; end").value = .ok near ∧
      ∀ uri, (Collector.collect uri near.root).methods ≠ [] ∧
        (Collector.collect uri near.root).IsInRange := by
  have near : ∃ near, (farGrammar.parse "def a; end").value = .ok near ∧
      ∀ uri, ((Collector.collect uri near.root).methods.map
        fun entry => entry.range.positionError?) = [none] := by
    apply exists_of_positionErrors
    intro uri
    cbv
  rcases near with ⟨near, parsed, errors⟩
  refine ⟨near, parsed, fun uri => ⟨?_, ?_⟩⟩
  · intro empty
    have errors := errors uri
    simp [empty] at errors
  · rw [Collector.isInRange_iff, errors]
    simp

theorem exists_far :
    ∃ far, (farGrammar.parse "def b; end").value = .ok far ∧
      ∀ uri, ¬(Collector.collect uri far.root).IsInRange := by
  have far : ∃ far, (farGrammar.parse "def b; end").value = .ok far ∧
      ∀ uri, ((Collector.collect uri far.root).methods.map
        fun entry => entry.range.positionError?) = [some ⟨.line, 2147483648⟩] := by
    apply exists_of_positionErrors
    intro uri
    cbv
  rcases far with ⟨far, parsed, errors⟩
  refine ⟨far, parsed, fun uri => ?_⟩
  rw [Collector.isInRange_iff, errors]
  simp

end Request

namespace Indexing

open Request

/-- A workspace with a file that is taken, and in a directory one that is not. -/
def nearAndFar : FileTree :=
  .directory [("a.rb", .file (Text.Utf8.encode "def a; end".toList)),
    ("far", .directory [("b.rb", .file (Text.Utf8.encode "def b; end".toList))])]

theorem isProper_nearAndFar : nearAndFar.IsProper := by
  refine .directory (by decide) ?_ ?_
  · simp [FileTree.IsName]
  · simp only [List.mem_cons, List.not_mem_nil, or_false, forall_eq_or_imp, forall_eq]
    refine ⟨.file _, .directory (by decide) ?_ ?_⟩
    · simp [FileTree.IsName]
    · simp only [List.mem_singleton, forall_eq]
      exact .file _

/-- The files around the workspace. -/
def aroundNearAndFar : FileTree := .directory [("ws", nearAndFar)]

theorem find_nearAndFar : aroundNearAndFar.find "/ws" = .ok nearAndFar := rfl

theorem hasRubyFile_nearAndFar_iff {exclude : List String} {path : String} :
    aroundNearAndFar.HasRubyFile exclude "/ws" path
      ↔ path = "/ws/a.rb" ∨ path = "/ws/far/b.rb" ∧ "far" ∉ exclude := by
  constructor
  · rintro ⟨-, tree, found, lists⟩
    rw [find_nearAndFar, Except.ok.injEq] at found
    subst found
    cases lists with
    | entry member notDirectory =>
        simp only [List.mem_cons, Prod.mk.injEq, List.not_mem_nil, or_false] at member
        rcases member with ⟨rfl, rfl⟩ | ⟨rfl, rfl⟩
        · exact .inl rfl
        · cases notDirectory
    | deeper member entered lists =>
        simp only [List.mem_cons, Prod.mk.injEq, List.not_mem_nil, or_false] at member
        rcases member with ⟨rfl, rfl⟩ | ⟨rfl, rfl⟩
        · cases lists
        · cases lists with
          | entry inner =>
              cases List.mem_singleton.mp inner
              exact .inr ⟨rfl, entered⟩
          | deeper inner _ lists =>
              cases List.mem_singleton.mp inner
              cases lists
  · rintro (rfl | ⟨rfl, entered⟩)
    · exact ⟨by decide, nearAndFar, find_nearAndFar, .entry (List.mem_cons_self ..) rfl⟩
    · exact ⟨by decide, nearAndFar, find_nearAndFar,
        .deeper (List.mem_cons_of_mem _ (List.mem_cons_self ..)) entered
          (.entry (List.mem_cons_self ..) rfl)⟩

theorem hasOwnUris_nearAndFar (exclude : List String) :
    Operation.HasOwnUris aroundNearAndFar exclude "/ws" := by
  have near : Uri.ofPath "/ws/a.rb" = .ok "file:///ws/a.rb" := by cbv
  have far : Uri.ofPath "/ws/far/b.rb" = .ok "file:///ws/far/b.rb" := by cbv
  intro first second uri firstHas secondHas firstUri secondUri
  rcases hasRubyFile_nearAndFar_iff.mp firstHas with rfl | ⟨rfl, -⟩ <;>
    rcases hasRubyFile_nearAndFar_iff.mp secondHas with rfl | ⟨rfl, -⟩
  · rfl
  · simp_all
  · simp_all
  · rfl

/-- One of the two files is taken, and the other is not. -/
theorem supplies_nearAndFar :
    (∃ near, Supplies farGrammar aroundNearAndFar "/ws/a.rb" "file:///ws/a.rb" near ∧
      (Collector.collect "file:///ws/a.rb" near.root).IsInRange) ∧
    ∃ far, Supplies farGrammar aroundNearAndFar "/ws/far/b.rb" "file:///ws/far/b.rb" far ∧
      ¬(Collector.collect "file:///ws/far/b.rb" far.root).IsInRange := by
  rcases exists_near with ⟨near, nearParses, isNear⟩
  rcases exists_far with ⟨far, farParses, isFar⟩
  exact ⟨⟨near, ⟨by cbv, "def a; end", by decide +kernel, nearParses⟩, (isNear _).2⟩,
    ⟨far, ⟨by cbv, "def b; end", by decide +kernel, farParses⟩, isFar _⟩⟩

/-- Without the directory, the walk comes to its end and the other file is there; with it, the walk
does not come to its end. -/
theorem indexWorkspace_replaces_nearAndFar :
    (∃ (count : Nat) (near : Program),
      (indexWorkspace farGrammar aroundNearAndFar ["far"] (fun _ => false) "/ws").result {}
        = .ok count ∧
      ((indexWorkspace farGrammar aroundNearAndFar ["far"] (fun _ => false) "/ws").after {}).Records
        "file:///ws/a.rb" (Collector.collect "file:///ws/a.rb" near.root)) ∧
    ¬∃ count,
      (indexWorkspace farGrammar aroundNearAndFar [] (fun _ => false) "/ws").result {}
        = .ok count := by
  rcases supplies_nearAndFar with ⟨⟨near, nearSupplies, inRange⟩, far, farSupplies, notInRange⟩
  have nearHas : aroundNearAndFar.HasRubyFile ["far"] "/ws" "/ws/a.rb" :=
    hasRubyFile_nearAndFar_iff.mpr (.inl rfl)
  have farHas : aroundNearAndFar.HasRubyFile [] "/ws" "/ws/far/b.rb" :=
    hasRubyFile_nearAndFar_iff.mpr (.inr ⟨rfl, by simp⟩)
  have without := indexWorkspace_replaces [] farGrammar (fun _ => false) find_nearAndFar
    isProper_nearAndFar (hasOwnUris_nearAndFar ["far"])
  have within := indexWorkspace_replaces [] farGrammar (fun _ => false) find_nearAndFar
    isProper_nearAndFar (hasOwnUris_nearAndFar [])
  constructor
  · rcases without with ⟨complete, ⟨replaced, -, -, -, records, all⟩, -⟩
    have taken : ∀ path text, aroundNearAndFar.HasRubyFile ["far"] "/ws" path →
        aroundNearAndFar.readText path = .ok text → Takes farGrammar path text := by
      intro path text hasFile read
      rcases hasRubyFile_nearAndFar_iff.mp hasFile with rfl | ⟨-, excluded⟩
      · rcases nearSupplies with ⟨located, known, isKnown, parsed⟩
        rw [isKnown, Except.ok.injEq] at read
        subst read
        exact ⟨_, near, located, parsed, inRange⟩
      · simp at excluded
    rcases complete.mpr taken with ⟨count, result⟩
    exact ⟨count, near, result, records _ _ _ nearHas nearSupplies
      ((all count result).2 _ _ _ nearHas nearSupplies rfl)⟩
  · intro succeeds
    rcases farSupplies with ⟨located, text, read, parsed⟩
    rcases within.1.mp succeeds _ text farHas read with
      ⟨uri, program, otherLocated, otherParsed, beyond⟩
    rw [located, Except.ok.injEq] at otherLocated
    rw [parsed, Except.ok.injEq] at otherParsed
    subst otherLocated otherParsed
    exact notInRange beyond

end Indexing

end RailsNavigator
