import RailsNavigator.Proofs.Index.Workspace
import RailsNavigator.Proofs.Server.Requests

/-!
# Trees and the index

The server keeps the trees of documents and an index of methods and namespaces, and several requests
write to both: parses put in the entries of a tree, while walks through the workspace and documents
that are closed put in those of files. A document with a tree is passed over by the latter. This
file shows that whatever the requests are and in whatever order they come, the index has for every
document with a tree exactly the entries of that tree.

There is one exception. Editors do not accept lines and columns beyond a limit. If a method lies
there, the entries of its tree are refused as a whole, but only after the tree was kept; the index
stays as it was.
-/

namespace RailsNavigator

namespace Server

/-- The index is made from documents, and a document with a tree is there with the entries of this
tree, if they are in range. -/
def IsLinked (server : Server) : Prop :=
  ∃ documents, server.index.IsMadeFrom documents ∧
    ∀ (uri : String) (program : Program), server.trees[uri]? = some program →
      (Collector.collect uri program.root).IsInRange →
        (documents.filter fun document => document.1 == uri)
          = [(uri, Collector.collect uri program.root)]

theorem isLinked_start (host : Runner.Host) : (Server.start host).value.IsLinked := by
  refine ⟨[], ⟨rfl, by simp, by simp⟩, ?_⟩
  intro uri program found
  simp [Server.start, Traced.through] at found

variable {server : Server}

/-- What is recorded for a document with a tree. -/
theorem IsLinked.records_iff (linked : server.IsLinked) {uri : String} {program : Program}
    (found : server.trees[uri]? = some program) :
    server.index.Records uri (Collector.collect uri program.root)
      ↔ (Collector.collect uri program.root).IsInRange := by
  rcases linked with ⟨documents, made, links⟩
  exact ⟨made.isInRange_of_records, fun inRange => made.records (links uri program found inRange)⟩

/-- An operation on the index that passes over the documents with trees keeps the link. -/
theorem IsLinked.operation (linked : server.IsLinked) (operation : Operation)
    (spares : ∀ change ∈ operation.changes, server.isOpen change.uri = false) :
    IsLinked { server with index := operation.run server.index } := by
  rcases linked with ⟨documents, made, links⟩
  refine ⟨_, made.run operation, ?_⟩
  intro uri program found inRange
  rw [Change.filter_foldl_onto (· == uri), links uri program found inRange]
  intro change member
  rw [beq_eq_false_iff_ne]
  rintro rfl
  have closed := spares change member
  rw [isOpen_eq_isSome] at closed
  change server.trees[change.uri]? = some program at found
  simp [found] at closed

/-- The changes that come with a tree. -/
theorem changes_indexTree (uri : String) (program : Program) :
    (Operation.indexTree (fun _ => false) uri program).changes
      = if (Collector.collect uri program.root).IsInRange then
          [.replaced uri (Collector.collect uri program.root)]
        else [] := by
  simp only [Operation.changes, Outcome.ofTree]
  by_cases inRange : (Collector.collect uri program.root).IsInRange
  · rw [if_neg (mt (Collector.not_isInRange_iff _).mpr (not_not.mpr inRange)), if_pos inRange]
    rfl
  · rw [if_pos ((Collector.not_isInRange_iff _).mp inRange), if_neg inRange]
    rfl

/-- The server with the tree of a document, and with the entries as they were. -/
def withTree (server : Server) (uri : String) (program : Program) : Server :=
  { server with trees := server.trees.insert uri program }

/-- A tree whose entries are refused is kept, and nothing else changes. -/
theorem adopted_eq_of_not_isInRange {uri : String} {program : Program}
    (notInRange : ¬(Collector.collect uri program.root).IsInRange) :
    server.adopted uri program = server.withTree uri program := by
  rw [adopted, Operation.run_eq_foldl_changes, changes_indexTree, if_neg notInRange]
  rfl

/-- A tree comes with its entries. -/
theorem IsLinked.adopted (linked : server.IsLinked) (uri : String) (program : Program) :
    (server.adopted uri program).IsLinked := by
  rcases linked with ⟨documents, made, links⟩
  refine ⟨_, made.run (.indexTree (fun _ => false) uri program), ?_⟩
  intro other otherProgram found inRange
  rw [changes_indexTree]
  simp only [Server.adopted, Std.ExtTreeMap.getElem?_insert, Std.compare_eq_iff_eq] at found
  by_cases same : uri = other
  · subst same
    rw [if_pos rfl, Option.some_inj] at found
    subst found
    rw [if_pos inRange]
    exact Change.filter_onto_replaced uri _ documents
  · rw [if_neg same] at found
    rw [Change.filter_foldl_onto (· == other), links other otherProgram found inRange]
    intro change member
    split at member
    · rw [List.mem_singleton.mp member]
      exact beq_false_of_ne same
    · cases member

theorem IsLinked.parsed (linked : server.IsLinked) (grammar : Grammar) (uri : String)
    (text : Except FileError String) : (server.parsed grammar uri text).IsLinked := by
  unfold Server.parsed
  cases grammar.program? text with
  | none => exact linked
  | some program => exact linked.adopted uri program

/-- Without a tree, nothing is asked of the entries of its document. -/
theorem IsLinked.of_trees {later : Server} (linked : server.IsLinked)
    (sameIndex : later.index = server.index)
    (fewer : ∀ (uri : String) (program : Program), later.trees[uri]? = some program →
      server.trees[uri]? = some program) : later.IsLinked := by
  rcases linked with ⟨documents, made, links⟩
  refine ⟨documents, sameIndex ▸ made, ?_⟩
  intro uri program found
  exact links uri program (fewer uri program found)

end Server

namespace Serving

/-- The entries of a tree are taken if they are in range, and else refused for a position. -/
theorem result_indexTree (uri : String) (program : Program) (index : Index) :
    if (Collector.collect uri program.root).IsInRange then
      (Indexing.indexTree (fun _ => false) uri program).result index = .ok true
    else ∃ error,
      (Indexing.indexTree (fun _ => false) uri program).result index
        = .error (.position error) := by
  unfold Indexing.indexTree
  generalize Collector.collect uri program.root = entries
  dsimp only
  cases beyond : entries.methods.findSome? fun entry => entry.range.positionError? with
  | none =>
      have inRange : entries.IsInRange := List.findSome?_eq_none_iff.mp beyond
      rw [if_pos inRange]
      rfl
  | some error =>
      rcases List.exists_of_findSome?_eq_some beyond with ⟨entry, member, isError⟩
      have notInRange : ¬entries.IsInRange := by
        intro inRange
        rw [inRange entry member] at isError
        cases isError
      rw [if_neg notInRange]
      exact ⟨error, rfl⟩

section Parse

variable {world : World} {text : Except FileError String} {program : Program}
  (uri : String) (server : Server)

theorem result_parse_of_none (fails : world.grammar.program? text = none) :
    (parse world uri text).result server = .ok false := by
  cases text with
  | error error => rfl
  | ok text =>
      simp only [Grammar.program?, Except.toOption, Option.bind_some] at fails
      simp only [parse, result_tracing_bind]
      cases parsed : (world.grammar.parse text).value with
      | error error => rfl
      | ok program => simp [parsed] at fails

theorem result_parse_of_some (succeeds : world.grammar.program? text = some program) :
    (parse world uri text).result server
      = match (Indexing.indexTree (fun _ => false) uri program).result server.index with
        | .error error => .error (.failure error)
        | .ok _ => .ok true := by
  cases text with
  | error error => cases succeeds
  | ok text =>
      simp only [Grammar.program?, Except.toOption, Option.bind_some] at succeeds
      simp only [parse, result_tracing_bind]
      cases parsed : (world.grammar.parse text).value with
      | error error => simp [parsed] at succeeds
      | ok found =>
          simp only [parsed, Option.some_inj] at succeeds
          subst succeeds
          dsimp only
          rw [result_bind, adopt, result_modify_bind, result_indexing_bind]
          dsimp only
          cases (Indexing.indexTree (fun _ => false) uri found).result server.index <;> rfl

theorem after_parse_of_none (fails : world.grammar.program? text = none) :
    (parse world uri text).after server = server := by
  rw [after_parse, Server.parsed, fails, Option.elim_none]

theorem after_parse_of_some (succeeds : world.grammar.program? text = some program) :
    (parse world uri text).after server = server.adopted uri program := by
  rw [after_parse, Server.parsed, succeeds, Option.elim_some]

end Parse

/-- Closing a document does not touch those that have a tree still. -/
theorem isOpen_of_mem_closing {world : World} {uri : String} {server : Server} {change : Change}
    (closed : server.isOpen uri = false)
    (member : change ∈ (server.closing world uri).changes) : server.isOpen change.uri = false := by
  unfold Server.closing at member
  rcases Operation.putsTree_of_mem_changes member with puts | ⟨removed, isRemove, rfl⟩
  · rcases puts with ⟨own, program, rfl, -, notSkipped⟩
    split at notSkipped
    · exact notSkipped
    · simp_all [Operation.changes]
  · split at isRemove
    · cases isRemove
    · cases isRemove
      exact closed

/-- A walk through the workspace does not touch the documents that have a tree. -/
theorem isOpen_of_mem_walking {world : World} {root : String} {server : Server} {change : Change}
    (member : change ∈ (server.walking world root).changes) : server.isOpen change.uri = false := by
  rcases Operation.putsTree_of_mem_changes member with ⟨uri, program, rfl, -, notSkipped⟩ | other
  · exact notSkipped
  · rcases other with ⟨uri, impossible, -⟩
    cases impossible

/-- One edit leaves trees and index linked. -/
theorem isLinked_serve (world : World) (step : Edit) {server : Server} (linked : server.IsLinked) :
    ((step.serve world).after server).IsLinked := by
  cases step with
  | opened uri text =>
      rw [Edit.serve, after_openDocument]
      split
      · exact linked
      · have added : (server.addDocument uri text).IsLinked := linked
        exact added.parsed _ _ _
  | changed uri text =>
      rw [Edit.serve, after_changeDocument]
      split
      · exact linked
      · dsimp only
        split
        · exact linked
        · apply linked.of_trees <;> simp [Server.schedule, Server.setText]
  | expired task =>
      rw [Edit.serve, after_expire]
      split
      · exact linked
      · exact linked.parsed _ _ _
  | closed uri =>
      rw [Edit.serve, after_closeDocument]
      have dropped : ((server.dropDocument uri).dropTree uri).IsLinked := by
        apply linked.of_trees
        · simp [Server.dropTree, Server.dropDocument]
        · simp [Server.dropTree, Server.dropDocument, Std.ExtTreeMap.getElem?_erase]
      apply dropped.operation
      intro change member
      apply isOpen_of_mem_closing _ member
      simp [Server.isOpen, Server.dropTree]

end Serving

/-- No step cuts the link between trees and index. -/
theorem Server.isKept_isLinked : Server.IsKept Server.IsLinked where
  edit world step _ linked := Serving.isLinked_serve world step linked
  parsed grammar uri text _ linked := linked.parsed grammar uri text
  walked _ _ _ linked := linked.operation _ fun _ member => Serving.isOpen_of_mem_walking member
  settings _ _ _ linked := linked
  session _ _ linked := linked

namespace Request

variable (host : Runner.Host) (requests : List (World × Request))

theorem isLinked_run : (run host requests).IsLinked :=
  Server.isKept_isLinked.run host (Server.isLinked_start host) requests

/-- After any requests, the entries of a document with a tree are those of the tree if and only if
all of its methods are in range. A text that cannot be parsed leaves everything as it was. One that
can be parsed gives a tree, and its entries too if they are in range; if not, the request fails with
the tree in place and the index as it was. -/
theorem trees_agree_with_index :
    (∀ (uri : String) (program : Program),
      (run host requests).trees[uri]? = some program →
        ((run host requests).index.Records uri (Collector.collect uri program.root)
          ↔ (Collector.collect uri program.root).IsInRange)) ∧
    ∀ (world : World) (uri : String) (text : Except FileError String),
      (world.grammar.program? text = none →
        (Serving.parse world uri text).result (run host requests) = .ok false ∧
        (Serving.parse world uri text).after (run host requests) = run host requests) ∧
      ∀ program, world.grammar.program? text = some program →
        if (Collector.collect uri program.root).IsInRange then
          (Serving.parse world uri text).result (run host requests) = .ok true ∧
          ((Serving.parse world uri text).after (run host requests)).trees
            = (run host requests).trees.insert uri program ∧
          ((Serving.parse world uri text).after (run host requests)).index.Records uri
            (Collector.collect uri program.root)
        else
          (∃ error, (Serving.parse world uri text).result (run host requests)
            = .error (.failure (.position error))) ∧
          (Serving.parse world uri text).after (run host requests)
            = (run host requests).withTree uri program := by
  have linked := isLinked_run host requests
  generalize run host requests = server at linked ⊢
  refine ⟨fun uri program => linked.records_iff, fun world uri text => ⟨fun fails => ?_, ?_⟩⟩
  · exact ⟨Serving.result_parse_of_none uri server fails,
      Serving.after_parse_of_none uri server fails⟩
  · intro program succeeds
    have taken := Serving.result_indexTree uri program server.index
    rw [Serving.result_parse_of_some uri server succeeds,
      Serving.after_parse_of_some uri server succeeds]
    split at taken
    case isTrue inRange =>
        have found : (server.adopted uri program).trees[uri]? = some program := by
          simp [Server.adopted]
        rw [if_pos inRange, taken]
        exact ⟨rfl, rfl, ((linked.adopted uri program).records_iff found).mpr inRange⟩
    case isFalse notInRange =>
        rcases taken with ⟨error, refused⟩
        rw [if_neg notInRange, refused, Server.adopted_eq_of_not_isInRange notInRange]
        exact ⟨⟨error, rfl⟩, rfl⟩

/-- Two documents are opened, of which the second has a method out of range. -/
def openedNearAndFar : List (World × Request) :=
  [(⟨farGrammar, .directory [], none⟩, .edit (.opened "file:///a.rb" "def a; end")),
    (⟨farGrammar, .directory [], none⟩, .edit (.opened "file:///b.rb" "def b; end"))]

theorem trees_agree_with_index_openedNearAndFar :
    ∃ near far : Program,
      (run {} openedNearAndFar).trees["file:///a.rb"]? = some near ∧
      (run {} openedNearAndFar).trees["file:///b.rb"]? = some far ∧
      (run {} openedNearAndFar).index.Records "file:///a.rb"
        (Collector.collect "file:///a.rb" near.root) ∧
      ¬(run {} openedNearAndFar).index.Records "file:///b.rb"
        (Collector.collect "file:///b.rb" far.root) := by
  have nearErrors : ((farGrammar.program? (.ok "def a; end")).map fun program =>
      ((Events.Visit.walk program.root).foldl (Collector.step "file:///a.rb") {}).methods.map
        fun entry => entry.range.positionError?) = some [none] := by cbv
  have farErrors : ((farGrammar.program? (.ok "def b; end")).map fun program =>
      ((Events.Visit.walk program.root).foldl (Collector.step "file:///b.rb") {}).methods.map
        fun entry => entry.range.positionError?) = some [some ⟨.line, 2147483648⟩] := by cbv
  simp only [← Collector.collect_eq_foldl_walk] at nearErrors farErrors
  rcases Option.map_eq_some_iff.mp nearErrors with ⟨near, nearParses, nearRange⟩
  rcases Option.map_eq_some_iff.mp farErrors with ⟨far, farParses, farRange⟩
  have trees : ∀ uri : String, (run {} openedNearAndFar).trees[uri]?
      = if "file:///b.rb" = uri then some far
        else if "file:///a.rb" = uri then some near else none := by
    intro uri
    have nearSplit : ∃ parts, Uri.split "file:///a.rb" = .ok parts := ⟨_, rfl⟩
    have farSplit : ∃ parts, Uri.split "file:///b.rb" = .ok parts := ⟨_, rfl⟩
    rcases nearSplit with ⟨nearParts, nearSplit⟩
    rcases farSplit with ⟨farParts, farSplit⟩
    simp only [run, openedNearAndFar, List.foldl_cons, List.foldl_nil, Request.after, Edit.serve,
      Serving.after_openDocument, nearSplit, farSplit, Server.getElem?_trees_parsed,
      Server.trees_addDocument, nearParses, farParses, Option.some_or]
    rfl
  rcases trees_agree_with_index {} openedNearAndFar with ⟨agree, -⟩
  refine ⟨near, far, trees "file:///a.rb", trees "file:///b.rb", ?_, ?_⟩
  · rw [agree _ near (trees "file:///a.rb")]
    rw [Collector.isInRange_iff, nearRange]
    simp
  · rw [agree _ far (trees "file:///b.rb")]
    rw [Collector.isInRange_iff, farRange]
    simp

end Request

end RailsNavigator
