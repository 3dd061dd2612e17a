import RailsNavigator.Proofs.Server.Links

/-!
# Open documents and their files

A walk through the workspace is to pass over the files of open documents. It knows a file by the URI
of its path and a document by the URI that the editor gave it, and compares the two as they are
written. This file says what that comes to. Every open document keeps its entries, however its URI
is written. A file, however, is passed over if and only if a document is open under the URI of its
path. Under any other spelling of that URI the document is open and the file is put in as well.
-/

namespace RailsNavigator

namespace Serving

variable {world : World} {root : String} {tree : FileTree}

theorem indexBelow_of_find (found : world.files.find root = .ok tree) (server : Server) :
    (indexBelow world (some root)).after server
      = { server with index := (server.walking world root).run server.index } ∧
    (indexBelow world (some root)).result server
      = .ok ((Indexing.indexWorkspace world.grammar world.files server.settings.indexExclude
          server.isOpen root).result server.index) := by
  have notEmpty : root ≠ "" := by
    rintro rfl
    cases found
  unfold indexBelow
  split
  case h_1 impossible => cases impossible
  case h_2 impossible => exact absurd (Option.some.inj impossible) notEmpty
  case h_3 isRoot =>
      cases isRoot
      exact ⟨rfl, rfl⟩

/-- A walk changes the index and nothing else. -/
theorem after_indexWorkspace (found : world.files.find root = .ok tree) (server : Server) :
    (indexWorkspace world (some root)).after server
      = { server with index := (server.walking world root).run server.index } := by
  rcases indexBelow_of_find found server with ⟨after, result⟩
  rw [indexWorkspace, after_bind, result, after]
  dsimp only
  split <;> rfl

theorem result_indexWorkspace_eq_ok_iff (found : world.files.find root = .ok tree)
    (server : Server) (count : Nat) :
    (indexWorkspace world (some root)).result server = .ok count
      ↔ (Indexing.indexWorkspace world.grammar world.files server.settings.indexExclude
          server.isOpen root).result server.index = .ok count := by
  rw [indexWorkspace, result_bind, (indexBelow_of_find found server).2]
  dsimp only
  split
  case h_1 counted isCounted => rw [isCounted, result_pure, Except.ok.injEq, Except.ok.injEq]
  case h_2 error isError =>
      rw [isError]
      constructor <;> intro impossible <;> cases impossible

end Serving

namespace Request

/-- After any requests, a walk through the workspace replaces documents without a tree by the
entries of files, and leaves all others as they are. So every document with a tree keeps its
entries, however its URI is written, and nothing is put in of a file if a document has a tree under
the URI of its path. These are all the files that are passed over: if the walk comes to its end, it
puts in the entries of any other file that can be parsed, be the file open under another spelling or
not. -/
theorem walk_passes_over_open_uris (host : Runner.Host) (requests : List (World × Request))
    (world : World) {root : String} {tree : FileTree} (found : world.files.find root = .ok tree) :
    let server := run host requests
    let walk := Serving.indexWorkspace world (some root)
    let later := walk.after server
    let exclude := server.settings.indexExclude
    later = { server with index := later.index } ∧
    ∃ replaced : List String, server.index.AgreeExcept replaced later.index ∧
      (∀ uri ∈ replaced, server.isOpen uri = false ∧ ∃ path program,
        world.files.HasRubyFile exclude root path ∧
        Indexing.Supplies world.grammar world.files path uri program ∧
        later.index.Records uri (Collector.collect uri program.root)) ∧
      (∀ uri program, server.trees[uri]? = some program →
        uri ∉ replaced ∧ ((Collector.collect uri program.root).IsInRange →
          later.index.Records uri (Collector.collect uri program.root))) ∧
      (∀ path uri, Uri.ofPath path = .ok uri → server.isOpen uri = true →
        ∀ other program, Indexing.Supplies world.grammar world.files path other program →
          other ∉ replaced) ∧
      ∀ path uri program count, world.files.HasRubyFile exclude root path →
        Indexing.Supplies world.grammar world.files path uri program →
        (∀ other, world.files.HasRubyFile exclude root other → Uri.ofPath other = .ok uri →
          other = path) →
        walk.result server = .ok count →
          (uri ∈ replaced ↔ server.isOpen uri = false) ∧
          (server.isOpen uri = false →
            later.index.Records uri (Collector.collect uri program.root)) := by
  intro server walk later exclude
  have linked : server.IsLinked := isLinked_run host requests
  have isLater : later = { server with index := (server.walking world root).run server.index } :=
    Serving.after_indexWorkspace found server
  have stays : later.IsLinked := by
    rw [isLater]
    exact linked.operation _ fun _ member => Serving.isOpen_of_mem_walking member
  have index : later.index = (server.walking world root).run server.index := by
    rw [isLater]
  rcases linked with ⟨documents, made, -⟩
  have closed : ∀ uri ∈ (server.walking world root).changes.map Change.uri,
      server.isOpen uri = false := by
    intro uri member
    rcases List.mem_map.mp member with ⟨change, changeMem, rfl⟩
    exact Serving.isOpen_of_mem_walking changeMem
  refine ⟨by rw [isLater], (server.walking world root).changes.map Change.uri,
    ?_, ?_, ?_, ?_, ?_⟩
  · rw [index]
    exact made.agreeExcept_run _ fun change member => List.mem_map.mpr ⟨change, member, rfl⟩
  · rw [index]
    intro uri replaced
    exact Operation.exists_records_indexWorkspace made found replaced
  · intro uri program hasTree
    constructor
    · intro replaced
      have isClosed := closed uri replaced
      rw [Server.isOpen_eq_isSome, hasTree] at isClosed
      cases isClosed
    · apply (stays.records_iff _).mpr
      rw [isLater]
      exact hasTree
  · intro path uri located isOpen other program supplies replaced
    rw [supplies.located, Except.ok.injEq] at located
    rw [← located, closed other replaced] at isOpen
    cases isOpen
  · intro path uri program count hasFile supplies only result
    have counted := (Serving.result_indexWorkspace_eq_ok_iff found server count).mp result
    have replaced :=
      (Operation.replaced_of_result found counted).2 path uri program hasFile supplies
    refine ⟨⟨closed uri, replaced⟩, fun isClosed => ?_⟩
    rw [index]
    exact Operation.records_indexWorkspace made found only supplies (replaced isClosed)

/-- A workspace with one file. -/
def soleFile : FileTree :=
  .directory [("a.rb", .file (Text.Utf8.encode "def a; end".toList))]

def soleFileWorld : World := ⟨farGrammar, .directory [("ws", soleFile)], none⟩

/-- The file is opened, and one letter of its name is written as its code. -/
def openedEncoded : List (World × Request) :=
  [(soleFileWorld, .edit (.opened "file:///ws/%61.rb" "def a; end"))]

theorem find_soleFile : soleFileWorld.files.find "/ws" = .ok soleFile := rfl

theorem isProper_soleFile : soleFile.IsProper := by
  refine .directory (by decide) ?_ ?_
  · simp [FileTree.IsName]
  · simp only [List.mem_singleton, forall_eq]
    exact .file _

theorem hasRubyFile_soleFile_iff {exclude : List String} {path : String} :
    soleFileWorld.files.HasRubyFile exclude "/ws" path ↔ path = "/ws/a.rb" := by
  constructor
  · rintro ⟨-, tree, found, lists⟩
    rw [find_soleFile, Except.ok.injEq] at found
    subst found
    cases lists with
    | entry member =>
        cases List.mem_singleton.mp member
        rfl
    | deeper member _ lists =>
        cases List.mem_singleton.mp member
        cases lists
  · rintro rfl
    exact ⟨by decide, soleFile, find_soleFile, .entry (List.mem_cons_self ..) rfl⟩

/-- The document and the file, whose paths are one, are both in the index after the walk. -/
theorem walk_passes_over_open_uris_openedEncoded :
    (Uri.path? "file:///ws/%61.rb").value = some "/ws/a.rb" ∧
    Uri.ofPath "/ws/a.rb" = .ok "file:///ws/a.rb" ∧
    ∃ program : Program, (Collector.collect "file:///ws/a.rb" program.root).methods ≠ [] ∧
      ((Serving.indexWorkspace soleFileWorld (some "/ws")).after
        (run {} openedEncoded)).index.Records "file:///ws/%61.rb"
          (Collector.collect "file:///ws/%61.rb" program.root) ∧
      ((Serving.indexWorkspace soleFileWorld (some "/ws")).after
        (run {} openedEncoded)).index.Records "file:///ws/a.rb"
          (Collector.collect "file:///ws/a.rb" program.root) := by
  have located : Uri.ofPath "/ws/a.rb" = .ok "file:///ws/a.rb" := by cbv
  have read : soleFileWorld.files.readText "/ws/a.rb" = .ok "def a; end" := by decide +kernel
  rcases exists_near with ⟨near, parsed, isNear⟩
  have supplies : Indexing.Supplies farGrammar soleFileWorld.files "/ws/a.rb" "file:///ws/a.rb"
      near := ⟨located, _, read, parsed⟩
  have trees : ∀ uri, (run {} openedEncoded).trees[uri]?
      = if "file:///ws/%61.rb" = uri then some near else none := by
    intro uri
    rw [openedEncoded, getElem?_trees_run_opened {} soleFileWorld rfl,
      show soleFileWorld.grammar = farGrammar from rfl, Grammar.program?_of_parse parsed]
  have notOpen : (run {} openedEncoded).isOpen "file:///ws/a.rb" = false := by
    rw [Server.isOpen_eq_isSome, trees]
    rfl
  rcases walk_passes_over_open_uris {} openedEncoded soleFileWorld find_soleFile with
    ⟨-, replaced, -, -, keeps, -, putsIn⟩
  -- The walk takes the one file that there is.
  have comesToEnd : ∃ count, (Indexing.indexWorkspace farGrammar soleFileWorld.files
      (run {} openedEncoded).settings.indexExclude (run {} openedEncoded).isOpen "/ws").result
        (run {} openedEncoded).index = .ok count := by
    refine (Indexing.exists_count_iff find_soleFile isProper_soleFile).mpr ?_
    intro path text hasFile isText
    rw [hasRubyFile_soleFile_iff.mp hasFile] at isText ⊢
    rw [read, Except.ok.injEq] at isText
    subst isText
    exact ⟨_, near, located, parsed, (isNear _).2⟩
  rcases comesToEnd with ⟨count, counted⟩
  have result := (Serving.result_indexWorkspace_eq_ok_iff find_soleFile _ count).mpr counted
  refine ⟨by decide +kernel, located, near, (isNear _).1, ?_, ?_⟩
  · exact (keeps _ near (trees _)).2 (isNear _).2
  · refine (putsIn _ _ near count (hasRubyFile_soleFile_iff.mpr rfl) supplies ?_ result).2 notOpen
    intro other hasFile _
    exact hasRubyFile_soleFile_iff.mp hasFile

end Request

end RailsNavigator
