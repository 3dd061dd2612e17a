import RailsNavigator.Proofs.Server.Edits
import RailsNavigator.Proofs.Server.Links
import RailsNavigator.Proofs.Workspace.Resolution

/-!
# Closed documents

When a document is closed, its tree and its pending parse are dropped, and the index goes back to
what was saved. This file says for every history of requests and every state of the files what that
comes to. Without a file, nothing of the document is left. A file that can be read gives its own
entries. But a file that is there and cannot be read changes nothing, so that the entries of the
text that was discarded stay.
-/

namespace RailsNavigator

/-- The file that was saved under a URI. -/
def FileTree.savedFile? (files : FileTree) (uri : String) : Option FileTree :=
  (Uri.path? uri).value.bind fun path => (files.find path).toOption.filter FileTree.isFile

namespace Server

/-- Every task that waits is in the table, under the URI of its document. -/
def IsTabled (server : Server) : Prop :=
  ∀ task number, server.Awaits task number →
    ∃ buffer, server.documents[number]? = some buffer ∧ server.parses[buffer.uri]? = some task

namespace IsTabled

variable {server later : Server}

theorem congr (tabled : server.IsTabled) (documents : later.documents = server.documents)
    (tasks : later.tasks = server.tasks) (parses : later.parses = server.parses) :
    later.IsTabled := by
  intro task number awaits
  rw [Awaits, tasks] at awaits
  rw [documents, parses]
  exact tabled task number awaits

theorem addDocument (tabled : server.IsTabled) (uri text : String) :
    (server.addDocument uri text).IsTabled := by
  intro task number awaits
  rcases tabled task number awaits with ⟨buffer, document, inTable⟩
  have inside := (List.getElem?_eq_some_iff.mp document).1
  exact ⟨buffer, by rw [Server.addDocument, List.getElem?_append_left inside, document], inTable⟩

/-- A document keeps its URI when its text changes. -/
theorem setText (tabled : server.IsTabled) (changed : Nat) (text : String) :
    (server.setText changed text).IsTabled := by
  intro task number awaits
  rcases tabled task number awaits with ⟨buffer, document, inTable⟩
  rw [Server.setText, List.getElem?_modify, document]
  by_cases same : changed = number
  · exact ⟨{ buffer with text }, by simp [same], inTable⟩
  · exact ⟨buffer, by simp [same], inTable⟩

theorem schedule (tabled : server.IsTabled) {scheduled : Nat} {buffer : Buffer}
    (present : server.documents[scheduled]? = some buffer) :
    (server.schedule scheduled buffer.uri).IsTabled := by
  intro task number awaits
  have documents : (server.schedule scheduled buffer.uri).documents = server.documents := by
    simp [Server.schedule]
  have parses : ∀ uri : String, (server.schedule scheduled buffer.uri).parses[uri]?
      = if buffer.uri = uri then some server.tasks.length else server.parses[uri]? := by
    simp [Server.schedule, Std.ExtTreeMap.getElem?_insert]
  rw [documents]
  rcases awaits_schedule.mp awaits with ⟨rfl, rfl⟩ | ⟨awaited, notTabled⟩
  · exact ⟨buffer, present, by rw [parses, if_pos rfl]⟩
  -- What still waits was not cancelled, so the entry that is overwritten is not its own.
  · rcases tabled task number awaited with ⟨other, document, inTable⟩
    have differ : buffer.uri ≠ other.uri := by
      intro same
      exact notTabled (same ▸ inTable)
    exact ⟨other, document, by rw [parses, if_neg differ, inTable]⟩

theorem finish (tabled : server.IsTabled) (task : Nat) : (server.finish task).IsTabled :=
  fun other number awaits => tabled other number (awaits_finish.mp awaits).1

theorem dropTree (tabled : server.IsTabled) (uri : String) : (server.dropTree uri).IsTabled := by
  intro task number awaits
  rcases (awaits_cancel server).mp awaits with ⟨awaited, notTabled⟩
  rcases tabled task number awaited with ⟨buffer, document, inTable⟩
  have differ : uri ≠ buffer.uri := by
    rintro rfl
    exact notTabled inTable
  refine ⟨buffer, ?_, ?_⟩
  · simpa [Server.dropTree] using document
  · simpa [Server.dropTree, Std.ExtTreeMap.getElem?_erase, differ] using inTable

theorem parsed (tabled : server.IsTabled) (grammar : Grammar) (uri : String)
    (text : Except FileError String) : (server.parsed grammar uri text).IsTabled :=
  tabled.congr (by simp) (by simp) (by simp)

/-- One edit leaves the tasks that wait in the table. -/
theorem serve (tabled : server.IsTabled) (world : World) (step : Edit) :
    ((step.serve world).after server).IsTabled := by
  cases step with
  | opened uri text =>
      rw [Edit.serve, Serving.after_openDocument]
      split
      · exact tabled
      · exact (tabled.addDocument uri text).parsed _ _ _
  | changed uri text =>
      rw [Edit.serve, Serving.after_changeDocument]
      split
      · exact tabled
      · dsimp only
        split
        · exact tabled.setText _ _
        · rename_i present
          exact (tabled.setText _ _).schedule present
  | expired task =>
      rw [Edit.serve, Serving.after_expire]
      split
      · exact tabled
      · exact (tabled.parsed _ _ _).finish task
  | closed uri =>
      rw [Edit.serve, Serving.after_closeDocument]
      have dropped : (server.dropDocument uri).IsTabled := tabled
      exact (dropped.dropTree uri).congr rfl rfl rfl

end IsTabled

theorem isTabled_start (host : Runner.Host) : (Server.start host).value.IsTabled := by
  intro task number awaits
  simp [Awaits, Server.start, Traced.through] at awaits

/-- No step takes a task that waits out of the table. -/
theorem isKept_isTabled : IsKept IsTabled where
  edit world step _ tabled := tabled.serve world step
  parsed grammar uri text _ tabled := tabled.parsed grammar uri text
  walked _ _ _ tabled := tabled
  settings _ _ _ tabled := tabled
  session _ _ tabled := tabled

/-- A document that was dropped is not waited for. -/
theorem not_awaitsUri_dropTree {server : Server} (tabled : server.IsTabled) (uri : String)
    (task : Nat) : ¬(server.dropTree uri).AwaitsUri task uri := by
  rintro ⟨number, text, awaits, document⟩
  rcases (awaits_cancel server).mp awaits with ⟨awaited, notTabled⟩
  rcases tabled task number awaited with ⟨buffer, known, inTable⟩
  have isDocument : server.documents[number]? = some ⟨uri, text⟩ := by
    simpa [dropTree] using document
  rw [isDocument, Option.some_inj] at known
  subst known
  exact notTabled inTable

end Server

theorem FileTree.text_ne_nulInPath (file : FileTree) : file.text ≠ .error .nulInPath := by
  cases file with
  | file content =>
      unfold text
      dsimp only
      split <;> simp
  | _ => simp [text]

/-- Without a file, there is no path to read from. -/
theorem FileTree.filter_fileAt_eq_none {files : FileTree} {uri : String}
    (notSaved : files.savedFile? uri = none) :
    (Uri.path? uri).value.filter (Serving.fileAt files) = none := by
  unfold savedFile? at notSaved
  cases isPath : (Uri.path? uri).value with
  | none => rfl
  | some path =>
      rw [isPath, Option.bind_some, Option.filter_eq_none_iff] at notSaved
      simpa [Option.filter_some, Serving.fileAt, Option.any_eq_true] using notSaved

theorem FileTree.filter_fileAt_eq_some {files file : FileTree} {uri : String}
    (saved : files.savedFile? uri = some file) :
    ∃ path, (Uri.path? uri).value.filter (Serving.fileAt files) = some path ∧
      files.find path = .ok file ∧ uri ≠ "" := by
  unfold savedFile? at saved
  cases isPath : (Uri.path? uri).value with
  | none => simp [isPath] at saved
  | some path =>
      have notEmpty : uri ≠ "" := by
        rintro rfl
        cases isPath
      rw [isPath, Option.bind_some, Option.filter_eq_some_iff] at saved
      refine ⟨path, ?_, ?_, notEmpty⟩
      · simp [Serving.fileAt, saved]
      · cases found : files.find path with
        | error error => simp [found, Except.toOption] at saved
        | ok entry => simpa [found, Except.toOption] using saved.1

namespace Outcome

/-- What becomes of a document that goes back to its file. -/
def ofSaved (grammar : Grammar) (uri : String) (file : FileTree) : Outcome :=
  match file.text with
  | .error _ => unchanged
  | .ok text =>
      match (grammar.parse text).value with
      | .error _ => failed
      | .ok program =>
          if (Collector.collect uri program.root).IsInRange then
            replaced uri (Collector.collect uri program.root)
          else failed

theorem ofRead_text_eq_ofSaved (grammar : Grammar) {skip : String → Bool} (path : String)
    {uri : String} (notEmpty : uri ≠ "") (notSkipped : skip uri = false) (file : FileTree) :
    ofRead grammar skip path (some uri) file.text = ofSaved grammar uri file := by
  have notNul := file.text_ne_nulInPath
  have chosen : (some uri).filter (fun uri => !uri.isEmpty) = some uri := by simp [notEmpty]
  unfold ofRead ofSaved
  cases read : file.text with
  | error error => cases error <;> simp_all
  | ok text =>
      simp only [chosen, ofText, ofTree_eq, notSkipped]
      rfl

theorem uri_of_mem_ofSaved {grammar : Grammar} {uri : String} {file : FileTree} {change : Change}
    (member : change ∈ (ofSaved grammar uri file).changes) : change.uri = uri := by
  unfold ofSaved at member
  split at member
  · cases member
  split at member
  · cases member
  split at member
  · rw [List.mem_singleton.mp member]
    rfl
  · cases member

end Outcome

namespace Serving

variable (world : World) (uri : String) (server : Server)

/-- Without a file, closing a document takes it out of the index. -/
theorem closeDocument_of_not_saved (notSaved : world.files.savedFile? uri = none) :
    (closeDocument world uri).result server = .ok () ∧
    ((server.dropDocument uri).dropTree uri).closing world uri = .remove uri := by
  have noPath := FileTree.filter_fileAt_eq_none notSaved
  constructor
  · simp only [closeDocument, result_modify_bind, result_notice_bind, result_tracing_bind, noPath]
    rfl
  · rw [Server.closing, noPath]

/-- With a file, closing a document comes to what becomes of the file. -/
theorem closeDocument_of_saved {file : FileTree} (saved : world.files.savedFile? uri = some file) :
    (if (Outcome.ofSaved world.grammar uri file).isFailed then
        ∃ failure, (closeDocument world uri).result server = .error failure
      else (closeDocument world uri).result server = .ok ()) ∧
    (((server.dropDocument uri).dropTree uri).closing world uri).changes
      = (Outcome.ofSaved world.grammar uri file).changes := by
  rcases FileTree.filter_fileAt_eq_some saved with ⟨path, isPath, found, notEmpty⟩
  have notOpen : ((server.dropDocument uri).dropTree uri).isOpen uri = false := by
    simp [Server.isOpen, Server.dropTree]
  have read := Outcome.ofRead_text_eq_ofSaved world.grammar path notEmpty notOpen file
  rw [← FileTree.readText_of_find found] at read
  constructor
  · have described := Outcome.describes_indexRead world.grammar
      ((server.dropDocument uri).dropTree uri).isOpen path (some uri) (world.files.readText path)
    rw [read] at described
    simp only [closeDocument, result_modify_bind, result_notice_bind, result_tracing_bind, isPath,
      result_get_bind, result_indexing_bind, Indexing.indexFile]
    cases indexed : (Indexing.indexRead world.grammar
        ((server.dropDocument uri).dropTree uri).isOpen path (some uri)
        (world.files.readText path)).result ((server.dropDocument uri).dropTree uri).index with
    | error failure =>
        rw [described.eq_failed_of_error indexed]
        exact ⟨_, rfl⟩
    | ok replaced =>
        rw [described.isFailed_of_ok indexed]
        rfl
  · rw [Server.closing, isPath]
    exact congrArg Outcome.changes read

/-- Closing a document changes no other document in the index. -/
theorem uri_of_mem_changes_closing {change : Change}
    (member : change ∈ (((server.dropDocument uri).dropTree uri).closing world uri).changes) :
    change.uri = uri := by
  cases saved : world.files.savedFile? uri with
  | none =>
      rw [(closeDocument_of_not_saved world uri server saved).2] at member
      rw [List.mem_singleton.mp member]
      rfl
  | some file =>
      rw [(closeDocument_of_saved world uri server saved).2] at member
      exact Outcome.uri_of_mem_ofSaved member

end Serving

namespace Request

/-- After any requests, a document that is closed has no tree, no parse waits for it, and all other
documents are in the index as they were. Without a file, nothing is left of the document. With a
file that can be read, the index has the entries of the file, or the request fails if the file has
no program or a method out of range. With a file that cannot be read, and whenever the request
fails, the whole index stays as it was, and with it the entries of the text that is discarded. -/
theorem closed_document_goes_back (host : Runner.Host) (requests : List (World × Request))
    (world : World) (uri : String) :
    let server := run host requests
    let later := (Serving.closeDocument world uri).after server
    let result := (Serving.closeDocument world uri).result server
    later.trees[uri]? = none ∧ later.parses[uri]? = none ∧
    (∀ task, ¬later.AwaitsUri task uri) ∧
    server.index.AgreeExcept [uri] later.index ∧
    (world.files.savedFile? uri = none → result = .ok () ∧ later.index.Records uri {}) ∧
    ∀ file, world.files.savedFile? uri = some file →
      match Outcome.ofSaved world.grammar uri file with
      | .replaced _ entries => result = .ok () ∧ later.index.Records uri entries
      | .unchanged => result = .ok () ∧ later.index = server.index
      | .failed => (∃ failure, result = .error failure) ∧ later.index = server.index := by
  intro server later result
  rcases isLinked_run host requests with ⟨documents, made, -⟩
  have tabled : (server.dropDocument uri).IsTabled :=
    Server.isKept_isTabled.run host (Server.isTabled_start host) requests
  have isLater : later = (let left := (server.dropDocument uri).dropTree uri
      { left with index := (left.closing world uri).run left.index }) :=
    Serving.after_closeDocument world uri server
  have index : later.index
      = (((server.dropDocument uri).dropTree uri).closing world uri).run server.index := by
    rw [isLater]
    simp [Server.dropTree, Server.dropDocument]
  refine ⟨?_, ?_, ?_, ?_, ?_, ?_⟩
  · simp [isLater, Server.dropTree]
  · simp [isLater, Server.dropTree]
  · rw [isLater]
    exact Server.not_awaitsUri_dropTree tabled uri
  · rw [index]
    apply made.agreeExcept_run
    intro change member
    exact List.mem_singleton.mpr (Serving.uri_of_mem_changes_closing world uri server member)
  · intro notSaved
    rcases Serving.closeDocument_of_not_saved world uri server notSaved with ⟨succeeds, removes⟩
    rw [index, removes]
    exact ⟨succeeds, made.records_remove uri⟩
  · intro file saved
    rcases Serving.closeDocument_of_saved world uri server saved with ⟨answers, changes⟩
    have own := fun change => @Outcome.uri_of_mem_ofSaved world.grammar uri file change
    rw [index]
    cases outcome : Outcome.ofSaved world.grammar uri file with
    | replaced other entries =>
        rw [outcome] at answers changes own
        have same : other = uri := own (.replaced other entries) (List.mem_singleton.mpr rfl)
        subst same
        have single : (((server.dropDocument other).dropTree other).closing world other).changes
            = [] ++ .replaced other entries :: [] := changes
        exact ⟨answers, made.records_run single (by simp)⟩
    | unchanged =>
        rw [outcome] at answers changes
        rw [Operation.run_eq_foldl_changes, changes]
        exact ⟨answers, rfl⟩
    | failed =>
        rw [outcome] at answers changes
        rw [Operation.run_eq_foldl_changes, changes]
        exact ⟨answers, rfl⟩

/-- A world in which a file is not text. -/
def undecodableWorld : World := ⟨farGrammar, .directory [("a.rb", .file [0xFF])], none⟩

/-- The document of the file is opened with a text. -/
def openedOverUndecodable : List (World × Request) :=
  [(undecodableWorld, .edit (.opened "file:///a.rb" "def a; end"))]

/-- The method of the text is still there after the document was closed. -/
theorem closed_document_goes_back_openedOverUndecodable :
    ∃ near : Program, (Collector.collect "file:///a.rb" near.root).methods ≠ [] ∧
      ((Serving.closeDocument undecodableWorld "file:///a.rb").after
        (run {} openedOverUndecodable)).trees["file:///a.rb"]? = none ∧
      ((Serving.closeDocument undecodableWorld "file:///a.rb").after
        (run {} openedOverUndecodable)).index.Records "file:///a.rb"
          (Collector.collect "file:///a.rb" near.root) := by
  rcases exists_near with ⟨near, parsed, isNear⟩
  have hasTree : (run {} openedOverUndecodable).trees["file:///a.rb"]? = some near := by
    rw [openedOverUndecodable, getElem?_trees_run_opened {} undecodableWorld rfl, if_pos rfl]
    exact Grammar.program?_of_parse parsed
  have records := ((isLinked_run {} openedOverUndecodable).records_iff hasTree).mpr
    (isNear _).2
  have saved : undecodableWorld.files.savedFile? "file:///a.rb" = some (.file [0xFF]) := by
    have isPath : (Uri.path? "file:///a.rb").value = some "/a.rb" := by decide +kernel
    have found : undecodableWorld.files.find "/a.rb" = .ok (.file [0xFF]) := rfl
    rw [FileTree.savedFile?, isPath, Option.bind_some, found]
    rfl
  have unchanged : Outcome.ofSaved farGrammar "file:///a.rb" (.file [0xFF]) = .unchanged := rfl
  rcases closed_document_goes_back {} openedOverUndecodable undecodableWorld "file:///a.rb" with
    ⟨noTree, -, -, -, -, goesBack⟩
  have kept := goesBack _ saved
  rw [show undecodableWorld.grammar = farGrammar from rfl, unchanged] at kept
  refine ⟨near, (isNear _).1, noTree, ?_⟩
  rw [kept.2]
  exact records

end Request

end RailsNavigator
