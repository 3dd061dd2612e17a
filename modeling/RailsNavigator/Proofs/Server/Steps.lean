import RailsNavigator.Proofs.Index.Operations
import RailsNavigator.Proofs.Trace
import RailsNavigator.Server.Requests

/-!
# What requests leave behind

A request gives a result and leaves a server behind, whether it is refused or not. For each step
that requests are made of, this file says which server that is, as a change of the server before.
What is reported on the way and what the runner answers play no part in it.
-/

namespace RailsNavigator

/-- The program of a text, if the text was read and can be parsed. -/
def Grammar.program? (grammar : Grammar) (text : Except FileError String) : Option Program :=
  text.toOption.bind fun text => (grammar.parse text).value.toOption

theorem Grammar.program?_of_parse {grammar : Grammar} {text : String} {program : Program}
    (parsed : (grammar.parse text).value = .ok program) :
    grammar.program? (.ok text) = some program := by
  rw [program?, Except.toOption, Option.bind_some, parsed]
  rfl

namespace Server

/-- The server with the tree of a document and the entries of that tree. If the entries are refused,
the tree is there all the same. -/
def adopted (server : Server) (uri : String) (program : Program) : Server :=
  { server with
    trees := server.trees.insert uri program
    index := (Operation.indexTree (fun _ => false) uri program).run server.index }

/-- The server after a parse. -/
def parsed (server : Server) (grammar : Grammar) (uri : String) (text : Except FileError String) :
    Server :=
  (grammar.program? text).elim server (server.adopted uri)

/-- The document that a task waits to parse, by its number and as it is by now. -/
def awaited? (server : Server) (task : Nat) : Option (Nat × Buffer) :=
  match server.tasks[task]? with
  | some ⟨document, .waiting⟩ => server.documents[document]?.map (document, ·)
  | _ => none

/-- What closing a document does to the index. -/
def closing (server : Server) (world : World) (uri : String) : Operation :=
  match (Uri.path? uri).value.filter (Serving.fileAt world.files) with
  | some path => .indexFile world.grammar world.files server.isOpen path (some uri)
  | none => .remove uri

@[simp]
theorem documents_cancel (server : Server) (uri : String) :
    (server.cancel uri).documents = server.documents := by
  unfold cancel
  split <;> rfl

@[simp]
theorem buffers_cancel (server : Server) (uri : String) :
    (server.cancel uri).buffers = server.buffers := by
  unfold cancel
  split <;> rfl

@[simp]
theorem parses_cancel (server : Server) (uri : String) :
    (server.cancel uri).parses = server.parses := by
  unfold cancel
  split <;> rfl

@[simp]
theorem trees_cancel (server : Server) (uri : String) :
    (server.cancel uri).trees = server.trees := by
  unfold cancel
  split <;> rfl

@[simp]
theorem index_cancel (server : Server) (uri : String) :
    (server.cancel uri).index = server.index := by
  unfold cancel
  split <;> rfl

@[simp]
theorem trees_addDocument (server : Server) (uri text : String) :
    (server.addDocument uri text).trees = server.trees := rfl

section Parsed

variable (server : Server) (grammar : Grammar) (uri : String) (text : Except FileError String)

@[simp]
theorem documents_parsed : (server.parsed grammar uri text).documents = server.documents := by
  unfold parsed
  cases grammar.program? text <;> rfl

@[simp]
theorem buffers_parsed : (server.parsed grammar uri text).buffers = server.buffers := by
  unfold parsed
  cases grammar.program? text <;> rfl

@[simp]
theorem tasks_parsed : (server.parsed grammar uri text).tasks = server.tasks := by
  unfold parsed
  cases grammar.program? text <;> rfl

@[simp]
theorem parses_parsed : (server.parsed grammar uri text).parses = server.parses := by
  unfold parsed
  cases grammar.program? text <;> rfl

/-- A text that can be parsed gives its document a tree, and any other leaves it the one it had. -/
theorem getElem?_trees_parsed (other : String) :
    (server.parsed grammar uri text).trees[other]?
      = if uri = other then (grammar.program? text).or server.trees[uri]?
        else server.trees[other]? := by
  unfold parsed
  cases grammar.program? text with
  | none => grind
  | some program => simp [adopted, Std.ExtTreeMap.getElem?_insert]

end Parsed

/-- A document is in the editor if it has a tree. -/
theorem isOpen_eq_isSome (server : Server) (uri : String) :
    server.isOpen uri = server.trees[uri]?.isSome :=
  Std.ExtTreeMap.contains_eq_isSome_getElem?

end Server

namespace Serving

variable {α β : Type}

/-- What a request gives. -/
def result (request : Serving α) (server : Server) : Except RequestError α :=
  (request.run.run server).value.1

/-- The server that a request leaves behind. -/
def after (request : Serving α) (server : Server) : Server :=
  (request.run.run server).value.2

@[simp]
theorem after_pure (value : α) (server : Server) : after (pure value) server = server := rfl

@[simp]
theorem result_pure (value : α) (server : Server) : result (pure value) server = .ok value := rfl

theorem after_bind (request : Serving α) (next : α → Serving β) (server : Server) :
    after (request >>= next) server
      = match result request server with
        | .error _ => after request server
        | .ok value => after (next value) (after request server) := by
  change (ExceptT.bindCont next (request server).value.1 (request server).value.2).value.2 = _
  simp only [result, after]
  change _ = match (request server).value.1 with
    | .error _ => (request server).value.2
    | .ok value => (next value (request server).value.2).value.2
  cases (request server).value.1 <;> rfl

theorem result_bind (request : Serving α) (next : α → Serving β) (server : Server) :
    result (request >>= next) server
      = match result request server with
        | .error error => .error error
        | .ok value => result (next value) (after request server) := by
  change (ExceptT.bindCont next (request server).value.1 (request server).value.2).value.1 = _
  simp only [result, after]
  change _ = match (request server).value.1 with
    | .error error => Except.error error
    | .ok value => (next value (request server).value.2).value.1
  cases (request server).value.1 <;> rfl

@[simp]
theorem after_get_bind (next : Server → Serving α) (server : Server) :
    after (get >>= next) server = after (next server) server := rfl

@[simp]
theorem result_get_bind (next : Server → Serving α) (server : Server) :
    result (get >>= next) server = result (next server) server := rfl

@[simp]
theorem after_modify_bind (change : Server → Server) (next : Unit → Serving α) (server : Server) :
    after (modify change >>= next) server = after (next ()) (change server) := rfl

@[simp]
theorem result_modify_bind (change : Server → Server) (next : Unit → Serving α)
    (server : Server) :
    result (modify change >>= next) server = result (next ()) (change server) := rfl

@[simp]
theorem after_notice_bind (reported : Log.Notice) (next : Unit → Serving α) (server : Server) :
    after (notice reported >>= next) server = after (next ()) server := rfl

@[simp]
theorem result_notice_bind (reported : Log.Notice) (next : Unit → Serving α) (server : Server) :
    result (notice reported >>= next) server = result (next ()) server := rfl

@[simp]
theorem after_tracing_bind (action : Traced β) (next : β → Serving α) (server : Server) :
    after (tracing action >>= next) server = after (next action.value) server := rfl

@[simp]
theorem result_tracing_bind (action : Traced β) (next : β → Serving α) (server : Server) :
    result (tracing action >>= next) server = result (next action.value) server := rfl

@[simp]
theorem after_indexing (operation : Indexing α) (server : Server) :
    after (indexing operation) server
      = { server with index := operation.after server.index } := rfl

@[simp]
theorem after_indexing_bind (operation : Indexing β) (next : Except Failure β → Serving α)
    (server : Server) :
    after (indexing operation >>= next) server
      = after (next (operation.result server.index))
          { server with index := operation.after server.index } := rfl

@[simp]
theorem result_indexing_bind (operation : Indexing β) (next : Except Failure β → Serving α)
    (server : Server) :
    result (indexing operation >>= next) server
      = result (next (operation.result server.index))
          { server with index := operation.after server.index } := rfl

/-- A request of whose failure nobody is told leaves behind what it did before it failed. -/
theorem after_tryCatch_discard (request : Serving α) (server : Server) :
    after (tryCatch (discard request) fun _ => return ()) server = after request server := by
  simp only [after, discard, map_const, Function.comp_apply, ExceptT.run_tryCatch,
    ExceptT.run_map, StateT.run_bind, StateT.run_map, Traced.value_bind, Traced.value_map]
  cases (request.run.run server).value.1 <;> rfl

theorem result_tryCatch_discard (request : Serving α) (server : Server) :
    result (tryCatch (discard request) fun _ => return ()) server = .ok () := by
  simp only [result, discard, map_const, Function.comp_apply, ExceptT.run_tryCatch,
    ExceptT.run_map, StateT.run_bind, StateT.run_map, Traced.value_bind, Traced.value_map]
  cases (request.run.run server).value.1 <;> rfl

theorem after_adopt (uri : String) (program : Program) (server : Server) :
    (adopt uri program).after server = server.adopted uri program := by
  simp only [adopt, after_modify_bind, after_indexing_bind]
  cases (Indexing.indexTree (fun _ => false) uri program).result server.index <;> rfl

theorem after_parse (world : World) (uri : String) (text : Except FileError String)
    (server : Server) :
    (parse world uri text).after server = server.parsed world.grammar uri text := by
  cases text with
  | error error => rfl
  | ok text =>
      simp only [parse, after_tracing_bind, Server.parsed, Grammar.program?, Except.toOption,
        Option.bind_some]
      cases (world.grammar.parse text).value with
      | error error => rfl
      | ok program =>
          rw [after_bind]
          split <;> simp [after_adopt]

theorem after_openDocument (world : World) (uri text : String) (server : Server) :
    (openDocument world uri text).after server
      = match Uri.split uri with
        | .error _ => server
        | .ok _ => (server.addDocument uri text).parsed world.grammar uri (.ok text) := by
  unfold openDocument partsOf
  cases Uri.split uri with
  | error error => rfl
  | ok parts =>
      rw [pure_bind, after_modify_bind, after_notice_bind, after_bind]
      split <;> simp [after_parse]

theorem after_changeDocument (uri text : String) (server : Server) :
    (changeDocument uri text).after server
      = match server.buffers.get? (Server.key uri) with
        | none => server
        | some number =>
            let server := server.setText number text
            match server.documents[number]? with
            | none => server
            | some buffer => server.schedule number buffer.uri := by
  simp only [changeDocument, after_get_bind]
  cases server.buffers.get? (Server.key uri) with
  | none => rfl
  | some number =>
      simp only [after_modify_bind, after_notice_bind, after_get_bind]
      cases (server.setText number text).documents[number]? <;> rfl

theorem after_expire (world : World) (number : Nat) (server : Server) :
    (expire world number).after server
      = match server.awaited? number with
        | none => server
        | some (_, buffer) =>
            (server.parsed world.grammar buffer.uri (.ok buffer.text)).finish number := by
  simp only [expire, after_get_bind, Server.awaited?]
  rcases server.tasks[number]? with _ | ⟨document, _ | _ | _⟩
  · rfl
  · dsimp only
    cases server.documents[document]? with
    | none => rfl
    | some buffer =>
        rw [after_bind, result_tryCatch_discard, after_tryCatch_discard, after_parse]
        rfl
  · rfl
  · rfl

theorem after_closeDocument (world : World) (uri : String) (server : Server) :
    (closeDocument world uri).after server
      = let left := (server.dropDocument uri).dropTree uri
        { left with index := (left.closing world uri).run left.index } := by
  simp only [closeDocument, after_modify_bind, after_notice_bind, after_tracing_bind,
    Server.closing]
  generalize (server.dropDocument uri).dropTree uri = left
  cases (Uri.path? uri).value.filter (fileAt world.files) with
  | none => rfl
  | some path =>
      simp only [after_get_bind, after_indexing_bind]
      cases (Indexing.indexFile world.grammar world.files left.isOpen path (some uri)).result
        left.index <;> rfl

end Serving

/-- A step of the editor on a document, or the end of a pause in typing. -/
inductive Edit where
  | opened (uri text : String)
  | changed (uri text : String)
  | expired (task : Nat)
  | closed (uri : String)
  deriving DecidableEq, Repr

/-- What the server does in a step. -/
def Edit.serve (world : World) : Edit → Serving Unit
  | opened uri text => Serving.openDocument world uri text
  | changed uri text => Serving.changeDocument uri text
  | expired task => Serving.expire world task
  | closed uri => Serving.closeDocument world uri

end RailsNavigator
