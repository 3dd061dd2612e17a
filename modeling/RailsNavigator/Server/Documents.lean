import RailsNavigator.Server.State

/-!
# Documents

Documents are opened, changed and closed by the editor. Opening parses at once; changing puts a
parse off, and a later change takes the place of an earlier one. A text that cannot be parsed
leaves tree and entries as they were, so that navigation goes on while the user types. Closing
goes back to the file that was saved.
-/

namespace RailsNavigator

namespace Server

/-- Whether a document has a tree, which keeps its entries from being replaced by those of its
file. -/
def isOpen (server : Server) (uri : String) : Bool :=
  server.trees.contains uri

/-- The key of a document in the editor: one document may be named by URIs that encode characters in
different ways. -/
def key (uri : String) : String :=
  String.ofList (Uri.decode uri.toList)

/-- Takes up a new document, in the place of an earlier one with its key. -/
def addDocument (server : Server) (uri text : String) : Server :=
  { server with
    documents := server.documents ++ [⟨uri, text⟩]
    buffers := server.buffers.insert (key uri) server.documents.length }

/-- Gives a document another text. -/
def setText (server : Server) (number : Nat) (text : String) : Server :=
  { server with
    documents := server.documents.modify number fun buffer => { buffer with text } }

/-- Cancels the parse that was put off for a URI. -/
def cancel (server : Server) (uri : String) : Server :=
  match server.parses.get? uri with
  | none => server
  | some number => { server with tasks := server.tasks.modify number ParseTask.cancel }

/-- Puts a parse of a document off, in the place of an earlier one for its URI. -/
def schedule (server : Server) (number : Nat) (uri : String) : Server :=
  let server := server.cancel uri
  { server with
    tasks := server.tasks ++ [{ document := number }]
    parses := server.parses.insert uri server.tasks.length }

/-- Notes that a task has run. -/
def finish (server : Server) (number : Nat) : Server :=
  { server with
    tasks := server.tasks.modify number fun task => { task with state := .finished } }

/-- Drops what the editor has under the key of a URI. -/
def dropDocument (server : Server) (uri : String) : Server :=
  { server with buffers := server.buffers.erase (key uri) }

/-- Drops the tree of a URI, and the parse that was put off for it. -/
def dropTree (server : Server) (uri : String) : Server :=
  let server := server.cancel uri
  { server with parses := server.parses.erase uri, trees := server.trees.erase uri }

end Server

namespace Serving

/-- The parts of a URI. A URI that cannot be taken apart is refused. -/
def partsOf (uri : String) : Serving Uri.Parts :=
  match Uri.split uri with
  | .error error => throw (.badHost error)
  | .ok parts => return parts

/-- Keeps a tree, and replaces the entries of its document. -/
def adopt (uri : String) (program : Program) : Serving Unit := do
  modify fun server => { server with trees := server.trees.insert uri program }
  match ← indexing (Indexing.indexTree (fun _ => false) uri program) with
  | .ok _ => notice (.parsed uri)
  | .error error => throw (.failure error)

/-- Parses the text of a document, and says whether there is a tree. -/
def parse (world : World) (uri : String) (text : Except FileError String) : Serving Bool := do
  match text with
  | .error error =>
      notice (.parseFailed uri (.file error))
      return false
  | .ok text =>
      match ← tracing (world.grammar.parse text) with
      | .error error =>
          notice (.parseFailed uri (.parse error))
          return false
      | .ok program =>
          adopt uri program
          return true

/-- Opens a document. -/
def openDocument (world : World) (uri text : String) : Serving Unit := do
  let _ ← partsOf uri
  modify (·.addDocument uri text)
  notice (.opened uri)
  let _ ← parse world uri (.ok text)

/-- Changes the text of a document, and puts a parse off. -/
def changeDocument (uri text : String) : Serving Unit := do
  match (← get).buffers.get? (Server.key uri) with
  | none => throw (.notOpen (Server.key uri))
  | some number =>
      modify (·.setText number text)
      notice (.changed uri)
      match (← get).documents[number]? with
      | none => return ()
      | some buffer => modify (·.schedule number buffer.uri)

/-- Runs a task that waits. Nobody waits for it, so that a failure has nobody to be told to. -/
def expire (world : World) (number : Nat) : Serving Unit := do
  let server ← get
  match server.tasks[number]? with
  | some ⟨document, .waiting⟩ =>
      match server.documents[document]? with
      | none => return ()
      | some buffer =>
          tryCatch (discard (parse world buffer.uri (.ok buffer.text))) fun _ => return ()
          modify (·.finish number)
  | _ => return ()

/-- Runs the tasks that wait, in the order in which they were put off. -/
def settle (world : World) : Serving Unit := do
  (List.range (← get).tasks.length).forM (expire world)

/-- Whether there is a file at a path. -/
def fileAt (files : FileTree) (path : String) : Bool :=
  (files.find path).toOption.any FileTree.isFile

/-- Closes a document. Its entries go back to those of its file, if there is one. -/
def closeDocument (world : World) (uri : String) : Serving Unit := do
  modify (·.dropDocument uri)
  notice (.closed uri)
  modify (·.dropTree uri)
  match (← tracing (Uri.path? uri)).filter (fileAt world.files) with
  | some path =>
      let skip := (← get).isOpen
      match ← indexing (Indexing.indexFile world.grammar world.files skip path (some uri)) with
      | .ok _ => return ()
      | .error error => throw (.failure error)
  | none => modify fun server => { server with index := server.index.remove uri }

/-- Indexes the files below a directory, documents in the editor aside, and counts them. -/
def indexBelow (world : World) (root : Option String) : Serving (Except Failure Nat) := do
  match root with
  | none | some "" => return .ok 0
  | some root =>
      let server ← get
      indexing (Indexing.indexWorkspace world.grammar world.files server.settings.indexExclude
        server.isOpen root)

/-- Indexes the files below a directory. -/
def indexWorkspace (world : World) (root : Option String) : Serving Nat := do
  match ← indexBelow world root with
  | .ok count => return count
  | .error error => throw (.failure error)

end Serving

end RailsNavigator
