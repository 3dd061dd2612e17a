import RailsNavigator.Server.Documents

/-!
# Requests

The requests of the editor that are not about single documents, and the one that this is all for:
where is the thing defined that stands at the cursor.
-/

namespace RailsNavigator.Serving

/-- Reads the settings that the editor gives. -/
def configure (options : Json) : Serving Settings := do
  match ← tracing (Settings.ofOptions options).run with
  | .error error => throw (.settings error)
  | .ok settings =>
      modify fun server => { server with settings, logger := server.logger.setLevel settings.level }
      notice .configured
      return settings

/-- Starts the runner. -/
def startRunner (root : Option String) : Serving Unit := do
  match ← conversation (Runner.Conversation.start (← get).settings root) with
  | .ok _ => return ()
  | .error error => throw (.launch error)

/-- Indexes the workspace and starts the runner, after the parses that were put off. -/
def startUp (world : World) : Serving Unit := do
  settle world
  match ← indexBelow world world.root with
  | .ok _ => pure ()
  | .error error => notice (.workspaceFailed error)
  startRunner world.root

/-- Ends the conversation with the runner. -/
def shutdown : Serving Unit :=
  conversation do
    Runner.Conversation.stop
    Runner.Conversation.setClient .absent

/-- The text of a document that is not in the editor. A URI that is not of a file leads nowhere. -/
def savedText (files : FileTree) (uri : Uri.Parts) : Except FileError String :=
  if uri.isFile then files.readText uri.toPath
  else (FileTree.directory []).readText (String.ofList uri.path)

/-- A document, by the URI under which it is known, and its text. -/
def document (world : World) (uri : String) : Serving (String × Except FileError String) := do
  let server ← get
  match (server.buffers.get? (Server.key uri)).bind (server.documents[·]?) with
  | some buffer => return (buffer.uri, .ok buffer.text)
  | none =>
      return (uri, savedText world.files (← partsOf uri))

/-- The tree of a document, which is parsed if it has none so far. -/
def treeOf (world : World) (uri : String) (text : Except FileError String) :
    Serving (Option Program) := do
  if (← get).isOpen uri then
    return (← get).trees.get? uri
  let _ ← parse world uri text
  return (← get).trees.get? uri

/-- Where the thing is defined that stands at a position. -/
def definition (world : World) (uri : String) (line character : Int) :
    Serving (List Location) := do
  match positionError? line character with
  | some error => throw (.position error)
  | none =>
      notice (.definitionRequested uri)
      let (uri, text) ← document world uri
      match ← treeOf world uri text with
      | none => return []
      | some program =>
          let server ← get
          conversation
            (Definition.locations server.settings server.index ⟨uri, program⟩ line character)

end RailsNavigator.Serving
