import RailsNavigator.Proofs.Server.Steps

/-!
# What every request keeps

A server lives through requests of all kinds, in any order. Whatever they are, they are put together
from a few steps: edits, parses, walks through the workspace, and changes of settings and of the
conversation with the runner. A property of servers that each of these steps keeps therefore holds
of every server that requests can lead to.
-/

namespace RailsNavigator

/-- A request of the editor, or the end of a pause in typing. -/
inductive Request where
  | edit (step : Edit)
  /-- All parses that were put off run. -/
  | settle
  | configure (options : Json)
  | startUp
  | shutdown
  | tree (uri : String) (text : Except FileError String)
  | definition (uri : String) (line character : Int)
  | indexWorkspace (root : Option String)

namespace Request

/-- The server that a request leaves behind, refused or not. -/
def after (world : World) (server : Server) : Request → Server
  | edit step => (step.serve world).after server
  | settle => (Serving.settle world).after server
  | configure options => (Serving.configure options).after server
  | startUp => (Serving.startUp world).after server
  | shutdown => Serving.shutdown.after server
  | tree uri text => (Serving.treeOf world uri text).after server
  | definition uri line character => (Serving.definition world uri line character).after server
  | indexWorkspace root => (Serving.indexWorkspace world root).after server

/-- The server after requests from its start, each with the world as it is at the time. -/
def run (host : Runner.Host) (requests : List (World × Request)) : Server :=
  requests.foldl (fun server step => step.2.after step.1 server) (Server.start host).value

/-- After one document was opened, it is the only one that can have a tree. -/
theorem getElem?_trees_run_opened (host : Runner.Host) (world : World) {uri : String}
    {parts : Uri.Parts} (isSplit : Uri.split uri = .ok parts) (text other : String) :
    (run host [(world, .edit (.opened uri text))]).trees[other]?
      = if uri = other then world.grammar.program? (.ok text) else none := by
  have start : ∀ known : String, (Server.start host).value.trees[known]? = none := by
    intro known
    simp [Server.start, Traced.through]
  rw [run, List.foldl_cons, List.foldl_nil, after, Edit.serve, Serving.after_openDocument, isSplit,
    Server.getElem?_trees_parsed, Server.trees_addDocument, start, start, Option.or_none]

end Request

namespace Server

/-- What a walk through the workspace does to the index. -/
def walking (server : Server) (world : World) (root : String) : Operation :=
  .indexWorkspace world.grammar world.files server.settings.indexExclude server.isOpen root

/-- A property of servers that no step changes. -/
structure IsKept (holds : Server → Prop) : Prop where
  edit : ∀ (world : World) (step : Edit) (server : Server), holds server →
    holds ((step.serve world).after server)
  parsed : ∀ (grammar : Grammar) (uri : String) (text : Except FileError String)
    (server : Server), holds server → holds (server.parsed grammar uri text)
  walked : ∀ (world : World) (root : String) (server : Server), holds server →
    holds { server with index := (server.walking world root).run server.index }
  settings : ∀ (settings : Settings) (logger : Log.Logger) (server : Server), holds server →
    holds { server with settings, logger }
  session : ∀ (session : Runner.Session) (server : Server), holds server →
    holds { server with session }

end Server

namespace Serving

variable {α β : Type} {holds : Server → Prop}

/-- Whatever a request does, it leaves a property as it is. -/
def Keeps (holds : Server → Prop) (request : Serving α) : Prop :=
  ∀ server : Server, holds server → holds (request.after server)

theorem Keeps.bind {request : Serving α} {next : α → Serving β} (first : Keeps holds request)
    (second : ∀ value, Keeps holds (next value)) : Keeps holds (request >>= next) := by
  intro server before
  rw [after_bind]
  split
  · exact first server before
  · exact second _ _ (first server before)

theorem keeps_pure (value : α) : Keeps holds (pure value) := fun _ before => before

theorem keeps_throw (error : RequestError) : Keeps holds (throw error : Serving α) :=
  fun _ before => before

theorem keeps_notice (reported : Log.Notice) : Keeps holds (notice reported) :=
  fun _ before => before

theorem keeps_document (world : World) (uri : String) : Keeps holds (document world uri) := by
  intro server before
  simp only [document, after_get_bind]
  split
  · exact before
  · unfold partsOf
    split <;> exact before

variable (kept : Server.IsKept holds)
include kept

theorem keeps_conversation (steps : Runner.Conversation α) : Keeps holds (conversation steps) :=
  fun server before => kept.session _ server before

theorem keeps_parse (world : World) (uri : String) (text : Except FileError String) :
    Keeps holds (parse world uri text) := by
  intro server before
  rw [after_parse]
  exact kept.parsed _ _ _ _ before

theorem keeps_settle (world : World) : Keeps holds (settle world) := by
  have each : ∀ tasks : List Nat, Keeps holds (tasks.forM (expire world)) := by
    intro tasks
    induction tasks with
    | nil => exact keeps_pure ()
    | cons task rest hypothesis =>
        have expires : Keeps holds (expire world task) := kept.edit world (.expired task)
        exact expires.bind fun _ => hypothesis
  intro server before
  exact each _ server before

theorem keeps_indexBelow (world : World) (root : Option String) :
    Keeps holds (indexBelow world root) := by
  intro server before
  unfold indexBelow
  split
  · exact before
  · exact before
  · rename_i root _
    exact kept.walked world root server before

theorem keeps_indexWorkspace (world : World) (root : Option String) :
    Keeps holds (indexWorkspace world root) := by
  refine (keeps_indexBelow kept world root).bind ?_
  rintro (error | count)
  · exact keeps_throw _
  · exact keeps_pure _

theorem keeps_startRunner (root : Option String) : Keeps holds (startRunner root) := by
  intro server before
  rw [startRunner, after_get_bind]
  refine ((keeps_conversation kept _).bind ?_) server before
  rintro (error | client)
  · exact keeps_throw _
  · exact keeps_pure _

theorem keeps_startUp (world : World) : Keeps holds (startUp world) := by
  refine (keeps_settle kept world).bind fun _ => (keeps_indexBelow kept world world.root).bind ?_
  rintro (error | count)
  · exact (keeps_notice _).bind fun _ => keeps_startRunner kept world.root
  · exact keeps_startRunner kept world.root

theorem keeps_configure (options : Json) : Keeps holds (configure options) := by
  intro server before
  simp only [configure, after_tracing_bind]
  cases (Settings.ofOptions options).run.value with
  | error error => exact before
  | ok settings => exact kept.settings settings _ server before

theorem keeps_treeOf (world : World) (uri : String) (text : Except FileError String) :
    Keeps holds (treeOf world uri text) := by
  intro server before
  simp only [treeOf, after_get_bind]
  split
  · exact before
  · refine ((keeps_parse kept world uri text).bind fun _ => ?_) server before
    exact fun _ before => before

theorem keeps_definition (world : World) (uri : String) (line character : Int) :
    Keeps holds (definition world uri line character) := by
  unfold definition
  split
  · exact keeps_throw _
  · refine (keeps_notice _).bind fun _ => (keeps_document world uri).bind ?_
    rintro ⟨known, text⟩
    refine (keeps_treeOf kept world known text).bind ?_
    rintro (_ | program)
    · exact keeps_pure _
    · intro server before
      rw [after_get_bind]
      exact keeps_conversation kept _ server before

end Serving

namespace Server.IsKept

variable {holds : Server → Prop}

/-- One request leaves a property as it is. -/
theorem after (kept : IsKept holds) (world : World) (request : Request) {server : Server}
    (before : holds server) : holds (request.after world server) := by
  cases request with
  | edit step => exact kept.edit world step server before
  | settle => exact Serving.keeps_settle kept world server before
  | configure options => exact Serving.keeps_configure kept options server before
  | startUp => exact Serving.keeps_startUp kept world server before
  | shutdown => exact Serving.keeps_conversation kept _ server before
  | tree uri text => exact Serving.keeps_treeOf kept world uri text server before
  | definition uri line character =>
      exact Serving.keeps_definition kept world uri line character server before
  | indexWorkspace root => exact Serving.keeps_indexWorkspace kept world root server before

/-- A property of the server at its start holds after any requests. -/
theorem run (kept : IsKept holds) (host : Runner.Host) (start : holds (Server.start host).value)
    (requests : List (World × Request)) : holds (Request.run host requests) := by
  induction requests using List.reverseRecOn with
  | nil => exact start
  | append_singleton earlier step hypothesis =>
      rw [Request.run, List.foldl_append]
      exact kept.after step.1 step.2 hypothesis

end Server.IsKept

end RailsNavigator
