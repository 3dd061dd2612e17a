import RailsNavigator.Proofs.Server.Steps

/-!
# Edits

Documents are opened, changed and closed, and tasks that were put off run. This file says what each
of these steps does to the documents, the tasks and the trees. Next to the server stands a list of
the parses that were tried, with the document and the text that it had at the time. Opening and
running a task are tries; changing a document puts its parse off in the place of an earlier one.
-/

namespace RailsNavigator

namespace Server

/-- A task waits to parse a document. -/
def Awaits (server : Server) (task number : Nat) : Prop :=
  server.tasks[task]? = some ⟨number, .waiting⟩

/-- A task waits to parse a document of a URI. -/
def AwaitsUri (server : Server) (task : Nat) (uri : String) : Prop :=
  ∃ number text, server.Awaits task number ∧ server.documents[number]? = some ⟨uri, text⟩

/-- A document is in the editor. -/
def Edits (server : Server) (number : Nat) (buffer : Buffer) : Prop :=
  server.documents[number]? = some buffer ∧ server.buffers[key buffer.uri]? = some number

variable (server : Server)

@[simp]
theorem length_tasks_cancel (uri : String) :
    (server.cancel uri).tasks.length = server.tasks.length := by
  unfold cancel
  split
  · rfl
  · exact List.length_modify ..

/-- Cancelling does not make a task one of another document. -/
@[simp]
theorem map_document_cancel (uri : String) :
    (server.cancel uri).tasks.map ParseTask.document = server.tasks.map ParseTask.document := by
  have keeps : ∀ task : ParseTask, task.cancel.document = task.document := by
    rintro ⟨document, _ | _ | _⟩ <;> rfl
  unfold cancel
  split
  · rfl
  · apply List.ext_getElem?
    intro place
    rw [List.getElem?_map, List.getElem?_modify, List.getElem?_map]
    grind

theorem getElem?_tasks_cancel (uri : String) (task : Nat) :
    (server.cancel uri).tasks[task]?
      = if server.parses[uri]? = some task then server.tasks[task]?.map ParseTask.cancel
        else server.tasks[task]? := by
  unfold cancel
  rw [Std.ExtTreeMap.get?_eq_getElem?]
  cases server.parses[uri]? with
  | none => rfl
  | some number =>
      rw [List.getElem?_modify]
      by_cases same : number = task <;> simp [same]

/-- A task that is cancelled does not wait. -/
theorem awaits_cancel {uri : String} {task number : Nat} :
    (server.cancel uri).Awaits task number
      ↔ server.Awaits task number ∧ server.parses[uri]? ≠ some task := by
  unfold Awaits
  rw [getElem?_tasks_cancel]
  by_cases tabled : server.parses[uri]? = some task
  · have notWaiting : ∀ old : ParseTask, old.cancel ≠ ⟨number, .waiting⟩ := by
      rintro ⟨document, _ | _ | _⟩ <;> simp [ParseTask.cancel]
    simp [tabled, notWaiting]
  · simp [tabled]

variable {server}

theorem awaits_schedule {task number document : Nat} {uri : String} :
    (server.schedule document uri).Awaits task number
      ↔ task = server.tasks.length ∧ number = document ∨
        server.Awaits task number ∧ server.parses[uri]? ≠ some task := by
  rw [← awaits_cancel, ← length_tasks_cancel server uri]
  unfold Awaits schedule
  dsimp only
  generalize (server.cancel uri).tasks = tasks
  grind

@[simp]
theorem map_document_finish (finished : Nat) :
    (server.finish finished).tasks.map ParseTask.document
      = server.tasks.map ParseTask.document := by
  apply List.ext_getElem?
  intro place
  rw [finish, List.getElem?_map, List.getElem?_modify, List.getElem?_map]
  grind

theorem awaits_finish {task number finished : Nat} :
    (server.finish finished).Awaits task number
      ↔ server.Awaits task number ∧ task ≠ finished := by
  unfold Awaits finish
  rw [List.getElem?_modify]
  grind

theorem awaited?_eq_some {task number : Nat} {buffer : Buffer} :
    server.awaited? task = some (number, buffer)
      ↔ server.Awaits task number ∧ server.documents[number]? = some buffer := by
  unfold awaited? Awaits
  rcases server.tasks[task]? with _ | ⟨document, _ | _ | _⟩
  · simp
  · constructor
    · intro awaited
      rcases Option.map_eq_some_iff.mp awaited with ⟨_, present, same⟩
      cases same
      exact ⟨rfl, present⟩
    · rintro ⟨⟨⟩, present⟩
      exact Option.map_eq_some_iff.mpr ⟨buffer, present, rfl⟩
  · simp
  · simp

end Server

/-- The tree of the last of some texts that can be parsed. -/
def Grammar.lastTree? (grammar : Grammar) (texts : List String) : Option Program :=
  texts.reverse.findSome? fun text => grammar.program? (.ok text)

theorem Grammar.lastTree?_append_singleton (grammar : Grammar) (texts : List String)
    (text : String) :
    grammar.lastTree? (texts ++ [text])
      = (grammar.program? (.ok text)).or (grammar.lastTree? texts) := by
  unfold lastTree?
  rw [List.reverse_append, List.reverse_singleton, List.singleton_append, List.findSome?_cons]
  cases grammar.program? (.ok text) <;> rfl

/-- The document whose text is parsed in a step, and that text. -/
def Edit.attempt? (server : Server) : Edit → Option (Nat × String)
  | opened uri text => (Uri.split uri).toOption.map fun _ => (server.documents.length, text)
  | changed _ _ | closed _ => none
  | expired task => (server.awaited? task).map fun (number, buffer) => (number, buffer.text)

/-- A server, and the parses that it has tried. -/
structure Edited where
  server : Server
  attempts : List (Nat × String) := []

namespace Edited

/-- The texts of a document that were tried. -/
def tried (edited : Edited) (number : Nat) : List String :=
  (edited.attempts.filter fun attempt => attempt.1 = number).map Prod.snd

theorem tried_eq_append {edited later : Edited} (attempt : Nat × String) (number : Nat)
    (attempted : later.attempts = edited.attempts ++ [attempt]) :
    later.tried number
      = if attempt.1 = number then edited.tried number ++ [attempt.2] else edited.tried number := by
  unfold tried
  rw [attempted, List.filter_append, List.map_append]
  by_cases same : attempt.1 = number <;> simp [same]

/-- One step, with the files as they are at the time. -/
def step (grammar : Grammar) (edited : Edited) (moment : FileTree × Edit) : Edited where
  server := (moment.2.serve ⟨grammar, moment.1, none⟩).after edited.server
  attempts := edited.attempts ++ (moment.2.attempt? edited.server).toList

/-- The server after some steps from its start. -/
def run (grammar : Grammar) (host : Runner.Host) (moments : List (FileTree × Edit)) : Edited :=
  moments.foldl (step grammar) ⟨(Server.start host).value, []⟩

/-- The server after a document was opened whose URI can be taken apart. -/
def opened (edited : Edited) (grammar : Grammar) (uri text : String) : Edited where
  server := (edited.server.addDocument uri text).parsed grammar uri (.ok text)
  attempts := edited.attempts ++ [(edited.server.documents.length, text)]

/-- The server after a document in the editor was changed. -/
def changed (edited : Edited) (number : Nat) (uri text : String) : Edited where
  server := (edited.server.setText number text).schedule number uri
  attempts := edited.attempts

/-- The server after a task that waited has run. -/
def expired (edited : Edited) (grammar : Grammar) (task number : Nat) (buffer : Buffer) :
    Edited where
  server := (edited.server.parsed grammar buffer.uri (.ok buffer.text)).finish task
  attempts := edited.attempts ++ [(number, buffer.text)]

/-- The server after a document was closed. -/
def closed (edited : Edited) (uri : String) (index : Index) : Edited where
  server := { (edited.server.dropDocument uri).dropTree uri with index }
  attempts := edited.attempts

section Opened

variable (edited : Edited) (grammar : Grammar) (uri text : String)

@[simp]
theorem documents_opened :
    (edited.opened grammar uri text).server.documents
      = edited.server.documents ++ [⟨uri, text⟩] := by
  simp [opened, Server.addDocument]

theorem document_opened_of_document {number : Nat} {buffer : Buffer}
    (document : edited.server.documents[number]? = some buffer) :
    (edited.opened grammar uri text).server.documents[number]? = some buffer := by
  have inside := (List.getElem?_eq_some_iff.mp document).1
  rw [documents_opened, List.getElem?_append_left inside, document]

@[simp]
theorem getElem?_buffers_opened (key : String) :
    (edited.opened grammar uri text).server.buffers[key]?
      = if Server.key uri = key then some edited.server.documents.length
        else edited.server.buffers[key]? := by
  simp [opened, Server.addDocument, Std.ExtTreeMap.getElem?_insert]

@[simp]
theorem tasks_opened :
    (edited.opened grammar uri text).server.tasks = edited.server.tasks := by
  simp [opened, Server.addDocument]

@[simp]
theorem parses_opened :
    (edited.opened grammar uri text).server.parses = edited.server.parses := by
  simp [opened, Server.addDocument]

theorem awaits_opened {task number : Nat} :
    (edited.opened grammar uri text).server.Awaits task number
      ↔ edited.server.Awaits task number := by
  simp [Server.Awaits]

theorem edits_opened {number : Nat} {buffer : Buffer} :
    (edited.opened grammar uri text).server.Edits number buffer
      ↔ number = edited.server.documents.length ∧ buffer = ⟨uri, text⟩ ∨
        edited.server.Edits number buffer ∧ Server.key buffer.uri ≠ Server.key uri := by
  simp only [Server.Edits, documents_opened, getElem?_buffers_opened]
  grind

theorem tried_opened (number : Nat) :
    (edited.opened grammar uri text).tried number
      = if edited.server.documents.length = number then edited.tried number ++ [text]
        else edited.tried number :=
  tried_eq_append (edited.server.documents.length, text) number rfl

theorem getElem?_trees_opened (other : String) :
    (edited.opened grammar uri text).server.trees[other]?
      = if uri = other then (grammar.program? (.ok text)).or edited.server.trees[uri]?
        else edited.server.trees[other]? :=
  Server.getElem?_trees_parsed ..

end Opened

section Changed

variable (edited : Edited) (number : Nat) (uri text : String)

@[simp]
theorem documents_changed :
    (edited.changed number uri text).server.documents
      = edited.server.documents.modify number fun buffer => { buffer with text } := by
  simp [changed, Server.schedule, Server.setText]

/-- A change of its text leaves a document where it is, with its URI. -/
theorem document_changed_of_document {document : Nat} {buffer : Buffer}
    (present : edited.server.documents[document]? = some buffer) :
    ∃ later, (edited.changed number uri text).server.documents[document]?
      = some ⟨buffer.uri, later⟩ := by
  rw [documents_changed, List.getElem?_modify, present, Option.map_eq_map, Option.map_some]
  split
  · exact ⟨text, rfl⟩
  · exact ⟨buffer.text, rfl⟩

@[simp]
theorem buffers_changed :
    (edited.changed number uri text).server.buffers = edited.server.buffers := by
  simp [changed, Server.schedule, Server.setText]

@[simp]
theorem trees_changed :
    (edited.changed number uri text).server.trees = edited.server.trees := by
  simp [changed, Server.schedule, Server.setText]

@[simp]
theorem map_document_changed :
    (edited.changed number uri text).server.tasks.map ParseTask.document
      = edited.server.tasks.map ParseTask.document ++ [number] := by
  simp [changed, Server.schedule, Server.setText]

@[simp]
theorem getElem?_parses_changed (other : String) :
    (edited.changed number uri text).server.parses[other]?
      = if uri = other then some edited.server.tasks.length
        else edited.server.parses[other]? := by
  simp [changed, Server.schedule, Server.setText, Std.ExtTreeMap.getElem?_insert]

theorem awaits_changed {task document : Nat} :
    (edited.changed number uri text).server.Awaits task document
      ↔ task = edited.server.tasks.length ∧ document = number ∨
        edited.server.Awaits task document ∧ edited.server.parses[uri]? ≠ some task :=
  Server.awaits_schedule

theorem edits_changed {old : String} (present : edited.server.Edits number ⟨uri, old⟩)
    {other : Nat} {buffer : Buffer} :
    (edited.changed number uri text).server.Edits other buffer
      ↔ other = number ∧ buffer = ⟨uri, text⟩ ∨
        other ≠ number ∧ edited.server.Edits other buffer := by
  rw [Server.Edits, documents_changed, buffers_changed, List.getElem?_modify]
  by_cases same : number = other
  · subst same
    rw [present.1, Option.map_eq_map, Option.map_some, if_pos rfl]
    constructor
    · rintro ⟨⟨⟩, _⟩
      exact .inl ⟨rfl, rfl⟩
    · rintro (⟨_, rfl⟩ | ⟨differs, _⟩)
      · exact ⟨rfl, present.2⟩
      · exact absurd rfl differs
  · simp [same, Ne.symm same, Server.Edits]

end Changed

section Expired

variable (edited : Edited) (grammar : Grammar) (task number : Nat) (buffer : Buffer)

@[simp]
theorem documents_expired :
    (edited.expired grammar task number buffer).server.documents = edited.server.documents := by
  simp [expired, Server.finish]

@[simp]
theorem buffers_expired :
    (edited.expired grammar task number buffer).server.buffers = edited.server.buffers := by
  simp [expired, Server.finish]

@[simp]
theorem parses_expired :
    (edited.expired grammar task number buffer).server.parses = edited.server.parses := by
  simp [expired, Server.finish]

@[simp]
theorem map_document_expired :
    (edited.expired grammar task number buffer).server.tasks.map ParseTask.document
      = edited.server.tasks.map ParseTask.document := by
  simp [expired]

theorem awaits_expired {other document : Nat} :
    (edited.expired grammar task number buffer).server.Awaits other document
      ↔ edited.server.Awaits other document ∧ other ≠ task := by
  rw [expired, Server.awaits_finish, Server.Awaits, Server.tasks_parsed, Server.Awaits]

theorem edits_expired {other : Nat} {present : Buffer} :
    (edited.expired grammar task number buffer).server.Edits other present
      ↔ edited.server.Edits other present := by
  simp [Server.Edits]

theorem tried_expired (other : Nat) :
    (edited.expired grammar task number buffer).tried other
      = if number = other then edited.tried other ++ [buffer.text] else edited.tried other :=
  tried_eq_append (number, buffer.text) other rfl

theorem getElem?_trees_expired (uri : String) :
    (edited.expired grammar task number buffer).server.trees[uri]?
      = if buffer.uri = uri then
          (grammar.program? (.ok buffer.text)).or edited.server.trees[buffer.uri]?
        else edited.server.trees[uri]? :=
  Server.getElem?_trees_parsed ..

end Expired

section Closed

variable (edited : Edited) (uri : String) (index : Index)

@[simp]
theorem documents_closed :
    (edited.closed uri index).server.documents = edited.server.documents := by
  simp [closed, Server.dropTree, Server.dropDocument]

@[simp]
theorem getElem?_buffers_closed (key : String) :
    (edited.closed uri index).server.buffers[key]?
      = if Server.key uri = key then none else edited.server.buffers[key]? := by
  simp [closed, Server.dropTree, Server.dropDocument, Std.ExtTreeMap.getElem?_erase]

@[simp]
theorem getElem?_parses_closed (other : String) :
    (edited.closed uri index).server.parses[other]?
      = if uri = other then none else edited.server.parses[other]? := by
  simp [closed, Server.dropTree, Server.dropDocument, Std.ExtTreeMap.getElem?_erase]

@[simp]
theorem getElem?_trees_closed (other : String) :
    (edited.closed uri index).server.trees[other]?
      = if uri = other then none else edited.server.trees[other]? := by
  simp [closed, Server.dropTree, Server.dropDocument, Std.ExtTreeMap.getElem?_erase]

@[simp]
theorem map_document_closed :
    (edited.closed uri index).server.tasks.map ParseTask.document
      = edited.server.tasks.map ParseTask.document := by
  simp [closed, Server.dropTree, Server.dropDocument]

theorem awaits_closed {task number : Nat} :
    (edited.closed uri index).server.Awaits task number
      ↔ edited.server.Awaits task number ∧ edited.server.parses[uri]? ≠ some task :=
  Server.awaits_cancel _

theorem edits_closed {number : Nat} {buffer : Buffer} :
    (edited.closed uri index).server.Edits number buffer
      ↔ edited.server.Edits number buffer ∧ Server.key buffer.uri ≠ Server.key uri := by
  simp only [Server.Edits, documents_closed, getElem?_buffers_closed]
  grind

end Closed

end Edited

end RailsNavigator
