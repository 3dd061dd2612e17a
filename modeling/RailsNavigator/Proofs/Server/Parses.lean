import Mathlib.Data.List.Basic
import RailsNavigator.Proofs.Server.Edits

/-!
# Parses that are put off

Documents are opened, changed and closed while parses that were put off wait for typing to pause,
and all of this may come in any order. This file follows the tasks and the trees through every such
order.

No URI is ever waited for twice, and each document in the editor is waited for unless its present
text is the one that was tried last. For its tree to be that of this text, it takes one thing more:
a document that is opened must not take the place of another one, which leaves its task waiting, and
a document must be closed under the URI under which it was opened. Where the editor keeps to this
order, the tree of a document is always that of the last text that could be parsed.
-/

namespace RailsNavigator

namespace Edited

/-- What holds of tasks and documents in every order of steps. -/
structure Consistent (edited : Edited) : Prop where
  /-- The editor knows its documents by their keys. -/
  document_of_buffer : ∀ (key : String) (number : Nat), edited.server.buffers[key]? = some number →
    ∃ buffer, edited.server.documents[number]? = some buffer ∧ Server.key buffer.uri = key
  /-- Every task that waits is in the table. -/
  task_of_awaits : ∀ task number, edited.server.Awaits task number →
    ∃ buffer, edited.server.documents[number]? = some buffer ∧
      edited.server.parses[buffer.uri]? = some task
  /-- The table leads from a URI to a task of its document. -/
  document_of_task : ∀ (uri : String) (task : Nat), edited.server.parses[uri]? = some task →
    ∃ number text, (edited.server.tasks.map ParseTask.document)[task]? = some number ∧
      edited.server.documents[number]? = some ⟨uri, text⟩
  document_of_attempt : ∀ attempt ∈ edited.attempts, attempt.1 < edited.server.documents.length
  /-- A document that is not waited for was tried as it is. -/
  awaits_or_tried : ∀ number buffer, edited.server.Edits number buffer →
    (∃ task, edited.server.Awaits task number) ∨
      (edited.tried number).getLast? = some buffer.text

/-- What holds of the documents with a key where the editor keeps to the order. -/
structure Follows (grammar : Grammar) (edited : Edited) (key : String) : Prop where
  /-- Only a document in the editor is waited for. -/
  edits_of_awaits : ∀ task number buffer, edited.server.Awaits task number →
    edited.server.documents[number]? = some buffer → Server.key buffer.uri = key →
      edited.server.Edits number buffer
  /-- The tree of a document is that of the last text that could be parsed. -/
  tree_of_edits : ∀ number buffer, edited.server.Edits number buffer →
    Server.key buffer.uri = key →
      edited.server.trees[buffer.uri]? = grammar.lastTree? (edited.tried number)
  /-- There is no other tree. -/
  edits_of_tree : ∀ uri program, Server.key uri = key →
    edited.server.trees[uri]? = some program → ∃ number text, edited.server.Edits number ⟨uri, text⟩

namespace Consistent

variable {grammar : Grammar} {edited : Edited}

/-- A document in the editor is found under its key, and there is only one with that key. -/
theorem eq_of_key_eq {first second : Nat} {buffer other : Buffer}
    (firstEdits : edited.server.Edits first buffer) (secondEdits : edited.server.Edits second other)
    (same : Server.key buffer.uri = Server.key other.uri) : first = second := by
  have found := firstEdits.2
  rw [same, secondEdits.2] at found
  exact (Option.some.inj found).symm

/-- No URI is waited for twice. -/
theorem eq_of_awaitsUri (consistent : edited.Consistent) {uri : String} {first second : Nat}
    (firstAwaits : edited.server.AwaitsUri first uri)
    (secondAwaits : edited.server.AwaitsUri second uri) : first = second := by
  rcases firstAwaits with ⟨number, text, awaits, document⟩
  rcases secondAwaits with ⟨other, otherText, otherAwaits, otherDocument⟩
  rcases consistent.task_of_awaits first number awaits with ⟨buffer, found, tabled⟩
  rcases consistent.task_of_awaits second other otherAwaits with
    ⟨otherBuffer, otherFound, otherTabled⟩
  rw [document, Option.some_inj] at found
  rw [otherDocument, Option.some_inj] at otherFound
  subst found otherFound
  rw [tabled, Option.some_inj] at otherTabled
  exact otherTabled

/-- The task in the table under a URI waits for no document of another URI. -/
theorem uri_of_awaits (consistent : edited.Consistent) {uri : String} {task number : Nat}
    {buffer : Buffer} (awaits : edited.server.Awaits task number)
    (document : edited.server.documents[number]? = some buffer)
    (tabled : edited.server.parses[uri]? = some task) : buffer.uri = uri := by
  rcases consistent.document_of_task uri task tabled with ⟨other, text, isTask, otherDocument⟩
  rw [List.getElem?_map, awaits, Option.map_some, Option.some_inj] at isTask
  subst isTask
  rw [document, Option.some_inj] at otherDocument
  rw [otherDocument]

theorem opened (consistent : edited.Consistent) (uri text : String) :
    (edited.opened grammar uri text).Consistent where
  document_of_buffer key number found := by
    rw [getElem?_buffers_opened] at found
    split at found
    case isTrue isKey =>
        cases found
        exact ⟨⟨uri, text⟩, by simp, isKey⟩
    case isFalse =>
        rcases consistent.document_of_buffer key number found with ⟨buffer, document, isKey⟩
        exact ⟨buffer, document_opened_of_document _ _ _ _ document, isKey⟩
  task_of_awaits task number awaits := by
    rw [awaits_opened] at awaits
    rcases consistent.task_of_awaits task number awaits with ⟨buffer, document, tabled⟩
    rw [parses_opened]
    exact ⟨buffer, document_opened_of_document _ _ _ _ document, tabled⟩
  document_of_task other task tabled := by
    rw [parses_opened] at tabled
    rcases consistent.document_of_task other task tabled with ⟨number, old, isTask, document⟩
    rw [tasks_opened]
    exact ⟨number, old, isTask, document_opened_of_document _ _ _ _ document⟩
  document_of_attempt attempt member := by
    rw [documents_opened, List.length_append, List.length_singleton]
    rcases List.mem_append.mp member with earlier | new
    · exact Nat.lt_succ_of_lt (consistent.document_of_attempt attempt earlier)
    · rw [List.mem_singleton.mp new]
      exact Nat.lt_succ_self _
  awaits_or_tried number buffer edits := by
    rw [tried_opened]
    simp only [awaits_opened]
    rcases (edits_opened ..).mp edits with ⟨rfl, rfl⟩ | ⟨already, -⟩
    · right
      simp
    · have inside := (List.getElem?_eq_some_iff.mp already.1).1
      rw [if_neg (Nat.ne_of_gt inside)]
      exact consistent.awaits_or_tried number buffer already

theorem changed (consistent : edited.Consistent) {number : Nat} {uri old : String} (text : String)
    (present : edited.server.Edits number ⟨uri, old⟩) :
    (edited.changed number uri text).Consistent where
  document_of_buffer key other found := by
    rw [buffers_changed] at found
    rcases consistent.document_of_buffer key other found with ⟨buffer, document, isKey⟩
    rcases document_changed_of_document _ number uri text document with ⟨later, same⟩
    exact ⟨⟨buffer.uri, later⟩, same, isKey⟩
  task_of_awaits task other awaits := by
    simp only [getElem?_parses_changed]
    rcases (awaits_changed ..).mp awaits with ⟨rfl, rfl⟩ | ⟨awaited, notTabled⟩
    · rcases document_changed_of_document _ other uri text present.1 with ⟨later, same⟩
      exact ⟨⟨uri, later⟩, same, if_pos rfl⟩
    · rcases consistent.task_of_awaits task other awaited with ⟨buffer, document, tabled⟩
      rcases document_changed_of_document _ number uri text document with ⟨later, same⟩
      have otherUri : uri ≠ buffer.uri := by
        rintro rfl
        exact notTabled tabled
      exact ⟨⟨buffer.uri, later⟩, same, by rw [if_neg otherUri, tabled]⟩
  document_of_task other task tabled := by
    rw [getElem?_parses_changed] at tabled
    rw [map_document_changed]
    split at tabled
    case isTrue isUri =>
        subst isUri
        cases tabled
        rcases document_changed_of_document _ number uri text present.1 with ⟨later, same⟩
        exact ⟨number, later, by simp, same⟩
    case isFalse =>
        rcases consistent.document_of_task other task tabled with
          ⟨document, before, isTask, present⟩
        rcases document_changed_of_document _ number uri text present with ⟨later, same⟩
        have inside := (List.getElem?_eq_some_iff.mp isTask).1
        exact ⟨document, later, by rw [List.getElem?_append_left inside, isTask], same⟩
  document_of_attempt attempt member := by
    rw [documents_changed, List.length_modify]
    exact consistent.document_of_attempt attempt member
  awaits_or_tried other buffer edits := by
    simp only [awaits_changed]
    rcases (edits_changed _ _ _ _ present).mp edits with ⟨rfl, rfl⟩ | ⟨different, already⟩
    · exact Or.inl ⟨_, Or.inl ⟨rfl, rfl⟩⟩
    · rcases consistent.awaits_or_tried other buffer already with ⟨task, awaits⟩ | tried
      · refine Or.inl ⟨task, Or.inr ⟨awaits, ?_⟩⟩
        intro tabled
        have sameUri := consistent.uri_of_awaits awaits already.1 tabled
        exact different (eq_of_key_eq already present (by rw [sameUri]))
      · exact Or.inr tried

theorem expired (consistent : edited.Consistent) {task number : Nat} {buffer : Buffer}
    (awaits : edited.server.Awaits task number)
    (document : edited.server.documents[number]? = some buffer) :
    (edited.expired grammar task number buffer).Consistent where
  document_of_buffer key other found := by
    rw [buffers_expired] at found
    rw [documents_expired]
    exact consistent.document_of_buffer key other found
  task_of_awaits other waiting otherAwaits := by
    rw [documents_expired, parses_expired]
    exact consistent.task_of_awaits other waiting ((awaits_expired ..).mp otherAwaits).1
  document_of_task uri other tabled := by
    rw [parses_expired] at tabled
    rw [documents_expired, map_document_expired]
    exact consistent.document_of_task uri other tabled
  document_of_attempt attempt member := by
    rw [documents_expired]
    rcases List.mem_append.mp member with earlier | new
    · exact consistent.document_of_attempt attempt earlier
    · rw [List.mem_singleton.mp new]
      exact (List.getElem?_eq_some_iff.mp document).1
  awaits_or_tried other present edits := by
    rw [edits_expired] at edits
    rw [tried_expired]
    by_cases same : number = other
    · subst same
      have isBuffer : buffer = present := Option.some.inj (document.symm.trans edits.1)
      right
      simp [isBuffer]
    · rw [if_neg same]
      rcases consistent.awaits_or_tried other present edits with ⟨waiting, otherAwaits⟩ | tried
      · have otherTask : waiting ≠ task := by
          rintro rfl
          rw [Server.Awaits, awaits] at otherAwaits
          exact same (ParseTask.mk.inj (Option.some.inj otherAwaits)).1
        exact Or.inl ⟨waiting, (awaits_expired ..).mpr ⟨otherAwaits, otherTask⟩⟩
      · exact Or.inr tried

theorem closed (consistent : edited.Consistent) (uri : String) (index : Index) :
    (edited.closed uri index).Consistent where
  document_of_buffer key number found := by
    rw [getElem?_buffers_closed] at found
    rw [documents_closed]
    split at found
    · cases found
    · exact consistent.document_of_buffer key number found
  task_of_awaits task number awaits := by
    rcases (awaits_closed ..).mp awaits with ⟨awaited, notTabled⟩
    rcases consistent.task_of_awaits task number awaited with ⟨buffer, document, tabled⟩
    have otherUri : uri ≠ buffer.uri := by
      rintro rfl
      exact notTabled tabled
    rw [documents_closed]
    exact ⟨buffer, document, by rw [getElem?_parses_closed, if_neg otherUri, tabled]⟩
  document_of_task other task tabled := by
    rw [getElem?_parses_closed] at tabled
    rw [documents_closed, map_document_closed]
    split at tabled
    · cases tabled
    · exact consistent.document_of_task other task tabled
  document_of_attempt attempt member := by
    rw [documents_closed]
    exact consistent.document_of_attempt attempt member
  awaits_or_tried number buffer edits := by
    rcases (edits_closed ..).mp edits with ⟨already, otherKey⟩
    rcases consistent.awaits_or_tried number buffer already with ⟨task, awaits⟩ | tried
    · refine Or.inl ⟨task, (awaits_closed ..).mpr ⟨awaits, ?_⟩⟩
      intro tabled
      exact otherKey (by rw [consistent.uri_of_awaits awaits already.1 tabled])
    · exact Or.inr tried

end Consistent

namespace Follows

variable {grammar : Grammar} {edited : Edited} {key : String}

/-- A document that is not in the editor yet has not been tried. -/
theorem tried_length (consistent : edited.Consistent) :
    edited.tried edited.server.documents.length = [] := by
  unfold tried
  rw [List.map_eq_nil_iff, List.filter_eq_nil_iff]
  intro attempt member
  have inside := consistent.document_of_attempt attempt member
  simpa using Nat.ne_of_lt inside

theorem opened (follows : edited.Follows grammar key) (consistent : edited.Consistent)
    {uri text : String}
    (free : Server.key uri = key → edited.server.buffers[key]? = none) :
    (edited.opened grammar uri text).Follows grammar key where
  edits_of_awaits task number buffer awaits document isKey := by
    rw [awaits_opened] at awaits
    rcases consistent.task_of_awaits task number awaits with ⟨present, already, -⟩
    have same := document_opened_of_document _ grammar uri text already
    rw [document, Option.some_inj] at same
    subst same
    have edits := follows.edits_of_awaits task number buffer awaits already isKey
    refine (edits_opened ..).mpr (Or.inr ⟨edits, ?_⟩)
    intro sameKey
    have absent := free (sameKey.symm.trans isKey)
    rw [← isKey, edits.2] at absent
    cases absent
  tree_of_edits number buffer edits isKey := by
    rw [getElem?_trees_opened, tried_opened]
    rcases (edits_opened ..).mp edits with ⟨rfl, rfl⟩ | ⟨already, otherKey⟩
    · have noTree : edited.server.trees[uri]? = none := by
        cases found : edited.server.trees[uri]? with
        | none => rfl
        | some program =>
            rcases follows.edits_of_tree uri program isKey found with ⟨number, old, present⟩
            have absent := free isKey
            rw [← isKey, present.2] at absent
            cases absent
      rw [if_pos rfl, if_pos rfl, tried_length consistent, Grammar.lastTree?_append_singleton,
        noTree]
      rfl
    · have otherUri : uri ≠ buffer.uri := by
        rintro rfl
        exact otherKey rfl
      have inside := (List.getElem?_eq_some_iff.mp already.1).1
      rw [if_neg otherUri, if_neg (Nat.ne_of_gt inside)]
      exact follows.tree_of_edits number buffer already isKey
  edits_of_tree other program isKey found := by
    rw [getElem?_trees_opened] at found
    by_cases same : uri = other
    · subst same
      exact ⟨_, text, (edits_opened ..).mpr (Or.inl ⟨rfl, rfl⟩)⟩
    · rw [if_neg same] at found
      rcases follows.edits_of_tree other program isKey found with ⟨number, old, present⟩
      refine ⟨number, old, (edits_opened ..).mpr (Or.inr ⟨present, ?_⟩)⟩
      intro sameKey
      have absent := free (sameKey.symm.trans isKey)
      rw [← isKey, present.2] at absent
      cases absent

theorem changed (follows : edited.Follows grammar key) {number : Nat} {uri old : String}
    (text : String) (present : edited.server.Edits number ⟨uri, old⟩) :
    (edited.changed number uri text).Follows grammar key where
  edits_of_awaits task other buffer awaits document isKey := by
    rw [edits_changed _ _ _ _ present]
    rw [documents_changed, List.getElem?_modify] at document
    by_cases same : number = other
    · subst same
      simp only [present.1, if_true, Option.map_eq_map, Option.map_some,
        Option.some_inj] at document
      exact Or.inl ⟨rfl, document.symm⟩
    · have unchanged : edited.server.documents[other]? = some buffer := by
        simpa [same] using document
      rcases (awaits_changed ..).mp awaits with ⟨-, rfl⟩ | ⟨awaited, -⟩
      · exact absurd rfl same
      · exact Or.inr ⟨Ne.symm same,
          follows.edits_of_awaits task other buffer awaited unchanged isKey⟩
  tree_of_edits other buffer edits isKey := by
    rw [trees_changed]
    rcases (edits_changed _ _ _ _ present).mp edits with ⟨rfl, rfl⟩ | ⟨-, already⟩
    · exact follows.tree_of_edits other ⟨uri, old⟩ present isKey
    · exact follows.tree_of_edits other buffer already isKey
  edits_of_tree other program isKey found := by
    rw [trees_changed] at found
    rcases follows.edits_of_tree other program isKey found with ⟨document, before, already⟩
    by_cases same : document = number
    · subst same
      have isUri := Buffer.mk.inj (Option.some.inj (already.1.symm.trans present.1))
      exact ⟨document, text, (edits_changed _ _ _ _ present).mpr (Or.inl ⟨rfl, by rw [isUri.1]⟩)⟩
    · exact ⟨document, before, (edits_changed _ _ _ _ present).mpr (Or.inr ⟨same, already⟩)⟩

theorem expired (follows : edited.Follows grammar key) {task number : Nat} {buffer : Buffer}
    (awaits : edited.server.Awaits task number)
    (document : edited.server.documents[number]? = some buffer) :
    (edited.expired grammar task number buffer).Follows grammar key where
  edits_of_awaits other waiting present otherAwaits otherDocument isKey := by
    rw [documents_expired] at otherDocument
    rw [edits_expired]
    exact follows.edits_of_awaits other waiting present ((awaits_expired ..).mp otherAwaits).1
      otherDocument isKey
  tree_of_edits other present edits isKey := by
    rw [edits_expired] at edits
    have before := follows.tree_of_edits other present edits isKey
    rw [getElem?_trees_expired, tried_expired]
    by_cases same : number = other
    · subst same
      have isBuffer : buffer = present := Option.some.inj (document.symm.trans edits.1)
      subst isBuffer
      rw [if_pos rfl, if_pos rfl, Grammar.lastTree?_append_singleton, before]
    · have otherUri : buffer.uri ≠ present.uri := by
        intro sameUri
        have sameKey : Server.key buffer.uri = Server.key present.uri := by rw [sameUri]
        have awaited := follows.edits_of_awaits task number buffer awaits document
          (sameKey.trans isKey)
        exact same (Consistent.eq_of_key_eq awaited edits sameKey)
      rw [if_neg otherUri, if_neg same, before]
  edits_of_tree uri program isKey found := by
    rw [getElem?_trees_expired] at found
    simp only [edits_expired]
    by_cases same : buffer.uri = uri
    · subst same
      exact ⟨number, buffer.text, follows.edits_of_awaits task number buffer awaits document isKey⟩
    · rw [if_neg same] at found
      exact follows.edits_of_tree uri program isKey found

theorem closed (follows : edited.Follows grammar key) (consistent : edited.Consistent)
    {uri : String} (index : Index)
    (own : Server.key uri = key → ∀ number ∈ edited.server.buffers[key]?,
      ∀ buffer ∈ edited.server.documents[number]?, buffer.uri = uri) :
    (edited.closed uri index).Follows grammar key where
  edits_of_awaits task number buffer awaits document isKey := by
    rcases (awaits_closed ..).mp awaits with ⟨awaited, notTabled⟩
    rw [documents_closed] at document
    have edits := follows.edits_of_awaits task number buffer awaited document isKey
    refine (edits_closed ..).mpr ⟨edits, ?_⟩
    intro sameKey
    have isUri := own (sameKey.symm.trans isKey) number (isKey ▸ edits.2) buffer edits.1
    rcases consistent.task_of_awaits task number awaited with ⟨present, same, tabled⟩
    rw [document, Option.some_inj] at same
    subst same
    rw [isUri] at tabled
    exact notTabled tabled
  tree_of_edits number buffer edits isKey := by
    rcases (edits_closed ..).mp edits with ⟨already, otherKey⟩
    have otherUri : uri ≠ buffer.uri := by
      rintro rfl
      exact otherKey rfl
    rw [getElem?_trees_closed, if_neg otherUri]
    exact follows.tree_of_edits number buffer already isKey
  edits_of_tree other program isKey found := by
    rw [getElem?_trees_closed] at found
    by_cases same : uri = other
    · rw [if_pos same] at found
      cases found
    · rw [if_neg same] at found
      rcases follows.edits_of_tree other program isKey found with ⟨number, text, present⟩
      refine ⟨number, text, (edits_closed ..).mpr ⟨present, ?_⟩⟩
      intro sameKey
      exact same (own (sameKey.symm.trans isKey) number (isKey ▸ present.2) _ present.1).symm

end Follows

/-- What a step can lead to. -/
inductive Next (grammar : Grammar) (edited : Edited) : Edit → Edited → Prop
  /-- The step is refused, or its task does not wait any more. -/
  | nothing (edit : Edit) : Next grammar edited edit edited
  | opened (uri text : String) :
      Next grammar edited (.opened uri text) (edited.opened grammar uri text)
  | changed (requested text : String) {number : Nat} {uri old : String}
      (present : edited.server.Edits number ⟨uri, old⟩) :
      Next grammar edited (.changed requested text) (edited.changed number uri text)
  | expired {task number : Nat} {buffer : Buffer} (awaits : edited.server.Awaits task number)
      (document : edited.server.documents[number]? = some buffer) :
      Next grammar edited (.expired task) (edited.expired grammar task number buffer)
  | closed (uri : String) (index : Index) :
      Next grammar edited (.closed uri) (edited.closed uri index)

theorem step_opened (edited : Edited) (grammar : Grammar) (files : FileTree) {uri : String}
    (text : String) {parts : Uri.Parts} (split : Uri.split uri = .ok parts) :
    edited.step grammar (files, .opened uri text) = edited.opened grammar uri text := by
  simp only [step, Edit.serve, Edit.attempt?, Serving.after_openDocument, split]
  rfl

theorem step_expired (edited : Edited) (grammar : Grammar) (files : FileTree)
    {task number : Nat} {buffer : Buffer} (awaits : edited.server.Awaits task number)
    (document : edited.server.documents[number]? = some buffer) :
    edited.step grammar (files, .expired task) = edited.expired grammar task number buffer := by
  have awaited := Server.awaited?_eq_some.mpr ⟨awaits, document⟩
  simp only [step, Edit.serve, Edit.attempt?, Serving.after_expire, awaited]
  rfl

theorem next_step (grammar : Grammar) {edited : Edited} (consistent : edited.Consistent)
    (moment : FileTree × Edit) :
    Next grammar edited moment.2 (edited.step grammar moment) := by
  rcases moment with ⟨files, edit⟩
  cases edit with
  | opened uri text =>
      cases split : Uri.split uri with
      | error error =>
          simpa [step, Edit.serve, Edit.attempt?, Serving.after_openDocument, split,
            Except.toOption] using Next.nothing (.opened uri text)
      | ok parts =>
          rw [step_opened edited grammar files text split]
          exact Next.opened uri text
  | changed uri text =>
      simp only [step, Edit.serve, Edit.attempt?, Serving.after_changeDocument,
        Std.ExtTreeMap.get?_eq_getElem?, Option.toList_none, List.append_nil]
      cases found : edited.server.buffers[Server.key uri]? with
      | none => exact Next.nothing _
      | some number =>
          rcases consistent.document_of_buffer _ number found with ⟨⟨own, old⟩, document, isKey⟩
          have present : edited.server.Edits number ⟨own, old⟩ := ⟨document, by rw [isKey, found]⟩
          have later : (edited.server.setText number text).documents[number]?
              = some ⟨own, text⟩ := by
            simp [Server.setText, document]
          simp only [later]
          exact Next.changed uri text present
  | expired task =>
      cases awaited : edited.server.awaited? task with
      | none =>
          simpa [step, Edit.serve, Edit.attempt?, Serving.after_expire, awaited] using
            Next.nothing (.expired task)
      | some parse =>
          rcases parse with ⟨number, buffer⟩
          rcases Server.awaited?_eq_some.mp awaited with ⟨awaits, document⟩
          rw [step_expired edited grammar files awaits document]
          exact Next.expired awaits document
  | closed uri =>
      simp only [step, Edit.serve, Edit.attempt?, Serving.after_closeDocument,
        Option.toList_none, List.append_nil]
      exact Next.closed uri _

end Edited

/-- A step keeps to the order for the documents with a key: none of them is opened in the place of
another one, and each is closed under its own URI. -/
def Edit.IsOrderly (server : Server) (key : String) : Edit → Prop
  | opened uri _ => Server.key uri = key → server.buffers[key]? = none
  | closed uri => Server.key uri = key → ∀ number ∈ server.buffers[key]?,
      ∀ buffer ∈ server.documents[number]?, buffer.uri = uri
  | changed _ _ | expired _ => True

instance (server : Server) (key : String) : (edit : Edit) → Decidable (edit.IsOrderly server key)
  | .opened uri _ =>
      inferInstanceAs (Decidable (Server.key uri = key → server.buffers[key]? = none))
  | .closed uri =>
      inferInstanceAs (Decidable (Server.key uri = key → ∀ number ∈ server.buffers[key]?,
        ∀ buffer ∈ server.documents[number]?, buffer.uri = uri))
  | .changed _ _ | .expired _ => inferInstanceAs (Decidable True)

namespace Edited

variable {grammar : Grammar} {edited later : Edited} {key : String}

theorem Consistent.next (consistent : edited.Consistent) {edit : Edit}
    (next : Next grammar edited edit later) : later.Consistent := by
  cases next with
  | nothing => exact consistent
  | opened uri text => exact consistent.opened uri text
  | changed requested text present => exact consistent.changed text present
  | expired awaits document => exact consistent.expired awaits document
  | closed uri index => exact consistent.closed uri index

theorem Follows.next (follows : edited.Follows grammar key) (consistent : edited.Consistent)
    {edit : Edit} (next : Next grammar edited edit later)
    (orderly : edit.IsOrderly edited.server key) : later.Follows grammar key := by
  cases next with
  | nothing => exact follows
  | opened uri text => exact follows.opened consistent orderly
  | changed requested text present => exact follows.changed text present
  | expired awaits document => exact follows.expired awaits document
  | closed uri index => exact follows.closed consistent index orderly

/-- The tree and the tasks of a URI are those of its document in the editor. -/
structure IsCurrent (grammar : Grammar) (edited : Edited) (uri : String) : Prop where
  /-- Without a document in the editor there is no tree, and nothing waits. -/
  of_closed : (∀ number text, ¬edited.server.Edits number ⟨uri, text⟩) →
    edited.server.trees[uri]? = none ∧ ∀ task, ¬edited.server.AwaitsUri task uri
  /-- The tree is that of the last text that could be parsed since the document was opened. -/
  tree_eq : ∀ number text, edited.server.Edits number ⟨uri, text⟩ →
    edited.server.trees[uri]? = grammar.lastTree? (edited.tried number)
  /-- Once nothing waits, it is that of the present text, if this can be parsed, and else that of
  the last text before. -/
  tree_eq_of_settled : ∀ number text, edited.server.Edits number ⟨uri, text⟩ →
    (∀ task, ¬edited.server.AwaitsUri task uri) →
      edited.server.trees[uri]?
        = (grammar.program? (.ok text)).or (grammar.lastTree? (edited.tried number).dropLast)

theorem Follows.isCurrent {uri : String} (follows : edited.Follows grammar (Server.key uri))
    (consistent : edited.Consistent) : edited.IsCurrent grammar uri where
  of_closed absent := by
    constructor
    · cases found : edited.server.trees[uri]? with
      | none => rfl
      | some program =>
          rcases follows.edits_of_tree uri program rfl found with ⟨number, text, present⟩
          exact absurd present (absent number text)
    · rintro task ⟨number, text, awaits, document⟩
      exact absent number text (follows.edits_of_awaits task number _ awaits document rfl)
  tree_eq number text edits := follows.tree_of_edits number _ edits rfl
  tree_eq_of_settled number text edits notAwaited := by
    rcases consistent.awaits_or_tried number _ edits with ⟨task, awaits⟩ | last
    · exact absurd ⟨number, text, awaits, edits.1⟩ (notAwaited task)
    · rw [follows.tree_of_edits number _ edits rfl, ← Grammar.lastTree?_append_singleton,
        List.dropLast_append_getLast? _ last]

/-- A document is opened, and then a task runs. -/
def reopening (files : FileTree) (uri text : String) (task : Nat) : List (FileTree × Edit) :=
  [(files, .opened uri text), (files, .expired task)]

/-- If a document takes the place of one that is waited for, the tree of the earlier text takes the
place of its own. -/
theorem Consistent.tree_of_reopened (consistent : edited.Consistent) {uri old : String}
    {parts : Uri.Parts} {task number : Nat} (split : Uri.split uri = .ok parts)
    (awaits : edited.server.Awaits task number)
    (document : edited.server.documents[number]? = some ⟨uri, old⟩) (text : String)
    (files : FileTree) :
    (∀ other,
      ¬((reopening files uri text task).foldl (step grammar) edited).server.AwaitsUri other uri) ∧
      ((reopening files uri text task).foldl (step grammar) edited).server.trees[uri]?
        = (grammar.program? (.ok old)).or
            ((grammar.program? (.ok text)).or edited.server.trees[uri]?) := by
  have stillAwaits := (awaits_opened edited grammar uri text).mpr awaits
  have stillThere := document_opened_of_document edited grammar uri text document
  rw [reopening, List.foldl_cons, List.foldl_cons, List.foldl_nil,
    step_opened edited grammar files text split,
    step_expired _ grammar files stillAwaits stillThere]
  constructor
  · rintro other ⟨waiting, present, otherAwaits, otherDocument⟩
    rcases (awaits_expired ..).mp otherAwaits with ⟨awaited, notTask⟩
    rw [documents_expired] at otherDocument
    exact notTask ((consistent.opened uri text).eq_of_awaitsUri
      ⟨waiting, present, awaited, otherDocument⟩ ⟨number, old, stillAwaits, stillThere⟩)
  · rw [getElem?_trees_expired, if_pos rfl, getElem?_trees_opened, if_pos rfl]

variable (grammar) (host : Runner.Host) (moments : List (FileTree × Edit))

/-- All steps keep to the order for the documents with a key. -/
def IsOrderly (key : String) : Prop :=
  ∀ count < moments.length, ∀ moment ∈ moments[count]?,
    moment.2.IsOrderly (run grammar host (moments.take count)).server key

instance (key : String) : Decidable (IsOrderly grammar host moments key) :=
  inferInstanceAs (Decidable (∀ count < moments.length, ∀ moment ∈ moments[count]?,
    moment.2.IsOrderly (run grammar host (moments.take count)).server key))

theorem isOrderly_append_singleton {key : String} {moment : FileTree × Edit}
    (orderly : IsOrderly grammar host (moments ++ [moment]) key) :
    IsOrderly grammar host moments key ∧
      moment.2.IsOrderly (run grammar host moments).server key := by
  constructor
  · intro count inside other member
    have place : other ∈ (moments ++ [moment])[count]? := by
      rwa [List.getElem?_append_left inside]
    have before := orderly count (by simp; omega) other place
    rwa [List.take_append_of_le_length (Nat.le_of_lt inside)] at before
  · have last := orderly moments.length (by simp) moment (by simp)
    rwa [List.take_left'] at last
    rfl

theorem run_append (further : List (FileTree × Edit)) :
    run grammar host (moments ++ further)
      = further.foldl (step grammar) (run grammar host moments) :=
  List.foldl_append ..

theorem consistent_run : (run grammar host moments).Consistent := by
  induction moments using List.reverseRecOn with
  | nil =>
      refine ⟨?_, ?_, ?_, ?_, ?_⟩ <;>
        simp [run, Server.start, Traced.through, Server.Awaits, Server.Edits]
  | append_singleton earlier moment hypothesis =>
      rw [run_append]
      exact hypothesis.next (next_step grammar hypothesis moment)

theorem follows_run {key : String} (orderly : IsOrderly grammar host moments key) :
    (run grammar host moments).Follows grammar key := by
  induction moments using List.reverseRecOn with
  | nil =>
      refine ⟨?_, ?_, ?_⟩ <;> simp [run, Server.start, Traced.through, Server.Awaits, Server.Edits]
  | append_singleton earlier moment hypothesis =>
      rcases isOrderly_append_singleton grammar host earlier orderly with ⟨before, last⟩
      have consistent := consistent_run grammar host earlier
      rw [run_append]
      exact (hypothesis before).next consistent (next_step grammar consistent moment) last

/-- After any steps, no URI is waited for twice, and every document in the editor is waited for or
was tried last as it is. A URI for which the steps keep to the order is current: nothing is left of
its closed documents, and the tree follows the text of the one in the editor. Without the order this
fails: a document that is opened in the place of one that is waited for ends up with the tree of the
earlier text, although nothing waits any more. -/
theorem run_keeps_up :
    (∀ uri first second, (run grammar host moments).server.AwaitsUri first uri →
      (run grammar host moments).server.AwaitsUri second uri → first = second) ∧
    (∀ number buffer, (run grammar host moments).server.Edits number buffer →
      (∃ task, (run grammar host moments).server.Awaits task number) ∨
        ((run grammar host moments).tried number).getLast? = some buffer.text) ∧
    (∀ uri, IsOrderly grammar host moments (Server.key uri) →
      (run grammar host moments).IsCurrent grammar uri) ∧
    ∀ uri old parts task number text files, Uri.split uri = .ok parts →
      (run grammar host moments).server.Awaits task number →
      (run grammar host moments).server.documents[number]? = some ⟨uri, old⟩ →
        (∀ other, ¬(run grammar host (moments ++ reopening files uri text task)).server.AwaitsUri
          other uri) ∧
        (run grammar host (moments ++ reopening files uri text task)).server.trees[uri]?
          = (grammar.program? (.ok old)).or
              ((grammar.program? (.ok text)).or
                (run grammar host moments).server.trees[uri]?) := by
  have consistent := consistent_run grammar host moments
  refine ⟨fun uri first second => consistent.eq_of_awaitsUri, consistent.awaits_or_tried, ?_, ?_⟩
  · intro uri orderly
    exact (follows_run grammar host moments orderly).isCurrent consistent
  · intro uri old parts task number text files split awaits document
    rw [run_append]
    exact consistent.tree_of_reopened split awaits document text files

/-- A grammar for which every text but the empty one is a program without statements. -/
def sparseGrammar : Grammar := fun text =>
  if text = "" then none
  else some ⟨.node ⟨0, "program", true, false, none, 0, 0, ⟨0, 0⟩, ⟨0, 0⟩⟩ [], false⟩

/-- Two documents. The first is closed while it is waited for, opened again and changed, to end with
a text that cannot be parsed. -/
def closedAndReopened : List (FileTree × Edit) :=
  ([.opened "file:///a.rb" "a", .opened "file:///b.rb" "b", .changed "file:///a.rb" "aa",
    .closed "file:///a.rb", .expired 0, .opened "file:///a.rb" "c", .changed "file:///b.rb" "bb",
    .changed "file:///a.rb" "cc", .changed "file:///a.rb" "", .expired 2, .expired 3] :
    List Edit).map fun edit => (.directory [], edit)

theorem run_keeps_up_closedAndReopened :
    IsOrderly sparseGrammar {} closedAndReopened (Server.key "file:///a.rb") ∧
      (run sparseGrammar {} closedAndReopened).server.Edits 2 ⟨"file:///a.rb", ""⟩ ∧
      (run sparseGrammar {} closedAndReopened).tried 2 = ["c", ""] ∧
      (run sparseGrammar {} closedAndReopened).server.AwaitsUri 1 "file:///b.rb" ∧
      (∀ task,
        ¬(run sparseGrammar {} closedAndReopened).server.AwaitsUri task "file:///a.rb") ∧
      (run sparseGrammar {} closedAndReopened).server.trees["file:///a.rb"]?
        = (sparseGrammar.program? (.ok "")).or (sparseGrammar.lastTree? ["c"]) ∧
      (sparseGrammar.lastTree? ["c"]).isSome := by
  have documents : (run sparseGrammar {} closedAndReopened).server.documents
      = [⟨"file:///a.rb", "aa"⟩, ⟨"file:///b.rb", "bb"⟩, ⟨"file:///a.rb", ""⟩] := by decide +kernel
  have tasks : (run sparseGrammar {} closedAndReopened).server.tasks
      = [⟨0, .cancelled⟩, ⟨1, .waiting⟩, ⟨2, .cancelled⟩, ⟨2, .finished⟩] := by decide +kernel
  have notAwaited : ∀ task,
      ¬(run sparseGrammar {} closedAndReopened).server.AwaitsUri task "file:///a.rb" := by
    generalize (run sparseGrammar {} closedAndReopened).server = server at documents tasks ⊢
    rintro task ⟨number, text, awaits, document⟩
    rw [Server.Awaits, tasks] at awaits
    rw [documents] at document
    rcases task with _ | _ | _ | _ | task
    · simp at awaits
    · obtain rfl : 1 = number := by simpa using awaits
      simp at document
    · simp at awaits
    · simp at awaits
    · simp at awaits
  have orderly : IsOrderly sparseGrammar {} closedAndReopened (Server.key "file:///a.rb") := by
    decide +kernel
  have tried : (run sparseGrammar {} closedAndReopened).tried 2 = ["c", ""] := by decide +kernel
  have edits : (run sparseGrammar {} closedAndReopened).server.Edits 2 ⟨"file:///a.rb", ""⟩ :=
    ⟨by rw [documents]; rfl, by decide +kernel⟩
  have keepsUp := run_keeps_up sparseGrammar {} closedAndReopened
  have tree := (keepsUp.2.2.1 "file:///a.rb" orderly).tree_eq_of_settled 2 "" edits notAwaited
  refine ⟨orderly, edits, tried, ⟨1, "bb", by rw [Server.Awaits, tasks]; rfl,
    by rw [documents]; rfl⟩, notAwaited, ?_, by cbv⟩
  rw [tree]
  change _ = (sparseGrammar.program? (.ok "")).or (sparseGrammar.lastTree? ["c", ""].dropLast)
  rw [← tried]

end Edited

end RailsNavigator
