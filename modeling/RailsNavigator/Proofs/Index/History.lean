import RailsNavigator.Index.Documents
import RailsNavigator.Proofs.Index.Entries

/-!
# The index as the sum of its live documents

Operations on the index come in any order: documents are put in as trees, texts, files or whole
directories, put in again and taken out. What an operation changes is written down here as a list of
changes, apart from the index, and a history of changes has its live documents: those that were
replaced and not changed since, in the order of their replacements. The main result of this file is
that the index that operations lead to is the one made from the live documents alone. Nothing of
what they replaced or removed is left in any of its maps.
-/

namespace RailsNavigator

/-- A change of one document in the index. -/
inductive Change where
  | replaced (uri : String) (entries : Collector)
  | removed (uri : String)

namespace Change

/-- The document that is changed. -/
def uri : Change → String
  | replaced uri _ | removed uri => uri

/-- The documents that are live after a history: a replacement counts if the document is not changed
later. -/
def live : List Change → List (String × Collector)
  | [] => []
  | removed _ :: later => live later
  | replaced uri entries :: later =>
      if later.any fun change => change.uri == uri then live later
      else (uri, entries) :: live later

/-- The documents that a change leaves behind if it was made last. -/
def left : Change → List (String × Collector)
  | replaced uri entries => [(uri, entries)]
  | removed _ => []

/-- The documents that a change makes of others. It puts an end to what its document was before. -/
def onto (change : Change) (documents : List (String × Collector)) : List (String × Collector) :=
  (documents.filter fun document => document.1 != change.uri) ++ change.left

theorem live_append_singleton (history : List Change) (change : Change) :
    live (history ++ [change]) = change.onto (live history) := by
  unfold onto
  induction history with
  | nil => cases change <;> rfl
  | cons first rest hypothesis =>
      cases first with
      | removed uri => simpa [live] using hypothesis
      | replaced uri entries =>
          simp only [List.cons_append, live, List.any_append, List.any_cons, List.any_nil,
            Bool.or_false]
          by_cases later : (rest.any fun change => change.uri == uri) = true
          · simp [later, hypothesis]
          · by_cases same : change.uri = uri
            · simp [later, hypothesis, same]
            · have different : uri ≠ change.uri := Ne.symm same
              simp [later, hypothesis, same, different]

end Change

namespace Index

/-- Makes a change. -/
def apply (index : Index) : Change → Index
  | .replaced uri entries => index.replace uri entries
  | .removed uri => index.remove uri

/-- The index into which documents are put one after another. -/
def ofDocuments (documents : List (String × Collector)) : Index :=
  documents.foldl (fun index document => index.add document.2) {}

end Index

namespace Collector

/-- All entries of a document are noted under its own URI. -/
def IsOf (uri : String) (entries : Collector) : Prop :=
  (∀ entry ∈ entries.methods, entry.uri = uri) ∧ ∀ entry ∈ entries.namespaces, entry.uri = uri

variable {uri : String} {collector : Collector}

theorem IsOf.enterNamespace (isOf : collector.IsOf uri) (path : String)
    (superclass : Option String) : (collector.enterNamespace uri path superclass).IsOf uri := by
  refine ⟨isOf.1, ?_⟩
  intro entry member
  simp only [Collector.enterNamespace, List.mem_append, List.mem_singleton] at member
  rcases member with earlier | rfl
  · exact isOf.2 entry earlier
  · rfl

theorem IsOf.addMethods (isOf : collector.IsOf uri) {added : List MethodEntry}
    (own : ∀ entry ∈ added, entry.uri = uri) :
    IsOf uri { collector with methods := collector.methods ++ added } := by
  refine ⟨?_, isOf.2⟩
  intro entry member
  rcases List.mem_append.mp member with earlier | new
  · exact isOf.1 entry earlier
  · exact own entry new

theorem mem_of_mem_modify {α : Type} {change : α → α} {items : List α} {place : Nat} {item : α}
    (member : item ∈ items.modify place change) :
    item ∈ items ∨ ∃ old ∈ items, change old = item := by
  rcases List.mem_iff_getElem?.mp member with ⟨index, found⟩
  rw [List.getElem?_modify] at found
  rcases Option.map_eq_some_iff.mp found with ⟨old, present, changed⟩
  have oldMem := List.mem_of_getElem? present
  split at changed
  · exact Or.inr ⟨old, oldMem, changed⟩
  · subst changed
    exact Or.inl oldMem

theorem IsOf.declare (isOf : collector.IsOf uri) {add : NamespaceEntry → NamespaceEntry}
    (keepsUri : ∀ entry, (add entry).uri = entry.uri) : (collector.declare add).IsOf uri := by
  unfold Collector.declare
  split
  · exact isOf
  · refine ⟨isOf.1, ?_⟩
    intro entry member
    rcases mem_of_mem_modify member with present | ⟨old, oldMem, rfl⟩
    · exact isOf.2 entry present
    · rw [keepsUri]
      exact isOf.2 old oldMem

theorem uri_of_mem_accessors {method : String} {argument : Node} {entry : MethodEntry}
    (member : entry ∈ collector.accessors uri method argument) : entry.uri = uri := by
  unfold accessors at member
  split at member <;> grind

theorem IsOf.readCall (isOf : collector.IsOf uri) (method : String) (arguments : List Node) :
    (collector.readCall uri method arguments).IsOf uri := by
  unfold Collector.readCall
  split
  · exact isOf.declare fun _ => rfl
  · exact isOf.declare fun _ => rfl
  · apply isOf.addMethods
    intro entry member
    rcases List.mem_flatMap.mp member with ⟨argument, -, defined⟩
    exact uri_of_mem_accessors defined

/-- One visit of the walk adds entries of the document only. -/
theorem IsOf.step (isOf : collector.IsOf uri) (visit : Events.Visit) :
    (collector.step uri visit).IsOf uri := by
  unfold Collector.step
  split
  · exact isOf.enterNamespace _ _
  · exact isOf.enterNamespace _ _
  · exact isOf
  · exact isOf
  · split <;> exact isOf
  · split <;> exact isOf
  · split
    · exact isOf
    · apply isOf.addMethods
      simp
  · exact isOf.readCall _ _
  · exact isOf

/-- What is gathered from a document are entries of that document. -/
theorem isOf_collect (uri : String) (root : Node) : (collect uri root).IsOf uri := by
  have run : ∀ (deliveries : List (Events.Delivery Unit)) (collector : Collector),
      collector.IsOf uri →
        (deliveries.foldl (fun collector delivery => collector.step uri delivery.visit)
          collector).IsOf uri := by
    intro deliveries
    induction deliveries with
    | nil => exact fun _ isOf => isOf
    | cons delivery rest hypothesis => exact fun _ isOf => hypothesis _ (isOf.step _)
  exact run _ {} ⟨by simp, by simp⟩

end Collector

namespace Index

theorem ofDocuments_append_singleton (documents : List (String × Collector))
    (document : String × Collector) :
    ofDocuments (documents ++ [document]) = (ofDocuments documents).add document.2 := by
  simp [ofDocuments]

theorem ofDocuments_eq_ofEntries (documents : List (String × Collector)) :
    ofDocuments documents
      = ofEntries (documents.flatMap fun document => document.2.methods)
          (documents.flatMap fun document => document.2.namespaces) := by
  induction documents using List.reverseRecOn with
  | nil => rfl
  | append_singleton documents document hypothesis =>
      rw [ofDocuments_append_singleton, hypothesis, add_ofEntries]
      simp

/-- Choosing entries by their documents is choosing the documents. -/
theorem filter_flatMap_entries {α : Type} (uriOf : α → String)
    (entriesOf : String × Collector → List α) (choose : String → Bool)
    (documents : List (String × Collector))
    (own : ∀ document ∈ documents, ∀ entry ∈ entriesOf document, uriOf entry = document.1) :
    (documents.flatMap entriesOf).filter (fun entry => choose (uriOf entry))
      = (documents.filter fun document => choose document.1).flatMap entriesOf := by
  induction documents with
  | nil => rfl
  | cons document rest hypothesis =>
      have ownFirst := own document (by simp)
      have ownRest := hypothesis fun other member => own other (by simp [member])
      rw [List.flatMap_cons, List.filter_append, ownRest]
      by_cases chosen : choose document.1
      · have everything : (entriesOf document).filter (fun entry => choose (uriOf entry))
            = entriesOf document := by
          rw [List.filter_eq_self]
          intro entry member
          rw [ownFirst entry member, chosen]
        simp [everything, chosen]
      · have nothing : (entriesOf document).filter (fun entry => choose (uriOf entry)) = [] := by
          rw [List.filter_eq_nil_iff]
          intro entry member
          rwa [ownFirst entry member]
        simp [nothing, chosen]

/-- Taking out a document from the index of some documents leaves the index of the others. -/
theorem remove_ofDocuments (documents : List (String × Collector)) (uri : String)
    (own : ∀ document ∈ documents, document.2.IsOf document.1) :
    (ofDocuments documents).remove uri
      = ofDocuments (documents.filter fun document => document.1 != uri) := by
  rw [ofDocuments_eq_ofEntries, remove_ofEntries, ofDocuments_eq_ofEntries,
    filter_flatMap_entries _ _ (· != uri) _ fun document member => (own document member).1,
    filter_flatMap_entries _ _ (· != uri) _ fun document member => (own document member).2]

theorem apply_ofDocuments (documents : List (String × Collector)) (change : Change)
    (own : ∀ document ∈ documents, document.2.IsOf document.1) :
    (ofDocuments documents).apply change = ofDocuments (change.onto documents) := by
  have removed := remove_ofDocuments documents change.uri own
  unfold Change.onto
  cases change with
  | removed uri => simpa [apply, Change.left, Change.uri] using removed
  | replaced uri entries =>
      rw [Change.left, ofDocuments_append_singleton, ← removed]
      rfl

end Index

namespace Change

/-- A replacement puts in entries of its own document. -/
def IsOwn : Change → Prop
  | replaced uri entries => entries.IsOf uri
  | removed _ => True

theorem isOf_of_mem_live {history : List Change} (own : ∀ change ∈ history, change.IsOwn) :
    ∀ document ∈ live history, document.2.IsOf document.1 := by
  induction history with
  | nil => simp [live]
  | cons first rest hypothesis =>
      have ownRest := hypothesis fun change member => own change (by simp [member])
      cases first with
      | removed uri => exact ownRest
      | replaced uri entries =>
          rw [live]
          split
          · exact ownRest
          · intro document member
            rcases List.mem_cons.mp member with rfl | later
            · exact own (.replaced uri entries) (by simp)
            · exact ownRest document later

/-- Making the changes of a history one after another gives the index of its live documents. -/
theorem foldl_apply_eq_ofDocuments (history : List Change)
    (own : ∀ change ∈ history, change.IsOwn) :
    history.foldl Index.apply {} = Index.ofDocuments (live history) := by
  induction history using List.reverseRecOn with
  | nil => rfl
  | append_singleton history change hypothesis =>
      have ownHistory : ∀ change ∈ history, change.IsOwn :=
        fun change member => own change (by simp [member])
      rw [List.foldl_append, hypothesis ownHistory, live_append_singleton]
      exact Index.apply_ofDocuments (live history) change (isOf_of_mem_live ownHistory)

end Change

end RailsNavigator
