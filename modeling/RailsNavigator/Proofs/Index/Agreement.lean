import RailsNavigator.Proofs.Index.Records

/-!
# Indexes that agree on all but some documents

Documents share the lists of the index: a class that two files reopen has its methods from both in
one place. `AgreeExcept` says that nevertheless two indexes have the same of all documents but some,
entries with their order and notes alike. An operation changes nothing beyond the documents of its
changes, and each of these has what it was given last.
-/

namespace RailsNavigator

/-- Of the changes of a document, one is the last. -/
theorem Change.exists_last {changes : List Change} {uri : String}
    (changed : uri ∈ changes.map Change.uri) :
    ∃ earlier change rest, changes = earlier ++ change :: rest ∧ change.uri = uri ∧
      ∀ later ∈ rest, later.uri ≠ uri := by
  induction changes with
  | nil => cases changed
  | cons change rest hypothesis =>
      -- The change at the head is the last one if the document does not come up again.
      by_cases again : uri ∈ rest.map Change.uri
      · rcases hypothesis again with ⟨earlier, last, after, rfl, isLast⟩
        exact ⟨change :: earlier, last, after, rfl, isLast⟩
      · have isUri : uri = change.uri := (List.mem_cons.mp changed).resolve_right again
        refine ⟨[], change, rest, rfl, isUri.symm, ?_⟩
        rintro later member rfl
        exact again (List.mem_map.mpr ⟨later, member, rfl⟩)

namespace Index

/-- Two indexes have the same of every document but those with the given URIs. -/
structure AgreeExcept (uris : List String) (first second : Index) : Prop where
  methods_eq : ∀ owner name,
    ((first.ownMethods owner name).filter fun entry => entry.uri ∉ uris)
      = (second.ownMethods owner name).filter fun entry => entry.uri ∉ uris
  namespaces_eq : ∀ name,
    ((first.namespaces.getD name []).filter fun entry => entry.uri ∉ uris)
      = (second.namespaces.getD name []).filter fun entry => entry.uri ∉ uris
  owners_eq : ∀ uri ∉ uris, first.ownersByUri[uri]? = second.ownersByUri[uri]?
  names_eq : ∀ uri ∉ uris, first.namespacesByUri[uri]? = second.namespacesByUri[uri]?

/-- Entries that agree except for some documents agree for each of the others. -/
theorem filter_eq_of_filter_notMem_eq {α : Type} {uriOf : α → String} {uris : List String}
    {first second : List α}
    (same : (first.filter fun entry => uriOf entry ∉ uris)
      = second.filter fun entry => uriOf entry ∉ uris)
    {uri : String} (other : uri ∉ uris) :
    (first.filter fun entry => uriOf entry = uri)
      = second.filter fun entry => uriOf entry = uri := by
  have narrowed : ∀ entries : List α,
      ((entries.filter fun entry => uriOf entry ∉ uris).filter fun entry => uriOf entry = uri)
        = entries.filter fun entry => uriOf entry = uri := by
    intro entries
    rw [List.filter_filter]
    apply List.filter_congr
    intro entry _
    grind
  rw [← narrowed first, same, narrowed second]

theorem agreeExcept_ofEntries {uris : List String} {methods later : List MethodEntry}
    {namespaces laterNamespaces : List NamespaceEntry}
    (sameMethods : (methods.filter fun entry => entry.uri ∉ uris)
      = later.filter fun entry => entry.uri ∉ uris)
    (sameNamespaces : (namespaces.filter fun entry => entry.uri ∉ uris)
      = laterNamespaces.filter fun entry => entry.uri ∉ uris) :
    AgreeExcept uris (ofEntries methods namespaces) (ofEntries later laterNamespaces) where
  methods_eq owner name := by
    simp only [ownMethods, getD_methods_ofEntries]
    rw [filter_filter_comm, filter_filter_comm _ _ methods, sameMethods,
      ← filter_filter_comm _ _ later, filter_filter_comm _ _ (List.filter _ later)]
  namespaces_eq name := by
    simp only [ofEntries, getD_gather_push]
    rw [filter_filter_comm, sameNamespaces, filter_filter_comm]
  owners_eq uri other := by
    simp only [ofEntries, NameMap.getElem?_gather]
    rw [filter_eq_of_filter_notMem_eq sameMethods other]
  names_eq uri other := by
    simp only [ofEntries, NameMap.getElem?_gather]
    rw [filter_eq_of_filter_notMem_eq sameNamespaces other]

namespace IsMadeFrom

variable {index later : Index} {documents laterDocuments : List (String × Collector)}

/-- Indexes that are made from the same documents, but for some, agree on all others. -/
theorem agreeExcept (made : index.IsMadeFrom documents)
    (laterMade : later.IsMadeFrom laterDocuments) {uris : List String}
    (same : (documents.filter fun document => document.1 ∉ uris)
      = laterDocuments.filter fun document => document.1 ∉ uris) :
    AgreeExcept uris index later := by
  rw [made.eq_ofDocuments, laterMade.eq_ofDocuments, ofDocuments_eq_ofEntries,
    ofDocuments_eq_ofEntries]
  apply agreeExcept_ofEntries
  · rw [filter_flatMap_entries _ _ (· ∉ uris) _ fun document member => (made.own document member).1,
      filter_flatMap_entries _ _ (· ∉ uris) _
        fun document member => (laterMade.own document member).1,
      same]
  · rw [filter_flatMap_entries _ _ (· ∉ uris) _ fun document member => (made.own document member).2,
      filter_flatMap_entries _ _ (· ∉ uris) _
        fun document member => (laterMade.own document member).2,
      same]

/-- An operation leaves all documents as they are but those that it changes. -/
theorem agreeExcept_run (made : index.IsMadeFrom documents) (operation : Operation)
    {uris : List String} (within : ∀ change ∈ operation.changes, change.uri ∈ uris) :
    AgreeExcept uris index (operation.run index) := by
  apply made.agreeExcept (made.run operation)
  rw [Change.filter_foldl_onto (· ∉ uris)]
  intro change member
  simpa using within change member

/-- What an operation replaces, and does not change again, is recorded. -/
theorem records_run (made : index.IsMadeFrom documents) {operation : Operation}
    {uri : String} {entries : Collector} {earlier rest : List Change}
    (changes : operation.changes = earlier ++ .replaced uri entries :: rest)
    (last : ∀ change ∈ rest, change.uri ≠ uri) : (operation.run index).Records uri entries := by
  apply (made.run operation).records
  rw [changes, List.foldl_append, List.foldl_cons,
    Change.filter_foldl_onto (· == uri) _ _ fun change member =>
      beq_false_of_ne (last change member)]
  exact Change.filter_onto_replaced uri entries _

/-- Nothing is recorded of a document that was taken out. -/
theorem records_remove (made : index.IsMadeFrom documents) (uri : String) :
    ((Operation.remove uri).run index).Records uri {} := by
  have removed := made.run (.remove uri)
  have nothing : ((Change.removed uri).onto documents).filter (fun document => document.1 == uri)
      = [] := by
    simp [Change.onto, Change.left, Change.uri, List.filter_filter]
  rw [removed.eq_ofDocuments, ofDocuments_eq_ofEntries]
  apply records_ofEntries
  · rw [filter_flatMap_entries _ _ (· == uri) _
      fun document member => (removed.own document member).1]
    exact congrArg _ nothing
  · rw [filter_flatMap_entries _ _ (· == uri) _
      fun document member => (removed.own document member).2]
    exact congrArg _ nothing

end IsMadeFrom

end Index

/-- Whatever the operations were, the index is made from documents. -/
theorem Operation.exists_isMadeFrom (operations : List Operation) :
    ∃ documents, (operations.foldl run {}).IsMadeFrom documents := by
  induction operations using List.reverseRecOn with
  | nil => exact ⟨[], rfl, by simp, by simp⟩
  | append_singleton earlier operation hypothesis =>
      rcases hypothesis with ⟨documents, made⟩
      rw [List.foldl_append]
      exact ⟨_, made.run operation⟩

end RailsNavigator
