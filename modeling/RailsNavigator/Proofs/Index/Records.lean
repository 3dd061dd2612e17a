import RailsNavigator.Proofs.Index.Operations

/-!
# What the index records of one document

The entries of a document are scattered over the index: its methods stand among those of other
documents with the same owner and name, its declarations among those of the same namespace, and its
notes in two maps of their own. `Records` says that put together they are the entries of a collector
and nothing else. In an index that is made from documents, they are those of the one document with
that URI, and a change of another document does not touch them.
-/

namespace RailsNavigator

namespace Index

/-- All that the index has for a document are the given entries, in their order. -/
structure Records (index : Index) (uri : String) (entries : Collector) : Prop where
  methods_eq : ∀ owner name,
    (((index.methods.getD owner {}).getD name []).filter fun entry => entry.uri == uri)
      = (entries.methods.filter fun entry => entry.owner = owner).filter fun entry =>
          entry.name = name
  namespaces_eq : ∀ name,
    ((index.namespaces.getD name []).filter fun entry => entry.uri == uri)
      = entries.namespaces.filter fun entry => entry.name = name
  mem_owners_iff : ∀ owner, owner ∈ index.ownersByUri.getD uri {} ↔
    ∃ entry ∈ entries.methods, entry.owner = owner
  mem_names_iff : ∀ name, name ∈ index.namespacesByUri.getD uri {} ↔
    ∃ entry ∈ entries.namespaces, entry.name = name

theorem getD_gather_push {α : Type} (nameOf : α → String) (items : List α) (name : String) :
    (NameMap.gather nameOf push [] items).getD name []
      = items.filter fun item => nameOf item = name := by
  rw [Std.ExtTreeMap.getD_eq_getD_getElem?, NameMap.getElem?_gather, getD_summary?_push]

/-- Under an owner and a name stand the methods that have them. -/
theorem getD_methods_ofEntries (methods : List MethodEntry) (namespaces : List NamespaceEntry)
    (owner name : String) :
    ((ofEntries methods namespaces).methods.getD owner {}).getD name []
      = (methods.filter fun entry => entry.owner = owner).filter fun entry =>
          entry.name = name := by
  have gathered : (ofEntries methods namespaces).methods.getD owner {}
      = NameMap.gather MethodEntry.name push []
          (methods.filter fun entry => entry.owner = owner) := by
    rw [ofEntries, Std.ExtTreeMap.getD_eq_getD_getElem?, NameMap.getElem?_gather]
    cases methods.filter fun entry => entry.owner = owner <;> rfl
  rw [gathered, getD_gather_push]

/-- Of the entries in an index, those of a document are recorded for it. -/
theorem records_ofEntries {methods : List MethodEntry} {namespaces : List NamespaceEntry}
    {uri : String} {entries : Collector}
    (ofMethods : (methods.filter fun entry => entry.uri == uri) = entries.methods)
    (ofNamespaces : (namespaces.filter fun entry => entry.uri == uri) = entries.namespaces) :
    (ofEntries methods namespaces).Records uri entries where
  methods_eq owner name := by
    rw [getD_methods_ofEntries, filter_filter_comm, filter_filter_comm _ _ methods, ofMethods]
  namespaces_eq name := by
    rw [ofEntries, getD_gather_push, filter_filter_comm, ofNamespaces]
  mem_owners_iff owner := by
    rw [ofEntries, mem_noted, ← ofMethods]
    simp [and_assoc]
  mem_names_iff name := by
    rw [ofEntries, mem_noted, ← ofNamespaces]
    simp [and_assoc]

/-- An index is made from documents, each with entries of its own that are in range. -/
structure IsMadeFrom (index : Index) (documents : List (String × Collector)) : Prop where
  eq_ofDocuments : index = ofDocuments documents
  own : ∀ document ∈ documents, document.2.IsOf document.1
  inRange : ∀ document ∈ documents, document.2.IsInRange

namespace IsMadeFrom

variable {index : Index} {documents : List (String × Collector)} {uri : String}
  {entries : Collector}

/-- The one document with a URI is what is recorded for it. -/
theorem records (made : index.IsMadeFrom documents)
    (only : (documents.filter fun document => document.1 == uri) = [(uri, entries)]) :
    index.Records uri entries := by
  rw [made.eq_ofDocuments, ofDocuments_eq_ofEntries]
  apply records_ofEntries
  · rw [filter_flatMap_entries _ _ (· == uri) _ fun document member => (made.own document member).1,
      only]
    simp
  · rw [filter_flatMap_entries _ _ (· == uri) _ fun document member => (made.own document member).2,
      only]
    simp

/-- Nothing is recorded that is out of range. -/
theorem isInRange_of_records (made : index.IsMadeFrom documents)
    (records : index.Records uri entries) : entries.IsInRange := by
  intro entry member
  have recorded := records.methods_eq entry.owner entry.name
  rw [made.eq_ofDocuments, ofDocuments_eq_ofEntries, getD_methods_ofEntries] at recorded
  have listed : entry ∈ (entries.methods.filter fun other => other.owner = entry.owner).filter
      fun other => other.name = entry.name := by
    simpa using member
  rw [← recorded] at listed
  have stored := (List.mem_filter.mp (List.mem_filter.mp (List.mem_filter.mp listed).1).1).1
  rcases List.mem_flatMap.mp stored with ⟨document, documentMem, entryMem⟩
  exact made.inRange document documentMem entry entryMem

/-- One change makes the index of the documents with that change. -/
theorem apply (made : index.IsMadeFrom documents) {change : Change} (isOwn : change.IsOwn)
    (inRange : ∀ document ∈ change.left, document.2.IsInRange) :
    (index.apply change).IsMadeFrom (change.onto documents) where
  eq_ofDocuments := by rw [made.eq_ofDocuments, apply_ofDocuments documents change made.own]
  own document member := by
    rcases List.mem_append.mp member with kept | left
    · exact made.own document (List.mem_filter.mp kept).1
    · cases change with
      | replaced uri entries =>
          rw [List.mem_singleton.mp left]
          exact isOwn
      | removed uri => cases left
  inRange document member := by
    rcases List.mem_append.mp member with kept | left
    · exact made.inRange document (List.mem_filter.mp kept).1
    · exact inRange document left

theorem foldl_apply (made : index.IsMadeFrom documents) (changes : List Change)
    (isOwn : ∀ change ∈ changes, change.IsOwn)
    (inRange : ∀ change ∈ changes, ∀ document ∈ change.left, document.2.IsInRange) :
    (changes.foldl Index.apply index).IsMadeFrom
      (changes.foldl (fun documents change => change.onto documents) documents) := by
  induction changes generalizing index documents with
  | nil => exact made
  | cons change rest hypothesis =>
      simp only [List.forall_mem_cons] at isOwn inRange
      exact hypothesis (made.apply isOwn.1 inRange.1) isOwn.2 inRange.2

/-- An operation makes the index of the documents with its changes. -/
theorem run (made : index.IsMadeFrom documents) (operation : Operation) :
    (operation.run index).IsMadeFrom
      (operation.changes.foldl (fun documents change => change.onto documents) documents) := by
  rw [operation.run_eq_foldl_changes]
  apply made.foldl_apply
  · intro change member
    exact Operation.isOwn_of_mem_changes member
  · intro change member document left
    rcases Operation.putsTree_of_mem_changes member with
      ⟨uri, program, rfl, inRange, -⟩ | ⟨uri, -, rfl⟩
    · rw [List.mem_singleton.mp left]
      exact inRange
    · cases left

end IsMadeFrom

end Index

namespace Change

/-- Changes of other documents leave the chosen ones as they are. -/
theorem filter_foldl_onto (choose : String → Bool) (changes : List Change)
    (documents : List (String × Collector))
    (others : ∀ change ∈ changes, choose change.uri = false) :
    ((changes.foldl (fun documents change => change.onto documents) documents).filter
        fun document => choose document.1)
      = documents.filter fun document => choose document.1 := by
  induction changes generalizing documents with
  | nil => rfl
  | cons change rest hypothesis =>
      simp only [List.forall_mem_cons] at others
      rw [List.foldl_cons, hypothesis _ others.2, onto, List.filter_append]
      have kept : ((documents.filter fun document => document.1 != change.uri).filter
          fun document => choose document.1)
            = documents.filter fun document => choose document.1 := by
        rw [List.filter_filter]
        apply List.filter_congr
        intro document _
        by_cases same : document.1 = change.uri <;> simp [same, others.1]
      have nothing : (change.left.filter fun document => choose document.1) = [] := by
        have := others.1
        cases change <;> simp_all [left, Change.uri]
      rw [kept, nothing, List.append_nil]

theorem filter_onto_replaced (uri : String) (entries : Collector)
    (documents : List (String × Collector)) :
    ((replaced uri entries).onto documents).filter (fun document => document.1 == uri)
      = [(uri, entries)] := by
  simp [onto, left, Change.uri, List.filter_filter]

end Change

end RailsNavigator
