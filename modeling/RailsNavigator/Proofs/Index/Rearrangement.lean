import RailsNavigator.Proofs.Index.Ancestors
import RailsNavigator.Proofs.Index.Scopes

/-!
# The order in which documents are put in

An index keeps its entries in the order in which their documents were put in for the last time. This
order decides the order of ancestors, and which of several superclasses counts. Two histories that
end with the same live trees leave indexes that differ in this order only. If all declarations of a
namespace mean the same superclass, what a namespace leads to is the same in both, and with it which
ancestors it has and whether a method is found from it.
-/

namespace RailsNavigator

theorem NameMap.contains_gather {α β : Type} (key : α → String) (add : β → α → β) (start : β)
    (items : List α) (name : String) :
    (gather key add start items).contains name = items.any fun item => key item = name := by
  rw [Std.ExtTreeMap.contains_eq_isSome_getElem?, getElem?_gather, Bool.eq_iff_iff]
  cases chosen : items.filter fun item => key item = name with
  | nil =>
      have none := List.filter_eq_nil_iff.mp chosen
      simpa [summary?] using none
  | cons item rest =>
      have member : item ∈ items.filter fun item => key item = name := by simp [chosen]
      rw [List.mem_filter] at member
      simpa [summary?] using ⟨item, member.1, by simpa using member.2⟩

namespace Index

/-- Two indexes hold the same entries, in whatever order. -/
structure Rearranges (first second : Index) : Prop where
  entries_perm : ∀ name, (first.entriesOf name).Perm (second.entriesOf name)
  methods_perm : ∀ owner name, (first.ownMethods owner name).Perm (second.ownMethods owner name)
  declared_eq : ∀ name, first.namespaces.contains name = second.namespaces.contains name
  owner_eq : ∀ owner, first.methods.contains owner = second.methods.contains owner

theorem rearranges_ofEntries {methods otherMethods : List MethodEntry}
    {namespaces otherNamespaces : List NamespaceEntry} (methodsPerm : methods.Perm otherMethods)
    (namespacesPerm : namespaces.Perm otherNamespaces) :
    (ofEntries methods namespaces).Rearranges (ofEntries otherMethods otherNamespaces) where
  entries_perm name := by
    simp only [entriesOf, ofEntries, getD_gather_push]
    exact namespacesPerm.filter _
  methods_perm owner name := by
    simp only [ownMethods, getD_methods_ofEntries]
    exact (methodsPerm.filter _).filter _
  declared_eq name := by
    simp only [ofEntries, NameMap.contains_gather]
    exact namespacesPerm.any_eq
  owner_eq owner := by
    simp only [ofEntries, NameMap.contains_gather]
    exact methodsPerm.any_eq

/-- All superclasses that the declarations of one namespace give are the same. -/
def SuperclassesAgree (index : Index) : Prop :=
  ∀ name, ∀ entry ∈ index.entriesOf name, ∀ other ∈ index.entriesOf name,
    ∀ reference ∈ entry.inherited?, ∀ otherReference ∈ other.inherited?,
      index.resolveConstant reference entry.lexicalScopes
        = index.resolveConstant otherReference other.lexicalScopes

/-- Where superclasses agree, any declaration that gives one can be taken for the first. -/
theorem SuperclassesAgree.inherits_iff {index : Index} (agree : index.SuperclassesAgree)
    {name other : String} :
    index.Inherits name other ↔
      ∃ entry ∈ index.entriesOf name, ∃ reference ∈ entry.inherited?,
        index.resolveConstant reference entry.lexicalScopes = other := by
  constructor
  · rintro ⟨earlier, entry, later, reference, split, -, inherited, resolved⟩
    exact ⟨entry, by simp [split], reference, inherited, resolved⟩
  · rintro ⟨entry, member, reference, inherited, rfl⟩
    cases first : index.superclass? (index.entriesOf name) with
    | none =>
        rw [superclass?_eq_findSome?, List.findSome?_eq_none_iff] at first
        have none := first entry member
        rw [Option.mem_def] at inherited
        simp [inherited] at none
    | some superclass =>
        have inherits := superclass?_eq_some_iff.mp first
        have ⟨_, counted, _, countedReference, split, _, found, resolved⟩ := inherits
        have same := agree name entry member counted (by simp [split]) reference inherited
          countedReference found
        rwa [same, resolved]

namespace Rearranges

variable {first second : Index}

theorem resolveConstant_eq (rearranges : first.Rearranges second) :
    first.resolveConstant = second.resolveConstant := by
  have knows : first.namespaces.contains = second.namespaces.contains :=
    funext rearranges.declared_eq
  funext reference scopes
  simp only [resolveConstant, knows]

theorem mem_entriesOf_iff (rearranges : first.Rearranges second) {name : String}
    {entry : NamespaceEntry} : entry ∈ first.entriesOf name ↔ entry ∈ second.entriesOf name :=
  (rearranges.entries_perm name).mem_iff

theorem superclassesAgree (rearranges : first.Rearranges second)
    (agree : first.SuperclassesAgree) : second.SuperclassesAgree := by
  intro name entry member other otherMem
  rw [← rearranges.resolveConstant_eq]
  exact agree name entry (rearranges.mem_entriesOf_iff.mpr member) other
    (rearranges.mem_entriesOf_iff.mpr otherMem)

/-- A namespace leads to the same others. -/
theorem leads_eq (rearranges : first.Rearranges second) (agree : first.SuperclassesAgree) :
    first.Leads = second.Leads := by
  funext name other
  simp only [Leads, Prepends, Includes, agree.inherits_iff,
    (rearranges.superclassesAgree agree).inherits_iff, rearranges.mem_entriesOf_iff,
    rearranges.resolveConstant_eq]

theorem mem_ancestors_iff (rearranges : first.Rearranges second) (agree : first.SuperclassesAgree)
    {name other : String} : other ∈ first.ancestors name ↔ other ∈ second.ancestors name := by
  rw [Index.mem_ancestors_iff, Index.mem_ancestors_iff, rearranges.leads_eq agree]

theorem contains_eq (rearranges : first.Rearranges second) (name : String) :
    first.contains name = second.contains name := by
  simp only [contains, rearranges.declared_eq, rearranges.owner_eq]

end Rearranges

/-- A method is not found if no ancestor defines it. -/
theorem resolveMethod?_eq_none_iff {index : Index} {name owner : String} :
    index.resolveMethod? name owner = none ↔
      ∀ ancestor ∈ index.ancestors owner, index.ownMethods ancestor name = [] := by
  rw [resolveMethod?, List.findSome?_eq_none_iff]
  apply forall₂_congr
  intro ancestor _
  split <;> simp_all

theorem Rearranges.resolveMethod?_eq_none_iff {first second : Index}
    (rearranges : first.Rearranges second) (agree : first.SuperclassesAgree)
    {name owner : String} :
    first.resolveMethod? name owner = none ↔ second.resolveMethod? name owner = none := by
  rw [Index.resolveMethod?_eq_none_iff, Index.resolveMethod?_eq_none_iff]
  apply forall_congr'
  intro ancestor
  rw [rearranges.mem_ancestors_iff agree]
  apply imp_congr_right
  intro _
  have perm := rearranges.methods_perm ancestor name
  constructor
  · intro empty
    rw [empty] at perm
    exact perm.symm.eq_nil
  · intro empty
    rw [empty] at perm
    exact perm.eq_nil

theorem rearranges_ofDocuments {documents others : List (String × Collector)}
    (perm : documents.Perm others) : (ofDocuments documents).Rearranges (ofDocuments others) := by
  rw [ofDocuments_eq_ofEntries, ofDocuments_eq_ofEntries]
  exact rearranges_ofEntries (perm.flatMap_right _) (perm.flatMap_right _)

end Index

namespace Operation

/-- Whether an operation is on one tree: it puts one in or takes it out. -/
def isOnTree : Operation → Bool
  | indexTree .. | remove _ => true
  | _ => false

/-- The document that an operation puts in as a tree, unless it is skipped or out of range. -/
def puts? : Operation → Option (String × Program)
  | indexTree skip uri program =>
      if (Collector.collect uri program.root).IsInRange ∧ skip uri = false then some (uri, program)
      else none
  | _ => none

/-- Whether an operation changes a document. -/
def touches (operation : Operation) (uri : String) : Bool :=
  operation.changes.any fun change => change.uri == uri

@[simp]
theorem puts?_remove (uri : String) : (remove uri).puts? = none := rfl

@[simp]
theorem touches_remove (uri other : String) : (remove uri).touches other = (uri == other) := by
  simp [touches, changes, Change.uri]

/-- The trees that are live after some operations: those that were put in and not touched later. -/
def liveTrees : List Operation → List (String × Program)
  | [] => []
  | operation :: later =>
      (operation.puts?.toList.filter fun document => !later.any (·.touches document.1))
        ++ liveTrees later

/-- The entries of a tree. -/
def collected (document : String × Program) : String × Collector :=
  (document.1, Collector.collect document.1 document.2.root)

theorem changes_indexTree (skip : String → Bool) (uri : String) (program : Program) :
    (indexTree skip uri program).changes
      = (indexTree skip uri program).puts?.toList.map fun document =>
          .replaced document.1 (collected document).2 := by
  simp only [changes, Outcome.ofTree, puts?, ← Collector.not_isInRange_iff]
  by_cases inRange : (Collector.collect uri program.root).IsInRange
  · cases skipped : skip uri <;> simp [inRange, Outcome.changes, collected]
  · simp [inRange, Outcome.changes]

/-- The live documents are those of the live trees. -/
theorem live_flatMap_changes {operations : List Operation}
    (onTrees : ∀ operation ∈ operations, operation.isOnTree) :
    Change.live (operations.flatMap changes) = (liveTrees operations).map collected := by
  induction operations with
  | nil => rfl
  | cons operation later ih =>
      simp only [List.forall_mem_cons] at onTrees
      have rest := ih onTrees.2
      have touched : ∀ uri, ((later.flatMap changes).any fun change => change.uri == uri)
          = later.any (·.touches uri) := fun uri => List.any_flatMap
      cases operation with
      | indexTree skip uri program =>
          rw [List.flatMap_cons, changes_indexTree, liveTrees]
          cases put : (indexTree skip uri program).puts? with
          | none => simpa using rest
          | some document =>
              simp only [Option.toList_some, List.map_cons, List.map_nil, List.cons_append,
                List.nil_append, Change.live, touched, rest]
              cases changed : later.any (·.touches document.1) <;> simp [changed, collected]
      | remove uri => simpa [changes, Change.live, liveTrees] using rest
      | _ => simp [isOnTree] at onTrees

theorem touches_of_puts {operation : Operation} {document : String × Program}
    (puts : operation.puts? = some document) : operation.touches document.1 := by
  cases operation with
  | indexTree skip uri program =>
      rw [touches, changes_indexTree, puts]
      simp [Change.uri]
  | _ => cases puts

theorem exists_touches_of_mem_liveTrees {operations : List Operation}
    {document : String × Program} (member : document ∈ liveTrees operations) :
    operations.any (·.touches document.1) := by
  induction operations with
  | nil => cases member
  | cons operation later ih =>
      rw [List.any_cons, Bool.or_eq_true]
      rcases List.mem_append.mp member with here | inLater
      · left
        simp only [List.mem_filter, Option.mem_toList] at here
        exact touches_of_puts here.1
      · exact Or.inr (ih inLater)

/-- No tree is live twice. -/
theorem nodup_liveTrees (operations : List Operation) : (liveTrees operations).Nodup := by
  induction operations with
  | nil => exact List.nodup_nil
  | cons operation later ih =>
      refine List.nodup_append.mpr ⟨List.Nodup.filter _ ?_, ih, ?_⟩
      · cases operation.puts? <;> simp
      · rintro document here _ inLater rfl
        have touched := exists_touches_of_mem_liveTrees inLater
        simp [touched] at here

/-- The index after operations on trees is that of the live ones. -/
theorem foldl_run_eq_ofDocuments_liveTrees {operations : List Operation}
    (onTrees : ∀ operation ∈ operations, operation.isOnTree) :
    operations.foldl run {} = Index.ofDocuments ((liveTrees operations).map collected) := by
  rw [foldl_run_eq_foldl_apply, Change.foldl_apply_eq_ofDocuments, live_flatMap_changes onTrees]
  intro change member
  rcases List.mem_flatMap.mp member with ⟨operation, -, ofOperation⟩
  exact isOwn_of_mem_changes ofOperation

theorem rearranges_of_liveTrees {operations others : List Operation}
    (onTrees : ∀ operation ∈ operations, operation.isOnTree)
    (othersOnTrees : ∀ operation ∈ others, operation.isOnTree)
    (sameLive : ∀ document, document ∈ liveTrees operations ↔ document ∈ liveTrees others) :
    (operations.foldl run {}).Rearranges (others.foldl run {}) := by
  rw [foldl_run_eq_ofDocuments_liveTrees onTrees, foldl_run_eq_ofDocuments_liveTrees othersOnTrees]
  have perm := (List.perm_ext_iff_of_nodup (nodup_liveTrees operations)
    (nodup_liveTrees others)).mpr sameLive
  exact Index.rearranges_ofDocuments (perm.map collected)

/-- Two histories that end with the same live trees, however these were put in, put in again and
taken out on the way, leave indexes that give the same answers up to order. If the declarations of
each namespace agree on its superclass, then every name has the same ancestors, the same names are
known, under every owner and name stand the same methods, and a method is found from an owner in one
index exactly if it is in the other. -/
theorem same_answers_of_same_liveTrees {operations others : List Operation}
    (onTrees : ∀ operation ∈ operations, operation.isOnTree)
    (othersOnTrees : ∀ operation ∈ others, operation.isOnTree)
    (sameLive : ∀ document, document ∈ liveTrees operations ↔ document ∈ liveTrees others)
    (agree : (operations.foldl run {}).SuperclassesAgree) :
    (∀ name other, other ∈ (operations.foldl run {}).ancestors name
      ↔ other ∈ (others.foldl run {}).ancestors name) ∧
    (∀ name, (operations.foldl run {}).contains name = (others.foldl run {}).contains name) ∧
    (∀ owner name, ((operations.foldl run {}).ownMethods owner name).Perm
      ((others.foldl run {}).ownMethods owner name)) ∧
    ∀ name owner, (operations.foldl run {}).resolveMethod? name owner = none
      ↔ (others.foldl run {}).resolveMethod? name owner = none := by
  have rearranges := rearranges_of_liveTrees onTrees othersOnTrees sameLive
  refine ⟨?_, rearranges.contains_eq, rearranges.methods_perm, ?_⟩
  · intro name other
    exact rearranges.mem_ancestors_iff agree
  · intro name owner
    exact rearranges.resolveMethod?_eq_none_iff agree

/-- The program `class Leaf < …;include …;def run;end;end`. -/
def reopening (superclass mixin : String) : Program :=
  let info : Info := ⟨.program, "", ⟨0, 0, 0, 0⟩⟩
  let includes : Node :=
    .call info (some "include") none (some (.arguments info [.constant info mixin])) none
  let body : Node := .statements info [includes, .methodDef info "run" none none none]
  ⟨.program info (.statements info [.classDecl info "Leaf" (some superclass) (some body)]), {}⟩

/-- Two documents that open one class are put in one after the other. -/
def straight : List Operation :=
  [.indexTree (fun _ => false) "file:///a.rb" (reopening "Base" "Loud"),
    .indexTree (fun _ => false) "file:///b.rb" (reopening "::Base" "Quiet")]

/-- The first document had another text, is taken out and comes back after the second. -/
def roundabout : List Operation :=
  [.indexTree (fun _ => false) "file:///a.rb" (reopening "Other" "Quiet"),
    .indexTree (fun _ => false) "file:///b.rb" (reopening "::Base" "Quiet"),
    .remove "file:///a.rb",
    .indexTree (fun _ => false) "file:///a.rb" (reopening "Base" "Loud")]

theorem collect_reopening (uri superclass mixin : String) :
    Collector.collect uri (reopening superclass mixin).root
      = ⟨[⟨"run", "Leaf", uri, ⟨0, 0, 0, 0⟩⟩],
          [⟨"Leaf", uri, [], some superclass, [mixin], []⟩], []⟩ := by
  rw [Collector.collect_eq_foldl_walk]
  cbv

theorem puts?_reopening (uri superclass mixin : String) :
    (indexTree (fun _ => false) uri (reopening superclass mixin)).puts?
      = some (uri, reopening superclass mixin) := by
  rw [puts?, collect_reopening, if_pos]
  simp only [Collector.IsInRange, List.forall_mem_singleton]
  exact ⟨rfl, trivial⟩

theorem touches_reopening (uri superclass mixin other : String) :
    (indexTree (fun _ => false) uri (reopening superclass mixin)).touches other
      = (uri == other) := by
  rw [touches, changes_indexTree, puts?_reopening]
  simp [Change.uri]

theorem liveTrees_straight :
    liveTrees straight
      = [("file:///a.rb", reopening "Base" "Loud"),
          ("file:///b.rb", reopening "::Base" "Quiet")] := by
  simp [liveTrees, straight, puts?_reopening, touches_reopening]

theorem liveTrees_roundabout :
    liveTrees roundabout
      = [("file:///b.rb", reopening "::Base" "Quiet"),
          ("file:///a.rb", reopening "Base" "Loud")] := by
  simp [liveTrees, roundabout, puts?_reopening, touches_reopening]

theorem isOnTree_straight : ∀ operation ∈ straight, operation.isOnTree := by
  simp [straight, isOnTree]

theorem isOnTree_roundabout : ∀ operation ∈ roundabout, operation.isOnTree := by
  simp [roundabout, isOnTree]

/-- The declaration of the class in each of the two documents. -/
def declarations : List NamespaceEntry :=
  [⟨"Leaf", "file:///a.rb", [], some "Base", ["Loud"], []⟩,
    ⟨"Leaf", "file:///b.rb", [], some "::Base", ["Quiet"], []⟩]

/-- The definition of the method in each of the two documents. -/
def definitions : List MethodEntry :=
  [⟨"run", "Leaf", "file:///a.rb", ⟨0, 0, 0, 0⟩⟩, ⟨"run", "Leaf", "file:///b.rb", ⟨0, 0, 0, 0⟩⟩]

theorem index_straight : straight.foldl run {} = Index.ofEntries definitions declarations := by
  rw [foldl_run_eq_ofDocuments_liveTrees isOnTree_straight, liveTrees_straight,
    Index.ofDocuments_eq_ofEntries]
  simp [collected, collect_reopening, definitions, declarations]

theorem index_roundabout :
    roundabout.foldl run {} = Index.ofEntries definitions.reverse declarations.reverse := by
  rw [foldl_run_eq_ofDocuments_liveTrees isOnTree_roundabout, liveTrees_roundabout,
    Index.ofDocuments_eq_ofEntries]
  simp [collected, collect_reopening, definitions, declarations]

theorem superclassesAgree_straight : (straight.foldl run {}).SuperclassesAgree := by
  rw [index_straight]
  have each : ∀ entry ∈ declarations, ∀ reference ∈ entry.inherited?,
      (Index.ofEntries definitions declarations).resolveConstant reference entry.lexicalScopes
        = "Base" := by
    decide +kernel
  intro name entry member other otherMem reference inherited otherReference otherInherited
  rw [Index.entriesOf, Index.ofEntries, Index.getD_gather_push] at member otherMem
  rw [each entry (List.mem_of_mem_filter member) reference inherited,
    each other (List.mem_of_mem_filter otherMem) otherReference otherInherited]

/-- The order of the ancestors and of the definitions is another, and they are the same. -/
theorem same_answers_straight_roundabout :
    (straight.foldl run {}).ancestors "Leaf" = ["Leaf", "Loud", "Quiet", "Base"] ∧
    (roundabout.foldl run {}).ancestors "Leaf" = ["Leaf", "Quiet", "Loud", "Base"] ∧
    (∀ other, other ∈ (straight.foldl run {}).ancestors "Leaf"
      ↔ other ∈ (roundabout.foldl run {}).ancestors "Leaf") ∧
    (straight.foldl run {}).contains "Base" = (roundabout.foldl run {}).contains "Base" ∧
    (straight.foldl run {}).ownMethods "Leaf" "run" = definitions ∧
    (roundabout.foldl run {}).ownMethods "Leaf" "run" = definitions.reverse ∧
    ((straight.foldl run {}).ownMethods "Leaf" "run").Perm
      ((roundabout.foldl run {}).ownMethods "Leaf" "run") ∧
    ((straight.foldl run {}).resolveMethod? "run" "Leaf" = none
      ↔ (roundabout.foldl run {}).resolveMethod? "run" "Leaf" = none) := by
  have sameLive : ∀ document, document ∈ liveTrees straight ↔ document ∈ liveTrees roundabout := by
    intro document
    simp only [liveTrees_straight, liveTrees_roundabout, List.mem_cons, List.not_mem_nil, or_false]
    exact or_comm
  rcases same_answers_of_same_liveTrees isOnTree_straight isOnTree_roundabout sameLive
    superclassesAgree_straight with ⟨ancestors, contains, methods, found⟩
  refine ⟨?_, ?_, ancestors "Leaf", contains "Base", ?_, ?_, methods "Leaf" "run",
    found "run" "Leaf"⟩
  · rw [index_straight]
    decide +kernel
  · rw [index_roundabout]
    decide +kernel
  · rw [index_straight]
    decide +kernel
  · rw [index_roundabout]
    decide +kernel

end Operation

end RailsNavigator
