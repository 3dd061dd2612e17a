import RailsNavigator.Proofs.Index.Records
import RailsNavigator.Proofs.Index.Unfolding

/-!
# The ancestors of a namespace

The declarations of a namespace lead to other namespaces: those it prepends, those it includes, and
the superclass that its first declaration with a superclass gives. All that can be reached in this
way are its ancestors. The search for them ends whatever the declarations are, also if they run in
circles, and three parts of its result can be told apart: what the namespace prepends leads to, what
else it includes leads to, and what else its superclass leads to.

The order of the result is right for what is prepended. What is included, and the superclass, may
come too early where namespaces share an ancestor, since the first path that leads to it decides.
-/

namespace RailsNavigator

/-- The superclass that a declaration gives as it is written; an empty text gives none. -/
def NamespaceEntry.inherited? (entry : NamespaceEntry) : Option String :=
  entry.superclass.filter fun reference => reference ≠ ""

namespace Index

variable {index : Index} {name other : String}

/-- A declaration of a namespace prepends another. -/
def Prepends (index : Index) (name other : String) : Prop :=
  ∃ entry ∈ index.entriesOf name, ∃ reference ∈ entry.prepends,
    index.resolveConstant reference (entry.lexicalScopes ++ [entry.name]) = other

/-- A declaration of a namespace includes another. -/
def Includes (index : Index) (name other : String) : Prop :=
  ∃ entry ∈ index.entriesOf name, ∃ reference ∈ entry.includes,
    index.resolveConstant reference (entry.lexicalScopes ++ [entry.name]) = other

/-- The first declaration of a namespace that gives a superclass gives another. -/
def Inherits (index : Index) (name other : String) : Prop :=
  ∃ earlier entry later reference,
    index.entriesOf name = earlier ++ entry :: later ∧
      (∀ previous ∈ earlier, previous.inherited? = none) ∧ entry.inherited? = some reference ∧
      index.resolveConstant reference entry.lexicalScopes = other

/-- A namespace leads to another in one of the three ways. -/
def Leads (index : Index) (name other : String) : Prop :=
  index.Prepends name other ∨ index.Includes name other ∨ index.Inherits name other

theorem mem_mixins_iff (references : NamespaceEntry → List String)
    (entries : List NamespaceEntry) :
    other ∈ index.mixins references entries ↔
      ∃ entry ∈ entries, ∃ reference ∈ references entry,
        index.resolveConstant reference (entry.lexicalScopes ++ [entry.name]) = other := by
  simp [mixins]

theorem superclass?_eq_findSome? (entries : List NamespaceEntry) :
    index.superclass? entries
      = entries.findSome? fun entry =>
          entry.inherited?.map fun reference =>
            index.resolveConstant reference entry.lexicalScopes := by
  unfold superclass?
  congr 1
  funext entry
  unfold NamespaceEntry.inherited?
  rcases entry.superclass with _ | reference
  · rfl
  · by_cases isEmpty : reference = ""
    · simp [isEmpty]
    · simp [isEmpty]

theorem superclass?_eq_some_iff :
    index.superclass? (index.entriesOf name) = some other ↔ index.Inherits name other := by
  rw [superclass?_eq_findSome?, List.findSome?_eq_some_iff]
  constructor
  · rintro ⟨earlier, entry, later, split, found, none⟩
    rcases Option.map_eq_some_iff.mp found with ⟨reference, inherited, resolved⟩
    refine ⟨earlier, entry, later, reference, split, ?_, inherited, resolved⟩
    intro previous previousMem
    exact Option.map_eq_none_iff.mp (none previous previousMem)
  · rintro ⟨earlier, entry, later, reference, split, none, inherited, resolved⟩
    refine ⟨earlier, entry, later, split, ?_, ?_⟩
    · simp [inherited, resolved]
    · intro previous previousMem
      simp [none previous previousMem]

theorem mem_before_iff : other ∈ index.ancestorGraph.before name ↔ index.Prepends name other :=
  mem_mixins_iff _ _

theorem mem_includes_iff :
    other ∈ index.mixins NamespaceEntry.includes (index.entriesOf name)
      ↔ index.Includes name other :=
  mem_mixins_iff _ _

theorem mem_superclass_iff :
    other ∈ (index.superclass? (index.entriesOf name)).toList ↔ index.Inherits name other := by
  rw [Option.mem_toList, ← superclass?_eq_some_iff]

theorem mem_after_iff :
    other ∈ index.ancestorGraph.after name ↔
      index.Includes name other ∨ index.Inherits name other := by
  rw [← mem_includes_iff, ← mem_superclass_iff]
  exact List.mem_append

theorem leads_ancestorGraph (index : Index) : index.ancestorGraph.Leads = index.Leads := by
  funext name other
  simp only [AncestorGraph.Leads, mem_before_iff, mem_after_iff, Leads]

/-- The namespaces that have declarations. -/
def declared (index : Index) : List String :=
  (index.namespaces.toList.filter fun declarations => !declarations.2.isEmpty).map (·.1)

theorem entriesOf_of_notMem_declared (notMem : name ∉ index.declared) :
    index.entriesOf name = [] := by
  by_contra nonempty
  apply notMem
  unfold entriesOf at nonempty
  rw [Std.ExtTreeMap.getD_eq_getD_getElem?] at nonempty
  cases found : index.namespaces[name]? with
  | none => simp [found] at nonempty
  | some entries =>
      simp only [found, Option.getD_some] at nonempty
      have member := Std.ExtTreeMap.mem_toList_iff_getElem?_eq_some.mpr found
      simp only [declared, List.mem_map, List.mem_filter]
      exact ⟨(name, entries), ⟨member, by simpa using nonempty⟩, rfl⟩

theorem leads_nowhere (notMem : name ∉ index.declared) :
    index.ancestorGraph.before name = [] ∧ index.ancestorGraph.after name = [] := by
  have none := entriesOf_of_notMem_declared notMem
  simp [ancestorGraph, none, mixins, superclass?]

theorem add_length_le_foldl (entries : List NamespaceEntry) (count : Nat) :
    count + entries.length
      ≤ entries.foldl
          (fun count entry => count + entry.prepends.length + entry.includes.length + 1) count := by
  induction entries generalizing count with
  | nil => simp
  | cons entry rest ih =>
      have further := ih (count + entry.prepends.length + entry.includes.length + 1)
      simp only [List.length_cons, List.foldl_cons]
      omega

theorem length_declared_le (index : Index) : index.declared.length ≤ index.referenceCount := by
  have counted := add_length_le_foldl (index.namespaces.toList.flatMap (·.2)) 0
  have each : ∀ declarations : List (String × List NamespaceEntry),
      (declarations.filter fun declarations => !declarations.2.isEmpty).length
        ≤ (declarations.flatMap (·.2)).length := by
    intro declarations
    induction declarations with
    | nil => simp
    | cons first rest ih =>
        rcases first with ⟨_, _ | ⟨entry, more⟩⟩
        · simpa using ih
        · simp only [List.flatMap_cons, List.length_append, List.length_cons, List.filter_cons,
            List.isEmpty_cons, Bool.not_false, if_true]
          omega
  have enough := each index.namespaces.toList
  simp only [declared, List.length_map, referenceCount]
  omega

/-- The search for ancestors comes to its end within the bound. -/
theorem exists_search (index : Index) (name : String) :
    ∃ seen, index.ancestorGraph.Search {} [name] ⟨seen, index.ancestors name⟩ := by
  have enough : AncestorGraph.unseen index.declared [] < index.referenceCount + 1 := by
    have declared := index.length_declared_le
    simp only [AncestorGraph.unseen, List.not_mem_nil, not_false_eq_true, decide_true,
      List.filter_true]
    omega
  exact ⟨_, AncestorGraph.search_foldl_visit (fun _ => leads_nowhere) _ {} [name] enough⟩

/-- The ancestors of a namespace are all to which it leads. -/
theorem mem_ancestors_iff :
    other ∈ index.ancestors name ↔ Relation.ReflTransGen index.Leads name other := by
  rcases index.exists_search name with ⟨seen, search⟩
  rcases search.exists_added with ⟨added, orderEq, -, mem_added, -⟩
  simp only [List.nil_append] at orderEq
  rw [orderEq, mem_added]
  simp [reachesAvoiding_nil_iff, leads_ancestorGraph]

/-- The ancestors of a namespace are found by a search that ends, and no name is among them twice.
Before the namespace stand exactly the names to which what it prepends leads on paths that do not
touch it. After it stand those to which what it includes leads on paths that touch neither it nor
any of these, and last those to which its superclass leads on paths that touch none of all the
others. So the ancestors are all names to which the namespace leads. -/
theorem ancestors_eq_append_reached (index : Index) (name : String) :
    (∃ seen, index.ancestorGraph.Search {} [name] ⟨seen, index.ancestors name⟩) ∧
    (∃ prepended included inherited,
      index.ancestors name = prepended ++ name :: (included ++ inherited) ∧
      (∀ other, other ∈ prepended ↔
        ∃ first, index.Prepends name first ∧ ReachesAvoiding index.Leads [name] first other) ∧
      (∀ other, other ∈ included ↔
        ∃ first, index.Includes name first ∧
          ReachesAvoiding index.Leads (name :: prepended) first other) ∧
      ∀ other, other ∈ inherited ↔
        ∃ first, index.Inherits name first ∧
          ReachesAvoiding index.Leads (name :: (prepended ++ included)) first other) ∧
    (index.ancestors name).Nodup ∧
    ∀ other, other ∈ index.ancestors name ↔ Relation.ReflTransGen index.Leads name other := by
  rcases index.exists_search name with ⟨seen, search⟩
  refine ⟨⟨seen, search⟩, ?_, ?_, fun other => mem_ancestors_iff⟩
  · cases search with
    | met inNone => simp at inNone
    | @placed _ above below _ _ _ _ searchBefore searchAfter searchRest =>
        cases searchRest
        rcases searchAfter.append with ⟨between, searchIncludes, searchSuperclass⟩
        rcases searchBefore.exists_added with ⟨prepended, aboveEq, -, mem_prepended, seenAbove⟩
        rcases searchIncludes.exists_added with ⟨included, betweenEq, -, mem_included, seenBetween⟩
        rcases searchSuperclass.exists_added with ⟨inherited, orderEq, -, mem_inherited, -⟩
        simp only [leads_ancestorGraph, mem_before_iff, mem_includes_iff, mem_superclass_iff]
          at mem_prepended mem_included mem_inherited
        refine ⟨prepended, included, inherited, ?_, mem_prepended, ?_, ?_⟩
        · simpa [betweenEq, aboveEq] using orderEq
        · intro other
          rw [mem_included]
          apply exists_congr
          intro first
          apply and_congr_right
          intro _
          apply reachesAvoiding_congr
          intro met
          simpa using seenAbove met
        · intro other
          rw [mem_inherited]
          apply exists_congr
          intro first
          apply and_congr_right
          intro _
          apply reachesAvoiding_congr
          intro met
          rw [seenBetween]
          simp [seenAbove, or_assoc]
  · rcases search.exists_added with ⟨added, orderEq, nodup, -, -⟩
    simp only [List.nil_append] at orderEq
    rwa [orderEq]

/-- The ancestors of a namespace are in the order of the written-out paths, where no namespace leads
to itself. -/
theorem exists_unfolds (acyclic : index.ancestorGraph.IsAcyclic) (name : String) :
    ∃ whole, index.ancestorGraph.Unfolds [name] whole ∧ index.ancestors name = whole.eraseDups := by
  rcases acyclic.exists_unfolds (fun _ => leads_nowhere) [name] with ⟨whole, unfolds⟩
  rcases index.exists_search name with ⟨seen, search⟩
  refine ⟨whole, unfolds, ?_⟩
  have orderEq := search.order_eq acyclic (by simp [AncestorGraph.SettledOrAbove]) (by simp) unfolds
  rwa [List.nil_append, firstPlaces_nil] at orderEq

/-- If no namespace leads to itself, the order of its ancestors is that of all paths written out, in
which every name is kept at its first place. So what an ancestor prepends stands before it. What it
includes, or its superclass, is an ancestor too; it follows exactly if it does not stand before the
first place of the ancestor in the written-out paths, as when no other ancestor leads to it. -/
theorem ancestors_keep_first_places (index : Index)
    (acyclic : ∀ name, ¬Relation.TransGen index.Leads name name) (name : String) :
    ∃ whole, index.ancestorGraph.Unfolds [name] whole ∧ index.ancestors name = whole.eraseDups ∧
      ∀ upper ∈ index.ancestors name, ∀ other,
        (index.Prepends upper other → [other, upper].Sublist (index.ancestors name)) ∧
        (index.Includes upper other ∨ index.Inherits upper other →
          other ∈ index.ancestors name ∧
          ([upper, other].Sublist (index.ancestors name) ↔
            other ∉ whole.takeWhile (· != upper)) ∧
          (¬index.Prepends upper other →
            (∀ third ∈ index.ancestors name, index.Leads third other → third = upper) →
            [upper, other].Sublist (index.ancestors name))) := by
  have acyclicGraph : index.ancestorGraph.IsAcyclic := by
    rw [AncestorGraph.IsAcyclic, leads_ancestorGraph]
    exact acyclic
  rcases exists_unfolds acyclicGraph name with ⟨whole, unfolds, orderEq⟩
  refine ⟨whole, unfolds, orderEq, ?_⟩
  intro upper upperMem other
  have ofLeads : index.Leads upper other → other ∈ whole ∧ other ≠ upper ∧ other ≠ name := by
    intro leadsTo
    have path := mem_ancestors_iff.mp upperMem
    refine ⟨?_, ?_, ?_⟩
    · rw [← List.mem_eraseDups, ← orderEq, mem_ancestors_iff]
      exact path.tail leadsTo
    · rintro rfl
      exact acyclic other (.single leadsTo)
    · rintro rfl
      exact acyclic other (.tail' path leadsTo)
  have upperWhole : upper ∈ whole := by
    rwa [← List.mem_eraseDups, ← orderEq]
  rw [orderEq]
  constructor
  · intro prepends
    rcases ofLeads (Or.inl prepends) with ⟨otherWhole, different, -⟩
    rw [pair_sublist_eraseDups_iff upperWhole otherWhole (Ne.symm different)]
    exact unfolds.notMem_takeWhile_of_mem_before (mem_before_iff.mpr prepends)
  · intro comesAfter
    rcases ofLeads (Or.inr comesAfter) with ⟨otherWhole, different, notName⟩
    have follows_iff := pair_sublist_eraseDups_iff otherWhole upperWhole different
    refine ⟨List.mem_eraseDups.mpr otherWhole, follows_iff, ?_⟩
    intro notPrepends only
    rw [follows_iff]
    apply unfolds.notMem_takeWhile_of_only
    · rwa [mem_before_iff]
    · intro third thirdMem leadsTo
      rw [leads_ancestorGraph] at leadsTo
      exact only third (List.mem_eraseDups.mpr thirdMem) leadsTo
    · simpa using notName

/-- The index of `module Loud;end`, `class Base;include Loud;end` and
`class Derived < Base;include Loud;end`. -/
def sharedModule : Index :=
  ofEntries []
    [⟨"Loud", "file:///a.rb", [], none, [], []⟩, ⟨"Base", "file:///a.rb", [], none, ["Loud"], []⟩,
      ⟨"Derived", "file:///a.rb", [], some "Base", ["Loud"], []⟩]

theorem leads_sharedModule (leadsTo : sharedModule.Leads name other) :
    (name, other) ∈ [("Derived", "Loud"), ("Derived", "Base"), ("Base", "Loud")] := by
  rw [← leads_ancestorGraph] at leadsTo
  have declares : name ∈ sharedModule.declared := by
    by_contra notMem
    rcases leads_nowhere notMem with ⟨noneBefore, noneAfter⟩
    simp [AncestorGraph.Leads, noneBefore, noneAfter] at leadsTo
  have ofEach : ∀ name ∈ sharedModule.declared,
      ∀ other ∈ sharedModule.ancestorGraph.before name ++ sharedModule.ancestorGraph.after name,
        (name, other) ∈ [("Derived", "Loud"), ("Derived", "Base"), ("Base", "Loud")] := by
    decide +kernel
  exact ofEach name declares other (List.mem_append.mpr leadsTo)

theorem acyclic_sharedModule (name : String) : ¬Relation.TransGen sharedModule.Leads name name := by
  -- Every step goes from an earlier to a later name of this list.
  let place := fun name => ["Derived", "Base", "Loud"].idxOf name
  have step : ∀ first last, sharedModule.Leads first last → place first < place last := by
    intro first last leadsTo
    have pair := leads_sharedModule leadsTo
    simp only [List.mem_cons, Prod.mk.injEq, List.not_mem_nil, or_false] at pair
    rcases pair with ⟨rfl, rfl⟩ | ⟨rfl, rfl⟩ | ⟨rfl, rfl⟩ <;> decide
  have later : ∀ last, Relation.TransGen sharedModule.Leads name last →
      place name < place last := by
    intro last path
    induction path with
    | single leadsTo => exact step _ _ leadsTo
    | tail _ leadsTo ih => exact ih.trans (step _ _ leadsTo)
  exact fun path => Nat.lt_irrefl _ (later name path)

/-- A module that a class and its superclass both include gets its place before the superclass,
although this includes it. -/
theorem ancestors_keep_first_places_sharedModule :
    (∀ name, ¬Relation.TransGen sharedModule.Leads name name) ∧
    sharedModule.ancestors "Derived" = ["Derived", "Loud", "Base"] ∧
    sharedModule.Includes "Base" "Loud" ∧
    ∃ whole, sharedModule.ancestorGraph.Unfolds ["Derived"] whole ∧
      sharedModule.ancestors "Derived" = whole.eraseDups ∧
      "Loud" ∈ whole.takeWhile (· != "Base") := by
  have order : sharedModule.ancestors "Derived" = ["Derived", "Loud", "Base"] := by decide +kernel
  have includes : sharedModule.Includes "Base" "Loud" :=
    mem_includes_iff.mp (by decide +kernel)
  rcases ancestors_keep_first_places sharedModule acyclic_sharedModule "Derived" with
    ⟨whole, unfolds, orderEq, ofEach⟩
  rcases (ofEach "Base" (by simp [order]) "Loud").2 (Or.inl includes) with ⟨-, follows_iff, -⟩
  refine ⟨acyclic_sharedModule, order, includes, whole, unfolds, orderEq, ?_⟩
  by_contra notBefore
  have follows := follows_iff.mpr notBefore
  rw [order] at follows
  exact absurd follows (by decide)

end Index

end RailsNavigator
