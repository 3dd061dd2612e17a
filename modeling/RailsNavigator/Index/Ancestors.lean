import RailsNavigator.Index.Basic

/-!
# Ancestors

The order in which Ruby looks for a method: what a namespace prepends, the namespace itself, what
it includes, and its superclass, each with its own ancestors, every name once and at its first
place. Constants are resolved from the innermost enclosing scope outwards among the namespaces of
the index.
-/

namespace RailsNavigator

/-- What comes before and after each namespace in the order of look-up. -/
structure AncestorGraph where
  before : String → List String
  after : String → List String

/-- The names met so far, and those of them that have got their place. -/
structure Lineage where
  seen : List String := []
  order : List String := []

namespace AncestorGraph

/-- Visits a name and what it leads to, at most `depth` names deep. -/
def visit (graph : AncestorGraph) : Nat → Lineage → String → Lineage
  | 0, lineage, _ => lineage
  | depth + 1, lineage, name =>
      if lineage.seen.contains name then lineage
      else
        let entered := { lineage with seen := name :: lineage.seen }
        let above := (graph.before name).foldl (graph.visit depth) entered
        let placed := { above with order := above.order ++ [name] }
        (graph.after name).foldl (graph.visit depth) placed

end AncestorGraph

namespace Index

/-- The namespace that a constant means: an absolute one as it is written, any other the first that
the index knows from the innermost scope outwards, or else a top-level one. -/
def resolveConstant (index : Index) (reference : String) (scopes : List String) : String :=
  match reference.toList with
  | ':' :: ':' :: rest => String.ofList rest
  | _ =>
      let candidates := scopes.reverse.map fun scope => scope ++ "::" ++ reference
      (candidates.find? index.namespaces.contains).getD reference

/-- The modules that declarations mix in, the last of each declaration first. -/
def mixins (index : Index) (references : NamespaceEntry → List String)
    (entries : List NamespaceEntry) : List String :=
  entries.flatMap fun entry =>
    (references entry).reverse.map fun reference =>
      index.resolveConstant reference (entry.lexicalScopes ++ [entry.name])

/-- The superclass of the first declaration that gives one. -/
def superclass? (index : Index) (entries : List NamespaceEntry) : Option String :=
  entries.findSome? fun entry =>
    match entry.superclass with
    | none | some "" => none
    | some reference => some (index.resolveConstant reference entry.lexicalScopes)

/-- The declarations of a namespace. -/
def entriesOf (index : Index) (name : String) : List NamespaceEntry :=
  index.namespaces.getD name []

/-- The ancestors that the index gives each namespace. -/
def ancestorGraph (index : Index) : AncestorGraph where
  before name := index.mixins NamespaceEntry.prepends (index.entriesOf name)
  after name :=
    index.mixins NamespaceEntry.includes (index.entriesOf name)
      ++ (index.superclass? (index.entriesOf name)).toList

/-- The number of constants that declarations of the index refer to. -/
def referenceCount (index : Index) : Nat :=
  (index.namespaces.toList.flatMap (·.2)).foldl
    (fun count entry => count + entry.prepends.length + entry.includes.length + 1) 0

/-- A namespace and its ancestors in the order of look-up. A chain of names that have not been met
before is not longer than the number of references, so the depth is bounded by it. -/
def ancestors (index : Index) (name : String) : List String :=
  (index.ancestorGraph.visit (index.referenceCount + 1) {} name).order

/-- The definitions of a method that instances of an owner see: those of its first ancestor that has
any. -/
def resolveMethod? (index : Index) (name owner : String) : Option (List MethodEntry) :=
  (index.ancestors owner).findSome? fun ancestor =>
    match index.ownMethods ancestor name with
    | [] => none
    | entries => some entries

end Index

end RailsNavigator
