import Std.Data.ExtTreeMap
import Std.Data.ExtTreeSet
import RailsNavigator.Index.Entry

/-!
# The index

The entries of all documents, methods by owner and name and namespaces by name, in the order in
which their documents were put in. Beside them stands which owners and namespaces each document
has a part in, so that a document is taken out without a search of the whole index.
-/

namespace RailsNavigator

/-- A map from names. -/
abbrev NameMap (α : Type) := Std.ExtTreeMap String α

/-- A set of names. -/
abbrev NameSet := Std.ExtTreeSet String

/-- The index of all documents. -/
structure Index where
  methods : NameMap (NameMap (List MethodEntry)) := {}
  namespaces : NameMap (List NamespaceEntry) := {}
  ownersByUri : NameMap NameSet := {}
  namespacesByUri : NameMap NameSet := {}

namespace Index

/-- Puts an item at the end of the list under a name. -/
def pushUnder {α : Type} (map : NameMap (List α)) (name : String) (item : α) : NameMap (List α) :=
  map.alter name fun list => some (list.getD [] ++ [item])

/-- Puts a name into the set under another. -/
def noteUnder (map : NameMap NameSet) (key name : String) : NameMap NameSet :=
  map.alter key fun set => some ((set.getD {}).insert name)

/-- Puts in a method. -/
def addMethod (index : Index) (entry : MethodEntry) : Index :=
  { index with
    methods := index.methods.alter entry.owner fun byName =>
      some (pushUnder (byName.getD {}) entry.name entry)
    ownersByUri := noteUnder index.ownersByUri entry.uri entry.owner }

/-- Puts in a declaration of a namespace. -/
def addNamespace (index : Index) (entry : NamespaceEntry) : Index :=
  { index with
    namespaces := pushUnder index.namespaces entry.name entry
    namespacesByUri := noteUnder index.namespacesByUri entry.uri entry.name }

/-- Puts in the entries of a document. -/
def add (index : Index) (entries : Collector) : Index :=
  entries.namespaces.foldl addNamespace (entries.methods.foldl addMethod index)

/-- The entries of a list that are left without those of a document; none if no entry is left. -/
def keep? {α : Type} (uriOf : α → String) (uri : String) (entries : List α) : Option (List α) :=
  match entries.filter fun entry => uriOf entry != uri with
  | [] => none
  | kept => some kept

/-- Takes the methods of a document away from an owner. -/
def removeOwner (uri : String) (methods : NameMap (NameMap (List MethodEntry))) (owner : String) :
    NameMap (NameMap (List MethodEntry)) :=
  methods.alter owner fun byName =>
    let kept := (byName.getD {}).filterMap fun _ entries => keep? MethodEntry.uri uri entries
    if kept.isEmpty then none else some kept

/-- Takes the declarations of a document away from a namespace. -/
def removeNamespace (uri : String) (namespaces : NameMap (List NamespaceEntry)) (name : String) :
    NameMap (List NamespaceEntry) :=
  namespaces.alter name fun entries => keep? NamespaceEntry.uri uri (entries.getD [])

/-- Takes out a document. -/
def remove (index : Index) (uri : String) : Index where
  methods := (index.ownersByUri.getD uri {}).toList.foldl (removeOwner uri) index.methods
  namespaces :=
    (index.namespacesByUri.getD uri {}).toList.foldl (removeNamespace uri) index.namespaces
  ownersByUri := index.ownersByUri.erase uri
  namespacesByUri := index.namespacesByUri.erase uri

/-- Replaces the entries of a document. -/
def replace (index : Index) (uri : String) (entries : Collector) : Index :=
  (index.remove uri).add entries

/-- Whether anything is known of a namespace. -/
def contains (index : Index) (name : String) : Bool :=
  index.namespaces.contains name || index.methods.contains name

/-- The methods with a name that an owner defines itself. -/
def ownMethods (index : Index) (owner name : String) : List MethodEntry :=
  (index.methods.getD owner {}).getD name []

end Index

end RailsNavigator
