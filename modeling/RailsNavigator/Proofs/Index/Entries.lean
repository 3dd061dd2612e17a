import Mathlib.Data.List.Induction
import RailsNavigator.Index.Basic

/-!
# The index as a function of its entries

Every map of the index is gathered from a list: each item adds to what stands under its key. So an
index is determined by the list of its methods and the list of its declarations, and `ofEntries`
says how. Taking out a document looks only at the owners and namespaces that are noted for it. This
file shows that it nevertheless leaves behind exactly the index of the remaining entries, whatever
the entries are, because the notes are gathered from the same lists.
-/

namespace RailsNavigator

namespace NameMap

variable {α β : Type}

/-- The map in which the items with one key are folded into one value. -/
def gather (key : α → String) (add : β → α → β) (start : β) (items : List α) : NameMap β :=
  items.foldl (fun map item => map.alter (key item) fun value => some (add (value.getD start) item))
    {}

/-- What a list of items with one key comes to; nothing if there is no such item. -/
def summary? (add : β → α → β) (start : β) : List α → Option β
  | [] => none
  | item :: rest => some ((item :: rest).foldl add start)

theorem summary?_append_singleton (add : β → α → β) (start : β) (items : List α) (item : α) :
    summary? add start (items ++ [item])
      = some (add ((summary? add start items).getD start) item) := by
  cases items with
  | nil => rfl
  | cons first rest => simp [summary?]

@[simp]
theorem gather_append_singleton (key : α → String) (add : β → α → β) (start : β)
    (items : List α) (item : α) :
    gather key add start (items ++ [item])
      = (gather key add start items).alter (key item)
          fun value => some (add (value.getD start) item) := by
  simp [gather]

/-- Under a name stands what the items with that key come to. -/
theorem getElem?_gather (key : α → String) (add : β → α → β) (start : β) (items : List α)
    (name : String) :
    (gather key add start items)[name]?
      = summary? add start (items.filter fun item => key item = name) := by
  induction items using List.reverseRecOn with
  | nil => simp [gather, summary?]
  | append_singleton items item hypothesis =>
      rw [gather_append_singleton, Std.ExtTreeMap.getElem?_alter, List.filter_append]
      by_cases here : key item = name
      · subst here
        simp [hypothesis, summary?_append_singleton]
      · simp [here, hypothesis]

/-- Changing the values under distinct keys one after another changes each of them once. -/
theorem getElem?_foldl_alter (change : Option β → Option β) (names : List String)
    (distinct : names.Nodup) (map : NameMap β) (name : String) :
    (names.foldl (fun map name => map.alter name change) map)[name]?
      = if name ∈ names then change map[name]? else map[name]? := by
  induction names generalizing map with
  | nil => simp
  | cons first rest hypothesis =>
      rcases List.nodup_cons.mp distinct with ⟨firstNotMem, restDistinct⟩
      rw [List.foldl_cons, hypothesis restDistinct, Std.ExtTreeMap.getElem?_alter]
      by_cases here : first = name
      · subst here
        simp [firstNotMem]
      · simp [here, Ne.symm here]

end NameMap

namespace NameSet

theorem nodup_toList (set : NameSet) : set.toList.Nodup := by
  have distinct := set.distinct_toList
  simpa [List.Nodup] using distinct

/-- A name is in the set of the names of some items if one of them has it. -/
theorem mem_foldl_insert {α : Type} (nameOf : α → String) (items : List α) (set : NameSet)
    (name : String) :
    name ∈ items.foldl (fun set item => set.insert (nameOf item)) set
      ↔ name ∈ set ∨ ∃ item ∈ items, nameOf item = name := by
  induction items generalizing set with
  | nil => simp
  | cons first rest hypothesis =>
      rw [List.foldl_cons, hypothesis, Std.ExtTreeSet.mem_insert]
      simp only [Std.compare_eq_iff_eq, List.mem_cons, exists_eq_or_imp]
      tauto

end NameSet

namespace Index

/-- Puts an item at the end of a list. -/
def push {α : Type} (items : List α) (item : α) : List α := items ++ [item]

/-- The index that holds the given methods and declarations, in order. -/
def ofEntries (methods : List MethodEntry) (namespaces : List NamespaceEntry) : Index where
  methods :=
    NameMap.gather MethodEntry.owner (fun methods entry => pushUnder methods entry.name entry) {}
      methods
  namespaces := NameMap.gather NamespaceEntry.name push [] namespaces
  ownersByUri :=
    NameMap.gather MethodEntry.uri (fun owners entry => owners.insert entry.owner) {} methods
  namespacesByUri :=
    NameMap.gather NamespaceEntry.uri (fun names entry => names.insert entry.name) {} namespaces

theorem addMethod_ofEntries (methods : List MethodEntry) (namespaces : List NamespaceEntry)
    (entry : MethodEntry) :
    (ofEntries methods namespaces).addMethod entry = ofEntries (methods ++ [entry]) namespaces := by
  simp [ofEntries, addMethod, noteUnder]

theorem addNamespace_ofEntries (methods : List MethodEntry) (namespaces : List NamespaceEntry)
    (entry : NamespaceEntry) :
    (ofEntries methods namespaces).addNamespace entry
      = ofEntries methods (namespaces ++ [entry]) := by
  simp [ofEntries, addNamespace, noteUnder, pushUnder, push]

/-- Putting in a document adds its entries after those that are there. -/
theorem add_ofEntries (methods : List MethodEntry) (namespaces : List NamespaceEntry)
    (entries : Collector) :
    (ofEntries methods namespaces).add entries
      = ofEntries (methods ++ entries.methods) (namespaces ++ entries.namespaces) := by
  have addMethods : ∀ (added : List MethodEntry) (methods : List MethodEntry),
      added.foldl addMethod (ofEntries methods namespaces)
        = ofEntries (methods ++ added) namespaces := by
    intro added
    induction added with
    | nil => simp
    | cons entry rest hypothesis =>
        intro methods
        rw [List.foldl_cons, addMethod_ofEntries, hypothesis]
        simp
  have addNamespaces : ∀ (added : List NamespaceEntry) (namespaces : List NamespaceEntry)
      (methods : List MethodEntry),
      added.foldl addNamespace (ofEntries methods namespaces)
        = ofEntries methods (namespaces ++ added) := by
    intro added
    induction added with
    | nil => simp
    | cons entry rest hypothesis =>
        intro namespaces methods
        rw [List.foldl_cons, addNamespace_ofEntries, hypothesis]
        simp
  rw [add, addMethods, addNamespaces]

theorem foldl_push {α : Type} (items added : List α) : added.foldl push items = items ++ added := by
  induction added generalizing items with
  | nil => simp
  | cons item rest hypothesis =>
      rw [List.foldl_cons, hypothesis]
      simp [push]

/-- A list that is gathered under a name holds the items with that name, in order. -/
theorem summary?_push {α : Type} (items : List α) :
    NameMap.summary? push [] items = if items = [] then none else some items := by
  cases items with
  | nil => rfl
  | cons first rest => simp [NameMap.summary?, foldl_push, push]

theorem getD_summary?_push {α : Type} (items : List α) :
    (NameMap.summary? push [] items).getD [] = items := by
  rw [summary?_push]
  split <;> simp_all

theorem keep?_eq {α : Type} (uriOf : α → String) (uri : String) (entries : List α) :
    keep? uriOf uri entries
      = NameMap.summary? push [] (entries.filter fun entry => uriOf entry != uri) := by
  rw [summary?_push, keep?]
  split <;> simp_all

theorem filter_filter_comm {α : Type} (keep choose : α → Bool) (items : List α) :
    (items.filter keep).filter choose = (items.filter choose).filter keep := by
  rw [List.filter_filter, List.filter_filter]
  exact List.filter_congr fun item _ => Bool.and_comm _ _

/-- Leaving out the entries of a document before or after gathering makes no difference. -/
theorem filterMap_keep?_gather {α : Type} (nameOf uriOf : α → String) (uri : String)
    (entries : List α) :
    (NameMap.gather nameOf push [] entries).filterMap (fun _ entries => keep? uriOf uri entries)
      = NameMap.gather nameOf push [] (entries.filter fun entry => uriOf entry != uri) := by
  apply Std.ExtTreeMap.ext_getElem?
  intro name
  rw [Std.ExtTreeMap.getElem?_filterMap', NameMap.getElem?_gather, NameMap.getElem?_gather,
    filter_filter_comm]
  generalize (entries.filter fun entry => nameOf entry = name) = named
  rw [summary?_push]
  split
  · simp_all [NameMap.summary?]
  · simp [keep?_eq]

theorem gather_eq_empty_iff {α β : Type} (key : α → String) (add : β → α → β) (start : β)
    (items : List α) : NameMap.gather key add start items = ∅ ↔ items = [] := by
  constructor
  · intro empty
    cases items with
    | nil => rfl
    | cons first rest =>
        have absent := NameMap.getElem?_gather key add start (first :: rest) (key first)
        rw [empty] at absent
        simp [NameMap.summary?] at absent
  · rintro rfl
    rfl

/-- Entries that are picked by their key stay as they are without a document that has none among
them. -/
theorem filter_filter_of_not_noted {α : Type} (uriOf : α → String) (choose : α → Bool)
    (uri : String) (items : List α) (notNoted : ∀ item ∈ items, uriOf item = uri → ¬choose item) :
    (items.filter fun item => uriOf item != uri).filter choose = items.filter choose := by
  rw [List.filter_filter]
  apply List.filter_congr
  intro item member
  by_cases ofDocument : uriOf item = uri
  · simp [notNoted item member ofDocument]
  · simp [ofDocument]

/-- The names that are noted for a document are those of its entries. -/
theorem mem_noted {α : Type} (uriOf nameOf : α → String) (uri name : String) (items : List α) :
    name ∈ (NameMap.gather uriOf (fun (names : NameSet) item => names.insert (nameOf item)) {}
        items).getD uri {}
      ↔ ∃ item ∈ items, uriOf item = uri ∧ nameOf item = name := by
  rw [Std.ExtTreeMap.getD_eq_getD_getElem?, NameMap.getElem?_gather]
  cases ofDocument : items.filter fun item => uriOf item = uri with
  | nil =>
      have none_of : ∀ item ∈ items, uriOf item ≠ uri := by
        simpa [List.filter_eq_nil_iff] using ofDocument
      simp only [NameMap.summary?, Option.getD_none, Std.ExtTreeSet.not_mem_empty, false_iff]
      rintro ⟨item, member, same, -⟩
      exact none_of item member same
  | cons first rest =>
      rw [NameMap.summary?, Option.getD_some, NameSet.mem_foldl_insert, ← ofDocument]
      simp [and_assoc]

theorem getElem?_foldl_removeNamespace (uri : String) (namespaces : NameMap (List NamespaceEntry))
    (names : NameSet) (name : String) :
    (names.toList.foldl (removeNamespace uri) namespaces)[name]?
      = if name ∈ names then keep? NamespaceEntry.uri uri (namespaces[name]?.getD [])
        else namespaces[name]? := by
  have changed := NameMap.getElem?_foldl_alter
    (fun entries => keep? NamespaceEntry.uri uri (entries.getD [])) names.toList
    (NameSet.nodup_toList names) namespaces name
  simp only [Std.ExtTreeSet.mem_toList] at changed
  exact changed

theorem getElem?_foldl_removeOwner (uri : String)
    (methods : NameMap (NameMap (List MethodEntry))) (owners : NameSet) (owner : String) :
    (owners.toList.foldl (removeOwner uri) methods)[owner]?
      = if owner ∈ owners then
          let kept := (methods[owner]?.getD {}).filterMap fun _ entries =>
            keep? MethodEntry.uri uri entries
          if kept.isEmpty then none else some kept
        else methods[owner]? := by
  have changed := NameMap.getElem?_foldl_alter
    (fun byName =>
      let kept := (byName.getD {}).filterMap fun _ entries => keep? MethodEntry.uri uri entries
      if kept.isEmpty then none else some kept)
    owners.toList (NameSet.nodup_toList owners) methods owner
  simp only [Std.ExtTreeSet.mem_toList] at changed
  exact changed

/-- The namespaces of an index without a document. -/
theorem namespaces_remove_ofEntries (methods : List MethodEntry)
    (namespaces : List NamespaceEntry) (uri : String) :
    ((ofEntries methods namespaces).remove uri).namespaces
      = (ofEntries methods (namespaces.filter fun entry => entry.uri != uri)).namespaces := by
  apply Std.ExtTreeMap.ext_getElem?
  intro name
  simp only [remove, ofEntries]
  rw [getElem?_foldl_removeNamespace, NameMap.getElem?_gather, NameMap.getElem?_gather]
  by_cases noted : ∃ entry ∈ namespaces, entry.uri = uri ∧ entry.name = name
  · rw [if_pos ((mem_noted _ _ _ _ _).mpr noted), keep?_eq, getD_summary?_push,
      filter_filter_comm]
  · rw [if_neg (mt (mem_noted _ _ _ _ _).mp noted), filter_filter_of_not_noted]
    intro entry member ofDocument
    simpa using fun named => noted ⟨entry, member, ofDocument, named⟩

/-- The methods of an index without a document. -/
theorem methods_remove_ofEntries (methods : List MethodEntry)
    (namespaces : List NamespaceEntry) (uri : String) :
    ((ofEntries methods namespaces).remove uri).methods
      = (ofEntries (methods.filter fun entry => entry.uri != uri) namespaces).methods := by
  apply Std.ExtTreeMap.ext_getElem?
  intro owner
  simp only [remove, ofEntries]
  rw [getElem?_foldl_removeOwner, NameMap.getElem?_gather, NameMap.getElem?_gather]
  by_cases noted : ∃ entry ∈ methods, entry.uri = uri ∧ entry.owner = owner
  · rw [if_pos ((mem_noted _ _ _ _ _).mpr noted), filter_filter_comm]
    generalize (methods.filter fun entry => entry.owner = owner) = owned
    have gathered : (NameMap.summary? (fun methods entry => pushUnder methods entry.name entry)
        {} owned).getD {} = NameMap.gather MethodEntry.name push [] owned := by
      cases owned <;> rfl
    simp only [gathered, filterMap_keep?_gather, Std.ExtTreeMap.isEmpty_iff, gather_eq_empty_iff]
    cases owned.filter fun entry => entry.uri != uri with
    | nil => rfl
    | cons first rest => rfl
  · rw [if_neg (mt (mem_noted _ _ _ _ _).mp noted), filter_filter_of_not_noted]
    intro entry member ofDocument
    simpa using fun owned => noted ⟨entry, member, ofDocument, owned⟩

/-- Erasing what is gathered under a key is gathering without the items that have it. -/
theorem erase_gather {α β : Type} (key : α → String) (add : β → α → β) (start : β)
    (items : List α) (name : String) :
    (NameMap.gather key add start items).erase name
      = NameMap.gather key add start (items.filter fun item => key item != name) := by
  apply Std.ExtTreeMap.ext_getElem?
  intro other
  rw [Std.ExtTreeMap.getElem?_erase, NameMap.getElem?_gather, NameMap.getElem?_gather]
  by_cases same : name = other
  · subst same
    have nothing : ((items.filter fun item => key item != name).filter
        fun item => key item = name) = [] := by
      simp [List.filter_filter, List.filter_eq_nil_iff]
    rw [nothing]
    simp [NameMap.summary?]
  · rw [filter_filter_of_not_noted]
    · simp [same]
    · intro item _ ofName
      simpa [ofName] using same

/-- Taking out a document leaves the index of the entries of all other documents. -/
theorem remove_ofEntries (methods : List MethodEntry) (namespaces : List NamespaceEntry)
    (uri : String) :
    (ofEntries methods namespaces).remove uri
      = ofEntries (methods.filter fun entry => entry.uri != uri)
          (namespaces.filter fun entry => entry.uri != uri) := by
  have methodsEq := methods_remove_ofEntries methods namespaces uri
  have namespacesEq := namespaces_remove_ofEntries methods namespaces uri
  have ownersEq := erase_gather MethodEntry.uri
    (fun (owners : NameSet) entry => owners.insert entry.owner) {} methods uri
  have namesEq := erase_gather NamespaceEntry.uri
    (fun (names : NameSet) entry => names.insert entry.name) {} namespaces uri
  simp only [remove, ofEntries] at methodsEq namespacesEq ownersEq namesEq ⊢
  rw [methodsEq, namespacesEq, ownersEq, namesEq]

/-- A method that stands somewhere in the index. -/
def StoresMethod (index : Index) (entry : MethodEntry) : Prop :=
  ∃ (owner : String) (byName : NameMap (List MethodEntry)) (name : String)
    (entries : List MethodEntry),
    index.methods[owner]? = some byName ∧ byName[name]? = some entries ∧ entry ∈ entries

/-- A declaration that stands somewhere in the index. -/
def StoresNamespace (index : Index) (entry : NamespaceEntry) : Prop :=
  ∃ (name : String) (entries : List NamespaceEntry),
    index.namespaces[name]? = some entries ∧ entry ∈ entries

/-- Nothing empty is left in the index, and the notes for a document name exactly the owners and
namespaces of its entries. -/
structure Consistent (index : Index) : Prop where
  methods_ne_empty : ∀ (owner : String) (byName : NameMap (List MethodEntry)),
    index.methods[owner]? = some byName → byName ≠ ∅
  entries_ne_nil : ∀ (owner : String) (byName : NameMap (List MethodEntry)) (name : String)
    (entries : List MethodEntry), index.methods[owner]? = some byName →
      byName[name]? = some entries → entries ≠ []
  declarations_ne_nil : ∀ (name : String) (entries : List NamespaceEntry),
    index.namespaces[name]? = some entries → entries ≠ []
  owners_ne_empty : ∀ (uri : String) (owners : NameSet),
    index.ownersByUri[uri]? = some owners → owners ≠ ∅
  namespaces_ne_empty : ∀ (uri : String) (names : NameSet),
    index.namespacesByUri[uri]? = some names → names ≠ ∅
  mem_owners_iff : ∀ uri owner, owner ∈ index.ownersByUri.getD uri {} ↔
    ∃ entry, index.StoresMethod entry ∧ entry.owner = owner ∧ entry.uri = uri
  mem_namespaces_iff : ∀ uri name, name ∈ index.namespacesByUri.getD uri {} ↔
    ∃ entry, index.StoresNamespace entry ∧ entry.name = name ∧ entry.uri = uri

theorem summary?_eq_some {α β : Type} {add : β → α → β} {start value : β} {items : List α}
    (found : NameMap.summary? add start items = some value) :
    items ≠ [] ∧ items.foldl add start = value := by
  cases items with
  | nil => simp [NameMap.summary?] at found
  | cons first rest => simpa [NameMap.summary?] using found

/-- What stands under an owner is gathered from its methods, of which there is one at least. -/
theorem methods_ofEntries_eq_some {methods : List MethodEntry} {namespaces : List NamespaceEntry}
    {owner : String} {byName : NameMap (List MethodEntry)}
    (found : (ofEntries methods namespaces).methods[owner]? = some byName) :
    (methods.filter fun entry => entry.owner = owner) ≠ [] ∧
      byName = NameMap.gather MethodEntry.name push []
        (methods.filter fun entry => entry.owner = owner) := by
  rw [ofEntries, NameMap.getElem?_gather] at found
  rcases summary?_eq_some found with ⟨nonempty, value⟩
  exact ⟨nonempty, value.symm⟩

theorem gather_push_eq_some {α : Type} {nameOf : α → String} {items entries : List α}
    {name : String} (found : (NameMap.gather nameOf push [] items)[name]? = some entries) :
    entries ≠ [] ∧ entries = items.filter fun item => nameOf item = name := by
  rw [NameMap.getElem?_gather] at found
  rcases summary?_eq_some found with ⟨nonempty, value⟩
  rw [foldl_push, List.nil_append] at value
  subst value
  exact ⟨nonempty, rfl⟩

theorem storesMethod_ofEntries (methods : List MethodEntry) (namespaces : List NamespaceEntry)
    (entry : MethodEntry) :
    (ofEntries methods namespaces).StoresMethod entry ↔ entry ∈ methods := by
  constructor
  · rintro ⟨owner, byName, name, entries, foundOwner, foundName, member⟩
    rcases methods_ofEntries_eq_some foundOwner with ⟨-, rfl⟩
    rcases gather_push_eq_some foundName with ⟨-, rfl⟩
    exact (List.mem_filter.mp (List.mem_filter.mp member).1).1
  · intro member
    have owned : entry ∈ methods.filter fun other => other.owner = entry.owner := by
      simpa using member
    have named : entry ∈ (methods.filter fun other => other.owner = entry.owner).filter
        fun other => other.name = entry.name := by
      simpa using member
    refine ⟨entry.owner, NameMap.gather MethodEntry.name push []
      (methods.filter fun other => other.owner = entry.owner), entry.name, _, ?_, ?_, named⟩
    · rw [ofEntries, NameMap.getElem?_gather]
      cases split : methods.filter fun other => other.owner = entry.owner with
      | nil => simp [split] at owned
      | cons first rest => rfl
    · rw [NameMap.getElem?_gather, summary?_push, if_neg (List.ne_nil_of_mem named)]

theorem storesNamespace_ofEntries (methods : List MethodEntry) (namespaces : List NamespaceEntry)
    (entry : NamespaceEntry) :
    (ofEntries methods namespaces).StoresNamespace entry ↔ entry ∈ namespaces := by
  constructor
  · rintro ⟨name, entries, found, member⟩
    rcases gather_push_eq_some found with ⟨-, rfl⟩
    exact (List.mem_filter.mp member).1
  · intro member
    have named : entry ∈ namespaces.filter fun other => other.name = entry.name := by
      simpa using member
    refine ⟨entry.name, _, ?_, named⟩
    rw [ofEntries, NameMap.getElem?_gather, summary?_push, if_neg (List.ne_nil_of_mem named)]

/-- A set of names that is noted for a document is not empty. -/
theorem noted_ne_empty {α : Type} {uriOf nameOf : α → String} {items : List α} {uri : String}
    {names : NameSet}
    (found : (NameMap.gather uriOf (fun (names : NameSet) item => names.insert (nameOf item)) {}
      items)[uri]? = some names) : names ≠ ∅ := by
  rw [NameMap.getElem?_gather] at found
  rcases summary?_eq_some found with ⟨nonempty, value⟩
  rcases List.exists_mem_of_ne_nil _ nonempty with ⟨item, member⟩
  have noted : nameOf item ∈ names := by
    rw [← value, NameSet.mem_foldl_insert]
    exact Or.inr ⟨item, member, rfl⟩
  rintro rfl
  simp at noted

/-- The index of any entries is consistent. -/
theorem consistent_ofEntries (methods : List MethodEntry) (namespaces : List NamespaceEntry) :
    (ofEntries methods namespaces).Consistent where
  methods_ne_empty owner byName found := by
    rcases methods_ofEntries_eq_some found with ⟨nonempty, rfl⟩
    exact mt (gather_eq_empty_iff _ _ _ _).mp nonempty
  entries_ne_nil owner byName name entries foundOwner foundName := by
    rcases methods_ofEntries_eq_some foundOwner with ⟨-, rfl⟩
    exact (gather_push_eq_some foundName).1
  declarations_ne_nil name entries found := (gather_push_eq_some found).1
  owners_ne_empty uri owners found := noted_ne_empty found
  namespaces_ne_empty uri names found := noted_ne_empty found
  mem_owners_iff uri owner := by
    simp only [storesMethod_ofEntries]
    rw [ofEntries, mem_noted]
    simp only [and_comm]
  mem_namespaces_iff uri name := by
    simp only [storesNamespace_ofEntries]
    rw [ofEntries, mem_noted]
    simp only [and_comm]

end Index

end RailsNavigator
