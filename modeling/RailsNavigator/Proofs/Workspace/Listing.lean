import Mathlib.Data.List.Nodup
import Mathlib.Data.List.TakeWhile
import RailsNavigator.Proofs.Workspace.Resolution

/-!
# Which files a walk lists

A walk goes through a directory and those below it, sorts as it goes, and stops at excluded
directories and at links to directories. `Lists` says without any order which entries it is to come
by. This file shows that it comes by exactly these, as far as their paths are short enough to be
read, that it lists none of them twice, and that its result does not depend on the order in which
directories list their entries.
-/

namespace RailsNavigator.FileTree

/-- There is an entry below a directory at a path that is not a directory itself. It is reached
through directories proper that are not excluded. -/
inductive Lists (files : FileTree) (exclude : List String) : String → FileTree → String → Prop
  | entry {path name : String} {entries : List (String × FileTree)} {item : FileTree}
      (member : (name, item) ∈ entries)
      (notDirectory : files.listsAsDirectory (joinPath path name) item = false) :
      Lists files exclude path (.directory entries) (joinPath path name)
  | deeper {path name found : String} {entries : List (String × FileTree)} {item : FileTree}
      (member : (name, item) ∈ entries) (entered : name ∉ exclude)
      (lists : Lists files exclude (joinPath path name) item found) :
      Lists files exclude path (.directory entries) found

/-- Whether a text can be the name of an entry. -/
def IsName (name : String) : Prop :=
  name ≠ "" ∧ '/' ∉ name.toList ∧ '\x00' ∉ name.toList

/-- A tree as file systems have them: entries have names, and those of one directory differ. -/
inductive IsProper : FileTree → Prop
  | file (content : List UInt8) : IsProper (.file content)
  | lockedFile : IsProper .lockedFile
  | link (target : String) : IsProper (.link target)
  | directory {entries : List (String × FileTree)} (distinct : (entries.map Prod.fst).Nodup)
      (named : ∀ item ∈ entries, IsName item.1) (each : ∀ item ∈ entries, IsProper item.2) :
      IsProper (.directory entries)

/-- Induction over trees: what holds of all entries holds of their directory. -/
@[elab_as_elim]
theorem entryInduction {motive : FileTree → Prop}
    (leaf : ∀ tree, tree.isDirectory = false → motive tree)
    (directory : ∀ entries, (∀ item ∈ entries, motive item.2) → motive (.directory entries)) :
    ∀ tree, motive tree
  | .file _ => leaf _ rfl
  | .lockedFile => leaf _ rfl
  | .link _ => leaf _ rfl
  | .directory entries => directory entries fun item _ => entryInduction leaf directory item.2
termination_by tree => sizeOf tree
decreasing_by
  have smaller := List.sizeOf_lt_of_mem ‹item ∈ entries›
  rcases item with ⟨name, item⟩
  simp only [Prod.mk.sizeOf_spec, FileTree.directory.sizeOf_spec] at smaller ⊢
  omega

theorem walkEach_eq_map (files : FileTree) (exclude : List String) (path : String)
    (entries : List (String × FileTree)) :
    files.walkEach exclude path entries
      = (entries.filter fun item => item.2.isDirectory && !exclude.contains item.1).map
          fun item => (item.1, files.walk exclude (joinPath path item.1) item.2) := by
  induction entries with
  | nil => rfl
  | cons item rest hypothesis =>
      rcases item with ⟨name, item⟩
      rw [walkEach, hypothesis, List.filter_cons]
      split <;> simp_all

theorem nodup_map_fst_walkEach (files : FileTree) (exclude : List String) (path : String)
    {entries : List (String × FileTree)} (distinct : (entries.map Prod.fst).Nodup) :
    ((files.walkEach exclude path entries).map Prod.fst).Nodup := by
  rw [walkEach_eq_map, List.map_map]
  exact distinct.sublist (List.filter_sublist.map Prod.fst)

theorem mem_sortByName {α : Type} {items : List (String × α)} {item : String × α} :
    item ∈ sortByName items ↔ item ∈ items := by
  simp [sortByName]

section Membership

variable {files : FileTree} {exclude : List String} {path found : String}

/-- One level of a walk. -/
theorem mem_walk_directory_iff {entries : List (String × FileTree)} :
    found ∈ files.walk exclude path (.directory entries)
      ↔ path.utf8ByteSize ≤ pathLimit ∧
        ((∃ item ∈ entries, files.listsAsDirectory (joinPath path item.1) item.2 = false ∧
            joinPath path item.1 = found) ∨
          ∃ item ∈ entries, item.2.isDirectory = true ∧ item.1 ∉ exclude ∧
            found ∈ files.walk exclude (joinPath path item.1) item.2) := by
  rw [walk, walkEach_eq_map]
  by_cases long : path.utf8ByteSize > pathLimit
  · simp [long, Nat.not_le.mpr long]
  · simp only [long, if_false, List.mem_append, List.mem_map, List.mem_flatMap, mem_sortByName,
      List.mem_filter]
    constructor
    · rintro (⟨item, ⟨member, notDirectory⟩, rfl⟩ | ⟨_, ⟨item, ⟨member, entered⟩, rfl⟩, below⟩)
      · exact ⟨by omega, .inl ⟨item, member, by simpa using notDirectory, rfl⟩⟩
      · simp only [Bool.and_eq_true, Bool.not_eq_true', List.contains_eq_mem,
          decide_eq_false_iff_not] at entered
        exact ⟨by omega, .inr ⟨item, member, entered.1, entered.2, below⟩⟩
    · rintro ⟨-, ⟨item, member, notDirectory, rfl⟩ | ⟨item, member, isDirectory, entered, below⟩⟩
      · exact .inl ⟨item, ⟨member, by simpa using notDirectory⟩, rfl⟩
      · exact .inr ⟨_, ⟨item, ⟨member, by simp [isDirectory, entered]⟩, rfl⟩, below⟩

/-- What a walk comes by is an entry that it is to come by. -/
theorem lists_of_mem_walk {tree : FileTree} (member : found ∈ files.walk exclude path tree) :
    Lists files exclude path tree found := by
  induction tree using entryInduction generalizing path with
  | leaf tree notDirectory => cases tree <;> simp_all [walk, isDirectory]
  | directory entries hypothesis =>
      rcases (mem_walk_directory_iff.mp member).2 with
        ⟨item, itemMem, notDirectory, rfl⟩ | ⟨item, itemMem, -, entered, below⟩
      · exact .entry itemMem notDirectory
      · exact .deeper itemMem entered (hypothesis item itemMem below)

theorem utf8ByteSize_le_joinPath (path name : String) :
    path.utf8ByteSize ≤ (joinPath path name).utf8ByteSize := by
  unfold joinPath
  split <;> simp only [String.utf8ByteSize_append] <;> omega

theorem Lists.utf8ByteSize_le {tree : FileTree} (lists : Lists files exclude path tree found) :
    path.utf8ByteSize ≤ found.utf8ByteSize := by
  induction lists with
  | entry => exact utf8ByteSize_le_joinPath _ _
  | deeper _ _ _ hypothesis => exact Nat.le_trans (utf8ByteSize_le_joinPath _ _) hypothesis

/-- A walk comes by every entry that it is to come by, if its path is not too long. -/
theorem Lists.mem_walk {tree : FileTree} (lists : Lists files exclude path tree found)
    (short : found.utf8ByteSize ≤ pathLimit) : found ∈ files.walk exclude path tree := by
  induction lists with
  | entry member notDirectory =>
      have shorter := Nat.le_trans (utf8ByteSize_le_joinPath _ _) short
      exact mem_walk_directory_iff.mpr ⟨shorter, .inl ⟨_, member, notDirectory, rfl⟩⟩
  | @deeper path name found entries item member entered lists hypothesis =>
      have isDirectory : item.isDirectory = true := by cases lists <;> rfl
      have shorter := Nat.le_trans (utf8ByteSize_le_joinPath path name)
        (Nat.le_trans lists.utf8ByteSize_le short)
      exact mem_walk_directory_iff.mpr
        ⟨shorter, .inr ⟨_, member, isDirectory, entered, hypothesis short⟩⟩

end Membership

section Distinctness

variable {files : FileTree} {exclude : List String} {path name found : String}

/-- What comes before the names of the entries of a directory at a path. -/
def stem (path : String) : String :=
  if path.toList.getLast? = some '/' then path else path ++ "/"

theorem joinPath_eq_stem_append (path name : String) : joinPath path name = stem path ++ name := by
  unfold joinPath stem
  split <;> rfl

theorem stem_joinPath (isName : IsName name) :
    stem (joinPath path name) = stem path ++ name ++ "/" := by
  have notEmpty : name.toList ≠ [] := by simpa using isName.1
  have last : (joinPath path name).toList.getLast? ≠ some '/' := by
    rw [joinPath_eq_stem_append, String.toList_append, List.getLast?_append_of_ne_nil _ notEmpty]
    intro isSlash
    exact isName.2.1 (List.mem_of_getLast? isSlash)
  rw [stem, if_neg last, joinPath_eq_stem_append]

theorem Lists.exists_eq_stem_append {tree : FileTree} (lists : Lists files exclude path tree found)
    (proper : tree.IsProper) : ∃ rest, found = stem path ++ rest := by
  induction lists with
  | entry => exact ⟨_, joinPath_eq_stem_append _ _⟩
  | deeper member entered lists hypothesis =>
      cases proper with
      | directory distinct named each =>
          rcases hypothesis (each _ member) with ⟨rest, rfl⟩
          rw [stem_joinPath (named _ member), String.append_assoc, String.append_assoc]
          exact ⟨_, rfl⟩

/-- The name that a path goes on with after a stem. -/
def nameAfter (path found : String) : List Char :=
  (found.toList.drop (stem path).toList.length).takeWhile (· != '/')

theorem takeWhile_append_slash {name : List Char} (noSlash : '/' ∉ name) (rest : List Char) :
    (name ++ '/' :: rest).takeWhile (· != '/') = name := by
  rw [List.takeWhile_append_of_pos]
  · simp
  · intro character member
    have notSlash : character ≠ '/' := ne_of_mem_of_not_mem member noSlash
    simpa using notSlash

/-- Below a directory, each path goes on with the name of the entry that it leads through. -/
theorem nameAfter_of_mem_walk {item : FileTree} (isName : IsName name) (proper : item.IsProper)
    (member : found ∈ files.walk exclude (joinPath path name) item) :
    nameAfter path found = name.toList ∧ found ≠ joinPath path name := by
  rcases (lists_of_mem_walk member).exists_eq_stem_append proper with ⟨rest, rfl⟩
  rw [stem_joinPath isName]
  constructor
  · simp only [nameAfter, String.toList_append, List.append_assoc, List.drop_left]
    exact takeWhile_append_slash isName.2.1 _
  · intro same
    have sameList := congrArg String.toList same
    rw [joinPath_eq_stem_append] at sameList
    simp only [String.toList_append, List.append_assoc, List.append_cancel_left_eq] at sameList
    have sameLength := congrArg List.length sameList
    simp at sameLength

theorem nameAfter_joinPath (path : String) (isName : IsName name) :
    nameAfter path (joinPath path name) = name.toList := by
  rw [nameAfter, joinPath_eq_stem_append, String.toList_append, List.drop_left,
    List.takeWhile_eq_self_iff]
  intro character member
  have notSlash : character ≠ '/' := ne_of_mem_of_not_mem member isName.2.1
  simpa using notSlash

theorem joinPath_injective (path : String) : Function.Injective (joinPath path) := by
  intro first second same
  have sameList := congrArg String.toList same
  rw [joinPath_eq_stem_append, joinPath_eq_stem_append, String.toList_append,
    String.toList_append, List.append_cancel_left_eq] at sameList
  exact String.toList_inj.mp sameList

theorem nodup_map_fst_sortByName {α : Type} {items : List (String × α)}
    (distinct : (items.map Prod.fst).Nodup) : ((sortByName items).map Prod.fst).Nodup :=
  ((List.mergeSort_perm items _).map Prod.fst).nodup_iff.mpr distinct

/-- A walk lists nothing twice. -/
theorem nodup_walk (files : FileTree) (exclude : List String) {tree : FileTree}
    (proper : tree.IsProper) (path : String) : (files.walk exclude path tree).Nodup := by
  induction proper generalizing path with
  | file content => simp [walk]
  | lockedFile => simp [walk]
  | link target => simp [walk]
  | @directory entries distinct named each hypothesis =>
      rw [walk]
      split
      · exact List.nodup_nil
      rw [List.nodup_append]
      refine ⟨?_, ?_, ?_⟩
      -- The files in a directory have different names.
      · have fewer := distinct.sublist (List.Sublist.map Prod.fst (List.filter_sublist
          (p := fun item => !files.listsAsDirectory (joinPath path item.1) item.2)))
        have paths := (nodup_map_fst_sortByName fewer).map (joinPath_injective path)
        rw [List.map_map] at paths
        exact paths
      -- A path shows which directory it leads through, so no two of them list the same path,
      · rw [List.nodup_flatMap]
        have names := nodup_map_fst_sortByName (nodup_map_fst_walkEach files exclude path distinct)
        rw [walkEach_eq_map] at names ⊢
        constructor
        · intro walked member
          rcases List.mem_map.mp (mem_sortByName.mp member) with ⟨item, itemMem, rfl⟩
          exact hypothesis item (List.mem_filter.mp itemMem).1 _
        · refine (List.pairwise_map.mp names).imp_of_mem ?_
          intro first second firstMem secondMem differ found inFirst inSecond
          rcases List.mem_map.mp (mem_sortByName.mp firstMem) with ⟨item, itemMem, rfl⟩
          rcases List.mem_map.mp (mem_sortByName.mp secondMem) with ⟨other, otherMem, rfl⟩
          have itemIn := (List.mem_filter.mp itemMem).1
          have otherIn := (List.mem_filter.mp otherMem).1
          have ofItem := (nameAfter_of_mem_walk (named _ itemIn) (each _ itemIn) inFirst).1
          have ofOther := (nameAfter_of_mem_walk (named _ otherIn) (each _ otherIn) inSecond).1
          exact differ (String.toList_inj.mp (ofItem.symm.trans ofOther))
      -- and it shows that it goes on after the name, which the files in the directory do not.
      · intro found foundMem other otherMem same
        subst same
        rcases List.mem_map.mp foundMem with ⟨item, itemMem, rfl⟩
        rw [walkEach_eq_map] at otherMem
        rcases List.mem_flatMap.mp otherMem with ⟨walked, walkedMem, below⟩
        rcases List.mem_map.mp (mem_sortByName.mp walkedMem) with ⟨outer, outerMem, rfl⟩
        have itemIn := (List.mem_filter.mp (mem_sortByName.mp itemMem)).1
        have outerIn := (List.mem_filter.mp outerMem).1
        have ofItem := nameAfter_joinPath path (named _ itemIn)
        have ofOuter := nameAfter_of_mem_walk (named _ outerIn) (each _ outerIn) below
        have sameName := String.toList_inj.mp (ofItem.symm.trans ofOuter.1)
        exact ofOuter.2 (congrArg (joinPath path) sameName)

end Distinctness

theorem contains_eq_false_of_lists {files : FileTree} {exclude : List String} {path found : String}
    {tree : FileTree} (lists : Lists files exclude path tree found) (proper : tree.IsProper)
    (without : path.toList.contains '\x00' = false) : found.toList.contains '\x00' = false := by
  have joined : ∀ path name : String, path.toList.contains '\x00' = false → IsName name →
      (joinPath path name).toList.contains '\x00' = false := by
    intro path name without isName
    have notInName := isName.2.2
    unfold joinPath
    split <;> simp_all
  induction lists with
  | entry member =>
      cases proper with
      | directory distinct named each => exact joined _ _ without (named _ member)
  | deeper member entered lists hypothesis =>
      cases proper with
      | directory distinct named each =>
          exact hypothesis (each _ member) (joined _ _ without (named _ member))

theorem pairwise_sortByName {α : Type} (items : List (String × α)) :
    (sortByName items).Pairwise fun item later => item.1 ≤ later.1 := by
  have transitive : ∀ first second third : String × α, decide (first.1 ≤ second.1) = true →
      decide (second.1 ≤ third.1) = true → decide (first.1 ≤ third.1) = true := by
    intro first second third before after
    simp only [decide_eq_true_eq] at before after ⊢
    exact String.le_trans before after
  have total : ∀ first second : String × α,
      (decide (first.1 ≤ second.1) || decide (second.1 ≤ first.1)) = true := by
    intro first second
    simpa using String.le_total first.1 second.1
  simpa [sortByName] using List.pairwise_mergeSort transitive total items

/-- Sorted names come in one order only. -/
theorem map_fst_sortByName_eq_of_perm {α β : Type} {first : List (String × α)}
    {second : List (String × β)} (order : (first.map Prod.fst).Perm (second.map Prod.fst)) :
    (sortByName first).map Prod.fst = (sortByName second).map Prod.fst := by
  have sameNames : ((sortByName first).map Prod.fst).Perm ((sortByName second).map Prod.fst) :=
    ((List.mergeSort_perm first _).map Prod.fst).trans
      (order.trans ((List.mergeSort_perm second _).map Prod.fst).symm)
  exact List.Perm.eq_of_pairwise (fun _ _ _ _ => String.le_antisymm)
    (List.pairwise_map.mpr (pairwise_sortByName first))
    (List.pairwise_map.mpr (pairwise_sortByName second)) sameNames

/-- Sorted by distinct names, items come in one order only. -/
theorem sortByName_eq_of_perm {α : Type} {first second : List (String × α)}
    (distinct : (first.map Prod.fst).Nodup) (order : first.Perm second) :
    sortByName first = sortByName second := by
  have sameItems : (sortByName first).Perm (sortByName second) :=
    (List.mergeSort_perm first _).trans (order.trans (List.mergeSort_perm second _).symm)
  refine List.Perm.eq_of_pairwise ?_ (pairwise_sortByName first) (pairwise_sortByName second)
    sameItems
  intro item other itemMem otherMem before after
  rw [mem_sortByName] at itemMem otherMem
  exact List.inj_on_of_nodup_map distinct itemMem (order.mem_iff.mpr otherMem)
    (String.le_antisymm before after)

namespace Relisted

variable {files later entry other : FileTree}

theorem isDirectory (relisted : entry.Relisted other) : entry.isDirectory = other.isDirectory := by
  cases relisted <;> rfl

theorem listsAsDirectory (relisted : files.Relisted later) (same : entry.Relisted other)
    (path : String) :
    files.listsAsDirectory path entry = later.listsAsDirectory path other := by
  cases same with
  | link target =>
      have found := relisted.find path
      unfold FileTree.listsAsDirectory
      generalize files.find path = first at found ⊢
      generalize later.find path = second at found ⊢
      cases found with
      | error error => rfl
      | ok isSame => exact isSame.isDirectory
  | _ => rfl

/-- The same entries of a directory are listed as files. -/
theorem map_fst_filter (relisted : files.Relisted later) (path : String)
    {pairs : List (String × FileTree × FileTree)} {listed : List (String × FileTree)}
    (each : ∀ pair ∈ pairs, Relisted pair.2.1 pair.2.2)
    (order : (pairs.map fun pair => (pair.1, pair.2.2)).Perm listed) :
    (((pairs.map fun pair => (pair.1, pair.2.1)).filter fun item =>
        !files.listsAsDirectory (joinPath path item.1) item.2).map Prod.fst).Perm
      ((listed.filter fun item =>
        !later.listsAsDirectory (joinPath path item.1) item.2).map Prod.fst) := by
  refine List.Perm.trans (List.Perm.of_eq ?_) ((order.filter _).map Prod.fst)
  simp only [List.filter_map, List.map_map, Function.comp_def]
  refine congrArg _ (List.filter_congr ?_)
  intro pair member
  rw [relisted.listsAsDirectory (each pair member)]

/-- The same is found below the directories in a directory. -/
theorem walkEach_perm (exclude : List String) (path : String)
    {pairs : List (String × FileTree × FileTree)} {listed : List (String × FileTree)}
    (each : ∀ pair ∈ pairs, Relisted pair.2.1 pair.2.2)
    (order : (pairs.map fun pair => (pair.1, pair.2.2)).Perm listed)
    (walks : ∀ pair ∈ pairs, ∀ path,
      files.walk exclude path pair.2.1 = later.walk exclude path pair.2.2) :
    (files.walkEach exclude path (pairs.map fun pair => (pair.1, pair.2.1))).Perm
      (later.walkEach exclude path listed) := by
  rw [walkEach_eq_map, walkEach_eq_map]
  refine List.Perm.trans (List.Perm.of_eq ?_) ((order.filter _).map _)
  simp only [List.filter_map, List.map_map, Function.comp_def]
  rw [List.filter_congr fun pair member => by rw [(each pair member).isDirectory]]
  apply List.map_congr_left
  intro pair member
  rw [walks pair (List.mem_filter.mp member).1]

/-- A walk does not depend on the order in which directories list their entries. -/
theorem walk (relisted : files.Relisted later) (same : entry.Relisted other)
    (exclude : List String) (path : String) :
    files.walk exclude path entry = later.walk exclude path other := by
  induction same generalizing path with
  | file content => rfl
  | lockedFile => rfl
  | link target => rfl
  | @directory pairs listed distinct each order hypothesis =>
      have names : ((pairs.map fun pair => (pair.1, pair.2.1)).map Prod.fst).Nodup := by
        rw [List.map_map]
        exact distinct
      -- Of the files only the names are left, while the walks are sorted along with theirs.
      have samePaths := congrArg (List.map (joinPath path))
        (map_fst_sortByName_eq_of_perm (relisted.map_fst_filter path each order))
      have sameBelow := sortByName_eq_of_perm (nodup_map_fst_walkEach files exclude path names)
        (walkEach_perm exclude path each order hypothesis)
      rw [List.map_map, List.map_map] at samePaths
      rw [FileTree.walk, FileTree.walk, sameBelow]
      split
      · rfl
      · exact congrArg (· ++ _) samePaths

theorem filesBelow (relisted : files.Relisted later) (exclude : List String) (path : String) :
    files.filesBelow exclude path = later.filesBelow exclude path := by
  have found := relisted.find path
  unfold FileTree.filesBelow
  generalize files.find path = first at found ⊢
  generalize later.find path = second at found ⊢
  cases found with
  | error error => cases error <;> rfl
  | ok isSame => exact congrArg Except.ok (relisted.walk isSame exclude path)

end Relisted

end RailsNavigator.FileTree
