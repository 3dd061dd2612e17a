import Mathlib.Data.List.Perm.Basic
import RailsNavigator.Workspace.FileTree

/-!
# Where paths lead

A path is followed in two ways: strictly, as the file system does, to see what is there, and without
its dots, to read it. This file shows that whatever is there is also what is read.

Nor does it matter in which order directories list their entries. Trees that are the same but for
that order have the same at every path, links and errors included.
-/

namespace RailsNavigator.FileTree

/-- The same names, but for some dots that are left out. -/
inductive DropsDots : List String → List String → Prop
  | nil : DropsDots [] []
  | name (name : String) {full fewer : List String} (rest : DropsDots full fewer) :
      DropsDots (name :: full) (name :: fewer)
  | dot {full fewer : List String} (rest : DropsDots full fewer) : DropsDots ("." :: full) fewer

namespace DropsDots

theorem refl (names : List String) : DropsDots names names := by
  induction names with
  | nil => exact .nil
  | cons name rest hypothesis => exact .name name hypothesis

theorem append {full fewer moreFull moreFewer : List String} (first : DropsDots full fewer)
    (second : DropsDots moreFull moreFewer) :
    DropsDots (full ++ moreFull) (fewer ++ moreFewer) := by
  induction first with
  | nil => exact second
  | name name rest hypothesis => exact .name name hypothesis
  | dot rest hypothesis => exact .dot hypothesis

theorem filter (names : List String) : DropsDots names (names.filter (· != ".")) := by
  induction names with
  | nil => exact .nil
  | cons name rest hypothesis =>
      by_cases isDot : name = "."
      · subst isDot
        exact .dot hypothesis
      · rw [List.filter_cons_of_pos (by simpa using isDot)]
        exact .name name hypothesis

theorem tidyNames (path : String) : DropsDots (strictNames path) (tidyNames path) := by
  have last : DropsDots (if endsWithSlash path then ["."] else []) [] := by
    split
    · exact .dot .nil
    · exact .nil
  simpa [strictNames, FileTree.tidyNames] using (filter (plainNames path)).append last

end DropsDots

/-- A way leads as far as another, with fewer dots left to follow. -/
inductive Way.LeadsAsFar : Way → Way → Prop
  | arrived (place : Place) : LeadsAsFar (.arrived place) (.arrived place)
  | atLink (place : Place) (target : String) {rest fewer : List String}
      (drops : DropsDots rest fewer) :
      LeadsAsFar (.atLink place target rest) (.atLink place target fewer)
  | refused (error : FileError) (way : Way) : LeadsAsFar (.refused error) way

theorem leadsAsFar_advance {full fewer : List String} (drops : DropsDots full fewer)
    (place : Place) : (place.advance full).LeadsAsFar (place.advance fewer) := by
  induction drops generalizing place with
  | nil => exact .arrived place
  | @name name full fewer drops hypothesis =>
      rw [Place.advance, Place.advance]
      split
      · exact .refused _ _
      · exact .refused _ _
      · exact .refused _ _
      · split
        · exact hypothesis place
        split
        · exact hypothesis place.parent
        split
        · exact .refused _ _
        split
        · exact .refused _ _
        · exact .atLink _ _ drops
        · exact hypothesis _
  | dot drops hypothesis =>
      rw [Place.advance]
      split
      · exact .refused _ _
      · exact .refused _ _
      · exact .refused _ _
      · exact hypothesis place

theorem follow_of_leadsAsFar (root : FileTree) (links : Nat) {way other : Way}
    (leads : way.LeadsAsFar other) {place : Place} (arrives : root.follow links way = .ok place) :
    root.follow links other = .ok place := by
  induction links generalizing way other with
  | zero =>
      cases leads with
      | arrived here => exact arrives
      | atLink here target drops => simp [follow] at arrives
      | refused error other => simp [follow] at arrives
  | succ links hypothesis =>
      cases leads with
      | arrived here => simpa [follow] using arrives
      | refused error other => simp [follow] at arrives
      | atLink here target drops =>
          -- Both take the names of the target and go on with what is left to each.
          rw [follow] at arrives ⊢
          refine hypothesis ?_ arrives
          unfold turn
          split
          · exact .refused _ _
          · exact leadsAsFar_advance ((DropsDots.refl _).append drops) _

variable {files later : FileTree}

theorem exists_place_of_find {path : String} {entry : FileTree}
    (found : files.find path = .ok entry) :
    ∃ place, files.resolve strictNames path = .ok place ∧ place.entry = entry := by
  unfold find at found
  split at found
  · cases found
  · cases resolved : files.resolve strictNames path with
    | error error => simp [resolved, Functor.map, Except.map] at found
    | ok place => exact ⟨place, rfl, by simpa [resolved, Functor.map, Except.map] using found⟩

/-- What is at a path is what is read there. -/
theorem readText_of_find {path : String} {entry : FileTree}
    (found : files.find path = .ok entry) : files.readText path = entry.text := by
  rcases exists_place_of_find found with ⟨place, resolved, rfl⟩
  have read : files.resolve tidyNames path = .ok place := by
    unfold resolve at resolved ⊢
    split at resolved
    · cases resolved
    split at resolved
    · cases resolved
    · simp only [*, if_false]
      exact follow_of_leadsAsFar files _
        (leadsAsFar_advance (DropsDots.tidyNames path) _) resolved
  simp [readText, read, bind, Except.bind]

theorem advance_ne_refused_nulInPath (place : Place) (names : List String) :
    place.advance names ≠ .refused .nulInPath := by
  induction names generalizing place with
  | nil => simp [Place.advance]
  | cons name rest hypothesis =>
      rw [Place.advance]
      split
      · simp
      · simp
      · simp
      · split
        · exact hypothesis place
        split
        · exact hypothesis place.parent
        split
        · simp
        split
        · simp
        · simp
        · exact hypothesis _

theorem follow_ne_error_nulInPath (root : FileTree) (links : Nat) {way : Way}
    (goesOn : way ≠ .refused .nulInPath) : root.follow links way ≠ .error .nulInPath := by
  induction links generalizing way with
  | zero => cases way <;> simp_all [follow]
  | succ links hypothesis =>
      cases way with
      | arrived place => simp [follow]
      | refused error => simpa [follow] using goesOn
      | atLink place target rest =>
          rw [follow]
          apply hypothesis
          unfold turn
          split
          · simp
          · exact advance_ne_refused_nulInPath _ _

/-- Only a path with the character zero is refused for it. -/
theorem contains_of_readText_eq_nulInPath {path : String}
    (refused : files.readText path = .error .nulInPath) : path.toList.contains '\x00' = true := by
  by_contra without
  unfold readText resolve at refused
  rw [if_neg without] at refused
  split at refused
  · cases refused
  · rename_i short
    have goesOn := advance_ne_refused_nulInPath
      ⟨if isAbsolute path then files else directory [], []⟩ (tidyNames path)
    cases followed : files.follow linkLimit
        (Place.advance ⟨if isAbsolute path then files else directory [], []⟩ (tidyNames path)) with
    | error error =>
        rw [followed] at refused
        cases refused
        exact follow_ne_error_nulInPath files linkLimit goesOn followed
    | ok place =>
        rw [followed] at refused
        change place.entry.text = _ at refused
        cases entry : place.entry with
        | file content =>
            simp only [entry, text] at refused
            split at refused <;> cases refused
        | _ => simp [entry, text] at refused

/-- What can be read has a path that is short enough. -/
theorem utf8ByteSize_le_of_readText {path text : String} (read : files.readText path = .ok text) :
    path.utf8ByteSize ≤ pathLimit := by
  unfold readText resolve at read
  split at read
  · cases read
  split at read
  · cases read
  · omega

/-- What is found has a path without the character zero. -/
theorem contains_eq_false_of_find {path : String} {entry : FileTree}
    (found : files.find path = .ok entry) : path.toList.contains '\x00' = false := by
  rcases exists_place_of_find found with ⟨place, resolved, -⟩
  unfold resolve at resolved
  split at resolved
  · cases resolved
  · rename_i without
    exact Bool.eq_false_iff.mpr without

/-- Two trees are the same but for the order in which directories list their entries. No directory
lists a name twice. -/
inductive Relisted : FileTree → FileTree → Prop
  | file (content : List UInt8) : Relisted (.file content) (.file content)
  | lockedFile : Relisted .lockedFile .lockedFile
  | link (target : String) : Relisted (.link target) (.link target)
  | directory {pairs : List (String × FileTree × FileTree)} {listed : List (String × FileTree)}
      (distinct : (pairs.map Prod.fst).Nodup)
      (each : ∀ pair ∈ pairs, Relisted pair.2.1 pair.2.2)
      (order : (pairs.map fun pair => (pair.1, pair.2.2)).Perm listed) :
      Relisted (.directory (pairs.map fun pair => (pair.1, pair.2.1))) (.directory listed)

/-- Where no name occurs twice, looking up is being listed. -/
theorem lookup_eq_some_iff_mem {α : Type} {items : List (String × α)}
    (distinct : (items.map Prod.fst).Nodup) {name : String} {value : α} :
    items.lookup name = some value ↔ (name, value) ∈ items := by
  induction items with
  | nil => simp
  | cons item rest hypothesis =>
      rcases item with ⟨first, firstValue⟩
      rcases List.nodup_cons.mp distinct with ⟨notMem, distinctRest⟩
      rw [List.lookup_cons, List.mem_cons]
      by_cases here : name = first
      · subst here
        have notInRest : (name, value) ∉ rest :=
          fun member => notMem (List.mem_map.mpr ⟨_, member, rfl⟩)
        simp [notInRest, eq_comm]
      · simp [here, beq_false_of_ne here, hypothesis distinctRest]

namespace Relisted

/-- The same name leads to the same entry, but for the order of what is below it. -/
theorem lookup {pairs : List (String × FileTree × FileTree)} {listed : List (String × FileTree)}
    (distinct : (pairs.map Prod.fst).Nodup)
    (each : ∀ pair ∈ pairs, Relisted pair.2.1 pair.2.2)
    (order : (pairs.map fun pair => (pair.1, pair.2.2)).Perm listed) (name : String) :
    Option.Rel Relisted ((pairs.map fun pair => (pair.1, pair.2.1)).lookup name)
      (listed.lookup name) := by
  have firstDistinct : ((pairs.map fun pair => (pair.1, pair.2.1)).map Prod.fst).Nodup := by
    rw [List.map_map]
    exact distinct
  have listedDistinct : (listed.map Prod.fst).Nodup := by
    rw [← (order.map Prod.fst).nodup_iff, List.map_map]
    exact distinct
  cases found : (pairs.map fun pair => (pair.1, pair.2.1)).lookup name with
  | some entry =>
      have member := (lookup_eq_some_iff_mem firstDistinct).mp found
      rcases List.mem_map.mp member with ⟨⟨known, _, other⟩, pairMem, ⟨⟩⟩
      have otherFound : listed.lookup known = some other :=
        (lookup_eq_some_iff_mem listedDistinct).mpr
          (order.mem_iff.mp (List.mem_map.mpr ⟨_, pairMem, rfl⟩))
      rw [otherFound]
      exact .some (each _ pairMem)
  | none =>
      have notFound : listed.lookup name = none := by
        rw [List.lookup_eq_none_iff] at found ⊢
        intro item member
        rcases List.mem_map.mp (order.mem_iff.mpr member) with ⟨pair, pairMem, rfl⟩
        exact found (pair.1, pair.2.1) (List.mem_map.mpr ⟨pair, pairMem, rfl⟩)
      rw [notFound]
      exact .none

end Relisted

/-- Two places are the same but for the order in which directories list their entries. -/
structure Place.Relisted (first second : Place) : Prop where
  entry : first.entry.Relisted second.entry
  above : List.Forall₂ (fun outer other => outer.1 = other.1 ∧ outer.2.Relisted other.2)
    first.above second.above

/-- Two ways lead to the same, but for the order in which directories list their entries. -/
inductive Way.Relisted : Way → Way → Prop
  | arrived {place other : Place} (same : place.Relisted other) :
      Relisted (.arrived place) (.arrived other)
  | atLink {place other : Place} (same : place.Relisted other) (target : String)
      (rest : List String) : Relisted (.atLink place target rest) (.atLink other target rest)
  | refused (error : FileError) : Relisted (.refused error) (.refused error)

/-- Two results are the same error, or values that are the same in a sense. -/
inductive SameResult {α : Type} (same : α → α → Prop) :
    Except FileError α → Except FileError α → Prop
  | error (error : FileError) : SameResult same (.error error) (.error error)
  | ok {first second : α} (isSame : same first second) : SameResult same (.ok first) (.ok second)

namespace Relisted

theorem parent {place other : Place} (same : place.Relisted other) :
    place.parent.Relisted other.parent := by
  rcases place with ⟨entry, above⟩
  rcases other with ⟨otherEntry, otherAbove⟩
  rcases same with ⟨sameEntry, sameAbove⟩
  cases sameAbove with
  | nil => exact ⟨sameEntry, .nil⟩
  | cons outer rest => exact ⟨outer.2, rest⟩

theorem advance (names : List String) {place other : Place} (same : place.Relisted other) :
    (place.advance names).Relisted (other.advance names) := by
  induction names generalizing place other with
  | nil => exact .arrived same
  | cons name rest hypothesis =>
      rcases place with ⟨entry, above⟩
      rcases other with ⟨otherEntry, otherAbove⟩
      have sameAbove := same.above
      rw [Place.advance, Place.advance]
      cases same.entry with
      | file content => exact .refused _
      | lockedFile => exact .refused _
      | link target => exact .refused _
      | @directory pairs listed distinct each order =>
          dsimp only
          split
          · exact hypothesis same
          split
          · exact hypothesis (parent same)
          split
          · exact .refused _
          · have sameFound := lookup distinct each order name
            generalize (pairs.map fun pair => (pair.1, pair.2.1)).lookup name = found at sameFound ⊢
            generalize listed.lookup name = otherFound at sameFound ⊢
            cases sameFound with
            | none => exact .refused _
            | some sameBelow =>
                cases sameBelow with
                | link target => exact .atLink same target rest
                | file content =>
                    exact hypothesis ⟨.file content, .cons ⟨rfl, same.entry⟩ sameAbove⟩
                | lockedFile => exact hypothesis ⟨.lockedFile, .cons ⟨rfl, same.entry⟩ sameAbove⟩
                | directory distinctBelow eachBelow orderBelow =>
                    exact hypothesis ⟨.directory distinctBelow eachBelow orderBelow,
                      .cons ⟨rfl, same.entry⟩ sameAbove⟩

theorem turn (relisted : files.Relisted later) {place other : Place} (same : place.Relisted other)
    (target : String) (rest : List String) :
    (files.turn place target rest).Relisted (later.turn other target rest) := by
  unfold FileTree.turn
  split
  · exact .refused _
  · apply advance
    split
    · exact ⟨relisted, .nil⟩
    · exact same

theorem follow (relisted : files.Relisted later) (links : Nat) {way other : Way}
    (same : way.Relisted other) :
    SameResult Place.Relisted (files.follow links way) (later.follow links other) := by
  induction links generalizing way other with
  | zero =>
      cases same with
      | arrived samePlace => exact .ok samePlace
      | atLink samePlace target rest => exact .error _
      | refused error => exact .error _
  | succ links hypothesis =>
      cases same with
      | arrived samePlace => exact .ok samePlace
      | refused error => exact .error _
      | atLink samePlace target rest => exact hypothesis (relisted.turn samePlace target rest)

theorem resolve (relisted : files.Relisted later) (names : String → List String) (path : String) :
    SameResult Place.Relisted (files.resolve names path) (later.resolve names path) := by
  have nothing : (FileTree.directory []).Relisted (.directory []) :=
    @Relisted.directory [] [] .nil (by simp) .nil
  unfold FileTree.resolve
  split
  · exact .error _
  split
  · exact .error _
  · apply relisted.follow
    apply advance
    split
    · exact ⟨relisted, .nil⟩
    · exact ⟨nothing, .nil⟩

/-- The same entry is at each path, but for the order of what is below it. -/
theorem find (relisted : files.Relisted later) (path : String) :
    SameResult Relisted (files.find path) (later.find path) := by
  have same := relisted.resolve strictNames path
  unfold FileTree.find
  split
  · exact .error _
  · generalize files.resolve strictNames path = first at same ⊢
    generalize later.resolve strictNames path = second at same ⊢
    cases same with
    | error error => exact .error _
    | ok samePlace => exact .ok samePlace.entry

theorem text (relisted : files.Relisted later) : files.text = later.text := by
  cases relisted <;> rfl

/-- The same text is read at each path. -/
theorem readText (relisted : files.Relisted later) (path : String) :
    files.readText path = later.readText path := by
  have same := relisted.resolve tidyNames path
  unfold FileTree.readText
  generalize files.resolve tidyNames path = first at same ⊢
  generalize later.resolve tidyNames path = second at same ⊢
  cases same with
  | error error => rfl
  | ok samePlace => exact samePlace.entry.text

end Relisted

end RailsNavigator.FileTree
