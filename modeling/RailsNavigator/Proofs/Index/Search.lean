import Mathlib.Data.List.Basic
import Mathlib.Logic.Relation
import RailsNavigator.Index.Ancestors

/-!
# The search for ancestors

`AncestorGraph.visit` goes at most a given number of names deep. `Search` is the search without that
bound: a name that was met before is passed over, and any other name gets its place after all that
the names before it lead to. If only finitely many names lead anywhere, then the bounded search is a
whole search as soon as the bound is beyond the number of these names that have not been met.

A search adds to the order, once each, exactly the names to which a path leads from one of the names
it starts with, where the path touches no name that was met before the search.
-/

namespace RailsNavigator

/-- A path leads from one name to another, and none of its names is to be avoided. -/
def ReachesAvoiding (leads : String → String → Prop) (avoided : List String)
    (first last : String) : Prop :=
  first ∉ avoided ∧
    Relation.ReflTransGen (fun name other => leads name other ∧ other ∉ avoided) first last

namespace ReachesAvoiding

variable {leads : String → String → Prop} {avoided fewer : List String} {first last : String}

theorem refl (fresh : first ∉ avoided) : ReachesAvoiding leads avoided first first :=
  ⟨fresh, .refl⟩

theorem head {next : String} (fresh : first ∉ avoided) (leadsTo : leads first next)
    (reaches : ReachesAvoiding leads avoided next last) :
    ReachesAvoiding leads avoided first last :=
  ⟨fresh, .head ⟨leadsTo, reaches.1⟩ reaches.2⟩

theorem last_notMem (reaches : ReachesAvoiding leads avoided first last) : last ∉ avoided := by
  rcases reaches with ⟨fresh, path⟩
  cases path with
  | refl => exact fresh
  | tail _ step => exact step.2

theorem mono (reaches : ReachesAvoiding leads avoided first last) (subset : fewer ⊆ avoided) :
    ReachesAvoiding leads fewer first last := by
  refine ⟨fun member => reaches.1 (subset member), ?_⟩
  apply Relation.ReflTransGen.mono _ first last reaches.2
  intro name other step
  exact ⟨step.1, fun member => step.2 (subset member)⟩

end ReachesAvoiding

theorem reachesAvoiding_congr {leads : String → String → Prop} {avoided others : List String}
    (same : ∀ name, name ∈ avoided ↔ name ∈ others) (first last : String) :
    ReachesAvoiding leads avoided first last ↔ ReachesAvoiding leads others first last := by
  constructor
  · intro reaches
    exact reaches.mono fun name member => (same name).mpr member
  · intro reaches
    exact reaches.mono fun name member => (same name).mp member

theorem reachesAvoiding_nil_iff {leads : String → String → Prop} {first last : String} :
    ReachesAvoiding leads [] first last ↔ Relation.ReflTransGen leads first last := by
  simp [ReachesAvoiding]

namespace AncestorGraph

variable {graph : AncestorGraph} {lineage final : Lineage} {name : String} {names : List String}

/-- One name leads to another directly. -/
def Leads (graph : AncestorGraph) (name other : String) : Prop :=
  other ∈ graph.before name ∨ other ∈ graph.after name

/-- The search for all that some names lead to, from one lineage to another. -/
inductive Search (graph : AncestorGraph) : Lineage → List String → Lineage → Prop where
  | nil (lineage : Lineage) : Search graph lineage [] lineage
  | met {lineage final : Lineage} {name : String} {rest : List String}
      (seen : name ∈ lineage.seen) (searchRest : Search graph lineage rest final) :
      Search graph lineage (name :: rest) final
  | placed {lineage above below final : Lineage} {name : String} {rest : List String}
      (fresh : name ∉ lineage.seen)
      (searchBefore :
        Search graph { lineage with seen := name :: lineage.seen } (graph.before name) above)
      (searchAfter :
        Search graph { above with order := above.order ++ [name] } (graph.after name) below)
      (searchRest : Search graph below rest final) :
      Search graph lineage (name :: rest) final

namespace Search

theorem subset (search : graph.Search lineage names final) : lineage.seen ⊆ final.seen := by
  induction search with
  | nil => exact List.Subset.refl _
  | met _ _ ih => exact ih
  | placed _ _ _ _ ihBefore ihAfter ihRest =>
      intro other member
      exact ihRest (ihAfter (ihBefore (List.mem_cons_of_mem _ member)))

theorem append {earlier later : List String}
    (search : graph.Search lineage (earlier ++ later) final) :
    ∃ between, graph.Search lineage earlier between ∧ graph.Search between later final := by
  generalize splits : earlier ++ later = names at search
  induction search generalizing earlier with
  | nil =>
      simp only [List.append_eq_nil_iff] at splits
      rcases splits with ⟨rfl, rfl⟩
      exact ⟨_, .nil _, .nil _⟩
  | @met lineage final name rest seen searchRest ih =>
      cases earlier with
      | nil =>
          subst splits
          exact ⟨_, .nil _, .met seen searchRest⟩
      | cons first others =>
          simp only [List.cons_append, List.cons.injEq] at splits
          rcases splits with ⟨rfl, splits⟩
          rcases ih splits with ⟨between, searchOthers, searchLater⟩
          exact ⟨between, .met seen searchOthers, searchLater⟩
  | @placed lineage above below final name rest fresh searchBefore searchAfter searchRest _ _ ih =>
      cases earlier with
      | nil =>
          subst splits
          exact ⟨_, .nil _, .placed fresh searchBefore searchAfter searchRest⟩
      | cons first others =>
          simp only [List.cons_append, List.cons.injEq] at splits
          rcases splits with ⟨rfl, splits⟩
          rcases ih splits with ⟨between, searchOthers, searchLater⟩
          exact ⟨between, .placed fresh searchBefore searchAfter searchOthers, searchLater⟩

theorem mem_seen (search : graph.Search lineage names final) : names ⊆ final.seen := by
  induction search with
  | nil => exact List.nil_subset _
  | met seen searchRest ih => exact List.cons_subset.mpr ⟨searchRest.subset seen, ih⟩
  | placed _ searchBefore searchAfter searchRest _ _ ihRest =>
      refine List.cons_subset.mpr ⟨?_, ihRest⟩
      apply searchRest.subset
      apply searchAfter.subset
      apply searchBefore.subset
      simp

/-- What a newly met name leads to has been met when the search is over. -/
theorem closed (search : graph.Search lineage names final) {first next : String}
    (member : first ∈ final.seen) (fresh : first ∉ lineage.seen) (leadsTo : graph.Leads first next) :
    next ∈ final.seen := by
  induction search with
  | nil => exact absurd member fresh
  | met _ _ ih => exact ih member fresh
  | @placed lineage above below final name rest _ searchBefore searchAfter searchRest ihBefore
      ihAfter ihRest =>
      by_cases inBelow : first ∈ below.seen
      · apply searchRest.subset
        by_cases inAbove : first ∈ above.seen
        · by_cases isName : first = name
          · subst isName
            rcases leadsTo with before | after
            · exact searchAfter.subset (searchBefore.mem_seen before)
            · exact searchAfter.mem_seen after
          · apply searchAfter.subset
            exact ihBefore inAbove (by simp [isName, fresh])
        · exact ihAfter inBelow inAbove
      · exact ihRest member inBelow

/-- A name that is met in the search is on a path from one of the names it starts with. -/
theorem reached (search : graph.Search lineage names final) {last : String}
    (member : last ∈ final.seen) :
    last ∈ lineage.seen ∨ ∃ first ∈ names, ReachesAvoiding graph.Leads lineage.seen first last := by
  induction search with
  | nil => exact Or.inl member
  | met _ _ ih =>
      rcases ih member with old | ⟨first, firstMem, reaches⟩
      · exact Or.inl old
      · exact Or.inr ⟨first, List.mem_cons_of_mem _ firstMem, reaches⟩
  | @placed lineage above below final name rest fresh searchBefore searchAfter searchRest ihBefore
      ihAfter ihRest =>
      have toAbove : lineage.seen ⊆ above.seen :=
        fun other old => searchBefore.subset (List.mem_cons_of_mem _ old)
      have toBelow : lineage.seen ⊆ below.seen := fun other old => searchAfter.subset (toAbove old)
      rcases ihRest member with inBelow | ⟨first, firstMem, reaches⟩
      · rcases ihAfter inBelow with inAbove | ⟨first, firstMem, reaches⟩
        · rcases ihBefore inAbove with old | ⟨first, firstMem, reaches⟩
          · rcases List.mem_cons.mp old with rfl | old
            · exact Or.inr ⟨last, by simp, .refl fresh⟩
            · exact Or.inl old
          · right
            refine ⟨name, by simp, .head fresh (Or.inl firstMem) ?_⟩
            exact reaches.mono (List.subset_cons_self _ _)
        · right
          exact ⟨name, by simp, .head fresh (Or.inr firstMem) (reaches.mono toAbove)⟩
      · right
        exact ⟨first, List.mem_cons_of_mem _ firstMem, reaches.mono toBelow⟩

theorem mem_seen_of_reaches (search : graph.Search lineage names final) {first last : String}
    (firstMem : first ∈ names) (reaches : ReachesAvoiding graph.Leads lineage.seen first last) :
    last ∈ final.seen := by
  rcases reaches with ⟨fresh, path⟩
  -- All names of the path are new, so the search has gone on from each of them.
  have onPath : last ∈ final.seen ∧ last ∉ lineage.seen := by
    induction path with
    | refl => exact ⟨search.mem_seen firstMem, fresh⟩
    | tail _ step ih => exact ⟨search.closed ih.1 ih.2 step.1, step.2⟩
  exact onPath.1

theorem mem_seen_iff (search : graph.Search lineage names final) (last : String) :
    last ∈ final.seen ↔
      last ∈ lineage.seen ∨
        ∃ first ∈ names, ReachesAvoiding graph.Leads lineage.seen first last := by
  constructor
  · exact search.reached
  · rintro (old | ⟨first, firstMem, reaches⟩)
    · exact search.subset old
    · exact search.mem_seen_of_reaches firstMem reaches

/-- The names that are met in a search are added to the order, each once. -/
theorem exists_new (search : graph.Search lineage names final) :
    ∃ added, final.order = lineage.order ++ added ∧ added.Nodup ∧
      ∀ name, name ∈ added ↔ name ∈ final.seen ∧ name ∉ lineage.seen := by
  induction search with
  | nil => exact ⟨[], by simp⟩
  | met _ _ ih => exact ih
  | @placed lineage above below final name rest fresh searchBefore searchAfter searchRest ihBefore
      ihAfter ihRest =>
      rcases ihBefore with ⟨inAbove, aboveEq, aboveNodup, mem_inAbove⟩
      rcases ihAfter with ⟨inBelow, belowEq, belowNodup, mem_inBelow⟩
      rcases ihRest with ⟨inRest, restEq, restNodup, mem_inRest⟩
      have aboveSubset := searchBefore.subset
      have belowSubset := searchAfter.subset
      have restSubset := searchRest.subset
      simp only [List.cons_subset] at aboveSubset
      refine ⟨inAbove ++ name :: (inBelow ++ inRest), ?_, ?_, ?_⟩
      · simp [restEq, belowEq, aboveEq]
      · simp only [List.nodup_append, List.nodup_cons, List.mem_append, List.mem_cons]
        grind
      · intro other
        simp only [List.mem_append, List.mem_cons]
        grind

/-- What a search adds to the order. -/
theorem exists_added (search : graph.Search lineage names final) :
    ∃ added, final.order = lineage.order ++ added ∧ added.Nodup ∧
      (∀ last, last ∈ added ↔
        ∃ first ∈ names, ReachesAvoiding graph.Leads lineage.seen first last) ∧
      ∀ name, name ∈ final.seen ↔ name ∈ lineage.seen ∨ name ∈ added := by
  rcases search.exists_new with ⟨added, orderEq, nodup, mem_added⟩
  refine ⟨added, orderEq, nodup, ?_, ?_⟩
  · intro last
    rw [mem_added, search.mem_seen_iff]
    constructor
    · rintro ⟨old | reached, fresh⟩
      · exact absurd old fresh
      · exact reached
    · intro reached
      rcases reached with ⟨first, firstMem, reaches⟩
      exact ⟨Or.inr ⟨first, firstMem, reaches⟩, reaches.last_notMem⟩
  · intro name
    rw [mem_added]
    constructor
    · intro member
      by_cases old : name ∈ lineage.seen
      · exact Or.inl old
      · exact Or.inr ⟨member, old⟩
    · rintro (old | new)
      · exact search.subset old
      · exact new.1

end Search

section Bound

variable {domain : List String}

theorem visit_of_seen (depth : Nat) (seen : name ∈ lineage.seen) :
    graph.visit (depth + 1) lineage name = lineage := by
  simp [visit, seen]

theorem visit_of_fresh (depth : Nat) (fresh : name ∉ lineage.seen) :
    graph.visit (depth + 1) lineage name
      = (graph.after name).foldl (graph.visit depth)
          { (graph.before name).foldl (graph.visit depth)
              { lineage with seen := name :: lineage.seen } with
            order := ((graph.before name).foldl (graph.visit depth)
              { lineage with seen := name :: lineage.seen }).order ++ [name] } := by
  simp [visit, fresh]

/-- The number of names of a list that have not been met. -/
def unseen (domain seen : List String) : Nat :=
  (domain.filter fun name => name ∉ seen).length

theorem unseen_le (domain : List String) {seen later : List String} (subset : seen ⊆ later) :
    unseen domain later ≤ unseen domain seen := by
  apply List.Sublist.length_le
  apply List.monotone_filter_right
  intro name notLater
  simp only [decide_eq_true_eq] at notLater ⊢
  exact fun old => notLater (subset old)

theorem unseen_lt {seen : List String} (member : name ∈ domain) (fresh : name ∉ seen) :
    unseen domain (name :: seen) < unseen domain seen := by
  have fewer : (domain.filter fun other => other ∉ name :: seen)
      = (domain.filter fun other => other ∉ seen).filter (· ≠ name) := by
    rw [List.filter_filter]
    apply List.filter_congr
    intro other _
    simp
  unfold unseen
  rw [fewer, List.length_filter_lt_length_iff_exists]
  exact ⟨name, by simp [member, fresh], by simp⟩

/-- With a bound beyond the number of names that lead on and have not been met, the bounded search
comes to its end. -/
theorem search_foldl_visit
    (outside : ∀ name ∉ domain, graph.before name = [] ∧ graph.after name = []) (depth : Nat)
    (lineage : Lineage) (names : List String) (enough : unseen domain lineage.seen < depth) :
    graph.Search lineage names (names.foldl (graph.visit depth) lineage) := by
  induction depth generalizing lineage names with
  | zero => omega
  | succ depth ih =>
      induction names generalizing lineage with
      | nil => exact .nil lineage
      | cons name rest ihRest =>
          rw [List.foldl_cons]
          by_cases seen : name ∈ lineage.seen
          · rw [visit_of_seen depth seen]
            exact .met seen (ihRest lineage enough)
          · rw [visit_of_fresh depth seen]
            by_cases inDomain : name ∈ domain
            · have fewer := unseen_lt inDomain seen
              have searchBefore := ih { lineage with seen := name :: lineage.seen }
                (graph.before name) (by simp only; omega)
              have fewerAbove := unseen_le domain searchBefore.subset
              generalize (graph.before name).foldl (graph.visit depth)
                { lineage with seen := name :: lineage.seen } = above at searchBefore fewerAbove ⊢
              have searchAfter := ih { above with order := above.order ++ [name] }
                (graph.after name) (by simp only at fewerAbove ⊢; omega)
              have fewerBelow := unseen_le domain searchAfter.subset
              apply Search.placed seen searchBefore searchAfter
              apply ihRest
              simp only at fewerAbove fewerBelow
              omega
            · rcases outside name inDomain with ⟨noneBefore, noneAfter⟩
              simp only [noneBefore, noneAfter, List.foldl_nil]
              have searchBefore : graph.Search { lineage with seen := name :: lineage.seen }
                  (graph.before name) { lineage with seen := name :: lineage.seen } := by
                rw [noneBefore]
                exact .nil _
              have searchAfter : graph.Search ⟨name :: lineage.seen, lineage.order ++ [name]⟩
                  (graph.after name) ⟨name :: lineage.seen, lineage.order ++ [name]⟩ := by
                rw [noneAfter]
                exact .nil _
              have fewer := unseen_le domain (List.subset_cons_self name lineage.seen)
              exact .placed seen searchBefore searchAfter (ihRest _ (by simp only; omega))

end Bound

end AncestorGraph

end RailsNavigator
