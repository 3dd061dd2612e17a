import Mathlib.Data.List.TakeWhile
import Mathlib.Order.WellFoundedSet
import RailsNavigator.Proofs.Index.Search

/-!
# Paths written out

Where no name leads to itself, all paths from a name can be written out: `Unfolds` lists a name
between what comes before it and what comes after it, as often as paths lead to it. A search keeps
of this list the first place of every name. When it meets a name again, the name is not on the way
to itself, so that all it leads to has got a place already.

In the written-out list whatever comes before a name stands before it everywhere. What comes after a
name need not follow it, since another path may have come there earlier.
-/

namespace RailsNavigator

/-- What a list has that is not known yet, each item at its first place. -/
def firstPlaces (known items : List String) : List String :=
  (items.removeAll known).eraseDups

section FirstPlaces

variable {known items : List String} {name other : String}

@[simp]
theorem mem_firstPlaces : name ∈ firstPlaces known items ↔ name ∈ items ∧ name ∉ known := by
  simp [firstPlaces, List.removeAll]

theorem firstPlaces_nil (items : List String) : firstPlaces [] items = items.eraseDups := by
  simp [firstPlaces, List.removeAll]

theorem firstPlaces_of_subset (subset : items ⊆ known) : firstPlaces known items = [] := by
  apply List.eq_nil_iff_forall_not_mem.mpr
  intro name member
  rw [mem_firstPlaces] at member
  exact member.2 (subset member.1)

theorem firstPlaces_singleton (fresh : name ∉ known) : firstPlaces known [name] = [name] := by
  simp [firstPlaces, List.removeAll, fresh, List.eraseDups_cons]

theorem firstPlaces_append (known items later : List String) :
    firstPlaces known (items ++ later)
      = firstPlaces known items ++ firstPlaces (known ++ firstPlaces known items) later := by
  have split : (items ++ later).removeAll known = items.removeAll known ++ later.removeAll known :=
    List.filter_append ..
  have rest : (later.removeAll known).removeAll (items.removeAll known)
      = later.removeAll (known ++ firstPlaces known items) := by
    simp only [List.removeAll, List.filter_filter]
    apply List.filter_congr
    intro name _
    rw [Bool.eq_iff_iff]
    simp
    tauto
  rw [firstPlaces, split, List.eraseDups_append, rest]
  rfl

theorem mem_takeWhile_append (items later : List String) :
    name ∈ (items ++ later).takeWhile (· != other) ↔
      name ∈ items.takeWhile (· != other) ∨
        other ∉ items ∧ name ∈ later.takeWhile (· != other) := by
  induction items with
  | nil => simp
  | cons first rest ih =>
      by_cases isOther : first = other
      · simp [isOther]
      · simp [isOther, ih, Ne.symm isOther, or_assoc]

theorem takeWhile_append_cons {earlier : List String} (first : other ∉ earlier)
    (later : List String) : (earlier ++ other :: later).takeWhile (· != other) = earlier := by
  rw [List.takeWhile_append_of_pos]
  · simp
  · intro item itemMem
    exact bne_iff_ne.mpr fun isOther => first (isOther ▸ itemMem)

/-- Of two items the one has its first place after the other exactly if it never stands before the
first place of the other. -/
theorem pair_sublist_eraseDups_iff (nameMem : name ∈ items) (otherMem : other ∈ items)
    (different : name ≠ other) :
    [other, name].Sublist items.eraseDups ↔ name ∉ items.takeWhile (· != other) := by
  rcases List.eq_append_cons_of_mem otherMem with ⟨earlier, later, rfl, first⟩
  have split : earlier ++ other :: later = earlier ++ ([other] ++ later) := rfl
  rw [takeWhile_append_cons first, ← firstPlaces_nil, split, firstPlaces_append]
  constructor
  · intro follows inEarlier
    rcases List.sublist_append_iff.mp follows with ⟨ofEarlier, ofLater, parts, inFirst, inSecond⟩
    cases ofEarlier with
    | nil =>
        simp only [List.nil_append] at parts
        subst parts
        have member := inSecond.subset (List.mem_cons_of_mem other (List.mem_singleton_self name))
        simp [inEarlier] at member
    | cons head tail =>
        simp only [List.cons_append, List.cons.injEq] at parts
        rcases parts with ⟨rfl, -⟩
        have member := inFirst.subset (List.mem_cons_self ..)
        simp [first] at member
  · intro notEarlier
    have inLater : name ∈ later := by simpa [notEarlier, different] using nameMem
    apply List.Sublist.trans _ (List.sublist_append_right _ _)
    rw [firstPlaces_append, firstPlaces_singleton (by simp [first])]
    apply List.Sublist.append (List.Sublist.refl [other])
    rw [List.singleton_sublist, mem_firstPlaces]
    exact ⟨inLater, by simp [notEarlier, different]⟩

end FirstPlaces

namespace AncestorGraph

variable {graph : AncestorGraph} {lineage final : Lineage} {names whole : List String}
  {name other : String}

/-- No name leads to itself. -/
def IsAcyclic (graph : AncestorGraph) : Prop :=
  ∀ name, ¬Relation.TransGen graph.Leads name name

/-- All paths from some names, written out: each name stands after what comes before it and before
what comes after it, every time a path leads to it. -/
inductive Unfolds (graph : AncestorGraph) : List String → List String → Prop where
  | nil : Unfolds graph [] []
  | cons {name : String} {rest above below more : List String}
      (unfoldsBefore : Unfolds graph (graph.before name) above)
      (unfoldsAfter : Unfolds graph (graph.after name) below)
      (unfoldsRest : Unfolds graph rest more) :
      Unfolds graph (name :: rest) (above ++ name :: (below ++ more))

namespace Unfolds

theorem subset (unfolds : graph.Unfolds names whole) : names ⊆ whole := by
  induction unfolds with
  | nil => exact List.nil_subset _
  | cons _ _ _ _ _ ihRest =>
      apply List.cons_subset.mpr
      constructor
      · simp
      · intro other member
        simp [ihRest member]

theorem reaches (unfolds : graph.Unfolds names whole) (member : other ∈ whole) :
    ∃ name ∈ names, Relation.ReflTransGen graph.Leads name other := by
  induction unfolds with
  | nil => cases member
  | @cons name rest above below more _ _ _ ihBefore ihAfter ihRest =>
      simp only [List.mem_append, List.mem_cons] at member
      rcases member with inAbove | rfl | inBelow | inMore
      · rcases ihBefore inAbove with ⟨first, firstMem, path⟩
        exact ⟨name, by simp, .head (Or.inl firstMem) path⟩
      · exact ⟨other, by simp, .refl⟩
      · rcases ihAfter inBelow with ⟨first, firstMem, path⟩
        exact ⟨name, by simp, .head (Or.inr firstMem) path⟩
      · rcases ihRest inMore with ⟨first, firstMem, path⟩
        exact ⟨first, List.mem_cons_of_mem _ firstMem, path⟩

/-- A name never stands before what comes before it. -/
theorem notMem_takeWhile_of_mem_before (unfolds : graph.Unfolds names whole)
    (comesBefore : other ∈ graph.before name) : name ∉ whole.takeWhile (· != other) := by
  induction unfolds with
  | nil => simp
  | @cons first rest above below more unfoldsBefore _ _ ihBefore ihAfter ihRest =>
      intro member
      rw [mem_takeWhile_append] at member
      rcases member with inAbove | ⟨notAbove, inOthers⟩
      · exact ihBefore inAbove
      · have notFirst : name ≠ first := by
          rintro rfl
          exact notAbove (unfoldsBefore.subset comesBefore)
        rw [← List.singleton_append, mem_takeWhile_append, mem_takeWhile_append] at inOthers
        rcases inOthers with isFirst | ⟨-, inBelow | ⟨-, inMore⟩⟩
        · have member := (List.takeWhile_sublist _).subset isFirst
          exact notFirst (List.mem_singleton.mp member)
        · exact ihAfter inBelow
        · exact ihRest inMore

/-- A name to which only one other leads, and only as coming after it, never stands before that. -/
theorem notMem_takeWhile_of_only (unfolds : graph.Unfolds names whole)
    (notBefore : other ∉ graph.before name)
    (only : ∀ upper ∈ whole, graph.Leads upper other → upper = name) (notFirst : other ∉ names) :
    other ∉ whole.takeWhile (· != name) := by
  induction unfolds with
  | nil => simp
  | @cons first rest above below more _ _ _ ihBefore ihAfter ihRest =>
      simp only [List.mem_append, List.mem_cons] at only
      simp only [List.mem_cons, not_or] at notFirst
      -- The name itself is the only one under which the other could stand.
      have ofFirst := only first (by simp)
      intro member
      rw [mem_takeWhile_append] at member
      rcases member with inAbove | ⟨-, inOthers⟩
      · refine ihBefore (fun upper upperMem => only upper (by simp [upperMem])) ?_ inAbove
        intro comesBefore
        have isName := ofFirst (Or.inl comesBefore)
        subst isName
        exact notBefore comesBefore
      · by_cases isName : first = name
        · simp [isName] at inOthers
        · rw [← List.singleton_append, mem_takeWhile_append, mem_takeWhile_append] at inOthers
          rcases inOthers with isFirst | ⟨-, inBelow | ⟨-, inMore⟩⟩
          · have member := (List.takeWhile_sublist _).subset isFirst
            exact notFirst.1 (List.mem_singleton.mp member)
          · refine ihAfter (fun upper upperMem => only upper (by simp [upperMem])) ?_ inBelow
            intro comesAfter
            exact isName (ofFirst (Or.inr comesAfter))
          · exact ihRest (fun upper upperMem => only upper (by simp [upperMem])) notFirst.2 inMore

end Unfolds

theorem exists_unfolds_of_each
    (each : ∀ name ∈ names, ∃ above below,
      graph.Unfolds (graph.before name) above ∧ graph.Unfolds (graph.after name) below) :
    ∃ whole, graph.Unfolds names whole := by
  induction names with
  | nil => exact ⟨[], .nil⟩
  | cons name rest ih =>
      simp only [List.forall_mem_cons] at each
      rcases each.1 with ⟨above, below, unfoldsBefore, unfoldsAfter⟩
      rcases ih each.2 with ⟨more, unfoldsRest⟩
      exact ⟨_, .cons unfoldsBefore unfoldsAfter unfoldsRest⟩

/-- If finitely many names lead anywhere, and none to itself, then paths have an end. -/
theorem IsAcyclic.exists_unfolds (acyclic : graph.IsAcyclic) {domain : List String}
    (outside : ∀ name ∉ domain, graph.before name = [] ∧ graph.after name = [])
    (names : List String) : ∃ whole, graph.Unfolds names whole := by
  have strict : IsStrictOrder String fun lower upper => Relation.TransGen graph.Leads upper lower :=
    { irrefl := acyclic, trans := fun _ _ _ lower upper => upper.trans lower }
  have wellFounded := (List.finite_toSet domain).wellFoundedOn
    (r := fun lower upper => Relation.TransGen graph.Leads upper lower)
  have ofOutside : ∀ name ∉ domain, ∃ above below,
      graph.Unfolds (graph.before name) above ∧ graph.Unfolds (graph.after name) below := by
    intro name notMem
    rcases outside name notMem with ⟨noneBefore, noneAfter⟩
    rw [noneBefore, noneAfter]
    exact ⟨[], [], .nil, .nil⟩
  apply exists_unfolds_of_each
  intro name _
  by_cases member : name ∈ domain
  · refine wellFounded.induction member (P := fun name => ∃ above below,
      graph.Unfolds (graph.before name) above ∧ graph.Unfolds (graph.after name) below) ?_
    intro upper _ ih
    have ofLower : ∀ lower, graph.Leads upper lower → ∃ above below,
        graph.Unfolds (graph.before lower) above ∧ graph.Unfolds (graph.after lower) below := by
      intro lower leadsTo
      by_cases lowerMem : lower ∈ domain
      · exact ih lower lowerMem (.single leadsTo)
      · exact ofOutside lower lowerMem
    rcases exists_unfolds_of_each fun lower lowerMem => ofLower lower (Or.inl lowerMem) with
      ⟨above, unfoldsBefore⟩
    rcases exists_unfolds_of_each fun lower lowerMem => ofLower lower (Or.inr lowerMem) with
      ⟨below, unfoldsAfter⟩
    exact ⟨above, below, unfoldsBefore, unfoldsAfter⟩
  · exact ofOutside name member

/-- All that a name leads to has its place. -/
def Settled (graph : AncestorGraph) (lineage : Lineage) (name : String) : Prop :=
  ∀ other, Relation.ReflTransGen graph.Leads name other → other ∈ lineage.order

/-- Every name that was met is settled, unless the search for some names goes on below it. -/
def SettledOrAbove (graph : AncestorGraph) (lineage : Lineage) (names : List String) : Prop :=
  ∀ name ∈ lineage.seen,
    graph.Settled lineage name ∨ ∀ lower ∈ names, Relation.TransGen graph.Leads name lower

theorem Settled.mono (settled : graph.Settled lineage name)
    (subset : lineage.order ⊆ final.order) : graph.Settled final name :=
  fun other reaches => subset (settled other reaches)

/-- A name that has its place is settled if all that it leads to is. -/
theorem settled_of_leads (placed : name ∈ lineage.order)
    (lowers : ∀ lower, graph.Leads name lower → graph.Settled lineage lower) :
    graph.Settled lineage name := by
  intro other reaches
  rcases reaches.cases_head with rfl | ⟨lower, leadsTo, path⟩
  · exact placed
  · exact lowers lower leadsTo other path

theorem Search.order_subset (search : graph.Search lineage names final) :
    lineage.order ⊆ final.order := by
  rcases search.exists_new with ⟨added, orderEq, -, -⟩
  rw [orderEq]
  exact List.subset_append_left _ _

theorem Search.order_subset_seen (search : graph.Search lineage names final)
    (met : lineage.order ⊆ lineage.seen) : final.order ⊆ final.seen := by
  rcases search.exists_new with ⟨added, orderEq, -, mem_added⟩
  rw [orderEq, List.append_subset]
  constructor
  · exact fun name member => search.subset (met member)
  · exact fun name member => ((mem_added name).mp member).1

namespace SettledOrAbove

variable {rest lowers : List String}

theorem mono (settled : graph.SettledOrAbove lineage names) (subset : lowers ⊆ names) :
    graph.SettledOrAbove lineage lowers := by
  intro upper upperMem
  rcases settled upper upperMem with ofUpper | above
  · exact Or.inl ofUpper
  · exact Or.inr fun lower lowerMem => above lower (subset lowerMem)

theorem of_cons (settled : graph.SettledOrAbove lineage (name :: rest)) :
    graph.SettledOrAbove lineage rest :=
  settled.mono (List.subset_cons_self _ _)

/-- A name that is met again is settled: it is not on the way to itself. -/
theorem settled_of_seen (settled : graph.SettledOrAbove lineage (name :: rest))
    (acyclic : graph.IsAcyclic) (seen : name ∈ lineage.seen) : graph.Settled lineage name := by
  rcases settled name seen with ofName | above
  · exact ofName
  · exact absurd (above name (by simp)) (acyclic name)

/-- Going on below a name, all names above it stay above. -/
theorem enter (settled : graph.SettledOrAbove lineage (name :: rest))
    (leads : ∀ lower ∈ lowers, graph.Leads name lower) :
    graph.SettledOrAbove { lineage with seen := name :: lineage.seen } lowers := by
  intro upper upperMem
  rcases List.mem_cons.mp upperMem with rfl | old
  · exact Or.inr fun lower lowerMem => .single (leads lower lowerMem)
  · rcases settled upper old with ofUpper | above
    · exact Or.inl ofUpper
    · right
      intro lower lowerMem
      exact (above name (by simp)).tail (leads lower lowerMem)

/-- It is enough that the names that were met in the meantime are settled. -/
theorem later (settled : graph.SettledOrAbove lineage names)
    (subset : lineage.order ⊆ final.order)
    (new : ∀ upper ∈ final.seen, upper ∉ lineage.seen → graph.Settled final upper) :
    graph.SettledOrAbove final names := by
  intro upper upperMem
  by_cases old : upper ∈ lineage.seen
  · rcases settled upper old with ofUpper | above
    · exact Or.inl (ofUpper.mono subset)
    · exact Or.inr above
  · exact Or.inl (new upper upperMem old)

/-- When a name gets its place, the search goes on with what comes after it. -/
theorem place {above : Lineage} (settled : graph.SettledOrAbove lineage (name :: rest))
    (subset : lineage.order ⊆ above.order)
    (new : ∀ upper ∈ above.seen, upper ∉ name :: lineage.seen → graph.Settled above upper) :
    graph.SettledOrAbove { above with order := above.order ++ [name] } (graph.after name) := by
  apply (settled.enter fun lower => Or.inr).later
  · exact fun other member => List.mem_append_left _ (subset member)
  · intro upper upperMem fresh
    exact (new upper upperMem fresh).mono (List.subset_append_left _ _)

end SettledOrAbove

/-- The search settles the names that it starts with and all names that it meets. -/
theorem Search.settled (search : graph.Search lineage names final) (acyclic : graph.IsAcyclic)
    (settled : graph.SettledOrAbove lineage names) :
    (∀ name ∈ names, graph.Settled final name) ∧
      ∀ name ∈ final.seen, name ∉ lineage.seen → graph.Settled final name := by
  induction search with
  | nil => exact ⟨by simp, fun name member fresh => absurd member fresh⟩
  | met seen searchRest ih =>
      rcases ih settled.of_cons with ⟨ofRest, ofNew⟩
      have ofName := (settled.settled_of_seen acyclic seen).mono searchRest.order_subset
      exact ⟨List.forall_mem_cons.mpr ⟨ofName, ofRest⟩, ofNew⟩
  | @placed lineage above below final name rest fresh searchBefore searchAfter searchRest ihBefore
      ihAfter ihRest =>
      have toAbove := searchBefore.order_subset
      have toBelow := searchAfter.order_subset
      simp only [List.append_subset, List.cons_subset] at toBelow
      rcases ihBefore (settled.enter fun lower => Or.inl) with ⟨ofBefore, newAbove⟩
      rcases ihAfter (settled.place toAbove newAbove) with ⟨ofAfter, newBelow⟩
      have ofName : graph.Settled below name := by
        apply settled_of_leads toBelow.2.1
        rintro lower (comesBefore | comesAfter)
        · exact (ofBefore lower comesBefore).mono toBelow.1
        · exact ofAfter lower comesAfter
      have ofMet : ∀ upper ∈ below.seen, upper ∉ lineage.seen → graph.Settled below upper := by
        intro upper upperMem new
        by_cases inAbove : upper ∈ above.seen
        · by_cases isName : upper = name
          · exact isName ▸ ofName
          · exact (newAbove upper inAbove (by simp [isName, new])).mono toBelow.1
        · exact newBelow upper upperMem inAbove
      have settledBelow := settled.of_cons.later (fun other member => toBelow.1 (toAbove member))
        ofMet
      rcases ihRest settledBelow with ⟨ofRest, newRest⟩
      have toFinal := searchRest.order_subset
      constructor
      · exact List.forall_mem_cons.mpr ⟨ofName.mono toFinal, ofRest⟩
      · intro upper upperMem new
        by_cases inBelow : upper ∈ below.seen
        · exact (ofMet upper inBelow new).mono toFinal
        · exact newRest upper upperMem inBelow

/-- The search puts the written-out paths in order, every name at its first place. -/
theorem Search.order_eq (search : graph.Search lineage names final) (acyclic : graph.IsAcyclic)
    (settled : graph.SettledOrAbove lineage names) (met : lineage.order ⊆ lineage.seen)
    (unfolds : graph.Unfolds names whole) :
    final.order = lineage.order ++ firstPlaces lineage.order whole := by
  induction search generalizing whole with
  | nil lineage =>
      cases unfolds
      simp [firstPlaces_of_subset]
  | @met lineage final name rest seen _ ih =>
      cases unfolds with
      | @cons _ _ above below more unfoldsBefore unfoldsAfter unfoldsRest =>
          have known : above ++ ([name] ++ below) ⊆ lineage.order := by
            intro other member
            have unfoldsName := Unfolds.cons unfoldsBefore unfoldsAfter .nil
            have written : other ∈ above ++ name :: (below ++ []) := by simpa using member
            rcases unfoldsName.reaches written with ⟨first, firstMem, path⟩
            rw [List.mem_singleton.mp firstMem] at path
            exact settled.settled_of_seen acyclic seen other path
          have split : above ++ name :: (below ++ more) = above ++ ([name] ++ below) ++ more := by
            simp
          rw [split, firstPlaces_append, firstPlaces_of_subset known]
          simpa using ih settled.of_cons met unfoldsRest
  | @placed lineage above below final name rest fresh searchBefore searchAfter searchRest ihBefore
      ihAfter ihRest =>
      cases unfolds with
      | @cons _ _ wholeAbove wholeBelow more unfoldsBefore unfoldsAfter unfoldsRest =>
          have searchName := Search.placed fresh searchBefore searchAfter (.nil below)
          have settledBefore := settled.enter (fun lower => Or.inl)
          have settledPlaced := settled.place searchBefore.order_subset
            (searchBefore.settled acyclic settledBefore).2
          have settledBelow := settled.of_cons.later searchName.order_subset
            (searchName.settled acyclic (settled.mono (by simp))).2
          have metAbove := searchBefore.order_subset_seen (List.subset_cons_of_subset _ met)
          have metPlaced : above.order ++ [name] ⊆ above.seen := by
            intro other member
            rcases List.mem_append.mp member with inAbove | isName
            · exact metAbove inAbove
            · exact searchBefore.subset (List.mem_cons.mpr (Or.inl (List.mem_singleton.mp isName)))
          have metBelow := searchName.order_subset_seen met
          have notAbove : name ∉ wholeAbove := by
            intro member
            rcases unfoldsBefore.reaches member with ⟨first, firstMem, path⟩
            exact acyclic name (.head' (Or.inl firstMem) path)
          have notPlaced : name ∉ lineage.order ++ firstPlaces lineage.order wholeAbove := by
            simp only [List.mem_append, mem_firstPlaces, not_or]
            exact ⟨fun member => fresh (met member), fun member => notAbove member.1⟩
          have split : wholeAbove ++ name :: (wholeBelow ++ more)
              = wholeAbove ++ ([name] ++ (wholeBelow ++ more)) := rfl
          rw [split, firstPlaces_append, firstPlaces_append, firstPlaces_singleton notPlaced,
            firstPlaces_append]
          have aboveEq := ihBefore settledBefore (List.subset_cons_of_subset _ met) unfoldsBefore
          have belowEq := ihAfter settledPlaced metPlaced unfoldsAfter
          have finalEq := ihRest settledBelow metBelow unfoldsRest
          simp only at aboveEq belowEq
          rw [finalEq, belowEq, aboveEq]
          simp only [List.append_assoc]

end AncestorGraph

end RailsNavigator
