import RailsNavigator.Events.Dispatcher
import RailsNavigator.Proofs.Syntax.Links

/-!
# The walk of a dispatcher

A dispatcher works off a list of visits. What it delivers are the events of the walk that enters a
node, walks through its children in order, and leaves the node. Before a visit of such a walk the
nodes on the way down from the root have been entered, and all others that were entered have been
left again.
-/

namespace RailsNavigator

/-- The nodes on a way down from a node to another, which is not among them. -/
inductive Node.Descends : Node → List Node → Node → Prop where
  | here (node : Node) : Node.Descends node [] node
  | down (node child target : Node) (way : List Node) (childMem : child ∈ node.children)
      (further : Node.Descends child way target) : Node.Descends node (node :: way) target

/-- Induction over syntax trees: what holds of all children holds of their parent. -/
@[elab_as_elim]
theorem Node.childInduction {motive : Node → Prop}
    (step : ∀ node, (∀ child ∈ node.children, motive child) → motive node) (node : Node) :
    motive node :=
  step node fun child _ => childInduction step child
termination_by node.size
decreasing_by exact Node.size_lt_of_mem_children (by assumption)

namespace Events

namespace Visit

/-- The visits of a walk through a tree. -/
def walk (node : Node) : List Visit :=
  .enter node :: ((node.children.attach.flatMap fun child => walk child.val) ++ [.leave node])
termination_by node.size
decreasing_by exact Node.size_lt_of_mem_children child.property

theorem walk_eq (node : Node) :
    walk node = .enter node :: (node.children.flatMap walk ++ [.leave node]) := by
  rw [walk, List.flatMap_subtype (g := walk) fun _ _ => rfl, List.unattach_attach]

/-- The visits that a visit in a list of work gives rise to. -/
def expand : Visit → List Visit
  | enter node => walk node
  | leave node => [leave node]

/-- A walk enters every node that can be reached. -/
theorem enter_mem_walk {node target : Node} (reaches : node.Reaches target) :
    .enter target ∈ walk node := by
  induction reaches using Relation.ReflTransGen.head_induction_on with
  | refl =>
      rw [walk_eq]
      exact List.mem_cons_self
  | head childMem _ hypothesis =>
      rw [walk_eq]
      simp only [List.mem_cons, List.mem_append, List.mem_flatMap]
      exact .inr (.inl ⟨_, childMem, hypothesis⟩)

/-- A visit on walks through several nodes belongs to the walk through one of them. -/
theorem exists_walk_of_split {nodes : List Node} {before after : List Visit} {visit : Visit}
    (split : nodes.flatMap walk = before ++ visit :: after) :
    ∃ (done : List Node) (node : Node) (first rest : List Visit), node ∈ nodes ∧
      before = done.flatMap walk ++ first ∧ walk node = first ++ visit :: rest := by
  induction nodes generalizing before with
  | nil => simp at split
  | cons node others hypothesis =>
      rw [List.flatMap_cons, List.append_eq_append_iff] at split
      rcases split with ⟨middle, beforeEq, othersEq⟩ | ⟨middle, nodeEq, restEq⟩
      · rcases hypothesis othersEq with ⟨done, other, first, rest, otherMem, middleEq, otherEq⟩
        refine ⟨node :: done, other, first, rest, by simp [otherMem], ?_, otherEq⟩
        rw [beforeEq, middleEq, List.flatMap_cons, List.append_assoc]
      · cases middle with
        | nil =>
            have othersEq : others.flatMap walk = [] ++ visit :: after := restEq.symm
            rcases hypothesis othersEq with
              ⟨done, other, first, rest, otherMem, nilEq, otherEq⟩
            refine ⟨node :: done, other, first, rest, by simp [otherMem], ?_, otherEq⟩
            rw [List.flatMap_cons, List.append_assoc, ← nilEq, nodeEq, List.append_nil,
              List.append_nil]
        | cons found rest =>
            rw [List.cons_append, List.cons.injEq] at restEq
            exact ⟨[], node, before, rest, by simp, by simp, by rw [nodeEq, restEq.1]⟩

/-- Before a node is entered on a walk, the root of the walk has been entered and some of its
children have been walked through, unless it is the root itself. -/
theorem walk_split {node target : Node} {before after : List Visit}
    (split : walk node = before ++ .enter target :: after) :
    (node = target ∧ before = []) ∨
      ∃ (done : List Node) (child : Node) (first rest : List Visit), child ∈ node.children ∧
        before = .enter node :: (done.flatMap walk ++ first) ∧
        walk child = first ++ .enter target :: rest := by
  rw [walk_eq] at split
  cases before with
  | nil =>
      rw [List.nil_append, List.cons.injEq, Visit.enter.injEq] at split
      exact .inl ⟨split.1, rfl⟩
  | cons visit before =>
      rw [List.cons_append, List.cons.injEq, List.append_eq_append_iff] at split
      rcases split with ⟨rfl, ⟨middle, -, leaveEq⟩ | ⟨middle, childrenEq, restEq⟩⟩
      · exfalso
        cases middle with
        | nil => simp at leaveEq
        | cons visit rest => simp at leaveEq
      · cases middle with
        | nil => simp at restEq
        | cons found rest =>
            rw [List.cons_append, List.cons.injEq] at restEq
            rw [← restEq.1] at childrenEq
            rcases exists_walk_of_split childrenEq with
              ⟨done, child, first, others, childMem, beforeEq, childEq⟩
            exact .inr ⟨done, child, first, others, childMem, by rw [beforeEq], childEq⟩

end Visit

/-- What a view of a state shows of a walk: entering a node changes it as `opened` says, and leaving
the node changes it back. -/
structure Brackets {σ β : Type} (step : σ → Visit → σ) (view : σ → β)
    (opened : β → Node → β) : Prop where
  enter : ∀ state node, view (step state (.enter node)) = opened (view state) node
  leave : ∀ state outer node, view state = opened outer node →
    view (step state (.leave node)) = outer

namespace Brackets

variable {σ β : Type} {step : σ → Visit → σ} {view : σ → β} {opened : β → Node → β}

theorem view_flatMap_walk_of_each {nodes : List Node}
    (each : ∀ node ∈ nodes, ∀ state, view ((Visit.walk node).foldl step state) = view state)
    (state : σ) : view ((nodes.flatMap Visit.walk).foldl step state) = view state := by
  induction nodes generalizing state with
  | nil => rfl
  | cons node rest hypothesis =>
      rw [List.flatMap_cons, List.foldl_append, hypothesis fun other member =>
        each other (by simp [member])]
      exact each node (by simp) state

/-- A walk through a whole tree leaves the view as it was. -/
theorem view_walk (brackets : Brackets step view opened) (node : Node) (state : σ) :
    view ((Visit.walk node).foldl step state) = view state := by
  induction node using Node.childInduction generalizing state with
  | step node hypothesis =>
      rw [Visit.walk_eq, List.foldl_cons, List.foldl_append]
      apply brackets.leave
      rw [view_flatMap_walk_of_each hypothesis, brackets.enter]

/-- Before a node is entered, the view shows what the nodes on a way down to it have opened. -/
theorem exists_descends (brackets : Brackets step view opened) {node target : Node}
    {before after : List Visit} (split : Visit.walk node = before ++ .enter target :: after) :
    ∃ way, Node.Descends node way target ∧
      ∀ state, view (before.foldl step state) = way.foldl opened (view state) := by
  induction node using Node.childInduction generalizing before after with
  | step node hypothesis =>
      rcases Visit.walk_split split with
        ⟨rfl, rfl⟩ | ⟨done, child, first, rest, childMem, rfl, childSplit⟩
      · exact ⟨[], .here node, fun state => rfl⟩
      · rcases hypothesis child childMem childSplit with ⟨way, descends, seen⟩
        refine ⟨node :: way, .down node child target way childMem descends, fun state => ?_⟩
        rw [List.foldl_cons, List.foldl_append, seen,
          view_flatMap_walk_of_each fun other _ => brackets.view_walk other, brackets.enter,
          List.foldl_cons]

end Brackets

namespace Dispatcher

variable {α : Type}

/-- The deliveries of a dispatcher are those of the walks in its list of visits. -/
theorem run_eq_flatMap (dispatcher : Dispatcher α) (visits : List Visit) :
    dispatcher.run visits = (visits.flatMap Visit.expand).flatMap dispatcher.emit := by
  fun_induction dispatcher.run visits with
  | case1 => rfl
  | case2 node rest hypothesis => simp [hypothesis, Visit.expand]
  | case3 node rest hypothesis =>
      simp [hypothesis, Visit.expand, Visit.walk_eq node, List.flatMap_map]

theorem dispatch_eq (dispatcher : Dispatcher α) (root : Node) :
    dispatcher.dispatch root = (Visit.walk root).flatMap dispatcher.emit := by
  rw [dispatch, run_eq_flatMap]
  simp [Visit.expand]

end Dispatcher

end Events

end RailsNavigator
