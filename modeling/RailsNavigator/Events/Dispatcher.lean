import RailsNavigator.Events.Listener
import RailsNavigator.Events.Name
import RailsNavigator.Syntax.Size

/-!
# Dispatch of events

Listeners register for events by name. A dispatcher walks a tree with a list of visits instead of
recursion and delivers each event to the listeners registered for it, in the order of registration.
-/

namespace RailsNavigator.Events

/-- A listener asked for an event that it does not handle. -/
structure Unhandled where
  listener : String
  event : String
  deriving DecidableEq, Repr

/-- The wording of the refusal. -/
def Unhandled.message (refusal : Unhandled) : String :=
  refusal.listener ++ " does not implement " ++ refusal.event

/-- The registrations of listeners for events, in order. -/
structure Dispatcher (α : Type) where
  registrations : List (String × α) := []

/-- A visit of a node. -/
inductive Visit where
  | enter (node : Node)
  | leave (node : Node)

namespace Visit

/-- The node that is visited. -/
def node : Visit → Node
  | enter node | leave node => node

/-- The name of the event that a visit gives rise to. -/
def event : Visit → String
  | enter node => enterName node.className
  | leave node => leaveName node.className

/-- A bound on the number of visits that a visit gives rise to. -/
def weight : Visit → Nat
  | enter node => 2 * node.size
  | leave _ => 1

/-- A bound on the number of visits that several visits give rise to. -/
def weightAll : List Visit → Nat
  | [] => 0
  | visit :: rest => visit.weight + weightAll rest

theorem weightAll_append (first second : List Visit) :
    weightAll (first ++ second) = weightAll first + weightAll second := by
  induction first with
  | nil => simp [weightAll]
  | cons visit rest hypothesis =>
      simp only [List.cons_append, weightAll, hypothesis]
      omega

theorem weightAll_map_enter (nodes : List Node) :
    weightAll (nodes.map enter) = 2 * Node.sizeAll nodes := by
  induction nodes with
  | nil => rfl
  | cons node rest hypothesis =>
      simp only [List.map_cons, weightAll, weight, Node.sizeAll_cons, hypothesis]
      omega

end Visit

/-- A visit that is told to a listener. -/
structure Delivery (α : Type) where
  listener : α
  visit : Visit

namespace Dispatcher

variable {α : Type}

/-- Registers a listener for events, up to the first one that it does not handle. -/
def register (dispatcher : Dispatcher α) (id : α) (listener : Listener) :
    List String → Dispatcher α × Option Unhandled
  | [] => (dispatcher, none)
  | event :: rest =>
      if listener.handles event then
        register ⟨dispatcher.registrations ++ [(event, id)]⟩ id listener rest
      else (dispatcher, some ⟨listener.name, event⟩)

/-- The deliveries of the event of one visit. -/
def emit (dispatcher : Dispatcher α) (visit : Visit) : List (Delivery α) :=
  dispatcher.registrations.filterMap fun (event, listener) =>
    if event = visit.event then some ⟨listener, visit⟩ else none

/-- The deliveries for one node, without the nodes below it. -/
def dispatchOnce (dispatcher : Dispatcher α) (node : Node) : List (Delivery α) :=
  dispatcher.emit (.enter node) ++ dispatcher.emit (.leave node)

/-- Works off a list of visits. Entering a node puts the visits below it and its leaving first. -/
def run (dispatcher : Dispatcher α) : List Visit → List (Delivery α)
  | [] => []
  | .leave node :: rest => dispatcher.emit (.leave node) ++ run dispatcher rest
  | .enter node :: rest =>
      dispatcher.emit (.enter node)
        ++ run dispatcher (node.children.map .enter ++ .leave node :: rest)
termination_by visits => Visit.weightAll visits
decreasing_by
  · simp only [Visit.weightAll, Visit.weight]
    omega
  · have bound := Node.sizeAll_children_lt node
    simp only [Visit.weightAll_append, Visit.weightAll_map_enter, Visit.weightAll, Visit.weight]
    omega

/-- The deliveries for a whole tree, in document order. -/
def dispatch (dispatcher : Dispatcher α) (root : Node) : List (Delivery α) :=
  dispatcher.run [.enter root]

end Dispatcher

end RailsNavigator.Events
