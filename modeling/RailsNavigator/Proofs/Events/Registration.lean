import RailsNavigator.Proofs.Events.Walk

/-!
# Registration and delivery

Listeners ask a dispatcher for events one after another. Each is registered for the events before
the first one that it does not handle, and these registrations stay although the listener is
refused. A walk through a tree then delivers every event once for each registration, in the order of
the registrations. The visits of a walk are brackets: what is entered is left again, and what is
entered in between is left before. A listener that is registered as often for leaving as for
entering nodes of each class sees such brackets too, however often it is registered.
-/

namespace RailsNavigator.Events

/-- A listener that asks for events. -/
structure Enrolment (α : Type) where
  id : α
  listener : Listener
  events : List String

namespace Enrolment

variable {α : Type}

/-- The events before the first one that the listener does not handle. -/
def granted (enrolment : Enrolment α) : List String :=
  enrolment.events.takeWhile enrolment.listener.handles

/-- The refusal for the first event that the listener does not handle. -/
def refusal? (enrolment : Enrolment α) : Option Unhandled :=
  (enrolment.events.find? fun event => !enrolment.listener.handles event).map
    fun event => ⟨enrolment.listener.name, event⟩

/-- One delivery of a visit for each time that its event is granted. -/
def deliveries (visit : Visit) (enrolment : Enrolment α) : List (Delivery α) :=
  (enrolment.granted.filter fun event => event = visit.event).map fun _ => ⟨enrolment.id, visit⟩

end Enrolment

/-- Visits in which every node that is entered is left again, and nodes that are entered in between
are left before. -/
inductive Visit.Nested : List Visit → Prop where
  | nil : Visit.Nested []
  | around (node : Node) (inside rest : List Visit) (insideNested : Visit.Nested inside)
      (restNested : Visit.Nested rest) :
      Visit.Nested (.enter node :: (inside ++ .leave node :: rest))

namespace Visit.Nested

theorem append {first second : List Visit} (firstNested : Nested first)
    (secondNested : Nested second) : Nested (first ++ second) := by
  induction firstNested with
  | nil => exact secondNested
  | around node inside rest insideNested _ _ restHypothesis =>
      have further := around node inside _ insideNested restHypothesis
      simpa using further

theorem flatten {parts : List (List Visit)} (each : ∀ part ∈ parts, Nested part) :
    Nested parts.flatten := by
  induction parts with
  | nil => exact .nil
  | cons part rest hypothesis =>
      apply (each part (by simp)).append
      apply hypothesis
      intro other otherMem
      exact each other (by simp [otherMem])

/-- Entering a node several times and leaving it as often keeps visits nested. -/
theorem repeated {inside : List Visit} (insideNested : Nested inside) (node : Node) (times : Nat) :
    Nested (List.replicate times (.enter node) ++ inside
      ++ List.replicate times (.leave node)) := by
  induction times with
  | zero => simpa using insideNested
  | succ times hypothesis =>
      have further := around node _ [] hypothesis .nil
      rw [List.replicate_succ, List.replicate_succ']
      simpa using further

end Visit.Nested

/-- A walk in which every visit is repeated is nested if the visits of entering and leaving a node
are repeated equally often. -/
theorem Visit.nested_walk_replicate {times : String → Nat}
    (balanced : ∀ className, times (enterName className) = times (leaveName className))
    (node : Node) :
    Nested ((walk node).flatMap fun visit => List.replicate (times visit.event) visit) := by
  induction node using Node.childInduction with
  | step node hypothesis =>
      have inside : Nested ((node.children.flatMap walk).flatMap
          fun visit => List.replicate (times visit.event) visit) := by
        rw [List.flatMap_assoc]
        apply Nested.flatten
        intro part partMem
        rcases List.mem_map.mp partMem with ⟨child, childMem, rfl⟩
        exact hypothesis child childMem
      have around := inside.repeated node (times (enterName node.className))
      rw [walk_eq]
      simpa [event, ← balanced node.className] using around

theorem Visit.nested_walk (node : Node) : Nested (walk node) := by
  have once := @nested_walk_replicate (fun _ => 1) (fun _ => rfl) node
  simpa using once

namespace Dispatcher

variable {α : Type}

/-- Registers listeners one after another, each for all events that it asks for. -/
def enrol (dispatcher : Dispatcher α) :
    List (Enrolment α) → Dispatcher α × List (Option Unhandled)
  | [] => (dispatcher, [])
  | enrolment :: rest =>
      let (registered, refusal) :=
        dispatcher.register enrolment.id enrolment.listener enrolment.events
      let (later, refusals) := enrol registered rest
      (later, refusal :: refusals)

theorem register_eq (dispatcher : Dispatcher α) (enrolment : Enrolment α) :
    dispatcher.register enrolment.id enrolment.listener enrolment.events
      = (⟨dispatcher.registrations ++ enrolment.granted.map fun event => (event, enrolment.id)⟩,
          enrolment.refusal?) := by
  rcases enrolment with ⟨id, listener, events⟩
  simp only [Enrolment.granted, Enrolment.refusal?]
  induction events generalizing dispatcher with
  | nil => simp [register]
  | cons event rest hypothesis =>
      by_cases handled : listener.handles event = true
      · simp [register, handled, hypothesis]
      · simp [register, handled]

theorem enrol_eq (dispatcher : Dispatcher α) (enrolments : List (Enrolment α)) :
    dispatcher.enrol enrolments
      = (⟨dispatcher.registrations ++ enrolments.flatMap fun enrolment =>
            enrolment.granted.map fun event => (event, enrolment.id)⟩,
          enrolments.map Enrolment.refusal?) := by
  induction enrolments generalizing dispatcher with
  | nil => simp [enrol]
  | cons enrolment rest hypothesis => simp [enrol, register_eq, hypothesis]

/-- After listeners have enrolled, a visit is delivered to each of them once for every time that its
event was granted. -/
theorem emit_enrol (enrolments : List (Enrolment α)) (visit : Visit) :
    (enrol {} enrolments).1.emit visit = enrolments.flatMap (Enrolment.deliveries visit) := by
  rw [enrol_eq, emit, List.nil_append, List.filterMap_flatMap]
  congr 1
  funext enrolment
  rw [Enrolment.deliveries, List.filterMap_map]
  induction enrolment.granted with
  | nil => rfl
  | cons event rest hypothesis =>
      by_cases here : event = visit.event
      · simpa [here] using hypothesis
      · simpa [here] using hypothesis

end Dispatcher

/-- The visits that some of the listeners are told of. -/
def received {α : Type} (selected : α → Bool) (deliveries : List (Delivery α)) : List Visit :=
  (deliveries.filter fun delivery => selected delivery.listener).map Delivery.visit

/-- How often some of the listeners are registered for an event. -/
def Enrolment.times {α : Type} (selected : α → Bool) (enrolments : List (Enrolment α))
    (event : String) : Nat :=
  ((enrolments.filter fun enrolment => selected enrolment.id).flatMap granted).count event

theorem received_append {α : Type} (selected : α → Bool) (first second : List (Delivery α)) :
    received selected (first ++ second) = received selected first ++ received selected second := by
  simp [received]

theorem received_deliveries {α : Type} (selected : α → Bool) (visit : Visit)
    (enrolment : Enrolment α) :
    received selected (enrolment.deliveries visit)
      = if selected enrolment.id then List.replicate (enrolment.granted.count visit.event) visit
        else [] := by
  have matching : (enrolment.granted.filter fun event => event = visit.event)
      = List.replicate (enrolment.granted.count visit.event) visit.event := by
    rw [← List.filter_beq]
    exact List.filter_congr fun event _ => (beq_eq_decide event visit.event).symm
  rw [received, Enrolment.deliveries, matching]
  by_cases isSelected : selected enrolment.id = true
  · simp [isSelected]
  · simp [isSelected]

/-- Some of the listeners are told of every visit as often as they are registered for its event. -/
theorem received_dispatch_enrol {α : Type} (selected : α → Bool) (enrolments : List (Enrolment α))
    (root : Node) :
    received selected ((Dispatcher.enrol {} enrolments).1.dispatch root)
      = (Visit.walk root).flatMap fun visit =>
          List.replicate (Enrolment.times selected enrolments visit.event) visit := by
  have ofEach : ∀ visit, received selected (enrolments.flatMap (Enrolment.deliveries visit))
      = List.replicate (Enrolment.times selected enrolments visit.event) visit := by
    intro visit
    induction enrolments with
    | nil => rfl
    | cons enrolment rest hypothesis =>
        rw [List.flatMap_cons, received_append, hypothesis, received_deliveries]
        by_cases isSelected : selected enrolment.id = true
        · simp [Enrolment.times, isSelected]
        · simp [Enrolment.times, isSelected]
  rw [Dispatcher.dispatch_eq]
  induction Visit.walk root with
  | nil => rfl
  | cons visit rest hypothesis =>
      rw [List.flatMap_cons, received_append, hypothesis, Dispatcher.emit_enrol, ofEach,
        List.flatMap_cons]

/-- After any listeners have asked for any events, a dispatcher delivers the events of the walk that
enters a node, walks through its children in order and leaves it, each once for every registration
for it, in the order of registration. A listener that is refused is registered for the events before
the one that it does not handle. Every node that is entered is left, nodes in between first, and
this is also what listeners see that are registered as often for leaving as for entering. Nobody
receives an event that was not granted. -/
theorem dispatch_enrol_eq_walk {α : Type} (enrolments : List (Enrolment α)) (root : Node) :
    (Dispatcher.enrol {} enrolments).2 = enrolments.map Enrolment.refusal? ∧
      (Dispatcher.enrol {} enrolments).1.dispatch root
        = (Visit.walk root).flatMap (fun visit =>
            enrolments.flatMap (Enrolment.deliveries visit)) ∧
      Visit.walk root
        = .enter root :: (root.children.flatMap Visit.walk ++ [.leave root]) ∧
      Visit.Nested (Visit.walk root) ∧
      (∀ selected : α → Bool,
        (∀ className, Enrolment.times selected enrolments (enterName className)
          = Enrolment.times selected enrolments (leaveName className)) →
        Visit.Nested (received selected ((Dispatcher.enrol {} enrolments).1.dispatch root))) ∧
      ∀ delivery ∈ (Dispatcher.enrol {} enrolments).1.dispatch root,
        ∃ enrolment ∈ enrolments, enrolment.id = delivery.listener ∧
          delivery.visit.event ∈ enrolment.granted := by
  have delivered : (Dispatcher.enrol {} enrolments).1.dispatch root
      = (Visit.walk root).flatMap fun visit => enrolments.flatMap (Enrolment.deliveries visit) := by
    rw [Dispatcher.dispatch_eq]
    congr 1
    funext visit
    exact Dispatcher.emit_enrol enrolments visit
  refine ⟨by rw [Dispatcher.enrol_eq], delivered, Visit.walk_eq root, Visit.nested_walk root,
    ?_, ?_⟩
  · intro selected balanced
    rw [received_dispatch_enrol]
    exact Visit.nested_walk_replicate balanced root
  · intro delivery deliveryMem
    rw [delivered] at deliveryMem
    rcases List.mem_flatMap.mp deliveryMem with ⟨visit, -, ofVisit⟩
    rcases List.mem_flatMap.mp ofVisit with ⟨enrolment, enrolmentMem, ofEnrolment⟩
    rcases List.mem_map.mp ofEnrolment with ⟨event, eventMem, rfl⟩
    rcases List.mem_filter.mp eventMem with ⟨granted, isEvent⟩
    exact ⟨enrolment, enrolmentMem, rfl, of_decide_eq_true isEvent ▸ granted⟩

end RailsNavigator.Events
