/-!
# Listeners

What a dispatcher knows of a listener: its name, the methods by which it handles events, and members
of it that cannot be called. Some methods every listener has by itself.
-/

namespace RailsNavigator.Events

/-- A listener as seen from outside. -/
structure Listener where
  name : String
  methods : List String
  /-- The members that cannot be called. -/
  attributes : List String := []
  deriving DecidableEq, Repr

namespace Listener

/-- The methods that every listener has by itself. -/
def inherited : List String :=
  ["__class__", "__delattr__", "__dir__", "__eq__", "__format__", "__ge__", "__getattribute__",
    "__getstate__", "__gt__", "__hash__", "__init__", "__init_subclass__", "__le__", "__lt__",
    "__ne__", "__new__", "__reduce__", "__reduce_ex__", "__repr__", "__setattr__", "__sizeof__",
    "__str__", "__subclasshook__"]

/-- Whether a listener handles an event. A member that cannot be called hides a method. -/
def handles (listener : Listener) (event : String) : Bool :=
  (listener.methods.contains event || inherited.contains event)
    && !listener.attributes.contains event

end Listener

end RailsNavigator.Events
