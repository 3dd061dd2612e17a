import RailsNavigator.Syntax.Node

/-!
# The vocabulary of Rails

The methods of Rails whose arguments name something that can be navigated to. The vocabularies are
disjoint, and no word in them ends like a route helper, so a call is of one kind at most.
-/

namespace RailsNavigator.Dsl

/-- What the arguments of a call name. -/
inductive Kind where
  | association
  | callback
  | validation
  | routeHelper
  | controllerRoute
  | none
  deriving DecidableEq, Repr

/-- The word for a kind. -/
def Kind.word : Kind → String
  | association => "association"
  | callback => "callback"
  | validation => "validation"
  | routeHelper => "route-helper"
  | controllerRoute => "controller-route"
  | none => "none"

/-- Declarations of associated models. -/
def associations : List String :=
  ["belongs_to", "has_many", "has_one", "has_and_belongs_to_many"]

/-- Callbacks of models. -/
def modelCallbacks : List String :=
  ["after_commit", "after_create", "after_create_commit", "after_destroy", "after_destroy_commit",
    "after_find", "after_initialize", "after_rollback", "after_save", "after_save_commit",
    "after_touch", "after_update", "after_update_commit", "after_validation", "around_create",
    "around_destroy", "around_save", "around_update", "before_create", "before_destroy",
    "before_save", "before_update", "before_validation"]

/-- Callbacks of controllers. -/
def controllerCallbacks : List String :=
  ["after_action", "append_after_action", "append_around_action", "append_before_action",
    "around_action", "before_action", "prepend_after_action", "prepend_around_action",
    "prepend_before_action", "skip_after_action", "skip_around_action", "skip_before_action"]

/-- Callbacks of jobs. -/
def jobCallbacks : List String :=
  ["after_enqueue", "after_perform", "around_enqueue", "around_perform", "before_enqueue",
    "before_perform"]

/-- Validations of models. -/
def validations : List String :=
  ["validate", "validates", "validates!", "validates_each", "validates_with",
    "validates_absence_of", "validates_acceptance_of", "validates_associated",
    "validates_comparison_of", "validates_confirmation_of", "validates_exclusion_of",
    "validates_format_of", "validates_inclusion_of", "validates_length_of",
    "validates_numericality_of", "validates_presence_of", "validates_size_of",
    "validates_uniqueness_of"]

/-- Declarations of routes to controllers. -/
def controllerRoutes : List String :=
  ["get", "post", "put", "patch", "delete", "match", "root"]

/-- The endings of route helpers. -/
def helperEndings : List String := ["_path", "_url"]

/-- Validations whose arguments never name a method. -/
def opaqueValidations : List String := ["validates_with"]

/-- The kind of a call by the name of its method. -/
def classifyName (name : String) : Kind :=
  if helperEndings.any fun ending => ending.toList.isSuffixOf name.toList then .routeHelper
  else if associations.contains name then .association
  else if (modelCallbacks ++ controllerCallbacks ++ jobCallbacks).contains name then .callback
  else if validations.contains name then .validation
  else if controllerRoutes.contains name then .controllerRoute
  else .none

/-- Whether a call is on the implicit receiver or on `self`; other nodes are not calls. -/
def hasSelfReceiver : Node → Bool
  | .call _ _ receiver _ _ => receiver.all Node.isSelf
  | _ => false

/-- The kind of a node. Only calls with the implicit receiver or `self` have one. -/
def classify (node : Node) : Kind :=
  match node with
  | .call _ (some name) .. => if hasSelfReceiver node then classifyName name else .none
  | _ => .none

end RailsNavigator.Dsl
