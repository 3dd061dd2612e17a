/-!
# JSON values

Values as they are exchanged with editors and with the runner: integers are unbounded and are told
apart from doubles, and the fields of an object keep their order.
-/

namespace RailsNavigator

/-- A JSON value. -/
inductive Json where
  | null
  | bool (value : Bool)
  | int (value : Int)
  | float (value : Float)
  | string (value : String)
  | array (items : List Json)
  | object (fields : List (String × Json))
  deriving Inhabited

namespace Json

/-- Sets a field. A new field comes last; one that is there keeps its place. -/
def insertField (key : String) (value : Json) : List (String × Json) → List (String × Json)
  | [] => [(key, value)]
  | (other, old) :: rest =>
      if other = key then (key, value) :: rest else (other, old) :: insertField key value rest

/-- The value of a field. -/
def lookup? (key : String) (fields : List (String × Json)) : Option Json :=
  (fields.find? (·.1 == key)).map (·.2)

/-- The field of an object; other values have none. -/
def field? (key : String) : Json → Option Json
  | object fields => lookup? key fields
  | _ => none

/-- The field of an object, `null` counting as absent. -/
def given? (key : String) (value : Json) : Option Json :=
  match value.field? key with
  | none | some null => none
  | some present => some present

/-- The text of a string. -/
def string? : Json → Option String
  | string value => some value
  | _ => none

/-- The items of an array. -/
def array? : Json → Option (List Json)
  | array items => some items
  | _ => none

/-- The strings of an array that holds nothing else. -/
def strings? : Json → Option (List String)
  | array items => items.mapM string?
  | _ => none

end Json

end RailsNavigator
