import RailsNavigator.Json.Token

/-!
# Reading JSON

A shift-reduce reader over the tokens of a text. The frames of its stack are the arrays and objects
that are still open, so that values of any depth are read.
-/

namespace RailsNavigator.Json

/-- An array or object that is still open. -/
inductive Frame where
  /-- The items so far, last one first. -/
  | items (gathered : List Json)
  /-- The fields so far, and the key whose value comes next or came last. -/
  | fields (gathered : List (String × Json)) (key : String)

/-- What the reader waits for. -/
inductive Reader where
  /-- A value; right after the opening bracket also the closing one. -/
  | awaitValue (stack : List Frame) (mayClose : Bool)
  /-- A key; right after the opening brace also the closing one. -/
  | awaitKey (stack : List Frame) (gathered : List (String × Json)) (mayClose : Bool)
  /-- The colon after a key. -/
  | awaitColon (stack : List Frame) (gathered : List (String × Json)) (key : String)
  /-- A comma or the end of the innermost open value. -/
  | awaitSeparator (stack : List Frame)
  /-- Nothing more. -/
  | finished (value : Json)

/-- Hands a complete value to the innermost open one. -/
def Reader.complete (value : Json) : List Frame → Reader
  | [] => .finished value
  | .items gathered :: rest => .awaitSeparator (.items (value :: gathered) :: rest)
  | .fields gathered key :: rest =>
      .awaitSeparator (.fields (insertField key value gathered) key :: rest)

/-- Reads a token where a value is expected. -/
def Reader.readValue (stack : List Frame) (mayClose : Bool) : Token → Except Fault Reader
  | .beginObject => .ok (.awaitKey stack [] true)
  | .beginArray => .ok (.awaitValue (.items [] :: stack) true)
  | .string value => .ok (.complete (.string value) stack)
  | .atom value => .ok (.complete value stack)
  | .endArray => match stack with
    | .items gathered :: rest =>
        if mayClose then .ok (.complete (.array gathered.reverse) rest) else .error .malformed
    | _ => .error .malformed
  | .bad fault => .error fault
  | _ => .error .malformed

/-- Reads one token. A long integer is a fault of its own only where a value is expected. -/
def Reader.step : Reader → Token → Except Fault Reader
  | .awaitValue stack mayClose, token => readValue stack mayClose token
  | .awaitKey stack gathered _, .string key => .ok (.awaitColon stack gathered key)
  | .awaitKey stack gathered true, .endObject => .ok (.complete (.object gathered) stack)
  | .awaitColon stack gathered key, .colon =>
      .ok (.awaitValue (.fields gathered key :: stack) false)
  | .awaitSeparator (.items gathered :: rest), .comma =>
      .ok (.awaitValue (.items gathered :: rest) false)
  | .awaitSeparator (.items gathered :: rest), .endArray =>
      .ok (.complete (.array gathered.reverse) rest)
  | .awaitSeparator (.fields gathered _ :: rest), .comma => .ok (.awaitKey rest gathered false)
  | .awaitSeparator (.fields gathered _ :: rest), .endObject =>
      .ok (.complete (.object gathered) rest)
  | _, _ => .error .malformed

/-- The value that a reader has read when the text ends. -/
def Reader.result : Reader → Except Fault Json
  | .finished value => .ok value
  | _ => .error .malformed

/-- Reads the JSON value that a text consists of. Of two fields with one key the last counts. -/
def read (text : List Char) : Except Fault Json := do
  let reader ← (tokens text).foldlM Reader.step (.awaitValue [] false)
  reader.result

end RailsNavigator.Json
