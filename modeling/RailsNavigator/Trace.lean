import RailsNavigator.Log.Notice

/-!
# Traces

What an operation does besides giving a value: notices, and what happens to the runner's process.
Operations that have such effects give a `Traced` value, and the effects stand in its trace in
order.
-/

namespace RailsNavigator

/-- A stream of the runner's process. -/
inductive Stream where
  | input
  | output
  deriving DecidableEq, Repr

/-- Something that can be seen from outside. -/
inductive Effect where
  | notice (notice : Log.Notice)
  /-- A start of the runner was attempted. -/
  | launch (command : List String) (directory : Option String)
  /-- A message was written to the runner. -/
  | send (message : String)
  /-- A stream of the runner was closed. -/
  | close (stream : Stream)
  /-- The end of the runner was awaited, with or without a time limit. -/
  | await (limited : Bool)
  /-- The runner was killed. -/
  | kill

/-- A value and the effects on the way to it. -/
structure Traced (α : Type) where
  value : α
  effects : List Effect := []

namespace Traced

instance : Monad Traced where
  pure value := ⟨value, []⟩
  bind first next :=
    let second := next first.value
    ⟨second.value, first.effects ++ second.effects⟩

instance : LawfulMonad Traced :=
  LawfulMonad.mk' Traced (fun _ => by simp [Functor.map]) (fun _ _ => by simp [bind, pure])
    (fun _ _ _ => by simp [bind])

/-- An effect without a value. -/
def effect (effect : Effect) : Traced Unit := ⟨(), [effect]⟩

/-- A notice without a value. -/
def notice (notice : Log.Notice) : Traced Unit := effect (.notice notice)

end Traced

end RailsNavigator
