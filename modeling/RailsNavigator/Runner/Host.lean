import RailsNavigator.Runner.Frame
import RailsNavigator.Trace

/-!
# The runner's side

The runner as far as its client can tell: what its output brings and when, how it takes messages,
and when it ends. Time passes only while the client waits, so that an exchange is a function of
the state of the runner. Each start and each message makes the runner emit a batch of output; a
runner that is started again goes on with the next one.

Two limits of operating systems are left out. They refuse to wait for more than about nine billion
seconds, and to read more than 2^63 - 1 bytes at once; here a client waits and reads for as long and
as much as it is told to.
-/

namespace RailsNavigator.Runner

/-- A piece of the runner's output. -/
inductive Emission where
  /-- Bytes that come together. -/
  | bytes (chunk : List UInt8)
  /-- Seconds without output. -/
  | delay (seconds : Float)
  /-- The end of the output. -/
  | eof

namespace Emission

/-- The number of bytes in an output. -/
def available : List Emission → Nat
  | [] => 0
  | bytes chunk :: rest => chunk.length + available rest
  | _ :: rest => available rest

/-- Lets the delays before the next bytes pass, as far as `remaining` seconds go. Gives whether that
was enough, the clock and the output then. -/
def pass (clock remaining : Float) : List Emission → Bool × Float × List Emission
  | [] => (false, clock + remaining, [])
  | delay seconds :: rest =>
      if seconds > remaining then (false, clock + remaining, delay (seconds - remaining) :: rest)
      else pass (clock + seconds) (remaining - seconds) rest
  | output => (true, clock, output)

/-- Takes at most `size` bytes of the first chunk. -/
def take (size : Nat) : List Emission → List UInt8 × List Emission
  | bytes chunk :: rest =>
      match chunk.drop size with
      | [] => (chunk, rest)
      | left => (chunk.take size, bytes left :: rest)
  | output => ([], output)

end Emission

/-- Why a command does not become a process. -/
inductive LaunchError where
  | system (error : SystemError)
  /-- The command could not even be given to the system. -/
  | defect
  deriving DecidableEq, Repr

/-- The state of the runner. -/
structure Host where
  /-- Why the runner does not start, if it does not. -/
  launchError : Option LaunchError := none
  /-- The output that is not read so far. -/
  output : List Emission := []
  /-- The output that the starts and messages to come cause. -/
  batches : List (List Emission) := []
  /-- Seconds that have passed. -/
  clock : Float := 0
  /-- The number of messages written, those that found the input closed among them. -/
  written : Nat := 0
  /-- The numbers, from one, of the messages that find the input closed. -/
  refused : List Nat := []
  /-- The number of messages after which the process ends by itself; none if it is zero. -/
  lifetime : Option Nat := none
  /-- Whether the process was made to end. -/
  ended : Bool := false
  /-- Whether the process must be killed to end. -/
  lingers : Bool := false

namespace Host

/-- Whether the process has ended. -/
def hasEnded (host : Host) : Bool :=
  host.ended || host.lifetime.any fun lifetime => 0 < lifetime && lifetime ≤ host.written

/-- The number of bytes that can still be read before the next message. -/
def available (host : Host) : Nat :=
  Emission.available host.output

/-- Emits the next batch. -/
def emit (host : Host) : Host :=
  { host with output := host.output ++ host.batches.headD [], batches := host.batches.tail }

/-- Waits until something can be read. -/
def await (deadline : Float) (host : Host) : Except TransportError Unit × Host :=
  let remaining := deadline - host.clock
  if remaining ≤ 0 then (.error .timeout, host)
  else
    let (ready, clock, output) := Emission.pass host.clock remaining host.output
    (if ready then .ok () else .error .timeout, { host with clock, output })

/-- Reads the bytes that come next, at most `size` of them and at least one. -/
def read (size : Nat) (deadline : Float) (host : Host) :
    Except TransportError (List UInt8) × Host :=
  match host.await deadline with
  | (.error error, later) => (.error error, later)
  | (.ok _, later) =>
      let (chunk, output) := Emission.take size later.output
      (if chunk.isEmpty then .error .closed else .ok chunk, { later with output })

/-- Reads bytes one by one up to the end of a header. The bytes read before are `seen`, the last one
first. Each step reads a byte, so a `bound` above the number of available bytes is never reached. -/
def headerFrom (deadline : Float) : (bound : Nat) → (seen : List UInt8) → Host →
    Except TransportError (List UInt8) × Host
  | 0, _, host => (.error .closed, host)
  | bound + 1, seen, host =>
      if Frame.endsHeader seen then (.ok seen.reverse, host)
      else match host.read 1 deadline with
        | (.error error, later) => (.error error, later)
        | (.ok chunk, later) => headerFrom deadline bound (chunk.reverse ++ seen) later

/-- Reads a header. -/
def readHeader (deadline : Float) (host : Host) : Except TransportError (List UInt8) × Host :=
  headerFrom deadline (host.available + 1) [] host

/-- Reads `size` bytes, in at most `bound` steps. -/
def bytesWithin (deadline : Float) : (bound size : Nat) → Host →
    Except TransportError (List UInt8) × Host
  | 0, _, host => (.ok [], host)
  | bound + 1, size, host =>
      if size = 0 then (.ok [], host)
      else match host.read size deadline with
        | (.error error, later) => (.error error, later)
        | (.ok chunk, later) =>
            match bytesWithin deadline bound (size - chunk.length) later with
            | (.error error, last) => (.error error, last)
            | (.ok rest, last) => (.ok (chunk ++ rest), last)

/-- Reads exactly `size` bytes. Each step reads one at least, so there are at most `size` steps. -/
def readExact (deadline : Float) (size : Nat) (host : Host) :
    Except TransportError (List UInt8) × Host :=
  bytesWithin deadline size size host

/-- Reads one frame, for which `timeout` seconds are granted, and gives the fields of its body. -/
def receive (timeout : Float) (host : Host) :
    Except TransportError (List (String × Json)) × Host :=
  let deadline := host.clock + timeout
  match host.readHeader deadline with
  | (.error error, later) => (.error error, later)
  | (.ok header, later) =>
      match Frame.bodyLength (Frame.headerText header) with
      | .error error => (.error error, later)
      | .ok length =>
          match later.readExact deadline length.toNat with
          | (.error error, last) => (.error error, last)
          | (.ok body, last) => (Frame.readBody body, last)

/-- Writes one frame. A message that is taken makes the runner emit the next batch. -/
def send (message : Json) (host : Host) : Traced (Except TransportError Unit × Host) := do
  let host := { host with written := host.written + 1 }
  if host.refused.contains host.written then
    return (.error .brokenPipe, host)
  else
    Traced.effect (.send (String.ofList (Frame.write message)))
    return (.ok (), host.emit)

/-- Closes both streams and sees that the process ends, by force if need be. -/
def terminate (host : Host) : Traced Host := do
  Traced.effect (.close .input)
  Traced.effect (.close .output)
  Traced.effect (.await true)
  if host.lingers then
    Traced.notice .runnerKilled
    Traced.effect .kill
    Traced.effect (.await false)
  return { host with ended := true }

end Host

end RailsNavigator.Runner
