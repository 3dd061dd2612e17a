import RailsNavigator.Proofs.Runner.Stream
import RailsNavigator.Proofs.Trace

/-!
# Calls on a client

A client that has started a runner is called again and again, and the runner may do what it likes:
write anything, pause, close its output, refuse messages or exit. The main result of this file says
what becomes of any sequence of calls. First there are requests that are answered, each by exactly
one frame, the frames standing one after another in the stream; then the conversation ends once, by
a call that stops it, by a failure or because the process is gone; and from then on every call goes
unanswered and nothing is written or read. A reply that speaks of an error is no failure: like any
whole frame, it ends the conversation only if time runs out before it has been read.
-/

namespace RailsNavigator.Runner

namespace Conversation

/-- What a frame replies to a request: nothing if it speaks of an error. -/
def reply (fields : List (String × Json)) : Json :=
  match Json.lookup? "error" fields with
  | some _ => .null
  | none => (Json.lookup? "result" fields).getD .null

end Conversation

namespace Host

/-- Whether the next message finds the input closed. -/
def refusesNext (host : Host) : Bool :=
  host.refused.contains (host.written + 1)

/-- The runner after it has taken a message. -/
def taken (host : Host) : Host :=
  { host with written := host.written + 1 }.emit

@[simp]
theorem value_terminate (host : Host) : host.terminate.value = { host with ended := true } := by
  unfold terminate
  split <;> rfl

theorem value_send (message : Json) (host : Host) :
    (host.send message).value
      = if host.refusesNext then (.error .brokenPipe, { host with written := host.written + 1 })
        else (.ok (), host.taken) := by
  by_cases refuses : host.written + 1 ∈ host.refused
  · simp [send, refusesNext, refuses]
  · simp [send, refusesNext, refuses, taken]

end Host

namespace Conversation

@[simp]
theorem run_notice (reported : Log.Notice) (session : Session) :
    (notice reported).run session = ⟨((), session), [.notice reported]⟩ := rfl

@[simp]
theorem value_terminate (session : Session) :
    (terminate.run session).value
      = ((), { session with host := { session.host with ended := true } }) := by
  simp [terminate, onHost, StateT.run]

theorem value_exchange (timeout : Float) (message : Json) (host : Host) (client : Client) :
    ((exchange timeout message).run ⟨host, client⟩).value
      = if host.refusesNext then
          (.error .brokenPipe, ⟨{ host with written := host.written + 1 }, client⟩)
        else ((host.taken.receive timeout).1, ⟨(host.taken.receive timeout).2, client⟩) := by
  have sent : ((onHost (·.send message)).run ⟨host, client⟩).value
      = ((host.send message).value.1, ⟨(host.send message).value.2, client⟩) := rfl
  simp only [exchange, StateT.run_bind, Traced.value_bind, sent, Host.value_send]
  cases host.refusesNext <;> rfl

theorem request_unconnected {session : Session} (unconnected : session.isConnected = false)
    (method : String) (parameters : List (String × Json)) :
    ((request method parameters).run session).value = (.null, session) ∧
      ∀ text, .send text ∉ ((request method parameters).run session).effects := by
  rcases session with ⟨host, _ | ⟨timeout, attached⟩⟩
  · simp [request]
  · simp [request, unconnected]

theorem isConnected_of_running {host : Host} (running : host.hasEnded = false) (timeout : Float) :
    Session.isConnected ⟨host, .started timeout true⟩ = true := by
  simp [Session.isConnected, running]

theorem request_of_error {host : Host} {timeout : Float} {method : String}
    {parameters : List (String × Json)} {error : TransportError} {later : Session}
    (running : host.hasEnded = false)
    (exchanged : ((exchange timeout (message method parameters)).run
      ⟨host, .started timeout true⟩).value = (.error error, later)) :
    ((request method parameters).run ⟨host, .started timeout true⟩).value
        = (.null, ⟨{ later.host with ended := true }, .started timeout false⟩) ∧
      .notice (.requestFailed method error)
        ∈ ((request method parameters).run ⟨host, .started timeout true⟩).effects := by
  simp [request, isConnected_of_running running, exchanged, setClient]

theorem request_of_ok {host : Host} {timeout : Float} {method : String}
    {parameters fields : List (String × Json)} {later : Session}
    (running : host.hasEnded = false)
    (exchanged : ((exchange timeout (message method parameters)).run
      ⟨host, .started timeout true⟩).value = (.ok fields, later)) :
    ((request method parameters).run ⟨host, .started timeout true⟩).value
      = (reply fields, later) := by
  unfold reply
  cases refused : Json.lookup? "error" fields with
  | none => simp [request, isConnected_of_running running, exchanged, refused]
  | some reason => simp [request, isConnected_of_running running, exchanged, refused]

theorem stop_unconnected {session : Session} (unconnected : session.isConnected = false) :
    (stop.run session).value = ((), session) ∧ ∀ text, .send text ∉ (stop.run session).effects := by
  rcases session with ⟨host, _ | ⟨timeout, attached⟩⟩
  · simp [stop]
  · simp [stop, unconnected]

/-- However the last message fares, stopping ends the conversation. -/
theorem client_stop {host : Host} (running : host.hasEnded = false) (timeout : Float) :
    (stop.run ⟨host, .started timeout true⟩).value.2.client = .started timeout false := by
  have sent : ((onHost (·.send (message "shutdown" []))).run ⟨host, .started timeout true⟩).value
      = ((host.send (message "shutdown" [])).value.1,
          ⟨(host.send (message "shutdown" [])).value.2, .started timeout true⟩) := rfl
  cases result : (host.send (message "shutdown" [])).value.1 with
  | error error => simp [stop, isConnected_of_running running, sent, result, setClient]
  | ok _ => simp [stop, isConnected_of_running running, sent, result, setClient]

end Conversation

theorem Session.isConnected_of_detached {session : Session} {timeout : Float}
    (detached : session.client = .started timeout false) : session.isConnected = false := by
  simp [isConnected, detached]

/-- Parameters as a caller can give them: none of them has a reserved name. -/
structure Parameters where
  fields : List (String × Json)
  unreserved : ∀ field ∈ fields, field.1 ∉ Conversation.reservedNames

/-- A call on a client. -/
inductive Call where
  | request (method : String) (parameters : Parameters)
  | association (model name : String)
  | route (name : String)
  | action (controller name : String)
  | stop

namespace Call

/-- What a call gives. A request with parameters of the caller's choice may be refused. -/
def Answer : Call → Type
  | request .. => Except String Json
  | association .. | route .. => Option (List (String × Json))
  | action .. => Option (List (List (String × Json)))
  | stop => Unit

/-- Makes a call. -/
def run : (call : Call) → Conversation call.Answer
  | request method parameters => Conversation.requestWith method parameters.fields
  | association model name => Conversation.associationTarget model name
  | route name => Conversation.routeLocation name
  | action controller name => Conversation.actionTargets controller name
  | stop => Conversation.stop

/-- The method for which a call asks. -/
def method : Call → String
  | request method _ => method
  | association .. => "association_target"
  | route .. => "route_location"
  | action .. => "controller_action_target"
  | stop => "shutdown"

/-- The parameters that a call gives. -/
def parameters : Call → List (String × Json)
  | request _ parameters => parameters.fields
  | association model name => [("model_name", .string model), ("association_name", .string name)]
  | route name => [("name", .string name)]
  | action controller name => [("controller", .string controller), ("action", .string name)]
  | stop => []

/-- The answer that a result of the runner makes for a call. -/
def read : (call : Call) → Json → call.Answer
  | request .., result => (.ok result : Except String Json)
  | association .., result | route .., result => Conversation.place? result
  | action .., .object fields => some [fields]
  | action .., .array items => some (items.filterMap Conversation.place?)
  | action .., _ => none
  | stop, _ => ()

/-- The answer of a call that is not answered. -/
def nothing : (call : Call) → call.Answer
  | request .. => (.ok .null : Except String Json)
  | association .. | route .. | action .. => none
  | stop => ()

theorem read_null (call : Call) : call.read .null = call.nothing := by
  cases call <;> rfl

theorem requestWith_eq (method : String) (parameters : Parameters) :
    Conversation.requestWith method parameters.fields
      = Except.ok <$> Conversation.request method parameters.fields := by
  have free : (parameters.fields.map (·.1)).find? Conversation.reservedNames.contains = none := by
    rw [List.find?_eq_none]
    intro name member
    rcases List.mem_map.mp member with ⟨field, fieldMem, rfl⟩
    simpa using parameters.unreserved field fieldMem
  rw [Conversation.requestWith, free]
  exact bind_pure_comp _ _

/-- Every call but the last one of a client makes a request, and reads its result. -/
theorem run_eq {call : Call} (asks : call ≠ stop) :
    call.run = call.read <$> Conversation.request call.method call.parameters := by
  cases call with
  | request method parameters => exact requestWith_eq method parameters
  | association model name => rfl
  | route name => rfl
  | action controller name =>
      simp only [run, Conversation.actionTargets, map_eq_pure_bind]
      refine congrArg _ (funext fun result => ?_)
      cases result <;> rfl
  | stop => exact absurd rfl asks

end Call

/-- A call that was made: its answer, what could be seen of it, and the session around it. -/
structure Made where
  call : Call
  before : Session
  answer : call.Answer
  effects : List Effect
  after : Session

/-- Makes a call in a session. -/
def Call.make (call : Call) (session : Session) : Made :=
  ⟨call, session, (call.run.run session).value.1, (call.run.run session).effects,
    (call.run.run session).value.2⟩

namespace Made

/-- The bytes that can be read for a request once its message is taken. -/
def arrived (made : Made) : List UInt8 :=
  made.before.host.taken.stream

/-- A call is answered by a frame: by what it says, with all of it and nothing else read, and
without an end of the conversation. -/
structure AnsweredBy (made : Made) (frame : Frame.Whole) : Prop where
  connected : made.before.isConnected = true
  answer_eq : made.answer = made.call.read (Conversation.reply frame.fields)
  arrived_eq : made.arrived = frame.bytes ++ made.after.host.stream
  attached : made.after.client = made.before.client

/-- How a conversation ends. -/
inductive Ends (made : Made) : Prop where
  | stopped (stops : made.call = .stop)
  /-- The process is gone. -/
  | gone (unconnected : made.before.isConnected = false)
  /-- The message finds the input closed. -/
  | refused (refuses : made.before.host.refusesNext = true)
      (reported : .notice (.requestFailed made.call.method .brokenPipe) ∈ made.effects)
  /-- Time runs out: when no whole frame has been read yet, the clock has passed the deadline or a
  pause goes beyond it. -/
  | late (timeout : Float) (started : made.before.client = .started timeout true)
      (bytes : List UInt8) (noFrame : ∀ frame : Frame.Whole, ¬frame.bytes <+: bytes)
      (later : Host) (hasRead : made.before.host.taken.HasRead bytes later)
      (isLate : later.IsLate (made.before.host.taken.clock + timeout))
      (reported : .notice (.requestFailed made.call.method .timeout) ∈ made.effects)
  /-- There is no whole frame to be read. The output is found closed only when all of it has been
  read and its end comes in time. -/
  | failed (timeout : Float) (started : made.before.client = .started timeout true)
      (error : TransportError) (inTime : error ≠ .timeout)
      (noFrame : ∀ frame : Frame.Whole, ¬frame.bytes <+: made.arrived)
      (ended : error = .closed →
        made.before.host.taken.EndsBy (made.before.host.taken.clock + timeout))
      (reported : .notice (.requestFailed made.call.method error) ∈ made.effects)

/-- A call does nothing: it is not answered, and not a byte is written or read for it. -/
structure IsIdle (made : Made) : Prop where
  answer_eq : made.answer = made.call.nothing
  after_eq : made.after = made.before
  unsent : ∀ text, .send text ∉ made.effects

end Made

namespace Call

theorem value_run {call : Call} (asks : call ≠ stop) (session : Session) :
    (call.run.run session).value
      = (call.read ((Conversation.request call.method call.parameters).run session).value.1,
          ((Conversation.request call.method call.parameters).run session).value.2) := by
  rw [run_eq asks]
  simp

theorem effects_run {call : Call} (asks : call ≠ stop) (session : Session) :
    (call.run.run session).effects
      = ((Conversation.request call.method call.parameters).run session).effects := by
  rw [run_eq asks]
  simp

theorem isIdle_make {session : Session} (unconnected : session.isConnected = false)
    (call : Call) : (call.make session).IsIdle := by
  by_cases stops : call = stop
  · subst stops
    rcases Conversation.stop_unconnected unconnected with ⟨value, unsent⟩
    exact ⟨rfl, congrArg Prod.snd value, unsent⟩
  · rcases Conversation.request_unconnected unconnected call.method call.parameters with
      ⟨value, unsent⟩
    have run := value_run stops session
    rw [value] at run
    refine ⟨?_, congrArg Prod.snd run, ?_⟩
    · exact (congrArg Prod.fst run).trans call.read_null
    · simpa [make, effects_run stops] using unsent

/-- Whatever the error is, it leaves the client detached and the call without an answer. -/
theorem make_of_error {call : Call} (asks : call ≠ stop) {host : Host}
    (running : host.hasEnded = false) {timeout : Float} {error : TransportError}
    {session : Session}
    (exchanged : ((Conversation.exchange timeout
      (Conversation.message call.method call.parameters)).run
        ⟨host, .started timeout true⟩).value = (.error error, session)) :
    .notice (.requestFailed call.method error)
        ∈ (call.make ⟨host, .started timeout true⟩).effects ∧
      (call.make ⟨host, .started timeout true⟩).answer = call.nothing ∧
      (call.make ⟨host, .started timeout true⟩).after.isConnected = false := by
  have run := value_run asks ⟨host, .started timeout true⟩
  have effects := effects_run asks ⟨host, .started timeout true⟩
  rcases Conversation.request_of_error running exchanged with ⟨value, reported⟩
  rw [value] at run
  rw [← effects] at reported
  exact ⟨reported, (congrArg Prod.fst run).trans call.read_null,
    Session.isConnected_of_detached (congrArg (·.2.client) run)⟩

/-- A call on a client that is attached is answered by the next frame, or ends the conversation. -/
theorem make_cases (call : Call) (host : Host) (timeout : Float) :
    (∃ (frame : Frame.Whole) (later : Host), host.taken.HasRead frame.bytes later ∧
      (call.make ⟨host, .started timeout true⟩).after = ⟨later, .started timeout true⟩ ∧
      (call.make ⟨host, .started timeout true⟩).AnsweredBy frame) ∨
    (call.make ⟨host, .started timeout true⟩).Ends ∧
      (call.make ⟨host, .started timeout true⟩).answer = call.nothing ∧
      (call.make ⟨host, .started timeout true⟩).after.isConnected = false := by
  cases running : host.hasEnded with
  | true =>
      have unconnected : Session.isConnected ⟨host, .started timeout true⟩ = false := by
        simp [Session.isConnected, running]
      have idle := isIdle_make unconnected call
      refine Or.inr ⟨.gone unconnected, idle.answer_eq, ?_⟩
      rw [idle.after_eq]
      exact unconnected
  | false =>
      by_cases stops : call = stop
      · subst stops
        exact Or.inr ⟨.stopped rfl, rfl,
          Session.isConnected_of_detached (Conversation.client_stop running timeout)⟩
      · have run := value_run stops ⟨host, .started timeout true⟩
        have exchanged := Conversation.value_exchange timeout
          (Conversation.message call.method call.parameters) host (.started timeout true)
        cases refuses : host.refusesNext with
        | true =>
            rw [refuses] at exchanged
            rcases make_of_error stops running exchanged with ⟨reported, unanswered, detached⟩
            exact Or.inr ⟨.refused refuses reported, unanswered, detached⟩
        | false =>
            rw [refuses] at exchanged
            have outcome := host.taken.outcome_receive timeout
            generalize host.taken.receive timeout = received at exchanged outcome
            cases outcome with
            | late hasRead isLate lacks =>
                rcases make_of_error stops running exchanged with ⟨reported, unanswered, detached⟩
                have noFrame := (Host.lacks_fieldsOfFrame_iff _).mp lacks
                exact Or.inr ⟨.late timeout rfl _ noFrame _ hasRead isLate reported, unanswered,
                  detached⟩
            | failed inTime endsBy lacks =>
                rcases make_of_error stops running exchanged with ⟨reported, unanswered, detached⟩
                have noFrame := (Host.lacks_fieldsOfFrame_iff _).mp lacks
                exact Or.inr ⟨.failed timeout rfl _ inTime noFrame endsBy reported, unanswered,
                  detached⟩
            | @complete bytes fields later hasRead isWanted =>
                rw [Conversation.request_of_ok running exchanged] at run
                rcases isWanted with ⟨frame, rfl, rfl⟩
                have after : (call.make ⟨host, .started timeout true⟩).after
                    = ⟨later, .started timeout true⟩ := congrArg Prod.snd run
                refine Or.inl ⟨frame, later, hasRead, after,
                  Conversation.isConnected_of_running running timeout, congrArg Prod.fst run, ?_,
                  ?_⟩
                · rw [after]
                  exact hasRead.stream_eq
                · rw [after]
                  rfl

end Call

/-- What happens to a client and its runner. -/
inductive Move where
  | call (call : Call)
  /-- The process exits by itself. -/
  | exit

/-- The session after the process has exited. -/
def Session.exit (session : Session) : Session :=
  { session with host := { session.host with ended := true } }

/-- The calls that are made in a session, one after another. -/
def transcript : List Move → Session → List Made
  | [], _ => []
  | .exit :: moves, session => transcript moves session.exit
  | .call call :: moves, session =>
      call.make session :: transcript moves (call.make session).after

theorem Session.isConnected_exit (session : Session) : session.exit.isConnected = false := by
  rcases session with ⟨host, _ | ⟨timeout, _ | _⟩⟩
  · rfl
  · rfl
  · simp [isConnected, exit, Host.hasEnded]

/-- Once there is no connection, there is none ever after, and calls do nothing. -/
theorem isIdle_of_mem_transcript {session : Session} (unconnected : session.isConnected = false)
    (moves : List Move) :
    ∀ made ∈ transcript moves session, made.IsIdle ∧ made.after.isConnected = false := by
  induction moves generalizing session with
  | nil => simp [transcript]
  | cons move moves hypothesis =>
      cases move with
      | exit => exact hypothesis session.isConnected_exit
      | call call =>
          have idle := call.isIdle_make unconnected
          have stays : (call.make session).after.isConnected = false := by
            rw [idle.after_eq]
            exact unconnected
          intro made member
          rcases List.mem_cons.mp member with rfl | later
          · exact ⟨idle, stays⟩
          · exact hypothesis stays made later

/-- The output that a runner has brought when it has taken a number of messages. -/
def Host.emitted (host : Host) (count : Nat) : List Emission :=
  host.output ++ (host.batches.take count).flatten

theorem Host.emitted_succ (host : Host) (count : Nat) :
    host.emitted (count + 1) = host.taken.output ++ (host.taken.batches.take count).flatten := by
  cases batches : host.batches with
  | nil => simp [emitted, taken, emit, batches]
  | cons batch rest => simp [emitted, taken, emit, batches]

/-- Whatever the runner does, the calls on a client that is attached to it are first requests that
are answered, each by one whole frame, the frames being those with which the output of the runner
begins. Then one call at most ends the conversation, and all later ones do nothing. No call but an
answered one has an answer, and none is refused. -/
theorem transcript_eq_answered_append (host : Host) (timeout : Float) (moves : List Move) :
    ∃ (answered rest : List Made) (frames : List Frame.Whole),
      transcript moves ⟨host, .started timeout true⟩ = answered ++ rest ∧
      List.Forall₂ Made.AnsweredBy answered frames ∧
      frames.flatMap Frame.Whole.bytes <+: Emission.stream (host.emitted answered.length) ∧
      (∀ made ∈ rest.head?, made.Ends) ∧
      (∀ made ∈ rest, made.answer = made.call.nothing ∧ made.after.isConnected = false) ∧
      ∀ made ∈ rest.tail, made.IsIdle := by
  induction moves generalizing host with
  | nil => exact ⟨[], [], [], rfl, .nil, List.nil_prefix, by simp, by simp, by simp⟩
  | cons move moves hypothesis =>
      cases move with
      | exit => exact hypothesis { host with ended := true }
      | call call =>
          rcases call.make_cases host timeout with
            ⟨frame, later, hasRead, after, isAnswered⟩ | ⟨ends, unanswered, detached⟩
          · rcases hypothesis later with
              ⟨answered, rest, frames, parts, areAnswered, inStream, ending, unanswered, idle⟩
            refine ⟨call.make ⟨host, .started timeout true⟩ :: answered, rest, frame :: frames, ?_,
              .cons isAnswered areAnswered, ?_, ending, unanswered, idle⟩
            · rw [transcript, after, parts, List.cons_append]
            · have sameBatches : later.batches = host.taken.batches := by
                rw [hasRead.later_eq]
                rfl
              rw [List.length_cons, Host.emitted_succ, hasRead.stream_append, List.flatMap_cons,
                ← sameBatches]
              exact (List.prefix_append_right_inj frame.bytes).mpr inStream
          · have idle := isIdle_of_mem_transcript detached moves
            refine ⟨[], call.make ⟨host, .started timeout true⟩ ::
              transcript moves (call.make ⟨host, .started timeout true⟩).after, [], rfl, .nil,
              List.nil_prefix, ?_, ?_, fun made member => (idle made member).1⟩
            · simpa using ends
            · intro made member
              rcases List.mem_cons.mp member with rfl | later
              · exact ⟨unanswered, detached⟩
              · exact ⟨(idle made later).1.answer_eq, (idle made later).2⟩

end RailsNavigator.Runner
