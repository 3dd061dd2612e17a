import Mathlib.Data.List.Infix
import RailsNavigator.Runner.Host

/-!
# The stream of the runner's output

The output of the runner comes in pieces and with pauses, and the client takes it in pieces of its
own: a header byte by byte, a body in as few reads as it gets. Neither division matters. What counts
is the stream of bytes, of which every read takes a first part, and the clock, which is moved by the
pauses before the bytes that are read. The main results of this file are about reading a frame. What
is received is the whole frame at the head of the stream, no byte more or less, and a whole frame at
the head of the stream is received unless time runs out. If it does, then the clock has passed the
deadline, or a pause goes beyond it, when no whole frame has been read; and the output is only taken
for closed when all of it has been read and its end has come in time.
-/

namespace RailsNavigator.Runner

namespace Emission

/-- The bytes that can be read before the output ends. An empty piece is read like the end. -/
def stream : List Emission → List UInt8
  | bytes (first :: chunk) :: rest => first :: chunk ++ stream rest
  | delay _ :: rest => stream rest
  | _ => []

/-- The clock and the output when a number of bytes has been read and the pauses before them have
passed. -/
def after (clock : Float) : Nat → List Emission → Float × List Emission
  | 0, output => (clock, output)
  | count + 1, delay seconds :: rest => after (clock + seconds) (count + 1) rest
  | count + 1, bytes chunk :: rest =>
      if chunk.length ≤ count + 1 then after clock (count + 1 - chunk.length) rest
      else (clock, bytes (chunk.drop (count + 1)) :: rest)
  | _, output => (clock, output)

/-- The pauses before the next bytes take more than the remaining seconds. Where nothing follows,
not even the end, there is no end of waiting. -/
def Outlasts (remaining : Float) : List Emission → Prop
  | [] => True
  | delay seconds :: rest => seconds > remaining ∨ Outlasts (remaining - seconds) rest
  | _ => False

theorem length_stream_le (output : List Emission) : (stream output).length ≤ available output := by
  fun_induction stream output with
  | case1 first chunk rest hypothesis =>
      simp only [available, List.length_append, List.length_cons] at hypothesis ⊢
      omega
  | case2 seconds rest hypothesis => exact hypothesis
  | case3 => simp

theorem stream_bytes {chunk : List UInt8} (nonempty : chunk ≠ []) (rest : List Emission) :
    stream (bytes chunk :: rest) = chunk ++ stream rest := by
  cases chunk with
  | nil => exact absurd rfl nonempty
  | cons first chunk => rfl

/-- Waiting changes pauses only. -/
theorem stream_pass (clock remaining : Float) (output : List Emission) :
    stream (pass clock remaining output).2.2 = stream output := by
  fun_induction pass clock remaining output with
  | case1 => rfl
  | case2 => rfl
  | case3 clock remaining seconds rest enough hypothesis => exact hypothesis
  | case4 => rfl

theorem take_isPrefix_stream (size : Nat) (output : List Emission) :
    (take size output).1 <+: stream output := by
  unfold take
  split
  · rename_i chunk rest
    by_cases nonempty : chunk = []
    · simp [nonempty]
    · rw [stream_bytes nonempty]
      split
      · exact List.prefix_append chunk (stream rest)
      · exact (List.take_prefix size chunk).trans (List.prefix_append chunk (stream rest))
  · exact List.nil_prefix

theorem length_take_le (size : Nat) (output : List Emission) :
    (take size output).1.length ≤ size := by
  unfold take
  split
  · rename_i chunk rest
    cases left : chunk.drop size with
    | nil => simpa using left
    | cons next others => exact List.length_take_le size chunk
  · simp

/-- Something can be taken where the stream goes on and nothing is to be waited for. -/
theorem take_ne_nil {size : Nat} {clock remaining : Float} {output : List Emission}
    (positive : 0 < size) (ready : (pass clock remaining output).1 = true)
    (goesOn : stream output ≠ []) : (take size (pass clock remaining output).2.2).1 ≠ [] := by
  fun_induction pass clock remaining output with
  | case1 => exact absurd rfl goesOn
  | case2 => cases ready
  | case3 clock remaining seconds rest enough hypothesis => exact hypothesis ready goesOn
  | case4 clock remaining output notEmpty notDelay =>
      rcases output with _ | ⟨chunk | seconds | _, rest⟩
      · exact absurd rfl goesOn
      · cases chunk with
        | nil => exact absurd rfl goesOn
        | cons first chunk =>
            obtain ⟨size, rfl⟩ := Nat.exists_eq_succ_of_ne_zero positive.ne'
            simp only [take]
            split <;> simp
      · exact absurd rfl (notDelay seconds rest)
      · exact absurd rfl goesOn

@[simp]
theorem after_zero (clock : Float) (output : List Emission) :
    after clock 0 output = (clock, output) := by
  cases output <;> rfl

theorem after_bytes {chunk : List UInt8} (nonempty : chunk ≠ []) (clock : Float) (count : Nat)
    (rest : List Emission) :
    after clock count (bytes chunk :: rest)
      = if chunk.length ≤ count then after clock (count - chunk.length) rest
        else (clock, bytes (chunk.drop count) :: rest) := by
  cases count with
  | zero => simp [nonempty]
  | succ count => rfl

theorem chunk_ne_nil {chunk : List UInt8} {rest : List Emission} {count : Nat}
    (enough : count + 1 ≤ (stream (bytes chunk :: rest)).length) : chunk ≠ [] := by
  rintro rfl
  simp [stream] at enough

/-- Reading takes a first part of the stream, whatever comes after it. -/
theorem stream_append_eq_after {count : Nat} {output : List Emission}
    (enough : count ≤ (stream output).length) (clock : Float) (more : List Emission) :
    stream (output ++ more)
      = (stream output).take count ++ stream ((after clock count output).2 ++ more) := by
  induction output generalizing clock count with
  | nil => cases count <;> simp [stream, after]
  | cons piece rest hypothesis =>
      cases count with
      | zero => simp
      | succ count =>
          cases piece with
          | eof => simp [stream] at enough
          | delay seconds => simpa [stream, after] using hypothesis enough (clock + seconds)
          | bytes chunk =>
              have nonempty := chunk_ne_nil enough
              rw [stream_bytes nonempty, List.length_append] at enough
              rw [List.cons_append, stream_bytes nonempty, stream_bytes nonempty,
                after_bytes nonempty]
              split
              · rename_i whole
                rw [List.take_append, List.take_of_length_le whole, List.append_assoc,
                  ← hypothesis (by omega)]
              · rename_i part
                have left : chunk.drop (count + 1) ≠ [] := by
                  simpa using part
                rw [List.take_append_of_le_length (by omega), List.cons_append, stream_bytes left,
                  ← List.append_assoc, List.take_append_drop]

/-- Reading can be interrupted anywhere. -/
theorem after_add {count : Nat} {output : List Emission} (enough : count ≤ (stream output).length)
    (clock : Float) (further : Nat) :
    after clock (count + further) output
      = after (after clock count output).1 further (after clock count output).2 := by
  induction output generalizing clock count with
  | nil =>
      simp only [stream, List.length_nil, Nat.le_zero] at enough
      simp [enough]
  | cons piece rest hypothesis =>
      cases count with
      | zero => simp
      | succ count =>
          cases piece with
          | eof => simp [stream] at enough
          | delay seconds =>
              have interrupted := hypothesis enough (clock + seconds)
              rw [Nat.add_right_comm] at interrupted ⊢
              simpa [after] using interrupted
          | bytes chunk =>
              have nonempty := chunk_ne_nil enough
              rw [stream_bytes nonempty, List.length_append] at enough
              rw [after_bytes nonempty, after_bytes nonempty]
              by_cases whole : chunk.length ≤ count + 1
              · have sum : count + 1 + further - chunk.length
                    = count + 1 - chunk.length + further := by omega
                rw [if_pos whole, if_pos (by omega), sum]
                exact hypothesis (by omega) clock
              · have left : chunk.drop (count + 1) ≠ [] := by simpa using whole
                rw [if_neg whole, after_bytes left, List.length_drop, List.drop_drop]
                by_cases reached : chunk.length ≤ count + 1 + further
                · have beyond : count + 1 + further - chunk.length
                      = further - (chunk.length - (count + 1)) := by omega
                  rw [if_pos reached, if_pos (by omega), beyond]
                · rw [if_neg reached, if_neg (by omega)]

/-- Where waiting is over in time, what is read does not depend on it. -/
theorem after_of_pass {clock remaining later : Float} {output left : List Emission}
    (passed : pass clock remaining output = (true, later, left)) {count : Nat}
    (positive : 0 < count) : after clock count output = after later count left := by
  obtain ⟨count, rfl⟩ := Nat.exists_eq_succ_of_ne_zero positive.ne'
  fun_induction pass clock remaining output with
  | case1 => simp at passed
  | case2 => simp at passed
  | case3 clock remaining seconds rest enough hypothesis => exact hypothesis passed
  | case4 =>
      cases passed
      rfl

theorem after_take {size : Nat} {output : List Emission} (taken : (take size output).1 ≠ [])
    (clock : Float) :
    after clock (take size output).1.length output = (clock, (take size output).2) := by
  unfold take at taken ⊢
  split at taken
  · rename_i chunk rest
    have nonempty : chunk ≠ [] := by
      rintro rfl
      simp at taken
    rw [after_bytes nonempty]
    cases left : chunk.drop size with
    | nil => simp
    | cons next others =>
        have part : size < chunk.length := by
          by_contra whole
          rw [List.drop_eq_nil_of_le (by omega)] at left
          cases left
        have isLength : (chunk.take size).length = size := by
          rw [List.length_take]
          omega
        rw [isLength, if_neg (by omega), left]
  · exact absurd rfl taken

theorem ready_pass_eq_false_iff (clock remaining : Float) (output : List Emission) :
    (pass clock remaining output).1 = false ↔ Outlasts remaining output := by
  fun_induction pass clock remaining output with
  | case1 => simp [Outlasts]
  | case2 clock remaining seconds rest long => simp [Outlasts, long]
  | case3 clock remaining seconds rest short hypothesis => simp [Outlasts, short, hypothesis]
  | case4 clock remaining output notEmpty notDelay =>
      rcases output with _ | ⟨chunk | seconds | _, rest⟩
      · exact absurd rfl notEmpty
      · simp [Outlasts]
      · exact absurd rfl (notDelay seconds rest)
      · simp [Outlasts]

/-- Without pauses reading takes no time. -/
theorem after_of_no_delay {output : List Emission} (unpaused : ∀ seconds, delay seconds ∉ output)
    (clock : Float) (count : Nat) :
    (after clock count output).1 = clock ∧
      ∀ seconds, delay seconds ∉ (after clock count output).2 := by
  induction output generalizing count with
  | nil => cases count <;> simp [after]
  | cons piece rest hypothesis =>
      have unpausedRest : ∀ seconds, delay seconds ∉ rest :=
        fun seconds member => unpaused seconds (List.mem_cons_of_mem _ member)
      cases count with
      | zero => simpa using unpaused
      | succ count =>
          cases piece with
          | eof => simpa [after] using unpausedRest
          | delay seconds => exact absurd List.mem_cons_self (unpaused seconds)
          | bytes chunk =>
              rw [after]
              split
              · exact hypothesis unpausedRest _
              · simpa using unpausedRest

theorem not_outlasts_of_no_delay {output : List Emission}
    (unpaused : ∀ seconds, delay seconds ∉ output) (nonempty : output ≠ []) (remaining : Float) :
    ¬Outlasts remaining output := by
  rcases output with _ | ⟨chunk | seconds | _, rest⟩
  · exact absurd rfl nonempty
  · exact id
  · exact absurd List.mem_cons_self (unpaused seconds)
  · exact id

end Emission

namespace Frame

/-- The bytes with which a header ends. -/
def blankLine : List UInt8 := [13, 10, 13, 10]

/-- A header ends with its first blank line. -/
structure IsHeader (bytes : List UInt8) : Prop where
  ends : blankLine <:+ bytes
  first : ∀ shorter, shorter <+: bytes → blankLine <:+ shorter → shorter = bytes

/-- A whole frame, and what it says. -/
structure Whole where
  header : List UInt8
  body : List UInt8
  length : Int
  fields : List (String × Json)
  isHeader : IsHeader header
  bodyLength_eq : bodyLength (headerText header) = .ok length
  length_body : body.length = length.toNat
  readBody_eq : readBody body = .ok fields

/-- The bytes of a frame. -/
def Whole.bytes (frame : Whole) : List UInt8 :=
  frame.header ++ frame.body

theorem IsHeader.eq_of_append_eq {header other rest more : List UInt8} (isHeader : IsHeader header)
    (isOther : IsHeader other) (same : header ++ rest = other ++ more) : header = other := by
  have inOther : header <+: other ++ more := same ▸ List.prefix_append header rest
  rcases List.prefix_or_prefix_of_prefix inOther (List.prefix_append other more) with
    shorter | longer
  · exact isOther.first header shorter isHeader.ends
  · exact (isHeader.first other longer isOther.ends).symm

/-- A stream has at most one frame at its head. -/
theorem Whole.eq_of_append_eq {frame other : Whole} {rest more : List UInt8}
    (same : frame.bytes ++ rest = other.bytes ++ more) : frame = other := by
  rcases frame with ⟨header, body, length, fields, isHeader, bodyLength_eq, length_body, read⟩
  rcases other with
    ⟨header', body', length', fields', isHeader', bodyLength_eq', length_body', read'⟩
  simp only [Whole.bytes, List.append_assoc] at same
  obtain rfl := isHeader.eq_of_append_eq isHeader' same
  rw [bodyLength_eq, Except.ok.injEq] at bodyLength_eq'
  subst bodyLength_eq'
  have sameBodies := List.append_cancel_left same
  obtain rfl := List.append_inj_left sameBodies (length_body.trans length_body'.symm)
  rw [read, Except.ok.injEq] at read'
  subst read'
  rfl

/-- A frame that begins with a header has this header, and its body comes after it. -/
theorem Whole.of_isPrefix_append {frame : Whole} {header more : List UInt8}
    (isHeader : IsHeader header) (isPrefix : frame.bytes <+: header ++ more) :
    frame.header = header ∧ frame.body <+: more := by
  rcases isPrefix with ⟨rest, whole⟩
  rw [Whole.bytes, List.append_assoc] at whole
  have sameHeader := frame.isHeader.eq_of_append_eq isHeader whole
  rw [sameHeader] at whole
  exact ⟨sameHeader, rest, List.append_cancel_left whole⟩

/-- The length that a header gives is that of the body of every frame with this header. -/
theorem Whole.length_body_of_header {frame : Whole} {header : List UInt8} {length : Int}
    (sameHeader : frame.header = header)
    (lengthRead : bodyLength (headerText header) = .ok length) :
    frame.body.length = length.toNat := by
  have lengthOfFrame := frame.bodyLength_eq
  rw [sameHeader, lengthRead, Except.ok.injEq] at lengthOfFrame
  rw [frame.length_body, lengthOfFrame]

theorem endsHeader_iff (seen : List UInt8) :
    endsHeader seen = true ↔ blankLine <:+ seen.reverse := by
  rw [← List.reverse_prefix, List.reverse_reverse]
  have reversed : blankLine.reverse = [10, 13, 10, 13] := rfl
  rw [reversed]
  unfold endsHeader
  split
  · simp only [Bool.and_eq_true, beq_iff_eq, List.cons_prefix_cons, List.nil_prefix, and_true,
      and_assoc]
    grind
  · rename_i short
    simp only [Bool.false_eq_true, false_iff]
    rintro ⟨rest, rfl⟩
    exact short 10 13 10 13 rest rfl

/-- No blank line stands in some bytes before their end. -/
def Unbroken (bytes : List UInt8) : Prop :=
  ∀ shorter, shorter <+: bytes → blankLine <:+ shorter → shorter = bytes

theorem isHeader_of_endsHeader {seen : List UInt8} (unbroken : Unbroken seen.reverse)
    (ended : endsHeader seen = true) : IsHeader seen.reverse :=
  ⟨(endsHeader_iff seen).mp ended, unbroken⟩

theorem unbroken_nil : Unbroken [] := fun _ isPrefix _ => List.prefix_nil.mp isPrefix

theorem unbroken_cons {seen : List UInt8} (unbroken : Unbroken seen.reverse)
    (goesOn : ¬endsHeader seen = true) (byte : UInt8) : Unbroken (byte :: seen).reverse := by
  intro shorter isPrefix ends
  rw [List.reverse_cons] at isPrefix ⊢
  rcases List.prefix_concat_iff.mp isPrefix with whole | shorterPrefix
  · exact whole
  · -- The bytes seen so far would have ended the header.
    have whole := unbroken shorter shorterPrefix ends
    subst whole
    exact absurd ((endsHeader_iff seen).mpr ends) goesOn

end Frame

namespace Host

/-- The bytes that can be read before the next message. -/
def stream (host : Host) : List UInt8 :=
  Emission.stream host.output

/-- The runner when a number of bytes of its output has been read. -/
def after (host : Host) (count : Nat) : Host :=
  { host with
    clock := (Emission.after host.clock count host.output).1
    output := (Emission.after host.clock count host.output).2 }

/-- The time up to a deadline runs out before anything can be read: the clock has passed it, or a
pause goes beyond it. -/
def IsLate (deadline : Float) (host : Host) : Prop :=
  deadline - host.clock ≤ 0 ∨ Emission.Outlasts (deadline - host.clock) host.output

/-- Once all of the stream has been read, the end of the output comes before a deadline. -/
def EndsBy (deadline : Float) (host : Host) : Prop :=
  ¬(host.after host.stream.length).IsLate deadline

/-- Some bytes were read: they were the first of the stream, and but for the clock and the output
nothing has changed. -/
structure HasRead (host : Host) (bytes : List UInt8) (later : Host) : Prop where
  arrives : bytes <+: host.stream
  later_eq : later = host.after bytes.length

theorem after_add {count : Nat} {host : Host} (enough : count ≤ host.stream.length)
    (further : Nat) : host.after (count + further) = (host.after count).after further := by
  simp only [after, Emission.after_add enough]

namespace HasRead

theorem refl (host : Host) : host.HasRead [] host :=
  ⟨List.nil_prefix, by simp [after]⟩

theorem stream_append {host later : Host} {bytes : List UInt8} (read : host.HasRead bytes later)
    (more : List Emission) :
    Emission.stream (host.output ++ more) = bytes ++ Emission.stream (later.output ++ more) := by
  have parts := Emission.stream_append_eq_after read.arrives.length_le host.clock more
  rw [List.prefix_iff_eq_take.mp read.arrives, read.later_eq]
  exact parts

theorem stream_eq {host later : Host} {bytes : List UInt8} (read : host.HasRead bytes later) :
    host.stream = bytes ++ later.stream := by
  simpa [stream] using read.stream_append []

theorem trans {host middle later : Host} {bytes more : List UInt8}
    (first : host.HasRead bytes middle) (second : middle.HasRead more later) :
    host.HasRead (bytes ++ more) later := by
  constructor
  · rw [first.stream_eq]
    exact (List.prefix_append_right_inj bytes).mpr second.arrives
  · rw [second.later_eq, first.later_eq, List.length_append, after_add first.arrives.length_le]

theorem endsBy {deadline : Float} {host later : Host} {bytes : List UInt8}
    (read : host.HasRead bytes later) (ends : later.EndsBy deadline) : host.EndsBy deadline := by
  rw [EndsBy, read.stream_eq, List.length_append, after_add read.arrives.length_le,
    ← read.later_eq]
  exact ends

end HasRead

/-- A read is late or not. If it is not, then it gives what can be taken after the pauses. -/
theorem read_cases (size : Nat) (deadline : Float) (host : Host) :
    (host.IsLate deadline ∧ ∃ later, host.read size deadline = (.error .timeout, later)) ∨
      ¬host.IsLate deadline ∧ ∃ clock output,
        Emission.pass host.clock (deadline - host.clock) host.output = (true, clock, output) ∧
        host.read size deadline
          = (if (Emission.take size output).1.isEmpty then .error .closed
              else .ok (Emission.take size output).1,
            { host with clock, output := (Emission.take size output).2 }) := by
  unfold read await
  by_cases late : deadline - host.clock ≤ 0
  · exact Or.inl ⟨Or.inl late, host, by simp [late]⟩
  · have waits := Emission.ready_pass_eq_false_iff host.clock (deadline - host.clock) host.output
    rcases passed : Emission.pass host.clock (deadline - host.clock) host.output with
      ⟨ready, clock, output⟩
    rw [passed] at waits
    cases ready with
    | false => exact Or.inl ⟨Or.inr (waits.mp rfl), _, by simp [late, passed]; rfl⟩
    | true =>
        have notLate : ¬host.IsLate deadline := by
          rintro (isLate | outlasts)
          · exact late isLate
          · cases waits.mpr outlasts
        exact Or.inr ⟨notLate, clock, output, rfl, by simp [late, passed]⟩

theorem hasRead_of_read {size : Nat} {deadline : Float} {host later : Host} {chunk : List UInt8}
    (done : host.read size deadline = (.ok chunk, later)) :
    chunk ≠ [] ∧ chunk.length ≤ size ∧ host.HasRead chunk later := by
  rcases read_cases size deadline host with ⟨-, _, timedOut⟩ | ⟨-, clock, output, passed, gives⟩
  · rw [timedOut] at done
    cases done
  · rw [gives, Prod.mk.injEq] at done
    rcases done with ⟨taken, rfl⟩
    split at taken
    · cases taken
    · rename_i nonempty
      cases taken
      have some : (Emission.take size output).1 ≠ [] := by simpa using nonempty
      have waited := Emission.stream_pass host.clock (deadline - host.clock) host.output
      rw [passed] at waited
      refine ⟨some, Emission.length_take_le size output, ?_, ?_⟩
      · rw [stream, ← waited]
        exact Emission.take_isPrefix_stream size output
      · rw [after, Emission.after_of_pass passed (List.length_pos_of_ne_nil some),
          Emission.after_take some]

/-- A read fails only if it is late or there is nothing more to read. -/
theorem read_error_cases {size : Nat} {deadline : Float} {host later : Host}
    {error : TransportError} (positive : 0 < size)
    (fails : host.read size deadline = (.error error, later)) :
    error = .timeout ∧ host.IsLate deadline ∨
      error = .closed ∧ host.stream = [] ∧ ¬host.IsLate deadline := by
  rcases read_cases size deadline host with
    ⟨isLate, last, timedOut⟩ | ⟨notLate, clock, output, passed, gives⟩
  · rw [timedOut] at fails
    cases fails
    exact Or.inl ⟨rfl, isLate⟩
  · rw [gives, Prod.mk.injEq] at fails
    rcases fails with ⟨taken, -⟩
    split at taken
    · rename_i nothing
      cases taken
      refine Or.inr ⟨rfl, ?_, notLate⟩
      by_contra goesOn
      have some := Emission.take_ne_nil positive (congrArg Prod.fst passed) goesOn
      rw [passed] at some
      exact some (by simpa using nothing)
    · cases taken

theorem exists_byte_of_read {deadline : Float} {host later : Host} {chunk : List UInt8}
    (done : host.read 1 deadline = (.ok chunk, later)) :
    ∃ byte, chunk = [byte] ∧ host.HasRead [byte] later := by
  rcases hasRead_of_read done with ⟨nonempty, short, read⟩
  obtain ⟨byte, rfl⟩ : ∃ byte, chunk = [byte] := by
    rw [← List.length_eq_one_iff]
    have := List.length_pos_of_ne_nil nonempty
    omega
  exact ⟨byte, rfl, read⟩

/-- Some bytes do not begin with what is wanted. -/
def Lacks {α : Type} (wanted : List UInt8 → α → Prop) (bytes : List UInt8) : Prop :=
  ∀ first value, first <+: bytes → ¬wanted first value

/-- What comes of reading, if a value is wanted that is made of the bytes read. -/
inductive Outcome {α : Type} (deadline : Float) (wanted : List UInt8 → α → Prop) (host : Host) :
    Except TransportError α × Host → Prop where
  /-- The value is there, and nothing beyond it has been read. -/
  | complete {bytes : List UInt8} {value : α} {later : Host} (hasRead : host.HasRead bytes later)
      (isWanted : wanted bytes value) : Outcome deadline wanted host (.ok value, later)
  /-- Time runs out before the value is there. -/
  | late {bytes : List UInt8} {middle later : Host} (hasRead : host.HasRead bytes middle)
      (isLate : middle.IsLate deadline) (lacks : Lacks wanted bytes) :
      Outcome deadline wanted host (.error .timeout, later)
  /-- The value does not come, even if the whole stream is read. -/
  | failed {error : TransportError} {later : Host} (inTime : error ≠ .timeout)
      (ended : error = .closed → host.EndsBy deadline) (lacks : Lacks wanted host.stream) :
      Outcome deadline wanted host (.error error, later)

theorem outcome_of_read_error {α : Type} {wanted : List UInt8 → α → Prop} {size : Nat}
    {deadline : Float} {host later : Host} {error : TransportError} (positive : 0 < size)
    (fails : host.read size deadline = (.error error, later)) (notYet : ∀ value, ¬wanted [] value) :
    host.Outcome deadline wanted (.error error, later) := by
  have lacks : Lacks wanted [] := by
    intro first value isPrefix
    rw [List.prefix_nil.mp isPrefix]
    exact notYet value
  rcases read_error_cases positive fails with ⟨rfl, isLate⟩ | ⟨rfl, ended, notLate⟩
  · exact .late (HasRead.refl host) isLate lacks
  · refine .failed (by decide) (fun _ => ?_) (ended ▸ lacks)
    simpa [EndsBy, ended, after] using notLate

/-- Reading that fails after some bytes have been read fails as a whole. -/
theorem HasRead.outcome_error {α β : Type} {wanted : List UInt8 → α → Prop}
    {wantedNext : List UInt8 → β → Prop} {deadline : Float} {host middle later : Host}
    {bytes : List UInt8} {error : TransportError} (read : host.HasRead bytes middle)
    (next : middle.Outcome deadline wantedNext (.error error, later))
    (lacks : ∀ more, Lacks wantedNext more → Lacks wanted (bytes ++ more)) :
    host.Outcome deadline wanted (.error error, later) := by
  cases next with
  | late readNext isLate lacksNext =>
      exact .late (read.trans readNext) isLate (lacks _ lacksNext)
  | failed inTime ended lacksNext =>
      refine .failed inTime (fun closed => read.endsBy (ended closed)) ?_
      rw [read.stream_eq]
      exact lacks _ lacksNext

/-- A header is wanted, of which some bytes were seen before. -/
def HeaderAfter (seen bytes header : List UInt8) : Prop :=
  header = seen.reverse ++ bytes ∧ Frame.IsHeader header

/-- A header is read byte by byte and not beyond its end. The bound of the loop is not reached,
since each step takes a byte from the stream. -/
theorem outcome_headerFrom {bound : Nat} {seen : List UInt8} {host : Host} (deadline : Float)
    (unbroken : Frame.Unbroken seen.reverse) (enough : host.stream.length < bound) :
    host.Outcome deadline (HeaderAfter seen) (headerFrom deadline bound seen host) := by
  induction bound generalizing seen host with
  | zero => exact absurd enough (Nat.not_lt_zero _)
  | succ bound hypothesis =>
      rw [headerFrom]
      split
      · rename_i ended
        refine .complete (HasRead.refl host) ⟨?_, Frame.isHeader_of_endsHeader unbroken ended⟩
        rw [List.append_nil]
      · rename_i goesOn
        have notYet : ∀ header, ¬HeaderAfter seen [] header := by
          rintro header ⟨rfl, isHeader⟩
          rw [List.append_nil] at isHeader
          exact goesOn ((Frame.endsHeader_iff seen).mpr isHeader.ends)
        split
        · rename_i error middle fails
          exact outcome_of_read_error Nat.one_pos fails notYet
        · rename_i chunk middle first
          rcases exists_byte_of_read first with ⟨byte, rfl, readFirst⟩
          have shorter : middle.stream.length < bound := by
            have lengths := congrArg List.length readFirst.stream_eq
            rw [List.length_append, List.length_singleton] at lengths
            omega
          have next := hypothesis (Frame.unbroken_cons unbroken goesOn byte) shorter
          have sameSeen : [byte].reverse ++ seen = byte :: seen := rfl
          rw [sameSeen]
          have moved : ∀ bytes, seen.reverse ++ byte :: bytes = (byte :: seen).reverse ++ bytes :=
            fun bytes => by simp
          generalize headerFrom deadline bound (byte :: seen) middle = result at next ⊢
          rcases result with ⟨error | header, last⟩
          · refine readFirst.outcome_error next fun more lacks => ?_
            rintro (_ | ⟨only, bytes⟩) header isPrefix wanted
            · exact notYet header wanted
            · obtain ⟨rfl, isPrefixMore⟩ := List.cons_prefix_cons.mp isPrefix
              exact lacks bytes header isPrefixMore ⟨moved bytes ▸ wanted.1, wanted.2⟩
          · rcases next with ⟨readRest, whole, isHeader⟩
            exact .complete (readFirst.trans readRest) ⟨whole.trans (moved _).symm, isHeader⟩

theorem outcome_readHeader (deadline : Float) (host : Host) :
    host.Outcome deadline (HeaderAfter []) (host.readHeader deadline) := by
  refine outcome_headerFrom deadline Frame.unbroken_nil (Nat.lt_succ_of_le ?_)
  exact Emission.length_stream_le host.output

/-- A number of bytes is wanted. -/
def BytesOfLength (size : Nat) (bytes value : List UInt8) : Prop :=
  value = bytes ∧ bytes.length = size

theorem lacks_bytesOfLength_iff (size : Nat) (bytes : List UInt8) :
    Lacks (BytesOfLength size) bytes ↔ bytes.length < size := by
  constructor
  · intro lacks
    by_contra enough
    have isLength : (bytes.take size).length = size := by
      rw [List.length_take]
      omega
    exact lacks _ _ (List.take_prefix size bytes) ⟨rfl, isLength⟩
  · rintro short first value isPrefix ⟨-, isLength⟩
    have := isPrefix.length_le
    omega

/-- Bytes are read in as many steps as it takes. Each of them takes one byte at least. -/
theorem outcome_bytesWithin {bound size : Nat} {host : Host} (deadline : Float)
    (enough : size ≤ bound) :
    host.Outcome deadline (BytesOfLength size) (bytesWithin deadline bound size host) := by
  induction bound generalizing size host with
  | zero => exact .complete (HasRead.refl host) ⟨rfl, (Nat.le_zero.mp enough).symm⟩
  | succ bound hypothesis =>
      rw [bytesWithin]
      split
      · rename_i nothing
        exact .complete (HasRead.refl host) ⟨rfl, nothing.symm⟩
      · rename_i something
        split
        · rename_i error middle fails
          refine outcome_of_read_error (Nat.pos_of_ne_zero something) fails ?_
          rintro value ⟨-, isLength⟩
          exact something isLength.symm
        · rename_i chunk middle first
          rcases hasRead_of_read first with ⟨nonempty, short, readFirst⟩
          have positive := List.length_pos_of_ne_nil nonempty
          have next := @hypothesis (size - chunk.length) middle (by omega)
          split
          · rename_i error last others
            rw [others] at next
            refine readFirst.outcome_error next fun more lacks => ?_
            rw [lacks_bytesOfLength_iff] at lacks ⊢
            rw [List.length_append]
            omega
          · rename_i rest last others
            rw [others] at next
            rcases next with ⟨readRest, rfl, isLength⟩
            refine .complete (readFirst.trans readRest) ⟨rfl, ?_⟩
            rw [List.length_append, isLength]
            omega

theorem outcome_readExact (deadline : Float) (size : Nat) (host : Host) :
    host.Outcome deadline (BytesOfLength size) (host.readExact deadline size) :=
  outcome_bytesWithin deadline le_rfl

end Host

namespace Frame

theorem mapM_readLength_error {fields : List (List Char)} {error : TransportError}
    (fails : fields.mapM readLength = .error error) : error = .badLength := by
  induction fields with
  | nil => cases fails
  | cons field fields hypothesis =>
      rw [List.mapM_cons] at fails
      cases first : readLength field with
      | error cause =>
          rw [first] at fails
          cases fails
          unfold readLength at first
          split at first <;> cases first
          rfl
      | ok length =>
          cases others : fields.mapM readLength with
          | error cause =>
              rw [first, others] at fails
              cases fails
              exact hypothesis others
          | ok lengths =>
              rw [first, others] at fails
              cases fails

/-- What is wrong with a frame has to do neither with time nor with the end of the output. -/
theorem bodyLength_error {header : List Char} {error : TransportError}
    (fails : bodyLength header = .error error) : error ≠ .timeout ∧ error ≠ .closed := by
  unfold bodyLength at fails
  cases read : ((lines header).filterMap lengthField?).mapM readLength with
  | error cause =>
      rw [read] at fails
      cases fails
      rw [mapM_readLength_error read]
      decide
  | ok lengths =>
      rw [read] at fails
      cases last : lengths.getLast? with
      | none =>
          simp only [bind, Except.bind, last] at fails
          cases fails
          decide
      | some length =>
          simp only [bind, Except.bind, last] at fails
          cases fails

theorem readBody_error {body : List UInt8} {error : TransportError}
    (fails : readBody body = .error error) : error ≠ .timeout ∧ error ≠ .closed := by
  unfold readBody at fails
  split at fails
  · cases fails
    decide
  · split at fails <;> cases fails <;> decide

end Frame

namespace Host

/-- The fields of a whole frame are wanted. -/
def FieldsOfFrame (bytes : List UInt8) (fields : List (String × Json)) : Prop :=
  ∃ frame : Frame.Whole, frame.bytes = bytes ∧ frame.fields = fields

theorem lacks_fieldsOfFrame_iff (bytes : List UInt8) :
    Lacks FieldsOfFrame bytes ↔ ∀ frame : Frame.Whole, ¬frame.bytes <+: bytes := by
  constructor
  · intro lacks frame isPrefix
    exact lacks frame.bytes frame.fields isPrefix ⟨frame, rfl, rfl⟩
  · rintro noFrame first fields isPrefix ⟨frame, rfl, -⟩
    exact noFrame frame isPrefix

/-- What is received is one whole frame, the next of the stream. A frame that is there is received
unless time runs out before it has been read. -/
theorem outcome_receive (timeout : Float) (host : Host) :
    host.Outcome (host.clock + timeout) FieldsOfFrame (host.receive timeout) := by
  simp only [receive]
  have headerOutcome := host.outcome_readHeader (host.clock + timeout)
  generalize host.readHeader (host.clock + timeout) = result at headerOutcome ⊢
  rcases result with ⟨error | header, middle⟩
  · refine (HasRead.refl host).outcome_error headerOutcome fun more lacks => ?_
    rw [lacks_fieldsOfFrame_iff]
    intro frame isPrefix
    exact lacks frame.header frame.header ((List.prefix_append _ _).trans isPrefix)
      ⟨rfl, frame.isHeader⟩
  · rcases headerOutcome with ⟨readHeader, rfl, isHeader⟩
    dsimp only
    split
    · rename_i error fails
      rcases Frame.bodyLength_error fails with ⟨inTime, notClosed⟩
      refine .failed inTime (fun closed => absurd closed notClosed) ?_
      rw [lacks_fieldsOfFrame_iff, readHeader.stream_eq]
      intro frame isPrefix
      have lengthRead := frame.bodyLength_eq
      rw [(Frame.Whole.of_isPrefix_append isHeader isPrefix).1] at lengthRead
      cases fails.symm.trans lengthRead
    · rename_i length lengthRead
      have bodyOutcome := middle.outcome_readExact (host.clock + timeout) length.toNat
      generalize middle.readExact (host.clock + timeout) length.toNat = result at bodyOutcome ⊢
      rcases result with ⟨error | body, last⟩
      · refine readHeader.outcome_error bodyOutcome fun more lacks => ?_
        rw [lacks_fieldsOfFrame_iff]
        intro frame isPrefix
        rcases Frame.Whole.of_isPrefix_append isHeader isPrefix with ⟨sameHeader, inMore⟩
        exact lacks frame.body frame.body inMore
          ⟨rfl, Frame.Whole.length_body_of_header sameHeader lengthRead⟩
      · rcases bodyOutcome with ⟨readBody, rfl, isLength⟩
        dsimp only
        cases bodyRead : Frame.readBody body with
        | error error =>
            rcases Frame.readBody_error bodyRead with ⟨inTime, notClosed⟩
            refine .failed inTime (fun closed => absurd closed notClosed) ?_
            rw [lacks_fieldsOfFrame_iff, readHeader.stream_eq, readBody.stream_eq]
            intro frame isPrefix
            rcases Frame.Whole.of_isPrefix_append isHeader isPrefix with ⟨sameHeader, inRest⟩
            have sameLength : frame.body.length = body.length :=
              (Frame.Whole.length_body_of_header sameHeader lengthRead).trans isLength.symm
            have inBody := List.prefix_of_prefix_length_le inRest (List.prefix_append body _)
              sameLength.le
            have bodyOfFrame := frame.readBody_eq
            rw [inBody.eq_of_length sameLength, bodyRead] at bodyOfFrame
            cases bodyOfFrame
        | ok fields =>
            exact .complete (readHeader.trans readBody)
              ⟨⟨header, body, length, fields, isHeader, lengthRead, isLength, bodyRead⟩, rfl, rfl⟩

/-- The output comes without pauses, and the time up to a deadline has not run out. -/
def IsPrompt (deadline : Float) (host : Host) : Prop :=
  ¬deadline - host.clock ≤ 0 ∧ ∀ seconds, .delay seconds ∉ host.output

namespace IsPrompt

/-- Reading from a prompt output takes no time. -/
theorem after {deadline : Float} {host : Host} (isPrompt : host.IsPrompt deadline) (count : Nat) :
    (host.after count).IsPrompt deadline ∧ (host.after count).clock = host.clock := by
  rcases Emission.after_of_no_delay isPrompt.2 host.clock count with ⟨sameClock, unpaused⟩
  refine ⟨⟨?_, unpaused⟩, sameClock⟩
  rw [Host.after, sameClock]
  exact isPrompt.1

theorem not_isLate {deadline : Float} {host : Host} (isPrompt : host.IsPrompt deadline)
    (goesOn : host.stream ≠ []) : ¬host.IsLate deadline := by
  have nonempty : host.output ≠ [] := by
    intro empty
    simp [stream, empty, Emission.stream] at goesOn
  rintro (late | outlasts)
  · exact isPrompt.1 late
  · exact Emission.not_outlasts_of_no_delay isPrompt.2 nonempty _ outlasts

/-- There is time enough to read all of a prompt output. -/
theorem stream_eq_of_isLate {deadline : Float} {host later : Host} {bytes : List UInt8}
    (isPrompt : host.IsPrompt deadline) (read : host.HasRead bytes later)
    (isLate : later.IsLate deadline) : host.stream = bytes := by
  have ended : later.stream = [] := by
    by_contra goesOn
    rw [read.later_eq] at isLate goesOn
    exact (isPrompt.after bytes.length).1.not_isLate goesOn isLate
  rw [read.stream_eq, ended, List.append_nil]

end IsPrompt

end Host

end RailsNavigator.Runner
