import HciSerial.Line.Faulty
import HciSerial.Proofs.Transport.Readiness

/-!
# Transports on a faulty line

A faulty line does what the line in memory inside it does, unless a failure of a closing or of
a change of the speed has been set up.  So does a transport on it, report for report.

## Main Definitions

* `FaultyLine.Control`: what can be done to a faulty line from outside.
* `Transport.inner`, `Transport.inside`: a transport on the line inside, and back.
* `FaultyLine.armed?`: the failure that has been set up for an operation.

## Main Results

* `Transport.apply_inside`: without such a failure, the line inside does the work.
* `Transport.Expects.perform_faulty`: every action keeps the line inside asked for what the framer
  wants.
-/

namespace HciSerial

namespace FaultyLine

/-- What can be done to a faulty line from outside. -/
inductive Control where
  /-- The line inside is changed. -/
  | line (control : MemoryLine.Control)
  /-- The next closing fails. -/
  | failClose (error : LineError)
  /-- The next change of the speed fails. -/
  | failSpeed (error : LineError)

/-- Applies a control. -/
def control (faulty : FaultyLine) : Control → FaultyLine
  | .line control => { faulty with line := faulty.line.control control }
  | .failClose error => { faulty with failNextClose := some error }
  | .failSpeed error => { faulty with failNextSpeed := some error }

instance : Controllable FaultyLine Control where
  control := control

/-- The failure of the outer line that has been set up for an operation. -/
def armed? (faulty : FaultyLine) : Operation → Option LineError
  | .close => faulty.failNextClose
  | .setBaudrate _ => faulty.failNextSpeed
  | _ => none

/-- A closing fails if that has been set up, and does nothing else. -/
theorem close_of_armed {faulty : FaultyLine} {error : LineError}
    (armed : faulty.failNextClose = some error) :
    faulty.close = { state := { faulty with failNextClose := none }, value := .error error } := by
  rw [close, armed]

/-- Any other closing is one of the line inside. -/
theorem close_of_unarmed {faulty : FaultyLine} (unarmed : faulty.failNextClose = none) :
    faulty.close = faulty.lift faulty.line.close := by
  unfold close
  split
  case h_1 error armed => cases armed.symm.trans unarmed
  case h_2 => rfl

/-- A change of the speed fails if that has been set up, and does nothing else. -/
theorem setBaudrate_of_armed {faulty : FaultyLine} {error : LineError} (rate : Nat)
    (armed : faulty.failNextSpeed = some error) :
    faulty.setBaudrate rate =
      { state := { faulty with failNextSpeed := none }, value := .error error } := by
  rw [setBaudrate, armed]

/-- Any other change of the speed is one of the line inside. -/
theorem setBaudrate_of_unarmed {faulty : FaultyLine} (rate : Nat)
    (unarmed : faulty.failNextSpeed = none) :
    faulty.setBaudrate rate = faulty.lift (faulty.line.setBaudrate rate) := by
  unfold setBaudrate
  split
  case h_1 error armed => cases armed.symm.trans unarmed
  case h_2 => rfl

end FaultyLine

namespace Transport

/-- The transport on the line inside a faulty one. -/
def inner (transport : Transport FaultyLine) : Transport MemoryLine :=
  { transport with line := transport.line.line }

/-- A transport with its line inside a faulty one. -/
def inside (faulty : FaultyLine) (transport : Transport MemoryLine) : Transport FaultyLine :=
  { transport with line := { faulty with line := transport.line } }

/-- A report of a transport with its line inside a faulty one. -/
def Report.inside {α : Type} (faulty : FaultyLine) (report : Report MemoryLine α) :
    Report FaultyLine α where
  state := report.state.inside faulty
  value := report.value
  events := report.events

theorem inner_inside (transport : Transport FaultyLine) :
    transport.inner.inside transport.line = transport := rfl

variable (faulty : FaultyLine) (transport : Transport MemoryLine)

theorem poll_inside : (transport.inside faulty).poll = transport.poll.inside faulty := by
  have line : SerialLine.poll (transport.inside faulty).line =
      faulty.lift (SerialLine.poll transport.line) := rfl
  unfold poll
  rw [line]
  generalize SerialLine.poll transport.line = step
  rcases step with ⟨state, error | _ | completion, records⟩
  · rfl
  · rfl
  · cases completion <;> rfl

theorem drainWithin_inside (fuel done : Nat) :
    (transport.inside faulty).drainWithin fuel done =
      (transport.drainWithin fuel done).inside faulty := by
  induction fuel generalizing done transport with
  | zero => rfl
  | succ fuel ih =>
    unfold drainWithin
    rw [poll_inside]
    rcases transport.poll with ⟨state, error | found, events⟩
    · rfl
    · cases found with
      | false => rfl
      | true =>
        simp only [Report.inside, ih]

theorem drain_inside : (transport.inside faulty).drain = transport.drain.inside faulty := by
  simp only [drain, drainWithin_inside]
  rfl

theorem openLine_inside :
    (transport.inside faulty).openLine = transport.openLine.inside faulty := by
  have line : SerialLine.openLine (transport.inside faulty).line =
      faulty.lift (SerialLine.openLine transport.line) := rfl
  unfold openLine
  rw [line]
  generalize SerialLine.openLine transport.line = step
  rcases step with ⟨state, error | _, records⟩ <;> rcases transport with ⟨_, _, _ | _⟩ <;> rfl

theorem send_inside (kind : PacketKind) (packet : OutgoingPacket) :
    (transport.inside faulty).send kind packet =
      (transport.send kind packet).inside faulty := by
  rcases transport with ⟨line, framer, config, main, handler, _ | _, _ | _⟩ <;> rfl

variable {faulty} in
theorem close_inside (unarmed : faulty.failNextClose = none) :
    (transport.inside faulty).close = transport.close.inside faulty := by
  have line : SerialLine.close (transport.inside faulty).line =
      faulty.lift (SerialLine.close transport.line) :=
    FaultyLine.close_of_unarmed unarmed
  unfold close
  rw [line]
  rfl

variable {faulty} in
theorem setBaudrate_inside (unarmed : faulty.failNextSpeed = none) (rate : Nat) :
    (transport.inside faulty).setBaudrate rate = (transport.setBaudrate rate).inside faulty := by
  have line : SerialLine.setBaudrate rate (transport.inside faulty).line =
      faulty.lift (SerialLine.setBaudrate rate transport.line) :=
    FaultyLine.setBaudrate_of_unarmed rate unarmed
  unfold setBaudrate
  rw [line]
  rfl

variable {faulty} in
/-- Unless a failure of the outer line has been set up for it, an operation is one of the line
inside. -/
theorem apply_inside {operation : Operation} (unarmed : faulty.armed? operation = none) :
    (transport.inside faulty).apply operation =
      (transport.apply operation).inside faulty := by
  cases operation with
  | init config => cases config <;> rfl
  | openLine =>
    simp only [apply, openLine_inside]
    rfl
  | close =>
    simp only [apply, close_inside transport unarmed]
    rfl
  | setBaudrate rate =>
    simp only [apply, setBaudrate_inside transport unarmed]
    rfl
  | register handler => rfl
  | send kind packet =>
    simp only [apply, send_inside]
    rfl
  | poll =>
    simp only [apply, poll_inside]
    rfl
  | drain =>
    simp only [apply, drain_inside]
    rfl
  | complete completion => cases completion <;> rfl

/-! ## Failures of the outer line -/

/-- A closing that fails leaves the line open, and the transport counts as closed. -/
theorem close_of_armed {transport : Transport FaultyLine} {error : LineError}
    (armed : transport.line.failNextClose = some error) :
    transport.close = {
      state := { transport with
        line := { transport.line with failNextClose := none }
        sendActive := false
        isOpen := false }
      value := .error (.line error)
      events := [entry .info "h4 transport closed"] } := by
  have line : SerialLine.close transport.line = _ := FaultyLine.close_of_armed armed
  unfold close
  rw [line]
  rfl

/-- A change of the speed that fails changes nothing. -/
theorem setBaudrate_of_armed {transport : Transport FaultyLine} {error : LineError} (rate : Nat)
    (armed : transport.line.failNextSpeed = some error) :
    transport.setBaudrate rate = {
      state := { transport with line := { transport.line with failNextSpeed := none } }
      value := .error (.line error)
      events := [entry .info "h4 transport set baud rate" [("baudrate", .number rate)]] } := by
  have line : SerialLine.setBaudrate rate transport.line = _ :=
    FaultyLine.setBaudrate_of_armed rate armed
  unfold setBaudrate
  rw [line]
  rfl

/-! ## The transport on the line inside -/

/-- Every action keeps the line inside asked for what the framer wants: a closing that fails
leaves the pending read where it is. -/
theorem Expects.perform_faulty {transport : Transport FaultyLine} {maxPacket : Nat}
    (expects : transport.inner.Expects maxPacket) (action : Action FaultyLine.Control) :
    (transport.perform action).state.inner.Expects maxPacket := by
  rcases action with operation | control
  · cases armed : transport.line.armed? operation with
    | none =>
      show (transport.apply operation).state.inner.Expects maxPacket
      rw [← transport.inner_inside, apply_inside _ armed]
      exact expects.perform (.host operation)
    | some error =>
      cases operation with
      | close =>
        show transport.close.state.inner.Expects maxPacket
        rw [close_of_armed armed]
        exact expects.congr rfl fun isOpen => ⟨isOpen, rfl⟩
      | setBaudrate rate =>
        show (transport.setBaudrate rate).state.inner.Expects maxPacket
        rw [setBaudrate_of_armed rate armed]
        exact expects
      | init | openLine | register | send | poll | drain | complete => cases armed
  · cases control with
    | line control => exact expects.perform (.line control)
    | failClose | failSpeed => exact expects

/-- Every run keeps the line inside asked for what the framer wants. -/
theorem expects_after_faulty {buffer : ReceiveBuffer} (formed : buffer.WellFormed)
    (actions : List (Action FaultyLine.Control)) :
    ((new ({} : FaultyLine) buffer).after actions).inner.Expects buffer.maxPacket :=
  transcript_invariant (fun _ now => now.inner.Expects buffer.maxPacket) (fun _ => True)
    (fun _ _ => trivial) (expects_after formed [])
    fun _ _ action expects _ => expects.perform_faulty action

end Transport

end HciSerial
