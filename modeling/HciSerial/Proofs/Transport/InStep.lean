import HciSerial.Host.Simulated
import HciSerial.Proofs.Line.Terminal
import HciSerial.Proofs.Transport.SendAccounting

/-!
# A transport and its terminal line

A transport and its line keep separate notes of whether they are open, of the packet that is
being sent and of the block that is being received.  Whatever the system does, the notes
agree.

## Main Definitions

* `Patience`: how many polls a drain may take.
* `Transport.TerminalPolled`, `Transport.TerminalOpened`: what a poll and an opening of a
  transport on a terminal line can do.
* `Transport.InStep`: the notes of a transport and its line agree.

## Main Results

* `Transport.Drains.drainWithin_eq`: a drain that ends is one with enough patience.
* `Transport.terminalPolled`, `Transport.terminalOpened`: what they do is nothing else.
* `Transport.InStep.perform`: every action keeps the notes in step.
* `Transport.inStep_after`: they agree after every run, and every block that is received has
  the length that the framer wants.

## Design Notes

A system may have something to read for ever, so a drain of a terminal line need not end.  A
`Patience` cuts it short; a statement for every `Patience` covers all drains that end, and
those that do not as far as they have come.
-/

namespace HciSerial

/-- How many polls a drain may take, depending on the system that it starts on. -/
class Patience (W : Type) where
  polls : W → Nat

instance {W : Type} [Patience W] : Patience (Tapped W) where
  polls tapped := Patience.polls tapped.system

instance {W : Type} [TerminalSystem W] [Patience W] : FiniteLine (TerminalLine W) where
  pollBound line := Patience.polls line.system

/-- What can be done to a terminal line from outside. -/
inductive TerminalLine.Control where
  /-- Changes how long one poll waits for input. -/
  | setPollTimeout (milliseconds : Nat)

instance {W : Type} : Controllable (TerminalLine W) TerminalLine.Control where
  control line
    | .setPollTimeout milliseconds => { line with pollTimeout := milliseconds }

/-- A block of the requested length is not refused for its length. -/
theorem Framer.receive_ne_unexpectedLength {framer : Framer} {block : List UInt8}
    (asked : block.length = framer.wanted) (expected actual : Nat) :
    (framer.receive block).1 ≠ .error (.unexpectedLength expected actual) := by
  rw [Framer.receive, if_neg (fun wrong => wrong asked)]
  unfold ReceiveBuffer.write
  split
  case h_1 failure =>
    split at failure <;> cases failure
    simp
  case h_2 =>
    unfold Framer.advance
    split
    · split <;> simp
    · simp
    · simp only
      split <;> simp
    · simp
    · split <;> simp

namespace Transport

/-! ## Drains that end -/

/-- A drain that ends is one with enough patience. -/
theorem Drains.drainWithin_eq {L : Type} [SerialLine L] {transport : Transport L}
    {report : Report L (Except TransportError Nat)} (drains : Drains transport report) :
    ∃ enough, ∀ fuel done, enough ≤ fuel → transport.drainWithin fuel done =
      { report with value := some (report.value.map (done + ·)) } := by
  induction drains with
  | quiet nothing =>
    refine ⟨1, fun fuel done enough => ?_⟩
    obtain ⟨more, rfl⟩ := Nat.exists_eq_add_of_le' enough
    simp only [drainWithin, nothing]
    rfl
  | failed failure =>
    refine ⟨1, fun fuel done enough => ?_⟩
    obtain ⟨more, rfl⟩ := Nat.exists_eq_add_of_le' enough
    simp only [drainWithin, failure]
    rfl
  | @more transport rest found _ ih =>
    obtain ⟨least, ends⟩ := ih
    refine ⟨least + 1, fun fuel done enough => ?_⟩
    obtain ⟨more, rfl⟩ := Nat.exists_eq_add_of_le' (Nat.le_trans (Nat.le_add_left 1 least) enough)
    have later := ends more (done + 1) (Nat.le_of_add_le_add_right enough)
    simp only [drainWithin, found, later]
    cases rest.value with
    | error error => rfl
    | ok count => simp only [Except.map, Nat.add_assoc, Nat.add_comm 1]

/-- What every poll keeps holds of all transports that the polls of a drain meet. -/
theorem forall_mem_drainPolls {L : Type} [FiniteLine L] {property : Transport L → Prop}
    (step : ∀ transport, property transport → property transport.poll.state) (fuel : Nat)
    {transport : Transport L} (start : property transport) :
    ∀ polled ∈ drainPolls fuel transport, property polled := by
  induction fuel generalizing transport with
  | zero => exact List.forall_mem_nil _
  | succ fuel ih =>
    rw [drainPolls]
    refine List.forall_mem_cons.mpr ⟨start, ?_⟩
    split
    · exact ih (step _ start)
    · exact List.forall_mem_nil _

/-! ## In step -/

variable {W : Type}

/-- The notes of a transport and its line agree: on whether they are open, on whether a
packet is being sent, and on the block that is being received. -/
structure InStep (transport : Transport (TerminalLine W)) : Prop where
  lifecycle : transport.isOpen = transport.line.isOpen
  gate : transport.sendActive = transport.line.pendingSend.isSome
  reading : transport.isOpen = true → transport.line.pendingRead = some transport.framer.wanted
  collecting : transport.isOpen = true →
    transport.line.collected = [] ∨ transport.line.collected.length < transport.framer.wanted

namespace InStep

variable {transport : Transport (TerminalLine W)}

theorem congr (inStep : transport.InStep) {next : Transport (TerminalLine W)}
    (isOpen : next.isOpen = transport.isOpen) (framer : next.framer = transport.framer)
    (active : next.sendActive = transport.sendActive)
    (device : next.line.device = transport.line.device)
    (pending : next.line.pendingSend = transport.line.pendingSend)
    (asked : next.line.pendingRead = transport.line.pendingRead)
    (collected : next.line.collected = transport.line.collected) : next.InStep := by
  refine ⟨?_, ?_, ?_, ?_⟩
  · rw [isOpen, inStep.lifecycle, TerminalLine.isOpen, TerminalLine.isOpen, device]
  · rw [active, pending, inStep.gate]
  · rw [isOpen, asked, framer]
    exact inStep.reading
  · rw [isOpen, collected, framer]
    exact inStep.collecting

/-- No more has been collected than the framer wants. -/
theorem within (inStep : transport.InStep) (isOpen : transport.isOpen = true) :
    transport.line.collected.length ≤ transport.framer.wanted := by
  rcases inStep.collecting isOpen with nothing | short
  · rw [nothing]
    exact Nat.zero_le _
  · exact Nat.le_of_lt short

/-- A request of an open line is the one for the block that the framer wants. -/
theorem asked_eq (inStep : transport.InStep) {device length : Nat}
    (isOpen : transport.line.device = some device)
    (asked : transport.line.pendingRead = some length) :
    transport.isOpen = true ∧ length = transport.framer.wanted := by
  have isOpen : transport.isOpen = true := by
    rw [inStep.lifecycle, TerminalLine.isOpen, isOpen]
    rfl
  exact ⟨isOpen, Option.some.inj (asked.symm.trans (inStep.reading isOpen))⟩

end InStep

/-! ## One poll and one opening -/

section Step

variable [TerminalSystem W]

/-- What a failing poll reports of the packet that was in flight. -/
def droppedEvents (sendActive : Bool) (error : LineError) : List Event :=
  if sendActive then
    [entry .warn "driver error, dropping packet in flight" [("err", .text error.message)]]
  else []

/-- What a poll of a transport on a terminal line can do. -/
inductive TerminalPolled (transport : Transport (TerminalLine W)) :
    Report (TerminalLine W) (Except TransportError Bool) → Prop where
  | idle (idle : transport.line.device = none ∨ transport.line.pendingRead = none) :
      TerminalPolled transport { state := transport, value := .ok false }
  | sent {device : Nat} {block : List UInt8} {system : W}
      (written : TerminalLine.writeBlock device block transport.line.system = (.ok (), system)) :
      TerminalPolled transport {
        state := { transport with
          line := { transport.line with system, pendingSend := none }
          sendActive := false }
        value := .ok true
        events := [.confirmed] }
  | lost {device : Nat} {block : List UInt8} {cause : IoError} {system : W}
      (unwritten :
        TerminalLine.writeBlock device block transport.line.system = (.error cause, system)) :
      TerminalPolled transport {
        state := { transport with
          line := { transport.line with system, pendingSend := none }
          sendActive := false }
        value := .error (.line (.io cause))
        events := droppedEvents transport.sendActive (.io cause) }
  | failed {device length : Nat} {error : LineError} {system : W}
      (unsent : transport.line.pendingSend = none)
      (failure : TerminalLine.fetch device transport.line.pollTimeout
        (length - transport.line.collected.length) transport.line.system = (.error error, system)) :
      TerminalPolled transport {
        state := { transport with line := { transport.line with system }, sendActive := false }
        value := .error (.line error)
        events := droppedEvents transport.sendActive error }
  | waiting {device length : Nat} {bytes : List UInt8} {system : W}
      (asked : transport.line.pendingRead = some length)
      (gains : transport.line.Gains device length bytes system)
      (short : (transport.line.collected ++ bytes).length < length) :
      TerminalPolled transport {
        state := { transport with
          line := { transport.line with system, collected := transport.line.collected ++ bytes } }
        value := .ok false }
  | received {device length : Nat} {bytes : List UInt8} {system : W}
      (isOpen : transport.line.device = some device)
      (asked : transport.line.pendingRead = some length)
      (gains : transport.line.Gains device length bytes system)
      (full : length ≤ (transport.line.collected ++ bytes).length) :
      TerminalPolled transport {
        blockReceived (transport.line.collected ++ bytes) { transport with
          line := { transport.line with system, pendingRead := none, collected := [] } } with
        value := .ok true }

/-- What a poll does is nothing else. -/
theorem terminalPolled (transport : Transport (TerminalLine W)) :
    TerminalPolled transport transport.poll := by
  have line : TerminalLine.Polled transport.line (SerialLine.poll transport.line) :=
    transport.line.polled
  unfold poll
  generalize SerialLine.poll transport.line = step at line ⊢
  cases line with
  | closed isClosed => exact .idle (.inl isClosed)
  | sent _ _ written => exact .sent written
  | lost _ _ unwritten => exact .lost unwritten
  | unasked _ _ unasked => exact .idle (.inr unasked)
  | failed _ unsent _ failure => exact .failed unsent failure
  | waiting _ _ asked gains short => exact .waiting asked gains short
  | received isOpen _ asked gains full => exact .received isOpen asked gains full

/-- What an opening of a transport on a terminal line can do. -/
inductive TerminalOpened (transport : Transport (TerminalLine W)) :
    Report (TerminalLine W) (Except TransportError Unit) → Prop where
  | unconfigured :
      TerminalOpened transport {
        state := transport
        value := .error .notInitialized
        events := [entry .error "h4 transport: open before init"] }
  | refused {system : W} {error : LineError} :
      TerminalOpened transport {
        state := { transport with line := { transport.line with system } }
        value := .error (.line error) }
  | opened {system : W} {device : Nat} {record : Log.Record}
      (message : record.message = "opened serial device") :
      TerminalOpened transport {
        state := { transport with
          line := { transport.line.dropRequests with
            system
            device := some device
            pendingRead := some 1 }
          framer := transport.framer.reset
          sendActive := false
          isOpen := true }
        value := .ok ()
        events := [.logged record, entry .info "h4 transport open"] }

/-- What an opening does is nothing else. -/
theorem terminalOpened (transport : Transport (TerminalLine W)) :
    TerminalOpened transport transport.openLine := by
  have line : TerminalLine.Opened transport.line (SerialLine.openLine transport.line) :=
    transport.line.opened
  unfold openLine
  split
  · exact .unconfigured
  · generalize SerialLine.openLine transport.line = step at line ⊢
    cases line with
    | refused => exact .refused
    | opened message => exact .opened message

/-! ## Staying in step -/

namespace InStep

variable {transport : Transport (TerminalLine W)}

theorem length_eq (inStep : transport.InStep) (bounded : ReadsAtMost W) {device length : Nat}
    {bytes : List UInt8} {system : W} (isOpen : transport.line.device = some device)
    (asked : transport.line.pendingRead = some length)
    (gains : transport.line.Gains device length bytes system)
    (full : length ≤ (transport.line.collected ++ bytes).length) :
    (transport.line.collected ++ bytes).length = transport.framer.wanted := by
  obtain ⟨openNow, rfl⟩ := inStep.asked_eq isOpen asked
  exact Nat.le_antisymm (gains.length_le bounded (inStep.within openNow)) full

/-- Every block that the line reports has the length that the framer wants. -/
theorem received (inStep : transport.InStep) (bounded : ReadsAtMost W) {block : List UInt8}
    (reported : (SerialLine.poll transport.line).value = .ok (some (.received block))) :
    block.length = transport.framer.wanted := by
  have cases : TerminalLine.Polled transport.line (SerialLine.poll transport.line) :=
    transport.line.polled
  generalize SerialLine.poll transport.line = step at cases reported
  cases cases with
  | closed | sent | lost | unasked | failed | waiting => cases reported
  | received isOpen _ asked gains full =>
    cases reported
    exact inStep.length_eq bounded isOpen asked gains full

/-- A poll keeps transport and line in step. -/
theorem poll (inStep : transport.InStep) : transport.poll.state.InStep := by
  have cases := terminalPolled transport
  generalize transport.poll = report at cases ⊢
  cases cases with
  | idle => exact inStep
  | sent | lost => exact ⟨inStep.lifecycle, rfl, inStep.reading, inStep.collecting⟩
  | failed unsent =>
    refine ⟨inStep.lifecycle, ?_, inStep.reading, inStep.collecting⟩
    show false = transport.line.pendingSend.isSome
    rw [unsent]
    rfl
  | waiting asked _ short =>
    refine ⟨inStep.lifecycle, inStep.gate, inStep.reading, fun isOpen => .inr ?_⟩
    obtain rfl := Option.some.inj (asked.symm.trans (inStep.reading isOpen))
    exact short
  | received => exact ⟨inStep.lifecycle, inStep.gate, fun _ => rfl, fun _ => .inl rfl⟩

/-- An opening keeps transport and line in step, whether it succeeds or not. -/
theorem openLine (inStep : transport.InStep) : transport.openLine.state.InStep := by
  have cases := terminalOpened transport
  generalize transport.openLine = report at cases ⊢
  cases cases with
  | unconfigured => exact inStep
  | refused => exact inStep.congr rfl rfl rfl rfl rfl rfl rfl
  | opened => exact ⟨rfl, rfl, fun _ => rfl, fun _ => .inl rfl⟩

/-- A closing closes both. -/
theorem close (transport : Transport (TerminalLine W)) : transport.close.state.InStep := by
  have closed : (SerialLine.close transport.line).state.device = none ∧
      (SerialLine.close transport.line).state.pendingSend = none := by
    show transport.line.close.state.device = none ∧ transport.line.close.state.pendingSend = none
    unfold TerminalLine.close
    split
    case h_1 isClosed => exact ⟨isClosed, rfl⟩
    case h_2 => exact ⟨rfl, rfl⟩
  refine ⟨?_, ?_, nofun, nofun⟩
  · show false = (SerialLine.close transport.line).state.device.isSome
    rw [closed.1]
    rfl
  · show false = (SerialLine.close transport.line).state.pendingSend.isSome
    rw [closed.2]
    rfl

/-- A request to send closes the gate exactly if the line gets the block. -/
theorem send (inStep : transport.InStep) (kind : PacketKind) (packet : OutgoingPacket) :
    (transport.send kind packet).state.InStep := by
  unfold Transport.send
  split
  · exact inStep
  · split
    · exact inStep
    · exact ⟨inStep.lifecycle, rfl, inStep.reading, inStep.collecting⟩

/-- A change of the speed keeps transport and line in step. -/
theorem setBaudrate (inStep : transport.InStep) (rate : Nat) :
    (transport.setBaudrate rate).state.InStep := by
  show InStep { transport with line := (transport.line.setBaudrate rate).state }
  obtain ⟨system, config, state, _⟩ := TerminalLine.setBaudrate_state rate transport.line
  rw [state]
  exact inStep.congr rfl rfl rfl rfl rfl rfl rfl

variable [Patience W]

/-- Every action but a completion that the line has not reported keeps transport and line in
step. -/
theorem perform (inStep : transport.InStep) {action : Action TerminalLine.Control}
    (indirect : action.isDirect = false) : (transport.perform action).state.InStep := by
  rcases action with operation | ⟨milliseconds⟩
  · cases operation with
    | init config => cases config <;> exact inStep.congr rfl rfl rfl rfl rfl rfl rfl
    | openLine => exact inStep.openLine
    | close => exact close transport
    | setBaudrate rate => exact inStep.setBaudrate rate
    | register => exact inStep.congr rfl rfl rfl rfl rfl rfl rfl
    | send kind packet => exact inStep.send kind packet
    | poll => exact inStep.poll
    | drain =>
      exact drainWithin_invariant (motive := fun _ next => next.InStep) _ _ inStep
        fun _ _ before => before.poll
    | complete => cases indirect
  · exact inStep.congr rfl rfl rfl rfl rfl rfl rfl

/-- Every transport that a poll of an action meets is in step with its line. -/
theorem polls (inStep : transport.InStep) (action : Action TerminalLine.Control) :
    ∀ polled ∈ transport.polls action, polled.InStep := by
  rcases action with operation | control
  · cases operation with
    | poll => exact List.forall_mem_singleton.mpr inStep
    | drain => exact forall_mem_drainPolls (fun _ before => before.poll) _ inStep
    | init | openLine | close | setBaudrate | register | send | complete =>
      exact List.forall_mem_nil _
  · exact List.forall_mem_nil _

end InStep

end Step

/-! ## A whole run -/

/-- A new transport is in step with its line. -/
theorem inStep_new (buffer : ReceiveBuffer) (system : W) (pollTimeout : Nat) :
    InStep (.new { system, pollTimeout } buffer) where
  lifecycle := rfl
  gate := rfl
  reading isOpen := nomatch isOpen
  collecting isOpen := nomatch isOpen

variable [TerminalSystem W] [Patience W]

/-- A transport stays in step with its line over every run. -/
theorem inStep_transcript (buffer : ReceiveBuffer) (system : W) (pollTimeout : Nat)
    {actions : List (Action TerminalLine.Control)}
    (indirect : ∀ action ∈ actions, action.isDirect = false) :
    let start : Transport (TerminalLine W) := .new { system, pollTimeout } buffer
    (∀ occurrence ∈ start.transcript actions, occurrence.before.InStep) ∧
      (start.after actions).InStep := by
  intro start
  have allowed : ∀ occurrence ∈ start.transcript actions, occurrence.action.isDirect = false :=
    forall_mem_transcript (fun action => action.isDirect = false) indirect
  refine transcript_invariant
    (fun past now => (∀ occurrence ∈ past, occurrence.before.InStep) ∧ now.InStep) _ allowed ?_ ?_
  · exact ⟨List.forall_mem_nil _, inStep_new buffer system pollTimeout⟩
  · rintro past now action ⟨before, inStep⟩ indirect
    refine ⟨List.forall_mem_append.mpr ⟨before, ?_⟩, inStep.perform indirect⟩
    exact List.forall_mem_singleton.mpr inStep

/-- A transport and its terminal line stay in step, whatever the system does.

Both are open or both are closed, and the gate is closed exactly while the line has a packet
to send.  While they are open, the line has been asked for the block that the framer wants,
and of this block nothing or less than all has been collected.  So every block that a poll
reports, also inside a drain, has the length that the framer wants, and none is refused for
its length. -/
theorem inStep_after (bounded : ReadsAtMost W) (buffer : ReceiveBuffer) (system : W)
    (pollTimeout : Nat) {actions : List (Action TerminalLine.Control)}
    (indirect : ∀ action ∈ actions, action.isDirect = false) :
    let start : Transport (TerminalLine W) := .new { system, pollTimeout } buffer
    let now := start.after actions
    now.isOpen = now.line.isOpen ∧
      (∀ kind, now.canSend kind = false ↔ now.line.pendingSend.isSome = true) ∧
      (now.isOpen = true → now.line.pendingRead = some now.framer.wanted ∧
        (now.line.collected = [] ∨ now.line.collected.length < now.framer.wanted)) ∧
      ∀ occurrence ∈ start.transcript actions,
        ∀ polled ∈ occurrence.before.polls occurrence.action, ∀ block,
          (SerialLine.poll polled.line).value = .ok (some (.received block)) →
            block.length = polled.framer.wanted ∧ ∀ expected actual,
              (polled.framer.receive block).1 ≠ .error (.unexpectedLength expected actual) := by
  intro start now
  obtain ⟨before, inStep⟩ : _ ∧ now.InStep :=
    inStep_transcript buffer system pollTimeout indirect
  refine ⟨inStep.lifecycle, fun kind => ?_, fun isOpen => ?_, ?_⟩
  · rw [canSend, ← inStep.gate]
    cases now.sendActive <;> simp
  · exact ⟨inStep.reading isOpen, inStep.collecting isOpen⟩
  · intro occurrence member polled polls block reported
    have asked := ((before occurrence member).polls _ polled polls).received bounded reported
    exact ⟨asked, Framer.receive_ne_unexpectedLength asked⟩

/-- Enough patience for a far end that writes little. -/
instance : Patience SimulatedHost where
  polls _ := 8

/-- A host whose far end writes an event as soon as it can. -/
def eventHost : SimulatedHost :=
  { terminal := some {}, script := [.write [0x04, 0x6E, 0x00]], peerActive := true }

/-- A run that receives an event and then hands over a packet to send. -/
def eventThenSend : List (Action TerminalLine.Control) :=
  [.host (.init (.serial (.ofDevice "/dev/pts/0"))), .host .openLine, .host .drain,
    .host (.send .command (.ofPayload [0x03, 0x0C, 0x00]))]

/-- The run leaves both open, with a block awaited and the gate closed. -/
theorem inStep_eventThenSend :
    let now := (new ({ system := eventHost } : TerminalLine SimulatedHost)).after eventThenSend
    ReadsAtMost SimulatedHost ∧ (∀ action ∈ eventThenSend, action.isDirect = false) ∧
      now.isOpen = true ∧ now.line.pendingRead = some now.framer.wanted ∧
      now.canSend .command = false := by
  intro now
  have indirect : ∀ action ∈ eventThenSend, action.isDirect = false := by
    simp [eventThenSend, Action.isDirect]
  have isOpen : now.isOpen = true := rfl
  have pending : now.line.pendingSend.isSome = true := rfl
  obtain ⟨_, gate, reading, _⟩ :=
    inStep_after SimulatedHost.readsAtMost .default eventHost 100 indirect
  exact ⟨SimulatedHost.readsAtMost, indirect, isOpen, (reading isOpen).1,
    (gate .command).mpr pending⟩

end Transport

end HciSerial
