import HciSerial.Proofs.Transport.Polling
import HciSerial.Proofs.Transport.Requests
import HciSerial.Proofs.Transport.Transcript

/-!
# Accounting for sends

Every accepted packet is confirmed, lost to a failing poll, dropped by a closing, or
still in flight, and never two of these.

## Main Definitions

* `Action.accepted?`: the block that an accepted packet puts on the line.
* `Transport.polls`: the polls of an action, those inside a drain included.
* `Transport.lost`, `Transport.dropped`: sends that end without a confirmation.
* `Transport.Gate`: the send gate and the line agree.
* `Transport.Settles`: what an action does to the account of sends.

## Main Results

* `Transport.drainWithin_events`: the polls of a drain are all that it does.
* `Transport.Gate.poll`, `Transport.Gate.drainWithin`: the account of polls.
* `Transport.Gate.perform`: the account of every action.
* `Transport.accepted_eq_settled`: the account of a run.
-/

namespace HciSerial

/-- The block that an action puts on the line if it was answered so: tag and payload of an
accepted packet. -/
def Action.accepted? {C : Type} : Action C → Answer → Option (List UInt8)
  | host (.send kind packet), answer =>
    if answer = .done then some (kind.tag :: packet.payload) else none
  | _, _ => none

/-- The block that an occurrence puts on the line, if it is an accepted packet. -/
def Occurrence.accepted? {L C : Type} [FiniteLine L] [Controllable L C]
    (occurrence : Occurrence L C) : Option (List UInt8) :=
  occurrence.action.accepted? occurrence.answer

theorem Occurrence.filterMap_accepted?_concat {L C : Type} [FiniteLine L] [Controllable L C]
    (past : List (Occurrence L C)) (last : Occurrence L C) :
    (past ++ [last]).filterMap Occurrence.accepted? =
      past.filterMap Occurrence.accepted? ++ last.accepted?.toList := by
  rw [List.filterMap_append]
  cases outcome : last.accepted? with
  | none => rw [List.filterMap_cons_none outcome, List.filterMap_nil, Option.toList_none]
  | some block => rw [List.filterMap_cons_some outcome, List.filterMap_nil, Option.toList_some]

namespace Transport

/-! ## What is counted -/

section Counts

variable {L C : Type} [FiniteLine L]

/-- The transports that the polls of a drain meet, one for each poll. -/
def drainPolls : Nat → Transport L → List (Transport L)
  | 0, _ => []
  | fuel + 1, transport =>
    transport ::
      match transport.poll.value with
      | .ok true => drainPolls fuel transport.poll.state
      | _ => []

/-- The transports that the polls of an action meet, one for each poll. -/
def polls (transport : Transport L) : Action C → List (Transport L)
  | .host .poll => [transport]
  | .host .drain => drainPolls (FiniteLine.pollBound transport.line) transport
  | _ => []

/-- Whether a poll fails while a packet is being sent. -/
def losesSend (transport : Transport L) : Bool :=
  match transport.poll.value with
  | .error _ => transport.sendActive
  | .ok _ => false

/-- The number of polls of an action that fail while a packet is being sent. -/
def lost (transport : Transport L) (action : Action C) : Nat :=
  (transport.polls action).countP losesSend

/-- The number of closings, one or none, while a packet is being sent. -/
def dropped (transport : Transport L) : Action C → Nat
  | .host .close => if transport.sendActive then 1 else 0
  | _ => 0

/-- The number of packets, one or none, that are being sent. -/
def inFlight (transport : Transport L) : Nat :=
  if transport.sendActive then 1 else 0

/-- The polls of a drain are all that it does. -/
theorem drainWithin_events (fuel done : Nat) (transport : Transport L) :
    (transport.drainWithin fuel done).events =
      (drainPolls fuel transport).flatMap fun polled => polled.poll.events := by
  induction fuel generalizing done transport with
  | zero => rfl
  | succ fuel ih =>
    rw [drainWithin, drainPolls, List.flatMap_cons]
    cases result : transport.poll.value with
    | error error => simp
    | ok found => cases found <;> simp [ih]

end Counts

/-! ## The gate -/

/-- The send gate is closed exactly while the line has a send, and only if the transport
is open. -/
structure Gate (transport : Transport MemoryLine) : Prop where
  pending : transport.sendActive = true ↔ transport.line.sending ≠ .idle
  closed : transport.isOpen = false → transport.sendActive = false

/-- What an action does to the account of sends: a packet that was in flight or has been
accepted is confirmed, lost, dropped, or in flight afterwards. -/
structure Settles (transport : Transport MemoryLine) (action : Action MemoryLine.Control)
    (report : Report MemoryLine Answer) : Prop where
  gate : report.state.Gate
  balance : (action.accepted? report.value).toList.length + transport.inFlight =
    report.events.count .confirmed + transport.lost action + transport.dropped action +
      report.state.inFlight
  sent : report.state.line.sentBlocks =
    transport.line.sentBlocks ++ (action.accepted? report.value).toList

variable {transport : Transport MemoryLine}

@[simp] theorem count_confirmed_logged (records : List Log.Record) :
    (records.map Event.logged).count .confirmed = 0 := by
  rw [List.count_eq_zero, List.mem_map]
  rintro ⟨record, _, same⟩
  cases same

theorem count_confirmed_blockReceived {L : Type} [SerialLine L] (transport : Transport L)
    (block : List UInt8) :
    (transport.blockReceived block).events.count .confirmed = 0 := by
  simp only [blockReceived, requestNext, List.count_append, count_confirmed_logged]
  generalize (transport.framer.receive block).1 = verdict
  rcases verdict with error | _ | packet <;> rfl

/-- A poll accounts for the send in flight. -/
theorem Gate.poll (gate : transport.Gate) :
    transport.poll.state.Gate ∧
      transport.inFlight = transport.poll.events.count .confirmed +
        [transport].countP losesSend + transport.poll.state.inFlight ∧
      transport.poll.state.line.sentBlocks = transport.line.sentBlocks := by
  have cases := polled transport
  rw [List.countP_singleton, losesSend]
  generalize transport.poll = report at cases ⊢
  cases cases with
  | closed | quiet => exact ⟨gate, by simp, rfl⟩
  | failed =>
    refine ⟨⟨by simp, fun _ => rfl⟩, ?_, rfl⟩
    unfold inFlight
    cases transport.sendActive <;> rfl
  | sent _ _ ready =>
    -- what the line reports as sent was in flight, since the gate is closed while it has a send
    have active : transport.sendActive = true := gate.pending.mpr (by simp [ready])
    refine ⟨⟨by simp, fun _ => rfl⟩, ?_, rfl⟩
    rw [inFlight, if_pos active]
    rfl
  | @received block =>
    refine ⟨⟨gate.pending, gate.closed⟩, ?_, rfl⟩
    show transport.inFlight = (blockReceived block _).events.count .confirmed + 0 +
      transport.inFlight
    rw [count_confirmed_blockReceived, Nat.zero_add]

/-- A drain accounts for the send in flight. -/
theorem Gate.drainWithin (fuel done : Nat) (gate : transport.Gate) :
    (transport.drainWithin fuel done).state.Gate ∧
      transport.inFlight = (transport.drainWithin fuel done).events.count .confirmed +
        (drainPolls fuel transport).countP losesSend +
        (transport.drainWithin fuel done).state.inFlight ∧
      (transport.drainWithin fuel done).state.line.sentBlocks = transport.line.sentBlocks := by
  induction fuel generalizing done transport with
  | zero => exact ⟨gate, (Nat.zero_add _).symm, rfl⟩
  | succ fuel ih =>
    obtain ⟨gateNow, balance, blocks⟩ := gate.poll
    rw [Transport.drainWithin, drainPolls, ← List.singleton_append, List.countP_append]
    cases result : transport.poll.value with
    | error error => exact ⟨gateNow, balance, blocks⟩
    | ok found =>
      cases found with
      | false => exact ⟨gateNow, balance, blocks⟩
      | true =>
        -- what this poll leaves in flight is what the later ones account for
        obtain ⟨gateLater, balanceLater, blocksLater⟩ := ih (done + 1) gateNow
        refine ⟨gateLater, ?_, blocksLater.trans blocks⟩
        simp only [List.count_append]
        omega

/-- An action that leaves gate, line and lifecycle as they are leaves the account as it is. -/
theorem Settles.of_aside {action : Action MemoryLine.Control} {report : Report MemoryLine Answer}
    (gate : transport.Gate) (refused : action.accepted? report.value = none)
    (unpolled : transport.lost action = 0) (undropped : transport.dropped action = 0)
    (active : report.state.sendActive = transport.sendActive)
    (opens : report.state.isOpen = false → transport.isOpen = false)
    (pending : report.state.line.sending = .idle ↔ transport.line.sending = .idle)
    (blocks : report.state.line.sentBlocks = transport.line.sentBlocks)
    (silent : report.events.count .confirmed = 0) :
    Settles transport action report where
  gate := by
    refine ⟨?_, fun isClosed => active.trans (gate.closed (opens isClosed))⟩
    rw [active, gate.pending]
    exact not_congr pending.symm
  balance := by
    rw [refused, silent, unpolled, undropped, inFlight, inFlight, active]
    rfl
  sent := by
    rw [refused, blocks]
    exact (List.append_nil _).symm

/-- An opening of a closed transport finds the gate open and leaves it so. -/
theorem Gate.openLine (gate : transport.Gate) (isClosed : transport.isOpen = false) :
    Settles transport (.host .openLine) (transport.perform (.host .openLine)) := by
  show Settles transport _ { transport.openLine with value := .ofExcept transport.openLine.value }
  have inactive : transport.sendActive = false := gate.closed isClosed
  have cases := Transport.opened transport
  generalize transport.openLine = report at cases ⊢
  cases cases with
  | unconfigured | refused => exact .of_aside gate rfl rfl rfl rfl id Iff.rfl rfl rfl
  | opened =>
    -- the line keeps a pending send over an opening, but here it has none
    exact .of_aside gate rfl rfl rfl inactive.symm (fun _ => isClosed) Iff.rfl rfl
      (count_confirmed_logged _)

/-- A closing drops the packet in flight. -/
theorem settles_close (transport : Transport MemoryLine) :
    Settles transport (.host .close) (transport.perform (.host .close)) := by
  refine ⟨⟨?_, fun _ => rfl⟩, ?_, (List.append_nil _).symm⟩
  · show false = true ↔ SendProgress.idle ≠ .idle
    simp
  · show 0 + transport.inFlight = 0 + 0 + transport.inFlight + 0
    omega

/-- A packet is accepted exactly if it comes to be in flight. -/
theorem Gate.send (gate : transport.Gate) (kind : PacketKind) (packet : OutgoingPacket) :
    Settles transport (.host (.send kind packet))
      (transport.perform (.host (.send kind packet))) := by
  show Settles transport _ { transport.send kind packet with
    value := .ofExcept (transport.send kind packet).value }
  have cases := Transport.sent kind packet transport
  generalize transport.send kind packet = report at cases ⊢
  cases cases with
  | closed | busy => exact .of_aside gate rfl rfl rfl rfl id Iff.rfl rfl rfl
  | accepted isOpen inactive =>
    refine ⟨⟨?_, fun isClosed => nomatch isOpen.symm.trans isClosed⟩, ?_, ?_⟩
    · show true = true ↔ (if transport.line.completesSends then _ else _) ≠ SendProgress.idle
      cases transport.line.completesSends <;> simp
    · have logged := count_confirmed_logged (transport.line.send (packet.wire kind)).records
      show 1 + transport.inFlight =
        List.count Event.confirmed ((transport.line.send (packet.wire kind)).records.map _) + 0 +
          0 + 1
      rw [inFlight, inactive, logged]
      rfl
    · show _ ++ [packet.wire kind] = _ ++ [kind.tag :: packet.payload]
      rw [packet.wire_eq]

/-- The account of polls, as that of an action that accepts no packet. -/
theorem Settles.of_polls {action : Action MemoryLine.Control} {report : Report MemoryLine Answer}
    (refused : action.accepted? report.value = none) (undropped : transport.dropped action = 0)
    (gate : report.state.Gate)
    (balance : transport.inFlight = report.events.count .confirmed +
      (transport.polls action).countP losesSend + report.state.inFlight)
    (blocks : report.state.line.sentBlocks = transport.line.sentBlocks) :
    Settles transport action report where
  gate := gate
  balance := by
    rw [refused, undropped, Option.toList_none, List.length_nil, Nat.zero_add, Nat.add_zero]
    exact balance
  sent := by
    rw [refused, blocks]
    exact (List.append_nil _).symm

/-- A control of the line settles nothing. -/
theorem Gate.control (gate : transport.Gate) (control : MemoryLine.Control) :
    Settles transport (.line control) (transport.perform (.line control)) := by
  cases control with
  | completeSend =>
    show Settles transport _ { state := { transport with
      line := transport.line.control .completeSend }, value := .done }
    unfold MemoryLine.control
    cases sending : transport.line.sending <;>
      exact .of_aside gate rfl rfl rfl rfl id (by simp [sending]) rfl rfl
  | inject | completeSends | failOpen | failPoll =>
    exact .of_aside gate rfl rfl rfl rfl id Iff.rfl rfl rfl

/-- Every action but a completion that the line has not reported keeps the account, as long
as only a closed transport is opened. -/
theorem Gate.perform (gate : transport.Gate) {action : Action MemoryLine.Control}
    (indirect : action.isDirect = false)
    (opensClosed : action = .host .openLine → transport.isOpen = false) :
    Settles transport action (transport.perform action) := by
  rcases action with operation | control
  · cases operation with
    | init config => cases config <;> exact .of_aside gate rfl rfl rfl rfl id Iff.rfl rfl rfl
    | openLine => exact gate.openLine (opensClosed rfl)
    | close => exact settles_close transport
    | setBaudrate | register => exact .of_aside gate rfl rfl rfl rfl id Iff.rfl rfl rfl
    | send kind packet => exact gate.send kind packet
    | poll =>
      obtain ⟨after, balance, blocks⟩ := gate.poll
      exact .of_polls rfl rfl after balance blocks
    | drain =>
      obtain ⟨after, balance, blocks⟩ := gate.drainWithin (FiniteLine.pollBound transport.line) 0
      exact .of_polls rfl rfl after balance blocks
    | complete => cases indirect
  · exact gate.control control

/-! ## A whole run -/

/-- What holds after a run: the account of all its actions. -/
structure Accounts (past : List (Occurrence MemoryLine MemoryLine.Control))
    (now : Transport MemoryLine) : Prop where
  gate : now.Gate
  balance : (past.filterMap Occurrence.accepted?).length =
    (past.map fun occurrence => occurrence.events.count .confirmed).sum +
      (past.map fun occurrence => occurrence.before.lost occurrence.action).sum +
      (past.map fun occurrence => occurrence.before.dropped occurrence.action).sum + now.inFlight
  sent : now.line.sentBlocks = past.filterMap Occurrence.accepted?

/-- An action that keeps its own account keeps that of the run. -/
theorem Accounts.concat {past : List (Occurrence MemoryLine MemoryLine.Control)}
    {now : Transport MemoryLine} (accounts : Accounts past now)
    {action : Action MemoryLine.Control} (settles : Settles now action (now.perform action)) :
    Accounts (past ++ [⟨now, action⟩]) (now.perform action).state := by
  obtain ⟨_, balance, sent⟩ := accounts
  obtain ⟨gate, balanceNow, sentNow⟩ := settles
  have accepted : Occurrence.accepted? ⟨now, action⟩ =
      action.accepted? (now.perform action).value := rfl
  have events : Occurrence.events ⟨now, action⟩ = (now.perform action).events := rfl
  refine ⟨gate, ?_, ?_⟩
  · simp only [Occurrence.filterMap_accepted?_concat, List.map_append, List.length_append,
      List.sum_append, List.map_singleton, List.sum_singleton, accepted, events]
    omega
  · rw [Occurrence.filterMap_accepted?_concat, ← sent]
    exact sentNow

theorem gate_new (buffer : ReceiveBuffer) : (new ({} : MemoryLine) buffer).Gate where
  pending := by
    show false = true ↔ SendProgress.idle ≠ .idle
    simp
  closed _ := rfl

/-- A request to send succeeds exactly if the transport and the gate are open. -/
theorem send_answer_iff (transport : Transport MemoryLine) (kind : PacketKind)
    (packet : OutgoingPacket) :
    (Answer.ofExcept (transport.send kind packet).value = .done ↔
      transport.isOpen = true ∧ transport.canSend kind = true) := by
  have cases := Transport.sent kind packet transport
  rw [canSend]
  generalize transport.send kind packet = report at cases ⊢
  cases cases with
  | closed isClosed => simp [Answer.ofExcept, isClosed]
  | busy _ active => simp [Answer.ofExcept, active]
  | accepted isOpen inactive => simp [Answer.ofExcept, isOpen, inactive]

/-- Every accepted packet is confirmed, lost to a failing poll, dropped by a closing, or
still in flight.

This counts the accepted requests to send, the confirmations, the polls that fail while
the gate is closed (those inside a drain included) and the closings while it is closed, over
a run that opens the transport only when it is closed.  The gate is closed exactly while the
line holds a send, a request is accepted exactly if transport and gate are open, and the
line has been given tag and payload of the accepted packets, in order, and nothing else. -/
theorem accepted_eq_settled (buffer : ReceiveBuffer) {actions : List (Action MemoryLine.Control)}
    (indirect : ∀ action ∈ actions, action.isDirect = false)
    (opensClosed : ∀ occurrence ∈ (new ({} : MemoryLine) buffer).transcript actions,
      occurrence.action = .host .openLine → occurrence.before.isOpen = false) :
    let start : Transport MemoryLine := .new {} buffer
    let past := start.transcript actions
    let now := start.after actions
    (∀ kind, (past.filterMap Occurrence.accepted?).length =
      (past.map fun occurrence => occurrence.events.count .confirmed).sum +
        (past.map fun occurrence => occurrence.before.lost occurrence.action).sum +
        (past.map fun occurrence => occurrence.before.dropped occurrence.action).sum +
        if now.canSend kind then 0 else 1) ∧
      (∀ kind, now.canSend kind = false ↔ now.line.sending ≠ .idle) ∧
      (∀ occurrence ∈ past, ∀ kind packet, occurrence.action = .host (.send kind packet) →
        (occurrence.answer = .done ↔
          occurrence.before.isOpen = true ∧ occurrence.before.canSend kind = true)) ∧
      now.line.sentBlocks = past.filterMap Occurrence.accepted? := by
  intro start past now
  have allowed : ∀ occurrence ∈ past, occurrence.action.isDirect = false :=
    forall_mem_transcript (fun action => action.isDirect = false) indirect
  have accounts : Accounts past now := by
    refine transcript_invariant Accounts (fun occurrence => occurrence.action.isDirect = false ∧
      (occurrence.action = .host .openLine → occurrence.before.isOpen = false)) ?_ ?_ ?_
    · exact fun occurrence member => ⟨allowed occurrence member, opensClosed occurrence member⟩
    · exact ⟨gate_new buffer, rfl, rfl⟩
    · rintro past now action accounts ⟨indirect, opensClosed⟩
      exact accounts.concat (accounts.gate.perform indirect opensClosed)
  refine ⟨fun kind => ?_, fun kind => ?_, ?_, accounts.sent⟩
  · rw [accounts.balance, inFlight, canSend]
    cases now.sendActive <;> rfl
  · rw [← accounts.gate.pending, canSend]
    cases now.sendActive <;> simp
  · rintro ⟨before, action⟩ _ kind packet rfl
    exact send_answer_iff before kind packet

/-- A run with two accepted packets: the first is confirmed, the second is lost to a poll. -/
def confirmedThenLost : List (Action MemoryLine.Control) :=
  let packet := OutgoingPacket.ofPayload [0x03, 0x0C, 0x00]
  [.host (.init (.serial {})), .host .openLine, .host (.send .command packet), .host .drain,
    .host (.send .command packet), .line (.failPoll .closed), .host .drain]

/-- The account of a run with a confirmed and a lost packet. -/
theorem accepted_confirmedThenLost :
    let past := (new ({} : MemoryLine) .default).transcript confirmedThenLost
    (∀ action ∈ confirmedThenLost, action.isDirect = false) ∧
      (∀ occurrence ∈ past, occurrence.action = .host .openLine →
        occurrence.before.isOpen = false) ∧
      (past.filterMap Occurrence.accepted?).length = 1 + 1 := by
  intro past
  have indirect : ∀ action ∈ confirmedThenLost, action.isDirect = false := by
    simp [confirmedThenLost, Action.isDirect]
  have opensClosed : ∀ occurrence ∈ past, occurrence.action = .host .openLine →
      occurrence.before.isOpen = false := by
    refine List.forall_mem_cons.mpr ⟨fun _ => rfl, List.forall_mem_cons.mpr ⟨fun _ => rfl, ?_⟩⟩
    simp [transcript]
  have balance := (accepted_eq_settled .default indirect opensClosed).1 .command
  refine ⟨indirect, opensClosed, balance.trans ?_⟩
  rfl

end Transport

end HciSerial
