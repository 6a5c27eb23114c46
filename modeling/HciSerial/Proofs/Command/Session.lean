import HciSerial.Command.Session
import HciSerial.Proofs.Transport.Watched

/-!
# Sessions on a watched host

A session that is open reports the packets that it reads, in order, and shows nothing but the
packet that it sends.

## Main Definitions

* `Session.sight`: what has been seen of the host of a session.
* `Session.Prints`: texts are printed, and nothing else is seen or read.
* `Session.Listens`: the invariant of an open session.
* `Session.configured`: the transport of a session that is about to be opened.

## Main Results

* `Session.listens_start`: a session that starts.
* `Session.Listens.send`: a packet is handed to the line.
* `Session.Listens.poll_of_unsent`, `Session.Listens.poll_of_pending`: a poll.
* `Session.Listens.parse_ahead`: what has been read reads as what has been reported.
* `Session.close_ok`, `Session.finish_ok`: a closing and the end of a command.

## Design Notes

Log and clock are part of the world inside, which nobody sees.  So a session before and after
a call on them differ in this world alone, and that is how `Prints` is stated.
-/

namespace HciSerial

open Grammar

/-! ## What is printed -/

namespace Session

variable {W : Type}

/-- What has been seen of the host of a session. -/
def sight (session : Session (Tapped (Watched W))) : Sight :=
  session.world.system.sight

/-- Texts are printed, and nothing else is seen or read. -/
def Prints (texts : List String) (before after : Session (Tapped (Watched W))) : Prop :=
  ∃ world, after = before.withWorld ⟨⟨world, { before.sight with
    printed := before.sight.printed ++ texts }⟩, before.world.taken⟩

namespace Prints

variable {first second third : Session (Tapped (Watched W))} {texts more : List String}

theorem nothing (session : Session (Tapped (Watched W))) (world : W) :
    Prints [] session
      (session.withWorld ⟨⟨world, session.sight⟩, session.world.taken⟩) := by
  refine ⟨world, ?_⟩
  rw [List.append_nil]

theorem trans (prints : Prints texts first second) (later : Prints more second third) :
    Prints (texts ++ more) first third := by
  obtain ⟨world, rfl⟩ := prints
  obtain ⟨final, rfl⟩ := later
  refine ⟨final, ?_⟩
  rw [← List.append_assoc]
  rfl

theorem sight_eq (prints : Prints [] first second) : second.sight = first.sight := by
  obtain ⟨world, rfl⟩ := prints
  show Sight.mk _ _ (first.sight.printed ++ []) = _
  rw [List.append_nil]

theorem taken_eq (prints : Prints texts first second) :
    second.world.taken = first.world.taken := by
  obtain ⟨world, rfl⟩ := prints
  rfl

theorem queue_eq (prints : Prints texts first second) : second.queue = first.queue := by
  obtain ⟨world, rfl⟩ := prints
  rfl

theorem takeQueue (prints : Prints texts first second) :
    Prints texts first.takeQueue.2 second.takeQueue.2 := by
  obtain ⟨world, rfl⟩ := prints
  exact ⟨world, rfl⟩

end Prints

section Host

variable [Host W]

/-- What is logged is not printed. -/
theorem prints_reports (records : List Log.Record) (session : Session (Tapped (Watched W))) :
    Prints [] session (records.foldl Session.report session) := by
  induction records generalizing session with
  | nil => exact .nothing session session.world.system.world
  | cons record rest ih =>
    have logged : Prints [] session (session.report record) :=
      .nothing session (Host.report record session.world.system.world)
    exact logged.trans (ih _)

theorem prints_now (session : Session (Tapped (Watched W))) : Prints [] session session.now.2 :=
  .nothing session (Host.now session.world.system.world).2

theorem prints_interrupted (session : Session (Tapped (Watched W))) :
    Prints [] session session.interrupted.2 :=
  .nothing session (Host.interrupted session.world.system.world).2

theorem prints_print (text : String) (session : Session (Tapped (Watched W))) :
    Prints [text] session (session.print text) :=
  ⟨Host.print text session.world.system.world, rfl⟩

theorem prints_absorb {α : Type} (session : Session (Tapped (Watched W)))
    (report : Transport.Report (TerminalLine (Tapped (Watched W))) α) :
    Prints [] ⟨report.state, session.queue ++ report.packets⟩ (session.absorb report).2 :=
  prints_reports _ _

end Host

/-! ## An open session -/

/-- What holds of an open session that has reported `items`, works on `device`, and has the
block `pending` to send: it has read the bytes of the items and those that it still holds. -/
structure Listens (items : List Item) (device : Nat) (pending : Option (List UInt8))
    (session : Session (Tapped (Watched W))) : Prop where
  inStep : session.transport.InStep
  isOpen : session.transport.isOpen = true
  device_eq : session.transport.line.device = some device
  pending_eq : session.transport.line.pendingSend = pending
  reads : ∃ received, session.transport.Reads defaultPacketSize [] items received
  idle : session.queue = []

namespace Listens

variable {items : List Item} {device : Nat} {pending : Option (List UInt8)}
variable {session after : Session (Tapped (Watched W))} {texts : List String}

/-- Printing changes nothing else. -/
theorem prints (listens : session.Listens items device pending)
    (prints : Prints texts session after) : after.Listens items device pending := by
  obtain ⟨world, rfl⟩ := prints
  obtain ⟨inStep, isOpen, device_eq, pending_eq, ⟨received, reads⟩, idle⟩ := listens
  refine ⟨inStep.congr rfl rfl rfl rfl rfl rfl rfl, isOpen, device_eq, pending_eq, ?_, idle⟩
  exact ⟨received, reads.unmoved rfl rfl rfl⟩

/-- What has been read reads as what has been reported, but for a packet without payload that
ends it: such a packet is complete before the empty block for it has been asked for. -/
theorem parse_ahead (listens : session.Listens items device pending) :
    ∃ later, (parse defaultPacketSize session.world.taken).1 = items ++ later ∧
      (later = [] ∨ ∃ packet : Packet, later = [.packet packet] ∧
        packet.declaredLength? = some 0) := by
  obtain ⟨inStep, isOpen, -, -, ⟨received, holds, reported, made, split⟩, -⟩ := listens
  have taken : session.world.taken =
      reported ++ (received ++ session.transport.line.collected) := by
    rw [← List.append_assoc]
    exact split
  refine ⟨_, by rw [taken, parse_append made], ?_⟩
  by_cases short : session.transport.line.collected.length < session.transport.framer.wanted
  · rw [parse_of_unfinished (holds.stage.unfinished short)]
    exact .inl rfl
  · -- nothing is collected for a block that wants nothing
    have nothing := (inStep.collecting isOpen).resolve_right short
    rw [nothing] at short ⊢
    have stage := holds.stage
    rw [Nat.eq_zero_of_not_pos short] at stage
    obtain ⟨packet, segment, declared⟩ := stage.segment_of_empty
    have whole := parse_of_segments (.cons segment .nil)
    rw [List.append_nil] at whole
    rw [List.append_nil, whole]
    exact .inr ⟨packet, rfl, declared⟩

/-- What has been reported is what the grammar reads first. -/
theorem parse_eq (listens : session.Listens items device pending) :
    ∃ more, (parse defaultPacketSize session.world.taken).1 = items ++ more := by
  obtain ⟨later, read, -⟩ := listens.parse_ahead
  exact ⟨later, read⟩

variable [Host W]

/-- A packet that is handed over waits for the next poll. -/
theorem send (listens : session.Listens items device none) (kind : PacketKind)
    (packet : OutgoingPacket) :
    (session.send kind packet).1 = .ok () ∧
      (session.send kind packet).2.sight = session.sight ∧
      (session.send kind packet).2.Listens items device (some (packet.wire kind)) := by
  obtain ⟨inStep, isOpen, device_eq, pending_eq, ⟨received, reads⟩, idle⟩ := listens
  have free : session.transport.sendActive = false := by
    rw [inStep.gate, pending_eq]
    rfl
  have staysInStep := inStep.send kind packet
  have logged := prints_absorb session (session.transport.send kind packet)
  unfold Session.send
  unfold Transport.send at logged staysInStep ⊢
  simp only [isOpen, free, Bool.not_true, Bool.false_eq_true, if_false] at logged staysInStep ⊢
  refine ⟨rfl, logged.sight_eq, Listens.prints ?_ logged⟩
  refine ⟨staysInStep, rfl, device_eq, rfl, ⟨received, ?_⟩, ?_⟩
  · exact reads.unmoved rfl rfl rfl
  · show session.queue ++ [] = []
    rw [idle, List.append_nil]

/-- A poll leaves an open session open, and reports packets from the line. -/
theorem poll (bounded : ReadsAtMost W) (listens : session.Listens items device pending)
    (sameDevice : session.transport.poll.state.line.device = some device)
    (done : session.transport.poll.state.line.pendingSend = none) :
    ∃ more : List Item,
      Transport.framing session.transport.poll.events = more.map Transport.Event.ofItem ∧
      session.poll.2.takeQueue.2.Listens (items ++ more) device none := by
  obtain ⟨inStep, isOpen, -, -, ⟨received, reads⟩, -⟩ := listens
  obtain ⟨more, next, after, told⟩ := reads.poll (Watched.readsAtMost bounded) inStep
  have logged := prints_absorb session session.transport.poll
  refine ⟨more, told, Listens.prints ?_ logged.takeQueue⟩
  refine ⟨inStep.poll, ?_, sameDevice, done, ⟨next, after⟩, rfl⟩
  exact (Transport.terminal_poll_isOpen session.transport).trans isOpen

/-- A poll that has nothing to send reports packets from the line and shows nothing. -/
theorem poll_of_unsent (bounded : ReadsAtMost W) (listens : session.Listens items device none) :
    session.poll.2.sight = session.sight ∧
      ∃ more : List Item, session.poll.2.queue = more.filterMap Item.packet? ∧
        session.poll.2.takeQueue.2.Listens (items ++ more) device none := by
  obtain ⟨done, sameDevice, unseen, packets⟩ :=
    Transport.poll_of_unsent listens.pending_eq
  obtain ⟨more, told, after⟩ := listens.poll bounded (sameDevice.trans listens.device_eq) done
  have logged := prints_absorb session session.transport.poll
  refine ⟨logged.sight_eq.trans unseen, more, ?_, after⟩
  rw [Session.poll, logged.queue_eq, listens.idle, packets,
    ← Transport.filterMap_framed_framing, told, Transport.filterMap_framed_ofItem]
  rfl

/-- A poll that fails delivers nothing. -/
theorem queue_of_failed (listens : session.Listens items device pending)
    {error : TransportError} (failed : session.poll.1 = .error error) :
    session.poll.2.queue = [] := by
  have logged := prints_absorb session session.transport.poll
  have value : session.transport.poll.value = .error error := failed
  rw [Session.poll, logged.queue_eq, listens.idle, Transport.packets_of_failed value]
  rfl

/-- A poll that has something to send writes it, once, and reports it if that succeeds. -/
theorem poll_of_pending (bounded : ReadsAtMost W) {first : UInt8} {rest : List UInt8}
    (listens : session.Listens items device (some (first :: rest))) :
    ∃ result, session.poll.2.sight =
        { session.sight with
          written := session.sight.written ++ [(device, first :: rest, result)] } ∧
      match result with
      | .error _ => ∃ error, session.poll.1 = .error error
      | .ok () => session.poll.1 = .ok true ∧ session.poll.2.queue = [Packet.sentNotice] ∧
          session.poll.2.takeQueue.2.Listens items device none := by
  obtain ⟨result, done, sameDevice, seen, outcome⟩ :=
    Transport.poll_of_pending listens.device_eq listens.pending_eq
  obtain ⟨more, told, after⟩ := listens.poll bounded sameDevice done
  have logged := prints_absorb session session.transport.poll
  refine ⟨result, logged.sight_eq.trans seen, ?_⟩
  cases result with
  | error cause => exact ⟨_, outcome⟩
  | ok =>
    obtain ⟨value, events⟩ := outcome
    -- the notice is the only event, so nothing has come from the line
    have nothing : more = [] := by
      rw [events] at told
      exact List.map_eq_nil_iff.mp told.symm
    rw [nothing, List.append_nil] at after
    refine ⟨value, ?_, after⟩
    rw [Session.poll, logged.queue_eq, listens.idle, Transport.Report.packets, events]
    rfl

end Listens

variable [Host W]

/-! ## The beginning and the end -/

/-- The transport of a session that has been configured and is about to be opened. -/
def configured (setup : SerialSetup) (world : W) : Transport (TerminalLine (Tapped (Watched W))) :=
  { Transport.new { system := Watched.unseen world, config := setup.lineConfig } with
    config := some setup.lineConfig
    mainBaudrate := setup.mainBaudrate
    handler := .queue }

/-- A session starts with the opening of its configured transport. -/
theorem start_eq (setup : SerialSetup) (world : W) :
    ∃ logged, start setup (Watched.unseen world) =
      ((configured setup logged).openLine.value.mapError (.ofTransport "open failed"),
        (absorb ⟨configured setup logged, []⟩ (configured setup logged).openLine).2) := by
  obtain ⟨logged, ready⟩ : ∃ logged, (new (Watched.unseen world)).configure setup =
      (.ok (), ⟨configured setup logged, []⟩) := ⟨_, rfl⟩
  refine ⟨logged, ?_⟩
  unfold start
  rw [ready]
  rfl

/-- An opening of the configured transport begins with nothing read. -/
theorem reads_configured {setup : SerialSetup} {world : W}
    (opened : (configured setup world).openLine.value = .ok ()) :
    (configured setup world).openLine.state.Reads defaultPacketSize [] [] [] := by
  have holds : (configured setup world).framer.Holds defaultPacketSize [] :=
    Framer.holds_new (ReceiveBuffer.wellFormed_of_new ReceiveBuffer.new_default).1
  -- how long a drain may take does not matter here
  let patience : Patience (Watched W) := ⟨fun _ => 0⟩
  have answered : (Action.host .openLine : Action TerminalLine.Control).opens
      (.ofExcept (configured setup world).openLine.value) = true := by
    rw [opened]
    rfl
  exact ((configured setup world).terminalHeard_openLine.begins answered ⟨[], holds⟩).1

/-- A session that starts tries to open its device, and listens if that succeeds. -/
theorem listens_start {setup : SerialSetup} {path : String} (named : setup.device = some path)
    (world : W) :
    ∃ result, (start setup (Watched.unseen world)).2.sight = { opened := [(path, result)] } ∧
      ((start setup (Watched.unseen world)).1 = .ok () → ∃ device, result = .ok device ∧
        (start setup (Watched.unseen world)).2.Listens [] device none) := by
  obtain ⟨logged, whole⟩ := start_eq setup world
  obtain ⟨result, seen, silent, opens⟩ :=
    (configured setup logged).openLine_of_named rfl named
  have prints := prints_absorb ⟨configured setup logged, []⟩ (configured setup logged).openLine
  rw [whole]
  refine ⟨result, prints.sight_eq.trans seen, fun succeeded => ?_⟩
  have opened : (configured setup logged).openLine.value = .ok () := by
    cases value : (configured setup logged).openLine.value with
    | ok => rfl
    | error error =>
      rw [value] at succeeded
      cases succeeded
  obtain ⟨device, rfl, device_eq, done, isOpen⟩ := opens opened
  have inStep : (configured setup logged).InStep :=
    (Transport.inStep_new .default (Watched.unseen logged) 100).congr rfl rfl rfl rfl rfl rfl rfl
  refine ⟨device, rfl, Listens.prints ?_ prints⟩
  exact ⟨inStep.openLine, isOpen, device_eq, done, ⟨[], reads_configured opened⟩, silent⟩

theorem start_taken (setup : SerialSetup) (world : W) :
    (start setup (Watched.unseen world)).2.world.taken = [] := by
  obtain ⟨logged, whole⟩ := start_eq setup world
  have prints := prints_absorb ⟨configured setup logged, []⟩ (configured setup logged).openLine
  rw [whole]
  exact prints.taken_eq.trans (configured setup logged).terminal_openLine_taken

/-- A closing succeeds, and nothing is seen of it or read by it. -/
theorem close_ok (session : Session (Tapped (Watched W))) :
    session.close.1 = .ok () ∧ session.close.2.sight = session.sight ∧
      session.close.2.world.taken = session.world.taken := by
  have logged := prints_absorb session session.transport.close
  have closed : session.transport.close.value = .ok () ∧
      session.transport.close.state.line.system.system.sight = session.sight ∧
      session.transport.close.state.line.system.taken = session.world.taken := by
    show (session.transport.line.close.value.mapError TransportError.line) = .ok () ∧
      session.transport.line.close.state.system.system.sight = _ ∧
      session.transport.line.close.state.system.taken = _
    unfold TerminalLine.close
    split <;> exact ⟨rfl, rfl, rfl⟩
  exact ⟨closed.1, logged.sight_eq.trans closed.2.1, logged.taken_eq.trans closed.2.2⟩

/-- A command that had nothing else to report ends without an error, and nothing is seen of its
end or read by it. -/
theorem finish_ok (session : Session (Tapped (Watched W))) :
    ∃ world, session.finish = (.ok (), world) ∧ world.system.sight = session.sight ∧
      world.taken = session.world.taken := by
  obtain ⟨closes, seen, taken⟩ := session.close_ok
  refine ⟨session.close.2.world, ?_, seen, taken⟩
  unfold finish
  generalize session.close = result at closes
  obtain ⟨outcome, closed⟩ := result
  cases closes
  rfl

end Session

end HciSerial
