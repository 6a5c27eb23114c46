import HciSerial.Proofs.Transport.Reception
import HciSerial.Proofs.Transport.Requests
import HciSerial.Proofs.Transport.Transcript

/-!
# The receive side over a whole run

Whatever a host does and however bytes arrive, the packets and framing errors of a
session depend on the bytes of the session alone.

## Main Definitions

* `Transport.arrived`, `Transport.reported`: the bytes of a session, and what the
  receive side reported in it.
* `Transport.Heard`: what an action means for the receive side.
* `Transport.Listens`: the invariant of a run.

## Main Results

* `Transport.heard`: every action has one of five meanings.
* `Transport.Heard.begins`, `Transport.Heard.goesOn`: how sessions begin and go on.
* `Transport.Listens.perform`: every action keeps the invariant.
* `Transport.session_eq_parse`: what a session has reported is what the grammar reads.
-/

namespace HciSerial

open Grammar

/-- The bytes that arrive with an action. -/
def Action.injected : Action MemoryLine.Control → List UInt8
  | line (.inject bytes) => bytes
  | _ => []

@[simp] theorem Action.injected_host (operation : Operation) :
    (Action.host operation).injected = [] := rfl

namespace Transport

/-- The bytes of a session: those that waited in the line at the opening, and those that
have arrived since. -/
def arrived (opening : Occurrence MemoryLine MemoryLine.Control)
    (later : List (Occurrence MemoryLine MemoryLine.Control)) : List UInt8 :=
  opening.before.line.incoming ++ later.flatMap fun occurrence => occurrence.action.injected

/-- The packets from the line and the framing errors of a session, in order. -/
def reported (opening : Occurrence MemoryLine MemoryLine.Control)
    (later : List (Occurrence MemoryLine MemoryLine.Control)) : List Event :=
  framing ((opening :: later).flatMap Occurrence.events)

/-! ## One action -/

/-- What an action means for the receive side of a transport. -/
inductive Heard (transport : Transport MemoryLine) :
    Action MemoryLine.Control → Report MemoryLine Answer → Prop where
  /-- Nothing but the arrival of bytes. -/
  | aside {action : Action MemoryLine.Control} {report : Report MemoryLine Answer}
      (unopened : action.opens report.value = false) (undrained : action ≠ .host .drain)
      (isOpen : report.state.isOpen = transport.isOpen)
      (line : report.state.line.isOpen = transport.line.isOpen)
      (framer : report.state.framer = transport.framer)
      (asked : report.state.line.pendingRead = transport.line.pendingRead)
      (incoming : report.state.line.incoming = transport.line.incoming ++ action.injected)
      (silent : framing report.events = []) :
      Heard transport action report
  /-- A session begins. -/
  | opened {report : Report MemoryLine Answer} (answer : report.value = .done)
      (isOpen : report.state.isOpen = true) (line : report.state.line.isOpen = true)
      (framer : report.state.framer = transport.framer.reset)
      (asked : report.state.line.pendingRead = some 1)
      (incoming : report.state.line.incoming = transport.line.incoming)
      (silent : framing report.events = []) :
      Heard transport (.host .openLine) report
  /-- A session ends. -/
  | closed {report : Report MemoryLine Answer} (isOpen : report.state.isOpen = false)
      (line : report.state.line.isOpen = false)
      (framer : report.state.framer = transport.framer)
      (silent : framing report.events = []) :
      Heard transport (.host .close) report
  /-- One poll. -/
  | polled {answer : Answer} :
      Heard transport (.host .poll) {
        state := transport.poll.state
        value := answer
        events := transport.poll.events }
  /-- Polls until one finds nothing or fails. -/
  | drained {report : Report MemoryLine (Except TransportError Nat)} {answer : Answer}
      (drains : Drains transport report)
      (counted : ∀ count, answer = .drained count → report.value = .ok count) :
      Heard transport (.host .drain) {
        state := report.state
        value := answer
        events := report.events }

variable {maxPacket : Nat} {received : List UInt8} {transport : Transport MemoryLine}

/-- An opening begins a session, unless it fails. -/
theorem heard_openLine (transport : Transport MemoryLine) :
    Heard transport (.host .openLine) (transport.perform (.host .openLine)) := by
  show Heard transport _ { transport.openLine with value := .ofExcept transport.openLine.value }
  have cases := Transport.opened transport
  generalize transport.openLine = report at cases ⊢
  cases cases with
  | unconfigured | refused =>
    exact .aside rfl (by simp) rfl rfl rfl rfl (List.append_nil _).symm rfl
  | opened =>
    refine .opened rfl rfl rfl rfl rfl rfl ?_
    simp only [MemoryLine.receive]
    split <;> rfl

/-- A request to send leaves the receive side alone, whatever its outcome. -/
theorem heard_send (transport : Transport MemoryLine) (kind : PacketKind)
    (packet : OutgoingPacket) :
    Heard transport (.host (.send kind packet))
      (transport.perform (.host (.send kind packet))) := by
  show Heard transport _ { transport.send kind packet with
    value := .ofExcept (transport.send kind packet).value }
  have cases := Transport.sent kind packet transport
  generalize transport.send kind packet = report at cases ⊢
  cases cases with
  | closed | busy => exact .aside rfl (by simp) rfl rfl rfl rfl (List.append_nil _).symm rfl
  | accepted =>
    refine .aside rfl (by simp) rfl rfl rfl rfl (List.append_nil _).symm ?_
    simp only [MemoryLine.send]
    split <;> rfl

/-- A drain answers with a count only if none of its polls fails. -/
theorem heard_drain (holds : transport.framer.Holds maxPacket received) :
    Heard transport (.host .drain) (transport.perform (.host .drain)) := by
  refine .drained (drains holds) ?_
  intro count answered
  cases value : transport.drain.value with
  | error error =>
    simp only [value] at answered
    cases answered
  | ok found =>
    simp only [value] at answered
    cases answered
    rfl

/-- A control of the line can do no more than let bytes arrive. -/
theorem heard_control (transport : Transport MemoryLine) (control : MemoryLine.Control) :
    Heard transport (.line control) (transport.perform (.line control)) := by
  cases control with
  | inject bytes => exact .aside rfl (by simp) rfl rfl rfl rfl rfl rfl
  | completeSend =>
    show Heard transport _ { state := { transport with
      line := transport.line.control .completeSend }, value := .done }
    unfold MemoryLine.control
    cases transport.line.sending <;>
      exact .aside rfl (by simp) rfl rfl rfl rfl (List.append_nil _).symm rfl
  | completeSends | failOpen | failPoll =>
    exact .aside rfl (by simp) rfl rfl rfl rfl (List.append_nil _).symm rfl

/-- Every action but a completion that the line has not reported has one of five meanings. -/
theorem heard (holds : transport.framer.Holds maxPacket received)
    {action : Action MemoryLine.Control} (indirect : action.isDirect = false) :
    Heard transport action (transport.perform action) := by
  rcases action with operation | control
  · cases operation with
    | init config =>
      cases config <;> exact .aside rfl (by simp) rfl rfl rfl rfl (List.append_nil _).symm rfl
    | openLine => exact heard_openLine transport
    | close => exact .closed rfl rfl rfl rfl
    | setBaudrate | register =>
      exact .aside rfl (by simp) rfl rfl rfl rfl (List.append_nil _).symm rfl
    | send kind packet => exact heard_send transport kind packet
    | poll => exact .polled
    | drain => exact heard_drain holds
    | complete => cases indirect
  · exact heard_control transport control

namespace Heard

variable {action : Action MemoryLine.Control} {report : Report MemoryLine Answer}

/-- Every action keeps the framer between a boundary and the next. -/
theorem holds (meaning : Heard transport action report)
    (before : transport.framer.Holds maxPacket received) :
    ∃ next, report.state.framer.Holds maxPacket next := by
  cases meaning with
  | aside _ _ _ _ framer | closed _ _ framer => exact ⟨received, framer ▸ before⟩
  | opened _ _ _ framer => exact ⟨[], framer ▸ before.reset⟩
  | polled => exact poll_holds before
  | drained drains => exact drains.holds ⟨received, before⟩

/-- The line stays open exactly as long as the transport is. -/
theorem line (meaning : Heard transport action report)
    (before : transport.line.isOpen = transport.isOpen) :
    report.state.line.isOpen = report.state.isOpen := by
  cases meaning with
  | aside _ _ isOpen same => rw [isOpen, same, before]
  | opened _ isOpen same | closed isOpen same => rw [isOpen, same]
  | polled => rw [(poll_isOpen transport).1, (poll_isOpen transport).2, before]
  | drained drains => rw [drains.isOpen_eq.1, drains.isOpen_eq.2, before]

/-- Nothing is reported from a closed line. -/
theorem silent (meaning : Heard transport action report)
    (isClosed : transport.line.isOpen = false) : framing report.events = [] := by
  cases meaning with
  | aside _ _ _ _ _ _ _ nothing | opened _ _ _ _ _ _ nothing | closed _ _ _ nothing =>
    exact nothing
  | polled => rw [poll_of_closed isClosed, framing_nil]
  | drained drains => rw [drains.events_of_closed isClosed, framing_nil]

/-- A successful opening begins with the bytes that wait in the line. -/
theorem begins (meaning : Heard transport action report)
    (opens : action.opens report.value = true)
    (before : transport.framer.Holds maxPacket received) :
    report.state.Receives maxPacket transport.line.incoming [] [] ∧
      framing report.events = [] := by
  cases meaning with
  | aside unopened => cases opens.symm.trans unopened
  | opened _ _ _ framer asked incoming nothing =>
    refine ⟨⟨framer ▸ before.reset, ?_, [], .nil, incoming.symm⟩, nothing⟩
    rw [asked, framer]
    rfl
  | closed | polled | drained => cases opens

/-- Any other action that leaves the transport open has met it open, and reports exactly the
segments that it completes. -/
theorem goesOn (meaning : Heard transport action report)
    (unopened : action.opens report.value = false) (isOpen : report.state.isOpen = true) :
    transport.isOpen = true ∧ ∀ bytes items rest, transport.Receives maxPacket bytes items rest →
      ∃ more next,
        report.state.Receives maxPacket (bytes ++ action.injected) (items ++ more) next ∧
          framing report.events = more.map Event.ofItem := by
  cases meaning with
  | aside _ _ same _ framer asked incoming nothing =>
    refine ⟨same ▸ isOpen, fun bytes items rest receives => ⟨[], rest, ?_, nothing⟩⟩
    rw [List.append_nil]
    exact receives.arrive framer asked incoming
  | opened answer =>
    rw [answer] at unopened
    cases unopened
  | closed isClosed => cases isOpen.symm.trans isClosed
  | polled =>
    refine ⟨(poll_isOpen transport).1 ▸ isOpen, fun bytes items rest receives => ?_⟩
    rw [Action.injected_host, List.append_nil]
    exact receives.poll
  | drained drains =>
    refine ⟨drains.isOpen_eq.1 ▸ isOpen, fun bytes items rest receives => ?_⟩
    rw [Action.injected_host, List.append_nil]
    exact receives.drains drains

/-- After a drain that answers with a count, a poll finds nothing. -/
theorem settled (meaning : Heard transport action report) (isDrain : action = .host .drain)
    {count : Nat} (counted : report.value = .drained count) :
    report.state.poll.value = .ok false := by
  cases meaning with
  | aside _ undrained => exact absurd isDrain undrained
  | opened | closed | polled => cases isDrain
  | drained drains ok => exact drains.nothing_of_ok (ok count counted)

end Heard

/-! ## A whole run -/

/-- In the open session, the three parts of what has arrived are where they belong. -/
def Hears (maxPacket : Nat) (past : List (Occurrence MemoryLine MemoryLine.Control))
    (now : Transport MemoryLine) : Prop :=
  ∃ opening later items received, session? past = some (opening, later) ∧
    now.Receives maxPacket (arrived opening later) items received ∧
    reported opening later = items.map Event.ofItem

/-- What holds after a run of a transport that receives packets of `maxPacket` bytes. -/
structure Listens (maxPacket : Nat) (past : List (Occurrence MemoryLine MemoryLine.Control))
    (now : Transport MemoryLine) : Prop where
  holds : ∃ received, now.framer.Holds maxPacket received
  line : now.line.isOpen = now.isOpen
  silent : ∀ occurrence ∈ past, occurrence.before.isOpen = false →
    framing occurrence.events = []
  settled : ∀ last count, past.getLast? = some last → last.action = .host .drain →
    last.answer = .drained count → now.poll.value = .ok false
  hears : now.isOpen = true → Hears maxPacket past now

variable {past : List (Occurrence MemoryLine MemoryLine.Control)} {now next : Transport MemoryLine}
variable {last : Occurrence MemoryLine MemoryLine.Control}

/-- A session goes on with an action that reports exactly the segments that it completes. -/
theorem Hears.concat (hears : Hears maxPacket past now) (unopened : last.opens = false)
    (goesOn : ∀ bytes items received, now.Receives maxPacket bytes items received →
      ∃ more rest, next.Receives maxPacket (bytes ++ last.action.injected) (items ++ more) rest ∧
        framing last.events = more.map Event.ofItem) :
    Hears maxPacket (past ++ [last]) next := by
  obtain ⟨opening, later, items, received, session, receives, told⟩ := hears
  obtain ⟨more, rest, after, toldNow⟩ := goesOn _ items received receives
  refine ⟨opening, later ++ [last], items ++ more, rest, ?_, ?_, ?_⟩
  · rw [session?_concat, unopened, session]
    rfl
  · unfold arrived at after ⊢
    rw [List.flatMap_append, ← List.append_assoc, List.flatMap_singleton]
    exact after
  · unfold reported at told ⊢
    rw [← List.cons_append, List.flatMap_append, framing_append, told, List.flatMap_singleton,
      toldNow, List.map_append]

/-- A successful opening begins a session. -/
theorem Hears.of_opens (opens : last.opens = true)
    (receives : next.Receives maxPacket last.before.line.incoming [] [])
    (silent : framing last.events = []) : Hears maxPacket (past ++ [last]) next := by
  refine ⟨last, [], [], [], ?_, ?_, ?_⟩
  · rw [session?_concat, opens]
    rfl
  · rw [arrived, List.flatMap_nil, List.append_nil]
    exact receives
  · rw [reported, List.flatMap_singleton, silent]
    rfl

/-- Every action but a completion that the line has not reported keeps the invariant. -/
theorem Listens.perform (listens : Listens maxPacket past now)
    {action : Action MemoryLine.Control} (indirect : action.isDirect = false) :
    Listens maxPacket (past ++ [⟨now, action⟩]) (now.perform action).state := by
  obtain ⟨⟨received, holds⟩, line, silent, _, hears⟩ := listens
  have meaning := heard holds indirect
  refine ⟨meaning.holds holds, meaning.line line, ?silent, ?settled, ?hears⟩
  case silent =>
    refine List.forall_mem_append.mpr ⟨silent, List.forall_mem_singleton.mpr ?_⟩
    intro isClosed
    exact meaning.silent (line.trans isClosed)
  case settled =>
    intro final count ending isDrain counted
    rw [List.getLast?_concat] at ending
    obtain rfl := Option.some.inj ending
    exact meaning.settled isDrain counted
  case hears =>
    intro isOpen
    -- an opening starts anew even if the transport was open already
    cases opens : Occurrence.opens ⟨now, action⟩ with
    | true =>
      obtain ⟨receives, nothing⟩ := meaning.begins opens holds
      exact .of_opens opens receives nothing
    | false =>
      obtain ⟨wasOpen, goesOn⟩ := meaning.goesOn opens isOpen
      exact (hears wasOpen).concat opens goesOn

/-- A new transport satisfies the invariant. -/
theorem listens_new {buffer : ReceiveBuffer} (formed : buffer.WellFormed) :
    Listens buffer.maxPacket [] (.new {} buffer) where
  holds := ⟨[], Framer.holds_new formed⟩
  line := rfl
  silent := List.forall_mem_nil _
  settled _ _ ending := nomatch ending
  hears isOpen := nomatch isOpen

/-- Every run without completions that the line has not reported keeps the invariant. -/
theorem listens_after {buffer : ReceiveBuffer} (formed : buffer.WellFormed)
    {actions : List (Action MemoryLine.Control)}
    (indirect : ∀ action ∈ actions, action.isDirect = false) :
    let start : Transport MemoryLine := .new {} buffer
    Listens buffer.maxPacket (start.transcript actions) (start.after actions) := by
  intro start
  have allowed : ∀ occurrence ∈ start.transcript actions, occurrence.action.isDirect = false :=
    forall_mem_transcript (fun action => action.isDirect = false) indirect
  refine transcript_invariant (Listens buffer.maxPacket) _ allowed (listens_new formed) ?_
  intro past now action listens indirect
  exact listens.perform indirect

/-- What a session has reported is what the grammar reads.

A closed transport reports nothing from the line.  While it is open, the bytes of the
session are those that have left the line and those that wait in it, and the packets and
framing errors of the session are the items of the former, in order; a last packet without
payload is missing until the empty block for it has been read.  After a drain that did not
fail, they are the items of all bytes of the session, and the framer and the line hold the
unfinished rest. -/
theorem session_eq_parse {preBuffer size : UInt64} {buffer : ReceiveBuffer}
    (made : ReceiveBuffer.new preBuffer size = .ok buffer)
    {actions : List (Action MemoryLine.Control)}
    (indirect : ∀ action ∈ actions, action.isDirect = false) :
    let start : Transport MemoryLine := .new {} buffer
    let past := start.transcript actions
    let now := start.after actions
    (∀ occurrence ∈ past, occurrence.before.isOpen = false → framing occurrence.events = []) ∧
      (now.isOpen = true → ∃ opening later, session? past = some (opening, later) ∧
        (∃ consumed, arrived opening later = consumed ++ now.line.incoming ∧
          (now.line.pendingRead ≠ some 0 →
            reported opening later = (parse size.toNat consumed).1.map Event.ofItem) ∧
          (now.line.pendingRead = some 0 → ∃ items, ∃ packet : Packet,
            packet.declaredLength? = some 0 ∧
            parse size.toNat consumed = (items ++ [.packet packet], []) ∧
            reported opening later = items.map Event.ofItem)) ∧
        (∀ last count, past.getLast? = some last → last.action = .host .drain →
          last.answer = .drained count →
            reported opening later =
              (parse size.toNat (arrived opening later)).1.map Event.ofItem ∧
            now.framer.position + now.line.incoming.length =
              (parse size.toNat (arrived opening later)).2.length)) := by
  intro start past now
  obtain ⟨formed, same⟩ := ReceiveBuffer.wellFormed_of_new made
  have listens : Listens buffer.maxPacket past now := listens_after formed indirect
  rw [same] at listens
  refine ⟨listens.silent, fun isOpen => ?_⟩
  obtain ⟨opening, later, items, received, session, receives, told⟩ := listens.hears isOpen
  obtain ⟨consumed, split, whole, cut⟩ := receives.parse_consumed
  refine ⟨opening, later, session, ⟨consumed, split, ?_, ?_⟩, ?_⟩
  · intro nonempty
    rw [whole nonempty, told]
  · intro empty
    obtain ⟨packet, declared, read⟩ := cut empty
    exact ⟨items, packet, declared, read, told⟩
  · intro last count ending isDrain counted
    have nothing := listens.settled last count ending isDrain counted
    have read := receives.parse_arrived (short_of_nothing nothing (listens.line.trans isOpen))
    rw [read, told, List.length_append, receives.holds.position_eq]
    exact ⟨rfl, rfl⟩

/-- An event and a stray byte that arrive after the opening are reported by a drain. -/
theorem session_event_stray :
    let actions : List (Action MemoryLine.Control) :=
      [.host (.init (.serial {})), .host .openLine, .line (.inject [0x04, 0x6E, 0x00, 0x99]),
        .host .drain]
    let past := (Transport.new {} .default).transcript actions
    ReceiveBuffer.new 1 1025 = .ok .default ∧ (∀ action ∈ actions, action.isDirect = false) ∧
      ∃ opening later, session? past = some (opening, later) ∧
        reported opening later =
          [.framed ⟨.event, [0x6E, 0x00]⟩, .logged (faultRecord (.invalidKind 0x99))] := by
  intro actions past
  have indirect : ∀ action ∈ actions, action.isDirect = false := by
    simp [actions, Action.isDirect]
  refine ⟨ReceiveBuffer.new_default, indirect, ?_⟩
  obtain ⟨opening, later, session, _, settled⟩ :=
    (session_eq_parse ReceiveBuffer.new_default indirect).2 rfl
  obtain ⟨told, _⟩ := settled _ 4 rfl rfl rfl
  have bytes : arrived opening later = [0x04, 0x6E, 0x00, 0x99] := by
    cases session
    rfl
  have event : Segment 1025 [0x04, 0x6E, 0x00] (.packet ⟨.event, [0x6E, 0x00]⟩) :=
    @Segment.packet _ .event [0x6E, 0x00] [] rfl rfl rfl nofun
  have made : Segments 1025 [0x04, 0x6E, 0x00, 0x99]
      [.packet ⟨.event, [0x6E, 0x00]⟩, .fault (.invalidKind 0x99)] :=
    .cons event (.cons (.stray rfl) .nil)
  have read := parse_of_segments made
  refine ⟨opening, later, session, ?_⟩
  rw [told, bytes]
  show (parse 1025 _).1.map Event.ofItem = _
  rw [read]
  rfl

end Transport

end HciSerial
