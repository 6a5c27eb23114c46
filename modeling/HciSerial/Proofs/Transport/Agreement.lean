import HciSerial.Proofs.Line.Conservation
import HciSerial.Proofs.Transport.Calm
import HciSerial.Proofs.Transport.TerminalReception

/-!
# A terminal line agrees with the line in memory

A transport on a terminal line reports the packets and framing errors of the bytes that it
has read, however the system splits them.  So it reports what a transport on a line in
memory reports when it is given the same bytes at once.

## Main Definitions

* `Transport.deliveries`: the packets from the line and the framing errors of some actions.
* `Transport.Follows`: the invariant of a run on a terminal line.
* `Transport.injectedAtOnce`: a run on a line in memory that gets all bytes at once.

## Main Results

* `Transport.Follows.perform`: every action keeps the invariant.
* `Transport.deliveries_injectedAtOnce`: what the line in memory delivers.
* `Transport.terminal_agrees_with_memory`: the terminal line loses and duplicates nothing, and
  the transports deliver the same.
-/

namespace HciSerial.Transport

open Grammar

/-! ## What is delivered -/

/-- The packets from the line and the framing errors of some actions, in order. -/
def deliveries {L C : Type} [FiniteLine L] [Controllable L C]
    (occurrences : List (Occurrence L C)) : List Event :=
  framing (occurrences.flatMap Occurrence.events)

theorem deliveries_append {L C : Type} [FiniteLine L] [Controllable L C]
    (earlier later : List (Occurrence L C)) :
    deliveries (earlier ++ later) = deliveries earlier ++ deliveries later := by
  rw [deliveries, List.flatMap_append, framing_append]
  rfl

theorem deliveries_singleton {L C : Type} [FiniteLine L] [Controllable L C]
    (occurrence : Occurrence L C) : deliveries [occurrence] = framing occurrence.events := by
  rw [deliveries, List.flatMap_singleton]

/-! ## A run on a terminal line -/

variable {W : Type} [TerminalSystem W] [Patience W]

/-- In the open session, the bytes that have been read are where they belong. -/
def Delivers (maxPacket : Nat)
    (past : List (Occurrence (TerminalLine (Tapped W)) TerminalLine.Control))
    (now : Transport (TerminalLine (Tapped W))) : Prop :=
  ∃ opening later items received, session? past = some (opening, later) ∧
    now.Reads maxPacket opening.before.line.system.taken items received ∧
    deliveries (opening :: later) = items.map Event.ofItem

/-- What holds after a run of a transport on a terminal line. -/
structure Follows (maxPacket : Nat)
    (past : List (Occurrence (TerminalLine (Tapped W)) TerminalLine.Control))
    (now : Transport (TerminalLine (Tapped W))) : Prop where
  inStep : now.InStep
  holds : ∃ received, now.framer.Holds maxPacket received
  settled : ∀ last, past.getLast? = some last → last.action = .host .poll →
    last.answer = .handled false → now.isOpen = true → ¬ now.line.BlockReady
  delivers : now.isOpen = true → Delivers maxPacket past now

variable {maxPacket : Nat}
variable {past : List (Occurrence (TerminalLine (Tapped W)) TerminalLine.Control)}
variable {now next : Transport (TerminalLine (Tapped W))}
variable {last : Occurrence (TerminalLine (Tapped W)) TerminalLine.Control}

/-- A session goes on with an action that reports exactly the segments that it completes. -/
theorem Delivers.concat (delivers : Delivers maxPacket past now) (unopened : last.opens = false)
    (goesOn : ∀ before items received, now.Reads maxPacket before items received →
      ∃ more rest, next.Reads maxPacket before (items ++ more) rest ∧
        framing last.events = more.map Event.ofItem) :
    Delivers maxPacket (past ++ [last]) next := by
  obtain ⟨opening, later, items, received, session, reads, told⟩ := delivers
  obtain ⟨more, rest, after, toldNow⟩ := goesOn _ items received reads
  refine ⟨opening, later ++ [last], items ++ more, rest, ?_, after, ?_⟩
  · rw [session?_concat, unopened, session]
    rfl
  · rw [← List.cons_append, deliveries_append, told, deliveries_singleton, toldNow,
      List.map_append]

/-- A successful opening begins a session. -/
theorem Delivers.of_opens (opens : last.opens = true)
    (reads : next.Reads maxPacket last.before.line.system.taken [] [])
    (silent : framing last.events = []) : Delivers maxPacket (past ++ [last]) next := by
  refine ⟨last, [], [], [], ?_, reads, ?_⟩
  · rw [session?_concat, opens]
    rfl
  · rw [deliveries_singleton, silent]
    rfl

/-- Every action but a completion that the line has not reported keeps the invariant. -/
theorem Follows.perform (bounded : ReadsAtMost W) (follows : Follows maxPacket past now)
    {action : Action TerminalLine.Control} (indirect : action.isDirect = false) :
    Follows maxPacket (past ++ [⟨now, action⟩]) (now.perform action).state := by
  obtain ⟨inStep, holds, _, delivers⟩ := follows
  have meaning := terminalHeard now indirect
  refine ⟨inStep.perform indirect, meaning.holds holds, ?settled, ?delivers⟩
  case settled =>
    intro final ending isPoll quiet isOpen
    rw [List.getLast?_concat] at ending
    cases ending
    exact meaning.settled inStep isPoll quiet isOpen
  case delivers =>
    intro isOpen
    -- an opening starts anew even if the transport was open already
    cases opens : Occurrence.opens ⟨now, action⟩ with
    | true =>
      obtain ⟨reads, nothing⟩ := meaning.begins opens holds
      exact .of_opens opens reads nothing
    | false =>
      obtain ⟨wasOpen, goesOn⟩ := meaning.goesOn bounded inStep opens isOpen
      exact (delivers wasOpen).concat opens goesOn

/-- A new transport satisfies the invariant. -/
theorem follows_new {buffer : ReceiveBuffer} (formed : buffer.WellFormed) (system : Tapped W)
    (pollTimeout : Nat) : Follows buffer.maxPacket [] (.new { system, pollTimeout } buffer) where
  inStep := inStep_new buffer system pollTimeout
  holds := ⟨[], Framer.holds_new formed⟩
  settled _ ending := nomatch ending
  delivers isOpen := nomatch isOpen

/-- Every run without completions that the line has not reported keeps the invariant. -/
theorem follows_after (bounded : ReadsAtMost W) {buffer : ReceiveBuffer}
    (formed : buffer.WellFormed) (system : Tapped W) (pollTimeout : Nat)
    {actions : List (Action TerminalLine.Control)}
    (indirect : ∀ action ∈ actions, action.isDirect = false) :
    let start : Transport (TerminalLine (Tapped W)) := .new { system, pollTimeout } buffer
    Follows buffer.maxPacket (start.transcript actions) (start.after actions) := by
  intro start
  have allowed : ∀ occurrence ∈ start.transcript actions, occurrence.action.isDirect = false :=
    forall_mem_transcript (fun action => action.isDirect = false) indirect
  refine transcript_invariant (Follows buffer.maxPacket) _ allowed
    (follows_new formed system pollTimeout) ?_
  intro past now action follows indirect
  exact follows.perform bounded indirect

/-! ## The line in memory -/

/-- A run on a line in memory: bytes arrive at once after the opening, and a drain. -/
def injectedAtOnce (setup : SerialSetup) (bytes : List UInt8) :
    List (Action MemoryLine.Control) :=
  [.host (.init (.serial setup)), .host .openLine, .line (.inject bytes), .host .drain]

/-- The line in memory delivers the items of all bytes. -/
theorem deliveries_injectedAtOnce {buffer : ReceiveBuffer} (formed : buffer.WellFormed)
    (setup : SerialSetup) (bytes : List UInt8) :
    deliveries ((new ({} : MemoryLine) buffer).transcript (injectedAtOnce setup bytes)) =
      (parse buffer.maxPacket bytes).1.map Event.ofItem := by
  -- the transport that is drained
  let ready : Transport MemoryLine := {
    line := { config := setup.lineConfig, incoming := bytes, isOpen := true, pendingRead := some 1,
              readLog := [1] }
    framer := .new buffer
    config := some setup.lineConfig
    mainBaudrate := setup.mainBaudrate
    isOpen := true }
  have whole : deliveries ((new ({} : MemoryLine) buffer).transcript (injectedAtOnce setup bytes)) =
      framing (ready.drain.events ++ []) := rfl
  have receives : ready.Receives buffer.maxPacket bytes [] [] :=
    ⟨Framer.holds_new formed, rfl, [], .nil, rfl⟩
  have drains := Transport.drains receives.holds
  obtain ⟨_, count, ok⟩ := Calm.drains ⟨rfl, rfl⟩ drains
  obtain ⟨items, rest, _, told, read⟩ := receives.parse_drained rfl drains ok
  rw [whole, List.append_nil, told, read]
  rfl

/-! ## Agreement -/

/-- A terminal line loses and duplicates nothing, and agrees with the line in memory.

Consider first a line that has been opened, under any calls but openings and closings, with
every request to receive made only once all earlier ones have been completed.  What it has
read since is, in order, the completed blocks and the part of the next that has been
collected.  Every completed block has the requested length, and nothing beyond a request is
read.  What is read is known from the same calls on the tapped line, which do the same.

Consider then a transport on a terminal line after any run, with openings anew, failing
calls, sends and drains.  While it is open, and unless a full block waits to be reported, it
has delivered since the opening what a transport on a line in memory with the same buffer
delivers when it gets the bytes that have been read at once.  No block waits after a poll
that finds nothing. -/
theorem terminal_agrees_with_memory (bounded : ReadsAtMost W) :
    (∀ (line : TerminalLine W) (calls : List LineCall),
      line.openLine.value = .ok () → (∀ call ∈ calls, call.isLifecycle = false) →
      LineCall.Orderly line.openLine.state calls →
      let start := line.openLine.state
      let now := LineCall.after start calls
      let tapped := LineCall.after (start.tap []) calls
      let blocks := LineCall.blocks start calls
      tapped.untap = now ∧ tapped.system.taken = blocks.flatten ++ now.collected ∧
        LineCall.requests calls = blocks.map List.length ++ now.pendingRead.toList ∧
        now.collected.length ≤ now.pendingRead.getD 0 ∧
        tapped.system.taken.length ≤ (LineCall.requests calls).sum) ∧
    (∀ (preBuffer size : UInt64) (buffer : ReceiveBuffer) (system : W) (pollTimeout : Nat)
        (actions : List (Action TerminalLine.Control)),
      ReceiveBuffer.new preBuffer size = .ok buffer →
      (∀ action ∈ actions, action.isDirect = false) →
      let start : Transport (TerminalLine (Tapped W)) :=
        .new { system := ⟨system, []⟩, pollTimeout } buffer
      let past := start.transcript actions
      let now := start.after actions
      now.isOpen = true → ∃ opening later bytes, session? past = some (opening, later) ∧
        now.line.system.taken = opening.before.line.system.taken ++ bytes ∧
        (¬ now.line.BlockReady → ∀ setup, deliveries (opening :: later) =
          deliveries ((new ({} : MemoryLine) buffer).transcript (injectedAtOnce setup bytes))) ∧
        ∀ last, past.getLast? = some last → last.action = .host .poll →
          last.answer = .handled false → ¬ now.line.BlockReady) := by
  refine ⟨?driver, ?transport⟩
  case driver =>
    intro line calls opens steady orderly start now tapped blocks
    have conserves : TerminalLine.Conserves (start.tap []) calls tapped :=
      TerminalLine.conserves_of_opens bounded opens steady orderly
    obtain ⟨read, same, completed⟩ := TerminalLine.after_tap [] start calls
    have untapped : tapped.untap = now := congrArg TerminalLine.untap same
    have longest := conserves.length_le
    obtain ⟨taken, requested, within⟩ := conserves
    rw [completed] at taken requested
    rw [← untapped]
    exact ⟨rfl, taken, requested, within, longest.trans (Nat.le_of_eq (Nat.zero_add _))⟩
  case transport =>
    intro preBuffer size buffer system pollTimeout actions made indirect start past now isOpen
    obtain ⟨formed, _⟩ := ReceiveBuffer.wellFormed_of_new made
    have follows : Follows buffer.maxPacket past now :=
      follows_after bounded formed ⟨system, []⟩ pollTimeout indirect
    obtain ⟨opening, later, items, received, session, reads, told⟩ := follows.delivers isOpen
    obtain ⟨bytes, taken, read⟩ := reads.parse_eq follows.inStep isOpen
    refine ⟨opening, later, bytes, session, taken, ?_, ?_⟩
    · intro unready setup
      rw [told, deliveries_injectedAtOnce formed, read unready]
    · intro last ending isPoll quiet
      exact follows.settled last ending isPoll quiet isOpen

/-- A line to a far end that writes a byte, and another one once it has got a byte. -/
def answeringLine : TerminalLine SimulatedHost where
  system :=
    { terminal := some {}, script := [.write [0x04], .read 1, .write [0x6E]], peerActive := true }
  config := (SerialSetup.ofDevice "/dev/pts/0").lineConfig

/-- A block whose bytes arrive before and after a send. -/
def receiveAroundSend : List LineCall := [.receive 2, .poll, .send [0xAA], .poll, .poll]

/-- A transport on a line whose far end writes an event. -/
def eventTransport : Transport (TerminalLine (Tapped SimulatedHost)) :=
  .new { system := ⟨eventHost, []⟩ }

/-- A run that polls until an event has been received. -/
def pollForEvent : List (Action TerminalLine.Control) :=
  [.host (.init (.serial (.ofDevice "/dev/pts/0"))), .host .openLine, .host .poll, .host .poll,
    .host .poll, .host .poll]

/-- The block is made of both bytes, and the event is delivered as from a line in memory. -/
theorem terminal_agrees_receiveAroundSend :
    let start := answeringLine.openLine.state
    let past := eventTransport.transcript pollForEvent
    (answeringLine.openLine.value = .ok () ∧
      (∀ call ∈ receiveAroundSend, call.isLifecycle = false) ∧
      LineCall.Orderly start receiveAroundSend ∧
      (LineCall.after (start.tap []) receiveAroundSend).system.taken = [0x04, 0x6E]) ∧
    ReceiveBuffer.new 1 1025 = .ok .default ∧ (∀ action ∈ pollForEvent, action.isDirect = false) ∧
      (eventTransport.after pollForEvent).isOpen = true ∧
      ∃ opening later, session? past = some (opening, later) ∧
        deliveries (opening :: later) = [.framed ⟨.event, [0x6E, 0x00]⟩] := by
  intro start past
  obtain ⟨driver, transport⟩ := terminal_agrees_with_memory SimulatedHost.readsAtMost
  refine ⟨?driver, ReceiveBuffer.new_default, ?transport⟩
  case driver =>
    have opens : answeringLine.openLine.value = .ok () := rfl
    have steady : ∀ call ∈ receiveAroundSend, call.isLifecycle = false := by
      simp [receiveAroundSend, LineCall.isLifecycle]
    have orderly : LineCall.Orderly answeringLine.openLine.state receiveAroundSend := by
      rintro (_ | ⟨first, earlier⟩) length within
      · rfl
      · -- no other call asks for a block
        have member : LineCall.receive length ∈ receiveAroundSend.tail :=
          (List.cons_prefix_cons.mp within).2.subset (List.mem_append_right _ List.mem_cons_self)
        simp [receiveAroundSend] at member
    obtain ⟨_, taken, _⟩ := driver answeringLine receiveAroundSend opens steady orderly
    exact ⟨opens, steady, orderly, taken⟩
  case transport =>
    have indirect : ∀ action ∈ pollForEvent, action.isDirect = false := by
      simp [pollForEvent, Action.isDirect]
    have isOpen : (eventTransport.after pollForEvent).isOpen = true := rfl
    obtain ⟨opening, later, bytes, session, taken, agrees, settled⟩ :=
      transport 1 1025 .default eventHost 100 pollForEvent ReceiveBuffer.new_default indirect
        isOpen
    refine ⟨indirect, isOpen, opening, later, session, ?_⟩
    rw [agrees (settled _ rfl rfl rfl) {}]
    cases session
    cases taken
    rfl

end HciSerial.Transport
