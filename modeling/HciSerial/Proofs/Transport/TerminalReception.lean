import HciSerial.Proofs.Line.Tap
import HciSerial.Proofs.Transport.InStep
import HciSerial.Proofs.Transport.Reception

/-!
# What a transport reads from a terminal line

The bytes that have been read since an opening are in three places: in segments that have
been reported, in the framer, and in the block that the line collects.  However the system
splits them into reads, every action reports exactly the segments that it completes.

## Main Definitions

* `TerminalLine.BlockReady`: a block is full and has not been reported.
* `Transport.Reads`: where the bytes are that have been read since an opening.
* `Transport.TerminalHeard`: what an action means for the receive side.

## Main Results

* `Transport.Reads.parse_eq`: what has been read reads as what has been reported.
* `Transport.Reads.poll`, `Transport.Reads.drainWithin`: a poll and a drain.
* `Transport.terminalHeard`: every action has one of five meanings.
* `Transport.TerminalHeard.begins`, `Transport.TerminalHeard.goesOn`: how sessions begin and
  go on.
-/

namespace HciSerial

open Grammar

/-- A block is full and has not been reported: a poll reports it without reading. -/
def TerminalLine.BlockReady {W : Type} (line : TerminalLine W) : Prop :=
  ∃ length, line.pendingRead = some length ∧ length ≤ line.collected.length

namespace Transport

/-! ## Where the bytes are -/

variable {W : Type}

/-- Where the bytes are that have been read after `before`: in segments that have been
reported as `items`, in the framer, which holds `received`, and in the line, which collects
the next block. -/
structure Reads (transport : Transport (TerminalLine (Tapped W))) (maxPacket : Nat)
    (before : List UInt8) (items : List Item) (received : List UInt8) : Prop where
  holds : transport.framer.Holds maxPacket received
  split : ∃ reported, Segments maxPacket reported items ∧ transport.line.system.taken =
    before ++ (reported ++ received ++ transport.line.collected)

variable {transport : Transport (TerminalLine (Tapped W))} {maxPacket : Nat}
variable {before received : List UInt8} {items : List Item}

namespace Reads

/-- Bytes that are read are collected, unless they complete a block. -/
theorem collect (reads : transport.Reads maxPacket before items received)
    {next : Transport (TerminalLine (Tapped W))} {bytes : List UInt8}
    (framer : next.framer = transport.framer)
    (collected : next.line.collected = transport.line.collected ++ bytes)
    (taken : next.line.system.taken = transport.line.system.taken ++ bytes) :
    next.Reads maxPacket before items received := by
  obtain ⟨holds, reported, made, split⟩ := reads
  refine ⟨framer ▸ holds, reported, made, ?_⟩
  rw [taken, split, collected]
  simp only [List.append_assoc]

/-- A step that reads nothing and leaves the framer alone changes nothing. -/
theorem unmoved (reads : transport.Reads maxPacket before items received)
    {next : Transport (TerminalLine (Tapped W))} (framer : next.framer = transport.framer)
    (collected : next.line.collected = transport.line.collected)
    (taken : next.line.system.taken = transport.line.system.taken) :
    next.Reads maxPacket before items received := by
  rw [← List.append_nil transport.line.collected] at collected
  rw [← List.append_nil transport.line.system.taken] at taken
  exact reads.collect framer collected taken

/-- A step that leaves the framer alone and reports nothing completes no segment. -/
theorem aside (reads : transport.Reads maxPacket before items received)
    {next : Transport (TerminalLine (Tapped W))} {bytes : List UInt8} {events : List Event}
    (framer : next.framer = transport.framer)
    (collected : next.line.collected = transport.line.collected ++ bytes)
    (taken : next.line.system.taken = transport.line.system.taken ++ bytes)
    (silent : framing events = []) :
    ∃ more rest, next.Reads maxPacket before (items ++ more) rest ∧
      framing events = more.map Event.ofItem := by
  refine ⟨[], received, ?_, silent⟩
  rw [List.append_nil]
  exact reads.collect framer collected taken

/-- The same for a step that reads nothing. -/
theorem unread (reads : transport.Reads maxPacket before items received)
    {next : Transport (TerminalLine (Tapped W))} {events : List Event}
    (framer : next.framer = transport.framer)
    (collected : next.line.collected = transport.line.collected)
    (taken : next.line.system.taken = transport.line.system.taken)
    (silent : framing events = []) :
    ∃ more rest, next.Reads maxPacket before (items ++ more) rest ∧
      framing events = more.map Event.ofItem := by
  refine ⟨[], received, ?_, silent⟩
  rw [List.append_nil]
  exact reads.unmoved framer collected taken

/-- Unless a block is ready, the bytes that have been read after `before` read as what has
been reported. -/
theorem parse_eq (reads : transport.Reads maxPacket before items received)
    (inStep : transport.InStep) (isOpen : transport.isOpen = true) :
    ∃ bytes, transport.line.system.taken = before ++ bytes ∧
      (¬ transport.line.BlockReady →
        parse maxPacket bytes = (items, received ++ transport.line.collected)) := by
  obtain ⟨holds, reported, made, split⟩ := reads
  refine ⟨_, split, fun unready => ?_⟩
  have short : transport.line.collected.length < transport.framer.wanted :=
    Nat.not_le.mp fun full => unready ⟨_, inStep.reading isOpen, full⟩
  rw [List.append_assoc, parse_append made, parse_of_unfinished (holds.stage.unfinished short),
    List.append_nil]

end Reads

/-! ## One action -/

variable [TerminalSystem W]

theorem framing_droppedEvents (sendActive : Bool) (error : LineError) :
    framing (droppedEvents sendActive error) = [] := by
  cases sendActive <;> rfl

namespace Reads

/-- A block of the wanted length moves from the line to the framer, where it may end a
segment. -/
theorem receive (reads : transport.Reads maxPacket before items received)
    {taken : Transport (TerminalLine (Tapped W))} {bytes : List UInt8}
    (asked : (transport.line.collected ++ bytes).length = transport.framer.wanted)
    (framer : taken.framer = transport.framer)
    (read : taken.line.system.taken = transport.line.system.taken ++ bytes) :
    ∃ more next,
      (taken.blockReceived (transport.line.collected ++ bytes)).state.Reads maxPacket before
        (items ++ more) next ∧
      framing (taken.blockReceived (transport.line.collected ++ bytes)).events =
        more.map Event.ofItem := by
  obtain ⟨holds, reported, made, split⟩ := reads
  rw [← framer] at holds asked
  obtain ⟨more, next, ahead, verdict, after, longer, same⟩ := holds.receive_segments asked made
  refine ⟨more, next, ⟨after, ahead, longer, ?_⟩, ?_⟩
  · show taken.line.system.taken = before ++ (ahead ++ next ++ [])
    rw [read, split, List.append_nil, ← same]
    simp only [List.append_assoc]
  · rw [framing_blockReceived_of_silent (fun _ => rfl), ← verdict]
    cases Item.ofVerdict? _ <;> rfl

/-- A poll of a transport in step with its line reports exactly the segments that it
completes. -/
theorem poll (bounded : ReadsAtMost W) (inStep : transport.InStep)
    (reads : transport.Reads maxPacket before items received) :
    ∃ more next, transport.poll.state.Reads maxPacket before (items ++ more) next ∧
      framing transport.poll.events = more.map Event.ofItem := by
  have cases := terminalPolled transport
  generalize transport.poll = report at cases ⊢
  cases cases with
  | idle => exact reads.unread rfl rfl rfl rfl
  | sent written => exact reads.unread rfl rfl (TerminalLine.taken_of_writeBlock written) rfl
  | lost unwritten =>
    have silent := TerminalLine.taken_of_writeBlock unwritten
    exact reads.unread rfl rfl silent (framing_droppedEvents _ _)
  | failed _ failure =>
    have silent := (TerminalLine.taken_of_fetch failure).trans (List.append_nil _)
    exact reads.unread rfl rfl silent (framing_droppedEvents _ _)
  | waiting _ gains => exact reads.aside rfl rfl gains.taken rfl
  | received isOpen asked gains full =>
    have fits := inStep.length_eq (Tapped.readsAtMost bounded) isOpen asked gains full
    exact reads.receive fits rfl gains.taken

/-- A drain reports exactly the segments that it completes, however soon it is cut short. -/
theorem drainWithin (bounded : ReadsAtMost W) (inStep : transport.InStep)
    (reads : transport.Reads maxPacket before items received) (fuel done : Nat) :
    ∃ more next, (transport.drainWithin fuel done).state.Reads maxPacket before
        (items ++ more) next ∧
      framing (transport.drainWithin fuel done).events = more.map Event.ofItem := by
  refine (drainWithin_invariant (motive := fun events next =>
    next.InStep ∧ ∃ more rest, next.Reads maxPacket before (items ++ more) rest ∧
      framing events = more.map Event.ofItem) fuel done
    ⟨inStep, [], received, by rwa [List.append_nil], rfl⟩ ?_).2
  rintro events middle ⟨inStepNow, first, rest, during, told⟩
  obtain ⟨others, final, after, toldLater⟩ := during.poll bounded inStepNow
  refine ⟨inStepNow.poll, first ++ others, final, ?_, ?_⟩
  · rw [← List.append_assoc]
    exact after
  · rw [framing_append, told, toldLater, List.map_append]

end Reads

/-- After a poll that finds nothing, no block of an open transport is ready. -/
theorem unready_of_nothing (inStep : transport.InStep) (isOpen : transport.isOpen = true)
    (nothing : transport.poll.value = .ok false) :
    ¬ transport.poll.state.line.BlockReady := by
  rintro ⟨length, asked, full⟩
  have cases := terminalPolled transport
  generalize transport.poll = report at cases nothing asked full
  cases cases with
  | idle idle =>
    rcases idle with isClosed | unasked
    · have lifecycle := inStep.lifecycle
      rw [isOpen, TerminalLine.isOpen, isClosed] at lifecycle
      cases lifecycle
    · cases unasked.symm.trans (inStep.reading isOpen)
  | waiting askedFor _ short =>
    obtain rfl := Option.some.inj (askedFor.symm.trans asked)
    exact absurd full (Nat.not_le.mpr short)
  | sent | lost | failed | received => cases nothing

theorem terminal_poll_isOpen (transport : Transport (TerminalLine W)) :
    transport.poll.state.isOpen = transport.isOpen := by
  have cases := terminalPolled transport
  generalize transport.poll = report at cases ⊢
  cases cases <;> rfl

/-- A poll keeps the framer between a boundary and the next. -/
theorem terminal_poll_holds {transport : Transport (TerminalLine W)}
    (holds : ∃ received, transport.framer.Holds maxPacket received) :
    ∃ received, transport.poll.state.framer.Holds maxPacket received := by
  obtain ⟨received, holds⟩ := holds
  have cases := terminalPolled transport
  generalize transport.poll = report at cases ⊢
  cases cases with
  | received => exact holds.receive_any _
  | idle | sent | lost | failed | waiting => exact ⟨received, holds⟩

/-- What an action means for the receive side of a transport on a terminal line. -/
inductive TerminalHeard (transport : Transport (TerminalLine (Tapped W))) :
    Action TerminalLine.Control → Report (TerminalLine (Tapped W)) Answer → Prop where
  /-- Nothing. -/
  | aside {action : Action TerminalLine.Control} {report : Report (TerminalLine (Tapped W)) Answer}
      (unopened : action.opens report.value = false) (unpolled : action ≠ .host .poll)
      (isOpen : report.state.isOpen = transport.isOpen)
      (framer : report.state.framer = transport.framer)
      (collected : report.state.line.collected = transport.line.collected)
      (taken : report.state.line.system.taken = transport.line.system.taken)
      (silent : framing report.events = []) :
      TerminalHeard transport action report
  /-- A session begins. -/
  | opened {report : Report (TerminalLine (Tapped W)) Answer} (answer : report.value = .done)
      (framer : report.state.framer = transport.framer.reset)
      (collected : report.state.line.collected = [])
      (taken : report.state.line.system.taken = transport.line.system.taken)
      (silent : framing report.events = []) :
      TerminalHeard transport (.host .openLine) report
  /-- A session ends. -/
  | closed {report : Report (TerminalLine (Tapped W)) Answer}
      (isOpen : report.state.isOpen = false) (framer : report.state.framer = transport.framer) :
      TerminalHeard transport (.host .close) report
  /-- One poll. -/
  | polled {answer : Answer}
      (quiet : answer = .handled false → transport.poll.value = .ok false) :
      TerminalHeard transport (.host .poll) {
        state := transport.poll.state
        value := answer
        events := transport.poll.events }
  /-- Polls until one finds nothing or fails, or until patience runs out. -/
  | drained {fuel : Nat} {answer : Answer} :
      TerminalHeard transport (.host .drain) {
        state := (transport.drainWithin fuel 0).state
        value := answer
        events := (transport.drainWithin fuel 0).events }

theorem terminal_openLine_taken (transport : Transport (TerminalLine (Tapped W))) :
    transport.openLine.state.line.system.taken = transport.line.system.taken := by
  have read : (SerialLine.openLine transport.line).state.system.taken = _ :=
    transport.line.openLine_taken
  unfold openLine
  split
  · rfl
  · generalize SerialLine.openLine transport.line = step at read ⊢
    obtain ⟨state, value, records⟩ := step
    cases value <;> exact read

/-- An opening begins a session, unless it fails. -/
theorem terminalHeard_openLine [Patience W] (transport : Transport (TerminalLine (Tapped W))) :
    TerminalHeard transport (.host .openLine) (transport.perform (.host .openLine)) := by
  show TerminalHeard transport _
    { transport.openLine with value := .ofExcept transport.openLine.value }
  have taken := transport.terminal_openLine_taken
  have cases := terminalOpened transport
  generalize transport.openLine = report at cases taken ⊢
  cases cases with
  | unconfigured | refused => exact .aside rfl (by simp) rfl rfl rfl taken rfl
  | @opened _ _ record message =>
    refine .opened rfl rfl rfl taken ?_
    obtain ⟨level, source, text, fields⟩ := record
    cases message
    rfl

/-- A request to send leaves the receive side alone, whatever its outcome. -/
theorem terminalHeard_send [Patience W] (transport : Transport (TerminalLine (Tapped W)))
    (kind : PacketKind) (packet : OutgoingPacket) :
    TerminalHeard transport (.host (.send kind packet))
      (transport.perform (.host (.send kind packet))) := by
  show TerminalHeard transport _ { transport.send kind packet with
    value := .ofExcept (transport.send kind packet).value }
  unfold send
  split
  · exact .aside rfl (by simp) rfl rfl rfl rfl rfl
  · split <;> exact .aside rfl (by simp) rfl rfl rfl rfl rfl

/-- Every action but a completion that the line has not reported has one of five meanings. -/
theorem terminalHeard [Patience W] (transport : Transport (TerminalLine (Tapped W)))
    {action : Action TerminalLine.Control} (indirect : action.isDirect = false) :
    TerminalHeard transport action (transport.perform action) := by
  rcases action with operation | ⟨milliseconds⟩
  · cases operation with
    | init config => cases config <;> exact .aside rfl (by simp) rfl rfl rfl rfl rfl
    | openLine => exact terminalHeard_openLine transport
    | close => exact .closed rfl rfl
    | setBaudrate rate =>
      show TerminalHeard transport _ { transport.setBaudrate rate with
        value := .ofExcept (transport.setBaudrate rate).value }
      have taken := TerminalLine.setBaudrate_taken rate transport.line
      obtain ⟨system, config, state, unlogged⟩ :=
        TerminalLine.setBaudrate_state rate transport.line
      refine .aside rfl (by simp) rfl rfl ?_ taken ?_
      · show (transport.line.setBaudrate rate).state.collected = _
        rw [state]
      · show framing (_ :: (transport.line.setBaudrate rate).records.map Event.logged) = []
        rw [unlogged]
        rfl
    | register => exact .aside rfl (by simp) rfl rfl rfl rfl rfl
    | send kind packet => exact terminalHeard_send transport kind packet
    | poll =>
      refine .polled fun answered => ?_
      cases value : transport.poll.value with
      | error error =>
        rw [value] at answered
        cases answered
      | ok found =>
        rw [value] at answered
        cases answered
        rfl
    | drain => exact .drained
    | complete => cases indirect
  · exact .aside rfl (by simp) rfl rfl rfl rfl rfl

namespace TerminalHeard

variable {action : Action TerminalLine.Control} {report : Report (TerminalLine (Tapped W)) Answer}

/-- Every action keeps the framer between a boundary and the next. -/
theorem holds (meaning : TerminalHeard transport action report)
    (before : ∃ received, transport.framer.Holds maxPacket received) :
    ∃ received, report.state.framer.Holds maxPacket received := by
  cases meaning with
  | aside _ _ _ framer | closed _ framer => rwa [framer]
  | opened _ framer =>
    obtain ⟨received, before⟩ := before
    exact ⟨[], framer ▸ before.reset⟩
  | polled => exact terminal_poll_holds before
  | drained =>
    exact drainWithin_invariant (motive := fun _ next =>
      ∃ received, next.framer.Holds maxPacket received) _ _ before
      fun _ _ held => terminal_poll_holds held

/-- A successful opening begins with nothing read. -/
theorem begins (meaning : TerminalHeard transport action report)
    (opens : action.opens report.value = true)
    (before : ∃ received, transport.framer.Holds maxPacket received) :
    report.state.Reads maxPacket transport.line.system.taken [] [] ∧
      framing report.events = [] := by
  cases meaning with
  | aside unopened => cases opens.symm.trans unopened
  | opened _ framer collected taken silent =>
    obtain ⟨received, before⟩ := before
    refine ⟨⟨framer ▸ before.reset, [], .nil, ?_⟩, silent⟩
    rw [taken, collected]
    exact (List.append_nil _).symm
  | closed | polled | drained => cases opens

/-- Any other action that leaves the transport open has met it open, and reports exactly the
segments that it completes. -/
theorem goesOn (bounded : ReadsAtMost W) (meaning : TerminalHeard transport action report)
    (inStep : transport.InStep) (unopened : action.opens report.value = false)
    (isOpen : report.state.isOpen = true) :
    transport.isOpen = true ∧ ∀ before items received,
      transport.Reads maxPacket before items received →
        ∃ more next, report.state.Reads maxPacket before (items ++ more) next ∧
          framing report.events = more.map Event.ofItem := by
  cases meaning with
  | aside _ _ same framer collected taken silent =>
    refine ⟨same ▸ isOpen, fun before items received reads => ?_⟩
    exact reads.unread framer collected taken silent
  | opened answer =>
    rw [answer] at unopened
    cases unopened
  | closed isClosed => cases isOpen.symm.trans isClosed
  | polled =>
    refine ⟨terminal_poll_isOpen transport ▸ isOpen, fun before items received reads => ?_⟩
    exact reads.poll bounded inStep
  | @drained fuel _ =>
    have same : (transport.drainWithin fuel 0).state.isOpen = transport.isOpen :=
      drainWithin_invariant (motive := fun _ next => next.isOpen = transport.isOpen) fuel 0 rfl
        fun _ middle before => (terminal_poll_isOpen middle).trans before
    refine ⟨same ▸ isOpen, fun before items received reads => ?_⟩
    exact reads.drainWithin bounded inStep fuel 0

/-- After a poll that finds nothing, no block of an open transport is ready. -/
theorem settled (meaning : TerminalHeard transport action report) (inStep : transport.InStep)
    (isPoll : action = .host .poll) (quiet : report.value = .handled false)
    (isOpen : report.state.isOpen = true) : ¬ report.state.line.BlockReady := by
  cases meaning with
  | aside _ unpolled => exact absurd isPoll unpolled
  | opened | closed | drained => cases isPoll
  | polled nothing =>
    exact unready_of_nothing inStep (terminal_poll_isOpen transport ▸ isOpen) (nothing quiet)

end TerminalHeard

end Transport

end HciSerial
