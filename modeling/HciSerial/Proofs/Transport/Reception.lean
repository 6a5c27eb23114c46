import HciSerial.Proofs.Transport.Polling

/-!
# The receive side of a transport

While a transport on a line in memory is open, the bytes that have arrived fall into
three parts: segments that have been reported, the bytes that the framer holds, and
those that still wait in the line.

## Main Definitions

* `Transport.framing`: the packets from the line and the framing errors among events.
* `Transport.Receives`: the three parts of what has arrived.

## Main Results

* `Transport.Receives.poll`, `Transport.Receives.drains`: polling keeps the three parts
  and reports exactly the segments that it completes.
* `Transport.Receives.parse_consumed`, `Transport.Receives.parse_arrived`: what has been
  reported is what the grammar reads.
-/

namespace HciSerial.Transport

open Grammar

/-! ## Events of the receive side -/

/-- Whether an event is a packet from the line or a framing error. -/
def Event.isFraming : Event → Bool
  | framed _ => true
  | confirmed => false
  | logged record => record.message == faultMessage

/-- The packets from the line and the framing errors, in order. -/
def framing (events : List Event) : List Event :=
  events.filter Event.isFraming

/-- The event that reports an item of the stream. -/
def Event.ofItem : Item → Event
  | .packet packet => .framed packet
  | .fault error => .logged (faultRecord error)

@[simp] theorem framing_nil : framing [] = [] := rfl

@[simp] theorem framing_append (left right : List Event) :
    framing (left ++ right) = framing left ++ framing right :=
  List.filter_append left right

section Block

/-- A block is reported by the item that it completes, if any, and by nothing else if asking
for the next one is not reported. -/
theorem framing_blockReceived_of_silent {L : Type} [SerialLine L] {transport : Transport L}
    (silent : ∀ length, framing
      ((SerialLine.receive length transport.line).records.map .logged) = [])
    (block : List UInt8) :
    framing (transport.blockReceived block).events =
      ((Item.ofVerdict? (transport.framer.receive block).1).map Event.ofItem).toList := by
  unfold blockReceived requestNext
  simp only [framing_append, silent, List.append_nil]
  generalize (transport.framer.receive block).1 = verdict
  rcases verdict with error | _ | packet <;> rfl

variable (transport : Transport MemoryLine) (block : List UInt8)

theorem blockReceived_incoming :
    (transport.blockReceived block).state.line.incoming = transport.line.incoming := rfl

/-- A block is reported by the item that it completes, if any. -/
theorem framing_blockReceived :
    framing (transport.blockReceived block).events =
      ((Item.ofVerdict? (transport.framer.receive block).1).map Event.ofItem).toList := by
  refine framing_blockReceived_of_silent (fun length => ?_) block
  simp only [SerialLine.receive, MemoryLine.receive]
  split <;> rfl

end Block

/-! ## The three parts of what has arrived -/

/-- What has arrived since the line was opened: segments that have been reported as
`items`, the bytes `received` that the framer holds, and the bytes still in the line. -/
structure Receives (transport : Transport MemoryLine) (maxPacket : Nat) (arrived : List UInt8)
    (items : List Item) (received : List UInt8) : Prop where
  holds : transport.framer.Holds maxPacket received
  asked : transport.line.pendingRead = some transport.framer.wanted
  split : ∃ reported, Segments maxPacket reported items ∧
    arrived = reported ++ received ++ transport.line.incoming

variable {transport : Transport MemoryLine} {maxPacket : Nat} {arrived received : List UInt8}
variable {items : List Item}

namespace Receives

/-- A block that was asked for moves from the line to the framer, where it may end a
segment. -/
theorem receive (receives : transport.Receives maxPacket arrived items received)
    {taken : Transport MemoryLine} {block : List UInt8}
    (filled : transport.line.pendingRead = some block.length)
    (framer : taken.framer = transport.framer)
    (remaining : transport.line.incoming = block ++ taken.line.incoming) :
    ∃ more next,
      (taken.blockReceived block).state.Receives maxPacket arrived (items ++ more) next ∧
      framing (taken.blockReceived block).events = more.map Event.ofItem := by
  obtain ⟨holds, asked, reported, made, split⟩ := receives
  -- the line has filled the block that the framer asked for
  have asMany : block.length = taken.framer.wanted :=
    framer ▸ Option.some.inj (filled.symm.trans asked)
  obtain ⟨more, next, ahead, verdict, after, longer, same⟩ :=
    (framer.symm ▸ holds).receive_segments asMany made
  refine ⟨more, next, ⟨after, rfl, ahead, longer, ?_⟩, ?_⟩
  · rw [split, remaining, ← List.append_assoc, same, blockReceived_incoming]
  · rw [framing_blockReceived, ← verdict]
    cases Item.ofVerdict? (taken.framer.receive block).1 <;> rfl

/-- Steps that leave the framer and the pending read alone keep the three parts; bytes that
arrive wait in the line. -/
theorem arrive (receives : transport.Receives maxPacket arrived items received)
    {next : Transport MemoryLine} (framer : next.framer = transport.framer)
    (asked : next.line.pendingRead = transport.line.pendingRead) {more : List UInt8}
    (incoming : next.line.incoming = transport.line.incoming ++ more) :
    next.Receives maxPacket (arrived ++ more) items received := by
  obtain ⟨holds, wanted, reported, made, split⟩ := receives
  refine ⟨framer ▸ holds, ?_, reported, made, ?_⟩
  · rw [asked, framer]
    exact wanted
  · rw [split, incoming, List.append_assoc]

/-- Steps that leave the framer, the pending read and the waiting bytes alone keep the
three parts. -/
theorem congr (receives : transport.Receives maxPacket arrived items received)
    {next : Transport MemoryLine} (framer : next.framer = transport.framer)
    (asked : next.line.pendingRead = transport.line.pendingRead)
    (incoming : next.line.incoming = transport.line.incoming) :
    next.Receives maxPacket arrived items received := by
  rw [← List.append_nil transport.line.incoming] at incoming
  rw [← List.append_nil arrived]
  exact receives.arrive framer asked incoming

/-- A poll keeps the three parts and reports exactly the segments that it completes. -/
theorem poll (receives : transport.Receives maxPacket arrived items received) :
    ∃ more next, transport.poll.state.Receives maxPacket arrived (items ++ more) next ∧
      framing transport.poll.events = more.map Event.ofItem := by
  have cases := polled transport
  generalize transport.poll = report at cases ⊢
  cases cases with
  | received _ _ _ filled remaining => exact receives.receive filled rfl remaining
  | closed | quiet | sent =>
    refine ⟨[], received, ?_, rfl⟩
    rw [List.append_nil]
    exact receives.congr rfl rfl rfl
  | failed =>
    refine ⟨[], received, ?_, ?_⟩
    · rw [List.append_nil]
      exact receives.congr rfl rfl rfl
    · show framing (if transport.sendActive then _ else _) = _
      cases transport.sendActive <;> rfl

/-- A drain keeps the three parts and reports exactly the segments that it completes. -/
theorem drains (receives : transport.Receives maxPacket arrived items received)
    {report : Report MemoryLine (Except TransportError Nat)} (drains : Drains transport report) :
    ∃ more next, report.state.Receives maxPacket arrived (items ++ more) next ∧
      framing report.events = more.map Event.ofItem := by
  refine drains.invariant (motive := fun events next => ∃ more rest,
    next.Receives maxPacket arrived (items ++ more) rest ∧ framing events = more.map Event.ofItem)
    ⟨[], received, by rwa [List.append_nil], rfl⟩ ?_
  rintro events middle ⟨first, rest, during, told⟩
  obtain ⟨others, final, after, toldLater⟩ := during.poll
  refine ⟨first ++ others, final, ?_, ?_⟩
  · rw [← List.append_assoc]
    exact after
  · rw [framing_append, told, toldLater, List.map_append]

/-! ## What has been reported -/

/-- The bytes that have left the line read as the reported items, with one exception: a
packet without payload is complete before the empty block for it has been asked for. -/
theorem parse_consumed (receives : transport.Receives maxPacket arrived items received) :
    ∃ consumed, arrived = consumed ++ transport.line.incoming ∧
      (transport.line.pendingRead ≠ some 0 → parse maxPacket consumed = (items, received)) ∧
      (transport.line.pendingRead = some 0 → ∃ packet : Packet,
        packet.declaredLength? = some 0 ∧
        parse maxPacket consumed = (items ++ [.packet packet], [])) := by
  obtain ⟨holds, asked, reported, made, split⟩ := receives
  refine ⟨reported ++ received, split, ?_, ?_⟩
  · intro nonempty
    rw [asked] at nonempty
    have short : ([] : List UInt8).length < transport.framer.wanted :=
      Nat.pos_of_ne_zero fun none => nonempty (congrArg some none)
    have unfinished := holds.stage.unfinished short
    rw [List.append_nil] at unfinished
    rw [parse_append made, parse_of_unfinished unfinished, List.append_nil]
  · -- an empty block is awaited only after a header that declares no payload
    intro empty
    rw [asked] at empty
    have stage := holds.stage
    rw [Option.some.inj empty] at stage
    obtain ⟨packet, segment, declared⟩ := stage.segment_of_empty
    exact ⟨packet, declared, parse_of_segments (made.concat segment)⟩

/-- When the line has too few bytes for the pending read, everything that has arrived
reads as the reported items, and the framer and the line hold the unfinished bytes. -/
theorem parse_arrived (receives : transport.Receives maxPacket arrived items received)
    (short : ∀ length, transport.line.pendingRead = some length →
      transport.line.incoming.length < length) :
    parse maxPacket arrived = (items, received ++ transport.line.incoming) := by
  obtain ⟨holds, asked, reported, made, split⟩ := receives
  have unfinished := holds.stage.unfinished (short _ asked)
  rw [split, List.append_assoc, parse_append made, parse_of_unfinished unfinished,
    List.append_nil]

/-- After a drain of an open line that did not fail, everything that has arrived reads as
what has been reported. -/
theorem parse_drained (receives : transport.Receives maxPacket arrived items received)
    (isOpen : transport.line.isOpen = true)
    {report : Report MemoryLine (Except TransportError Nat)} (drains : Drains transport report)
    {count : Nat} (ok : report.value = .ok count) :
    ∃ more next, report.state.Receives maxPacket arrived (items ++ more) next ∧
      framing report.events = more.map Event.ofItem ∧
      parse maxPacket arrived = (items ++ more, next ++ report.state.line.incoming) := by
  obtain ⟨more, next, after, told⟩ := receives.drains drains
  have nothing := drains.nothing_of_ok ok
  have stillOpen := drains.isOpen_eq.2.trans isOpen
  exact ⟨more, next, after, told, after.parse_arrived (short_of_nothing nothing stillOpen)⟩

end Receives

end HciSerial.Transport
