import HciSerial.Proofs.Transport.Calm
import HciSerial.Proofs.Transport.Session

/-!
# A line that is asked for what the framer wants

While a line in memory is open, it has been asked for exactly the block that the framer wants,
whatever has been done with the transport.  So the bytes that the framer holds and those that
wait in the line are all that later polls can report.

## Main Definitions

* `Transport.unread`: the bytes that have arrived and have not been reported.
* `Transport.Expects`: an open line has been asked for what the framer wants.

## Main Results

* `Transport.Expects.perform`, `Transport.expects_after`: every action and every run.
* `Transport.Expects.receives`: the unread bytes as those of a session.
* `Transport.Expects.drain_of_calm`: what a drain reports when no poll of it can fail.
-/

namespace HciSerial

open Grammar

/-- The bytes that a framer has received since the last boundary. -/
def Framer.held (framer : Framer) : List UInt8 :=
  framer.buffer.logical.take framer.position

theorem Framer.Holds.held_eq {framer : Framer} {maxPacket : Nat} {received : List UInt8}
    (holds : framer.Holds maxPacket received) : framer.held = received :=
  holds.contents

namespace Transport

/-- The bytes that have arrived and have not been reported: those that the framer holds, and
those that wait in the line. -/
def unread (transport : Transport MemoryLine) : List UInt8 :=
  transport.framer.held ++ transport.line.incoming

/-- The framer is between a boundary and the next, and an open line has been asked for what the
framer wants. -/
structure Expects (transport : Transport MemoryLine) (maxPacket : Nat) : Prop where
  holds : ∃ received, transport.framer.Holds maxPacket received
  asked : transport.line.isOpen = true →
    transport.line.pendingRead = some transport.framer.wanted

namespace Expects

variable {maxPacket : Nat} {transport : Transport MemoryLine}

/-- Steps that leave the framer and the pending read alone, and do not open the line. -/
theorem congr (expects : transport.Expects maxPacket) {next : Transport MemoryLine}
    (framer : next.framer = transport.framer)
    (asked : next.line.isOpen = true →
      transport.line.isOpen = true ∧ next.line.pendingRead = transport.line.pendingRead) :
    next.Expects maxPacket where
  holds := framer ▸ expects.holds
  asked isOpen := by
    obtain ⟨wasOpen, same⟩ := asked isOpen
    rw [same, framer, expects.asked wasOpen]

/-- A block leads to a request for the next one, whether it was asked for or not. -/
theorem blockReceived (expects : transport.Expects maxPacket) {taken : Transport MemoryLine}
    (framer : taken.framer = transport.framer) (block : List UInt8) :
    (taken.blockReceived block).state.Expects maxPacket := by
  obtain ⟨received, holds⟩ := expects.holds
  exact ⟨(framer.symm ▸ holds).receive_any block, fun _ => rfl⟩

/-- A poll asks for the next block when it takes one. -/
theorem poll (expects : transport.Expects maxPacket) : transport.poll.state.Expects maxPacket := by
  have cases := polled transport
  generalize transport.poll = report at cases ⊢
  cases cases with
  | closed | quiet => exact expects
  | failed | sent => exact expects.congr rfl fun isOpen => ⟨isOpen, rfl⟩
  | @received block =>
    refine expects.blockReceived ?_ block
    rfl

/-- Every action keeps the line asked for what the framer wants, also a completion that the
line has not reported. -/
theorem perform (expects : transport.Expects maxPacket) (action : Action MemoryLine.Control) :
    (transport.perform action).state.Expects maxPacket := by
  cases direct : action.isDirect with
  | true =>
    rcases action with operation | control
    · cases operation with
      | complete completion =>
        cases completion with
        | received block => exact expects.blockReceived rfl block
        | sent => exact expects.congr rfl fun isOpen => ⟨isOpen, rfl⟩
      | init | openLine | close | setBaudrate | register | send | poll | drain => cases direct
    · cases direct
  | false =>
    obtain ⟨received, holds⟩ := expects.holds
    have meaning := heard holds direct
    generalize transport.perform action = report at meaning ⊢
    cases meaning with
    | aside _ _ _ line framer asked =>
      exact expects.congr framer fun isOpen => ⟨line ▸ isOpen, asked⟩
    | opened _ _ _ framer asked =>
      refine ⟨⟨[], framer ▸ holds.reset⟩, fun _ => ?_⟩
      rw [asked, framer]
      rfl
    | closed _ line framer =>
      exact expects.congr framer fun isOpen => nomatch line.symm.trans isOpen
    | polled => exact expects.poll
    | drained drains =>
      exact drains.invariant (motive := fun _ next => next.Expects maxPacket) expects
        fun _ _ before => before.poll

/-- Taken alone, the unread bytes of an open line are those of a session that begins here. -/
theorem receives (expects : transport.Expects maxPacket) (isOpen : transport.line.isOpen = true) :
    transport.Receives maxPacket transport.unread [] transport.framer.held := by
  obtain ⟨received, holds⟩ := expects.holds
  exact ⟨holds.held_eq.symm ▸ holds, expects.asked isOpen, [], .nil, rfl⟩

/-- A drain of an open line in which no poll fails reports what is complete among the unread
bytes, and leaves the others unread. -/
theorem drain_of_calm (expects : transport.Expects maxPacket)
    (isOpen : transport.line.isOpen = true) (calm : transport.Calm) :
    (∃ count, transport.drain.value = .ok count) ∧
      framing transport.drain.events =
        (parse maxPacket transport.unread).1.map Event.ofItem ∧
      transport.drain.state.unread = (parse maxPacket transport.unread).2 := by
  obtain ⟨received, holds⟩ := expects.holds
  have drains := Transport.drains holds
  obtain ⟨_, count, ok⟩ := calm.drains drains
  obtain ⟨more, next, after, told, read⟩ := (expects.receives isOpen).parse_drained isOpen drains ok
  rw [read, unread, after.holds.held_eq]
  exact ⟨⟨count, ok⟩, told, rfl⟩

end Expects

/-- Every run keeps the line asked for what the framer wants. -/
theorem expects_after {buffer : ReceiveBuffer} (formed : buffer.WellFormed)
    (actions : List (Action MemoryLine.Control)) :
    ((new ({} : MemoryLine) buffer).after actions).Expects buffer.maxPacket :=
  transcript_invariant (fun _ now => now.Expects buffer.maxPacket) (fun _ => True)
    (fun _ _ => trivial) ⟨⟨[], Framer.holds_new formed⟩, nofun⟩
    fun _ _ action expects _ => expects.perform action

end Transport

end HciSerial
