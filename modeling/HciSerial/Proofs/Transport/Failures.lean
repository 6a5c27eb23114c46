import HciSerial.Proofs.Framing.Safety
import HciSerial.Proofs.Transport.Faulty
import HciSerial.Proofs.Transport.SendAccounting

/-!
# Failing operations

An operation that fails leaves nearly everything as it was.  A refused configuration, opening,
request to send or change of the speed changes nothing; a failing poll gives up the send in
flight; a failing closing still counts as one.  A failure that was set up is used up.

## Main Definitions

* `Transport.Failed`: how an operation on a line in memory can fail, and what it leaves.
* `Transport.FaultyFailed`: the same for a faulty line.
* `Transport.FailsAs`: what is left of a transport by its failures.
* `Transport.Resumes`: reception goes on after a failing poll.

## Main Results

* `Transport.failed`, `Transport.faultyFailed`: there are no other failures.
* `Transport.drainWithin_failed`: a drain fails with its last poll.
* `Transport.Expects.resumes`: no byte is lost to a failing poll.
* `Transport.failures_atomic`: all of this, for both lines.
-/

namespace HciSerial.Transport

open Grammar

/-! ## Failures of single operations -/

/-- How an operation of a transport on a line in memory can fail: the operation, its error, and
the transport that it leaves. -/
inductive Failed (transport : Transport MemoryLine) :
    Operation → TransportError → Transport MemoryLine → Prop where
  | unsuitable :
      Failed transport (.init .usb) (.invalidConfig "expected uart config, got usb") transport
  | unconfigured (unset : transport.config = none) :
      Failed transport .openLine .notInitialized transport
  | unopened {error : LineError} (configured : transport.config ≠ none)
      (armed : transport.line.failNextOpen = some error) :
      Failed transport .openLine (.line error)
        { transport with line := { transport.line with failNextOpen := none } }
  | closed {kind : PacketKind} {packet : OutgoingPacket} (isClosed : transport.isOpen = false) :
      Failed transport (.send kind packet) .notOpen transport
  | busy {kind : PacketKind} {packet : OutgoingPacket} (isOpen : transport.isOpen = true)
      (active : transport.sendActive = true) :
      Failed transport (.send kind packet) .writeInFlight transport
  | unpolled {error : LineError} (isOpen : transport.line.isOpen = true)
      (armed : transport.line.failNextPoll = some error) :
      Failed transport .poll (.line error)
        { transport with
          line := { transport.line with failNextPoll := none, sending := .idle }
          sendActive := false }

/-- How an operation of a transport on a faulty line can fail: as on the line inside, which
leaves the other failures that have been set up, or with the outer line. -/
inductive FaultyFailed (transport : Transport FaultyLine) :
    Operation → TransportError → Transport FaultyLine → Prop where
  | inside {operation : Operation} {error : TransportError} {next : Transport MemoryLine}
      (failed : Failed transport.inner operation error next) :
      FaultyFailed transport operation error (next.inside transport.line)
  | unset {rate : Nat} {error : LineError}
      (armed : transport.line.failNextSpeed = some error) :
      FaultyFailed transport (.setBaudrate rate) (.line error)
        { transport with line := { transport.line with failNextSpeed := none } }
  | unclosed {error : LineError} (armed : transport.line.failNextClose = some error) :
      FaultyFailed transport .close (.line error)
        { transport with
          line := { transport.line with failNextClose := none }
          sendActive := false
          isOpen := false }

/-- Every failure on a line in memory is one of these, and gives the handler nothing. -/
theorem failed {transport : Transport MemoryLine} {operation : Operation}
    {error : TransportError} (undrained : operation ≠ .drain)
    (failure : (transport.apply operation).value = .failed error) :
    Failed transport operation error (transport.apply operation).state ∧
      (transport.apply operation).packets = [] := by
  cases operation with
  | init config =>
    cases config with
    | serial => cases failure
    | usb =>
      cases failure
      exact ⟨.unsuitable, rfl⟩
  | openLine =>
    have cases := opened transport
    simp only [apply] at failure ⊢
    generalize transport.openLine = report at cases failure ⊢
    cases cases with
    | unconfigured unset =>
      cases failure
      exact ⟨.unconfigured unset, rfl⟩
    | refused configured armed =>
      cases failure
      exact ⟨.unopened configured armed, rfl⟩
    | opened => cases failure
  | send kind packet =>
    have cases := sent kind packet transport
    simp only [apply] at failure ⊢
    generalize transport.send kind packet = report at cases failure ⊢
    cases cases with
    | closed isClosed =>
      cases failure
      exact ⟨.closed isClosed, rfl⟩
    | busy isOpen active =>
      cases failure
      exact ⟨.busy isOpen active, rfl⟩
    | accepted => cases failure
  | poll =>
    have cases := polled transport
    simp only [apply] at failure ⊢
    generalize transport.poll = report at cases failure ⊢
    cases cases with
    | closed | sent | received | quiet => cases failure
    | failed isOpen armed =>
      cases failure
      refine ⟨.unpolled isOpen armed, ?_⟩
      unfold Report.packets
      cases transport.sendActive <;> rfl
  | drain => exact absurd rfl undrained
  | close | setBaudrate | register | complete => cases failure

/-- Every failure on a faulty line is one of these, and gives the handler nothing. -/
theorem faultyFailed {transport : Transport FaultyLine} {operation : Operation}
    {error : TransportError} (undrained : operation ≠ .drain)
    (failure : (transport.apply operation).value = .failed error) :
    FaultyFailed transport operation error (transport.apply operation).state ∧
      (transport.apply operation).packets = [] := by
  cases armed : transport.line.armed? operation with
  | none =>
    -- the line inside does the work, and with it fails
    have same := apply_inside transport.inner armed
    rw [inner_inside] at same
    rw [same] at failure ⊢
    obtain ⟨inside, nothing⟩ := failed undrained failure
    exact ⟨.inside inside, nothing⟩
  | some struck =>
    cases operation with
    | close =>
      simp only [apply, close_of_armed armed] at failure ⊢
      cases failure
      exact ⟨.unclosed armed, rfl⟩
    | setBaudrate rate =>
      simp only [apply, setBaudrate_of_armed rate armed] at failure ⊢
      cases failure
      exact ⟨.unset armed, rfl⟩
    | init | openLine | register | send | poll | drain | complete => cases armed

/-! ## Failures of repeated polls -/

section Drain

variable {L : Type} [FiniteLine L]

/-- Repeated polls fail with the last of them. -/
theorem drainWithin_failed (fuel done : Nat) {transport : Transport L} {error : TransportError}
    (failure : (transport.drainWithin fuel done).value = some (.error error)) :
    ∃ last, (drainPolls fuel transport).getLast? = some last ∧
      last.poll.value = .error error ∧
      (transport.drainWithin fuel done).state = last.poll.state := by
  induction fuel generalizing done transport with
  | zero => cases failure
  | succ fuel ih =>
    unfold drainWithin at failure ⊢
    rw [drainPolls]
    cases result : transport.poll.value with
    | error found =>
      simp only [result, Option.some.injEq, Except.error.injEq] at failure ⊢
      exact ⟨transport, rfl, result.trans (congrArg _ failure), rfl⟩
    | ok found =>
      cases found with
      | false =>
        simp only [result] at failure
        cases failure
      | true =>
        simp only [result] at failure ⊢
        obtain ⟨last, ending, value, state⟩ := ih (done + 1) failure
        refine ⟨last, ?_, value, state⟩
        rw [List.getLast?_cons, ending]
        rfl

/-- What is left of a transport by its failures: `failed` tells what an operation that fails
leaves, and the handler gets nothing from it; a drain fails with its last poll. -/
structure FailsAs (failed : Transport L → Operation → TransportError → Transport L → Prop)
    (transport : Transport L) : Prop where
  single : ∀ operation error, operation ≠ .drain →
    (transport.apply operation).value = .failed error →
      failed transport operation error (transport.apply operation).state ∧
        (transport.apply operation).packets = []
  drained : ∀ error, (transport.apply .drain).value = .failed error →
    ∃ last, (drainPolls (FiniteLine.pollBound transport.line) transport).getLast? = some last ∧
      (last.apply .poll).value = .failed error ∧
      (transport.apply .drain).state = (last.apply .poll).state

/-- What single operations leave is all there is to know. -/
theorem FailsAs.of_single
    {failed : Transport L → Operation → TransportError → Transport L → Prop}
    {transport : Transport L}
    (single : ∀ operation error, operation ≠ .drain →
      (transport.apply operation).value = .failed error →
        failed transport operation error (transport.apply operation).state ∧
          (transport.apply operation).packets = []) : transport.FailsAs failed where
  single := single
  drained error failure := by
    have ended : (transport.drainWithin (FiniteLine.pollBound transport.line) 0).value =
        some (.error error) := by
      simp only [apply, drain] at failure
      generalize (transport.drainWithin _ 0).value = value at failure ⊢
      rcases value with _ | error | count <;> cases failure
      rfl
    obtain ⟨last, ending, value, state⟩ := drainWithin_failed _ 0 ended
    refine ⟨last, ending, ?_, state⟩
    simp only [apply, value]

end Drain

/-! ## After a failing poll -/

/-- After a failing poll, a drain succeeds; it reports what is complete among the bytes that
were unread before the failure, and leaves the others unread.

`memory` gives the transport on the line in memory that does the work. -/
def Resumes {L : Type} [FiniteLine L] (memory : Transport L → Transport MemoryLine)
    (maxPacket : Nat) (transport : Transport L) : Prop :=
  ∀ error, transport.poll.value = .error error →
    let later := transport.poll.state.drain
    let read := parse maxPacket (memory transport).unread
    (∃ count, later.value = .ok count) ∧ framing later.events = read.1.map Event.ofItem ∧
      (memory later.state).unread = read.2

/-- No byte is lost to a failing poll. -/
theorem Expects.resumes {transport : Transport MemoryLine} {maxPacket : Nat}
    (expects : transport.Expects maxPacket) : transport.Resumes id maxPacket := by
  intro error failure
  have ready := expects.poll
  have cases := polled transport
  generalize transport.poll = report at cases failure ready ⊢
  cases cases with
  | closed | sent | received | quiet => cases failure
  | failed isOpen => exact ready.drain_of_calm isOpen ⟨rfl, rfl⟩

/-- What holds of the line inside holds of a faulty one. -/
theorem Resumes.of_inner {transport : Transport FaultyLine} {maxPacket : Nat}
    (resumes : transport.inner.Resumes id maxPacket) : transport.Resumes inner maxPacket := by
  intro error failure
  have poll : transport.poll = _ := poll_inside transport.line transport.inner
  rw [poll] at failure ⊢
  have drain : (transport.inner.poll.inside transport.line).state.drain = _ :=
    drain_inside transport.line transport.inner.poll.state
  rw [drain]
  exact resumes error failure

/-- Failing operations are atomic, on a line in memory and on a faulty one.

A transport, in any state, is left by a failing operation as `Failed` and `FaultyFailed` tell,
and its handler gets nothing; a drain is as atomic as its polls.  In every state that a run
reaches, a failing poll leaves reception where it is, so that the packet that is being received
goes on without the loss of a byte. -/
theorem failures_atomic :
    (∀ transport : Transport MemoryLine, transport.FailsAs Failed) ∧
      (∀ transport : Transport FaultyLine, transport.FailsAs FaultyFailed) ∧
      ∀ buffer : ReceiveBuffer, buffer.Allocated →
        (∀ actions : List (Action MemoryLine.Control),
          ((new ({} : MemoryLine) buffer).after actions).Resumes id buffer.maxPacket) ∧
        ∀ actions : List (Action FaultyLine.Control),
          ((new ({} : FaultyLine) buffer).after actions).Resumes inner buffer.maxPacket := by
  refine ⟨fun _ => .of_single fun _ _ => failed, fun _ => .of_single fun _ _ => faultyFailed, ?_⟩
  intro buffer allocated
  exact ⟨fun actions => (expects_after allocated.wellFormed actions).resumes,
    fun actions => .of_inner (expects_after_faulty allocated.wellFormed actions).resumes⟩

/-- A run that leaves an event half received, and a poll and a closing that will fail. -/
def halfReceived : List (Action FaultyLine.Control) :=
  [.host (.init (.serial {})), .host .openLine, .line (.line (.inject [0x04])), .host .drain,
    .line (.line (.inject [0x6E, 0x00])), .line (.line (.failPoll .closed)),
    .line (.failClose .closed)]

/-- After the failing poll the event is still reported, and the failing closing keeps the
line. -/
theorem failures_atomic_halfReceived :
    let now := (new ({} : FaultyLine) .default).after halfReceived
    now.poll.value = .error (.line .closed) ∧
      framing now.poll.state.drain.events = [.framed ⟨.event, [0x6E, 0x00]⟩] ∧
      (now.apply .close).value = .failed (.line .closed) ∧
      (now.apply .close).packets = [] ∧
      FaultyFailed now .close (.line .closed) (now.apply .close).state := by
  intro now
  obtain ⟨_, atomic, resumes⟩ := failures_atomic
  have poll : now.poll.value = .error (.line .closed) := rfl
  have close : (now.apply .close).value = .failed (.line .closed) := rfl
  obtain ⟨left, nothing⟩ := (atomic now).single .close _ nofun close
  obtain ⟨_, told, _⟩ := (resumes .default .default).2 halfReceived _ poll
  have event : Segment 1025 [0x04, 0x6E, 0x00] (.packet ⟨.event, [0x6E, 0x00]⟩) :=
    @Segment.packet _ .event [0x6E, 0x00] [] rfl rfl rfl nofun
  have read : parse 1025 [0x04, 0x6E, 0x00] = ([.packet ⟨.event, [0x6E, 0x00]⟩], []) :=
    parse_of_segments (.cons event .nil)
  have bytes : now.inner.unread = [0x04, 0x6E, 0x00] := rfl
  refine ⟨poll, told.trans ?_, close, nothing, left⟩
  rw [bytes]
  exact congrArg (fun result => result.1.map Event.ofItem) read

end HciSerial.Transport
