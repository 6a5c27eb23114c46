import HciSerial.Proofs.Host.Watch
import HciSerial.Proofs.Line.View
import HciSerial.Proofs.Transport.SentNotices
import HciSerial.Proofs.Transport.TerminalReception

/-!
# A transport on a watched host

What is seen of a host while a transport works on one of its terminal devices: an opening shows
the device, a poll with a packet to send shows its bytes, and nothing else shows anything.

## Main Results

* `TerminalLine.sight_openLine`: what is seen of an opening.
* `Transport.openLine_of_named`: what an opening leaves behind.
* `Transport.poll_of_unsent`: nothing is seen of a poll that has nothing to send.
* `Transport.poll_of_pending`: the two outcomes of a poll that has something to send.
* `Transport.packets_of_failed`: a poll that fails gives no packet.
-/

namespace HciSerial

variable {W : Type} [Host W]

namespace TerminalLine

/-! ## Calls on the system -/

theorem sight_fetch {device timeout count : Nat} {start system : Tapped (Watched W)}
    {outcome : Except LineError (List UInt8)}
    (fetched : fetch device timeout count start = (outcome, system)) :
    system.system.sight = start.system.sight := by
  have mirrors := fetch_mirrors (Watched.quietView start.system.sight) device timeout count
    ⟨start.system.world, start.taken⟩
  exact congrArg (·.2.system.sight) (fetched.symm.trans mirrors)

theorem Gains.sight {line : TerminalLine (Tapped (Watched W))} {device length : Nat}
    {bytes : List UInt8} {system : Tapped (Watched W)}
    (gains : line.Gains device length bytes system) :
    system.system.sight = line.system.system.sight := by
  cases gains with
  | full => rfl
  | fetched _ fetched => exact sight_fetch fetched

theorem sight_configure (device speed : Nat) (flow : FlowControl)
    (system : Tapped (Watched W)) :
    (configure device speed flow system).2.system.sight = system.system.sight :=
  congrArg (·.2.system.sight) (configure_mirrors
    (Watched.quietView system.system.sight).toSettingsView device speed flow
    ⟨system.system.world, system.taken⟩)

/-! ## An opening -/

/-- An opening shows the device that is to be opened, and a line that is open works on the
device that was opened. -/
theorem sight_openLine {line : TerminalLine (Tapped (Watched W))} {path : String}
    (named : line.config.device = some path) :
    ∃ result, line.openLine.state.system.system.sight =
        { line.system.system.sight with
          opened := line.system.system.sight.opened ++ [(path, result)] } ∧
      (line.openLine.value = .ok () →
        ∃ device, result = .ok device ∧ line.openLine.state.device = some device) := by
  have noted : (TerminalSystem.openDevice path line.system).2.system.sight =
      { line.system.system.sight with
        opened := line.system.system.sight.opened ++
          [(path, (TerminalSystem.openDevice path line.system).1)] } := rfl
  unfold openLine
  simp only [named]
  generalize TerminalSystem.openDevice path line.system = result at noted ⊢
  obtain ⟨cause | device, system⟩ := result
  · exact ⟨_, noted, nofun⟩
  · cases speedConstant? line.config.baudrate with
    | none => exact ⟨_, noted, nofun⟩
    | some speed =>
      have quiet := sight_configure device speed line.config.flowControl system
      simp only
      generalize configure device speed line.config.flowControl system = result at quiet ⊢
      obtain ⟨cause | _, changed⟩ := result
      · exact ⟨_, quiet.trans noted, nofun⟩
      · cases line.device with
        | none => exact ⟨_, quiet.trans noted, fun _ => ⟨device, rfl, rfl⟩⟩
        | some old => exact ⟨_, quiet.trans noted, fun _ => ⟨device, rfl, rfl⟩⟩

end TerminalLine

namespace Transport

variable {transport : Transport (TerminalLine (Tapped (Watched W)))}

/-! ## An opening and a poll -/

/-- An opening shows the device that is to be opened, gives no packet, and leaves an open
transport nothing to send. -/
theorem openLine_of_named {path : String} (configured : transport.config.isNone = false)
    (named : transport.line.config.device = some path) :
    ∃ result, transport.openLine.state.line.system.system.sight =
        { transport.line.system.system.sight with
          opened := transport.line.system.system.sight.opened ++ [(path, result)] } ∧
      transport.openLine.packets = [] ∧
      (transport.openLine.value = .ok () → ∃ device, result = .ok device ∧
        transport.openLine.state.line.device = some device ∧
        transport.openLine.state.line.pendingSend = none ∧
        transport.openLine.state.isOpen = true) := by
  obtain ⟨result, seen, opens⟩ := TerminalLine.sight_openLine named
  have cases : TerminalLine.Opened transport.line (SerialLine.openLine transport.line) :=
    transport.line.opened
  have same : SerialLine.openLine transport.line = transport.line.openLine := rfl
  unfold openLine
  rw [if_neg (by simp [configured]), same]
  rw [same] at cases
  generalize transport.line.openLine = step at seen opens cases ⊢
  cases cases with
  | refused => exact ⟨result, seen, rfl, nofun⟩
  | opened =>
    obtain ⟨device, opened, isOpen⟩ := opens rfl
    exact ⟨result, seen, rfl, fun _ => ⟨device, opened, isOpen, rfl, rfl⟩⟩

/-- Events without a notice of the transport itself give the packets from the line. -/
theorem packets_of_unconfirmed {events : List Event} (unconfirmed : events.count .confirmed = 0) :
    events.filterMap Event.packet? = events.filterMap Event.framed? := by
  rw [List.count_eq_zero] at unconfirmed
  refine List.filterMap_congr fun event member => ?_
  cases event with
  | framed | logged => rfl
  | confirmed => exact absurd member unconfirmed

/-- Nothing is seen of a poll that has nothing to send, and all its packets come from the
line. -/
theorem poll_of_unsent (unsent : transport.line.pendingSend = none) :
    transport.poll.state.line.pendingSend = none ∧
      transport.poll.state.line.device = transport.line.device ∧
      transport.poll.state.line.system.system.sight = transport.line.system.system.sight ∧
      transport.poll.packets = transport.poll.events.filterMap Event.framed? := by
  have cases : TerminalLine.Polled transport.line (SerialLine.poll transport.line) :=
    transport.line.polled
  unfold poll
  generalize SerialLine.poll transport.line = step at cases ⊢
  cases cases with
  | closed | unasked => exact ⟨unsent, rfl, rfl, rfl⟩
  | sent _ pending | lost _ pending => cases pending.symm.trans unsent
  | failed _ _ _ failure =>
    refine ⟨unsent, rfl, TerminalLine.sight_fetch failure, packets_of_unconfirmed ?_⟩
    cases transport.sendActive <;> rfl
  | waiting _ _ _ gains => exact ⟨unsent, rfl, gains.sight, rfl⟩
  | received _ _ _ gains =>
    refine ⟨unsent, rfl, gains.sight, packets_of_unconfirmed ?_⟩
    exact count_confirmed_blockReceived _ _

/-- A poll that fails gives no packet. -/
theorem packets_of_failed {error : TransportError} (failed : transport.poll.value = .error error) :
    transport.poll.packets = [] := by
  have cases := terminalPolled transport
  generalize transport.poll = report at cases failed ⊢
  cases cases with
  | idle | sent | waiting | received => cases failed
  | lost | failed =>
    unfold Report.packets droppedEvents
    cases transport.sendActive <;> rfl

/-- A poll that has something to send writes it, once, and gives the notice for it if that
succeeds. -/
theorem poll_of_pending {device : Nat} {first : UInt8} {rest : List UInt8}
    (isOpen : transport.line.device = some device)
    (pending : transport.line.pendingSend = some (first :: rest)) :
    ∃ result, transport.poll.state.line.pendingSend = none ∧
      transport.poll.state.line.device = some device ∧
      transport.poll.state.line.system.system.sight =
        { transport.line.system.system.sight with
          written := transport.line.system.system.sight.written ++
            [(device, first :: rest, result)] } ∧
      match result with
      | .error cause => transport.poll.value = .error (.line (.io cause))
      | .ok () => transport.poll.value = .ok true ∧ transport.poll.events = [.confirmed] := by
  have noted : (TerminalLine.writeBlock device (first :: rest)
        transport.line.system).2.system.sight =
      { transport.line.system.system.sight with
        written := transport.line.system.system.sight.written ++ [(device, first :: rest,
          (TerminalLine.writeBlock device (first :: rest) transport.line.system).1)] } := rfl
  have cases : TerminalLine.Polled transport.line (SerialLine.poll transport.line) :=
    transport.line.polled
  unfold poll
  generalize SerialLine.poll transport.line = step at cases ⊢
  cases cases with
  | closed isClosed => cases isOpen.symm.trans isClosed
  | unasked _ unsent | failed _ unsent | waiting _ unsent | received _ unsent =>
    cases pending.symm.trans unsent
  | sent isOpenNow pendingNow written =>
    cases isOpen.symm.trans isOpenNow
    cases pending.symm.trans pendingNow
    rw [written] at noted
    exact ⟨.ok (), rfl, isOpen, noted, rfl, rfl⟩
  | lost isOpenNow pendingNow unwritten =>
    cases isOpen.symm.trans isOpenNow
    cases pending.symm.trans pendingNow
    rw [unwritten] at noted
    exact ⟨.error _, rfl, isOpen, noted, rfl⟩

end Transport

end HciSerial
