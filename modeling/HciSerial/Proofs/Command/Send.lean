import HciSerial.Proofs.Command.View
import HciSerial.Proofs.Command.Waiter
import HciSerial.Proofs.Packet.Outgoing

/-!
# Sending a packet tells the truth

Whatever the line does, a sender that reports success has written its packet, once, and has
printed the response if one was asked for.  A sender that reports anything else has printed
nothing.

## Main Definitions

* `Grammar.firstResponse?`: the first packet that is no notice of a sent packet.
* `Send.settle`: what follows after the packets of a poll have been accepted.
* `Send.Ends`: how a sender that has handed over its packet can end.

## Main Results

* `Send.ends_loop_waiting`: a sender whose packet has been written.
* `Send.ends_loop`: a sender whose packet waits to be written.
* `send_of_refused`: a choice that is refused touches nothing.
* `send_truthful`: success is reported for what has been seen.
-/

namespace HciSerial

open Grammar

/-- The first packet that is no notice of a sent packet. -/
def Grammar.firstResponse? (items : List Item) : Option Packet :=
  (items.filterMap Item.packet?).find? (!·.isSentNotice)

theorem Grammar.firstResponse?_append (items more : List Item) :
    firstResponse? (items ++ more) = (firstResponse? items).or (firstResponse? more) := by
  rw [firstResponse?, List.filterMap_append, List.find?_append]
  rfl

variable {W : Type} [Host W]

namespace Send

/-! ## One turn -/

/-- Ends if nothing is awaited any more or the time is over, else goes on. -/
def settle (format : ListingFormat) (timeout : Duration) (deadline fuel : Nat) (waiter : Waiter)
    (session : Session W) : Outcome × W :=
  if waiter.isDone then
    match session.finish with
    | (.ok (), world) => (.success, world)
    | (.error failure, world) => (.failed failure, world)
  else if deadline ≤ session.now.1 then
    (.failed (waiter.timeoutFailure timeout), session.now.2.close.2.world)
  else loop format timeout deadline fuel waiter session.now.2

theorem loop_succ (format : ListingFormat) (timeout : Duration) (deadline fuel : Nat)
    (waiter : Waiter) (session : Session W) :
    loop format timeout deadline (fuel + 1) waiter session =
      match session.poll with
      | (.error error, session) =>
        (.failed (.ofTransport "receive failed" error), session.world)
      | (.ok _, session) =>
        let accepted := acceptAll format session.queue waiter session.takeQueue.2
        settle format timeout deadline fuel accepted.1 accepted.2 := rfl

variable {format : ListingFormat} {timeout : Duration} {deadline fuel : Nat} {waiter : Waiter}
variable {session : Session (Tapped (Watched W))}

/-- A sender that awaits nothing any more succeeds, and nothing more is seen or read. -/
theorem settle_of_isDone (format : ListingFormat) (timeout : Duration) (deadline fuel : Nat)
    (session : Session (Tapped (Watched W))) (done : waiter.isDone = true) :
    ∃ world, settle format timeout deadline fuel waiter session = (.success, world) ∧
      world.system.sight = session.sight ∧ world.taken = session.world.taken := by
  obtain ⟨world, finished, unchanged⟩ := session.finish_ok
  refine ⟨world, ?_, unchanged⟩
  unfold settle
  rw [if_pos done, finished]

/-- How a sender can end whose packet is seen in `sight`. -/
inductive Ends (waits : Bool) (format : ListingFormat) (sight : Sight) :
    Outcome × Tapped (Watched W) → Prop where
  /-- It was asked only to send. -/
  | sent {world : Tapped (Watched W)} (unasked : waits = false)
      (seen : world.system.sight = sight) : Ends waits format sight (.success, world)
  /-- It has printed the first packet that is no notice. -/
  | responded {world : Tapped (Watched W)} {response : Packet} (asked : waits = true)
      (first : firstResponse? (parse defaultPacketSize world.taken).1 = some response)
      (seen : world.system.sight =
        { sight with printed := sight.printed ++ [listing format [response]] }) :
      Ends waits format sight (.success, world)
  /-- It does not report success. -/
  | failed {outcome : Outcome} {world : Tapped (Watched W)} (unsuccessful : outcome ≠ .success)
      (unprinted : world.system.sight.printed = sight.printed) :
      Ends waits format sight (outcome, world)

/-- A sender that still awaits something gives up without a print, or goes on. -/
theorem Ends.settle {waits : Bool} {sight : Sight} (undone : waiter.isDone = false)
    (unprinted : session.sight.printed = sight.printed)
    (goesOn : Ends waits format sight
      (loop format timeout deadline fuel waiter session.now.2)) :
    Ends waits format sight (settle format timeout deadline fuel waiter session) := by
  unfold Send.settle
  rw [if_neg (by simp [undone])]
  split
  case isTrue =>
    refine .failed nofun ?_
    have closed : session.now.2.close.2.sight = session.sight :=
      session.now.2.close_ok.2.1.trans session.prints_now.sight_eq
    exact (congrArg Sight.printed closed).trans unprinted
  case isFalse => exact goesOn

variable {items : List Item} {device : Nat}

/-- A sender that has printed the first response succeeds. -/
theorem Ends.settle_of_response {sight : Sight} {response : Packet} (done : waiter.isDone = true)
    (listens : session.Listens items device none)
    (answered : firstResponse? items = some response)
    (seen : session.sight =
      { sight with printed := sight.printed ++ [listing format [response]] }) :
    Ends true format sight (Send.settle format timeout deadline fuel waiter session) := by
  obtain ⟨world, settled, unchanged, taken⟩ :=
    settle_of_isDone format timeout deadline fuel session done
  obtain ⟨more, read⟩ := listens.parse_eq
  rw [settled]
  refine .responded rfl ?_ (unchanged.trans seen)
  rw [taken, read, firstResponse?_append, answered]
  rfl

/-! ## All turns -/

/-- A sender whose packet has been written ends with the first response, or in vain. -/
theorem ends_loop_waiting (bounded : ReadsAtMost W) (listens : session.Listens items device none)
    (unanswered : firstResponse? items = none) :
    Ends true format session.sight
      (loop format timeout deadline fuel { waits := true, sent := true } session) := by
  induction fuel generalizing session items with
  | zero => exact .failed nofun rfl
  | succ fuel ih =>
    have polls := listens.poll_of_unsent bounded
    rw [loop_succ]
    generalize session.poll = result at polls
    obtain ⟨seen, more, queue, after⟩ := polls
    obtain ⟨error | found, polled⟩ := result
    · exact .failed nofun (congrArg Sight.printed seen)
    · have accepts := acceptAll_prints format polled.queue { waits := true, sent := true }
        polled.takeQueue.2
      rw [Waiter.acceptEach_eq] at accepts
      obtain ⟨awaited, prints⟩ := accepts
      have answer : Waiter.response? { waits := true, sent := true } polled.queue =
          firstResponse? more := congrArg (List.find? _) queue
      rw [answer] at awaited prints
      have listening := after.prints prints
      simp only at awaited ⊢
      rw [awaited]
      cases answered : firstResponse? more with
      | none =>
        rw [answered] at prints
        have unprinted := prints.sight_eq.trans seen
        refine .settle rfl (congrArg Sight.printed unprinted) ?_
        rw [← unprinted, ← (Session.prints_now _).sight_eq]
        refine ih (listening.prints (Session.prints_now _)) ?_
        rw [firstResponse?_append, unanswered, answered]
        rfl
      | some response =>
        rw [answered] at prints
        have first : firstResponse? (items ++ more) = some response := by
          rw [firstResponse?_append, unanswered, answered]
          rfl
        refine .settle_of_response rfl listening first ?_
        obtain ⟨world, printed⟩ := prints
        rw [printed, ← seen]
        rfl

/-- A sender whose packet waits to be written ends with the packet written, or reports
something else than success. -/
theorem ends_loop (bounded : ReadsAtMost W) {first : UInt8} {rest : List UInt8}
    (listens : session.Listens [] device (some (first :: rest))) (waits : Bool) :
    Ends waits format { session.sight with
        written := session.sight.written ++ [(device, first :: rest, .ok ())] }
      (loop format timeout deadline fuel { waits } session) := by
  cases fuel with
  | zero => exact .failed nofun rfl
  | succ fuel =>
    have polls := listens.poll_of_pending bounded
    rw [loop_succ]
    generalize session.poll = result at polls
    obtain ⟨outcome, seen, told⟩ := polls
    cases outcome with
    | error cause =>
      obtain ⟨error, value⟩ := told
      obtain ⟨_, polled⟩ := result
      cases value
      have unprinted := congrArg Sight.printed seen
      exact .failed nofun unprinted
    | ok =>
      obtain ⟨value, queue, after⟩ := told
      obtain ⟨_, polled⟩ := result
      cases value
      have notice : Waiter.acceptEach { waits } [Packet.sentNotice] =
          ([], { waits, sent := true }) := rfl
      have accepts := acceptAll_prints format [Packet.sentNotice] { waits } polled.takeQueue.2
      rw [notice] at accepts
      obtain ⟨awaited, prints⟩ := accepts
      have listening := after.prints prints
      have unprinted := prints.sight_eq.trans seen
      simp only at queue ⊢
      rw [queue, awaited, ← unprinted]
      cases waits with
      | false =>
        have done : Waiter.isDone { waits := false, sent := true } = true := rfl
        obtain ⟨world, settled, unchanged, -⟩ := settle_of_isDone format timeout deadline fuel
          (acceptAll format [Packet.sentNotice] { waits := false } polled.takeQueue.2).2 done
        rw [settled]
        exact .sent rfl unchanged
      | true =>
        refine .settle rfl rfl ?_
        rw [← (Session.prints_now _).sight_eq]
        exact ends_loop_waiting bounded (listening.prints (Session.prints_now _)) rfl

/-- A sender that listens ends with its packet written, or reports something else than
success. -/
theorem ends_transmit (fuel : Nat) (waits : Bool) (format : ListingFormat) (timeout : Duration)
    (packet : Packet) (bounded : ReadsAtMost W) (listens : session.Listens [] device none) :
    Ends waits format { session.sight with
        written := session.sight.written ++ [(device, packet.kind.tag :: packet.data, .ok ())] }
      (transmit fuel waits format timeout packet session) := by
  have wire : (OutgoingPacket.ofPayload packet.data).wire packet.kind =
      packet.kind.tag :: packet.data := by
    rw [OutgoingPacket.wire_eq, OutgoingPacket.ofPayload, OutgoingPacket.payload_build]
  obtain ⟨accepted, unseen, sending⟩ := listens.send packet.kind (.ofPayload packet.data)
  rw [wire] at sending
  rw [transmit_eq]
  generalize session.send packet.kind (.ofPayload packet.data) = result at accepted unseen sending
  obtain ⟨outcome, handed⟩ := result
  cases accepted
  have clocked := handed.prints_now
  have unprinted := clocked.sight_eq.trans unseen
  rw [← unprinted]
  show Ends waits format _ (waitFrom fuel waits format timeout handed.now.1 handed.now.2)
  unfold waitFrom
  split
  case isTrue => exact .failed (by decide) rfl
  case isFalse => exact ends_loop bounded (sending.prints clocked) waits

/-! ## The command -/

/-- What is prepared is what the choice says. -/
theorem prepare_eq_ok {choice : SendChoice} {packet : Packet}
    (prepared : prepare choice = .ok (timeout, packet)) :
    Duration.parse choice.timeout = .ok timeout ∧ Hex.parse choice.hex = .ok packet.data ∧
      packet.kind = choice.kind ∧ checkHeader packet = .ok () := by
  unfold prepare at prepared
  split at prepared
  case h_1 => cases prepared
  case h_2 time readTime =>
    split at prepared
    case h_1 => cases prepared
    case h_2 data readData =>
      simp only at prepared
      cases checked : checkHeader ⟨choice.kind, data⟩ with
      | error failure =>
        rw [checked] at prepared
        cases prepared
      | ok =>
        rw [checked] at prepared
        cases prepared
        exact ⟨readTime, readData, rfl, checked⟩

/-- A packet whose header has been checked is encoded as its tag and its bytes. -/
theorem encode_of_checkHeader {packet : Packet} (checked : checkHeader packet = .ok ()) :
    packet.encode = .ok (packet.kind.tag :: packet.data) := by
  unfold checkHeader at checked
  unfold Packet.encode
  cases verdict : packet.check with
  | ok => rfl
  | error error =>
    rw [verdict] at checked
    cases checked

end Send

/-- A choice whose timeout, bytes or header are refused fails and touches nothing. -/
theorem send_of_refused (fuel : Nat) (choice : SendChoice) (format : ListingFormat) (world : W)
    (refused : (∃ error, Duration.parse choice.timeout = .error error) ∨
      (∃ error, Hex.parse choice.hex = .error error) ∨
      ∃ data failure, Hex.parse choice.hex = .ok data ∧
        checkHeader ⟨choice.kind, data⟩ = .error failure) :
    ∃ failure, send fuel choice format world = (.failed failure, world) := by
  unfold send
  cases prepared : Send.prepare choice with
  | error failure => exact ⟨failure, rfl⟩
  | ok result =>
    obtain ⟨timeout, packet⟩ := result
    obtain ⟨readTime, readData, kind, checked⟩ := Send.prepare_eq_ok prepared
    rcases refused with ⟨_, failed⟩ | ⟨_, failed⟩ | ⟨data, _, read, failed⟩
    · cases failed.symm.trans readTime
    · cases failed.symm.trans readData
    · cases read.symm.trans readData
      rw [← kind] at failed
      cases failed.symm.trans checked

/-- A sender reports something else than success and has printed nothing, or it ends with its
device opened and its packet written. -/
theorem ends_send (bounded : ReadsAtMost W) (fuel : Nat) (choice : SendChoice)
    (format : ListingFormat) (world : W) :
    let run := send fuel choice format (Watched.unseen world)
    (run.1 ≠ .success ∧ run.2.system.sight.printed = []) ∨
      ∃ data wire device, Hex.parse choice.hex = .ok data ∧
        Packet.encode ⟨choice.kind, data⟩ = .ok wire ∧
        Send.Ends choice.waits format {
          opened := [(choice.line.device, .ok device)]
          written := [(device, wire, .ok ())] } run := by
  intro run
  have same : run = send fuel choice format (Watched.unseen world) := rfl
  clear_value run
  unfold send at same
  cases prepared : Send.prepare choice with
  | error failure =>
    rw [prepared] at same
    rw [same]
    exact .inl ⟨nofun, rfl⟩
  | ok result =>
    obtain ⟨timeout, packet⟩ := result
    obtain ⟨-, readData, kind, checked⟩ := Send.prepare_eq_ok prepared
    have named : choice.line.setup.device = some choice.line.device := rfl
    have starts := Session.listens_start named world
    rw [prepared] at same
    simp only at same
    generalize Session.start choice.line.setup (Watched.unseen world) = result at starts same
    obtain ⟨opened, seen, opens⟩ := starts
    obtain ⟨failure | _, session⟩ := result
    · rw [same]
      exact .inl ⟨nofun, congrArg Sight.printed seen⟩
    · obtain ⟨device, rfl, listens⟩ := opens rfl
      have ends := Send.ends_transmit fuel choice.waits format timeout packet bounded listens
      simp only at seen
      rw [seen] at ends
      rw [same]
      refine .inr ⟨packet.data, _, device, readData, ?_, ends⟩
      rw [← kind]
      exact Send.encode_of_checkHeader checked

/-- Sending a packet tells the truth, however the line behaves.

Watching the host changes nothing.  A choice whose timeout, bytes or header are refused fails
before the device is opened.  A sender that reports success has opened its device, written the
encoded packet to it, once, and nothing else; it has printed nothing, or, if it was asked to
wait, exactly the first packet from the line that is no notice of a sent packet.  A sender that
reports anything else has printed nothing. -/
theorem send_truthful (bounded : ReadsAtMost W) (fuel : Nat) (choice : SendChoice)
    (format : ListingFormat) (world : W) :
    let (outcome, after) := send fuel choice format (Watched.unseen world)
    send fuel choice format world = (outcome, after.system.world) ∧
      ((∃ error, Duration.parse choice.timeout = .error error) ∨
          (∃ error, Hex.parse choice.hex = .error error) ∨
          (∃ data failure, Hex.parse choice.hex = .ok data ∧
            checkHeader ⟨choice.kind, data⟩ = .error failure) →
        (∃ failure, outcome = .failed failure) ∧ after = Watched.unseen world) ∧
      (outcome = .success → ∃ data wire device, Hex.parse choice.hex = .ok data ∧
        Packet.encode ⟨choice.kind, data⟩ = .ok wire ∧
        after.system.sight.opened = [(choice.line.device, .ok device)] ∧
        after.system.sight.written = [(device, wire, .ok ())] ∧
        (choice.waits = false → after.system.sight.printed = []) ∧
        (choice.waits = true → ∃ response,
          firstResponse? (parse defaultPacketSize after.taken).1 = some response ∧
          after.system.sight.printed = [listing format [response]])) ∧
      (outcome ≠ .success → after.system.sight.printed = []) := by
  have quiet : send fuel choice format world =
      Prod.map id Watched.world
        (Prod.map id Tapped.system (send fuel choice format (Watched.unseen world))) := by
    rw [← send_mirrors Tapped.hostView fuel choice format (Watched.unseen world)]
    exact send_mirrors Watched.hostView fuel choice format ⟨world, {}⟩
  have fails := send_of_refused fuel choice format (Watched.unseen world)
  have ends := ends_send bounded fuel choice format world
  rw [quiet]
  generalize send fuel choice format (Watched.unseen world) = run at fails ends
  obtain ⟨outcome, after⟩ := run
  refine ⟨rfl, fun refused => ?refused, ?success, ?failure⟩
  case refused =>
    obtain ⟨failure, same⟩ := fails refused
    cases same
    exact ⟨⟨failure, rfl⟩, rfl⟩
  case success =>
    rintro rfl
    rcases ends with ⟨unsuccessful, _⟩ | ⟨data, wire, device, read, encoded, ends⟩
    · exact absurd rfl unsuccessful
    · refine ⟨data, wire, device, read, encoded, ?_⟩
      cases ends with
      | sent unasked seen =>
        rw [seen]
        refine ⟨rfl, rfl, fun _ => rfl, fun asked => ?_⟩
        cases asked.symm.trans unasked
      | @responded _ response asked first seen =>
        rw [seen]
        refine ⟨rfl, rfl, fun unasked => ?_, fun _ => ⟨response, first, rfl⟩⟩
        cases asked.symm.trans unasked
      | failed unsuccessful => exact absurd rfl unsuccessful
  case failure =>
    intro unsuccessful
    rcases ends with ⟨_, unprinted⟩ | ⟨_, _, _, _, _, ends⟩
    · exact unprinted
    · cases ends with
      | sent | responded => exact absurd rfl unsuccessful
      | failed _ unprinted => exact unprinted

/-- A host whose far end reports a sent packet of its own before it answers. -/
def answeringHost : SimulatedHost :=
  { terminal := some {}, script := [.write [0x04, 0x6E, 0x00], .write [0x04, 0x0E, 0x00]] }

/-- A reset command is sent, and what the far end answers is printed. -/
theorem send_reset_answered :
    let choice : SendChoice := {
      line := { device := "/dev/pts/0" }
      kind := .command
      hex := "03 0c 00"
      waits := true }
    let (outcome, after) := send 10 choice .table (Watched.unseen answeringHost)
    ReadsAtMost SimulatedHost ∧ outcome = .success ∧
      (∃ device, after.system.sight.written = [(device, [0x01, 0x03, 0x0C, 0x00], .ok ())]) ∧
      after.system.sight.printed = [listing .table [⟨.event, [0x0E, 0x00]⟩]] := by
  intro choice
  have truth := send_truthful SimulatedHost.readsAtMost 10 choice .table answeringHost
  have succeeds : (send 10 choice .table (Watched.unseen answeringHost)).1 = .success := by
    decide +kernel
  have taken : (send 10 choice .table (Watched.unseen answeringHost)).2.taken =
      [0x04, 0x6E, 0x00, 0x04, 0x0E, 0x00] := by
    decide +kernel
  generalize send 10 choice .table (Watched.unseen answeringHost) = run at truth succeeds taken ⊢
  obtain ⟨outcome, after⟩ := run
  obtain ⟨-, -, success, -⟩ := truth
  obtain ⟨data, wire, device, read, encoded, -, written, -, answered⟩ := success succeeds
  obtain ⟨response, first, printed⟩ := answered rfl
  have bytes : Hex.parse choice.hex = .ok [0x03, 0x0C, 0x00] := by decide +kernel
  cases read.symm.trans bytes
  cases encoded
  have notice : Segment defaultPacketSize [0x04, 0x6E, 0x00] (.packet ⟨.event, [0x6E, 0x00]⟩) :=
    @Segment.packet _ .event [0x6E, 0x00] [] rfl rfl rfl nofun
  have event : Segment defaultPacketSize [0x04, 0x0E, 0x00] (.packet ⟨.event, [0x0E, 0x00]⟩) :=
    @Segment.packet _ .event [0x0E, 0x00] [] rfl rfl rfl nofun
  have made : Segments defaultPacketSize [0x04, 0x6E, 0x00, 0x04, 0x0E, 0x00]
      [.packet ⟨.event, [0x6E, 0x00]⟩, .packet ⟨.event, [0x0E, 0x00]⟩] :=
    .cons notice (.cons event .nil)
  rw [taken, parse_of_segments made] at first
  cases first
  exact ⟨SimulatedHost.readsAtMost, succeeds, ⟨device, written⟩, printed⟩

end HciSerial
