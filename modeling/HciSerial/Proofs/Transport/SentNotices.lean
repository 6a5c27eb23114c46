import HciSerial.Proofs.Transport.Readiness
import HciSerial.Proofs.Transport.SendAccounting

/-!
# Notices of sent packets

The notice that a packet has been sent reaches the handler as an event, in one stream with the
events that a controller sends.  A controller can send the same event, so the notices that a
host counts are those of its own packets and those that the line carried.

## Main Definitions

* `Transport.Event.framed?`: the packet that an event reports from the line.
* `Transport.pendingSends`: the sends that the line has not completed, one or none.
* `Transport.framedBytes`: the bytes of the packets from the line.
* `Transport.eventsOf`, `Transport.injectedOf`: the events of a run, and the bytes that arrive.

## Main Results

* `Transport.countP_isSentNotice`: the notices among the packets of a handler.
* `Transport.confirmed_perform`: a notice of the transport answers a pending send.
* `Transport.Expects.framedBytes_perform`: what is framed has been carried by the line.
* `Transport.sentNotices_le_accepted_add_framed`: the notices of a run.
-/

namespace HciSerial

open Grammar

/-- The bytes of a packet on the line. -/
def Packet.wire (packet : Packet) : List UInt8 :=
  packet.kind.tag :: packet.data

/-- The packets that segments make stand on the line one after the other, with nothing of one
in another. -/
theorem Grammar.Segments.wire_sublist {maxPacket : Nat} {bytes : List UInt8} {items : List Item}
    (made : Segments maxPacket bytes items) :
    ((items.filterMap Item.packet?).flatMap Packet.wire).Sublist bytes := by
  induction made with
  | nil => exact List.Sublist.refl []
  | cons first _ ih =>
    cases first with
    | packet => exact (List.Sublist.refl _).append ih
    | stray | oversized => exact ih.trans (List.sublist_append_right _ _)

namespace Transport

/-! ## Packets among events -/

/-- The packet that an event reports from the line. -/
def Event.framed? : Event → Option Packet
  | framed packet => some packet
  | _ => none

/-- The notices among the packets of a handler are those of the transport itself, and those
among the packets from the line. -/
theorem countP_isSentNotice (events : List Event) :
    (events.filterMap Event.packet?).countP Packet.isSentNotice =
      events.count .confirmed + (events.filterMap Event.framed?).countP Packet.isSentNotice := by
  induction events with
  | nil => rfl
  | cons first rest ih =>
    cases first with
    | framed packet =>
      have other : (Event.framed packet == .confirmed) = false := rfl
      simp only [List.filterMap_cons, Event.packet?, Event.framed?, List.countP_cons,
        List.count_cons, other, ih]
      exact Nat.add_assoc _ _ _
    | confirmed =>
      have notice : Packet.isSentNotice .sentNotice = true := rfl
      simp only [List.filterMap_cons, Event.packet?, Event.framed?, List.countP_cons,
        List.count_cons_self, notice, ih]
      exact Nat.add_right_comm _ _ _
    | logged record =>
      have other : (Event.logged record == .confirmed) = false := rfl
      simp only [List.filterMap_cons, Event.packet?, Event.framed?, List.count_cons, other, ih]
      rfl

/-- The packets from the line are among the events of the receive side. -/
theorem filterMap_framed_framing (events : List Event) :
    (framing events).filterMap Event.framed? = events.filterMap Event.framed? := by
  rw [framing, List.filterMap_filter]
  refine List.filterMap_congr fun event _ => ?_
  cases event with
  | framed | confirmed => rfl
  | logged => exact ite_self _

theorem filterMap_framed_ofItem (items : List Item) :
    (items.map Event.ofItem).filterMap Event.framed? = items.filterMap Item.packet? := by
  rw [List.filterMap_map]
  refine List.filterMap_congr fun item _ => ?_
  cases item <;> rfl

/-! ## Notices of the transport itself -/

section Confirmed

/-- The number of sends, one or none, that the line has not completed. -/
def pendingSends (transport : Transport MemoryLine) : Nat :=
  if transport.line.sending = .idle then 0 else 1

theorem pendingSends_le_one (transport : Transport MemoryLine) : transport.pendingSends ≤ 1 := by
  unfold pendingSends
  split <;> decide

variable {transport : Transport MemoryLine}

/-- Steps that give no notice, and that make no send pending. -/
theorem confirmed_of_silent {events : List Event} {next : Transport MemoryLine} {accepted : Nat}
    (silent : events.count .confirmed = 0)
    (pending : transport.line.sending = .idle → next.line.sending = .idle) :
    events.count .confirmed + next.pendingSends ≤ transport.pendingSends + accepted := by
  rw [silent, Nat.zero_add]
  by_cases idle : transport.line.sending = .idle
  · rw [pendingSends, if_pos (pending idle)]
    exact Nat.zero_le _
  · have held : transport.pendingSends = 1 := if_neg idle
    exact held.symm ▸ Nat.le_add_right_of_le next.pendingSends_le_one

/-- A poll gives a notice only for a pending send. -/
theorem confirmed_poll (transport : Transport MemoryLine) :
    transport.poll.events.count .confirmed + transport.poll.state.pendingSends ≤
      transport.pendingSends := by
  have cases := polled transport
  generalize transport.poll = report at cases ⊢
  cases cases with
  | closed | quiet => exact Nat.le_of_eq (Nat.zero_add _)
  | received =>
    rw [count_confirmed_blockReceived]
    exact Nat.le_of_eq (Nat.zero_add _)
  | sent _ _ ready =>
    have pending : transport.pendingSends = 1 := by rw [pendingSends, ready]; rfl
    exact Nat.le_of_eq pending.symm
  | failed =>
    show _ ≤ transport.pendingSends + 0
    refine confirmed_of_silent ?_ fun _ => rfl
    cases transport.sendActive <;> rfl

/-- A drain gives a notice only for a pending send. -/
theorem confirmed_drainWithin (fuel done : Nat) (transport : Transport MemoryLine) :
    (transport.drainWithin fuel done).events.count .confirmed +
        (transport.drainWithin fuel done).state.pendingSends ≤ transport.pendingSends := by
  refine drainWithin_invariant (motive := fun events next =>
    events.count .confirmed + next.pendingSends ≤ transport.pendingSends) fuel done
    (Nat.le_of_eq (Nat.zero_add _)) ?_
  intro events middle before
  have now := confirmed_poll middle
  rw [List.count_append]
  omega

/-- A request to send leads to a pending send only if it is accepted. -/
theorem confirmed_send (kind : PacketKind) (packet : OutgoingPacket)
    (transport : Transport MemoryLine) :
    (transport.send kind packet).events.count .confirmed +
        (transport.send kind packet).state.pendingSends ≤ transport.pendingSends +
      ((Action.host (.send kind packet) : Action MemoryLine.Control).accepted?
        (.ofExcept (transport.send kind packet).value)).toList.length := by
  have cases := Transport.sent kind packet transport
  generalize transport.send kind packet = report at cases ⊢
  cases cases with
  | closed | busy => exact confirmed_of_silent rfl id
  | accepted =>
    have logged := count_confirmed_logged (transport.line.send (packet.wire kind)).records
    show List.count Event.confirmed ((transport.line.send (packet.wire kind)).records.map _) + _ ≤
      transport.pendingSends + 1
    rw [logged, Nat.zero_add]
    exact Nat.le_add_left_of_le (pendingSends_le_one _)

/-- Every action but a completion that the line has not reported gives a notice only for a
send that was pending, and leaves one pending only if it was or has been accepted. -/
theorem confirmed_perform {action : Action MemoryLine.Control}
    (indirect : action.isDirect = false) :
    (transport.perform action).events.count .confirmed +
        (transport.perform action).state.pendingSends ≤ transport.pendingSends +
      (action.accepted? (transport.perform action).value).toList.length := by
  rcases action with operation | control
  · cases operation with
    | init config => cases config <;> exact confirmed_of_silent rfl id
    | openLine =>
      have cases := Transport.opened transport
      show transport.openLine.events.count .confirmed + transport.openLine.state.pendingSends ≤ _
      generalize transport.openLine = report at cases ⊢
      cases cases with
      | unconfigured | refused => exact confirmed_of_silent rfl id
      | opened => exact confirmed_of_silent (count_confirmed_logged _) id
    | close => exact confirmed_of_silent rfl fun _ => rfl
    | setBaudrate | register => exact confirmed_of_silent rfl id
    | send kind packet => exact confirmed_send kind packet transport
    | poll => exact Nat.le_add_right_of_le (confirmed_poll transport)
    | drain => exact Nat.le_add_right_of_le (confirmed_drainWithin _ 0 transport)
    | complete => cases indirect
  · refine confirmed_of_silent rfl ?_
    cases control with
    | completeSend =>
      intro idle
      show (transport.line.control .completeSend).sending = .idle
      simp only [MemoryLine.control, idle]
    | inject | completeSends | failOpen | failPoll => exact id

end Confirmed

/-! ## Packets from the line -/

/-- The bytes on the line of the packets that events report from it. -/
def framedBytes (events : List Event) : List UInt8 :=
  (events.filterMap Event.framed?).flatMap Packet.wire

@[simp] theorem framedBytes_nil : framedBytes [] = [] := rfl

@[simp] theorem framedBytes_append (left right : List Event) :
    framedBytes (left ++ right) = framedBytes left ++ framedBytes right := by
  rw [framedBytes, List.filterMap_append, List.flatMap_append]
  rfl

theorem framedBytes_of_silent {events : List Event} (silent : framing events = []) :
    framedBytes events = [] := by
  rw [framedBytes, ← filterMap_framed_framing, silent]
  rfl

namespace Expects

variable {maxPacket : Nat} {transport : Transport MemoryLine}

/-- What a poll frames stands among the unread bytes, before those that it leaves unread. -/
theorem framedBytes_poll (expects : transport.Expects maxPacket) :
    (framedBytes transport.poll.events ++ transport.poll.state.unread).Sublist
      transport.unread := by
  cases isOpen : transport.line.isOpen with
  | false => rw [poll_of_closed isOpen, framedBytes_nil, List.nil_append]
  | true =>
    obtain ⟨more, next, after, told⟩ := (expects.receives isOpen).poll
    obtain ⟨holds, _, reported, made, split⟩ := after
    have framed : framedBytes transport.poll.events =
        (more.filterMap Item.packet?).flatMap Packet.wire := by
      rw [framedBytes, ← filterMap_framed_framing, told, filterMap_framed_ofItem]
    rw [framed, split, List.append_assoc, unread, holds.held_eq]
    exact made.wire_sublist.append (List.Sublist.refl _)

/-- What an action frames stands among the unread bytes and those that arrive with it, before
those that it leaves unread. -/
theorem framedBytes_perform (expects : transport.Expects maxPacket)
    {action : Action MemoryLine.Control} (indirect : action.isDirect = false) :
    (framedBytes (transport.perform action).events ++
      (transport.perform action).state.unread).Sublist (transport.unread ++ action.injected) := by
  by_cases closes : action = .host .close
  · subst closes
    rw [Action.injected_host, List.append_nil]
    exact List.Sublist.refl transport.unread
  obtain ⟨received, holds⟩ := expects.holds
  have meaning := heard holds indirect
  generalize transport.perform action = report at meaning ⊢
  cases meaning with
  | aside _ _ _ _ framer _ incoming silent =>
    rw [framedBytes_of_silent silent, List.nil_append, unread, unread, framer, incoming,
      List.append_assoc]
  | opened _ _ _ framer _ incoming silent =>
    -- the bytes that the framer holds are given up
    rw [framedBytes_of_silent silent, Action.injected_host, List.append_nil, unread, framer,
      incoming, Framer.held]
    exact List.sublist_append_right _ _
  | closed => exact absurd rfl closes
  | polled =>
    rw [Action.injected_host, List.append_nil]
    exact expects.framedBytes_poll
  | drained drains =>
    rw [Action.injected_host, List.append_nil]
    refine (drains.invariant (motive := fun events next => next.Expects maxPacket ∧
      (framedBytes events ++ next.unread).Sublist transport.unread)
      ⟨expects, List.Sublist.refl _⟩ ?_).2
    rintro events middle ⟨ready, before⟩
    refine ⟨ready.poll, ?_⟩
    rw [framedBytes_append, List.append_assoc]
    exact ((List.Sublist.refl _).append ready.framedBytes_poll).trans before

end Expects

/-! ## A whole run -/

/-- The events of a run, in order. -/
def eventsOf (past : List (Occurrence MemoryLine MemoryLine.Control)) : List Event :=
  past.flatMap Occurrence.events

/-- The bytes that have arrived in a run, in order. -/
def injectedOf (past : List (Occurrence MemoryLine MemoryLine.Control)) : List UInt8 :=
  past.flatMap fun occurrence => occurrence.action.injected

theorem eventsOf_concat (past : List (Occurrence MemoryLine MemoryLine.Control))
    (last : Occurrence MemoryLine MemoryLine.Control) :
    eventsOf (past ++ [last]) = eventsOf past ++ last.events := by
  rw [eventsOf, List.flatMap_append, List.flatMap_singleton]
  rfl

theorem injectedOf_concat (past : List (Occurrence MemoryLine MemoryLine.Control))
    (last : Occurrence MemoryLine MemoryLine.Control) :
    injectedOf (past ++ [last]) = injectedOf past ++ last.action.injected := by
  rw [injectedOf, List.flatMap_append, List.flatMap_singleton]
  rfl

section Run

variable {actions : List (Action MemoryLine.Control)}

/-- A run gives a notice of its own, or has a send pending, only for an accepted packet. -/
theorem confirmed_after (buffer : ReceiveBuffer)
    (indirect : ∀ action ∈ actions, action.isDirect = false) :
    let past := (new ({} : MemoryLine) buffer).transcript actions
    (eventsOf past).count .confirmed + ((new ({} : MemoryLine) buffer).after actions).pendingSends ≤
      (past.filterMap Occurrence.accepted?).length := by
  refine transcript_invariant (fun past now => (eventsOf past).count .confirmed +
    now.pendingSends ≤ (past.filterMap Occurrence.accepted?).length) _
    (forall_mem_transcript (fun action => action.isDirect = false) indirect) (Nat.le_refl 0) ?_
  intro past now action before indirect
  have step : (Occurrence.events ⟨now, action⟩).count .confirmed +
      (now.perform action).state.pendingSends ≤ now.pendingSends +
        (Occurrence.accepted? ⟨now, action⟩).toList.length := confirmed_perform indirect
  rw [eventsOf_concat, List.count_append, Occurrence.filterMap_accepted?_concat,
    List.length_append]
  omega

/-- What a run frames stands among the bytes that have arrived, before those that it leaves
unread. -/
theorem framedBytes_after {buffer : ReceiveBuffer} (formed : buffer.WellFormed)
    (indirect : ∀ action ∈ actions, action.isDirect = false) :
    let past := (new ({} : MemoryLine) buffer).transcript actions
    (framedBytes (eventsOf past) ++ ((new ({} : MemoryLine) buffer).after actions).unread).Sublist
      (injectedOf past) := by
  refine (transcript_invariant (fun past now => now.Expects buffer.maxPacket ∧
    (framedBytes (eventsOf past) ++ now.unread).Sublist (injectedOf past)) _
    (forall_mem_transcript (fun action => action.isDirect = false) indirect)
    ⟨expects_after formed [], List.Sublist.refl []⟩ ?_).2
  rintro past now action ⟨expects, before⟩ indirect
  refine ⟨expects.perform action, ?_⟩
  have step : (framedBytes (Occurrence.events ⟨now, action⟩) ++
      (now.perform action).state.unread).Sublist (now.unread ++ action.injected) :=
    expects.framedBytes_perform indirect
  rw [eventsOf_concat, injectedOf_concat, framedBytes_append, List.append_assoc]
  refine ((List.Sublist.refl _).append step).trans ?_
  rw [← List.append_assoc]
  exact before.append (List.Sublist.refl _)

end Run

/-- A handler never gets more notices of sent packets than packets have been accepted and
events of that code have been framed from the line.

The notices that the transport itself gives are never more than the packets that it has
accepted; this includes runs in which an open transport is opened anew.  The other ones are
packets from the line, and the packets from the line stand, one after the other and without
overlap, among the bytes that have arrived. -/
theorem sentNotices_le_accepted_add_framed (buffer : ReceiveBuffer)
    {actions : List (Action MemoryLine.Control)}
    (indirect : ∀ action ∈ actions, action.isDirect = false) :
    let past := (new ({} : MemoryLine) buffer).transcript actions
    let delivered := (eventsOf past).filterMap Event.packet?
    let framed := (eventsOf past).filterMap Event.framed?
    let accepted := past.filterMap Occurrence.accepted?
    delivered.countP Packet.isSentNotice ≤
        accepted.length + framed.countP Packet.isSentNotice ∧
      (eventsOf past).count .confirmed ≤ accepted.length ∧
      (buffer.WellFormed → (framed.flatMap Packet.wire).Sublist (injectedOf past)) := by
  intro past delivered framed accepted
  have confirmed : (eventsOf past).count .confirmed ≤ accepted.length :=
    Nat.le_of_add_right_le (confirmed_after buffer indirect)
  refine ⟨?_, confirmed, fun formed => ?_⟩
  · rw [countP_isSentNotice]
    exact Nat.add_le_add_right confirmed _
  · exact (List.sublist_append_left _ _).trans (framedBytes_after formed indirect)

/-- A run in which a packet is sent, and the line then carries the event of a sent packet. -/
def sentThenCarried : List (Action MemoryLine.Control) :=
  [.host (.init (.serial {})), .host .openLine,
    .host (.send .command (.ofPayload [0x03, 0x0C, 0x00])), .host .drain,
    .line (.inject [0x04, 0x6E, 0x00]), .host .drain]

/-- One packet is sent, one event is carried, and the handler gets two notices. -/
theorem sentNotices_sentThenCarried :
    let events := eventsOf ((new ({} : MemoryLine) .default).transcript sentThenCarried)
    (∀ action ∈ sentThenCarried, action.isDirect = false) ∧
      (events.filterMap Event.packet?).countP Packet.isSentNotice = 2 ∧
      (events.filterMap Event.packet?).countP Packet.isSentNotice ≤ 1 + 1 ∧
      [0x04, 0x6E, 0x00].Sublist (injectedOf
        ((new ({} : MemoryLine) .default).transcript sentThenCarried)) := by
  intro events
  have indirect : ∀ action ∈ sentThenCarried, action.isDirect = false := by
    simp [sentThenCarried, Action.isDirect]
  obtain ⟨notices, _, carried⟩ := sentNotices_le_accepted_add_framed .default indirect
  exact ⟨indirect, rfl, notices, carried
    (ReceiveBuffer.wellFormed_of_new ReceiveBuffer.new_default).1⟩

/-- A run without any packet sent, in which the line carries the event of a sent packet. -/
def forgedNotice : List (Action MemoryLine.Control) :=
  [.host (.init (.serial {})), .host .openLine, .host (.register .queue),
    .line (.inject [0x04, 0x6E, 0x00]), .host .drain]

/-- A controller can send the event of a sent packet: no packet has been accepted, and the
handler gets a notice. -/
theorem forgedNotice_unsent :
    let past := (new ({} : MemoryLine) .default).transcript forgedNotice
    (∀ action ∈ forgedNotice, action.isDirect = false) ∧
      ¬ ((eventsOf past).filterMap Event.packet?).countP Packet.isSentNotice ≤
        (past.filterMap Occurrence.accepted?).length := by
  refine ⟨by simp [forgedNotice, Action.isDirect], ?_⟩
  decide +kernel

end Transport

end HciSerial
