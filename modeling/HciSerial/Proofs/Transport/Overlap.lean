import HciSerial.Proofs.Transport.SendAccounting

/-!
# Overlapping requests

A line takes at most one request to receive and one to send at a time.  A transport keeps
to that unless it is opened anew while it is open: then the line in memory still has the
requests of the time before.

## Main Definitions

* `MemoryLine.receiveWarning`, `MemoryLine.sendWarning`: what the line logs when it gets a
  request while it has not answered the last one of the same kind.
* `Occurrence.OverlapsReceive`, `Occurrence.OverlapsSend`: actions that lead to such a request.
* `Occurrence.ReopensSending`: an opening of an open transport with a packet in flight.
* `Transport.Owes`: the requests that the line has not answered.

## Main Results

* `Occurrence.overlapsReceive_iff`, `Occurrence.overlapsSend_iff`: which actions overlap.
* `Transport.Owes.perform`: every action keeps the account of unanswered requests.
* `Transport.overlaps_only_after_reopening`: overlaps in a run come from reopening alone.
-/

namespace HciSerial

open Transport

namespace MemoryLine

/-- What the line logs when it is asked to receive while it still has a pending read. -/
def receiveWarning (length : Nat) : Log.Record :=
  record .warn "receive requested while another receive is pending" [("len", .number length)]

/-- What the line logs when it is given a block while it still has a pending send. -/
def sendWarning (length : Nat) : Log.Record :=
  record .warn "send requested while another send is pending" [("len", .number length)]

theorem receive_records (length : Nat) (line : MemoryLine) :
    (line.receive length).records =
      if line.pendingRead.isSome then [receiveWarning length] else [] := rfl

theorem send_records (block : List UInt8) (line : MemoryLine) :
    (line.send block).records =
      if line.sending ≠ .idle then [sendWarning block.length] else [] := rfl

/-- The two warnings differ. -/
theorem receiveWarning_ne_sendWarning (first second : Nat) :
    receiveWarning first ≠ sendWarning second := by
  intro same
  have message : (receiveWarning first).message = (sendWarning second).message :=
    congrArg Log.Record.message same
  simp [receiveWarning, sendWarning, record] at message

end MemoryLine

open MemoryLine (receiveWarning sendWarning)

namespace Transport

/-! ## Warnings among events -/

/-- The warnings of a line in memory, in order. -/
def lineWarnings (events : List Event) : List Log.Record :=
  (events.filterMap Event.record?).filter fun record =>
    record.source = .memoryLine ∧ record.level = .warn

@[simp] theorem lineWarnings_nil : lineWarnings [] = [] := rfl

@[simp] theorem lineWarnings_append (left right : List Event) :
    lineWarnings (left ++ right) = lineWarnings left ++ lineWarnings right := by
  rw [lineWarnings, List.filterMap_append, List.filter_append]
  rfl

/-- A block is taken without a warning if no other request to receive is pending. -/
theorem lineWarnings_blockReceived {transport : Transport MemoryLine}
    (answered : transport.line.pendingRead = none) (block : List UInt8) :
    lineWarnings (transport.blockReceived block).events = [] := by
  unfold blockReceived
  simp only [requestNext, SerialLine.receive, MemoryLine.receive_records, answered,
    lineWarnings_append]
  generalize (transport.framer.receive block).1 = verdict
  rcases verdict with error | _ | packet <;> rfl

/-- A poll leads to no warning: the next block is asked for after the last one has come. -/
theorem lineWarnings_poll (transport : Transport MemoryLine) :
    lineWarnings transport.poll.events = [] := by
  have cases := polled transport
  generalize transport.poll = report at cases ⊢
  cases cases with
  | closed | sent | quiet => rfl
  | received => exact lineWarnings_blockReceived rfl _
  | failed =>
    show lineWarnings (if transport.sendActive then _ else _) = _
    cases transport.sendActive <;> rfl

/-- An opening leads to a warning exactly if it succeeds while a read is pending. -/
theorem lineWarnings_openLine (transport : Transport MemoryLine) :
    lineWarnings transport.openLine.events =
      if Answer.ofExcept transport.openLine.value = .done ∧
        transport.line.pendingRead.isSome = true then [receiveWarning 1] else [] := by
  have cases := Transport.opened transport
  generalize transport.openLine = report at cases ⊢
  cases cases with
  | unconfigured | refused => rfl
  | opened =>
    rw [MemoryLine.receive_records]
    cases transport.line.pendingRead <;> rfl

/-- A request to send leads to a warning exactly if it is accepted while a send is pending. -/
theorem lineWarnings_send (transport : Transport MemoryLine) (kind : PacketKind)
    (packet : OutgoingPacket) :
    lineWarnings (transport.send kind packet).events =
      if transport.isOpen = true ∧ transport.sendActive = false ∧
        transport.line.sending ≠ .idle then [sendWarning (packet.wire kind).length] else [] := by
  have cases := Transport.sent kind packet transport
  generalize transport.send kind packet = report at cases ⊢
  cases cases with
  | closed isClosed => simp [isClosed]
  | busy isOpen active =>
    rw [if_neg (by simp [active])]
    rfl
  | accepted isOpen inactive =>
    rw [MemoryLine.send_records]
    cases sending : transport.line.sending <;> simp only [isOpen, inactive] <;> rfl

/-- A drain leads to no warning. -/
theorem lineWarnings_drain (transport : Transport MemoryLine) :
    lineWarnings (transport.perform (.host .drain)).events = [] := by
  show lineWarnings (transport.drainWithin _ 0).events = []
  refine drainWithin_invariant (motive := fun events _ => lineWarnings events = []) _ _ rfl ?_
  intro events middle before
  rw [lineWarnings_append, before, lineWarnings_poll, List.append_nil]

end Transport

namespace Occurrence

/-- The warnings that an action is bound to lead to. -/
def dueWarnings (occurrence : Occurrence MemoryLine MemoryLine.Control) : List Log.Record :=
  match occurrence.action with
  | .host .openLine =>
    if occurrence.opens = true ∧ occurrence.before.line.pendingRead.isSome = true then
      [receiveWarning 1]
    else []
  | .host (.send kind packet) =>
    if occurrence.before.isOpen = true ∧ occurrence.before.sendActive = false ∧
        occurrence.before.line.sending ≠ .idle then
      [sendWarning (packet.wire kind).length]
    else []
  | _ => []

/-- The line is asked to receive while it still has a pending read. -/
def OverlapsReceive (occurrence : Occurrence MemoryLine MemoryLine.Control) : Prop :=
  ∃ length, receiveWarning length ∈ lineWarnings occurrence.events

/-- The line is given a block while it still has a pending send. -/
def OverlapsSend (occurrence : Occurrence MemoryLine MemoryLine.Control) : Prop :=
  ∃ length, sendWarning length ∈ lineWarnings occurrence.events

/-- The transport is opened anew while it is open and a packet is in flight. -/
def ReopensSending (occurrence : Occurrence MemoryLine MemoryLine.Control) : Prop :=
  occurrence.opens = true ∧ occurrence.before.isOpen = true ∧
    occurrence.before.sendActive = true

variable {occurrence : Occurrence MemoryLine MemoryLine.Control}

/-- An action leads to the warnings that are due, and to no others. -/
theorem lineWarnings_events (indirect : occurrence.action.isDirect = false) :
    lineWarnings occurrence.events = occurrence.dueWarnings := by
  obtain ⟨before, operation | control⟩ := occurrence
  · cases operation with
    | init config => cases config <;> rfl
    | openLine =>
      refine (lineWarnings_openLine before).trans ?_
      simp only [dueWarnings, opens, Action.opens, decide_eq_true_eq]
      rfl
    | close | setBaudrate | register => rfl
    | send kind packet => exact lineWarnings_send before kind packet
    | poll => exact lineWarnings_poll before
    | drain => exact lineWarnings_drain before
    | complete => cases indirect
  · rfl

/-- A request to receive overlaps another exactly at a successful opening of a transport
whose line has a pending read. -/
theorem overlapsReceive_iff (indirect : occurrence.action.isDirect = false) :
    occurrence.OverlapsReceive ↔
      occurrence.opens = true ∧ occurrence.before.line.pendingRead.isSome = true := by
  rw [OverlapsReceive, lineWarnings_events indirect, dueWarnings]
  split
  case h_1 => split <;> simp_all
  case h_2 kind packet action =>
    have unopened : occurrence.opens = false := by simp [opens, action, Action.opens]
    split <;> simp [unopened, MemoryLine.receiveWarning_ne_sendWarning]
  case h_3 other _ =>
    have unopened : occurrence.opens = false := by
      unfold opens Action.opens
      split <;> simp_all
    simp [unopened]

/-- A request to send overlaps another exactly if it is accepted while the line has a
pending send. -/
theorem overlapsSend_iff (indirect : occurrence.action.isDirect = false) :
    occurrence.OverlapsSend ↔
      (∃ kind packet, occurrence.action = .host (.send kind packet)) ∧
        occurrence.before.isOpen = true ∧ occurrence.before.sendActive = false ∧
        occurrence.before.line.sending ≠ .idle := by
  rw [OverlapsSend, lineWarnings_events indirect, dueWarnings]
  split
  case h_1 action =>
    split <;> simp [action, (MemoryLine.receiveWarning_ne_sendWarning _ _).symm]
  case h_2 kind packet action => split <;> simp_all
  case h_3 _ other => simp_all

end Occurrence

namespace Transport

/-! ## Unanswered requests -/

/-- The requests that the line has not answered: a read while the transport is open, and a
send while a packet is in flight, unless `reopened` has happened. -/
structure Owes (reopened : Prop) (transport : Transport MemoryLine) : Prop where
  line : transport.line.isOpen = transport.isOpen
  reading : transport.line.pendingRead.isSome = transport.isOpen
  active : transport.sendActive = true → transport.isOpen = true
  sending : transport.line.sending ≠ .idle → transport.sendActive = true ∨ reopened

variable {reopened : Prop} {transport : Transport MemoryLine}

theorem Owes.congr (owes : transport.Owes reopened) {next : Transport MemoryLine}
    (isOpen : next.isOpen = transport.isOpen) (active : next.sendActive = transport.sendActive)
    (line : next.line.isOpen = transport.line.isOpen)
    (reading : next.line.pendingRead.isSome = transport.line.pendingRead.isSome)
    (sending : next.line.sending = .idle ↔ transport.line.sending = .idle) :
    next.Owes reopened := by
  refine ⟨?_, ?_, ?_, ?_⟩
  · rw [line, isOpen, owes.line]
  · rw [reading, isOpen, owes.reading]
  · rw [active, isOpen]
    exact owes.active
  · rw [active, ne_eq, sending]
    exact owes.sending

/-- A poll keeps the account. -/
theorem Owes.poll (owes : transport.Owes reopened) : transport.poll.state.Owes reopened := by
  have cases := polled transport
  generalize transport.poll = report at cases ⊢
  cases cases with
  | closed | quiet => exact owes
  | failed | sent => exact ⟨owes.line, owes.reading, by simp, by simp⟩
  | received isOpen =>
    exact ⟨owes.line, (owes.line.symm.trans isOpen).symm, owes.active, owes.sending⟩

/-- A weaker excuse for a pending send. -/
theorem Owes.mono (owes : transport.Owes reopened) {other : Prop} (weaker : reopened → other) :
    transport.Owes other :=
  ⟨owes.line, owes.reading, owes.active, fun pending => (owes.sending pending).imp_right weaker⟩

/-- An opening opens the gate and leaves a pending send as it is. -/
theorem Owes.openLine (owes : transport.Owes reopened) :
    transport.openLine.state.Owes (reopened ∨
      Occurrence.ReopensSending ⟨transport, (.host .openLine : Action MemoryLine.Control)⟩) := by
  show transport.openLine.state.Owes (reopened ∨
    decide (Answer.ofExcept transport.openLine.value = .done) = true ∧
      transport.isOpen = true ∧ transport.sendActive = true)
  have cases := Transport.opened transport
  generalize transport.openLine = report at cases ⊢
  cases cases with
  | unconfigured => exact owes.mono Or.inl
  | refused => exact (owes.mono Or.inl).congr rfl rfl rfl rfl Iff.rfl
  | opened =>
    refine ⟨rfl, rfl, fun _ => rfl, fun pending => .inr ?_⟩
    rcases owes.sending pending with active | before
    · exact .inr ⟨rfl, owes.active active, active⟩
    · exact .inl before

/-- A request to send leaves a pending send only with the gate closed. -/
theorem Owes.send (owes : transport.Owes reopened) (kind : PacketKind)
    (packet : OutgoingPacket) : (transport.send kind packet).state.Owes reopened := by
  have cases := Transport.sent kind packet transport
  generalize transport.send kind packet = report at cases ⊢
  cases cases with
  | closed | busy => exact owes
  | accepted isOpen => exact ⟨owes.line, owes.reading, fun _ => isOpen, fun _ => .inl rfl⟩

/-- A control of the line keeps the account. -/
theorem Owes.control (owes : transport.Owes reopened) (control : MemoryLine.Control) :
    (transport.perform (.line control)).state.Owes reopened := by
  cases control with
  | completeSend =>
    show Owes reopened { transport with line := transport.line.control .completeSend }
    unfold MemoryLine.control
    cases sending : transport.line.sending <;>
      exact owes.congr rfl rfl rfl rfl (by simp [sending])
  | inject | completeSends | failOpen | failPoll => exact owes.congr rfl rfl rfl rfl Iff.rfl

/-- Every action but a completion that the line has not reported keeps the account. -/
theorem Owes.perform (owes : transport.Owes reopened) {action : Action MemoryLine.Control}
    (indirect : action.isDirect = false) :
    (transport.perform action).state.Owes
      (reopened ∨ Occurrence.ReopensSending ⟨transport, action⟩) := by
  rcases action with operation | control
  · cases operation with
    | init config => cases config <;> exact (owes.mono Or.inl).congr rfl rfl rfl rfl Iff.rfl
    | openLine => exact owes.openLine
    | close =>
      refine ⟨rfl, rfl, ?_, ?_⟩
      · show false = true → false = true
        exact id
      · show SendProgress.idle ≠ .idle → _
        exact fun pending => absurd rfl pending
    | setBaudrate | register => exact (owes.mono Or.inl).congr rfl rfl rfl rfl Iff.rfl
    | send kind packet => exact (owes.send kind packet).mono Or.inl
    | poll => exact owes.poll.mono Or.inl
    | drain =>
      refine Owes.mono ?_ Or.inl
      exact drainWithin_invariant (motive := fun _ next => next.Owes reopened) _ _ owes
        fun _ _ before => before.poll
    | complete => cases indirect
  · exact (owes.control control).mono Or.inl

/-! ## A whole run -/

/-- What holds after a run: the account of unanswered requests, and where requests have
overlapped. -/
structure Overlaps (past : List (Occurrence MemoryLine MemoryLine.Control))
    (now : Transport MemoryLine) : Prop where
  owes : now.Owes (∃ reopening ∈ past, reopening.ReopensSending)
  receives : ∀ occurrence ∈ past, occurrence.OverlapsReceive ↔
    occurrence.opens = true ∧ occurrence.before.isOpen = true
  sends : ∀ earlier occurrence, earlier ++ [occurrence] <+: past → occurrence.OverlapsSend →
    ∃ reopening ∈ earlier, reopening.ReopensSending

/-- Every action but a completion that the line has not reported goes on with the account. -/
theorem Overlaps.perform {past : List (Occurrence MemoryLine MemoryLine.Control)}
    {now : Transport MemoryLine} (overlaps : Overlaps past now)
    {action : Action MemoryLine.Control} (indirect : action.isDirect = false) :
    Overlaps (past ++ [⟨now, action⟩]) (now.perform action).state := by
  obtain ⟨owes, receives, sends⟩ := overlaps
  refine ⟨?owes, ?receives, ?sends⟩
  case owes =>
    refine (owes.perform indirect).mono ?_
    rintro (⟨reopening, member, reopens⟩ | reopens)
    · exact ⟨reopening, List.mem_append_left _ member, reopens⟩
    · exact ⟨_, List.mem_append_right _ (List.mem_singleton_self _), reopens⟩
  case receives =>
    refine List.forall_mem_append.mpr ⟨receives, List.forall_mem_singleton.mpr ?_⟩
    rw [Occurrence.overlapsReceive_iff indirect, owes.reading]
  case sends =>
    intro earlier occurrence within overlaps
    rcases List.prefix_concat_iff.mp within with whole | before
    · -- the packet was accepted, so the gate was open while the line had a send
      obtain ⟨rfl, last⟩ := List.append_inj' whole rfl
      obtain rfl := List.singleton_inj.mp last
      obtain ⟨_, _, inactive, pending⟩ := (Occurrence.overlapsSend_iff indirect).mp overlaps
      rcases owes.sending pending with active | reopened
      · cases inactive.symm.trans active
      · exact reopened
    · exact sends earlier occurrence before overlaps

/-- The line of a new transport owes nothing. -/
theorem overlaps_new (buffer : ReceiveBuffer) : Overlaps [] (.new {} buffer) where
  owes := ⟨rfl, rfl, nofun, fun pending => absurd rfl pending⟩
  receives := List.forall_mem_nil _
  sends earlier occurrence within := by
    cases List.append_eq_nil_iff.mp (List.prefix_nil.mp within) with
    | intro _ empty => cases empty

/-- Requests overlap only when a transport is opened anew.

A request to receive overlaps another exactly at a successful opening of an open transport.
A request to send overlaps another only after such an opening with a packet in flight.  So a
host that opens its transport only while it is closed never has two requests of one kind
outstanding. -/
theorem overlaps_only_after_reopening (buffer : ReceiveBuffer)
    {actions : List (Action MemoryLine.Control)}
    (indirect : ∀ action ∈ actions, action.isDirect = false) :
    let past := (new ({} : MemoryLine) buffer).transcript actions
    (∀ occurrence ∈ past, occurrence.OverlapsReceive ↔
        occurrence.opens = true ∧ occurrence.before.isOpen = true) ∧
      (∀ earlier occurrence, earlier ++ [occurrence] <+: past → occurrence.OverlapsSend →
        ∃ reopening ∈ earlier, reopening.ReopensSending) ∧
      ((∀ occurrence ∈ past, occurrence.opens = true → occurrence.before.isOpen = false) →
        ∀ occurrence ∈ past, ¬ occurrence.OverlapsReceive ∧ ¬ occurrence.OverlapsSend) := by
  intro past
  have allowed : ∀ occurrence ∈ past, occurrence.action.isDirect = false :=
    forall_mem_transcript (fun action => action.isDirect = false) indirect
  obtain ⟨_, receives, sends⟩ := transcript_invariant Overlaps _ allowed (overlaps_new buffer)
    fun _ _ _ overlaps indirect => overlaps.perform indirect
  refine ⟨receives, sends, fun closed occurrence member => ⟨?_, ?_⟩⟩
  · rw [receives occurrence member]
    rintro ⟨opens, isOpen⟩
    cases (closed occurrence member opens).symm.trans isOpen
  · intro overlaps
    obtain ⟨earlier, later, whole⟩ := List.append_of_mem member
    have within : earlier ++ [occurrence] <+: past :=
      ⟨later, by rw [whole, List.append_assoc, List.singleton_append]⟩
    obtain ⟨reopening, before, opens, isOpen, _⟩ := sends earlier occurrence within overlaps
    have inPast : reopening ∈ past := within.subset (List.mem_append_left _ before)
    cases (closed reopening inPast opens).symm.trans isOpen

/-- A run that sends, closes, opens and sends again. -/
def closedBetween : List (Action MemoryLine.Control) :=
  let packet := OutgoingPacket.ofPayload [0x03, 0x0C, 0x00]
  [.host (.init (.serial {})), .line (.completeSends false), .host .openLine,
    .host (.send .command packet), .host .close, .host .openLine, .host (.send .command packet)]

/-- Closing in between keeps requests apart. -/
theorem closedBetween_apart :
    let past := (new ({} : MemoryLine) .default).transcript closedBetween
    (∀ action ∈ closedBetween, action.isDirect = false) ∧
      ∀ occurrence ∈ past, ¬ occurrence.OverlapsReceive ∧ ¬ occurrence.OverlapsSend := by
  intro past
  have indirect : ∀ action ∈ closedBetween, action.isDirect = false := by
    simp [closedBetween, Action.isDirect]
  have closed : (past.all fun occurrence => !occurrence.opens || !occurrence.before.isOpen) =
      true := by rfl
  refine ⟨indirect, (overlaps_only_after_reopening .default indirect).2.2 ?_⟩
  intro occurrence member opens
  simpa [opens] using List.all_eq_true.mp closed occurrence member

/-- A run that sends, opens anew and sends again. -/
def reopenedBetween : List (Action MemoryLine.Control) :=
  let packet := OutgoingPacket.ofPayload [0x03, 0x0C, 0x00]
  [.host (.init (.serial {})), .line (.completeSends false), .host .openLine,
    .host (.send .command packet), .host .openLine, .host (.send .command packet)]

/-- Opening anew makes requests of both kinds overlap. -/
theorem reopenedBetween_overlaps :
    let past := (new ({} : MemoryLine) .default).transcript reopenedBetween
    (∀ action ∈ reopenedBetween, action.isDirect = false) ∧
      (∃ occurrence ∈ past, occurrence.OverlapsReceive) ∧
      ∃ occurrence ∈ past, occurrence.OverlapsSend := by
  refine ⟨by simp [reopenedBetween, Action.isDirect], ?_, ?_⟩
  · exact ⟨_, List.mem_of_getElem? (i := 4) rfl,
      (Occurrence.overlapsReceive_iff rfl).mpr ⟨rfl, rfl⟩⟩
  · exact ⟨_, List.mem_of_getElem? (i := 5) rfl,
      (Occurrence.overlapsSend_iff rfl).mpr ⟨⟨_, _, rfl⟩, rfl, rfl, of_decide_eq_true rfl⟩⟩

end Transport

end HciSerial
