import HciSerial.Proofs.Transport.Reception

/-!
# Draining without sends and failures

While no send is under way and no failure has been set up, a drain of a line in memory
succeeds, and it reports nothing but the receive side and minor log records.

## Main Definitions

* `Transport.Calm`: no send is under way and no failure has been set up.
* `Transport.Event.IsMild`: an event of the receive side, or a log record below errors.

## Main Results

* `Transport.Calm.poll`, `Transport.Calm.drains`: a poll and a drain.
* `Transport.packets_of_isMild`, `Transport.errors_of_isMild`: what is seen of mild events.
-/

namespace HciSerial.Transport

/-- No send is under way and no failure has been set up. -/
structure Calm (transport : Transport MemoryLine) : Prop where
  idle : transport.line.sending = .idle
  unarmed : transport.line.failNextPoll = none

/-- An event that tells of the receive side, or a log record below the level of errors. -/
def Event.IsMild (event : Event) : Prop :=
  event.isFraming = true ∨ ∃ record : Log.Record, event = .logged record ∧ record.level ≠ .error

/-- Asking for a block is reported by mild events. -/
theorem isMild_of_mem_requestNext {transport : Transport MemoryLine} {event : Event}
    (member : event ∈ transport.requestNext.events) : event.IsMild := by
  simp only [requestNext, SerialLine.receive, MemoryLine.receive] at member
  split at member
  · obtain rfl := List.mem_singleton.mp member
    exact .inr ⟨_, rfl, by simp [MemoryLine.record]⟩
  · cases member

/-- A block is reported by mild events. -/
theorem isMild_of_mem_blockReceived {transport : Transport MemoryLine} {block : List UInt8}
    {event : Event} (member : event ∈ (transport.blockReceived block).events) : event.IsMild := by
  unfold blockReceived at member
  rcases List.mem_append.mp member with now | asked
  · generalize (transport.framer.receive block).1 = verdict at now
    rcases verdict with error | _ | packet
    · obtain rfl := List.mem_singleton.mp now
      exact .inl (beq_self_eq_true faultMessage)
    · cases now
    · rcases List.mem_cons.mp now with rfl | given
      · exact .inr ⟨_, rfl, nofun⟩
      · obtain rfl := List.mem_singleton.mp given
        exact .inl rfl
  · exact isMild_of_mem_requestNext asked

/-- Without sends and failures, a poll succeeds, reports mild events and stays calm. -/
theorem Calm.poll {transport : Transport MemoryLine} (calm : transport.Calm) :
    transport.poll.state.Calm ∧ (∀ event ∈ transport.poll.events, event.IsMild) ∧
      ∃ found, transport.poll.value = .ok found := by
  have cases := polled transport
  generalize transport.poll = report at cases ⊢
  cases cases with
  | closed | quiet => exact ⟨calm, by simp, false, rfl⟩
  | failed _ armed => cases armed.symm.trans calm.unarmed
  | sent _ _ ready => cases ready.symm.trans calm.idle
  | received =>
    exact ⟨⟨calm.idle, calm.unarmed⟩, fun _ => isMild_of_mem_blockReceived, true, rfl⟩

/-- Without sends and failures, a drain succeeds and reports mild events. -/
theorem Calm.drains {transport : Transport MemoryLine} (calm : transport.Calm)
    {report : Report MemoryLine (Except TransportError Nat)} (drains : Drains transport report) :
    (∀ event ∈ report.events, event.IsMild) ∧ ∃ count, report.value = .ok count := by
  induction drains with
  | quiet => exact ⟨calm.poll.2.1, 0, rfl⟩
  | failed failure =>
    obtain ⟨_, _, found, ok⟩ := calm.poll
    cases failure.symm.trans ok
  | more _ _ ih =>
    obtain ⟨after, mild, _⟩ := calm.poll
    obtain ⟨mildLater, count, ok⟩ := ih after
    refine ⟨?_, count + 1, by rw [ok]; rfl⟩
    intro event member
    rcases List.mem_append.mp member with now | later
    · exact mild event now
    · exact mildLater event later

/-- An observer that overlooks log records below the level of errors sees only the receive
side among mild events. -/
theorem filterMap_of_isMild {α : Type} {observe : Event → Option α}
    (overlooked : ∀ record : Log.Record, record.level ≠ .error → observe (.logged record) = none)
    {events : List Event} (mild : ∀ event ∈ events, event.IsMild) :
    events.filterMap observe = (framing events).filterMap observe := by
  rw [framing, List.filterMap_filter]
  refine List.filterMap_congr fun event member => ?_
  rcases mild event member with framed | ⟨record, rfl, quiet⟩
  · rw [if_pos framed]
  · rw [overlooked record quiet, ite_self]

/-- Among mild events, only those of the receive side give packets to the handler. -/
theorem packets_of_isMild {events : List Event} (mild : ∀ event ∈ events, event.IsMild) :
    events.filterMap Event.packet? = (framing events).filterMap Event.packet? :=
  filterMap_of_isMild (fun _ _ => rfl) mild

/-- Among mild events, only those of the receive side are logged as errors. -/
theorem errors_of_isMild {events : List Event} (mild : ∀ event ∈ events, event.IsMild) :
    (events.filterMap Event.record?).filter (·.level = .error) =
      ((framing events).filterMap Event.record?).filter (·.level = .error) := by
  rw [List.filter_filterMap, List.filter_filterMap]
  refine filterMap_of_isMild ?_ mild
  intro record quiet
  rw [Event.record?, Option.filter_some, if_neg (by simpa using quiet)]

end HciSerial.Transport
