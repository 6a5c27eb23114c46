import HciSerial.Proofs.Framing.Feed
import HciSerial.Proofs.Line.Memory
import HciSerial.Transport.Drain

/-!
# Polling and draining a line in memory

What one poll of a transport on a line in memory can do, and what a drain amounts to:
polls that each find a completion, and a last one that finds none or fails.

## Main Definitions

* `Transport.Polled`: the five things that a poll can do.
* `Transport.Drains`: repeated polling, without a bound.
* `Transport.backlog`: a bound on the polls that find something.

## Main Results

* `Transport.polled`: every poll is one of the five.
* `Transport.poll_backlog_lt`: a poll that finds something leaves less to find.
* `Transport.drains_of_paced`: the bound of a drain is never reached.
-/

namespace HciSerial.Transport

/-! ## One poll -/

/-- What a poll of a transport on a line in memory can do. -/
inductive Polled (transport : Transport MemoryLine) :
    Report MemoryLine (Except TransportError Bool) → Prop where
  | closed (isClosed : transport.line.isOpen = false) :
      Polled transport { state := transport, value := .ok false }
  | failed {error : LineError} (isOpen : transport.line.isOpen = true)
      (armed : transport.line.failNextPoll = some error) :
      Polled transport {
        state := { transport with
          line := { transport.line with failNextPoll := none, sending := .idle }
          sendActive := false }
        value := .error (.line error)
        events :=
          if transport.sendActive then
            [entry .warn "driver error, dropping packet in flight" [("err", .text error.message)]]
          else [] }
  | sent (isOpen : transport.line.isOpen = true) (unarmed : transport.line.failNextPoll = none)
      (ready : transport.line.sending = .ready) :
      Polled transport {
        state := { transport with
          line := { transport.line with sending := .idle }
          sendActive := false }
        value := .ok true
        events := [.confirmed] }
  | received {block rest : List UInt8} (isOpen : transport.line.isOpen = true)
      (unarmed : transport.line.failNextPoll = none) (unready : transport.line.sending ≠ .ready)
      (asked : transport.line.pendingRead = some block.length)
      (arrived : transport.line.incoming = block ++ rest) :
      Polled transport { blockReceived block { transport with
          line := { transport.line with pendingRead := none, incoming := rest } } with
        value := .ok true }
  | quiet (isOpen : transport.line.isOpen = true) (unarmed : transport.line.failNextPoll = none)
      (unready : transport.line.sending ≠ .ready)
      (short : ∀ length, transport.line.pendingRead = some length →
        transport.line.incoming.length < length) :
      Polled transport { state := transport, value := .ok false }

/-- Every poll of a line in memory is one of the five. -/
theorem polled (transport : Transport MemoryLine) : Polled transport transport.poll := by
  have line : MemoryLine.Polled transport.line (SerialLine.poll transport.line) :=
    transport.line.polled
  unfold poll
  generalize SerialLine.poll transport.line = step at line ⊢
  cases line with
  | closed isClosed => exact .closed isClosed
  | failed isOpen armed => exact .failed isOpen armed
  | sent isOpen unarmed ready => exact .sent isOpen unarmed ready
  | received isOpen unarmed unready asked arrived =>
    exact .received isOpen unarmed unready asked arrived
  | quiet isOpen unarmed unready short => exact .quiet isOpen unarmed unready short

/-! ## Repeated polling -/

section Drain

variable {L : Type} [SerialLine L]

/-- Polling until nothing is ready, without a bound: every poll but the last finds a
completion. -/
inductive Drains : Transport L → Report L (Except TransportError Nat) → Prop where
  | quiet {transport : Transport L} (nothing : transport.poll.value = .ok false) :
      Drains transport { transport.poll with value := .ok 0 }
  | failed {transport : Transport L} {error : TransportError}
      (failure : transport.poll.value = .error error) :
      Drains transport { transport.poll with value := .error error }
  | more {transport : Transport L} {rest : Report L (Except TransportError Nat)}
      (found : transport.poll.value = .ok true) (others : Drains transport.poll.state rest) :
      Drains transport {
        state := rest.state
        value := rest.value.map (· + 1)
        events := transport.poll.events ++ rest.events }

/-- A drain that has not used up its fuel is repeated polling. -/
theorem drains_of_drainWithin {fuel done : Nat} {transport : Transport L}
    {value : Except TransportError Nat}
    (ended : (transport.drainWithin fuel done).value = some value) :
    ∃ report, Drains transport report ∧ value = report.value.map (done + ·) ∧
      (transport.drainWithin fuel done).state = report.state ∧
      (transport.drainWithin fuel done).events = report.events := by
  induction fuel generalizing done transport value with
  | zero => cases ended
  | succ fuel ih =>
    unfold drainWithin at ended ⊢
    cases result : transport.poll.value with
    | error error =>
      simp only [result, Option.some.injEq] at ended ⊢
      exact ⟨_, .failed result, ended.symm, rfl, rfl⟩
    | ok found =>
      cases found with
      | false =>
        simp only [result, Option.some.injEq] at ended ⊢
        exact ⟨_, .quiet result, ended.symm, rfl, rfl⟩
      | true =>
        -- the fuelled drain counts from the front, the unbounded one from the back
        simp only [result] at ended ⊢
        obtain ⟨report, others, same, state, events⟩ := ih ended
        refine ⟨_, .more result others, ?_, state, by rw [events]⟩
        rw [same]
        cases report.value with
        | error error => rfl
        | ok count => simp only [Except.map, Nat.add_assoc, Nat.add_comm 1]

end Drain

/-! ## After a drain -/

section Quiet

variable {transport : Transport MemoryLine}

/-- A poll that finds nothing changes nothing. -/
theorem poll_eq_of_nothing (nothing : transport.poll.value = .ok false) :
    transport.poll = { state := transport, value := .ok false } := by
  have cases := polled transport
  generalize transport.poll = report at cases nothing ⊢
  cases cases with
  | closed | quiet => rfl
  | failed | sent | received => cases nothing

/-- A poll of a closed line does nothing. -/
theorem poll_of_closed (isClosed : transport.line.isOpen = false) :
    transport.poll = { state := transport, value := .ok false } := by
  have cases := polled transport
  generalize transport.poll = report at cases ⊢
  cases cases with
  | closed => rfl
  | failed isOpen | sent isOpen | received isOpen | quiet isOpen =>
    cases isOpen.symm.trans isClosed

/-- An open line in which a poll finds nothing has too few bytes for the pending read. -/
theorem short_of_nothing (nothing : transport.poll.value = .ok false)
    (isOpen : transport.line.isOpen = true) (length : Nat)
    (asked : transport.line.pendingRead = some length) :
    transport.line.incoming.length < length := by
  have cases := polled transport
  generalize transport.poll = report at cases nothing
  cases cases with
  | closed isClosed => cases isOpen.symm.trans isClosed
  | quiet _ _ _ short => exact short length asked
  | failed | sent | received => cases nothing

/-- After a drain that did not fail, a poll finds nothing. -/
theorem Drains.nothing_of_ok {report : Report MemoryLine (Except TransportError Nat)}
    (drains : Drains transport report) {count : Nat} (ok : report.value = .ok count) :
    report.state.poll.value = .ok false := by
  induction drains generalizing count with
  | quiet nothing =>
    rw [poll_eq_of_nothing nothing]
    exact nothing
  | failed => cases ok
  | @more _ rest _ _ ih =>
    cases counted : rest.value with
    | error error =>
      simp only [counted, Except.map] at ok
      cases ok
    | ok others => exact ih counted

/-- Draining a closed line does nothing. -/
theorem Drains.events_of_closed {report : Report MemoryLine (Except TransportError Nat)}
    (drains : Drains transport report) (isClosed : transport.line.isOpen = false) :
    report.events = [] := by
  have poll := poll_of_closed isClosed
  cases drains with
  | quiet | failed =>
    show transport.poll.events = []
    rw [poll]
  | more found =>
    rw [poll] at found
    cases found

end Quiet

/-- What every poll keeps, a drain keeps: `motive` speaks of the events so far and of the
transport after them. -/
theorem Drains.invariant {L : Type} [SerialLine L] {motive : List Event → Transport L → Prop}
    {transport : Transport L} {report : Report L (Except TransportError Nat)}
    (drains : Drains transport report) (start : motive [] transport)
    (step : ∀ events transport, motive events transport →
      motive (events ++ transport.poll.events) transport.poll.state) :
    motive report.events report.state := by
  -- stated for any events so far, since those of the first polls stand in front
  have later : ∀ events, motive events transport →
      motive (events ++ report.events) report.state := by
    clear start
    induction drains with
    | quiet | failed => exact fun events before => step events _ before
    | more _ _ ih =>
      intro events before
      rw [← List.append_assoc]
      exact ih _ (step events _ before)
  exact later [] start

/-- What every poll keeps, a drain keeps however soon its fuel runs out: `motive` speaks of
the events so far and of the transport after them. -/
theorem drainWithin_invariant {L : Type} [SerialLine L]
    {motive : List Event → Transport L → Prop} (fuel done : Nat) {transport : Transport L}
    (start : motive [] transport)
    (step : ∀ events transport, motive events transport →
      motive (events ++ transport.poll.events) transport.poll.state) :
    motive (transport.drainWithin fuel done).events (transport.drainWithin fuel done).state := by
  -- stated for any events so far, since those of the first polls stand in front
  have later : ∀ events, motive events transport →
      motive (events ++ (transport.drainWithin fuel done).events)
        (transport.drainWithin fuel done).state := by
    clear start
    induction fuel generalizing done transport with
    | zero =>
      intro events before
      rw [drainWithin, List.append_nil]
      exact before
    | succ fuel ih =>
      intro events before
      have after := step events _ before
      rw [drainWithin]
      cases transport.poll.value with
      | error error => exact after
      | ok found =>
        cases found with
        | false => exact after
        | true =>
          have whole := ih (done + 1) _ after
          rw [List.append_assoc] at whole
          exact whole
  exact later [] start

theorem poll_isOpen (transport : Transport MemoryLine) :
    transport.poll.state.isOpen = transport.isOpen ∧
      transport.poll.state.line.isOpen = transport.line.isOpen := by
  have cases := polled transport
  generalize transport.poll = report at cases ⊢
  cases cases <;> exact ⟨rfl, rfl⟩

/-- A drain neither opens nor closes. -/
theorem Drains.isOpen_eq {transport : Transport MemoryLine}
    {report : Report MemoryLine (Except TransportError Nat)} (drains : Drains transport report) :
    report.state.isOpen = transport.isOpen ∧
      report.state.line.isOpen = transport.line.isOpen := by
  refine drains.invariant (motive := fun _ next =>
    next.isOpen = transport.isOpen ∧ next.line.isOpen = transport.line.isOpen) ⟨rfl, rfl⟩ ?_
  rintro _ middle ⟨before, line⟩
  exact ⟨(poll_isOpen middle).1.trans before, (poll_isOpen middle).2.trans line⟩

/-! ## The bound of a drain -/

/-- A bound on the polls that find something before new bytes arrive: every byte counts
twice, because an empty block may follow it. -/
def backlog (transport : Transport MemoryLine) : Nat :=
  2 * transport.line.incoming.length + (if transport.line.sending = .ready then 1 else 0) +
    if transport.line.pendingRead = some 0 then 1 else 0

variable {maxPacket : Nat} {received : List UInt8}

/-- A poll keeps the framer between a boundary and the next. -/
theorem poll_holds {transport : Transport MemoryLine}
    (holds : transport.framer.Holds maxPacket received) :
    ∃ next, transport.poll.state.framer.Holds maxPacket next := by
  have cases := polled transport
  generalize transport.poll = report at cases ⊢
  cases cases with
  | @received block => exact holds.receive_any block
  | _ => exact ⟨_, holds⟩

/-- A drain keeps the framer between a boundary and the next. -/
theorem Drains.holds {transport : Transport MemoryLine}
    {report : Report MemoryLine (Except TransportError Nat)} (drains : Drains transport report)
    (holds : ∃ received, transport.framer.Holds maxPacket received) :
    ∃ received, report.state.framer.Holds maxPacket received := by
  refine drains.invariant (motive := fun _ next =>
    ∃ received, next.framer.Holds maxPacket received) holds ?_
  rintro _ middle ⟨received, before⟩
  exact poll_holds before

/-- A poll leaves a framer that wants an empty block only as a payload. -/
theorem poll_paced {transport : Transport MemoryLine} (paced : transport.framer.Paced) :
    transport.poll.state.framer.Paced := by
  have cases := polled transport
  generalize transport.poll = report at cases ⊢
  cases cases with
  | received => exact Framer.paced_receive _ _
  | closed | failed | sent | quiet => exact paced

/-- A poll that finds something leaves less to find: it takes a byte, reports a send, or
fills an empty block, and an empty block is followed by one of a byte. -/
theorem poll_backlog_lt {transport : Transport MemoryLine} (paced : transport.framer.Paced)
    (found : transport.poll.value = .ok true) :
    transport.poll.state.backlog < transport.backlog := by
  have cases := polled transport
  generalize transport.poll = report at cases found ⊢
  cases cases with
  | closed | failed | quiet => cases found
  | sent _ _ ready =>
    unfold backlog
    simp only [ready, reduceCtorEq, if_true, if_false]
    omega
  | @received block rest _ _ unready asked arrived =>
    unfold backlog
    show 2 * rest.length + (if transport.line.sending = .ready then 1 else 0) +
        (if some (transport.framer.receive block).2.wanted = some 0 then 1 else 0) < _
    rw [if_neg unready, asked, arrived, List.length_append]
    -- after an empty block one byte is awaited, so the bonus for an empty block is used up
    rcases block with _ | ⟨first, more⟩
    · rw [paced.wanted_receive_nil]
      simp
    · simp only [List.length_cons, Option.some.injEq]
      split <;> split <;> omega

/-- As long as the fuel is above the backlog, it does not run out. -/
theorem drainWithin_ends (fuel done : Nat) {transport : Transport MemoryLine}
    (paced : transport.framer.Paced) (enough : transport.backlog < fuel) :
    ∃ value, (transport.drainWithin fuel done).value = some value := by
  induction fuel generalizing done transport with
  | zero => exact absurd enough (Nat.not_lt_zero _)
  | succ fuel ih =>
    unfold drainWithin
    cases result : transport.poll.value with
    | error error => exact ⟨.error error, by simp only [result]⟩
    | ok found =>
      cases found with
      | false => exact ⟨.ok done, by simp only [result]⟩
      | true =>
        have less := poll_backlog_lt paced result
        obtain ⟨value, ended⟩ := ih (done + 1) (poll_paced paced) (by omega)
        exact ⟨value, by simp only [result, ended]⟩

/-- The bound of a drain is never reached: a drain is repeated polling. -/
theorem drains_of_paced {transport : Transport MemoryLine} (paced : transport.framer.Paced) :
    Drains transport transport.drain := by
  have enough : transport.backlog < FiniteLine.pollBound transport.line := by
    show transport.backlog < 2 * transport.line.incoming.length + 3
    unfold backlog
    split <;> split <;> omega
  obtain ⟨value, ended⟩ := drainWithin_ends _ 0 paced enough
  obtain ⟨report, others, same, state, events⟩ := drains_of_drainWithin ended
  have counted : value = report.value := by
    rw [same]
    cases report.value with
    | error error => rfl
    | ok count => simp only [Except.map, Nat.zero_add]
  have whole : transport.drain = report := by
    unfold drain
    simp only [ended, Option.getD_some, counted, state, events]
  rw [whole]
  exact others

theorem drains {transport : Transport MemoryLine}
    (holds : transport.framer.Holds maxPacket received) : Drains transport transport.drain :=
  drains_of_paced holds.paced

end HciSerial.Transport
