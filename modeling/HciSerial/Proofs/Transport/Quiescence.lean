import HciSerial.Proofs.Transport.Polling
import HciSerial.Proofs.Transport.Requests
import HciSerial.Proofs.Transport.Transcript

/-!
# Drains come to rest

Polling a line in memory comes to an end, whatever has been done with the transport before:
bytes that wait, sends that are ready and empty blocks are used up.  Then nothing is left to do,
unless a failure that was set up ends the drain with its first poll.

## Main Results

* `Transport.paced_perform`, `Transport.paced_after`: every action and every run leave a framer
  that wants an empty block only as a payload.
* `Transport.Drains.count_le`: every completion of a drain is paid for by the backlog.
* `Transport.Drains.failed_at_once`: a drain fails with its first poll or not at all.
* `Transport.drain_comes_to_rest`: how a drain ends after any run, and what is left to do.

## Design Notes

The backlog bounds a drain as soon as the framer is `Paced`.  Nothing is asked of the buffer,
and nothing of the request that the line holds, so completions that the line has not reported
are no exception.
-/

namespace HciSerial.Transport

/-! ## Every run -/

/-- Every action leaves a framer that wants an empty block only as a payload. -/
theorem paced_perform {transport : Transport MemoryLine} (paced : transport.framer.Paced)
    (action : Action MemoryLine.Control) : (transport.perform action).state.framer.Paced := by
  rcases action with operation | control
  · cases operation with
    | init config => cases config <;> exact paced
    | openLine =>
      have cases := opened transport
      show transport.openLine.state.framer.Paced
      generalize transport.openLine = report at cases ⊢
      cases cases with
      | unconfigured | refused => exact paced
      | opened => exact Framer.paced_reset _
    | send kind packet =>
      have cases := sent kind packet transport
      show (transport.send kind packet).state.framer.Paced
      generalize transport.send kind packet = report at cases ⊢
      cases cases <;> exact paced
    | poll => exact poll_paced paced
    | drain =>
      exact drainWithin_invariant (motive := fun _ next => next.framer.Paced) _ _ paced
        fun _ _ before => poll_paced before
    | complete completion =>
      cases completion with
      | received block => exact Framer.paced_receive _ block
      | sent => exact paced
    | close | setBaudrate | register => exact paced
  · exact paced

/-- Every run leaves a framer that wants an empty block only as a payload. -/
theorem paced_after (buffer : ReceiveBuffer) (actions : List (Action MemoryLine.Control)) :
    ((new ({} : MemoryLine) buffer).after actions).framer.Paced :=
  transcript_invariant (fun _ now => now.framer.Paced) (fun _ => True) (fun _ _ => trivial)
    (Framer.paced_reset (.new buffer)) fun _ _ action paced _ => paced_perform paced action

/-! ## One drain -/

variable {transport : Transport MemoryLine}
variable {report : Report MemoryLine (Except TransportError Nat)}

/-- A drain has no more completions than the backlog that it works off. -/
theorem Drains.count_le (drains : Drains transport report) (paced : transport.framer.Paced)
    {count : Nat} (ok : report.value = .ok count) :
    count + report.state.backlog ≤ transport.backlog := by
  induction drains generalizing count with
  | quiet nothing =>
    cases ok
    rw [poll_eq_of_nothing nothing, Nat.zero_add]
  | failed => cases ok
  | @more transport rest found _ ih =>
    have less := poll_backlog_lt paced found
    cases counted : rest.value with
    | error error =>
      simp only [counted, Except.map] at ok
      cases ok
    | ok others =>
      simp only [counted, Except.map, Except.ok.injEq] at ok
      have later := ih (poll_paced paced) counted
      show count + rest.state.backlog ≤ _
      omega

/-- Without a failure that was set up, a poll succeeds and leaves none behind. -/
theorem poll_unarmed (unarmed : transport.line.failNextPoll = none) :
    transport.poll.state.line.failNextPoll = none ∧ ∃ found, transport.poll.value = .ok found := by
  have cases := polled transport
  generalize transport.poll = report at cases ⊢
  cases cases with
  | failed _ armed => cases armed.symm.trans unarmed
  | closed | sent | received | quiet => exact ⟨unarmed, _, rfl⟩

/-- Without a failure that was set up, a drain succeeds. -/
theorem Drains.ok_of_unarmed (drains : Drains transport report)
    (unarmed : transport.line.failNextPoll = none) : ∃ count, report.value = .ok count := by
  induction drains with
  | quiet => exact ⟨0, rfl⟩
  | failed failure =>
    obtain ⟨_, found, ok⟩ := poll_unarmed unarmed
    cases failure.symm.trans ok
  | more _ _ ih =>
    obtain ⟨count, ok⟩ := ih (poll_unarmed unarmed).1
    exact ⟨count + 1, congrArg (Except.map (· + 1)) ok⟩

/-- A poll that finds a completion has met no failure that was set up. -/
theorem unarmed_of_found (found : transport.poll.value = .ok true) :
    transport.line.failNextPoll = none := by
  have cases := polled transport
  generalize transport.poll = report at cases found
  cases cases with
  | closed | failed | quiet => cases found
  | sent _ unarmed | received _ unarmed => exact unarmed

/-- A drain that fails is one poll: that of an open line with a failure that was set up, which
it uses up. -/
theorem Drains.failed_at_once (drains : Drains transport report) {error : TransportError}
    (failure : report.value = .error error) :
    transport.line.isOpen = true ∧ ∃ cause, transport.line.failNextPoll = some cause ∧
      error = .line cause ∧ report = { transport.poll with value := .error (.line cause) } ∧
      report.state.line.failNextPoll = none := by
  cases drains with
  | quiet => cases failure
  | failed failed =>
    cases failure
    have cases := polled transport
    generalize transport.poll = report at cases failed ⊢
    cases cases with
    | closed | sent | received | quiet => cases failed
    | failed isOpen armed =>
      cases failed
      exact ⟨isOpen, _, armed, rfl, rfl, rfl⟩
  | more found others =>
    -- the first poll has met no failure, so none of the others has
    obtain ⟨count, ok⟩ := others.ok_of_unarmed (poll_unarmed (unarmed_of_found found)).1
    simp only [ok, Except.map] at failure
    cases failure

/-- Draining a transport whose next poll finds nothing does nothing. -/
theorem drain_eq_of_nothing (paced : transport.framer.Paced)
    (nothing : transport.poll.value = .ok false) :
    transport.drain = { state := transport, value := .ok 0 } := by
  have drains := drains_of_paced paced
  generalize transport.drain = report at drains
  cases drains with
  | quiet => rw [poll_eq_of_nothing nothing]
  | failed failure => cases failure.symm.trans nothing
  | more found => cases found.symm.trans nothing

/-- A drain comes to rest after every run, with completions that the line has not reported and
with failures that were set up.

It ends.  If it succeeds, it has handled at most two completions for each byte that waited and
two more, and another drain finds nothing and changes nothing.  It fails only on an open line
with a failure that was set up; it is then this one poll, the failure is used up, and another
drain succeeds. -/
theorem drain_comes_to_rest (buffer : ReceiveBuffer)
    (actions : List (Action MemoryLine.Control)) :
    let now := (new ({} : MemoryLine) buffer).after actions
    Drains now now.drain ∧
      (∀ count, now.drain.value = .ok count →
        count ≤ 2 * now.line.incoming.length + 2 ∧
        now.drain.state.drain = { state := now.drain.state, value := .ok 0 }) ∧
      ∀ error, now.drain.value = .error error →
        now.line.isOpen = true ∧ ∃ cause, now.line.failNextPoll = some cause ∧
          error = .line cause ∧ now.drain = { now.poll with value := .error (.line cause) } ∧
          now.drain.state.line.failNextPoll = none ∧
          ∃ count, now.drain.state.drain.value = .ok count := by
  intro now
  have paced : now.framer.Paced := paced_after buffer actions
  have drains : Drains now now.drain := drains_of_paced paced
  have pacedAfter : now.drain.state.framer.Paced :=
    drains.invariant (motive := fun _ next => next.framer.Paced) paced
      fun _ _ before => poll_paced before
  refine ⟨drains, ?succeeded, ?failed⟩
  case succeeded =>
    intro count ok
    have bound : now.backlog ≤ 2 * now.line.incoming.length + 2 := by
      unfold backlog
      split <;> split <;> omega
    have counted := drains.count_le paced ok
    exact ⟨by omega, drain_eq_of_nothing pacedAfter (drains.nothing_of_ok ok)⟩
  case failed =>
    intro error failure
    obtain ⟨isOpen, cause, armed, same, once, unarmed⟩ := drains.failed_at_once failure
    exact ⟨isOpen, cause, armed, same, once, unarmed,
      (drains_of_paced pacedAfter).ok_of_unarmed unarmed⟩

/-- A run that leaves an event without payload unread and a packet unsent, and a header that has
been handed over without having been asked for. -/
def unsettled : List (Action MemoryLine.Control) :=
  [.host (.init (.serial {})), .host .openLine, .host (.complete (.received [0x04])),
    .host (.complete (.received [0x0E, 0x00])), .line (.inject [0x04, 0x0E, 0x00]),
    .host (.send .command (.ofPayload [0x03, 0x0C, 0x00]))]

/-- The drain handles the empty block, the bytes and the packet, and a second one handles
nothing; with a failing poll before it, the first drain is that poll. -/
theorem drain_unsettled :
    let now := (new ({} : MemoryLine) .default).after unsettled
    let failing := (new ({} : MemoryLine) .default).after
      (unsettled ++ [.line (.failPoll .closed)])
    now.drain.value = .ok 5 ∧ 5 ≤ 2 * now.line.incoming.length + 2 ∧
      now.drain.state.drain.value = .ok 0 ∧
      failing.drain.value = .error (.line .closed) ∧ failing.line.isOpen = true ∧
      ∃ count, failing.drain.state.drain.value = .ok count := by
  intro now failing
  have ok : now.drain.value = .ok 5 := by decide +kernel
  have failure : failing.drain.value = .error (.line .closed) := by decide +kernel
  obtain ⟨_, succeeded, _⟩ := drain_comes_to_rest .default unsettled
  obtain ⟨_, _, failed⟩ := drain_comes_to_rest .default (unsettled ++ [.line (.failPoll .closed)])
  obtain ⟨bound, still⟩ := succeeded 5 ok
  obtain ⟨isOpen, _, _, _, _, _, later⟩ := failed _ failure
  exact ⟨ok, bound, congrArg Report.value still, failure, isOpen, later⟩

end HciSerial.Transport
