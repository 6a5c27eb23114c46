import HciSerial.Proofs.Command.Send
import HciSerial.Proofs.Text.Duration
import HciSerial.Host.Offline
import HciSerial.Host.Simulated

/-!
# Timeouts of senders

Which texts are accepted as timeouts, and which of the accepted ones a sender can wait for.

## Main Definitions

* `Clock.Reading`: what a clock shows whose seconds are a signed machine word.
* `Clock.Reading.later?`: what it shows after a span of time, if it can show that.
* `Send.handOver`: the part of a sending that ends when the packet has been handed over.

## Main Results

* `Duration.parse_reads_spans`: the accepted timeouts, what they stand for, and how a sender
  ends that is given another one.
* `Clock.Reading.later?_eq_some_iff`, `Clock.Reading.later?_eq_none_iff`: what comes later is
  shown exactly if it is below the end of the clock.
* `send_eq`: handing over, then waiting.
* `Send.deadline_of_timeout`: which accepted timeouts end where the clock can follow, and how a
  sender ends with one that does not.

## Design Notes

The seconds of a timeout are an unsigned machine word, those of the clock a signed one.  They
meet only when the packet has been handed over, so a timeout that is too long for the clock is
found out too late to be refused.
-/

namespace HciSerial

/-! ## Refused timeouts -/

theorem send_of_untimed {W : Type} [Host W] {choice : SendChoice} {error : Duration.Error}
    (untimed : Duration.parse choice.timeout = .error error) (fuel : Nat)
    (format : ListingFormat) (world : W) :
    send fuel choice format world = (.failed ⟨.usage, error.message⟩, world) := by
  unfold send Send.prepare
  rw [untimed]

namespace Duration

/-- The accepted texts are numbers with units, and blanks around them.

A text is read exactly if it is, between blanks, an optional plus sign, digits whose number is
at least one and a machine word, and the unit `ms`, `s` or none; it is read as so many
milliseconds or seconds.  A span of time that is read is longer than nothing, and its seconds
and nanoseconds are in their ranges.  On every other text a sender fails as wrongly used and
touches nothing. -/
theorem parse_reads_spans (text : String) :
    (∀ duration, parse text = .ok duration ↔ Reads text.toList duration) ∧
      (∀ duration, parse text = .ok duration →
        0 < duration.total ∧ duration.seconds < 2 ^ 64 ∧ duration.nanoseconds < 10 ^ 9) ∧
      ((∀ duration, ¬ Reads text.toList duration) → ∃ error, parse text = .error error ∧
        ∀ (W : Type) [Host W] (fuel : Nat) (choice : SendChoice) (format : ListingFormat)
          (world : W), choice.timeout = text →
            send fuel choice format world = (.failed ⟨.usage, error.message⟩, world)) := by
  refine ⟨fun _ => parse_eq_ok_iff, ?_, ?_⟩
  · intro duration read
    obtain ⟨_, _, _, _, _, denotes⟩ := parse_eq_ok_iff.mp read
    exact denotes.range
  · intro foreign
    cases result : parse text with
    | ok duration => exact absurd (parse_eq_ok_iff.mp result) (foreign duration)
    | error error =>
      refine ⟨error, rfl, ?_⟩
      rintro W _ fuel choice format world rfl
      exact send_of_untimed result fuel format world

/-- A sign, zeros and blanks are accepted in front of a number, and a second unit behind it is
not. -/
theorem parse_signed_milliseconds :
    parse "\u2003+007ms " = .ok ⟨0, 7000000⟩ ∧
      Reads "\u2003+007ms ".toList ⟨0, 7000000⟩ ∧ 0 < total ⟨0, 7000000⟩ ∧
      (∀ duration, ¬ Reads "5mss".toList duration) ∧
      send 10 ⟨{ device := "/dev/pts/0" }, .command, "030c00", false, "5mss"⟩ .table
          ({} : OfflineHost) = (.failed ⟨.usage, "invalid duration value: 5mss"⟩, {}) := by
  obtain ⟨reads, ranges, -⟩ := parse_reads_spans "\u2003+007ms "
  obtain ⟨readsTwice, -, refuses⟩ := parse_reads_spans "5mss"
  have accepted : parse "\u2003+007ms " = .ok ⟨0, 7000000⟩ := by decide +kernel
  have refused : parse "5mss" = .error (.invalid "5mss") := by decide +kernel
  have foreign : ∀ duration, ¬ Reads "5mss".toList duration := by
    intro duration read
    cases refused.symm.trans ((readsTwice duration).mpr read)
  obtain ⟨error, result, ends⟩ := refuses foreign
  cases refused.symm.trans result
  exact ⟨accepted, (reads _).mp accepted, (ranges _ accepted).1, foreign,
    ends OfflineHost 10 _ .table {} rfl⟩

end Duration

/-! ## What a clock shows -/

namespace Clock

/-- What a clock shows whose seconds are a signed machine word and count from zero. -/
@[ext]
structure Reading where
  seconds : Nat
  nanoseconds : Nat
  seconds_lt : seconds < 2 ^ 63
  nanoseconds_lt : nanoseconds < 10 ^ 9

namespace Reading

/-- The time in nanoseconds. -/
def total (reading : Reading) : Nat :=
  reading.seconds * 10 ^ 9 + reading.nanoseconds

/-- Seconds and nanoseconds, if a clock can show them. -/
def ofParts? (seconds nanoseconds : Nat) : Option Reading :=
  if shown : seconds < 2 ^ 63 ∧ nanoseconds < 10 ^ 9 then
    some ⟨seconds, nanoseconds, shown.1, shown.2⟩
  else none

/-- What the clock shows after a span of time, if it can show that: seconds and nanoseconds are
added, and a second is carried over. -/
def later? (reading : Reading) (span : Duration) : Option Reading :=
  let seconds := reading.seconds + span.seconds
  let nanoseconds := reading.nanoseconds + span.nanoseconds
  if nanoseconds < 10 ^ 9 then ofParts? seconds nanoseconds
  else ofParts? (seconds + 1) (nanoseconds - 10 ^ 9)

variable {reading later : Reading} {span : Duration}

theorem clockLimit_eq : clockLimit = 2 ^ 63 * 10 ^ 9 := by decide +kernel

theorem total_injective : Function.Injective total := by
  intro first second same
  have firstPart := first.nanoseconds_lt
  have secondPart := second.nanoseconds_lt
  simp only [total] at same
  ext <;> omega

/-- What a clock shows is below its end. -/
theorem total_lt (reading : Reading) : reading.total < clockLimit := by
  have seconds := reading.seconds_lt
  have part := reading.nanoseconds_lt
  rw [clockLimit_eq, total]
  omega

/-- Parts that are shown are shown as their time. -/
theorem total_of_ofParts? {seconds nanoseconds : Nat}
    (shown : ofParts? seconds nanoseconds = some later) :
    later.total = seconds * 10 ^ 9 + nanoseconds := by
  unfold ofParts? at shown
  split at shown
  case isTrue =>
    cases shown
    rfl
  case isFalse => cases shown

/-- Parts whose nanoseconds are less than a second are shown unless their time is beyond the end
of the clock. -/
theorem ofParts?_eq_none_iff {seconds nanoseconds : Nat} (fraction : nanoseconds < 10 ^ 9) :
    ofParts? seconds nanoseconds = none ↔ clockLimit ≤ seconds * 10 ^ 9 + nanoseconds := by
  rw [clockLimit_eq]
  unfold ofParts?
  split
  case isTrue shown =>
    have seconds := shown.1
    constructor
    · nofun
    · omega
  case isFalse hidden =>
    have many : 2 ^ 63 ≤ seconds := Nat.le_of_not_lt fun below => hidden ⟨below, fraction⟩
    refine iff_of_true rfl ?_
    omega

/-- What is shown later is the sum of both times. -/
theorem total_of_later? (shown : reading.later? span = some later) :
    later.total = reading.total + span.total := by
  simp only [later?] at shown
  split at shown
  case isTrue =>
    rw [total_of_ofParts? shown, total, Duration.total]
    omega
  case isFalse carried =>
    rw [total_of_ofParts? shown, total, Duration.total]
    have fits := Nat.le_of_not_lt carried
    omega

/-- Nothing is shown later exactly if the sum of both times is beyond the end of the clock. -/
theorem later?_eq_none_iff (fraction : span.nanoseconds < 10 ^ 9) :
    reading.later? span = none ↔ clockLimit ≤ reading.total + span.total := by
  have part := reading.nanoseconds_lt
  unfold later?
  simp only [total, Duration.total]
  split
  case isTrue carried =>
    rw [ofParts?_eq_none_iff carried]
    omega
  case isFalse =>
    rw [ofParts?_eq_none_iff (by omega)]
    omega

/-- A reading is shown later exactly if its time is the sum of both times. -/
theorem later?_eq_some_iff (fraction : span.nanoseconds < 10 ^ 9) :
    reading.later? span = some later ↔ later.total = reading.total + span.total := by
  constructor
  · exact total_of_later?
  · intro sum
    cases result : reading.later? span with
    | none =>
      have beyond := (later?_eq_none_iff fraction).mp result
      exact absurd later.total_lt (Nat.not_lt.mpr (sum ▸ beyond))
    | some other =>
      have same : other.total = later.total := (total_of_later? result).trans sum.symm
      rw [total_injective same]

end Reading

end Clock

/-! ## Handing over and waiting -/

namespace Send

variable {W : Type} [Host W]

/-- Opens the line and hands the packet over: the timeout and the session in which its completion
is to be awaited, or how the sender fails. -/
def handOver (choice : SendChoice) (world : W) :
    Except (CommandFailure × W) (Duration × Session W) :=
  match prepare choice with
  | .error failure => .error (failure, world)
  | .ok (timeout, packet) =>
    match Session.start choice.line.setup world with
    | (.error failure, session) => .error (failure, session.world)
    | (.ok (), session) =>
      match session.send packet.kind (.ofPayload packet.data) with
      | (.error error, session) => .error (.ofTransport "send failed" error, session.world)
      | (.ok (), session) => .ok (timeout, session)

/-- The timeout of a sender that has handed over its packet is the one that it was given. -/
theorem parse_of_handOver {choice : SendChoice} {world : W} {timeout : Duration}
    {session : Session W} (handed : handOver choice world = .ok (timeout, session)) :
    Duration.parse choice.timeout = .ok timeout := by
  unfold handOver at handed
  cases prepared : prepare choice with
  | error =>
    rw [prepared] at handed
    cases handed
  | ok result =>
    obtain ⟨time, packet⟩ := result
    rw [prepared] at handed
    simp only at handed
    generalize Session.start choice.line.setup world = started at handed
    obtain ⟨_ | _, opened⟩ := started
    · cases handed
    · simp only at handed
      generalize opened.send packet.kind (.ofPayload packet.data) = sent at handed
      obtain ⟨_ | _, waiting⟩ := sent
      · cases handed
      · cases handed
        exact (prepare_eq_ok prepared).1

/-- A sender that waits never finds the clock at its end. -/
theorem loop_ne_clockOverflow (format : ListingFormat) (timeout : Duration) (deadline fuel : Nat)
    (waiter : Waiter) (session : Session W) :
    (loop format timeout deadline fuel waiter session).1 ≠ .clockOverflow := by
  induction fuel generalizing waiter session with
  | zero => nofun
  | succ fuel ih =>
    rw [loop_succ]
    generalize session.poll = polled
    obtain ⟨_ | _, session⟩ := polled
    · nofun
    · simp only
      generalize acceptAll format session.queue waiter session.takeQueue.2 = accepted
      obtain ⟨waiter, session⟩ := accepted
      unfold settle
      split
      · generalize session.finish = finished
        obtain ⟨_ | _, world⟩ := finished <;> nofun
      · split
        · nofun
        · exact ih waiter session.now.2

end Send

/-- A sender hands its packet over, reads the clock and waits. -/
theorem send_eq {W : Type} [Host W] (fuel : Nat) (choice : SendChoice) (format : ListingFormat)
    (world : W) :
    send fuel choice format world =
      match Send.handOver choice world with
      | .error (failure, world) => (.failed failure, world)
      | .ok (timeout, session) =>
        Send.waitFrom fuel choice.waits format timeout session.now.1 session.now.2 := by
  unfold send Send.handOver
  generalize Send.prepare choice = prepared
  rcases prepared with failure | ⟨timeout, packet⟩
  · rfl
  · simp only
    generalize Session.start choice.line.setup world = started
    obtain ⟨failure | _, opened⟩ := started
    · rfl
    · simp only [Send.transmit_eq]
      generalize opened.send packet.kind (.ofPayload packet.data) = sent
      obtain ⟨error | _, waiting⟩ := sent <;> rfl

namespace Send

variable {W : Type} [Host W]

/-- A sender whose deadline the clock can show waits until then, and any other one is aborted. -/
theorem waitFrom_of_reading {timeout : Duration} (fraction : timeout.nanoseconds < 10 ^ 9)
    (fuel : Nat) (waits : Bool) (format : ListingFormat) (reading : Clock.Reading)
    (session : Session W) :
    waitFrom fuel waits format timeout reading.total session =
      match reading.later? timeout with
      | none => (.clockOverflow, session.world)
      | some deadline => loop format timeout deadline.total fuel { waits } session := by
  unfold waitFrom
  cases result : reading.later? timeout with
  | none => rw [if_pos ((Clock.Reading.later?_eq_none_iff fraction).mp result)]
  | some deadline =>
    have sum := Clock.Reading.total_of_later? result
    rw [← sum, if_neg (Nat.not_le.mpr deadline.total_lt)]

/-- An accepted timeout can be waited for exactly if the clock can show when it is over.

From every reading of the clock, the deadline is shown exactly if it is below the end of the
clock.  So it is whenever the seconds leave room for one more, and never if those of the timeout
alone exceed a signed machine word.  A sender that fails before its packet has been handed over
is not aborted.  One that has handed it over waits until its deadline and is not aborted either,
or there is no deadline: then it is aborted there and then, with the packet handed over and
nothing done about it. -/
theorem deadline_of_timeout {text : String} {timeout : Duration}
    (accepted : Duration.parse text = .ok timeout) :
    (∀ reading : Clock.Reading,
      (∀ deadline, reading.later? timeout = some deadline ↔
        deadline.total = reading.total + timeout.total) ∧
      (reading.later? timeout = none ↔ clockLimit ≤ reading.total + timeout.total) ∧
      (reading.seconds + timeout.seconds + 1 < 2 ^ 63 → (reading.later? timeout).isSome) ∧
      (2 ^ 63 ≤ timeout.seconds → reading.later? timeout = none)) ∧
    ∀ (W : Type) [Host W] (fuel : Nat) (choice : SendChoice) (format : ListingFormat) (world : W),
      choice.timeout = text →
        (∀ failure, handOver choice world = .error failure →
          send fuel choice format world = (.failed failure.1, failure.2)) ∧
        (∀ time session, handOver choice world = .ok (time, session) → time = timeout ∧
          ∀ reading : Clock.Reading, session.now.1 = reading.total →
            (reading.later? timeout = none →
              send fuel choice format world = (.clockOverflow, session.now.2.world)) ∧
            ∀ deadline, reading.later? timeout = some deadline →
              send fuel choice format world =
                loop format timeout deadline.total fuel { waits := choice.waits }
                  session.now.2 ∧
              (send fuel choice format world).1 ≠ .clockOverflow) := by
  obtain ⟨_, _, _, _, _, denotes⟩ := Duration.parse_eq_ok_iff.mp accepted
  have fraction := denotes.range.2.2
  constructor
  · intro reading
    have none := @Clock.Reading.later?_eq_none_iff reading timeout fraction
    refine ⟨fun _ => Clock.Reading.later?_eq_some_iff fraction, none, ?_, ?_⟩
    · intro room
      rw [Option.isSome_iff_ne_none, ne_eq, none, Clock.Reading.clockLimit_eq]
      have part := reading.nanoseconds_lt
      simp only [Clock.Reading.total, Duration.total]
      omega
    · intro excess
      rw [none, Clock.Reading.clockLimit_eq]
      simp only [Duration.total]
      omega
  · rintro W _ fuel choice format world rfl
    have whole := send_eq fuel choice format world
    constructor
    · intro failure failed
      rw [whole, failed]
    · intro time session handed
      cases (parse_of_handOver handed).symm.trans accepted
      refine ⟨rfl, fun reading shown => ?_⟩
      rw [handed] at whole
      simp only [shown, waitFrom_of_reading fraction] at whole
      constructor
      · intro none
        rw [whole, none]
      · intro deadline some
        rw [whole, some]
        exact ⟨rfl, loop_ne_clockOverflow _ _ _ _ _ _⟩

/-- A host with a terminal at whose far end nobody acts. -/
def silentHost : SimulatedHost := { terminal := some {} }

/-- A reset command that is to be sent within the time of a text. -/
def resetWithin (text : String) : SendChoice where
  line := { device := "/dev/pts/0" }
  kind := .command
  hex := "03 0c 00"
  timeout := text

/-- A session is handed over if its timeout and the instant that its clock shows are known. -/
theorem handOver_of_shown {choice : SendChoice} {world : W} {timeout : Duration} {instant : Nat}
    (shown : (handOver choice world).toOption.map (fun (time, session) =>
      (time, session.now.1)) = some (timeout, instant)) :
    ∃ session, handOver choice world = .ok (timeout, session) ∧ session.now.1 = instant := by
  cases handed : handOver choice world with
  | error failure =>
    rw [handed] at shown
    cases shown
  | ok result =>
    obtain ⟨time, session⟩ := result
    rw [handed] at shown
    obtain ⟨rfl, clock⟩ := Prod.mk.inj (Option.some.inj shown)
    exact ⟨session, rfl, clock⟩

/-- When two seconds are over is shown, and a sender that is given them waits until then. -/
theorem deadline_two_seconds :
    Duration.parse "2s" = .ok ⟨2, 0⟩ ∧
      (∃ session, handOver (resetWithin "2s") silentHost = .ok (⟨2, 0⟩, session) ∧
        session.now.1 = 0 ∧
        send 10 (resetWithin "2s") .table silentHost =
          loop .table ⟨2, 0⟩ 2000000000 10 { waits := false } session.now.2) ∧
      (send 10 (resetWithin "2s") .table silentHost).1 = .success := by
  have accepted : Duration.parse "2s" = .ok ⟨2, 0⟩ := by decide +kernel
  obtain ⟨deadlines, sends⟩ := deadline_of_timeout accepted
  let start : Clock.Reading := ⟨0, 0, by decide, by decide⟩
  let deadline : Clock.Reading := ⟨2, 0, by decide, by decide⟩
  have origin : start.total = 0 := by decide +kernel
  have time : deadline.total = 2000000000 := by decide +kernel
  have sum : deadline.total = start.total + Duration.total ⟨2, 0⟩ := by decide +kernel
  have shown : start.later? ⟨2, 0⟩ = some deadline := ((deadlines start).1 deadline).mpr sum
  obtain ⟨session, handed, zero⟩ :=
    @handOver_of_shown _ _ (resetWithin "2s") silentHost ⟨2, 0⟩ 0 (by decide +kernel)
  obtain ⟨-, waits⟩ := sends SimulatedHost 10 (resetWithin "2s") .table silentHost rfl
  obtain ⟨-, ends⟩ := waits ⟨2, 0⟩ session handed
  have waiting := ((ends start (zero.trans origin.symm)).2 deadline shown).1
  rw [time] at waiting
  exact ⟨accepted, ⟨session, handed, zero, waiting⟩, by decide +kernel⟩

/-- The greatest timeout is accepted, but no clock shows when it is over: a sender that is given
it has handed its packet over when it is aborted, and nothing has been written. -/
theorem deadline_beyond_clock :
    Duration.parse "18446744073709551615s" = .ok ⟨18446744073709551615, 0⟩ ∧
      (∀ reading : Clock.Reading, reading.later? ⟨18446744073709551615, 0⟩ = none) ∧
      (∃ session, handOver (resetWithin "18446744073709551615s") silentHost =
        .ok (⟨18446744073709551615, 0⟩, session) ∧ session.now.1 = 0) ∧
      let (outcome, after) := send 10 (resetWithin "18446744073709551615s") .table silentHost
      outcome = .clockOverflow ∧ outcome.exitNumber = 101 ∧
        after.terminal.map PseudoTerminal.toPeer = some [] := by
  refine ⟨by decide +kernel, ?_, handOver_of_shown (by decide +kernel), by decide +kernel⟩
  intro reading
  rw [Clock.Reading.later?_eq_none_iff (by decide), Clock.Reading.clockLimit_eq]
  simp only [Duration.total]
  omega

end Send

end HciSerial
