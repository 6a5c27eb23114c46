import HciSerial.Line.Terminal
import HciSerial.Proofs.Host.Tap

/-!
# Opening and polling a terminal line

What an opening and a poll of a terminal line can do, whatever the system does.

## Main Definitions

* `TerminalLine.fetch`: one attempt to read from the device.
* `TerminalLine.Gains`: the bytes that a poll adds to the block that is being collected.
* `TerminalLine.Opened`: the two outcomes of an opening.
* `TerminalLine.Polled`: the seven things that a poll can do.

## Main Results

* `TerminalLine.opened`, `TerminalLine.polled`: there are no others.
* `TerminalLine.Gains.length_le`: a poll never collects more than was asked for.

## Design Notes

`Polled` tells what a poll leads to.  Timeouts, interruptions and failures of the system are
told apart in `fetch` alone.
-/

namespace HciSerial.TerminalLine

variable {W : Type} [TerminalSystem W]

/-! ## One attempt to read -/

/-- Waits for input and reads some bytes, at most `count`; there are none if the wait is in
vain or a call is interrupted. -/
def fetch (device timeout count : Nat) (system : W) : Except LineError (List UInt8) × W :=
  match TerminalSystem.waitReadable device (min timeout longestWait) system with
  | (.error cause, system) =>
    if cause.kind = .interrupted then (.ok [], system) else (.error (.io cause), system)
  | (.ok .timedOut, system) => (.ok [], system)
  | (.ok .hungUp, system) => (.error .closed, system)
  | (.ok .readable, system) =>
    match TerminalSystem.read device count system with
    | (.error cause, system) =>
      if cause.kind = .interrupted ∨ cause.kind = .wouldBlock then (.ok [], system)
      else (.error (.io cause), system)
    | (.ok [], system) => (.error .closed, system)
    | (.ok bytes, system) => (.ok bytes, system)

/-- An attempt to read gives at most as many bytes as it is made for. -/
theorem length_fetch_le (bounded : ReadsAtMost W) {device timeout count : Nat} {start system : W}
    {bytes : List UInt8} (gave : fetch device timeout count start = (.ok bytes, system)) :
    bytes.length ≤ count := by
  unfold fetch at gave
  generalize TerminalSystem.waitReadable device _ start = waited at gave
  rcases waited with ⟨cause | _ | _ | _, woken⟩
  case error =>
    simp only at gave
    split at gave <;> cases gave
    exact Nat.zero_le _
  case ok.timedOut =>
    cases gave
    exact Nat.zero_le _
  case ok.hungUp => cases gave
  case ok.readable =>
    have gained := bounded device count woken
    simp only at gave
    generalize TerminalSystem.read device count woken = result at gave gained
    rcases result with ⟨cause | _ | ⟨first, rest⟩, changed⟩
    · simp only at gave
      split at gave <;> cases gave
      exact Nat.zero_le _
    · cases gave
    · cases gave
      exact gained _ rfl

variable {line : TerminalLine W} {device length : Nat} {bytes : List UInt8} {system : W}

/-- Collecting is an attempt to read, and the block is handed over once it is full. -/
theorem collect_eq (short : line.collected.length < length) :
    line.collect device length =
      match fetch device line.pollTimeout (length - line.collected.length) line.system with
      | (.error error, system) => { state := { line with system }, value := .error error }
      | (.ok bytes, system) =>
        deliver { line with system, collected := line.collected ++ bytes } length := by
  have nothing (system : W) :
      deliver { line with system, collected := line.collected ++ [] } length =
        { state := { line with system }, value := .ok none } := by
    simp only [List.append_nil, deliver, short, if_true]
  unfold collect fetch
  generalize TerminalSystem.waitReadable device _ line.system = waited
  rcases waited with ⟨cause | _ | _ | _, woken⟩
  case error =>
    by_cases interrupted : cause.kind = .interrupted <;>
      simp only [interrupted, nothing, if_true, if_false]
  case ok.timedOut => exact (nothing woken).symm
  case ok.hungUp => rfl
  case ok.readable =>
    simp only
    generalize TerminalSystem.read device _ woken = result
    rcases result with ⟨cause | _ | ⟨first, rest⟩, changed⟩
    · by_cases again : cause.kind = .interrupted ∨ cause.kind = .wouldBlock <;>
        simp only [again, nothing, if_true, if_false]
    · rfl
    · rfl

/-! ## What an operation does -/

/-- The bytes that a poll adds to the block: none if it is full already, else those of one
attempt to read what is missing. -/
inductive Gains (line : TerminalLine W) (device length : Nat) : List UInt8 → W → Prop where
  | full (full : length ≤ line.collected.length) : Gains line device length [] line.system
  | fetched {bytes : List UInt8} {system : W} (short : line.collected.length < length)
      (fetched : fetch device line.pollTimeout (length - line.collected.length) line.system =
        (.ok bytes, system)) :
      Gains line device length bytes system

/-- What an opening of a terminal line can do. -/
inductive Opened (line : TerminalLine W) : Step (TerminalLine W) (Except LineError Unit) → Prop
    where
  | refused {system : W} {error : LineError} :
      Opened line { state := { line with system }, value := .error error }
  | opened {system : W} {device : Nat} {record : Log.Record}
      (message : record.message = "opened serial device") :
      Opened line {
        state := { line.dropRequests with system, device := some device }
        value := .ok ()
        records := [record] }

/-- Every opening has one of the two outcomes. -/
theorem opened (line : TerminalLine W) : Opened line line.openLine := by
  unfold openLine
  split
  · exact @Opened.refused W line line.system _
  · split
    · exact .refused
    · split
      · exact .refused
      · split
        · exact .refused
        · exact .opened rfl

/-- A change of the speed leaves all requests as they are and logs nothing. -/
theorem setBaudrate_state (rate : Nat) (line : TerminalLine W) :
    ∃ system config, (line.setBaudrate rate).state = { line with system, config } ∧
      (line.setBaudrate rate).records = [] := by
  unfold setBaudrate
  split
  · exact ⟨line.system, line.config, rfl, rfl⟩
  · split
    · exact ⟨line.system, _, rfl, rfl⟩
    · split
      · exact ⟨_, line.config, rfl, rfl⟩
      · exact ⟨_, _, rfl, rfl⟩

/-- What a poll of a terminal line can do.

A pending send comes before the receive request. -/
inductive Polled (line : TerminalLine W) :
    Step (TerminalLine W) (Except LineError (Option Completion)) → Prop where
  | closed (isClosed : line.device = none) : Polled line { state := line, value := .ok none }
  | sent {device : Nat} {block : List UInt8} {system : W} (isOpen : line.device = some device)
      (pending : line.pendingSend = some block)
      (written : writeBlock device block line.system = (.ok (), system)) :
      Polled line {
        state := { line with system, pendingSend := none }
        value := .ok (some .sent) }
  | lost {device : Nat} {block : List UInt8} {cause : IoError} {system : W}
      (isOpen : line.device = some device) (pending : line.pendingSend = some block)
      (unwritten : writeBlock device block line.system = (.error cause, system)) :
      Polled line {
        state := { line with system, pendingSend := none }
        value := .error (.io cause) }
  | unasked {device : Nat} (isOpen : line.device = some device)
      (unsent : line.pendingSend = none) (unasked : line.pendingRead = none) :
      Polled line { state := line, value := .ok none }
  | failed {device length : Nat} {error : LineError} {system : W}
      (isOpen : line.device = some device) (unsent : line.pendingSend = none)
      (asked : line.pendingRead = some length)
      (failure : fetch device line.pollTimeout (length - line.collected.length) line.system =
        (.error error, system)) :
      Polled line { state := { line with system }, value := .error error }
  | waiting {device length : Nat} {bytes : List UInt8} {system : W}
      (isOpen : line.device = some device) (unsent : line.pendingSend = none)
      (asked : line.pendingRead = some length) (gains : line.Gains device length bytes system)
      (short : (line.collected ++ bytes).length < length) :
      Polled line {
        state := { line with system, collected := line.collected ++ bytes }
        value := .ok none }
  | received {device length : Nat} {bytes : List UInt8} {system : W}
      (isOpen : line.device = some device) (unsent : line.pendingSend = none)
      (asked : line.pendingRead = some length) (gains : line.Gains device length bytes system)
      (full : length ≤ (line.collected ++ bytes).length) :
      Polled line {
        state := { line with system, pendingRead := none, collected := [] }
        value := .ok (some (.received (line.collected ++ bytes))) }

/-- Handing over what has been collected is waiting for more, or the end of the request. -/
theorem Polled.of_gains (isOpen : line.device = some device) (unsent : line.pendingSend = none)
    (asked : line.pendingRead = some length) (gains : line.Gains device length bytes system) :
    Polled line (deliver { line with system, collected := line.collected ++ bytes } length) := by
  unfold deliver
  split
  case isTrue short => exact .waiting isOpen unsent asked gains short
  case isFalse full => exact .received isOpen unsent asked gains (Nat.not_lt.mp full)

/-- Every poll is one of the seven. -/
theorem polled (line : TerminalLine W) : Polled line line.poll := by
  unfold poll
  split
  case h_1 isClosed => exact .closed isClosed
  case h_2 device isOpen =>
    split
    case h_1 block pending =>
      split
      case h_1 cause system unwritten => exact .lost isOpen pending unwritten
      case h_2 system written => exact .sent isOpen pending written
    case h_2 unsent =>
      split
      case h_1 unasked => exact .unasked isOpen unsent unasked
      case h_2 length asked =>
        split
        case isTrue short =>
          rw [collect_eq short]
          split
          case h_1 error system failure => exact .failed isOpen unsent asked failure
          case h_2 bytes system fetched =>
            exact .of_gains isOpen unsent asked (.fetched short fetched)
        case isFalse full =>
          have gains : line.Gains device length [] line.system := .full (Nat.not_lt.mp full)
          have whole := Polled.of_gains isOpen unsent asked gains
          rw [List.append_nil] at whole
          exact whole

/-- A poll never collects more than was asked for. -/
theorem Gains.length_le (gains : line.Gains device length bytes system) (bounded : ReadsAtMost W)
    (within : line.collected.length ≤ length) : (line.collected ++ bytes).length ≤ length := by
  rw [List.length_append]
  cases gains with
  | full => exact within
  | fetched short fetched =>
    have gained := length_fetch_le bounded fetched
    omega

end HciSerial.TerminalLine
